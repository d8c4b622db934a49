import IssueSteward.Thread

/-!
# Messages between the services and an API

The requests that are sent to an API, and what an API sends back. A network either cannot be reached
or answers from a script: each request is answered by the next reply, and when there is none left
the answer is that nothing is found.
-/

namespace IssueSteward.Rest

/-- The methods of requests. -/
inductive Method where
  /-- To read. -/
  | get
  /-- To add. -/
  | post
  /-- To remove. -/
  | delete
deriving DecidableEq, Repr

/-- The name of a method. -/
def Method.name : Method → String
  | .get => "GET"
  | .post => "POST"
  | .delete => "DELETE"

/-- What a request carries. -/
inductive Content where
  /-- The text of a comment. -/
  | comment (body : String)
  /-- The names of assignees. -/
  | assignees (logins : List String)
deriving DecidableEq, Repr

/-- A request as it is sent. -/
structure Message where
  /-- The method. -/
  method : Method
  /-- The path without the query. -/
  path : String
  /-- The names and values of the query, in order of the names. -/
  query : List (String × String)
  /-- The header that tells who asks. -/
  auth : Option String
  /-- What the request carries, if anything. -/
  content : Option Content
deriving DecidableEq, Repr

/-- A pull request as an API gives it. -/
structure PullItem where
  /-- The number in its repository. -/
  number : UInt64
  /-- The description, if there is one. -/
  body : Option String
  /-- Whether it is open, if that is told. -/
  state : Option IssueState
  /-- The author, if the account still exists. -/
  user : Option User
deriving DecidableEq, Repr

/-- What the body of a reply holds. -/
inductive Body where
  /-- A page of comments, each with its author. -/
  | comments (items : List (User × Option String))
  /-- A pull request. -/
  | pull (item : PullItem)
  /-- The comment that was posted. -/
  | comment
  /-- An issue. -/
  | issue
  /-- Anything else. -/
  | other

/-- A reply of an API. -/
structure Reply where
  /-- The status code. -/
  status : Nat := 200
  /-- What the body holds. -/
  body : Body := .other
  /-- The relations of the linked pages. -/
  links : List String := []

/-- Whether the status of a reply is that of a success. -/
def Reply.succeeds (r : Reply) : Bool := 200 ≤ r.status && r.status < 300

/-- Whether the status of a reply is that of a failure which may pass: too many requests, or a
failure of the server. -/
def Reply.isPassing (r : Reply) : Bool := r.status == 429 || (500 ≤ r.status && r.status < 600)

/-- Whether a reply names a page that follows. -/
def Reply.hasNext (r : Reply) : Bool := r.links.contains "next"

/-- The reply to what is not there. -/
def Reply.notFound : Reply := { status := 404 }

/-- A success is no failure that may pass. -/
theorem Reply.not_passing_of_succeeds {r : Reply} (h : r.succeeds = true) :
    r.isPassing = false := by
  simp only [succeeds, Bool.and_eq_true, decide_eq_true_eq] at h
  simp only [isPassing, Bool.or_eq_false_iff, Bool.and_eq_false_iff, beq_eq_false_iff_ne,
    decide_eq_false_iff_not]
  omega

/-- A network between the services and an API. -/
inductive Network where
  /-- Nothing that is sent arrives. -/
  | unreachable
  /-- The next replies. -/
  | serving (replies : List Reply)

/-- How many replies are left in a network. -/
def Network.left : Network → Nat
  | .unreachable => 0
  | .serving replies => replies.length

end IssueSteward.Rest
