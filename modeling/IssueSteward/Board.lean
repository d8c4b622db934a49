import IssueSteward.Program

/-!
# An issue tracker in memory

A board holds pull requests and posted comments, and can be told to refuse requests of a kind. It
never forgets or reorders a comment.
-/

namespace IssueSteward

/-- The kinds of requests. -/
inductive Operation where
  /-- To get a pull request. -/
  | get
  /-- To list comments. -/
  | list
  /-- To post a comment. -/
  | create
  /-- To take an issue away from a user. -/
  | remove
deriving DecidableEq, Repr

/-- The kind of a request. -/
def Request.operation : Request → Operation
  | .pullRequest _ _ => .get
  | .comments _ _ => .list
  | .comment _ _ _ => .create
  | .unassign _ _ _ => .remove

/-- The state of a tracker in memory: `FakeTracker`. -/
structure Board where
  /-- The stored pull requests, of which a later one hides an earlier one of its number. -/
  pulls : List PullRequest := []
  /-- The comments in the order in which they were posted, each with the number of its thread. -/
  posts : List (UInt64 × Comment) := []
  /-- The message with which requests of a kind are refused, if they are. -/
  refusals : Operation → Option String := fun _ => none

namespace Board

/-- The comments of a thread: `FakeTracker::comments`. -/
def thread (b : Board) (number : UInt64) : List Comment :=
  (b.posts.filter fun post => post.1 == number).map Prod.snd

/-- The pull request of a number. -/
def pull? (b : Board) (number : UInt64) : Option PullRequest :=
  b.pulls.reverse.find? fun pr => pr.number == number

/-- The account that posts the comments of the services. -/
def poster : User := { login := "github-actions[bot]", kind := "Bot" }

/-- The board with one more comment on a thread: `FakeTracker::with_comment`. -/
def addComment (b : Board) (number : UInt64) (comment : Comment) : Board :=
  { b with posts := b.posts ++ [(number, comment)] }

/-- The board with one more pull request: `FakeTracker::with_pull`. -/
def addPull (b : Board) (pr : PullRequest) : Board :=
  { b with pulls := b.pulls ++ [pr] }

/-- The board that refuses requests of a kind, or grants them again. -/
def refuse (b : Board) (operation : Operation) (message : Option String) : Board :=
  { b with refusals := fun o => if o = operation then message else b.refusals o }

/-- What a board does on a request that it does not refuse: the functions of `FakeTracker`. -/
def grant : (request : Request) → Board → Except Failure request.Reply × Board
  | .pullRequest _ number, b =>
    match b.pull? number with
    | some pr => (.ok pr, b)
    | none => (.error (.unknownPullRequest number), b)
  | .comments _ number, b => (.ok (b.thread number), b)
  | .comment _ number body, b => (.ok (), b.addComment number ⟨some body, some poster⟩)
  | .unassign _ _ _, b => (.ok (), b)

/-- What a board does on a request. -/
def answer : Program.Tracker Board := fun request b =>
  match b.refusals request.operation with
  | some message => ⟨.error (.refused message), [], b⟩
  | none => ⟨(grant request b).1, [], (grant request b).2⟩

end Board

end IssueSteward
