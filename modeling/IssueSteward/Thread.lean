import IssueSteward.Text.Caseless

/-!
# Issues, pull requests and their comments

The parts of an issue tracker that the two services look at. An issue and a pull request with the
same number share one thread of comments.
-/

namespace IssueSteward

/-- A user account: `User`. -/
structure User where
  /-- The name of the account. -/
  login : String
  /-- The kind of account, such as `User` or `Bot`. -/
  kind : String := ""
deriving DecidableEq, Repr

/-- Whether an account is run by a program: its kind says so, or its name ends in `[bot]`. It is
`User::is_bot`. -/
def User.isBot (user : User) : Bool :=
  Text.eqCaseless user.kind "bot" || "[bot]".toList.isSuffixOf user.login.toList

/-- Whether an issue or a pull request is open: `IssueState`. -/
inductive IssueState where
  /-- It is open. -/
  | opened
  /-- It is closed. -/
  | closed
deriving DecidableEq, Repr

/-- The name of a state. -/
def IssueState.name : IssueState → String
  | .opened => "open"
  | .closed => "closed"

/-- A comment of a thread: `Comment`. -/
structure Comment where
  /-- The text, if there is one. -/
  body : Option String
  /-- The author, if the account still exists. -/
  user : Option User
deriving DecidableEq, Repr

/-- A pull request: `PullRequest`. -/
structure PullRequest where
  /-- The number in its repository. -/
  number : UInt64
  /-- The description, if there is one. -/
  body : Option String
  /-- Whether it is open. -/
  state : IssueState := .opened
  /-- The author, if the account still exists. -/
  user : Option User
deriving DecidableEq, Repr

/-- An issue, or a pull request in the place of one: `Issue`. -/
structure Issue where
  /-- The number in its repository. -/
  number : UInt64
  /-- Whether it is open. -/
  state : IssueState := .opened
  /-- The author, if the account still exists. -/
  user : Option User
  /-- The users that are to work on it. -/
  assignees : List User := []
  /-- Whether it is in truth a pull request: `is_pull_request`. -/
  isPullRequest : Bool
deriving DecidableEq, Repr

/-- Whether an issue is assigned to the user of a name, in letters of any case: `is_assigned_to`. -/
def Issue.isAssignedTo (issue : Issue) (login : String) : Bool :=
  issue.assignees.any fun user => Text.eqCaseless user.login login

end IssueSteward
