/-!
# Reasons and outcomes

A service leaves an event alone when one of its checks, made in a fixed order, gives a reason to
(`firstSkip`); otherwise it acts. The outcome of a run says which of these happened.
-/

namespace IssueSteward

/-- A reason to leave an event alone: `Skip`. -/
inductive Skip where
  /-- The event is not about a new comment. -/
  | notCreated
  /-- There is no issue. -/
  | noIssue
  /-- The issue is a pull request. -/
  | isPullRequest
  /-- The comment says nothing. -/
  | noCommentBody
  /-- The author is a bot. -/
  | botAuthor
  /-- The issue or pull request is closed. -/
  | notOpen
  /-- The comment holds no command. -/
  | noCommand
  /-- The issue is not assigned to the commenter. -/
  | notAssignee
  /-- The description links an issue. -/
  | issueLinked
  /-- The comment was posted before. -/
  | alreadyCommented
deriving DecidableEq, Repr

namespace Skip

/-- Every reason. -/
def all : List Skip :=
  [notCreated, noIssue, isPullRequest, noCommentBody, botAuthor, notOpen, noCommand, notAssignee,
    issueLinked, alreadyCommented]

/-- The name of a reason. -/
def name : Skip → String
  | notCreated => "NotCreated"
  | noIssue => "NoIssue"
  | isPullRequest => "IsPullRequest"
  | noCommentBody => "NoCommentBody"
  | botAuthor => "BotAuthor"
  | notOpen => "NotOpen"
  | noCommand => "NoCommand"
  | notAssignee => "NotAssignee"
  | issueLinked => "IssueLinked"
  | alreadyCommented => "AlreadyCommented"

/-- The words for a reason. -/
def text : Skip → String
  | notCreated => "event is not a newly created comment"
  | noIssue => "payload has no issue"
  | isPullRequest => "issue is a pull request"
  | noCommentBody => "comment has no body"
  | botAuthor => "author is a bot"
  | notOpen => "not open"
  | noCommand => "no /unassign command"
  | notAssignee => "commenter is not an assignee"
  | issueLinked => "description links an issue"
  | alreadyCommented => "marker comment already present"

/-- The reason of a given name. -/
def ofName? (name : String) : Option Skip := all.find? (·.name == name)

end Skip

/-- What a run did about an event: `Outcome`. -/
inductive Outcome where
  /-- A reminder was posted. -/
  | commented
  /-- A user was unassigned. -/
  | unassigned
  /-- Something would have been done, had it not been a dry run. -/
  | dryRun
  /-- The event was left alone. -/
  | skipped (reason : Skip)
deriving DecidableEq, Repr

/-- The name of an outcome. -/
def Outcome.name : Outcome → String
  | commented => "Commented"
  | unassigned => "Unassigned"
  | dryRun => "DryRun"
  | skipped reason => "Skipped(" ++ reason.name ++ ")"

/-- A check gives a reason to leave its input alone, if it finds one: `Check`. -/
abbrev Check (α : Type) := α → Option Skip

/-- The reason of the first check that finds one: `first_skip`. -/
def firstSkip {α : Type} (checks : List (Check α)) (input : α) : Option Skip :=
  checks.findSome? fun check => check input

section

variable {α : Type} {check : Check α} {others : List (Check α)} {input : α}

/-- The first check that finds a reason gives it. -/
theorem firstSkip_cons_of_some {reason : Skip} (h : check input = some reason) :
    firstSkip (check :: others) input = some reason := by
  unfold firstSkip
  rw [List.findSome?_cons, h]

/-- A check that finds no reason leaves it to the others to find one. -/
theorem firstSkip_cons_of_none (h : check input = none) :
    firstSkip (check :: others) input = firstSkip others input := by
  unfold firstSkip
  rw [List.findSome?_cons, h]

end

end IssueSteward
