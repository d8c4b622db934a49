import IssueSteward.Marker
import IssueSteward.Outcome
import IssueSteward.Payload.Event
import IssueSteward.Program
import IssueSteward.UnassignCommand

/-!
# Unassignment on request

The second service: an assignee of an open issue who comments with the command `/unassign` is taken
off the issue once, and a comment confirms it. Whether that was done before is read off the thread.
-/

namespace IssueSteward.Unassignment

open Decimal Program

/-- The comment that confirms the unassignment of a user: `unassign::format_body`. -/
def body (login : String) : String :=
  (Marker.unassigned login).stamp <|
    "👋 @" ++ login ++ ", you have been unassigned from this issue. Thanks for letting us know! " ++
    "The issue is open for someone else to pick up."

/-! ## Checks -/

/-- An event that is not about a new comment asks for nothing: `not_created`. One that does not tell
its action counts as new. -/
def notCreated : Check IssueCommentEvent := fun event =>
  if event.action.any (· != "created") then some .notCreated else none

/-- An event asks for nothing without an issue, or if its issue is a pull request: `no_issue`. -/
def noIssue : Check IssueCommentEvent := fun event =>
  match event.issue with
  | none => some .noIssue
  | some issue => if issue.isPullRequest then some .isPullRequest else none

/-- A comment has to have a text and a person as its author: `bad_comment`. -/
def badComment : Check IssueCommentEvent := fun event =>
  match event.comment with
  | none => some .noCommentBody
  | some comment =>
    if comment.body.all (· == "") then some .noCommentBody
    else
      match comment.user with
      | some user => if user.isBot then some .botAuthor else none
      -- A comment of an account that no longer exists is treated like one of a bot.
      | none => some .botAuthor

/-- The issue has to be open: `not_open`. -/
def notOpen : Check IssueCommentEvent := fun event => do
  let issue ← event.issue
  if issue.state = .opened then none else some .notOpen

/-- The comment has to hold the command: `no_command`. -/
def noCommand : Check IssueCommentEvent := fun event => do
  let comment ← event.comment
  let text ← comment.body
  if hasUnassignCommand text then none else some .noCommand

/-- The commenter has to be an assignee of the issue: `not_assignee`. -/
def notAssignee : Check IssueCommentEvent := fun event => do
  let issue ← event.issue
  let comment ← event.comment
  let user ← comment.user
  if issue.isAssignedTo user.login then none else some .notAssignee

/-- The checks of an event, in order: `unassign::CHECKS`. -/
def checks : List (Check IssueCommentEvent) :=
  [notCreated, noIssue, badComment, notOpen, noCommand, notAssignee]

/-! ## The service -/

/-- What an event asks for. -/
structure Demand where
  /-- The number of the issue. -/
  number : UInt64
  /-- The user who is to be taken off it. -/
  login : String
deriving DecidableEq, Repr

/-- An issue as messages name it. -/
def itemName (d : Demand) : String := "issue #" ++ numeral d.number.toNat

/-- Takes a user off an issue and confirms it, or tells of it on a dry run, as `unassign` does at
its end. -/
def carryOut (ctx : Context) (d : Demand) : Program Outcome := do
  if ctx.dryRun then
    tell .unassignment ("[dry run] Would remove @" ++ d.login ++ " from " ++ itemName d
      ++ " and comment:\n" ++ body d.login)
    return .dryRun
  else
    -- The confirmation, which marks the thread, comes last.
    ask (.unassign ctx.repository d.number d.login)
    ask (.comment ctx.repository d.number (body d.login))
    tell .unassignment ("Unassigned @" ++ d.login ++ " from " ++ itemName d)
    return .unassigned

/-- Does what an event asks for, unless it was done before: `unassign::unassign`. -/
def unassign (ctx : Context) (d : Demand) : Program Outcome := do
  let comments : List Comment ← ask (.comments ctx.repository d.number)
  if (Marker.unassigned d.login).isIn comments then
    tell .unassignment ("@" ++ d.login ++ " already unassigned themself from " ++ itemName d)
    return .skipped .alreadyCommented
  else carryOut ctx d

/-- The whole service for an event of a comment: `unassign::run`. -/
def run (ctx : Context) (event : IssueCommentEvent) : Program Outcome :=
  match firstSkip checks event with
  | some reason => do
    tell .unassignment ("Skipping unassign: " ++ reason.text)
    return .skipped reason
  | none =>
    -- The checks hand on nothing of what they looked at, so it is looked up again.
    match event.issue with
    | none => fail .noIssue
    | some issue =>
      match event.comment.bind (·.user) with
      | none => fail .noCommenter
      | some user =>
        let d : Demand := ⟨issue.number, user.login⟩
        (unassign ctx d).complain .unassignment fun f =>
          "Unassign failed for @" ++ d.login ++ " on " ++ itemName d ++ " in "
            ++ ctx.repository.fullName ++ ": " ++ f.chain

end IssueSteward.Unassignment
