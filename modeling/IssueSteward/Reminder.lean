import IssueSteward.ClosingReference
import IssueSteward.Marker
import IssueSteward.Outcome
import IssueSteward.Payload.Event
import IssueSteward.Program
import IssueSteward.Text.Quoted

/-!
# Reminders to link an issue

The first service: on a pull request of a person that is open and links no issue, it posts a
reminder once. Whether it did so before is read off the thread of the pull request.
-/

namespace IssueSteward.Reminder

open Decimal Program

/-- The comment that reminds the author of a pull request to link an issue, without its marker: the
text in `link::format_body`. -/
def message (repository : Repository) (author : String) : String :=
  "Hi @" ++ author ++ ", thanks for the pull request! 👋\n\n" ++
  "This pull request does not reference an issue. Every change should be tied to an issue so " ++
  "reviewers can follow the motivation and the issue gets closed when this is merged.\n\n" ++
  "Please edit the description and add a line like:\n\n```\nFixes #123\n```\n\n" ++
  "`Closes #123` and `Resolves #123` work as well.\n\n" ++
  "- [Linking a pull request to an issue](https://docs.github.com/en/issues/" ++
  "tracking-your-work-with-issues/using-issues/linking-a-pull-request-to-an-issue)\n" ++
  "- [Contributing guide](https://github.com/" ++ repository.owner ++ "/" ++ repository.repo ++
  "/blob/main/CONTRIBUTING.md)\n"

/-- The comment as it is posted: `link::format_body`. -/
def body (repository : Repository) (author : String) : String :=
  Marker.missingIssue.stamp (message repository author)

/-- A bot needs no reminder: `bot_author`. -/
def botAuthor : Check PullRequest := fun pr =>
  if pr.user.any User.isBot then some .botAuthor else none

/-- A pull request that is closed needs no reminder: `closed`. -/
def closed : Check PullRequest := fun pr =>
  if pr.state = .closed then some .notOpen else none

/-- A pull request whose description links an issue needs no reminder: `linked`. -/
def linked : Check PullRequest := fun pr =>
  if pr.body.any linksIssue then some .issueLinked else none

/-- The checks of a pull request, in order: `link::CHECKS`. -/
def checks : List (Check PullRequest) := [botAuthor, closed, linked]

/-- A pull request as messages name it. -/
def itemName (pr : PullRequest) : String := "PR #" ++ numeral pr.number.toNat

/-- Leaves a pull request alone and tells why, as `notify` does at its early ends. -/
def leave (pr : PullRequest) (reason : Skip) : Program Outcome := do
  tell .reminder ("Skipping " ++ itemName pr ++ ": " ++ reason.text)
  return .skipped reason

/-- Posts the reminder of an author, or tells of it on a dry run, as `notify` does at its end. -/
def post (ctx : Context) (pr : PullRequest) (author : String) : Program Outcome := do
  let text := body ctx.repository author
  if ctx.dryRun then
    tell .reminder ("[dry run] Would comment on " ++ itemName pr ++ ":\n" ++ text)
    return .dryRun
  else
    ask (.comment ctx.repository pr.number text)
    tell .reminder ("Posted missing issue reminder on " ++ itemName pr)
    return .commented

/-- Reminds the author of a pull request, if that is due: `link::notify`. -/
def notify (ctx : Context) (pr : PullRequest) : Program Outcome :=
  match firstSkip checks pr with
  | some reason => leave pr reason
  | none => do
    let comments : List Comment ← ask (.comments ctx.repository pr.number)
    if Marker.missingIssue.isIn comments then leave pr .alreadyCommented
    else
      -- Only now is the author needed.
      match pr.user with
      | none => fail .noAuthor
      | some user => post ctx pr user.login

/-- The pull request of an event: the one that the payload carries, or else the one of a number. It
is `resolve_pull_request`. -/
def resolve (ctx : Context) (event : PullRequestEvent) (number : Option UInt64) :
    Program PullRequest :=
  match event.pullRequest, number with
  | some pr, _ => return pr
  | none, some number => ask (.pullRequest ctx.repository number)
  | none, none => fail .noPullRequest

/-- The whole service for an event of a pull request: `link::run`. -/
def run (ctx : Context) (event : PullRequestEvent) (number : Option UInt64) : Program Outcome := do
  let pr ← (resolve ctx event number).complain .reminder fun f =>
    "Failed to resolve pull request " ++ Text.optional (number.map (numeral ·.toNat)) ++ " in "
      ++ ctx.repository.fullName ++ ": " ++ f.chain
  (notify ctx pr).complain .reminder fun f =>
    "Missing issue check failed for " ++ itemName pr ++ " in " ++ ctx.repository.fullName ++ ": "
      ++ f.chain

end IssueSteward.Reminder
