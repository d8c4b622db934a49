import IssueSteward.Decimal.Numeral
import IssueSteward.Log
import IssueSteward.Repository
import IssueSteward.Thread

/-!
# Programs over an issue tracker

A service is a program: it makes requests to an issue tracker one at a time, goes on with each
reply, writes lines to a log, and ends in a value or a failure. What a tracker does is left open
here; `Program.run` carries a program out over any tracker that answers requests and has a state.
-/

namespace IssueSteward

/-- What a program asks of a tracker: the methods of `IssueTracker`. -/
inductive Request where
  /-- A pull request. -/
  | pullRequest (repository : Repository) (number : UInt64)
  /-- All comments of a thread. -/
  | comments (repository : Repository) (number : UInt64)
  /-- To post a comment on a thread. -/
  | comment (repository : Repository) (number : UInt64) (body : String)
  /-- To take an issue away from a user. -/
  | unassign (repository : Repository) (number : UInt64) (login : String)
deriving DecidableEq, Repr

/-- The reply to a request that succeeds. -/
def Request.Reply : Request → Type
  | .pullRequest _ _ => PullRequest
  | .comments _ _ => List Comment
  | .comment _ _ _ => Unit
  | .unassign _ _ _ => Unit

/-- An item of a thread, as messages name it. -/
def itemName (repository : Repository) (number : UInt64) : String :=
  repository.fullName ++ "#" ++ Decimal.numeral number.toNat

/-- Why a program fails. -/
inductive Failure where
  /-- A tracker refused a request for a reason of its own. -/
  | refused (message : String)
  /-- A tracker knows no pull request of a number. -/
  | unknownPullRequest (number : UInt64)
  /-- A pull request could not be fetched. -/
  | notFetched (repository : Repository) (number : UInt64) (cause : String)
  /-- A page of the comments of a thread could not be fetched. -/
  | notListed (repository : Repository) (number : UInt64) (page : UInt32) (cause : String)
  /-- A comment could not be posted. -/
  | notPosted (repository : Repository) (number : UInt64) (cause : String)
  /-- An issue could not be taken away from a user. -/
  | notUnassigned (repository : Repository) (number : UInt64) (login : String) (cause : String)
  /-- There is no pull request to look at. -/
  | noPullRequest
  /-- The author of a pull request is not known. -/
  | noAuthor
  /-- There is no issue to look at. -/
  | noIssue
  /-- The author of a comment is not known. -/
  | noCommenter
  /-- A tracker breaks down, and the whole command with it. -/
  | crashed (words : String)
deriving DecidableEq, Repr

namespace Failure

/-- The words for a failure, without its cause. -/
def message : Failure → String
  | .refused message => message
  | .unknownPullRequest number =>
    "pull request #" ++ Decimal.numeral number.toNat ++ " not found"
  | .notFetched repository number _ => "Failed to get pull request " ++ itemName repository number
  | .notListed repository number page _ =>
    "Failed to list comments on " ++ itemName repository number ++ " (page "
      ++ Decimal.numeral page.toNat ++ ")"
  | .notPosted repository number _ => "Failed to comment on " ++ itemName repository number
  | .notUnassigned repository number login _ =>
    "Failed to remove " ++ login ++ " from " ++ itemName repository number
  | .noPullRequest => "Event has no pull request and PR_NUMBER is not set"
  | .noAuthor => "Pull request has no author"
  | .noIssue => "Event has no issue"
  | .noCommenter => "Comment has no author"
  | .crashed words => words

/-- The cause of a failure in words, where it has one. -/
def cause? : Failure → Option String
  | .notFetched _ _ cause | .notListed _ _ _ cause | .notPosted _ _ cause
  | .notUnassigned _ _ _ cause => some cause
  | _ => none

/-- All words for a failure: its own, and then its cause. -/
def chain (f : Failure) : String :=
  match f.cause? with
  | some cause => f.message ++ ": " ++ cause
  | none => f.message

/-- Whether a failure ends the whole command on the spot, so that nothing can be told of it. -/
def isCrash : Failure → Bool
  | .crashed _ => true
  | _ => false

end Failure

/-- A program that ends in a value of a type. -/
inductive Program (α : Type) where
  /-- The program is at its end. -/
  | done (result : Except Failure α)
  /-- The program writes a line to the log. -/
  | log (line : LogLine) (next : Program α)
  /-- The program makes a request and goes on with the reply. -/
  | call (request : Request) (next : Except Failure request.Reply → Program α)

namespace Program

/-- One program and then, unless it fails, another. -/
def bind {α β : Type} : Program α → (α → Program β) → Program β
  | .done (.ok a), k => k a
  | .done (.error f), _ => .done (.error f)
  | .log line next, k => .log line (next.bind k)
  | .call request next, k => .call request fun reply => (next reply).bind k

instance : Monad Program where
  pure a := .done (.ok a)
  bind := bind

/-- The program that fails. -/
def fail {α : Type} (f : Failure) : Program α := .done (.error f)

/-- The program that makes a request. -/
def ask (request : Request) : Program request.Reply := .call request .done

/-- The program in which a source tells of something that was done or left alone. -/
def tell (source : Source) (text : String) : Program Unit :=
  .log { level := .info, source, text } (.done (.ok ()))

/-- A program with a source that tells of its failure, if it fails. Of a crash nothing is told. -/
def complain {α : Type} (source : Source) (text : Failure → String) : Program α → Program α
  | .done (.ok a) => .done (.ok a)
  | .done (.error f) =>
    if f.isCrash then .done (.error f) else .log ⟨.error, source, text f⟩ (.done (.error f))
  | .log line next => .log line (next.complain source text)
  | .call request next => .call request fun reply => (next reply).complain source text

/-! ## Carrying programs out -/

/-- What a tracker with states `σ` does on a request. -/
structure Answer (σ : Type) (request : Request) where
  /-- The reply, or why there is none. -/
  reply : Except Failure request.Reply
  /-- The lines that the tracker itself writes to the log. -/
  lines : List LogLine
  /-- The state of the tracker afterwards. -/
  state : σ

/-- A tracker with states `σ`: what it does on a request in a state. -/
abbrev Tracker (σ : Type) := (request : Request) → σ → Answer σ request

/-- What is seen of a program that was carried out. -/
structure Run (σ α : Type) where
  /-- The value or the failure in which it ended. -/
  result : Except Failure α
  /-- The requests that it made, in order. -/
  calls : List Request
  /-- The lines that were written to the log, in order. -/
  logs : List LogLine
  /-- The state of the tracker at the end. -/
  state : σ

/-- Carries a program out over a tracker in a given state. -/
def run {σ α : Type} (tracker : Tracker σ) : Program α → σ → Run σ α
  | .done result, s => ⟨result, [], [], s⟩
  | .log line next, s =>
    let r := next.run tracker s
    { r with logs := line :: r.logs }
  | .call request next, s =>
    let a := tracker request s
    let r := (next a.reply).run tracker a.state
    { r with calls := request :: r.calls, logs := a.lines ++ r.logs }

end Program

end IssueSteward
