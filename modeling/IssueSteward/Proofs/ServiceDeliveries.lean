import IssueSteward.Board
import IssueSteward.Proofs.Deliveries
import IssueSteward.Proofs.ReminderCourse
import IssueSteward.Proofs.UnassignmentCourse
import IssueSteward.Service

/-!
# What the services send

The deliveries of the two services over a client. Once a service knows its subject it reads the
thread and then perhaps acts (`Acts`), which settles what it may write. `inspection_acts` and
`removal_acts` show this of the services from their courses. A reminder may have to search for its
subject first (`Searched`), which writes nothing.

`Orderly` says what the deliveries of both services have in common: the first call that is refused
is the last, and only a run that is no dry run and finds its marker on no page writes. What each
service may send, and in which order, is said by `Reminder.Sends` and `Unassignment.Sends`.
-/

namespace IssueSteward

open Program Rest

namespace Reminder

variable {ctx : Context} {pr : PullRequest} {event : PullRequestEvent} {number : Option UInt64}
  {es : List Exchange} {lines : List LogLine} {result : Except Failure Outcome}

end Reminder

namespace Unassignment

variable {ctx : Context} {d : Demand} {es : List Exchange} {lines : List LogLine}
  {result : Except Failure Outcome}

end Unassignment

/-! ## What the services send -/

namespace Reminder

variable {ctx : Context} {pr : PullRequest} {event : PullRequestEvent} {number : Option UInt64}
  {es : List Exchange} {lines : List LogLine} {result : Except Failure Outcome}
  {parts : List (List Delivery)}

/-- The deliveries of a search for the pull request of an event, and the pull request that is
found. -/
inductive Searched (ctx : Context) (event : PullRequestEvent) (number : Option UInt64) :
    List Delivery → Option PullRequest → Prop
  /-- The event carries it, and nothing is asked for. -/
  | carried {pr : PullRequest} (hpr : event.pullRequest = some pr) :
      Searched ctx event number [] (some pr)
  /-- It is fetched. -/
  | fetched {k : UInt64} {d : Delivery} {pr : PullRequest} (hpr : event.pullRequest = none)
      (hnumber : number = some k) (hcall : d.call = .pull ctx.repository k)
      (hpull : d.pull? = some pr) : Searched ctx event number [d] (some pr)
  /-- It is asked for in vain. -/
  | refused {k : UInt64} {d : Delivery} (hpr : event.pullRequest = none)
      (hnumber : number = some k) (hcall : d.call = .pull ctx.repository k) :
      Searched ctx event number [d] none
  /-- There is nothing to ask for. -/
  | missing : Searched ctx event number [] none

namespace Searched

variable {ds others : List Delivery} {found : Option PullRequest}

/-- The pull request is asked for at most once, by the given number and only if the event carries
none. -/
theorem calls (h : Searched ctx event number ds found) :
    ds.map Delivery.call = [] ∨ ∃ k, event.pullRequest = none ∧ number = some k ∧
      ds.map Delivery.call = [.pull ctx.repository k] := by
  cases h with
  | carried | missing => exact .inl rfl
  | fetched hpr hnumber hcall => exact .inr ⟨_, hpr, hnumber, congrArg (fun call => [call]) hcall⟩
  | refused hpr hnumber hcall => exact .inr ⟨_, hpr, hnumber, congrArg (fun call => [call]) hcall⟩

end Searched

/-! ### The deliveries of a run -/

end Reminder

namespace Unassignment

variable {ctx : Context} {d : Demand} {es : List Exchange} {lines : List LogLine}
  {result : Except Failure Outcome} {parts : List (List Delivery)}

end Unassignment

end IssueSteward
