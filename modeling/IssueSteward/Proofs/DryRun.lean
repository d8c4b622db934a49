import IssueSteward.Proofs.BoardAnswers
import IssueSteward.Proofs.ReminderCourse
import IssueSteward.Proofs.UnassignmentCourse

/-!
# Dry runs

A dry run of a service tells what the service would do. `Rehearses` compares two programs without
carrying them out: they make the same requests to read until both end in the same way, or until the
one tells of a plan and the other sets about it. `previews_of_rehearses` says what this means for
their runs over a board, by induction on the requests to read, and `dryRun_previews` that the dry
and the live form of each service are such a pair.
-/

namespace IssueSteward

/-- Whether a request is to change something. -/
def Request.isChange (request : Request) : Bool :=
  request.operation = .create || request.operation = .remove

/-- What a service is about to do: the line in which a dry run tells of it, and the requests that a
live run makes for it, in order. -/
structure Plan where
  /-- The line of a dry run. -/
  line : LogLine
  /-- The requests of a live run. -/
  requests : List Request

/-- The plan to post a reminder on a pull request. -/
def Plan.reminder (repository : Repository) (number : UInt64) (body : String) : Plan where
  line := { level := .info, source := .reminder,
            text := "[dry run] Would comment on PR #" ++ Decimal.numeral number.toNat ++ ":\n"
              ++ body }
  requests := [.comment repository number body]

/-- The plan to take a user off an issue and to confirm it. -/
def Plan.removal (repository : Repository) (number : UInt64) (login body : String) : Plan where
  line := { level := .info, source := .unassignment,
            text := "[dry run] Would remove @" ++ login ++ " from issue #"
              ++ Decimal.numeral number.toNat ++ " and comment:\n" ++ body }
  requests := [.unassign repository number login, .comment repository number body]

namespace Program

/-- A run of one program is a preview of that of another one, as far as plans of some kind go. -/
structure Previews (kind : Plan → Prop) (dry live : Run Board Outcome) : Prop where
  /-- Both read the same, and the dry run does nothing else. -/
  reads : live.calls.filter (!·.isChange) = dry.calls
  /-- The dry run says that it is one exactly when the live run sets about a change. -/
  dryRun_iff : dry.result = .ok .dryRun ↔ ∃ request ∈ live.calls, request.isChange = true
  /-- Otherwise they end in the same way and write the same lines. -/
  same : dry.result ≠ .ok .dryRun → live.result = dry.result ∧ live.logs = dry.logs
  /-- The dry run tells of a plan and of nothing else, and the changes that the live run sets about
  are the first ones of this plan. -/
  tells : dry.result = .ok .dryRun → ∃ plan, kind plan ∧ dry.logs = [plan.line] ∧
    live.calls.filter (·.isChange) <+: plan.requests

/-- A program ends without any request, and not as a dry run. -/
def Quits (p : Program Outcome) : Prop :=
  ∀ es lines result, Course p es lines result → es = [] ∧ result ≠ .ok .dryRun

/-- A program makes some of the requests of a list, at least the first and each only after those
before it, and no other ones. -/
def Attempts (requests : List Request) (p : Program Outcome) : Prop :=
  ∀ es lines result, Course p es lines result →
    es ≠ [] ∧ es.map Exchange.request <+: requests

/-- One program rehearses another for plans of some kind. -/
inductive Rehearses (kind : Plan → Prop) : Program Outcome → Program Outcome → Prop
  /-- There is nothing to plan, and both end in the same way. -/
  | quits {p : Program Outcome} (h : p.Quits) : Rehearses kind p p
  /-- Both make the same request to read. -/
  | reads {request : Request} {dry live : Except Failure request.Reply → Program Outcome}
      (hread : request.isChange = false) (h : ∀ reply, Rehearses kind (dry reply) (live reply)) :
      Rehearses kind (.call request dry) (.call request live)
  /-- The one tells of a plan, and the other sets about it. -/
  | parts {plan : Plan} {live : Program Outcome} (hkind : kind plan)
      (hchanges : ∀ request ∈ plan.requests, request.isChange = true)
      (h : live.Attempts plan.requests) :
      Rehearses kind (.log plan.line (.done (.ok .dryRun))) live

variable {kind : Plan → Prop} {dry live p : Program Outcome}

/-! ## Runs over a board -/

/-- What a program that ends without any request does over a board is written. -/
theorem Quits.run_board (h : p.Quits) (b : Board) :
    (p.run Board.answer b).calls = [] ∧ (p.run Board.answer b).result ≠ .ok .dryRun := by
  obtain ⟨hes, hresult⟩ := h _ _ _ (course_run Board.answer p b)
  exact ⟨by rw [calls_run, hes]; rfl, hresult⟩

/-- A program that sets about a plan makes the first requests of it over a board. -/
theorem Attempts.run_board {requests : List Request} (h : p.Attempts requests) (b : Board) :
    (p.run Board.answer b).calls ≠ [] ∧ (p.run Board.answer b).calls <+: requests := by
  obtain ⟨hes, hbegins⟩ := h _ _ _ (course_run Board.answer p b)
  rw [calls_run]
  exact ⟨by simpa using hes, hbegins⟩

/-- A program that rehearses another previews its runs over a board. -/
theorem previews_of_rehearses (h : Rehearses kind dry live) (b : Board) :
    Previews kind (dry.run Board.answer b) (live.run Board.answer b) := by
  induction h generalizing b with
  | quits hquits =>
    obtain ⟨hcalls, hresult⟩ := hquits.run_board b
    exact
      { reads := by rw [hcalls]; rfl
        dryRun_iff := by simp [hcalls, hresult]
        same := fun _ => ⟨rfl, rfl⟩
        tells := fun hdry => absurd hdry hresult }
  | @reads request dry live hread _ ih =>
    have hnext := ih (Board.answer request b).reply (Board.answer request b).state
    -- the request is the same, a board writes no lines, and the runs go on from the same state
    exact
      { reads := by
          simp only [run, List.filter_cons, hread, Bool.not_false, if_true]
          rw [hnext.reads]
        dryRun_iff := by
          simp only [run, List.mem_cons, exists_eq_or_imp, hread, Bool.false_eq_true, false_or]
          exact hnext.dryRun_iff
        same := by
          simp only [run, Board.answer_lines, List.nil_append]
          exact hnext.same
        tells := by
          simp only [run, Board.answer_lines, List.nil_append, List.filter_cons, hread]
          exact hnext.tells }
  | @parts plan live hkind hchanges hattempts =>
    obtain ⟨hcalls, hbegins⟩ := hattempts.run_board b
    have hall : ∀ request ∈ (live.run Board.answer b).calls, request.isChange = true :=
      fun request hmem => hchanges request (hbegins.subset hmem)
    refine { reads := ?_, dryRun_iff := ?_, same := ?_, tells := ?_ }
    · rw [List.filter_eq_nil_iff.2 fun request hmem => by simp [hall request hmem]]
      rfl
    · obtain ⟨request, hmem⟩ := List.exists_mem_of_ne_nil _ hcalls
      exact ⟨fun _ => ⟨request, hmem, hall request hmem⟩, fun _ => rfl⟩
    · exact fun hdry => absurd rfl hdry
    · refine fun _ => ⟨plan, hkind, rfl, ?_⟩
      rw [List.filter_eq_self.2 hall]
      exact hbegins

/-! ## Parts of programs -/

/-- A program that ends without any request still does when it tells of its failure. -/
theorem Quits.complain (h : p.Quits) (source : Source) (text : Failure → String) :
    (p.complain source text).Quits := by
  intro es lines result hcourse
  obtain ⟨own, hown, -⟩ := course_complain.1 hcourse
  exact h es own result hown

/-- A program that sets about a plan still does when it tells of its failure. -/
theorem Attempts.complain {requests : List Request} (h : p.Attempts requests) (source : Source)
    (text : Failure → String) : (p.complain source text).Attempts requests := by
  intro es lines result hcourse
  obtain ⟨own, hown, -⟩ := course_complain.1 hcourse
  exact h es own result hown

/-- A program that rehearses another still does when both tell of their failures in the same
words. -/
theorem Rehearses.complain (h : Rehearses kind dry live) (source : Source)
    (text : Failure → String) :
    Rehearses kind (dry.complain source text) (live.complain source text) := by
  induction h with
  | quits hquits => exact .quits (hquits.complain source text)
  | reads hread _ ih => exact .reads hread ih
  | parts hkind hchanges hattempts =>
    exact .parts hkind hchanges (hattempts.complain source text)

/-- A program that fails ends without any request. -/
theorem quits_fail (f : Failure) : Quits (fail f) := by
  intro es lines result hcourse
  obtain ⟨rfl, rfl, rfl⟩ := course_fail.1 hcourse
  exact ⟨rfl, by simp⟩

/-- Nothing comes after a program that fails at its beginning and tells of it. -/
theorem complain_fail_bind {α β : Type} (source : Source) (text : Failure → String) (f : Failure)
    (k : α → Program β) :
    (fail f).complain source text >>= k = (fail f).complain source text := by
  have hfail : ∀ γ : Type, (fail f : Program γ).complain source text =
      if f.isCrash then .done (.error f) else .log ⟨.error, source, text f⟩ (.done (.error f)) :=
    fun _ => rfl
  rw [hfail, hfail]
  split
  · rfl
  · rfl

/-- Two programs that fail in one way at their beginnings and tell of it rehearse one another,
whatever would come after. -/
theorem rehearses_fail_bind {α : Type} {kind : Plan → Prop} (source : Source)
    (text : Failure → String) (f : Failure) (k k' : α → Program Outcome) :
    Rehearses kind ((fail f).complain source text >>= k)
      ((fail f).complain source text >>= k') := by
  rw [complain_fail_bind, complain_fail_bind]
  exact .quits ((quits_fail f).complain source text)

/-- Two programs that make the same request to read and then rehearse one another rehearse one
another. -/
theorem rehearses_ask_bind {request : Request} (hread : request.isChange = false)
    {k k' : request.Reply → Program Outcome} (h : ∀ reply, Rehearses kind (k reply) (k' reply)) :
    Rehearses kind (ask request >>= k) (ask request >>= k') := by
  refine .reads hread fun reply => ?_
  rcases reply with f | a
  · exact .quits (quits_fail f)
  · exact h a

end Program

/-! ## The services -/

open Program

/-- The plans of the reminder service: to post a reminder in a repository. -/
def Plan.IsReminder (repository : Repository) (plan : Plan) : Prop :=
  ∃ number author, plan = .reminder repository number (Reminder.body repository author)

/-- The plans of the unassignment service: to take a user off an issue of a repository. -/
def Plan.IsRemoval (repository : Repository) (plan : Plan) : Prop :=
  ∃ number login, plan = .removal repository number login (Unassignment.body login)

namespace Reminder

/-- Leaving a pull request alone ends without any request. -/
theorem quits_leave (pr : PullRequest) (reason : Skip) : (leave pr reason).Quits := by
  intro es lines result hcourse
  obtain ⟨rfl, rfl, rfl⟩ := course_leave hcourse
  exact ⟨rfl, by simp⟩

/-- The line in which a dry run tells of a reminder is that of the plan to post it. -/
theorem line_reminder (ctx : Context) (pr : PullRequest) (author : String) :
    previewLine ctx pr author =
      (Plan.reminder ctx.repository pr.number (body ctx.repository author)).line := by
  have htext : "[dry run] Would comment on PR #" = "[dry run] Would comment on " ++ "PR #" := rfl
  simp only [previewLine, Plan.reminder, itemName, htext, String.append_assoc]

/-- A dry run rehearses the posting of a reminder. -/
theorem rehearses_post (r : Repository) (pr : PullRequest) (author : String) :
    Rehearses (Plan.IsReminder r) (post ⟨r, true⟩ pr author) (post ⟨r, false⟩ pr author) := by
  have hdry : post ⟨r, true⟩ pr author =
      .log (Plan.reminder r pr.number (body r author)).line (.done (.ok .dryRun)) :=
    congrArg (Program.log · _) (line_reminder ⟨r, true⟩ pr author)
  rw [hdry]
  refine .parts ⟨_, _, rfl⟩ (by simp [Plan.reminder, Request.isChange, Request.operation]) ?_
  intro es lines result hcourse
  rcases course_post hcourse with ⟨hwet, -⟩ | ⟨-, ⟨f, rfl, rfl, rfl⟩ | ⟨rfl, rfl, rfl⟩⟩
  · cases hwet
  · exact ⟨by simp, List.prefix_rfl⟩
  · exact ⟨by simp, List.prefix_rfl⟩

/-- A dry run rehearses the check of a pull request. -/
theorem rehearses_notify (r : Repository) (pr : PullRequest) :
    Rehearses (Plan.IsReminder r) (notify ⟨r, true⟩ pr) (notify ⟨r, false⟩ pr) := by
  unfold notify
  split
  · exact .quits (quits_leave pr _)
  · refine rehearses_ask_bind rfl fun comments => ?_
    split
    · exact .quits (quits_leave pr _)
    · split
      · exact .quits (quits_fail _)
      · exact rehearses_post r pr _

/-- A dry run rehearses the reminder service. -/
theorem rehearses_run (r : Repository) (event : PullRequestEvent) (number : Option UInt64) :
    Rehearses (Plan.IsReminder r) (run ⟨r, true⟩ event number) (run ⟨r, false⟩ event number) := by
  unfold run resolve
  split
  · exact (rehearses_notify r _).complain _ _
  · -- a pull request that is asked for and not given ends the service
    refine .reads rfl fun reply => ?_
    rcases reply with f | pr
    · exact rehearses_fail_bind _ _ f _ _
    · exact (rehearses_notify r pr).complain _ _
  · exact rehearses_fail_bind _ _ .noPullRequest _ _

end Reminder

namespace Unassignment

/-- The line in which a dry run tells of a removal is that of the plan for it. -/
theorem line_removal (r : Repository) (d : Demand) :
    previewLine d = (Plan.removal r d.number d.login (body d.login)).line := by
  have htext : " from issue #" = " from " ++ "issue #" := rfl
  simp only [previewLine, Plan.removal, itemName, htext, String.append_assoc]

/-- Setting about a removal makes the request for it, and that for its confirmation only after the
removal succeeded. -/
theorem attempts_carryOut (r : Repository) (d : Demand) :
    (carryOut ⟨r, false⟩ d).Attempts (Plan.removal r d.number d.login (body d.login)).requests := by
  intro es lines result hcourse
  unfold carryOut at hcourse
  rcases course_ask_bind.1 hcourse with ⟨f, rfl, -, -⟩ | ⟨_, rest, hremoved, rfl⟩
  · exact ⟨by simp, ⟨_, rfl⟩⟩
  · rcases course_ask_bind.1 hremoved with ⟨f, rfl, -, -⟩ | ⟨_, rest, htell, rfl⟩
    · exact ⟨by simp, ⟨_, rfl⟩⟩
    · obtain ⟨own, hend, -⟩ := course_tell_bind.1 htell
      obtain ⟨rfl, -, -⟩ := course_pure.1 hend
      exact ⟨by simp, ⟨_, rfl⟩⟩

/-- A dry run rehearses doing what an event asks for. -/
theorem rehearses_unassign (r : Repository) (d : Demand) :
    Rehearses (Plan.IsRemoval r) (unassign ⟨r, true⟩ d) (unassign ⟨r, false⟩ d) := by
  unfold unassign
  refine rehearses_ask_bind rfl fun comments => ?_
  split
  · refine .quits fun es lines result hcourse => ?_
    obtain ⟨rest, hend, -⟩ := course_tell_bind.1 hcourse
    obtain ⟨rfl, -, rfl⟩ := course_pure.1 hend
    exact ⟨rfl, by simp⟩
  · have hdry : carryOut ⟨r, true⟩ d =
        .log (Plan.removal r d.number d.login (body d.login)).line (.done (.ok .dryRun)) :=
      congrArg (Program.log · _) (line_removal r d)
    rw [hdry]
    refine .parts ⟨_, _, rfl⟩ ?_ (attempts_carryOut r d)
    simp [Plan.removal, Request.isChange, Request.operation]

/-- A dry run rehearses the unassignment service. -/
theorem rehearses_run (r : Repository) (event : IssueCommentEvent) :
    Rehearses (Plan.IsRemoval r) (run ⟨r, true⟩ event) (run ⟨r, false⟩ event) := by
  rw [run_eq, run_eq]
  split
  · refine .quits fun es lines result hcourse => ?_
    obtain ⟨rest, hend, -⟩ := course_tell_bind.1 hcourse
    obtain ⟨rfl, -, rfl⟩ := course_pure.1 hend
    exact ⟨rfl, by simp⟩
  · exact (rehearses_unassign r _).complain _ _

end Unassignment

/-- Over any board a dry run of a service is a preview of the live run in the same repository. Both
read the same and the dry run changes nothing; it says that it is a dry run exactly when the live
run sets about a change, and otherwise both end in the same way and write the same lines. Where it
is a dry run, its only line tells of the plan that the live run carries out: the comment that it
posts and where, and the user whom it takes off an issue. -/
theorem dryRun_previews (r : Repository) (b : Board) :
    (∀ event number, Previews (Plan.IsReminder r)
      ((Reminder.run ⟨r, true⟩ event number).run Board.answer b)
      ((Reminder.run ⟨r, false⟩ event number).run Board.answer b)) ∧
    (∀ pr, Previews (Plan.IsReminder r)
      ((Reminder.notify ⟨r, true⟩ pr).run Board.answer b)
      ((Reminder.notify ⟨r, false⟩ pr).run Board.answer b)) ∧
    ∀ event, Previews (Plan.IsRemoval r)
      ((Unassignment.run ⟨r, true⟩ event).run Board.answer b)
      ((Unassignment.run ⟨r, false⟩ event).run Board.answer b) :=
  ⟨fun event number => previews_of_rehearses (Reminder.rehearses_run r event number) b,
    fun pr => previews_of_rehearses (Reminder.rehearses_notify r pr) b,
    fun event => previews_of_rehearses (Unassignment.rehearses_run r event) b⟩

/-- A dry run tells of the reminder that a live run posts. -/
example :
    let b : Board := { pulls := [⟨7, none, .opened, some ⟨"ann", "User"⟩⟩] }
    let outcome (dry : Bool) := ((Reminder.run ⟨⟨"octo", "repo"⟩, dry⟩ ⟨none, none⟩ (some 7)).run
      Board.answer b).result.toOption
    outcome true = some .dryRun ∧ outcome false = some .commented := by
  decide +kernel

end IssueSteward
