import IssueSteward.Proofs.Requirement
import IssueSteward.Proofs.UnassignmentCourse

/-!
# When a user is taken off an issue

The rule of the unassignment service. `requirements` lists what has to hold of an event, in order;
`demand_eq_ok_iff` and `demand_eq_error_iff` say that the service asks for exactly that and tells
the first requirement that is not met. A removal is `Due` when they are all met and the thread of
the issue does not bear the marker of the commenter. `removes_iff_due` says that a user is taken off
an issue exactly then, over every tracker.
-/

namespace IssueSteward.Unassignment

open Program

/-- What has to hold of an event, in the order in which it is looked at. -/
def requirements : List (Requirement IssueCommentEvent) := [
  -- An event that does not tell its action is let pass.
  ⟨.notCreated, fun event => ∀ action ∈ event.action, action = "created"⟩,
  ⟨.noIssue, fun event => ∃ issue, event.issue = some issue⟩,
  ⟨.isPullRequest, fun event => ∃ issue ∈ event.issue, issue.isPullRequest = false⟩,
  ⟨.noCommentBody, fun event => ∃ comment ∈ event.comment, ∃ text ∈ comment.body, text ≠ ""⟩,
  ⟨.botAuthor, fun event => ∃ comment ∈ event.comment, ∃ user ∈ comment.user, user.isBot = false⟩,
  ⟨.notOpen, fun event => ∃ issue ∈ event.issue, issue.state = .opened⟩,
  ⟨.noCommand, fun event =>
    ∃ comment ∈ event.comment, ∃ text ∈ comment.body, hasUnassignCommand text = true⟩,
  ⟨.notAssignee, fun event => ∃ issue ∈ event.issue, ∃ comment ∈ event.comment,
    ∃ user ∈ comment.user, ∃ assignee ∈ issue.assignees,
      Text.eqCaseless assignee.login user.login = true⟩]

variable {ctx : Context} {d : Demand} {event : IssueCommentEvent} {reason : Skip}
  {es : List Exchange} {lines : List LogLine} {result : Except Failure Outcome}

/-- The action of an event is let pass exactly when the event tells none or a new comment. -/
theorem action_all_iff :
    event.action.all (· == "created") = true ↔ ∀ action ∈ event.action, action = "created" := by
  simp only [Option.all_eq_true, Option.mem_def, beq_iff_eq]

/-- An event that asks for nothing gives the reason of the first requirement that it does not
meet. -/
theorem firstUnmet_of_demand (h : demand event = .error reason) :
    FirstUnmet event requirements reason := by
  unfold demand at h
  rcases require_bind_eq_error.1 h with ⟨haction, rfl⟩ | ⟨haction, h⟩
  · exact .here (action_all_iff.not.1 (Bool.eq_false_iff.1 haction))
  refine .later (action_all_iff.1 haction) ?_
  rcases obtain_bind_eq_error.1 h with ⟨hissue, rfl⟩ | ⟨issue, hissue, h⟩
  · exact .here (by simp [hissue])
  refine .later ⟨issue, hissue⟩ ?_
  rcases require_bind_eq_error.1 h with ⟨hpull, rfl⟩ | ⟨hpull, h⟩
  · exact .here (by simpa [hissue] using hpull)
  refine .later ⟨issue, hissue, by simpa using hpull⟩ ?_
  rcases obtain_bind_eq_error.1 h with ⟨hcomment, rfl⟩ | ⟨comment, hcomment, h⟩
  · exact .here (by simp [hcomment])
  rcases obtain_bind_eq_error.1 h with ⟨htext, rfl⟩ | ⟨text, htext, h⟩
  · exact .here (by simp [hcomment, htext])
  rcases require_bind_eq_error.1 h with ⟨hne, rfl⟩ | ⟨hne, h⟩
  · exact .here (by simpa [hcomment, htext] using hne)
  refine .later ⟨comment, hcomment, text, htext, by simpa using hne⟩ ?_
  rcases obtain_bind_eq_error.1 h with ⟨huser, rfl⟩ | ⟨user, huser, h⟩
  · exact .here (by simp [hcomment, huser])
  rcases require_bind_eq_error.1 h with ⟨hbot, rfl⟩ | ⟨hbot, h⟩
  · exact .here (by simpa [hcomment, huser] using hbot)
  refine .later ⟨comment, hcomment, user, huser, by simpa using hbot⟩ ?_
  rcases require_bind_eq_error.1 h with ⟨hopen, rfl⟩ | ⟨hopen, h⟩
  · exact .here (by simpa [hissue] using hopen)
  refine .later ⟨issue, hissue, by simpa using hopen⟩ ?_
  rcases require_bind_eq_error.1 h with ⟨hcommand, rfl⟩ | ⟨hcommand, h⟩
  · exact .here (by simpa [hcomment, htext] using hcommand)
  refine .later ⟨comment, hcomment, text, htext, hcommand⟩ ?_
  rcases require_bind_eq_error.1 h with ⟨hassigned, rfl⟩ | ⟨-, h⟩
  · exact .here (by simpa [hissue, hcomment, huser, Issue.isAssignedTo] using hassigned)
  cases h

/-- An event that asks for something meets all requirements. -/
theorem met_of_demand (h : demand event = .ok d) : ∀ r ∈ requirements, r.Met event := by
  obtain ⟨issue, comment, text, user, haction, hissue, hpull, hcomment, htext, hne, huser, hbot,
    hopen, hcommand, hassigned, rfl⟩ := demand_eq_ok.1 h
  obtain ⟨assignee, hmem, hname⟩ := List.any_eq_true.1 hassigned
  simp only [requirements, List.forall_mem_cons]
  exact ⟨action_all_iff.1 haction, ⟨issue, hissue⟩, ⟨issue, hissue, hpull⟩,
    ⟨comment, hcomment, text, htext, hne⟩, ⟨comment, hcomment, user, huser, hbot⟩,
    ⟨issue, hissue, hopen⟩, ⟨comment, hcomment, text, htext, hcommand⟩,
    ⟨issue, hissue, comment, hcomment, user, huser, assignee, hmem, hname⟩, by simp⟩

/-- An event asks for something exactly when it meets all requirements, and then for its commenter
to be taken off its issue. -/
theorem demand_eq_ok_iff :
    demand event = .ok d ↔ commenter? event = some d ∧ ∀ r ∈ requirements, r.Met event := by
  constructor
  · exact fun h => ⟨commenter_of_demand h, met_of_demand h⟩
  · rintro ⟨hcommenter, hmet⟩
    rcases hdemand : demand event with reason | d'
    · exact absurd (firstUnmet_of_demand hdemand) (not_firstUnmet hmet)
    · have hsame := commenter_of_demand hdemand
      rw [hcommenter] at hsame
      rw [Option.some.inj hsame]

/-- An event is left alone for the reason of the first requirement that it does not meet. -/
theorem demand_eq_error_iff :
    demand event = .error reason ↔ FirstUnmet event requirements reason := by
  refine ⟨firstUnmet_of_demand, fun hfirst => ?_⟩
  rcases hdemand : demand event with reason' | d
  · rw [(firstUnmet_of_demand hdemand).unique hfirst]
  · exact absurd hfirst (not_firstUnmet (met_of_demand hdemand))

variable {σ : Type} {tracker : Tracker σ} {s t : σ}

/-- It is due to take a user off an issue. -/
structure Due (tracker : Tracker σ) (ctx : Context) (event : IssueCommentEvent) (s : σ)
    (d : Demand) : Prop where
  /-- The issue and the user are those of the event. -/
  commenter : commenter? event = some d
  /-- The event meets all requirements. -/
  met : ∀ r ∈ requirements, r.Met event
  /-- The thread of the issue does not tell that the user was taken off it before. -/
  unmarked : (Marker.unassigned d.login).Absent tracker ctx.repository d.number s

/-- Where an event asks for something, only that can be due, and it is where the thread does not
bear the marker. -/
theorem due_iff_of_demand {d' : Demand} (h : demand event = .ok d) :
    Due tracker ctx event s d' ↔
      d' = d ∧ (Marker.unassigned d.login).Absent tracker ctx.repository d.number s := by
  obtain ⟨hcommenter, hmet⟩ := demand_eq_ok_iff.1 h
  constructor
  · rintro ⟨hcommenter', -, habsent⟩
    rw [hcommenter] at hcommenter'
    obtain rfl := Option.some.inj hcommenter'
    exact ⟨rfl, habsent⟩
  · rintro ⟨rfl, habsent⟩
    exact ⟨hcommenter, hmet, habsent⟩

/-! ## What a removal does -/

/-- A removal asks for the user to be taken off the issue once, where the marker is absent from the
thread and it is no dry run, and does not ask for it otherwise. -/
theorem Removal.filter_remove (h : Removal ctx d es lines result) (ha : Answers tracker s es t) :
    let absent := (Marker.unassigned d.login).Absent tracker ctx.repository d.number s
    ((absent ∧ ctx.dryRun = false) ∧ (es.map Exchange.request).filter (·.operation = .remove) =
        [.unassign ctx.repository d.number d.login]) ∨
    (¬ (absent ∧ ctx.dryRun = false) ∧
      (es.map Exchange.request).filter (·.operation = .remove) = []) := by
  intro absent
  cases h with
  | unlisted => exact .inr ⟨fun h => Marker.not_absent_of_error ha.1 h.1, rfl⟩
  | marked hmark =>
    refine .inr ⟨fun h => ?_, rfl⟩
    rw [(Marker.absent_iff_of_ok ha.1).1 h.1] at hmark
    cases hmark
  | previewed hmark hdry => exact .inr ⟨fun h => by simp [hdry] at h, rfl⟩
  | kept hmark hdry => exact .inl ⟨⟨(Marker.absent_iff_of_ok ha.1).2 hmark, hdry⟩, rfl⟩
  | unconfirmed hmark hdry => exact .inl ⟨⟨(Marker.absent_iff_of_ok ha.1).2 hmark, hdry⟩, rfl⟩
  | confirmed hmark hdry => exact .inl ⟨⟨(Marker.absent_iff_of_ok ha.1).2 hmark, hdry⟩, rfl⟩

/-- A removal only fails with a request that fails. -/
theorem Removal.exists_of_error {f : Failure} (h : Removal ctx d es lines (.error f)) :
    ∃ e ∈ es, e.Fails f := by
  cases h with
  | unlisted => exact ⟨_, .head _, rfl⟩
  | kept => exact ⟨_, .tail _ (.head _), rfl⟩
  | unconfirmed => exact ⟨_, .tail _ (.tail _ (.head _)), rfl⟩

/-! ## The rule -/

/-- Where an event does not meet all requirements, nothing is asked for, and the reason is that of
the first that it does not meet. -/
theorem run_of_unmet (tracker : Tracker σ) (s : σ) (h : ∃ q ∈ requirements, ¬ q.Met event) :
    let r := (run ctx event).run tracker s
    r.calls = [] ∧
      ∃ reason, FirstUnmet event requirements reason ∧ r.result = .ok (.skipped reason) := by
  intro r
  rcases cases_of_course (course_run tracker (run ctx event) s) with
    ⟨reason, hdemand, hes, -, hresult⟩ | ⟨d, own, hdemand, -, -⟩
  · refine ⟨?_, reason, demand_eq_error_iff.1 hdemand, hresult⟩
    rw [calls_run, hes, List.map_nil]
  · obtain ⟨q, hq, hunmet⟩ := h
    exact absurd (met_of_demand hdemand q hq) hunmet

/-- The service only fails with a request that fails. -/
theorem exists_of_run_error {f : Failure} (h : ((run ctx event).run tracker s).result = .error f) :
    ∃ e ∈ (run ctx event).exchanges tracker s, e.Fails f := by
  have hcourse := course_run tracker (run ctx event) s
  rw [h] at hcourse
  rcases cases_of_course hcourse with ⟨reason, -, -, -, hresult⟩ | ⟨d, own, -, hremoval, -⟩
  · cases hresult
  · exact hremoval.exists_of_error

/-- Either a removal is due and it is no dry run, and the service asks once for it, or it asks for
none. -/
theorem removals_of_run (tracker : Tracker σ) (ctx : Context) (event : IssueCommentEvent) (s : σ) :
    let removals := ((run ctx event).run tracker s).calls.filter (·.operation = .remove)
    (∃ d, (Due tracker ctx event s d ∧ ctx.dryRun = false) ∧
      removals = [.unassign ctx.repository d.number d.login]) ∨
    (¬ (∃ d, Due tracker ctx event s d ∧ ctx.dryRun = false) ∧ removals = []) := by
  intro removals
  have hcalls : removals = (((run ctx event).exchanges tracker s).map Exchange.request).filter
      (·.operation = .remove) := congrArg _ (calls_run tracker _ s)
  rcases cases_of_course (course_run tracker (run ctx event) s) with
    ⟨reason, hdemand, hes, -, -⟩ | ⟨d, own, hdemand, hremoval, -⟩
  · refine .inr ⟨fun ⟨d, hdue, _⟩ => ?_, by rw [hcalls, hes]; rfl⟩
    exact not_firstUnmet hdue.met (demand_eq_error_iff.1 hdemand)
  · rw [hcalls]
    rcases hremoval.filter_remove (answers_run tracker (run ctx event) s) with
      ⟨⟨habsent, hdry⟩, hfilter⟩ | ⟨hnot, hfilter⟩
    · exact .inl ⟨d, ⟨(due_iff_of_demand hdemand).2 ⟨rfl, habsent⟩, hdry⟩, hfilter⟩
    · refine .inr ⟨fun ⟨d', hdue, hdry⟩ => hnot ⟨?_, hdry⟩, hfilter⟩
      exact ((due_iff_of_demand hdemand).1 hdue).2

/-- The service asks for a user to be taken off an issue exactly when that is due and it is no dry
run, and then once, for the issue and the commenter of the event. Where an event does not meet all
requirements, nothing is asked for, and the reason is that of the first that it does not meet. The
service only fails with a request that fails. -/
theorem removes_iff_due (tracker : Tracker σ) (ctx : Context) (event : IssueCommentEvent) (s : σ) :
    let r := (run ctx event).run tracker s
    (.remove ∈ r.calls.map Request.operation ↔
      ∃ d, Due tracker ctx event s d ∧ ctx.dryRun = false) ∧
    (∀ d, Due tracker ctx event s d → ctx.dryRun = false →
      r.calls.filter (·.operation = .remove) = [.unassign ctx.repository d.number d.login]) ∧
    ((∃ q ∈ requirements, ¬ q.Met event) →
      r.calls = [] ∧
        ∃ reason, FirstUnmet event requirements reason ∧ r.result = .ok (.skipped reason)) ∧
    ∀ f, r.result = .error f → ∃ e ∈ (run ctx event).exchanges tracker s, e.Fails f := by
  intro r
  refine ⟨?_, fun d hdue hdry => ?_, run_of_unmet tracker s, fun f hf => exists_of_run_error hf⟩
  · rw [Request.operation_mem_iff]
    rcases removals_of_run tracker ctx event s with ⟨d, hdue, hfilter⟩ | ⟨hnot, hfilter⟩
    · exact ⟨fun _ => ⟨d, hdue⟩, fun _ => hfilter ▸ List.cons_ne_nil _ _⟩
    · exact ⟨fun h => absurd hfilter h, fun h => absurd h hnot⟩
  · rcases removals_of_run tracker ctx event s with ⟨d', ⟨hdue', -⟩, hfilter⟩ | ⟨hnot, -⟩
    · -- the commenter of an event is one
      have hsame := hdue'.commenter
      rw [hdue.commenter] at hsame
      rw [Option.some.inj hsame]
      exact hfilter
    · exact absurd ⟨d, hdue, hdry⟩ hnot

end IssueSteward.Unassignment
