import IssueSteward.Proofs.Records
import Mathlib.Data.List.Forall2

/-!
# What threads hold

Threads only grow, and what they hold is what was posted. `Entry.Leaves` says which comments a step
leaves on a thread, by what the step is and how it ends: the comment of someone, the reminder for an
author, the confirmation for a user, or none. `leaves_addedTo` shows that a step adds exactly these,
and `posts_after_run` that a thread holds after a session what it held before and then what the
steps left on it, one after the other. `after_of_vain` is the other half: a step that comes to
nothing changes nothing at all. Both make up `threads_hold_posts`.
-/

namespace IssueSteward.Session

open Program

/-- The comments that a step leaves on a thread. -/
inductive Entry.Leaves (e : Entry) (number : UInt64) : List Comment → Prop
  /-- Someone comments on the thread. -/
  | written {comment : Comment} (hstep : e.step = .comment number comment) :
      e.Leaves number [comment]
  /-- The step ends with a reminder posted on the pull request, for its author. -/
  | reminded {pr : PullRequest} {user : User} (hreminded : e.reminded number = true)
      (hpull : e.pull? = some pr) (huser : pr.user = some user) :
      e.Leaves number
        [⟨some (Reminder.body e.before.ctx.repository user.login), some Board.poster⟩]
  /-- The step ends with its commenter taken off the issue. -/
  | unassigned {login : String} (hunassigned : e.unassigned ⟨number, login⟩ = true) :
      e.Leaves number [⟨some (Unassignment.body login), some Board.poster⟩]
  /-- None of these is the case. -/
  | nothing (hcomment : ∀ comment, e.step ≠ .comment number comment)
      (hreminded : e.reminded number = false)
      (hunassigned : ∀ login, e.unassigned ⟨number, login⟩ = false) : e.Leaves number []

/-- Whether a step comes to nothing: a text describes no pull request, a pull request is only looked
for, or a service ends in a failure, in a dry run, or with a reason to leave its event alone. -/
def Answer.isVain : Answer → Bool
  | .rejected _ | .resolved _ => true
  | .outcome report =>
    match report.result with
    | .error _ | .ok .dryRun | .ok (.skipped _) => true
    | .ok .commented | .ok .unassigned => false
  | _ => false

namespace Entry

/-! ## What a step adds to a thread -/

/-- A step that adds nothing adds nothing to a thread. -/
theorem addedTo_of_nil {e : Entry} (h : e.added = []) (number : UInt64) : e.addedTo number = [] := by
  unfold addedTo
  rw [h]
  rfl

/-- A step that adds one comment adds it to its thread and to no other. -/
theorem addedTo_of_singleton {e : Entry} {n : UInt64} {comment : Comment}
    (h : e.added = [(n, comment)]) (number : UInt64) :
    e.addedTo number = if n = number then [comment] else [] := by
  unfold addedTo
  rw [h, List.filter_cons]
  simp only [beq_iff_eq]
  split <;> rfl

/-- A step that is not one of the reminder service posts no reminder. -/
theorem reminded_eq_false {e : Entry} (h : e.step.isReminder = false) (number : UInt64) :
    e.reminded number = false := by
  rw [Bool.eq_false_iff]
  intro hreminded
  rw [isReminder_of_pullNumber (reminded_iff.1 hreminded).1] at h
  cases h

/-- A step that is not one of the unassignment service takes no one off an issue. -/
theorem unassigned_eq_false {e : Entry} (h : ∀ file, e.step ≠ .unassign file)
    (d : Unassignment.Demand) : e.unassigned d = false := by
  rw [Bool.eq_false_iff]
  intro hunassigned
  obtain ⟨file, hfile⟩ := unassign_of_commenter (unassigned_iff.1 hunassigned).1
  exact h file hfile

/-- A step of the reminder service adds to a thread what it has to leave there. -/
theorem leaves_of_reminder {e : Entry} (h : e.step.isReminder = true) (number : UInt64) :
    e.Leaves number (e.addedTo number) := by
  have hcomment : ∀ comment, e.step ≠ .comment number comment := by
    intro comment hstep
    rw [hstep] at h
    cases h
  have hunassigned : ∀ login, e.unassigned ⟨number, login⟩ = false := by
    refine fun login => unassigned_eq_false (fun file hfile => ?_) _
    rw [hfile] at h
    cases h
  rcases added_of_reminder h with ⟨hnil, hother⟩ | ⟨pr, user, hreminded, hpull, huser, hadded⟩
  · rw [addedTo_of_nil hnil]
    refine .nothing hcomment ?_ hunassigned
    rw [Bool.eq_false_iff]
    exact fun hreminded => hother (reminded_iff.1 hreminded).2
  · rw [addedTo_of_singleton hadded]
    split
    · rename_i hnumber
      exact .reminded (hnumber ▸ hreminded) hpull huser
    · -- the reminder is posted elsewhere
      rename_i hnumber
      refine .nothing hcomment ?_ hunassigned
      rw [Bool.eq_false_iff]
      intro hhere
      have hpr := (reminded_iff.1 hreminded).1
      exact hnumber (Option.some.inj (hpr.symm.trans (reminded_iff.1 hhere).1))

/-- A step of the unassignment service adds to a thread what it has to leave there. -/
theorem leaves_of_unassign {e : Entry} {file : Option ByteArray} (hfile : e.step = .unassign file)
    (number : UInt64) : e.Leaves number (e.addedTo number) := by
  have hcomment : ∀ comment, e.step ≠ .comment number comment := by simp [hfile]
  have hreminded : e.reminded number = false := reminded_eq_false (by rw [hfile]; rfl) number
  rcases added_of_unassign hfile with ⟨hnil, hother⟩ | ⟨d, hunassigned, hadded⟩
  · rw [addedTo_of_nil hnil]
    refine .nothing hcomment hreminded fun login => ?_
    rw [Bool.eq_false_iff]
    exact fun hunassigned => hother (unassigned_iff.1 hunassigned).2
  · obtain ⟨n, login⟩ := d
    rw [addedTo_of_singleton hadded]
    simp only
    split
    · rename_i hnumber
      subst hnumber
      exact .unassigned hunassigned
    · -- the confirmation is posted elsewhere
      rename_i hnumber
      refine .nothing hcomment hreminded fun login' => ?_
      rw [Bool.eq_false_iff]
      intro hhere
      have hd := (unassigned_iff.1 hunassigned).1.symm.trans (unassigned_iff.1 hhere).1
      exact hnumber (congrArg Unassignment.Demand.number (Option.some.inj hd))

/-- A step adds to a thread what it has to leave there. -/
theorem leaves_addedTo (e : Entry) (number : UInt64) : e.Leaves number (e.addedTo number) := by
  cases hstep : e.step with
  | comment n comment =>
    have hadded : e.added = [(n, comment)] := by
      unfold added
      rw [hstep]
    rw [addedTo_of_singleton hadded]
    split
    · rename_i hnumber
      exact .written (hnumber ▸ hstep)
    · rename_i hnumber
      refine .nothing (fun c hc => ?_) (reminded_eq_false (by rw [hstep]; rfl) number)
        fun login => unassigned_eq_false (by simp [hstep]) _
      rw [hstep] at hc
      exact hnumber (Step.comment.inj hc).1
  | remind file n => exact leaves_of_reminder (by rw [hstep]; rfl) number
  | notify text => exact leaves_of_reminder (by rw [hstep]; rfl) number
  | unassign file => exact leaves_of_unassign hstep number
  | _ =>
    -- no service runs to an outcome
    have hnone : e.step.program? e.before.ctx = none := by
      rw [hstep]
      rfl
    rw [addedTo_of_nil (added_of_no_program (by simp [hstep]) hnone)]
    exact .nothing (by simp [hstep]) (reminded_eq_false (by rw [hstep]; rfl) number)
      fun login => unassigned_eq_false (by simp [hstep]) _

/-! ## Steps that come to nothing -/

/-- A step that runs a service changes nothing but the board, by the comments that it adds. -/
theorem after_of_program {e : Entry} {p : Program Outcome}
    (hp : e.step.program? e.before.ctx = some p) :
    e.after =
      { e.before with
        board := { e.before.board with posts := e.before.board.posts ++ e.added } } := by
  obtain ⟨lines, result, -, hanswers, -, -⟩ := run_of_program hp
  have hboard := Board.eq_of_answers hanswers
  rw [← added_of_exchanges (ne_comment_of_program hp)] at hboard
  rw [← hboard]
  unfold after
  rw [step_of_program hp]

/-- A step that runs a service and adds nothing changes nothing. -/
theorem after_of_added {e : Entry} {p : Program Outcome}
    (hp : e.step.program? e.before.ctx = some p) (h : e.added = []) : e.after = e.before := by
  rw [after_of_program hp, h, List.append_nil]

/-- A step that ends neither with a reminder posted nor with a user taken off an issue, and is no
comment of someone, adds nothing. -/
theorem added_of_outcome {e : Entry} (hcomment : ∀ number comment, e.step ≠ .comment number comment)
    (hreminded : e.outcome? ≠ some .commented) (hunassigned : e.outcome? ≠ some .unassigned) :
    e.added = [] := by
  cases hstep : e.step with
  | comment n c => exact absurd hstep (hcomment n c)
  | unassign file =>
    rcases added_of_unassign hstep with ⟨hnil, -⟩ | ⟨d, hdone, -⟩
    · exact hnil
    · exact absurd (unassigned_iff.1 hdone).2 hunassigned
  | remind file n =>
    rcases added_of_reminder (by rw [hstep]; rfl) with ⟨hnil, -⟩ | ⟨pr, user, hdone, -⟩
    · exact hnil
    · exact absurd (reminded_iff.1 hdone).2 hreminded
  | notify text =>
    rcases added_of_reminder (by rw [hstep]; rfl) with ⟨hnil, -⟩ | ⟨pr, user, hdone, -⟩
    · exact hnil
    · exact absurd (reminded_iff.1 hdone).2 hreminded
  | _ => exact added_of_no_program hcomment (by rw [hstep]; rfl)

/-- A step that comes to nothing ends neither with a reminder posted nor with a user taken off an
issue. -/
theorem outcome_of_vain {e : Entry} (h : e.answer.isVain = true) :
    e.outcome? ≠ some .commented ∧ e.outcome? ≠ some .unassigned := by
  unfold outcome?
  split
  · rename_i report hanswer
    rw [hanswer] at h
    rcases hresult : report.result with problem | outcome
    · simp [Except.toOption]
    · cases outcome with
      | commented => simp [Answer.isVain, hresult] at h
      | unassigned => simp [Answer.isVain, hresult] at h
      | dryRun => simp [Except.toOption]
      | skipped reason => simp [Except.toOption]
  · simp

/-- A step that comes to nothing changes nothing. -/
theorem after_of_vain {e : Entry} (h : e.answer.isVain = true) : e.after = e.before := by
  rcases hp : e.step.program? e.before.ctx with _ | p
  · unfold answer at h
    unfold after
    cases hstep : e.step with
    | pull text =>
      rw [hstep] at h
      simp only [State.step] at h ⊢
      split at h
      · cases h
      · rfl
    | resolve file number =>
      simp only [State.step, State.carryOut]
      split
      · rfl
      · rw [board_of_resolve]
    | remind | unassign | notify =>
      -- the payload of a service is not loaded
      rw [hstep] at hp
      obtain ⟨fault, hf⟩ := eq_error_of_toOption (Option.map_eq_none_iff.1 hp)
      simp only [State.step, hf, State.carryOut]
    | _ =>
      -- the other steps do what they are to do
      rw [hstep] at h
      cases h
  · obtain ⟨hreminded, hunassigned⟩ := outcome_of_vain h
    exact after_of_added hp
      (added_of_outcome (ne_comment_of_program hp) hreminded hunassigned)

end Entry

/-! ## Sessions -/

/-- A session leaves on the board what was on it before, and then the comments that its steps add. -/
theorem posts_after_run (s : State) (steps : List Step) :
    (s.run steps).2.board.posts = s.board.posts ++ (s.history steps).flatMap Entry.added := by
  induction steps generalizing s with
  | nil => simp [State.run, State.history]
  | cons step steps ih =>
    simp only [State.run, State.history, List.flatMap_cons]
    rw [ih, ← List.append_assoc]
    exact congrArg (· ++ _) (Entry.posts_after ⟨s, step⟩)

/-- A thread holds after a session what it held before, and then the comments that the steps add to
it. -/
theorem thread_after_run (s : State) (steps : List Step) (number : UInt64) :
    (s.run steps).2.board.thread number =
      s.board.thread number ++ (s.history steps).flatMap fun e => e.addedTo number := by
  unfold Board.thread
  rw [posts_after_run, List.filter_append, List.map_append, List.filter_flatMap, List.map_flatMap]
  rfl

/-- Threads are only ever added to, and hold exactly what was posted. After a session a thread holds
what it held before, and then the comments that each step leaves on it, step by step: the comment of
someone, one reminder for each step that ends with a reminder posted there, and one confirmation for
each step that ends with a user taken off the issue. A step that comes to nothing leaves all threads
and stored pull requests as they are. -/
theorem threads_hold_posts (s : State) (steps : List Step) :
    (∀ number, ∃ comments,
      List.Forall₂ (fun e added => e.Leaves number added) (s.history steps) comments ∧
        (s.run steps).2.board.thread number = s.board.thread number ++ comments.flatten) ∧
      ∀ e ∈ s.history steps, e.answer.isVain = true → e.after = e.before := by
  refine ⟨fun number => ?_, fun e _ => e.after_of_vain⟩
  refine ⟨(s.history steps).map fun e => e.addedTo number, ?_, ?_⟩
  · rw [List.forall₂_map_right_iff, List.forall₂_same]
    exact fun e _ => e.leaves_addedTo number
  · rw [thread_after_run, List.flatMap_def]

/-- A removal whose confirmation is refused leaves the board as it is, though the user was taken off
the issue. -/
theorem threads_hold_posts_refused :
    let s : State := { ctx := ⟨⟨"octo", "repo"⟩, false⟩ }
    let steps : List Step := [.comment 7 ⟨some "Hi", none⟩, .refuse .create (some "down"),
      .unassign (commandPayload "ann")]
    ∃ e ∈ s.history steps, e.calls.map Request.operation = [.list, .remove, .create] ∧
      e.answer.isVain = true ∧ e.after = e.before := by
  intro s steps
  let e : Entry := ⟨(s.run [.comment 7 ⟨some "Hi", none⟩, .refuse .create (some "down")]).2,
    .unassign (commandPayload "ann")⟩
  have he : e ∈ s.history steps := .tail _ (.tail _ (.head _))
  have hvain : e.answer.isVain = true := by decide +kernel
  exact ⟨e, he, by decide +kernel, hvain, (threads_hold_posts s steps).2 e he hvain⟩

end IssueSteward.Session
