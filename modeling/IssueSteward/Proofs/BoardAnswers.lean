import IssueSteward.Board
import IssueSteward.Proofs.Course

/-!
# What a board answers

The replies of a board follow from its refusals, its threads and its pull requests
(`answer_comments_eq_ok`, `answer_pullRequest_eq_ok`), so that a course which looks for a marker
ends as the thread of the board says (`only_lists_of_marked`, `skipped_iff_isIn`). A board changes
only by the comments that are posted on it: `eq_of_answers` gives the board after some exchanges as
the one before with the comments that the exchanges add.
-/

namespace IssueSteward

/-- The comments that an exchange adds to a board, each with the number of its thread. -/
def Exchange.added : Exchange → List (UInt64 × Comment)
  | ⟨.comment _ number body, .ok _⟩ => [(number, ⟨some body, some Board.poster⟩)]
  | _ => []

/-- An exchange that fails adds nothing. -/
theorem Exchange.added_error (request : Request) (f : Failure) :
    Exchange.added ⟨request, .error f⟩ = [] := by
  cases request <;> rfl

/-- Only an exchange that asks to post a comment adds one. -/
theorem Exchange.added_eq_nil {e : Exchange} (h : e.request.operation ≠ .create) :
    e.added = [] := by
  obtain ⟨request, reply⟩ := e
  cases request with
  | comment repository number body => exact absurd rfl h
  | _ => rfl

/-- Exchanges of which none asks to post a comment add nothing. -/
theorem Exchange.flatMap_added_eq_nil {es : List Exchange}
    (h : ∀ e ∈ es, e.request.operation ≠ .create) : es.flatMap added = [] := by
  rw [List.flatMap_eq_nil_iff]
  exact fun e he => added_eq_nil (h e he)

namespace Board

open Program

variable {b c : Board} {r : Repository} {n : UInt64}

/-- A board that gets a request changes by the comment that the exchange adds, and by nothing
else. -/
theorem answer_state (request : Request) (b : Board) :
    (answer request b).state =
      { b with posts := b.posts ++ Exchange.added ⟨request, (answer request b).reply⟩ } := by
  unfold answer
  split
  -- a refused request changes nothing
  · simp only [Exchange.added_error, List.append_nil]
  · cases request with
    | pullRequest r n =>
      simp only [grant]
      split <;> simp [Exchange.added]
    | comments r n => simp [grant, Exchange.added]
    | comment r n body => rfl
    | unassign r n login => simp [grant, Exchange.added]

/-- After some exchanges a board is what it was, with the comments that they added. -/
theorem eq_of_answers {es : List Exchange} (h : Answers answer b es c) :
    c = { b with posts := b.posts ++ es.flatMap Exchange.added } := by
  induction es generalizing b with
  | nil =>
    cases h
    simp
  | cons e es ih =>
    obtain ⟨hreply, h⟩ := h
    rw [answer_state, hreply] at h
    have hc := ih h
    simp only at hc
    rw [hc, List.flatMap_cons, List.append_assoc]

/-- A board writes no lines. -/
theorem answer_lines (request : Request) (b : Board) : (answer request b).lines = [] := by
  unfold answer
  split <;> rfl

/-- A board does not break down. -/
theorem isCrash_of_answer {request : Request} {f : Failure}
    (h : (answer request b).reply = .error f) : f.isCrash = false := by
  unfold answer at h
  split at h
  · obtain rfl := Except.error.inj h
    rfl
  · cases request with
    | pullRequest r n =>
      simp only [grant] at h
      split at h
      · cases h
      · obtain rfl := Except.error.inj h
        rfl
    | _ => cases h

/-- A board lists the comments of a thread unless it refuses to. -/
theorem answer_comments_eq_ok {comments : List Comment} :
    (answer (.comments r n) b).reply = .ok comments ↔
      b.refusals .list = none ∧ b.thread n = comments := by
  unfold answer Request.operation
  split
  · simp_all
  · rename_i h
    exact ⟨fun e => ⟨h, Except.ok.inj e⟩, fun e => congrArg Except.ok e.2⟩

/-- A board gives the pull request of a number unless it refuses to or knows none. -/
theorem answer_pullRequest_eq_ok {pr : PullRequest} :
    (answer (.pullRequest r n) b).reply = .ok pr ↔
      b.refusals .get = none ∧ b.pull? n = some pr := by
  unfold answer Request.operation
  split
  · simp_all
  · rename_i h
    simp only [grant]
    split
    · rename_i found hfound
      rw [hfound]
      exact ⟨fun e => ⟨h, congrArg some (Except.ok.inj e)⟩,
        fun e => congrArg Except.ok (Option.some.inj e.2)⟩
    · simp_all

/-- The pull request of a number has that number. -/
theorem number_of_pull? {pr : PullRequest} (h : b.pull? n = some pr) : pr.number = n := by
  unfold pull? at h
  have hn := List.find?_some h
  exact eq_of_beq hn

/-- A course that looks for a marker where a board holds it does nothing else. -/
theorem only_lists_of_marked {m : Marker} {es : List Exchange} {result : Except Failure Outcome}
    (h : LooksFor m r n es result) (ha : Answers answer b es c)
    (hmark : m.isIn (b.thread n) = true) : ∀ e ∈ es, e.request.operation = .list := by
  cases h with
  | unlisted => simp [Request.operation]
  | found => simp [Request.operation]
  | absent habsent =>
    obtain ⟨-, rfl⟩ := answer_comments_eq_ok.1 ha.1
    rw [hmark] at habsent
    cases habsent

/-- A course that looks for a marker on a board that lists comments leaves something as done before
exactly when the board holds the marker. -/
theorem skipped_iff_isIn {m : Marker} {es : List Exchange} {result : Except Failure Outcome}
    (h : LooksFor m r n es result) (ha : Answers answer b es c) (hlist : b.refusals .list = none) :
    result = .ok (.skipped .alreadyCommented) ↔ m.isIn (b.thread n) = true := by
  have hlisted : (answer (.comments r n) b).reply = .ok (b.thread n) :=
    answer_comments_eq_ok.2 ⟨hlist, rfl⟩
  cases h with
  | unlisted =>
    have hrefused := hlisted.symm.trans ha.1
    cases hrefused
  | found hmark =>
    obtain ⟨-, rfl⟩ := answer_comments_eq_ok.1 ha.1
    simp [hmark]
  | absent hmark hresult =>
    obtain ⟨-, rfl⟩ := answer_comments_eq_ok.1 ha.1
    simp [hmark, hresult]

end Board

end IssueSteward
