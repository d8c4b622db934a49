import IssueSteward.Board
import IssueSteward.Outcome
import IssueSteward.Proofs.Course
import IssueSteward.Proofs.MarkerText
import Mathlib.Data.List.Forall2

/-!
# What has to hold for a service to act

A service acts on an event if a few conditions hold of it, and otherwise tells the first one that
does not. A `Requirement` is such a condition with the reason that it gives, and `FirstUnmet` says
which reason a list of them gives; `firstSkip_eq_some_iff` reads such a list off the checks of a
service. Besides, the marker of what the service does has to be `Absent` from a thread that it can
read.
-/

namespace IssueSteward

/-- A condition on the inputs of a service. -/
structure Requirement (α : Type) where
  /-- The reason to leave an input alone of which the condition does not hold. -/
  reason : Skip
  /-- What it is for the condition to hold. -/
  Met : α → Prop

variable {α β : Type} {a : α} {rs : List (Requirement α)} {reason reason' : Skip}

/-- The reason is that of the first requirement of a list that is not met. -/
inductive FirstUnmet (a : α) : List (Requirement α) → Skip → Prop
  /-- The head of the list is not met. -/
  | here {r : Requirement α} {rs : List (Requirement α)} (hunmet : ¬ r.Met a) :
      FirstUnmet a (r :: rs) r.reason
  /-- The head of the list is met, and the first that is not is in the rest. -/
  | later {r : Requirement α} {rs : List (Requirement α)} {reason : Skip} (hmet : r.Met a)
      (hrest : FirstUnmet a rs reason) : FirstUnmet a (r :: rs) reason

/-- A list of requirements gives one reason at most. -/
theorem FirstUnmet.unique (h : FirstUnmet a rs reason) (h' : FirstUnmet a rs reason') :
    reason = reason' := by
  induction h with
  | here hunmet =>
    rcases h' with _ | ⟨hmet, -⟩
    · rfl
    · exact absurd hmet hunmet
  | later hmet _ ih =>
    rcases h' with hunmet | ⟨-, hrest⟩
    · exact absurd hmet hunmet
    · exact ih hrest

/-- A list of requirements gives a reason exactly when one of them is not met. -/
theorem exists_firstUnmet_iff : (∃ reason, FirstUnmet a rs reason) ↔ ∃ r ∈ rs, ¬ r.Met a := by
  constructor
  · rintro ⟨reason, h⟩
    induction h with
    | here hunmet => exact ⟨_, List.mem_cons_self, hunmet⟩
    | later _ _ ih =>
      obtain ⟨r, hr, hunmet⟩ := ih
      exact ⟨r, List.mem_cons_of_mem _ hr, hunmet⟩
  · rintro ⟨r, hr, hunmet⟩
    induction rs with
    | nil => cases hr
    | cons r' rs ih =>
      by_cases hmet : r'.Met a
      · rcases List.mem_cons.1 hr with rfl | hr
        · exact absurd hmet hunmet
        · obtain ⟨reason, h⟩ := ih hr
          exact ⟨reason, .later hmet h⟩
      · exact ⟨r'.reason, .here hmet⟩

/-- Where all requirements are met, there is no first that is not. -/
theorem not_firstUnmet (h : ∀ r ∈ rs, r.Met a) : ¬ FirstUnmet a rs reason := by
  intro hfirst
  obtain ⟨r, hr, hunmet⟩ := exists_firstUnmet_iff.1 ⟨reason, hfirst⟩
  exact hunmet (h r hr)

/-! ## Reasons that checks give -/

/-- A check tests for a requirement when it gives the reason exactly where that is not met. -/
def Check.TestsFor (check : Check α) (r : Requirement α) : Prop :=
  ∀ a reason, check a = some reason ↔ ¬ r.Met a ∧ r.reason = reason

/-- The checks of a list, each of which tests for one requirement, give the reason of the first that
is not met. -/
theorem firstSkip_eq_some_iff {checks : List (Check α)}
    (h : List.Forall₂ Check.TestsFor checks rs) :
    firstSkip checks a = some reason ↔ FirstUnmet a rs reason := by
  unfold firstSkip
  induction h with
  | nil =>
    constructor
    · rintro ⟨⟩
    · rintro ⟨⟩
  | @cons check r checks rs htests _ ih =>
    rw [List.findSome?_cons]
    rcases hcheck : check a with _ | given
    · have hmet : r.Met a := by
        by_contra hunmet
        have hgiven := (htests a r.reason).2 ⟨hunmet, rfl⟩
        rw [hcheck] at hgiven
        cases hgiven
      rw [ih]
      constructor
      · exact .later hmet
      · rintro (hunmet | ⟨-, hrest⟩)
        · exact absurd hmet hunmet
        · exact hrest
    · obtain ⟨hunmet, rfl⟩ := (htests a given).1 hcheck
      constructor
      · rintro ⟨⟩
        exact .here hunmet
      · intro hfirst
        exact congrArg some ((FirstUnmet.here hunmet).unique hfirst)

/-- The checks of a list, each of which tests for one requirement, give no reason exactly where all
are met. -/
theorem firstSkip_eq_none_iff {checks : List (Check α)}
    (h : List.Forall₂ Check.TestsFor checks rs) :
    firstSkip checks a = none ↔ ∀ r ∈ rs, r.Met a := by
  rw [Option.eq_none_iff_forall_ne_some]
  constructor
  · intro hnone r hr
    by_contra hunmet
    obtain ⟨reason, hfirst⟩ := exists_firstUnmet_iff.2 ⟨r, hr, hunmet⟩
    exact hnone reason ((firstSkip_eq_some_iff h).2 hfirst)
  · intro hmet reason hsome
    exact not_firstUnmet hmet ((firstSkip_eq_some_iff h).1 hsome)

/-! ## Threads without a marker -/

namespace Marker

variable {σ : Type} {tracker : Program.Tracker σ} {repository : Repository} {number : UInt64}
  {s : σ} {m : Marker}

/-- The comments of a thread are to be had from a tracker, and none of them bears a marker. -/
def Absent (m : Marker) (tracker : Program.Tracker σ) (repository : Repository) (number : UInt64)
    (s : σ) : Prop :=
  ∃ comments : List Comment, (tracker (.comments repository number) s).reply = .ok comments ∧
    ∀ c ∈ comments, ∀ body ∈ c.body, ¬ m.Bears body

/-- Where the comments of a thread are to be had, a marker is absent exactly when it is not found
in them. -/
theorem absent_iff_of_ok {comments : List Comment}
    (h : (tracker (.comments repository number) s).reply = .ok comments) :
    m.Absent tracker repository number s ↔ m.isIn comments = false := by
  rw [isIn_eq_false_iff]
  constructor
  · rintro ⟨comments', hlisted, hnone⟩
    rw [h] at hlisted
    rw [Except.ok.inj hlisted]
    exact hnone
  · exact fun hnone => ⟨comments, h, hnone⟩

/-- Where the comments of a thread are not to be had, no marker counts as absent. -/
theorem not_absent_of_error {f : Failure}
    (h : (tracker (.comments repository number) s).reply = .error f) :
    ¬ m.Absent tracker repository number s := by
  rintro ⟨comments, hlisted, -⟩
  rw [h] at hlisted
  cases hlisted

end Marker

/-! ## What is asked for and what fails -/

/-- Requests ask for an operation exactly when some of them are left when all others are dropped. -/
theorem Request.operation_mem_iff {operation : Operation} {requests : List Request} :
    operation ∈ requests.map Request.operation ↔
      requests.filter (·.operation = operation) ≠ [] := by
  rw [Ne, List.filter_eq_nil_iff]
  simp

/-- An exchange fails when there is a failure in the place of a reply. -/
def Exchange.Fails (e : Exchange) (f : Failure) : Prop := e.reply = .error f

end IssueSteward
