import IssueSteward.Pattern
import Mathlib.Logic.Function.Iterate

/-!
# What a search for a pattern finds

A pattern leads from one place of a text to another (`Leads`): this says what it describes, without
marks and without a text around it. The search carries marks through the pattern, and
`carries_after` says that it carries them along that relation, by induction on the pattern. For a
repetition without an upper bound this needs that marks which are only ever added settle in as many
rounds as there are places (`settled_iterate`). `occursIn_iff` concludes that the search finds a
pattern exactly where it leads from some place of the text to some other.
-/

namespace IssueSteward.Pattern

/-- A place in a text: the character before it, if any, and what comes after it. -/
@[ext]
structure Place where
  /-- The last character before the place. -/
  before : Option Char
  /-- The text from the place on. -/
  rest : List Char

/-- The place of a text that so many characters stand before. -/
def placeAt (text : List Char) (i : Nat) : Place := ⟨(text.take i).getLast?, text.drop i⟩

/-- A relation leads from one thing to another in so many steps. -/
def Repeats {α : Type} (R : α → α → Prop) : Nat → α → α → Prop
  | 0, x, y => x = y
  | n + 1, x, y => ∃ z, R x z ∧ Repeats R n z y

/-- A pattern leads from one place to another: it describes what stands between them. -/
def Leads : Pattern → Place → Place → Prop
  | empty, x, y => x = y
  | char accepts _, x, y => ∃ c, x.rest = c :: y.rest ∧ y.before = some c ∧ accepts c = true
  | place holds, x, y => x = y ∧ holds x.before x.rest.head? = true
  | seq first second, x, y => ∃ z, first.Leads x z ∧ second.Leads z y
  | alt left right, x, y => left.Leads x y ∨ right.Leads x y
  | times pattern least most, x, y =>
    -- Where the bounds exclude each other, the lower one counts.
    ∃ n, least ≤ n ∧ (∀ m ∈ most, n ≤ max least m) ∧ Repeats pattern.Leads n x y

variable {α : Type} {R S : α → α → Prop} {x y z : α} {m n : Nat}

/-- Steps of one number and then of another are steps of both numbers together. -/
theorem repeats_add : Repeats R (m + n) x y ↔ ∃ z, Repeats R m x z ∧ Repeats R n z y := by
  induction m generalizing x with
  | zero => simp [Repeats]
  | succ m ih =>
    rw [Nat.succ_add]
    simp only [Repeats, ih]
    constructor
    · rintro ⟨w, hw, z, hz, hy⟩
      exact ⟨z, ⟨w, hw, hz⟩, hy⟩
    · rintro ⟨z, ⟨w, hw, hz⟩, hy⟩
      exact ⟨w, hw, z, hz, hy⟩

/-- Steps that may be left out are some of so many steps. -/
theorem repeats_or_eq : Repeats (fun x y => x = y ∨ R x y) n x y ↔ ∃ m ≤ n, Repeats R m x y := by
  induction n generalizing x with
  | zero => simp [Repeats]
  | succ n ih =>
    simp only [Repeats, ih]
    constructor
    · rintro ⟨z, rfl | hz, m, hm, hy⟩
      · exact ⟨m, by omega, hy⟩
      · exact ⟨m + 1, by omega, z, hz, hy⟩
    · rintro ⟨_ | m, hm, hy⟩
      · exact ⟨x, .inl rfl, 0, by omega, hy⟩
      · obtain ⟨z, hz, hy⟩ := hy
        exact ⟨z, .inr hz, m, by omega, hy⟩

/-- Steps of one number and then more are all steps together, which are at least of that number. -/
theorem repeats_from (P : Nat → Prop) :
    (∃ z, Repeats R m x z ∧ ∃ n, P n ∧ Repeats R n z y) ↔
      ∃ n, m ≤ n ∧ P (n - m) ∧ Repeats R n x y := by
  constructor
  · rintro ⟨z, hz, n, hn, hy⟩
    exact ⟨m + n, Nat.le_add_right m n, by rwa [Nat.add_sub_cancel_left],
      repeats_add.2 ⟨z, hz, hy⟩⟩
  · rintro ⟨n, hm, hn, hy⟩
    rw [← Nat.add_sub_cancel' hm] at hy
    obtain ⟨z, hz, hy⟩ := repeats_add.1 hy
    exact ⟨z, hz, n - m, hn, hy⟩

/-! ## Marks on the places of a text -/

variable {text : List Char} {marks more : List Bool} {step : List Bool → List Bool}

/-- There are as many marks as a text has places. -/
def Fits (text : List Char) (marks : List Bool) : Prop := marks.length = text.length + 1

/-- A place of a text is marked. -/
def Marked (text : List Char) (marks : List Bool) (x : Place) : Prop :=
  ∃ i, marks[i]? = some true ∧ x = placeAt text i

/-- A step carries marks along a relation between places. -/
def Carries (text : List Char) (step : List Bool → List Bool) (R : Place → Place → Prop) : Prop :=
  ∀ marks, Fits text marks → Fits text (step marks) ∧
    ∀ y, Marked text (step marks) y ↔ ∃ x, Marked text marks x ∧ R x y

/-- Doing nothing carries marks nowhere else. -/
theorem carries_id : Carries text id Eq := by
  intro marks hfits
  refine ⟨hfits, fun y => ?_⟩
  constructor
  · exact fun hy => ⟨y, hy, rfl⟩
  · rintro ⟨x, hx, rfl⟩
    exact hx

variable {R S : Place → Place → Prop}

/-- One step after another carries marks along both relations. -/
theorem Carries.comp {step' : List Bool → List Bool} (h : Carries text step R)
    (h' : Carries text step' S) :
    Carries text (fun marks => step' (step marks)) fun x y => ∃ z, R x z ∧ S z y := by
  intro marks hfits
  obtain ⟨hfits, hmarked⟩ := h marks hfits
  obtain ⟨hfits', hmarked'⟩ := h' _ hfits
  refine ⟨hfits', fun y => ?_⟩
  simp only [hmarked', hmarked]
  constructor
  · rintro ⟨z, ⟨x, hx, hz⟩, hy⟩
    exact ⟨x, hx, z, hz, hy⟩
  · rintro ⟨x, hx, z, hz, hy⟩
    exact ⟨z, ⟨x, hx, hz⟩, hy⟩

/-- A step and a relation may be replaced by ones that say the same. -/
theorem Carries.congr {step' : List Bool → List Bool} (h : Carries text step R)
    (hstep : ∀ marks, Fits text marks → step' marks = step marks)
    (hrelation : ∀ x y, S x y ↔ R x y) : Carries text step' S := by
  intro marks hfits
  rw [hstep marks hfits]
  simp only [hrelation]
  exact h marks hfits

/-- Marks put together mark what one of them marks. -/
theorem marked_or (hfits : Fits text marks) (hmore : Fits text more) {x : Place} :
    Marked text (List.zipWith or marks more) x ↔ Marked text marks x ∨ Marked text more x := by
  have hget (i : Nat) : (List.zipWith or marks more)[i]? = some true ↔
      marks[i]? = some true ∨ more[i]? = some true := by
    have hlength : marks.length = more.length := hfits.trans hmore.symm
    rw [List.getElem?_zipWith]
    by_cases hi : i < marks.length
    · simp [List.getElem?_eq_getElem hi, List.getElem?_eq_getElem (hlength ▸ hi)]
    · rw [List.getElem?_eq_none (Nat.le_of_not_lt hi),
        List.getElem?_eq_none (hlength ▸ Nat.le_of_not_lt hi)]
      simp
  unfold Marked
  simp only [hget, or_and_right, exists_or]

/-- Two steps from the same marks carry them along either relation. -/
theorem Carries.or {step' : List Bool → List Bool} (h : Carries text step R)
    (h' : Carries text step' S) :
    Carries text (fun marks => List.zipWith or (step marks) (step' marks)) fun x y =>
      R x y ∨ S x y := by
  intro marks hfits
  obtain ⟨hleft, hmarked⟩ := h marks hfits
  obtain ⟨hright, hmarked'⟩ := h' marks hfits
  refine ⟨?_, fun y => ?_⟩
  · unfold Fits at hleft hright ⊢
    rw [List.length_zipWith, hleft, hright, Nat.min_self]
  · rw [marked_or hleft hright, hmarked, hmarked']
    simp only [and_or_left, exists_or]

/-! ## Characters and places -/

/-- The place after a character of a text. -/
theorem placeAt_succ {c : Char} {i : Nat} (h : text[i]? = some c) :
    (placeAt text i).rest = c :: (placeAt text (i + 1)).rest ∧
      (placeAt text (i + 1)).before = some c := by
  obtain ⟨hi, rfl⟩ := List.getElem?_eq_some_iff.1 h
  refine ⟨List.drop_eq_getElem_cons hi, ?_⟩
  unfold placeAt
  rw [List.take_add_one, h, Option.toList_some, List.getLast?_concat]

/-- The test of a character carries marks behind the characters that it accepts. -/
theorem carries_char (accepts : Char → Bool) (room : Nat) :
    Carries text (after text (char accepts room)) (Leads (char accepts room)) := by
  intro marks hfits
  refine ⟨?_, fun y => ?_⟩
  · unfold Fits at hfits ⊢
    unfold after
    rw [List.length_cons, List.length_zipWith, hfits]
    omega
  have hget (i : Nat) : (List.zipWith (fun mark c => mark && accepts c) marks text)[i]? =
      some true ↔ marks[i]? = some true ∧ ∃ c, text[i]? = some c ∧ accepts c = true := by
    rw [List.getElem?_zipWith]
    rcases marks[i]? with _ | mark <;> rcases text[i]? with _ | c <;> simp
  constructor
  · rintro ⟨_ | i, hi, rfl⟩
    · cases hi
    · obtain ⟨hmark, c, hc, haccepts⟩ := (hget i).1 hi
      obtain ⟨hrest, hbefore⟩ := placeAt_succ hc
      exact ⟨placeAt text i, ⟨i, hmark, rfl⟩, c, hrest, hbefore, haccepts⟩
  · rintro ⟨_, ⟨i, hmark, rfl⟩, c, hrest, hbefore, haccepts⟩
    have hc : text[i]? = some c := by
      rw [← List.head?_drop]
      exact congrArg List.head? hrest
    refine ⟨i + 1, (hget i).2 ⟨hmark, c, hc, haccepts⟩, ?_⟩
    obtain ⟨hrest', hbefore'⟩ := placeAt_succ hc
    exact Place.ext (hbefore.trans hbefore'.symm) (List.cons.inj (hrest.symm.trans hrest')).2

/-- The characters around a place of a text that follows a character. -/
theorem getElem_surroundings (before : Option Char) {i : Nat} (hi : i ≤ text.length) :
    (surroundings before text)[i]? =
      some ((text.take i).getLast?.or before, (text.drop i).head?) := by
  induction text generalizing before i with
  | nil =>
    obtain rfl := Nat.le_zero.1 hi
    rfl
  | cons c text ih =>
    cases i with
    | zero => rfl
    | succ i =>
      unfold surroundings
      rw [List.getElem?_cons_succ, ih _ (Nat.le_of_succ_le_succ hi), List.take_succ_cons,
        List.getLast?_cons, List.drop_succ_cons]
      cases (text.take i).getLast? <;> rfl

/-- There are as many surroundings as places. -/
theorem length_surroundings (before : Option Char) :
    (surroundings before text).length = text.length + 1 := by
  induction text generalizing before with
  | nil => rfl
  | cons c text ih =>
    unfold surroundings
    rw [List.length_cons, ih, List.length_cons]

/-- The test of a place keeps the marks of the places that pass it. -/
theorem carries_place (holds : Option Char → Option Char → Bool) :
    Carries text (after text (place holds)) (Leads (place holds)) := by
  intro marks hfits
  refine ⟨?_, fun y => ?_⟩
  · unfold Fits at hfits ⊢
    unfold after
    rw [List.length_zipWith, hfits, length_surroundings, Nat.min_self]
  have hget (i : Nat) : (after text (place holds) marks)[i]? = some true ↔
      marks[i]? = some true ∧ holds (placeAt text i).before (placeAt text i).rest.head? = true := by
    unfold after
    rw [List.getElem?_zipWith]
    by_cases hi : i ≤ text.length
    · rw [getElem_surroundings none hi, Option.or_none]
      rcases marks[i]? with _ | mark <;> simp [placeAt]
    · have hout : marks[i]? = none := by
        rw [List.getElem?_eq_none_iff, hfits]
        omega
      simp [hout]
  constructor
  · rintro ⟨i, hi, rfl⟩
    obtain ⟨hmark, hholds⟩ := (hget i).1 hi
    exact ⟨_, ⟨i, hmark, rfl⟩, rfl, hholds⟩
  · rintro ⟨_, ⟨i, hmark, rfl⟩, rfl, hholds⟩
    exact ⟨i, (hget i).2 ⟨hmark, hholds⟩, rfl⟩

/-! ## Repetitions -/

/-- Steps that end early once nothing changes end where all of them would. -/
theorem steps_eq_iterate (step : List Bool → List Bool) (n : Nat) (marks : List Bool) :
    steps step n marks = step^[n] marks := by
  induction n generalizing marks with
  | zero => rfl
  | succ n ih =>
    by_cases hfixed : step marks = marks
    · simp only [steps, if_pos hfixed, Function.iterate_fixed hfixed]
    · simp only [steps, if_neg hfixed, ih, Function.iterate_succ_apply]

/-- What a step adds to marks, with these. -/
def adding (step : List Bool → List Bool) (marks : List Bool) : List Bool :=
  List.zipWith or marks (step marks)

/-- Steps up to a number add to the marks so many times. -/
theorem stepsUpTo_eq_iterate (step : List Bool → List Bool) (n : Nat) (marks : List Bool) :
    stepsUpTo step n marks = (adding step)^[n] marks := steps_eq_iterate _ n marks

/-- A step taken several times carries marks along its relation so many times. -/
theorem Carries.iterate (h : Carries text step R) (n : Nat) :
    Carries text (step^[n]) (Repeats R n) := by
  induction n with
  | zero => exact carries_id
  | succ n ih => exact h.comp ih

/-- Steps that add to the marks carry them along their relation up to so many times. -/
theorem Carries.stepsUpTo (h : Carries text step R) (n : Nat) :
    Carries text (stepsUpTo step n) fun x y => ∃ m ≤ n, Repeats R m x y := by
  have hstep : Carries text ((adding step)^[n]) _ := (carries_id.or h).iterate n
  intro marks hfits
  rw [stepsUpTo_eq_iterate]
  obtain ⟨hfits', hmarked⟩ := hstep marks hfits
  refine ⟨hfits', fun y => (hmarked y).trans ?_⟩
  simp only [repeats_or_eq]

/-- Marks that are added to others take none away. -/
theorem count_le_of_added (hlength : marks.length = more.length) :
    marks.count true ≤ (List.zipWith or marks more).count true := by
  induction marks generalizing more with
  | nil => exact Nat.zero_le _
  | cons mark marks ih =>
    cases more with
    | nil => cases hlength
    | cons mark' more =>
      have h := ih (Nat.succ.inj hlength)
      rw [List.zipWith_cons_cons, List.count_cons, List.count_cons]
      cases mark
      · rw [Bool.false_or]
        simp only [Bool.false_eq_true, beq_iff_eq, if_false]
        omega
      · rw [Bool.true_or]
        omega

/-- Where marks that are added change anything, there are more marks than before. -/
theorem count_lt_of_added (hlength : marks.length = more.length)
    (hadded : List.zipWith or marks more ≠ marks) :
    marks.count true < (List.zipWith or marks more).count true := by
  induction marks generalizing more with
  | nil => exact absurd rfl hadded
  | cons mark marks ih =>
    cases more with
    | nil => cases hlength
    | cons mark' more =>
      have hrest : marks.length = more.length := Nat.succ.inj hlength
      rw [List.zipWith_cons_cons, List.count_cons, List.count_cons]
      cases mark
      · cases mark'
        · -- the change is in the other marks
          have h := ih hrest fun h => hadded (congrArg (false :: ·) h)
          simpa using h
        · have h := count_le_of_added hrest
          simpa using Nat.lt_succ_of_le h
      · have h := ih hrest fun h => hadded (congrArg (true :: ·) h)
        simpa using h

/-- Marks that are added to still fit the text. -/
theorem fits_iterate_adding (hstep : ∀ marks, Fits text marks → Fits text (step marks))
    (hfits : Fits text marks) (n : Nat) : Fits text ((adding step)^[n] marks) := by
  induction n with
  | zero => exact hfits
  | succ n ih =>
    rw [Function.iterate_succ_apply']
    have h := hstep _ ih
    unfold Fits at ih h ⊢
    rw [adding, List.length_zipWith, ih, h, Nat.min_self]

/-- As long as marks that are added to have not settled, each round adds one. -/
theorem settled_or_le_count (hstep : ∀ marks, Fits text marks → Fits text (step marks))
    (hfits : Fits text marks) (n : Nat) :
    adding step ((adding step)^[n] marks) = (adding step)^[n] marks ∨
      n ≤ ((adding step)^[n] marks).count true := by
  induction n with
  | zero => exact .inr (Nat.zero_le _)
  | succ n ih =>
    rw [Function.iterate_succ_apply']
    by_cases hsettled : adding step ((adding step)^[n] marks) = (adding step)^[n] marks
    · exact .inl (congrArg (adding step) hsettled)
    · have hn := ih.resolve_left hsettled
      have hround := fits_iterate_adding hstep hfits n
      have hmore := count_lt_of_added (hround.trans (hstep _ hround).symm) hsettled
      exact .inr (Nat.lt_of_le_of_lt hn hmore)

/-- Marks that are added to settle in as many rounds as there are marks. -/
theorem settled_iterate (hstep : ∀ marks, Fits text marks → Fits text (step marks))
    (hfits : Fits text marks) :
    adding step ((adding step)^[marks.length] marks) = (adding step)^[marks.length] marks := by
  have hround (n : Nat) : Fits text ((adding step)^[n] marks) :=
    fits_iterate_adding hstep hfits n
  by_contra hchanges
  -- there would have to be more marks than places
  have hn := (settled_or_le_count hstep hfits marks.length).resolve_left hchanges
  have hmore := count_lt_of_added ((hround _).trans (hstep _ (hround _)).symm) hchanges
  have hall : ((adding step)^[marks.length + 1] marks).count true ≤ marks.length :=
    Nat.le_trans List.count_le_length (Nat.le_of_eq ((hround _).trans hfits.symm))
  rw [Function.iterate_succ_apply'] at hall
  exact absurd (Nat.lt_of_le_of_lt hn hmore) (Nat.not_lt.2 hall)

/-- Steps that add to the marks so often as there are marks carry them along their relation
however many times. -/
theorem Carries.stepsUpTo_length (h : Carries text step R) :
    Carries text (fun marks => Pattern.stepsUpTo step marks.length marks) fun x y =>
      ∃ m, Repeats R m x y := by
  intro marks hfits
  obtain ⟨hfits', hmarked⟩ := h.stepsUpTo marks.length marks hfits
  refine ⟨hfits', fun y => ⟨fun hy => ?_, ?_⟩⟩
  · obtain ⟨x, hx, m, -, hm⟩ := (hmarked y).1 hy
    exact ⟨x, hx, m, hm⟩
  · rintro ⟨x, hx, m, hm⟩
    have hstart : Marked text (Pattern.stepsUpTo step marks.length marks) x :=
      (hmarked x).2 ⟨x, hx, 0, Nat.zero_le _, rfl⟩
    -- what is marked in the end is closed under the step
    have hclosed : ∀ {x y}, Marked text (Pattern.stepsUpTo step marks.length marks) x → R x y →
        Marked text (Pattern.stepsUpTo step marks.length marks) y := by
      intro x y hx hy
      have hsettled := settled_iterate (fun marks hfits => (h marks hfits).1) hfits
      rw [stepsUpTo_eq_iterate] at hx hfits' ⊢
      rw [← hsettled]
      exact (marked_or hfits' (h _ hfits').1).2 (.inr (((h _ hfits').2 y).2 ⟨x, hx, hy⟩))
    clear hx
    induction m generalizing x with
    | zero => exact hm ▸ hstart
    | succ m ih =>
      obtain ⟨z, hz, hm⟩ := hm
      exact ih z hm (hclosed hstart hz)

/-! ## Patterns -/

/-- The search carries marks through a pattern from the places where it begins to those where it can
end. -/
theorem carries_after (p : Pattern) : Carries text (after text p) p.Leads := by
  induction p with
  | empty => exact carries_id
  | char accepts room => exact carries_char accepts room
  | place holds => exact carries_place holds
  | seq first second ih ih' => exact ih.comp ih'
  | alt left right ih ih' => exact ih.or ih'
  | times pattern least most ih =>
    have hleast :
        Carries text (steps (after text pattern) least) (Repeats pattern.Leads least) := by
      rw [funext (steps_eq_iterate (after text pattern) least)]
      exact ih.iterate least
    cases most with
    | none =>
      refine (hleast.comp ih.stepsUpTo_length).congr (fun marks hfits => ?_) fun x y => ?_
      · have hlength : (steps (after text pattern) least marks).length = marks.length :=
          (hleast marks hfits).1.trans hfits.symm
        unfold after
        rw [Option.getD_none, Nat.add_sub_cancel_left, hlength]
      · have hfrom := repeats_from (R := pattern.Leads) (x := x) (y := y) (m := least) fun _ => True
        simpa [Leads] using hfrom.symm
    | some most =>
      refine (hleast.comp (ih.stepsUpTo (most - least))).congr (fun _ _ => rfl) fun x y => ?_
      have hfrom := repeats_from (R := pattern.Leads) (x := x) (y := y) (m := least)
        (· ≤ most - least)
      have hbound : ∀ n, least ≤ n → (n ≤ max least most ↔ n - least ≤ most - least) := by
        intro n hn
        omega
      rw [hfrom]
      simp only [Leads, Option.mem_some_iff, forall_eq']
      exact exists_congr fun n => and_congr_right fun hn => and_congr_left fun _ => hbound n hn

/-- Some mark is set exactly when some place is marked. -/
theorem any_id_iff (text : List Char) : marks.any id = true ↔ ∃ x, Marked text marks x := by
  rw [List.any_eq_true]
  constructor
  · rintro ⟨mark, hmem, hmark⟩
    obtain rfl : mark = true := hmark
    obtain ⟨i, hi⟩ := List.mem_iff_getElem?.1 hmem
    exact ⟨placeAt text i, i, hi, rfl⟩
  · rintro ⟨_, i, hi, rfl⟩
    exact ⟨true, List.mem_iff_getElem?.2 ⟨i, hi⟩, rfl⟩

/-- Where all marks are set, the marked places are those at which the text can be split. -/
theorem marked_replicate {x : Place} :
    Marked text (List.replicate (text.length + 1) true) x ↔
      ∃ before rest, text = before ++ rest ∧ x = ⟨before.getLast?, rest⟩ := by
  constructor
  · rintro ⟨i, -, rfl⟩
    exact ⟨text.take i, text.drop i, (List.take_append_drop i text).symm, rfl⟩
  · rintro ⟨before, rest, rfl, rfl⟩
    refine ⟨before.length, ?_, ?_⟩
    · rw [List.getElem?_replicate, List.length_append, if_pos (by omega)]
    · unfold placeAt
      rw [List.take_left, List.drop_left]

/-- A pattern occurs in a text exactly when it leads from some place of the text to some other. -/
theorem occursIn_iff {p : Pattern} :
    occursIn p text = true ↔ ∃ before rest y, text = before ++ rest ∧
      p.Leads ⟨before.getLast?, rest⟩ y := by
  obtain ⟨-, hmarked⟩ := carries_after p (List.replicate (text.length + 1) true)
    (List.length_replicate : Fits text _)
  unfold occursIn
  rw [any_id_iff text]
  simp only [hmarked, marked_replicate]
  constructor
  · rintro ⟨y, x, ⟨before, rest, hsplit, rfl⟩, hy⟩
    exact ⟨before, rest, y, hsplit, hy⟩
  · rintro ⟨before, rest, y, hsplit, hy⟩
    exact ⟨y, _, ⟨before, rest, hsplit, rfl⟩, hy⟩

end IssueSteward.Pattern
