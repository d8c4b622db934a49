import IssueSteward.Text.DecimalDigit
import IssueSteward.Text.Property
import IssueSteward.Text.WordChar

/-!
# Characters by their categories

The table of the general categories has the code points at which another category begins, and the
tables of decimal digits and word characters have ranges of code points. `stretches` reads such
ranges off a table of the first kind, in one pass that the kernel can evaluate, and
`contains_categoryChars` says that they make up the set of the characters whose category is one of
some. `isDecimalDigit_eq` and `isWordChar_iff` compare this with the tables: they hold what the
categories and the property `Alphabetic` say that they do.
-/

namespace IssueSteward.Text

/-! ## Tables of beginnings -/

section Beginnings

variable {β : Type} {P : β → Bool} {starts : List (Nat × β)} {d : β} {n : Nat}

/-- The value for a number in a table of the numbers at which other values begin, where `d` is the
value before the first of them. -/
def valueAt (d : β) : List (Nat × β) → Nat → β
  | [], _ => d
  | (a, v) :: starts, n => if a ≤ n then valueAt v starts n else d

/-- The ranges of numbers whose values have a property. `first` is where the range that is being
read begins, if one is. -/
def stretches (P : β → Bool) (first : Option Nat) : List (Nat × β) → List (Nat × Nat)
  | [] => (first.map (·, 0x10FFFF)).toList
  | (a, v) :: starts =>
    match first, P v with
    | none, true => stretches P (some a) starts
    | none, false => stretches P none starts
    | some b, true => stretches P (some b) starts
    | some b, false => (b, a - 1) :: stretches P none starts

/-- Whether the numbers of a table go up, from a given one on. -/
def ascends : Nat → List (Nat × β) → Bool
  | _, [] => true
  | least, (a, _) :: starts => decide (least ≤ a) && ascends (a + 1) starts

/-- Numbers that go up from one on are not below it, and each is below those after it. -/
theorem pairwise_of_ascends {m : Nat} (h : ascends m starts = true) :
    (∀ e ∈ starts, m ≤ e.1) ∧ starts.Pairwise (·.1 < ·.1) := by
  induction starts generalizing m with
  | nil => simp
  | cons e starts ih =>
    obtain ⟨hleast, hrest⟩ := Bool.and_eq_true_iff.1 h
    obtain ⟨hlater, hsorted⟩ := ih hrest
    have he : m ≤ e.1 := of_decide_eq_true hleast
    refine ⟨List.forall_mem_cons.2 ⟨he, fun e' he' => ?_⟩, List.pairwise_cons.2 ⟨hlater, hsorted⟩⟩
    have hlt : e.1 < e'.1 := hlater e' he'
    omega

/-- The value that begins last up to a number is its value. -/
theorem getD_getLast_takeWhile (d : β) (starts : List (Nat × β)) (n : Nat) :
    ((starts.takeWhile (·.1 ≤ n)).getLast?.map Prod.snd).getD d = valueAt d starts n := by
  induction starts generalizing d with
  | nil => rfl
  | cons e starts ih =>
    obtain ⟨a, v⟩ := e
    unfold valueAt
    by_cases ha : a ≤ n
    · rw [if_pos ha, ← ih v, List.takeWhile_cons_of_pos (by simpa using ha), List.getLast?_cons]
      cases (starts.takeWhile (·.1 ≤ n)).getLast? <;> rfl
    · rw [if_neg ha, List.takeWhile_cons_of_neg (by simpa using ha)]
      rfl

/-- Before the first number of a table the value is the one given for that. -/
theorem valueAt_of_lt (h : ∀ e ∈ starts, n < e.1) : valueAt d starts n = d := by
  cases starts with
  | nil => rfl
  | cons e starts => exact if_neg (Nat.not_le.2 (h e List.mem_cons_self))

/-- The ranges hold the numbers whose values have the property, from the beginning of the range that
is being read on. -/
theorem mem_stretches_iff {f : Option Nat} (hd : P d = f.isSome)
    (hsorted : starts.Pairwise (·.1 < ·.1)) (hfirst : ∀ b ∈ f, ∀ e ∈ starts, b < e.1)
    (hn : n ≤ 0x10FFFF) :
    (∃ r ∈ stretches P f starts, r.1 ≤ n ∧ n ≤ r.2) ↔
      (∀ b ∈ f, b ≤ n) ∧ P (valueAt d starts n) = true := by
  induction starts generalizing f d with
  | nil =>
    unfold stretches valueAt
    rw [hd]
    cases f <;> simp [hn]
  | cons e starts ih =>
    obtain ⟨a, v⟩ := e
    obtain ⟨hlater, hsorted⟩ := List.pairwise_cons.1 hsorted
    -- before `a` the rest of the table has the value that begins there
    have hbefore (hlt : ¬ a ≤ n) : valueAt v starts n = v :=
      valueAt_of_lt fun e he => Nat.lt_trans (Nat.not_le.1 hlt) (hlater e he)
    have hrange (b : Nat) (hb : b < a) : (b ≤ n ∧ n ≤ a - 1) ↔ b ≤ n ∧ ¬ a ≤ n := by omega
    unfold valueAt stretches
    cases f with
    | none =>
      cases hv : P v with
      | true =>
        -- a range begins
        rw [ih (f := some a) hv hsorted (by simpa using hlater)]
        by_cases ha : a ≤ n <;> simp [ha, hd]
      | false =>
        rw [ih (f := none) hv hsorted (by simp)]
        by_cases ha : a ≤ n
        · simp [ha]
        · simp [ha, hd, hbefore ha, hv]
    | some b =>
      have hb : b < a := hfirst b rfl _ List.mem_cons_self
      cases hv : P v with
      | true =>
        have hrest : ∀ e ∈ starts, b < e.1 := fun e he => Nat.lt_trans hb (hlater e he)
        rw [ih (f := some b) hv hsorted (by simpa using hrest)]
        by_cases ha : a ≤ n
        · simp [ha]
        · simp [ha, hd, hbefore ha, hv]
      | false =>
        -- the range that is being read ends
        simp only [List.mem_cons, exists_eq_or_imp, hrange b hb,
          ih (f := none) hv hsorted (by simp)]
        by_cases ha : a ≤ n
        · have hbn : b ≤ n := by omega
          simp [ha, hbn]
        · simp [ha, hd, hbefore ha, hv]

end Beginnings

/-! ## Sets of characters by their categories -/

variable {c : Char} {P : Category → Bool}

/-- Whether each of some ranges is part of one of others. Both are gone over once, in their order. -/
def partsOf (rs : List (Nat × Nat)) : List (Nat × Nat) → Bool
  | [] => rs.isEmpty
  | u :: us => partsOf (rs.dropWhile fun r => u.1 ≤ r.1 && r.2 ≤ u.2) us

/-- Ranges that pass the test are parts of the others, whatever their order. -/
theorem exists_of_partsOf {rs us : List (Nat × Nat)} (h : partsOf rs us = true) :
    ∀ r ∈ rs, ∃ u ∈ us, u.1 ≤ r.1 ∧ r.2 ≤ u.2 := by
  induction us generalizing rs with
  | nil =>
    obtain rfl := List.isEmpty_iff.1 h
    simp
  | cons u us ih =>
    intro r hr
    rw [← List.takeWhile_append_dropWhile (p := fun r => u.1 ≤ r.1 && r.2 ≤ u.2) (l := rs),
      List.mem_append] at hr
    rcases hr with hr | hr
    · have hpart := List.all_eq_true.1 List.all_takeWhile r hr
      simp only [Bool.and_eq_true, decide_eq_true_eq] at hpart
      exact ⟨u, List.mem_cons_self, hpart⟩
    · obtain ⟨u', hu', hpart⟩ := ih h r hr
      exact ⟨u', List.mem_cons_of_mem u hu', hpart⟩

/-- What a set contains, another one contains whose ranges have those of the first as parts. -/
theorem CharSet.contains_of_partsOf {s t : CharSet} (h : partsOf s.ranges t.ranges = true)
    (hc : s.contains c = true) : t.contains c = true := by
  obtain ⟨r, hr, hfirst, hlast⟩ := (contains_iff s c).1 hc
  obtain ⟨u, hu, hfirst', hlast'⟩ := exists_of_partsOf h r hr
  exact (contains_iff t c).2 ⟨u, hu, Nat.le_trans hfirst' hfirst, Nat.le_trans hlast hlast'⟩

/-- The set of the characters in the ranges of the table of categories that have a property. -/
def categoryChars (P : Category → Bool) : CharSet := ⟨stretches P none categoryStarts⟩

/-- The code points of the table of categories go up. -/
theorem pairwise_categoryStarts : categoryStarts.Pairwise (·.1 < ·.1) :=
  (pairwise_of_ascends (m := 0) (by decide +kernel)).2

/-- The set has the characters for which the table gives a category with the property. -/
theorem contains_categoryChars_iff (hP : P .cn = false) :
    (categoryChars P).contains c = true ↔ P (valueAt .cn categoryStarts c.toNat) = true := by
  have hmost : c.toNat ≤ 0x10FFFF := by
    rcases c.valid with h | h <;> unfold Char.toNat <;> omega
  rw [CharSet.contains_iff, categoryChars,
    mem_stretches_iff (d := Category.cn) (by simpa using hP) pairwise_categoryStarts (by simp)
      hmost]
  simp

/-- The category of a character is the one of the table, but for small letters between capital
ones. -/
theorem category_eq (c : Char) :
    category c = if isSmallTurn c then .ll else valueAt .cn categoryStarts c.toNat := by
  unfold category
  rw [getD_getLast_takeWhile]

/-- Small letters between capital ones have the category of these in the table. -/
theorem valueAt_of_isSmallTurn (h : isSmallTurn c = true) :
    valueAt .cn categoryStarts c.toNat = .lu := by
  have hturns : partsOf caseTurns.ranges (categoryChars (· == .lu)).ranges = true := by
    decide +kernel
  have hc : caseTurns.contains c = true := by
    obtain ⟨r, hr, hturn⟩ := List.any_eq_true.1 h
    simp only [Bool.and_eq_true, decide_eq_true_eq] at hturn
    exact (CharSet.contains_iff _ _).2 ⟨r, hr, hturn.1⟩
  exact beq_iff_eq.1 ((contains_categoryChars_iff rfl).1 (CharSet.contains_of_partsOf hturns hc))

/-- The set has the characters whose category has the property, where small letters have it if
capital ones do. -/
theorem contains_categoryChars (hP : P .cn = false) (hletters : P .lu = P .ll) (c : Char) :
    (categoryChars P).contains c = P (category c) := by
  rw [Bool.eq_iff_iff, contains_categoryChars_iff hP, category_eq]
  split
  · rw [valueAt_of_isSmallTurn ‹_›, hletters]
  · rfl

/-! ## Digits and words -/

/-- The decimal digits are the characters of the category of these. -/
theorem isDecimalDigit_eq (c : Char) : isDecimalDigit c = decide (category c = .nd) := by
  have hranges : decimalDigits.ranges = (categoryChars (· == .nd)).ranges := by decide +kernel
  have hset : decimalDigits = categoryChars (· == .nd) := congrArg CharSet.mk hranges
  unfold isDecimalDigit
  rw [hset, contains_categoryChars rfl rfl]
  rfl

/-- The categories of letters, of numbers made of letters, of marks, of decimal digits and of
connecting punctuation. -/
def isWordCategory (k : Category) : Bool :=
  [.lu, .ll, .lt, .lm, .lo, .nl, .mn, .mc, .me, .nd, .pc].contains k

/-- The two joiners. -/
def joiners : CharSet where
  ranges := [(0x200C, 0x200D)]

/-- The letters in circles and squares, which are symbols by their category. -/
def enclosedLetters : CharSet where
  ranges := [(0x24B6, 0x24E9), (0x1F130, 0x1F149), (0x1F150, 0x1F169), (0x1F170, 0x1F189)]

/-- The characters of words are those of their categories, the joiners and the enclosed letters. -/
theorem isWordChar_iff_category (c : Char) :
    isWordChar c = true ↔ isWordCategory (category c) = true ∨ joiners.contains c = true ∨
      enclosedLetters.contains c = true := by
  have hranges : wordChars.ranges.filter
      (!(joiners.ranges ++ enclosedLetters.ranges).contains ·) =
      (categoryChars isWordCategory).ranges := by decide +kernel
  have hjoiners : partsOf joiners.ranges wordChars.ranges = true := by decide +kernel
  have henclosed : partsOf enclosedLetters.ranges wordChars.ranges = true := by decide +kernel
  rw [← contains_categoryChars (P := isWordCategory) rfl rfl]
  constructor
  · intro h
    obtain ⟨r, hr, hc⟩ := (CharSet.contains_iff _ _).1 h
    by_cases hother : r ∈ joiners.ranges ++ enclosedLetters.ranges
    · rcases List.mem_append.1 hother with hr | hr
      · exact .inr (.inl ((CharSet.contains_iff _ _).2 ⟨r, hr, hc⟩))
      · exact .inr (.inr ((CharSet.contains_iff _ _).2 ⟨r, hr, hc⟩))
    · refine .inl ((CharSet.contains_iff _ _).2 ⟨r, ?_, hc⟩)
      rw [← hranges, List.mem_filter]
      exact ⟨hr, by simpa using hother⟩
  · rintro (h | h | h)
    · obtain ⟨r, hr, hc⟩ := (CharSet.contains_iff _ _).1 h
      rw [← hranges, List.mem_filter] at hr
      exact (CharSet.contains_iff _ _).2 ⟨r, hr.1, hc⟩
    · exact CharSet.contains_of_partsOf hjoiners h
    · exact CharSet.contains_of_partsOf henclosed h

/-- The joiners are the two characters of these code points. -/
theorem contains_joiners_iff : joiners.contains c = true ↔ c = '\u200C' ∨ c = '\u200D' := by
  rw [CharSet.contains_iff, ← Char.toNat_inj, ← Char.toNat_inj]
  simp only [joiners, List.mem_singleton, exists_eq_left]
  change 0x200C ≤ c.toNat ∧ c.toNat ≤ 0x200D ↔ c.toNat = 0x200C ∨ c.toNat = 0x200D
  omega

/-- A character of a word is alphabetic, a mark, a decimal digit, connecting punctuation or one of
the two joiners. -/
theorem isWordChar_iff (c : Char) :
    isWordChar c = true ↔ isAlphabetic c = true ∨
      category c ∈ [.mn, .mc, .me, .nd, .pc] ∨ c = '\u200C' ∨ c = '\u200D' := by
  have halphabetic : partsOf otherAlphabetic.ranges wordChars.ranges = true := by decide +kernel
  have henclosed : partsOf enclosedLetters.ranges otherAlphabetic.ranges = true := by decide +kernel
  have hcategory : isWordCategory (category c) = true ↔
      [.lu, .ll, .lt, .lm, .lo, .nl].contains (category c) = true ∨
        category c ∈ [.mn, .mc, .me, .nd, .pc] := by
    cases category c <;> decide
  unfold isAlphabetic
  rw [Bool.or_eq_true, ← contains_joiners_iff]
  constructor
  · intro h
    rcases (isWordChar_iff_category c).1 h with h | h | h
    · exact (hcategory.1 h).imp .inl .inl
    · exact .inr (.inr h)
    · exact .inl (.inr (CharSet.contains_of_partsOf henclosed h))
  · rintro ((h | h) | h | h)
    · exact (isWordChar_iff_category c).2 (.inl (hcategory.2 (.inl h)))
    · exact CharSet.contains_of_partsOf halphabetic h
    · exact (isWordChar_iff_category c).2 (.inl (hcategory.2 (.inr h)))
    · exact (isWordChar_iff_category c).2 (.inr (.inl h))

end IssueSteward.Text
