import IssueSteward.Proofs.Spelling
import IssueSteward.Settings
import Mathlib.Data.List.TakeWhile

/-!
# Which texts give the number of a pull request

The grammar of the numbers that a run is told (`NumberForm64`): perhaps a plus sign, and then digits
with a value of 64 bits. `pullNumber_reads_grammar` says that exactly the texts of that grammar are
read, once blanks at the ends and number signs in front are gone, and what is wrong with any other.

The reader goes from left to right and stops at the first character that is no digit or makes the
number too large. What it finds is told by the digits that the text begins with (`readDigits_eq`):
the number can only become too large within them, since every further digit keeps it as large as it
is.
-/

namespace IssueSteward

open Decimal
open Payload (Digits digitsValue)

namespace Decimal

/-! ## Digits of a number of 64 bits -/

/-- The number that digits make of the number read so far, as long as there is no limit. -/
def extend (n : Nat) (ds : List Char) : Nat := ds.foldl (fun n c => 10 * n + digitValue c) n

/-- The number that digits write is what they make of nothing. -/
theorem extend_zero (ds : List Char) : extend 0 ds = digitsValue ds := rfl

/-- A digit goes before those after it. -/
theorem extend_cons (n : Nat) (c : Char) (ds : List Char) :
    extend n (c :: ds) = extend (10 * n + digitValue c) ds := List.foldl_cons ..

/-- Digits are read to their end unless the number gets too large on the way, or another character
stops the reader before. -/
theorem readDigits_eq (s : List Char) {n : Nat} (hn : n < UInt64.size) :
    readDigits n s =
      if UInt64.size ≤ extend n (s.takeWhile Char.isDigit) then .error .tooLarge
      else if s.all Char.isDigit then .ok (extend n s)
      else .error .invalidDigit := by
  induction s generalizing n with
  | nil =>
    have hle : ¬ UInt64.size ≤ extend n [] := Nat.not_le.2 hn
    rw [List.takeWhile_nil, if_neg hle, List.all_nil, if_pos rfl]
    rfl
  | cons c s ih =>
    by_cases hc : c.isDigit = true
    · have htake : (c :: s).takeWhile Char.isDigit = c :: s.takeWhile Char.isDigit :=
        List.takeWhile_cons_of_pos hc
      have hall : (c :: s).all Char.isDigit = s.all Char.isDigit := by rw [List.all_cons, hc]; rfl
      rw [readDigits, if_pos hc, htake, hall, extend_cons, extend_cons]
      by_cases hlt : 10 * n + digitValue c < UInt64.size
      · rw [if_pos hlt, ih hlt]
      · -- no digit makes the number smaller again
        have hle : UInt64.size ≤ extend (10 * n + digitValue c) (s.takeWhile Char.isDigit) :=
          Nat.le_trans (Nat.le_of_not_lt hlt) (Payload.le_foldl_digits _ _)
        rw [if_neg hlt, if_pos hle]
    · have htake : (c :: s).takeWhile Char.isDigit = [] := List.takeWhile_cons_of_neg hc
      have hall : ¬ (c :: s).all Char.isDigit = true := fun h =>
        hc (List.all_eq_true.1 h c List.mem_cons_self)
      have hle : ¬ UInt64.size ≤ extend n [] := Nat.not_le.2 hn
      rw [readDigits, if_neg hc, htake, if_neg hle, if_neg hall]

/-! ## The grammar of numbers -/

/-- A text without the plus sign that it may begin with. -/
def dropPlus : List Char → List Char
  | '+' :: s => s
  | s => s

/-- The digits that a text begins with, after a plus sign if there is one. -/
def leadingDigits (s : List Char) : List Char := (dropPlus s).takeWhile Char.isDigit

/-- A text writes a number of 64 bits: there may be a plus sign, and at least one digit follows. -/
inductive NumberForm64 (n : UInt64) : List Char → Prop
  /-- The digits alone. -/
  | digits {ds : List Char} (hds : Digits ds) (hvalue : digitsValue ds = n.toNat) :
      NumberForm64 n ds
  /-- The digits after a plus sign. -/
  | plus {ds : List Char} (hds : Digits ds) (hvalue : digitsValue ds = n.toNat) :
      NumberForm64 n ('+' :: ds)

/-- Nothing is dropped but a plus sign. -/
theorem dropPlus_of_ne {c : Char} (hc : c ≠ '+') (s : List Char) : dropPlus (c :: s) = c :: s := by
  unfold dropPlus
  split
  · rename_i h
    exact absurd (List.cons.inj h).1 hc
  · rfl

/-- Digits are no plus sign. -/
theorem dropPlus_digits {ds : List Char} (hds : Digits ds) : dropPlus ds = ds := by
  cases ds with
  | nil => rfl
  | cons c ds =>
    refine dropPlus_of_ne ?_ ds
    rintro rfl
    exact absurd (hds.2 '+' List.mem_cons_self) (by decide)

/-- A text writes a number exactly when it does without its plus sign, in digits. -/
theorem numberForm64_iff {n : UInt64} {s : List Char} :
    NumberForm64 n s ↔ Digits (dropPlus s) ∧ digitsValue (dropPlus s) = n.toNat := by
  constructor
  · rintro (⟨hds, hvalue⟩ | ⟨hds, hvalue⟩)
    · rw [dropPlus_digits hds]
      exact ⟨hds, hvalue⟩
    · exact ⟨hds, hvalue⟩
  · rintro ⟨hds, hvalue⟩
    cases s with
    | nil => exact .digits hds hvalue
    | cons c s =>
      by_cases hc : c = '+'
      · subst hc
        exact .plus hds hvalue
      · rw [dropPlus_of_ne hc] at hds hvalue
        exact .digits hds hvalue

/-- What is read after a sign, where something follows it, by the digits that this begins with. -/
theorem readDigits_zero_eq {s : List Char} (hs : s ≠ []) :
    UInt64.ofNat <$> readDigits 0 s =
      if UInt64.size ≤ digitsValue (s.takeWhile Char.isDigit) then .error .tooLarge
      else if Digits s then .ok (UInt64.ofNat (digitsValue s))
      else .error .invalidDigit := by
  have hzero : 0 < UInt64.size := by decide
  have hdigits : Digits s ↔ s.all Char.isDigit = true := by
    rw [List.all_eq_true]
    exact and_iff_right hs
  rw [readDigits_eq s hzero, extend_zero, extend_zero]
  simp only [hdigits]
  rcases Nat.lt_or_ge (digitsValue (s.takeWhile Char.isDigit)) UInt64.size with hlt | hge
  · rw [if_neg (Nat.not_le.2 hlt), if_neg (Nat.not_le.2 hlt)]
    split <;> rfl
  · rw [if_pos hge, if_pos hge]
    rfl

/-- Without a sign all of a text is read. -/
theorem readNumber_of_ne {c : Char} (hc : c ≠ '+') (s : List Char) :
    readNumber (c :: s) = UInt64.ofNat <$> readDigits 0 (c :: s) := by
  unfold readNumber
  split
  · rename_i h
    cases h
  · rename_i h
    exact absurd (List.cons.inj h).1 hc
  · rename_i h
    exact absurd (List.cons.inj h).1 hc
  · rfl

/-- What is read of a text, by the digits that it begins with. -/
theorem readNumber_eq (s : List Char) :
    readNumber s =
      if s = [] then .error .empty
      else if UInt64.size ≤ digitsValue (leadingDigits s) then .error .tooLarge
      else if Digits (dropPlus s) then .ok (UInt64.ofNat (digitsValue (dropPlus s)))
      else .error .invalidDigit := by
  cases s with
  | nil => rw [readNumber, if_pos rfl]
  | cons c s =>
    rw [if_neg (List.cons_ne_nil c s)]
    by_cases hc : c = '+'
    · subst hc
      cases s with
      | nil =>
        -- a sign alone is no number, although no digit is wrong
        have hsmall : ¬ UInt64.size ≤ digitsValue (leadingDigits ['+']) :=
          Nat.not_le.2 (by decide)
        have hnone : ¬ Digits (dropPlus ['+']) := fun h => h.1 rfl
        rw [readNumber, if_neg hsmall, if_neg hnone]
      | cons d s => exact readDigits_zero_eq (List.cons_ne_nil d s)
    · rw [readNumber_of_ne hc, readDigits_zero_eq (List.cons_ne_nil c s), leadingDigits,
        dropPlus_of_ne hc]

/-- A text is a number of 64 bits exactly when it writes that number. -/
theorem readNumber_eq_ok_iff {s : List Char} {n : UInt64} :
    readNumber s = .ok n ↔ NumberForm64 n s := by
  rw [readNumber_eq, numberForm64_iff]
  constructor
  · intro h
    split at h
    · cases h
    · split at h
      · cases h
      · rename_i hsmall
        split at h
        · rename_i hds
          -- all digits are leading ones, so that the number is as small as they make it
          have hlead : leadingDigits s = dropPlus s := List.takeWhile_eq_self_iff.2 hds.2
          have hlt : digitsValue (dropPlus s) < UInt64.size := by
            rw [← hlead]
            exact Nat.lt_of_not_le hsmall
          rw [← Except.ok.inj h]
          exact ⟨hds, (UInt64.toNat_ofNat_of_lt' hlt).symm⟩
        · cases h
  · rintro ⟨hds, hvalue⟩
    have hne : s ≠ [] := by
      rintro rfl
      exact hds.1 rfl
    have hlead : leadingDigits s = dropPlus s := List.takeWhile_eq_self_iff.2 hds.2
    have hsmall : ¬ UInt64.size ≤ digitsValue (leadingDigits s) := by
      rw [hlead, hvalue]
      exact Nat.not_le.2 n.toNat_lt_size
    rw [if_neg hne, if_neg hsmall, if_pos hds, hvalue, UInt64.ofNat_toNat]

/-- What is wrong with a text that is no number: it is empty, or its leading digits are too large
whatever follows them, or else a character is no digit. -/
theorem readNumber_eq_error {s : List Char} (h : ∀ n, ¬ NumberForm64 n s) :
    ∃ cause, readNumber s = .error cause ∧ (cause = .empty ↔ s = []) ∧
      (cause = .tooLarge ↔ UInt64.size ≤ digitsValue (leadingDigits s)) ∧
      (cause = .invalidDigit ↔ s ≠ [] ∧ digitsValue (leadingDigits s) < UInt64.size) := by
  have hzero : ¬ UInt64.size ≤ digitsValue (leadingDigits []) := by decide
  rcases hread : readNumber s with cause | n
  · refine ⟨cause, rfl, ?_⟩
    rw [readNumber_eq] at hread
    split at hread
    · rename_i hs
      subst hs
      cases hread
      exact ⟨by simp, by simpa using hzero, by simp⟩
    · rename_i hne
      split at hread
      · rename_i hlarge
        cases hread
        exact ⟨by simp [hne], by simpa using hlarge, by simpa [hne] using hlarge⟩
      · rename_i hsmall
        split at hread
        · cases hread
        · cases hread
          exact ⟨by simp [hne], by simpa using hsmall, by simpa [hne] using hsmall⟩
  · exact absurd (readNumber_eq_ok_iff.1 hread) (h n)

/-- The words for what is wrong tell what it is. -/
theorem NumeralError.text_eq_iff (e e' : NumeralError) : e.text = e'.text ↔ e = e' := by
  cases e <;> cases e' <;> decide

/-- Zeros before digits do not change the number that they write. -/
theorem digitsValue_zeros (zeros : Nat) (ds : List Char) :
    digitsValue (List.replicate zeros '0' ++ ds) = digitsValue ds := by
  induction zeros with
  | zero => rfl
  | succ zeros ih =>
    rw [List.replicate_succ, List.cons_append, ← extend_zero, extend_cons]
    exact ih

/-- The numeral of a number is made of digits that write the number. -/
theorem numeral_digits (n : Nat) :
    Digits (numeral n).toList ∧ digitsValue (numeral n).toList = n := by
  rw [numeral, String.toList_ofList]
  exact ⟨⟨Nat.toDigits_ne_nil, fun c hc => Nat.isDigit_of_mem_toDigits (by decide) (by decide) hc⟩,
    Nat.ofDigitChars_toDigits (by decide) (by decide)⟩

end Decimal

namespace Text

/-- A text without blanks is left as it is. -/
theorem trim_of_no_blank {s : List Char} (h : ∀ c ∈ s, isBlank c = false) : trim s = s := by
  refine trim_eq_self ?_ ?_
  · rw [Option.all_eq_true]
    intro c hc
    rw [h c (List.mem_of_mem_head? hc)]
    rfl
  · rw [Option.all_eq_true]
    intro c hc
    rw [h c (List.mem_of_mem_getLast? hc)]
    rfl

/-- A digit is not blank. -/
theorem isBlank_of_isDigit {c : Char} (h : c.isDigit = true) : isBlank c = false := by
  have hrange : 0x30 ≤ c.toNat ∧ c.toNat ≤ 0x39 := by
    simpa [Char.isDigit, UInt32.le_iff_toNat_le] using h
  refine Bool.eq_false_iff.2 fun hblank => ?_
  obtain ⟨r, hr, hle⟩ := (CharSet.contains_iff _ _).1 hblank
  simp only [blanks, List.mem_cons, List.not_mem_nil, or_false] at hr
  rcases hr with rfl | rfl | rfl | rfl | rfl | rfl | rfl | rfl | rfl | rfl <;> omega

end Text

/-! ## Texts of pull request numbers -/

/-- The text of a number is read as that of the number, once the blanks at its ends and the number
signs in front are gone. -/
theorem pullNumber_padded (n : UInt64) {before after : List Char} (signs zeros : Nat)
    (hbefore : ∀ c ∈ before, Text.isBlank c = true) (hafter : ∀ c ∈ after, Text.isBlank c = true) :
    pullNumber (some (String.ofList (before ++ (List.replicate signs '#' ++
      (List.replicate zeros '0' ++ (numeral n.toNat).toList)) ++ after))) = .ok (some n) := by
  obtain ⟨⟨hne, hnumeral⟩, hvalue⟩ := numeral_digits n.toNat
  set ds := List.replicate zeros '0' ++ (numeral n.toNat).toList with hdsdef
  have hds : Digits ds := by
    refine ⟨List.append_ne_nil_of_right_ne_nil _ hne, fun c hc => ?_⟩
    rcases List.mem_append.1 hc with hc | hc
    · rw [List.eq_of_mem_replicate hc]
      decide
    · exact hnumeral c hc
  have hform : NumberForm64 n ds := .digits hds (by rw [hdsdef, digitsValue_zeros, hvalue])
  -- no character of the number or before it is blank
  have htrim : Text.trim (before ++ (List.replicate signs '#' ++ ds) ++ after) =
      List.replicate signs '#' ++ ds := by
    rw [Text.trim_append hbefore hafter]
    refine Text.trim_of_no_blank fun c hc => ?_
    rcases List.mem_append.1 hc with hc | hc
    · rw [List.eq_of_mem_replicate hc]
      decide
    · exact Text.isBlank_of_isDigit (hds.2 c hc)
  have hdrop : (List.replicate signs '#' ++ ds).dropWhile (· == '#') = ds := by
    rw [List.dropWhile_append_of_pos (by simp +contextual [List.mem_replicate])]
    rcases hcons : ds with _ | ⟨c, t⟩
    · rfl
    · refine List.dropWhile_cons_of_neg ?_
      have hdigit := hds.2 c (by rw [hcons]; exact List.mem_cons_self)
      rw [beq_iff_eq]
      rintro rfl
      exact absurd hdigit (by decide)
  have hfull : (List.replicate signs '#' ++ ds).isEmpty = false := by
    rw [List.isEmpty_eq_false_iff]
    exact List.append_ne_nil_of_right_ne_nil _ hds.1
  simp only [pullNumber, Option.getD_some, String.toList_ofList, htrim, hfull, hdrop,
    readNumber_eq_ok_iff.2 hform, Bool.false_eq_true, if_false]

/-- No number is given exactly where there is no text or only blanks. Otherwise what counts is the
text without the blanks at its ends, and without the number signs in front: a number is given
exactly where this is a plus sign, which may be missing, and at least one digit, with a value of 64
bits. Any other text is refused in the words of the first of three things that are wrong with it:
nothing is left, the digits in front are too large a number, whatever follows them, or a character
is no digit. So every number is read back from its numeral, among blanks and after number signs and
zeros. -/
theorem pullNumber_reads_grammar (value : Option String) :
    let text := Text.trim (value.getD "").toList
    let rest := text.dropWhile (· == '#')
    (pullNumber value = .ok none ↔ ∀ s ∈ value, ∀ c ∈ s.toList, Text.isBlank c = true) ∧
    (∀ n, pullNumber value = .ok (some n) ↔ NumberForm64 n rest) ∧
    ((∃ s ∈ value, ∃ c ∈ s.toList, Text.isBlank c = false) → (∀ n, ¬ NumberForm64 n rest) →
      ∃ fault, pullNumber value = .error fault ∧
        fault.message = "PR_NUMBER is not a number: " ++ String.ofList text ∧
        (fault.cause.text = "cannot parse integer from empty string" ↔ rest = []) ∧
        (fault.cause.text = "number too large to fit in target type" ↔
          Nat.pow 2 64 ≤ digitsValue (leadingDigits rest)) ∧
        (fault.cause.text = "invalid digit found in string" ↔
          rest ≠ [] ∧ digitsValue (leadingDigits rest) < Nat.pow 2 64)) ∧
    ∀ (n : UInt64) (before after : List Char) (signs zeros : Nat),
      (∀ c ∈ before, Text.isBlank c = true) → (∀ c ∈ after, Text.isBlank c = true) →
      pullNumber (some (String.ofList (before ++ (List.replicate signs '#' ++
        (List.replicate zeros '0' ++ (numeral n.toNat).toList)) ++ after))) = .ok (some n) := by
  intro text rest
  -- an absent text counts as one without characters
  have hblank : text = [] ↔ ∀ s ∈ value, ∀ c ∈ s.toList, Text.isBlank c = true := by
    rw [Text.trim_eq_nil_iff]
    cases value <;> simp
  have hnil (h : text = []) : pullNumber value = .ok none :=
    if_pos (List.isEmpty_iff.2 h)
  have hread (h : text ≠ []) : pullNumber value =
      (some <$> readNumber rest).mapError fun cause => ⟨String.ofList text, cause⟩ := by
    have hfull : (Text.trim (value.getD "").toList).isEmpty = false :=
      List.isEmpty_eq_false_iff.2 h
    simp only [pullNumber, hfull, Bool.false_eq_true, if_false]
    change _ = (some <$> readNumber (text.dropWhile (· == '#'))).mapError _
    rcases readNumber (text.dropWhile (· == '#')) with cause | n <;> rfl
  refine ⟨?_, fun n => ?_, fun hsome hnone => ?_, fun n before after signs zeros hbefore hafter =>
    pullNumber_padded n signs zeros hbefore hafter⟩
  · rw [← hblank]
    refine ⟨fun h => ?_, hnil⟩
    by_contra hne
    rw [hread hne] at h
    rcases hrest : readNumber rest with cause | n <;> rw [hrest] at h <;> cases h
  · rw [← readNumber_eq_ok_iff]
    by_cases h : text = []
    · have hempty : readNumber rest = .error .empty := by
        simp only [rest, h, List.dropWhile_nil]
        rfl
      rw [hnil h, hempty]
      simp
    · rw [hread h]
      rcases readNumber rest with cause | m
      · simp [Functor.map, Except.map, Except.mapError]
      · simp [Functor.map, Except.map, Except.mapError]
  · have hne : text ≠ [] := by
      rw [Ne, hblank]
      obtain ⟨s, hs, c, hc, hother⟩ := hsome
      intro hall
      rw [hall s hs c hc] at hother
      cases hother
    obtain ⟨cause, hcause, hempty, hlarge, hdigit⟩ := readNumber_eq_error hnone
    refine ⟨⟨String.ofList text, cause⟩, ?_, rfl, ?_, ?_, ?_⟩
    · rw [hread hne, hcause]
      rfl
    · exact (NumeralError.text_eq_iff cause .empty).trans hempty
    · exact (NumeralError.text_eq_iff cause .tooLarge).trans hlarge
    · exact (NumeralError.text_eq_iff cause .invalidDigit).trans hdigit

/-- The largest number is read among blanks, and one that is larger counts as too large although
another character follows it. -/
theorem pullNumber_reads_largest :
    pullNumber (some "\t##0018446744073709551615\u3000") = .ok (some 18446744073709551615) ∧
    ∃ fault, pullNumber (some "#18446744073709551616x ") = .error fault ∧
      fault.message = "PR_NUMBER is not a number: #18446744073709551616x" ∧
      fault.cause.text = "number too large to fit in target type" := by
  constructor
  · have htext : String.ofList (['\t'] ++ (List.replicate 2 '#' ++ (List.replicate 2 '0' ++
        (numeral (18446744073709551615 : UInt64).toNat).toList)) ++ ['\u3000']) =
        "\t##0018446744073709551615\u3000" := by decide +kernel
    have hpadded := (pullNumber_reads_grammar none).2.2.2 18446744073709551615 ['\t'] ['\u3000']
      2 2 (List.forall_mem_singleton.2 (by decide)) (List.forall_mem_singleton.2 (by decide))
    rwa [htext] at hpadded
  · obtain ⟨-, -, herror, -⟩ := pullNumber_reads_grammar (some "#18446744073709551616x ")
    have htext : Text.trim "#18446744073709551616x ".toList =
        '#' :: "18446744073709551616x".toList := by decide +kernel
    have hletter : ∀ n, ¬ NumberForm64 n "18446744073709551616x".toList := fun n hn =>
      absurd (numberForm64_iff.1 hn).1 (by decide +kernel)
    simp only [Option.getD_some, htext] at herror
    obtain ⟨fault, hfault, hmessage, -, hlarge, -⟩ :=
      herror ⟨_, rfl, 'x', by decide +kernel, by decide⟩ hletter
    exact ⟨fault, hfault, hmessage, hlarge.2 (by decide +kernel)⟩

end IssueSteward
