import IssueSteward.Text.CharSet

/-!
# Blank characters

The characters with the Unicode property `White_Space`, and the trimming of a text at both ends.
Blanks around a text make no difference to what trimming leaves (`trim_append`), and a text without
blanks at its ends is left as it is (`trim_eq_self`). `trim_eq_iff` says what trimming leaves, without
a mention of how it goes about it.
-/

namespace IssueSteward.Text

/-- The characters with the property `White_Space`. -/
def blanks : CharSet where
  ranges := [(0x09, 0x0D), (0x20, 0x20), (0x85, 0x85), (0xA0, 0xA0), (0x1680, 0x1680),
    (0x2000, 0x200A), (0x2028, 0x2029), (0x202F, 0x202F), (0x205F, 0x205F), (0x3000, 0x3000)]

/-- Whether a character is white space. -/
def isBlank (c : Char) : Bool := blanks.contains c

/-- A text without the blanks at its end. -/
def trimEnd (s : List Char) : List Char := (s.reverse.dropWhile isBlank).reverse

/-- A text without the blanks at its two ends. -/
def trim (s : List Char) : List Char := trimEnd (s.dropWhile isBlank)

/-- Blanks after a text make no difference to what is left without the blanks at its end. -/
theorem trimEnd_append {s t : List Char} (ht : ∀ c ∈ t, isBlank c = true) :
    trimEnd (s ++ t) = trimEnd s := by
  simp only [trimEnd, List.reverse_append]
  rw [List.dropWhile_append_of_pos fun c hc => ht c (List.mem_reverse.1 hc)]

/-- Blanks around a text make no difference to what trimming leaves. -/
theorem trim_append {r s t : List Char} (hr : ∀ c ∈ r, isBlank c = true)
    (ht : ∀ c ∈ t, isBlank c = true) : trim (r ++ s ++ t) = trim s := by
  rw [List.append_assoc, trim, List.dropWhile_append_of_pos hr, List.dropWhile_append]
  split
  · -- nothing but blanks
    rename_i hs
    rw [trim, List.isEmpty_iff.1 hs, ← List.append_nil t, List.dropWhile_append_of_pos ht]
    rfl
  · exact trimEnd_append ht

/-- A text with no blank at either end is left as it is. -/
theorem trim_eq_self {s : List Char} (hfirst : s.head?.all (!isBlank ·) = true)
    (hlast : s.getLast?.all (!isBlank ·) = true) : trim s = s := by
  have hs : s.dropWhile isBlank = s := by
    cases s with
    | nil => rfl
    | cons c s => exact List.dropWhile_cons_of_neg (by simpa using hfirst)
  rw [trim, hs, trimEnd]
  rw [← List.head?_reverse] at hlast
  cases hr : s.reverse with
  | nil => simpa using hr
  | cons c t =>
    rw [hr] at hlast
    rw [List.dropWhile_cons_of_neg (by simpa using hlast), ← hr, List.reverse_reverse]

/-- A text is what is left without the blanks at its end, and these blanks. -/
theorem exists_trimEnd (s : List Char) :
    ∃ after, (∀ c ∈ after, isBlank c = true) ∧ s = trimEnd s ++ after := by
  refine ⟨(s.reverse.takeWhile isBlank).reverse, fun c hc => ?_, ?_⟩
  · exact List.all_eq_true.1 List.all_takeWhile c (List.mem_reverse.1 hc)
  · rw [trimEnd, ← List.reverse_append, List.takeWhile_append_dropWhile, List.reverse_reverse]

/-- A text is what is left of another one without the blanks at its two ends. -/
structure Trimmed (s t : List Char) : Prop where
  /-- There are only blanks around it. -/
  around : ∃ before after, (∀ c ∈ before, isBlank c = true) ∧ (∀ c ∈ after, isBlank c = true) ∧
    s = before ++ t ++ after
  /-- It does not begin with a blank. -/
  first : t.head?.all (!isBlank ·) = true
  /-- It does not end in a blank. -/
  last : t.getLast?.all (!isBlank ·) = true

/-- Trimming takes away the blanks at the two ends, and nothing else. -/
theorem trimmed_trim (s : List Char) : Trimmed s (trim s) := by
  obtain ⟨after, hafter, hs⟩ := exists_trimEnd (s.dropWhile isBlank)
  refine ⟨⟨s.takeWhile isBlank, after, List.all_eq_true.1 List.all_takeWhile, hafter, ?_⟩, ?_, ?_⟩
  · rw [trim, List.append_assoc, ← hs, List.takeWhile_append_dropWhile]
  · -- what is left begins as the text does after the blanks in front
    have hfirst := List.head?_dropWhile_not isBlank s
    rw [hs, ← trim] at hfirst
    cases htrim : trim s with
    | nil => rfl
    | cons c t =>
      rw [htrim] at hfirst
      simpa using hfirst
  · have hlast := List.head?_dropWhile_not isBlank (s.dropWhile isBlank).reverse
    rw [trim, trimEnd, List.getLast?_reverse]
    cases hrest : (s.dropWhile isBlank).reverse.dropWhile isBlank with
    | nil => rfl
    | cons c t =>
      rw [hrest] at hlast
      simpa using hlast

/-- Trimming leaves the one text that is left without the blanks at the two ends. -/
theorem trim_eq_iff {s t : List Char} : trim s = t ↔ Trimmed s t := by
  constructor
  · rintro rfl
    exact trimmed_trim s
  · rintro ⟨⟨before, after, hbefore, hafter, rfl⟩, hfirst, hlast⟩
    rw [trim_append hbefore hafter, trim_eq_self hfirst hlast]

/-- What trimming leaves is left by trimming it again. -/
theorem trim_trim (s : List Char) : trim (trim s) = trim s :=
  trim_eq_self (trimmed_trim s).first (trimmed_trim s).last

/-- Nothing is left of a text exactly when there are only blanks in it. -/
theorem trim_eq_nil_iff {s : List Char} : trim s = [] ↔ ∀ c ∈ s, isBlank c = true := by
  constructor
  · intro h
    obtain ⟨before, after, hbefore, hafter, hs⟩ := (trimmed_trim s).around
    rw [h, List.append_nil] at hs
    rw [hs]
    exact fun c hc => (List.mem_append.1 hc).elim (hbefore c) (hafter c)
  · intro h
    rw [trim, ← List.append_nil s, List.dropWhile_append_of_pos h]
    rfl

end IssueSteward.Text
