/-!
# Splitting texts

A text is cut at every occurrence of one character. `intercalate_splitOnChar` says that the parts,
with the character between them, are the text again, and `not_mem_of_mem_splitOnChar` that the
character is in none of them. So `splitOnChar_eq_pair_iff` tells which texts have two parts.
-/

namespace IssueSteward.Text

/-- The parts of a text between the occurrences of a character. -/
def splitOnChar (sep : Char) : List Char → List (List Char)
  | [] => [[]]
  | c :: s =>
    if c = sep then [] :: splitOnChar sep s else (splitOnChar sep s).modifyHead (c :: ·)

/-- There is always at least one part. -/
theorem splitOnChar_ne_nil (sep : Char) (s : List Char) : splitOnChar sep s ≠ [] := by
  induction s with
  | nil => simp [splitOnChar]
  | cons c s ih =>
    rw [splitOnChar]
    split
    · exact List.cons_ne_nil _ _
    · obtain ⟨part, parts, h⟩ := List.exists_cons_of_ne_nil ih
      simp [h]

/-- The parts of a text, with the character between them, are the text. -/
theorem intercalate_splitOnChar (sep : Char) (s : List Char) :
    [sep].intercalate (splitOnChar sep s) = s := by
  induction s with
  | nil => rfl
  | cons c s ih =>
    obtain ⟨part, parts, h⟩ := List.exists_cons_of_ne_nil (splitOnChar_ne_nil sep s)
    rw [h] at ih
    rw [splitOnChar, h]
    split
    · rename_i hc
      rw [List.intercalate_cons_cons, ih, hc]
      rfl
    · cases parts with
      | nil => simpa using ih
      | cons next parts =>
        rw [List.intercalate_cons_cons] at ih
        rw [List.modifyHead_cons, List.intercalate_cons_cons, ← ih]
        rfl

/-- No part contains the character at which the text was cut. -/
theorem not_mem_of_mem_splitOnChar {sep : Char} {s part : List Char}
    (h : part ∈ splitOnChar sep s) : sep ∉ part := by
  induction s generalizing part with
  | nil =>
    rw [List.mem_singleton.1 h]
    exact List.not_mem_nil
  | cons c s ih =>
    rw [splitOnChar] at h
    split at h
    · rcases List.mem_cons.1 h with rfl | h
      · exact List.not_mem_nil
      · exact ih h
    · rename_i hc
      obtain ⟨first, rest, hs⟩ := List.exists_cons_of_ne_nil (splitOnChar_ne_nil sep s)
      rw [hs] at h ih
      rcases List.mem_cons.1 h with rfl | h
      · -- the first part begins with a character other than the separator
        rw [List.mem_cons, not_or]
        exact ⟨Ne.symm hc, ih (List.mem_cons_self ..)⟩
      · exact ih (List.mem_cons_of_mem _ h)

/-- A text without the character is its only part. -/
theorem splitOnChar_of_not_mem {sep : Char} {s : List Char} (h : sep ∉ s) :
    splitOnChar sep s = [s] := by
  induction s with
  | nil => rfl
  | cons c s ih =>
    rw [List.mem_cons, not_or] at h
    rw [splitOnChar, if_neg (Ne.symm h.1), ih h.2]
    rfl

/-- What stands before the first occurrence of the character is the first part. -/
theorem splitOnChar_append {sep : Char} {s : List Char} (h : sep ∉ s) (rest : List Char) :
    splitOnChar sep (s ++ sep :: rest) = s :: splitOnChar sep rest := by
  induction s with
  | nil => exact if_pos rfl
  | cons c s ih =>
    rw [List.mem_cons, not_or] at h
    rw [List.cons_append, splitOnChar, if_neg (Ne.symm h.1), ih h.2]
    rfl

/-- A text has two parts exactly where they are what stands before and after the only occurrence of
the character. -/
theorem splitOnChar_eq_pair_iff {sep : Char} {s a b : List Char} :
    splitOnChar sep s = [a, b] ↔ s = a ++ sep :: b ∧ sep ∉ a ∧ sep ∉ b := by
  constructor
  · intro h
    have hs := intercalate_splitOnChar sep s
    rw [h] at hs
    refine ⟨by simpa using hs.symm, ?_, ?_⟩
    · exact not_mem_of_mem_splitOnChar (h ▸ List.mem_cons_self)
    · exact not_mem_of_mem_splitOnChar (h ▸ List.mem_cons_of_mem _ List.mem_cons_self)
  · rintro ⟨rfl, ha, hb⟩
    rw [splitOnChar_append ha, splitOnChar_of_not_mem hb]

end IssueSteward.Text
