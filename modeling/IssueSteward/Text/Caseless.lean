/-!
# Comparison without regard to case

Two rules are in use. Names of accounts and flags are compared by the case of the ASCII letters
alone (`eqCaseless`). Words in running text are found under simple case folding (`fold`), by which
two further characters stand for ASCII letters. `stripFolded?_eq_some_iff` says what is found.
-/

namespace IssueSteward.Text

/-- A text with its ASCII capitals made small. -/
def lower (s : List Char) : List Char := s.map Char.toLower

/-- Whether two texts differ in the case of ASCII letters at most. -/
def eqCaseless (a b : String) : Bool := lower a.toList == lower b.toList

/-- Simple case folding as far as it leads to ASCII letters: the ASCII capitals, the long s and the
kelvin sign fold to small letters, and every other character stays. -/
def fold (c : Char) : Char :=
  if c = 'ſ' then 's' else if c = '\u212A' then 'k' else c.toLower

/-- What follows a word at the beginning of a text, where the text begins with the word up to
folding. -/
def stripFolded? : List Char → List Char → Option (List Char)
  | [], s => some s
  | _ :: _, [] => none
  | w :: word, c :: s => if fold c = w then stripFolded? word s else none

/-- A word is stripped exactly from the texts that are its letters, up to folding, and the rest. -/
theorem stripFolded?_eq_some_iff {word s rest : List Char} :
    stripFolded? word s = some rest ↔ ∃ k, s = k ++ rest ∧ k.map fold = word := by
  induction word generalizing s with
  | nil => simp [stripFolded?, eq_comm]
  | cons w word ih =>
    cases s with
    | nil => simp [stripFolded?]
    | cons c s =>
      simp only [stripFolded?]
      constructor
      · intro h
        split at h
        · rename_i hc
          obtain ⟨k, rfl, hk⟩ := ih.1 h
          exact ⟨c :: k, rfl, by simp [hc, hk]⟩
        · simp at h
      · rintro ⟨k, hs, hk⟩
        cases k with
        | nil => simp at hk
        | cons d k =>
          obtain ⟨rfl, rfl⟩ := List.cons.inj hs
          obtain ⟨hd, hk⟩ := List.cons.inj hk
          rw [if_pos hd]
          exact ih.2 ⟨k, rfl, hk⟩

end IssueSteward.Text
