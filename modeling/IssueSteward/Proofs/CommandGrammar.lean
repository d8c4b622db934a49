import IssueSteward.Proofs.Search
import IssueSteward.UnassignCommand

/-!
# The grammar of the unassign command

The command is a slash and eight letters, at the beginning of a comment or after a blank, where no
character of a word comes next. `occurs_iff_split` says that the search finds it exactly when a text
can be split around it, wherever else something like it stands.
-/

namespace IssueSteward.UnassignCommand

open Text

/-- A word ends before a text whose first character, if any, belongs to no word. -/
theorem endsWord_iff {s : List Char} :
    endsWord s = true ↔ ∀ c ∈ s.head?, isWordChar c = false := by
  cases s <;> simp [endsWord]

/-- A text begins with the command exactly when it is a slash, letters that fold to its name, and a
rest before which a word ends. -/
theorem startsHere_iff {s : List Char} :
    startsHere s = true ↔ ∃ k after, s = '/' :: (k ++ after) ∧
      k.map simpleFold = "unassign".toList ∧ ∀ c ∈ after.head?, isWordChar c = false := by
  have hletters : name.all Char.isLower = true := by decide
  unfold startsHere
  split
  · rename_i s
    rw [Option.any_eq_true]
    constructor
    · rintro ⟨after, hafter, hends⟩
      obtain ⟨k, rfl, hk⟩ := stripFolded?_eq_some_iff.1 hafter
      exact ⟨k, after, rfl, (map_simpleFold_eq_iff hletters).2 hk, endsWord_iff.1 hends⟩
    · rintro ⟨k, after, hs, hk, hends⟩
      obtain rfl := List.cons.inj hs |>.2
      exact ⟨after, stripFolded?_eq_some_iff.2 ⟨k, rfl, (map_simpleFold_eq_iff hletters).1 hk⟩,
        endsWord_iff.2 hends⟩
  · rename_i hother
    simp only [Bool.false_eq_true, false_iff]
    rintro ⟨k, after, rfl, -⟩
    exact hother _ rfl

/-- The search for the command finds it exactly at the beginning of a text or after a blank. -/
theorem occurs_iff {s : List Char} :
    occurs true s = true ↔ ∃ before rest, s = before ++ rest ∧ startsHere rest = true ∧
      ∀ c ∈ before.getLast?, isBlank c = true := by
  rw [search_iff (fun _ => rfl) (fun _ _ _ => rfl) rfl]
  simp

/-- The command occurs in a text exactly when the text can be split around it. -/
theorem occurs_iff_split {s : List Char} :
    occurs true s = true ↔ ∃ before k after,
      s = before ++ '/' :: (k ++ after) ∧
      (∀ c ∈ before.getLast?, isBlank c = true) ∧ k.map simpleFold = "unassign".toList ∧
      ∀ c ∈ after.head?, isWordChar c = false := by
  rw [occurs_iff]
  constructor
  · rintro ⟨before, rest, hsplit, hstarts, hbefore⟩
    obtain ⟨k, after, rfl, hk, hafter⟩ := startsHere_iff.1 hstarts
    exact ⟨before, k, after, hsplit, hbefore, hk, hafter⟩
  · rintro ⟨before, k, after, hsplit, hbefore, hk, hafter⟩
    exact ⟨before, '/' :: (k ++ after), hsplit, startsHere_iff.2 ⟨k, after, rfl, hk, hafter⟩,
      hbefore⟩

end IssueSteward.UnassignCommand
