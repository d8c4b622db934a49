/-!
# Occurrences of one text in another

`occursIn_iff` says that the search finds exactly the texts of which the sought one is a part.
-/

namespace IssueSteward.Text

/-- Whether a text occurs somewhere in another. -/
def occursIn (needle : List Char) : List Char → Bool
  | [] => needle.isEmpty
  | c :: s => needle.isPrefixOf (c :: s) || occursIn needle s

/-- A text occurs in another exactly when it is a contiguous part of it. -/
theorem occursIn_iff {needle s : List Char} : occursIn needle s = true ↔ needle <:+: s := by
  induction s with
  | nil => simp [occursIn]
  | cons c s ih => simp [occursIn, ih, List.infix_cons_iff]

end IssueSteward.Text
