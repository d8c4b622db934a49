import IssueSteward.Text.Occurrence
import IssueSteward.Thread

/-!
# Markers

A marker is a comment of the markup language that readers of a thread do not see. Each comment that
a service posts begins with one, so that a later run finds out from the thread alone what was done
before. `stamp_isIn` says that a stamped comment is found.
-/

namespace IssueSteward

/-- A hidden text that records what was done on a thread: `Marker`. -/
structure Marker where
  /-- The text as it stands in a comment. -/
  text : String
deriving DecidableEq, Repr

namespace Marker

/-- The marker of the reminder that a pull request links no issue: `missing_issue`. -/
def missingIssue : Marker := ⟨"<!-- LinkBot Missing Issue -->"⟩

/-- The marker of the unassignment of a user: `Marker::unassign`. -/
def unassigned (login : String) : Marker := ⟨"<!-- unassign-requested:" ++ login ++ " -->"⟩

/-- A text with the marker on a line of its own before it: `stamp`. -/
def stamp (m : Marker) (body : String) : String := m.text ++ "\n" ++ body

/-- Whether the marker stands in one of the comments: `find_in`. -/
def isIn (m : Marker) (comments : List Comment) : Bool :=
  comments.any fun c => c.body.any fun body => Text.occursIn m.text.toList body.toList

/-- A marker is in a thread exactly when the text of a comment holds it. -/
theorem isIn_iff {m : Marker} {comments : List Comment} :
    m.isIn comments = true ↔
      ∃ c ∈ comments, ∃ body, c.body = some body ∧ m.text.toList <:+: body.toList := by
  simp only [isIn, List.any_eq_true, Option.any_eq_true, Text.occursIn_iff]

/-- A marker is found in a comment that it was put on. -/
theorem stamp_isIn (m : Marker) (body : String) (user : Option User) :
    m.isIn [⟨some (m.stamp body), user⟩] = true :=
  isIn_iff.2 ⟨_, List.mem_singleton.2 rfl, _, rfl, [], '\n' :: body.toList, by simp [stamp]⟩

end Marker

end IssueSteward
