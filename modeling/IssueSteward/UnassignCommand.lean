import IssueSteward.Text.Blank
import IssueSteward.Text.Caseless
import IssueSteward.Text.WordChar

/-!
# The unassign command

A comment asks for unassignment when the command `/unassign` stands alone in it: at the beginning
or after a blank, in letters of any case, and not run together with a further character of a word.
-/

namespace IssueSteward.UnassignCommand

open Text

/-- The letters of the command. -/
def name : List Char := "unassign".toList

/-- Whether a text is empty or begins with a character that belongs to no word. -/
def endsWord : List Char → Bool
  | [] => true
  | c :: _ => !isWordChar c

/-- Whether a text begins with the command. -/
def startsHere : List Char → Bool
  | '/' :: s => (stripFolded? name s).any endsWord
  | _ => false

/-- Whether the command stands in a text, where `free` says that the text is at the beginning or
after a blank. -/
def occurs (free : Bool) : List Char → Bool
  | [] => false
  | c :: s => free && startsHere (c :: s) || occurs (isBlank c) s

end IssueSteward.UnassignCommand

namespace IssueSteward

/-- Whether a comment holds the unassign command: `has_command`. -/
def hasUnassignCommand (body : String) : Bool := UnassignCommand.occurs true body.toList

end IssueSteward
