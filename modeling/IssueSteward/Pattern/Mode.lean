import IssueSteward.Text.Blank
import IssueSteward.Text.CaseFold
import IssueSteward.Text.DecimalDigit
import IssueSteward.Text.WordChar

/-!
# Modes of patterns

How the signs of a pattern are understood depends on a mode, which the pattern itself can change from
some place on. The mode settles which characters count as equal, what digits, blanks and words are,
where lines begin and end, and whether blanks and remarks may stand between the signs (`skip`).
-/

namespace IssueSteward.Pattern

open Text

/-- A mode. -/
structure Mode where
  /-- Letters count as equal in every case. -/
  anyCase : Bool := false
  /-- The signs for the beginning and the end of the text hold for every line. -/
  everyLine : Bool := false
  /-- The sign for any character includes line feeds. -/
  acrossLines : Bool := false
  /-- Carriage returns end lines too. -/
  carriageReturns : Bool := false
  /-- Blanks and remarks may stand between signs. -/
  spaced : Bool := false
  /-- Classes of characters and cases are those of ASCII. -/
  ascii : Bool := false

namespace Mode

/-- The mode with the setting of a letter turned on or off. Whether longer matches are preferred is a
setting without effect, as it does not matter where a match ends. -/
def set? (m : Mode) (on : Bool) : Char → Option Mode
  | 'i' => some { m with anyCase := on }
  | 'm' => some { m with everyLine := on }
  | 's' => some { m with acrossLines := on }
  | 'R' => some { m with carriageReturns := on }
  | 'x' => some { m with spaced := on }
  | 'u' => some { m with ascii := !on }
  | 'U' => some m
  | _ => none

/-! ## Characters -/

/-- The characters that count as equal to a character. -/
def variants (m : Mode) (c : Char) : List Char :=
  if !m.anyCase then [c] else if m.ascii then [c.toLower, c.toUpper] else caseVariants c

/-- A set of characters with all that count as equal to one of them. -/
def close (m : Mode) (accepts : Char → Bool) : Char → Bool := fun c => (m.variants c).any accepts

/-- Whether a character is a digit. -/
def isDigit (m : Mode) (c : Char) : Bool := if m.ascii then c.isDigit else isDecimalDigit c

/-- Whether a character is blank. -/
def isBlank (m : Mode) (c : Char) : Bool := Text.isBlank c && (!m.ascii || c ≤ '\x7f')

/-- Whether a character may be part of a word. -/
def isWord (m : Mode) (c : Char) : Bool :=
  if m.ascii then c.isAlphanum || c = '_' else isWordChar c

/-- Whether the sign for any character accepts a character. -/
def isAny (m : Mode) (c : Char) : Bool :=
  m.acrossLines || (c != '\n' && !(m.carriageReturns && c == '\r'))

/-! ## Places -/

/-- Whether the sign for the beginning holds at a place. -/
def isStart (m : Mode) (before after : Option Char) : Bool :=
  match before with
  | none => true
  | some '\n' => m.everyLine
  -- A carriage return and a line feed end a line together.
  | some '\r' => m.everyLine && m.carriageReturns && after != some '\n'
  | some _ => false

/-- Whether the sign for the end holds at a place. -/
def isEnd (m : Mode) (before after : Option Char) : Bool :=
  match after with
  | none => true
  | some '\r' => m.everyLine && m.carriageReturns
  | some '\n' => m.everyLine && !(m.carriageReturns && before == some '\r')
  | some _ => false

/-- Whether the characters at a place are the last of a word and no part of a word, or the other way
round. -/
def isWordEdge (m : Mode) (before after : Option Char) : Bool :=
  before.any m.isWord != after.any m.isWord

/-! ## Blanks and remarks -/

/-- A text from its first character on that is neither blank nor part of a remark. A remark goes from
a number sign to the end of its line. -/
def skipRemarks (inRemark : Bool) : List Char → List Char
  | [] => []
  | c :: s =>
    if inRemark then skipRemarks (c != '\n') s
    else if Text.isBlank c then skipRemarks false s
    else if c = '#' then skipRemarks true s
    else c :: s

/-- What follows the blanks and remarks that may stand before a sign. -/
def skip (m : Mode) (s : List Char) : List Char := if m.spaced then skipRemarks false s else s

/-- Skipping remarks does not lengthen a text. -/
theorem skipRemarks_length (inRemark : Bool) (s : List Char) :
    (skipRemarks inRemark s).length ≤ s.length := by
  induction s generalizing inRemark with
  | nil => exact Nat.le_refl _
  | cons c s ih =>
    simp only [skipRemarks]
    split
    · exact Nat.le_succ_of_le (ih _)
    · split
      · exact Nat.le_succ_of_le (ih _)
      · split
        · exact Nat.le_succ_of_le (ih _)
        · exact Nat.le_refl _

/-- Skipping does not lengthen a text. -/
theorem skip_length (m : Mode) (s : List Char) : (m.skip s).length ≤ s.length := by
  rw [skip]
  split
  · exact skipRemarks_length _ _
  · exact Nat.le_refl _

/-- What follows the first sign is shorter than the text. -/
theorem length_lt_of_skip {m : Mode} {s r : List Char} {c : Char} (h : m.skip s = c :: r) :
    r.length < s.length := by
  have := m.skip_length s
  rw [h, List.length_cons] at this
  omega

end Mode

end IssueSteward.Pattern
