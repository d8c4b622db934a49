import IssueSteward.Pattern.Mode
import IssueSteward.Text.HexDigit
import IssueSteward.Text.Property

/-!
# Signs of patterns

A character of a pattern stands for itself, unless it has another meaning; a backslash before a
character takes its meaning away or gives it one. A sign then stands for a character, for a set of
characters, or for a place. A reader takes the pattern from its place on and gives what it read with
the pattern that is left.
-/

namespace IssueSteward.Pattern

open Text

/-- What a sign stands for. -/
inductive Sign where
  /-- A character. -/
  | letter (c : Char)
  /-- A set of characters, and how much room the test takes. -/
  | set (accepts : Char → Bool) (room : Nat)
  /-- A place. -/
  | place (holds : Option Char → Option Char → Bool)

namespace Sign

/-- The sign for the characters that are not in a set. In a mode of ASCII there is none, as it would
stand for parts of characters too. -/
def other? (m : Mode) (accepts : Char → Bool) (room : Nat) : Option Sign :=
  if m.ascii then none else some (.set (fun c => !accepts c) room)

/-! ## Characters by number -/

/-- The number that hexadecimal digits write. -/
def hexValue (digits : List Nat) : Nat := digits.foldl (fun n d => 16 * n + d) 0

/-- The character with a number. -/
def ofNumber? (n : Nat) : Option Char := if n.isValidChar then some (Char.ofNat n) else none

/-- So many hexadecimal digits. -/
def hexDigits (m : Mode) : Nat → List Char → Option (List Nat × List Char)
  | 0, s => some ([], s)
  | n + 1, s =>
    match m.skip s with
    | [] => none
    | c :: r => do
      let d ← hexDigit? c
      let (ds, r) ← hexDigits m n r
      return (d :: ds, r)

/-- The hexadecimal digits up to a closing brace. -/
def hexDigitsInBraces (m : Mode) (s : List Char) : Option (List Nat × List Char) :=
  match _h : m.skip s with
  | [] => none
  | '\x7d' :: r => some ([], r)
  | c :: r => do
    let d ← hexDigit? c
    let (ds, r) ← hexDigitsInBraces m r
    return (d :: ds, r)
termination_by s.length
decreasing_by exact Mode.length_lt_of_skip _h

/-- The sign for the character whose number is written with so many digits or between braces. In a
mode of ASCII a number of two digits has to be one of ASCII. -/
def numbered? (m : Mode) (width : Nat) (s : List Char) : Option (Sign × List Char) :=
  match m.skip s with
  | '\x7b' :: r => do
    let (ds, r) ← hexDigitsInBraces m r
    if ds.isEmpty then none
    else return (.letter (← ofNumber? (hexValue ds)), r)
  | s => do
    let (ds, r) ← hexDigits m width s
    let c ← ofNumber? (hexValue ds)
    if m.ascii && width = 2 && '\x7f' < c then none else return (.letter c, r)

/-! ## Sets by name -/

/-- The characters of a name up to a closing brace. -/
def nameInBraces (m : Mode) (s : List Char) : Option (List Char × List Char) :=
  match _h : m.skip s with
  | [] => none
  | '\x7d' :: r => some ([], r)
  | c :: r => do
    let (name, r) ← nameInBraces m r
    return (c :: name, r)
termination_by s.length
decreasing_by exact Mode.length_lt_of_skip _h

/-- What stands before and after the first occurrence of a separator. -/
def cut? (sep : List Char) : List Char → Option (List Char × List Char)
  | [] => none
  | c :: s =>
    if sep.isPrefixOf (c :: s) then some ([], (c :: s).drop sep.length)
    else (cut? sep s).map fun parts => (c :: parts.1, parts.2)

/-- The set that a name calls, which may have a value after it. All the separators between a name and
a value mean the same, `!=` included. -/
def named? (name : List Char) : Option (Char → Bool) :=
  match [['!', '='], [':'], ['=']].findSome? (cut? · name) with
  | some (name, value) => propertyValue? name value
  | none => property? name

/-- The sign for the characters that a name calls, or for all others. -/
def called? (m : Mode) (others : Bool) (s : List Char) : Option (Sign × List Char) := do
  let (name, r) ← match m.skip s with
    | [] => none
    | '\\' :: _ => none
    | '\x7b' :: r => nameInBraces m r
    | c :: r => some ([c], r)
  let closed := m.close (← named? name)
  if m.ascii then none else return (.set (fun c => closed c != others) 20000, r)

/-! ## Places -/

/-- Whether a character may stand in the name of an edge of words. -/
def isEdgeLetter (c : Char) : Bool := c.isAlpha || c = '-'

/-- The letters that name an edge of words, and what follows them. -/
def edgeName (m : Mode) (s : List Char) : List Char × List Char :=
  match _h : m.skip s with
  | [] => ([], [])
  | c :: r =>
    if isEdgeLetter c then
      let (name, r) := edgeName m r
      (c :: name, r)
    else ([], c :: r)
termination_by s.length
decreasing_by exact Mode.length_lt_of_skip _h

/-- The beginning of a word. -/
def wordStart (m : Mode) : Sign := .place fun b a => !b.any m.isWord && a.any m.isWord

/-- The end of a word. -/
def wordEnd (m : Mode) : Sign := .place fun b a => b.any m.isWord && !a.any m.isWord

/-- The edge of words of a name. -/
def edge? (m : Mode) : String → Option Sign
  | "start" => some (wordStart m)
  | "end" => some (wordEnd m)
  | "start-half" => some (.place fun b _ => !b.any m.isWord)
  | "end-half" => some (.place fun _ a => !a.any m.isWord)
  | _ => none

/-- The sign for an edge of words, which may have a name between braces. Braces with anything but a
name are left for a repetition. -/
def wordEdge? (m : Mode) (s : List Char) : Option (Sign × List Char) :=
  match s with
  | '\x7b' :: r =>
    match m.skip r with
    | [] => none
    | c :: _ =>
      if isEdgeLetter c then
        match edgeName m r with
        | (name, '\x7d' :: r) => (edge? m (String.ofList name)).map (·, r)
        | _ => none
      else some (.place m.isWordEdge, s)
  | _ => some (.place m.isWordEdge, s)

/-! ## Signs with a backslash -/

/-- Whether a backslash makes a character stand for itself. -/
def isEscapable (c : Char) : Bool := c ≤ '\x7f' && !c.isAlphanum && c != '<' && c != '>'

/-- The sign that a backslash makes of what follows it. -/
def escaped? (m : Mode) : List Char → Option (Sign × List Char)
  | [] => none
  | c :: s =>
    match c with
    | 'x' => numbered? m 2 s
    | 'u' => numbered? m 4 s
    | 'U' => numbered? m 8 s
    | 'p' => called? m false s
    | 'P' => called? m true s
    | 'd' => some (.set m.isDigit 5000, s)
    | 's' => some (.set m.isBlank 700, s)
    | 'w' => some (.set m.isWord 50000, s)
    | 'D' => (other? m m.isDigit 13000).map (·, s)
    | 'S' => (other? m m.isBlank 2000).map (·, s)
    | 'W' => (other? m m.isWord 46000).map (·, s)
    | 'a' => some (.letter '\x07', s)
    | 'f' => some (.letter '\x0c', s)
    | 't' => some (.letter '\t', s)
    | 'n' => some (.letter '\n', s)
    | 'r' => some (.letter '\r', s)
    | 'v' => some (.letter '\x0b', s)
    | 'A' => some (.place fun b _ => b.isNone, s)
    | 'z' => some (.place fun _ a => a.isNone, s)
    | 'b' => wordEdge? m s
    | 'B' => some (.place fun b a => !m.isWordEdge b a, s)
    | '<' => some (wordStart m, s)
    | '>' => some (wordEnd m, s)
    | c => if isEscapable c then some (.letter c, s) else none

end Sign

end IssueSteward.Pattern
