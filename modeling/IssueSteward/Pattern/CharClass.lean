import IssueSteward.Pattern.Sign

/-!
# Classes of characters

A class stands between square brackets and holds characters, ranges of characters, sets with a name
and further classes; a caret at its beginning means all other characters. Its parts can be combined:
`&&` leaves what is in both, `--` what is in the first alone, and `~~` what is in one of the two
alone. Of several combinations the first is made first.
-/

namespace IssueSteward.Pattern

/-- A class of characters, or a part of one. -/
structure CharClass where
  /-- The characters that it accepts. -/
  accepts : Char → Bool
  /-- How much room the test takes. -/
  room : Nat := 40
  /-- How many classes, lists and combinations stand inside one another. -/
  height : Nat := 0

/-- How two parts of a class are combined. -/
inductive Combination where
  /-- What is in both. -/
  | intersection
  /-- What is in the first and not in the second. -/
  | difference
  /-- What is in one of them and not in the other. -/
  | symmetricDifference
deriving DecidableEq, Repr

/-- Whether a character is in a combination of two sets, if it is in each of them or not. -/
def Combination.holds : Combination → Bool → Bool → Bool
  | intersection, a, b => a && b
  | difference, a, b => a && !b
  | symmetricDifference, a, b => a != b

namespace CharClass

/-- The class that accepts what one of several does. -/
def union : List CharClass → CharClass
  | [] => { accepts := fun _ => false }
  | [k] => k
  | ks =>
    { accepts := fun c => ks.any (·.accepts c)
      room := (ks.map room).foldl (· + ·) 0
      height := 1 + (ks.map height).foldl max 0 }

/-- The combination of two classes. -/
def combine (m : Mode) (how : Combination) (a b : CharClass) : CharClass :=
  let inA := m.close a.accepts
  let inB := m.close b.accepts
  { accepts := fun c => how.holds (inA c) (inB c)
    room := a.room + b.room
    height := 1 + max a.height b.height }

/-- The class of what a class accepts or, if it is negated, of what it does not. In a mode of ASCII
no class is negated. -/
def complete? (m : Mode) (negated : Bool) (k : CharClass) : Option CharClass :=
  let inK := m.close k.accepts
  if negated && m.ascii then none
  else some { k with
    accepts := fun c => inK c != negated
    room := if negated then k.room + 1000 else k.room }

/-- The class of the characters from one to another. In a mode of ASCII they are those of ASCII. -/
def range? (m : Mode) (first last : Char) : Option CharClass :=
  if first ≤ last && (!m.ascii || last ≤ '\x7f') then
    some { accepts := fun c => first ≤ c && c ≤ last
           room := if last ≤ '\x7f' then 40 else 200 }
  else none

/-- The class of what a sign stands for. -/
def ofSign? (m : Mode) : Sign → Option CharClass
  | .letter c => range? m c c
  | .set accepts room => some { accepts := accepts, room := room }
  | .place _ => none

/-! ## Sets with a name of their own -/

/-- The sets of ASCII that have a name between brackets and colons. -/
def named? : String → Option (Char → Bool)
  | "alnum" => some Char.isAlphanum
  | "alpha" => some Char.isAlpha
  | "ascii" => some (· ≤ '\x7f')
  | "blank" => some fun c => c = '\t' || c = ' '
  | "cntrl" => some fun c => c < ' ' || c = '\x7f'
  | "digit" => some Char.isDigit
  | "graph" => some fun c => '!' ≤ c && c ≤ '~'
  | "lower" => some Char.isLower
  | "print" => some fun c => ' ' ≤ c && c ≤ '~'
  | "punct" => some fun c => '!' ≤ c && c ≤ '~' && !c.isAlphanum
  | "space" => some fun c => c = ' ' || ('\t' ≤ c && c ≤ '\r')
  | "upper" => some Char.isUpper
  | "word" => some fun c => c.isAlphanum || c = '_'
  | "xdigit" => some Text.isHexDigit
  | _ => none

/-- A name between colons, from after the opening bracket to after the closing one: the set, whether
its complement is meant, and what follows. -/
def name? : List Char → Option ((Char → Bool) × Bool × List Char)
  | ':' :: s =>
    let (negated, s) := match s with
      | '^' :: r => (true, r)
      | _ => (false, s)
    match s.dropWhile (· != ':') with
    | ':' :: ']' :: r =>
      (named? (String.ofList (s.takeWhile (· != ':')))).map fun accepts => (accepts, negated, r)
    | _ => none
  | _ => none

/-! ## Signs in a class -/

/-- A sign in a class. -/
def sign? (m : Mode) : List Char → Option (Sign × List Char)
  | [] => none
  | '\\' :: s => Sign.escaped? m s
  | c :: s => some (.letter c, s)

/-- The first sign that follows a hyphen, apart from blanks and the sign of a remark. -/
def peek (m : Mode) (inRemark : Bool) : List Char → Option Char
  | [] => none
  | c :: s =>
    if m.spaced && Text.isBlank c then peek m inRemark s
    else if m.spaced && !inRemark && c = '#' then peek m true s
    else some c

/-- A sign, or the range that it begins. A hyphen before the end of the class or before another
hyphen makes no range. -/
def item? (m : Mode) (s : List Char) : Option (CharClass × List Char) := do
  let (first, s) ← sign? m s
  let s := m.skip s
  let single := (ofSign? m first).map (·, s)
  match s with
  | [] => none
  | '-' :: r =>
    if [some ']', some '-'].contains (peek m false r) then single
    else
      let (last, r) ← sign? m (m.skip r)
      match first, last with
      | .letter a, .letter b => (range? m a b).map (·, r)
      | _, _ => none
  | _ => single

/-! ## Reading a class -/

/-- A class of which the end has not been read. -/
structure Unfinished where
  /-- Whether it is negated. -/
  negated : Bool
  /-- The parts since the last combination. -/
  parts : List CharClass
  /-- What is before that combination, and how it is to be combined. -/
  left : Option (CharClass × Combination) := none

namespace Unfinished

/-- The class with one more part. -/
def push (u : Unfinished) (k : CharClass) : Unfinished := { u with parts := k :: u.parts }

/-- What the parts up to now make. -/
def content (m : Mode) (u : Unfinished) : CharClass :=
  match u.left with
  | none => union u.parts
  | some (k, how) => combine m how k (union u.parts)

/-- The class with a combination of what was read and what follows. -/
def split (m : Mode) (u : Unfinished) (how : Combination) : Unfinished :=
  { u with parts := [], left := some (u.content m, how) }

/-- The class at its end. -/
def finish? (m : Mode) (u : Unfinished) : Option CharClass :=
  (complete? m u.negated (u.content m)).map fun k => { k with height := 1 + k.height }

end Unfinished

/-- The hyphens that stand for themselves at the beginning of a class. -/
def hyphens (m : Mode) (s : List Char) : List CharClass × List Char :=
  match _h : m.skip s with
  | '-' :: r =>
    let (ks, r) := hyphens m r
    ({ accepts := (· == '-') } :: ks, r)
  | s => ([], s)
termination_by s.length
decreasing_by exact Mode.length_lt_of_skip _h

/-- A class from after its opening bracket on, with the signs that stand for themselves at its
beginning only: hyphens, or one closing bracket. -/
def start (m : Mode) (s : List Char) : Unfinished × List Char :=
  let (negated, s) := match m.skip s with
    | '^' :: r => (true, r)
    | s => (false, s)
  match hyphens m s with
  | ([], ']' :: r) => (⟨negated, [{ accepts := (· == ']') }], none⟩, r)
  | (ks, r) => (⟨negated, ks, none⟩, r)

/-- A step of the reading of a class inside others: the class that is unfinished then, the ones
around it, and what follows; or the outermost class if it is finished, and what follows. -/
def step? (m : Mode) (u : Unfinished) (outer : List Unfinished) (s : List Char) :
    Option ((Unfinished × List Unfinished ⊕ CharClass) × List Char) :=
  match m.skip s with
  | [] => none
  | ']' :: r => do
    let k ← u.finish? m
    match outer with
    | [] => return (.inr k, r)
    | o :: outer => return (.inl (o.push k, outer), r)
  | '[' :: r =>
    match name? r with
    | some (accepts, negated, r) => do
      let k ← complete? m negated { accepts := accepts }
      return (.inl (u.push k, outer), r)
    | none =>
      let (inner, r) := start m r
      some (.inl (inner, u :: outer), r)
  | '&' :: '&' :: r => some (.inl (u.split m .intersection, outer), r)
  | '-' :: '-' :: r => some (.inl (u.split m .difference, outer), r)
  | '~' :: '~' :: r => some (.inl (u.split m .symmetricDifference, outer), r)
  | s => do
    let (k, r) ← item? m s
    return (.inl (u.push k, outer), r)

/-- The outermost class, and what follows it. -/
def finish? (m : Mode) (u : Unfinished) (outer : List Unfinished) (s : List Char) :
    Option (CharClass × List Char) :=
  match step? m u outer s with
  | none => none
  | some (.inr k, r) => some (k, r)
  | some (.inl (u, outer), r) =>
    -- Every step reads something.
    if _h : r.length < s.length then finish? m u outer r else none
termination_by s.length

/-- The class that begins after an opening bracket, and what follows it. -/
def read? (m : Mode) (s : List Char) : Option (CharClass × List Char) :=
  let (u, r) := start m s
  finish? m u [] r

end CharClass

end IssueSteward.Pattern
