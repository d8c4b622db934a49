import IssueSteward.Pattern
import IssueSteward.Pattern.CharClass

/-!
# Reading patterns

A pattern is written as its signs one after the other. Round brackets make a group of a part,
vertical bars stand between alternatives, and a star, a plus sign, a question mark or numbers between
braces repeat what is before them. A question mark after an opening bracket begins the name of the
group or a change of the mode, which holds up to the end of the group around it. What is nested too
deeply or takes too much room is no pattern.
-/

namespace IssueSteward.Pattern

open Text

/-- The pattern of what a sign stands for. In a mode of any case a character stands for its variants
too. -/
def ofSign (m : Mode) : Sign → Pattern
  | .letter c =>
    if m.anyCase then char (m.close (· == c)) 200 else char (· == c) (32 * c.utf8Size)
  | .set accepts room => char accepts room
  | .place holds => place holds

/-! ## How large a pattern is -/

/-- How much room a pattern takes, by estimate. -/
def room : Pattern → Nat
  | empty => 32
  | char _ room => room
  | place _ => 32
  | seq first second => first.room + second.room
  | alt left right => left.room + right.room + 40
  | times pattern least none => max least 1 * pattern.room + 40
  | times pattern least (some most) =>
    least * pattern.room + (most - least) * (pattern.room + 40) + 32

/-- The room that a pattern may take. -/
def roomLimit : Nat := 10 * Nat.pow 2 20

/-- How deeply a pattern may be nested. -/
def heightLimit : Nat := 250

/-! ## Parts of a pattern -/

/-- A part of a pattern. -/
structure Part where
  /-- The pattern that it is. -/
  pattern : Pattern
  /-- How many groups, classes, repetitions, sequences and choices stand inside one another. -/
  height : Nat := 0
  /-- Whether it can be repeated; a change of the mode cannot. -/
  repeatable : Bool := true

/-- The part that several parts make, the last one first, where `join` puts two patterns together
and `none` of them make `empty`. -/
def Part.join (join : Pattern → Pattern → Pattern) : List Part → Part
  | [] => { pattern := empty }
  | [p] => p
  | p :: ps =>
    { pattern := ps.foldl (fun rest q => join q.pattern rest) p.pattern
      height := 1 + (ps.map height).foldl max p.height }

/-- What has been read of a group. -/
structure Group where
  /-- The alternatives before the one that is being read, the last one first. -/
  alternatives : List Part := []
  /-- The parts of that one, the last one first. -/
  parts : List Part := []

namespace Group

/-- The group with one more part. -/
def push (g : Group) (p : Part) : Group := { g with parts := p :: g.parts }

/-- The group before a further alternative. -/
def split (g : Group) : Group := { alternatives := Part.join seq g.parts :: g.alternatives }

/-- What a group is at its end. -/
def content (g : Group) : Part := Part.join alt g.split.alternatives

/-- The group with its last part repeated at least and at most so often. -/
def repeat? (g : Group) (least : Nat) (most : Option Nat) : Option Group :=
  match g.parts with
  | [] => none
  | p :: ps =>
    if p.repeatable then
      some { g with parts := { pattern := times p.pattern least most, height := 1 + p.height } :: ps }
    else none

end Group

/-- What has been read of a pattern. -/
structure Draft where
  /-- The mode of what follows. -/
  mode : Mode := {}
  /-- The names of groups. -/
  names : List (List Char) := []
  /-- The innermost group. -/
  group : Group := {}
  /-- The groups around it, each with the mode that it goes on in. -/
  outer : List (Mode × Group) := []

namespace Draft

/-! ## Repetitions -/

/-- What follows a question mark, if there is one. -/
def withoutMark : List Char → List Char
  | '?' :: s => s
  | s => s

/-- Digits that may stand apart, and what follows. -/
def digits (m : Mode) (s : List Char) : List Char × List Char :=
  match _h : m.skip s with
  | [] => ([], [])
  | c :: r =>
    if c.isDigit then
      let (ds, r) := digits m r
      (c :: ds, r)
    else ([], c :: r)
termination_by s.length
decreasing_by exact Mode.length_lt_of_skip _h

/-- A number of 32 bits between blanks, and what follows. -/
def count? (m : Mode) (s : List Char) : Option (Nat × List Char) :=
  let (ds, r) := digits m (s.dropWhile isBlank)
  let n := ds.foldl (fun n d => 10 * n + (d.toNat - '0'.toNat)) 0
  if ds.isEmpty || UInt32.size ≤ n then none else some (n, m.skip (r.dropWhile isBlank))

/-- The numbers of a repetition from after the opening brace on, and what follows. -/
def counts? (m : Mode) (s : List Char) : Option (Nat × Option Nat × List Char) := do
  let (least, r) ← count? m (m.skip s)
  match r with
  | '\x7d' :: r => return (least, some least, r)
  | ',' :: r =>
    match m.skip r with
    | '\x7d' :: r => return (least, none, r)
    | r =>
      match ← count? m r with
      | (most, '\x7d' :: r) => if least ≤ most then return (least, some most, r) else none
      | _ => none
  | _ => none

/-- The draft with its last part repeated. -/
def repeat? (d : Draft) (least : Nat) (most : Option Nat) : Option Draft :=
  (d.group.repeat? least most).map fun group => { d with group := group }

/-! ## Groups -/

/-- The draft with a part more. -/
def push (d : Draft) (p : Part) : Draft := { d with group := d.group.push p }

/-- The draft with a group opened, for which a mode holds. -/
def openGroup (d : Draft) (m : Mode) : Draft :=
  { d with mode := m, group := {}, outer := (d.mode, d.group) :: d.outer }

/-- The draft with a group closed, if one is open. -/
def close? (d : Draft) : Option Draft :=
  match d.outer with
  | [] => none
  | (mode, group) :: outer =>
    let p := d.group.content
    some { d with
      mode := mode
      group := group.push { pattern := p.pattern, height := 1 + p.height }
      outer := outer }

/-- Whether a character may stand in the name of a group, perhaps at its beginning. -/
def isNameChar (first : Bool) (c : Char) : Bool :=
  c = '_' || isAlphabetic c || (!first && (isNumeric c || ['.', '[', ']'].contains c))

/-- The draft with a group opened that has a name, from the name on. No two groups have one name. -/
def openNamed? (d : Draft) (s : List Char) : Option (Draft × List Char) :=
  let name := s.takeWhile (· != '>')
  match s.dropWhile (· != '>') with
  | '>' :: r =>
    if name.head?.any (isNameChar true) && name.all (isNameChar false) &&
        !d.names.contains name then
      some ({ d.openGroup d.mode with names := name :: d.names }, r)
    else none
  | _ => none

/-- The mode after the settings up to a colon or a closing bracket, that sign, and what follows. The
settings after a hyphen are turned off; none is made twice, and one follows the hyphen. -/
def settings? (m : Mode) (made : List Char) : List Char → Option (Mode × Char × List Char)
  | [] => none
  | c :: s =>
    if c = ':' || c = ')' then if made.head? = some '-' then none else some (m, c, s)
    else if made.contains c then none
    else if c = '-' then settings? m (c :: made) s
    else do settings? (← m.set? (!made.contains '-') c) (c :: made) s

/-- The draft with a group opened or the mode changed, from after the opening bracket on. No group
looks ahead or back. -/
def open? (d : Draft) (s : List Char) : Option (Draft × List Char) :=
  match d.mode.skip s with
  | '?' :: '<' :: '=' :: _ | '?' :: '<' :: '!' :: _ => none
  | '?' :: 'P' :: '<' :: r | '?' :: '<' :: r => openNamed? d r
  | '?' :: ')' :: _ => none
  | '?' :: r => do
    let (m, sign, r) ← settings? d.mode [] r
    if sign = ':' then return (d.openGroup m, r)
    else
      let change : Part := { pattern := empty, repeatable := false }
      return ({ d.push change with mode := m }, r)
  | r => some (d.openGroup d.mode, r)

/-! ## The whole pattern -/

/-- The draft after the next sign, and what follows. -/
def step? (d : Draft) (s : List Char) : Option (Draft × List Char) :=
  match s with
  | [] => none
  | '(' :: r => d.open? r
  | ')' :: r => d.close?.map (·, r)
  | '|' :: r => some ({ d with group := d.group.split }, r)
  | '?' :: r => (d.repeat? 0 (some 1)).map (·, withoutMark r)
  | '*' :: r => (d.repeat? 0 none).map (·, withoutMark r)
  | '+' :: r => (d.repeat? 1 none).map (·, withoutMark r)
  | '\x7b' :: r => do
    let (least, most, r) ← counts? d.mode r
    return (← d.repeat? least most, withoutMark (d.mode.skip r))
  | '[' :: r => do
    let (k, r) ← CharClass.read? d.mode r
    return (d.push { pattern := char k.accepts k.room, height := k.height }, r)
  | '\\' :: r => do
    let (sign, r) ← Sign.escaped? d.mode r
    return (d.push { pattern := ofSign d.mode sign }, r)
  | '.' :: r =>
    if d.mode.ascii then none else some (d.push { pattern := char d.mode.isAny 1000 }, r)
  | '^' :: r => some (d.push { pattern := place d.mode.isStart }, r)
  | '$' :: r => some (d.push { pattern := place d.mode.isEnd }, r)
  | c :: r => some (d.push { pattern := ofSign d.mode (.letter c) }, r)

/-- The pattern of a draft to which nothing is to be added, if no group is open. -/
def finish? (d : Draft) : Option Pattern :=
  let p := d.group.content
  if d.outer.isEmpty && p.height ≤ heightLimit && p.pattern.room ≤ roomLimit then some p.pattern
  else none

/-- The pattern that a draft and what follows it make. -/
def read? (d : Draft) (s : List Char) : Option Pattern :=
  match _h : d.mode.skip s with
  | [] => d.finish?
  | c :: r =>
    match d.step? (c :: r) with
    | none => none
    | some (d, t) =>
      -- Every step reads something.
      if _ht : t.length < s.length then d.read? t else none
termination_by s.length

end Draft

/-- The pattern that a text describes. -/
def ofText? (text : List Char) : Option Pattern := ({} : Draft).read? text

end IssueSteward.Pattern
