import IssueSteward.Payload.Scan
import IssueSteward.Thread

/-!
# Decoders of single values

A decoder reads a value of one type from the beginning of a text and leaves the rest, which is
always shorter. Here are the decoders of strings, numbers, states and values of any kind, and those
that make a decoder read `null` as well or a whole array.
-/

namespace IssueSteward.Payload

/-- A reader of values that consumes some of the text whenever it succeeds. -/
structure Decoder (α : Type) where
  /-- The value at the beginning of a text and the rest of the text. -/
  run : List Char → Except Fault (α × List Char)
  /-- The rest is shorter than the text. -/
  shrinks : ∀ {s r : List Char} {v : α}, run s = .ok (v, r) → r.length < s.length

/-- The value that begins with the character `c` and goes on with `s`, where it has a kind, as far
as it has to be read to know what to call it. -/
def found (c : Char) (s : List Char) : Except Fault Found :=
  if c = 'n' then (fun _ => .null) <$> literal ['u', 'l', 'l'] s
  else if c = 't' then (fun _ => .boolean true) <$> literal ['r', 'u', 'e'] s
  else if c = 'f' then (fun _ => .boolean false) <$> literal ['a', 'l', 's', 'e'] s
  else if c = '-' then (fun n => n.1.found) <$> keptNumber true s
  else if c.isDigit then (fun n => n.1.found) <$> keptNumber false (c :: s)
  else if c = '"' then (fun t => .string (String.ofList t.1)) <$> keptString s
  else if c = '[' then .ok .sequence
  else if c = '\x7b' then .ok .map
  else .error .malformed

/-- The fault of a value that is not of the wanted kind: that fact, unless the value is at fault
itself. -/
def mismatch (wanted : Wanted) (c : Char) (s : List Char) : Fault :=
  match found c s with
  | .ok found => .unfit (.invalidType found wanted)
  | .error fault => fault

namespace Decoder

/-- A decoder that looks at the first character after white space and goes on from there. -/
def onFirst {α : Type} (f : Char → List Char → Except Fault (α × List Char))
    (hf : ∀ {c : Char} {s r : List Char} {v : α}, f c s = .ok (v, r) → r.length ≤ s.length) :
    Decoder α where
  run s :=
    match skipSpace s with
    | [] => .error .truncated
    | c :: r => f c r
  shrinks {s r v} h := by
    split at h
    · cases h
    · exact Nat.lt_of_le_of_lt (hf h) (length_lt_of_skipSpace ‹_›)

/-- A decoder followed by a function on its values. -/
def map {α β : Type} (f : α → β) (d : Decoder α) : Decoder β where
  run s := (fun t => (f t.1, t.2)) <$> d.run s
  shrinks h := by
    obtain ⟨⟨v, r⟩, hv, h⟩ := map_eq_ok.1 h
    cases h
    exact d.shrinks hv

/-- The characters of a string. -/
def string : Decoder (List Char) :=
  onFirst (fun c s => if c = '"' then keptString s else .error (mismatch .string c s)) <| by
    intro c s r v h
    split at h
    · exact Nat.le_of_lt (keptString_length h)
    · cases h

/-- A text. -/
def text : Decoder String := string.map String.ofList

/-- The characters of the name of a member, where anything but a string is no JSON. -/
def memberName : Decoder (List Char) :=
  onFirst (fun c s => if c = '"' then keptString s else .error .malformed) <| by
    intro c s r v h
    split at h
    · exact Nat.le_of_lt (keptString_length h)
    · cases h

/-- A number of 64 bits, if a kept number is one. -/
def toNumber : Number → Except Fault UInt64
  | .natural n => .ok n
  | .negative n => .error (.unfit (.invalidValue (.integer (-(n : Int))) .number))
  | .floating minus x => .error (.unfit (.invalidType (.floating minus x) .number))

/-- A number of 64 bits. -/
def number : Decoder UInt64 :=
  onFirst
    (fun c s =>
      if c = '-' then do
        let (n, r) ← keptNumber true s
        return (← toNumber n, r)
      else if c.isDigit then do
        let (n, r) ← keptNumber false (c :: s)
        return (← toNumber n, r)
      else .error (mismatch .number c s)) <| by
    intro c s r v h
    dsimp only at h
    split at h
    · obtain ⟨⟨n, r'⟩, hn, h⟩ := bind_eq_ok.1 h
      obtain ⟨m, _, h⟩ := bind_eq_ok.1 h
      cases h
      exact Nat.le_of_lt (keptNumber_length hn)
    · split at h
      · obtain ⟨⟨n, r'⟩, hn, h⟩ := bind_eq_ok.1 h
        obtain ⟨m, _, h⟩ := bind_eq_ok.1 h
        cases h
        exact Nat.le_of_lt_succ (keptNumber_length hn)
      · cases h

/-- The state of a given name. -/
def toState (name : List Char) : Except Fault IssueState :=
  if name = IssueState.opened.name.toList then .ok .opened
  else if name = IssueState.closed.name.toList then .ok .closed
  else .error (.unfit (.unknownVariant (String.ofList name)))

/-- The literal `null`, where nothing else will do. -/
def unit : Decoder Unit :=
  onFirst
    (fun c s =>
      if c = 'n' then (fun r => ((), r)) <$> literal ['u', 'l', 'l'] s
      else .error (mismatch .unit c s)) <| by
    intro c s r v h
    split at h
    · obtain ⟨r', hr, h⟩ := map_eq_ok.1 h
      cases h
      exact literal_length hr
    · cases h

/-- What follows the end of an object that has no further member. -/
def closeObject (s : List Char) : Except Fault (List Char) :=
  match skipSpace s with
  | [] => .error .truncated
  | c :: r => if c = '\x7d' then .ok r else .error .malformed

/-- The end of an object takes up some of the text. -/
theorem closeObject_length {s r : List Char} (h : closeObject s = .ok r) :
    r.length < s.length := by
  unfold closeObject at h
  split at h
  · cases h
  · split at h
    · cases h; exact length_lt_of_skipSpace ‹_›
    · cases h

/-- The state that an object gives as its only member, whose value is `null`. -/
def stateMember (s : List Char) : Except Fault (IssueState × List Char) := do
  let (name, r) ← memberName.run s
  let state ← toState name
  let (_, r) ← unit.run (← colon r)
  return (state, ← closeObject r)

/-- Reading the member that gives a state does not lengthen the text. -/
theorem stateMember_length {s r : List Char} {v : IssueState}
    (h : stateMember s = .ok (v, r)) : r.length ≤ s.length := by
  obtain ⟨⟨name, r₁⟩, h₁, h⟩ := bind_eq_ok.1 h
  obtain ⟨state, _, h⟩ := bind_eq_ok.1 h
  obtain ⟨r₂, h₂, h⟩ := bind_eq_ok.1 h
  obtain ⟨⟨_, r₃⟩, h₃, h⟩ := bind_eq_ok.1 h
  obtain ⟨r₄, h₄, h⟩ := bind_eq_ok.1 h
  cases h
  have := memberName.shrinks h₁
  have := colon_length h₂
  have := unit.shrinks h₃
  have := closeObject_length h₄
  omega

/-- A state, by its name or as an object with that name. -/
def state : Decoder IssueState :=
  onFirst
    (fun c s =>
      if c = '"' then do
        let (name, r) ← keptString s
        return (← toState name, r)
      else if c = '\x7b' then stateMember s
      -- Here a value of any other kind counts as no JSON.
      else .error .malformed) <| by
    intro c s r v h
    dsimp only at h
    split at h
    · obtain ⟨⟨name, r₁⟩, h₁, h⟩ := bind_eq_ok.1 h
      obtain ⟨state, _, h⟩ := bind_eq_ok.1 h
      cases h
      exact Nat.le_of_lt (keptString_length h₁)
    · split at h
      · exact stateMember_length h
      · cases h

/-- A value of any kind that opens at most `levels` brackets inside one another. -/
def anything (levels : Nat) : Decoder Unit where
  run s := (fun r => ((), r)) <$> keptValue levels s
  shrinks h := by
    obtain ⟨r, hr, h⟩ := map_eq_ok.1 h
    cases h
    exact passValue_length hr

/-- Either `null` or a value of the given decoder. -/
def optional {α : Type} (d : Decoder α) : Decoder (Option α) where
  run s :=
    match skipSpace s with
    -- No value of another kind begins with this letter.
    | 'n' :: r => (fun r => (none, r)) <$> literal ['u', 'l', 'l'] r
    | _ => (fun t => (some t.1, t.2)) <$> d.run s
  shrinks h := by
    split at h
    · obtain ⟨r, hr, h⟩ := map_eq_ok.1 h
      cases h
      exact Nat.lt_of_le_of_lt (literal_length hr) (length_lt_of_skipSpace ‹_›)
    · obtain ⟨⟨v, r⟩, hr, h⟩ := map_eq_ok.1 h
      cases h
      exact d.shrinks hr

end Decoder

/-! ## Arrays -/

/-- What comes next inside brackets. -/
inductive Item where
  /-- Nothing: the bracket is closed, and the text goes on after it. -/
  | none (rest : List Char)
  /-- An item, from which on the text is given. -/
  | some (rest : List Char)

/-- The text of either case. -/
def Item.rest : Item → List Char
  | .none rest => rest
  | .some rest => rest

/-- What comes next in an array, at whose beginning it is when `fresh`. -/
def nextElement (fresh : Bool) (s : List Char) : Except Fault Item :=
  match skipSpace s with
  | [] => .error .truncated
  | c :: r =>
    if c = ']' then .ok (.none r)
    else if fresh then .ok (.some (c :: r))
    else if c = ',' then
      match skipSpace r with
      | [] => .error .truncated
      -- A comma has to be followed by an element.
      | d :: t => if d = ']' then .error .malformed else .ok (.some (d :: t))
    else .error .malformed

/-- Looking for the next element of an array does not lengthen the text. -/
theorem nextElement_length {fresh : Bool} {s : List Char} {i : Item}
    (h : nextElement fresh s = .ok i) : i.rest.length ≤ s.length := by
  unfold nextElement at h
  split at h
  · cases h
  · rename_i c r hs
    have hlt := length_lt_of_skipSpace hs
    have hle : (c :: r).length ≤ s.length := hs ▸ skipSpace_length s
    split at h
    · cases h; exact Nat.le_of_lt hlt
    · split at h
      · cases h; exact hle
      · split at h
        · split at h
          · cases h
          · rename_i d t ht
            split at h
            · cases h
            · cases h
              have : (d :: t).length ≤ r.length := ht ▸ skipSpace_length r
              exact Nat.le_trans this (Nat.le_of_lt hlt)
        · cases h

/-- The elements of an array from a place on. -/
def elements {α : Type} (d : Decoder α) (fresh : Bool) (s : List Char) :
    Except Fault (List α × List Char) :=
  match _hi : nextElement fresh s with
  | .error f => .error f
  | .ok (.none r) => .ok ([], r)
  | .ok (.some r) =>
    match _hv : d.run r with
    | .error f => .error f
    | .ok (v, r) => (fun t => (v :: t.1, t.2)) <$> elements d false r
termination_by s.length
decreasing_by exact Nat.lt_of_lt_of_le (d.shrinks _hv) (nextElement_length _hi)

/-- Reading the elements of an array does not lengthen the text. -/
theorem elements_length {α : Type} {d : Decoder α} {fresh : Bool} {s r : List Char} {vs : List α}
    (h : elements d fresh s = .ok (vs, r)) : r.length ≤ s.length := by
  fun_induction elements d fresh s generalizing vs with
  | case1 => cases h
  | case2 fresh s r' hi => cases h; exact nextElement_length hi
  | case3 => cases h
  | case4 fresh s r₁ hi v r₂ hv ih =>
    obtain ⟨⟨vs', r'⟩, he, h⟩ := map_eq_ok.1 h
    cases h
    have : r₁.length ≤ s.length := nextElement_length hi
    have := d.shrinks hv
    have := ih he
    dsimp only at *
    omega

/-- An array of values. -/
def Decoder.list {α : Type} (d : Decoder α) : Decoder (List α) :=
  onFirst
    (fun c s => if c = '[' then elements d true s else .error (mismatch .sequence c s)) <| by
    intro c s r v h
    split at h
    · exact elements_length h
    · cases h

end IssueSteward.Payload
