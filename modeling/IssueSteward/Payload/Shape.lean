import IssueSteward.Payload.Decoder

/-!
# Shapes of payloads

A shape says what a place of a payload holds: a text, a number, a state, a value of any kind, one of
these that may be `null`, an array, or a record with named fields. `Shape.Value` is the type of the
values of a shape, and `Shape.decoder` reads them.

A record is written as an object, whose members may come in any order and among members of other
names, or as an array of its fields in their order. A field of an object that is missing has its
default value unless it is required; an array may stop short only before fields that are meant to
have a default.
-/

namespace IssueSteward.Payload

/-- When a field of a record may be left out. -/
inductive Presence where
  /-- Never. -/
  | required
  /-- In an object, where it then has the default value of its shape. -/
  | omissible
  /-- In an object and at the end of an array, with the default value of its shape. -/
  | defaulted
deriving DecidableEq, Repr

mutual
/-- What a place of a payload holds. -/
inductive Shape where
  /-- A string. -/
  | text
  /-- A number of 64 bits. -/
  | number
  /-- A state. -/
  | state
  /-- A value of any kind, of which nothing is wanted but that it is there. -/
  | anything
  /-- Either `null` or a value of the shape. -/
  | optional (shape : Shape)
  /-- An array of values of the shape. -/
  | list (shape : Shape)
  /-- A record of the given name. -/
  | record (name : String) (fields : Fields)
/-- The fields of a record, in the order in which an array gives them. -/
inductive Fields where
  /-- There are no more fields. -/
  | nil
  /-- A field with its name, and the other fields. -/
  | cons (name : String) (presence : Presence) (shape : Shape) (rest : Fields)
end

mutual
/-- The values of a shape. -/
def Shape.Value : Shape → Type
  | .text => String
  | .number => UInt64
  | .state => IssueState
  | .anything => Unit
  | .optional s => Option s.Value
  | .list s => List s.Value
  | .record _ fs => fs.Values
/-- The values of the fields of a record. -/
def Fields.Values : Fields → Type
  | .nil => Unit
  | .cons _ _ s rest => s.Value × rest.Values
end

/-- The value that stands in for a missing one, if the shape has such a value. -/
def Shape.default? : (s : Shape) → Option s.Value
  | .text => some ("" : String)
  | .number => none
  | .state => some IssueState.opened
  | .anything => none
  | .optional _ => some none
  | .list _ => some []
  | .record _ _ => none

/-- The value of a field that an object leaves out, if it may. -/
def Presence.inObject (p : Presence) (s : Shape) : Option s.Value :=
  match p with
  | .required => none
  | .omissible | .defaulted => s.default?

/-- The value of a field before which an array ends, if it may. -/
def Presence.inArray (p : Presence) (s : Shape) : Option s.Value :=
  match p with
  | .required | .omissible => none
  | .defaulted => s.default?

namespace Fields

/-- The number of fields. -/
def size : Fields → Nat
  | .nil => 0
  | .cons _ _ _ rest => rest.size + 1

/-- Decoders of the fields. -/
def Decoders : Fields → Type
  | .nil => Unit
  | .cons _ _ s rest => Decoder s.Value × rest.Decoders

/-- What is known of the fields while the members of an object are read: the value of each field
that was given. -/
def Slots : Fields → Type
  | .nil => Unit
  | .cons _ _ s rest => Option s.Value × rest.Slots

/-- Nothing is known yet. -/
def blank : (fs : Fields) → fs.Slots
  | .nil => ()
  | .cons _ _ _ rest => (none, rest.blank)

/-- The values of the fields at the end of an object, or the first field that is missing. -/
def finish : (fs : Fields) → fs.Slots → Except Fault fs.Values
  | .nil, _ => .ok ()
  | .cons name p s rest, (slot, slots) =>
    match slot.or (p.inObject s) with
    | some v => (fun vs => (v, vs)) <$> rest.finish slots
    | none => .error (.unfit (.missingField name))

/-- The values of the fields at the end of an array that gives none of them, or how many of them
precede the first that must be given. -/
def rest : (fs : Fields) → Except Nat fs.Values
  | .nil => .ok ()
  | .cons _ p s rest =>
    match p.inArray s with
    | some v =>
      match rest.rest with
      | .ok vs => .ok (v, vs)
      | .error n => .error (n + 1)
    | none => .error 0

end Fields

/-! ## Objects -/

/-- A field as the reader of an object sees it, where `σ` is what it knows of all fields. -/
structure Column (σ : Type) where
  /-- The name of the field. -/
  name : String
  /-- Whether the field was given before. -/
  filled : σ → Bool
  /-- The decoder of the field, which fills it in. -/
  fill : σ → Decoder σ

/-- The fields as the reader of an object sees them. -/
def Fields.columns : (fs : Fields) → fs.Decoders → List (Column fs.Slots)
  | .nil, _ => []
  | .cons name _ s rest, (d, ds) =>
    let first : Column (Option s.Value × rest.Slots) :=
      { name := name
        filled := fun slots => slots.1.isSome
        fill := fun slots => d.map fun v => (some v, slots.2) }
    let others : List (Column (Option s.Value × rest.Slots)) := (rest.columns ds).map fun c =>
      { name := c.name
        filled := fun slots => c.filled slots.2
        fill := fun slots => (c.fill slots.2).map fun t => (slots.1, t) }
    first :: others

/-- What comes next in an object, at whose beginning it is when `fresh`; a member is given from
after the opening quote of its name on. -/
def nextMember (fresh : Bool) (s : List Char) : Except Fault Item :=
  match skipSpace s with
  | [] => .error .truncated
  | c :: r =>
    if c = '\x7d' then .ok (.none r)
    else if fresh then
      if c = '"' then .ok (.some r) else .error .malformed
    else if c = ',' then
      match skipSpace r with
      | [] => .error .truncated
      | d :: t => if d = '"' then .ok (.some t) else .error .malformed
    else .error .malformed

/-- What follows the next item of an object is shorter than what precedes it. -/
theorem nextMember_length {fresh : Bool} {s : List Char} {i : Item}
    (h : nextMember fresh s = .ok i) : i.rest.length < s.length := by
  unfold nextMember at h
  split at h
  · cases h
  · have hlt := length_lt_of_skipSpace ‹_›
    split at h
    · cases h; exact hlt
    · split at h
      · split at h <;> cases h
        exact hlt
      · split at h
        · split at h
          · cases h
          · have := length_lt_of_skipSpace ‹_›
            split at h <;> cases h
            exact Nat.lt_trans this hlt
        · cases h

/-- What a member with the given name does to what is known of the fields, from after its name on: a
field is filled in, unless it was given before, and any other member is skipped. -/
def member {σ : Type} (columns : List (Column σ)) (slots : σ) (name : List Char) (s : List Char) :
    Except Fault (σ × List Char) :=
  match columns.find? fun c => c.name.toList == name with
  | some c =>
    -- A second value is refused before it is looked at.
    if c.filled slots then .error (.unfit (.duplicateField c.name))
    else do (c.fill slots).run (← colon s)
  | none => do return (slots, ← skipValue (← colon s))

/-- Reading a member shortens the text. -/
theorem member_length {σ : Type} {columns : List (Column σ)} {slots slots' : σ}
    {name s r : List Char} (h : member columns slots name s = .ok (slots', r)) :
    r.length < s.length := by
  unfold member at h
  split at h
  · rename_i c _
    split at h
    · cases h
    · obtain ⟨r₁, h₁, h⟩ := bind_eq_ok.1 h
      exact Nat.lt_trans ((c.fill slots).shrinks h) (colon_length h₁)
  · obtain ⟨r₁, h₁, h⟩ := bind_eq_ok.1 h
    obtain ⟨r₂, h₂, h⟩ := bind_eq_ok.1 h
    cases h
    exact Nat.lt_trans (passValue_length h₂) (colon_length h₁)

/-- What is known of the fields after the members of an object from a place on. -/
def members {σ : Type} (columns : List (Column σ)) (fresh : Bool) (slots : σ) (s : List Char) :
    Except Fault (σ × List Char) :=
  match _hi : nextMember fresh s with
  | .error f => .error f
  | .ok (.none r) => .ok (slots, r)
  | .ok (.some r) =>
    match _hn : keptString r with
    | .error f => .error f
    | .ok (name, r) =>
      -- The name, the colon and the value.
      match _hm : member columns slots name r with
      | .error f => .error f
      | .ok (slots, r) => members columns false slots r
termination_by s.length
decreasing_by
  exact Nat.lt_trans (member_length _hm)
    (Nat.lt_trans (keptString_length _hn) (nextMember_length _hi))

/-- Reading the members of an object shortens the text. -/
theorem members_length {σ : Type} {columns : List (Column σ)} {fresh : Bool} {slots slots' : σ}
    {s r : List Char} (h : members columns fresh slots s = .ok (slots', r)) :
    r.length < s.length := by
  fun_induction members columns fresh slots s with
  | case1 => cases h
  | case2 fresh slots s r' hi => cases h; exact nextMember_length hi
  | case3 => cases h
  | case4 => cases h
  | case5 fresh slots s r₁ hi name r₂ hn slots₂ r₃ hm ih =>
    have : r₁.length < s.length := nextMember_length hi
    have := keptString_length hn
    have := member_length hm
    have := ih h
    omega

/-! ## Arrays in the place of records -/

/-- What follows the end of an array that has no further element. -/
def closeArray (s : List Char) : Except Fault (List Char) :=
  match skipSpace s with
  | [] => .error .truncated
  | c :: r => if c = ']' then .ok r else .error .malformed

/-- The end of an array takes up some of the text. -/
theorem closeArray_length {s r : List Char} (h : closeArray s = .ok r) : r.length < s.length := by
  unfold closeArray at h
  split at h
  · cases h
  · split at h
    · cases h; exact length_lt_of_skipSpace ‹_›
    · cases h

/-- The values of the fields that an array gives in their order, from the field with the given index
on. The function `tooShort` tells the fault of an array that ends before the field of an index. -/
def Fields.positional (tooShort : Nat → Fault) :
    (fs : Fields) → fs.Decoders → Bool → Nat → List Char → Except Fault (fs.Values × List Char)
  | .nil, _, _, _, s => (fun r => ((), r)) <$> closeArray s
  | .cons name p shape others, (d, ds), fresh, index, s =>
    match nextElement fresh s with
    | .error f => .error f
    | .ok (.none r) =>
      match (Fields.cons name p shape others).rest with
      | .ok vs => .ok (vs, r)
      -- The fault names the first field that must be given, not the first that is not.
      | .error n => .error (tooShort (index + n))
    | .ok (.some r) => do
      let (v, r) ← d.run r
      let (vs, r) ← others.positional tooShort ds false (index + 1) r
      return ((v, vs), r)

/-- Reading the fields of an array does not lengthen the text. -/
theorem Fields.positional_length {tooShort : Nat → Fault} {fs : Fields} {ds : fs.Decoders}
    {fresh : Bool} {index : Nat} {s r : List Char} {vs : fs.Values}
    (h : fs.positional tooShort ds fresh index s = .ok (vs, r)) : r.length ≤ s.length := by
  match fs with
  | .nil =>
    obtain ⟨r', hr, h⟩ := map_eq_ok.1 h
    cases h
    exact Nat.le_of_lt (closeArray_length hr)
  | .cons name p shape others =>
    obtain ⟨d, ds⟩ := ds
    rw [Fields.positional] at h
    split at h
    · cases h
    · rename_i r' hi
      split at h
      · cases h; exact nextElement_length hi
      · cases h
    · rename_i r₁ hi
      obtain ⟨⟨v, r₂⟩, h₂, h⟩ := bind_eq_ok.1 h
      obtain ⟨⟨vs', r₃⟩, h₃, h⟩ := bind_eq_ok.1 h
      cases h
      have : r₁.length ≤ s.length := nextElement_length hi
      have := d.shrinks h₂
      have := positional_length h₃
      omega

/-! ## Decoders of shapes -/

/-- A record, as an object or as an array. -/
def Decoder.record (name : String) (fs : Fields) (ds : fs.Decoders) : Decoder fs.Values :=
  onFirst
    (fun c s =>
      if c = '\x7b' then do
        let (slots, r) ← members (fs.columns ds) true fs.blank s
        return (← fs.finish slots, r)
      else if c = '[' then
        fs.positional (fun n => .unfit (.invalidLength n name fs.size)) ds true 0 s
      else .error (mismatch (.record name) c s)) <| by
    intro c s r v h
    split at h
    · obtain ⟨⟨slots, r₁⟩, h₁, h⟩ := bind_eq_ok.1 h
      obtain ⟨vs, _, h⟩ := bind_eq_ok.1 h
      cases h
      exact Nat.le_of_lt (members_length h₁)
    · split at h
      · exact Fields.positional_length h
      · cases h

/-- The greatest number of brackets that may be open inside one another around what is kept. -/
def nestingLimit : Nat := 127

mutual
/-- The decoder of a shape, at a place inside `depth` brackets. -/
def Shape.decoder : (s : Shape) → (depth : Nat) → Decoder s.Value
  | .text, _ => Decoder.text
  | .number, _ => Decoder.number
  | .state, _ => Decoder.state
  | .anything, depth => Decoder.anything (nestingLimit - depth)
  | .optional s, depth => (s.decoder depth).optional
  | .list s, depth => (s.decoder (depth + 1)).list
  | .record name fs, depth => Decoder.record name fs (fs.decoders (depth + 1))
/-- The decoders of the fields of a record, at places inside `depth` brackets. -/
def Fields.decoders : (fs : Fields) → (depth : Nat) → fs.Decoders
  | .nil, _ => ()
  | .cons _ _ s rest, depth => (s.decoder depth, rest.decoders depth)
end

/-- The value that a whole text holds, with nothing but white space around it. -/
def Shape.decode (s : Shape) (text : List Char) : Except Fault s.Value := do
  let (v, r) ← (s.decoder 0).run text
  match skipSpace r with
  | [] => .ok v
  | _ :: _ => .error .malformed

end IssueSteward.Payload
