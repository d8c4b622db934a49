import IssueSteward.Payload.Shape
import IssueSteward.Proofs.AnyValue
import Mathlib.Data.List.Forall2

/-!
# How values of shapes are written

The texts that present a value of a shape (`Shape.Presents`), and that the decoder of the shape
reads the value back from each of them, whatever follows (`Shape.reads`), by recursion on the shape.
The texts differ in white space, in the spelling of strings, in whether a record is an object or an
array, and in the order of the members of an object and what else is among them.

The reader of an object keeps the values that it has found so far. Between two members it holds that
these values and the members to come present the record together (`Fields.Pending`). Each member
preserves this (`Fields.member_pending`), and at the end of the object it says what the fields are
(`Fields.finish_pending`).
-/

namespace IssueSteward.Payload

/-! ## Presentations -/

/-- What presents a string. -/
def StringForm (v : String) (t : List Char) : Prop := ∃ u, Spelling v.toList u ∧ t = quoted u

/-- What presents a number of 64 bits. -/
def NumberForm (n : UInt64) (t : List Char) : Prop := WholeText t ∧ digitsValue t = n.toNat

instance (n : UInt64) (t : List Char) : Decidable (NumberForm n t) :=
  inferInstanceAs (Decidable (_ ∧ _))

/-- What presents a state. -/
inductive StateForm (v : IssueState) : List Char → Prop
  /-- Its name. -/
  | name {u : List Char} (h : Spelling v.name.toList u) : StateForm v (quoted u)
  /-- An object with its name and nothing under it. -/
  | object {x : Member} {rest : List Char} (hlist : Listed .curly true [x.text] rest)
      (hspaced : x.Spaced) (hname : Spelling v.name.toList x.name) (hvalue : x.value = nullText) :
      StateForm v ('\x7b' :: rest)

/-- What presents a value that may be missing, given what presents one that is not. -/
inductive OptionForm {α : Type} (P : α → List Char → Prop) : Option α → List Char → Prop
  /-- The value is missing. -/
  | none : OptionForm P none nullText
  /-- The value is not missing. -/
  | some {v : α} {t : List Char} (h : P v t) (hne : t ≠ nullText) : OptionForm P (some v) t

/-- What presents a list, given what presents an element. -/
inductive ListForm {α : Type} (P : α → List Char → Prop) (vs : List α) : List Char → Prop
  /-- An array of the elements. -/
  | array {ts : List (List Char)} {rest : List Char} (hlist : Listed .square true ts rest)
      (h : List.Forall₂ P vs ts) : ListForm P vs ('[' :: rest)

/-- A member of an object with its name. -/
abbrev Named : Type := List Char × Member

/-- What the members of its name say of a field, given what presents it and whether it may be left
out. -/
inductive FieldForm (P : List Char → Prop) (absent : Prop) : List Named → Prop
  /-- The field is left out. -/
  | absent (h : absent) : FieldForm P absent []
  /-- The field is given once. -/
  | given {x : Named} (h : P x.2.value) : FieldForm P absent [x]

/-- What presents a record, given what members and what elements present its fields. -/
inductive RecordForm (Given : List Named → Prop) (InOrder : List (List Char) → Prop) :
    List Char → Prop
  /-- An object. -/
  | object (members : List Named) {rest : List Char}
      (hlist : Listed .curly true (members.map fun x => x.2.text) rest)
      (hmember : ∀ x ∈ members, x.2.Spaced ∧ Spelling x.1 x.2.name) (h : Given members) :
      RecordForm Given InOrder ('\x7b' :: rest)
  /-- An array. -/
  | array {ts : List (List Char)} {rest : List Char} (hlist : Listed .square true ts rest)
      (h : InOrder ts) : RecordForm Given InOrder ('[' :: rest)

mutual
/-- A text presents a value of a shape, at a place inside `depth` brackets. -/
def Shape.Presents : (s : Shape) → (depth : Nat) → s.Value → List Char → Prop
  | .text, _ => StringForm
  | .number, _ => NumberForm
  | .state, _ => StateForm
  -- What is kept of such a value is only that it is there.
  | .anything, depth => fun _ => ValueText (.kept (nestingLimit - depth)) 0
  | .optional s, depth => OptionForm (s.Presents depth)
  | .list s, depth => ListForm (s.Presents (depth + 1))
  | .record _ fs, depth => fun vs =>
    RecordForm (fs.Given (depth + 1) vs) (fs.InOrder (depth + 1) vs)
/-- The members of an object present the values of fields. There is one member for each field, or
none where the field has its default value; the members of other names hold values of any kind. -/
def Fields.Given : (fs : Fields) → (depth : Nat) → fs.Values → List Named → Prop
  | .nil, _, _, members => ∀ x ∈ members, ValueText .skipped 0 x.2.value
  | .cons name p s rest, depth, (v, vs), members =>
    FieldForm (s.Presents depth v) (p.inObject s = some v)
        (members.filter fun x => x.1 == name.toList) ∧
      rest.Given depth vs (members.filter fun x => x.1 != name.toList)
/-- The elements of an array present the values of all fields in their order. -/
def Fields.InOrder : (fs : Fields) → (depth : Nat) → fs.Values → List (List Char) → Prop
  | .nil, _, _, ts => ts = []
  | .cons _ _ s rest, depth, (v, vs), ts =>
    ∃ t others, ts = t :: others ∧ s.Presents depth v t ∧ rest.InOrder depth vs others
end

/-! ## Decoders of single values -/

/-- A decoder reads back the values that texts present, whatever follows. -/
structure Reads {α : Type} (d : Decoder α) (P : α → List Char → Prop) : Prop where
  /-- The texts begin like values. -/
  begins : ∀ {v : α} {t : List Char}, P v t → Begins t
  /-- The values are read back. -/
  run : ∀ {v : α} {t w r : List Char}, P v t → Space w → Stops r →
    d.run (w ++ (t ++ r)) = .ok (v, r)

/-- A string is read back from what presents it. -/
theorem reads_text : Reads Decoder.text StringForm where
  begins := by
    rintro v t ⟨u, -, rfl⟩
    exact ⟨'"', _, rfl, by decide, by decide, by simp⟩
  run := by
    rintro v t w r ⟨u, hu, rfl⟩ hw -
    simp only [Decoder.text, Decoder.map, Decoder.string, quoted_append,
      Decoder.onFirst, skipSpace_append hw (c := '"') rfl, if_true, keptString_of_spelling hu,
      Functor.map, Except.map, String.ofList_toList]

/-- A number is read back from what presents it. -/
theorem reads_number : Reads Decoder.number NumberForm where
  begins := by
    rintro v t ⟨⟨⟨hne, hall⟩, -⟩, -⟩
    cases t with
    | nil => exact absurd rfl hne
    | cons c t =>
      obtain ⟨hspace, hclose, -, -, -, hn, -⟩ := digit_ne (hall c List.mem_cons_self)
      exact ⟨c, t, rfl, hspace, hclose, fun heq => absurd heq hn⟩
  run := by
    rintro v t w r ⟨htext, hvalue⟩ hw hr
    have hread := keptNumber_append htext hvalue hr
    obtain ⟨⟨hne, hall⟩, -⟩ := htext
    cases t with
    | nil => exact absurd rfl hne
    | cons c t =>
      have hc := hall c List.mem_cons_self
      obtain ⟨hspace, -, -, -, -, -, -, -, hminus⟩ := digit_ne hc
      rw [List.cons_append] at hread ⊢
      simp only [Decoder.number, Decoder.onFirst, skipSpace_append hw hspace, if_neg hminus,
        if_pos hc, hread, Decoder.toNumber, bind, Except.bind, pure, Except.pure]

/-- A state is known by its name. -/
theorem toState_name (v : IssueState) : Decoder.toState v.name.toList = .ok v := by
  cases v <;> rfl

/-- The end of an object is read over. -/
theorem closeObject_append {w : List Char} (hw : Space w) (r : List Char) :
    Decoder.closeObject (w ++ '\x7d' :: r) = .ok r := by
  simp only [Decoder.closeObject, skipSpace_append hw (c := '\x7d') rfl, if_true]

/-- A member whose value is `null` gives the state of its name. -/
theorem stateMember_append {v : IssueState} {x : Member} {w w' : List Char} (hw : Space w)
    (hw' : Space w') (hspaced : x.Spaced) (hname : Spelling v.name.toList x.name)
    (hvalue : x.value = nullText) (r : List Char) :
    Decoder.stateMember (w ++ (x.text ++ (w' ++ '\x7d' :: r))) = .ok (v, r) := by
  have hunit : Decoder.unit.run (x.after ++ (x.value ++ (w' ++ '\x7d' :: r))) =
      .ok ((), w' ++ '\x7d' :: r) := by
    rw [hvalue]
    simp only [nullText, List.cons_append, List.nil_append, Decoder.unit,
      Decoder.onFirst, skipSpace_append hspaced.2 (c := 'n') rfl, if_true, literal, Functor.map,
      Except.map]
  simp only [Decoder.stateMember, Decoder.memberName, Member.text, List.append_assoc, quoted_append,
    List.cons_append, Decoder.onFirst, skipSpace_append hw (c := '"') rfl, if_true,
    keptString_of_spelling hname, toState_name, colon_append hspaced.1, hunit, closeObject_append hw', bind, Except.bind,
    pure, Except.pure]

/-- A state is read back from what presents it. -/
theorem reads_state : Reads Decoder.state StateForm where
  begins := by
    rintro v t (⟨-⟩ | ⟨-⟩)
    · exact ⟨'"', _, rfl, by decide, by decide, by simp⟩
    · exact ⟨'\x7b', _, rfl, by decide, by decide, by simp⟩
  run := by
    rintro v t w r h hw -
    cases h with
    | name hname =>
      simp only [Decoder.state, quoted_append, Decoder.onFirst, skipSpace_append hw (c := '"') rfl,
        if_true, keptString_of_spelling hname, toState_name, bind, Except.bind, pure, Except.pure]
    | object hlist hspaced hname hvalue =>
      cases hlist with
      | item hlead hw' hlist =>
        cases hlead
        cases hlist with
        | close hw'' =>
          have hmember := stateMember_append hw' hw'' hspaced hname hvalue r
          simp only [List.nil_append, List.cons_append, List.append_assoc] at hmember ⊢
          simp [Decoder.state, Decoder.onFirst, skipSpace_append hw (c := '\x7b') rfl, Bracket.close,
            hmember]

/-- A value of any kind is read over where it is kept. -/
theorem reads_anything (levels : Nat) :
    Reads (Decoder.anything levels) fun _ => ValueText (.kept levels) 0 where
  begins h := begins_of_valueText h
  run h hw hr := by
    simp only [Decoder.anything, keptValue, passValue_append h hw hr, Functor.map, Except.map]

/-- A value that may be missing is read back if one that is not is. -/
theorem Reads.optional {α : Type} {d : Decoder α} {P : α → List Char → Prop} (h : Reads d P) :
    Reads d.optional (OptionForm P) where
  begins := by
    rintro v t (_ | ⟨hv, -⟩)
    · exact ⟨'n', _, rfl, by decide, by decide, fun _ => rfl⟩
    · exact h.begins hv
  run := by
    rintro v t w r hform hw hr
    cases hform with
    | none =>
      simp [Decoder.optional, nullText, skipSpace_append hw (c := 'n') rfl, literal, Functor.map,
        Except.map]
    | some hv hne =>
      have hread := h.run hv hw hr
      obtain ⟨c, s, rfl, hspace, -, hnull⟩ := h.begins hv
      have hn : c ≠ 'n' := fun heq => hne (hnull heq)
      rw [List.cons_append] at hread ⊢
      simp only [Decoder.optional, skipSpace_append hw hspace]
      split
      · rename_i hcons
        exact absurd (List.cons.inj hcons).1 hn
      · rw [hread]
        rfl

/-! ## Arrays -/

/-- The end of an array is no element. -/
theorem nextElement_close {fresh : Bool} {w : List Char} (hw : Space w) (r : List Char) :
    nextElement fresh (w ++ ']' :: r) = .ok (.none r) := by
  simp only [nextElement, skipSpace_append hw (c := ']') rfl, if_true]

/-- An element is found behind what leads to it. -/
theorem nextElement_item {fresh : Bool} {lead w t : List Char} (hlead : Lead fresh lead)
    (hw : Space w) (ht : Begins t) (r : List Char) :
    nextElement fresh (lead ++ (w ++ (t ++ r))) = .ok (.some (t ++ r)) := by
  obtain ⟨c, s, rfl, hspace, hclose, -⟩ := ht
  cases hlead with
  | first =>
    simp only [nextElement, List.nil_append, List.cons_append, skipSpace_append hw hspace,
      if_neg hclose, if_true]
  | next hw' =>
    simp [nextElement, skipSpace_append hw' (c := ',') rfl, skipSpace_append hw hspace, hclose]

/-- How the elements of an array are read, one after the other. -/
theorem elements_eq {α : Type} (d : Decoder α) (fresh : Bool) (s : List Char) :
    elements d fresh s = (do
      match ← nextElement fresh s with
      | .none r => return ([], r)
      | .some r =>
        let (v, r) ← d.run r
        let (vs, r) ← elements d false r
        return (v :: vs, r)) := by
  rw [elements]
  split
  · rename_i h
    rw [h]
    rfl
  · rename_i h
    rw [h]
    rfl
  · rename_i h
    simp only [h, bind, Except.bind]
    split
    · rename_i hv
      rw [hv]
    · rename_i hv
      rw [hv]
      rfl

/-- The elements of an array are read back if each is. -/
theorem elements_listed {α : Type} {d : Decoder α} {P : α → List Char → Prop} (h : Reads d P)
    {fresh : Bool} {ts : List (List Char)} {rest : List Char} {vs : List α}
    (hlist : Listed .square fresh ts rest) (hts : List.Forall₂ P vs ts) (r : List Char) :
    elements d fresh (rest ++ r) = .ok (vs, r) := by
  induction hlist generalizing vs with
  | @close fresh w hw =>
    cases hts
    have hnext : nextElement fresh (w ++ ([Bracket.square.close] ++ r)) = .ok (.none r) :=
      nextElement_close hw r
    rw [List.append_assoc, elements_eq, hnext]
    rfl
  | item hlead hw hlist ih =>
    rcases hts with _ | ⟨hv, hvs⟩
    have hnext := nextElement_item hlead hw (h.begins hv)
    have hread := h.run (w := []) hv (by simp [Space]) (stops_of_listed hlist r)
    rw [List.nil_append] at hread
    simp only [List.append_assoc]
    rw [elements_eq, hnext]
    simp only [hread, ih hvs, bind, Except.bind, pure, Except.pure]

/-- A list is read back if each element is. -/
theorem Reads.list {α : Type} {d : Decoder α} {P : α → List Char → Prop} (h : Reads d P) :
    Reads d.list (ListForm P) where
  begins := by
    rintro vs t ⟨-, -⟩
    exact ⟨'[', _, rfl, by decide, by decide, by simp⟩
  run := by
    rintro vs t w r ⟨hlist, hts⟩ hw -
    simp only [Decoder.list, List.cons_append, Decoder.onFirst, skipSpace_append hw (c := '[') rfl,
      if_true, elements_listed h hlist hts]

/-! ## Records -/

/-- All fields of a record can be read. -/
def Fields.Readable : Fields → Nat → Prop
  | .nil, _ => True
  | .cons _ _ s rest, depth => Reads (s.decoder depth) (s.Presents depth) ∧ rest.Readable depth

/-- The fields that an array gives in their order are read back. -/
theorem Fields.positional_listed (tooShort : Nat → Fault) {depth : Nat} (r : List Char) :
    (fs : Fields) → fs.Readable depth → ∀ {vs : fs.Values} {fresh : Bool} (index : Nat)
      {ts : List (List Char)} {rest : List Char}, Listed .square fresh ts rest →
      fs.InOrder depth vs ts →
      fs.positional tooShort (fs.decoders depth) fresh index (rest ++ r) = .ok (vs, r)
  | .nil, _, (), _, _, _, _, hlist, horder => by
    obtain rfl : _ = [] := horder
    cases hlist with
    | close hw =>
      rw [List.append_assoc]
      simp only [Fields.positional, closeArray, List.singleton_append,
        skipSpace_append hw (c := Bracket.square.close) rfl]
      rfl
  | .cons name p s others, ⟨hs, hothers⟩, (v, vs), _, index, _, _, hlist, horder => by
    obtain ⟨t, ts, rfl, ht, hts⟩ := horder
    cases hlist with
    | @item _ lead w _ rest _ hlead hw hlist =>
      have hread := hs.run (w := []) ht (by simp [Space]) (stops_of_listed hlist r)
      have ih := Fields.positional_listed tooShort r others hothers (index + 1) hlist hts
      simp only [List.append_assoc]
      rw [Fields.decoders, Fields.positional, nextElement_item hlead hw (hs.begins ht) (rest ++ r)]
      rw [List.nil_append] at hread
      simp only [hread, ih, bind, Except.bind, pure, Except.pure]

/-- The end of an object is no member. -/
theorem nextMember_close {fresh : Bool} {w : List Char} (hw : Space w) (r : List Char) :
    nextMember fresh (w ++ '\x7d' :: r) = .ok (.none r) := by
  simp only [nextMember, skipSpace_append hw (c := '\x7d') rfl, if_true]

/-- A member is found behind what leads to it. -/
theorem nextMember_item {fresh : Bool} {lead w : List Char} (hlead : Lead fresh lead)
    (hw : Space w) (s : List Char) :
    nextMember fresh (lead ++ (w ++ '"' :: s)) = .ok (.some s) := by
  cases hlead with
  | first => simp [nextMember, skipSpace_append hw (c := '"') rfl]
  | next hw' =>
    simp [nextMember, skipSpace_append hw' (c := ',') rfl, skipSpace_append hw (c := '"') rfl]

section Members

variable {σ : Type} {columns : List (Column σ)} {fresh : Bool} {slots : σ}

/-- How the members of an object are read, one after the other. -/
theorem members_eq (columns : List (Column σ)) (fresh : Bool) (slots : σ) (s : List Char) :
    members columns fresh slots s = (do
      match ← nextMember fresh s with
      | .none r => return (slots, r)
      | .some r =>
        let (name, r) ← keptString r
        let (slots, r) ← member columns slots name r
        members columns false slots r) := by
  rw [members]
  split
  · rename_i h
    rw [h]
    rfl
  · rename_i h
    rw [h]
    rfl
  · rename_i h
    simp only [h, bind, Except.bind]
    split
    · rename_i hname
      rw [hname]
    · rename_i hname
      rw [hname]
      simp only
      split
      · rename_i hmember
        rw [hmember]
      · rename_i hmember
        rw [hmember]

/-- The members of an object are read one after the other, if each leaves what the next one needs. -/
theorem members_listed {P : σ → List Named → Prop}
    (hstep : ∀ {slots : σ} {x : Named} {xs : List Named} {r : List Char}, P slots (x :: xs) →
      x.2.Spaced → Stops r → ∃ slots', member columns slots x.1
        (x.2.before ++ ':' :: (x.2.after ++ (x.2.value ++ r))) = .ok (slots', r) ∧ P slots' xs)
    {xs : List Named} {rest : List Char}
    (hlist : Listed .curly fresh (xs.map fun x => x.2.text) rest)
    (hxs : ∀ x ∈ xs, x.2.Spaced ∧ Spelling x.1 x.2.name) (hpending : P slots xs)
    (r : List Char) :
    ∃ slots', members columns fresh slots (rest ++ r) = .ok (slots', r) ∧ P slots' [] := by
  induction xs generalizing fresh slots rest with
  | nil =>
    cases hlist with
    | @close _ w hw =>
      have hnext : nextMember fresh (w ++ ([Bracket.curly.close] ++ r)) = .ok (.none r) :=
        nextMember_close hw r
      refine ⟨slots, ?_, hpending⟩
      rw [List.append_assoc, members_eq, hnext]
      rfl
  | cons x xs ih =>
    obtain ⟨hspaced, hname⟩ := hxs x List.mem_cons_self
    cases hlist with
    | @item _ lead w _ rest _ hlead hw hlist =>
      obtain ⟨slots₁, hmember, hleft⟩ := hstep hpending hspaced (stops_of_listed hlist r)
      obtain ⟨slots', hothers, hend⟩ :=
        ih hlist (fun y hy => hxs y (List.mem_cons_of_mem _ hy)) hleft
      refine ⟨slots', ?_, hend⟩
      simp only [Member.text, List.append_assoc, quoted_append, List.cons_append]
      rw [members_eq, nextMember_item hlead hw]
      simp only [keptString_of_spelling hname, hmember, hothers, bind, Except.bind]

end Members

/-- What is known of the fields, and the members of an object that are still to come, present the
values of the fields together. -/
def Fields.Pending : (fs : Fields) → (depth : Nat) → fs.Values → fs.Slots → List Named → Prop
  | .nil, _, _, _, members => ∀ x ∈ members, ValueText .skipped 0 x.2.value
  | .cons name p s rest, depth, (v, vs), (slot, slots), members =>
    (match slot with
      | none => FieldForm (s.Presents depth v) (p.inObject s = some v)
          (members.filter fun x => x.1 == name.toList)
      | some u => u = v ∧ members.filter (fun x => x.1 == name.toList) = []) ∧
      rest.Pending depth vs slots (members.filter fun x => x.1 != name.toList)

/-- Before the first member nothing is known. -/
theorem Fields.pending_blank {depth : Nat} : (fs : Fields) → {vs : fs.Values} →
    {members : List Named} → fs.Given depth vs members → fs.Pending depth vs fs.blank members
  | .nil, (), _, h => h
  | .cons _ _ _ rest, (_, _), _, ⟨hfield, hrest⟩ => ⟨hfield, rest.pending_blank hrest⟩

/-- After the last member the values of the fields are known. -/
theorem Fields.finish_pending {depth : Nat} : (fs : Fields) → {vs : fs.Values} → {slots : fs.Slots} →
    fs.Pending depth vs slots [] → fs.finish slots = .ok vs
  | .nil, (), _, _ => rfl
  | .cons name p s rest, (v, vs), (slot, slots), ⟨hfield, hrest⟩ => by
    have hslot : slot.or (p.inObject s) = some v := by
      cases slot with
      | none =>
        rcases hfield with ⟨habsent⟩
        exact habsent
      | some u => exact congrArg some hfield.1
    rw [Fields.finish, hslot]
    simp only [rest.finish_pending hrest, Functor.map, Except.map]

/-- A member of another name is none of the first field. -/
theorem member_cons_of_ne {σ : Type} {first : Column σ} (columns : List (Column σ)) (slots : σ)
    {n : List Char} (hn : n ≠ first.name.toList) (t : List Char) :
    member (first :: columns) slots n t = member columns slots n t := by
  have hfind : ((first :: columns).find? fun c => c.name.toList == n) =
      columns.find? fun c => c.name.toList == n :=
    List.find?_cons_of_neg (by simpa using Ne.symm hn)
  unfold member
  rw [hfind]

/-- A member fills in the first field if it has its name. -/
theorem member_cons_of_eq {σ : Type} {first : Column σ} (columns : List (Column σ)) {slots : σ}
    {n : List Char} (hn : n = first.name.toList) (hfilled : first.filled slots = false)
    (t : List Char) :
    member (first :: columns) slots n t = (colon t >>= (first.fill slots).run) := by
  have hfind : ((first :: columns).find? fun c => c.name.toList == n) = some first :=
    List.find?_cons_of_pos (by simpa using hn.symm)
  unfold member
  rw [hfind]
  simp only [hfilled, Bool.false_eq_true, if_false]

/-- A field as the reader sees it when there is another one before it. -/
def Column.behind {σ : Type} (α : Type) (c : Column σ) : Column (α × σ) where
  name := c.name
  filled slots := c.filled slots.2
  fill slots := (c.fill slots.2).map fun t => (slots.1, t)

/-- A member does to fields behind another what it does to these fields. -/
theorem member_behind {α σ : Type} (columns : List (Column σ)) (a : α) (slots : σ)
    (n t : List Char) :
    member (columns.map (Column.behind α)) (a, slots) n t =
      (fun x => ((a, x.1), x.2)) <$> member columns slots n t := by
  have hfind : ((columns.map (Column.behind α)).find? fun c => c.name.toList == n) =
      (columns.find? fun c => c.name.toList == n).map (Column.behind α) := List.find?_map ..
  unfold member
  rw [hfind]
  cases columns.find? fun c => c.name.toList == n with
  | none =>
    rcases colon t with f | s
    · rfl
    · simp only [Option.map_none, bind, Except.bind]
      rcases skipValue s with f | s <;> rfl
  | some c =>
    simp only [Option.map_some, Column.behind]
    split
    · rfl
    · rcases colon t with f | s
      · rfl
      · rfl

/-- The next member leaves what the members after it need. -/
theorem Fields.member_pending {depth : Nat} {x : Named} {xs : List Named} {r : List Char}
    (hspaced : x.2.Spaced) (hr : Stops r) : (fs : Fields) → fs.Readable depth →
    ∀ {vs : fs.Values} {slots : fs.Slots}, fs.Pending depth vs slots (x :: xs) →
      ∃ slots', member (fs.columns (fs.decoders depth)) slots x.1
        (x.2.before ++ ':' :: (x.2.after ++ (x.2.value ++ r))) = .ok (slots', r) ∧
        fs.Pending depth vs slots' xs
  | .nil, _, (), (), hpending => by
    -- no field has the name of the member
    have hvalue := hpending x List.mem_cons_self
    refine ⟨(), ?_, fun y hy => hpending y (List.mem_cons_of_mem _ hy)⟩
    simp only [member, Fields.columns, List.find?_nil, colon_append hspaced.1, skipValue,
      passValue_append hvalue hspaced.2 hr, bind, Except.bind, pure, Except.pure]
  | .cons name p s rest, ⟨hs, hrest⟩, (v, vs), (slot, slots), ⟨hfield, hothers⟩ => by
    by_cases hname : x.1 = name.toList
    · -- the member gives the first field
      have hfilter : (x :: xs).filter (fun y => y.1 == name.toList) =
          x :: xs.filter (fun y => y.1 == name.toList) :=
        List.filter_cons_of_pos (by simpa using hname)
      have hrest' : (x :: xs).filter (fun y => y.1 != name.toList) =
          xs.filter (fun y => y.1 != name.toList) := List.filter_cons_of_neg (by simpa using hname)
      rw [hrest'] at hothers
      cases slot with
      | some u =>
        rw [hfilter] at hfield
        cases hfield.2
      | none =>
        simp only [hfilter] at hfield
        generalize hleft : xs.filter (fun y => y.1 == name.toList) = left at hfield
        cases hfield with
        | given hvalue =>
          refine ⟨(some v, slots), ?_, ⟨rfl, hleft⟩, hothers⟩
          refine (member_cons_of_eq _ hname rfl _).trans ?_
          simp only [colon_append hspaced.1, bind, Except.bind, Decoder.map,
            hs.run hvalue hspaced.2 hr, Functor.map, Except.map]
          rfl
    · -- the member is left to the other fields
      have hfilter : (x :: xs).filter (fun y => y.1 == name.toList) =
          xs.filter (fun y => y.1 == name.toList) := List.filter_cons_of_neg (by simpa using hname)
      have hrest' : (x :: xs).filter (fun y => y.1 != name.toList) =
          x :: xs.filter (fun y => y.1 != name.toList) :=
        List.filter_cons_of_pos (by simpa using hname)
      rw [hrest'] at hothers
      rw [hfilter] at hfield
      obtain ⟨slots', hmember, hpending⟩ := rest.member_pending hspaced hr hrest hothers
      refine ⟨(slot, slots'), ?_, hfield, hpending⟩
      refine (member_cons_of_ne _ _ hname _).trans ((member_behind _ slot slots _ _).trans ?_)
      rw [hmember]
      rfl

/-- A record is read back if its fields are. -/
theorem reads_record (name : String) {fs : Fields} {depth : Nat} (h : fs.Readable depth) :
    Reads (Decoder.record name fs (fs.decoders depth)) fun vs =>
      RecordForm (fs.Given depth vs) (fs.InOrder depth vs) where
  begins := by
    rintro vs t (⟨-⟩ | ⟨-⟩)
    · exact ⟨'\x7b', _, rfl, by decide, by decide, by simp⟩
    · exact ⟨'[', _, rfl, by decide, by decide, by simp⟩
  run := by
    rintro vs t w r hform hw -
    cases hform with
    | object members hlist hmember hgiven =>
      obtain ⟨slots, hmembers, hend⟩ :=
        members_listed (P := fs.Pending depth vs)
          (fun hpending hspaced hr => fs.member_pending hspaced hr h hpending) hlist hmember
          (fs.pending_blank hgiven) r
      simp only [Decoder.record, Decoder.onFirst, List.cons_append,
        skipSpace_append hw (c := '\x7b') rfl, if_true, hmembers, fs.finish_pending hend, bind,
        Except.bind, pure, Except.pure]
    | array hlist horder =>
      simp [Decoder.record, Decoder.onFirst, skipSpace_append hw (c := '[') rfl,
        fs.positional_listed _ r h 0 hlist horder]

/-! ## Decoders of shapes -/

mutual
/-- The decoder of a shape reads back a value from all that presents it. -/
theorem Shape.reads : (s : Shape) → (depth : Nat) → Reads (s.decoder depth) (s.Presents depth)
  | .text, _ => reads_text
  | .number, _ => reads_number
  | .state, _ => reads_state
  | .anything, depth => reads_anything (nestingLimit - depth)
  | .optional s, depth => (s.reads depth).optional
  | .list s, depth => (s.reads (depth + 1)).list
  | .record name fs, depth => reads_record name (fs.readable (depth + 1))
/-- All fields of a record can be read. -/
theorem Fields.readable : (fs : Fields) → (depth : Nat) → fs.Readable depth
  | .nil, _ => trivial
  | .cons _ _ s rest, depth => ⟨s.reads depth, rest.readable depth⟩
end

/-- A whole text is read as the value that it presents, with white space around it. -/
theorem Shape.decode_append {s : Shape} {v : s.Value} {w t w' : List Char} (h : s.Presents 0 v t)
    (hw : Space w) (hw' : Space w') : s.decode (w ++ (t ++ w')) = .ok v := by
  have hstops : Stops w' := by simpa using stops_append hw' stops_nil
  simp only [Shape.decode, (s.reads 0).run h hw hstops, skipSpace_space hw', bind, Except.bind]

end IssueSteward.Payload
