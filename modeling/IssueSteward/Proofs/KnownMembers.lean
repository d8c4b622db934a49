import IssueSteward.Proofs.Rereading

/-!
# What a member does to the fields

The reader of an object knows of each field whether it was given (`Fields.given`), which is apart
from its value: a field that is `null` was given. A member of a known name is decoded and kept if
its field was not given before (`Fields.member_of_has`), and refused if it was, whatever its value
is (`Fields.member_of_given`); a member of any other name is skipped (`Fields.member_of_unknown`). A
member of a known name makes its field a given one, and no member undoes that
(`Fields.given_of_member`), nor do any number of members (`Fields.given_of_membersAnswer`).
-/

namespace IssueSteward.Payload

/-- A member is refused that gives the first field if the field was given before. -/
theorem member_cons_of_filled {σ : Type} {first : Column σ} (columns : List (Column σ)) {slots : σ}
    {n : List Char} (hn : n = first.name.toList) (hfilled : first.filled slots = true)
    (t : List Char) :
    member (first :: columns) slots n t = .error (.unfit (.duplicateField first.name)) := by
  have hfind : ((first :: columns).find? fun c => c.name.toList == n) = some first :=
    List.find?_cons_of_pos (by simpa using hn.symm)
  unfold member
  rw [hfind]
  simp only [hfilled, if_true]

namespace Fields

/-- The names of the fields. -/
def names : Fields → List String
  | .nil => []
  | .cons name _ _ rest => name :: rest.names

/-- Whether the field of a name was given. -/
def given : (fs : Fields) → fs.Slots → String → Bool
  | .nil, _, _ => false
  | .cons name _ _ rest, (slot, slots), n => if name = n then slot.isSome else rest.given slots n

/-- The field of a name has a shape. -/
inductive Has (n : String) (s : Shape) : Fields → Prop
  /-- It is the first field. -/
  | here {p : Presence} {rest : Fields} : Has n s (.cons n p s rest)
  /-- It is among the other fields. -/
  | there {name : String} {p : Presence} {shape : Shape} {rest : Fields} (hname : name ≠ n)
      (h : rest.Has n s) : Has n s (.cons name p shape rest)

/-- The field that an array gives at an index has a shape. -/
inductive At (s : Shape) : Nat → Fields → Prop
  /-- It is the first field. -/
  | here {name : String} {p : Presence} {rest : Fields} : At s 0 (.cons name p s rest)
  /-- It is among the other fields. -/
  | there {k : Nat} {name : String} {p : Presence} {shape : Shape} {rest : Fields}
      (h : At s k rest) : At s (k + 1) (.cons name p shape rest)

variable {name n : String} {p : Presence} {s : Shape} {fs rest : Fields} {depth : Nat}

/-- A member of the first field's name is refused if the field was given. -/
theorem member_first_of_some (v : s.Value) (slots : rest.Slots) (t : List Char) :
    member ((cons name p s rest).columns ((cons name p s rest).decoders depth)) (some v, slots)
      name.toList t = .error (.unfit (.duplicateField name)) :=
  member_cons_of_filled _ rfl rfl t

/-- A member of the first field's name gives the field if it was not given. -/
theorem member_first_of_none (slots : rest.Slots) (t : List Char) :
    member ((cons name p s rest).columns ((cons name p s rest).decoders depth)) (none, slots)
      name.toList t =
      (colon t >>= ((s.decoder depth).map fun v => ((some v, slots) : Option _ × _)).run) :=
  member_cons_of_eq _ rfl rfl t

/-- A member of another name is left to the other fields. -/
theorem member_others {chars : List Char} (hn : chars ≠ name.toList) (slot : Option s.Value)
    (slots : rest.Slots) (t : List Char) :
    member ((cons name p s rest).columns ((cons name p s rest).decoders depth)) (slot, slots)
      chars t =
      (fun x => ((slot, x.1), x.2)) <$> member (rest.columns (rest.decoders depth)) slots chars t :=
  (member_cons_of_ne _ _ hn _).trans (member_behind _ slot slots _ _)

/-- A second member of a field's name is refused, whatever its value is. -/
theorem member_of_given : (fs : Fields) → {slots : fs.Slots} → fs.given slots n = true →
    ∀ t, member (fs.columns (fs.decoders depth)) slots n.toList t =
      .error (.unfit (.duplicateField n))
  | .nil, _, h, _ => nomatch h
  | .cons name p s rest, (slot, slots), h, t => by
    rw [given] at h
    by_cases hname : name = n
    · subst hname
      rw [if_pos rfl] at h
      obtain ⟨v, rfl⟩ := Option.isSome_iff_exists.1 h
      exact member_first_of_some v slots t
    · rw [if_neg hname] at h
      rw [member_others fun heq => hname (String.toList_injective heq).symm, rest.member_of_given h]
      rfl

/-- A member of a field's name has its value decoded and kept if the field was not given before. -/
theorem member_of_has (fs : Fields) (depth : Nat) (h : fs.Has n s) {slots : fs.Slots}
    (hgiven : fs.given slots n = false) :
    ∃ put : s.Value → fs.Slots, ∀ t, member (fs.columns (fs.decoders depth)) slots n.toList t =
      (colon t >>= fun r => (fun x => (put x.1, x.2)) <$> (s.decoder depth).run r) := by
  induction h with
  | @here p rest =>
    obtain ⟨slot, slots⟩ := slots
    rw [given, if_pos rfl] at hgiven
    obtain rfl : slot = none := by simpa using hgiven
    exact ⟨fun v => (some v, slots), member_first_of_none slots⟩
  | @there name p shape rest hname h ih =>
    obtain ⟨slot, slots⟩ := slots
    rw [given, if_neg hname] at hgiven
    obtain ⟨put, hput⟩ := ih hgiven
    refine ⟨fun v => (slot, put v), fun t => ?_⟩
    rw [member_others fun heq => hname (String.toList_injective heq).symm, hput]
    rcases colon t with fault | r
    · rfl
    · simp only [bind, Except.bind]
      rcases (s.decoder depth).run r with fault | x <;> rfl

/-- A member whose name is that of no field is skipped. -/
theorem member_of_unknown {chars : List Char} : (fs : Fields) →
    (∀ n ∈ fs.names, chars ≠ n.toList) → ∀ (slots : fs.Slots) (t : List Char),
      member (fs.columns (fs.decoders depth)) slots chars t =
        (colon t >>= fun r => (fun r => (slots, r)) <$> skipValue r)
  | .nil, _, (), t => by
    simp only [member, columns, List.find?_nil]
    rcases colon t with fault | r
    · rfl
    · simp only [bind, Except.bind]
      rcases skipValue r with fault | r <;> rfl
  | .cons name p s rest, h, (slot, slots), t => by
    obtain ⟨hname, hrest⟩ := List.forall_mem_cons.1 h
    rw [member_others hname, rest.member_of_unknown hrest]
    rcases colon t with fault | r
    · rfl
    · simp only [bind, Except.bind]
      rcases skipValue r with fault | r <;> rfl

/-- After a member the fields are given that were given before, and the field of its name, if there
is one. -/
theorem given_of_member {chars t r : List Char} : (fs : Fields) → {slots slots' : fs.Slots} →
    member (fs.columns (fs.decoders depth)) slots chars t = .ok (slots', r) → n ∈ fs.names →
    fs.given slots n = true ∨ chars = n.toList → fs.given slots' n = true
  | .nil, _, _, _, hn, _ => nomatch hn
  | .cons name p s rest, (slot, slots), (slot', slots'), h, hn, hgiven => by
    rw [given] at hgiven ⊢
    by_cases hchars : chars = name.toList
    · -- the member gives the first field, which was not given before
      subst hchars
      cases slot with
      | some v =>
        rw [member_first_of_some] at h
        cases h
      | none =>
        rw [member_first_of_none] at h
        obtain ⟨r₁, -, hvalue⟩ := bind_eq_ok.1 h
        obtain ⟨⟨v, r₂⟩, -, hr⟩ := map_eq_ok.1 hvalue
        cases hr
        split
        · rfl
        · rename_i hname
          rw [if_neg hname] at hgiven
          exact hgiven.resolve_right fun heq => hname (String.toList_injective heq)
    · -- the first field stays as it is
      rw [member_others hchars] at h
      obtain ⟨⟨slots₁, r₁⟩, hmember, hr⟩ := map_eq_ok.1 h
      cases hr
      split
      · rename_i hname
        rw [if_pos hname] at hgiven
        exact hgiven.resolve_right fun heq => hchars (hname ▸ heq)
      · rename_i hname
        rw [if_neg hname] at hgiven
        refine rest.given_of_member hmember ?_ hgiven
        exact (List.mem_cons.1 hn).resolve_left (Ne.symm hname)

end Fields

/-- Behind members that are well, the fields are given that were given before, and those of which
there was a member. -/
theorem Fields.given_of_membersAnswer {fs : Fields} {depth : Nat} {slots slots' : fs.Slots}
    {xs : List Named} {n : String}
    (h : MembersAnswer (fs.columns (fs.decoders depth)) none slots xs slots') (hn : n ∈ fs.names)
    (hgiven : fs.given slots n = true ∨ ∃ y ∈ xs, y.1 = n.toList) :
    fs.given slots' n = true := by
  generalize hnone : (none : Option Fault) = fault at h
  induction h with
  | nil => simpa using hgiven
  | well hx hrest ih =>
    subst hnone
    refine ih ?_ rfl
    rcases hgiven with hgiven | ⟨y, hy, hname⟩
    · exact .inl (fs.given_of_member (hx stops_nil) hn (.inl hgiven))
    · rcases List.mem_cons.1 hy with rfl | hy
      · exact .inl (fs.given_of_member (hx stops_nil) hn (.inr hname))
      · exact .inr ⟨y, hy, hname⟩
  | ill => cases hnone

end IssueSteward.Payload
