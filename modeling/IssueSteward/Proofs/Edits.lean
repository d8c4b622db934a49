import IssueSteward.Proofs.AcceptedText
import IssueSteward.Proofs.KnownMembers

/-!
# Payloads that differ in one object

A payload may differ from another one in a single object that stands for a record, at any depth
(`Edited`). What becomes of the members of the object then becomes of the whole payload: if the
reader of the object is held up by a fault, so is the reader of the payload, and if it comes to the
same values, so does the reader of the payload (`load_of_edited`). This is shown part by part, up
the way to the object: a decoder that would read one text answers the other one accordingly
(`Decoder.Swaps`).

No payload is left out by the way in which parts are described here: what is decoded as a record is
an object or an array of that description (`recordText_of_run`).
-/

namespace IssueSteward.Payload

/-- A payload differs from another one in one object that stands for a record, whose members are in
the relation `R` for the fields of the record. The rest of the payload is as it was, up to white
space and the spelling of the names on the way to the object. -/
inductive Edited (R : Fields → List Named → List Named → Prop) :
    Shape → List Char → List Char → Prop
  /-- The whole payload is the object. -/
  | here {name : String} {fs : Fields} {xs xs' : List Named} {t t' : List Char}
      (h : ObjectText xs t) (h' : ObjectText xs' t') (hmembers : R fs xs xs') :
      Edited R (.record name fs) t t'
  /-- The object is in a value that might be missing. -/
  | optional {s : Shape} {t t' : List Char} (h : Edited R s t t') : Edited R (.optional s) t t'
  /-- The object is in an element of a list. -/
  | element {s : Shape} {before after : List (List Char)} {t t' u u' : List Char}
      (h : ArrayText (before ++ t :: after) u) (h' : ArrayText (before ++ t' :: after) u')
      (hpart : Edited R s t t') : Edited R (.list s) u u'
  /-- The object is in the value of a field of a record. -/
  | member {name : String} {fs : Fields} {n : String} {s : Shape} {before after : List Named}
      {x x' : Named} {u u' : List Char} (h : ObjectText (before ++ x :: after) u)
      (h' : ObjectText (before ++ x' :: after) u') (hfield : fs.Has n s) (hname : x.1 = n.toList)
      (hname' : x'.1 = n.toList) (hpart : Edited R s x.2.value x'.2.value) :
      Edited R (.record name fs) u u'
  /-- The object is in a field of a record that is given as an array. -/
  | position {name : String} {fs : Fields} {s : Shape} {before after : List (List Char)}
      {t t' u u' : List Char} (h : ArrayText (before ++ t :: after) u)
      (h' : ArrayText (before ++ t' :: after) u') (hfield : fs.At s before.length)
      (hpart : Edited R s t t') : Edited R (.record name fs) u u'

/-! ## What becomes of a part -/

/-- A value that a decoder reads of a text is what it reads of another one as well, unless that one
is at fault. -/
def Decoder.Swaps {α : Type} (d : Decoder α) (fault : Option Fault) (t t' : List Char) : Prop :=
  ∀ ⦃v : α⦄ ⦃w w' : List Char⦄, Space w → Space w' → Gives d.run none v (w ++ t) →
    Gives d.run fault v (w' ++ t')

/-- A text may be swapped where there is no white space in front. -/
theorem Decoder.Swaps.unspaced {α : Type} {d : Decoder α} {fault : Option Fault} {t t' : List Char}
    (hd : d.Swaps fault t t') {v : α} (h : Gives d.run none v t) : Gives d.run fault v t' := by
  have hnone : Space [] := by decide
  exact hd hnone hnone h

section Swaps

variable {R : Fields → List Named → List Named → Prop} {fault : Option Fault} {s : Shape}
  {fs : Fields} {depth : Nat} {t t' u u' : List Char}

/-- A text may be swapped among the elements of a list. -/
theorem ElementsAnswer.swap {α : Type} {d : Decoder α} (hd : d.Swaps fault t t')
    {before after : List (List Char)} {vs : List α}
    (h : ElementsAnswer d none vs (before ++ t :: after)) :
    ElementsAnswer d fault vs (before ++ t' :: after) := by
  induction before generalizing vs with
  | nil =>
    cases h with
    | well ht hrest => exact .cons (hd.unspaced ht) hrest
  | cons t₀ before ih =>
    cases h with
    | well ht₀ hrest => exact .well ht₀ (ih hrest)

/-- A text may be swapped among the elements of an array that gives the fields of a record. -/
theorem Fields.ElementsAnswer.swap {before after : List (List Char)}
    (hfield : fs.At s before.length) (hd : (s.decoder depth).Swaps fault t t') {vs : fs.Values}
    (h : fs.ElementsAnswer depth none vs (before ++ t :: after)) :
    fs.ElementsAnswer depth fault vs (before ++ t' :: after) := by
  generalize hk : before.length = k at hfield
  induction hfield generalizing before with
  | here =>
    obtain rfl := List.length_eq_zero_iff.1 hk
    obtain ⟨v, vs⟩ := vs
    rcases h with ⟨ht, hrest⟩ | ⟨hfault, -⟩
    · have ht' := hd.unspaced ht
      by_cases hfault : fault = none
      · subst hfault
        exact .inl ⟨ht', hrest⟩
      · exact .inr ⟨hfault, ht'⟩
    · exact absurd rfl hfault
  | there hfield ih =>
    obtain ⟨t₀, before, rfl⟩ := List.exists_cons_of_length_eq_add_one hk
    obtain ⟨v, vs⟩ := vs
    rcases h with ⟨ht₀, hrest⟩ | ⟨hfault, -⟩
    · exact .inl ⟨ht₀, ih hrest (by simpa using hk)⟩
    · exact absurd rfl hfault

/-- The value of a field may be swapped among the members of an object. -/
theorem MembersAnswer.swap {n : String} {x x' : Named} (hfield : fs.Has n s) (hx : x.2.Spaced)
    (hx' : x'.2.Spaced) (hname : x.1 = n.toList) (hname' : x'.1 = n.toList)
    (hd : (s.decoder depth).Swaps fault x.2.value x'.2.value) {before after : List Named}
    {slots slots' : fs.Slots}
    (h : MembersAnswer (fs.columns (fs.decoders depth)) none slots (before ++ x :: after) slots') :
    MembersAnswer (fs.columns (fs.decoders depth)) fault slots (before ++ x' :: after) slots' := by
  obtain ⟨slots₁, hbefore, hrest⟩ := h.split
  refine hbefore.append ?_
  cases hrest with
  | @well _ _ slots₂ _ _ _ hmember hafter =>
    rw [hname] at hmember
    -- the field was not given before, as otherwise the member would be refused
    have hgiven : fs.given slots₁ n = false := by
      by_contra hgiven
      have hok := hmember stops_nil
      rw [fs.member_of_given (by simpa using hgiven)] at hok
      cases hok
    obtain ⟨put, hput⟩ := fs.member_of_has depth hfield hgiven
    have hread : ∀ {y : Member}, y.Spaced → ∀ r,
        member (fs.columns (fs.decoders depth)) slots₁ n.toList (y.tail ++ r) =
          (fun z => (put z.1, z.2)) <$> (s.decoder depth).run (y.after ++ (y.value ++ r)) := by
      intro y hy r
      simp only [hput, Member.tail, List.append_assoc, List.cons_append, colon_append hy.1, bind,
        Except.bind]
    have hold := hmember stops_nil
    rw [hread hx] at hold
    obtain ⟨⟨v, r⟩, hv, hput⟩ := map_eq_ok.1 hold
    cases hput
    have hvalue : Gives (s.decoder depth).run none v (x.2.after ++ x.2.value) := by
      rw [← List.append_assoc] at hv
      exact ((s.streams depth).part _).gives hv
    have hvalue' := hd hx.2 hx'.2 hvalue
    refine .cons (fun r hr => ?_) hafter
    rw [hname', hread hx', ← List.append_assoc, hvalue' hr]
    exact answer_map put

/-- A record may be an object. -/
theorem Decoder.record_object {name : String} {ds : fs.Decoders} {w : List Char} (hw : Space w)
    (r : List Char) :
    (Decoder.record name fs ds).run (w ++ '\x7b' :: r) =
      (members (fs.columns ds) true fs.blank r >>= fun x => fs.finish x.1 >>= fun vs =>
        pure (vs, x.2)) := by
  simp only [Decoder.record, Decoder.onFirst, skipSpace_append hw (c := '\x7b') rfl, if_true]

/-- A record may be an array. -/
theorem Decoder.record_array {name : String} {ds : fs.Decoders} {w : List Char} (hw : Space w)
    (r : List Char) :
    (Decoder.record name fs ds).run (w ++ '[' :: r) =
      fs.positional (fun n => .unfit (.invalidLength n name fs.size)) ds true 0 r := by
  simp [Decoder.record, Decoder.onFirst, skipSpace_append hw (c := '[') rfl]

/-- Objects may be swapped in the place of a record if their members are answered accordingly. -/
theorem swaps_object {name : String} {xs xs' : List Named} (h : ObjectText xs t)
    (h' : ObjectText xs' t')
    (hanswer : ∀ slots, MembersAnswer (fs.columns (fs.decoders depth)) none fs.blank xs slots →
      MembersAnswer (fs.columns (fs.decoders depth)) fault fs.blank xs' slots) :
    (Decoder.record name fs (fs.decoders depth)).Swaps fault t t' := by
  intro v w w' hw hw' hread r hr
  obtain ⟨hlist, hxs⟩ := h
  obtain ⟨hlist', hxs'⟩ := h'
  -- the values of the fields are settled by what is known behind the last member
  have hold := hread stops_nil
  rw [List.append_assoc, List.cons_append, Decoder.record_object hw] at hold
  obtain ⟨⟨slots, r₁⟩, hmembers, hfinish⟩ := bind_eq_ok.1 hold
  obtain ⟨vs, hvs, hr₁⟩ := bind_eq_ok.1 hfinish
  cases hr₁
  obtain ⟨-, hwell⟩ := fs.membersAnswer_of_run hxs hlist hmembers
  rw [List.append_assoc, List.cons_append, Decoder.record_object hw',
    members_answer (hanswer slots hwell) hxs' hlist']
  refine answer_bind ?_
  simp only [hvs, bind, Except.bind]
  rfl

/-- Arrays may be swapped in the place of a record if their elements are answered accordingly. -/
theorem swaps_array {name : String} {ts ts' : List (List Char)} (h : ArrayText ts t)
    (h' : ArrayText ts' t')
    (hanswer : ∀ vs, fs.ElementsAnswer depth none vs ts → fs.ElementsAnswer depth fault vs ts') :
    (Decoder.record name fs (fs.decoders depth)).Swaps fault t t' := by
  intro vs w w' hw hw' hread r hr
  obtain ⟨hlist, hts⟩ := h
  obtain ⟨hlist', hts'⟩ := h'
  have hold := hread stops_nil
  rw [List.append_assoc, List.cons_append, Decoder.record_array hw] at hold
  obtain ⟨-, hwell⟩ := fs.elementsAnswer_of_run hts hlist hold
  rw [List.append_assoc, List.cons_append, Decoder.record_array hw']
  exact fs.positional_answer _ r 0 (hanswer vs hwell)
    (fun t ht => begins_of_valueText (hts' t ht)) hlist'

/-- Arrays may be swapped in the place of a list if their elements are answered accordingly. -/
theorem swaps_list {ts ts' : List (List Char)} (h : ArrayText ts t) (h' : ArrayText ts' t')
    (hanswer : ∀ vs, ElementsAnswer (s.decoder depth) none vs ts →
      ElementsAnswer (s.decoder depth) fault vs ts') :
    (s.decoder depth).list.Swaps fault t t' := by
  intro vs w w' hw hw' hread r hr
  obtain ⟨hlist, hts⟩ := h
  obtain ⟨hlist', hts'⟩ := h'
  have hrun : ∀ {w : List Char}, Space w → ∀ r, (s.decoder depth).list.run (w ++ '[' :: r) =
      elements (s.decoder depth) true r := by
    intro w hw r
    simp only [Decoder.list, Decoder.onFirst, skipSpace_append hw (c := '[') rfl, if_true]
  have hold := hread stops_nil
  rw [List.append_assoc, List.cons_append, hrun hw] at hold
  obtain ⟨-, hwell⟩ := elementsAnswer_of_run hts hlist hold
  rw [List.append_assoc, List.cons_append, hrun hw']
  exact elements_answer (hanswer vs hwell) (fun t ht => begins_of_valueText (hts' t ht)) hlist' r

/-- Texts that are not `null` may be swapped where a value may be missing. -/
theorem Decoder.Swaps.optional {α : Type} {d : Decoder α} (hd : d.Swaps fault t t')
    (ht : ∃ c r, t = c :: r ∧ isSpace c = false ∧ c ≠ 'n')
    (ht' : ∃ c r, t' = c :: r ∧ isSpace c = false ∧ c ≠ 'n') : d.optional.Swaps fault t t' := by
  have hrun : ∀ {w t : List Char}, Space w → (∃ c r, t = c :: r ∧ isSpace c = false ∧ c ≠ 'n') →
      ∀ r, d.optional.run (w ++ t ++ r) = (fun x => (some x.1, x.2)) <$> d.run (w ++ t ++ r) := by
    rintro w t hw ⟨c, t, rfl, hspace, hc⟩ r
    refine optional_of_not_null fun r₀ hr₀ => ?_
    rw [List.append_assoc, List.cons_append, skipSpace_append hw hspace] at hr₀
    exact hc (List.cons.inj hr₀).1
  intro v w w' hw hw' hread r hr
  have hold := hread stops_nil
  rw [hrun hw ht] at hold
  obtain ⟨⟨v₀, r₀⟩, -, hv⟩ := map_eq_ok.1 hold
  cases hv
  -- the value is the same whatever follows
  have hvalue : Gives d.run none v₀ (w ++ t) := by
    intro r hr
    have hsome := hread hr
    rw [hrun hw ht] at hsome
    obtain ⟨⟨v₁, r₁⟩, hd, hv⟩ := map_eq_ok.1 hsome
    cases hv
    exact hd
  rw [hrun hw' ht', hd hw hw' hvalue hr]
  exact answer_map some

/-- An edited payload is an object or an array, as it was before. -/
theorem Edited.recordTexts (h : Edited R s t t') : RecordText t ∧ RecordText t' := by
  induction h with
  | here h h' => exact ⟨.object h, .object h'⟩
  | optional _ ih => exact ih
  | element h h' => exact ⟨.array h, .array h'⟩
  | member h h' => exact ⟨.object h, .object h'⟩
  | position h h' => exact ⟨.array h, .array h'⟩

/-- What becomes of the members of an object in a payload becomes of the payload. -/
theorem Edited.swaps (h : Edited R s t t')
    (hmembers : ∀ {fs : Fields} {depth : Nat} {xs xs' : List Named} {slots : fs.Slots},
      R fs xs xs' → (∀ x ∈ xs', x.Formed) →
      MembersAnswer (fs.columns (fs.decoders depth)) none fs.blank xs slots →
      MembersAnswer (fs.columns (fs.decoders depth)) fault fs.blank xs' slots) :
    ∀ depth, (s.decoder depth).Swaps fault t t' := by
  induction h with
  | here h h' hR =>
    intro depth
    refine swaps_object h h' fun slots hslots => hmembers hR ?_ hslots
    obtain ⟨-, hxs'⟩ := h'
    exact hxs'
  | optional h ih =>
    obtain ⟨ht, ht'⟩ := h.recordTexts
    exact fun depth => (ih depth).optional ht.head ht'.head
  | element h h' _ ih => exact fun depth => swaps_list h h' fun vs => .swap (ih (depth + 1))
  | @member name fs n s before after x x' u u' h h' hfield hname hname' _ ih =>
    intro depth
    have hx : x.2.Spaced := by
      obtain ⟨-, hxs⟩ := h
      exact (hxs x (by simp)).spaced
    have hx' : x'.2.Spaced := by
      obtain ⟨-, hxs'⟩ := h'
      exact (hxs' x' (by simp)).spaced
    exact swaps_object h h' fun slots => .swap hfield hx hx' hname hname' (ih (depth + 1))
  | position h h' hfield _ ih =>
    exact fun depth => swaps_array h h' fun vs => .swap hfield (ih (depth + 1))

end Swaps

/-! ## What becomes of the whole -/

/-- A payload of a format differs from another one in one object that stands for a record, whose
members are in the relation `R`, and perhaps in white space. -/
def Format.Edited {α : Type} (f : Format α) (R : Fields → List Named → List Named → Prop)
    (text text' : String) : Prop :=
  ∃ w w' t t' v v', Space w ∧ Space w' ∧ Space v ∧ Space v' ∧ text.toList = w ++ (t ++ v) ∧
    text'.toList = w' ++ (t' ++ v') ∧ Payload.Edited R (.record f.name f.fields) t t'

/-- What becomes of a part of a payload becomes of the whole, with white space around it. -/
theorem Shape.decode_swaps {s : Shape} {fault : Option Fault} {x : s.Value}
    {w w' t t' v v' : List Char} (hd : (s.decoder 0).Swaps fault t t')
    (ht : ValueText .skipped 0 t) (hw : Space w) (hw' : Space w') (hv : Space v) (hv' : Space v')
    (h : s.decode (w ++ (t ++ v)) = .ok x) :
    s.decode (w' ++ (t' ++ v')) = fault.elim (.ok x) .error := by
  have hstops : ∀ {v : List Char}, Space v → Stops v := by
    intro v hv
    simpa using stops_append hv stops_nil
  obtain ⟨r, hread, -⟩ := Shape.decode_eq_ok.1 h
  obtain ⟨-, hgives⟩ := Shape.gives_of_run ht hw (hstops hv) hread
  have hread' := hd hw hw' hgives (hstops hv')
  rw [List.append_assoc] at hread'
  cases fault with
  | none => exact Shape.decode_eq_ok.2 ⟨v', hread', hv'⟩
  | some fault =>
    simp only [Shape.decode, hread']
    rfl

/-- What becomes of the members of an object in a payload becomes of what is loaded. -/
theorem load_of_edited {α : Type} {f : Format α} {event : α} {text text' : String}
    {R : Fields → List Named → List Named → Prop} {fault : Option Fault}
    (h : load f (some text.toUTF8) = .ok event) (hedited : f.Edited R text text')
    (hmembers : ∀ {fs : Fields} {depth : Nat} {xs xs' : List Named} {slots : fs.Slots},
      R fs xs xs' → (∀ x ∈ xs', x.Formed) →
      MembersAnswer (fs.columns (fs.decoders depth)) none fs.blank xs slots →
      MembersAnswer (fs.columns (fs.decoders depth)) fault fs.blank xs' slots) :
    load f (some text'.toUTF8) = fault.elim (.ok event) fun fault => .error (.refused fault) := by
  obtain ⟨w, w', t, t', v, v', hw, hw', hv, hv', htext, htext', hpart⟩ := hedited
  obtain ⟨values, hvalues, rfl⟩ := exists_of_load h
  rw [htext] at hvalues
  have hedited := Shape.decode_swaps (hpart.swaps hmembers 0) hpart.recordTexts.1.valueText hw hw'
    hv hv' hvalues
  rw [load_toUTF8, Format.decode, htext', hedited]
  cases fault <;> rfl

end IssueSteward.Payload
