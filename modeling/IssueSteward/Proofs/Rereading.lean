import IssueSteward.Proofs.Skimming

/-!
# Reading a part of a payload again

A part of a text that is read once is read in the same way wherever else it stands (`Gives`). So the
items of a bracket can be taken one by one: what the reader of a bracket answers is settled by what
it makes of each item, however the items are separated (`elements_answer`, `positional_answer`,
`members_answer`). An answer is a value with the rest of the text, unless an item is at fault, and
then it is the fault of the first such item.
-/

namespace IssueSteward.Payload

/-! ## Answers -/

/-- What a reader answers that comes to a value and leaves a rest, unless there is a fault. -/
def answer {α : Type} (fault : Option Fault) (v : α) (r : List Char) :
    Except Fault (α × List Char) :=
  fault.elim (.ok (v, r)) .error

/-- A reader that goes on from an answer answers likewise. -/
theorem answer_bind {α β : Type} {fault : Option Fault} {v : α} {r : List Char} {u : β}
    {r' : List Char} {k : α × List Char → Except Fault (β × List Char)}
    (h : k (v, r) = .ok (u, r')) : (answer fault v r >>= k) = answer fault u r' := by
  cases fault with
  | none => exact h
  | some fault => rfl

/-- A function of the value may follow an answer. -/
theorem answer_map {α β : Type} {fault : Option Fault} {v : α} {r : List Char} (f : α → β) :
    (fun x => (f x.1, x.2)) <$> answer fault v r = answer fault (f v) r := by
  cases fault <;> rfl

/-- A reader answers a text in one way, whatever stops it. -/
def Gives {α : Type} (f : Reader α) (fault : Option Fault) (v : α) (t : List Char) : Prop :=
  ∀ ⦃r : List Char⦄, Stops r → f (t ++ r) = answer fault v r

/-- A part of a text is read again as the same value. -/
theorem Streams.gives {α : Type} {lead : List Char} {f : Reader α} {v : α} {t r : List Char}
    (hf : Streams lead f (t ++ r)) (h : f (t ++ r) = .ok (v, r)) : Gives f none v t := by
  obtain ⟨t', hsplit, ht'⟩ := hf h
  -- the part that is taken is what stands before the rest
  obtain rfl := List.append_cancel_right hsplit
  exact fun _ hr' => ht'.settled hr'.follows

/-- A decoder leaves what follows a value, if it reads the value. -/
theorem Decoder.Skims.rest_eq {α : Type} {d : Decoder α} (hd : d.Skims) {v : α}
    {w t r r' : List Char} (ht : ValueText .skipped 0 t) (hw : Space w) (hr : Stops r)
    (h : d.run (w ++ (t ++ r)) = .ok (v, r')) : r' = r := by
  have hdecoded := hd h []
  have hskipped : Passes .skipped [] t := passInside_of_valueText ht rfl
  rw [hskipped hw hr, complete_outside, complete_outside] at hdecoded
  exact (Except.ok.inj hdecoded).symm

/-- A value that is decoded is decoded again wherever it stands behind the same white space. -/
theorem Shape.gives_of_run {s : Shape} {depth : Nat} {v : s.Value} {w t r r' : List Char}
    (ht : ValueText .skipped 0 t) (hw : Space w) (hr : Stops r)
    (h : (s.decoder depth).run (w ++ (t ++ r)) = .ok (v, r')) :
    r' = r ∧ Gives (s.decoder depth).run none v (w ++ t) := by
  obtain rfl := (s.skims depth).rest_eq ht hw hr h
  rw [← List.append_assoc] at h
  exact ⟨rfl, ((s.streams depth).part _).gives h⟩

/-! ## Arrays -/

section Arrays

variable {α : Type} {d : Decoder α} {s : Shape} {depth : Nat} {fresh : Bool}
  {fault : Option Fault} {t rest : List Char} {ts : List (List Char)}

/-- An array without further elements ends. -/
theorem nextElement_listed_nil (h : Listed .square fresh [] rest) (r : List Char) :
    nextElement fresh (rest ++ r) = .ok (.none r) := by
  cases h with
  | close hw =>
    rw [List.append_assoc]
    exact nextElement_close hw r

/-- The first of the further elements of an array is found, and the others follow it. -/
theorem nextElement_listed_cons (ht : Begins t) (h : Listed .square fresh (t :: ts) rest) :
    ∃ rest', Listed .square false ts rest' ∧
      ∀ r, nextElement fresh (rest ++ r) = .ok (.some (t ++ (rest' ++ r))) := by
  cases h with
  | item hlead hw hlist =>
    refine ⟨_, hlist, fun r => ?_⟩
    simp only [List.append_assoc]
    exact nextElement_item hlead hw ht _

/-- What a decoder makes of the elements of an array one by one, up to the first that is at
fault. -/
inductive ElementsAnswer (d : Decoder α) : Option Fault → List α → List (List Char) → Prop
  /-- There are no elements. -/
  | nil : ElementsAnswer d none [] []
  /-- The first element is well, and the others decide. -/
  | well {fault : Option Fault} {v : α} {vs : List α} {t : List Char} {ts : List (List Char)}
      (h : Gives d.run none v t) (hrest : ElementsAnswer d fault vs ts) :
      ElementsAnswer d fault (v :: vs) (t :: ts)
  /-- The first element is at fault. -/
  | ill {fault : Fault} {v : α} {vs : List α} {t : List Char} {ts : List (List Char)}
      (h : Gives d.run (some fault) v t) : ElementsAnswer d (some fault) (v :: vs) (t :: ts)

/-- An element may be at fault before others that are well. -/
theorem ElementsAnswer.cons {v : α} {vs : List α} (h : Gives d.run fault v t)
    (hrest : ElementsAnswer d none vs ts) : ElementsAnswer d fault (v :: vs) (t :: ts) := by
  cases fault with
  | none => exact .well h hrest
  | some fault => exact .ill h

/-- The elements of an array are answered by the first of them that is at fault. -/
theorem elements_answer {vs : List α} (h : ElementsAnswer d fault vs ts)
    (hts : ∀ t ∈ ts, Begins t) (hlist : Listed .square fresh ts rest) (r : List Char) :
    elements d fresh (rest ++ r) = answer fault vs r := by
  induction h generalizing fresh rest with
  | nil =>
    rw [elements_eq, nextElement_listed_nil hlist]
    rfl
  | @well fault v vs t ts hv hrest ih =>
    obtain ⟨rest', hlist', hnext⟩ := nextElement_listed_cons (hts _ List.mem_cons_self) hlist
    have hothers := ih (fun t ht => hts t (List.mem_cons_of_mem _ ht)) hlist'
    have hfirst : d.run (t ++ (rest' ++ r)) = .ok (v, rest' ++ r) := hv (stops_of_listed hlist' r)
    rw [elements_eq, hnext]
    simp only [bind, Except.bind, hfirst, hothers]
    cases fault <;> rfl
  | ill hv =>
    -- the elements behind the faulty one are not looked at
    obtain ⟨rest', hlist', hnext⟩ := nextElement_listed_cons (hts _ List.mem_cons_self) hlist
    rw [elements_eq, hnext]
    simp only [bind, Except.bind, hv (stops_of_listed hlist' r), answer, Option.elim]

/-- The elements of an array that is decoded are decoded one by one. -/
theorem elementsAnswer_of_run {vs : List s.Value} {r r' : List Char}
    (hts : ∀ t ∈ ts, ValueText .skipped 0 t) (hlist : Listed .square fresh ts rest)
    (h : elements (s.decoder depth) fresh (rest ++ r) = .ok (vs, r')) :
    r' = r ∧ ElementsAnswer (s.decoder depth) none vs ts := by
  induction ts generalizing fresh rest vs with
  | nil =>
    rw [elements_eq, nextElement_listed_nil hlist] at h
    cases h
    exact ⟨rfl, .nil⟩
  | cons t ts ih =>
    have ht := hts t List.mem_cons_self
    obtain ⟨rest', hlist', hnext⟩ := nextElement_listed_cons (begins_of_valueText ht) hlist
    rw [elements_eq, hnext] at h
    obtain ⟨item, hitem, hread⟩ := bind_eq_ok.1 h
    cases hitem
    obtain ⟨⟨v, r₁⟩, hv, hmore⟩ := bind_eq_ok.1 hread
    obtain ⟨⟨vs', r₂⟩, hvs, hr⟩ := bind_eq_ok.1 hmore
    cases hr
    obtain ⟨rfl, hgives⟩ := Shape.gives_of_run (w := []) ht (by simp [Space])
      (stops_of_listed hlist' r) hv
    obtain ⟨rfl, hothers⟩ := ih (fun t' ht' => hts t' (List.mem_cons_of_mem _ ht')) hlist' hvs
    exact ⟨rfl, .well hgives hothers⟩

/-- The end of an array without further elements is read over. -/
theorem closeArray_listed (h : Listed .square fresh [] rest) (r : List Char) :
    closeArray (rest ++ r) = .ok r := by
  cases h with
  | close hw =>
    rw [List.append_assoc]
    simp only [closeArray, List.singleton_append,
      skipSpace_append hw (c := Bracket.square.close) rfl]
    rfl

/-- No element is read where an array has to end. -/
theorem eq_nil_of_closeArray {r r' : List Char} (hts : ∀ t ∈ ts, Begins t)
    (hlist : Listed .square fresh ts rest) (h : closeArray (rest ++ r) = .ok r') : ts = [] := by
  cases hlist with
  | close => rfl
  | item hlead hw hlist =>
    obtain ⟨c, t, ht, hspace, hclose, -⟩ := hts _ List.mem_cons_self
    cases hlead with
    | first =>
      simp [closeArray, ht, skipSpace_append hw hspace, hclose] at h
    | next hw' =>
      simp [closeArray, skipSpace_append hw' (c := ',') rfl] at h

end Arrays

/-- What the decoders of fields make of the elements of an array that gives the fields in their
order, up to the first that is at fault. -/
def Fields.ElementsAnswer (depth : Nat) :
    (fs : Fields) → Option Fault → fs.Values → List (List Char) → Prop
  | .nil, fault, _, ts => fault = none ∧ ts = []
  | .cons name p s rest, fault, vs, [] => fault = none ∧ (Fields.cons name p s rest).rest = .ok vs
  | .cons _ _ s rest, fault, (v, vs), t :: ts =>
    Gives (s.decoder depth).run none v t ∧ rest.ElementsAnswer depth fault vs ts ∨
      fault ≠ none ∧ Gives (s.decoder depth).run fault v t

/-- The fields that an array gives are answered by the first of them that is at fault. -/
theorem Fields.positional_answer {depth : Nat} (tooShort : Nat → Fault) (r : List Char) :
    (fs : Fields) → ∀ {fault : Option Fault} {vs : fs.Values} {ts : List (List Char)}
      {fresh : Bool} {rest : List Char} (index : Nat), fs.ElementsAnswer depth fault vs ts →
      (∀ t ∈ ts, Begins t) → Listed .square fresh ts rest →
      fs.positional tooShort (fs.decoders depth) fresh index (rest ++ r) = answer fault vs r
  | .nil, _, (), _, _, _, index, ⟨rfl, rfl⟩, hts, hlist => by
    rw [Fields.positional, closeArray_listed hlist]
    rfl
  | .cons name p s rest, _, vs, [], _, _, index, ⟨rfl, hrest⟩, hts, hlist => by
    rw [Fields.decoders, Fields.positional, nextElement_listed_nil hlist]
    simp only [hrest]
    rfl
  | .cons name p s others, fault, (v, vs), t :: ts, _, _, index, h, hts, hlist => by
    obtain ⟨rest', hlist', hnext⟩ := nextElement_listed_cons (hts _ List.mem_cons_self) hlist
    have hstops := stops_of_listed hlist' r
    rw [Fields.decoders, Fields.positional, hnext]
    rcases h with ⟨hv, hothers⟩ | ⟨hfault, hv⟩
    · have hfirst : (s.decoder depth).run (t ++ (rest' ++ r)) = .ok (v, rest' ++ r) := hv hstops
      have hothers := others.positional_answer tooShort r (index + 1) hothers
        (fun t ht => hts t (List.mem_cons_of_mem _ ht)) hlist'
      simp only [bind, Except.bind, hfirst, hothers]
      cases fault <;> rfl
    · cases fault with
      | none => exact absurd rfl hfault
      | some fault => simp only [bind, Except.bind, hv hstops, answer, Option.elim]

/-- The elements of an array that is decoded as the fields of a record are decoded one by one. -/
theorem Fields.elementsAnswer_of_run {depth : Nat} {tooShort : Nat → Fault} {r r' : List Char} :
    (fs : Fields) → ∀ {vs : fs.Values} {ts : List (List Char)} {fresh : Bool} {index : Nat}
      {rest : List Char}, (∀ t ∈ ts, ValueText .skipped 0 t) → Listed .square fresh ts rest →
      fs.positional tooShort (fs.decoders depth) fresh index (rest ++ r) = .ok (vs, r') →
      r' = r ∧ fs.ElementsAnswer depth none vs ts
  | .nil, vs, ts, fresh, index, rest, hts, hlist, h => by
    obtain ⟨r'', hclose, hr⟩ := map_eq_ok.1 h
    obtain rfl := eq_nil_of_closeArray (fun t ht => begins_of_valueText (hts t ht)) hlist hclose
    rw [closeArray_listed hlist] at hclose
    cases hclose
    cases hr
    exact ⟨rfl, rfl, rfl⟩
  | .cons name p s others, vs, [], fresh, index, rest, hts, hlist, h => by
    rw [Fields.decoders, Fields.positional, nextElement_listed_nil hlist] at h
    rcases hrest : (Fields.cons name p s others).rest with n | vs'
    · simp only [hrest] at h
      cases h
    · simp only [hrest] at h
      cases h
      exact ⟨rfl, rfl, hrest⟩
  | .cons name p s others, vs, t :: ts, fresh, index, rest, hts, hlist, h => by
    have ht := hts t List.mem_cons_self
    obtain ⟨rest', hlist', hnext⟩ := nextElement_listed_cons (begins_of_valueText ht) hlist
    rw [Fields.decoders, Fields.positional, hnext] at h
    obtain ⟨⟨v, r₁⟩, hv, hmore⟩ := bind_eq_ok.1 h
    obtain ⟨⟨vs', r₂⟩, hvs, hr⟩ := bind_eq_ok.1 hmore
    cases hr
    obtain ⟨rfl, hgives⟩ := Shape.gives_of_run (w := []) ht (by simp [Space])
      (stops_of_listed hlist' r) hv
    obtain ⟨rfl, hothers⟩ :=
      others.elementsAnswer_of_run (fun t' ht' => hts t' (List.mem_cons_of_mem _ ht')) hlist' hvs
    exact ⟨rfl, .inl ⟨hgives, hothers⟩⟩

/-! ## Objects -/

/-- What follows the name of a member. -/
def Member.tail (x : Member) : List Char := x.before ++ ':' :: (x.after ++ x.value)

/-- A member of an object is well formed: its name is spelled in some way, and its value is one of
any kind. -/
structure Named.Formed (x : Named) : Prop where
  /-- There is nothing but white space around the colon. -/
  spaced : x.2.Spaced
  /-- The name is spelled between the quotes. -/
  name : Spelling x.1 x.2.name
  /-- The value is a value. -/
  value : ValueText .skipped 0 x.2.value

/-- An object without further members ends. -/
theorem nextMember_listed_nil {fresh : Bool} {rest : List Char} (h : Listed .curly fresh [] rest)
    (r : List Char) : nextMember fresh (rest ++ r) = .ok (.none r) := by
  cases h with
  | close hw =>
    rw [List.append_assoc]
    exact nextMember_close hw r

/-- The first of the further members of an object is found, and the others follow it. -/
theorem nextMember_listed_cons {fresh : Bool} {x : Member} {ts : List (List Char)}
    {rest : List Char} (h : Listed .curly fresh (x.text :: ts) rest) :
    ∃ rest', Listed .curly false ts rest' ∧
      ∀ r, nextMember fresh (rest ++ r) =
        .ok (.some (x.name ++ '"' :: (x.tail ++ (rest' ++ r)))) := by
  cases h with
  | item hlead hw hlist =>
    refine ⟨_, hlist, fun r => ?_⟩
    simp only [Member.text, Member.tail, List.append_assoc, quoted_append, List.cons_append]
    exact nextMember_item hlead hw _

section Members

variable {σ : Type} {columns : List (Column σ)} {fresh : Bool} {fault : Option Fault}
  {slots slots' slots'' : σ} {x : Named} {xs before after : List Named} {rest : List Char}

/-- The first of the further members of an object is read, and then the others. -/
theorem members_listed_cons (columns : List (Column σ)) (hname : Spelling x.1 x.2.name)
    (h : Listed .curly fresh ((x :: xs).map fun x => x.2.text) rest) :
    ∃ rest', Listed .curly false (xs.map fun x => x.2.text) rest' ∧
      ∀ slots r, members columns fresh slots (rest ++ r) =
        (member columns slots x.1 (x.2.tail ++ (rest' ++ r)) >>= fun y =>
          members columns false y.1 y.2) := by
  obtain ⟨rest', hlist', hnext⟩ := nextMember_listed_cons h
  refine ⟨rest', hlist', fun slots r => ?_⟩
  rw [members_eq, hnext]
  simp only [keptString_of_spelling hname, bind, Except.bind]

/-- What the fields make of the members of an object one by one, from what is known of the fields
before them to what is known after them, up to the first member that is at fault. -/
inductive MembersAnswer (columns : List (Column σ)) : Option Fault → σ → List Named → σ → Prop
  /-- There are no members. -/
  | nil {slots : σ} : MembersAnswer columns none slots [] slots
  /-- The first member is well, and the others decide. -/
  | well {fault : Option Fault} {slots slots' slots'' : σ} {x : Named} {xs : List Named}
      (h : Gives (member columns slots x.1) none slots' x.2.tail)
      (hrest : MembersAnswer columns fault slots' xs slots'') :
      MembersAnswer columns fault slots (x :: xs) slots''
  /-- The first member is at fault. -/
  | ill {fault : Fault} {slots slots' slots'' : σ} {x : Named} {xs : List Named}
      (h : Gives (member columns slots x.1) (some fault) slots' x.2.tail) :
      MembersAnswer columns (some fault) slots (x :: xs) slots''

/-- A member may be at fault before others that are well. -/
theorem MembersAnswer.cons (h : Gives (member columns slots x.1) fault slots' x.2.tail)
    (hrest : MembersAnswer columns none slots' xs slots'') :
    MembersAnswer columns fault slots (x :: xs) slots'' := by
  cases fault with
  | none => exact .well h hrest
  | some fault => exact .ill h

/-- Members decide behind members that are well. -/
theorem MembersAnswer.append (h : MembersAnswer columns none slots before slots')
    (hafter : MembersAnswer columns fault slots' after slots'') :
    MembersAnswer columns fault slots (before ++ after) slots'' := by
  generalize hnone : (none : Option Fault) = f at h
  induction h with
  | nil => exact hafter
  | well hx _ ih => exact .well hx (ih hafter hnone)
  | ill => cases hnone

/-- What is known between members that are well. -/
theorem MembersAnswer.split (h : MembersAnswer columns none slots (before ++ after) slots'') :
    ∃ slots', MembersAnswer columns none slots before slots' ∧
      MembersAnswer columns none slots' after slots'' := by
  induction before generalizing slots with
  | nil => exact ⟨slots, .nil, h⟩
  | cons x before ih =>
    cases h with
    | well hx hrest =>
      obtain ⟨slots', hbefore, hafter⟩ := ih hrest
      exact ⟨slots', .well hx hbefore, hafter⟩

/-- The members of an object are answered by the first of them that is at fault. -/
theorem members_answer (h : MembersAnswer columns fault slots xs slots')
    (hxs : ∀ x ∈ xs, x.Formed) (hlist : Listed .curly fresh (xs.map fun x => x.2.text) rest)
    (r : List Char) : members columns fresh slots (rest ++ r) = answer fault slots' r := by
  induction h generalizing fresh rest with
  | nil =>
    rw [members_eq, nextMember_listed_nil hlist]
    rfl
  | @well fault slots slots₁ slots' x xs hx hrest ih =>
    obtain ⟨rest', hlist', hmembers⟩ :=
      members_listed_cons columns (hxs _ List.mem_cons_self).name hlist
    have hfirst : member columns slots x.1 (x.2.tail ++ (rest' ++ r)) = .ok (slots₁, rest' ++ r) :=
      hx (stops_of_listed hlist' r)
    rw [hmembers, hfirst]
    exact ih (fun y hy => hxs y (List.mem_cons_of_mem _ hy)) hlist'
  | ill hx =>
    obtain ⟨rest', hlist', hmembers⟩ :=
      members_listed_cons columns (hxs _ List.mem_cons_self).name hlist
    rw [hmembers, hx (stops_of_listed hlist' r)]
    rfl

end Members

/-- A member that is read is read again wherever it stands. -/
theorem Fields.gives_of_member {fs : Fields} {depth : Nat} {slots slots' : fs.Slots} {x : Named}
    (hx : x.Formed) {r r' : List Char} (hr : Stops r)
    (h : member (fs.columns (fs.decoders depth)) slots x.1 (x.2.tail ++ r) = .ok (slots', r')) :
    r' = r ∧ Gives (member (fs.columns (fs.decoders depth)) slots x.1) none slots' x.2.tail := by
  have hcolon : colon (x.2.tail ++ r) = .ok (x.2.after ++ (x.2.value ++ r)) := by
    simp only [Member.tail, List.append_assoc, List.cons_append]
    exact colon_append hx.spaced.1 _
  -- the value ends where it does when it is skipped, whichever way it is read
  have hdecoded : passInside .skipped [] (x.2.after ++ (x.2.value ++ r)) =
      complete .skipped (.complete []) r' :=
    skims_member (fs.skims_columns (fs.skimming depth)) h hcolon
  have hskipped : passInside .skipped [] (x.2.after ++ (x.2.value ++ r)) =
      complete .skipped (.complete []) r :=
    passInside_of_valueText hx.value rfl hx.spaced.2 hr
  rw [hskipped, complete_outside, complete_outside] at hdecoded
  obtain rfl := Except.ok.inj hdecoded
  have hstreams :=
    streams_member (fs.streams_columns (fs.streaming depth)) slots x.1 (x.2.tail ++ r)
  exact ⟨rfl, hstreams.gives h⟩

/-- The members of an object that is decoded are read one by one. -/
theorem Fields.membersAnswer_of_run {fs : Fields} {depth : Nat} {fresh : Bool}
    {slots slots' : fs.Slots} {xs : List Named} {rest r r' : List Char}
    (hxs : ∀ x ∈ xs, x.Formed) (hlist : Listed .curly fresh (xs.map fun x => x.2.text) rest)
    (h : members (fs.columns (fs.decoders depth)) fresh slots (rest ++ r) = .ok (slots', r')) :
    r' = r ∧ MembersAnswer (fs.columns (fs.decoders depth)) none slots xs slots' := by
  induction xs generalizing fresh slots rest with
  | nil =>
    rw [members_eq, nextMember_listed_nil hlist] at h
    cases h
    exact ⟨rfl, .nil⟩
  | cons x xs ih =>
    have hx := hxs x List.mem_cons_self
    obtain ⟨rest', hlist', hmembers⟩ := members_listed_cons _ hx.name hlist
    rw [hmembers] at h
    obtain ⟨⟨slots₁, r₁⟩, hmember, hothers⟩ := bind_eq_ok.1 h
    obtain ⟨rfl, hgives⟩ := fs.gives_of_member hx (stops_of_listed hlist' r) hmember
    obtain ⟨rfl, hanswer⟩ := ih (fun y hy => hxs y (List.mem_cons_of_mem _ hy)) hlist' hothers
    exact ⟨rfl, .well hgives hanswer⟩

end IssueSteward.Payload
