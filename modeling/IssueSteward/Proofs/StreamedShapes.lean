import IssueSteward.Payload.Shape
import IssueSteward.Proofs.AnyValue
import IssueSteward.Proofs.Lexemes
import IssueSteward.Proofs.Presentation

/-!
# Values of shapes as they come in

The readers of values stream texts, from those that only read over a value (`streams_passValue`) to
the decoders of all shapes (`Shape.streams`). The proofs follow the readers: each is put together of
others that stream, a loop over items by induction on the text that is left, and a shape by
recursion on it. Behind white space a decoder has nothing yet, which is why a value that may be
missing streams as well (`Decoder.Streams.optional`).
-/

namespace IssueSteward.Payload

/-! ## Values of any kind -/

/-- A string is read as a part in whichever way it is read. -/
theorem Mode.streams_string (m : Mode) (s : List Char) : Streams ['"'] (beyond m.string) s := by
  cases m with
  | skipped => exact streams_skipString s
  | kept levels => exact (streams_keptString s).forget

/-- A number is read from its digits in whichever way it is read. -/
theorem Mode.readsFigures (m : Mode) (minus : Bool) : ReadsFigures (beyond (m.number minus)) := by
  cases m with
  | skipped => exact readsFigures_skipNumber
  | kept levels =>
    intro s r v h
    obtain ⟨⟨n, r'⟩, hkept, hr⟩ := map_eq_ok.1 (beyond_eq_ok.1 h)
    obtain rfl : r' = r := hr
    obtain ⟨g, hfigure, hvalue⟩ := readsFigures_keptNumber minus hkept
    refine ⟨g, hfigure, fun h' => beyond_eq_ok.2 ?_⟩
    simp only [Mode.number, hvalue h', Functor.map, Except.map]

/-- A character is passed over, if it is no quote and the wanted one. -/
theorem streams_expect {c d : Char} (hd : d ≠ '"') (s : List Char) :
    Streams [c] (beyond fun r => if c = d then .ok r else .error .malformed) s := by
  refine .beyondIte (fun hc => ?_) fun _ => .beyondError _
  subst hc
  exact .stay (if_neg hd)

/-- A colon is read as a part. -/
theorem streams_colon (s : List Char) : Streams [] (beyond colon) s :=
  .beyondFirst fun _ r _ => streams_expect (by decide) r

/-- The end of an object is read as a part. -/
theorem streams_closeObject (s : List Char) : Streams [] (beyond Decoder.closeObject) s :=
  .beyondFirst fun _ r _ => streams_expect (by decide) r

/-- The end of an array is read as a part. -/
theorem streams_closeArray (s : List Char) : Streams [] (beyond closeArray) s :=
  .beyondFirst fun _ r _ => streams_expect (by decide) r

/-- The beginning of a value is read as a part. -/
theorem streams_begin (m : Mode) (outer : List Bracket) (s : List Char) :
    Streams [] (begin m outer) s := by
  refine Streams.first fun c r _ => ?_
  refine .ite (fun hc => .ite (fun _ => ?_) fun _ => .error _) fun _ =>
    .ite (fun hc => .ite (fun _ => ?_) fun _ => .error _) fun _ => .tag ?_ _
  · subst hc
    exact .pure rfl _
  · subst hc
    exact .pure rfl _
  refine .beyondIte (fun hc => ?_) fun _ => .beyondIte (fun hc => ?_) fun _ =>
    .beyondIte (fun hc => ?_) fun _ => .beyondIte (fun hc => ?_) fun _ =>
    .beyondIte (fun hc => ?_) fun _ => .beyondIte (fun hc => ?_) fun _ => .beyondError _
  · subst hc
    exact m.streams_string r
  · subst hc
    exact streams_literal rfl r
  · subst hc
    exact streams_literal rfl r
  · subst hc
    exact streams_literal rfl r
  · subst hc
    exact (m.readsFigures true).streams_negative r
  · exact (m.readsFigures false).streams_digit c r

/-- What precedes the value of an item is read as a part. -/
theorem streams_label (m : Mode) (b : Bracket) (s : List Char) :
    Streams [] (beyond (label m b)) s := by
  cases b with
  | square => exact .stay rfl
  | curly =>
    refine .beyondFirst fun c r _ => .beyondIte (fun hc => ?_) fun _ => .beyondError _
    subst hc
    exact .beyondBind (m.streams_string r) fun r' _ => streams_colon r'

/-- The next step inside a bracket is read as a part. -/
theorem streams_advance (m : Mode) (fresh : Bool) (b : Bracket) (outer : List Bracket)
    (s : List Char) : Streams [] (advance m fresh b outer) s := by
  have hitem : ∀ s, Streams [] (fun s => label m b s >>= begin m (b :: outer)) s := fun s =>
    (streams_label m b s).goOn fun r _ => streams_begin m (b :: outer) r
  refine Streams.first fun c r _ => ?_
  refine .ite (fun hc => ?_) fun _ => .ite (fun _ => ?_) fun _ => .ite (fun hc => ?_) fun _ =>
    .error _
  · subst hc
    exact .pure (by cases b <;> rfl) _
  · refine (hitem (c :: r)).unread fun {p r'} h => ?_
    obtain ⟨r₁, h₁, h₂⟩ := bind_eq_ok.1 h
    exact Nat.lt_of_lt_of_le (begin_length h₂) (label_length h₁)
  · subst hc
    exact (hitem r).behind rfl

/-- The rest of a value is read as a part. -/
theorem streams_complete (m : Mode) : (p : Progress) → (s : List Char) →
    Streams [] (beyond (complete m p)) s
  | .complete [], s => by
    have hstay : complete m (.complete []) = fun s => .ok s := funext complete_outside
    rw [hstay]
    exact .stay rfl
  | .complete (b :: outer), s => by
    have hstep : complete m (.complete (b :: outer)) = goOn m false b outer :=
      funext complete_inside
    rw [hstep]
    exact (streams_advance m false b outer s).bindBeyond fun p r h =>
      have := advance_length h
      streams_complete m p r
  | .opened b outer, s => by
    have hstep : complete m (.opened b outer) = goOn m true b outer := funext complete_opened
    rw [hstep]
    exact (streams_advance m true b outer s).bindBeyond fun p r h =>
      have := advance_length h
      streams_complete m p r
termination_by _ s => s.length

/-- A value of any kind is read as a part. -/
theorem streams_passValue (m : Mode) (s : List Char) : Streams [] (beyond (passValue m)) s :=
  (streams_begin m [] s).bindBeyond fun p r _ => streams_complete m p r

/-! ## Decoders of single values -/

/-- A decoder reads parts of texts, and white space alone is too little for it. -/
structure Decoder.Streams {α : Type} (d : Decoder α) : Prop where
  /-- Whatever it reads is a part. -/
  part : ∀ s : List Char, Payload.Streams [] d.run s
  /-- There is no value in white space. -/
  space : ∀ {w : List Char}, Space w → d.run w = .error .truncated

namespace Decoder

variable {α β : Type}

/-- A decoder that goes on from the first character streams if it does so from there. -/
theorem streams_of_first {d : Decoder α} {f : Char → Reader α} (hd : d.run = first f)
    (h : ∀ c r, Payload.Streams [c] (f c) r) : d.Streams where
  part s := by
    rw [hd]
    exact Payload.Streams.first fun c r _ => h c r
  space hw := by
    rw [hd]
    exact first_space hw

/-- A decoder streams if it does so before a function on its values. -/
theorem Streams.map {d : Decoder α} (h : d.Streams) (f : α → β) : (d.map f).Streams where
  part s := (h.part s).map f
  space hw := by
    simp only [Decoder.map, h.space hw]
    rfl

/-- A string streams, and anything else is refused. -/
theorem streams_quote {fault : Char → List Char → Fault} (c : Char) (s : List Char) :
    Payload.Streams [c] (fun s => if c = '"' then keptString s else .error (fault c s)) s := by
  refine .ite (fun hc => ?_) fun _ => .error (fault c)
  subst hc
  exact streams_keptString s

/-- A string streams. -/
theorem streams_string : string.Streams := streams_of_first rfl streams_quote

/-- A text streams. -/
theorem streams_text : text.Streams := streams_string.map String.ofList

/-- The name of a member streams. -/
theorem streams_memberName : memberName.Streams := streams_of_first rfl streams_quote

/-- A number streams if its value is looked at afterwards. -/
theorem streams_number : number.Streams := by
  refine streams_of_first rfl fun c r => .ite (fun hc => ?_) fun _ => .ite (fun hc => ?_) fun _ =>
    .error _
  · subst hc
    exact ((readsFigures_keptNumber true).streams_negative r).bind fun n r _ =>
      .lift rfl (toNumber n)
  · exact ((readsFigures_keptNumber false).streams_digit c r).bind fun n r _ =>
      .lift rfl (toNumber n)

/-- The literal `null` streams. -/
theorem streams_unit : unit.Streams := by
  refine streams_of_first rfl fun c r => .ite (fun hc => ?_) fun _ => .error _
  subst hc
  exact (streams_literal rfl r).tag ()

/-- The member that gives a state is read as a part. -/
theorem streams_stateMember (s : List Char) : Payload.Streams [] stateMember s := by
  have hend : ∀ (v : IssueState) (s : List Char),
      Payload.Streams [] (fun r => closeObject r >>= fun r => pure (v, r)) s :=
    fun v s => (streams_closeObject s).goOn fun r _ => .pure rfl v
  have hvalue : ∀ (v : IssueState) (s : List Char), Payload.Streams []
      (fun r => colon r >>= fun r => unit.run r >>= fun x => closeObject x.2 >>= fun r =>
        pure (v, r)) s :=
    fun v s => (streams_colon s).goOn fun r _ => (streams_unit.part r).bind fun _ r _ => hend v r
  exact (streams_memberName.part s).bind fun name r _ => .check fun v => hvalue v r

/-- A state streams. -/
theorem streams_state : state.Streams := by
  refine streams_of_first rfl fun c r => .ite (fun hc => ?_) fun _ => .ite (fun hc => ?_) fun _ =>
    .error _
  · subst hc
    exact (streams_keptString r).bind fun name r _ => .lift rfl (toState name)
  · subst hc
    exact (streams_stateMember r).behind rfl

/-- A value of any kind streams. -/
theorem streams_anything (levels : Nat) : (anything levels).Streams where
  part s := (streams_passValue (.kept levels) s).tag ()
  space hw := by
    have hbegin : begin (.kept levels) [] _ = .error .truncated := first_space hw
    simp only [anything, keptValue, passValue, hbegin]
    rfl

/-- The literal `null` is read as a value that is missing. -/
theorem optional_of_null {d : Decoder α} {s r : List Char} (h : skipSpace s = 'n' :: r) :
    d.optional.run s = (fun r => (none, r)) <$> literal ['u', 'l', 'l'] r := by
  simp only [optional, h]

/-- A text that does not begin like `null` is left to the decoder of what is not missing. -/
theorem optional_of_not_null {d : Decoder α} {s : List Char} (h : ∀ r, skipSpace s ≠ 'n' :: r) :
    d.optional.run s = (fun x => (some x.1, x.2)) <$> d.run s := by
  simp only [optional]

/-- A value that may be missing streams if one that is not does. -/
theorem Streams.optional {d : Decoder α} (h : d.Streams) : d.optional.Streams := by
  have hspace : ∀ w, Space w → d.optional.run w = .error .truncated := by
    intro w hw
    have hnil := skipSpace_space hw
    rw [optional_of_not_null (by simp [hnil]), h.space hw]
    rfl
  refine ⟨fun s => ?_, fun hw => hspace _ hw⟩
  rcases hs : skipSpace s with _ | ⟨c, s₀⟩
  · intro v r hread
    rw [hspace s (skipSpace_eq_nil.1 hs)] at hread
    cases hread
  · by_cases hc : c = 'n'
    · subst hc
      have hnull : Payload.Streams [] (first fun c => if c = 'n' then
          fun r => (fun r => (none, r)) <$> literal ['u', 'l', 'l'] r
          else fun _ => .error .malformed : Reader (Option α)) s := by
        refine Payload.Streams.first fun c r _ => ?_
        split
        · rename_i hc
          subst hc
          exact (streams_literal rfl r).tag _
        · exact .error _
      refine .of_first_char hs hnull (fun w hw => ⟨first_space hw, hspace w hw⟩) fun s' r' hs' => ?_
      rw [optional_of_null hs']
      simp only [first, hs', if_true]
    · refine .of_first_char hs ((h.part s).map some) (fun w hw => ⟨?_, hspace w hw⟩)
        fun s' r' hs' => optional_of_not_null ?_
      · rw [h.space hw]
        rfl
      · intro r₀ hr₀
        rw [hs'] at hr₀
        exact hc (List.cons.inj hr₀).1

end Decoder

/-! ## Arrays and objects -/

/-- A reader may go on from the next element of an array or from its end. -/
theorem streams_nextElement {α : Type} {stop more : Reader α} {fresh : Bool} {s : List Char}
    (hstop : ∀ r, Streams [']'] stop r) (hmore : ∀ r, r.length ≤ s.length → Streams [] more r)
    (hlt : ∀ {s r : List Char} {v : α}, more s = .ok (v, r) → r.length < s.length) :
    Streams [] (fun s => nextElement fresh s >>= fun
      | .none r => stop r
      | .some r => more r) s := by
  have hfirst : (fun s => nextElement fresh s >>= fun
      | .none r => stop r
      | .some r => more r) = first fun c => if c = ']' then stop else if fresh then
        fun r => more (c :: r) else if c = ',' then
        first fun d => if d = ']' then fun _ => .error .malformed else fun r => more (d :: r)
        else fun _ => .error .malformed := by
    funext s
    simp only [nextElement, first]
    rcases skipSpace s with _ | ⟨c, r⟩
    · rfl
    · dsimp only
      split
      · rfl
      · split
        · rfl
        · split
          · simp only [first]
            rcases skipSpace r with _ | ⟨d, r'⟩
            · rfl
            · dsimp only
              split <;> rfl
          · rfl
  rw [hfirst]
  refine Streams.first fun c r hs => ?_
  have hr := length_lt_of_skipSpace hs
  split
  · rename_i hc
    subst hc
    exact hstop r
  · split
    · exact (hmore (c :: r) hr).unread hlt
    · split
      · rename_i hc
        subst hc
        refine (Streams.first fun d r' hs' => ?_).behind rfl
        have hr' := length_lt_of_skipSpace hs'
        split
        · exact .error _
        · exact (hmore (d :: r') (by simp only [List.length_cons]; omega)).unread hlt
      · exact .error _

/-- The elements of an array are read as a part. -/
theorem streams_elements {α : Type} {d : Decoder α} (hd : d.Streams) (fresh : Bool)
    (s : List Char) : Streams [] (elements d fresh) s := by
  have hstep : elements d fresh = fun s => nextElement fresh s >>= fun
      | .none r => .ok ([], r)
      | .some r => d.run r >>= fun x => (fun y => (x.1 :: y.1, y.2)) <$> elements d false x.2 :=
    funext (elements_eq d fresh)
  rw [hstep]
  refine streams_nextElement (fun r => .pure rfl _) (fun r hr => ?_) fun {s r v} h => ?_
  · refine (hd.part r).bind (g := fun v s => (fun y => (v :: y.1, y.2)) <$> elements d false s)
      fun v r' hv => ?_
    have hlt := d.shrinks hv
    exact (streams_elements hd false r').map _
  · obtain ⟨⟨v₁, r₁⟩, hv, hrest⟩ := bind_eq_ok.1 h
    obtain ⟨⟨vs, r₂⟩, hvs, hr⟩ := map_eq_ok.1 hrest
    cases hr
    exact Nat.lt_of_le_of_lt (elements_length hvs) (d.shrinks hv)
termination_by s.length

/-- A list streams if each element does. -/
theorem Decoder.Streams.list {α : Type} {d : Decoder α} (hd : d.Streams) : d.list.Streams := by
  refine Decoder.streams_of_first rfl fun c r => .ite (fun hc => ?_) fun _ => .error _
  subst hc
  exact (streams_elements hd true r).behind rfl

/-- A reader may go on from the next member of an object or from its end. -/
theorem streams_nextMember {α : Type} {stop more : Reader α} {fresh : Bool} {s : List Char}
    (hstop : ∀ r, Streams ['\x7d'] stop r)
    (hmore : ∀ r, r.length < s.length → Streams ['"'] more r) :
    Streams [] (fun s => nextMember fresh s >>= fun
      | .none r => stop r
      | .some r => more r) s := by
  have hfirst : (fun s => nextMember fresh s >>= fun
      | .none r => stop r
      | .some r => more r) = first fun c => if c = '\x7d' then stop else if fresh then
        if c = '"' then more else fun _ => .error .malformed
        else if c = ',' then first fun d => if d = '"' then more else fun _ => .error .malformed
        else fun _ => .error .malformed := by
    funext s
    simp only [nextMember, first]
    rcases skipSpace s with _ | ⟨c, r⟩
    · rfl
    · dsimp only
      split
      · rfl
      · split
        · split <;> rfl
        · split
          · simp only [first]
            rcases skipSpace r with _ | ⟨d, r'⟩
            · rfl
            · dsimp only
              split <;> rfl
          · rfl
  rw [hfirst]
  refine Streams.first fun c r hs => ?_
  have hr := length_lt_of_skipSpace hs
  split
  · rename_i hc
    subst hc
    exact hstop r
  · split
    · split
      · rename_i hc
        subst hc
        exact hmore r hr
      · exact .error _
    · split
      · rename_i hc
        subst hc
        refine (Streams.first fun d r' hs' => ?_).behind rfl
        have hr' := length_lt_of_skipSpace hs'
        split
        · rename_i hd
          subst hd
          exact hmore r' (by omega)
        · exact .error _
      · exact .error _

section Members

variable {σ : Type} {columns : List (Column σ)}

/-- A member is read as a part from its colon on, if the fields stream. -/
theorem streams_member (hcolumns : ∀ c ∈ columns, ∀ slots, (c.fill slots).Streams) (slots : σ)
    (name s : List Char) : Streams [] (member columns slots name) s := by
  unfold member
  split
  · rename_i c hc
    split
    · exact .error _
    · exact (streams_colon s).goOn fun r _ =>
        (hcolumns c (List.mem_of_find?_eq_some hc) slots).part r
  · exact (streams_colon s).goOn fun r _ => (streams_passValue .skipped r).goOn fun r' _ =>
      .pure rfl slots

/-- The members of an object are read as a part, if the fields stream. -/
theorem streams_members (hcolumns : ∀ c ∈ columns, ∀ slots, (c.fill slots).Streams) (fresh : Bool)
    (slots : σ) (s : List Char) : Streams [] (members columns fresh slots) s := by
  have hstep : members columns fresh slots = fun s => nextMember fresh s >>= fun
      | .none r => .ok (slots, r)
      | .some r => keptString r >>= fun x => member columns slots x.1 x.2 >>= fun y =>
        members columns false y.1 y.2 := funext (members_eq columns fresh slots)
  rw [hstep]
  refine streams_nextMember (fun r => .pure rfl _) fun r hr => ?_
  refine (streams_keptString r).bind (g := fun name s => member columns slots name s >>= fun y =>
    members columns false y.1 y.2) fun name r₁ hname => ?_
  refine (streams_member hcolumns slots name r₁).bind fun slots' r₂ hmember => ?_
  have hlt := keptString_length hname
  have hlt' := member_length hmember
  exact streams_members hcolumns false slots' r₂
termination_by s.length

end Members

/-- All fields of a record stream. -/
def Fields.Streaming : Fields → Nat → Prop
  | .nil, _ => True
  | .cons _ _ s rest, depth => (s.decoder depth).Streams ∧ rest.Streaming depth

/-- The fields of an object stream as the reader sees them. -/
theorem Fields.streams_columns {depth : Nat} : (fs : Fields) → fs.Streaming depth →
    ∀ c ∈ fs.columns (fs.decoders depth), ∀ slots, (c.fill slots).Streams
  | .nil, _, c, hc, _ => nomatch hc
  | .cons name p s rest, ⟨hs, hrest⟩, c, hc, slots => by
    rcases List.mem_cons.1 hc with rfl | hc
    · exact hs.map fun v => (some v, slots.2)
    · obtain ⟨c', hc', rfl⟩ := List.mem_map.1 hc
      exact (rest.streams_columns hrest c' hc' slots.2).map _

/-- The fields that an array gives in their order are read as a part. -/
theorem Fields.streams_positional (tooShort : Nat → Fault) {depth : Nat} : (fs : Fields) →
    fs.Streaming depth → ∀ (fresh : Bool) (index : Nat) (s : List Char),
      Streams [] (fs.positional tooShort (fs.decoders depth) fresh index) s
  | .nil, _, fresh, index, s => (streams_closeArray s).tag ()
  | .cons name p shape others, ⟨hs, hothers⟩, fresh, index, s => by
    have hstep : (Fields.cons name p shape others).positional tooShort
        ((Fields.cons name p shape others).decoders depth) fresh index =
        fun s => nextElement fresh s >>= fun
      | .none r => (Fields.cons name p shape others).rest.mapError (fun n => tooShort (index + n))
        >>= fun vs => pure (vs, r)
      | .some r => (shape.decoder depth).run r >>= fun x =>
        others.positional tooShort (others.decoders depth) false (index + 1) x.2 >>= fun y =>
          pure ((x.1, y.1), y.2) := by
      funext s
      rw [Fields.decoders, Fields.positional]
      rcases nextElement fresh s with fault | ⟨r⟩ | ⟨r⟩
      · rfl
      · rcases (Fields.cons name p shape others).rest with n | vs <;> rfl
      · rfl
    rw [hstep]
    refine streams_nextElement (fun r => .lift rfl _) (fun r hr => ?_) fun {s r v} h => ?_
    · refine (hs.part r).bind (g := fun v s => others.positional tooShort (others.decoders depth)
        false (index + 1) s >>= fun y => pure ((v, y.1), y.2)) fun v r₁ _ => ?_
      exact (others.streams_positional tooShort hothers false (index + 1) r₁).bind fun vs r₂ _ =>
        .pure rfl (v, vs)
    · obtain ⟨⟨v₁, r₁⟩, hv, hrest⟩ := bind_eq_ok.1 h
      obtain ⟨⟨vs, r₂⟩, hvs, hr⟩ := bind_eq_ok.1 hrest
      cases hr
      exact Nat.lt_of_le_of_lt (Fields.positional_length hvs) ((shape.decoder depth).shrinks hv)

/-- A record streams if its fields do. -/
theorem streams_record (name : String) {fs : Fields} {depth : Nat} (h : fs.Streaming depth) :
    (Decoder.record name fs (fs.decoders depth)).Streams := by
  refine Decoder.streams_of_first rfl fun c r => .ite (fun hc => ?_) fun _ =>
    .ite (fun hc => ?_) fun _ => .error _
  · subst hc
    refine Streams.behind ?_ rfl
    exact (streams_members (fs.streams_columns h) true fs.blank r).bind fun slots r' _ =>
      .lift rfl (fs.finish slots)
  · subst hc
    exact (fs.streams_positional _ h true 0 r).behind rfl

mutual
/-- The decoder of a shape streams. -/
theorem Shape.streams : (s : Shape) → (depth : Nat) → (s.decoder depth).Streams
  | .text, _ => Decoder.streams_text
  | .number, _ => Decoder.streams_number
  | .state, _ => Decoder.streams_state
  | .anything, depth => Decoder.streams_anything (nestingLimit - depth)
  | .optional s, depth => (s.streams depth).optional
  | .list s, depth => (s.streams (depth + 1)).list
  | .record name fs, depth => streams_record name (fs.streaming (depth + 1))
/-- All fields of a record stream. -/
theorem Fields.streaming : (fs : Fields) → (depth : Nat) → fs.Streaming depth
  | .nil, _ => trivial
  | .cons _ _ s rest, depth => ⟨s.streams depth, rest.streaming depth⟩
end

end IssueSteward.Payload
