import IssueSteward.Proofs.Decoding
import IssueSteward.Proofs.Rereading

/-!
# What an accepted payload looks like

Whatever is decoded is JSON: the text of a value with white space in front
(`Decoder.Skims.valueText`), and where it is decoded as a record, the text of an object or an array
(`recordText_of_run`). So the grammar of values leaves no text out from which an event is loaded
(`recordText_of_load`).

What is decoded can be skipped, and what is skipped is a value. The reader of skipped values keeps
the open brackets in a list; the value of the innermost one that it is behind when it closes a
bracket is put together of the items before (`listed_of_goOn`).
-/

namespace IssueSteward.Payload

/-! ## What is skipped -/

/-- A value that is skipped may stand in any number of brackets. -/
theorem ValueText.anywhere {depth : Nat} {t : List Char} (h : ValueText .skipped depth t) :
    ∀ depth', ValueText .skipped depth' t := by
  induction h with
  | null => exact fun _ => .null
  | yes => exact fun _ => .yes
  | no => exact fun _ => .no
  | string h => exact fun _ => .string h
  | number h => exact fun _ => .number h
  | negative h => exact fun _ => .negative h
  | array hdepth hlist _ ih => exact fun depth' => .array hdepth hlist fun t ht => ih t ht _
  | object members hdepth hlist hspaced hname _ ih =>
    exact fun depth' => .object members hdepth hlist hspaced hname fun x hx => ih x hx _

/-- A member of an object that is skipped. -/
def Member.Skippable (x : Member) : Prop :=
  x.Spaced ∧ StringText x.name ∧ ValueText .skipped 0 x.value

/-- The opening bracket of a kind. -/
def Bracket.opening : Bracket → Char
  | .square => '['
  | .curly => '\x7b'

/-- Texts are those of the items of a bracket. -/
def Bracket.Items : Bracket → List (List Char) → Prop
  | .square, ts => ∀ t ∈ ts, ValueText .skipped 0 t
  | .curly, ts => ∃ xs : List Member, ts = xs.map Member.text ∧ ∀ x ∈ xs, x.Skippable

/-- A bracket may have no items. -/
theorem Bracket.items_nil : (b : Bracket) → b.Items []
  | .square => by simp [Items]
  | .curly => ⟨[], rfl, by simp⟩

/-- A bracket may have one more item. -/
theorem Bracket.items_cons {t : List Char} {ts : List (List Char)} : {b : Bracket} →
    b.Items [t] → b.Items ts → b.Items (t :: ts)
  | .square, ht, hts => List.forall_mem_cons.2 ⟨ht t List.mem_cons_self, hts⟩
  | .curly, ⟨xs, hxs, hx⟩, ⟨ys, hys, hy⟩ => by
    refine ⟨xs ++ ys, ?_, List.forall_mem_append.2 ⟨hx, hy⟩⟩
    rw [List.map_append, ← hxs, ← hys, List.singleton_append]

/-- A bracket of either kind is a value if its items are ones. -/
theorem Bracket.Items.valueText {b : Bracket} {ts : List (List Char)} {rest : List Char}
    (h : b.Items ts) (hlist : Listed b true ts rest) :
    ValueText .skipped 0 (b.opening :: rest) := by
  cases b with
  | square => exact .array trivial hlist fun t ht => (h t ht).anywhere 1
  | curly =>
    obtain ⟨xs, rfl, hxs⟩ := h
    exact .object xs trivial hlist (fun x hx => (hxs x hx).1) (fun x hx => (hxs x hx).2.1)
      fun x hx => (hxs x hx).2.2.anywhere 1

/-- A colon is read over with the white space in front of it. -/
theorem exists_of_colon {s r : List Char} (h : colon s = .ok r) :
    ∃ w, Space w ∧ s = w ++ ':' :: r := by
  unfold colon at h
  split at h
  · cases h
  · rename_i c r' hs
    obtain ⟨-, w, hw, rfl⟩ := skipSpace_eq_cons hs
    split at h
    · rename_i hc
      cases h
      exact ⟨w, hw, by rw [hc]⟩
    · cases h

/-- What is skipped as a number is a number. -/
theorem figureText_of_skipNumber {s r : List Char} (h : skipNumber s = .ok r) :
    ∃ t, s = t ++ r ∧ ∃ g, FigureText g t := by
  unfold skipNumber at h
  split at h
  · rename_i g r' hfigure
    cases h
    obtain ⟨t, rfl, ht, -⟩ := figure_part hfigure
    exact ⟨t, rfl, g, ht⟩
  · cases h

/-- What is skipped as a value without parts is one. -/
theorem valueText_of_leaf {c : Char} {s r : List Char}
    (h : (if c = '"' then skipString s
      else if c = 'n' then literal ['u', 'l', 'l'] s
      else if c = 't' then literal ['r', 'u', 'e'] s
      else if c = 'f' then literal ['a', 'l', 's', 'e'] s
      else if c = '-' then skipNumber s
      else if c.isDigit then skipNumber (c :: s)
      else .error .malformed) = .ok r) :
    ∃ t, c :: s = t ++ r ∧ ValueText .skipped 0 t := by
  split at h
  · rename_i hc
    subst hc
    obtain ⟨n, rfl, hn⟩ := stringText_of_skipString h
    exact ⟨quoted n, (quoted_append n r).symm, .string hn⟩
  · split at h
    · rename_i hc
      subst hc
      rw [literal_eq_ok] at h
      exact ⟨nullText, by rw [h]; rfl, .null⟩
    · split at h
      · rename_i hc
        subst hc
        rw [literal_eq_ok] at h
        exact ⟨['t', 'r', 'u', 'e'], by rw [h]; rfl, .yes⟩
      · split at h
        · rename_i hc
          subst hc
          rw [literal_eq_ok] at h
          exact ⟨['f', 'a', 'l', 's', 'e'], by rw [h]; rfl, .no⟩
        · split at h
          · rename_i hc
            subst hc
            obtain ⟨t, rfl, ht⟩ := figureText_of_skipNumber h
            exact ⟨'-' :: t, rfl, .negative ht⟩
          · split at h
            · obtain ⟨t, hsplit, ht⟩ := figureText_of_skipNumber h
              exact ⟨t, hsplit, .number ht⟩
            · cases h

/-- A text begins with a value, behind which the reader of skipped values goes on in the open
brackets. -/
def Skipped (outer : List Bracket) (s r : List Char) : Prop :=
  ∃ w t r₁, s = w ++ (t ++ r₁) ∧ Space w ∧ ValueText .skipped 0 t ∧
    complete .skipped (.complete outer) r₁ = .ok r

/-- What is left behind a value is less than there was. -/
theorem length_lt_of_valueText {w t r : List Char} (ht : ValueText .skipped 0 t) :
    r.length < (w ++ (t ++ r)).length := by
  obtain ⟨c, s, rfl, -⟩ := begins_of_valueText ht
  simp only [List.length_append, List.length_cons]
  omega

/-- An item of a bracket is the text of one, if its value is a value. -/
theorem item_of_label {b : Bracket} {outer : List Bracket} {s r : List Char}
    (hvalue : ∀ {s' : List Char}, s'.length ≤ s.length →
      passInside .skipped (b :: outer) s' = .ok r → Skipped (b :: outer) s' r)
    (h : (label .skipped b s >>= passInside .skipped (b :: outer)) = .ok r) :
    ∃ w t r₁, s = w ++ (t ++ r₁) ∧ Space w ∧ b.Items [t] ∧ r₁.length < s.length ∧
      goOn .skipped false b outer r₁ = .ok r := by
  obtain ⟨s', hlabel, hpass⟩ := bind_eq_ok.1 h
  obtain ⟨w, t, r₁, rfl, hw, ht, hrest⟩ := hvalue (label_length hlabel) hpass
  rw [complete_inside] at hrest
  have hlt : r₁.length < s.length :=
    Nat.lt_of_lt_of_le (length_lt_of_valueText ht) (label_length hlabel)
  cases b with
  | square =>
    cases hlabel
    exact ⟨w, t, r₁, rfl, hw, List.forall_mem_singleton.2 ht, hlt, hrest⟩
  | curly =>
    rcases hs : skipSpace s with _ | ⟨c, s₀⟩
    · simp only [label, hs] at hlabel
      cases hlabel
    · simp only [label, hs] at hlabel
      obtain ⟨-, w₀, hw₀, rfl⟩ := skipSpace_eq_cons hs
      split at hlabel
      · rename_i hc
        subst hc
        -- the name and the colon belong to the item, the white space behind them too
        obtain ⟨s₁, hname, hcolon⟩ := bind_eq_ok.1 hlabel
        obtain ⟨n, rfl, hn⟩ := stringText_of_skipString hname
        obtain ⟨w₁, hw₁, rfl⟩ := exists_of_colon hcolon
        refine ⟨w₀, (⟨n, w₁, w, t⟩ : Member).text, r₁, ?_, hw₀, ?_, hlt, hrest⟩
        · simp [Member.text, quoted]
        · exact ⟨[⟨n, w₁, w, t⟩], rfl, List.forall_mem_singleton.2 ⟨⟨hw₁, hw⟩, hn, ht⟩⟩
      · cases hlabel

mutual
/-- What is skipped is a value, with white space in front. -/
theorem skipped_of_passInside {outer : List Bracket} {s r : List Char}
    (h : passInside .skipped outer s = .ok r) : Skipped outer s r := by
  rcases hs : skipSpace s with _ | ⟨c, s'⟩
  · simp only [passInside, begin, hs] at h
    cases h
  obtain ⟨-, w, hw, hsplit⟩ := skipSpace_eq_cons hs
  have hlt := length_lt_of_skipSpace hs
  by_cases hsquare : c = '['
  · subst hsquare
    rw [passInside_square hs] at h
    obtain ⟨ts, rest, r₁, rfl, hlist, hts, hrest⟩ := listed_of_goOn h
    exact ⟨w, '[' :: rest, r₁, hsplit, hw, hts.valueText hlist, hrest⟩
  by_cases hcurly : c = '\x7b'
  · subst hcurly
    rw [passInside_curly hs] at h
    obtain ⟨ts, rest, r₁, rfl, hlist, hts, hrest⟩ := listed_of_goOn h
    exact ⟨w, '\x7b' :: rest, r₁, hsplit, hw, hts.valueText hlist, hrest⟩
  · obtain ⟨⟨p, r₁⟩, hbegin, hcomplete⟩ := bind_eq_ok.1 h
    simp only [begin, hs, if_neg hsquare, if_neg hcurly] at hbegin
    obtain ⟨r₂, hleaf, hp⟩ := map_eq_ok.1 hbegin
    cases hp
    obtain ⟨t, ht, hvalue⟩ := valueText_of_leaf hleaf
    exact ⟨w, t, r₁, by rw [hsplit, ht], hw, hvalue, hcomplete⟩
termination_by 2 * s.length
decreasing_by all_goals omega

/-- What is skipped inside a bracket is a list of items. -/
theorem listed_of_goOn {fresh : Bool} {b : Bracket} {outer : List Bracket} {s r : List Char}
    (h : goOn .skipped fresh b outer s = .ok r) :
    ∃ ts rest r₁, s = rest ++ r₁ ∧ Listed b fresh ts rest ∧ b.Items ts ∧
      complete .skipped (.complete outer) r₁ = .ok r := by
  rcases hs : skipSpace s with _ | ⟨c, s'⟩
  · simp only [goOn, advance, hs] at h
    cases h
  obtain ⟨-, w, hw, hsplit⟩ := skipSpace_eq_cons hs
  have hle : s'.length + 1 ≤ s.length := length_lt_of_skipSpace hs
  by_cases hclose : c = b.close
  · subst hclose
    rw [goOn_of_close hs] at h
    exact ⟨[], w ++ [b.close], s', by simpa using hsplit, .close hw, b.items_nil, h⟩
  cases fresh with
  | true =>
    -- white space before the first item is skipped in two pieces
    rw [goOn_of_first hs hclose] at h
    obtain ⟨w', t, r₁, hitem, hw', ht, hlt, hmore⟩ :=
      item_of_label (fun hless => skipped_of_passInside) h
    obtain ⟨ts, rest, r₂, hothers, hlist, hts, hrest⟩ := listed_of_goOn hmore
    refine ⟨t :: ts, [] ++ ((w ++ w') ++ (t ++ rest)), r₂, ?_,
      .item .first (List.forall_mem_append.2 ⟨hw, hw'⟩) hlist, b.items_cons ht hts, hrest⟩
    rw [hsplit, hitem, hothers]
    simp
  | false =>
    by_cases hcomma : c = ','
    · subst hcomma
      rw [goOn_of_comma hs] at h
      obtain ⟨w', t, r₁, hitem, hw', ht, hlt, hmore⟩ :=
        item_of_label (fun hless => skipped_of_passInside) h
      obtain ⟨ts, rest, r₂, hothers, hlist, hts, hrest⟩ := listed_of_goOn hmore
      refine ⟨t :: ts, (w ++ [',']) ++ (w' ++ (t ++ rest)), r₂, ?_,
        .item (.next hw) hw' hlist, b.items_cons ht hts, hrest⟩
      rw [hsplit, hitem, hothers]
      simp
    · simp only [goOn, advance, hs, if_neg hclose, if_neg hcomma, Bool.false_eq_true,
        if_false] at h
      cases h
termination_by 2 * s.length + 1
decreasing_by all_goals simp only [List.length_cons] at *; omega
end

/-! ## What is decoded -/

/-- What is decoded is a value, with white space in front. -/
theorem Decoder.Skims.valueText {α : Type} {d : Decoder α} (hd : d.Skims) {s r : List Char} {v : α}
    (h : d.run s = .ok (v, r)) : ∃ w t, s = w ++ (t ++ r) ∧ Space w ∧ ValueText .skipped 0 t := by
  have hskip := hd h []
  rw [complete_outside] at hskip
  obtain ⟨w, t, r₁, hs, hw, ht, hrest⟩ := skipped_of_passInside hskip
  rw [complete_outside] at hrest
  cases hrest
  exact ⟨w, t, hs, hw, ht⟩

/-- Where a member of an object comes next, it does so behind what leads to it. -/
theorem exists_of_nextMember {fresh : Bool} {s r : List Char}
    (h : nextMember fresh s = .ok (.some r)) :
    ∃ lead w, Lead fresh lead ∧ Space w ∧ s = lead ++ (w ++ '"' :: r) := by
  rcases lead_of_nextMember h with ⟨rfl, hs⟩ | ⟨rfl, r₀, hs, hr₀⟩
  · obtain ⟨-, w, hw, hsplit⟩ := skipSpace_eq_cons hs
    exact ⟨[], w, .first, hw, hsplit⟩
  · obtain ⟨-, w, hw, hsplit⟩ := skipSpace_eq_cons hs
    obtain ⟨-, w', hw', hsplit'⟩ := skipSpace_eq_cons hr₀
    exact ⟨w ++ [','], w', .next hw, hw', by simp [hsplit, hsplit']⟩

/-- The members of an object that is decoded are well formed. -/
theorem formed_of_members {σ : Type} {columns : List (Column σ)}
    (hcolumns : ∀ c ∈ columns, ∀ slots, (c.fill slots).Skims) {fresh : Bool} {slots slots' : σ}
    {s r : List Char} (h : members columns fresh slots s = .ok (slots', r)) :
    ∃ (xs : List Named) (rest : List Char), s = rest ++ r ∧
      Listed .curly fresh (xs.map fun x => x.2.text) rest ∧ ∀ x ∈ xs, x.Formed := by
  fun_induction members columns fresh slots s with
  | case1 => cases h
  | case2 fresh slots s r' hi =>
    cases h
    obtain ⟨-, w, hw, hsplit⟩ := skipSpace_eq_cons (close_of_nextMember hi)
    have hrest : s = w ++ [Bracket.curly.close] ++ r := by simpa [Bracket.close] using hsplit
    exact ⟨[], w ++ [Bracket.curly.close], hrest, .close hw, by simp⟩
  | case3 => cases h
  | case4 => cases h
  | case5 fresh slots s r₁ hi name r₂ hn slots₂ r₃ hm ih =>
    obtain ⟨xs, rest, rfl, hlist, hxs⟩ := ih h
    obtain ⟨lead, w, hlead, hw, rfl⟩ := exists_of_nextMember hi
    obtain ⟨n, rfl, hname⟩ := spelling_of_keptString hn
    obtain ⟨r₀, hcolon⟩ := exists_colon hm
    obtain ⟨before, hbefore, rfl⟩ := exists_of_colon hcolon
    -- the value is one that could be skipped
    have hskip : passInside .skipped [] r₀ = .ok (rest ++ r) :=
      (skims_member hcolumns hm hcolon).trans (complete_outside _)
    obtain ⟨after, t, r₄, rfl, hafter, ht, hrest⟩ := skipped_of_passInside hskip
    rw [complete_outside] at hrest
    cases hrest
    refine ⟨(name, ⟨n, before, after, t⟩) :: xs, lead ++ (w ++ (_ ++ rest)), ?_,
      .item hlead hw hlist, List.forall_mem_cons.2 ⟨⟨⟨hbefore, hafter⟩, hname, ht⟩, hxs⟩⟩
    simp [Member.text, quoted]

/-- A text is an object with the given members. -/
inductive ObjectText (xs : List Named) : List Char → Prop
  /-- The members stand between brackets, with commas and white space between them. -/
  | mk {rest : List Char} (hlist : Listed .curly true (xs.map fun x => x.2.text) rest)
      (hmember : ∀ x ∈ xs, x.Formed) : ObjectText xs ('\x7b' :: rest)

/-- A text is an array of the given elements. -/
inductive ArrayText (ts : List (List Char)) : List Char → Prop
  /-- The elements stand between brackets, with commas and white space between them. -/
  | mk {rest : List Char} (hlist : Listed .square true ts rest)
      (helement : ∀ t ∈ ts, ValueText .skipped 0 t) : ArrayText ts ('[' :: rest)

/-- A text is an object or an array, as one that stands for a record. -/
inductive RecordText (t : List Char) : Prop
  /-- It is an object. -/
  | object {xs : List Named} (h : ObjectText xs t)
  /-- It is an array. -/
  | array {ts : List (List Char)} (h : ArrayText ts t)

namespace RecordText

variable {t : List Char}

/-- The text begins with its opening bracket. -/
theorem head (h : RecordText t) : ∃ c r, t = c :: r ∧ isSpace c = false ∧ c ≠ 'n' := by
  rcases h with ⟨⟨-, -⟩⟩ | ⟨⟨-, -⟩⟩ <;> exact ⟨_, _, rfl, by decide, by decide⟩

/-- The text is that of a value. -/
theorem valueText (h : RecordText t) : ValueText .skipped 0 t := by
  rcases h with @⟨xs, ⟨hlist, hxs⟩⟩ | ⟨⟨hlist, hts⟩⟩
  · have hmember : ∀ {p : Member → Prop}, (∀ x : Named, x.Formed → p x.2) →
        ∀ y ∈ xs.map Prod.snd, p y := by
      intro p hp y hy
      obtain ⟨x, hx, rfl⟩ := List.mem_map.1 hy
      exact hp x (hxs x hx)
    refine .object (xs.map Prod.snd) trivial (by rwa [List.map_map]) ?_ ?_ ?_
    · exact hmember fun x hx => hx.spaced
    · exact hmember fun x hx => hx.name.stringText
    · exact hmember fun x hx => hx.value.anywhere 1
  · exact .array trivial hlist fun t ht => (hts t ht).anywhere 1

end RecordText

/-- What is decoded as a record is an object or an array, with white space in front. -/
theorem recordText_of_run {name : String} {fs : Fields} {depth : Nat} {vs : fs.Values}
    {s r : List Char} (h : (Decoder.record name fs (fs.decoders depth)).run s = .ok (vs, r)) :
    ∃ w t, s = w ++ (t ++ r) ∧ Space w ∧ RecordText t := by
  obtain ⟨c, s', hs, hread⟩ := Decoder.exists_of_first h
  obtain ⟨-, w, hw, rfl⟩ := skipSpace_eq_cons hs
  split at hread
  · rename_i hc
    subst hc
    obtain ⟨⟨slots, r'⟩, hmembers, hfinish⟩ := bind_eq_ok.1 hread
    obtain ⟨vs', -, hr⟩ := bind_eq_ok.1 hfinish
    cases hr
    obtain ⟨xs, rest, rfl, hlist, hxs⟩ :=
      formed_of_members (fs.skims_columns (fs.skimming depth)) hmembers
    exact ⟨w, '\x7b' :: rest, rfl, hw, .object ⟨hlist, hxs⟩⟩
  · split at hread
    · rename_i hc
      subst hc
      have hskip : goOn .skipped true .square [] s' = .ok r :=
        (fs.skims_positional (fs.skimming depth) hread).trans (complete_outside r)
      obtain ⟨ts, rest, r₁, rfl, hlist, hts, hrest⟩ := listed_of_goOn hskip
      rw [complete_outside] at hrest
      cases hrest
      exact ⟨w, '[' :: rest, rfl, hw, .array ⟨hlist, hts⟩⟩
    · cases hread

/-- What an event is loaded from is an object or an array, with white space around it. -/
theorem recordText_of_load {α : Type} {f : Format α} {event : α} {text : String}
    (h : load f (some text.toUTF8) = .ok event) :
    ∃ w t w', text.toList = w ++ (t ++ w') ∧ Space w ∧ Space w' ∧ RecordText t := by
  obtain ⟨values, hvalues, -⟩ := exists_of_load h
  obtain ⟨r, hread, hr⟩ := Shape.decode_eq_ok.1 hvalues
  obtain ⟨w, t, htext, hw, ht⟩ := recordText_of_run hread
  exact ⟨w, t, r, htext, hw, hr, ht⟩

end IssueSteward.Payload
