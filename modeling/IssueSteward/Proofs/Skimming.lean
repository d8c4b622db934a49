import IssueSteward.Proofs.StreamedShapes

/-!
# Whatever is decoded can be skipped

A decoder leaves of a text what is left when the value is skipped, inside whatever brackets
(`Shape.skims`). So it reads a value to the same end as the grammar of values tells
(`Decoder.Skims.rest_eq`), although it looks for something more special than any value.
-/

namespace IssueSteward.Payload

variable {m : Mode} {outer : List Bracket} {s r r₀ : List Char}

/-! ## Single values -/

/-- A string that is kept can be skipped. -/
theorem skipString_of_keptString {v : List Char} (h : keptString s = .ok (v, r)) :
    skipString s = .ok r := by
  obtain ⟨n, rfl, hn⟩ := spelling_of_keptString h
  exact skipString_of_stringText hn.stringText r

/-- A number that is kept can be skipped. -/
theorem skipNumber_of_keptNumber {minus : Bool} {n : Number} (h : keptNumber minus s = .ok (n, r)) :
    skipNumber s = .ok r := by
  obtain ⟨⟨g, r'⟩, hfigure, hvalue⟩ := bind_eq_ok.1 h
  dsimp only at hvalue
  split at hvalue
  · cases hvalue
    rw [skipNumber, hfigure]
  · cases hvalue

/-- What is passed over in a mode can be skipped as a string. -/
theorem Mode.skips_string (h : m.string s = .ok r) : skipString s = .ok r := by
  cases m with
  | skipped => exact h
  | kept levels =>
    obtain ⟨⟨v, r'⟩, hkept, rfl⟩ := map_eq_ok.1 h
    exact skipString_of_keptString hkept

/-- What is passed over in a mode can be skipped as a number. -/
theorem Mode.skips_number {minus : Bool} (h : m.number minus s = .ok r) : skipNumber s = .ok r := by
  cases m with
  | skipped => exact h
  | kept levels =>
    obtain ⟨⟨v, r'⟩, hkept, rfl⟩ := map_eq_ok.1 h
    exact skipNumber_of_keptNumber hkept

/-- A string is skipped inside brackets. -/
theorem passInside_string (hs : skipSpace s = '"' :: r₀) (h : skipString r₀ = .ok r) :
    passInside .skipped outer s = complete .skipped (.complete outer) r := by
  simp [passInside, begin, hs, Mode.string, h, bind, Except.bind, Functor.map, Except.map]

/-- The literal `null` is skipped inside brackets. -/
theorem passInside_null (hs : skipSpace s = 'n' :: r₀) (h : literal ['u', 'l', 'l'] r₀ = .ok r) :
    passInside .skipped outer s = complete .skipped (.complete outer) r := by
  simp [passInside, begin, hs, h, bind, Except.bind, Functor.map, Except.map]

/-- A number with a sign is skipped inside brackets. -/
theorem passInside_negative (hs : skipSpace s = '-' :: r₀) (h : skipNumber r₀ = .ok r) :
    passInside .skipped outer s = complete .skipped (.complete outer) r := by
  simp [passInside, begin, hs, Mode.number, h, bind, Except.bind, Functor.map, Except.map]

/-- A number without a sign is skipped inside brackets. -/
theorem passInside_digit {c : Char} (hs : skipSpace s = c :: r₀) (hc : c.isDigit = true)
    (h : skipNumber (c :: r₀) = .ok r) :
    passInside .skipped outer s = complete .skipped (.complete outer) r := by
  obtain ⟨-, -, hsquare, hcurly, hquote, hn, ht, hf, hminus⟩ := digit_ne hc
  simp [passInside, begin, hs, hsquare, hcurly, hquote, hn, ht, hf, hminus, hc, Mode.number, h,
    bind, Except.bind, Functor.map, Except.map]

/-- The reader goes on in an array that is opened inside brackets. -/
theorem passInside_square (hs : skipSpace s = '[' :: r₀) :
    passInside .skipped outer s = goOn .skipped true .square outer r₀ := by
  rw [← complete_opened]
  simp [passInside, begin, hs, Mode.admits, bind, Except.bind]

/-- The reader goes on in an object that is opened inside brackets. -/
theorem passInside_curly (hs : skipSpace s = '\x7b' :: r₀) :
    passInside .skipped outer s = goOn .skipped true .curly outer r₀ := by
  rw [← complete_opened]
  simp [passInside, begin, hs, Mode.admits, bind, Except.bind]

/-! ## Values of any kind -/

/-- How far a value is read, inside further brackets. -/
def Progress.within (outer : List Bracket) : Progress → Progress
  | .complete inner => .complete (inner ++ outer)
  | .opened b inner => .opened b (inner ++ outer)

/-- A value without parts that is passed over in a mode can be skipped. -/
theorem leaf_skipped {c : Char} {s : List Char}
    (h : (if c = '"' then m.string s
      else if c = 'n' then literal ['u', 'l', 'l'] s
      else if c = 't' then literal ['r', 'u', 'e'] s
      else if c = 'f' then literal ['a', 'l', 's', 'e'] s
      else if c = '-' then m.number true s
      else if c.isDigit then m.number false (c :: s)
      else .error .malformed) = .ok r) :
    (if c = '"' then Mode.skipped.string s
      else if c = 'n' then literal ['u', 'l', 'l'] s
      else if c = 't' then literal ['r', 'u', 'e'] s
      else if c = 'f' then literal ['a', 'l', 's', 'e'] s
      else if c = '-' then Mode.skipped.number true s
      else if c.isDigit then Mode.skipped.number false (c :: s)
      else .error .malformed) = .ok r := by
  by_cases hquote : c = '"'
  · rw [if_pos hquote] at h ⊢
    exact Mode.skips_string h
  rw [if_neg hquote] at h ⊢
  by_cases hn : c = 'n'
  · rwa [if_pos hn] at h ⊢
  rw [if_neg hn] at h ⊢
  by_cases ht : c = 't'
  · rwa [if_pos ht] at h ⊢
  rw [if_neg ht] at h ⊢
  by_cases hf : c = 'f'
  · rwa [if_pos hf] at h ⊢
  rw [if_neg hf] at h ⊢
  by_cases hminus : c = '-'
  · rw [if_pos hminus] at h ⊢
    exact Mode.skips_number h
  rw [if_neg hminus] at h ⊢
  by_cases hdigit : c.isDigit = true
  · rw [if_pos hdigit] at h ⊢
    exact Mode.skips_number h
  · rw [if_neg hdigit] at h
    cases h

/-- The beginning of a value can be skipped inside further brackets. -/
theorem begin_within {inner : List Bracket} {p : Progress} (h : begin m inner s = .ok (p, r)) :
    begin .skipped (inner ++ outer) s = .ok (p.within outer, r) := by
  rcases hs : skipSpace s with _ | ⟨c, s'⟩
  · simp only [begin, hs] at h
    cases h
  simp only [begin, hs] at h ⊢
  by_cases hsquare : c = '['
  · rw [if_pos hsquare] at h ⊢
    split at h <;> cases h
    rfl
  rw [if_neg hsquare] at h ⊢
  by_cases hcurly : c = '\x7b'
  · rw [if_pos hcurly] at h ⊢
    split at h <;> cases h
    rfl
  rw [if_neg hcurly] at h ⊢
  obtain ⟨r', hleaf, hr⟩ := map_eq_ok.1 h
  cases hr
  rw [leaf_skipped hleaf]
  rfl

/-- What precedes the value of an item can be skipped. -/
theorem label_skipped {b : Bracket} (h : label m b s = .ok r) : label .skipped b s = .ok r := by
  cases b with
  | square => exact h
  | curly =>
    rcases hs : skipSpace s with _ | ⟨c, s'⟩
    · simp only [label, hs] at h
      cases h
    simp only [label, hs] at h ⊢
    by_cases hquote : c = '"'
    · rw [if_pos hquote] at h ⊢
      obtain ⟨r', hname, hcolon⟩ := bind_eq_ok.1 h
      exact bind_eq_ok.2 ⟨r', Mode.skips_string hname, hcolon⟩
    · rw [if_neg hquote] at h
      cases h

/-- The next step inside a bracket can be skipped inside further brackets. -/
theorem advance_within {fresh : Bool} {b : Bracket} {inner : List Bracket} {p : Progress}
    (h : advance m fresh b inner s = .ok (p, r)) :
    advance .skipped fresh b (inner ++ outer) s = .ok (p.within outer, r) := by
  have hitem : ∀ {s : List Char}, (label m b s >>= begin m (b :: inner)) = .ok (p, r) →
      (label .skipped b s >>= begin .skipped (b :: (inner ++ outer))) =
        .ok (p.within outer, r) := by
    intro s h
    obtain ⟨r', hlabel, hbegin⟩ := bind_eq_ok.1 h
    have hwithin : begin .skipped (b :: inner ++ outer) r' = .ok (p.within outer, r) :=
      begin_within hbegin
    exact bind_eq_ok.2 ⟨r', label_skipped hlabel, hwithin⟩
  rcases hs : skipSpace s with _ | ⟨c, s'⟩
  · simp only [advance, hs] at h
    cases h
  simp only [advance, hs] at h ⊢
  by_cases hclose : c = b.close
  · rw [if_pos hclose] at h ⊢
    cases h
    rfl
  rw [if_neg hclose] at h ⊢
  by_cases hfresh : fresh = true
  · rw [if_pos hfresh] at h ⊢
    exact hitem h
  rw [if_neg hfresh] at h ⊢
  by_cases hcomma : c = ','
  · rw [if_pos hcomma] at h ⊢
    exact hitem h
  · rw [if_neg hcomma] at h
    cases h

/-- The rest of a value can be skipped inside further brackets. -/
theorem complete_within {p : Progress} (h : complete m p s = .ok r) :
    complete .skipped (p.within outer) s = complete .skipped (.complete outer) r := by
  fun_induction complete m p s with
  | case1 s =>
    cases h
    rfl
  | case2 s b inner p' r' ha ih =>
    rw [Progress.within, List.cons_append, complete_inside, goOn, advance_within ha]
    exact ih h
  | case3 => cases h
  | case4 s b inner p' r' ha ih =>
    rw [Progress.within, complete_opened, goOn, advance_within ha]
    exact ih h
  | case5 => cases h

/-- A value that is passed over in no bracket can be skipped inside brackets. -/
theorem passInside_of_passValue (h : passValue m s = .ok r) :
    passInside .skipped outer s = complete .skipped (.complete outer) r := by
  obtain ⟨⟨p, r'⟩, hbegin, hcomplete⟩ := bind_eq_ok.1 h
  have hwithin : begin .skipped ([] ++ outer) s = .ok (p.within outer, r') := begin_within hbegin
  rw [List.nil_append] at hwithin
  simp only [passInside, hwithin, bind, Except.bind, complete_within hcomplete]

/-! ## Decoders -/

/-- A decoder leaves of a text what is left when the value is skipped, whatever brackets are open
around it. -/
def Decoder.Skims {α : Type} (d : Decoder α) : Prop :=
  ∀ ⦃s r : List Char⦄ ⦃v : α⦄, d.run s = .ok (v, r) → ∀ outer : List Bracket,
    passInside .skipped outer s = complete .skipped (.complete outer) r

namespace Decoder

variable {α β : Type}

/-- A decoder that goes on from the first character succeeds only there. -/
theorem exists_of_first {f : Char → Reader α} {v : α} (h : first f s = .ok (v, r)) :
    ∃ c r₀, skipSpace s = c :: r₀ ∧ f c r₀ = .ok (v, r) := by
  unfold first at h
  split at h
  · cases h
  · exact ⟨_, _, ‹_›, h⟩

/-- A function on the values does not change what is left. -/
theorem Skims.map {d : Decoder α} (h : d.Skims) (f : α → β) : (d.map f).Skims := by
  intro s r v hread outer
  obtain ⟨⟨v', r'⟩, hd, hr⟩ := map_eq_ok.1 hread
  cases hr
  exact h hd outer

/-- A string that is decoded can be skipped. -/
theorem skims_string : string.Skims := by
  intro s r v h outer
  obtain ⟨c, r₀, hs, hread⟩ := exists_of_first h
  split at hread
  · rename_i hc
    subst hc
    exact passInside_string hs (skipString_of_keptString hread)
  · cases hread

/-- A number that is decoded can be skipped. -/
theorem skims_number : number.Skims := by
  intro s r v h outer
  obtain ⟨c, r₀, hs, hread⟩ := exists_of_first h
  split at hread
  · rename_i hc
    subst hc
    obtain ⟨⟨n, r'⟩, hn, hvalue⟩ := bind_eq_ok.1 hread
    obtain ⟨u, -, hr⟩ := bind_eq_ok.1 hvalue
    cases hr
    exact passInside_negative hs (skipNumber_of_keptNumber hn)
  · split at hread
    · rename_i hc
      obtain ⟨⟨n, r'⟩, hn, hvalue⟩ := bind_eq_ok.1 hread
      obtain ⟨u, -, hr⟩ := bind_eq_ok.1 hvalue
      cases hr
      exact passInside_digit hs hc (skipNumber_of_keptNumber hn)
    · cases hread

/-- The literal `null` can be skipped. -/
theorem skims_unit : unit.Skims := by
  intro s r v h outer
  obtain ⟨c, r₀, hs, hread⟩ := exists_of_first h
  split at hread
  · rename_i hc
    subst hc
    obtain ⟨r', hliteral, hr⟩ := map_eq_ok.1 hread
    cases hr
    exact passInside_null hs hliteral
  · cases hread

/-- A value of any kind can be skipped. -/
theorem skims_anything (levels : Nat) : (anything levels).Skims := by
  intro s r v h outer
  obtain ⟨r', hpass, hr⟩ := map_eq_ok.1 h
  cases hr
  exact passInside_of_passValue hpass

/-- A value that may be missing can be skipped if one that is not can. -/
theorem Skims.optional {d : Decoder α} (h : d.Skims) : d.optional.Skims := by
  intro s r v hread outer
  by_cases hnull : ∃ r₀, skipSpace s = 'n' :: r₀
  · obtain ⟨r₀, hs⟩ := hnull
    rw [optional_of_null hs] at hread
    obtain ⟨r', hliteral, hr⟩ := map_eq_ok.1 hread
    cases hr
    exact passInside_null hs hliteral
  · rw [optional_of_not_null fun r₀ hs => hnull ⟨r₀, hs⟩] at hread
    obtain ⟨⟨v', r'⟩, hd, hr⟩ := map_eq_ok.1 hread
    cases hr
    exact h hd outer

end Decoder

/-! ## Items -/

/-- What is left behind white space has none in front. -/
theorem skipSpace_of_cons {c : Char} (hs : skipSpace s = c :: r) : skipSpace (c :: r) = c :: r := by
  obtain ⟨hc, -⟩ := skipSpace_eq_cons hs
  exact skipSpace_append (w := []) (by simp [Space]) hc

/-- A value is skipped from behind the white space in front of it on. -/
theorem passInside_of_cons {c : Char} (hs : skipSpace s = c :: r) :
    passInside m outer s = passInside m outer (c :: r) := by
  simp only [passInside, begin, hs, skipSpace_of_cons hs]

/-- A bracket is closed where its closing sign comes next. -/
theorem goOn_of_close {fresh : Bool} {b : Bracket} (hs : skipSpace s = b.close :: r) :
    goOn m fresh b outer s = complete m (.complete outer) r := by
  obtain ⟨-, w, hw, rfl⟩ := skipSpace_eq_cons hs
  exact goOn_close hw r

/-- The first item of a bracket follows at once. -/
theorem goOn_of_first {b : Bracket} {c : Char} (hs : skipSpace s = c :: r) (hc : c ≠ b.close) :
    goOn m true b outer s = (label m b (c :: r) >>= passInside m (b :: outer)) := by
  simp only [goOn, advance, hs, if_neg hc, if_true]
  rcases label m b (c :: r) with _ | _ <;> rfl

/-- Any other item of a bracket follows a comma. -/
theorem goOn_of_comma {b : Bracket} (hs : skipSpace s = ',' :: r) :
    goOn m false b outer s = (label m b r >>= passInside m (b :: outer)) := by
  have hcomma : (',' : Char) ≠ b.close := by cases b <;> decide
  simp only [goOn, advance, hs, if_neg hcomma, if_true, Bool.false_eq_true, if_false]
  rcases label m b r with _ | _ <;> rfl

/-- Where an array ends, its closing bracket comes next. -/
theorem close_of_nextElement {fresh : Bool} (h : nextElement fresh s = .ok (.none r)) :
    skipSpace s = ']' :: r := by
  rcases hs : skipSpace s with _ | ⟨c, r₀⟩
  · simp only [nextElement, hs] at h
    cases h
  simp only [nextElement, hs] at h
  split at h
  · rename_i hc
    cases h
    rw [hc]
  · split at h
    · cases h
    · split at h
      · split at h
        · cases h
        · split at h <;> cases h
      · cases h

/-- Where an element of an array comes next, it does so at once or after a comma. -/
theorem lead_of_nextElement {fresh : Bool} (h : nextElement fresh s = .ok (.some r)) :
    ∃ c r', r = c :: r' ∧ c ≠ ']' ∧
      (fresh = true ∧ skipSpace s = r ∨
        fresh = false ∧ ∃ r₀, skipSpace s = ',' :: r₀ ∧ skipSpace r₀ = r) := by
  rcases hs : skipSpace s with _ | ⟨c, r₀⟩
  · simp only [nextElement, hs] at h
    cases h
  simp only [nextElement, hs] at h
  split at h
  · cases h
  · rename_i hc
    split at h
    · rename_i hfresh
      cases h
      exact ⟨c, r₀, rfl, hc, .inl ⟨hfresh, rfl⟩⟩
    · rename_i hfresh
      split at h
      · rename_i hcomma
        split at h
        · cases h
        · rename_i d r' hr₀
          split at h
          · cases h
          · rename_i hd
            cases h
            subst hcomma
            exact ⟨d, r', rfl, hd, .inr ⟨by simpa using hfresh, r₀, rfl, hr₀⟩⟩
      · cases h

/-- The next element of an array is where that of a skipped one is. -/
theorem goOn_of_nextElement {fresh : Bool} (h : nextElement fresh s = .ok (.some r)) :
    goOn m fresh .square outer s = passInside m (.square :: outer) r := by
  obtain ⟨c, r', rfl, hc, ⟨rfl, hs⟩ | ⟨rfl, r₀, hs, hr₀⟩⟩ := lead_of_nextElement h
  · exact goOn_of_first hs hc
  · exact (goOn_of_comma hs).trans (passInside_of_cons hr₀)

/-- Elements that are decoded can be skipped. -/
theorem skims_elements {α : Type} {d : Decoder α} (hd : d.Skims) {fresh : Bool} {vs : List α}
    (h : elements d fresh s = .ok (vs, r)) :
    goOn .skipped fresh .square outer s = complete .skipped (.complete outer) r := by
  fun_induction elements d fresh s generalizing vs with
  | case1 => cases h
  | case2 fresh s r' hi =>
    cases h
    exact goOn_of_close (close_of_nextElement hi)
  | case3 => cases h
  | case4 fresh s r₁ hi v r₂ hv ih =>
    obtain ⟨⟨vs', r'⟩, he, hr⟩ := map_eq_ok.1 h
    cases hr
    calc goOn .skipped fresh .square outer s
        = passInside .skipped (.square :: outer) r₁ := goOn_of_nextElement hi
      _ = complete .skipped (.complete (.square :: outer)) r₂ := hd hv _
      _ = goOn .skipped false .square outer r₂ := complete_inside r₂
      _ = complete .skipped (.complete outer) r' := ih he

/-- A list that is decoded can be skipped. -/
theorem Decoder.Skims.list {α : Type} {d : Decoder α} (hd : d.Skims) : d.list.Skims := by
  intro s r v h outer
  obtain ⟨c, r₀, hs, hread⟩ := exists_of_first h
  split at hread
  · rename_i hc
    subst hc
    rw [passInside_square hs]
    exact skims_elements hd hread
  · cases hread

/-- Where an object ends, its closing bracket comes next. -/
theorem close_of_nextMember {fresh : Bool} (h : nextMember fresh s = .ok (.none r)) :
    skipSpace s = '\x7d' :: r := by
  rcases hs : skipSpace s with _ | ⟨c, r₀⟩
  · simp only [nextMember, hs] at h
    cases h
  simp only [nextMember, hs] at h
  split at h
  · rename_i hc
    cases h
    rw [hc]
  · split at h
    · split at h <;> cases h
    · split at h
      · split at h
        · cases h
        · split at h <;> cases h
      · cases h

/-- Where a member of an object comes next, its name does so at once or after a comma. -/
theorem lead_of_nextMember {fresh : Bool} (h : nextMember fresh s = .ok (.some r)) :
    fresh = true ∧ skipSpace s = '"' :: r ∨
      fresh = false ∧ ∃ r₀, skipSpace s = ',' :: r₀ ∧ skipSpace r₀ = '"' :: r := by
  rcases hs : skipSpace s with _ | ⟨c, r₀⟩
  · simp only [nextMember, hs] at h
    cases h
  simp only [nextMember, hs] at h
  split at h
  · cases h
  · split at h
    · rename_i hfresh
      split at h
      · rename_i hc
        cases h
        exact .inl ⟨hfresh, by rw [hc]⟩
      · cases h
    · rename_i hfresh
      split at h
      · rename_i hcomma
        split at h
        · cases h
        · rename_i d r' hr₀
          split at h
          · rename_i hd
            cases h
            subst hcomma hd
            exact .inr ⟨by simpa using hfresh, r₀, rfl, hr₀⟩
          · cases h
      · cases h

/-- The name of a member and the colon behind it are what precedes the value. -/
theorem label_of_quote {r₁ r₂ : List Char} (hs : skipSpace s = '"' :: r)
    (hname : skipString r = .ok r₁) (hcolon : colon r₁ = .ok r₂) :
    label .skipped .curly s = .ok r₂ := by
  simp only [label, hs, if_true, Mode.string, hname, hcolon, bind, Except.bind]

/-- The value of the next member of an object is where that of a skipped one is. -/
theorem goOn_of_nextMember {fresh : Bool} {r₁ r₂ : List Char}
    (h : nextMember fresh s = .ok (.some r)) (hname : skipString r = .ok r₁)
    (hcolon : colon r₁ = .ok r₂) :
    goOn .skipped fresh .curly outer s = passInside .skipped (.curly :: outer) r₂ := by
  rcases lead_of_nextMember h with ⟨rfl, hs⟩ | ⟨rfl, r₀, hs, hr₀⟩
  · rw [goOn_of_first hs (by decide), label_of_quote (skipSpace_of_cons hs) hname hcolon]
    rfl
  · rw [goOn_of_comma hs, label_of_quote hr₀ hname hcolon]
    rfl

section Members

variable {σ : Type} {columns : List (Column σ)}

/-- A member that is read can be skipped, if the fields can. -/
theorem skims_member (hcolumns : ∀ c ∈ columns, ∀ slots, (c.fill slots).Skims) {slots slots' : σ}
    {name r₀ : List Char} (h : member columns slots name s = .ok (slots', r))
    (hcolon : colon s = .ok r₀) :
    passInside .skipped outer r₀ = complete .skipped (.complete outer) r := by
  unfold member at h
  split at h
  · rename_i c hc
    split at h
    · cases h
    · rw [hcolon] at h
      exact hcolumns c (List.mem_of_find?_eq_some hc) slots h outer
  · obtain ⟨r', hcolon', hrest⟩ := bind_eq_ok.1 h
    obtain ⟨r'', hskip, hr⟩ := bind_eq_ok.1 hrest
    cases hr
    rw [hcolon] at hcolon'
    cases hcolon'
    exact passInside_of_passValue hskip

/-- A member that is read has a colon. -/
theorem exists_colon {slots slots' : σ} {name : List Char}
    (h : member columns slots name s = .ok (slots', r)) : ∃ r₀, colon s = .ok r₀ := by
  unfold member at h
  split at h
  · split at h
    · cases h
    · obtain ⟨r₀, hcolon, -⟩ := bind_eq_ok.1 h
      exact ⟨r₀, hcolon⟩
  · obtain ⟨r₀, hcolon, -⟩ := bind_eq_ok.1 h
    exact ⟨r₀, hcolon⟩

/-- Members that are read can be skipped, if the fields can. -/
theorem skims_members (hcolumns : ∀ c ∈ columns, ∀ slots, (c.fill slots).Skims) {fresh : Bool}
    {slots slots' : σ} (h : members columns fresh slots s = .ok (slots', r)) :
    goOn .skipped fresh .curly outer s = complete .skipped (.complete outer) r := by
  fun_induction members columns fresh slots s with
  | case1 => cases h
  | case2 fresh slots s r' hi =>
    cases h
    exact goOn_of_close (close_of_nextMember hi)
  | case3 => cases h
  | case4 => cases h
  | case5 fresh slots s r₁ hi name r₂ hn slots₂ r₃ hm ih =>
    obtain ⟨r₀, hcolon⟩ := exists_colon hm
    calc goOn .skipped fresh .curly outer s
        = passInside .skipped (.curly :: outer) r₀ :=
          goOn_of_nextMember hi (skipString_of_keptString hn) hcolon
      _ = complete .skipped (.complete (.curly :: outer)) r₃ := skims_member hcolumns hm hcolon
      _ = goOn .skipped false .curly outer r₃ := complete_inside r₃
      _ = complete .skipped (.complete outer) r := ih h

end Members

/-! ## Shapes -/

/-- The end of an object is its closing bracket. -/
theorem close_of_closeObject (h : Decoder.closeObject s = .ok r) : skipSpace s = '\x7d' :: r := by
  unfold Decoder.closeObject at h
  split at h
  · cases h
  · split at h
    · rename_i hs hc
      cases h
      rw [hs, hc]
    · cases h

/-- The end of an array is its closing bracket. -/
theorem close_of_closeArray (h : closeArray s = .ok r) : skipSpace s = ']' :: r := by
  unfold closeArray at h
  split at h
  · cases h
  · split at h
    · rename_i hs hc
      cases h
      rw [hs, hc]
    · cases h

/-- A state that is decoded can be skipped. -/
theorem Decoder.skims_state : Decoder.state.Skims := by
  intro s r v h outer
  obtain ⟨c, r₀, hs, hread⟩ := exists_of_first h
  split at hread
  · rename_i hc
    subst hc
    obtain ⟨⟨name, r'⟩, hname, hvalue⟩ := bind_eq_ok.1 hread
    obtain ⟨u, -, hr⟩ := bind_eq_ok.1 hvalue
    cases hr
    exact passInside_string hs (skipString_of_keptString hname)
  · split at hread
    · rename_i hc
      subst hc
      -- the only member, with its name, its colon, its value and the end of the object
      obtain ⟨⟨name, r₁⟩, hname, h₁⟩ := bind_eq_ok.1 hread
      obtain ⟨u, -, h₂⟩ := bind_eq_ok.1 h₁
      obtain ⟨r₂, hcolon, h₃⟩ := bind_eq_ok.1 h₂
      obtain ⟨⟨_, r₃⟩, hunit, h₄⟩ := bind_eq_ok.1 h₃
      obtain ⟨r₄, hclose, hr⟩ := bind_eq_ok.1 h₄
      cases hr
      obtain ⟨c, r', hr₀, hkept⟩ := exists_of_first hname
      split at hkept
      · rename_i hc
        subst hc
        have hlabel : label .skipped .curly ('"' :: r') = .ok r₂ :=
          label_of_quote (skipSpace_of_cons hr₀) (skipString_of_keptString hkept) hcolon
        calc passInside .skipped outer s
            = goOn .skipped true .curly outer r₀ := passInside_curly hs
          _ = passInside .skipped (.curly :: outer) r₂ := by
            rw [goOn_of_first hr₀ (by decide), hlabel]
            rfl
          _ = complete .skipped (.complete (.curly :: outer)) r₃ := skims_unit hunit _
          _ = goOn .skipped false .curly outer r₃ := complete_inside r₃
          _ = complete .skipped (.complete outer) r := goOn_of_close (close_of_closeObject hclose)
      · cases hkept
    · cases hread

/-- All fields of a record can be skipped. -/
def Fields.Skimming : Fields → Nat → Prop
  | .nil, _ => True
  | .cons _ _ s rest, depth => (s.decoder depth).Skims ∧ rest.Skimming depth

/-- The fields of an object can be skipped as the reader sees them. -/
theorem Fields.skims_columns {depth : Nat} : (fs : Fields) → fs.Skimming depth →
    ∀ c ∈ fs.columns (fs.decoders depth), ∀ slots, (c.fill slots).Skims
  | .nil, _, c, hc, _ => nomatch hc
  | .cons name p s rest, ⟨hs, hrest⟩, c, hc, slots => by
    rcases List.mem_cons.1 hc with rfl | hc
    · exact hs.map fun v => (some v, slots.2)
    · obtain ⟨c', hc', rfl⟩ := List.mem_map.1 hc
      exact (rest.skims_columns hrest c' hc' slots.2).map _

/-- The fields that an array gives in their order can be skipped. -/
theorem Fields.skims_positional {tooShort : Nat → Fault} {depth : Nat} : (fs : Fields) →
    fs.Skimming depth → ∀ {fresh : Bool} {index : Nat} {s r : List Char} {vs : fs.Values},
      fs.positional tooShort (fs.decoders depth) fresh index s = .ok (vs, r) →
      goOn .skipped fresh .square outer s = complete .skipped (.complete outer) r
  | .nil, _, fresh, index, s, r, vs, h => by
    obtain ⟨r', hclose, hr⟩ := map_eq_ok.1 h
    cases hr
    exact goOn_of_close (close_of_closeArray hclose)
  | .cons name p shape others, ⟨hs, hothers⟩, fresh, index, s, r, vs, h => by
    rw [Fields.decoders, Fields.positional] at h
    split at h
    · cases h
    · rename_i r' hi
      split at h
      · cases h
        exact goOn_of_close (close_of_nextElement hi)
      · cases h
    · rename_i r₁ hi
      obtain ⟨⟨v, r₂⟩, hv, h₂⟩ := bind_eq_ok.1 h
      obtain ⟨⟨vs', r₃⟩, hvs, hr⟩ := bind_eq_ok.1 h₂
      cases hr
      calc goOn .skipped fresh .square outer s
          = passInside .skipped (.square :: outer) r₁ := goOn_of_nextElement hi
        _ = complete .skipped (.complete (.square :: outer)) r₂ := hs hv _
        _ = goOn .skipped false .square outer r₂ := complete_inside r₂
        _ = complete .skipped (.complete outer) r := others.skims_positional hothers hvs

/-- A record that is decoded can be skipped if its fields can. -/
theorem skims_record (name : String) {fs : Fields} {depth : Nat} (h : fs.Skimming depth) :
    (Decoder.record name fs (fs.decoders depth)).Skims := by
  intro s r v hread outer
  obtain ⟨c, r₀, hs, hread⟩ := Decoder.exists_of_first hread
  split at hread
  · rename_i hc
    subst hc
    obtain ⟨⟨slots, r'⟩, hmembers, hvalue⟩ := bind_eq_ok.1 hread
    obtain ⟨u, -, hr⟩ := bind_eq_ok.1 hvalue
    cases hr
    rw [passInside_curly hs]
    exact skims_members (fs.skims_columns h) hmembers
  · split at hread
    · rename_i hc
      subst hc
      rw [passInside_square hs]
      exact fs.skims_positional h hread
    · cases hread

mutual
/-- Whatever is decoded can be skipped. -/
theorem Shape.skims : (s : Shape) → (depth : Nat) → (s.decoder depth).Skims
  | .text, _ => Decoder.skims_string.map String.ofList
  | .number, _ => Decoder.skims_number
  | .state, _ => Decoder.skims_state
  | .anything, depth => Decoder.skims_anything (nestingLimit - depth)
  | .optional s, depth => (s.skims depth).optional
  | .list s, depth => (s.skims (depth + 1)).list
  | .record name fs, depth => skims_record name (fs.skimming (depth + 1))
/-- All fields of a record can be skipped. -/
theorem Fields.skimming : (fs : Fields) → (depth : Nat) → fs.Skimming depth
  | .nil, _ => trivial
  | .cons _ _ s rest, depth => ⟨s.skims depth, rest.skimming depth⟩
end

end IssueSteward.Payload
