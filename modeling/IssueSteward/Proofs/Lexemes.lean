import IssueSteward.Proofs.Streaming

/-!
# Strings, literals and numbers as they come in

The readers of the smallest parts of a payload stream them. Of a string and of a number this comes
from its grammar: only what is spelled is read (`spelling_of_keptString`,
`stringText_of_skipString`), and a spelling that is broken off is truncated wherever it is broken
(`keptString_cut`, `skipString_cut`), also within an escape. A number is read as far as its digits go
(`figure_part`), so it is settled by what follows, and every cut of it counts as inside it.
-/

namespace IssueSteward.Payload

/-! ## Strings -/

/-- A hexadecimal digit takes one byte. -/
theorem utf8Size_of_hexDigit {c : Char} {i : Nat} (h : Text.hexDigit? c = some i) :
    c.utf8Size = 1 := by
  rw [Char.utf8Size_eq_one_iff]
  simp only [Text.hexDigit?, Char.le_def, UInt32.le_iff_toNat_le] at h ⊢
  have h9 : ('9' : Char).val.toNat = 57 := rfl
  have hf : ('f' : Char).val.toNat = 102 := rfl
  have hF : ('F' : Char).val.toNat = 70 := rfl
  have hlast : (127 : UInt32).toNat = 127 := rfl
  split at h
  · omega
  · split at h
    · omega
    · split at h
      · omega
      · cases h

/-- The letter of an escape is one of those that write a character. -/
theorem mem_of_escaped {e c : Char} (h : escaped? e = some c) : (e, c) ∈ shortEscapes := by
  unfold escaped? at h
  split at h <;> cases h <;> decide

/-- Four hexadecimal digits that are read write the number. -/
theorem unitText_of_hexUnit {s r : List Char} {n : Nat} (h : hexUnit s = .ok (n, r)) :
    ∃ u, s = u ++ r ∧ UnitText n u := by
  unfold hexUnit at h
  split at h
  · rename_i a b c d s'
    split at h
    · rename_i i j k l ha hb hc hd
      obtain ⟨rfl, rfl⟩ := Prod.mk.inj (Except.ok.inj h)
      exact ⟨[a, b, c, d], rfl, .mk ha hb hc hd rfl⟩
    · cases h
  · split at h <;> cases h

/-- Fewer than four hexadecimal digits are too few. -/
theorem hexUnit_cut {n : Nat} {u p m : List Char} (h : UnitText n u) (hsplit : u = p ++ m)
    (hm : m ≠ []) : hexUnit p = .error .truncated := by
  cases h with
  | @mk a b c d i j k l _ ha hb hc hd =>
    have hsize := utf8Size_of_hexDigit ha
    have hsize' := utf8Size_of_hexDigit hb
    have hsize'' := utf8Size_of_hexDigit hc
    rcases p with _ | ⟨a', _ | ⟨b', _ | ⟨c', _ | ⟨d', p⟩⟩⟩⟩ <;> simp_all [hexUnit, byteCount]

/-- A spelling goes on behind an escape. -/
theorem EscapeText.spelling {c : Char} {e v t : List Char} (he : EscapeText c e)
    (h : Spelling v t) : Spelling (c :: v) ('\\' :: (e ++ t)) := by
  cases he with
  | short he => exact .short he h
  | unit hu => exact .unit hu h
  | pair hc hhigh hlow =>
    have hpair := Spelling.pair hc hhigh hlow h
    simpa using hpair

/-- The number that four hexadecimal digits write has sixteen bits. -/
theorem UnitText.lt {n : Nat} {u : List Char} (h : UnitText n u) : n < 0x10000 := by
  cases h with
  | mk ha hb hc hd hn =>
    have := Text.hexDigit?_lt ha
    have := Text.hexDigit?_lt hb
    have := Text.hexDigit?_lt hc
    have := Text.hexDigit?_lt hd
    omega

/-- The second half of a pair that is read is written after a backslash, and completes the pair. -/
theorem exists_of_lowHalf {s r : List Char} {high : Nat} {c : Char}
    (h : lowHalf high s = .ok (c, r)) :
    ∃ low l, s = '\\' :: 'u' :: (l ++ r) ∧ UnitText low l ∧ isLow low = true ∧
      c = Char.ofNat (pairValue high low) := by
  unfold lowHalf at h
  split at h
  · obtain ⟨⟨low, r'⟩, hunit, hhalf⟩ := bind_eq_ok.1 h
    obtain ⟨l, rfl, hl⟩ := unitText_of_hexUnit hunit
    dsimp only at hhalf
    split at hhalf
    · rename_i hlow
      obtain ⟨rfl, rfl⟩ := Prod.mk.inj (Except.ok.inj hhalf)
      exact ⟨low, l, rfl, hl, hlow, rfl⟩
    · cases hhalf
  all_goals cases h

/-- The character of a code point has it. -/
theorem toNat_ofNat_of_valid {n : Nat} (h : n.isValidChar) : (Char.ofNat n).toNat = n := by
  unfold Char.ofNat
  rw [dif_pos h]
  rfl

/-- The halves of a pair are those of the character that they make. -/
theorem halves_of_pairValue {high low : Nat} (hhigh : isHigh high = true)
    (hlow : isLow low = true) :
    0x10000 ≤ (Char.ofNat (pairValue high low)).toNat ∧
      0xD800 + ((Char.ofNat (pairValue high low)).toNat - 0x10000) / 0x400 = high ∧
      0xDC00 + ((Char.ofNat (pairValue high low)).toNat - 0x10000) % 0x400 = low := by
  simp only [isHigh, isLow, Bool.and_eq_true, decide_eq_true_eq] at hhigh hlow
  have hvalid : (pairValue high low).isValidChar := by
    simp only [pairValue, Nat.isValidChar]
    omega
  rw [toNat_ofNat_of_valid hvalid]
  simp only [pairValue]
  omega

/-- An escape that is read writes its character. -/
theorem escapeText_of_keptEscape {s r : List Char} {c : Char} (h : keptEscape s = .ok (c, r)) :
    ∃ e, s = e ++ r ∧ EscapeText c e := by
  unfold keptEscape at h
  split at h
  · cases h
  · rename_i d s
    split at h
    · rename_i hd
      subst hd
      obtain ⟨⟨n, r'⟩, hunit, hescape⟩ := bind_eq_ok.1 h
      obtain ⟨u, rfl, hu⟩ := unitText_of_hexUnit hunit
      dsimp only at hescape
      split at hescape
      · rename_i hhigh
        obtain ⟨low, l, rfl, hl, hlow, hchar⟩ := exists_of_lowHalf hescape
        obtain ⟨hc, hn, hm⟩ := halves_of_pairValue hhigh hlow
        rw [← hchar] at hc hn hm
        rw [← hn] at hu
        rw [← hm] at hl
        exact ⟨'u' :: (u ++ '\\' :: 'u' :: l), by simp, .pair hc hu hl⟩
      · split at hescape
        · cases hescape
        · rename_i hhigh hlow
          obtain ⟨rfl, rfl⟩ := Prod.mk.inj (Except.ok.inj hescape)
          have hlt := hu.lt
          have hvalid : n.isValidChar := by
            simp only [isHigh, isLow, Bool.and_eq_true, decide_eq_true_eq] at hhigh hlow
            simp only [Nat.isValidChar]
            omega
          exact ⟨'u' :: u, rfl, .unit ((toNat_ofNat_of_valid hvalid).symm ▸ hu)⟩
    · split at h
      · rename_i he
        obtain ⟨rfl, rfl⟩ := Prod.mk.inj (Except.ok.inj h)
        exact ⟨[d], rfl, .short (mem_of_escaped he)⟩
      · cases h

/-- Less than the second half of a pair is too little. -/
theorem lowHalf_cut {low high : Nat} {l p m : List Char} (hl : UnitText low l)
    (hsplit : '\\' :: 'u' :: l = p ++ m) (hm : m ≠ []) : lowHalf high p = .error .truncated := by
  rcases p with _ | ⟨b, _ | ⟨b', p⟩⟩
  · rw [lowHalf]
  · obtain ⟨rfl, -⟩ := List.cons.inj hsplit
    rw [lowHalf]
  · obtain ⟨rfl, hunit⟩ := List.cons.inj hsplit
    obtain ⟨rfl, hcut⟩ := List.cons.inj hunit
    rw [lowHalf, hexUnit_cut hl hcut hm]
    rfl

/-- The first half of a pair is nothing without the second. -/
theorem keptEscape_high {n : Nat} {u p : List Char} (hu : UnitText n u) (hn : isHigh n = true)
    (hp : lowHalf n p = .error .truncated) :
    keptEscape ('u' :: (u ++ p)) = .error .truncated := by
  simp only [keptEscape, if_pos, hexUnit_of_unitText hu, bind, Except.bind, hn, hp]

/-- Less than an escape is too little. -/
theorem keptEscape_cut {c : Char} {e p m : List Char} (h : EscapeText c e) (hsplit : e = p ++ m)
    (hm : m ≠ []) : keptEscape p = .error .truncated := by
  cases p with
  | nil => rfl
  | cons d p =>
    cases h with
    | short =>
      obtain ⟨rfl, hnil⟩ := List.cons.inj hsplit
      exact absurd (List.append_eq_nil_iff.1 hnil.symm).2 hm
    | unit hu =>
      obtain ⟨rfl, hcut⟩ := List.cons.inj hsplit
      rw [keptEscape, if_pos rfl, hexUnit_cut hu hcut hm]
      rfl
    | pair hc hhigh hlow =>
      obtain ⟨rfl, hpair⟩ := List.cons.inj hsplit
      rcases append_cut hpair with ⟨m', hm', hcut, -⟩ | ⟨p', rfl, hcut⟩
      · rw [keptEscape, if_pos rfl, hexUnit_cut hhigh hcut hm']
        rfl
      · exact keptEscape_high hhigh (pairValue_halves hc).1 (lowHalf_cut hlow hcut hm)

/-- A kept string with an escape that is at fault is at fault. -/
theorem keptString_escape_error {s : List Char} {fault : Fault} (h : keptEscape s = .error fault) :
    keptString ('\\' :: s) = .error fault := by
  rw [keptString, if_neg (by decide), if_pos rfl]
  split
  · rename_i h'
    rw [h] at h'
    cases h'
  · rename_i h'
    rw [h] at h'
    cases h'
    rfl

/-- A kept string is spelled by what stands before its closing quote. -/
theorem spelling_of_keptString {s r v : List Char} (h : keptString s = .ok (v, r)) :
    ∃ n, s = n ++ '"' :: r ∧ Spelling v n := by
  fun_induction keptString s generalizing v with
  | case1 => cases h
  | case2 =>
    cases h
    exact ⟨[], rfl, .nil⟩
  | case3 s d r' he _ ih =>
    obtain ⟨⟨v', r''⟩, hrest, h⟩ := map_eq_ok.1 h
    cases h
    obtain ⟨e, rfl, hescape⟩ := escapeText_of_keptEscape he
    obtain ⟨n, rfl, hn⟩ := ih hrest
    exact ⟨_, by simp, hescape.spelling hn⟩
  | case4 => cases h
  | case5 => cases h
  | case6 c s hquote hslash hcontrol ih =>
    obtain ⟨⟨v', r'⟩, hrest, h⟩ := map_eq_ok.1 h
    cases h
    obtain ⟨n, rfl, hn⟩ := ih hrest
    have hplain : isPlain c = true := by simp [isPlain, hquote, hslash, hcontrol]
    exact ⟨c :: n, rfl, .plain hplain hn⟩

/-- A kept string without its closing quote is too little, if it is so behind an escape. -/
theorem keptString_cut_escape {c : Char} {e t : List Char} (he : EscapeText c e)
    (ih : ∀ {p m : List Char}, t = p ++ m → keptString p = .error .truncated) {p m : List Char}
    (hsplit : '\\' :: (e ++ t) = p ++ m) : keptString p = .error .truncated := by
  cases p with
  | nil => rw [keptString]
  | cons d p =>
    obtain ⟨rfl, hcut⟩ := List.cons.inj hsplit
    rcases append_cut hcut with ⟨m', hm', hescape, -⟩ | ⟨p', rfl, hrest⟩
    · exact keptString_escape_error (keptEscape_cut he hescape hm')
    · rw [keptString_escape (keptEscape_append he p'), ih hrest]
      rfl

/-- A kept string without its closing quote is too little. -/
theorem keptString_cut {v n p m : List Char} (h : Spelling v n) (hsplit : n = p ++ m) :
    keptString p = .error .truncated := by
  induction h generalizing p m with
  | nil =>
    obtain ⟨rfl, -⟩ := List.append_eq_nil_iff.1 hsplit.symm
    rw [keptString]
  | plain hc _ ih =>
    cases p with
    | nil => rw [keptString]
    | cons d p =>
      obtain ⟨rfl, hcut⟩ := List.cons.inj hsplit
      rw [keptString_plain hc, ih hcut]
      rfl
  | short he _ ih => exact keptString_cut_escape (.short he) ih hsplit
  | unit hu _ ih => exact keptString_cut_escape (.unit hu) ih hsplit
  | pair hc hhigh hlow _ ih =>
    refine keptString_cut_escape (.pair hc hhigh hlow) ih (Eq.trans ?_ hsplit)
    simp

/-- What follows a backslash in a string as far as the grammar goes. -/
inductive EscapeMark : List Char → Prop
  /-- A letter. -/
  | short {e c : Char} (he : (e, c) ∈ shortEscapes) : EscapeMark [e]
  /-- A unit of sixteen bits. -/
  | unit {n : Nat} {u : List Char} (hu : UnitText n u) : EscapeMark ('u' :: u)

/-- A string goes on behind an escape. -/
theorem EscapeMark.stringText {e t : List Char} (he : EscapeMark e) (h : StringText t) :
    StringText ('\\' :: (e ++ t)) := by
  cases he with
  | short he => exact .short he h
  | unit hu => exact .unit hu h

/-- An escape is skipped. -/
theorem skipEscape_append {e : List Char} (h : EscapeMark e) (s : List Char) :
    skipEscape (e ++ s) = .ok s := by
  cases h with
  | short he =>
    obtain ⟨hescaped, hu⟩ := escaped_of_mem he
    simp only [List.singleton_append, skipEscape, if_neg hu, hescaped, Option.isSome_some, if_true]
  | unit hu =>
    simp only [List.cons_append, skipEscape, if_pos, hexUnit_of_unitText hu, Functor.map,
      Except.map]

/-- An escape that is skipped is one. -/
theorem escapeMark_of_skipEscape {s r : List Char} (h : skipEscape s = .ok r) :
    ∃ e, s = e ++ r ∧ EscapeMark e := by
  unfold skipEscape at h
  split at h
  · cases h
  · rename_i d s
    split at h
    · rename_i hd
      obtain ⟨⟨n, r'⟩, hunit, hr⟩ := map_eq_ok.1 h
      obtain ⟨u, rfl, hu⟩ := unitText_of_hexUnit hunit
      obtain rfl : r' = r := hr
      exact ⟨'u' :: u, by rw [hd, List.cons_append], .unit hu⟩
    · split at h
      · rename_i he
        obtain ⟨c, hc⟩ := Option.isSome_iff_exists.1 he
        cases h
        exact ⟨[d], rfl, .short (mem_of_escaped hc)⟩
      · cases h

/-- Less than an escape is too little where it is skipped. -/
theorem skipEscape_cut {e p m : List Char} (h : EscapeMark e) (hsplit : e = p ++ m)
    (hm : m ≠ []) : skipEscape p = .error .truncated := by
  cases p with
  | nil => rfl
  | cons d p =>
    cases h with
    | short =>
      obtain ⟨rfl, hnil⟩ := List.cons.inj hsplit
      exact absurd (List.append_eq_nil_iff.1 hnil.symm).2 hm
    | unit hu =>
      obtain ⟨rfl, hcut⟩ := List.cons.inj hsplit
      rw [skipEscape, if_pos rfl, hexUnit_cut hu hcut hm]
      rfl

/-- A skipped string with an escape that is at fault is at fault. -/
theorem skipString_escape_error {s : List Char} {fault : Fault} (h : skipEscape s = .error fault) :
    skipString ('\\' :: s) = .error fault := by
  rw [skipString, if_neg (by decide), if_pos rfl]
  split
  · rename_i h'
    rw [h] at h'
    cases h'
  · rename_i h'
    rw [h] at h'
    cases h'
    rfl

/-- A skipped string is what stands before its closing quote. -/
theorem stringText_of_skipString {s r : List Char} (h : skipString s = .ok r) :
    ∃ n, s = n ++ '"' :: r ∧ StringText n := by
  fun_induction skipString s with
  | case1 => cases h
  | case2 =>
    cases h
    exact ⟨[], rfl, .nil⟩
  | case3 s r' he _ ih =>
    obtain ⟨e, rfl, hescape⟩ := escapeMark_of_skipEscape he
    obtain ⟨n, rfl, hn⟩ := ih h
    exact ⟨_, by simp, hescape.stringText hn⟩
  | case4 => cases h
  | case5 => cases h
  | case6 c s hquote hslash hcontrol ih =>
    obtain ⟨n, rfl, hn⟩ := ih h
    have hplain : isPlain c = true := by simp [isPlain, hquote, hslash, hcontrol]
    exact ⟨c :: n, rfl, .plain hplain hn⟩

/-- A skipped string without its closing quote is too little, if it is so behind an escape. -/
theorem skipString_cut_escape {e t : List Char} (he : EscapeMark e)
    (ih : ∀ {p m : List Char}, t = p ++ m → skipString p = .error .truncated) {p m : List Char}
    (hsplit : '\\' :: (e ++ t) = p ++ m) : skipString p = .error .truncated := by
  cases p with
  | nil => rw [skipString]
  | cons d p =>
    obtain ⟨rfl, hcut⟩ := List.cons.inj hsplit
    rcases append_cut hcut with ⟨m', hm', hescape, -⟩ | ⟨p', rfl, hrest⟩
    · exact skipString_escape_error (skipEscape_cut he hescape hm')
    · rw [skipString_escape (skipEscape_append he p'), ih hrest]

/-- A skipped string without its closing quote is too little. -/
theorem skipString_cut {n p m : List Char} (h : StringText n) (hsplit : n = p ++ m) :
    skipString p = .error .truncated := by
  induction h generalizing p m with
  | nil =>
    obtain ⟨rfl, -⟩ := List.append_eq_nil_iff.1 hsplit.symm
    rw [skipString]
  | plain hc _ ih =>
    cases p with
    | nil => rw [skipString]
    | cons d p =>
      obtain ⟨rfl, hcut⟩ := List.cons.inj hsplit
      obtain ⟨hquote, hslash, hcontrol⟩ := of_isPlain hc
      rw [skipString, if_neg hquote, if_neg hslash, if_neg hcontrol, ih hcut]
  | short he _ ih => exact skipString_cut_escape (.short he) ih hsplit
  | unit hu _ ih => exact skipString_cut_escape (.unit hu) ih hsplit

/-- What is kept of a string is a string as far as the grammar goes. -/
theorem Spelling.stringText {v n : List Char} (h : Spelling v n) : StringText n := by
  induction h with
  | nil => exact .nil
  | plain hc _ ih => exact .plain hc ih
  | short he _ ih => exact .short he ih
  | unit hu _ ih => exact .unit hu ih
  | pair _ hhigh hlow _ ih => exact .unit hhigh (.unit hlow ih)

/-- Hexadecimal digits do not lead out of a string. -/
theorem UnitText.region {n : Nat} {u : List Char} (h : UnitText n u) :
    Region.string.after u = .string := by
  have hnext : ∀ {c : Char} {i : Nat}, Text.hexDigit? c = some i →
      Region.string.next c = .string := by
    intro c i hc
    have hquote : c ≠ '"' := by
      rintro rfl
      cases hc
    have hslash : c ≠ '\\' := by
      rintro rfl
      cases hc
    simp only [Region.next, if_neg hquote, if_neg hslash]
  cases h with
  | mk ha hb hc hd => simp only [Region.after, List.foldl, hnext ha, hnext hb, hnext hc, hnext hd]

/-- The text of a string does not lead out of it. -/
theorem StringText.region {n : List Char} (h : StringText n) :
    Region.string.after n = .string := by
  induction h with
  | nil => rfl
  | @plain c t hc _ ih =>
    obtain ⟨hquote, hslash, -⟩ := of_isPlain hc
    have hnext : Region.string.next c = .string := by
      simp only [Region.next, if_neg hquote, if_neg hslash]
    change (Region.string.next c).after t = .string
    rw [hnext, ih]
  | short _ _ ih => exact ih
  | @unit n u t hu _ ih =>
    change Region.string.after (u ++ t) = .string
    rw [Region.after_append, hu.region, ih]

/-- A string is read as a part if it is read to its closing quote, whatever follows, and without it
too little. -/
theorem streams_of_string {α : Type} {f : Reader α} {s : List Char}
    (hf : ∀ {v : α} {r : List Char}, f s = .ok (v, r) → ∃ n, s = n ++ '"' :: r ∧ StringText n ∧
      (∀ r', f (n ++ '"' :: r') = .ok (v, r')) ∧
      ∀ {p m : List Char}, n = p ++ m → f p = .error .truncated) :
    Streams ['"'] f s := by
  intro v r h
  obtain ⟨n, rfl, htext, hread, hcut⟩ := hf h
  refine ⟨n ++ ['"'], by simp, ?_, ?_, ?_⟩
  · change Region.string.after (n ++ ['"']) = .outside
    rw [Region.after_append, htext.region]
    rfl
  · intro r' _
    rw [List.append_assoc]
    exact hread r'
  · intro p m hsplit hm _
    -- the closing quote is in what is cut off
    rcases append_cut hsplit with ⟨m', -, hn, -⟩ | ⟨p', rfl, hp'⟩
    · exact hcut hn
    · cases p' with
      | nil => exact hcut (m := []) (by simp)
      | cons c p' =>
        obtain ⟨-, hnil⟩ := List.cons.inj hp'
        exact absurd (List.append_eq_nil_iff.1 hnil.symm).2 hm

/-- A kept string is read as a part. -/
theorem streams_keptString (s : List Char) : Streams ['"'] keptString s := by
  refine streams_of_string fun h => ?_
  obtain ⟨n, hs, hn⟩ := spelling_of_keptString h
  exact ⟨n, hs, hn.stringText, keptString_of_spelling hn, keptString_cut hn⟩

/-- A skipped string is read as a part. -/
theorem streams_skipString (s : List Char) : Streams ['"'] (beyond skipString) s := by
  refine streams_of_string fun h => ?_
  obtain ⟨n, hs, hn⟩ := stringText_of_skipString (beyond_eq_ok.1 h)
  refine ⟨n, hs, hn, fun r' => beyond_eq_ok.2 (skipString_of_stringText hn r'), fun hcut => ?_⟩
  simp only [beyond, skipString_cut hn hcut, Functor.map, Except.map]

/-! ## Literals -/

/-- What follows a literal is left of a text that begins with it. -/
theorem literal_eq_ok {word s r : List Char} : literal word s = .ok r ↔ s = word ++ r := by
  fun_induction literal word s with
  | case1 s => simp
  | case2 => simp
  | case3 w word s ih => rw [ih, List.cons_append, List.cons_inj_right]
  | case4 w word c s hne => simp [hne]

/-- Less than a literal is too little. -/
theorem literal_cut {p m : List Char} (hm : m ≠ []) :
    literal (p ++ m) p = .error .truncated := by
  induction p with
  | nil =>
    cases m with
    | nil => exact absurd rfl hm
    | cons c m => rfl
  | cons c p ih => rw [List.cons_append, literal, if_pos rfl, ih]

/-- A literal is read as a part. -/
theorem streams_literal {lead word : List Char} (h : regionAfter (lead ++ word) = .outside)
    (s : List Char) : Streams lead (beyond (literal word)) s := by
  intro v r hread
  obtain rfl := literal_eq_ok.1 (beyond_eq_ok.1 hread)
  refine ⟨word, rfl, h, fun _ => beyond_eq_ok.2 (literal_eq_ok.2 rfl), ?_⟩
  rintro p m rfl hm -
  simp only [beyond, literal_cut hm, Functor.map, Except.map]

/-! ## Numbers -/

/-- Digits are read as far as they go. -/
theorem digits_part {s r ds : List Char} (h : digits s = .ok (ds, r)) :
    s = ds ++ r ∧ Digits ds ∧
      ∀ {r' : List Char}, Follows r r' → digits (ds ++ r') = .ok (ds, r') := by
  unfold digits at h
  split at h
  · cases h
  · rename_i c s
    split at h
    · rename_i hc
      obtain ⟨rfl, rfl⟩ := Prod.mk.inj (Except.ok.inj h)
      have hds : Digits (c :: s.takeWhile Char.isDigit) := by
        refine ⟨List.cons_ne_nil _ _, List.forall_mem_cons.2 ⟨hc, fun d hd => ?_⟩⟩
        exact List.mem_takeWhile_imp hd
      refine ⟨by simp, hds, fun {r'} hr' => digits_append hds fun d hd => ?_⟩
      rcases hr' d hd with hsame | hstops
      · -- the rest begins behind the last digit
        have hdrop := List.head?_dropWhile_not Char.isDigit s
        rw [hsame] at hdrop
        simpa using hdrop
      · exact (hstops d hd).1
    · cases h

/-- The digits before the point are read as far as they go. -/
theorem whole_part {s r ds : List Char} (h : whole s = .ok (ds, r)) :
    s = ds ++ r ∧ WholeText ds ∧
      ∀ {r' : List Char}, Follows r r' → whole (ds ++ r') = .ok (ds, r') := by
  obtain ⟨⟨ds', r'⟩, hdigits, hmatch⟩ := bind_eq_ok.1 h
  obtain ⟨rfl, hds, hread⟩ := digits_part hdigits
  dsimp only at hmatch
  split at hmatch
  · cases hmatch
  · rename_i hzero
    cases hmatch
    refine ⟨rfl, ⟨hds, fun hhead => ?_⟩, fun {r'} hr' => ?_⟩
    · rcases ds with _ | ⟨c, _ | ⟨d, ds⟩⟩
      · cases hhead
      · rw [Option.some.inj hhead]
      · rw [Option.some.inj hhead] at hzero
        exact absurd rfl (hzero d ds)
    · simp only [whole, hread hr', bind, Except.bind]

/-- The digits after the point are read as far as they go. -/
theorem fraction_part {s r ds : List Char} (h : fraction s = .ok (ds, r)) :
    ∃ t, s = t ++ r ∧ FractionText ds t ∧
      ∀ {r' : List Char}, Follows r r' → fraction (t ++ r') = .ok (ds, r') := by
  unfold fraction at h
  split at h
  · rename_i s
    obtain ⟨rfl, hds, hread⟩ := digits_part h
    exact ⟨'.' :: ds, rfl, .some hds, hread⟩
  · rename_i hpoint
    cases h
    refine ⟨[], rfl, .none, fun {r'} hr' => ?_⟩
    rw [List.nil_append]
    unfold fraction
    split
    · rcases hr' '.' rfl with hsame | hstops
      · obtain ⟨s', hs'⟩ := List.head?_eq_some_iff.1 hsame
        exact absurd hs' (hpoint s')
      · exact absurd rfl (hstops '.' rfl).2.1
    · rfl

/-- The sign of an exponent is what precedes its digits. -/
theorem exponentSign_part (s : List Char) :
    ∃ sign, s = sign ++ (exponentSign s).2 ∧ SignText (exponentSign s).1 sign := by
  unfold exponentSign
  split
  · exact ⟨['-'], rfl, .minus⟩
  · exact ⟨['+'], rfl, .plus⟩
  · exact ⟨[], rfl, .none⟩

/-- No exponent is read where none begins. -/
theorem exponent_of_not {s : List Char} (h : ∀ c, s.head? = some c → ¬ (c = 'e' ∨ c = 'E')) :
    exponent s = .ok (none, s) := by
  cases s with
  | nil => rfl
  | cons c s => rw [exponent, if_neg (h c rfl)]

/-- An exponent is read as far as it goes. -/
theorem exponent_part {s r : List Char} {e : Option Int} (h : exponent s = .ok (e, r)) :
    ∃ t, s = t ++ r ∧ ExponentText e t ∧
      ∀ {r' : List Char}, Follows r r' → exponent (t ++ r') = .ok (e, r') := by
  have hnone : (∀ c, s.head? = some c → ¬ (c = 'e' ∨ c = 'E')) →
      ∃ t, s = t ++ s ∧ ExponentText none t ∧
        ∀ {r' : List Char}, Follows s r' → exponent (t ++ r') = .ok (none, r') := by
    refine fun hs => ⟨[], rfl, .none, fun {r'} hr' => exponent_of_not fun c hc => ?_⟩
    rcases hr' c hc with hsame | hstops
    · exact hs c hsame
    · exact not_or.2 (hstops c hc).2.2
  cases s with
  | nil =>
    cases h
    exact hnone (by simp)
  | cons c s =>
    rw [exponent] at h
    split at h
    · rename_i hletter
      obtain ⟨⟨ds, r'⟩, hdigits, hvalue⟩ := bind_eq_ok.1 h
      obtain ⟨sign, hs, hsign⟩ := exponentSign_part s
      obtain ⟨hrest, hds, hread⟩ := digits_part hdigits
      cases hvalue
      refine ⟨c :: (sign ++ ds), ?_, .some hletter hsign hds, fun {r'} hr' => ?_⟩
      · rw [List.cons_append, List.append_assoc, ← hrest, ← hs]
      · rw [List.cons_append, List.append_assoc, exponent, if_pos hletter,
          exponentSign_append hsign hds, hread hr']
        rfl
    · rename_i hletter
      cases h
      exact hnone fun d hd => Option.some.inj hd ▸ hletter

/-- The digits of a number are read as far as they go. -/
theorem figure_part {s r : List Char} {g : Figure} (h : figure s = .ok (g, r)) :
    ∃ t, s = t ++ r ∧ FigureText g t ∧
      ∀ {r' : List Char}, Follows r r' → figure (t ++ r') = .ok (g, r') := by
  obtain ⟨⟨w, s₁⟩, hw, h₁⟩ := bind_eq_ok.1 h
  obtain ⟨⟨f, s₂⟩, hf, h₂⟩ := bind_eq_ok.1 h₁
  obtain ⟨⟨e, s₃⟩, he, h₃⟩ := bind_eq_ok.1 h₂
  cases h₃
  obtain ⟨rfl, hwt, hw'⟩ := whole_part hw
  obtain ⟨ft, rfl, hft, hf'⟩ := fraction_part hf
  obtain ⟨et, rfl, het, he'⟩ := exponent_part he
  refine ⟨w ++ (ft ++ et), by simp, .mk hwt hft het, fun {r'} hr' => ?_⟩
  have hw₁ := hw' ((hr'.append_left et).append_left ft)
  have hf₁ := hf' (hr'.append_left et)
  simp only [List.append_assoc, figure, hw₁, hf₁, he' hr', bind, Except.bind]

/-- The digits of a number have no quotes. -/
theorem Digits.no_quote {ds : List Char} (h : Digits ds) : ∀ c ∈ ds, c ≠ '"' := by
  rintro c hc rfl
  exact absurd (h.2 '"' hc) (by decide)

/-- A number has no quotes. -/
theorem FigureText.no_quote {g : Figure} {t : List Char} (h : FigureText g t) :
    ∀ c ∈ t, c ≠ '"' := by
  cases h with
  | @mk w f ft et e hw hf he =>
    have hfraction : ∀ c ∈ ft, c ≠ '"' := by
      cases hf with
      | none => simp
      | some hds => exact List.forall_mem_cons.2 ⟨by decide, hds.no_quote⟩
    have hexponent : ∀ c ∈ et, c ≠ '"' := by
      cases he with
      | none => simp
      | some hletter hsign hds =>
        refine List.forall_mem_cons.2 ⟨?_, List.forall_mem_append.2 ⟨?_, hds.no_quote⟩⟩
        · rcases hletter with rfl | rfl <;> decide
        · cases hsign <;> simp
    exact List.forall_mem_append.2
      ⟨hw.1.no_quote, List.forall_mem_append.2 ⟨hfraction, hexponent⟩⟩

/-- A reader of numbers, from after the sign on: it takes the digits, and its value is that of the
digits. -/
def ReadsFigures {α : Type} (f : Reader α) : Prop :=
  ∀ ⦃s r : List Char⦄ ⦃v : α⦄, f s = .ok (v, r) →
    ∃ g, figure s = .ok (g, r) ∧ ∀ {s' r' : List Char}, figure s' = .ok (g, r') → f s' = .ok (v, r')

/-- A number is read as a part behind its sign. -/
theorem ReadsFigures.streams_negative {α : Type} {f : Reader α} (hf : ReadsFigures f)
    (s : List Char) : Streams ['-'] f s := by
  intro v r h
  obtain ⟨g, hfigure, hvalue⟩ := hf h
  obtain ⟨t, rfl, ht, hread⟩ := figure_part hfigure
  refine ⟨t, rfl, ?_, fun hr' => hvalue (hread hr'), ?_⟩
  · exact regionAfter_of_no_quote (List.forall_mem_cons.2 ⟨by decide, ht.no_quote⟩)
  · -- any cut is one inside the number
    rintro p m rfl hm hnumber
    refine absurd ?_ hnumber
    exact ⟨[], '-' :: p, m, r, rfl, rfl, List.cons_ne_nil _ _, hm, ⟨g, p ++ m, ht, .inr rfl⟩, rfl⟩

/-- A number without a sign is read as a part from its first digit on. -/
theorem ReadsFigures.streams_digit {α : Type} {f : Reader α} (hf : ReadsFigures f) (c : Char)
    (s : List Char) : Streams [c] (fun s => f (c :: s)) s := by
  intro v r h
  obtain ⟨g, hfigure, hvalue⟩ := hf h
  obtain ⟨t, hsplit, ht, hread⟩ := figure_part hfigure
  obtain ⟨d, t, rfl, -⟩ := head_of_figureText ht
  obtain ⟨rfl, rfl⟩ := List.cons.inj hsplit
  refine ⟨t, rfl, regionAfter_of_no_quote ht.no_quote, fun hr' => hvalue (hread hr'), ?_⟩
  rintro p m rfl hm hnumber
  refine absurd ?_ hnumber
  exact ⟨[], c :: p, m, r, rfl, rfl, List.cons_ne_nil _ _, hm, ⟨g, _, ht, .inl rfl⟩, rfl⟩

/-- A kept number has the value of its digits. -/
theorem readsFigures_keptNumber (minus : Bool) : ReadsFigures (keptNumber minus) := by
  intro s r v h
  obtain ⟨⟨g, r'⟩, hfigure, hvalue⟩ := bind_eq_ok.1 h
  dsimp only at hvalue
  split at hvalue
  · rename_i n hn
    cases hvalue
    refine ⟨g, hfigure, fun h' => ?_⟩
    simp only [keptNumber, h', bind, Except.bind, hn]
  · cases hvalue

/-- A skipped number has no value. -/
theorem readsFigures_skipNumber : ReadsFigures (beyond skipNumber) := by
  intro s r v h
  have hskip := beyond_eq_ok.1 h
  unfold skipNumber at hskip
  split at hskip
  · rename_i g r' hfigure
    cases hskip
    refine ⟨g, hfigure, fun h' => beyond_eq_ok.2 ?_⟩
    rw [skipNumber, h']
  · cases hskip

end IssueSteward.Payload
