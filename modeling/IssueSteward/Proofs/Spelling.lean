import IssueSteward.Payload.Lexeme
import Mathlib.Data.List.TakeWhile

/-!
# How strings and numbers are written

The grammar of the smallest parts of a payload, and that the readers read what it derives, whatever
follows. A string has one of many spellings, since each of its characters may stand for itself, be
escaped by a letter, or by its units of sixteen bits in hexadecimal digits (`Spelling`).
`keptString_of_spelling` reads the string back from any of them, by induction on the spelling. A
number is written as its digits, perhaps with a point and an exponent (`FigureText`), and ends where
no character that could go on with it follows (`Stops`).
-/

namespace IssueSteward.Payload

/-- A text of white space only. -/
def Space (w : List Char) : Prop := ∀ c ∈ w, isSpace c = true

-- Only the characters of the text are looked at, not all that there are.
instance (w : List Char) : Decidable (Space w) := List.decidableBAll _ w

/-- White space before something else is skipped. -/
theorem skipSpace_append {w s : List Char} {c : Char} (hw : Space w) (hc : isSpace c = false) :
    skipSpace (w ++ c :: s) = c :: s := by
  unfold skipSpace
  rw [List.dropWhile_append_of_pos hw, List.dropWhile_cons_of_neg (by rw [hc]; decide)]

/-- Nothing is left of a text exactly when it is white space. -/
theorem skipSpace_eq_nil {s : List Char} : skipSpace s = [] ↔ Space s :=
  List.dropWhile_eq_nil_iff

/-- White space is skipped to its end. -/
theorem skipSpace_space {w : List Char} (hw : Space w) : skipSpace w = [] := skipSpace_eq_nil.2 hw

/-! ## Strings -/

/-- Whether a character stands for itself in a string. -/
def isPlain (c : Char) : Bool := !decide (c < ' ') && c != '"' && c != '\\'

/-- The letters that write a character after a backslash, each with the character. -/
def shortEscapes : List (Char × Char) :=
  [('"', '"'), ('\\', '\\'), ('/', '/'), ('b', '\x08'), ('f', '\x0c'), ('n', '\n'), ('r', '\r'),
    ('t', '\t')]

/-- Four hexadecimal digits, with letters of either case, write a number. -/
inductive UnitText : Nat → List Char → Prop
  /-- The values of the digits. -/
  | mk {a b c d : Char} {i j k l n : Nat} (ha : Text.hexDigit? a = some i)
      (hb : Text.hexDigit? b = some j) (hc : Text.hexDigit? c = some k)
      (hd : Text.hexDigit? d = some l) (hn : ((i * 16 + j) * 16 + k) * 16 + l = n) :
      UnitText n [a, b, c, d]

/-- What a string may look like between its quotes, given its characters. -/
inductive Spelling : List Char → List Char → Prop
  /-- The string is empty. -/
  | nil : Spelling [] []
  /-- A character stands for itself. -/
  | plain {c : Char} {v t : List Char} (hc : isPlain c = true) (h : Spelling v t) :
      Spelling (c :: v) (c :: t)
  /-- A character is escaped by its letter. -/
  | short {e c : Char} {v t : List Char} (he : (e, c) ∈ shortEscapes) (h : Spelling v t) :
      Spelling (c :: v) ('\\' :: e :: t)
  /-- A character of sixteen bits is escaped by its code point. -/
  | unit {c : Char} {u v t : List Char} (hu : UnitText c.toNat u) (h : Spelling v t) :
      Spelling (c :: v) ('\\' :: 'u' :: (u ++ t))
  /-- Any other character is escaped by the two halves of its pair. -/
  | pair {c : Char} {u l v t : List Char} (hc : 0x10000 ≤ c.toNat)
      (hhigh : UnitText (0xD800 + (c.toNat - 0x10000) / 0x400) u)
      (hlow : UnitText (0xDC00 + (c.toNat - 0x10000) % 0x400) l) (h : Spelling v t) :
      Spelling (c :: v) ('\\' :: 'u' :: (u ++ '\\' :: 'u' :: (l ++ t)))

/-- What follows a backslash to write a character. -/
inductive EscapeText (c : Char) : List Char → Prop
  /-- Its letter. -/
  | short {e : Char} (he : (e, c) ∈ shortEscapes) : EscapeText c [e]
  /-- Its code point of sixteen bits. -/
  | unit {u : List Char} (hu : UnitText c.toNat u) : EscapeText c ('u' :: u)
  /-- The two halves of its pair. -/
  | pair {u l : List Char} (hc : 0x10000 ≤ c.toNat)
      (hhigh : UnitText (0xD800 + (c.toNat - 0x10000) / 0x400) u)
      (hlow : UnitText (0xDC00 + (c.toNat - 0x10000) % 0x400) l) :
      EscapeText c ('u' :: (u ++ '\\' :: 'u' :: l))

/-- What a string may look like between its quotes as far as the grammar goes, where the halves of
pairs need not match. -/
inductive StringText : List Char → Prop
  /-- The string is empty. -/
  | nil : StringText []
  /-- A character stands for itself. -/
  | plain {c : Char} {t : List Char} (hc : isPlain c = true) (h : StringText t) :
      StringText (c :: t)
  /-- A character is escaped by its letter. -/
  | short {e c : Char} {t : List Char} (he : (e, c) ∈ shortEscapes) (h : StringText t) :
      StringText ('\\' :: e :: t)
  /-- A character, or half of one, is escaped by hexadecimal digits. -/
  | unit {n : Nat} {u t : List Char} (hu : UnitText n u) (h : StringText t) :
      StringText ('\\' :: 'u' :: (u ++ t))

/-- A text between quotes. -/
def quoted (t : List Char) : List Char := '"' :: (t ++ ['"'])

/-- A text between quotes goes on after the closing one. -/
theorem quoted_append (t s : List Char) : quoted t ++ s = '"' :: (t ++ '"' :: s) := by
  simp [quoted]

/-- A plain character is no quote, no backslash and no control. -/
theorem of_isPlain {c : Char} (h : isPlain c = true) : c ≠ '"' ∧ c ≠ '\\' ∧ ¬c < ' ' := by
  simp only [isPlain, Bool.and_eq_true, Bool.not_eq_true', bne_iff_ne, ne_eq,
    decide_eq_false_iff_not] at h
  exact ⟨h.1.2, h.2, h.1.1⟩

/-- A text of plain characters spells itself. -/
theorem spelling_self {v : List Char} (h : v.all isPlain = true) : Spelling v v := by
  induction v with
  | nil => exact .nil
  | cons c v ih =>
    rw [List.all_cons, Bool.and_eq_true] at h
    exact .plain h.1 (ih h.2)

/-- Four hexadecimal digits are read as the number that they write. -/
theorem hexUnit_of_unitText {n : Nat} {u : List Char} (h : UnitText n u) (s : List Char) :
    hexUnit (u ++ s) = .ok (n, s) := by
  cases h with
  | mk ha hb hc hd hn => simp only [List.cons_append, List.nil_append, hexUnit, ha, hb, hc, hd, hn]

/-- A letter that writes a character after a backslash is read as it. -/
theorem escaped_of_mem {e c : Char} (h : (e, c) ∈ shortEscapes) : escaped? e = some c ∧ e ≠ 'u' := by
  revert h
  unfold shortEscapes
  simp only [List.mem_cons, Prod.mk.injEq, List.not_mem_nil, or_false]
  rintro (⟨rfl, rfl⟩ | ⟨rfl, rfl⟩ | ⟨rfl, rfl⟩ | ⟨rfl, rfl⟩ | ⟨rfl, rfl⟩ | ⟨rfl, rfl⟩ | ⟨rfl, rfl⟩ |
    ⟨rfl, rfl⟩) <;> decide

/-- A character is no half of a pair. -/
theorem not_half (c : Char) : isHigh c.toNat = false ∧ isLow c.toNat = false := by
  have hvalid := c.valid
  simp only [UInt32.isValidChar, Nat.isValidChar] at hvalid
  have hval : c.val.toNat = c.toNat := rfl
  simp only [isHigh, isLow, Bool.and_eq_false_iff, decide_eq_false_iff_not]
  omega

/-- The halves of the pair of a character are put together to the character. -/
theorem pairValue_halves {c : Char} (hc : 0x10000 ≤ c.toNat) :
    isHigh (0xD800 + (c.toNat - 0x10000) / 0x400) = true ∧
      isLow (0xDC00 + (c.toNat - 0x10000) % 0x400) = true ∧
      pairValue (0xD800 + (c.toNat - 0x10000) / 0x400) (0xDC00 + (c.toNat - 0x10000) % 0x400) =
        c.toNat := by
  have hvalid := c.valid
  simp only [UInt32.isValidChar, Nat.isValidChar] at hvalid
  have hval : c.val.toNat = c.toNat := rfl
  simp only [isHigh, isLow, pairValue, Bool.and_eq_true, decide_eq_true_eq]
  omega

/-- A kept string ends at its closing quote. -/
theorem keptString_quote (s : List Char) : keptString ('"' :: s) = .ok ([], s) := by
  rw [keptString, if_pos rfl]

/-- A kept string goes on after a plain character. -/
theorem keptString_plain {c : Char} (hc : isPlain c = true) (s : List Char) :
    keptString (c :: s) = (fun t => (c :: t.1, t.2)) <$> keptString s := by
  obtain ⟨hquote, hslash, hcontrol⟩ := of_isPlain hc
  rw [keptString, if_neg hquote, if_neg hslash, if_neg hcontrol]

/-- A kept string goes on after an escape. -/
theorem keptString_escape {s r : List Char} {c : Char} (h : keptEscape s = .ok (c, r)) :
    keptString ('\\' :: s) = (fun t => (c :: t.1, t.2)) <$> keptString r := by
  rw [keptString, if_neg (by decide), if_pos rfl]
  split
  · rename_i h'
    rw [h] at h'
    cases h'
    rfl
  · rename_i h'
    rw [h] at h'
    cases h'

/-- An escape is read as its character. -/
theorem keptEscape_append {c : Char} {e : List Char} (h : EscapeText c e) (s : List Char) :
    keptEscape (e ++ s) = .ok (c, s) := by
  cases h with
  | short he =>
    obtain ⟨hescaped, hu⟩ := escaped_of_mem he
    simp only [List.singleton_append, keptEscape, if_neg hu, hescaped]
  | unit hu =>
    obtain ⟨hhigh, hlow⟩ := not_half c
    simp only [List.cons_append, keptEscape, if_pos, hexUnit_of_unitText hu, bind, Except.bind,
      hhigh, hlow, Char.ofNat_toNat, Bool.false_eq_true, if_false]
  | pair hc h₁ h₂ =>
    obtain ⟨hhigh, hlow, hvalue⟩ := pairValue_halves hc
    simp only [List.cons_append, List.append_assoc, keptEscape, if_pos, hexUnit_of_unitText h₁,
      bind, Except.bind, hhigh, lowHalf, hexUnit_of_unitText h₂, hlow, hvalue, Char.ofNat_toNat]

/-- A string that is kept is read back from any of its spellings. -/
theorem keptString_of_spelling {v t : List Char} (h : Spelling v t) (s : List Char) :
    keptString (t ++ '"' :: s) = .ok (v, s) := by
  have hescape : ∀ {c : Char} {e v t : List Char}, EscapeText c e →
      keptString (t ++ '"' :: s) = .ok (v, s) →
      keptString ('\\' :: (e ++ (t ++ '"' :: s))) = .ok (c :: v, s) := by
    intro c e v t he ih
    rw [keptString_escape (keptEscape_append he _), ih]
    rfl
  induction h with
  | nil => exact keptString_quote s
  | plain hc _ ih =>
    rw [List.cons_append, keptString_plain hc, ih]
    rfl
  | short he _ ih => exact hescape (.short he) ih
  | unit hu _ ih => simpa using hescape (.unit hu) ih
  | pair hc hhigh hlow _ ih => simpa using hescape (.pair hc hhigh hlow) ih

/-- A skipped string goes on after an escape. -/
theorem skipString_escape {s r : List Char} (h : skipEscape s = .ok r) :
    skipString ('\\' :: s) = skipString r := by
  rw [skipString, if_neg (by decide), if_pos rfl]
  split
  · rename_i h'
    rw [h] at h'
    cases h'
    rfl
  · rename_i h'
    rw [h] at h'
    cases h'

/-- A string that is skipped is read over to its closing quote. -/
theorem skipString_of_stringText {t : List Char} (h : StringText t) (s : List Char) :
    skipString (t ++ '"' :: s) = .ok s := by
  induction h with
  | nil => rw [List.nil_append, skipString, if_pos rfl]
  | plain hc _ ih =>
    obtain ⟨hquote, hslash, hcontrol⟩ := of_isPlain hc
    rw [List.cons_append, skipString, if_neg hquote, if_neg hslash, if_neg hcontrol, ih]
  | @short e c t he _ ih =>
    obtain ⟨hescaped, hu⟩ := escaped_of_mem he
    have hescape : skipEscape (e :: (t ++ '"' :: s)) = .ok (t ++ '"' :: s) := by
      simp only [skipEscape, if_neg hu, hescaped, Option.isSome_some, if_true]
    rw [List.cons_append, List.cons_append, skipString_escape hescape, ih]
  | @unit n u t hu _ ih =>
    have hescape : skipEscape ('u' :: (u ++ (t ++ '"' :: s))) = .ok (t ++ '"' :: s) := by
      simp only [skipEscape, if_pos, hexUnit_of_unitText hu, Functor.map, Except.map]
    rw [List.cons_append, List.cons_append, List.append_assoc, skipString_escape hescape, ih]

/-! ## Numbers -/

/-- Digits, at least one. -/
def Digits (ds : List Char) : Prop := ds ≠ [] ∧ ∀ c ∈ ds, c.isDigit = true

instance (ds : List Char) : Decidable (Digits ds) :=
  @instDecidableAnd _ _ _ (List.decidableBAll _ ds)

/-- The digits before the point of a number, which begin with a zero only if there is no other. -/
def WholeText (ds : List Char) : Prop := Digits ds ∧ (ds.head? = some '0' → ds = ['0'])

instance (ds : List Char) : Decidable (WholeText ds) :=
  inferInstanceAs (Decidable (_ ∧ (_ → _)))

/-- The point and the digits after it, if there are any, given these digits. -/
inductive FractionText : List Char → List Char → Prop
  /-- There is no point. -/
  | none : FractionText [] []
  /-- There are digits after the point. -/
  | some {ds : List Char} (h : Digits ds) : FractionText ds ('.' :: ds)

/-- The sign of an exponent, given whether it is a minus. -/
inductive SignText : Bool → List Char → Prop
  /-- No sign is written. -/
  | none : SignText false []
  /-- A plus is written. -/
  | plus : SignText false ['+']
  /-- A minus is written. -/
  | minus : SignText true ['-']

/-- The exponent of a number, if there is one, given its value. -/
inductive ExponentText : Option Int → List Char → Prop
  /-- There is no exponent. -/
  | none : ExponentText none []
  /-- There is an exponent. -/
  | some {e : Char} {minus : Bool} {sign ds : List Char} (he : e = 'e' ∨ e = 'E')
      (hsign : SignText minus sign) (hds : Digits ds) :
      ExponentText (some (if minus then -(digitsValue ds : Int) else digitsValue ds))
        (e :: (sign ++ ds))

/-- A number without its sign, given its digits. -/
inductive FigureText : Figure → List Char → Prop
  /-- The parts of a number. -/
  | mk {w f ft et : List Char} {e : Option Int} (hw : WholeText w) (hf : FractionText f ft)
      (he : ExponentText e et) : FigureText ⟨w, f, e⟩ (w ++ (ft ++ et))

/-- A text does not go on with a number. -/
def Stops (s : List Char) : Prop :=
  ∀ c, s.head? = some c → c.isDigit = false ∧ c ≠ '.' ∧ c ≠ 'e' ∧ c ≠ 'E'

/-- The end of a text ends a number. -/
theorem stops_nil : Stops [] := by simp [Stops]

/-- White space ends a number, and so does what follows it if that does. -/
theorem stops_append {w s : List Char} (hw : Space w) (hs : Stops s) : Stops (w ++ s) := by
  cases w with
  | nil => exact hs
  | cons c w =>
    intro d hd
    obtain rfl := Option.some.inj hd
    have hspace := hw c List.mem_cons_self
    simp only [isSpace, Bool.or_eq_true, decide_eq_true_eq] at hspace
    rcases hspace with ((rfl | rfl) | rfl) | rfl <;> decide

/-- Digits are read to their end. -/
theorem digits_append {ds s : List Char} (h : Digits ds)
    (hs : ∀ c, s.head? = some c → c.isDigit = false) : digits (ds ++ s) = .ok (ds, s) := by
  obtain ⟨hne, hall⟩ := h
  have hrest : s.takeWhile Char.isDigit = [] ∧ s.dropWhile Char.isDigit = s := by
    cases s with
    | nil => exact ⟨rfl, rfl⟩
    | cons c s =>
      have hc := hs c rfl
      exact ⟨List.takeWhile_cons_of_neg (by simp [hc]), List.dropWhile_cons_of_neg (by simp [hc])⟩
  cases ds with
  | nil => exact absurd rfl hne
  | cons d ds =>
    have hds : ∀ c ∈ ds, c.isDigit = true := fun c hc => hall c (List.mem_cons_of_mem _ hc)
    simp only [List.cons_append, digits, hall d List.mem_cons_self, if_true,
      List.takeWhile_append_of_pos hds, List.dropWhile_append_of_pos hds, hrest, List.append_nil]

/-- The digits before the point are read to their end. -/
theorem whole_append {ds s : List Char} (h : WholeText ds)
    (hs : ∀ c, s.head? = some c → c.isDigit = false) : whole (ds ++ s) = .ok (ds, s) := by
  obtain ⟨hds, hzero⟩ := h
  simp only [whole, digits_append hds hs, bind, Except.bind]
  split
  · cases hzero rfl
  · rfl

/-- The digits after the point are read to their end. -/
theorem fraction_append {ds t s : List Char} (h : FractionText ds t)
    (hs : ∀ c, s.head? = some c → c.isDigit = false ∧ c ≠ '.') :
    fraction (t ++ s) = .ok (ds, s) := by
  cases h with
  | none =>
    rw [List.nil_append]
    unfold fraction
    split
    · exact absurd rfl (hs '.' rfl).2
    · rfl
  | some hds => exact digits_append hds fun c hc => (hs c hc).1

/-- The sign of an exponent is read before its digits. -/
theorem exponentSign_append {minus : Bool} {sign ds : List Char} (h : SignText minus sign)
    (hds : Digits ds) (s : List Char) : exponentSign (sign ++ (ds ++ s)) = (minus, ds ++ s) := by
  cases h with
  | none =>
    obtain ⟨hne, hall⟩ := hds
    cases ds with
    | nil => exact absurd rfl hne
    | cons d ds =>
      have hd := hall d List.mem_cons_self
      rw [List.nil_append, List.cons_append]
      unfold exponentSign
      split
      · rename_i hcons
        obtain ⟨rfl, -⟩ := List.cons.inj hcons
        exact absurd hd (by decide)
      · rename_i hcons
        obtain ⟨rfl, -⟩ := List.cons.inj hcons
        exact absurd hd (by decide)
      · rfl
  | plus => rfl
  | minus => rfl

/-- An exponent is read to its end. -/
theorem exponent_append {e : Option Int} {t s : List Char} (h : ExponentText e t) (hs : Stops s) :
    exponent (t ++ s) = .ok (e, s) := by
  cases h with
  | none =>
    cases s with
    | nil => rfl
    | cons c s =>
      obtain ⟨-, -, he, hE⟩ := hs c rfl
      rw [List.nil_append]
      simp only [exponent, he, hE, or_self, if_false]
  | some he hsign hds =>
    rw [List.cons_append, List.append_assoc]
    simp only [exponent, if_pos he, exponentSign_append hsign hds,
      digits_append hds fun c hc => (hs c hc).1, bind, Except.bind]

/-- What begins with the point or the exponent of a number does not go on with the digits before
it. -/
theorem head_of_tail {f ft et s : List Char} {e : Option Int} (hf : FractionText f ft)
    (he : ExponentText e et) (hs : Stops s) :
    ∀ c, (ft ++ (et ++ s)).head? = some c → c.isDigit = false := by
  intro c hc
  cases hf with
  | some =>
    obtain rfl := Option.some.inj hc
    decide
  | none =>
    cases he with
    | some hletter =>
      obtain rfl := Option.some.inj hc
      rcases hletter with rfl | rfl <;> decide
    | none => exact (hs c hc).1

/-- What begins with the exponent of a number does not go on with the digits after the point. -/
theorem head_of_exponent {et s : List Char} {e : Option Int} (he : ExponentText e et)
    (hs : Stops s) : ∀ c, (et ++ s).head? = some c → c.isDigit = false ∧ c ≠ '.' := by
  intro c hc
  cases he with
  | some hletter =>
    obtain rfl := Option.some.inj hc
    rcases hletter with rfl | rfl <;> decide
  | none => exact ⟨(hs c hc).1, (hs c hc).2.1⟩

/-- A number is read to its end. -/
theorem figure_append {g : Figure} {t s : List Char} (h : FigureText g t) (hs : Stops s) :
    figure (t ++ s) = .ok (g, s) := by
  cases h with
  | mk hw hf he =>
    simp only [List.append_assoc, figure, whole_append hw (head_of_tail hf he hs),
      fraction_append hf (head_of_exponent he hs), exponent_append he hs, bind, Except.bind]

/-- The first digit of a number. -/
theorem head_of_figureText {g : Figure} {t : List Char} (h : FigureText g t) :
    ∃ c s, t = c :: s ∧ c.isDigit = true := by
  cases h with
  | @mk w f ft et e hw hf he =>
    obtain ⟨⟨hne, hall⟩, -⟩ := hw
    cases w with
    | nil => exact absurd rfl hne
    | cons c w => exact ⟨c, _, rfl, hall c List.mem_cons_self⟩

/-- Further digits do not lessen a number. -/
theorem le_foldl_digits (ds : List Char) (n : Nat) :
    n ≤ ds.foldl (fun n c => 10 * n + Decimal.digitValue c) n := by
  induction ds generalizing n with
  | nil => exact Nat.le_refl n
  | cons c ds ih =>
    have hstep : n ≤ 10 * n + Decimal.digitValue c := by omega
    exact Nat.le_trans hstep (ih _)

/-- Digits are absorbed as far as the number that they make has 64 bits. -/
theorem absorb_eq {ds : List Char} {n : Nat}
    (h : ds.foldl (fun n c => 10 * n + Decimal.digitValue c) n < UInt64.size) :
    absorb n ds = (ds.foldl (fun n c => 10 * n + Decimal.digitValue c) n, 0) := by
  induction ds generalizing n with
  | nil => rfl
  | cons c ds ih =>
    have hlt : 10 * n + Decimal.digitValue c < UInt64.size :=
      Nat.lt_of_le_of_lt (le_foldl_digits ds _) h
    rw [absorb, if_pos hlt, ih h]
    rfl

/-- A number of 64 bits without a sign is read back from its digits. -/
theorem keptNumber_append {ds s : List Char} {n : UInt64} (hds : WholeText ds)
    (hn : digitsValue ds = n.toNat) (hs : Stops s) :
    keptNumber false (ds ++ s) = .ok (.natural n, s) := by
  have htext : FigureText ⟨ds, [], none⟩ ds := by
    simpa using FigureText.mk hds .none .none
  have habsorb : absorb 0 ds = (n.toNat, 0) := by
    have hlt : digitsValue ds < UInt64.size := hn ▸ n.toNat_lt_size
    rw [absorb_eq hlt]
    exact Prod.ext hn rfl
  have hvalue : (⟨ds, [], none⟩ : Figure).value false = some (.natural n) := by
    simp only [Figure.value, habsorb]
    simp
  simp only [keptNumber, figure_append htext hs, bind, Except.bind, hvalue]

end IssueSteward.Payload
