import IssueSteward.Payload.Fault
import IssueSteward.Text.HexDigit

/-!
# The smallest parts of a payload

Readers of literals, strings and numbers. A reader takes the text from its place on and gives what
it read with the text that is left, which is always shorter (`keptString_length` and the like), or
the fault that it met.

A string or a number is read in one of two ways. What is kept has to have a value: its escapes have
to make up characters, and its numbers have to be finite. What is only skipped need not; on the
other hand, a skipped number that the text breaks off counts as malformed and not as truncated.
-/

namespace IssueSteward.Payload

open Decimal

/-- A sequence of two steps ends well exactly when both do. -/
theorem bind_eq_ok {ε α β : Type} {x : Except ε α} {f : α → Except ε β} {b : β} :
    (x >>= f) = .ok b ↔ ∃ a, x = .ok a ∧ f a = .ok b := by
  cases x <;> simp [bind, Except.bind]

/-- A mapped reading ends well exactly when the reading does. -/
theorem map_eq_ok {ε α β : Type} {x : Except ε α} {f : α → β} {b : β} :
    (f <$> x) = .ok b ↔ ∃ a, x = .ok a ∧ f a = b := by
  cases x <;> simp [Functor.map, Except.map]

/-- A result yields a value exactly when it is that value. -/
theorem toOption_eq_some_iff {ε α : Type} {x : Except ε α} {a : α} :
    x.toOption = some a ↔ x = .ok a := by
  cases x <;> simp [Except.toOption]

/-- Whether a character is white space between the parts of a payload. -/
def isSpace (c : Char) : Bool := c = ' ' || c = '\n' || c = '\t' || c = '\r'

/-- A text without the white space at its beginning. -/
def skipSpace (s : List Char) : List Char := s.dropWhile isSpace

/-- Skipping white space does not lengthen a text. -/
theorem skipSpace_length (s : List Char) : (skipSpace s).length ≤ s.length :=
  (List.dropWhile_sublist _).length_le

/-- What is left when a text does not begin with white space has a first character. -/
theorem length_lt_of_skipSpace {s r : List Char} {c : Char} (h : skipSpace s = c :: r) :
    r.length < s.length := by
  have := skipSpace_length s
  simp only [h, List.length_cons] at this
  omega

/-! ## Literals -/

/-- What follows the given letters. -/
def literal : List Char → List Char → Except Fault (List Char)
  | [], s => .ok s
  | _ :: _, [] => .error .truncated
  | w :: word, c :: s => if c = w then literal word s else .error .malformed

/-- Reading a literal does not lengthen the text. -/
theorem literal_length {word s r : List Char} (h : literal word s = .ok r) :
    r.length ≤ s.length := by
  fun_induction literal word s with
  | case1 s => cases h; exact Nat.le_refl _
  | case2 => cases h
  | case3 w word s ih => exact Nat.le_succ_of_le (ih h)
  | case4 => cases h

/-! ## Strings -/

/-- The number of bytes that a text takes in UTF-8. -/
def byteCount : List Char → Nat
  | [] => 0
  | c :: s => c.utf8Size + byteCount s

/-- The number that four hexadecimal digits write. The text counts as truncated only when fewer than
four bytes of it are left, whatever they are. -/
def hexUnit : List Char → Except Fault (Nat × List Char)
  | a :: b :: c :: d :: s =>
    match Text.hexDigit? a, Text.hexDigit? b, Text.hexDigit? c, Text.hexDigit? d with
    | some a, some b, some c, some d => .ok (((a * 16 + b) * 16 + c) * 16 + d, s)
    | _, _, _, _ => .error .malformed
  | s => if byteCount s < 4 then .error .truncated else .error .malformed

/-- Reading four hexadecimal digits shortens the text. -/
theorem hexUnit_length {s r : List Char} {n : Nat} (h : hexUnit s = .ok (n, r)) :
    r.length < s.length := by
  unfold hexUnit at h
  split at h
  · split at h
    · cases h; simp only [List.length_cons]; omega
    · cases h
  · split at h <;> cases h

/-- The character that a letter stands for after a backslash. -/
def escaped? : Char → Option Char
  | '"' => some '"'
  | '\\' => some '\\'
  | '/' => some '/'
  | 'b' => some '\x08'
  | 'f' => some '\x0c'
  | 'n' => some '\n'
  | 'r' => some '\r'
  | 't' => some '\t'
  | _ => none

/-- Whether a number is the first half of a pair that writes one character. -/
def isHigh (n : Nat) : Bool := 0xD800 ≤ n && n ≤ 0xDBFF

/-- Whether a number is the second half of a pair that writes one character. -/
def isLow (n : Nat) : Bool := 0xDC00 ≤ n && n ≤ 0xDFFF

/-- The code point that a pair writes. -/
def pairValue (high low : Nat) : Nat := (high - 0xD800) * 0x400 + (low - 0xDC00) + 0x10000

/-- The character that the second half of a pair completes. -/
def lowHalf (high : Nat) : List Char → Except Fault (Char × List Char)
  | '\\' :: 'u' :: s => do
    let (low, r) ← hexUnit s
    if isLow low then .ok (Char.ofNat (pairValue high low), r) else .error .malformed
  | [] => .error .truncated
  | ['\\'] => .error .truncated
  | _ => .error .malformed

/-- Reading the second half of a pair shortens the text. -/
theorem lowHalf_length {s r : List Char} {high : Nat} {c : Char}
    (h : lowHalf high s = .ok (c, r)) : r.length < s.length := by
  unfold lowHalf at h
  split at h
  · obtain ⟨⟨low, r'⟩, hu, h⟩ := bind_eq_ok.1 h
    have := hexUnit_length hu
    dsimp only at h
    split at h
    · obtain ⟨-, rfl⟩ := Prod.mk.inj (Except.ok.inj h)
      simp only [List.length_cons]; omega
    · cases h
  all_goals cases h

/-- The character that is written after a backslash. -/
def keptEscape : List Char → Except Fault (Char × List Char)
  | [] => .error .truncated
  | c :: s =>
    if c = 'u' then do
      let (n, r) ← hexUnit s
      if isHigh n then lowHalf n r
      -- A second half without a first.
      else if isLow n then .error .malformed
      else .ok (Char.ofNat n, r)
    else
      match escaped? c with
      | some d => .ok (d, s)
      | none => .error .malformed

/-- Reading an escape shortens the text. -/
theorem keptEscape_length {s r : List Char} {c : Char} (h : keptEscape s = .ok (c, r)) :
    r.length < s.length := by
  unfold keptEscape at h
  split at h
  · cases h
  · split at h
    · obtain ⟨⟨n, r'⟩, hu, h⟩ := bind_eq_ok.1 h
      have := hexUnit_length hu
      dsimp only at h
      split at h
      · have := lowHalf_length h
        simp only [List.length_cons]; omega
      · split at h
        · cases h
        · obtain ⟨-, rfl⟩ := Prod.mk.inj (Except.ok.inj h)
          simp only [List.length_cons]; omega
    · split at h
      · cases h; simp
      · cases h

/-- The characters of a string that is kept, from after its opening quote on. -/
def keptString (s : List Char) : Except Fault (List Char × List Char) :=
  match s with
  | [] => .error .truncated
  | c :: s =>
    if c = '"' then .ok ([], s)
    else if c = '\\' then
      match _h : keptEscape s with
      | .ok (d, r) => (fun t => (d :: t.1, t.2)) <$> keptString r
      | .error f => .error f
    -- Controls have to be escaped.
    else if c < ' ' then .error .malformed
    else (fun t => (c :: t.1, t.2)) <$> keptString s
termination_by s.length
decreasing_by
  · have := keptEscape_length _h
    simp only [List.length_cons]; omega
  · simp

/-- Reading a string, with its closing quote, shortens the text. -/
theorem keptString_length {s r t : List Char} (h : keptString s = .ok (t, r)) :
    r.length < s.length := by
  fun_induction keptString s generalizing t with
  | case1 => cases h
  | case2 => cases h; simp
  | case3 s d r' he _ ih =>
    -- an escape and what follows it
    obtain ⟨⟨u, v⟩, hu, h⟩ := map_eq_ok.1 h
    cases h
    have := ih hu
    have := keptEscape_length he
    simp only [List.length_cons] at *; omega
  | case4 => cases h
  | case5 => cases h
  | case6 c s _ _ _ ih =>
    -- any other character and what follows it
    obtain ⟨⟨u, v⟩, hu, h⟩ := map_eq_ok.1 h
    cases h
    exact Nat.lt_succ_of_lt (ih hu)

/-- What follows the escape of a skipped string, from after its backslash on. -/
def skipEscape : List Char → Except Fault (List Char)
  | [] => .error .truncated
  | c :: s =>
    -- Halves of pairs need not match here.
    if c = 'u' then Prod.snd <$> hexUnit s
    else if (escaped? c).isSome then .ok s
    else .error .malformed

/-- Skipping an escape shortens the text. -/
theorem skipEscape_length {s r : List Char} (h : skipEscape s = .ok r) : r.length < s.length := by
  unfold skipEscape at h
  split at h
  · cases h
  · split at h
    · obtain ⟨⟨n, r'⟩, hu, rfl⟩ := map_eq_ok.1 h
      exact Nat.lt_succ_of_lt (hexUnit_length hu)
    · split at h
      · cases h; simp
      · cases h

/-- What follows a skipped string, from after its opening quote on. -/
def skipString (s : List Char) : Except Fault (List Char) :=
  match s with
  | [] => .error .truncated
  | c :: s =>
    if c = '"' then .ok s
    else if c = '\\' then
      match _h : skipEscape s with
      | .ok r => skipString r
      | .error f => .error f
    else if c < ' ' then .error .malformed
    else skipString s
termination_by s.length
decreasing_by
  · have := skipEscape_length _h
    simp only [List.length_cons]; omega
  · simp

/-- Skipping a string, with its closing quote, shortens the text. -/
theorem skipString_length {s r : List Char} (h : skipString s = .ok r) : r.length < s.length := by
  fun_induction skipString s with
  | case1 => cases h
  | case2 => cases h; simp
  | case3 s r' he _ ih =>
    have := ih h
    have := skipEscape_length he
    simp only [List.length_cons]; omega
  | case4 => cases h
  | case5 => cases h
  | case6 c s _ _ _ ih => exact Nat.lt_succ_of_lt (ih h)

/-! ## Numbers -/

/-- The digits of a number without its sign. -/
structure Figure where
  /-- The digits before the point. -/
  whole : List Char
  /-- The digits after the point. -/
  fraction : List Char
  /-- The exponent, if one is written. -/
  exponent : Option Int
deriving DecidableEq, Repr

/-- Digits, at least one. -/
def digits : List Char → Except Fault (List Char × List Char)
  | [] => .error .truncated
  | c :: s =>
    if c.isDigit then .ok (c :: s.takeWhile Char.isDigit, s.dropWhile Char.isDigit)
    else .error .malformed

/-- There is at least one digit, so the text gets shorter. -/
theorem digits_length {s r ds : List Char} (h : digits s = .ok (ds, r)) : r.length < s.length := by
  unfold digits at h
  split at h
  · cases h
  · split at h
    · cases h
      exact Nat.lt_succ_of_le (List.dropWhile_sublist _).length_le
    · cases h

/-- The digits before the point, which begin with a zero only if there is no other. -/
def whole (s : List Char) : Except Fault (List Char × List Char) := do
  let (ds, r) ← digits s
  match ds with
  -- A leading zero has to be the only digit.
  | '0' :: _ :: _ => .error .malformed
  | _ => .ok (ds, r)

/-- There is at least one digit before the point. -/
theorem whole_length {s r ds : List Char} (h : whole s = .ok (ds, r)) : r.length < s.length := by
  obtain ⟨⟨ds', r'⟩, hd, h⟩ := bind_eq_ok.1 h
  have := digits_length hd
  dsimp only at h
  split at h
  · cases h
  · cases h; exact this

/-- The digits after the point, if there is one. -/
def fraction : List Char → Except Fault (List Char × List Char)
  | '.' :: s => digits s
  | s => .ok ([], s)

/-- There may be no digit after the point, but the text does not get longer. -/
theorem fraction_length {s r ds : List Char} (h : fraction s = .ok (ds, r)) :
    r.length ≤ s.length := by
  unfold fraction at h
  split at h
  · exact Nat.le_succ_of_le (Nat.le_of_lt (digits_length h))
  · cases h; exact Nat.le_refl _

/-- Whether a sign before an exponent is a minus, and what follows the sign. -/
def exponentSign : List Char → Bool × List Char
  | '-' :: s => (true, s)
  | '+' :: s => (false, s)
  | s => (false, s)

/-- Reading a sign does not lengthen the text. -/
theorem exponentSign_length (s : List Char) : (exponentSign s).2.length ≤ s.length := by
  unfold exponentSign
  split <;> simp

/-- The number that digits write. -/
def digitsValue (ds : List Char) : Nat := ds.foldl (fun n c => 10 * n + digitValue c) 0

/-- The exponent, if one is written. -/
def exponent : List Char → Except Fault (Option Int × List Char)
  | [] => .ok (none, [])
  | c :: s =>
    if c = 'e' ∨ c = 'E' then do
      let (ds, r) ← digits (exponentSign s).2
      let n : Int := digitsValue ds
      .ok (some (if (exponentSign s).1 then -n else n), r)
    else .ok (none, c :: s)

/-- Reading an exponent does not lengthen the text. -/
theorem exponent_length {s r : List Char} {e : Option Int} (h : exponent s = .ok (e, r)) :
    r.length ≤ s.length := by
  unfold exponent at h
  split at h
  · cases h; exact Nat.le_refl _
  · rename_i c s
    split at h
    · obtain ⟨⟨ds, r'⟩, hd, h⟩ := bind_eq_ok.1 h
      have := digits_length hd
      have := exponentSign_length s
      cases h
      simp only [List.length_cons]; omega
    · cases h; exact Nat.le_refl _

/-- The digits of a number, from after its sign on. -/
def figure (s : List Char) : Except Fault (Figure × List Char) := do
  let (w, s) ← whole s
  let (f, s) ← fraction s
  let (e, s) ← exponent s
  .ok (⟨w, f, e⟩, s)

/-- Reading the digits of a number shortens the text. -/
theorem figure_length {s r : List Char} {g : Figure} (h : figure s = .ok (g, r)) :
    r.length < s.length := by
  obtain ⟨⟨w, s₁⟩, hw, h⟩ := bind_eq_ok.1 h
  obtain ⟨⟨f, s₂⟩, hf, h⟩ := bind_eq_ok.1 h
  obtain ⟨⟨e, s₃⟩, he, h⟩ := bind_eq_ok.1 h
  have := whole_length hw
  have := fraction_length hf
  have := exponent_length he
  dsimp only at *
  cases h
  omega

/-- A number that is kept. -/
inductive Number where
  /-- A whole number without a sign, of 64 bits. -/
  | natural (n : UInt64)
  /-- A whole number with a sign, of 64 bits, by its magnitude. -/
  | negative (n : Nat)
  /-- Any other number, by its sign and its magnitude. -/
  | floating (negative : Bool) (x : Binary64)
deriving DecidableEq, Repr

/-- What a kept number counts as where something else is wanted. -/
def Number.found : Number → Found
  | .natural n => .integer n.toNat
  | .negative n => .integer (-(n : Int))
  | .floating minus x => .floating minus x

/-- The number that digits make of the number read so far as long as it has 64 bits, and how many
digits are left over. -/
def absorb (n : Nat) : List Char → Nat × Nat
  | [] => (n, 0)
  | c :: s =>
    if 10 * n + digitValue c < UInt64.size then absorb (10 * n + digitValue c) s
    else (n, s.length + 1)

/-- The value of a number, unless it is too large to be finite. -/
def Figure.value (g : Figure) (negative : Bool) : Option Number :=
  let (n, extra) := absorb 0 g.whole
  if g.fraction = [] ∧ g.exponent = none ∧ extra = 0 then
    if !negative then some (.natural (UInt64.ofNat n))
    else if 0 < n ∧ n ≤ Nat.pow 2 63 then some (.negative n)
    -- A zero with a sign, and what lies below the least whole number of 64 bits.
    else .floating true <$> Binary64.ofNat n
  else
    -- Digits that no longer fit are dropped: before the point each counts as a power of ten, and
    -- after it as none.
    let (n, unread) := absorb n g.fraction
    let e : Int := g.exponent.getD 0 + extra - (g.fraction.length - unread : Nat)
    .floating negative <$> Binary64.ofDecimal n e

/-- A number that is kept, from after its sign on. -/
def keptNumber (negative : Bool) (s : List Char) : Except Fault (Number × List Char) := do
  let (g, r) ← figure s
  match g.value negative with
  | some n => .ok (n, r)
  | none => .error .malformed

/-- Reading a number shortens the text. -/
theorem keptNumber_length {negative : Bool} {s r : List Char} {n : Number}
    (h : keptNumber negative s = .ok (n, r)) : r.length < s.length := by
  obtain ⟨⟨g, r'⟩, hg, h⟩ := bind_eq_ok.1 h
  have := figure_length hg
  dsimp only at h
  split at h
  · cases h; exact this
  · cases h

/-- What follows a skipped number, from after its sign on. -/
def skipNumber (s : List Char) : Except Fault (List Char) :=
  match figure s with
  | .ok (_, r) => .ok r
  | .error _ => .error .malformed

/-- Skipping a number shortens the text. -/
theorem skipNumber_length {s r : List Char} (h : skipNumber s = .ok r) : r.length < s.length := by
  unfold skipNumber at h
  split at h
  · cases h; exact figure_length ‹_›
  · cases h

end IssueSteward.Payload
