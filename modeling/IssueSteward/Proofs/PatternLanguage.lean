import IssueSteward.Pattern.Mode
import IssueSteward.Proofs.PatternMatching
import IssueSteward.Proofs.Search

/-!
# The language of a pattern

A pattern that looks at no place describes parts of texts, wherever they stand (`Describes`), and a
pattern that leads on tells what a text begins with (`Starts`). Both are found from the parts of a
pattern: the lemmas here do so for what the patterns of running text are made of. Letters of any
case describe what folds to them (`describes_word`, `leads_spelled`).
-/

namespace IssueSteward

open Text

namespace Pattern

/-! ## What a pattern describes -/

/-- A place is reached from another one past a part of a text. -/
def Place.Past (x : Place) (k : List Char) (y : Place) : Prop :=
  x.rest = k ++ y.rest ∧ y.before = k.getLast?.or x.before

/-- A pattern describes the parts of texts past which it leads, wherever they stand. -/
def Describes (p : Pattern) (D : List Char → Prop) : Prop :=
  ∀ x y, p.Leads x y ↔ ∃ k, D k ∧ x.Past k y

variable {p q : Pattern} {D E : List Char → Prop} {x y : Place} {k s : List Char}

/-- Past nothing a place is reached from itself alone. -/
theorem past_nil : x.Past [] y ↔ x = y := by
  constructor
  · rintro ⟨hrest, hbefore⟩
    exact Place.ext hbefore.symm hrest
  · rintro rfl
    exact ⟨rfl, rfl⟩

/-- One part of a text and then another are passed together. -/
theorem past_append : x.Past (k ++ s) y ↔ ∃ z, x.Past k z ∧ z.Past s y := by
  unfold Place.Past
  rw [List.getLast?_append, Option.or_assoc, List.append_assoc]
  constructor
  · rintro ⟨hrest, hbefore⟩
    exact ⟨⟨k.getLast?.or x.before, s ++ y.rest⟩, ⟨hrest, rfl⟩, rfl, hbefore⟩
  · rintro ⟨z, ⟨hrest, hbefore⟩, hrest', hbefore'⟩
    rw [hrest, hrest', hbefore', hbefore]
    exact ⟨rfl, rfl⟩

/-- What a text goes on with can be passed. -/
theorem exists_past (h : x.rest = k ++ s) : ∃ y, x.Past k y ∧ y.rest = s :=
  ⟨⟨k.getLast?.or x.before, s⟩, ⟨h, rfl⟩, rfl⟩

/-- The empty pattern describes nothing at all. -/
theorem describes_empty : empty.Describes (· = []) := by
  intro x y
  simp only [exists_eq_left, past_nil]
  rfl

/-- The test of a character describes the characters that it accepts. -/
theorem describes_char (accepts : Char → Bool) (room : Nat) :
    (char accepts room).Describes fun k => ∃ c, k = [c] ∧ accepts c = true := by
  intro x y
  constructor
  · rintro ⟨c, hrest, hbefore, haccepts⟩
    exact ⟨[c], ⟨c, rfl, haccepts⟩, hrest, hbefore⟩
  · rintro ⟨_, ⟨c, rfl, haccepts⟩, hrest, hbefore⟩
    exact ⟨c, hrest, hbefore, haccepts⟩

/-- One pattern and then another describe what each of them describes, put together. -/
theorem Describes.seq (hp : p.Describes D) (hq : q.Describes E) :
    (seq p q).Describes fun k => ∃ s t, k = s ++ t ∧ D s ∧ E t := by
  intro x y
  constructor
  · rintro ⟨z, hleft, hright⟩
    obtain ⟨s, hs, hz⟩ := (hp x z).1 hleft
    obtain ⟨t, ht, hy⟩ := (hq z y).1 hright
    exact ⟨s ++ t, ⟨s, t, rfl, hs, ht⟩, past_append.2 ⟨z, hz, hy⟩⟩
  · rintro ⟨_, ⟨s, t, rfl, hs, ht⟩, h⟩
    obtain ⟨z, hz, hy⟩ := past_append.1 h
    exact ⟨z, (hp x z).2 ⟨s, hs, hz⟩, (hq z y).2 ⟨t, ht, hy⟩⟩

/-- One pattern or another describe what one of them describes. -/
theorem Describes.alt (hp : p.Describes D) (hq : q.Describes E) :
    (alt p q).Describes fun k => D k ∨ E k := by
  intro x y
  simp only [or_and_right, exists_or]
  exact or_congr (hp x y) (hq x y)

/-- A pattern that describes the same as another one in other words. -/
theorem Describes.congr (hp : p.Describes D) (h : ∀ k, E k ↔ D k) : p.Describes E := by
  intro x y
  simp only [h]
  exact hp x y

/-- The test of a character, repeated, describes so many characters that it accepts. -/
theorem repeats_char (accepts : Char → Bool) (room n : Nat) :
    Repeats (char accepts room).Leads n x y ↔
      ∃ k, (k.length = n ∧ ∀ c ∈ k, accepts c = true) ∧ x.Past k y := by
  induction n generalizing x with
  | zero =>
    simp only [Repeats, List.length_eq_zero_iff]
    constructor
    · rintro rfl
      exact ⟨[], ⟨rfl, by simp⟩, past_nil.2 rfl⟩
    · rintro ⟨_, ⟨rfl, -⟩, h⟩
      exact past_nil.1 h
  | succ n ih =>
    simp only [Repeats, describes_char accepts room x, ih]
    constructor
    · rintro ⟨z, ⟨_, ⟨c, rfl, hc⟩, hz⟩, k, ⟨rfl, hk⟩, hy⟩
      exact ⟨c :: k, ⟨rfl, List.forall_mem_cons.2 ⟨hc, hk⟩⟩, past_append.2 ⟨z, hz, hy⟩⟩
    · rintro ⟨k, ⟨hlength, hk⟩, h⟩
      obtain ⟨c, k, rfl⟩ := List.exists_cons_of_length_eq_add_one hlength
      obtain ⟨hc, hk⟩ := List.forall_mem_cons.1 hk
      obtain ⟨z, hz, hy⟩ := (past_append (k := [c])).1 h
      exact ⟨z, ⟨[c], ⟨c, rfl, hc⟩, hz⟩, k, ⟨Nat.succ.inj hlength, hk⟩, hy⟩

/-- The test of a character, repeated without an upper bound, describes at least so many characters
that it accepts. -/
theorem describes_times_char (accepts : Char → Bool) (room least : Nat) :
    (times (char accepts room) least none).Describes fun k =>
      least ≤ k.length ∧ ∀ c ∈ k, accepts c = true := by
  intro x y
  constructor
  · rintro ⟨_, hleast, -, hrepeats⟩
    obtain ⟨k, ⟨rfl, hk⟩, h⟩ := (repeats_char accepts room _).1 hrepeats
    exact ⟨k, ⟨hleast, hk⟩, h⟩
  · rintro ⟨k, ⟨hleast, hk⟩, h⟩
    exact ⟨k.length, hleast, by simp, (repeats_char accepts room _).2 ⟨k, ⟨rfl, hk⟩, h⟩⟩

/-- A pattern that may be left out describes nothing too. -/
theorem Describes.optional (hp : p.Describes D) :
    (times p 0 (some 1)).Describes fun k => k = [] ∨ D k := by
  intro x y
  simp only [or_and_right, exists_or, exists_eq_left, past_nil, ← hp x y]
  constructor
  · rintro ⟨n, -, hmost, h⟩
    have hn : n ≤ 1 := hmost 1 rfl
    obtain rfl | rfl : n = 0 ∨ n = 1 := by omega
    · exact .inl h
    · obtain ⟨z, hz, rfl⟩ := h
      exact .inr hz
  · rintro (rfl | h)
    · exact ⟨0, Nat.le_refl _, by simp, rfl⟩
    · exact ⟨1, Nat.zero_le _, by simp, y, h, rfl⟩

/-- A pattern that may be left out leads nowhere else from every place. -/
theorem leads_times_zero (p : Pattern) (x : Place) : (times p 0 none).Leads x x :=
  ⟨0, Nat.le_refl _, by simp, rfl⟩

/-! ## Letters of any case -/

/-- The mode in which letters count as equal in every case. -/
def anyCase : Mode := { anyCase := true }

/-- The pattern of a letter in any case. -/
def letter (c : Char) : Pattern := char (anyCase.close (· == c)) 200

/-- The pattern of a word in letters of any case. -/
def word : List Char → Pattern
  | [] => empty
  | [c] => letter c
  | c :: s => seq (letter c) (word s)

/-- The pattern of a word in letters of any case, and of what has to follow it. -/
def spelled (w : List Char) (p : Pattern) : Pattern := w.foldr (fun c p => seq (letter c) p) p

/-- A rule of folding that starts in ASCII is the one for capitals. -/
theorem rule_from_ascii : ∀ r ∈ foldRules, r.first < 0x80 → r.first = 0x41 ∧ r.last = 0x5A := by
  decide +kernel

/-- Whether a character is one of ASCII but no capital. Such a character folds to itself. -/
def isFolded (w : Char) : Bool :=
  0 < w.toNat && w.toNat < 0x80 && !(0x41 ≤ w.toNat && w.toNat ≤ 0x5A)

/-- The code points of such characters. -/
theorem isFolded_iff {w : Char} : isFolded w = true ↔
    0 < w.toNat ∧ w.toNat < 0x80 ∧ ¬ (0x41 ≤ w.toNat ∧ w.toNat ≤ 0x5A) := by
  simp only [isFolded, Bool.and_eq_true, Bool.not_eq_true', Bool.and_eq_false_iff,
    decide_eq_true_eq, decide_eq_false_iff_not]
  omega

/-- The pattern of a letter accepts what folds to it. -/
theorem close_eq_iff {w d : Char} (hw : isFolded w = true) :
    anyCase.close (· == w) d = true ↔ simpleFold d = w := by
  obtain ⟨hpos, hascii, hsmall⟩ := isFolded_iff.1 hw
  have hvariants : anyCase.close (· == w) d = (caseVariants d).any (· == w) := rfl
  rw [hvariants, List.any_beq', List.contains_iff_mem]
  constructor
  · intro hmem
    rcases List.mem_cons.1 hmem with h | hmem
    · exact h.symm
    obtain ⟨n, hn, rfl⟩ := List.mem_map.1 hmem
    obtain ⟨r, hr, hsource⟩ := List.mem_filterMap.1 hn
    rw [toNat_ofNat_of_pos hpos] at hascii hsmall
    unfold FoldRule.source? at hsource
    split at hsource
    · obtain ⟨-, hlast, -⟩ := ‹_ ∧ _›
      have hvalue := Option.some.inj hsource
      -- only capitals fold to something else
      obtain ⟨hfirst, hlast'⟩ := rule_from_ascii r hr (by omega)
      exact absurd ⟨by omega, by omega⟩ hsmall
    · cases hsource
  · rintro rfl
    exact mem_caseVariants_fold d

/-- The pattern of a letter describes one character, which folds to it. -/
theorem describes_letter {w : Char} (hw : isFolded w = true) :
    (letter w).Describes fun k => k.map simpleFold = [w] := by
  refine (describes_char _ 200).congr fun k => ?_
  simp only [close_eq_iff hw]
  constructor
  · intro hk
    obtain ⟨d, k, rfl⟩ := List.exists_cons_of_length_eq_add_one
      (n := 0) (by simpa using congrArg List.length hk)
    obtain ⟨hd, hk⟩ := List.cons.inj hk
    exact ⟨d, by rw [List.map_eq_nil_iff.1 hk], hd⟩
  · rintro ⟨d, rfl, rfl⟩
    rfl

/-- A character of ASCII to which no other one folds. -/
def Alone (w : Char) : Prop :=
  isFolded w = true ∧ fold w = w ∧ fold 'ſ' ≠ w ∧ fold '\u212A' ≠ w ∧
    ∀ n < 0x80, fold (Char.ofNat n) = w → Char.ofNat n = w

instance (w : Char) : Decidable (Alone w) := inferInstanceAs (Decidable (_ ∧ _))

/-- Such a character is what it folds to, and nothing else folds to it. -/
theorem Alone.simpleFold_iff {w d : Char} (hw : Alone w) : simpleFold d = w ↔ d = w := by
  obtain ⟨hfolded, hself, hs, hk, hothers⟩ := hw
  obtain ⟨hpos, hascii, -⟩ := isFolded_iff.1 hfolded
  constructor
  · intro hd
    have hnear : NearAscii d := nearAscii_of_simpleFold (hd ▸ hpos) (hd ▸ hascii)
    rw [simpleFold_eq_fold hnear] at hd
    rcases hnear with hlow | rfl | rfl
    · rw [← Char.ofNat_toNat d] at hd ⊢
      exact hothers _ hlow hd
    · exact absurd hd hs
    · exact absurd hd hk
  · rintro rfl
    rw [simpleFold_eq_fold (.inl hascii), hself]

/-- The pattern of such a character describes it and nothing else. -/
theorem Alone.describes {w : Char} (hw : Alone w) : (letter w).Describes (· = [w]) := by
  refine (describes_letter hw.1).congr fun k => ?_
  constructor
  · rintro rfl
    rw [List.map_singleton, hw.simpleFold_iff.2 rfl]
  · intro hk
    obtain ⟨d, hd, hsame⟩ := List.map_eq_singleton_iff.1 hk
    rw [hd, hw.simpleFold_iff.1 hsame]

/-- The pattern of a word describes what folds to it. -/
theorem describes_word {w : List Char} (hw : w.all isFolded = true) :
    (word w).Describes fun k => k.map simpleFold = w := by
  induction w with
  | nil => exact describes_empty.congr fun k => List.map_eq_nil_iff
  | cons c w ih =>
    rw [List.all_cons, Bool.and_eq_true] at hw
    obtain ⟨hc, hw⟩ := hw
    cases w with
    | nil => exact describes_letter hc
    | cons c' w =>
      refine ((describes_letter hc).seq (ih hw)).congr fun k => ?_
      constructor
      · intro hk
        have hsplit : k.map simpleFold = [c] ++ c' :: w := hk
        obtain ⟨s, t, rfl, hs, ht⟩ := List.map_eq_append_iff.1 hsplit
        exact ⟨s, t, rfl, hs, ht⟩
      · rintro ⟨s, t, rfl, hs, ht⟩
        rw [List.map_append, hs, ht]
        rfl

/-- A word that has to be followed by something leads past what folds to it. -/
theorem leads_spelled {w : List Char} (hw : w.all isFolded = true) :
    (spelled w p).Leads x y ↔ ∃ k z, k.map simpleFold = w ∧ x.Past k z ∧ p.Leads z y := by
  induction w generalizing x with
  | nil =>
    simp only [List.map_eq_nil_iff, exists_and_left, exists_eq_left, past_nil, exists_eq_left']
    rfl
  | cons c w ih =>
    rw [List.all_cons, Bool.and_eq_true] at hw
    obtain ⟨hc, hw⟩ := hw
    constructor
    · rintro ⟨z, hletter, hword⟩
      obtain ⟨s, hs, hz⟩ := (describes_letter hc x z).1 hletter
      obtain ⟨t, z', ht, hz', hy⟩ := (ih hw).1 hword
      exact ⟨s ++ t, z', by rw [List.map_append, hs, ht]; rfl, past_append.2 ⟨z, hz, hz'⟩, hy⟩
    · rintro ⟨k, z', hk, h, hy⟩
      have hsplit : k.map simpleFold = [c] ++ w := hk
      obtain ⟨s, t, rfl, hs, ht⟩ := List.map_eq_append_iff.1 hsplit
      obtain ⟨z, hz, hz'⟩ := past_append.1 h
      exact ⟨z, (describes_letter hc x z).2 ⟨s, hs, hz⟩, (ih hw).2 ⟨t, z', ht, hz', hy⟩⟩

/-! ## What a text begins with -/

variable {T U : List Char → Prop}

/-- A pattern leads on exactly from the places where a text of some kind begins, whatever stands
before them. -/
def Starts (p : Pattern) (T : List Char → Prop) : Prop := ∀ x, (∃ y, p.Leads x y) ↔ T x.rest

/-- Of a pattern and then another, a text begins with what the first one describes, and goes on with
what the second one starts with. -/
theorem Describes.starts (hp : p.Describes D) (hq : q.Starts T) :
    (Pattern.seq p q).Starts fun s => ∃ k t, s = k ++ t ∧ D k ∧ T t := by
  intro x
  constructor
  · rintro ⟨y, z, hleft, hright⟩
    obtain ⟨k, hk, hz, -⟩ := (hp x z).1 hleft
    exact ⟨k, z.rest, hz, hk, (hq z).1 ⟨y, hright⟩⟩
  · rintro ⟨k, t, hx, hk, ht⟩
    obtain ⟨z, hz, rfl⟩ := exists_past hx
    obtain ⟨y, hy⟩ := (hq z).2 ht
    exact ⟨y, z, (hp x z).2 ⟨k, hk, hz⟩, hy⟩

/-- What a text begins with may be told in other words. -/
theorem Starts.congr (hp : p.Starts T) (h : ∀ s, U s ↔ T s) : p.Starts U := by
  intro x
  rw [hp x, h]

/-- What may be left out after characters that a test accepts makes no difference: a text begins
with one such character at least. -/
theorem starts_some (accepts : Char → Bool) (room : Nat) (p : Pattern) :
    (seq (times (char accepts room) 1 none) (times p 0 none)).Starts fun s =>
      ∃ d t, s = d :: t ∧ accepts d = true := by
  intro x
  constructor
  · rintro ⟨y, z, hsome, -⟩
    obtain ⟨k, ⟨hlength, hk⟩, hz, -⟩ := (describes_times_char accepts room 1 x z).1 hsome
    obtain ⟨d, k, rfl⟩ := List.exists_cons_of_length_pos hlength
    exact ⟨d, k ++ z.rest, hz, hk d List.mem_cons_self⟩
  · rintro ⟨d, t, hx, hd⟩
    obtain ⟨z, hz, -⟩ := exists_past (k := [d]) hx
    exact ⟨z, z, (describes_times_char accepts room 1 x z).2 ⟨[d], ⟨Nat.le_refl _, by simpa⟩, hz⟩,
      leads_times_zero p z⟩

/-! ## Edges of words -/

/-- What folds to a small letter is a character of a word. -/
theorem isWordChar_of_folded {d : Char} (h : (simpleFold d).isLower = true) :
    isWordChar d = true := by
  have hascii : ∀ n < 0x80, (fold (Char.ofNat n)).isLower = true →
      isWordChar (Char.ofNat n) = true := by decide +kernel
  obtain ⟨hleast, hmost⟩ := toNat_of_isLower h
  have hnear : NearAscii d := nearAscii_of_simpleFold (by omega) (by omega)
  rw [simpleFold_eq_fold hnear] at h
  rcases hnear with hd | rfl | rfl
  · rw [← Char.ofNat_toNat d] at h ⊢
    exact hascii _ hd h
  · decide +kernel
  · decide +kernel

/-- Before a character of a word there is an edge exactly where no other one stands before it. -/
theorem isWordEdge_some_right {before : Option Char} {d : Char} (hd : isWordChar d = true) :
    anyCase.isWordEdge before (some d) = true ↔ ∀ c ∈ before, isWordChar c = false := by
  have hedge : anyCase.isWordEdge before (some d) = (before.any isWordChar != isWordChar d) := rfl
  rw [hedge, hd]
  cases before <;> simp

/-- After a character of a word there is an edge exactly where no other one comes after it. -/
theorem isWordEdge_some_left {after : Option Char} {d : Char} (hd : isWordChar d = true) :
    anyCase.isWordEdge (some d) after = true ↔ ∀ c ∈ after, isWordChar c = false := by
  have hedge : anyCase.isWordEdge (some d) after = (isWordChar d != after.any isWordChar) := rfl
  rw [hedge, hd]
  cases after <;> simp

end Pattern

end IssueSteward
