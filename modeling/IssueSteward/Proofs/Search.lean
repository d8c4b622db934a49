import IssueSteward.Text.CaseFold
import IssueSteward.Text.Caseless

/-!
# Searching running text

What a search for a word in running text rests on. `map_simpleFold_eq_iff` says that the short rule
by which letters are compared is simple case folding, as far as words of small ASCII letters are
sought. `search_iff` says that a search which goes through a text from left to right, and keeps
nothing but whether the character before allows a hit, finds a hit wherever one stands: a hit that
fails never hides a later one.
-/

namespace IssueSteward.Text

variable {c w : Char}

/-! ## Folding to small letters -/

/-- A rule of folding that leads to ASCII starts from there, but for the long s and the kelvin
sign. -/
theorem rule_to_ascii : ∀ r ∈ foldRules, r.target < 0x80 →
    r.last < 0x80 ∨ r.first = r.last ∧ (r.first = 'ſ'.toNat ∨ r.first = '\u212A'.toNat) := by
  decide +kernel

/-- A character is of ASCII, or one of the two that fold to a letter of ASCII. -/
def NearAscii (c : Char) : Prop := c.toNat < 0x80 ∨ c = 'ſ' ∨ c = '\u212A'

/-- The code point of a small letter. -/
theorem toNat_of_isLower (h : w.isLower = true) : 0x61 ≤ w.toNat ∧ w.toNat ≤ 0x7A := by
  have hbounds : ('a' ≤ w && w ≤ 'z') = true := h
  simpa [Char.le_def, UInt32.le_iff_toNat_le] using hbounds

/-- On these characters the short rule is simple case folding. -/
theorem simpleFold_eq_fold (h : NearAscii c) : simpleFold c = fold c := by
  have hascii : ∀ n < 0x80, simpleFold (Char.ofNat n) = fold (Char.ofNat n) := by decide +kernel
  rcases h with h | rfl | rfl
  · rw [← Char.ofNat_toNat c]
    exact hascii _ h
  · decide +kernel
  · decide +kernel

/-- The character of a number has it as its code point, unless it is that of number zero, which
stands for what is no code point. -/
theorem toNat_ofNat_of_pos {n : Nat} (h : 0 < (Char.ofNat n).toNat) : (Char.ofNat n).toNat = n := by
  unfold Char.ofNat at h ⊢
  by_cases hvalid : n.isValidChar
  · rw [dif_pos hvalid]
    rfl
  · rw [dif_neg hvalid] at h
    exact absurd h (by decide)

/-- Only such a character folds to ASCII by simple case folding. -/
theorem nearAscii_of_simpleFold (hleast : 0 < (simpleFold c).toNat)
    (hmost : (simpleFold c).toNat < 0x80) : NearAscii c := by
  cases hfound : foldRules.findSome? (·.image? c.toNat) with
  | none =>
    have hsame : simpleFold c = c := by
      unfold simpleFold
      rw [hfound]
    rw [hsame] at hmost
    exact .inl hmost
  | some n =>
    have himage : simpleFold c = Char.ofNat n := by
      unfold simpleFold
      rw [hfound]
    rw [himage] at hleast hmost
    rw [toNat_ofNat_of_pos hleast] at hmost
    obtain ⟨r, hr, hrange⟩ := List.exists_of_findSome?_eq_some hfound
    unfold FoldRule.image? at hrange
    split at hrange
    · obtain ⟨hfirst, hlast, -⟩ := ‹_ ∧ _›
      have htarget := Option.some.inj hrange
      rcases rule_to_ascii r hr (by omega) with h | ⟨hone, hs | hk⟩
      · exact .inl (by omega)
      · exact .inr (.inl (Char.toNat_inj.1 (by omega)))
      · exact .inr (.inr (Char.toNat_inj.1 (by omega)))
    · cases hrange

/-- Only such a character folds to a small letter by the short rule. -/
theorem nearAscii_of_fold (h : (fold c).isLower = true) : NearAscii c := by
  unfold fold at h
  split at h
  · exact .inr (.inl ‹_›)
  split at h
  · exact .inr (.inr ‹_›)
  unfold Char.toLower at h
  split at h
  · rename_i hcapital
    have hmost : c.toNat ≤ 0x5A := UInt32.le_iff_toNat_le.1 hcapital.2
    exact .inl (by omega)
  · have hmost := (toNat_of_isLower h).2
    exact .inl (by omega)

/-- The characters that fold to a small letter are the same by both rules. -/
theorem simpleFold_eq_iff (hw : w.isLower = true) : simpleFold c = w ↔ fold c = w := by
  obtain ⟨hleast, hmost⟩ := toNat_of_isLower hw
  constructor
  · intro h
    have hnear : NearAscii c := nearAscii_of_simpleFold (by rw [h]; omega) (by rw [h]; omega)
    rw [← simpleFold_eq_fold hnear, h]
  · intro h
    rw [simpleFold_eq_fold (nearAscii_of_fold (h ▸ hw)), h]

/-- A word of small letters is read from the same texts by both rules. -/
theorem map_simpleFold_eq_iff {word k : List Char} (hword : word.all Char.isLower = true) :
    k.map simpleFold = word ↔ k.map fold = word := by
  induction k generalizing word with
  | nil => rfl
  | cons c k ih =>
    cases word with
    | nil => simp
    | cons w word =>
      rw [List.all_cons, Bool.and_eq_true] at hword
      obtain ⟨hw, hword⟩ := hword
      rw [List.map_cons, List.map_cons, List.cons.injEq, List.cons.injEq, simpleFold_eq_iff hw,
        ih hword]

/-! ## Searching from left to right -/

/-- A search that goes on over the rest of a text after every character finds a hit exactly where
one stands at the beginning or after a character that allows it. -/
theorem search_iff {occurs : Bool → List Char → Bool} {starts : List Char → Bool}
    {frees : Char → Bool} (hnil : ∀ free, occurs free [] = false)
    (hcons : ∀ free c s, occurs free (c :: s) = (free && starts (c :: s) || occurs (frees c) s))
    (hstarts : starts [] = false) (free : Bool) (s : List Char) :
    occurs free s = true ↔ ∃ before rest, s = before ++ rest ∧ starts rest = true ∧
      (before = [] → free = true) ∧ ∀ c ∈ before.getLast?, frees c = true := by
  induction s generalizing free with
  | nil => simp [hnil, hstarts]
  | cons c s ih =>
    rw [hcons, Bool.or_eq_true, Bool.and_eq_true, ih]
    constructor
    · rintro (⟨hfree, hhere⟩ | ⟨before, rest, rfl, hrest, hfirst, hlast⟩)
      · exact ⟨[], c :: s, rfl, hhere, fun _ => hfree, by simp⟩
      · refine ⟨c :: before, rest, rfl, hrest, by simp, ?_⟩
        cases before with
        | nil => simpa using hfirst
        | cons b before => simpa using hlast
    · rintro ⟨before, rest, hsplit, hrest, hfirst, hlast⟩
      cases before with
      | nil => exact .inl ⟨hfirst rfl, by rwa [hsplit]⟩
      | cons b before =>
        obtain ⟨rfl, rfl⟩ := List.cons.inj hsplit
        refine .inr ⟨before, rest, rfl, hrest, ?_, ?_⟩
        · rintro rfl
          simpa using hlast
        · intro d hd
          refine hlast d ?_
          rw [List.getLast?_cons]
          simp [Option.mem_def.1 hd]

end IssueSteward.Text
