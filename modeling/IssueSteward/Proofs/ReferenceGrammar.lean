import IssueSteward.ClosingReference
import IssueSteward.Proofs.Search

/-!
# The grammar of closing references

A closing reference is a keyword, a separator, a number sign and a digit (`Reference`). The search
for one passes over blanks as far as it can and drops a colon on its way, so that it never tries
the other ways to read what follows a keyword. `startsHere_iff` says that it need not: it finds a
reference at the beginning of a text whenever the text can be read as one. `occurs_iff_split` says
the same of references that stand anywhere in a text.
-/

namespace IssueSteward.ClosingReference

open Text

/-- What may stand between a keyword and a number: blanks, perhaps a colon, and blanks again. -/
structure Separator where
  /-- The blanks after the keyword. -/
  blanks : List Char
  /-- The colon, where there is one. -/
  colon : List Char
  /-- The blanks before the number. -/
  moreBlanks : List Char
  blank_of_mem : ∀ c ∈ blanks, isBlank c = true
  colon_eq : colon = [] ∨ colon = [':']
  blank_of_mem_more : ∀ c ∈ moreBlanks, isBlank c = true

/-- The signs of a separator. -/
def Separator.text (s : Separator) : List Char := s.blanks ++ s.colon ++ s.moreBlanks

/-- A closing reference: one of three words in letters of any case, a separator, a number sign and a
decimal digit. -/
structure Reference where
  /-- The word, as it is written. -/
  keyword : List Char
  /-- What stands between the word and the number. -/
  separator : Separator
  /-- The first digit of the number. -/
  digit : Char
  keyword_mem : keyword.map simpleFold ∈ ["fixes".toList, "closes".toList, "resolves".toList]
  isDecimalDigit_digit : isDecimalDigit digit = true

/-- The signs of a closing reference. -/
def Reference.text (r : Reference) : List Char :=
  r.keyword ++ r.separator.text ++ ['#', r.digit]

/-! ## Reading a reference -/

/-- Blanks are dropped up to the first character that is none. -/
theorem dropWhile_blanks {blanks : List Char} (h : ∀ c ∈ blanks, isBlank c = true) {c : Char}
    (hc : isBlank c = false) (s : List Char) :
    (blanks ++ c :: s).dropWhile isBlank = c :: s := by
  rw [List.dropWhile_append_of_pos h, List.dropWhile_cons_of_neg (by simp [hc])]

/-- A text begins with a number when a number sign and a digit stand there. -/
theorem startsWithNumber_iff {s : List Char} :
    startsWithNumber s = true ↔ ∃ d rest, s = '#' :: d :: rest ∧ isDecimalDigit d = true := by
  unfold startsWithNumber
  split
  · simp
  · rename_i hother
    simp only [Bool.false_eq_true, false_iff]
    rintro ⟨d, rest, rfl, -⟩
    exact hother d rest rfl

/-- A text from which a colon is dropped had it, or begins with none. -/
theorem eq_dropColon (s : List Char) :
    ∃ colon, s = colon ++ dropColon s ∧ (colon = [] ∨ colon = [':']) := by
  unfold dropColon
  split
  · exact ⟨[':'], rfl, .inr rfl⟩
  · exact ⟨[], rfl, .inl rfl⟩

/-- What comes after a keyword is found when a separator stands before a number. -/
theorem startsWithTarget_iff {s : List Char} :
    startsWithTarget s = true ↔ ∃ (separator : Separator) (d : Char) (rest : List Char),
      s = separator.text ++ '#' :: d :: rest ∧ isDecimalDigit d = true := by
  unfold startsWithTarget
  rw [startsWithNumber_iff]
  constructor
  · rintro ⟨d, rest, hnumber, hd⟩
    obtain ⟨colon, hcolon, hor⟩ := eq_dropColon (s.dropWhile isBlank)
    refine ⟨⟨s.takeWhile isBlank, colon, (dropColon (s.dropWhile isBlank)).takeWhile isBlank,
      List.all_eq_true.1 List.all_takeWhile, hor, List.all_eq_true.1 List.all_takeWhile⟩,
      d, rest, ?_, hd⟩
    unfold Separator.text
    rw [← hnumber, List.append_assoc, List.append_assoc, List.takeWhile_append_dropWhile, ← hcolon,
      List.takeWhile_append_dropWhile]
  · rintro ⟨⟨blanks, colon, moreBlanks, hblanks, rfl | rfl, hmore⟩, d, rest, rfl, hd⟩
    · -- the blanks of both parts are dropped at once
      have hall : ∀ c ∈ blanks ++ moreBlanks, isBlank c = true := by
        intro c hc
        exact (List.mem_append.1 hc).elim (hblanks c) (hmore c)
      refine ⟨d, rest, ?_, hd⟩
      unfold Separator.text
      rw [List.append_nil, dropWhile_blanks hall (by decide)]
      rfl
    · refine ⟨d, rest, ?_, hd⟩
      unfold Separator.text
      have hcolon : dropColon (':' :: (moreBlanks ++ '#' :: d :: rest)) =
        moreBlanks ++ '#' :: d :: rest := rfl
      rw [List.append_assoc, List.append_assoc, List.singleton_append,
        dropWhile_blanks hblanks (by decide), hcolon, dropWhile_blanks hmore (by decide)]

/-- A keyword is read from the letters that fold to it. -/
theorem map_fold_mem_keywords {k : List Char} :
    k.map fold ∈ keywords ↔
      k.map simpleFold ∈ ["fixes".toList, "closes".toList, "resolves".toList] := by
  simp only [keywords, List.mem_cons, List.not_mem_nil, or_false]
  rw [map_simpleFold_eq_iff (by decide), map_simpleFold_eq_iff (by decide),
    map_simpleFold_eq_iff (by decide)]

/-- A text begins with a closing reference exactly when it can be read as one and a rest. -/
theorem startsHere_iff {s : List Char} :
    startsHere s = true ↔ ∃ (r : Reference) (after : List Char), s = r.text ++ after := by
  unfold startsHere
  constructor
  · intro h
    obtain ⟨word, hword, hfound⟩ := List.any_eq_true.1 h
    obtain ⟨rest, hrest, htarget⟩ := (Option.any_eq_true _ _).1 hfound
    obtain ⟨k, rfl, rfl⟩ := stripFolded?_eq_some_iff.1 hrest
    obtain ⟨separator, d, after, rfl, hd⟩ := startsWithTarget_iff.1 htarget
    exact ⟨⟨k, separator, d, map_fold_mem_keywords.1 hword, hd⟩, after, by simp [Reference.text]⟩
  · rintro ⟨r, after, rfl⟩
    have htext : r.text ++ after = r.keyword ++ (r.separator.text ++ '#' :: r.digit :: after) := by
      simp [Reference.text]
    have htarget := startsWithTarget_iff.2
      ⟨r.separator, r.digit, after, rfl, r.isDecimalDigit_digit⟩
    rw [htext, List.any_eq_true]
    refine ⟨_, map_fold_mem_keywords.2 r.keyword_mem, (Option.any_eq_true _ _).2 ⟨_, ?_, htarget⟩⟩
    exact stripFolded?_eq_some_iff.2 ⟨r.keyword, rfl, rfl⟩

/-- The search for a closing reference finds one exactly at the beginning of a text or after a
character that belongs to no word. -/
theorem occurs_iff {s : List Char} :
    occurs true s = true ↔ ∃ before rest, s = before ++ rest ∧ startsHere rest = true ∧
      ∀ c ∈ before.getLast?, isWordChar c = false := by
  rw [search_iff (fun _ => rfl) (fun _ _ _ => rfl) (by decide)]
  simp

/-- A closing reference occurs in a text exactly when the text can be split around one. -/
theorem occurs_iff_split {s : List Char} :
    occurs true s = true ↔ ∃ (before : List Char) (r : Reference) (after : List Char),
      s = before ++ r.text ++ after ∧ ∀ c ∈ before.getLast?, isWordChar c = false := by
  rw [occurs_iff]
  constructor
  · rintro ⟨before, rest, rfl, hstarts, hbefore⟩
    obtain ⟨r, after, rfl⟩ := startsHere_iff.1 hstarts
    exact ⟨before, r, after, (List.append_assoc ..).symm, hbefore⟩
  · rintro ⟨before, r, after, rfl, hbefore⟩
    exact ⟨before, r.text ++ after, List.append_assoc .., startsHere_iff.2 ⟨r, after, rfl⟩, hbefore⟩

end IssueSteward.ClosingReference
