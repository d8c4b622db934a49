import IssueSteward.Pattern.Reader
import IssueSteward.Proofs.CommandGrammar
import IssueSteward.Proofs.PatternLanguage
import IssueSteward.Proofs.ReferenceGrammar

/-!
# The two searches as patterns

Closing references and the command are what two patterns describe, as they are usually written for a
search. `ofText_source` reads each of them, and `occursIn_eq` says that the short search finds the
same as the search for the pattern. A description may go on with further numbers after the first
one, and the pattern says so, but that makes no difference (`starts_fromKeyword`). `linksIssue_iff`
and `hasUnassignCommand_iff` say what a description and a comment have to look like; which characters
are digits or belong to words is told by `Text.isDecimalDigit_eq` and `Text.isWordChar_iff`.
-/

namespace IssueSteward

open Text Pattern

/-! ## Closing references -/

namespace ClosingReference

/-- The pattern of closing references as it is usually written, with the numbers that may follow the
first one. -/
def source : String := "(?i)\\b(?:fixes|closes|resolves)\\s*:?\\s*#\\d+(?:[\\s,]+#\\d+)*"

/-- The pattern of blanks, perhaps none. -/
def blanks : Pattern := times (char anyCase.isBlank 700) 0 none

/-- The pattern of decimal digits. -/
def digits : Pattern := times (char anyCase.isDigit 5000) 1 none

/-- The pattern of the keywords. -/
def keyword : Pattern :=
  alt (word "fixes".toList) (alt (word "closes".toList) (word "resolves".toList))

/-- The pattern of closing references from the keyword on, where `gap` stands for what may be
between two numbers. -/
def fromKeyword (gap : Pattern) : Pattern :=
  seq keyword <| seq blanks <| seq (times (letter ':') 0 (some 1)) <| seq blanks <|
  seq (letter '#') <| seq digits (times (seq gap (seq (letter '#') digits)) 0 none)

unseal Draft.read? CharClass.finish? CharClass.hyphens in
/-- What is written is read as a pattern, with an edge of words before the keyword. -/
theorem ofText_source : ∃ gap,
    ofText? source.toList = some (seq empty (seq (place anyCase.isWordEdge) (fromKeyword gap))) :=
  ⟨times (char _ _) 1 none, by rfl⟩

/-- The pattern of blanks describes blanks. -/
theorem describes_blanks : blanks.Describes fun k => ∀ c ∈ k, isBlank c = true := by
  refine (describes_times_char _ 700 0).congr fun k => ?_
  simp [Mode.isBlank, anyCase]

/-- The pattern of the keywords describes what folds to one of them. -/
theorem describes_keyword : keyword.Describes fun k =>
    k.map simpleFold ∈ ["fixes".toList, "closes".toList, "resolves".toList] := by
  have hfixes := describes_word (w := "fixes".toList) (by decide)
  have hcloses := describes_word (w := "closes".toList) (by decide)
  have hresolves := describes_word (w := "resolves".toList) (by decide)
  refine (hfixes.alt (hcloses.alt hresolves)).congr fun k => ?_
  simp only [List.mem_cons, List.not_mem_nil, or_false]

/-- The pattern from the keyword on starts with a closing reference. Numbers that may follow the
first one make no difference. -/
theorem starts_fromKeyword (gap : Pattern) : (fromKeyword gap).Starts fun s =>
    ∃ (r : Reference) (after : List Char), s = r.text ++ after := by
  have hcolon : (letter ':').Describes (· = [':']) := Alone.describes (by decide +kernel)
  have hnumber : (letter '#').Describes (· = ['#']) := Alone.describes (by decide +kernel)
  have hdigits := starts_some anyCase.isDigit 5000 (seq gap (seq (letter '#') digits))
  refine (describes_keyword.starts (describes_blanks.starts (hcolon.optional.starts
    (describes_blanks.starts (hnumber.starts hdigits))))).congr fun s => ?_
  constructor
  · rintro ⟨⟨k, ⟨w₁, c, w₂, hw₁, hc, hw₂⟩, d, hk, hd⟩, after, rfl⟩
    refine ⟨k, _, ?_, hk, w₁, _, rfl, hw₁, c, _, rfl, hc, w₂, _, rfl, hw₂, ['#'], _, rfl, rfl,
      d, after, rfl, hd⟩
    simp [Reference.text, Separator.text]
  · rintro ⟨k, _, rfl, hk, w₁, _, rfl, hw₁, c, _, rfl, hc, w₂, _, rfl, hw₂, _, _, rfl, rfl,
      d, after, rfl, hd⟩
    refine ⟨⟨k, ⟨w₁, c, w₂, hw₁, hc, hw₂⟩, d, hk, hd⟩, after, ?_⟩
    simp [Reference.text, Separator.text]

/-- A closing reference begins with a character of a word. -/
theorem Reference.head_text (r : Reference) :
    ∃ d s, r.text = d :: s ∧ isWordChar d = true := by
  have hheads : ∀ w ∈ ["fixes".toList, "closes".toList, "resolves".toList],
      w.head?.any Char.isLower = true := by decide
  have hhead := hheads _ r.keyword_mem
  unfold Reference.text
  cases hk : r.keyword with
  | nil =>
    rw [hk] at hhead
    cases hhead
  | cons d k =>
    rw [hk] at hhead
    exact ⟨d, _, rfl, isWordChar_of_folded hhead⟩

/-- The whole pattern leads on exactly where a closing reference begins and no character of a word
stands before it. -/
theorem exists_leads (gap : Pattern) (x : Place) :
    (∃ y, (seq empty (seq (place anyCase.isWordEdge) (fromKeyword gap))).Leads x y) ↔
      startsHere x.rest = true ∧ ∀ c ∈ x.before, isWordChar c = false := by
  have hstarts : (∃ y, (fromKeyword gap).Leads x y) ↔ startsHere x.rest = true :=
    (starts_fromKeyword gap x).trans startsHere_iff.symm
  have hedge : startsHere x.rest = true → (anyCase.isWordEdge x.before x.rest.head? = true ↔
      ∀ c ∈ x.before, isWordChar c = false) := by
    intro hhere
    obtain ⟨r, after, hrest⟩ := startsHere_iff.1 hhere
    obtain ⟨d, s, htext, hd⟩ := r.head_text
    rw [hrest, htext]
    exact isWordEdge_some_right hd
  constructor
  · rintro ⟨y, _, rfl, _, ⟨rfl, hplace⟩, hy⟩
    have hhere := hstarts.1 ⟨y, hy⟩
    exact ⟨hhere, (hedge hhere).1 hplace⟩
  · rintro ⟨hhere, hbefore⟩
    obtain ⟨y, hy⟩ := hstarts.2 hhere
    exact ⟨y, x, rfl, x, ⟨rfl, (hedge hhere).2 hbefore⟩, hy⟩

/-- The search for a closing reference and the one for the pattern find the same. -/
theorem occursIn_eq (gap : Pattern) (s : List Char) :
    Pattern.occursIn (seq empty (seq (place anyCase.isWordEdge) (fromKeyword gap))) s =
      occurs true s := by
  rw [Bool.eq_iff_iff, Pattern.occursIn_iff, occurs_iff]
  simp only [exists_and_left, exists_leads]

end ClosingReference

/-- A description links an issue exactly when the pattern of closing references occurs in it. That
is when a closing reference stands in it somewhere, at the beginning or after a character that
belongs to no word; what comes after its first digit is arbitrary. -/
theorem linksIssue_iff (body : String) :
    (ofText? ClosingReference.source.toList).map (Pattern.occursIn · body.toList) =
      some (linksIssue body) ∧
    (linksIssue body = true ↔
      ∃ (before : List Char) (r : ClosingReference.Reference) (after : List Char),
        body.toList = before ++ r.text ++ after ∧
        ∀ c ∈ before.getLast?, isWordChar c = false) := by
  obtain ⟨gap, hread⟩ := ClosingReference.ofText_source
  refine ⟨?_, ClosingReference.occurs_iff_split⟩
  rw [hread, Option.map_some, ClosingReference.occursIn_eq]
  rfl

/-! ## The command -/

namespace UnassignCommand

/-- The pattern of the command as it is usually written. -/
def source : String := "(?i)(?:^|\\s)/unassign\\b"

/-- The pattern of the command from the slash on. -/
def fromSlash : Pattern := spelled "/unassign".toList (place anyCase.isWordEdge)

unseal Draft.read? in
/-- What is written is read as a pattern, with a blank before the command unless it begins the
text. -/
theorem ofText_source : ofText? source.toList =
    some (seq empty (seq (alt (place anyCase.isStart) (char anyCase.isBlank 700)) fromSlash)) := by
  rfl

/-- The pattern from the slash on starts with the command. -/
theorem starts_fromSlash : fromSlash.Starts fun s => startsHere s = true := by
  have hfolded : "/unassign".toList.all isFolded = true := by decide
  have hslash : Alone '/' := by decide +kernel
  have hcommand : "/unassign".toList = '/' :: "unassign".toList := by decide
  -- the last letter of the command is a character of a word
  have hlast {k : List Char} (hk : k.map simpleFold = "/unassign".toList) :
      ∃ e, k.getLast? = some e ∧ isWordChar e = true := by
    have hmap : k.getLast?.map simpleFold = some 'n' := by
      rw [← List.getLast?_map, hk]
      decide
    obtain ⟨e, he, hn⟩ := Option.map_eq_some_iff.1 hmap
    exact ⟨e, he, isWordChar_of_folded (hn ▸ by decide)⟩
  intro x
  constructor
  · rintro ⟨y, hy⟩
    obtain ⟨k, z, hk, ⟨hrest, hbefore⟩, rfl, hedge⟩ := (leads_spelled hfolded).1 hy
    obtain ⟨e, he, hword⟩ := hlast hk
    rw [hcommand] at hk
    obtain ⟨d, name, rfl, hd, hname⟩ := List.map_eq_cons_iff.1 hk
    obtain rfl := hslash.simpleFold_iff.1 hd
    rw [hbefore, he, Option.some_or] at hedge
    exact startsHere_iff.2 ⟨name, z.rest, hrest, hname, (isWordEdge_some_left hword).1 hedge⟩
  · intro hhere
    obtain ⟨name, after, hrest, hname, hafter⟩ := startsHere_iff.1 hhere
    have hk : ('/' :: name).map simpleFold = "/unassign".toList := by
      rw [List.map_cons, hname, hslash.simpleFold_iff.2 rfl, hcommand]
    obtain ⟨e, he, hword⟩ := hlast hk
    obtain ⟨z, hz, rfl⟩ := exists_past (k := '/' :: name) hrest
    refine ⟨z, (leads_spelled hfolded).2 ⟨_, z, hk, hz, rfl, ?_⟩⟩
    rw [hz.2, he, Option.some_or]
    exact (isWordEdge_some_left hword).2 hafter

/-- The whole pattern leads on exactly where the command begins at the beginning of a text, or a
blank and the command. -/
theorem exists_leads (x : Place) :
    (∃ y, (seq empty (seq (alt (place anyCase.isStart) (char anyCase.isBlank 700))
        fromSlash)).Leads x y) ↔
      (x.before = none ∧ startsHere x.rest = true) ∨
        ∃ b s, x.rest = b :: s ∧ isBlank b = true ∧ startsHere s = true := by
  have hstart (before after : Option Char) :
      anyCase.isStart before after = true ↔ before = none := by
    unfold Mode.isStart
    split <;> simp [anyCase]
  have hblank (c : Char) : anyCase.isBlank c = isBlank c := by
    simp [Mode.isBlank, anyCase]
  constructor
  · rintro ⟨y, _, rfl, z, ⟨rfl, hx⟩ | ⟨b, hrest, -, hb⟩, hy⟩
    · exact .inl ⟨(hstart _ _).1 hx, (starts_fromSlash x).1 ⟨y, hy⟩⟩
    · exact .inr ⟨b, z.rest, hrest, hblank b ▸ hb, (starts_fromSlash z).1 ⟨y, hy⟩⟩
  · rintro (⟨hx, hhere⟩ | ⟨b, s, hrest, hb, hhere⟩)
    · obtain ⟨y, hy⟩ := (starts_fromSlash x).2 hhere
      exact ⟨y, x, rfl, x, .inl ⟨rfl, (hstart _ _).2 hx⟩, hy⟩
    · obtain ⟨y, hy⟩ := (starts_fromSlash ⟨some b, s⟩).2 hhere
      exact ⟨y, x, rfl, ⟨some b, s⟩, .inr ⟨b, hrest, rfl, (hblank b).trans hb⟩, hy⟩

/-- The search for the command and the one for the pattern find the same. -/
theorem occursIn_eq (s : List Char) :
    Pattern.occursIn
        (seq empty (seq (alt (place anyCase.isStart) (char anyCase.isBlank 700)) fromSlash)) s =
      occurs true s := by
  rw [Bool.eq_iff_iff, Pattern.occursIn_iff, occurs_iff]
  simp only [exists_and_left, exists_leads]
  constructor
  · rintro ⟨before, rest, rfl, ⟨hbefore, hhere⟩ | ⟨b, s, rfl, hb, hhere⟩⟩
    · exact ⟨before, rest, rfl, hhere, by simp [hbefore]⟩
    · exact ⟨before ++ [b], s, by simp, hhere, by simpa using hb⟩
  · rintro ⟨before, rest, rfl, hhere, hbefore⟩
    rcases List.eq_nil_or_concat before with rfl | ⟨before, b, rfl⟩
    · exact ⟨[], rest, rfl, .inl ⟨rfl, hhere⟩⟩
    · have hb : isBlank b = true := hbefore b (by simp)
      exact ⟨before, b :: rest, by simp, .inr ⟨b, rest, rfl, hb, hhere⟩⟩

end UnassignCommand

/-- A comment holds the unassign command exactly when the pattern of the command occurs in it. That
is when it can be split into something that is empty or ends with a blank, a slash, letters that
fold to `unassign`, and something that is empty or begins with a character that belongs to no
word. -/
theorem hasUnassignCommand_iff (body : String) :
    (ofText? UnassignCommand.source.toList).map (Pattern.occursIn · body.toList) =
      some (hasUnassignCommand body) ∧
    (hasUnassignCommand body = true ↔ ∃ before k after,
      body.toList = before ++ '/' :: (k ++ after) ∧
      (∀ c ∈ before.getLast?, isBlank c = true) ∧ k.map simpleFold = "unassign".toList ∧
      ∀ c ∈ after.head?, isWordChar c = false) := by
  refine ⟨?_, UnassignCommand.occurs_iff_split⟩
  rw [UnassignCommand.ofText_source, Option.map_some, UnassignCommand.occursIn_eq]
  rfl

/-- A command that stands alone is found after others that do not. -/
example : hasUnassignCommand "docs/unassign /unassigned /UNAſſIGN." = true := by decide +kernel

end IssueSteward
