import IssueSteward.Payload.Scan
import IssueSteward.Proofs.Spelling

/-!
# How values of any kind are written

The grammar of a value whose kind does not matter (`ValueText`), and that such a value is read over
in either mode, however deep it nests. What stands in a bracket is a list of items, of which all but
the first follow a comma (`Listed`); the members of an object are items with a name (`Member`).

The reader keeps a list of the open brackets instead of recurring into them, so what is shown of a
value is that the reader comes out behind it with the brackets it came with
(`passInside_of_valueText`), by induction on the grammar. The items of a bracket are read over one by
one, by induction on their list (`goOn_listed`).
-/

namespace IssueSteward.Payload

/-! ## The grammar -/

/-- What precedes the next item of a bracket: nothing before the first, and a comma before any
other. -/
inductive Lead : Bool → List Char → Prop
  /-- The bracket was just opened. -/
  | first : Lead true []
  /-- There was an item before. -/
  | next {w : List Char} (hw : Space w) : Lead false (w ++ [','])

/-- What stands in a bracket from a place on to its end, given the texts of the items to come. -/
inductive Listed (b : Bracket) : Bool → List (List Char) → List Char → Prop
  /-- The bracket is closed. -/
  | close {fresh : Bool} {w : List Char} (hw : Space w) : Listed b fresh [] (w ++ [b.close])
  /-- There is an item, and what follows it. -/
  | item {fresh : Bool} {lead w t rest : List Char} {ts : List (List Char)}
      (hlead : Lead fresh lead) (hw : Space w) (h : Listed b false ts rest) :
      Listed b fresh (t :: ts) (lead ++ (w ++ (t ++ rest)))

/-- Items in a bracket without white space, from a place on to its end. -/
def compact (b : Bracket) : Bool → List (List Char) → List Char
  | _, [] => [b.close]
  | true, t :: ts => t ++ compact b false ts
  | false, t :: ts => ',' :: (t ++ compact b false ts)

/-- Items can be put in a bracket without white space. -/
theorem listed_compact (b : Bracket) (fresh : Bool) (ts : List (List Char)) :
    Listed b fresh ts (compact b fresh ts) := by
  have hnone : Space [] := by decide
  induction ts generalizing fresh with
  | nil => cases fresh <;> exact .close hnone
  | cons t ts ih =>
    cases fresh with
    | true => exact .item .first hnone (ih false)
    | false => exact .item (.next hnone) hnone (ih false)

/-- The text of a member of an object, by its parts. -/
structure Member where
  /-- The name, between its quotes. -/
  name : List Char
  /-- The white space before the colon. -/
  before : List Char
  /-- The white space after the colon. -/
  after : List Char
  /-- The value. -/
  value : List Char

namespace Member

/-- The whole text of a member. -/
def text (x : Member) : List Char := quoted x.name ++ (x.before ++ ':' :: (x.after ++ x.value))

/-- The parts of a member that ought to be white space are. -/
def Spaced (x : Member) : Prop := Space x.before ∧ Space x.after

end Member

namespace Mode

/-- A bracket may be opened inside the given number of others. -/
def Allows : Mode → Nat → Prop
  | .skipped, _ => True
  | .kept levels, depth => depth < levels

/-- What a string may look like between its quotes. -/
def StringText : Mode → List Char → Prop
  | .skipped, t => Payload.StringText t
  | .kept _, t => ∃ v, Spelling v t

/-- What a number may look like after its sign. -/
def NumberText : Mode → Bool → List Char → Prop
  | .skipped, _, t => ∃ g, FigureText g t
  -- What is kept has to be finite.
  | .kept _, minus, t => ∃ g, FigureText g t ∧ (g.value minus).isSome = true

end Mode

/-- The literal that stands for nothing. -/
def nullText : List Char := ['n', 'u', 'l', 'l']

/-- What a value of any kind may look like inside the given number of brackets. -/
inductive ValueText (m : Mode) : Nat → List Char → Prop
  /-- Nothing. -/
  | null {depth : Nat} : ValueText m depth nullText
  /-- A truth value that holds. -/
  | yes {depth : Nat} : ValueText m depth ['t', 'r', 'u', 'e']
  /-- A truth value that does not hold. -/
  | no {depth : Nat} : ValueText m depth ['f', 'a', 'l', 's', 'e']
  /-- A string. -/
  | string {depth : Nat} {t : List Char} (h : m.StringText t) : ValueText m depth (quoted t)
  /-- A number without a sign. -/
  | number {depth : Nat} {t : List Char} (h : m.NumberText false t) : ValueText m depth t
  /-- A number with a sign. -/
  | negative {depth : Nat} {t : List Char} (h : m.NumberText true t) : ValueText m depth ('-' :: t)
  /-- An array. -/
  | array {depth : Nat} {ts : List (List Char)} {rest : List Char} (hdepth : m.Allows depth)
      (hlist : Listed .square true ts rest) (h : ∀ t ∈ ts, ValueText m (depth + 1) t) :
      ValueText m depth ('[' :: rest)
  /-- An object. -/
  | object {depth : Nat} (members : List Member) {rest : List Char} (hdepth : m.Allows depth)
      (hlist : Listed .curly true (members.map Member.text) rest)
      (hspaced : ∀ x ∈ members, x.Spaced) (hname : ∀ x ∈ members, m.StringText x.name)
      (h : ∀ x ∈ members, ValueText m (depth + 1) x.value) : ValueText m depth ('\x7b' :: rest)

/-- The first character of a value: it is no white space and closes no array, and only `null` begins
with its letter. -/
def Begins (t : List Char) : Prop :=
  ∃ c s, t = c :: s ∧ isSpace c = false ∧ c ≠ ']' ∧ (c = 'n' → t = nullText)

/-! ## First characters -/

/-- No digit begins or ends a value of another kind. -/
theorem digit_ne {c : Char} (hc : c.isDigit = true) :
    isSpace c = false ∧ c ≠ ']' ∧ c ≠ '[' ∧ c ≠ '\x7b' ∧ c ≠ '"' ∧ c ≠ 'n' ∧ c ≠ 't' ∧ c ≠ 'f' ∧
      c ≠ '-' := by
  have hne : ∀ d : Char, d.isDigit = false → c ≠ d := by
    rintro d hd rfl
    rw [hc] at hd
    cases hd
  refine ⟨?_, hne _ rfl, hne _ rfl, hne _ rfl, hne _ rfl, hne _ rfl, hne _ rfl, hne _ rfl,
    hne _ rfl⟩
  simp [isSpace, hne ' ' rfl, hne '\n' rfl, hne '\t' rfl, hne '\r' rfl]

/-- A number begins with a digit. -/
theorem Mode.NumberText.head {m : Mode} {minus : Bool} {t : List Char} (h : m.NumberText minus t) :
    ∃ c s, t = c :: s ∧ c.isDigit = true := by
  cases m with
  | skipped =>
    obtain ⟨g, hg⟩ := h
    exact head_of_figureText hg
  | kept =>
    obtain ⟨g, hg, -⟩ := h
    exact head_of_figureText hg

/-- A value of any kind begins like a value. -/
theorem begins_of_valueText {m : Mode} {depth : Nat} {t : List Char} (h : ValueText m depth t) :
    Begins t := by
  cases h with
  | number h =>
    obtain ⟨c, s, rfl, hc⟩ := h.head
    obtain ⟨hspace, hclose, -, -, -, hn, -⟩ := digit_ne hc
    exact ⟨c, s, rfl, hspace, hclose, fun heq => absurd heq hn⟩
  | null => exact ⟨_, _, rfl, by decide, by decide, fun _ => rfl⟩
  | _ => exact ⟨_, _, rfl, by decide, by decide, by simp⟩

/-! ## Items of brackets -/

/-- What follows an item of a bracket ends a number. -/
theorem stops_of_listed {b : Bracket} {ts : List (List Char)} {rest : List Char}
    (h : Listed b false ts rest) (r : List Char) : Stops (rest ++ r) := by
  cases h with
  | close hw =>
    rw [List.append_assoc]
    refine stops_append hw fun c hc => ?_
    obtain rfl := Option.some.inj hc
    cases b <;> decide
  | item hlead hw h =>
    cases hlead with
    | next hw =>
      simp only [List.append_assoc]
      refine stops_append hw fun c hc => ?_
      obtain rfl := Option.some.inj hc
      decide

variable {m : Mode} {outer : List Bracket} {b : Bracket}

/-- A string is read over to its closing quote, in whichever way it is read. -/
theorem Mode.string_append {t : List Char} (h : m.StringText t) (s : List Char) :
    m.string (t ++ '"' :: s) = .ok s := by
  cases m with
  | skipped => exact skipString_of_stringText h s
  | kept =>
    obtain ⟨v, hv⟩ := h
    simp only [Mode.string, keptString_of_spelling hv, Functor.map, Except.map]

/-- A number is read over to its end, in whichever way it is read. -/
theorem Mode.number_append {minus : Bool} {t s : List Char} (h : m.NumberText minus t)
    (hs : Stops s) : m.number minus (t ++ s) = .ok s := by
  cases m with
  | skipped =>
    obtain ⟨g, hg⟩ := h
    simp only [Mode.number, skipNumber, figure_append hg hs]
  | kept =>
    obtain ⟨g, hg, hvalue⟩ := h
    obtain ⟨n, hn⟩ := Option.isSome_iff_exists.1 hvalue
    simp only [Mode.number, keptNumber, figure_append hg hs, bind, Except.bind, hn, Functor.map,
      Except.map]

/-- Reads over the value at the beginning of a text and over what follows it in the brackets that
are open around it. -/
def passInside (m : Mode) (outer : List Bracket) (s : List Char) : Except Fault (List Char) :=
  begin m outer s >>= fun x => complete m x.1 x.2

/-- Reads over what follows from a place in a bracket on. -/
def goOn (m : Mode) (fresh : Bool) (b : Bracket) (outer : List Bracket) (s : List Char) :
    Except Fault (List Char) :=
  advance m fresh b outer s >>= fun x => complete m x.1 x.2

/-- After an item the reader goes on in its bracket. -/
theorem complete_inside (s : List Char) :
    complete m (.complete (b :: outer)) s = goOn m false b outer s := by
  rw [complete, goOn]
  split
  · rw [‹advance _ _ _ _ _ = _›]
    rfl
  · rw [‹advance _ _ _ _ _ = _›]
    rfl

/-- After an opening bracket the reader goes on in it. -/
theorem complete_opened (s : List Char) :
    complete m (.opened b outer) s = goOn m true b outer s := by
  rw [complete, goOn]
  split
  · rw [‹advance _ _ _ _ _ = _›]
    rfl
  · rw [‹advance _ _ _ _ _ = _›]
    rfl

/-- Nothing is left to be read after a value in no bracket. -/
theorem complete_outside (s : List Char) : complete m (.complete []) s = .ok s := by
  rw [complete]

/-- A text is that of an item of a bracket, which the reader gets over. -/
structure ItemText (m : Mode) (b : Bracket) (outer : List Bracket) (t : List Char) : Prop where
  /-- It does not begin with white space or the end of the bracket. -/
  head : ∃ c s, t = c :: s ∧ isSpace c = false ∧ c ≠ b.close
  /-- It is read over. -/
  passes : ∀ {w r : List Char}, Space w → Stops r →
    (label m b (w ++ (t ++ r)) >>= passInside m (b :: outer)) = goOn m false b outer r

/-- The end of a bracket is read over. -/
theorem goOn_close {fresh : Bool} {w : List Char} (hw : Space w) (r : List Char) :
    goOn m fresh b outer (w ++ b.close :: r) = complete m (.complete outer) r := by
  have hclose : isSpace b.close = false := by cases b <;> decide
  simp only [goOn, advance, skipSpace_append hw hclose, if_pos, bind, Except.bind]

/-- The reader goes on with the next item of a bracket. -/
theorem goOn_item {fresh : Bool} {lead w t r : List Char} (hlead : Lead fresh lead)
    (hw : Space w) (ht : ItemText m b outer t) (hr : Stops r) :
    goOn m fresh b outer (lead ++ (w ++ (t ++ r))) = goOn m false b outer r := by
  obtain ⟨c, s, hts, hspace, hclose⟩ := ht.head
  cases hlead with
  | first =>
    -- the white space before the first item is skipped at once
    rw [← ht.passes (w := []) (by simp [Space]) hr]
    simp only [hts, List.nil_append, List.cons_append, goOn, advance, skipSpace_append hw hspace,
      if_neg hclose, if_true]
    rcases label m b (c :: (s ++ r)) with _ | _ <;> rfl
  | @next w' hw' =>
    have hcomma : (',' : Char) ≠ b.close := by cases b <;> decide
    rw [← ht.passes hw hr, List.append_assoc, List.singleton_append]
    simp only [goOn, advance, skipSpace_append hw' (c := ',') rfl, if_neg hcomma, if_true,
      Bool.false_eq_true, if_false]
    rcases label m b (w ++ (t ++ r)) with _ | _ <;> rfl

/-- The items of a bracket are read over to its end. -/
theorem goOn_listed {fresh : Bool} {ts : List (List Char)} {rest : List Char}
    (h : Listed b fresh ts rest) (hts : ∀ t ∈ ts, ItemText m b outer t) (r : List Char) :
    goOn m fresh b outer (rest ++ r) = complete m (.complete outer) r := by
  induction h with
  | close hw =>
    rw [List.append_assoc]
    exact goOn_close hw r
  | item hlead hw h ih =>
    simp only [List.append_assoc]
    rw [goOn_item hlead hw (hts _ List.mem_cons_self) (stops_of_listed h r)]
    exact ih fun t ht => hts t (List.mem_cons_of_mem _ ht)

/-! ## Values -/

/-- A value is read over to its end, from inside the brackets that are open around it. -/
def Passes (m : Mode) (outer : List Bracket) (t : List Char) : Prop :=
  ∀ {w r : List Char}, Space w → Stops r →
    passInside m outer (w ++ (t ++ r)) = complete m (.complete outer) r

/-- A value is an item of an array. -/
theorem item_square {t : List Char} (hbegins : Begins t)
    (h : Passes m (.square :: outer) t) : ItemText m .square outer t where
  head := by
    obtain ⟨c, s, rfl, hspace, hclose, -⟩ := hbegins
    exact ⟨c, s, rfl, hspace, hclose⟩
  passes hw hr := by
    rw [← complete_inside]
    exact h hw hr

/-- A colon is read over, with the white space before it. -/
theorem colon_append {w : List Char} (hw : Space w) (s : List Char) :
    colon (w ++ ':' :: s) = .ok s := by
  simp only [colon, skipSpace_append hw (c := ':') rfl, if_true]

/-- A value with a name is an item of an object. -/
theorem item_curly {x : Member} (hspaced : x.Spaced) (hname : m.StringText x.name)
    (h : Passes m (.curly :: outer) x.value) : ItemText m .curly outer x.text where
  head := ⟨'"', _, rfl, by decide, by decide⟩
  passes {w r} hw hr := by
    have htext : x.text ++ r =
        '"' :: (x.name ++ '"' :: (x.before ++ ':' :: (x.after ++ (x.value ++ r)))) := by
      simp [Member.text, quoted]
    rw [← complete_inside, ← h hspaced.2 hr, htext]
    simp only [label, skipSpace_append hw (c := '"') rfl, if_true, Mode.string_append hname,
      colon_append hspaced.1, bind, Except.bind]

/-- A bracket may be opened where the mode allows it. -/
theorem admits_of_allows {depth : Nat} (h : m.Allows depth) (houter : outer.length = depth) :
    m.admits outer = true := by
  cases m with
  | skipped => rfl
  | kept levels =>
    have hlt : depth < levels := h
    simpa [Mode.admits, houter] using hlt

/-- A value is read over to its end, whatever brackets are open around it. -/
theorem passInside_of_valueText {depth : Nat} {t : List Char} (h : ValueText m depth t)
    (houter : outer.length = depth) : Passes m outer t := by
  intro w r hw hr
  induction h generalizing outer w r with
  | null =>
    simp [passInside, begin, nullText, skipSpace_append hw (c := 'n') rfl, literal, bind,
      Except.bind, Functor.map, Except.map]
  | yes =>
    simp [passInside, begin, skipSpace_append hw (c := 't') rfl, literal, bind,
      Except.bind, Functor.map, Except.map]
  | no =>
    simp [passInside, begin, skipSpace_append hw (c := 'f') rfl, literal, bind,
      Except.bind, Functor.map, Except.map]
  | string h =>
    simp [passInside, begin, quoted_append, skipSpace_append hw (c := '"') rfl,
      Mode.string_append h, bind, Except.bind, Functor.map, Except.map]
  | @number depth t h =>
    obtain ⟨c, s, hcs, hc⟩ := h.head
    obtain ⟨hspace, -, hsquare, hcurly, hquote, hn, ht, hf, hminus⟩ := digit_ne hc
    have hread := Mode.number_append h hr
    subst hcs
    rw [List.cons_append] at hread
    simp [passInside, begin, skipSpace_append hw hspace, hsquare, hcurly, hquote, hn, ht, hf,
      hminus, hc, hread, bind, Except.bind, Functor.map, Except.map]
  | negative h =>
    simp [passInside, begin, skipSpace_append hw (c := '-') rfl, Mode.number_append h hr, bind,
      Except.bind, Functor.map, Except.map]
  | @array depth ts rest hdepth hlist h ih =>
    have hitems : ∀ t ∈ ts, ItemText m .square outer t := fun t ht =>
      item_square (begins_of_valueText (h t ht)) fun hw hr => ih t ht (by simp [houter]) hw hr
    rw [← goOn_listed hlist hitems, ← complete_opened]
    simp [passInside, begin, skipSpace_append hw (c := '[') rfl, admits_of_allows hdepth houter,
      bind, Except.bind]
  | @object depth members rest hdepth hlist hspaced hname h ih =>
    have hitems : ∀ t ∈ members.map Member.text, ItemText m .curly outer t := by
      intro t ht
      obtain ⟨x, hx, rfl⟩ := List.mem_map.1 ht
      exact item_curly (hspaced x hx) (hname x hx) fun hw hr => ih x hx (by simp [houter]) hw hr
    rw [← goOn_listed hlist hitems, ← complete_opened]
    simp [passInside, begin, skipSpace_append hw (c := '\x7b') rfl, admits_of_allows hdepth houter,
      bind, Except.bind]

/-- A value in no bracket is read over to its end. -/
theorem passValue_append {w t r : List Char} (h : ValueText m 0 t) (hw : Space w) (hr : Stops r) :
    passValue m (w ++ (t ++ r)) = .ok r := by
  have hpasses : Passes m [] t := passInside_of_valueText h rfl
  exact (hpasses hw hr).trans (complete_outside r)

end IssueSteward.Payload
