import IssueSteward.Payload.Lexeme

/-!
# Values of any kind

A value whose kind does not matter is read over with a list of the brackets that are open, so that
no nesting is too deep for it (`skipValue`). Where such a value is kept, its strings and numbers
need a value and the nesting of brackets is limited (`keptValue`). Each step from one part of the
value to the next shortens the text (`advance_length`), which is why the reading ends.
-/

namespace IssueSteward.Payload

/-- How a value of any kind is read over. -/
inductive Mode where
  /-- Only its grammar matters. -/
  | skipped
  /-- It is kept, and may open as many brackets inside one another as the number says. -/
  | kept (levels : Nat)
deriving DecidableEq, Repr

/-- What follows a string, from after its opening quote on. -/
def Mode.string : Mode → List Char → Except Fault (List Char)
  | .skipped, s => skipString s
  | .kept _, s => Prod.snd <$> keptString s

/-- A string takes up some of the text, in whichever way it is read. -/
theorem Mode.string_length {m : Mode} {s r : List Char} (h : m.string s = .ok r) :
    r.length < s.length := by
  cases m with
  | skipped => exact skipString_length h
  | kept =>
    obtain ⟨⟨t, r'⟩, hk, rfl⟩ := map_eq_ok.1 h
    exact keptString_length hk

/-- What follows a number, from after its sign on. -/
def Mode.number (m : Mode) (minus : Bool) (s : List Char) : Except Fault (List Char) :=
  match m with
  | .skipped => skipNumber s
  | .kept _ => Prod.snd <$> keptNumber minus s

/-- A number takes up some of the text, in whichever way it is read. -/
theorem Mode.number_length {m : Mode} {minus : Bool} {s r : List Char}
    (h : m.number minus s = .ok r) : r.length < s.length := by
  cases m with
  | skipped => exact skipNumber_length h
  | kept =>
    obtain ⟨⟨t, r'⟩, hk, rfl⟩ := map_eq_ok.1 h
    exact keptNumber_length hk

/-- The two kinds of brackets. -/
inductive Bracket where
  /-- The brackets of an array. -/
  | square
  /-- The brackets of an object. -/
  | curly
deriving DecidableEq, Repr

/-- Whether a bracket may be opened inside the given brackets. -/
def Mode.admits (m : Mode) (outer : List Bracket) : Bool :=
  match m with
  | .skipped => true
  | .kept levels => outer.length < levels

/-- The closing bracket of a kind. -/
def Bracket.close : Bracket → Char
  | .square => ']'
  | .curly => '\x7d'

/-- How far a value is read. -/
inductive Progress where
  /-- A value is complete inside the given brackets. -/
  | complete (outer : List Bracket)
  /-- A bracket was just opened inside the given ones. -/
  | opened (bracket : Bracket) (outer : List Bracket)
deriving DecidableEq, Repr

/-- What follows the colon between the name of a member and its value. -/
def colon (s : List Char) : Except Fault (List Char) :=
  match skipSpace s with
  | [] => .error .truncated
  | c :: r => if c = ':' then .ok r else .error .malformed

/-- Reading a colon shortens the text. -/
theorem colon_length {s r : List Char} (h : colon s = .ok r) : r.length < s.length := by
  unfold colon at h
  split at h
  · cases h
  · rename_i c r' hs
    split at h
    · cases h; exact length_lt_of_skipSpace hs
    · cases h

/-- A value without parts, or the opening bracket of one with parts. -/
def begin (m : Mode) (outer : List Bracket) (s : List Char) :
    Except Fault (Progress × List Char) :=
  match skipSpace s with
  | [] => .error .truncated
  | c :: r =>
    if c = '[' then
      if m.admits outer then .ok (.opened .square outer, r) else .error .malformed
    else if c = '\x7b' then
      if m.admits outer then .ok (.opened .curly outer, r) else .error .malformed
    else (fun r => (.complete outer, r)) <$>
      if c = '"' then m.string r
      else if c = 'n' then literal ['u', 'l', 'l'] r
      else if c = 't' then literal ['r', 'u', 'e'] r
      else if c = 'f' then literal ['a', 'l', 's', 'e'] r
      else if c = '-' then m.number true r
      -- Without a sign the digit itself belongs to the number.
      else if c.isDigit then m.number false (c :: r)
      else .error .malformed

/-- The beginning of a value takes up some of the text. -/
theorem begin_length {m : Mode} {outer : List Bracket} {s r : List Char} {p : Progress}
    (h : begin m outer s = .ok (p, r)) : r.length < s.length := by
  unfold begin at h
  split at h
  · cases h
  · rename_i c r' hs
    have hlt := length_lt_of_skipSpace hs
    have hle : (c :: r').length ≤ s.length := hs ▸ skipSpace_length s
    split at h
    · split at h <;> cases h
      exact hlt
    · split at h
      · split at h <;> cases h
        exact hlt
      · obtain ⟨r₁, h₁, h⟩ := map_eq_ok.1 h
        cases h
        -- a string, three literals, and a number with and without a sign
        split at h₁
        · exact Nat.lt_trans (Mode.string_length h₁) hlt
        · split at h₁
          · exact Nat.lt_of_le_of_lt (literal_length h₁) hlt
          · split at h₁
            · exact Nat.lt_of_le_of_lt (literal_length h₁) hlt
            · split at h₁
              · exact Nat.lt_of_le_of_lt (literal_length h₁) hlt
              · split at h₁
                · exact Nat.lt_trans (Mode.number_length h₁) hlt
                · split at h₁
                  · exact Nat.lt_of_lt_of_le (Mode.number_length h₁) hle
                  · cases h₁

/-- What follows the part of an item before its value: nothing in an array, and the name and the
colon in an object. -/
def label (m : Mode) : Bracket → List Char → Except Fault (List Char)
  | .square, s => .ok s
  | .curly, s =>
    match skipSpace s with
    | [] => .error .truncated
    | c :: r => if c = '"' then do colon (← m.string r) else .error .malformed

/-- Reading what precedes the value of an item does not lengthen the text. -/
theorem label_length {m : Mode} {b : Bracket} {s r : List Char} (h : label m b s = .ok r) :
    r.length ≤ s.length := by
  cases b with
  | square => cases h; exact Nat.le_refl _
  | curly =>
    simp only [label] at h
    split at h
    · cases h
    · rename_i c r' hs
      split at h
      · obtain ⟨r₁, h₁, h⟩ := bind_eq_ok.1 h
        have := Mode.string_length h₁
        have := colon_length h
        have := length_lt_of_skipSpace hs
        omega
      · cases h

/-- The next step inside a bracket: its end, or the beginning of its next item, before which there
is a comma unless the bracket was `fresh`ly opened. -/
def advance (m : Mode) (fresh : Bool) (b : Bracket) (outer : List Bracket) (s : List Char) :
    Except Fault (Progress × List Char) :=
  match skipSpace s with
  | [] => .error .truncated
  | c :: r =>
    if c = b.close then .ok (.complete outer, r)
    -- The first item has no comma before it.
    else if fresh then do begin m (b :: outer) (← label m b (c :: r))
    else if c = ',' then do begin m (b :: outer) (← label m b r)
    else .error .malformed

/-- Each step inside a bracket takes up some of the text. -/
theorem advance_length {m : Mode} {fresh : Bool} {b : Bracket} {outer : List Bracket}
    {s r : List Char} {p : Progress} (h : advance m fresh b outer s = .ok (p, r)) :
    r.length < s.length := by
  unfold advance at h
  split at h
  · cases h
  · rename_i c r' hs
    have hlt := length_lt_of_skipSpace hs
    have hle : (c :: r').length ≤ s.length := hs ▸ skipSpace_length s
    split at h
    · cases h; exact hlt
    · split at h
      · obtain ⟨r₁, h₁, h⟩ := bind_eq_ok.1 h
        have := label_length h₁
        have := begin_length h
        omega
      · split at h
        · obtain ⟨r₁, h₁, h⟩ := bind_eq_ok.1 h
          have := label_length h₁
          have := begin_length h
          omega
        · cases h

/-- What follows a value, of which as much is read as `Progress` says. -/
def complete (m : Mode) (p : Progress) (s : List Char) : Except Fault (List Char) :=
  match p with
  | .complete [] => .ok s
  -- The value is an item of the innermost bracket that is open.
  | .complete (b :: outer) =>
    match _h : advance m false b outer s with
    | .ok (p, r) => complete m p r
    | .error f => .error f
  | .opened b outer =>
    match _h : advance m true b outer s with
    | .ok (p, r) => complete m p r
    | .error f => .error f
termination_by s.length
decreasing_by all_goals exact advance_length _h

/-- Reading the rest of a value does not lengthen the text. -/
theorem complete_length {m : Mode} {p : Progress} {s r : List Char} (h : complete m p s = .ok r) :
    r.length ≤ s.length := by
  fun_induction complete m p s with
  | case1 => cases h; exact Nat.le_refl _
  | case2 s b outer p' r' ha ih =>
    have := advance_length ha
    have := ih h
    omega
  | case3 => cases h
  | case4 s b outer p' r' ha ih =>
    have := advance_length ha
    have := ih h
    omega
  | case5 => cases h

/-- What follows a value of any kind. -/
def passValue (m : Mode) (s : List Char) : Except Fault (List Char) := do
  let (p, r) ← begin m [] s
  complete m p r

/-- Reading over a value shortens the text. -/
theorem passValue_length {m : Mode} {s r : List Char} (h : passValue m s = .ok r) :
    r.length < s.length := by
  obtain ⟨⟨p, r₁⟩, hb, h⟩ := bind_eq_ok.1 h
  have := begin_length hb
  have := complete_length h
  omega

/-- What follows a value that is skipped. -/
def skipValue (s : List Char) : Except Fault (List Char) := passValue .skipped s

/-- What follows a value that is kept and may open `levels` brackets inside one another. -/
def keptValue (levels : Nat) (s : List Char) : Except Fault (List Char) :=
  passValue (.kept levels) s

end IssueSteward.Payload
