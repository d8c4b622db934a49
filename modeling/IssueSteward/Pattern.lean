/-!
# Patterns

A pattern describes parts of texts: characters one after the other, places between characters,
alternatives and repetitions. A text is looked through from all its places at once. The places that a
match has reached are marks, one before each character and one at the end, and `after` carries marks
from the beginnings of matches to their ends.
-/

namespace IssueSteward

/-- A pattern. -/
inductive Pattern where
  /-- Nothing at all. -/
  | empty
  /-- One character that is accepted, and how much room the test takes. -/
  | char (accepts : Char → Bool) (room : Nat)
  /-- A place, told by the characters before and after it. -/
  | place (holds : Option Char → Option Char → Bool)
  /-- One pattern and then another. -/
  | seq (first second : Pattern)
  /-- One pattern or another. -/
  | alt (left right : Pattern)
  /-- A pattern several times in a row, at least and at most so often. -/
  | times (pattern : Pattern) (least : Nat) (most : Option Nat)

namespace Pattern

/-- The characters before and after each place of a text that follows a character. -/
def surroundings (before : Option Char) : List Char → List (Option Char × Option Char)
  | [] => [(before, none)]
  | c :: s => (before, some c) :: surroundings (some c) s

/-- The marks after a step taken so often in a row, where no step changes a thing once one does
not. -/
def steps (step : List Bool → List Bool) : Nat → List Bool → List Bool
  | 0, marks => marks
  | n + 1, marks =>
    let next := step marks
    if next = marks then marks else steps step n next

/-- The marks after a step taken at most so often in a row. -/
def stepsUpTo (step : List Bool → List Bool) (n : Nat) (marks : List Bool) : List Bool :=
  steps (fun marks => List.zipWith or marks (step marks)) n marks

/-- The places where a match can end that begins at a marked place. -/
def after (text : List Char) : Pattern → List Bool → List Bool
  | empty, marks => marks
  | char accepts _, marks => false :: List.zipWith (fun mark c => mark && accepts c) marks text
  | place holds, marks =>
    List.zipWith (fun mark around => mark && holds around.1 around.2) marks (surroundings none text)
  | seq first second, marks => after text second (after text first marks)
  | alt left right, marks => List.zipWith or (after text left marks) (after text right marks)
  | times pattern least most, marks =>
    let step := after text pattern
    -- Each repetition that matters reaches a place more, so that there are as many as places.
    stepsUpTo step ((most.getD (least + marks.length)) - least) (steps step least marks)

/-- Whether a pattern occurs somewhere in a text. -/
def occursIn (p : Pattern) (text : List Char) : Bool :=
  (after text p (List.replicate (text.length + 1) true)).any id

end Pattern

end IssueSteward
