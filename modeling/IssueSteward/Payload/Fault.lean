import IssueSteward.Decimal.Shortest
import IssueSteward.Text.Quoted

/-!
# Why a payload is refused

A payload is read from left to right, and the first fault ends the reading. A fault is the end of
the text inside a value, a place where the text is no JSON, or JSON that does not fit what is wanted
there; for the last kind a cause says what was found, and `Cause.text` puts it into words.
-/

namespace IssueSteward.Payload

open Decimal Text

/-- What stands at a place of the payload, as far as a cause tells it. -/
inductive Found where
  /-- The literal `null`. -/
  | null
  /-- A truth value. -/
  | boolean (b : Bool)
  /-- A whole number of at most 64 bits. -/
  | integer (n : Int)
  /-- Any other number, by its sign and its magnitude. -/
  | floating (negative : Bool) (x : Binary64)
  /-- A string. -/
  | string (s : String)
  /-- An array. -/
  | sequence
  /-- An object. -/
  | map
deriving DecidableEq, Repr

/-- What is wanted at a place of the payload. -/
inductive Wanted where
  /-- A number of 64 bits. -/
  | number
  /-- A string. -/
  | string
  /-- An array. -/
  | sequence
  /-- The literal `null`. -/
  | unit
  /-- A record of the given name. -/
  | record (name : String)
deriving DecidableEq, Repr

/-- Why JSON does not fit what is wanted. -/
inductive Cause where
  /-- A value of another kind is found. -/
  | invalidType (found : Found) (wanted : Wanted)
  /-- A value of the right kind is out of range. -/
  | invalidValue (found : Found) (wanted : Wanted)
  /-- The array that stands for a record ends before the element of the given index, which cannot be
  left out; the record has `size` fields. -/
  | invalidLength (index : Nat) (record : String) (size : Nat)
  /-- A field that cannot be left out is missing. -/
  | missingField (name : String)
  /-- A field is given a second time. -/
  | duplicateField (name : String)
  /-- A state has another name than the two that there are. -/
  | unknownVariant (name : String)
deriving DecidableEq, Repr

/-- The first thing that is wrong with a payload. -/
inductive Fault where
  /-- The text ends inside a value. -/
  | truncated
  /-- The text is no JSON, or JSON beyond the limits of what is kept. -/
  | malformed
  /-- The JSON does not fit what is wanted. -/
  | unfit (cause : Cause)
deriving DecidableEq, Repr

/-- Numbers in causes are written positionally from `1e-5` to below `1e16`. -/
def numberLayout : Layout := ⟨-5, 15⟩

/-- The text of a whole number. -/
def integerText (n : Int) : String :=
  if n < 0 then "-" ++ numeral n.natAbs else numeral n.natAbs

/-- The words for what was found. -/
def Found.text : Found → String
  | .null => "null"
  | .boolean true => "boolean `true`"
  | .boolean false => "boolean `false`"
  | .integer n => "integer `" ++ integerText n ++ "`"
  | .floating negative x => "floating point `" ++ numberLayout.write negative x ++ "`"
  | .string s => "string " ++ quote s
  | .sequence => "sequence"
  | .map => "map"

/-- The words for what was wanted. -/
def Wanted.text : Wanted → String
  | .number => "u64"
  | .string => "a string"
  | .sequence => "a sequence"
  | .unit => "unit"
  | .record name => "struct " ++ name

/-- The words for a cause. -/
def Cause.text : Cause → String
  | .invalidType found wanted => "invalid type: " ++ found.text ++ ", expected " ++ wanted.text
  | .invalidValue found wanted => "invalid value: " ++ found.text ++ ", expected " ++ wanted.text
  | .invalidLength index record size =>
    "invalid length " ++ numeral index ++ ", expected struct " ++ record ++ " with " ++ numeral size
      ++ " elements"
  | .missingField name => "missing field `" ++ name ++ "`"
  | .duplicateField name => "duplicate field `" ++ name ++ "`"
  | .unknownVariant name => "unknown variant `" ++ name ++ "`, expected `open` or `closed`"

end IssueSteward.Payload
