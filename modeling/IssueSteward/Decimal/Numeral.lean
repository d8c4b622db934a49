/-!
# Decimal numerals

Numbers of 64 bits are written as their decimal digits. Reading one admits a plus sign and leading
zeros, and names the first thing that is wrong with a text from left to right: a number that has
grown too large counts as wrong at the digit with which it does, whatever follows.
-/

namespace IssueSteward.Decimal

/-- The decimal digits of a number. -/
def numeral (n : Nat) : String := String.ofList (Nat.toDigits 10 n)

/-- What is wrong with a text that is no number. -/
inductive NumeralError where
  /-- There is nothing to read. -/
  | empty
  /-- A character is no digit. -/
  | invalidDigit
  /-- The number exceeds 64 bits. -/
  | tooLarge
deriving DecidableEq, Repr

/-- The words for what is wrong. -/
def NumeralError.text : NumeralError → String
  | .empty => "cannot parse integer from empty string"
  | .invalidDigit => "invalid digit found in string"
  | .tooLarge => "number too large to fit in target type"

/-- The value of an ASCII digit. -/
def digitValue (c : Char) : Nat := c.toNat - '0'.toNat

/-- The number that further digits make of the number read so far. -/
def readDigits (n : Nat) : List Char → Except NumeralError Nat
  | [] => .ok n
  | c :: s =>
    if c.isDigit then
      if 10 * n + digitValue c < UInt64.size then readDigits (10 * n + digitValue c) s
      else .error .tooLarge
    else .error .invalidDigit

/-- The number that a text writes, perhaps after a plus sign. -/
def readNumber : List Char → Except NumeralError UInt64
  | [] => .error .empty
  | ['+'] => .error .invalidDigit
  | '+' :: s => UInt64.ofNat <$> readDigits 0 s
  | s => UInt64.ofNat <$> readDigits 0 s

end IssueSteward.Decimal
