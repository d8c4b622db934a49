import IssueSteward.Text.Printable

/-!
# Quoted texts

A text is shown between double quotes. Quotes and backslashes in it are preceded by a backslash, the
common controls are written as letters after one, and any other character that shows nothing of its
own is written as its code point in braces. A text that may be absent is shown with a word that says
whether it is there.
-/

namespace IssueSteward.Text

/-- A character's code point in hexadecimal digits, between braces. -/
def codePoint (c : Char) : List Char :=
  ['\\', 'u', '\x7b'] ++ Nat.toDigits 16 c.toNat ++ ['\x7d']

/-- A character as it stands in a quoted text. -/
def quoteChar (c : Char) : List Char :=
  match c with
  | '\x00' => ['\\', '0']
  | '\t' => ['\\', 't']
  | '\r' => ['\\', 'r']
  | '\n' => ['\\', 'n']
  | '"' => ['\\', '"']
  | '\\' => ['\\', '\\']
  | c => if isPlain c then [c] else codePoint c

/-- A text between double quotes. -/
def quote (s : String) : String := String.ofList ('"' :: s.toList.flatMap quoteChar ++ ['"'])

/-- A text that may be absent, in words. -/
def optional : Option String → String
  | some s => "Some(" ++ s ++ ")"
  | none => "None"

end IssueSteward.Text
