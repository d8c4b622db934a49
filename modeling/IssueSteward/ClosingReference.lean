import IssueSteward.Text.Blank
import IssueSteward.Text.Caseless
import IssueSteward.Text.DecimalDigit
import IssueSteward.Text.WordChar

/-!
# Closing references

A description links an issue when it holds a closing reference such as `Fixes #12` or
`resolves: #7`: one of three words, not preceded by a character of a word, then blanks, perhaps a
colon, blanks again, a number sign and a decimal digit. What follows the first digit never matters.
-/

namespace IssueSteward.ClosingReference

open Text

/-- The words that announce that a change closes an issue. -/
def keywords : List (List Char) :=
  ["fixes".toList, "closes".toList, "resolves".toList]

/-- A text without the colon that it may begin with. -/
def dropColon : List Char → List Char
  | ':' :: s => s
  | s => s

/-- Whether a text begins with a number sign and a decimal digit. -/
def startsWithNumber : List Char → Bool
  | '#' :: d :: _ => isDecimalDigit d
  | _ => false

/-- Whether a text begins with what comes after a keyword: blanks, perhaps a colon, blanks, and a
number. -/
def startsWithTarget (s : List Char) : Bool :=
  -- Each step is forced: no character is both blank and a colon or a number sign.
  startsWithNumber ((dropColon (s.dropWhile isBlank)).dropWhile isBlank)

/-- Whether a text begins with a closing reference. -/
def startsHere (s : List Char) : Bool :=
  keywords.any fun word => (stripFolded? word s).any startsWithTarget

/-- Whether a closing reference stands in a text, where `free` says that the character before the
text, if any, is no character of a word. -/
def occurs (free : Bool) : List Char → Bool
  | [] => false
  | c :: s => free && startsHere (c :: s) || occurs (!isWordChar c) s

end IssueSteward.ClosingReference

namespace IssueSteward

/-- Whether a description links an issue: `links_issue`. -/
def linksIssue (body : String) : Bool := ClosingReference.occurs true body.toList

end IssueSteward
