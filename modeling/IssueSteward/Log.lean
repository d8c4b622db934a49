/-!
# Lines of the log

A line says how much it matters, which part of the program writes it, and what happened. Who reads
the log chooses lines by these (`Log/Filter`).
-/

namespace IssueSteward

/-- How much a line of the log matters. -/
inductive Level where
  /-- Something failed. -/
  | error
  /-- Something was done or left alone. -/
  | info
  /-- A detail. -/
  | debug
deriving DecidableEq, Repr

/-- The name of a level. -/
def Level.name : Level → String
  | .error => "ERROR"
  | .info => "INFO"
  | .debug => "DEBUG"

/-- The parts of the program that write lines. -/
inductive Source where
  /-- The command. -/
  | command
  /-- The reminders. -/
  | reminder
  /-- The unassignment. -/
  | unassignment
  /-- The tracker behind an API. -/
  | client
deriving DecidableEq, Repr

/-- The path of a part, by which filters name it. -/
def Source.path : Source → String
  | .command => "issue_bot"
  | .reminder => "issue_bot::link"
  | .unassignment => "issue_bot::unassign"
  | .client => "issue_bot::github"

/-- A line of the log. -/
structure LogLine where
  /-- How much it matters. -/
  level : Level
  /-- Who writes it. -/
  source : Source
  /-- What it says; it may run over several lines of text. -/
  text : String
deriving DecidableEq, Repr

end IssueSteward
