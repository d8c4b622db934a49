import IssueSteward.Log
import IssueSteward.Pattern.Reader
import IssueSteward.Text.Blank
import IssueSteward.Text.Caseless
import IssueSteward.Text.ControlSequence
import IssueSteward.Text.Split

/-!
# Filters of the log

A filter has directives, each of which says down to which level the lines of the sources under a
path are let through. Of the directives for a line the one with the longest path decides. A filter
may also ask for a pattern that has to occur in lines.

A filter is described by a text: the directives with commas between them, and the pattern after a
slash. A directive is a level, for all sources; a path, which lets everything through; or a path, an
equals sign and a level. A description changes the standard filter, and parts of it that are none of
these are passed over. `Filter.standard_admits` says what the standard filter leaves out.
-/

namespace IssueSteward

open Text

/-- Down to which level lines are let through. -/
inductive Threshold where
  /-- None. -/
  | off
  /-- Only failures. -/
  | error
  /-- Failures and warnings. -/
  | warn
  /-- All but details. -/
  | info
  /-- Details too. -/
  | debug
  /-- The smallest details too. -/
  | trace
deriving DecidableEq, Repr

namespace Threshold

/-- Every threshold. -/
def all : List Threshold := [off, error, warn, info, debug, trace]

/-- The name of a threshold. -/
def name : Threshold → String
  | off => "off"
  | error => "error"
  | warn => "warn"
  | info => "info"
  | debug => "debug"
  | trace => "trace"

/-- The threshold of a name, in letters of any case. -/
def ofName? (name : List Char) : Option Threshold :=
  all.find? fun t => lower name == t.name.toList

/-- Whether lines of a level are let through. -/
def admits : Threshold → Level → Bool
  | off, _ => false
  | error, level | warn, level => level == .error
  | info, level => level != .debug
  | debug, _ | trace, _ => true

end Threshold

/-- A rule for the sources under a path. -/
structure Directive where
  /-- The path, or none for all sources. -/
  path : Option (List Char)
  /-- What is let through. -/
  threshold : Threshold
deriving DecidableEq, Repr

namespace Directive

/-- Whether a directive is for a source. -/
def covers (d : Directive) (source : Source) : Bool :=
  (d.path.getD []).isPrefixOf source.path.toList

/-- How closely a directive describes the sources that it is for. -/
def weight (d : Directive) : Nat := (d.path.getD []).length

/-- The directive that a part of a description gives, if it is one. -/
def ofPart? (part : List Char) : Option Directive :=
  match splitOnChar '=' part with
  | [word] =>
    match Threshold.ofName? word with
    | some t => some ⟨none, t⟩
    | none => some ⟨some word, .trace⟩
  | [path, value] =>
    let value := trim value
    if value.isEmpty then some ⟨some path, .trace⟩
    else (Threshold.ofName? value).map fun t => ⟨some path, t⟩
  | _ => none

/-- The directives of a description. -/
def ofParts (text : List Char) : List Directive :=
  (((splitOnChar ',' text).map trim).filter (!·.isEmpty)).filterMap ofPart?

end Directive

/-- A choice among the lines of a log. -/
structure Filter where
  /-- The directives, of which no two have one path. -/
  directives : List Directive
  /-- The pattern that has to occur in lines, if there is one. -/
  pattern : Option Pattern := none

namespace Filter

/-- The filter that leaves out details. -/
def standard : Filter where
  directives := [⟨some Source.command.path.toList, .info⟩]

/-- The filter with one more directive, which takes the place of one with its path. -/
def add (f : Filter) (d : Directive) : Filter :=
  if f.directives.any (·.path == d.path) then
    { f with directives := f.directives.map fun e => if e.path == d.path then d else e }
  else { f with directives := f.directives ++ [d] }

/-- The standard filter with the changes of a description. A description with more than one slash
changes nothing. -/
def ofText (description : String) : Filter :=
  match splitOnChar '/' description.toList with
  | [parts] => (Directive.ofParts parts).foldl add standard
  | [parts, text] =>
    { (Directive.ofParts parts).foldl add standard with pattern := Pattern.ofText? text }
  | _ => standard

/-- The directive that decides about the lines of a source: of those for it the one with the longest
path, and of two equally long ones the later. -/
def deciding (f : Filter) (source : Source) : Option Directive :=
  f.directives.foldl
    (fun best d =>
      if d.covers source && best.all (·.weight ≤ d.weight) then some d else best)
    none

/-- Whether a line is let through. -/
def admits (f : Filter) (line : LogLine) : Bool :=
  (f.deciding line.source).any (·.threshold.admits line.level) &&
    f.pattern.all (·.occursIn line.text.toList)

/-- The lines of a log as they are shown: those that are let through, without control sequences. -/
def shown (f : Filter) (lines : List LogLine) : List LogLine :=
  (lines.filter f.admits).map fun line => { line with text := withoutControls line.text }

/-- The standard filter has one directive, which is for every source. -/
theorem deciding_standard (source : Source) :
    standard.deciding source = some ⟨some Source.command.path.toList, .info⟩ := by
  cases source <;> decide

/-- The standard filter lets all lines through but details. -/
theorem standard_admits (line : LogLine) : standard.admits line = (line.level != .debug) := by
  have hpattern : standard.pattern = none := rfl
  simp [admits, deciding_standard, Threshold.admits, hpattern]

end Filter

end IssueSteward
