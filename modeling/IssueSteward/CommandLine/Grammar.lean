/-!
# Grammars of command lines

A command takes options, each of them named after two dashes, and perhaps goes on with a subcommand.
An option has a value, after an equals sign or as the next word; a switch has one only after an
equals sign, and stands for a value of its own without it. An option that is not given takes its
value from an environment variable.

A value given as the next word is put aside, and is looked at when the next option is or the words
are at their end. This decides which fault is told when there are several.
-/

namespace IssueSteward.CommandLine

/-- An option. -/
structure Opt where
  /-- The name, without the dashes. -/
  name : String
  /-- The environment variable that gives the value where the command line does not. -/
  envName : String
  /-- Whether there has to be a value. -/
  required : Bool := false
  /-- Whether the value may be empty. -/
  mayBeEmpty : Bool := true
  /-- The value without an equals sign, which makes the option a switch. -/
  bare : Option String := none
deriving DecidableEq, Repr

/-- A command. -/
structure Grammar where
  /-- The options. -/
  options : List Opt
  /-- The subcommands; there has to be one if there are any. -/
  subcommands : List String := []
  /-- Whether the command tells its version. -/
  hasVersion : Bool := false
deriving DecidableEq, Repr

/-- Why a command line is not carried out. -/
inductive Usage where
  /-- It asks for help. -/
  | help
  /-- It asks for the version. -/
  | version
  /-- It says nothing, which calls for help. -/
  | nothing
  /-- There is no subcommand. -/
  | missingSubcommand
  /-- There is no subcommand of a name. -/
  | invalidSubcommand
  /-- There is no option of a name, or a word has no place. -/
  | unknownArgument
  /-- An option is given twice. -/
  | argumentConflict
  /-- A value is missing or empty. -/
  | invalidValue
  /-- A value is given to what takes none. -/
  | tooManyValues
  /-- An option that is required is missing. -/
  | missingRequired
deriving DecidableEq, Repr

/-- The exit status that goes with a reason: asking for help or the version is no error. -/
def Usage.exitStatus : Usage → Nat
  | .help | .version => 0
  | _ => 2

/-- The word that asks for help. -/
def helpWord : String := "help"

/-- The word that asks for the version. -/
def versionWord : String := "version"

/-- Values of options, by the names of the options. -/
abbrev Values := List (String × String)

/-- The value of an option. -/
def Values.get? (vs : Values) (o : Opt) : Option String := vs.lookup o.name

/-- What is known while the words of a command line are read. -/
structure Progress where
  /-- The values that were looked at. -/
  given : Values := []
  /-- The option that was read last, and its value if that was read too, when it was not yet looked
  at. -/
  pending : Option (Opt × Option String) := none

/-- Whether the next word is the value of an option, unless it has dashes. -/
def Progress.awaits (p : Progress) : Bool := p.pending.any fun o => o.2.isNone

/-- Looks at the value of an option, which must not be empty for some. -/
def accept (o : Opt) (value : String) (vs : Values) : Except Usage Values :=
  if value.isEmpty && !o.mayBeEmpty then .error .invalidValue
  else .ok (vs ++ [(o.name, value)])

/-- Looks at the value of an option that the command line gives. -/
def give (o : Opt) (value : String) (vs : Values) : Except Usage Values :=
  if (vs.get? o).isSome then .error .argumentConflict else accept o value vs

/-- Looks at what was put aside. -/
def Progress.settle (p : Progress) : Except Usage Values :=
  match p.pending with
  | none => .ok p.given
  | some (_, none) => .error .invalidValue
  | some (o, some value) => give o value p.given

/-- The name of an option and its value, in what follows the two dashes. -/
def splitOption (s : List Char) : String × Option String :=
  let name := String.ofList (s.takeWhile (· != '='))
  match s.dropWhile (· != '=') with
  | [] => (name, none)
  | _ :: value => (name, some (String.ofList value))

/-- What is known after an option was read. -/
def Progress.option (p : Progress) (o : Opt) (value : Option String) : Except Usage Progress := do
  let given ← p.settle
  match value.or o.bare with
  | some value => return { given := ← give o value given }
  | none => return { given := given, pending := some (o, none) }

/-- What is known after a word with two dashes was read. -/
def Progress.long (g : Grammar) (p : Progress) (s : List Char) : Except Usage Progress :=
  let (name, value) := splitOption s
  if name = helpWord ∨ (name = versionWord ∧ g.hasVersion) then
    if value.isSome then .error .tooManyValues
    else do
      -- A fault in what was put aside is told first.
      let _ ← p.settle
      .error (if name = helpWord then .help else .version)
  else
    match g.options.find? fun o => o.name == name with
    | some o => p.option o value
    | none => .error .unknownArgument

/-- Why a word with one dash and the given letter after it ends the reading. -/
def Progress.short (g : Grammar) (p : Progress) (c : Char) : Except Usage Progress :=
  if c = 'h' then do
    let _ ← p.settle
    .error .help
  else if c = 'V' ∧ g.hasVersion then do
    let _ ← p.settle
    .error .version
  else .error .unknownArgument

/-- The fault of a word that has no place. -/
def Grammar.stray (g : Grammar) : Usage :=
  if g.subcommands.isEmpty then .unknownArgument else .invalidSubcommand

/-- Whether a word is a subcommand; where there are any, one more gives help. -/
def Grammar.isSubcommand (g : Grammar) (word : String) : Bool :=
  !g.subcommands.isEmpty && (word == helpWord || g.subcommands.contains word)

/-- What is known after one more word was read. -/
def Progress.word (g : Grammar) (p : Progress) (word : String) : Except Usage Progress :=
  match word.toList with
  | '-' :: '-' :: s => p.long g s
  | '-' :: c :: _ => p.short g c
  -- A dash alone is a word like any other.
  | _ =>
    match p.pending with
    | some (o, none) => .ok { p with pending := some (o, some word) }
    | _ => .error g.stray

/-- Reads words up to a subcommand or to their end. After two dashes alone no further word has a
place. -/
def read (g : Grammar) (p : Progress) :
    List String → Except Usage (Progress × Option (String × List String))
  | [] => .ok (p, none)
  | word :: words =>
    if g.isSubcommand word && !p.awaits then .ok (p, some (word, words))
    else if word = "--" then
      -- There are no arguments but options and subcommands.
      match words with
      | [] => .ok (p, none)
      | next :: _ => .error (if g.isSubcommand next then .unknownArgument else g.stray)
    else do read g (← p.word g word) words

/-- The values with those that environment variables give for the options that are left. -/
def addVariables (env : String → Option String) : List Opt → Values → Except Usage Values
  | [], vs => .ok vs
  | o :: os, vs =>
    match vs.get? o, env o.envName with
    -- A variable counts only where the words give no value.
    | none, some value => do addVariables env os (← accept o value vs)
    | _, _ => addVariables env os vs

/-- What the word for help asks for, given the words after it. -/
def helpFor (g : Grammar) : List String → Usage
  | [] => .help
  | [word] => if g.isSubcommand word then .help else .invalidSubcommand
  | _ => .invalidSubcommand

/-- Values of all options once all words were read, where nothing is amiss with what was put
aside. -/
def conclude (g : Grammar) (env : String → Option String) (p : Progress) : Except Usage Values := do
  addVariables env g.options (← p.settle)

end IssueSteward.CommandLine
