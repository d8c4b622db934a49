import IssueSteward.CommandLine.Grammar
import IssueSteward.Service

/-!
# The command line

The options of the command and of its two subcommands, and the arguments that the words of a command
line and the environment make.
-/

namespace IssueSteward.CommandLine

/-- The repository, as `owner/repo`. -/
def repositoryOption : Opt :=
  { name := "repository", envName := "GITHUB_REPOSITORY", required := true }

/-- The token. -/
def tokenOption : Opt := { name := "token", envName := "GITHUB_TOKEN" }

/-- The address of the API. -/
def apiUrlOption : Opt := { name := "api-url", envName := "GITHUB_API_URL" }

/-- The path of the payload file. -/
def eventPathOption : Opt :=
  { name := "event-path", envName := "GITHUB_EVENT_PATH", required := true, mayBeEmpty := false }

/-- Whether nothing is to be changed. -/
def dryRunOption : Opt := { name := "dry-run", envName := "DRY_RUN", bare := some "true" }

/-- The number of the pull request to look at when the event carries none. -/
def pullNumberOption : Opt := { name := "pr-number", envName := "PR_NUMBER" }

/-- The subcommand that reminds of the link to an issue. -/
def remindWord : String := "missing-issue-link"

/-- The subcommand that unassigns on request. -/
def unassignWord : String := "unassign"

/-- The command: `Args`. -/
def command : Grammar where
  options := [repositoryOption, tokenOption, apiUrlOption, eventPathOption, dryRunOption]
  subcommands := [remindWord, unassignWord]
  hasVersion := true

/-- The grammar of the subcommand that reminds of the link to an issue:
`Command::MissingIssueLink`. -/
def remindCommand : Grammar where
  options := [pullNumberOption]

/-- The grammar of the subcommand that unassigns on request: `Command::Unassign`. -/
def unassignCommand : Grammar where
  options := []

/-- The values of the options of a subcommand. -/
def subcommandValues (g : Grammar) (env : String → Option String) (words : List String) :
    Except Usage Values := do
  let (p, _) ← read g {} words
  conclude g env p

/-- What the words from a subcommand on say is to be done. -/
def task (env : String → Option String) (word : String) (words : List String) :
    Except Usage Task :=
  if word = helpWord then .error (helpFor command words)
  else if word = remindWord then do
    let vs ← subcommandValues remindCommand env words
    return .remind (vs.get? pullNumberOption)
  else do
    let _ ← subcommandValues unassignCommand env words
    return .unassign

/-- The arguments that values of options and what is to be done make. -/
def arguments (vs : Values) (task : Option Task) : Except Usage Arguments :=
  match task with
  | none => .error (if vs.isEmpty then .nothing else .missingSubcommand)
  | some task =>
    match vs.get? repositoryOption, vs.get? eventPathOption with
    | some repository, some eventPath =>
      .ok { repository := repository
            token := vs.get? tokenOption
            apiUrl := vs.get? apiUrlOption
            eventPath := eventPath
            dryRun := vs.get? dryRunOption
            task := task }
    | _, _ => .error .missingRequired

/-- The arguments that the words of a command line and an environment make: `Args::parse`. -/
def parse (words : List String) (env : String → Option String) : Except Usage Arguments := do
  let (p, rest) ← read command {} words
  let task ← match rest with
    | none => pure none
    | some (word, words) => some <$> task env word words
  -- A fault of the subcommand is told before one of the last option of the command.
  arguments (← conclude command env p) task

end IssueSteward.CommandLine
