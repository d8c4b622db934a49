import IssueSteward.Text.Quoted

/-!
# Arguments of the command

What the command is told, as texts, before anything is made of them, and how this is put into words
for the log.
-/

namespace IssueSteward

/-- What a command is to do, where the number of a pull request is still a text: `Command`. -/
inductive Task where
  /-- To remind of the link to an issue. -/
  | remind (number : Option String)
  /-- To unassign on request. -/
  | unassign
deriving DecidableEq, Repr

/-- A task in words. -/
def Task.description : Task → String
  | .remind number =>
    "MissingIssueLink \x7b pr_number: " ++ Text.optional (number.map Text.quote) ++ " \x7d"
  | .unassign => "Unassign"

/-- What a command is told, as texts: `Args`. -/
structure Arguments where
  /-- The repository. -/
  repository : String
  /-- The token. -/
  token : Option String
  /-- The address of the API. -/
  apiUrl : Option String
  /-- The path of the payload file. -/
  eventPath : String
  /-- Whether it is a dry run. -/
  dryRun : Option String
  /-- What is to be done. -/
  task : Task
deriving DecidableEq, Repr

/-- The arguments in words, with every text between quotes. -/
def Arguments.description (a : Arguments) : String :=
  "Args \x7b repository: " ++ Text.quote a.repository ++
  ", token: " ++ Text.optional (a.token.map Text.quote) ++
  ", api_url: " ++ Text.optional (a.apiUrl.map Text.quote) ++
  ", event_path: " ++ Text.quote a.eventPath ++
  ", dry_run: " ++ Text.optional (a.dryRun.map Text.quote) ++
  ", command: " ++ a.task.description ++ " \x7d"

end IssueSteward
