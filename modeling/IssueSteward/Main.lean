import IssueSteward.CommandLine.Parse
import IssueSteward.Log.Filter
import IssueSteward.Rest.Standard

/-!
# The program

Reads the command line, the environment and the payload file, carries the command out, and writes
the log, as far as the standard filter shows it, to the error stream. The program has no connection
to an API of its own: every message that it sends is lost, so that a service ends at its first
request.
-/

namespace IssueSteward

/-- The environment variables that the command reads. -/
def readEnvironment : IO (String → Option String) := do
  let options := CommandLine.command.options ++ CommandLine.remindCommand.options
  let values ← options.mapM fun o => do return (o.envName, ← IO.getEnv o.envName)
  return fun name => (values.lookup name).join

/-- The contents of a file, if it can be read. -/
def readContents (path : String) : IO (Option ByteArray) := do
  try
    return some (← IO.FS.readBinFile path)
  catch _ => return none

/-- What the program says about how it is used. -/
def usageText : String :=
  "Usage: issue-steward [OPTIONS] --repository <REPOSITORY> --event-path <EVENT_PATH> " ++
  "<COMMAND>\n" ++
  "Commands: missing-issue-link [--pr-number <PR_NUMBER>], unassign, help\n" ++
  "Options: --token <TOKEN>, --api-url <API_URL>, --dry-run[=<DRY_RUN>], --help, --version"

/-- Writes lines of the log. -/
def writeLog (lines : List LogLine) : IO Unit :=
  for line in lines do
    IO.eprintln ("[" ++ line.level.name ++ " " ++ line.source.path ++ "] " ++ line.text)

/-- Carries out the command of a command line and gives the exit status. -/
def runCommand (words : List String) : IO UInt32 := do
  match CommandLine.parse words (← readEnvironment) with
  | .error usage =>
    if usage = .version then IO.println "issue-steward 0.1.0"
    else if usage.exitStatus = 0 then IO.println usageText
    else IO.eprintln usageText
    return UInt32.ofNat usage.exitStatus
  | .ok arguments =>
    let file ← readContents arguments.eventPath
    let transcript := arguments.execute Rest.standard file .unreachable
    writeLog (Filter.standard.shown transcript.logs)
    match transcript.result with
    | .ok _ => pure ()
    | .error trouble =>
      if trouble.isCrash then IO.eprintln trouble.message
      else IO.eprintln ("Error: " ++ trouble.message)
    return UInt32.ofNat transcript.exitStatus

end IssueSteward

/-- Runs the command of the command line. -/
def main (words : List String) : IO UInt32 := IssueSteward.runCommand words
