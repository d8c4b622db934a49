import IssueSteward.Arguments
import IssueSteward.Reminder
import IssueSteward.Settings
import IssueSteward.Unassignment

/-!
# Runs of the services over an API

A run makes settings of texts and, with a library that talks to the API, a client of the settings,
loads the payload, and carries out a service over the client. It stops at the first of these that
goes wrong, and only the service itself sends messages. A command tells first what it is told, of a
dry run once it has a client, and of the outcome at its end.
-/

namespace IssueSteward

/-- What goes wrong in a run. -/
inductive Trouble where
  /-- The settings. -/
  | settings (fault : SettingsFault)
  /-- The number of a pull request. -/
  | number (fault : NumberFault)
  /-- The payload in the file at a path. -/
  | load (path : String) (fault : Payload.LoadFault)
  /-- The service. -/
  | failure (failure : Failure)
deriving DecidableEq, Repr

/-- The words for what goes wrong. -/
def Trouble.message : Trouble → String
  | .settings fault => fault.message
  | .number fault => fault.message
  | .load path fault => fault.message path
  | .failure f => f.message

/-- Whether what goes wrong breaks the whole command down. -/
def Trouble.isCrash : Trouble → Bool
  | .settings fault => fault.isCrash
  | .failure f => f.isCrash
  | _ => false

/-- What is seen of a run. -/
structure Transcript where
  /-- The outcome, or what went wrong. -/
  result : Except Trouble Outcome
  /-- The lines of the log, in order. -/
  logs : List LogLine
  /-- The messages that arrived at the API, in order. -/
  messages : List Rest.Message

/-- The transcript of a run that stops before its service. -/
def Transcript.stopped (trouble : Trouble) (logs : List LogLine) : Transcript :=
  ⟨.error trouble, logs, []⟩

/-- The services, each with what it is told besides: `Command` with its number read. -/
inductive Service where
  /-- To remind of the link to an issue, for the pull request of a number if the payload carries
  none. -/
  | remind (number : Option UInt64)
  /-- To unassign on request. -/
  | unassign
deriving DecidableEq, Repr

/-- The program of a service for the contents of a payload file. -/
def Service.program (service : Service) (ctx : Context) (file : Option ByteArray) :
    Except Payload.LoadFault (Program Outcome) :=
  match service with
  | .remind number =>
    (Payload.load Payload.pullRequestEvent file).map fun event => Reminder.run ctx event number
  | .unassign =>
    (Payload.load Payload.issueCommentEvent file).map fun event => Unassignment.run ctx event

/-- Carries out a service over a client, for the contents of the payload file at a path. -/
def Service.carryOut (service : Service) (ctx : Context) (client : Rest.Client) (path : String)
    (file : Option ByteArray) (network : Rest.Network) : Transcript :=
  match service.program ctx file with
  | .error fault => .stopped (.load path fault) []
  | .ok program =>
    let r := program.run client.answer { network := network }
    ⟨r.result.mapError .failure, r.logs, r.state.sent⟩

/-- Runs a service with the given settings over a library, for the contents of the payload file at a
path. -/
def Service.handle (service : Service) (lib : Rest.Library)
    (settings : Except SettingsFault Settings) (path : String) (file : Option ByteArray)
    (network : Rest.Network) : Transcript :=
  match settings with
  | .error fault => .stopped (.settings fault) []
  | .ok s =>
    match s.client lib with
    | .error fault => .stopped (.settings fault) []
    | .ok client => service.carryOut s.context client path file network

/-! ## Commands -/

/-- The service of a task. -/
def Task.service : Task → Except NumberFault Service
  | .remind number => .remind <$> pullNumber number
  | .unassign => .ok .unassign

/-- The settings that the arguments of a command make. -/
def Arguments.settings (a : Arguments) : Except SettingsFault Settings :=
  Settings.ofTexts a.repository a.token a.apiUrl a.dryRun

/-- A line of the command itself. -/
def commandLine (level : Level) (text : String) : LogLine := { level, source := .command, text }

/-- The line that tells what a command is told. -/
def argumentsLine (a : Arguments) : LogLine := commandLine .debug a.description

/-- The line that tells of a dry run. -/
def dryRunLine : LogLine :=
  commandLine .info "Dry run: no comments or assignee changes will be made"

/-- The line that tells of an outcome. -/
def doneLine (outcome : Outcome) : LogLine := commandLine .info ("Done: " ++ outcome.name)

/-- A transcript with lines before it and, unless something went wrong, that of its outcome after
it. -/
def Transcript.announce (t : Transcript) (before : List LogLine) : Transcript :=
  let last := match t.result with
    | .ok outcome => [doneLine outcome]
    | .error _ => []
  { t with logs := before ++ t.logs ++ last }

/-- Carries out a command over a library, given the contents of its payload file: `main`, once the
command line is read. -/
def Arguments.execute (a : Arguments) (lib : Rest.Library) (file : Option ByteArray)
    (network : Rest.Network) : Transcript :=
  match a.settings with
  | .error fault => .stopped (.settings fault) [argumentsLine a]
  | .ok s =>
    match s.client lib with
    | .error fault => .stopped (.settings fault) [argumentsLine a]
    | .ok client =>
      -- The notice of a dry run is given even if a later stage goes wrong.
      let notices := argumentsLine a :: if s.dryRun then [dryRunLine] else []
      match a.task.service with
      | .error fault => .stopped (.number fault) notices
      | .ok service =>
        (service.carryOut s.context client a.eventPath file network).announce notices

/-- The exit status that a transcript gives to the command. A crash has one of its own. -/
def Transcript.exitStatus (t : Transcript) : Nat :=
  match t.result with
  | .ok _ => 0
  | .error trouble => if trouble.isCrash then 101 else 1

end IssueSteward
