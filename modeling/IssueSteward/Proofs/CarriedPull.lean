import IssueSteward.Proofs.Stages

/-!
# Pull requests that a payload carries

Where the payload carries a pull request, the reminder service does not look at the number that it
is given (`Reminder.run_of_carried`). But a command reads the number before the payload, and fails
there on a text that is no number. `execute_withNumber` says what a command comes to for each text,
and `carried_pull_wins_iff` when two texts make no difference.
-/

namespace IssueSteward

/-- The service for an event that carries a pull request is the same for every number. -/
theorem Reminder.run_of_carried {event : PullRequestEvent} {pr : PullRequest}
    (h : event.pullRequest = some pr) (ctx : Context) (number : Option UInt64) :
    run ctx event number = run ctx event none := by
  unfold run resolve
  rw [h]
  rfl

/-- Whether the contents of a payload file are those of an event that carries a pull request. -/
def Payload.carriesPull (file : Option ByteArray) : Bool :=
  (load pullRequestEvent file).toOption.any fun event => event.pullRequest.isSome

/-- A payload that carries a pull request is loaded. -/
theorem Payload.load_of_carriesPull {file : Option ByteArray} (h : carriesPull file = true) :
    ∃ event pr, load pullRequestEvent file = .ok event ∧ event.pullRequest = some pr := by
  obtain ⟨event, hevent, hpr⟩ := (Option.any_eq_true _ _).1 h
  obtain ⟨pr, hpr⟩ := Option.isSome_iff_exists.1 hpr
  exact ⟨event, pr, toOption_eq_some_iff.1 hevent, hpr⟩

/-- A payload that carries a pull request makes one program of the reminder service, whatever the
number is. -/
theorem Service.program_of_carried {file : Option ByteArray} (h : Payload.carriesPull file = true)
    (ctx : Context) :
    ∃ program, ∀ number, (Service.remind number).program ctx file = .ok program := by
  obtain ⟨event, pr, hload, hpr⟩ := Payload.load_of_carriesPull h
  refine ⟨Reminder.run ctx event none, fun number => ?_⟩
  simp only [Service.program, hload, Except.map, Reminder.run_of_carried hpr ctx number]

/-- A service whose payload is loaded comes to the run of its program. -/
theorem Service.carryOut_of_program {service : Service} {ctx : Context} {file : Option ByteArray}
    {program : Program Outcome} (h : service.program ctx file = .ok program) (client : Rest.Client)
    (path : String) (network : Rest.Network) :
    service.carryOut ctx client path file network =
      let r := program.run client.answer { network := network }
      ⟨r.result.mapError .failure, r.logs, r.state.sent⟩ := by
  unfold carryOut
  rw [h]

namespace Arguments

variable {a : Arguments} {lib : Rest.Library} {file : Option ByteArray} {text : Option String}

/-- The arguments for a reminder, with a text for the number of a pull request. -/
def withNumber (a : Arguments) (text : Option String) : Arguments := { a with task := .remind text }

/-- Whether a command stops before it reads a number. -/
def stopsEarly (a : Arguments) (lib : Rest.Library) : Bool :=
  (Repository.parse? a.repository).isNone || !(a.client lib).isOk

/-- What a command comes to with a text for the number of a pull request, where it comes to a
transcript with a text that makes no difference. -/
def numbered (a : Arguments) (lib : Rest.Library) (t : Transcript) (text : Option String) :
    Transcript :=
  if a.stopsEarly lib then t
  else
    match fault? (pullNumber text) with
    | some fault => .stopped (.number fault) []
    | none => t

/-- A transcript that stops is announced with nothing after what was told before. -/
theorem announce_stopped (trouble : Trouble) (lines : List LogLine) :
    (Transcript.stopped trouble []).announce lines = .stopped trouble lines := by
  simp [Transcript.announce, Transcript.stopped]

/-- Where the payload carries a pull request, a command for a reminder comes to one transcript, but
for a text that is no number, at which it stops. -/
theorem execute_withNumber (a : Arguments) (lib : Rest.Library)
    (hcarried : Payload.carriesPull file = true) (network : Rest.Network) :
    ∃ t : Transcript, (∀ fault, t.result ≠ .error (.number fault)) ∧ ∀ text,
      (a.withNumber text).execute lib file network =
        (a.numbered lib t text).announce
          (argumentsLine (a.withNumber text) :: a.dryRunNotice lib) := by
  rcases hrepository : Repository.parse? a.repository with _ | r
  · refine ⟨.stopped (.settings (.malformedRepository a.repository)) [], fun fault h => ?_,
      fun text => ?_⟩
    · cases h
    · have hearly : a.stopsEarly lib = true := by simp [stopsEarly, hrepository]
      rw [numbered, if_pos hearly, announce_stopped]
      exact execute_of_no_repository (a := a.withNumber text) hrepository
  rcases hclient : a.client lib with fault | client
  · refine ⟨.stopped (.settings fault) [], fun number h => ?_, fun text => ?_⟩
    · cases h
    · have hearly : a.stopsEarly lib = true := by
        simp [stopsEarly, hclient, Except.isOk, Except.toBool]
      rw [numbered, if_pos hearly, announce_stopped]
      exact execute_of_no_client (a := a.withNumber text) hrepository hclient
  · obtain ⟨program, hprogram⟩ := Service.program_of_carried hcarried ⟨r, a.isDry⟩
    let run := program.run client.answer { network := network }
    refine ⟨⟨run.result.mapError .failure, run.logs, run.state.sent⟩, fun fault h => ?_,
      fun text => ?_⟩
    · rcases hresult : run.result with f | outcome
      · rw [hresult] at h
        cases h
      · rw [hresult] at h
        cases h
    have hlate : ¬ a.stopsEarly lib = true := by
      simp [stopsEarly, hrepository, hclient, Except.isOk, Except.toBool]
    rw [execute_of_client (a := a.withNumber text) hrepository hclient, numbered, if_neg hlate]
    have hservice : (a.withNumber text).task.service = .remind <$> pullNumber text := rfl
    rw [hservice]
    rcases pullNumber text with fault | number
    · exact (announce_stopped _ _).symm
    · exact congrArg (Transcript.announce · _)
        (Service.carryOut_of_program (hprogram number) client a.eventPath network)

/-- Two texts that go wrong in one way, or not at all, make no difference; and neither do any others
where the command stops before. -/
theorem numbered_eq {text' : Option String} (t : Transcript)
    (h : a.stopsEarly lib = true ∨ fault? (pullNumber text') = fault? (pullNumber text)) :
    a.numbered lib t text' = a.numbered lib t text := by
  unfold numbered
  rcases h with hearly | hfault
  · rw [if_pos hearly, if_pos hearly]
  · rw [hfault]

/-- Where two texts make no difference to the result, they make none for one of these reasons. -/
theorem fault_eq_of_result {text' : Option String} {t : Transcript}
    (ht : ∀ fault, t.result ≠ .error (.number fault))
    (h : (a.numbered lib t text').result = (a.numbered lib t text).result) :
    a.stopsEarly lib = true ∨ fault? (pullNumber text') = fault? (pullNumber text) := by
  by_cases hearly : a.stopsEarly lib = true
  · exact .inl hearly
  · right
    simp only [numbered, if_neg hearly] at h
    generalize fault? (pullNumber text') = fault' at h ⊢
    generalize fault? (pullNumber text) = fault at h ⊢
    cases fault' with
    | none =>
      cases fault with
      | none => rfl
      | some fault => exact absurd h (ht fault)
    | some fault' =>
      cases fault with
      | none => exact absurd h.symm (ht fault')
      | some fault =>
        cases h
        rfl

end Arguments

/-- A pull request that the payload carries wins over a number, if the number is one. Two command
lines for a reminder are told the same but for the text of the number. Where the payload carries a
pull request, they have one result exactly if both stop before the number is read, or both texts are
numbers, or both are the same text that is none. They then also have one exit status, send the same
messages and log the same but for the line of what they are told, which is not shown. -/
theorem carried_pull_wins_iff {words words' : List String} {env env' : String → Option String}
    {a : Arguments} {text text' : Option String} {files : String → Option ByteArray}
    (h : CommandLine.parse words env = .ok (a.withNumber text))
    (h' : CommandLine.parse words' env' = .ok (a.withNumber text'))
    (hcarried : Payload.carriesPull (files a.eventPath) = true) (lib : Rest.Library)
    (network : Rest.Network) :
    ∃ t t', CommandLine.carryOut words env lib files network = .ok t ∧
      CommandLine.carryOut words' env' lib files network = .ok t' ∧
      (t'.result = t.result ↔
        a.stopsEarly lib = true ∨ fault? (pullNumber text') = fault? (pullNumber text)) ∧
      (t'.result = t.result → t'.exitStatus = t.exitStatus ∧ t'.messages = t.messages ∧
        t'.logs.tail = t.logs.tail ∧
        Filter.standard.shown t'.logs = Filter.standard.shown t.logs) := by
  obtain ⟨t, hnumber, hexecute⟩ := a.execute_withNumber lib hcarried network
  have hresult : ∀ (s : Transcript) lines, (s.announce lines).result = s.result := fun _ _ => rfl
  have hrun : ∀ words env text, CommandLine.parse words env = .ok (a.withNumber text) →
      CommandLine.carryOut words env lib files network =
        .ok ((a.numbered lib t text).announce
          (argumentsLine (a.withNumber text) :: a.dryRunNotice lib)) := by
    intro words env text h
    rw [CommandLine.carryOut, h, ← hexecute text]
    rfl
  refine ⟨_, _, hrun words env text h, hrun words' env' text' h', ?_, fun hsame => ?_⟩
  · rw [hresult, hresult]
    refine ⟨Arguments.fault_eq_of_result hnumber, fun hfault => ?_⟩
    rw [Arguments.numbered_eq t hfault]
  · rw [hresult, hresult] at hsame
    have hone := Arguments.numbered_eq t (Arguments.fault_eq_of_result hnumber hsame)
    rw [hone]
    simp only [Transcript.exitStatus, Transcript.announce, List.cons_append, List.tail_cons,
      Filter.shown_standard_arguments, and_self]

/-- The payload of a closed pull request. -/
def closedPayload : Option ByteArray :=
  some "[\"closed\", [7, null, \"closed\", [\"ann\", \"User\"]]]".toUTF8

/-- The variables of a run, with or without one for the number of a pull request. -/
def runVariables (number : List (String × String)) (name : String) : Option String :=
  ([("GITHUB_REPOSITORY", "octo/repo"), ("GITHUB_EVENT_PATH", "event.json")] ++ number).lookup name

/-- A number that is given by a word or not at all makes no difference for a closed pull request. -/
theorem carried_pull_wins_closed :
    ∃ t t', CommandLine.carryOut ["missing-issue-link"] (runVariables []) Rest.standard
        (fun _ => closedPayload) .unreachable = .ok t ∧
      CommandLine.carryOut ["missing-issue-link", "--pr-number", "12"] (runVariables [])
        Rest.standard (fun _ => closedPayload) .unreachable = .ok t' ∧
      t'.result = t.result ∧ t'.exitStatus = t.exitStatus ∧ t'.messages = t.messages := by
  let a : Arguments := ⟨"octo/repo", none, none, "event.json", none, .unassign⟩
  have h : CommandLine.parse ["missing-issue-link"] (runVariables []) = .ok (a.withNumber none) :=
    rfl
  have h' : CommandLine.parse ["missing-issue-link", "--pr-number", "12"] (runVariables []) =
      .ok (a.withNumber (some "12")) := rfl
  let files : String → Option ByteArray := fun _ => closedPayload
  have hcarried : Payload.carriesPull (files a.eventPath) = true := by decide +kernel
  obtain ⟨t, t', ht, ht', hiff, hsame⟩ :=
    carried_pull_wins_iff h h' hcarried Rest.standard .unreachable
  have hresult := hiff.2 (.inr (by decide +kernel))
  obtain ⟨hexit, hmessages, -⟩ := hsame hresult
  exact ⟨t, t', ht, ht', hresult, hexit, hmessages⟩

/-- The payload carries a closed pull request, which is left alone; but with a variable whose text
is no number the command fails. -/
theorem carried_pull_loses :
    Payload.carriesPull closedPayload = true ∧
    ∃ t t', CommandLine.carryOut ["missing-issue-link"] (runVariables []) Rest.standard
        (fun _ => closedPayload) .unreachable = .ok t ∧
      CommandLine.carryOut ["missing-issue-link"] (runVariables [("PR_NUMBER", "abc")])
        Rest.standard (fun _ => closedPayload) .unreachable = .ok t' ∧
      t.result.toOption = some (.skipped .notOpen) ∧ t.exitStatus = 0 ∧
      fault? t'.result = some (.number ⟨"abc", .invalidDigit⟩) ∧ t'.exitStatus = 1 := by
  let a : Arguments := ⟨"octo/repo", none, none, "event.json", none, .unassign⟩
  refine ⟨by decide +kernel, (a.withNumber none).execute Rest.standard closedPayload .unreachable,
    (a.withNumber (some "abc")).execute Rest.standard closedPayload .unreachable, rfl, rfl, ?_⟩
  decide +kernel

end IssueSteward
