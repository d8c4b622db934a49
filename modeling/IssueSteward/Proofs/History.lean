import IssueSteward.Proofs.BoardAnswers
import IssueSteward.Proofs.ReminderCourse
import IssueSteward.Proofs.UnassignmentCourse
import IssueSteward.Session

/-!
# Histories of sessions

The history of a session is the list of its entries: each step with the state in which it was taken.
An entry gives the answer of its step, the exchanges of the service that ran, and the comments that
it added. `posts_after` and `posts_of_history` say that a board holds the comments that the entries
added, in order. `inspection_of_entry` and `removal_of_entry` reduce a step of either service to the
courses of that service over the board.
-/

namespace IssueSteward.Session

open Program

/-! ## Entries -/

/-- A step of a session with the state in which it is taken. -/
structure Entry where
  /-- The state before the step. -/
  before : State
  /-- The step. -/
  step : Step

/-- The history of the session that takes some steps from a state on. -/
def State.history (s : State) : List Step → List Entry
  | [] => []
  | step :: steps => ⟨s, step⟩ :: (s.step step).2.history steps

/-- The program of the service that a step runs to an outcome, if it does so and its payload is
loaded. -/
def Step.program? (ctx : Context) : Step → Option (Program Outcome)
  | .remind file number =>
    (Payload.load Payload.pullRequestEvent file).toOption.map fun event =>
      Reminder.run ctx event number
  | .unassign file =>
    (Payload.load Payload.issueCommentEvent file).toOption.map fun event =>
      Unassignment.run ctx event
  | .notify text => (loadPull text).toOption.map fun pr => Reminder.notify ctx pr
  | _ => none

/-- Whether a step runs the reminder service to an outcome. -/
def Step.isReminder : Step → Bool
  | .remind _ _ | .notify _ => true
  | _ => false

/-- The number of the pull request that a step of the reminder service is about: that of the one
that the payload carries, or else the given one. -/
def Step.pullNumber? : Step → Option UInt64
  | .remind file number =>
    (Payload.load Payload.pullRequestEvent file).toOption.bind fun event =>
      (event.pullRequest.map PullRequest.number).or number
  | .notify text => (loadPull text).toOption.map PullRequest.number
  | _ => none

/-- The issue and the commenter that a step of the unassignment service is about, whatever the
checks of the service say. -/
def Step.commenter? : Step → Option Unassignment.Demand
  | .unassign file =>
    (Payload.load Payload.issueCommentEvent file).toOption.bind Unassignment.commenter?
  | _ => none

namespace Entry

/-- The answer of the step. -/
def answer (e : Entry) : Answer := (e.before.step e.step).1

/-- The state after the step. -/
def after (e : Entry) : State := (e.before.step e.step).2

/-- The outcome of the service that the step runs, if it runs one and this does not fail. -/
def outcome? (e : Entry) : Option Outcome :=
  match e.answer with
  | .outcome report => report.result.toOption
  | _ => none

/-- The requests that the step makes. -/
def calls (e : Entry) : List Request :=
  match e.answer with
  | .outcome report => report.calls
  | .resolved report => report.calls
  | _ => []

/-- The exchanges of the service that the step runs to an outcome. -/
def exchanges (e : Entry) : List Exchange :=
  match e.step.program? e.before.ctx with
  | some program => program.exchanges Board.answer e.before.board
  | none => []

/-- The comments that the step adds, each with the number of its thread. -/
def added (e : Entry) : List (UInt64 × Comment) :=
  match e.step with
  | .comment number comment => [(number, comment)]
  | _ => e.exchanges.flatMap Exchange.added

/-- The pull request that the step checks for a reminder, if it finds one. -/
def pull? (e : Entry) : Option PullRequest :=
  match e.step with
  | .remind file number =>
    (Payload.load Payload.pullRequestEvent file).toOption.bind fun event =>
      ((Reminder.resolve e.before.ctx event number).run Board.answer e.before.board).result.toOption
  | .notify text => (loadPull text).toOption
  | _ => none

/-- What the event of the step asks for, if every check of the unassignment service passes. -/
def demand? (e : Entry) : Option Unassignment.Demand :=
  match e.step with
  | .unassign file =>
    (Payload.load Payload.issueCommentEvent file).toOption.bind fun event =>
      (Unassignment.demand event).toOption
  | _ => none

/-- Whether the step posts a reminder on the pull request of a number. -/
def reminded (e : Entry) (number : UInt64) : Bool :=
  e.step.pullNumber? == some number && e.outcome? == some .commented

/-- Whether the step takes a commenter off an issue and confirms it. -/
def unassigned (e : Entry) (d : Unassignment.Demand) : Bool :=
  e.step.commenter? == some d && e.outcome? == some .unassigned

end Entry

/-! ## What a step does -/

/-- A result that yields no value is a failure. -/
theorem eq_error_of_toOption {ε α : Type} {x : Except ε α} (h : x.toOption = none) :
    ∃ f, x = .error f := by
  rcases x with f | b
  · exact ⟨f, rfl⟩
  · cases h

/-- A step that runs a service to an outcome answers with the run of its program over the board. -/
theorem step_of_program {s : State} {step : Step} {p : Program Outcome}
    (h : step.program? s.ctx = some p) :
    s.step step =
      (.outcome ⟨(p.run Board.answer s.board).result.mapError .failure,
          (p.run Board.answer s.board).calls, (p.run Board.answer s.board).logs⟩,
        { s with board := (p.run Board.answer s.board).state }) := by
  cases step with
  | remind file number =>
    obtain ⟨event, he, rfl⟩ := Option.map_eq_some_iff.1 h
    simp only [State.step, Payload.toOption_eq_some_iff.1 he]
    rfl
  | unassign file =>
    obtain ⟨event, he, rfl⟩ := Option.map_eq_some_iff.1 h
    simp only [State.step, Payload.toOption_eq_some_iff.1 he]
    rfl
  | notify text =>
    obtain ⟨pr, hpr, rfl⟩ := Option.map_eq_some_iff.1 h
    simp only [State.step, Payload.toOption_eq_some_iff.1 hpr]
    rfl
  | _ => cases h

/-- A search only ever asks for a pull request. -/
theorem operation_of_search {ctx : Context} {event : PullRequestEvent} {number : Option UInt64}
    {es : List Exchange} {found : Except Failure PullRequest}
    (h : Reminder.Search ctx event number es found) : ∀ x ∈ es, x.request.operation = .get := by
  rcases h with hpr | ⟨hpr, hnumber⟩ | ⟨hpr, hnumber⟩
  · simp
  · simp [Request.operation]
  · simp

/-- A search leaves a board as it is. -/
theorem board_of_search {ctx : Context} {event : PullRequestEvent} {number : Option UInt64}
    {es : List Exchange} {found : Except Failure PullRequest} {b c : Board}
    (h : Reminder.Search ctx event number es found) (ha : Answers Board.answer b es c) : c = b := by
  have hadded : es.flatMap Exchange.added = [] :=
    Exchange.flatMap_added_eq_nil fun x hx => by simp [operation_of_search h x hx]
  rw [Board.eq_of_answers ha, hadded, List.append_nil]

/-- A search over a board finds the pull request of the number that it is about. -/
theorem number_of_search {ctx : Context} {event : PullRequestEvent} {number : Option UInt64}
    {es : List Exchange} {pr : PullRequest} {b c : Board}
    (h : Reminder.Search ctx event number es (.ok pr)) (ha : Answers Board.answer b es c) :
    (event.pullRequest.map PullRequest.number).or number = some pr.number := by
  rcases h with hpr | ⟨hpr, hnumber⟩ | _
  · rw [hpr]
    rfl
  · obtain ⟨hreply, -⟩ := ha
    obtain ⟨-, hpull⟩ := Board.answer_pullRequest_eq_ok.1 hreply
    rw [hpr, hnumber, Board.number_of_pull? hpull]
    rfl

/-- Finding a pull request leaves a board as it is. -/
theorem board_of_resolve (ctx : Context) (event : PullRequestEvent) (number : Option UInt64)
    (b : Board) : ((Reminder.resolve ctx event number).run Board.answer b).state = b := by
  have hcourse := course_run Board.answer (Reminder.resolve ctx event number) b
  exact board_of_search (Reminder.course_resolve.1 hcourse).1 (answers_run Board.answer _ b)

namespace Entry

/-- A step that runs no program has no exchanges and no outcome, makes no request unless it finds a
pull request, and changes no thread unless someone comments. -/
theorem run_of_no_program {e : Entry} (hp : e.step.program? e.before.ctx = none) :
    e.exchanges = [] ∧ e.outcome? = none ∧
      ((∀ file number, e.step ≠ .resolve file number) → e.calls = []) ∧
      ((∀ number comment, e.step ≠ .comment number comment) →
        e.after.board.posts = e.before.board.posts) := by
  refine ⟨by unfold exchanges; rw [hp], ?_⟩
  unfold outcome? calls after answer
  cases hstep : e.step with
  | context ctx => exact ⟨rfl, fun _ => rfl, fun _ => rfl⟩
  | refuse operation message => exact ⟨rfl, fun _ => rfl, fun _ => rfl⟩
  | pull text =>
    simp only [State.step]
    rcases Payload.pullRequest.decode text with fault | pr
    · exact ⟨rfl, fun _ => rfl, fun _ => rfl⟩
    · exact ⟨rfl, fun _ => rfl, fun _ => rfl⟩
  | comment number comment =>
    exact ⟨rfl, fun _ => rfl, fun hcomment => absurd rfl (hcomment number comment)⟩
  | thread number => exact ⟨rfl, fun _ => rfl, fun _ => rfl⟩
  | resolve file number =>
    refine ⟨rfl, fun hresolve => absurd rfl (hresolve file number), fun _ => ?_⟩
    simp only [State.step, State.carryOut]
    split
    · rfl
    · exact congrArg Board.posts (board_of_resolve _ _ _ _)
  | _ =>
    -- the payload of a service is not loaded, and nothing comes of the step
    rw [hstep] at hp
    obtain ⟨fault, hf⟩ := eq_error_of_toOption (Option.map_eq_none_iff.1 hp)
    simp only [State.step, hf]
    exact ⟨rfl, fun _ => rfl, fun _ => rfl⟩

/-- What a step that runs a service answers: the end of the run, with the requests and the lines of
its course. -/
theorem answer_of_program {e : Entry} {p : Program Outcome}
    (hp : e.step.program? e.before.ctx = some p) :
    ∃ lines result, Course p e.exchanges lines result ∧
      Answers Board.answer e.before.board e.exchanges e.after.board ∧
      e.answer =
        .outcome ⟨result.mapError .failure, e.exchanges.map Exchange.request, lines⟩ := by
  have hexchanges : e.exchanges = p.exchanges Board.answer e.before.board := by
    unfold exchanges
    rw [hp]
  have hstep := step_of_program hp
  rw [hexchanges]
  refine ⟨_, _, course_run Board.answer p e.before.board, ?_, ?_⟩
  · unfold after
    rw [hstep]
    exact answers_run Board.answer p e.before.board
  · unfold answer
    rw [hstep, ← logs_run Board.answer_lines, ← calls_run]

/-- The run of the program of a step over the board, as the entry gives it: its course, the change
of the board, the requests and the outcome. -/
theorem run_of_program {e : Entry} {p : Program Outcome}
    (hp : e.step.program? e.before.ctx = some p) :
    ∃ lines result, Course p e.exchanges lines result ∧
      Answers Board.answer e.before.board e.exchanges e.after.board ∧
      e.calls = e.exchanges.map Exchange.request ∧ e.outcome? = result.toOption := by
  obtain ⟨lines, result, hcourse, hanswers, hanswer⟩ := answer_of_program hp
  refine ⟨lines, result, hcourse, hanswers, ?_, ?_⟩
  · unfold calls
    rw [hanswer]
  · unfold outcome?
    rw [hanswer]
    cases result <;> rfl

/-- A board holds after a step what it held before, and then the comments that the step added. -/
theorem posts_after (e : Entry) : e.after.board.posts = e.before.board.posts ++ e.added := by
  unfold added
  split
  · rename_i number comment hstep
    unfold after
    rw [hstep]
    rfl
  · rename_i hcomment
    rcases hp : e.step.program? e.before.ctx with _ | p
    · obtain ⟨hes, -, -, hposts⟩ := run_of_no_program hp
      rw [hposts hcomment, hes, List.flatMap_nil, List.append_nil]
    · obtain ⟨lines, result, -, hanswers, -, -⟩ := run_of_program hp
      exact congrArg Board.posts (Board.eq_of_answers hanswers)

/-- The pull request that a step checks for a reminder is the one that a search over the board
finds. -/
theorem pull_of_search {e : Entry} {file : Option ByteArray} {number : Option UInt64}
    {event : PullRequestEvent} (hstep : e.step = .remind file number)
    (hevent : (Payload.load Payload.pullRequestEvent file).toOption = some event)
    {es : List Exchange} {found : Except Failure PullRequest} {b : Board}
    (hsearch : Reminder.Search e.before.ctx event number es found)
    (ha : Answers Board.answer e.before.board es b) : e.pull? = found.toOption := by
  have hrun := (Reminder.course_resolve.2 ⟨hsearch, rfl⟩).run_eq ha
  unfold pull?
  rw [hstep]
  simp only [hevent, Option.bind_some]
  rw [hrun.2.2.1]

/-- A step of the reminder service whose payload is not loaded finds no pull request. -/
theorem pull_of_no_program {e : Entry} (hp : e.step.program? e.before.ctx = none) :
    e.pull? = none := by
  unfold pull?
  cases hstep : e.step with
  | remind file number =>
    rw [hstep] at hp
    simp only [Option.map_eq_none_iff.1 hp, Option.bind_none]
  | notify text =>
    rw [hstep] at hp
    exact Option.map_eq_none_iff.1 hp
  | _ => rfl

/-- A step of the reminder service either finds no pull request and ends in no outcome, or finds the
one that it is about and inspects it over the board. -/
theorem inspection_of_entry {e : Entry} (h : e.step.isReminder = true) :
    (e.pull? = none ∧ e.outcome? = none ∧ (∀ x ∈ e.exchanges, x.request.operation = .get) ∧
      e.calls = e.exchanges.map Exchange.request) ∨
    ∃ pr found es lines result, e.pull? = some pr ∧ e.step.pullNumber? = some pr.number ∧
      (∀ x ∈ found, x.request.operation = .get) ∧ e.exchanges = found ++ es ∧
      Reminder.Inspection e.before.ctx pr es lines result ∧
      Answers Board.answer e.before.board es e.after.board ∧
      e.calls = e.exchanges.map Exchange.request ∧ e.outcome? = result.toOption := by
  rcases hp : e.step.program? e.before.ctx with _ | p
  · -- without a payload no program is run
    obtain ⟨hes, houtcome, hcalls, -⟩ := run_of_no_program hp
    have hnoresolve : ∀ file number, e.step ≠ .resolve file number := by
      intro file number hresolve
      rw [hresolve] at h
      cases h
    exact .inl ⟨pull_of_no_program hp, houtcome, by simp [hes], by rw [hes, hcalls hnoresolve]; rfl⟩
  · obtain ⟨lines, result, hcourse, hanswers, hcalls, houtcome⟩ := run_of_program hp
    cases hstep : e.step with
    | remind file number =>
      rw [hstep] at hp
      obtain ⟨event, hevent, rfl⟩ := Option.map_eq_some_iff.1 hp
      rcases Reminder.cases_of_course hcourse with
        ⟨f, hsearch, -, rfl⟩ | ⟨pr, found, es, own, hsearch, hinspect, hes, -⟩
      · exact .inl ⟨pull_of_search hstep hevent hsearch hanswers, houtcome,
          operation_of_search hsearch, hcalls⟩
      · rw [hes, answers_append] at hanswers
        obtain ⟨b, hfound, hanswers⟩ := hanswers
        have hpull := pull_of_search hstep hevent hsearch hfound
        have hnumber : (Step.remind file number).pullNumber? = some pr.number :=
          Option.bind_eq_some_iff.2 ⟨event, hevent, number_of_search hsearch hfound⟩
        rw [board_of_search hsearch hfound] at hanswers
        exact .inr ⟨pr, found, es, own, result, hpull, hnumber, operation_of_search hsearch, hes,
          hinspect, hanswers, hcalls, houtcome⟩
    | notify text =>
      rw [hstep] at hp
      obtain ⟨pr, hpr, rfl⟩ := Option.map_eq_some_iff.1 hp
      have hpull : e.pull? = some pr := by
        unfold pull?
        rw [hstep]
        exact hpr
      have hnumber : (Step.notify text).pullNumber? = some pr.number :=
        Option.map_eq_some_iff.2 ⟨pr, hpr, rfl⟩
      exact .inr ⟨pr, [], e.exchanges, lines, result, hpull, hnumber, by simp, rfl,
        Reminder.inspection_of_course hcourse, hanswers, hcalls, houtcome⟩
    | _ =>
      rw [hstep] at h
      cases h

/-- A step of the unassignment service either makes no request and takes no one off an issue, or
does over the board what its event asks for, which is to take its commenter off its issue. -/
theorem removal_of_entry {e : Entry} {file : Option ByteArray} (h : e.step = .unassign file) :
    (e.demand? = none ∧ e.exchanges = [] ∧ e.calls = [] ∧
      ∀ o, e.outcome? = some o → ∃ reason, o = .skipped reason) ∨
    ∃ d lines result, e.step.commenter? = some d ∧ e.demand? = some d ∧
      Unassignment.Removal e.before.ctx d e.exchanges lines result ∧
      Answers Board.answer e.before.board e.exchanges e.after.board ∧
      e.calls = e.exchanges.map Exchange.request ∧ e.outcome? = result.toOption := by
  rcases hp : e.step.program? e.before.ctx with _ | p
  · obtain ⟨hes, houtcome, hcalls, -⟩ := run_of_no_program hp
    refine .inl ⟨?_, hes, hcalls (by simp [h]), by simp [houtcome]⟩
    unfold demand?
    rw [h] at hp ⊢
    simp only [Option.map_eq_none_iff.1 hp, Option.bind_none]
  · obtain ⟨lines, result, hcourse, hanswers, hcalls, houtcome⟩ := run_of_program hp
    rw [h] at hp
    obtain ⟨event, hevent, rfl⟩ := Option.map_eq_some_iff.1 hp
    have hdemand : e.demand? = (Unassignment.demand event).toOption := by
      unfold demand?
      rw [h]
      simp only [hevent, Option.bind_some]
    rcases Unassignment.cases_of_course hcourse with
      ⟨reason, hreason, hes, -, rfl⟩ | ⟨d, own, hd, hremoval, -⟩
    · rw [hreason] at hdemand
      rw [hes] at hcalls
      exact .inl ⟨hdemand, hes, hcalls,
        fun o ho => ⟨reason, Option.some.inj (ho.symm.trans houtcome)⟩⟩
    · rw [hd] at hdemand
      have hcommenter : e.step.commenter? = some d := by
        rw [h]
        exact Option.bind_eq_some_iff.2 ⟨event, hevent, Unassignment.commenter_of_demand hd⟩
      exact .inr ⟨d, own, result, hcommenter, hdemand, hremoval, hanswers, hcalls, houtcome⟩

/-- A step that is about a pull request is one of the reminder service. -/
theorem isReminder_of_pullNumber {step : Step} {number : UInt64}
    (h : step.pullNumber? = some number) : step.isReminder = true := by
  cases step with
  | remind file n => rfl
  | notify text => rfl
  | _ => cases h

/-- A step that finds a pull request to check is one of the reminder service. -/
theorem isReminder_of_pull {e : Entry} {pr : PullRequest} (h : e.pull? = some pr) :
    e.step.isReminder = true := by
  unfold pull? at h
  cases hstep : e.step with
  | remind file number => rfl
  | notify text => rfl
  | _ =>
    rw [hstep] at h
    cases h

/-- A step whose event asks for something is one of the unassignment service. -/
theorem unassign_of_demand {e : Entry} {d : Unassignment.Demand} (h : e.demand? = some d) :
    ∃ file, e.step = .unassign file := by
  unfold demand? at h
  cases hstep : e.step with
  | unassign file => exact ⟨file, rfl⟩
  | _ =>
    rw [hstep] at h
    cases h

/-- A step that is about an issue and a commenter is one of the unassignment service. -/
theorem unassign_of_commenter {step : Step} {d : Unassignment.Demand}
    (h : step.commenter? = some d) : ∃ file, step = .unassign file := by
  cases step with
  | unassign file => exact ⟨file, rfl⟩
  | _ => cases h

end Entry

/-! ## Histories -/

/-- The answers of the entries of a history are those of the session. -/
theorem answers_of_history (s : State) (steps : List Step) :
    (s.history steps).map Entry.answer = (s.run steps).1 := by
  induction steps generalizing s with
  | nil => rfl
  | cons step steps ih =>
    simp only [State.history, State.run, List.map_cons]
    rw [ih]
    rfl

/-- Before an entry of a history the board holds what it held at the beginning, and then the
comments that the entries before it added. -/
theorem posts_of_history {s : State} {steps : List Step} {past future : List Entry} {e : Entry}
    (h : s.history steps = past ++ e :: future) :
    e.before.board.posts = s.board.posts ++ past.flatMap Entry.added := by
  induction past generalizing s steps with
  | nil =>
    rcases steps with _ | ⟨step, steps⟩
    · cases h
    · obtain ⟨rfl, -⟩ := List.cons.inj h
      simp
  | cons first past ih =>
    rcases steps with _ | ⟨step, steps⟩
    · cases h
    · obtain ⟨rfl, htail⟩ := List.cons.inj h
      rw [ih htail, List.flatMap_cons, ← List.append_assoc]
      exact congrArg (· ++ _) (Entry.posts_after ⟨s, step⟩)

end IssueSteward.Session
