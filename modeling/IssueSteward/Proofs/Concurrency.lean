import IssueSteward.Proofs.Records
import IssueSteward.Proofs.Turns

/-!
# Runs of the services at the same time

Runs of the services for different events may overlap: one may post its comment between any two
requests of another. A service minds nothing in a thread but its own marker, and where the names in
their comments are plain, no run posts the marker of another one, unless both are reminders or are
for one user. So runs of which this holds do not disturb each other (`together_as_alone`), however
their requests are interleaved.
-/

namespace IssueSteward

open Program

variable {ctx : Context} {m : Marker} {b : Board}

namespace Reminder

variable {event : PullRequestEvent} {number : Option UInt64}

/-- Leaving a pull request alone minds nothing. -/
theorem heeds_leave (pr : PullRequest) (reason : Skip) : (leave pr reason).Heeds m :=
  (heeds_tell ..).bind fun _ => .done _

/-- Posting a reminder minds nothing. -/
theorem heeds_post (ctx : Context) (pr : PullRequest) (author : String) :
    (post ctx pr author).Heeds m := by
  unfold post
  split
  · exact (heeds_tell ..).bind fun _ => .done _
  · refine heeds_ask_bind (fun _ _ _ => rfl) fun _ => ?_
    exact (heeds_tell ..).bind fun _ => .done _

/-- A check of a pull request minds nothing in its thread but the marker of a reminder. -/
theorem heeds_notify (ctx : Context) (pr : PullRequest) : (notify ctx pr).Heeds .missingIssue := by
  unfold notify
  split
  · exact heeds_leave pr _
  · refine heeds_ask_bind (fun comments others halike => ?_) fun comments => ?_
    · have hsame : Marker.missingIssue.isIn comments = Marker.missingIssue.isIn others := halike
      simp only [hsame]
    · split
      · exact heeds_leave pr _
      · split
        · exact .done _
        · exact heeds_post ctx pr _

/-- The reminder service minds nothing in a thread but the marker of a reminder. -/
theorem heeds_run (ctx : Context) (event : PullRequestEvent) (number : Option UInt64) :
    (run ctx event number).Heeds .missingIssue := by
  have hresolve : (resolve ctx event number).Heeds .missingIssue := by
    unfold resolve
    split
    · exact .done _
    · exact .call _ (fun _ _ hsame => congrArg _ hsame) fun _ => .done _
    · exact .done _
  unfold run
  exact (hresolve.complain _ _).bind fun pr => (heeds_notify ctx pr).complain _ _

/-- The reminder service spares each marker that no reminder bears for the author of the pull
request that it looks at. -/
theorem spares_run
    (h : ∀ pr user, event.pullRequest.or (number.bind b.pull?) = some pr → pr.user = some user →
      ¬ m.Bears (body ctx.repository user.login)) : (run ctx event number).Spares m b := by
  intro es lines result hcourse hfits post hpost
  rcases cases_of_course hcourse with
    ⟨f, hsearch, -, -⟩ | ⟨pr, found, inspected, own, hsearch, hinspect, rfl, -⟩
  · rw [Exchange.flatMap_added_eq_nil fun e he => by
      simp [Session.operation_of_search hsearch e he]] at hpost
    cases hpost
  · rw [List.flatMap_append, Exchange.flatMap_added_eq_nil fun e he => by
      simp [Session.operation_of_search hsearch e he], List.nil_append] at hpost
    rcases Session.Entry.added_of_inspection hinspect with ⟨hnil, -⟩ | ⟨user, huser, -, hposted⟩
    · rw [hnil] at hpost
      cases hpost
    · rw [hposted, List.mem_singleton] at hpost
      subst hpost
      -- the pull request is the one of the payload, or the stored one of the number
      have hpr : event.pullRequest.or (number.bind b.pull?) = some pr := by
        rcases hsearch with hcarried | ⟨hnone, hnumber⟩ | _
        · rw [hcarried]
          rfl
        · rw [hnone, hnumber]
          exact hfits _ (List.mem_append_left _ (List.mem_singleton.2 rfl))
      rw [Bool.eq_false_iff, Ne, Marker.isIn_singleton]
      exact h pr user hpr huser

end Reminder

namespace Unassignment

variable {event : IssueCommentEvent}

/-- An event that asks for nothing leads to no request, and the service minds nothing. -/
theorem heeds_run_of_error {reason : Skip} (h : demand event = .error reason) :
    (run ctx event).Heeds m := by
  rw [run_eq, h]
  exact (heeds_tell ..).bind fun _ => .done _

/-- The unassignment service minds nothing in a thread but the marker of the user. -/
theorem heeds_run {d : Demand} (h : demand event = .ok d) :
    (run ctx event).Heeds (.unassigned d.login) := by
  rw [run_eq, h]
  refine Heeds.complain ?_ _ _
  unfold unassign
  refine heeds_ask_bind (fun comments others halike => ?_) fun comments => ?_
  · have hsame : (Marker.unassigned d.login).isIn comments =
        (Marker.unassigned d.login).isIn others := halike
    simp only [hsame]
  · split
    · exact (heeds_tell ..).bind fun _ => .done _
    · unfold carryOut
      split
      · exact (heeds_tell ..).bind fun _ => .done _
      · refine heeds_ask_bind (fun _ _ _ => rfl) fun _ => ?_
        refine heeds_ask_bind (fun _ _ _ => rfl) fun _ => ?_
        exact (heeds_tell ..).bind fun _ => .done _

/-- The unassignment service spares each marker that the confirmation for the commenter does not
bear. -/
theorem spares_run (h : ∀ d, commenter? event = some d → ¬ m.Bears (body d.login)) :
    (run ctx event).Spares m b := by
  intro es lines result hcourse _ post hpost
  rcases cases_of_course hcourse with ⟨reason, -, rfl, -, -⟩ | ⟨d, own, hd, hremoval, -⟩
  · cases hpost
  · rcases Session.Entry.added_of_removal hremoval with ⟨hnil, -⟩ | ⟨-, hposted⟩
    · rw [hnil] at hpost
      cases hpost
    · rw [hposted, List.mem_singleton] at hpost
      subst hpost
      rw [Bool.eq_false_iff, Ne, Marker.isIn_singleton]
      exact h d (commenter_of_demand hd)

end Unassignment

/-! ## Runs -/

/-- A run of a service for an event. -/
inductive Job where
  /-- To remind of the link to an issue. -/
  | remind (ctx : Context) (event : PullRequestEvent) (number : Option UInt64)
  /-- To unassign on request. -/
  | unassign (ctx : Context) (event : IssueCommentEvent)

namespace Job

/-- The program that a run carries out. -/
def program : Job → Program Outcome
  | .remind ctx event number => Reminder.run ctx event number
  | .unassign ctx event => Unassignment.run ctx event

/-- The commenter whom a run is to unassign, whatever the checks say. -/
def login? : Job → Option String
  | .remind _ _ _ => none
  | .unassign _ event => (Unassignment.commenter? event).map Unassignment.Demand.login

/-- The names that a run pastes into comments: those of the repository and of the author of the pull
request that it looks at, which the payload carries or the board holds, or that of the commenter. -/
def names (b : Board) : Job → List String
  | .remind ctx event number =>
    ctx.repository.owner :: ctx.repository.repo ::
      (event.pullRequest.or (number.bind b.pull?)).elim [] Session.authorNames
  | .unassign ctx event => (login? (.unassign ctx event)).toList

/-- Two runs are for different things: one is to remind and the other to unassign, or both are to
unassign and for different commenters. -/
def Distinct : Job → Job → Prop
  | .remind _ _ _, .remind _ _ _ => False
  | .remind _ _ _, .unassign _ _ => True
  | .unassign _ _, .remind _ _ _ => True
  | .unassign ctx event, .unassign ctx' event' =>
    ∀ login, login? (.unassign ctx event) = some login →
      login? (.unassign ctx' event') ≠ some login

/-- Where names are plain, a reminder bears no marker of an unassignment. -/
theorem spares_unassigned {event : PullRequestEvent} {number : Option UInt64}
    (h : ∀ name ∈ (Job.remind ctx event number).names b, Text.Plain name) (login : String) :
    (Job.remind ctx event number).program.Spares (.unassigned login) b := by
  refine Reminder.spares_run fun pr user hpr huser => ?_
  simp only [names, hpr, Option.elim_some, Session.authorNames, huser, Option.map_some,
    Option.toList_some, List.forall_mem_cons] at h
  obtain ⟨howner, hrepo, hauthor, -⟩ := h
  exact reminder_not_confirmation howner hrepo hauthor

/-- A run that is to unassign minds the marker of its commenter. One that asks for nothing minds no
marker, so that one may be taken that no plain name makes. -/
theorem exists_heeds_unassigned (ctx : Context) (event : IssueCommentEvent) :
    ∃ login, (Unassignment.run ctx event).Heeds (.unassigned login) ∧
      (login = "<" ∨ login? (.unassign ctx event) = some login) := by
  rcases hd : Unassignment.demand event with reason | d
  · exact ⟨"<", Unassignment.heeds_run_of_error hd, .inl rfl⟩
  · refine ⟨d.login, Unassignment.heeds_run hd, .inr ?_⟩
    simp [login?, Unassignment.commenter_of_demand hd]

/-- Among runs that are for different things and whose names are plain, each minds a marker that the
others spare. -/
theorem exists_marker {ι : Type} {jobs : ι → Job}
    (hdistinct : ∀ i k, i ≠ k → (jobs i).Distinct (jobs k))
    (hplain : ∀ i, ∀ name ∈ (jobs i).names b, Text.Plain name) (i : ι) :
    ∃ m, (jobs i).program.Heeds m ∧ ∀ k, k ≠ i → (jobs k).program.Spares m b := by
  have hcommenter : ∀ k ctx event d, jobs k = .unassign ctx event →
      Unassignment.commenter? event = some d → Text.Plain d.login := by
    intro k ctx event d hk hd
    refine hplain k d.login ?_
    rw [hk]
    simp [names, login?, hd]
  cases hi : jobs i with
  | remind ctx event number =>
    refine ⟨.missingIssue, Reminder.heeds_run ctx event number, fun k hk => ?_⟩
    have hother := hdistinct i k hk.symm
    cases hjob : jobs k with
    | remind ctx' event' number' =>
      rw [hi, hjob] at hother
      cases hother
    | unassign ctx' event' =>
      exact Unassignment.spares_run fun d hd =>
        confirmation_not_reminder (hcommenter k _ _ d hjob hd)
  | unassign ctx event =>
    obtain ⟨login, hheeds, hlogin⟩ := exists_heeds_unassigned ctx event
    refine ⟨.unassigned login, hheeds, fun k hk => ?_⟩
    have hother := hdistinct i k hk.symm
    cases hjob : jobs k with
    | remind ctx' event' number' => exact spares_unassigned (hjob ▸ hplain k) login
    | unassign ctx' event' =>
      refine Unassignment.spares_run fun d hd => ?_
      have hname := hcommenter k _ _ d hjob hd
      rw [confirmation_bears_iff hname]
      rintro rfl
      rcases hlogin with hsign | hlogin
      · rw [hsign] at hname
        exact absurd hname (by decide)
      · rw [hi, hjob] at hother
        exact hother d.login hlogin (by simp [login?, hd])

end Job

/-- Runs of the services that are for different things, with plain names, do not disturb each other.
Take any schedule of their requests over one board, whatever this refuses. Each run makes the
requests that it makes alone, and at its end it has made all of them, has ended as it ends alone and
has posted what it posts alone. The board is what it was before, and then holds the comments that
the runs posted, in the order in which they did. The schedule can be gone on with until each run is
at its end. -/
theorem together_as_alone {ι : Type} [DecidableEq ι] {jobs : ι → Job} {b : Board}
    (hdistinct : ∀ i k, i ≠ k → (jobs i).Distinct (jobs k))
    (hplain : ∀ i, ∀ name ∈ (jobs i).names b, Text.Plain name) (schedule : List ι) :
    let j := Joint.turns ⟨fun i => (jobs i).program, b, []⟩ schedule
    (∀ i,
      let alone := (jobs i).program.run Board.answer b
      (j.exchanges i).map Exchange.request <+: alone.calls ∧
      ∀ result, j.result? i = some result →
        (j.exchanges i).map Exchange.request = alone.calls ∧ result = alone.result ∧
        alone.state = b.post ((j.exchanges i).flatMap Exchange.added)) ∧
    j.board = b.post j.added ∧
    ∀ runs : List ι, ∃ more, ∀ i ∈ runs, ∃ result, (j.turns more).result? i = some result := by
  intro j
  refine ⟨fun i => ?_, Joint.board_of_turns (Board.post_nil b).symm schedule,
    fun runs => Joint.exists_turns_results j runs⟩
  obtain ⟨m, hheeds, hspares⟩ := Job.exists_marker hdistinct hplain i
  have hstart : Joint.Undisturbed m (jobs i).program b i ⟨fun i => (jobs i).program, b, []⟩ :=
    ⟨⟨b, ahead_start hheeds⟩, hspares⟩
  exact (Joint.undisturbed_turns hstart schedule).as_alone

/-- Two users of whom one has a name that begins with the other's are taken off one issue at the
same time: each run makes the requests that it makes alone, and both confirmations stand in the
thread. -/
theorem together_as_alone_namesakes :
    let event (login : String) : IssueCommentEvent :=
      ⟨some "created", some ⟨5, .opened, none, [⟨"ann", "User"⟩, ⟨"anna", "User"⟩], false⟩,
        some ⟨some "/unassign", some ⟨login, "User"⟩⟩⟩
    let jobs (first : Bool) : Job :=
      .unassign ⟨⟨"octo", "repo"⟩, false⟩ (event (if first then "ann" else "anna"))
    let j := Joint.turns ⟨fun first => (jobs first).program, {}, []⟩
      [true, false, false, true, false, true, true, false]
    (∀ first, (j.exchanges first).map Exchange.request =
      ((jobs first).program.run Board.answer {}).calls) ∧
    j.board.posts =
      [(5, ⟨some (Unassignment.body "anna"), some Board.poster⟩),
        (5, ⟨some (Unassignment.body "ann"), some Board.poster⟩)] := by
  intro event jobs j
  have hlogin : ∀ first, (jobs first).login? = some (if first then "ann" else "anna") :=
    fun _ => rfl
  have hnames : ∀ i k : Bool, i ≠ k →
      some (if i then "ann" else "anna") ≠ some (if k then "ann" else "anna") := by
    decide
  have hdistinct : ∀ i k, i ≠ k → (jobs i).Distinct (jobs k) := by
    intro i k hik login hi hk
    rw [hlogin] at hi hk
    exact hnames i k hik (hi.trans hk.symm)
  have hplain : ∀ i, ∀ name ∈ (jobs i).names {}, Text.Plain name := by decide
  obtain ⟨halone, hboard, -⟩ := together_as_alone (b := {}) hdistinct hplain
    [true, false, false, true, false, true, true, false]
  have hends : ∀ first, ((j.result? first).bind Except.toOption) = some .unassigned := by
    decide +kernel
  refine ⟨fun first => ?_, ?_⟩
  · obtain ⟨result, hresult, -⟩ := Option.bind_eq_some_iff.1 (hends first)
    exact ((halone first).2 result hresult).1
  · have hadded : j.added = [(5, ⟨some (Unassignment.body "anna"), some Board.poster⟩),
        (5, ⟨some (Unassignment.body "ann"), some Board.poster⟩)] := by
      decide +kernel
    rw [hboard]
    exact congrArg ([] ++ ·) hadded

end IssueSteward
