import IssueSteward.Proofs.MarkerText
import IssueSteward.Proofs.Once

/-!
# What markers record

Where neither sign of a marker stands in the names that are pasted into comments, the markers of a
thread record exactly what was done: `isIn_addedTo_missingIssue` and `isIn_addedTo_unassigned` say
which steps leave a marker behind, and `markers_record_history` that a service finds an earlier run
in a thread exactly when there was one, or when someone wrote the marker by hand. The names of a
session are those of its steps (`Step.names`), and `plain_of_history` says that it never comes by
others.
-/

namespace IssueSteward.Session

open Program

/-! ## Names -/

/-- The name of the author of a pull request, if it is known. -/
def authorNames (pr : PullRequest) : List String := (pr.user.map User.login).toList

/-- The names that a step brings into a session: those of a repository, of the author of a pull
request, and of a commenter. -/
def Step.names : Step → List String
  | .context ctx => [ctx.repository.owner, ctx.repository.repo]
  | .pull text | .notify text => (loadPull text).toOption.elim [] authorNames
  | .remind file _ =>
    ((Payload.load Payload.pullRequestEvent file).toOption.bind (·.pullRequest)).elim [] authorNames
  | .unassign file =>
    (((Payload.load Payload.issueCommentEvent file).toOption.bind Unassignment.commenter?).map
      Unassignment.Demand.login).toList
  | _ => []

/-- The names of a step hold neither sign of a marker. -/
def Step.Plain (step : Step) : Prop := ∀ name ∈ step.names, Text.Plain name

instance (step : Step) : Decidable step.Plain :=
  inferInstanceAs (Decidable (∀ name ∈ step.names, Text.Plain name))

/-- The names of the author of a pull request hold neither sign of a marker. -/
def PlainAuthor (pr : PullRequest) : Prop := ∀ name ∈ authorNames pr, Text.Plain name

/-- The names that a state of a session holds have neither sign of a marker. -/
structure State.Plain (s : State) : Prop where
  /-- The name of the owner. -/
  owner : Text.Plain s.ctx.repository.owner
  /-- The name of the repository. -/
  repo : Text.Plain s.ctx.repository.repo
  /-- The names of the authors of the stored pull requests. -/
  authors : ∀ pr ∈ s.board.pulls, PlainAuthor pr

/-- A service changes neither the context nor the stored pull requests. -/
theorem carryOut_frame {ε α : Type} (s : State) (loaded : Except Payload.LoadFault ε)
    (program : ε → Program α) :
    (s.carryOut loaded program).2.ctx = s.ctx ∧
      (s.carryOut loaded program).2.board.pulls = s.board.pulls := by
  unfold State.carryOut
  split
  · exact ⟨rfl, rfl⟩
  · rename_i event
    refine ⟨rfl, ?_⟩
    have hboard := Board.eq_of_answers (answers_run Board.answer (program event) s.board)
    change ((program event).run Board.answer s.board).state.pulls = s.board.pulls
    rw [hboard]

/-- A step with plain names leads from a state with plain names to one. -/
theorem plain_step {s : State} {step : Step} (h : s.Plain) (hstep : step.Plain) :
    (s.step step).2.Plain := by
  -- a service does not touch what the names are read from
  have hframe : ∀ t : State, t.ctx = s.ctx ∧ t.board.pulls = s.board.pulls → t.Plain := by
    rintro t ⟨hctx, hpulls⟩
    exact ⟨hctx ▸ h.owner, hctx ▸ h.repo, hpulls ▸ h.authors⟩
  cases step with
  | context ctx =>
    exact ⟨hstep _ List.mem_cons_self, hstep _ (List.mem_cons_of_mem _ List.mem_cons_self),
      h.authors⟩
  | pull text =>
    simp only [State.step]
    rcases htext : Payload.pullRequest.decode text with fault | pr
    · exact h
    · refine ⟨h.owner, h.repo, fun pr' hpr' => ?_⟩
      rcases List.mem_append.1 hpr' with hold | hnew
      · exact h.authors pr' hold
      · obtain rfl := List.mem_singleton.1 hnew
        have hnames : (Step.pull text).names = authorNames pr' := by
          simp only [Step.names, loadPull, htext]
          rfl
        unfold Step.Plain at hstep
        rw [hnames] at hstep
        exact hstep
  | remind file number => exact hframe _ (carryOut_frame _ _ _)
  | unassign file => exact hframe _ (carryOut_frame _ _ _)
  | notify text => exact hframe _ (carryOut_frame _ _ _)
  | resolve file number => exact hframe _ (carryOut_frame _ _ _)
  | _ => exact hframe _ ⟨rfl, rfl⟩

/-- Where the names of the steps of a session and of its beginning are plain, so are those of each
entry of its history. -/
theorem plain_of_history {s : State} {steps : List Step} (h : s.Plain)
    (hsteps : ∀ step ∈ steps, step.Plain) :
    ∀ e ∈ s.history steps, e.before.Plain ∧ e.step.Plain := by
  induction steps generalizing s with
  | nil => simp [State.history]
  | cons step steps ih =>
    have hstep := hsteps step List.mem_cons_self
    intro e he
    rcases List.mem_cons.1 he with rfl | he
    · exact ⟨h, hstep⟩
    · exact ih (plain_step h hstep) (fun step' h' => hsteps step' (List.mem_cons_of_mem _ h')) e he

namespace Entry

/-- The author of a pull request that a step finds has a plain name. -/
theorem plain_author {e : Entry} (h : e.before.Plain) (hstep : e.step.Plain) {pr : PullRequest}
    (hpull : e.pull? = some pr) : PlainAuthor pr := by
  unfold pull? at hpull
  unfold Step.Plain at hstep
  cases hs : e.step with
  | remind file number =>
    rw [hs] at hpull hstep
    obtain ⟨event, hevent, hfound⟩ := Option.bind_eq_some_iff.1 hpull
    have hcourse := course_run Board.answer (Reminder.resolve e.before.ctx event number)
      e.before.board
    have hanswers := answers_run Board.answer (Reminder.resolve e.before.ctx event number)
      e.before.board
    rw [Payload.toOption_eq_some_iff.1 hfound] at hcourse
    generalize Program.exchanges _ _ _ = es at hcourse hanswers
    rcases (Reminder.course_resolve.1 hcourse).1 with hpr | ⟨hpr, hnumber⟩ | _
    · -- the payload carries the pull request
      simp only [Step.names] at hstep
      rw [hevent, Option.bind_some, hpr] at hstep
      exact hstep
    · -- the pull request is a stored one
      obtain ⟨-, hstored⟩ := Board.answer_pullRequest_eq_ok.1 hanswers.1
      exact h.authors pr (List.mem_reverse.1 (List.mem_of_find?_eq_some hstored))
  | notify text =>
    rw [hs] at hpull hstep
    simp only [Step.names] at hpull hstep
    rw [hpull] at hstep
    exact hstep
  | _ =>
    rw [hs] at hpull
    cases hpull

/-- The commenter whom a step is about has a plain name. -/
theorem plain_commenter {e : Entry} (hstep : e.step.Plain) {d : Unassignment.Demand}
    (hcommenter : e.step.commenter? = some d) : Text.Plain d.login := by
  obtain ⟨file, hfile⟩ := unassign_of_commenter hcommenter
  rw [hfile] at hcommenter hstep
  unfold Step.Plain at hstep
  simp only [Step.commenter?, Step.names] at hcommenter hstep
  rw [hcommenter] at hstep
  exact hstep _ (by simp)

/-! ## Which step leaves which marker -/

/-- An inspection adds a comment exactly if it ends with the reminder posted, and then the reminder
for the author. -/
theorem added_of_inspection {ctx : Context} {pr : PullRequest} {es : List Exchange}
    {lines : List LogLine} {result : Except Failure Outcome}
    (h : Reminder.Inspection ctx pr es lines result) :
    (es.flatMap Exchange.added = [] ∧ result ≠ .ok .commented) ∨
    ∃ user, pr.user = some user ∧ result = .ok .commented ∧
      es.flatMap Exchange.added =
        [(pr.number, ⟨some (Reminder.body ctx.repository user.login), some Board.poster⟩)] := by
  cases h with
  | posted _ _ huser => exact .inr ⟨_, huser, rfl, rfl⟩
  | _ => exact .inl ⟨rfl, by simp⟩

/-- A removal adds a comment exactly if it ends with the user taken off the issue, and then the
confirmation for the user. -/
theorem added_of_removal {ctx : Context} {d : Unassignment.Demand} {es : List Exchange}
    {lines : List LogLine} {result : Except Failure Outcome}
    (h : Unassignment.Removal ctx d es lines result) :
    (es.flatMap Exchange.added = [] ∧ result ≠ .ok .unassigned) ∨
    (result = .ok .unassigned ∧
      es.flatMap Exchange.added =
        [(d.number, ⟨some (Unassignment.body d.login), some Board.poster⟩)]) := by
  cases h with
  | confirmed => exact .inr ⟨rfl, rfl⟩
  | _ => exact .inl ⟨rfl, by simp⟩

/-- Whether the step is a comment of someone whose text bears a marker. -/
def writes (e : Entry) (m : Marker) (number : UInt64) : Prop :=
  ∃ body user, e.step = .comment number ⟨some body, user⟩ ∧ m.Bears body

/-- A comment of someone whose text bears a marker leaves the marker on its thread. -/
theorem isIn_of_writes {e : Entry} {m : Marker} {number : UInt64} (h : e.writes m number) :
    m.isIn (e.addedTo number) = true := by
  obtain ⟨body, user, hstep, hbears⟩ := h
  have hmem : (number, ⟨some body, user⟩) ∈ e.added := by
    unfold added
    rw [hstep]
    exact List.mem_singleton.2 rfl
  exact Marker.isIn_iff.2 ⟨_, mem_addedTo.2 hmem, body, rfl, hbears⟩

/-- A step that is no comment of someone adds what its exchanges add. -/
theorem added_of_exchanges {e : Entry} (h : ∀ number comment, e.step ≠ .comment number comment) :
    e.added = e.exchanges.flatMap Exchange.added := by
  unfold added
  split
  · exact absurd ‹_› (h _ _)
  · rfl

/-- A step that runs a service is no comment of someone. -/
theorem ne_comment_of_program {e : Entry} {p : Program Outcome}
    (hp : e.step.program? e.before.ctx = some p) (number : UInt64) (comment : Comment) :
    e.step ≠ .comment number comment := by
  intro hstep
  rw [hstep] at hp
  cases hp

/-- A step that runs no program adds nothing unless someone comments. -/
theorem added_of_no_program {e : Entry} (h : ∀ number comment, e.step ≠ .comment number comment)
    (hp : e.step.program? e.before.ctx = none) : e.added = [] := by
  rw [added_of_exchanges h, (run_of_no_program hp).1, List.flatMap_nil]

/-- A step of the reminder service either adds nothing and does not end with a reminder posted, or
ends so and adds the reminder for the author of the pull request that it finds. -/
theorem added_of_reminder {e : Entry} (h : e.step.isReminder = true) :
    (e.added = [] ∧ e.outcome? ≠ some .commented) ∨
    ∃ pr user, e.reminded pr.number = true ∧ e.pull? = some pr ∧ pr.user = some user ∧
      e.added =
        [(pr.number, ⟨some (Reminder.body e.before.ctx.repository user.login), some Board.poster⟩)] := by
  have hnocomment : ∀ n c, e.step ≠ .comment n c := by
    intro n c hstep
    rw [hstep] at h
    cases h
  have hquiet : ∀ found : List Exchange, (∀ x ∈ found, x.request.operation = .get) →
      found.flatMap Exchange.added = [] := fun found hget =>
    Exchange.flatMap_added_eq_nil fun x hx => by simp [hget x hx]
  rw [added_of_exchanges hnocomment]
  rcases inspection_of_entry h with ⟨-, hnone, hget, -⟩ |
    ⟨pr, found, es, lines, result, hpull, hpr, hget, hes, hinspect, -, -, hresult⟩
  · exact .inl ⟨hquiet _ hget, by simp [hnone]⟩
  · rw [hes, List.flatMap_append, hquiet _ hget, List.nil_append]
    rcases added_of_inspection hinspect with ⟨hnil, hother⟩ | ⟨user, huser, rfl, hposted⟩
    · refine .inl ⟨hnil, ?_⟩
      rw [hresult]
      exact fun ho => hother (Payload.toOption_eq_some_iff.1 ho)
    · exact .inr ⟨pr, user, reminded_iff.2 ⟨hpr, hresult⟩, hpull, huser, hposted⟩

/-- A step of the unassignment service either adds nothing and does not end with a user taken off an
issue, or ends so and adds the confirmation for the user. -/
theorem added_of_unassign {e : Entry} {file : Option ByteArray} (hfile : e.step = .unassign file) :
    (e.added = [] ∧ e.outcome? ≠ some .unassigned) ∨
    ∃ d, e.unassigned d = true ∧
      e.added = [(d.number, ⟨some (Unassignment.body d.login), some Board.poster⟩)] := by
  rw [added_of_exchanges (by simp [hfile])]
  rcases removal_of_entry hfile with ⟨-, hnil, -, hskip⟩ |
    ⟨d, lines, result, hd, -, hremoval, -, -, hresult⟩
  · refine .inl ⟨by rw [hnil, List.flatMap_nil], fun ho => ?_⟩
    obtain ⟨reason, hreason⟩ := hskip _ ho
    cases hreason
  · rcases added_of_removal hremoval with ⟨hnil, hother⟩ | ⟨rfl, hposted⟩
    · refine .inl ⟨hnil, ?_⟩
      rw [hresult]
      exact fun ho => hother (Payload.toOption_eq_some_iff.1 ho)
    · exact .inr ⟨d, unassigned_iff.2 ⟨hd, hresult⟩, hposted⟩

/-- A comment that a step of the reminder service adds is the reminder in whose posting it ends. -/
theorem reminded_of_added {e : Entry} (hreminder : e.step.isReminder = true) {number : UInt64}
    {comment : Comment} (h : (number, comment) ∈ e.added) :
    ∃ pr user, e.reminded number = true ∧ e.pull? = some pr ∧ pr.user = some user ∧
      comment = ⟨some (Reminder.body e.before.ctx.repository user.login), some Board.poster⟩ := by
  rcases added_of_reminder hreminder with ⟨hnil, -⟩ | ⟨pr, user, hreminded, hpull, huser, hposted⟩
  · rw [hnil] at h
    cases h
  · rw [hposted, List.mem_singleton, Prod.mk.injEq] at h
    obtain ⟨rfl, rfl⟩ := h
    exact ⟨pr, user, hreminded, hpull, huser, rfl⟩

/-- A comment that a step of the unassignment service adds is the confirmation in whose posting it
ends. -/
theorem unassigned_of_added {e : Entry} {file : Option ByteArray} (hfile : e.step = .unassign file)
    {number : UInt64} {comment : Comment} (h : (number, comment) ∈ e.added) :
    ∃ login, e.unassigned ⟨number, login⟩ = true ∧
      comment = ⟨some (Unassignment.body login), some Board.poster⟩ := by
  rcases added_of_unassign hfile with ⟨hnil, -⟩ | ⟨d, hunassigned, hposted⟩
  · rw [hnil] at h
    cases h
  · rw [hposted, List.mem_singleton, Prod.mk.injEq] at h
    obtain ⟨rfl, rfl⟩ := h
    exact ⟨d.login, hunassigned, rfl⟩

/-- A comment that a step adds is one that someone writes, or the reminder or the confirmation in
whose posting the step ends. -/
theorem cases_of_added {e : Entry} {number : UInt64} {comment : Comment}
    (h : (number, comment) ∈ e.added) :
    e.step = .comment number comment ∨
    (∃ pr user, e.reminded number = true ∧ e.pull? = some pr ∧ pr.user = some user ∧
      comment = ⟨some (Reminder.body e.before.ctx.repository user.login), some Board.poster⟩) ∨
    ∃ login, e.unassigned ⟨number, login⟩ = true ∧
      comment = ⟨some (Unassignment.body login), some Board.poster⟩ := by
  cases hstep : e.step with
  | comment n c =>
    unfold added at h
    simp only [hstep, List.mem_singleton, Prod.mk.injEq] at h
    obtain ⟨rfl, rfl⟩ := h
    exact .inl rfl
  | unassign file => exact .inr (.inr (unassigned_of_added hstep h))
  | remind file n => exact .inr (.inl (reminded_of_added (by rw [hstep]; rfl) h))
  | notify text => exact .inr (.inl (reminded_of_added (by rw [hstep]; rfl) h))
  | _ =>
    -- no service runs to an outcome
    have hnone : e.step.program? e.before.ctx = none := by
      rw [hstep]
      rfl
    rw [added_of_no_program (by simp [hstep]) hnone] at h
    cases h

/-- A step leaves the marker of a reminder on a thread exactly when someone writes it there or the
step ends with the reminder posted there. -/
theorem isIn_addedTo_missingIssue {e : Entry} (hstep : e.step.Plain) {number : UInt64} :
    Marker.missingIssue.isIn (e.addedTo number) = true ↔
      e.writes Marker.missingIssue number ∨ e.reminded number = true := by
  constructor
  · intro hmark
    obtain ⟨comment, hmem, body, hbody, hbears⟩ := Marker.isIn_iff.1 hmark
    rcases cases_of_added (mem_addedTo.1 hmem) with
      hwritten | ⟨pr, user, hreminded, -⟩ | ⟨login, hunassigned, rfl⟩
    · obtain ⟨text, user⟩ := comment
      obtain rfl : text = some body := hbody
      exact .inl ⟨body, user, hwritten, hbears⟩
    · exact .inr hreminded
    · obtain rfl := Option.some.inj hbody
      have hplain := plain_commenter hstep (unassigned_iff.1 hunassigned).1
      exact absurd hbears (confirmation_not_reminder hplain)
  · rintro (hwrites | hreminded)
    · exact isIn_of_writes hwrites
    · exact isIn_of_reminded hreminded

/-- A step leaves the marker of the unassignment of a user on a thread exactly when someone writes
it there or the step ends with this very user taken off this issue. -/
theorem isIn_addedTo_unassigned {e : Entry} (hbefore : e.before.Plain) (hstep : e.step.Plain)
    {d : Unassignment.Demand} :
    (Marker.unassigned d.login).isIn (e.addedTo d.number) = true ↔
      e.writes (Marker.unassigned d.login) d.number ∨ e.unassigned d = true := by
  constructor
  · intro hmark
    obtain ⟨comment, hmem, body, hbody, hbears⟩ := Marker.isIn_iff.1 hmark
    rcases cases_of_added (mem_addedTo.1 hmem) with
      hwritten | ⟨pr, user, -, hpull, huser, rfl⟩ | ⟨login, hunassigned, rfl⟩
    · obtain ⟨text, user⟩ := comment
      obtain rfl : text = some body := hbody
      exact .inl ⟨body, user, hwritten, hbears⟩
    · obtain rfl := Option.some.inj hbody
      have hauthor := plain_author hbefore hstep hpull user.login (by simp [authorNames, huser])
      exact absurd hbears (reminder_not_confirmation hbefore.owner hbefore.repo hauthor)
    · obtain rfl := Option.some.inj hbody
      have hplain := plain_commenter hstep (unassigned_iff.1 hunassigned).1
      obtain rfl : d.login = login := (confirmation_bears_iff hplain).1 hbears
      exact .inr hunassigned
  · rintro (hwrites | hunassigned)
    · exact isIn_of_writes hwrites
    · exact isIn_of_unassigned hunassigned

/-! ## Which runs are skipped -/

/-- A step that finds a pull request which no check leaves alone, and has its comments listed,
leaves the pull request alone as reminded of before exactly when a comment bears the marker. -/
theorem skipped_iff_marked {e : Entry} (hlist : e.before.board.refusals .list = none)
    {pr : PullRequest} (hpull : e.pull? = some pr) (hdue : firstSkip Reminder.checks pr = none) :
    e.outcome? = some (.skipped .alreadyCommented) ↔
      Marker.missingIssue.isIn (e.before.board.thread pr.number) = true := by
  rcases inspection_of_entry (isReminder_of_pull hpull) with ⟨hnone, -⟩ |
    ⟨pr', found, es, lines, result, hpull', -, -, -, hinspect, hanswers, -, hresult⟩
  · rw [hnone] at hpull
    cases hpull
  · obtain rfl := Option.some.inj (hpull'.symm.trans hpull)
    rw [hresult, Payload.toOption_eq_some_iff]
    exact Board.skipped_iff_isIn (hinspect.looksFor hdue) hanswers hlist

/-- A step that is asked to take a user off an issue, and has the comments of the issue listed,
leaves this as done before exactly when a comment bears the marker of the user. -/
theorem skipped_iff_confirmed {e : Entry} (hlist : e.before.board.refusals .list = none)
    {d : Unassignment.Demand} (hdemand : e.demand? = some d) :
    e.outcome? = some (.skipped .alreadyCommented) ↔
      (Marker.unassigned d.login).isIn (e.before.board.thread d.number) = true := by
  obtain ⟨file, hfile⟩ := unassign_of_demand hdemand
  rcases removal_of_entry hfile with ⟨hnone, -⟩ |
    ⟨d', lines, result, -, hdemand', hremoval, hanswers, -, hresult⟩
  · rw [hnone] at hdemand
    cases hdemand
  · obtain rfl := Option.some.inj (hdemand'.symm.trans hdemand)
    rw [hresult, Payload.toOption_eq_some_iff]
    exact Board.skipped_iff_isIn hremoval.looksFor hanswers hlist

end Entry

/-- A marker stands in a thread before an entry of a session that starts without comments exactly
when an entry before it is one of those that leave the marker there. -/
theorem isIn_thread_iff_left {s : State} {steps : List Step} (hposts : s.board.posts = [])
    {past future : List Entry} {e : Entry} (h : s.history steps = past ++ e :: future) {m : Marker}
    {number : UInt64} {leaves : Entry → Prop}
    (hleaves : ∀ e' ∈ past, (m.isIn (e'.addedTo number) = true ↔ leaves e')) :
    m.isIn (e.before.board.thread number) = true ↔ ∃ e' ∈ past, leaves e' := by
  have hunmarked : m.isIn (s.board.thread number) = false := by
    unfold Board.thread
    rw [hposts]
    rfl
  rw [isIn_thread_of_history h, hunmarked]
  constructor
  · rintro (hinitial | ⟨e', he', hmark⟩)
    · cases hinitial
    · exact ⟨e', he', (hleaves e' he').1 hmark⟩
  · rintro ⟨e', he', hleft⟩
    exact .inr ⟨e', he', (hleaves e' he').2 hleft⟩

/-- The markers of a session record its history, where the names in it are plain and it starts
without comments. A step that is to remind of a pull request, and has its comments listed, leaves
it alone as reminded of before exactly when an earlier step reminded of it or someone wrote the
marker on its thread. A step that is to take a user off an issue leaves this as done before
exactly when an earlier step took the same user off the same issue or someone wrote the marker of
this user there. -/
theorem markers_record_history {s : State} {steps : List Step} (hposts : s.board.posts = [])
    (hs : s.Plain) (hsteps : ∀ step ∈ steps, step.Plain) {past future : List Entry} {e : Entry}
    (h : s.history steps = past ++ e :: future) (hlist : e.before.board.refusals .list = none) :
    (∀ pr, e.pull? = some pr → firstSkip Reminder.checks pr = none →
      (e.outcome? = some (.skipped .alreadyCommented) ↔
        ∃ e' ∈ past, e'.writes Marker.missingIssue pr.number ∨ e'.reminded pr.number = true)) ∧
    ∀ d, e.demand? = some d →
      (e.outcome? = some (.skipped .alreadyCommented) ↔
        ∃ e' ∈ past, e'.writes (Marker.unassigned d.login) d.number ∨ e'.unassigned d = true) := by
  have hplain : ∀ e' ∈ past, e'.before.Plain ∧ e'.step.Plain := by
    intro e' he'
    refine plain_of_history hs hsteps e' ?_
    rw [h]
    exact List.mem_append_left _ he'
  constructor
  · intro pr hpull hdue
    rw [e.skipped_iff_marked hlist hpull hdue]
    exact isIn_thread_iff_left hposts h fun e' he' =>
      Entry.isIn_addedTo_missingIssue (hplain e' he').2
  · intro d hdemand
    rw [e.skipped_iff_confirmed hlist hdemand]
    exact isIn_thread_iff_left hposts h fun e' he' =>
      Entry.isIn_addedTo_unassigned (hplain e' he').1 (hplain e' he').2

/-- The confirmation for a user does not keep another one on an issue whose name begins theirs. -/
theorem markers_record_namesakes :
    let s : State := { ctx := ⟨⟨"octo", "repo"⟩, false⟩ }
    let e₁ : Entry := ⟨s, .unassign (commandPayload "anna")⟩
    let e₂ : Entry := ⟨e₁.after, .unassign (commandPayload "ann")⟩
    e₁.unassigned ⟨7, "anna"⟩ = true ∧ e₂.unassigned ⟨7, "ann"⟩ = true ∧
      (e₂.outcome? = some (.skipped .alreadyCommented) ↔
        ∃ e' ∈ [e₁], e'.writes (Marker.unassigned "ann") 7 ∨ e'.unassigned ⟨7, "ann"⟩ = true) := by
  intro s e₁ e₂
  have hs : s.Plain := ⟨by decide +kernel, by decide +kernel, by simp [s]⟩
  have hsteps : ∀ step ∈ [e₁.step, e₂.step], step.Plain := by decide +kernel
  have h : s.history [e₁.step, e₂.step] = [e₁] ++ e₂ :: [] := rfl
  have hlist : e₂.before.board.refusals .list = none := by decide +kernel
  have hdemand : e₂.demand? = some ⟨7, "ann"⟩ := by decide +kernel
  exact ⟨by decide +kernel, by decide +kernel,
    (markers_record_history rfl hs hsteps h hlist).2 ⟨7, "ann"⟩ hdemand⟩

end IssueSteward.Session
