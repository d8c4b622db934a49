import IssueSteward.Proofs.History
import IssueSteward.Proofs.ReminderCourse
import IssueSteward.Proofs.Requirement

/-!
# When an author is reminded

The rule of the reminder service. `Finds` says which pull request the service looks at,
`requirements` lists what has to hold of it, in order, and a reminder is `Due` when they are all met
and the thread of the pull request does not bear the marker. `posts_iff_due` says that an author is
reminded exactly then, over every tracker, and `run_error_iff` names every way to fail: a pull
request whose author is not known is one of them, but only at the point where a reminder is due.
-/

namespace IssueSteward.Reminder

open Program

/-- What has to hold of a pull request, in the order in which it is looked at. -/
def requirements : List (Requirement PullRequest) := [
  ⟨.botAuthor, fun pr => ∀ user ∈ pr.user, user.isBot = false⟩,
  ⟨.notOpen, fun pr => pr.state = .opened⟩,
  ⟨.issueLinked, fun pr => ∀ text ∈ pr.body, linksIssue text = false⟩]

/-- Each check of a pull request tests for the requirement in its place. -/
theorem checks_test : List.Forall₂ Check.TestsFor checks requirements := by
  simp only [checks, requirements, List.forall₂_cons]
  refine ⟨fun pr reason => ?_, fun pr reason => ?_, fun pr reason => ?_, .nil⟩
  · simp [botAuthor, Option.any_eq_true]
  · cases hstate : pr.state <;> simp [closed, hstate]
  · simp [linked, Option.any_eq_true]

variable {σ : Type} {tracker : Tracker σ} {ctx : Context} {event : PullRequestEvent}
  {number : Option UInt64} {pr pr' : PullRequest} {s t t' : σ} {es : List Exchange}
  {lines : List LogLine} {result : Except Failure Outcome} {f : Failure}

/-! ## Finding the pull request -/

/-- The pull request that the service looks at, and the state that the tracker is in when it is
found. -/
inductive Finds (tracker : Tracker σ) (ctx : Context) (event : PullRequestEvent)
    (number : Option UInt64) (s : σ) : PullRequest → σ → Prop
  /-- The event carries it. -/
  | carried {pr : PullRequest} (hpr : event.pullRequest = some pr) :
      Finds tracker ctx event number s pr s
  /-- The event carries none, and the tracker has one of the given number. -/
  | fetched {pr : PullRequest} {n : UInt64} (hpr : event.pullRequest = none)
      (hnumber : number = some n)
      (hreply : (tracker (.pullRequest ctx.repository n) s).reply = .ok pr) :
      Finds tracker ctx event number s pr (tracker (.pullRequest ctx.repository n) s).state

/-- One pull request is found at most. -/
theorem Finds.unique (h : Finds tracker ctx event number s pr t)
    (h' : Finds tracker ctx event number s pr' t') : pr = pr' ∧ t = t' := by
  rcases h with hpr | ⟨hpr, hnumber, hreply⟩ <;> rcases h' with hpr' | ⟨hpr', hnumber', hreply'⟩
  · rw [hpr] at hpr'
    exact ⟨Option.some.inj hpr', rfl⟩
  · rw [hpr] at hpr'
    cases hpr'
  · rw [hpr] at hpr'
    cases hpr'
  · rw [hnumber] at hnumber'
    obtain rfl := Option.some.inj hnumber'
    rw [hreply] at hreply'
    exact ⟨Except.ok.inj hreply', rfl⟩

/-- A search that ends with a pull request has found it. -/
theorem Search.finds (h : Search ctx event number es (.ok pr)) (ha : Answers tracker s es t) :
    Finds tracker ctx event number s pr t := by
  cases h with
  | carried hpr =>
    obtain rfl : s = t := ha
    exact .carried hpr
  | asked hpr hnumber =>
    obtain ⟨hreply, rfl⟩ := ha
    exact .fetched hpr hnumber hreply

/-- A search that fails has not found a pull request. -/
theorem Search.not_finds (h : Search ctx event number es (.error f)) (ha : Answers tracker s es t) :
    ¬ Finds tracker ctx event number s pr t' := by
  intro hfinds
  rcases hfinds with hpr | ⟨hpr, hnumber, hreply⟩
  · cases h with
    | asked hnone => simp [hpr] at hnone
    | missing hnone => simp [hpr] at hnone
  · cases h with
    | asked _ hnumber' =>
      rw [hnumber] at hnumber'
      obtain rfl := Option.some.inj hnumber'
      have hfailed : _ = Except.error f := ha.1
      rw [hreply] at hfailed
      cases hfailed
    | missing _ hnone => simp [hnumber] at hnone

/-- A search that fails lacks a number, or fails with its request. -/
theorem Search.cases_of_error (h : Search ctx event number es (.error f)) :
    (event.pullRequest = none ∧ number = none ∧ f = .noPullRequest) ∨ ∃ e ∈ es, e.Fails f := by
  cases h with
  | asked => exact .inr ⟨_, .head _, rfl⟩
  | missing hpr hnumber => exact .inl ⟨hpr, hnumber, rfl⟩

/-- A search fails with a request of it that fails. -/
theorem Search.eq_error_of_fails {found : Except Failure PullRequest}
    (h : Search ctx event number es found) (hfails : ∃ e ∈ es, e.Fails f) : found = .error f := by
  obtain ⟨e, he, hfails⟩ := hfails
  cases h with
  | carried => cases he
  | asked =>
    obtain rfl := List.mem_singleton.1 he
    exact hfails
  | missing => cases he

/-- A search fails where there is no number either. -/
theorem Search.eq_error_of_missing {found : Except Failure PullRequest}
    (h : Search ctx event number es found) (hpr : event.pullRequest = none)
    (hnumber : number = none) : found = .error .noPullRequest := by
  cases h with
  | carried hsome => simp [hpr] at hsome
  | asked _ hsome => simp [hnumber] at hsome
  | missing => rfl

/-- A search asks for nothing but a pull request. -/
theorem Search.filter_eq_nil {found : Except Failure PullRequest} {operation : Operation}
    (h : Search ctx event number es found) (hget : operation ≠ .get) :
    (es.map Exchange.request).filter (·.operation = operation) = [] := by
  rw [List.filter_eq_nil_iff]
  rintro request hrequest
  obtain ⟨e, he, rfl⟩ := List.mem_map.1 hrequest
  rw [Session.operation_of_search h e he]
  simpa using hget.symm

/-! ## What an inspection does -/

/-- It is due to remind the author of a pull request. -/
structure Due (tracker : Tracker σ) (ctx : Context) (pr : PullRequest) (t : σ) : Prop where
  /-- The pull request meets all requirements. -/
  met : ∀ q ∈ requirements, q.Met pr
  /-- The thread of the pull request bears no reminder. -/
  unmarked : Marker.missingIssue.Absent tracker ctx.repository pr.number t

/-- No check finds a reason to leave alone a pull request whose author is due to be reminded. -/
theorem Due.firstSkip_eq_none (h : Due tracker ctx pr t) : firstSkip checks pr = none :=
  (firstSkip_eq_none_iff checks_test).2 h.met

/-- Where an inspection goes past the checks to the comments, a reminder is due exactly when the
marker is not found in them. -/
theorem due_iff_of_listed {comments : List Comment} (hskip : firstSkip checks pr = none)
    (h : (tracker (.comments ctx.repository pr.number) t).reply = .ok comments) :
    Due tracker ctx pr t ↔ Marker.missingIssue.isIn comments = false := by
  rw [← Marker.absent_iff_of_ok h]
  exact ⟨Due.unmarked, fun habsent => ⟨(firstSkip_eq_none_iff checks_test).1 hskip, habsent⟩⟩

/-- An inspection asks to post the reminder of the author once, where it is due, the author is known
and it is no dry run, and does not ask for it otherwise. -/
theorem Inspection.posts (h : Inspection ctx pr es lines result) (ha : Answers tracker t es t') :
    let posts := (es.map Exchange.request).filter (·.operation = .create)
    (∃ user, (Due tracker ctx pr t ∧ pr.user = some user ∧ ctx.dryRun = false) ∧
      posts = [.comment ctx.repository pr.number (body ctx.repository user.login)]) ∨
    (¬ (∃ user, Due tracker ctx pr t ∧ pr.user = some user ∧ ctx.dryRun = false) ∧
      posts = []) := by
  intro posts
  cases h with
  | left hskip =>
    refine .inr ⟨fun ⟨_, hdue, _⟩ => ?_, rfl⟩
    rw [hdue.firstSkip_eq_none] at hskip
    cases hskip
  | unlisted => exact .inr ⟨fun ⟨_, hdue, _⟩ => Marker.not_absent_of_error ha.1 hdue.unmarked, rfl⟩
  | marked hskip hmark =>
    refine .inr ⟨fun ⟨_, hdue, _⟩ => ?_, rfl⟩
    rw [(due_iff_of_listed hskip ha.1).1 hdue] at hmark
    cases hmark
  | authorless _ _ huser => exact .inr ⟨fun ⟨_, _, hsome, _⟩ => by simp [huser] at hsome, rfl⟩
  | previewed _ _ _ hdry => exact .inr ⟨fun ⟨_, _, _, hwet⟩ => by simp [hdry] at hwet, rfl⟩
  | refused hskip hmark huser hdry =>
    exact .inl ⟨_, ⟨(due_iff_of_listed hskip ha.1).2 hmark, huser, hdry⟩, rfl⟩
  | posted hskip hmark huser hdry =>
    exact .inl ⟨_, ⟨(due_iff_of_listed hskip ha.1).2 hmark, huser, hdry⟩, rfl⟩

/-- An inspection that fails does so with a request, or for want of an author who is due to be
reminded. -/
theorem Inspection.cases_of_error (h : Inspection ctx pr es lines (.error f))
    (ha : Answers tracker t es t') :
    (∃ e ∈ es, e.Fails f) ∨ (Due tracker ctx pr t ∧ pr.user = none ∧ f = .noAuthor) := by
  cases h with
  | unlisted => exact .inl ⟨_, .head _, rfl⟩
  | authorless hskip hmark huser =>
    exact .inr ⟨(due_iff_of_listed hskip ha.1).2 hmark, huser, rfl⟩
  | refused => exact .inl ⟨_, .tail _ (.head _), rfl⟩

/-- An inspection fails with a request of it that fails. -/
theorem Inspection.eq_error_of_fails (h : Inspection ctx pr es lines result)
    (hfails : ∃ e ∈ es, e.Fails f) : result = .error f := by
  obtain ⟨e, he, hfails⟩ := hfails
  cases h with
  | left => cases he
  | unlisted =>
    obtain rfl := List.mem_singleton.1 he
    exact congrArg Except.error (Except.error.inj hfails)
  | marked | authorless | previewed =>
    obtain rfl := List.mem_singleton.1 he
    cases hfails
  | refused =>
    rcases List.mem_pair.1 he with rfl | rfl
    · cases hfails
    · exact congrArg Except.error (Except.error.inj hfails)
  | posted =>
    rcases List.mem_pair.1 he with rfl | rfl
    · cases hfails
    · cases hfails

/-- An inspection fails for want of an author who is due to be reminded. -/
theorem Inspection.eq_error_of_authorless (h : Inspection ctx pr es lines result)
    (ha : Answers tracker t es t') (hdue : Due tracker ctx pr t) (huser : pr.user = none) :
    result = .error .noAuthor := by
  cases h with
  | left hskip =>
    rw [hdue.firstSkip_eq_none] at hskip
    cases hskip
  | unlisted => exact absurd hdue.unmarked (Marker.not_absent_of_error ha.1)
  | marked hskip hmark =>
    rw [(due_iff_of_listed hskip ha.1).1 hdue] at hmark
    cases hmark
  | authorless => rfl
  | previewed _ _ hsome => simp [huser] at hsome
  | refused _ _ hsome => simp [huser] at hsome
  | posted _ _ hsome => simp [huser] at hsome

/-- An inspection of a pull request that does not meet all requirements asks for nothing and gives
the reason of the first that it does not meet. -/
theorem Inspection.left_of_unmet (h : Inspection ctx pr es lines result)
    (hunmet : ∃ q ∈ requirements, ¬ q.Met pr) :
    es = [] ∧ ∃ reason, FirstUnmet pr requirements reason ∧ result = .ok (.skipped reason) := by
  obtain ⟨reason, hfirst⟩ := exists_firstUnmet_iff.2 hunmet
  have hskip := (firstSkip_eq_some_iff checks_test).2 hfirst
  refine ⟨h.eq_nil hskip, reason, hfirst, ?_⟩
  cases h with
  | left hskip' =>
    rw [hskip] at hskip'
    rw [Option.some.inj hskip']
  | unlisted hnone | marked hnone | authorless hnone | previewed hnone | refused hnone
  | posted hnone => simp [hskip] at hnone

/-- An inspection fetches no pull request. -/
theorem Inspection.operation_ne_get (h : Inspection ctx pr es lines result) :
    ∀ e ∈ es, e.request.operation ≠ .get := by
  cases h <;> simp [Request.operation]

/-! ## The rule -/

/-- A run over a tracker either finds no pull request and fails, or finds one and inspects it. -/
theorem cases_of_run (tracker : Tracker σ) (ctx : Context) (event : PullRequestEvent)
    (number : Option UInt64) (s : σ) :
    let r := (run ctx event number).run tracker s
    let es := (run ctx event number).exchanges tracker s
    (∃ f, Search ctx event number es (.error f) ∧
      (∀ pr t, ¬ Finds tracker ctx event number s pr t) ∧ r.result = .error f) ∨
    ∃ pr t es₁ es₂ lines, Finds tracker ctx event number s pr t ∧
      Search ctx event number es₁ (.ok pr) ∧ Inspection ctx pr es₂ lines r.result ∧
      Answers tracker t es₂ r.state ∧ es = es₁ ++ es₂ := by
  intro r es
  have ha : Answers tracker s es r.state := answers_run tracker _ s
  rcases cases_of_course (course_run tracker (run ctx event number) s) with
    ⟨f, hsearch, -, hresult⟩ | ⟨pr, es₁, es₂, lines, hsearch, hinspection, hes, -⟩
  · exact .inl ⟨f, hsearch, fun pr t => hsearch.not_finds ha, hresult⟩
  · have hes : es = es₁ ++ es₂ := hes
    rw [hes] at ha
    obtain ⟨t, ha₁, ha₂⟩ := answers_append.1 ha
    exact .inr ⟨pr, t, es₁, es₂, lines, hsearch.finds ha₁, hsearch, hinspection, ha₂, hes⟩

/-- Either a reminder is due, its author is known and it is no dry run, and the service asks once to
post it, or it asks to post nothing. -/
theorem posts_of_run (tracker : Tracker σ) (ctx : Context) (event : PullRequestEvent)
    (number : Option UInt64) (s : σ) :
    let posts := ((run ctx event number).run tracker s).calls.filter (·.operation = .create)
    (∃ pr t user, (Finds tracker ctx event number s pr t ∧ Due tracker ctx pr t ∧
        pr.user = some user ∧ ctx.dryRun = false) ∧
      posts = [.comment ctx.repository pr.number (body ctx.repository user.login)]) ∨
    (¬ (∃ pr t user, Finds tracker ctx event number s pr t ∧ Due tracker ctx pr t ∧
        pr.user = some user ∧ ctx.dryRun = false) ∧ posts = []) := by
  intro posts
  have hcalls : posts = (((run ctx event number).exchanges tracker s).map Exchange.request).filter
      (·.operation = .create) := congrArg _ (calls_run tracker _ s)
  rcases cases_of_run tracker ctx event number s with
    ⟨f, hsearch, hnot, -⟩ | ⟨pr, t, es₁, es₂, lines, hfinds, hsearch, hinspection, ha, hes⟩
  · refine .inr ⟨fun ⟨pr, t, _, hfinds, _⟩ => hnot pr t hfinds, ?_⟩
    rw [hcalls, hsearch.filter_eq_nil (by decide)]
  · have hposts : posts = (es₂.map Exchange.request).filter (·.operation = .create) := by
      rw [hcalls, hes, List.map_append, List.filter_append, hsearch.filter_eq_nil (by decide),
        List.nil_append]
    rw [hposts]
    rcases hinspection.posts ha with ⟨user, hdue, hfilter⟩ | ⟨hnot, hfilter⟩
    · exact .inl ⟨pr, t, user, ⟨hfinds, hdue⟩, hfilter⟩
    · refine .inr ⟨fun ⟨pr', t', user, hfinds', hdue⟩ => hnot ?_, hfilter⟩
      obtain ⟨rfl, rfl⟩ := hfinds.unique hfinds'
      exact ⟨user, hdue⟩

/-- Where the pull request that is found does not meet all requirements, its comments are not asked
for, and the reason is that of the first that it does not meet. -/
theorem run_of_unmet (hfinds : Finds tracker ctx event number s pr t)
    (hunmet : ∃ q ∈ requirements, ¬ q.Met pr) :
    let r := (run ctx event number).run tracker s
    .list ∉ r.calls.map Request.operation ∧
      ∃ reason, FirstUnmet pr requirements reason ∧ r.result = .ok (.skipped reason) := by
  intro r
  rcases cases_of_run tracker ctx event number s with
    ⟨f, -, hnot, -⟩ | ⟨pr', t', es₁, es₂, lines, hfinds', hsearch, hinspection, -, hes⟩
  · exact absurd hfinds (hnot pr t)
  · obtain ⟨rfl, rfl⟩ := hfinds.unique hfinds'
    obtain ⟨rfl, hleft⟩ := hinspection.left_of_unmet hunmet
    refine ⟨?_, hleft⟩
    rw [Request.operation_mem_iff, calls_run, hes, List.append_nil,
      hsearch.filter_eq_nil (by decide)]
    exact fun h => h rfl

/-- The service fails exactly where there is no pull request to look at, with a request that fails,
and for want of an author who is due to be reminded. -/
theorem run_error_iff :
    ((run ctx event number).run tracker s).result = .error f ↔
      (event.pullRequest = none ∧ number = none ∧ f = .noPullRequest) ∨
      (∃ e ∈ (run ctx event number).exchanges tracker s, e.Fails f) ∨
      ∃ pr t, Finds tracker ctx event number s pr t ∧ Due tracker ctx pr t ∧ pr.user = none ∧
        f = .noAuthor := by
  rcases cases_of_run tracker ctx event number s with
    ⟨f', hsearch, hnot, hresult⟩ | ⟨pr, t, es₁, es₂, lines, hfinds, hsearch, hinspection, ha, hes⟩
  · rw [hresult]
    constructor
    · intro h
      rw [Except.error.inj h] at hsearch
      rcases hsearch.cases_of_error with hmissing | hfails
      · exact .inl hmissing
      · exact .inr (.inl hfails)
    · rintro (⟨hpr, hnumber, rfl⟩ | hfails | ⟨pr, t, hfinds, -⟩)
      · exact congrArg Except.error (Except.error.inj (hsearch.eq_error_of_missing hpr hnumber))
      · exact congrArg Except.error (Except.error.inj (hsearch.eq_error_of_fails hfails))
      · exact absurd hfinds (hnot pr t)
  · rw [hes]
    constructor
    · intro h
      rw [h] at hinspection
      rcases hinspection.cases_of_error ha with ⟨e, he, hfails⟩ | hauthor
      · exact .inr (.inl ⟨e, List.mem_append_right _ he, hfails⟩)
      · exact .inr (.inr ⟨pr, t, hfinds, hauthor⟩)
    · rintro (⟨hpr, hnumber, rfl⟩ | ⟨e, he, hfails⟩ | ⟨pr', t', hfinds', hdue, huser, rfl⟩)
      · cases hsearch.eq_error_of_missing hpr hnumber
      · rcases List.mem_append.1 he with he | he
        · cases hsearch.eq_error_of_fails ⟨e, he, hfails⟩
        · exact hinspection.eq_error_of_fails ⟨e, he, hfails⟩
      · obtain ⟨rfl, rfl⟩ := hfinds.unique hfinds'
        exact hinspection.eq_error_of_authorless ha hdue huser

/-- A pull request that the event carries is not fetched. -/
theorem not_get_of_carried (hpr : event.pullRequest = some pr) :
    .get ∉ ((run ctx event number).run tracker s).calls.map Request.operation := by
  rw [calls_run, List.map_map, List.mem_map]
  rintro ⟨e, he, hget⟩
  rcases cases_of_run tracker ctx event number s with
    ⟨f, -, hnot, -⟩ | ⟨pr', t, es₁, es₂, lines, -, hsearch, hinspection, -, hes⟩
  · exact hnot pr s (.carried hpr)
  · rw [hes] at he
    cases hsearch with
    | carried => exact hinspection.operation_ne_get e he hget
    | asked hnone => simp [hpr] at hnone

/-- The service asks to post a reminder exactly when one is due, its author is known and it is no
dry run, and then once, on the pull request that is found and for its author. Where that does not
meet all requirements, its comments are not asked for, and the reason is that of the first that it
does not meet. The service fails exactly where there is no pull request to look at, with a request
that fails, and for want of an author who is due to be reminded. A pull request that the event
carries is not fetched. -/
theorem posts_iff_due (tracker : Tracker σ) (ctx : Context) (event : PullRequestEvent)
    (number : Option UInt64) (s : σ) :
    let r := (run ctx event number).run tracker s
    (.create ∈ r.calls.map Request.operation ↔
      ∃ pr t user, Finds tracker ctx event number s pr t ∧ Due tracker ctx pr t ∧
        pr.user = some user ∧ ctx.dryRun = false) ∧
    (∀ pr t user, Finds tracker ctx event number s pr t → Due tracker ctx pr t →
      pr.user = some user → ctx.dryRun = false →
      r.calls.filter (·.operation = .create) =
        [.comment ctx.repository pr.number (body ctx.repository user.login)]) ∧
    (∀ pr t, Finds tracker ctx event number s pr t → (∃ q ∈ requirements, ¬ q.Met pr) →
      .list ∉ r.calls.map Request.operation ∧
        ∃ reason, FirstUnmet pr requirements reason ∧ r.result = .ok (.skipped reason)) ∧
    (∀ f, r.result = .error f ↔
      (event.pullRequest = none ∧ number = none ∧ f = .noPullRequest) ∨
      (∃ e ∈ (run ctx event number).exchanges tracker s, e.Fails f) ∨
      ∃ pr t, Finds tracker ctx event number s pr t ∧ Due tracker ctx pr t ∧ pr.user = none ∧
        f = .noAuthor) ∧
    ∀ pr, event.pullRequest = some pr → .get ∉ r.calls.map Request.operation := by
  intro r
  refine ⟨?_, fun pr t user hfinds hdue huser hdry => ?_, fun pr t => run_of_unmet,
    fun f => run_error_iff, fun pr => not_get_of_carried⟩
  · rw [Request.operation_mem_iff]
    rcases posts_of_run tracker ctx event number s with
      ⟨pr, t, user, hdue, hfilter⟩ | ⟨hnot, hfilter⟩
    · exact ⟨fun _ => ⟨pr, t, user, hdue⟩, fun _ => hfilter ▸ List.cons_ne_nil _ _⟩
    · exact ⟨fun h => absurd hfilter h, fun h => absurd h hnot⟩
  · rcases posts_of_run tracker ctx event number s with
      ⟨pr', t', user', ⟨hfinds', -, huser', -⟩, hfilter⟩ | ⟨hnot, -⟩
    · obtain ⟨rfl, rfl⟩ := hfinds.unique hfinds'
      rw [huser] at huser'
      rw [Option.some.inj huser']
      exact hfilter
    · exact absurd ⟨pr, t, user, hfinds, hdue, huser, hdry⟩ hnot

end IssueSteward.Reminder
