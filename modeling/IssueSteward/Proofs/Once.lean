import IssueSteward.Proofs.History

/-!
# What is done at most once

In a session, whatever its steps are, a pull request is reminded of at most once and a user is taken
off an issue and told so at most once. Both rest on the marker of the comment that is posted
(`pairwise_of_marked`): a thread never loses a comment, and a service that finds its marker in a
thread makes no request after that. `reminder_once` and `unassignment_once` are the two results; the
second also says what can be left of an attempt whose confirmation fails.
-/

namespace IssueSteward

/-- A marker stands in two lists of comments when it stands in one of them. -/
theorem Marker.isIn_append (m : Marker) (comments others : List Comment) :
    m.isIn (comments ++ others) = (m.isIn comments || m.isIn others) := by
  simp only [isIn, List.any_append]

/-- A comment that begins with a marker bears it. -/
theorem Marker.isIn_of_stamp_mem {m : Marker} {body : String} {user : Option User}
    {comments : List Comment} (h : ⟨some (m.stamp body), user⟩ ∈ comments) :
    m.isIn comments = true := by
  obtain ⟨before, after, rfl⟩ := List.append_of_mem h
  rw [isIn_append, ← List.singleton_append, isIn_append, stamp_isIn]
  simp

end IssueSteward

namespace IssueSteward.Session

/-! ## Markers in threads -/

/-- The comments that a step adds to a thread. -/
def Entry.addedTo (e : Entry) (number : UInt64) : List Comment :=
  (e.added.filter fun post => post.1 == number).map Prod.snd

/-- Before an entry of a history a thread is what it was at the beginning, and then the comments
that the entries before it added to it. -/
theorem thread_of_history {s : State} {steps : List Step} {past future : List Entry} {e : Entry}
    (h : s.history steps = past ++ e :: future) (number : UInt64) :
    e.before.board.thread number =
      s.board.thread number ++ past.flatMap fun e' => e'.addedTo number := by
  have hposts := posts_of_history h
  unfold Board.thread
  rw [hposts, List.filter_append, List.map_append, List.filter_flatMap, List.map_flatMap]
  rfl

/-- A marker stands in a thread before an entry of a history when it did at the beginning, or when
an entry before this one added a comment that bears it. -/
theorem isIn_thread_of_history {s : State} {steps : List Step} {past future : List Entry}
    {e : Entry} (h : s.history steps = past ++ e :: future) (m : Marker) (number : UInt64) :
    m.isIn (e.before.board.thread number) = true ↔
      m.isIn (s.board.thread number) = true ∨ ∃ e' ∈ past, m.isIn (e'.addedTo number) = true := by
  rw [thread_of_history h, Marker.isIn_append, Bool.or_eq_true]
  unfold Marker.isIn
  simp only [List.any_flatMap, List.any_eq_true]

/-- Where one kind of step leaves a marker on a thread and another kind abstains from something
when it finds the marker there, no step of the second kind that follows one of the first does
that thing. -/
theorem pairwise_of_marked {m : Marker} {number : UInt64} {leaves abstains : Entry → Prop}
    (hleaves : ∀ e, leaves e → m.isIn (e.addedTo number) = true)
    (habstains : ∀ e, m.isIn (e.before.board.thread number) = true → abstains e)
    (s : State) (steps : List Step) :
    (s.history steps).Pairwise fun e e' => leaves e → abstains e' := by
  induction steps generalizing s with
  | nil => exact .nil
  | cons step steps ih =>
    refine List.pairwise_cons.2 ⟨fun e' he' hleft => habstains e' ?_, ih _⟩
    obtain ⟨between, future, hsplit⟩ := List.append_of_mem he'
    have hhistory : s.history (step :: steps) = (⟨s, step⟩ :: between) ++ e' :: future :=
      congrArg _ hsplit
    exact (isIn_thread_of_history hhistory m number).2
      (.inr ⟨_, List.mem_cons_self, hleaves _ hleft⟩)

/-- What keeps later entries from being of its own kind occurs at most once. -/
theorem countP_le_one {p : Entry → Bool} {history : List Entry}
    (h : history.Pairwise fun e e' => p e = true → p e' = false) : history.countP p ≤ 1 := by
  induction h with
  | nil => simp
  | @cons e rest hrest _ ih =>
    rw [List.countP_cons]
    split
    · rename_i he
      have hzero : rest.countP p = 0 := by
        rw [List.countP_eq_zero]
        intro e' he'
        rw [hrest e' he' he]
        exact Bool.false_ne_true
      omega
    · exact ih

namespace Entry

/-- A comment that an exchange of a step adds is one that the step adds. -/
theorem mem_added_of_exchange {e : Entry} {x : Exchange} {post : UInt64 × Comment}
    (hx : x ∈ e.exchanges) (hpost : post ∈ x.added) : post ∈ e.added := by
  unfold added
  split
  · rename_i number comment hstep
    unfold exchanges at hx
    rw [hstep] at hx
    cases hx
  · exact List.mem_flatMap.2 ⟨x, hx, hpost⟩

/-- The comments that a step adds to a thread are those that it adds with the number of the
thread. -/
theorem mem_addedTo {e : Entry} {number : UInt64} {comment : Comment} :
    comment ∈ e.addedTo number ↔ (number, comment) ∈ e.added := by
  unfold addedTo
  simp only [List.mem_map, List.mem_filter, beq_iff_eq, Prod.exists]
  constructor
  · rintro ⟨_, _, ⟨hmem, rfl⟩, rfl⟩
    exact hmem
  · intro hmem
    exact ⟨number, comment, ⟨hmem, rfl⟩, rfl⟩

/-! ## Reminders -/

/-- A step posts a reminder on a pull request exactly when it is about that pull request and ends
so. -/
theorem reminded_iff {e : Entry} {number : UInt64} :
    e.reminded number = true ↔
      e.step.pullNumber? = some number ∧ e.outcome? = some .commented := by
  unfold reminded
  simp only [Bool.and_eq_true, beq_iff_eq]

/-- A step that posts a reminder on a pull request has found its thread without the marker, and adds
the reminder for its author. -/
theorem posted_of_reminded {e : Entry} {number : UInt64} (h : e.reminded number = true) :
    Marker.missingIssue.isIn (e.before.board.thread number) = false ∧
    ∃ pr user found, e.pull? = some pr ∧ pr.number = number ∧ pr.user = some user ∧
      (∀ x ∈ found, x.request.operation = .get) ∧
      e.exchanges = found ++
        [⟨.comments e.before.ctx.repository number, .ok (e.before.board.thread number)⟩,
          ⟨.comment e.before.ctx.repository number
            (Reminder.body e.before.ctx.repository user.login), .ok ()⟩] := by
  obtain ⟨hnumber, houtcome⟩ := reminded_iff.1 h
  rcases inspection_of_entry (isReminder_of_pullNumber hnumber) with ⟨-, hnone, -⟩ |
    ⟨pr, found, es, lines, result, hpull, hpr, hget, hes, hinspect, hanswers, -, hresult⟩
  · rw [hnone] at houtcome
    cases houtcome
  · obtain rfl := Option.some.inj (hpr.symm.trans hnumber)
    rw [hresult] at houtcome
    cases hinspect with
    | posted hdue hmark huser hdry =>
      obtain ⟨-, rfl⟩ := Board.answer_comments_eq_ok.1 hanswers.1
      exact ⟨hmark, pr, _, found, hpull, rfl, huser, hget, hes⟩
    | _ => cases houtcome

/-- A step that posts a reminder on a pull request leaves the marker on its thread. -/
theorem isIn_of_reminded {e : Entry} {number : UInt64} (h : e.reminded number = true) :
    Marker.missingIssue.isIn (e.addedTo number) = true := by
  obtain ⟨-, pr, user, found, -, -, -, -, hes⟩ := posted_of_reminded h
  have hposted : ⟨.comment e.before.ctx.repository number
      (Reminder.body e.before.ctx.repository user.login), .ok ()⟩ ∈ e.exchanges := by
    rw [hes]
    simp
  exact Marker.isIn_of_stamp_mem
    (mem_addedTo.2 (mem_added_of_exchange hposted (List.mem_singleton.2 rfl)))

/-- A step whose exchanges do not ask for something asks for it nowhere. -/
theorem notMem_calls {e : Entry} {o : Operation}
    (hcalls : e.calls = e.exchanges.map Exchange.request)
    (h : ∀ x ∈ e.exchanges, x.request.operation ≠ o) : o ∉ e.calls.map Request.operation := by
  rw [hcalls, List.map_map]
  intro hmem
  obtain ⟨x, hx, hop⟩ := List.mem_map.1 hmem
  exact h x hx hop

/-- A step that is about a pull request whose thread bears the marker posts nothing. -/
theorem no_create_of_marked {e : Entry} {number : UInt64}
    (hmark : Marker.missingIssue.isIn (e.before.board.thread number) = true)
    (hnumber : e.step.pullNumber? = some number) :
    .create ∉ e.calls.map Request.operation := by
  rcases inspection_of_entry (isReminder_of_pullNumber hnumber) with ⟨-, -, hget, hcalls⟩ |
    ⟨pr, found, es, lines, result, -, hpr, hget, hes, hinspect, hanswers, hcalls, -⟩
  · refine notMem_calls hcalls fun x hx => ?_
    rw [hget x hx]
    decide
  · obtain rfl := Option.some.inj (hpr.symm.trans hnumber)
    -- whether or not a check gives a reason, the inspection asks for the comments at most
    have hlist : ∀ x ∈ es, x.request.operation = .list := by
      rcases hdue : firstSkip Reminder.checks pr with _ | reason
      · exact Board.only_lists_of_marked (hinspect.looksFor hdue) hanswers hmark
      · rw [hinspect.eq_nil hdue]
        simp
    refine notMem_calls hcalls fun x hx => ?_
    rw [hes] at hx
    rcases List.mem_append.1 hx with hx | hx
    · rw [hget x hx]
      decide
    · rw [hlist x hx]
      decide

end Entry

/-- A pull request is reminded of at most once in a session, from whatever state it starts: at most
one step ends with a reminder posted on it, and no later step that is about it asks to post a
comment. -/
theorem reminder_once (s : State) (steps : List Step) (number : UInt64) :
    (s.history steps).countP (·.reminded number) ≤ 1 ∧
      (s.history steps).Pairwise fun e e' => e.reminded number = true →
        e'.step.pullNumber? = some number → .create ∉ e'.calls.map Request.operation := by
  constructor
  · refine countP_le_one (pairwise_of_marked (fun e => e.isIn_of_reminded) ?_ s steps)
    intro e hmark
    rw [Bool.eq_false_iff]
    intro hreminded
    have hunmarked := (Entry.posted_of_reminded hreminded).1
    rw [hmark] at hunmarked
    cases hunmarked
  · exact pairwise_of_marked (fun e => e.isIn_of_reminded) (fun e => e.no_create_of_marked) s steps

/-- A reminder is posted where one is due. -/
example :
    let s : State := { ctx := ⟨⟨"octo", "repo"⟩, false⟩ }
    (s.history [.notify "[7, null, \"open\", [\"ann\", \"User\"]]"]).countP (·.reminded 7) = 1 := by
  decide +kernel

/-! ## Unassignments -/

namespace Entry

/-- A step takes a commenter off an issue and confirms it exactly when it is about them and
ends so. -/
theorem unassigned_iff {e : Entry} {d : Unassignment.Demand} :
    e.unassigned d = true ↔
      e.step.commenter? = some d ∧ e.outcome? = some .unassigned := by
  unfold unassigned
  simp only [Bool.and_eq_true, beq_iff_eq]

/-- A step that takes a commenter off an issue and confirms it has found the thread without their
marker, and makes exactly three requests, which all succeed. -/
theorem confirmed_of_unassigned {e : Entry} {d : Unassignment.Demand} (h : e.unassigned d = true) :
    (Marker.unassigned d.login).isIn (e.before.board.thread d.number) = false ∧
      e.demand? = some d ∧
      e.exchanges =
        [⟨.comments e.before.ctx.repository d.number, .ok (e.before.board.thread d.number)⟩,
          ⟨.unassign e.before.ctx.repository d.number d.login, .ok ()⟩,
          ⟨.comment e.before.ctx.repository d.number (Unassignment.body d.login), .ok ()⟩] := by
  obtain ⟨hcommenter, houtcome⟩ := unassigned_iff.1 h
  obtain ⟨file, hfile⟩ := unassign_of_commenter hcommenter
  rcases removal_of_entry hfile with ⟨-, -, -, hskip⟩ |
    ⟨d', lines, result, hd, hdemand, hremoval, hanswers, -, hresult⟩
  · obtain ⟨reason, hreason⟩ := hskip _ houtcome
    cases hreason
  · obtain rfl := Option.some.inj (hd.symm.trans hcommenter)
    rw [hresult] at houtcome
    generalize hes : e.exchanges = es at hremoval hanswers
    cases hremoval with
    | confirmed hmark hdry =>
      obtain ⟨-, rfl⟩ := Board.answer_comments_eq_ok.1 hanswers.1
      exact ⟨hmark, hdemand, rfl⟩
    | _ => cases houtcome

/-- A step that takes a commenter off an issue and confirms it leaves their marker on the thread. -/
theorem isIn_of_unassigned {e : Entry} {d : Unassignment.Demand} (h : e.unassigned d = true) :
    (Marker.unassigned d.login).isIn (e.addedTo d.number) = true := by
  obtain ⟨-, -, hes⟩ := confirmed_of_unassigned h
  have hposted : ⟨.comment e.before.ctx.repository d.number (Unassignment.body d.login), .ok ()⟩ ∈
      e.exchanges := by
    rw [hes]
    simp
  exact Marker.isIn_of_stamp_mem
    (mem_addedTo.2 (mem_added_of_exchange hposted (List.mem_singleton.2 rfl)))

/-- A step that is about a commenter and an issue whose thread bears their marker changes
nothing. -/
theorem no_change_of_marked {e : Entry} {d : Unassignment.Demand}
    (hmark : (Marker.unassigned d.login).isIn (e.before.board.thread d.number) = true)
    (hcommenter : e.step.commenter? = some d) :
    .remove ∉ e.calls.map Request.operation ∧ .create ∉ e.calls.map Request.operation := by
  obtain ⟨file, hfile⟩ := unassign_of_commenter hcommenter
  rcases removal_of_entry hfile with ⟨-, -, hcalls, -⟩ |
    ⟨d', lines, result, hd, -, hremoval, hanswers, hcalls, -⟩
  · rw [hcalls]
    simp
  · obtain rfl := Option.some.inj (hd.symm.trans hcommenter)
    have hlist := Board.only_lists_of_marked hremoval.looksFor hanswers hmark
    constructor
    · exact notMem_calls hcalls fun x hx => by simp [hlist x hx]
    · exact notMem_calls hcalls fun x hx => by simp [hlist x hx]

/-- Of three exchanges that list comments, take a user off an issue and do something else, only the
last can ask to post a comment. -/
theorem eq_last_of_create {l u c x : Exchange} {earlier later : List Exchange}
    (hl : l.request.operation = .list) (hu : u.request.operation = .remove)
    (hx : x.request.operation = .create) (h : [l, u, c] = earlier ++ x :: later) :
    earlier = [l, u] ∧ x = c := by
  rcases earlier with _ | ⟨first, _ | ⟨second, _ | ⟨third, earlier⟩⟩⟩
  · obtain ⟨rfl, -⟩ := List.cons.inj h
    rw [hl] at hx
    cases hx
  · obtain ⟨-, h⟩ := List.cons.inj h
    obtain ⟨rfl, -⟩ := List.cons.inj h
    rw [hu] at hx
    cases hx
  · simp only [List.cons_append, List.nil_append, List.cons.injEq] at h
    obtain ⟨rfl, rfl, rfl, -⟩ := h
    exact ⟨rfl, rfl⟩
  · simp at h

/-- A step of the unassignment service asks to post a comment only after it took its commenter off
its issue. -/
theorem removed_of_create {e : Entry} {file : Option ByteArray} (hfile : e.step = .unassign file)
    {earlier later : List Exchange} {x : Exchange} (hes : e.exchanges = earlier ++ x :: later)
    (hx : x.request.operation = .create) :
    ∃ d repository body, e.step.commenter? = some d ∧
      x.request = .comment repository d.number body ∧
      ⟨.unassign repository d.number d.login, .ok ()⟩ ∈ earlier := by
  have hmem : x ∈ e.exchanges := by
    rw [hes]
    simp
  rcases removal_of_entry hfile with ⟨-, hnil, -, -⟩ | ⟨d, lines, result, hd, -, hremoval, -, -, -⟩
  · rw [hnil] at hmem
    cases hmem
  · generalize e.exchanges = es at hes hmem hremoval
    cases hremoval with
    | unconfirmed hmark hdry =>
      obtain ⟨rfl, rfl⟩ := eq_last_of_create rfl rfl hx hes
      exact ⟨d, _, _, hd, rfl, by simp⟩
    | confirmed hmark hdry =>
      obtain ⟨rfl, rfl⟩ := eq_last_of_create rfl rfl hx hes
      exact ⟨d, _, _, hd, rfl, by simp⟩
    | _ =>
      -- the other courses never ask to post a comment
      simp only [List.mem_cons, List.not_mem_nil, or_false] at hmem
      rcases hmem with rfl | rfl <;> cases hx

/-- A step that is about a commenter and an issue and took a user off an issue either confirms it,
or was refused when it asked to post the confirmation. -/
theorem unassigned_or_refused {e : Entry} {d : Unassignment.Demand}
    (hcommenter : e.step.commenter? = some d) {repository : Repository} {number : UInt64}
    {login : String} (hremoved : ⟨.unassign repository number login, .ok ()⟩ ∈ e.exchanges) :
    e.unassigned d = true ∨
      ∃ f, ⟨.comment repository number (Unassignment.body login), .error f⟩ ∈ e.exchanges := by
  obtain ⟨file, hfile⟩ := unassign_of_commenter hcommenter
  rcases removal_of_entry hfile with ⟨-, hnil, -, -⟩ |
    ⟨d', lines, result, hd, -, hremoval, -, -, hresult⟩
  · rw [hnil] at hremoved
    cases hremoved
  · obtain rfl := Option.some.inj (hd.symm.trans hcommenter)
    generalize e.exchanges = es at hremoved hremoval
    cases hremoval with
    | confirmed hmark hdry => exact .inl (unassigned_iff.2 ⟨hcommenter, hresult⟩)
    | unconfirmed hmark hdry =>
      simp only [List.mem_cons, List.not_mem_nil, or_false] at hremoved
      rcases hremoved with h | h | h
      · cases h
      · cases h
        exact .inr ⟨_, List.mem_cons_of_mem _ (List.mem_cons_of_mem _ List.mem_cons_self)⟩
      · cases h
    | _ =>
      simp only [List.mem_cons, List.not_mem_nil, or_false] at hremoved
      rcases hremoved with h | h <;> cases h

end Entry

/-- A user is taken off an issue and told so at most once in a session, from whatever state it
starts, where users are told apart by the exact letters of their names. At most one step that is
about a commenter and an issue ends so, and none after it asks for a change any more. A step before
it that took the commenter off the issue was refused when it asked to post the confirmation. A
confirmation is only ever asked for after the removal that it confirms. -/
theorem unassignment_once (s : State) (steps : List Step) (d : Unassignment.Demand) :
    (s.history steps).countP (·.unassigned d) ≤ 1 ∧
      ((s.history steps).Pairwise fun e e' => e.unassigned d = true →
        e'.step.commenter? = some d →
          .remove ∉ e'.calls.map Request.operation ∧ .create ∉ e'.calls.map Request.operation) ∧
      ((s.history steps).Pairwise fun e e' => e'.unassigned d = true →
        e.step.commenter? = some d → ∀ repository number login,
          ⟨.unassign repository number login, .ok ()⟩ ∈ e.exchanges →
          ∃ f, ⟨.comment repository number (Unassignment.body login), .error f⟩ ∈ e.exchanges) ∧
      ∀ e ∈ s.history steps, ∀ file, e.step = .unassign file →
        ∀ earlier x later, e.exchanges = earlier ++ x :: later → x.request.operation = .create →
          ∃ d repository body, e.step.commenter? = some d ∧
            x.request = .comment repository d.number body ∧
            ⟨.unassign repository d.number d.login, .ok ()⟩ ∈ earlier := by
  have hunmarked : ∀ e : Entry,
      (Marker.unassigned d.login).isIn (e.before.board.thread d.number) = true →
      e.unassigned d = false := by
    intro e hmark
    rw [Bool.eq_false_iff]
    intro hunassigned
    rw [(Entry.confirmed_of_unassigned hunassigned).1] at hmark
    cases hmark
  have honce := pairwise_of_marked (fun e => e.isIn_of_unassigned) hunmarked s steps
  refine ⟨countP_le_one honce, ?_, ?_, ?_⟩
  · exact pairwise_of_marked (fun e => e.isIn_of_unassigned) (fun e => e.no_change_of_marked) s
      steps
  · refine honce.imp ?_
    intro e e' hexcludes hlater hcommenter repository number login hremoved
    rcases Entry.unassigned_or_refused hcommenter hremoved with hearlier | hrefused
    · rw [hexcludes hearlier] at hlater
      cases hlater
    · exact hrefused
  · intro e _ file hfile earlier x later hes hx
    exact Entry.removed_of_create hfile hes hx

/-- A payload in which an assignee of an issue asks to be taken off it. -/
def commandPayload (login : String) : Option ByteArray :=
  some ("[null, [7, \"open\", null, [[\"" ++ login ++ "\"]], null], [\"/unassign\", [\"" ++ login
    ++ "\", \"User\"]]]").toUTF8

/-- Where the first confirmation is refused, the user is taken off the issue again. -/
example :
    let s : State := { ctx := ⟨⟨"octo", "repo"⟩, false⟩ }
    let steps : List Step := [.refuse .create (some "down"), .unassign (commandPayload "ann"),
      .refuse .create none, .unassign (commandPayload "ann")]
    (s.history steps).map (·.unassigned ⟨7, "ann"⟩) = [false, false, false, true] ∧
      (s.history steps).map (fun e => e.calls.map Request.operation) =
        [[], [.list, .remove, .create], [], [.list, .remove, .create]] := by
  decide +kernel

end IssueSteward.Session
