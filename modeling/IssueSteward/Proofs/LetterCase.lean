import IssueSteward.Proofs.BoardAnswers
import IssueSteward.Proofs.MarkerText
import IssueSteward.Proofs.UnassignmentCourse

/-!
# Names in letters of another case

The checks of the unassignment service take a name in letters of another case for the same user, as
the list of assignees does, and the marker in the thread does not. So what an event asks for does
not depend on how its commenter is spelled (`demand_respelled`), but whether it counts as done
before does. `result_respelled_iff` says when the outcome is the same for both spellings: exactly
when the thread bears the markers of both or of neither. A user who was taken off an issue under one
spelling is taken off it again under another (`unassigned_again`).

Without the marker, the service ends over a board in a way that no name bears on (`unmarkedEnd`).
-/

namespace IssueSteward.Unassignment

open Program

/-- Two events differ at most in the letter case of the name of their commenter, which is `login` in
the one and `login'` in the other. -/
structure Respelled (login login' : String) (event event' : IssueCommentEvent) : Prop where
  /-- What happened is the same. -/
  action : event'.action = event.action
  /-- The issue is the same. -/
  issue : event'.issue = event.issue
  /-- The comments are the same but for the names. -/
  comment : ∃ body kind, event.comment = some ⟨body, some ⟨login, kind⟩⟩ ∧
    event'.comment = some ⟨body, some ⟨login', kind⟩⟩
  /-- The names differ at most in the case of letters. -/
  alike : Text.eqCaseless login login' = true

variable {login login' : String} {event event' : IssueCommentEvent}

/-! ## The checks -/

/-- Names that differ at most in the case of letters are the same once all letters are small. -/
theorem Respelled.lower_eq (h : Respelled login login' event event') :
    Text.lower login'.toList = Text.lower login.toList :=
  (eq_of_beq h.alike).symm

/-- A name that ends like that of a bot does so in small letters as well. -/
theorem bot_of_suffix (h : "[bot]".toList <:+ login.toList) :
    "[bot]".toList <:+ Text.lower login.toList :=
  -- the suffix has no capitals
  h.map Char.toLower

/-- An account with a name that does not end like that of a bot is a bot by its kind alone. -/
theorem isBot_of_not_suffix (h : ¬ "[bot]".toList <:+ Text.lower login.toList) (kind : String) :
    (User.mk login kind).isBot = Text.eqCaseless kind "bot" := by
  have hsuffix : "[bot]".toList.isSuffixOf login.toList = false := by
    rw [Bool.eq_false_iff, Ne, List.isSuffixOf_iff_suffix]
    exact fun hbot => h (bot_of_suffix hbot)
  simp only [User.isBot, hsuffix, Bool.or_false]

/-- An issue is assigned to a user in letters of any case. -/
theorem Respelled.isAssignedTo (h : Respelled login login' event event') (issue : Issue) :
    issue.isAssignedTo login' = issue.isAssignedTo login := by
  simp only [Issue.isAssignedTo, Text.eqCaseless, h.lower_eq]

/-- What is there is obtained. -/
theorem obtain_some {α : Type} (a : α) (reason : Skip) :
    obtain? (some a) reason = (pure a : Except Skip α) := rfl

/-- The checks do not see the letter case of the name of the commenter, unless it is that of a bot.
What is asked for is the same but for the name. -/
theorem demand_respelled (h : Respelled login login' event event')
    (hbot : ¬ "[bot]".toList <:+ Text.lower login.toList) :
    demand event' = (fun d => { d with login := login' }) <$> demand event := by
  have hbot' : ¬ "[bot]".toList <:+ Text.lower login'.toList := by rwa [h.lower_eq]
  obtain ⟨body, kind, hcomment, hcomment'⟩ := h.comment
  unfold demand
  rw [h.action, h.issue, hcomment, hcomment']
  simp only [obtain_some, pure_bind, isBot_of_not_suffix hbot, isBot_of_not_suffix hbot',
    h.isAssignedTo, map_bind, map_pure]

/-- The name that an event asks for is that of its commenter. -/
theorem Respelled.login_of_demand {d : Demand} (h : Respelled login login' event event')
    (hd : demand event = .ok d) : d.login = login := by
  obtain ⟨body, kind, hcomment, -⟩ := h.comment
  have hcommenter := commenter_of_demand hd
  unfold commenter? at hcommenter
  rw [hcomment] at hcommenter
  rcases hissue : event.issue with _ | issue
  · rw [hissue] at hcommenter
    cases hcommenter
  · rw [hissue] at hcommenter
    cases hcommenter
    rfl

/-! ## Results of runs -/

variable {σ α β : Type} {tracker : Tracker σ}

/-- A program that begins with a request ends with the failure of the request or as what comes after
the reply. -/
theorem result_ask_bind (request : Request) (k : request.Reply → Program β) (s : σ) :
    ((ask request >>= k).run tracker s).result =
      match (tracker request s).reply with
      | .ok reply => ((k reply).run tracker (tracker request s).state).result
      | .error f => .error f := by
  have hcall : ask request >>= k = .call request fun reply => (Program.done reply).bind k := rfl
  rw [hcall, Program.run]
  rcases (tracker request s).reply with f | reply
  · rfl
  · rfl

/-- To tell of a failure does not change how a program ends. -/
theorem result_complain (source : Source) (text : Failure → String) (p : Program α) (s : σ) :
    ((p.complain source text).run tracker s).result = (p.run tracker s).result := by
  induction p generalizing s with
  | done result =>
    rcases result with f | a
    · unfold complain
      split <;> rfl
    · rfl
  | log line next ih => exact ih s
  | call request next ih => exact ih _ _

/-! ## Runs over a board -/

variable {ctx : Context} {d : Demand} {b : Board}

/-- The failure of a request that is refused with a message, if there is one. -/
def refusal (message : Option String) : Except Failure Unit :=
  match message with
  | some message => .error (.refused message)
  | none => .ok ()

/-- What comes after a request that is not refused is not held up. -/
theorem refusal_none_bind (k : Unit → Except Failure β) : (refusal none >>= k) = k () := rfl

/-- How a removal ends over a board whose comments bear no marker. -/
def unmarkedEnd (ctx : Context) (b : Board) : Except Failure Outcome :=
  if ctx.dryRun then .ok .dryRun
  else do
    refusal (b.refusals .remove)
    refusal (b.refusals .create)
    return .unassigned

/-- Without a marker nothing counts as done before. -/
theorem unmarkedEnd_ne (ctx : Context) (b : Board) :
    unmarkedEnd ctx b ≠ .ok (.skipped .alreadyCommented) := by
  unfold unmarkedEnd
  split
  · simp
  · rcases b.refusals .remove with _ | message
    · rcases b.refusals .create with _ | message <;> exact fun h => nomatch h
    · exact fun h => nomatch h

/-- What a board replies to a request: the refusal of requests of that kind, or what it grants. -/
theorem answer_reply (request : Request) (b : Board) :
    (Board.answer request b).reply =
      refusal (b.refusals request.operation) >>= fun _ => (Board.grant request b).1 := by
  unfold Board.answer
  split
  · rename_i h
    rw [h]
    rfl
  · rename_i h
    rw [h]
    rfl

/-- What a board refuses does not change with a request. -/
theorem answer_refusals (request : Request) (b : Board) :
    (Board.answer request b).state.refusals = b.refusals := by
  rw [Board.answer_state]

/-- A removal where no comment bears the marker ends in the same way whoever the user is. -/
theorem result_carryOut (ctx : Context) (d : Demand) (b : Board) :
    ((carryOut ctx d).run Board.answer b).result = unmarkedEnd ctx b := by
  unfold carryOut unmarkedEnd
  split
  · rfl
  · -- the removal, and then the confirmation on the board as it is after it
    refine (result_ask_bind (.unassign ctx.repository d.number d.login) _ b).trans ?_
    rw [answer_reply, Request.operation]
    rcases b.refusals .remove with _ | message
    · refine (result_ask_bind (.comment ctx.repository d.number (body d.login)) _ _).trans ?_
      rw [answer_reply, Request.operation, answer_refusals]
      rcases b.refusals .create with _ | message
      · rfl
      · rfl
    · rfl

/-- How the unassignment of a user ends over a board: only the marker depends on the name. -/
theorem result_unassign (ctx : Context) (d : Demand) (b : Board) :
    ((unassign ctx d).run Board.answer b).result =
      refusal (b.refusals .list) >>= fun _ =>
        if (Marker.unassigned d.login).isIn (b.thread d.number) then
          .ok (.skipped .alreadyCommented)
        else unmarkedEnd ctx b := by
  unfold unassign
  refine (result_ask_bind (.comments ctx.repository d.number) _ b).trans ?_
  rw [answer_reply, Request.operation]
  rcases hlist : b.refusals .list with _ | message
  · have hstate : (Board.answer (.comments ctx.repository d.number) b).state = b := by
      unfold Board.answer
      rw [Request.operation, hlist]
      rfl
    rw [hstate]
    change (Program.run _ (if (Marker.unassigned d.login).isIn (b.thread d.number) then _ else _)
      b).result = if _ then _ else _
    split
    · rfl
    · exact result_carryOut ctx d b
  · rfl

/-- How the service ends over a board. -/
theorem result_run (ctx : Context) (event : IssueCommentEvent) (b : Board) :
    ((run ctx event).run Board.answer b).result =
      match demand event with
      | .error reason => .ok (.skipped reason)
      | .ok d =>
        refusal (b.refusals .list) >>= fun _ =>
          if (Marker.unassigned d.login).isIn (b.thread d.number) then
            .ok (.skipped .alreadyCommented)
          else unmarkedEnd ctx b := by
  rw [run_eq]
  rcases demand event with reason | d
  · rfl
  · exact (result_complain _ _ _ b).trans (result_unassign ctx d b)

/-! ## Two spellings -/

/-- The service ends in the same way for two spellings of its commenter exactly when it does not
come to look at the thread, or the thread bears the markers of both spellings or of neither. What is
asked for, and the first check that fails, are the same for both in any case. -/
theorem result_respelled_iff (h : Respelled login login' event event')
    (hbot : ¬ "[bot]".toList <:+ Text.lower login.toList) (ctx : Context) (b : Board) :
    demand event' = (fun d => { d with login := login' }) <$> demand event ∧
    (((run ctx event).run Board.answer b).result = ((run ctx event').run Board.answer b).result ↔
      ∀ d, demand event = .ok d → b.refusals .list = none →
        (Marker.unassigned login).isIn (b.thread d.number) =
          (Marker.unassigned login').isIn (b.thread d.number)) := by
  have hdemand' := demand_respelled h hbot
  refine ⟨hdemand', ?_⟩
  rw [result_run, result_run, hdemand']
  rcases hdemand : demand event with reason | d
  · exact ⟨fun _ d hd => (nomatch hd), fun _ => rfl⟩
  have hlogin : d.login = login := h.login_of_demand hdemand
  simp only [Except.ok.injEq, forall_eq', Functor.map, Except.map, hlogin]
  rcases b.refusals .list with _ | message
  · -- the comments are listed, and each spelling looks for its own marker
    rw [refusal_none_bind, refusal_none_bind]
    have hend := unmarkedEnd_ne ctx b
    cases (Marker.unassigned login).isIn (b.thread d.number) with
    | false =>
      cases (Marker.unassigned login').isIn (b.thread d.number) with
      | false => simp
      | true => simpa using hend
    | true =>
      cases (Marker.unassigned login').isIn (b.thread d.number) with
      | false => simpa using hend.symm
      | true => simp
  · exact ⟨fun _ hnone => (nomatch hnone), fun _ => rfl⟩

/-! ## A user who is taken off an issue twice -/

/-- The comment of an assignee that asks for being taken off an issue, with the name spelled in some
way. -/
def commandBy (login : String) : IssueCommentEvent where
  action := some "created"
  issue := some
    { number := 5, user := none, assignees := [{ login := "Alice" }], isPullRequest := false }
  comment := some ⟨some "/unassign", some { login := login, kind := "User" }⟩

/-- The repository in which the comments are made. -/
def home : Context := ⟨⟨"octo", "repo"⟩, false⟩

/-- The board after the user was taken off the issue. -/
def recorded : Board := ((run home (commandBy "Alice")).run Board.answer {}).state

/-- The two comments differ in the case of a letter. -/
theorem respelled_commandBy :
    Respelled "Alice" "alice" (commandBy "Alice") (commandBy "alice") where
  action := rfl
  issue := rfl
  comment := ⟨_, _, rfl, rfl⟩
  alike := by decide

/-- The comment of an assignee asks for them to be taken off the issue, under the name as they are
spelled. -/
theorem demand_commandBy {login : String} (hbot : (User.mk login "User").isBot = false)
    (hassignee : Text.eqCaseless "Alice" login = true) :
    demand (commandBy login) = .ok ⟨5, login⟩ := by
  have hcommand : hasUnassignCommand "/unassign" = true := by decide +kernel
  refine demand_eq_ok.2 ⟨_, _, "/unassign", _, rfl, rfl, rfl, rfl, rfl, by decide, rfl, hbot, rfl,
    hcommand, ?_, rfl⟩
  simp [Issue.isAssignedTo, hassignee]

/-- The thread of the issue holds the confirmation, with the name as it was spelled. -/
theorem recorded_thread : recorded.thread 5 = [⟨some (body "Alice"), some Board.poster⟩] := by
  decide +kernel

/-- On a board without comments both spellings come to the same. -/
theorem result_respelled_fresh :
    Respelled "Alice" "alice" (commandBy "Alice") (commandBy "alice") ∧
    ¬ "[bot]".toList <:+ Text.lower "Alice".toList ∧
    ((run home (commandBy "Alice")).run Board.answer {}).result =
      ((run home (commandBy "alice")).run Board.answer {}).result := by
  have hbot : ¬ "[bot]".toList <:+ Text.lower "Alice".toList := by decide
  have hnone : ∀ (m : Marker) (n : UInt64), m.isIn (Board.thread {} n) = false := fun m n => by
    simp [Board.thread, Marker.isIn]
  refine ⟨respelled_commandBy, hbot, ?_⟩
  refine (result_respelled_iff respelled_commandBy hbot home {}).2.2 fun d _ _ => ?_
  rw [hnone, hnone]

/-- A user whose unassignment is recorded on an issue is left alone there under the spelling of the
record, and taken off the issue again under another one, although the spellings are of the same
user. -/
theorem unassigned_again :
    Respelled "Alice" "alice" (commandBy "Alice") (commandBy "alice") ∧
    ¬ "[bot]".toList <:+ Text.lower "Alice".toList ∧
    ((run home (commandBy "Alice")).run Board.answer recorded).result =
      .ok (.skipped .alreadyCommented) ∧
    ((run home (commandBy "alice")).run Board.answer recorded).result = .ok .unassigned := by
  have hlist : recorded.refusals .list = none := by decide +kernel
  have hmarked : (Marker.unassigned "Alice").isIn (recorded.thread 5) = true := by
    rw [recorded_thread]
    exact Marker.stamp_isIn _ _ _
  -- a confirmation bears the marker of the very name that it confirms
  have hunmarked : (Marker.unassigned "alice").isIn (recorded.thread 5) = false := by
    rw [recorded_thread, Bool.eq_false_iff, Ne, Marker.isIn_singleton,
      confirmation_bears_iff (by decide)]
    decide
  refine ⟨respelled_commandBy, by decide, ?_, ?_⟩
  · rw [result_run, demand_commandBy (by decide) (by decide)]
    simp only [hlist, hmarked, refusal_none_bind, if_true]
  · rw [result_run, demand_commandBy (by decide) (by decide)]
    simp only [hlist, hunmarked, refusal_none_bind, Bool.false_eq_true, if_false]
    rfl

end IssueSteward.Unassignment
