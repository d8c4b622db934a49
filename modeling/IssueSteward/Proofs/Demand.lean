import IssueSteward.Proofs.Course
import IssueSteward.Unassignment

/-!
# What an event asks for

The checks of the unassignment service in one go: `demand` makes them in their order and hands on
what each has looked at, so that it ends with the issue and the commenter of the event, or with the
first reason to leave the event alone. `firstSkip_of_error` and `firstSkip_of_ok` say that the list
of the checks gives the same reasons, and `run_eq` that the service may be read with the steps: once
the checks are passed there are an issue and a commenter.
-/

namespace IssueSteward

/-- The check that a condition holds. -/
def require (condition : Bool) (reason : Skip) : Except Skip Unit :=
  if condition then .ok () else .error reason

/-- The check that something is there. -/
def obtain? {α : Type} (value : Option α) (reason : Skip) : Except Skip α :=
  match value with
  | some a => .ok a
  | none => .error reason

namespace Unassignment

open Program

/-- What an event asks for, or the first reason to leave it alone: it has to be a new comment, on an
issue that is no pull request, with a text, by a person; the issue has to be open, the text to hold
the command, and the commenter to be an assignee. -/
def demand (event : IssueCommentEvent) : Except Skip Demand := do
  -- An event that does not tell its action counts as new.
  require (event.action.all (· == "created")) .notCreated
  let issue ← obtain? event.issue .noIssue
  require (!issue.isPullRequest) .isPullRequest
  let comment ← obtain? event.comment .noCommentBody
  let text ← obtain? comment.body .noCommentBody
  require (text != "") .noCommentBody
  -- A comment of an account that no longer exists is treated like one of a bot.
  let user ← obtain? comment.user .botAuthor
  require (!user.isBot) .botAuthor
  require (issue.state = .opened) .notOpen
  require (hasUnassignCommand text) .noCommand
  require (issue.isAssignedTo user.login) .notAssignee
  return ⟨issue.number, user.login⟩

variable {d : Demand} {event : IssueCommentEvent}

/-- A condition is checked with success exactly when it holds. -/
theorem require_eq_ok {condition : Bool} {reason : Skip} {u : Unit} :
    require condition reason = .ok u ↔ condition = true := by
  unfold require
  split <;> simp_all

/-- Something is obtained exactly when it is there. -/
theorem obtain_eq_ok {α : Type} {value : Option α} {reason : Skip} {a : α} :
    obtain? value reason = .ok a ↔ value = some a := by
  unfold obtain?
  split <;> simp

/-- The issue and the commenter of an event, whatever the checks say. -/
def commenter? (event : IssueCommentEvent) : Option Demand := do
  let issue ← event.issue
  let comment ← event.comment
  let user ← comment.user
  return ⟨issue.number, user.login⟩

/-- An event asks for something exactly when all checks pass, and then for its commenter to be taken
off its issue. -/
theorem demand_eq_ok :
    demand event = .ok d ↔
      ∃ issue comment text user, event.action.all (· == "created") = true ∧
        event.issue = some issue ∧ issue.isPullRequest = false ∧ event.comment = some comment ∧
        comment.body = some text ∧ text ≠ "" ∧ comment.user = some user ∧ user.isBot = false ∧
        issue.state = .opened ∧ hasUnassignCommand text = true ∧
        issue.isAssignedTo user.login = true ∧ d = ⟨issue.number, user.login⟩ := by
  unfold demand
  simp only [Payload.bind_eq_ok, require_eq_ok, obtain_eq_ok, Bool.not_eq_true', bne_iff_ne,
    decide_eq_true_eq]
  constructor
  · rintro ⟨-, ha, issue, hissue, -, hpull, comment, hcomment, text, htext, -, hne, user, huser, -,
      hbot, -, hopen, -, hcommand, -, hassigned, hd⟩
    exact ⟨issue, comment, text, user, ha, hissue, hpull, hcomment, htext, hne, huser, hbot, hopen,
      hcommand, hassigned, (Except.ok.inj hd).symm⟩
  · rintro ⟨issue, comment, text, user, ha, hissue, hpull, hcomment, htext, hne, huser, hbot, hopen,
      hcommand, hassigned, rfl⟩
    exact ⟨(), ha, issue, hissue, (), hpull, comment, hcomment, text, htext, (), hne, user, huser,
      (), hbot, (), hopen, (), hcommand, (), hassigned, rfl⟩

/-- What an event asks for is about its issue and its commenter. -/
theorem commenter_of_demand (h : demand event = .ok d) : commenter? event = some d := by
  obtain ⟨issue, comment, text, user, -, hissue, -, hcomment, -, -, huser, -, -, -, -, rfl⟩ :=
    demand_eq_ok.1 h
  unfold commenter?
  rw [hissue, hcomment]
  simp [huser]

/-! ## Reasons that steps give -/

section

variable {α β : Type} {reason reason' : Skip}

/-- A condition that is checked at the beginning gives its reason if it fails, and leaves it to the
rest to give one otherwise. -/
theorem require_bind_eq_error {condition : Bool} {k : Unit → Except Skip β} :
    (require condition reason >>= k) = .error reason' ↔
      (condition = false ∧ reason = reason') ∨ (condition = true ∧ k () = .error reason') := by
  cases condition
  · simp [require, Bind.bind, Except.bind]
  · simp [require, Bind.bind, Except.bind]

/-- Something that is asked for at the beginning gives its reason if it is not there, and leaves it
to the rest to give one otherwise. -/
theorem obtain_bind_eq_error {value : Option α} {k : α → Except Skip β} :
    (obtain? value reason >>= k) = .error reason' ↔
      (value = none ∧ reason = reason') ∨ ∃ a, value = some a ∧ k a = .error reason' := by
  cases value
  · simp [obtain?, Bind.bind, Except.bind]
  · simp [obtain?, Bind.bind, Except.bind]

end

/-! ## The list of the checks -/

/-- An event is let pass as a new comment exactly where the first check finds nothing. -/
theorem notCreated_eq (event : IssueCommentEvent) :
    notCreated event =
      if event.action.all (· == "created") then none else some .notCreated := by
  unfold notCreated
  rcases event.action with _ | action
  · rfl
  · by_cases h : action = "created" <;> simp [h]

/-- Where the steps end in a reason, the list of the checks gives it. -/
theorem firstSkip_of_error {reason : Skip} (h : demand event = .error reason) :
    firstSkip checks event = some reason := by
  unfold demand at h
  unfold checks
  -- Each step belongs to one of the checks. The first that fails gives its reason there, and the
  -- list goes on to the next check when all steps of one have passed.
  rcases require_bind_eq_error.1 h with ⟨haction, rfl⟩ | ⟨haction, h⟩
  · exact firstSkip_cons_of_some (by simp [notCreated_eq, haction])
  rw [firstSkip_cons_of_none (by simp [notCreated_eq, haction])]
  rcases obtain_bind_eq_error.1 h with ⟨hissue, rfl⟩ | ⟨issue, hissue, h⟩
  · exact firstSkip_cons_of_some (by simp [noIssue, hissue])
  rcases require_bind_eq_error.1 h with ⟨hpull, rfl⟩ | ⟨hpull, h⟩
  · exact firstSkip_cons_of_some (by simpa [noIssue, hissue] using hpull)
  rw [firstSkip_cons_of_none (by simpa [noIssue, hissue] using hpull)]
  rcases obtain_bind_eq_error.1 h with ⟨hcomment, rfl⟩ | ⟨comment, hcomment, h⟩
  · exact firstSkip_cons_of_some (by simp [badComment, hcomment])
  rcases obtain_bind_eq_error.1 h with ⟨htext, rfl⟩ | ⟨text, htext, h⟩
  · exact firstSkip_cons_of_some (by simp [badComment, hcomment, htext])
  rcases require_bind_eq_error.1 h with ⟨hne, rfl⟩ | ⟨hne, h⟩
  · exact firstSkip_cons_of_some (by simp_all [badComment])
  have hne : text ≠ "" := by simpa using hne
  rcases obtain_bind_eq_error.1 h with ⟨huser, rfl⟩ | ⟨user, huser, h⟩
  · exact firstSkip_cons_of_some (by simp [badComment, hcomment, htext, hne, huser])
  rcases require_bind_eq_error.1 h with ⟨hbot, rfl⟩ | ⟨hbot, h⟩
  · exact firstSkip_cons_of_some (by simpa [badComment, hcomment, htext, hne, huser] using hbot)
  rw [firstSkip_cons_of_none (by simpa [badComment, hcomment, htext, hne, huser] using hbot)]
  rcases require_bind_eq_error.1 h with ⟨hopen, rfl⟩ | ⟨hopen, h⟩
  · exact firstSkip_cons_of_some (by simpa [notOpen, hissue] using hopen)
  rw [firstSkip_cons_of_none (by simpa [notOpen, hissue] using hopen)]
  rcases require_bind_eq_error.1 h with ⟨hcommand, rfl⟩ | ⟨hcommand, h⟩
  · exact firstSkip_cons_of_some (by simp [noCommand, hcomment, htext, hcommand])
  rw [firstSkip_cons_of_none (by simp [noCommand, hcomment, htext, hcommand])]
  rcases require_bind_eq_error.1 h with ⟨hassigned, rfl⟩ | ⟨-, h⟩
  · exact firstSkip_cons_of_some (by simp [notAssignee, hissue, hcomment, huser, hassigned])
  cases h

/-- Where the steps come to their end, the list of the checks gives no reason. -/
theorem firstSkip_of_ok (h : demand event = .ok d) : firstSkip checks event = none := by
  obtain ⟨issue, comment, text, user, haction, hissue, hpull, hcomment, htext, hne, huser, hbot,
    hopen, hcommand, hassigned, rfl⟩ := demand_eq_ok.1 h
  simp [firstSkip, checks, notCreated_eq, noIssue, badComment, notOpen, noCommand, notAssignee, *]

/-- The service leaves an event alone for the reason in which the steps end, and otherwise does what
they end with. -/
theorem run_eq (ctx : Context) (event : IssueCommentEvent) :
    run ctx event =
      match demand event with
      | .error reason => do
        tell .unassignment ("Skipping unassign: " ++ reason.text)
        return .skipped reason
      | .ok d =>
        (unassign ctx d).complain .unassignment fun f =>
          "Unassign failed for @" ++ d.login ++ " on " ++ itemName d ++ " in "
            ++ ctx.repository.fullName ++ ": " ++ f.chain := by
  unfold run
  rcases h : demand event with reason | d
  · rw [firstSkip_of_error h]
  · rw [firstSkip_of_ok h]
    -- what the checks looked at is there
    obtain ⟨issue, comment, text, user, -, hissue, -, hcomment, -, -, huser, -, -, -, -, rfl⟩ :=
      demand_eq_ok.1 h
    simp only [hissue, hcomment, Option.bind_some, huser]

end Unassignment

end IssueSteward
