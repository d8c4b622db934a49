import IssueSteward.Proofs.ThreadContents

/-!
# What the log of a step tells

A run of a service writes one line, at its end, and the line tells how it ended. `Concludes` lists
the ways in which a service that knows its subject ends over a board, each with the comment that it
adds and the line that it writes, and `Entry.Told` those of whole steps, where a failure is told of
in a line of its own. `told_of_program` shows that there are no others. `logs_tell_truth` says for
all entries of a history what their lines tell, and counts the lines that tell of a comment against
the comments themselves.
-/

namespace IssueSteward

open Program

/-! ## Lines -/

namespace LogLine

/-- How lines begin that tell that a comment was posted. -/
def postWords : List String := ["Posted missing issue reminder", "Unassigned @"]

/-- Whether a line tells that a comment was posted. -/
def tellsPost (line : LogLine) : Bool :=
  line.level == .info && postWords.any fun words => words.toList.isPrefixOf line.text.toList

/-- A line tells of a failure in a repository. -/
structure TellsFailure (line : LogLine) (r : Repository) (f : Failure) : Prop where
  /-- It is a line for failures. -/
  level : line.level = .error
  /-- It names the repository. -/
  place : r.fullName.toList <:+: line.text.toList
  /-- It ends with all words for the failure, after a colon. -/
  cause : (": " ++ f.chain).toList <:+ line.text.toList

/-- A line that tells that a comment was posted is one of what was done. -/
theorem level_of_tellsPost {line : LogLine} (h : line.tellsPost = true) : line.level = .info := by
  unfold tellsPost at h
  rw [Bool.and_eq_true, beq_iff_eq] at h
  exact h.1

/-- A line for failures does not tell that a comment was posted. -/
theorem tellsPost_of_error {line : LogLine} (h : line.level = .error) :
    line.tellsPost = false := by
  simp [tellsPost, h]

/-- A line that begins with a sign with which no such line begins does not tell that a comment was
posted. -/
theorem tellsPost_of_head {line : LogLine} {c : Char} (h : line.text.toList.head? = some c)
    (hc : ∀ words ∈ postWords, words.toList.head? ≠ some c) : line.tellsPost = false := by
  have hsome : ∀ words ∈ postWords, words.toList ≠ [] := by decide
  have hnone : ∀ words ∈ postWords, ¬ words.toList.isPrefixOf line.text.toList = true := by
    intro words hwords hprefix
    obtain ⟨rest, hrest⟩ := List.isPrefixOf_iff_prefix.1 hprefix
    obtain ⟨d, s, hs⟩ := List.exists_cons_of_ne_nil (hsome words hwords)
    refine hc words hwords ?_
    rw [← h, ← hrest, hs]
    rfl
  simpa [tellsPost] using fun _ => hnone

/-- A line of what was done that begins like one that tells of a comment tells of one. -/
theorem tellsPost_of_prefix {line : LogLine} {words : String} (hwords : words ∈ postWords)
    (hlevel : line.level = .info) (h : words.toList <+: line.text.toList) :
    line.tellsPost = true := by
  unfold tellsPost
  rw [hlevel, Bool.and_eq_true, List.any_eq_true]
  exact ⟨rfl, words, hwords, List.isPrefixOf_iff_prefix.2 h⟩

/-- A line for a failure that says where something failed and ends with all words for the failure
tells of it. -/
theorem tellsFailure_of_text {line : LogLine} {r : Repository} {f : Failure} {before : String}
    (hlevel : line.level = .error)
    (h : line.text = before ++ " in " ++ r.fullName ++ ": " ++ f.chain) :
    line.TellsFailure r f where
  level := hlevel
  place := by
    refine ⟨(before ++ " in ").toList, (": " ++ f.chain).toList, ?_⟩
    simp [h, List.append_assoc]
  cause := by
    refine ⟨(before ++ " in " ++ r.fullName).toList, ?_⟩
    simp [h, List.append_assoc]

end LogLine

/-- Of a failure that is no crash a line tells. -/
theorem complaint_of_error {α : Type} {source : Source} {text : Failure → String} {f : Failure}
    (h : f.isCrash = false) :
    complaint source text (.error f : Except Failure α) = [⟨.error, source, text f⟩] := by
  have hlines : complaint source text (.error f : Except Failure α) =
      if f.isCrash then [] else [⟨.error, source, text f⟩] := rfl
  rw [hlines, h]
  rfl

/-! ## Conclusions -/

/-- The ways in which a service that knows its subject ends over a board: the exchanges that it has,
the lines that it writes, and its result. -/
inductive Concludes (number : UInt64) :
    List Exchange → List LogLine → Except Failure Outcome → Prop
  /-- It fails, and writes no line of its own. -/
  | failed {es : List Exchange} {f : Failure} (hadded : es.flatMap Exchange.added = [])
      (hcrash : f.isCrash = false) : Concludes number es [] (.error f)
  /-- It posts no comment, and tells of none. -/
  | idle {es : List Exchange} {line : LogLine} {o : Outcome}
      (hadded : es.flatMap Exchange.added = []) (hlevel : line.level = .info)
      (hline : line.tellsPost = false) : Concludes number es [line] (.ok o)
  /-- It posts a comment, and tells of it. -/
  | posted {es : List Exchange} {line : LogLine} {o : Outcome} {comment : Comment}
      (hadded : es.flatMap Exchange.added = [(number, comment)])
      (hline : line.tellsPost = true) : Concludes number es [line] (.ok o)

namespace Reminder

variable {ctx : Context} {event : PullRequestEvent} {number : Option UInt64} {pr : PullRequest}
  {b c : Board} {es : List Exchange} {lines : List LogLine} {result : Except Failure Outcome}

/-- The line that tells that a pull request is left alone tells of no comment. -/
theorem leaveLine_quiet (pr : PullRequest) (reason : Skip) :
    (leaveLine pr reason).tellsPost = false := by
  refine LogLine.tellsPost_of_head (c := 'S') ?_ (by decide)
  simp only [leaveLine, String.toList_append]
  rfl

/-- The line that tells of the reminder that would be posted tells of no comment. -/
theorem previewLine_quiet (ctx : Context) (pr : PullRequest) (author : String) :
    (previewLine ctx pr author).tellsPost = false := by
  refine LogLine.tellsPost_of_head (c := '[') ?_ (by decide)
  simp only [previewLine, String.toList_append]
  rfl

/-- The line that tells that a reminder was posted tells of a comment. -/
theorem postLine_tellsPost (pr : PullRequest) : (postLine pr).tellsPost = true := by
  have hsplit :
      "Posted missing issue reminder on " = "Posted missing issue reminder" ++ " on " := by decide
  refine LogLine.tellsPost_of_prefix List.mem_cons_self rfl
    ⟨" on ".toList ++ (itemName pr).toList, ?_⟩
  simp only [postLine, hsplit, String.toList_append, List.append_assoc]

/-- An inspection over a board concludes with its pull request. -/
theorem Inspection.concludes (h : Inspection ctx pr es lines result)
    (ha : Answers Board.answer b es c) : Concludes pr.number es lines result := by
  cases h with
  | left hskip => exact .idle rfl rfl (leaveLine_quiet pr _)
  | unlisted hdue => exact .failed rfl (Board.isCrash_of_answer ha.1)
  | marked hdue hmark => exact .idle rfl rfl (leaveLine_quiet pr _)
  | authorless hdue hmark huser => exact .failed rfl rfl
  | previewed hdue hmark huser hdry => exact .idle rfl rfl (previewLine_quiet ctx pr _)
  | refused hdue hmark huser hdry => exact .failed rfl (Board.isCrash_of_answer ha.2.1)
  | posted hdue hmark huser hdry => exact .posted rfl (postLine_tellsPost pr)

/-- A search over a board that fails adds nothing and does not crash. -/
theorem Search.failed {f : Failure} (h : Search ctx event number es (.error f))
    (ha : Answers Board.answer b es c) :
    es.flatMap Exchange.added = [] ∧ f.isCrash = false := by
  cases h with
  | asked hpr hnumber => exact ⟨rfl, Board.isCrash_of_answer ha.1⟩
  | missing hpr hnumber => exact ⟨rfl, rfl⟩

end Reminder

namespace Unassignment

variable {ctx : Context} {d : Demand} {b c : Board} {es : List Exchange} {lines : List LogLine}
  {result : Except Failure Outcome}

/-- The line that tells that an event is left alone tells of no comment. -/
theorem leaveLine_quiet (reason : Skip) : (leaveLine reason).tellsPost = false := by
  refine LogLine.tellsPost_of_head (c := 'S') ?_ (by decide)
  simp only [leaveLine, String.toList_append]
  rfl

/-- The line that tells that a user was taken off an issue before tells of no comment. -/
theorem markedLine_quiet (d : Demand) : (markedLine d).tellsPost = false := by
  refine LogLine.tellsPost_of_head (c := '@') ?_ (by decide)
  simp only [markedLine, String.toList_append]
  rfl

/-- The line that tells of what would be done tells of no comment. -/
theorem previewLine_quiet (d : Demand) : (previewLine d).tellsPost = false := by
  refine LogLine.tellsPost_of_head (c := '[') ?_ (by decide)
  simp only [previewLine, String.toList_append]
  rfl

/-- The line that tells that a user was taken off an issue tells of a comment. -/
theorem doneLine_tellsPost (d : Demand) : (doneLine d).tellsPost = true := by
  have hwords : "Unassigned @" ∈ LogLine.postWords := by decide
  refine LogLine.tellsPost_of_prefix hwords rfl
    ⟨d.login.toList ++ " from ".toList ++ (itemName d).toList, ?_⟩
  simp only [doneLine, String.toList_append, List.append_assoc]

/-- A removal over a board concludes with its issue. -/
theorem Removal.concludes (h : Removal ctx d es lines result)
    (ha : Answers Board.answer b es c) : Concludes d.number es lines result := by
  cases h with
  | unlisted => exact .failed rfl (Board.isCrash_of_answer ha.1)
  | marked hmark => exact .idle rfl rfl (markedLine_quiet d)
  | previewed hmark hdry => exact .idle rfl rfl (previewLine_quiet d)
  | kept hmark hdry => exact .failed rfl (Board.isCrash_of_answer ha.2.1)
  | unconfirmed hmark hdry => exact .failed rfl (Board.isCrash_of_answer ha.2.2.1)
  | confirmed hmark hdry => exact .posted rfl (doneLine_tellsPost d)

end Unassignment

namespace Session

/-! ## Steps of services -/

/-- Whether a step runs a whole service on the payload of an event. -/
def Step.isWhole : Step → Bool
  | .remind _ _ | .unassign _ => true
  | _ => false

/-- Whether a step runs a service, or a part of one, to an outcome. -/
def Step.isService : Step → Bool
  | .remind _ _ | .unassign _ | .notify _ => true
  | _ => false

/-- A whole service is one. -/
theorem Step.service_of_whole {step : Step} (h : step.isWhole = true) : step.isService = true := by
  cases step with
  | remind | unassign => rfl
  | _ => cases h

/-- In a step of a service it is not someone else who comments. -/
theorem Step.ne_comment_of_service {step : Step} (h : step.isService = true) (number : UInt64)
    (comment : Comment) : step ≠ .comment number comment := by
  rintro rfl
  cases h

/-- The number of the pull request or the issue that a step of a service is about. -/
def Step.number? (step : Step) : Option UInt64 :=
  step.pullNumber?.or (step.commenter?.map Unassignment.Demand.number)

/-- Why a service failed, if it did. -/
def Report.failure? {α : Type} (report : Report α) : Option Failure :=
  match report.result with
  | .error (.failure f) => some f
  | _ => none

/-- Whether the payload of a service was not loaded. -/
def Report.isRejection {α : Type} (report : Report α) : Bool :=
  match report.result with
  | .error (.load _) => true
  | _ => false

/-- Whether what a step gives as a payload is not accepted. -/
def Answer.isRejection : Answer → Bool
  | .rejected _ => true
  | .outcome report => report.isRejection
  | .resolved report => report.isRejection
  | _ => false

namespace Entry

/-- The lines that the step logs. -/
def logs (e : Entry) : List LogLine :=
  match e.answer with
  | .outcome report => report.logs
  | .resolved report => report.logs
  | _ => []

/-- Why the service of the step failed, if it did. -/
def failure? (e : Entry) : Option Failure :=
  match e.answer with
  | .outcome report => report.failure?
  | .resolved report => report.failure?
  | _ => none

/-- The lines of a step that answers with the end of a service. -/
theorem logs_of_answer {e : Entry} {report : Report Outcome} (h : e.answer = .outcome report) :
    e.logs = report.logs := by
  unfold logs
  rw [h]

/-- The failure of a step that answers with the end of a service. -/
theorem failure_of_answer {e : Entry} {report : Report Outcome} (h : e.answer = .outcome report) :
    e.failure? = report.failure? := by
  unfold failure?
  rw [h]

/-- The comments that stand in a thread after the step, behind those that stood there before it. -/
def appended (e : Entry) (number : UInt64) : List Comment :=
  (e.after.board.thread number).drop (e.before.board.thread number).length

/-- What a step of a service comes to, with what its log tells and what it adds to the board. -/
inductive Told (e : Entry) : Prop
  /-- It fails and adds nothing. A whole service tells of this. -/
  | failed {f : Failure} (hfailure : e.failure? = some f) (hadded : e.added = [])
      (hwhole : e.step.isWhole = true →
        ∃ line, e.logs = [line] ∧ line.TellsFailure e.before.ctx.repository f)
      (hpart : e.step.isWhole = false → e.logs = [])
  /-- It adds nothing, and tells of no comment. -/
  | idle {line : LogLine} (hfailure : e.failure? = none) (hadded : e.added = [])
      (hlogs : e.logs = [line]) (hlevel : line.level = .info) (hline : line.tellsPost = false)
  /-- It posts a comment on what it is about, and tells of it. -/
  | posted {line : LogLine} {number : UInt64} {comment : Comment} (hfailure : e.failure? = none)
      (hadded : e.added = [(number, comment)]) (hnumber : e.step.number? = some number)
      (hlogs : e.logs = [line]) (hline : line.tellsPost = true)

/-- Only a step of a service runs one. -/
theorem service_of_program {e : Entry} {p : Program Outcome}
    (hp : e.step.program? e.before.ctx = some p) : e.step.isService = true := by
  cases hstep : e.step with
  | remind | unassign | notify => rfl
  | _ =>
    rw [hstep] at hp
    cases hp

/-- A service that concludes, and adds to the lines of its conclusion what it has to say of a
failure, comes to what a step of a service may come to. -/
theorem told_of_concludes {e : Entry} {number : UInt64} {es : List Exchange}
    {own complaint : List LogLine} {result : Except Failure Outcome} {calls : List Request}
    (hanswer : e.answer = .outcome ⟨result.mapError .failure, calls, own ++ complaint⟩)
    (h : Concludes number es own result) (hadded : e.added = es.flatMap Exchange.added)
    (hnumber : e.step.number? = some number) (hok : ∀ o, result = .ok o → complaint = [])
    (hwhole : e.step.isWhole = true → ∀ f, result = .error f → f.isCrash = false →
      ∃ line, complaint = [line] ∧ line.TellsFailure e.before.ctx.repository f)
    (hpart : e.step.isWhole = false → complaint = []) : e.Told := by
  have hlogs : e.logs = own ++ complaint := logs_of_answer hanswer
  have hfailure := failure_of_answer hanswer
  cases h with
  | failed hnil hcrash =>
    refine .failed hfailure (hadded.trans hnil) (fun hstep => ?_) fun hstep => ?_
    · rw [hlogs]
      exact hwhole hstep _ rfl hcrash
    · rw [hlogs, hpart hstep]
      rfl
  | idle hnil hlevel hline =>
    rw [hok _ rfl, List.append_nil] at hlogs
    exact .idle hfailure (hadded.trans hnil) hlogs hlevel hline
  | posted hposted hline =>
    rw [hok _ rfl, List.append_nil] at hlogs
    exact .posted hfailure (hadded.trans hposted) hnumber hlogs hline

/-- A reminder fails in its search, or checks the pull request that it finds. -/
theorem told_of_remind {e : Entry} {file : Option ByteArray} {number : Option UInt64}
    {event : PullRequestEvent} (hstep : e.step = .remind file number)
    (hevent : (Payload.load Payload.pullRequestEvent file).toOption = some event)
    (hp : e.step.program? e.before.ctx = some (Reminder.run e.before.ctx event number)) :
    e.Told := by
  obtain ⟨lines, result, hcourse, hanswers, hanswer⟩ := answer_of_program hp
  have hadded := added_of_exchanges (ne_comment_of_program hp)
  have hwhole : e.step.isWhole ≠ false := by simp [hstep, Step.isWhole]
  rcases Reminder.cases_of_course hcourse with
    ⟨f, hsearch, rfl, rfl⟩ | ⟨pr, found, es, own, hsearch, hinspect, hes, rfl⟩
  · obtain ⟨hnil, hcrash⟩ := hsearch.failed hanswers
    have hline : (Reminder.searchLine e.before.ctx number f).TellsFailure
        e.before.ctx.repository f := LogLine.tellsFailure_of_text rfl rfl
    rw [complaint_of_error hcrash] at hanswer
    exact .failed (failure_of_answer hanswer) (hadded.trans hnil)
      (fun _ => ⟨_, logs_of_answer hanswer, hline⟩) fun hpart => absurd hpart hwhole
  · rw [hes, answers_append] at hanswers
    obtain ⟨b, hfound, hanswers⟩ := hanswers
    have hquiet : found.flatMap Exchange.added = [] :=
      Exchange.flatMap_added_eq_nil fun x hx => by simp [operation_of_search hsearch x hx]
    have hpull : (Step.remind file number).pullNumber? = some pr.number :=
      Option.bind_eq_some_iff.2 ⟨event, hevent, number_of_search hsearch hfound⟩
    refine told_of_concludes hanswer (hinspect.concludes hanswers) ?_ ?_ ?_ ?_ fun hpart =>
      absurd hpart hwhole
    · rw [hadded, hes, List.flatMap_append, hquiet, List.nil_append]
    · rw [hstep, Step.number?, hpull]
      rfl
    · rintro o rfl
      rfl
    · rintro - f rfl hcrash
      exact ⟨_, complaint_of_error hcrash, LogLine.tellsFailure_of_text rfl rfl⟩

/-- An unassignment leaves the event alone, or carries out what it asks for. -/
theorem told_of_unassign {e : Entry} {file : Option ByteArray} {event : IssueCommentEvent}
    (hstep : e.step = .unassign file)
    (hevent : (Payload.load Payload.issueCommentEvent file).toOption = some event)
    (hp : e.step.program? e.before.ctx = some (Unassignment.run e.before.ctx event)) :
    e.Told := by
  obtain ⟨lines, result, hcourse, hanswers, hanswer⟩ := answer_of_program hp
  have hadded := added_of_exchanges (ne_comment_of_program hp)
  have hwhole : e.step.isWhole ≠ false := by simp [hstep, Step.isWhole]
  rcases Unassignment.cases_of_course hcourse with
    ⟨reason, hreason, hes, rfl, rfl⟩ | ⟨d, own, hd, hremoval, rfl⟩
  · refine .idle (failure_of_answer hanswer) ?_ (logs_of_answer hanswer) rfl
      (Unassignment.leaveLine_quiet reason)
    rw [hadded, hes]
    rfl
  · have hcommenter : (Step.unassign file).commenter? = some d :=
      Option.bind_eq_some_iff.2 ⟨event, hevent, Unassignment.commenter_of_demand hd⟩
    refine told_of_concludes hanswer (hremoval.concludes hanswers) hadded ?_ ?_ ?_ fun hpart =>
      absurd hpart hwhole
    · rw [hstep, Step.number?, hcommenter]
      rfl
    · rintro o rfl
      rfl
    · rintro - f rfl hcrash
      exact ⟨_, complaint_of_error hcrash, LogLine.tellsFailure_of_text rfl rfl⟩

/-- A check of a pull request says nothing of its failure. -/
theorem told_of_notify {e : Entry} {text : String} {pr : PullRequest}
    (hstep : e.step = .notify text) (hpr : (loadPull text).toOption = some pr)
    (hp : e.step.program? e.before.ctx = some (Reminder.notify e.before.ctx pr)) : e.Told := by
  obtain ⟨lines, result, hcourse, hanswers, hanswer⟩ := answer_of_program hp
  have hadded := added_of_exchanges (ne_comment_of_program hp)
  have hpart : e.step.isWhole ≠ true := by simp [hstep, Step.isWhole]
  have hpull : (Step.notify text).pullNumber? = some pr.number :=
    Option.map_eq_some_iff.2 ⟨pr, hpr, rfl⟩
  have hinspect := Reminder.inspection_of_course hcourse
  rw [← List.append_nil lines] at hanswer
  refine told_of_concludes hanswer (hinspect.concludes hanswers) hadded ?_ (fun _ _ => rfl)
    (fun hwhole => absurd hwhole hpart) fun _ => rfl
  rw [hstep, Step.number?, hpull]
  rfl

/-- A step that runs a service comes to one of these. -/
theorem told_of_program {e : Entry} {p : Program Outcome}
    (hp : e.step.program? e.before.ctx = some p) : e.Told := by
  have hrun := hp
  cases hstep : e.step with
  | remind file number =>
    rw [hstep] at hrun
    obtain ⟨event, hevent, rfl⟩ := Option.map_eq_some_iff.1 hrun
    exact told_of_remind hstep hevent hp
  | unassign file =>
    rw [hstep] at hrun
    obtain ⟨event, hevent, rfl⟩ := Option.map_eq_some_iff.1 hrun
    exact told_of_unassign hstep hevent hp
  | notify text =>
    rw [hstep] at hrun
    obtain ⟨pr, hpr, rfl⟩ := Option.map_eq_some_iff.1 hrun
    exact told_of_notify hstep hpr hp
  | _ =>
    rw [hstep] at hrun
    cases hrun

/-- A step that runs a service is about a payload that was accepted. -/
theorem accepted_of_program {e : Entry} {p : Program Outcome}
    (hp : e.step.program? e.before.ctx = some p) : e.answer.isRejection = false := by
  obtain ⟨lines, result, -, -, hanswer⟩ := answer_of_program hp
  rw [hanswer]
  cases result <;> rfl

/-! ## Steps that run no service -/

/-- A step of a service that is not run answers that its payload is not accepted. -/
theorem answer_of_no_program {e : Entry} (hservice : e.step.isService = true)
    (hp : e.step.program? e.before.ctx = none) :
    ∃ fault, e.answer = .outcome ⟨.error (.load fault), [], []⟩ := by
  unfold answer
  cases hstep : e.step with
  | remind | unassign | notify =>
    rw [hstep] at hp
    obtain ⟨fault, hf⟩ := eq_error_of_toOption (Option.map_eq_none_iff.1 hp)
    simp only [State.step, hf, State.carryOut]
    exact ⟨fault, rfl⟩
  | _ =>
    rw [hstep] at hservice
    cases hservice

/-- A step that finds a pull request and does no more logs nothing. -/
theorem logs_of_resolve {e : Entry} {file : Option ByteArray} {number : Option UInt64}
    (hstep : e.step = .resolve file number) : e.logs = [] := by
  unfold logs answer
  rw [hstep]
  simp only [State.step, State.carryOut]
  split
  · rfl
  · rename_i event hevent
    rw [logs_run Board.answer_lines]
    exact (Reminder.course_resolve.1 (course_run Board.answer _ e.before.board)).2

/-- A step that runs no service to an outcome logs nothing. -/
theorem logs_of_no_program {e : Entry} (hp : e.step.program? e.before.ctx = none) :
    e.logs = [] := by
  cases hstep : e.step with
  | resolve file number => exact logs_of_resolve hstep
  | remind | unassign | notify =>
    obtain ⟨fault, hanswer⟩ := answer_of_no_program (by rw [hstep]; rfl) hp
    exact logs_of_answer hanswer
  | pull text =>
    unfold logs answer
    rw [hstep]
    simp only [State.step]
    rcases Payload.pullRequest.decode text with fault | pr <;> rfl
  | _ =>
    unfold logs answer
    rw [hstep]
    rfl

/-! ## What the lines tell -/

/-- What is to be had of the lines that a step logs. -/
structure TellsTruth (e : Entry) : Prop where
  /-- A whole service whose payload is accepted leaves one line, which is one for failures exactly
  if the service fails. It then tells of the failure and of where it was, and otherwise of what was
  done or left alone. -/
  whole : e.step.isWhole = true → e.answer.isRejection = false →
    ∃ line, e.logs = [line] ∧ (line.level = .error ↔ e.failure? ≠ none) ∧
      (∀ f, e.failure? = some f → line.TellsFailure e.before.ctx.repository f) ∧
      (e.failure? = none → line.level = .info)
  /-- A check of a pull request leaves one line if it succeeds, and none if it fails. -/
  check : ∀ text, e.step = .notify text → e.answer.isRejection = false →
    (e.failure? = none → ∃ line, e.logs = [line] ∧ line.level = .info) ∧
      (e.failure? ≠ none → e.logs = [])
  /-- Finding a pull request leaves no line, and neither does a payload that is not accepted. -/
  silent : (∃ file number, e.step = .resolve file number) ∨ e.answer.isRejection = true →
    e.logs = []
  /-- A step of a service leaves a line that tells that a comment was posted exactly if it adds one
  to a thread. -/
  posts : e.step.isService = true →
    ((∃ line ∈ e.logs, line.tellsPost = true) ↔
      ∃ number comment, e.after.board = e.before.board.addComment number comment)

/-- What a step adds, and whether its lines tell of that. -/
theorem Told.cases_of_added {e : Entry} (h : e.Told) :
    (e.added = [] ∧ ∀ line ∈ e.logs, line.tellsPost = false) ∨
      ∃ number comment line, e.added = [(number, comment)] ∧ e.step.number? = some number ∧
        e.logs = [line] ∧ line.tellsPost = true := by
  cases h with
  | failed hfailure hadded hwhole hpart =>
    refine .inl ⟨hadded, ?_⟩
    cases hstep : e.step.isWhole with
    | false => simp [hpart hstep]
    | true =>
      obtain ⟨line, hlogs, hline⟩ := hwhole hstep
      simpa [hlogs] using LogLine.tellsPost_of_error hline.level
  | idle hfailure hadded hlogs hlevel hline => exact .inl ⟨hadded, by simpa [hlogs] using hline⟩
  | posted hfailure hadded hnumber hlogs hline =>
    exact .inr ⟨_, _, _, hadded, hnumber, hlogs, hline⟩

/-- The line of a step of a service that does not fail. -/
theorem Told.line_of_success {e : Entry} (h : e.Told) (hfailure : e.failure? = none) :
    ∃ line, e.logs = [line] ∧ line.level = .info := by
  cases h with
  | failed hfailed =>
    rw [hfailure] at hfailed
    cases hfailed
  | idle _ _ hlogs hlevel => exact ⟨_, hlogs, hlevel⟩
  | posted _ _ _ hlogs hline => exact ⟨_, hlogs, LogLine.level_of_tellsPost hline⟩

/-- The line of a whole service. -/
theorem Told.line_of_whole {e : Entry} (h : e.Told) (hwhole : e.step.isWhole = true) :
    ∃ line, e.logs = [line] ∧ (line.level = .error ↔ e.failure? ≠ none) ∧
      (∀ f, e.failure? = some f → line.TellsFailure e.before.ctx.repository f) ∧
      (e.failure? = none → line.level = .info) := by
  cases hfailure : e.failure? with
  | none =>
    obtain ⟨line, hlogs, hlevel⟩ := h.line_of_success hfailure
    exact ⟨line, hlogs, by simp [hlevel], by simp, fun _ => hlevel⟩
  | some f =>
    cases h with
    | failed hfailed _ htold =>
      obtain ⟨line, hlogs, hline⟩ := htold hwhole
      rw [hfailure] at hfailed
      cases hfailed
      refine ⟨line, hlogs, by simp [hline.level], ?_, by simp⟩
      rintro _ ⟨⟩
      exact hline
    | idle hnone | posted hnone =>
      rw [hfailure] at hnone
      cases hnone

/-- A check that fails leaves no line. -/
theorem Told.logs_of_part {e : Entry} (h : e.Told) (hpart : e.step.isWhole = false)
    (hfailure : e.failure? ≠ none) : e.logs = [] := by
  cases h with
  | failed _ _ _ hnone => exact hnone hpart
  | idle hnone | posted hnone => exact absurd hnone hfailure

/-- A step of a service adds a comment to the board exactly if it adds something. -/
theorem board_of_added {e : Entry} {p : Program Outcome}
    (hp : e.step.program? e.before.ctx = some p) {number : UInt64} {comment : Comment} :
    e.after.board = e.before.board.addComment number comment ↔ e.added = [(number, comment)] := by
  rw [after_of_program hp]
  constructor
  · intro h
    exact List.append_cancel_left (congrArg Board.posts h)
  · intro h
    rw [h]
    rfl

/-- A step that runs no service to an outcome logs nothing, and there is nothing to be told. -/
theorem tellsTruth_of_no_program {e : Entry} (hp : e.step.program? e.before.ctx = none) :
    e.TellsTruth := by
  have hlogs := logs_of_no_program hp
  -- a service that is not run was given a payload that is not accepted
  have hrejected : e.step.isService = true → e.answer.isRejection ≠ false := by
    intro hservice
    obtain ⟨fault, hanswer⟩ := answer_of_no_program hservice hp
    simp [hanswer, Answer.isRejection, Report.isRejection]
  refine ⟨fun hwhole haccepted => ?_, fun text hstep haccepted => ?_, fun _ => hlogs,
    fun hservice => ?_⟩
  · exact absurd haccepted (hrejected (Step.service_of_whole hwhole))
  · exact absurd haccepted (hrejected (by rw [hstep]; rfl))
  · have hposts := (run_of_no_program hp).2.2.2 (Step.ne_comment_of_service hservice)
    simp only [hlogs, List.not_mem_nil, false_and, exists_false, false_iff]
    rintro ⟨number, comment, hboard⟩
    simp [hboard, Board.addComment] at hposts

/-- A step that runs a service tells what comes of it. -/
theorem tellsTruth_of_program {e : Entry} {p : Program Outcome}
    (hp : e.step.program? e.before.ctx = some p) : e.TellsTruth := by
  have htold := told_of_program hp
  refine ⟨fun hwhole _ => htold.line_of_whole hwhole, fun text hstep _ => ?_, ?_, fun _ => ?_⟩
  · exact ⟨htold.line_of_success, htold.logs_of_part (by rw [hstep]; rfl)⟩
  · rintro (⟨file, number, hstep⟩ | hrejected)
    · rw [hstep] at hp
      cases hp
    · rw [accepted_of_program hp] at hrejected
      cases hrejected
  · simp only [board_of_added hp]
    rcases htold.cases_of_added with
      ⟨hnil, hquiet⟩ | ⟨number, comment, line, hadded, -, hlogs, hline⟩
    · simpa [hnil] using hquiet
    · simp [hadded, hlogs, hline]

/-- What a step logs tells the truth. -/
theorem tellsTruth (e : Entry) : e.TellsTruth := by
  cases hp : e.step.program? e.before.ctx with
  | none => exact tellsTruth_of_no_program hp
  | some p => exact tellsTruth_of_program hp

/-! ## How many lines tell of a comment -/

/-- A step appends to a thread the comments that it adds to it. -/
theorem appended_eq (e : Entry) (number : UInt64) : e.appended number = e.addedTo number := by
  unfold appended Board.thread
  rw [posts_after, List.filter_append, List.map_append, List.drop_left]
  rfl

/-- The lines of a step about a thread that tell of a comment are as many as the comments that the
step appends to the thread, if it is a step of a service, and else none. -/
theorem countP_logs (e : Entry) (number : UInt64) :
    (if e.step.number? = some number then e.logs.countP LogLine.tellsPost else 0) =
      if e.step.isService then (e.appended number).length else 0 := by
  rw [appended_eq]
  rcases hp : e.step.program? e.before.ctx with _ | p
  · rw [logs_of_no_program hp, List.countP_nil, ite_self]
    split
    · rename_i hservice
      have hcomment := Step.ne_comment_of_service hservice
      rw [addedTo_of_nil (added_of_no_program hcomment hp)]
      rfl
    · rfl
  · rw [if_pos (service_of_program hp)]
    rcases (told_of_program hp).cases_of_added with
      ⟨hnil, hquiet⟩ | ⟨n, comment, line, hadded, hnumber, hlogs, hline⟩
    · have hzero : e.logs.countP LogLine.tellsPost = 0 := by
        simpa [List.countP_eq_zero] using hquiet
      rw [hzero, addedTo_of_nil hnil, ite_self]
      rfl
    · rw [addedTo_of_singleton hadded, hnumber, hlogs]
      by_cases hn : n = number
      · simp [hn, hline]
      · simp [hn]

end Entry

/-- The lines of a log tell the truth, in every session. Each step of it logs what is to be had of
its lines; and the lines that tell of a comment, logged by steps that are about a thread, are as
many as the comments that the services add to that thread. -/
theorem logs_tell_truth (s : State) (steps : List Step) :
    (∀ e ∈ s.history steps, e.TellsTruth) ∧
      ∀ number,
        (((s.history steps).filter fun e => e.step.number? = some number).flatMap
            Entry.logs).countP LogLine.tellsPost =
          (((s.history steps).filter fun e => e.step.isService).flatMap fun e =>
            e.appended number).length := by
  refine ⟨fun e _ => e.tellsTruth, fun number => ?_⟩
  -- By induction on the entries, each of which has as many of the lines as it adds comments.
  induction s.history steps with
  | nil => rfl
  | cons e es ih =>
    have hlines :
        (((e :: es).filter fun e => e.step.number? = some number).flatMap Entry.logs).countP
            LogLine.tellsPost =
          (if e.step.number? = some number then e.logs.countP LogLine.tellsPost else 0) +
            ((es.filter fun e => e.step.number? = some number).flatMap Entry.logs).countP
              LogLine.tellsPost := by
      by_cases h : e.step.number? = some number <;> simp [h]
    rw [hlines, ih, e.countP_logs]
    cases hservice : e.step.isService <;> simp [hservice]

/-- A removal is told of, and another one, for which the comments are not to be had, fails and is
told of as a failure; one line tells of a comment. -/
theorem logs_tell_truth_refused :
    let s : State := { ctx := ⟨⟨"octo", "repo"⟩, false⟩ }
    let steps : List Step := [.unassign (commandPayload "ann"), .refuse .list (some "down"),
      .unassign (commandPayload "ann")]
    (∃ e ∈ s.history steps, ∃ line, e.logs = [line] ∧
      line.TellsFailure ⟨"octo", "repo"⟩ (.refused "down")) ∧
      (((s.history steps).filter fun e => e.step.isService).flatMap fun e =>
        e.appended 7).length = 1 ∧
      (((s.history steps).filter fun e => e.step.number? = some 7).flatMap Entry.logs).countP
        LogLine.tellsPost = 1 := by
  intro s steps
  let e : Entry := ⟨(s.run [.unassign (commandPayload "ann"), .refuse .list (some "down")]).2,
    .unassign (commandPayload "ann")⟩
  have he : e ∈ s.history steps := .tail _ (.tail _ (.head _))
  obtain ⟨htruth, hcount⟩ := logs_tell_truth s steps
  obtain ⟨line, hlogs, -, hline, -⟩ := (htruth e he).whole rfl (by decide +kernel)
  have hone : (((s.history steps).filter fun e => e.step.isService).flatMap fun e =>
      e.appended 7).length = 1 := by decide +kernel
  have hfailure : e.failure? = some (.refused "down") := by decide +kernel
  have hplace : e.before.ctx.repository = ⟨"octo", "repo"⟩ := by decide +kernel
  exact ⟨⟨e, he, line, hlogs, hplace ▸ hline _ hfailure⟩, hone, (hcount 7).trans hone⟩

end Session

end IssueSteward
