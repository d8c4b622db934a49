import IssueSteward.Proofs.History
import IssueSteward.Proofs.Paging
import IssueSteward.Proofs.ReminderCourse
import IssueSteward.Proofs.UnassignmentCourse
import IssueSteward.Rest.Standard
import IssueSteward.Service

/-!
# A client does what a board does

Where an API holds what a board holds and grants every request, a program over the client of the API
does the same as over the board, however the threads are cut into pages. `Serves` says what the
replies of the API have to be; `simulation_step` is the agreement on one request, and
`agrees_of_serves` the agreement of whole runs, by induction on the program. `handle_agrees_step` is
the agreement of a run of a service over an API with the step of a session.

The library of the client has to be as it is documented, and the names of the repository have to
stand in its addresses as they are. A library may refuse other names, and then the service fails
where the step does not (`handle_departs_from_step_blank`).
-/

namespace IssueSteward

open Program

/-- The replies of an API with which it grants some requests one after the other, where it holds
what a board holds. -/
inductive Serves : Board → List Request → List Rest.Reply → Prop
  /-- Where nothing is asked any more, any replies may be left. -/
  | nil (b : Board) (replies : List Rest.Reply) : Serves b [] replies
  /-- A stored pull request is given. -/
  | pull {b : Board} {repository : Repository} {number : UInt64} {item : Rest.PullItem}
      {reply : Rest.Reply} {requests : List Request} {replies : List Rest.Reply}
      (hreply : reply.Holds (.pull item)) (hpull : b.pull? number = some (Rest.Client.ofPull item))
      (hrest : Serves b requests replies) :
      Serves b (.pullRequest repository number :: requests) (reply :: replies)
  /-- The comments of a thread are given, cut into pages. -/
  | list {b : Board} {repository : Repository} {number : UInt64}
      {items : List (User × Option String)} {pages : List Rest.Reply} {requests : List Request}
      {replies : List Rest.Reply} (hcut : Rest.Cut items pages)
      (hthread : b.thread number = items.map Rest.Client.ofItem)
      (hrest : Serves b requests replies) :
      Serves b (.comments repository number :: requests) (pages ++ replies)
  /-- A comment is posted. -/
  | post {b : Board} {repository : Repository} {number : UInt64} {body : String}
      {reply : Rest.Reply} {requests : List Request} {replies : List Rest.Reply}
      (hreply : reply.Holds .comment)
      (hrest : Serves (b.addComment number ⟨some body, some Board.poster⟩) requests replies) :
      Serves b (.comment repository number body :: requests) (reply :: replies)
  /-- A user is taken off an issue. -/
  | unassign {b : Board} {repository : Repository} {number : UInt64} {login : String}
      {reply : Rest.Reply} {requests : List Request} {replies : List Rest.Reply}
      (hreply : reply.Holds .issue) (hrest : Serves b requests replies) :
      Serves b (.unassign repository number login :: requests) (reply :: replies)

/-- The call for a request to change something. -/
def Request.change? : Request → Option Rest.Call
  | .comment repository number body => some (.comment repository number body)
  | .unassign repository number login => some (.unassign repository number [login])
  | _ => none

/-- The lines of a log that are more than details. -/
def notable (lines : List LogLine) : List LogLine := lines.filter (·.level != .debug)

/-- The messages that are to change something. -/
def changes (messages : List Rest.Message) : List Rest.Message := messages.filter (·.method != .get)

section

variable {client : Rest.Client} (hlib : client.library.Documented) {basePath : String}
  {auth : Option String} {r : Repository}
  (hroutes : client.library.Routes client.connection basePath auth r)

/-- The messages that ask for pages are to change nothing. -/
theorem changes_pageCalls (number : UInt64) (first count : Nat) :
    changes ((Rest.Client.pageCalls r number first count).map (Rest.Call.message basePath auth)) =
      [] := by
  unfold changes Rest.Client.pageCalls
  rw [List.map_map, List.filter_eq_nil_iff]
  intro message hmessage
  obtain ⟨page, -, rfl⟩ := List.mem_map.1 hmessage
  simp [Rest.Call.message]

include hlib hroutes

/-- On a request that an API grants as a board does, a client replies what the board replies, tells
of no more than details, and sends a message to change something exactly when the request is to
change something. -/
theorem simulation_step {b : Board} (hgrants : ∀ o, b.refusals o = none) {request : Request}
    (hrepository : request.repository = r) {requests : List Request} {replies : List Rest.Reply}
    (h : Serves b (request :: requests) replies) (sent : List Rest.Message) :
    ∃ arrived rest,
      (client.answer request ⟨.serving replies, sent⟩).reply = (Board.answer request b).reply ∧
      (client.answer request ⟨.serving replies, sent⟩).state = ⟨.serving rest, sent ++ arrived⟩ ∧
      notable (client.answer request ⟨.serving replies, sent⟩).lines = [] ∧
      changes arrived = (request.change?.map (Rest.Call.message basePath auth)).toList ∧
      Serves (Board.answer request b).state requests rest := by
  have hgrant : Board.answer request b =
      ⟨(Board.grant request b).1, [], (Board.grant request b).2⟩ := by
    unfold Board.answer
    rw [hgrants]
  rw [hgrant]
  subst hrepository
  cases h with
  | @pull _ repository number item reply _ replies hreply hpull hrest =>
    have hperform := Rest.Client.perform_of_read hlib (hroutes (.pull repository number) rfl)
      (Rest.Call.read_pull hreply) replies sent
    refine ⟨[(Rest.Call.pull repository number).message basePath auth], replies, ?_, ?_, rfl, rfl,
      ?_⟩
    · simp only [Rest.Client.answer, Rest.Client.getPullRequest, hperform, Board.grant, hpull]
    · simp only [Rest.Client.answer, Rest.Client.getPullRequest, hperform]
      rfl
    · simp only [Board.grant, hpull]
      exact hrest
  | @list _ repository number items pages _ replies hcut hthread hrest =>
    have hlisted := Rest.Client.listComments_of_cut (r := repository) hlib hroutes number hcut
      replies sent
    refine ⟨(Rest.Client.pageCalls repository number 1 pages.length).map
      (Rest.Call.message basePath auth), replies, ?_, ?_, ?_, changes_pageCalls number 1 _, hrest⟩
    · simp only [Rest.Client.answer, Board.grant, hthread]
      exact congrArg Answer.reply hlisted
    · exact congrArg Answer.state hlisted
    · simp only [Rest.Client.answer]
      rw [congrArg Answer.lines hlisted]
      rfl
  | @post _ repository number body reply _ replies hreply hrest =>
    have hperform := Rest.Client.perform_of_read hlib
      (hroutes (.comment repository number body) rfl) (Rest.Call.read_comment hreply) replies sent
    refine ⟨[(Rest.Call.comment repository number body).message basePath auth], replies, ?_, ?_,
      rfl, rfl, hrest⟩
    · simp only [Rest.Client.answer, Rest.Client.createComment, hperform, Board.grant]
      rfl
    · simp only [Rest.Client.answer, Rest.Client.createComment, hperform]
      rfl
  | @unassign _ repository number login reply _ replies hreply hrest =>
    have hperform := Rest.Client.perform_of_read hlib
      (hroutes (.unassign repository number [login]) rfl) (Rest.Call.read_unassign hreply) replies
      sent
    refine ⟨[(Rest.Call.unassign repository number [login]).message basePath auth], replies, ?_,
      ?_, rfl, rfl, hrest⟩
    · simp only [Rest.Client.answer, Rest.Client.removeAssignee, hperform, Board.grant]
      rfl
    · simp only [Rest.Client.answer, Rest.Client.removeAssignee, hperform]
      rfl

/-- Over a client of an API that grants the requests of a program as a board does, the program ends
as over the board, with the same lines but for details, and sends messages to change something for
its requests to do so, one after the other. -/
theorem agrees_of_serves {α : Type} (p : Program α) {b : Board}
    (hgrants : ∀ o, b.refusals o = none)
    (hrepository : ∀ request ∈ (p.run Board.answer b).calls, request.repository = r)
    {replies : List Rest.Reply} (h : Serves b (p.run Board.answer b).calls replies)
    (sent : List Rest.Message) :
    (p.run client.answer ⟨.serving replies, sent⟩).result = (p.run Board.answer b).result ∧
      notable (p.run client.answer ⟨.serving replies, sent⟩).logs =
        notable (p.run Board.answer b).logs ∧
      changes (p.run client.answer ⟨.serving replies, sent⟩).state.sent = changes sent ++
        ((p.run Board.answer b).calls.filterMap Request.change?).map
          (Rest.Call.message basePath auth) := by
  induction p generalizing b replies sent with
  | done result => exact ⟨rfl, rfl, (List.append_nil _).symm⟩
  | log line next ih =>
    obtain ⟨hresult, hlogs, hsent⟩ := ih hgrants hrepository h sent
    refine ⟨hresult, ?_, hsent⟩
    unfold notable at hlogs ⊢
    simp only [run, List.filter_cons]
    rw [hlogs]
  | call request next ih =>
    obtain ⟨hrequest, hothers⟩ := List.forall_mem_cons.1 hrepository
    obtain ⟨arrived, rest, hreply, hstate, hlines, harrived, hrest⟩ :=
      simulation_step hlib hroutes hgrants hrequest h sent
    have hgrants' : ∀ o, (Board.answer request b).state.refusals o = none := by
      rw [Board.answer_state]
      exact hgrants
    obtain ⟨hresult, hlogs, hsent⟩ := ih _ hgrants' hothers hrest (sent ++ arrived)
    simp only [run, hreply, hstate]
    refine ⟨hresult, ?_, ?_⟩
    · unfold notable at hlogs hlines ⊢
      rw [List.filter_append, List.filter_append, hlines, hlogs, Board.answer_lines]
      rfl
    · rw [hsent]
      unfold changes at harrived ⊢
      rw [List.filter_append, harrived, List.filterMap_cons, List.append_assoc]
      cases request.change? <;> rfl

end

/-! ## Services over an API and steps of sessions -/

/-- The step of a session that runs a service. -/
def Service.step (service : Service) (file : Option ByteArray) : Session.Step :=
  match service with
  | .remind number => .remind file number
  | .unassign => .unassign file

/-- The step of a session that runs a service runs the program of the service. -/
theorem program_of_service {service : Service} {ctx : Context} {file : Option ByteArray}
    {p : Program Outcome} (h : service.program ctx file = .ok p) :
    (service.step file).program? ctx = some p := by
  unfold Service.program at h
  cases service with
  | remind number =>
    obtain ⟨event, hevent, rfl⟩ := Payload.map_eq_ok.1 h
    simp only [Service.step, Session.Step.program?, hevent]
    rfl
  | unassign =>
    obtain ⟨event, hevent, rfl⟩ := Payload.map_eq_ok.1 h
    simp only [Service.step, Session.Step.program?, hevent]
    rfl

/-- All that a service asks is about its repository. -/
theorem repository_of_service {service : Service} {ctx : Context} {file : Option ByteArray}
    {p : Program Outcome} (h : service.program ctx file = .ok p) (b : Board) :
    ∀ request ∈ (p.run Board.answer b).calls, request.repository = ctx.repository := by
  rw [calls_run]
  refine List.forall_mem_map.2 ?_
  unfold Service.program at h
  cases service with
  | remind number =>
    obtain ⟨event, -, rfl⟩ := Payload.map_eq_ok.1 h
    exact Reminder.repository_of_course (course_run Board.answer _ b)
  | unassign =>
    obtain ⟨event, -, rfl⟩ := Payload.map_eq_ok.1 h
    exact Unassignment.repository_of_course (course_run Board.answer _ b)

/-- A service that runs over an API agrees with the step of a session that runs it over a board,
where the context and the payload are the same, the names of the repository stand in addresses as
they are, the board refuses nothing, and the API grants the requests of the step and holds what the
board holds, with the threads cut into pages in any way. Both end in the same outcome or failure and
write the same lines but for details, and the messages that are to change something are those for
the requests of the step to do so, one after the other. -/
theorem handle_agrees_step {lib : Rest.Library} (hlib : lib.Documented) (service : Service)
    {settings : Settings} {client : Rest.Client} (hclient : settings.client lib = .ok client)
    {basePath : String} {auth : Option String}
    (hroutes : lib.Routes client.connection basePath auth settings.repository)
    {file : Option ByteArray} {p : Program Outcome}
    (hload : service.program settings.context file = .ok p) {b : Board}
    (hgrants : ∀ o, b.refusals o = none) :
    ∃ report after,
      Session.State.step ⟨settings.context, b⟩ (service.step file) = (.outcome report, after) ∧
      ∀ path replies, Serves b report.calls replies →
        let transcript := service.handle lib (.ok settings) path file (.serving replies)
        (∃ result : Except Failure Outcome, transcript.result = result.mapError .failure ∧
          report.result = result.mapError .failure) ∧
        notable transcript.logs = notable report.logs ∧
        changes transcript.messages =
          (report.calls.filterMap Request.change?).map (Rest.Call.message basePath auth) := by
  refine ⟨_, _, Session.step_of_program (program_of_service hload), ?_⟩
  intro path replies hserves
  have hlibrary : client.library = lib := by
    obtain ⟨-, -, rfl⟩ := Settings.client_eq_ok_iff.1 hclient
    rfl
  subst hlibrary
  obtain ⟨hresult, hlogs, hsent⟩ :=
    agrees_of_serves hlib hroutes p hgrants (repository_of_service hload b) hserves []
  have hhandle : service.handle client.library (.ok settings) path file (.serving replies) =
      ⟨(p.run client.answer ⟨.serving replies, []⟩).result.mapError .failure,
        (p.run client.answer ⟨.serving replies, []⟩).logs,
        (p.run client.answer ⟨.serving replies, []⟩).state.sent⟩ := by
    simp only [Service.handle, Service.carryOut, hclient, hload]
  rw [hhandle]
  exact ⟨⟨_, congrArg (Except.mapError Trouble.failure) hresult, rfl⟩, hlogs, hsent⟩

/-- A reminder finds its marker on the second page of a thread, and changes nothing. -/
theorem handle_agrees_step_second_page :
    let settings : Settings := ⟨⟨"octo", "repo"⟩, none, none, false⟩
    let item : Rest.PullItem := ⟨7, none, none, some ⟨"ann", "User"⟩⟩
    let first : List (User × Option String) := [(⟨"bob", "User"⟩, some "Nice!")]
    let second : List (User × Option String) :=
      [(Board.poster, some Marker.missingIssue.text), (⟨"ann", "User"⟩, none)]
    let transcript := (Service.remind (some 7)).handle Rest.standard (.ok settings) "event.json"
      (some "[null, null]".toUTF8) (.serving [⟨200, .pull item, []⟩,
        ⟨200, .comments first, ["next", "last"]⟩, ⟨200, .comments second, ["first", "prev"]⟩])
    transcript.result = .ok (.skipped .alreadyCommented) ∧ changes transcript.messages = [] := by
  intro settings item first second transcript
  let b : Board := ⟨[Rest.Client.ofPull item],
    (first ++ second).map fun c => (7, Rest.Client.ofItem c), fun _ => none⟩
  let e : Session.Entry := ⟨⟨settings.context, b⟩,
    (Service.remind (some 7)).step (some "[null, null]".toUTF8)⟩
  have hclient : settings.client Rest.standard = .ok ⟨Rest.standard, ⟨none, none⟩⟩ := rfl
  have hroutes := @Rest.standard_routes ⟨none, none⟩ settings.repository rfl (by decide)
  have hgrants : ∀ o, b.refusals o = none := fun _ => rfl
  have hevent : (Payload.load Payload.pullRequestEvent (some "[null, null]".toUTF8)).toOption =
      some ⟨none, none⟩ := by decide +kernel
  have hload : (Service.remind (some 7)).program settings.context (some "[null, null]".toUTF8) =
      .ok (Reminder.run settings.context ⟨none, none⟩ (some 7)) := by
    simp only [Service.program, Payload.toOption_eq_some_iff.1 hevent]
    rfl
  have hcut : Rest.Cut (first ++ second) [⟨200, .comments first, ["next", "last"]⟩,
      ⟨200, .comments second, ["first", "prev"]⟩] :=
    .more ⟨rfl, rfl⟩ (by simp [first]) (by decide) (.last ⟨rfl, rfl⟩ (by decide))
  have hcalls : e.calls = [.pullRequest ⟨"octo", "repo"⟩ 7, .comments ⟨"octo", "repo"⟩ 7] := by
    decide +kernel
  have houtcome : e.outcome? = some (.skipped .alreadyCommented) := by decide +kernel
  obtain ⟨report, after, hstep, hagrees⟩ :=
    handle_agrees_step Rest.standard_documented _ hclient hroutes hload hgrants
  have hanswer : e.answer = .outcome report := congrArg Prod.fst hstep
  unfold Session.Entry.calls at hcalls
  unfold Session.Entry.outcome? at houtcome
  rw [hanswer] at hcalls houtcome
  simp only at hcalls houtcome
  have hserves : Serves b report.calls [⟨200, .pull item, []⟩,
      ⟨200, .comments first, ["next", "last"]⟩, ⟨200, .comments second, ["first", "prev"]⟩] := by
    rw [hcalls]
    exact .pull ⟨rfl, rfl⟩ rfl (.list hcut rfl (.nil _ []))
  obtain ⟨⟨result, htranscript, hreport⟩, -, hchanges⟩ := hagrees "event.json" _ hserves
  refine ⟨?_, ?_⟩
  · rw [hreport] at houtcome
    rcases result with f | o
    · cases houtcome
    · obtain rfl := Option.some.inj houtcome
      exact htranscript
  · rw [hcalls] at hchanges
    exact hchanges

/-- A repository whose name holds a blank makes no address. So where the API has nothing but
successes to reply, a reminder that the step of a session posts fails, and nothing is sent. -/
theorem handle_departs_from_step_blank :
    let settings : Settings := ⟨⟨"my org", "repo"⟩, none, none, false⟩
    let file : Option ByteArray :=
      some "[\"opened\", [7, null, \"open\", [\"ann\", \"User\"]]]".toUTF8
    let replies : List Rest.Reply := [⟨200, .comments [], []⟩, ⟨201, .comment, []⟩]
    let e : Session.Entry := ⟨⟨settings.context, {}⟩, (Service.remind none).step file⟩
    let transcript := (Service.remind none).handle Rest.standard (.ok settings) "event.json" file
      (.serving replies)
    Serves {} e.calls replies ∧ e.outcome? = some .commented ∧
      e.calls.filterMap Request.change? =
        [.comment ⟨"my org", "repo"⟩ 7 (Reminder.body ⟨"my org", "repo"⟩ "ann")] ∧
      transcript.result.toOption = none ∧ transcript.messages = [] := by
  intro settings file replies e transcript
  have hcalls : e.calls = [.comments ⟨"my org", "repo"⟩ 7,
      .comment ⟨"my org", "repo"⟩ 7 (Reminder.body ⟨"my org", "repo"⟩ "ann")] := by
    decide +kernel
  have hserves : Serves {} e.calls replies := by
    rw [hcalls]
    exact .list (.last ⟨rfl, rfl⟩ (by decide)) rfl (.post ⟨rfl, rfl⟩ (.nil _ []))
  refine ⟨hserves, by decide +kernel, ?_, by decide +kernel, by decide +kernel⟩
  rw [hcalls]
  rfl

end IssueSteward
