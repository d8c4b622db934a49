import IssueSteward.Rest.Standard
import IssueSteward.Service

/-!
# What a token is used for

A token stands in the header of every message that a client sends, and has no other effect. Of the
library it is documented that each call with a token does what it does without, and signs what it
sends. What is made of the calls never looks at the token: so a client with a token does what the
client without one does, and signs its messages. `pages_signed` says this of a listing, by induction
on the replies that are left, `answer_signed` of one request, and `run_signed` of a whole program,
since the two clients are trackers one of which is seen in the states of the other (`run_mapState`).
`token_only_signs` puts it together for two runs of a service that are told the same but for their
tokens.
-/

namespace IssueSteward

/-! ## Trackers seen in other states -/

namespace Program

variable {σ τ α : Type}

/-- An answer, with its state seen in another way. -/
def Answer.mapState {request : Request} (f : σ → τ) (a : Answer σ request) : Answer τ request :=
  ⟨a.reply, a.lines, f a.state⟩

/-- A run, with its state seen in another way. -/
def Run.mapState (f : σ → τ) (r : Run σ α) : Run τ α := ⟨r.result, r.calls, r.logs, f r.state⟩

/-- Where one tracker answers in the states of another as this one does, seen in another way, a
program runs over it as over this one. -/
theorem run_mapState {tracker : Tracker σ} {tracker' : Tracker τ} {f : σ → τ}
    (h : ∀ request s, tracker' request (f s) = (tracker request s).mapState f)
    (p : Program α) (s : σ) : p.run tracker' (f s) = (p.run tracker s).mapState f := by
  induction p generalizing s with
  | done result => rfl
  | log line next ih =>
    simp only [run, ih]
    rfl
  | call request next ih =>
    simp only [run, h, Answer.mapState, ih]
    rfl

end Program

open Program

namespace Rest

/-! ## Signing messages -/

/-- A message without what its header tells. -/
def Message.anonymous (m : Message) : Message := m.signed none

/-- A wire over which all messages were sent with the given header. -/
def Wire.signed (auth : Option String) (w : Wire) : Wire :=
  { w with sent := w.sent.map (Message.signed auth) }

/-- What comes of a signed call leaves a signed wire signed. -/
theorem Wire.after_signed (auth : Option String) (w : Wire) {call : Call} (p : Performed call) :
    (w.signed auth).after (p.signed auth) = (w.after p).signed auth := by
  unfold after signed Performed.signed
  rw [List.map_append]

/-- Messages without a header are as they are signed with none. -/
theorem Performed.signed_none {call : Call} {p : Performed call}
    (h : ∀ m ∈ p.sent, m.auth = none) : p.signed none = p := by
  have hsame : ∀ m ∈ p.sent, m.signed none = id m := fun m hm => by
    unfold Message.signed
    rw [← h m hm]
    rfl
  unfold signed
  rw [List.map_congr_left hsame, List.map_id]

namespace Client

/-- The client without its token. -/
def bare (c : Client) : Client := { c with connection := { c.connection with token := none } }

/-- The header for the token of a client. -/
def auth (c : Client) : Option String := c.connection.token.map ("Bearer " ++ ·)

section

variable {c : Client} (hsigns : c.library.Signs)
  (htoken : ∀ token ∈ c.connection.token, IsToken token)

include hsigns htoken

/-- A client performs a call as the client without its token does, and signs its messages. -/
theorem perform_signed (call : Call) (w : Wire) :
    c.perform call (w.signed c.auth) = (c.bare.perform call w).signed c.auth := by
  obtain ⟨library, ⟨url, token⟩⟩ := c
  rcases token with _ | token
  · -- Without a token there is nothing to sign with.
    exact (Performed.signed_none (hsigns.unsigned call w.network)).symm
  · exact hsigns.signed call w.network (htoken token rfl)

/-- A client fetches the pages that the client without its token fetches, and signs the messages for
them. -/
theorem pages_signed (r : Repository) (n : UInt64) (page : UInt32) (w : Wire) :
    c.pages r n page (w.signed c.auth) =
      ((c.bare.pages r n page w).1, (c.bare.pages r n page w).2.signed c.auth) := by
  -- By induction on the number of replies that are left.
  induction hleft : w.network.left using Nat.strongRecOn generalizing page w with
  | _ left ih =>
    have hperform := perform_signed hsigns htoken (.page r n perPage page) w
    have hafter := w.after_signed c.auth (c.bare.perform (.page r n perPage page) w)
    rcases hresult : (c.bare.perform (.page r n perPage page) w).result with mishap | found
    · have hsigned : (c.perform (.page r n perPage page) (w.signed c.auth)).result =
          .error mishap := by
        rw [hperform]
        exact hresult
      rw [pages_of_error hsigned, pages_of_error hresult, hperform, hafter]
    · have hsigned : (c.perform (.page r n perPage page) (w.signed c.auth)).result =
          .ok found := by
        rw [hperform]
        exact hresult
      have hfewer : (w.after (c.bare.perform (.page r n perPage page) w)).network.left < left :=
        hleft ▸ c.library.progress hresult
      have hothers := ih _ hfewer (page + 1) _ rfl
      rw [pages_of_ok hsigned, pages_of_ok hresult, hperform, hafter]
      simp only [hothers]
      split <;> rfl

/-- A client answers a request as the client without its token does, and signs its messages. -/
theorem answer_signed (request : Request) (w : Wire) :
    c.answer request (w.signed c.auth) =
      (c.bare.answer request w).mapState (Wire.signed c.auth) := by
  cases request with
  | pullRequest r n =>
    simp only [answer, getPullRequest, perform_signed hsigns htoken, Wire.after_signed]
    rfl
  | comments r n =>
    simp only [answer, listComments, pages_signed hsigns htoken]
    rfl
  | comment r n body =>
    simp only [answer, createComment, perform_signed hsigns htoken, Wire.after_signed]
    rfl
  | unassign r n login =>
    simp only [answer, removeAssignee, perform_signed hsigns htoken, Wire.after_signed]
    rfl

/-- A program runs over a client as over the client without its token, and the messages that it
sends are signed. -/
theorem run_signed {α : Type} (p : Program α) (w : Wire) :
    p.run c.answer (w.signed c.auth) = (p.run c.bare.answer w).mapState (Wire.signed c.auth) :=
  run_mapState (answer_signed hsigns htoken) p w

end

end Client

end Rest

/-! ## Services -/

open Rest

/-- A transcript in which all messages have the given header. -/
def Transcript.signed (auth : Option String) (t : Transcript) : Transcript :=
  { t with messages := t.messages.map (Message.signed auth) }

/-- The header for a token, which has to be there and not to be empty. -/
def header (token : Option String) : Option String :=
  if token.getD "" = "" then none else some ("Bearer " ++ token.getD "")

/-- The header of a client is that for the token of its settings. -/
theorem header_eq (token : Option String) :
    header token = (nonempty token).map ("Bearer " ++ ·) := by
  unfold header nonempty
  rcases token with _ | token
  · rfl
  · simp only [Option.getD_some, Option.filter_some, bne_iff_ne, ite_not]
    split <;> simp_all

/-- The settings that texts make without a token are those that they make with it, but for the
token. -/
theorem Settings.ofTexts_bare (repository : String) (token apiUrl dryRun : Option String) :
    Settings.ofTexts repository none apiUrl dryRun =
      (Settings.ofTexts repository token apiUrl dryRun).map fun s => { s with token := none } := by
  unfold Settings.ofTexts
  rcases Repository.parse? repository with _ | r <;> rfl

/-- A service with a client carries out what it does with the client without its token, and signs
the messages. -/
theorem Service.carryOut_signed (service : Service) {c : Client} (hsigns : c.library.Signs)
    (htoken : ∀ token ∈ c.connection.token, IsToken token) (ctx : Context) (path : String)
    (file : Option ByteArray) (network : Network) :
    service.carryOut ctx c path file network =
      (service.carryOut ctx c.bare path file network).signed c.auth := by
  unfold Service.carryOut
  rcases service.program ctx file with fault | p
  · rfl
  · have hrun := Client.run_signed hsigns htoken p { network := network }
    simp only [Wire.signed, List.map_nil] at hrun
    simp only [hrun]
    rfl

section

variable {lib : Library} (hsigns : lib.Signs)

include hsigns

/-- Settings make the client that they make without their token, but for the token. -/
theorem Settings.client_bare {s : Settings} (htoken : ∀ token ∈ s.token, IsToken token) :
    Settings.client lib { s with token := none } = (s.client lib).map Client.bare := by
  obtain ⟨repository, token, url, dryRun⟩ := s
  have hbuild : lib.build ⟨url, token⟩ = lib.build ⟨url, none⟩ := by
    rcases token with _ | token
    · rfl
    · exact hsigns.build (htoken token rfl)
  unfold Settings.client
  simp only [hbuild]
  split
  · rfl
  · cases lib.build ⟨url, none⟩ <;> rfl

/-- A run of a service is the run that is told no token, with its messages signed. -/
theorem Service.handle_signed (service : Service) (repository : String) {token : Option String}
    (htoken : ∀ t ∈ token, IsToken t) (apiUrl dryRun : Option String) (path : String)
    (file : Option ByteArray) (network : Network) :
    service.handle lib (Settings.ofTexts repository token apiUrl dryRun) path file network =
      (service.handle lib (Settings.ofTexts repository none apiUrl dryRun) path file
        network).signed (header token) := by
  rw [Settings.ofTexts_bare repository token]
  rcases hsettings : Settings.ofTexts repository token apiUrl dryRun with fault | s
  · rfl
  obtain ⟨-, hgiven, -⟩ := Settings.ofTexts_eq_ok_iff.1 hsettings
  have htoken' : ∀ t ∈ s.token, IsToken t := by
    rw [hgiven]
    exact fun t ht => htoken t ((Option.filter_eq_some_iff.1 ht).1)
  have hclient := Settings.client_bare hsigns htoken'
  simp only [Service.handle, Except.map] at hclient ⊢
  rw [hclient]
  rcases hmade : s.client lib with fault | c
  · rfl
  · obtain ⟨-, -, rfl⟩ := Settings.client_eq_ok_iff.1 hmade
    have hauth : header token = (⟨lib, ⟨s.apiUrl, s.token⟩⟩ : Client).auth := by
      rw [header_eq, ← hgiven]
      rfl
    rw [hauth]
    exact service.carryOut_signed hsigns htoken' s.context path file network

/-- Two runs of a service that are told the same but for their tokens end in the same outcome or the
same failure, write the same lines, and send the same messages but for the headers, where the
library uses tokens as it is documented. Every message bears the token of its run after the word
that announces it, and no header where there is no token or an empty one. -/
theorem token_only_signs (service : Service) (repository : String) {token token' : Option String}
    (htoken : ∀ t ∈ token, IsToken t) (htoken' : ∀ t ∈ token', IsToken t)
    (apiUrl dryRun : Option String) (path : String) (file : Option ByteArray) (network : Network) :
    let run := fun token =>
      service.handle lib (Settings.ofTexts repository token apiUrl dryRun) path file network
    (run token).result = (run token').result ∧ (run token).logs = (run token').logs ∧
      (run token).messages.map Message.anonymous = (run token').messages.map Message.anonymous ∧
      ∀ message ∈ (run token).messages,
        message.auth = if token.getD "" = "" then none else some ("Bearer " ++ token.getD "") := by
  intro run
  have hsigned : ∀ token, (∀ t ∈ token, IsToken t) →
      run token = (run none).signed (header token) := fun token ht =>
    service.handle_signed hsigns repository ht apiUrl dryRun path file network
  rw [hsigned token htoken, hsigned token' htoken']
  refine ⟨rfl, rfl, ?_, fun message hmessage => ?_⟩
  · simp only [Transcript.signed, List.map_map]
    rfl
  · obtain ⟨message, -, rfl⟩ := List.mem_map.1 hmessage
    rfl

end

/-- A removal over two pages sends four messages, each with the token, and otherwise what it sends
with an empty token. -/
theorem token_only_signs_removal :
    let payload : Option ByteArray := some
      "[\"created\", [7, \"open\", null, [[\"ann\"]], null], [\"/unassign\", [\"ann\"]]]".toUTF8
    let replies : List Reply := [⟨200, .comments [(⟨"bob", "User"⟩, some "Hi")], ["next"]⟩,
      ⟨200, .comments [], []⟩, ⟨200, .issue, []⟩, ⟨201, .comment, []⟩]
    let run := fun token => Service.unassign.handle standard
      (Settings.ofTexts "octo/repo" token none none) "event.json" payload (.serving replies)
    (run (some "t0ken")).messages.length = 4 ∧
      (∀ message ∈ (run (some "t0ken")).messages, message.auth = some "Bearer t0ken") ∧
      (run (some "t0ken")).messages.map Message.anonymous =
        (run (some "")).messages.map Message.anonymous := by
  intro payload replies run
  have htoken : ∀ t ∈ some "t0ken", IsToken t := by
    rintro t ⟨⟩
    decide
  have hempty : ∀ t ∈ some "", IsToken t := by
    rintro t ⟨⟩
    decide
  obtain ⟨-, -, hmessages, hauth⟩ := token_only_signs standard_signs .unassign "octo/repo" htoken
    hempty none none "event.json" payload (.serving replies)
  have hheader : (if (some "t0ken").getD "" = "" then none
      else some ("Bearer " ++ (some "t0ken").getD "")) = some "Bearer t0ken" := by decide
  rw [hheader] at hauth
  exact ⟨by decide +kernel, hauth, hmessages⟩

end IssueSteward
