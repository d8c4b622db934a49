import IssueSteward.Rest.ApiUrl
import IssueSteward.Rest.Client

/-!
# A library that can be run

`standard` is a library that behaves as it is documented: `standard_documented`, `standard_routes`
and `standard_signs`. It sends a message again up to three times. A repository whose names hold
characters that have no place in a path, or that end it, makes no address; and neither does any
repository where the address of the API lacks a scheme, with which the library even breaks down if
that address is no path.
-/

namespace IssueSteward.Rest

namespace Standard

/-- How often a message is sent again at most. -/
def retries : Nat := 3

/-- Whether a character may stand in a header. -/
def isHeaderChar (c : Char) : Bool := c == '\t' || (32 ≤ c.toNat && c.toNat != 127)

/-- Whether a client can be made, which depends on the token. -/
def build (connection : Connection) : Except Mishap Unit :=
  if (connection.token.getD "").toList.all isHeaderChar then .ok ()
  else .error (.failure "failed to parse header value")

/-- Whether the names of a repository stand in a path as they are. -/
def fits (r : Repository) : Bool :=
  r.fullName.toList.all ApiUrl.pathChars.contains

/-- The path under which the API is found. -/
def basePath (connection : Connection) : String := (connection.apiUrl.map ApiUrl.basePath).getD ""

/-- The header that tells who asks. -/
def auth (connection : Connection) : Option String := connection.token.map ("Bearer " ++ ·)

/-- The message of a call, where the address of the API and the names make one. -/
def message (connection : Connection) (call : Call) : Option Message :=
  if connection.apiUrl.all ApiUrl.hasScheme && fits call.repository then
    some (call.message (basePath connection) (auth connection))
  else none

/-- What is wrong with a call whose names make no address. -/
def refusal (connection : Connection) : Mishap :=
  if connection.apiUrl.any ApiUrl.isAuthorityAlone then .crash "scheme is missing"
  else .failure "invalid uri character"

/-- The replies to the copies of a message, of which there are so many at most besides the first,
and the replies that are left. -/
def tries : Nat → List Reply → List Reply × List Reply
  | n + 1, reply :: replies =>
    if reply.isPassing then
      let (tried, rest) := tries n replies
      (reply :: tried, rest)
    else ([reply], replies)
  | _, replies => ([replies.headD .notFound], replies.tail)

/-- The cause of a call that fails with its reply. -/
def cause : String := "unexpected reply"

/-- What comes of a call. -/
def perform (connection : Connection) (call : Call) (network : Network) : Performed call :=
  match message connection call, network with
  | none, network => ⟨.error (refusal connection), [], network⟩
  | some _, .unreachable => ⟨.error (.failure "client error (Connect)"), [], .unreachable⟩
  | some message, .serving replies =>
    let (tried, rest) := tries retries replies
    ⟨call.result cause tried.getLast?, List.replicate tried.length message, .serving rest⟩

/-- The replies to the copies of a message are the next ones, and another follows only on a failure
that may pass. -/
theorem tries_spec (n : Nat) (replies : List Reply) :
    Tries replies (tries n replies).1 (tries n replies).2 := by
  induction replies generalizing n with
  | nil => cases n <;> exact .last []
  | cons reply replies ih =>
    cases n with
    | zero => exact .last _
    | succ n =>
      unfold tries
      split
      · exact .again ‹_› (ih n)
      · exact .last _

/-- A call whose names make no address is refused. -/
theorem perform_of_none {connection : Connection} {call : Call}
    (h : message connection call = none) (network : Network) :
    perform connection call network = ⟨.error (refusal connection), [], network⟩ := by
  unfold perform
  rw [h]

/-- Any other call tries its message. -/
theorem perform_of_some {connection : Connection} {call : Call} {m : Message}
    (h : message connection call = some m) (replies : List Reply) :
    perform connection call (.serving replies) =
      ⟨call.result cause (tries retries replies).1.getLast?,
        List.replicate (tries retries replies).1.length m,
        .serving (tries retries replies).2⟩ := by
  unfold perform
  rw [h]

/-- A call that gives a value leaves fewer replies. -/
theorem perform_progress {connection : Connection} {call : Call} {network : Network}
    {value : call.Value} (h : (perform connection call network).result = .ok value) :
    (perform connection call network).network.left < network.left := by
  rcases hmessage : message connection call with _ | m
  · rw [perform_of_none hmessage] at h
    cases h
  cases network with
  | unreachable =>
    unfold perform at h
    rw [hmessage] at h
    cases h
  | serving replies =>
    rw [perform_of_some hmessage] at h ⊢
    obtain ⟨reply, hlast, hsucceeds⟩ := Call.succeeds_of_result h
    exact (tries_spec retries replies).left_lt hlast hsucceeds

end Standard

/-- A library that behaves as it is documented. -/
def standard : Library where
  accepts := ApiUrl.accepts
  build := Standard.build
  message := Standard.message
  perform := Standard.perform
  progress := Standard.perform_progress

/-- The calls of the library are as they are documented. -/
theorem standard_documented : standard.Documented where
  refuses network h := ⟨_, Standard.perform_of_none h network⟩
  settles replies h :=
    ⟨_, _, _, Standard.tries_spec Standard.retries replies, Standard.perform_of_some h replies⟩

namespace Standard

/-- A call has a message with a token where it has one without, the same but for the header. -/
theorem message_signed (url : Option String) (token : String) (call : Call) :
    message ⟨url, some token⟩ call =
      (message ⟨url, none⟩ call).map (Message.signed (some ("Bearer " ++ token))) := by
  unfold message
  split
  · exact congrArg some (call.message_signed _ _)
  · rfl

/-- Without a token the messages have no header. -/
theorem auth_of_message {url : Option String} {call : Call} {m : Message}
    (h : message ⟨url, none⟩ call = some m) : m.auth = none := by
  unfold message at h
  split at h
  · obtain rfl := Option.some.inj h
    cases call <;> rfl
  · cases h

/-- Without a token there is no header, whatever comes of a call. -/
theorem perform_unsigned (url : Option String) (call : Call) (network : Network) :
    ∀ m ∈ (perform ⟨url, none⟩ call network).sent, m.auth = none := by
  intro m hm
  rcases hmessage : message ⟨url, none⟩ call with _ | m'
  · rw [perform_of_none hmessage] at hm
    cases hm
  cases network with
  | unreachable =>
    unfold perform at hm
    rw [hmessage] at hm
    cases hm
  | serving replies =>
    rw [perform_of_some hmessage] at hm
    rw [List.eq_of_mem_replicate hm]
    exact auth_of_message hmessage

/-- With a token the same comes of a call as without, and its messages bear the token. -/
theorem perform_signed (url : Option String) (token : String) (call : Call) (network : Network) :
    perform ⟨url, some token⟩ call network =
      (perform ⟨url, none⟩ call network).signed (some ("Bearer " ++ token)) := by
  have hsigned := message_signed url token call
  rcases hmessage : message ⟨url, none⟩ call with _ | m
  · rw [hmessage] at hsigned
    rw [perform_of_none hmessage, perform_of_none hsigned]
    rfl
  rw [hmessage, Option.map_some] at hsigned
  cases network with
  | unreachable =>
    unfold perform
    rw [hmessage, hsigned]
    rfl
  | serving replies =>
    rw [perform_of_some hmessage, perform_of_some hsigned]
    simp only [Performed.signed, List.map_replicate]

/-- A token makes no difference to whether a client can be made. -/
theorem build_signed {url : Option String} {token : String} (h : IsToken token) :
    build ⟨url, some token⟩ = build ⟨url, none⟩ := by
  have hchars : token.toList.all isHeaderChar = true := by
    rw [List.all_eq_true]
    intro c hc
    obtain ⟨hlow, hdelete⟩ := h c hc
    simp [isHeaderChar, hlow, hdelete]
  simp only [build, Option.getD_some, hchars]
  rfl

end Standard

/-- The library uses tokens as it is documented. -/
theorem standard_signs : standard.Signs where
  build := Standard.build_signed
  unsigned {url} call network := Standard.perform_unsigned url call network
  signed {url token} call network _ := Standard.perform_signed url token call network

/-- Names that stand in a path as they are do so in the addresses of the library, where that of the
API has a scheme. -/
theorem standard_routes {connection : Connection} {r : Repository}
    (hscheme : connection.apiUrl.all ApiUrl.hasScheme = true) (hfits : Standard.fits r = true) :
    standard.Routes connection (Standard.basePath connection) (Standard.auth connection) r := by
  intro call hcall
  have hmessage : standard.message connection call = Standard.message connection call := rfl
  rw [hmessage, Standard.message, hcall, hscheme, hfits]
  rfl

end IssueSteward.Rest
