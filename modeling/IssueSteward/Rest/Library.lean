import IssueSteward.Decimal.Numeral
import IssueSteward.Repository
import IssueSteward.Rest.Network

/-!
# Libraries that talk to an API

The client of an API talks to it through a library, which is not part of this development: a
`Library` is a parameter of what follows. It takes a text for an address or does not, makes a client
or does not, and performs calls, each of which has a message and a value.

What is documented of the library is stated as hypotheses on the parameter. `Library.Documented`
says how it performs a call. It refuses the call before anything is sent, where the names in it make
no address; or it sends the message of the call, again after a failure that may pass, and reads the
value off the last reply. `Library.Routes` says that the names of a repository stand in the address
as they are, and `Library.Signs` what a token is used for.
-/

namespace IssueSteward.Rest

open Decimal

/-! ## Calls -/

/-- A call of the API. -/
inductive Call where
  /-- For a pull request: `pulls().get`. -/
  | pull (repository : Repository) (number : UInt64)
  /-- For a page of the comments of a thread: `issues().list_comments`. -/
  | page (repository : Repository) (number : UInt64) (perPage : UInt8) (page : UInt32)
  /-- To post a comment: `issues().create_comment`. -/
  | comment (repository : Repository) (number : UInt64) (body : String)
  /-- To take an issue away from users: `issues().remove_assignees`. -/
  | unassign (repository : Repository) (number : UInt64) (logins : List String)
deriving DecidableEq, Repr

/-- A page of comments. -/
structure Page where
  /-- The comments, each with its author. -/
  items : List (User × Option String)
  /-- Whether the page names one that follows. -/
  hasNext : Bool
deriving DecidableEq, Repr

namespace Call

/-- What a call gives. What is told of a change is not looked at. -/
def Value : Call → Type
  | .pull _ _ => PullItem
  | .page _ _ _ _ => Page
  | .comment _ _ _ => Unit
  | .unassign _ _ _ => Unit

/-- The repository that a call is about. -/
def repository : Call → Repository
  | .pull r _ | .page r _ _ _ | .comment r _ _ | .unassign r _ _ => r

/-- The message of a call, for an API under a path and with a header that tells who asks. -/
def message (basePath : String) (auth : Option String) (call : Call) : Message :=
  let path (rest : String) := basePath ++ "/repos/" ++ call.repository.fullName ++ rest
  match call with
  | .pull _ n =>
    { method := .get, path := path ("/pulls/" ++ numeral n.toNat), query := [], auth
      content := none }
  | .page _ n size index =>
    { method := .get, path := path ("/issues/" ++ numeral n.toNat ++ "/comments")
      query := [("page", numeral index.toNat), ("per_page", numeral size.toNat)], auth
      content := none }
  | .comment _ n body =>
    { method := .post, path := path ("/issues/" ++ numeral n.toNat ++ "/comments"), query := []
      auth, content := some (.comment body) }
  | .unassign _ n logins =>
    { method := .delete, path := path ("/issues/" ++ numeral n.toNat ++ "/assignees"), query := []
      auth, content := some (.assignees logins) }

/-- What a call reads off a reply: its value, where the reply is a success of the right kind. -/
def read (call : Call) (reply : Reply) : Option call.Value :=
  if reply.succeeds then
    match call, reply.body with
    | .pull _ _, .pull item => some item
    | .page _ _ _ _, .comments items => some ⟨items, reply.hasNext⟩
    | .comment _ _ _, .comment => some ()
    | .unassign _ _ _, .issue => some ()
    | _, _ => none
  else none

end Call

/-- Why a call gives no value. -/
inductive Mishap where
  /-- It fails, for a cause in words. -/
  | failure (cause : String)
  /-- The library breaks down, and the whole command with it. -/
  | crash (words : String)
deriving DecidableEq, Repr

/-- The result that a reply makes of a call, with a cause in words where it makes none. -/
def Call.result (call : Call) (cause : String) (reply : Option Reply) : Except Mishap call.Value :=
  match reply.bind call.read with
  | some value => .ok value
  | none => .error (.failure cause)

/-- What comes of a call. -/
structure Performed (call : Call) where
  /-- The value, or why there is none. -/
  result : Except Mishap call.Value
  /-- The messages that arrived, in order. -/
  sent : List Message
  /-- The network afterwards. -/
  network : Network

/-! ## Libraries -/

/-- What a client is made of. -/
structure Connection where
  /-- The address of the API, where it is not the usual one. -/
  apiUrl : Option String
  /-- The token that tells who asks. -/
  token : Option String
deriving DecidableEq, Repr

/-- A library. -/
structure Library where
  /-- Whether a text is taken for the address of an API: `base_uri`. -/
  accepts : String → Bool
  /-- Whether a client can be made: `build`. -/
  build : Connection → Except Mishap Unit
  /-- The message that a call comes to, where the names in it make an address. -/
  message : Connection → Call → Option Message
  /-- What comes of a call. -/
  perform : Connection → (call : Call) → Network → Performed call
  /-- A value is read off a reply, which is then no longer left. -/
  progress : ∀ {connection : Connection} {call : Call} {network : Network} {value : call.Value},
    (perform connection call network).result = .ok value →
      (perform connection call network).network.left < network.left

/-- The replies to the copies of one message, of those of a script, and the replies that are left.
There is another copy only after a failure that may pass. Where no reply is left, nothing is
found. -/
inductive Tries : List Reply → List Reply → List Reply → Prop
  /-- A reply may be the last. -/
  | last (replies : List Reply) : Tries replies [replies.headD .notFound] replies.tail
  /-- After a failure that may pass there may be others. -/
  | again {reply : Reply} {replies tried rest : List Reply} (hpassing : reply.isPassing = true)
      (h : Tries replies tried rest) : Tries (reply :: replies) (reply :: tried) rest

/-- A message is sent at least once. -/
theorem Tries.ne_nil {replies tried rest : List Reply} (h : Tries replies tried rest) :
    tried ≠ [] := by
  cases h with
  | last => exact List.cons_ne_nil _ _
  | again => exact List.cons_ne_nil _ _

/-- Where the last reply is a success, it was left before and no longer is. -/
theorem Tries.left_lt {replies tried rest : List Reply} (h : Tries replies tried rest)
    {reply : Reply} (hlast : tried.getLast? = some reply) (hsucceeds : reply.succeeds = true) :
    rest.length < replies.length := by
  induction h with
  | last replies =>
    obtain rfl := Option.some.inj hlast
    cases replies with
    -- what is not found is no success
    | nil => exact absurd hsucceeds Bool.false_ne_true
    | cons reply replies => exact Nat.lt_succ_self _
  | again hpassing h ih =>
    rw [List.getLast?_cons_of_ne_nil h.ne_nil] at hlast
    exact Nat.lt_succ_of_lt (ih hlast)

/-- A call reads nothing but successes. -/
theorem Call.succeeds_of_read {call : Call} {reply : Reply} {value : call.Value}
    (h : call.read reply = some value) : reply.succeeds = true := by
  unfold read at h
  split at h
  · assumption
  · cases h

/-- The value of a result is the one that is read off the reply. -/
theorem Call.toOption_result (call : Call) (cause : String) (reply? : Option Reply) :
    (call.result cause reply?).toOption = reply?.bind call.read := by
  unfold result
  cases reply?.bind call.read <;> rfl

/-- A call has a value off a success only. -/
theorem Call.succeeds_of_result {call : Call} {cause : String} {reply? : Option Reply}
    {value : call.Value} (h : call.result cause reply? = .ok value) :
    ∃ reply, reply? = some reply ∧ reply.succeeds = true := by
  have hread : reply?.bind call.read = some value := by
    rw [← toOption_result call cause, h]
    rfl
  obtain ⟨reply, hreply, hread⟩ := Option.bind_eq_some_iff.1 hread
  exact ⟨reply, hreply, succeeds_of_read hread⟩

/-- What is documented of the calls of a library. -/
structure Library.Documented (lib : Library) : Prop where
  /-- A call whose names make no address fails, and nothing is sent. -/
  refuses : ∀ {connection : Connection} {call : Call} (network : Network),
    lib.message connection call = none →
      ∃ mishap, lib.perform connection call network = ⟨.error mishap, [], network⟩
  /-- Any other call sends its message, again only after a failure that may pass, and has the result
  that the last reply makes. -/
  settles : ∀ {connection : Connection} {call : Call} {message : Message} (replies : List Reply),
    lib.message connection call = some message →
      ∃ tried rest cause, Tries replies tried rest ∧
        lib.perform connection call (.serving replies) =
          ⟨call.result cause tried.getLast?, List.replicate tried.length message, .serving rest⟩

/-- The names of a repository stand in the addresses of its calls as they are, under a path and with
a header. -/
def Library.Routes (lib : Library) (connection : Connection) (basePath : String)
    (auth : Option String) (repository : Repository) : Prop :=
  ∀ call : Call, call.repository = repository →
    lib.message connection call = some (call.message basePath auth)

/-! ## Tokens -/

/-- A message with the given header. -/
def Message.signed (auth : Option String) (m : Message) : Message := { m with auth := auth }

/-- The header of a message has no other part in it. -/
theorem Call.message_signed (call : Call) (basePath : String) (auth : Option String) :
    call.message basePath auth = (call.message basePath none).signed auth := by
  cases call <;> rfl

/-- What comes of a call, with every message under the given header. -/
def Performed.signed {call : Call} (auth : Option String) (p : Performed call) : Performed call :=
  { p with sent := p.sent.map (Message.signed auth) }

/-- A token may stand in a header: it holds no control characters. -/
def IsToken (token : String) : Prop := ∀ c ∈ token.toList, 32 ≤ c.toNat ∧ c.toNat ≠ 127

instance (token : String) : Decidable (IsToken token) :=
  decidable_of_iff ((token.toList.all fun c => 32 ≤ c.toNat && c.toNat != 127) = true)
    (by simp [IsToken])

/-- What is documented of tokens: each call with one does what it does without, and sends its
messages with the token in the header. -/
structure Library.Signs (lib : Library) : Prop where
  /-- A client can be made with a token where it can be without. -/
  build : ∀ {url : Option String} {token : String}, IsToken token →
    lib.build ⟨url, some token⟩ = lib.build ⟨url, none⟩
  /-- Without a token there is no header. -/
  unsigned : ∀ {url : Option String} (call : Call) (network : Network),
    ∀ m ∈ (lib.perform ⟨url, none⟩ call network).sent, m.auth = none
  /-- With a token the messages bear it. -/
  signed : ∀ {url : Option String} {token : String} (call : Call) (network : Network),
    IsToken token →
      lib.perform ⟨url, some token⟩ call network =
        (lib.perform ⟨url, none⟩ call network).signed (some ("Bearer " ++ token))

end IssueSteward.Rest
