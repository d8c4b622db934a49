import IssueSteward.Proofs.Calls
import IssueSteward.Rest.Standard
import Mathlib.Data.List.GetD
import Mathlib.Order.Bounds.Defs
import Mathlib.Tactic.ByContra

/-!
# Listings over any script

What a client makes of a script of replies when it lists the comments of a thread, where its library
is as it is documented. A listing goes on over pages that have comments on them and name one that
follows, and ends with the first reply that is no such page (`Reply.Ends`). Of the replies to the
copies of one message the last one counts, so that the script is gone through in `Rounds`, one for
each page. `pages_rounds` says what these make of a listing, by induction on the replies that are
left, and `lists_up_to_end` what the client sends and replies.

Where the first reply of the script that ends a listing is no failure that may pass, all rounds are
of one reply (`Rounds.eq_singletons`), and each page is asked for once. Otherwise the library may
ask again and go on (`listing_departs`).
-/

namespace IssueSteward.Rest

open Decimal

variable {reply : Reply} {page : List (User × Option String)} {front rest : List Reply}

/-- The reply to the request of a number, counted from one, where the replies are those of a script
in its order. Past the end of the script nothing is found. -/
def replyTo (replies : List Reply) (k : Nat) : Reply := replies.getD (k - 1) .notFound

/-- The items of the page that a reply holds. -/
def Reply.items (reply : Reply) : List (User × Option String) :=
  match reply.body with
  | .comments items => items
  | _ => []

/-- A reply ends a listing. -/
inductive Reply.Ends (reply : Reply) : Prop
  /-- It is a failure: no success, or no page. -/
  | failure (h : ∀ items, ¬ reply.Holds (.comments items))
  /-- It is an empty page. -/
  | empty (h : reply.Holds (.comments []))
  /-- It is a page that names none that follows. -/
  | last {items : List (User × Option String)} (h : reply.Holds (.comments items))
      (hnext : reply.hasNext = false)

/-- A page has the items that its reply holds. -/
theorem Reply.items_of_holds (h : reply.Holds (.comments page)) : reply.items = page := by
  unfold Reply.items
  rw [h.2]

/-- What is not found ends a listing. -/
theorem Reply.ends_notFound : Reply.notFound.Ends :=
  .failure fun _ h => Bool.false_ne_true h.1

/-- A reply that does not end a listing is a page after which the listing goes on. -/
theorem Reply.page_of_not_ends (h : ¬ reply.Ends) :
    reply.Holds (.comments reply.items) ∧ Client.goesOn ⟨reply.items, reply.hasNext⟩ = true := by
  by_cases hpage : ∃ items, reply.Holds (.comments items)
  · obtain ⟨items, hitems⟩ := hpage
    have hne : items ≠ [] := fun hnil => h (.empty (hnil ▸ hitems))
    have hnext : reply.hasNext = true := by
      rw [← Bool.not_eq_false]
      exact fun hlast => h (.last hitems hlast)
    unfold Client.goesOn
    rw [items_of_holds hitems, hnext, List.isEmpty_eq_false_iff.2 hne]
    exact ⟨hitems, rfl⟩
  · exact absurd (.failure (not_exists.1 hpage)) h

/-- A listing does not go on after a page that ends it. -/
theorem Reply.goesOn_of_ends (h : reply.Ends) (hpage : reply.Holds (.comments page)) :
    Client.goesOn ⟨page, reply.hasNext⟩ = false := by
  unfold Client.goesOn
  cases h with
  | failure h => exact absurd hpage (h page)
  | empty h =>
    obtain rfl := Body.comments.inj (h.2.symm.trans hpage.2)
    rw [List.isEmpty_nil, Bool.not_true, Bool.and_false]
  | last h hnext => rw [hnext, Bool.false_and]

/-! ## Where a listing ends -/

/-- Every script has a first reply that ends a listing, where the one past its end counts too. -/
theorem exists_ends (replies : List Reply) :
    ∃ front rest, replies = front ++ rest ∧ (∀ reply ∈ front, ¬ reply.Ends) ∧
      (rest.headD .notFound).Ends := by
  induction replies with
  | nil => exact ⟨[], [], rfl, by simp, Reply.ends_notFound⟩
  | cons reply replies ih =>
    by_cases hends : reply.Ends
    · exact ⟨[], reply :: replies, rfl, by simp, hends⟩
    · obtain ⟨front, rest, rfl, hfront, hrest⟩ := ih
      exact ⟨reply :: front, rest, rfl, List.forall_mem_cons.2 ⟨hends, hfront⟩, hrest⟩

/-- The reply after the first part of a script is the first of its second part. -/
theorem replyTo_append_length (front rest : List Reply) :
    replyTo (front ++ rest) (front.length + 1) = rest.headD .notFound := by
  unfold replyTo
  rw [Nat.add_sub_cancel, List.getD_append_right _ _ _ _ (Nat.le_refl _), Nat.sub_self]
  cases rest <;> rfl

/-- The first replies of a script are those of its first part. -/
theorem map_replyTo_append (front rest : List Reply) :
    (List.range' 1 front.length).map (replyTo (front ++ rest)) = front := by
  refine List.ext_getElem (by simp) fun i h hi => ?_
  simp [replyTo, List.getElem?_append_left hi, List.getElem?_eq_getElem hi]

/-- The replies up to the first of the second part of a script are those of the first part, and this
one. -/
theorem map_replyTo_concat (front rest : List Reply) :
    (List.range' 1 (front.length + 1)).map (replyTo (front ++ rest)) =
      front ++ [rest.headD .notFound] := by
  rw [List.range'_1_concat, List.map_append, map_replyTo_append, List.map_singleton,
    Nat.add_comm 1, replyTo_append_length]

/-- The number of the first reply that ends a listing is one more than there are replies before
it. -/
theorem isLeast_ends (hfront : ∀ reply ∈ front, ¬ reply.Ends)
    (hrest : (rest.headD .notFound).Ends) :
    IsLeast {k | 0 < k ∧ (replyTo (front ++ rest) k).Ends} (front.length + 1) := by
  refine ⟨⟨Nat.succ_pos _, by rwa [replyTo_append_length]⟩, ?_⟩
  rintro k ⟨hk, hends⟩
  by_contra hlt
  -- an earlier reply is one of the first part
  have hrange : k ∈ List.range' 1 front.length := List.mem_range'_1.2 ⟨hk, by omega⟩
  have hmem := List.mem_map_of_mem (f := replyTo (front ++ rest)) hrange
  rw [map_replyTo_append] at hmem
  exact hfront _ hmem hends

/-! ## Rounds of replies -/

/-- The replies to the copies of the messages of some calls, one call after the other, of those of a
script, and the replies that are left. -/
inductive Rounds : List Reply → List (List Reply) → List Reply → Prop
  /-- Without a call all replies are left. -/
  | nil (replies : List Reply) : Rounds replies [] replies
  /-- The replies to the first call come first. -/
  | cons {replies tried left rest : List Reply} {rounds : List (List Reply)}
      (htries : Tries replies tried left) (h : Rounds left rounds rest) :
      Rounds replies (tried :: rounds) rest

/-- The reply that counts of those to the copies of a message: the last. -/
def settled (tried : List Reply) : Reply := tried.getLastD .notFound

/-- The reply that counts is one of those to the copies. -/
theorem Tries.getLast?_eq {replies tried rest : List Reply} (h : Tries replies tried rest) :
    tried.getLast? = some (settled tried) := by
  unfold settled
  rw [List.getLastD_eq_getLast?, List.getLast?_eq_some_getLast h.ne_nil]
  rfl

/-- A reply that does not end a listing is no failure that may pass. -/
theorem Reply.not_passing_of_not_ends (h : ¬ reply.Ends) : reply.isPassing = false :=
  Reply.not_passing_of_succeeds (page_of_not_ends h).1.1

/-- Where the first reply that ends a listing is no failure that may pass, the rounds up to the
first that ends one are of one reply each, up to this reply. -/
theorem Rounds.eq_singletons {replies left last : List Reply} {rounds : List (List Reply)}
    (h : Rounds replies (rounds ++ [last]) left)
    (hrounds : ∀ tried ∈ rounds, ¬ (settled tried).Ends)
    (hlast : (settled last).Ends) (hreplies : replies = front ++ rest)
    (hfront : ∀ reply ∈ front, ¬ reply.Ends) (hrest : (rest.headD .notFound).Ends)
    (hsteady : (rest.headD .notFound).isPassing = false) :
    rounds ++ [last] = (front ++ [rest.headD .notFound]).map ([·]) ∧ left = rest.tail := by
  induction front generalizing replies rounds with
  | nil =>
    obtain rfl : replies = rest := hreplies
    cases rounds with
    | nil =>
      rcases h with _ | ⟨htries, hnone⟩
      cases hnone
      obtain ⟨rfl, rfl⟩ := htries.eq_of_steady hsteady
      exact ⟨rfl, rfl⟩
    | cons tried rounds =>
      -- the first round ends the listing already
      rcases h with _ | ⟨htries, -⟩
      obtain ⟨rfl, -⟩ := htries.eq_of_steady hsteady
      exact absurd hrest (hrounds _ List.mem_cons_self)
  | cons reply front ih =>
    subst hreplies
    obtain ⟨hreply, hfront⟩ := List.forall_mem_cons.1 hfront
    have hnext : ((reply :: front ++ rest).headD .notFound).isPassing = false :=
      Reply.not_passing_of_not_ends hreply
    cases rounds with
    | nil =>
      rcases h with _ | ⟨htries, -⟩
      obtain ⟨rfl, -⟩ := htries.eq_of_steady hnext
      exact absurd hlast hreply
    | cons tried rounds =>
      rcases h with _ | ⟨htries, h⟩
      obtain ⟨rfl, rfl⟩ := htries.eq_of_steady hnext
      obtain ⟨hothers, hleft⟩ :=
        ih h (fun tried ht => hrounds tried (List.mem_cons_of_mem _ ht)) rfl hfront
      exact ⟨congrArg _ hothers, hleft⟩

/-- A script has a first reply that ends a listing. Where this is no failure that may pass, the
rounds of a listing are of one reply each, from the first up to this one, and the replies after it
are left. -/
theorem Rounds.exists_isLeast {replies left last : List Reply} {rounds : List (List Reply)}
    (h : Rounds replies (rounds ++ [last]) left)
    (hrounds : ∀ tried ∈ rounds, ¬ (settled tried).Ends) (hlast : (settled last).Ends) :
    ∃ k, IsLeast {k | 0 < k ∧ (replyTo replies k).Ends} k ∧ k ≤ replies.length + 1 ∧
      ((replyTo replies k).isPassing = false →
        rounds ++ [last] = ((List.range' 1 k).map (replyTo replies)).map ([·]) ∧
          left = replies.drop k) := by
  obtain ⟨front, rest, rfl, hfront, hrest⟩ := exists_ends replies
  refine ⟨front.length + 1, isLeast_ends hfront hrest, ?_, ?_⟩
  · rw [List.length_append]
    omega
  · rw [replyTo_append_length, map_replyTo_concat]
    intro hsteady
    have hdrop : (front ++ rest).drop (front.length + 1) = rest.tail := by
      rw [← List.drop_drop, List.drop_left, List.drop_one]
    rw [hdrop]
    exact h.eq_singletons hrounds hlast rfl hfront hrest hsteady

/-- The copies that are sent in rounds, of one message for each round, which are counted from a
number on. -/
def roundMessages (message : Nat → Message) (first : Nat) (rounds : List (List Reply)) :
    List Message :=
  (rounds.zipIdx first).flatMap fun (tried, page) => List.replicate tried.length (message page)

/-- The copies of the first message come first. -/
theorem roundMessages_cons (message : Nat → Message) (first : Nat) (tried : List Reply)
    (rounds : List (List Reply)) :
    roundMessages message first (tried :: rounds) =
      List.replicate tried.length (message first) ++ roundMessages message (first + 1) rounds := by
  unfold roundMessages
  rw [List.zipIdx_cons, List.flatMap_cons]

/-- In rounds of one reply each message is sent once. -/
theorem roundMessages_singletons (message : Nat → Message) (first : Nat) (replies : List Reply) :
    roundMessages message first (replies.map ([·])) =
      (List.range' first replies.length).map message := by
  induction replies generalizing first with
  | nil => rfl
  | cons reply replies ih =>
    simp only [List.map_cons, roundMessages_cons, ih, List.length_cons, List.range'_succ]
    rfl

/-! ## Pages up to the end -/

namespace Client

section

variable {c : Client} (hlib : c.library.Documented) {basePath : String} {auth : Option String}
  {r : Repository} (hroutes : c.library.Routes c.connection basePath auth r) (n : UInt64)

include hlib hroutes

/-- A listing goes through rounds, one for each page, up to the first whose reply ends it. If that
is a page, its comments come after those of the pages before it. If it is a failure, the listing
fails, whatever the pages before it hold. -/
theorem pages_rounds (first : Nat) (replies : List Reply) (sent : List Message) :
    ∃ front last left cause, Rounds replies (front ++ [last]) left ∧
      (∀ tried ∈ front, ¬ (settled tried).Ends) ∧ (settled last).Ends ∧
      let message (page : Nat) : Message :=
        (Call.page r n perPage (UInt32.ofNat page)).message basePath auth
      let w : Wire :=
        ⟨.serving left, sent ++ roundMessages message first (front ++ [last])⟩
      ((∀ items, ¬ (settled last).Holds (.comments items)) →
        c.pages r n (UInt32.ofNat first) ⟨.serving replies, sent⟩ =
          (.error (.notListed r n (UInt32.ofNat (first + front.length)) cause), w)) ∧
      ∀ items, (settled last).Holds (.comments items) →
        c.pages r n (UInt32.ofNat first) ⟨.serving replies, sent⟩ =
          (.ok (((front.flatMap fun tried => (settled tried).items) ++ items).map ofItem), w) := by
  -- By induction on the number of replies that are left, of which each round takes one at least.
  induction hcount : replies.length using Nat.strongRecOn generalizing first replies sent with
  | _ count ih =>
    obtain ⟨tried, rest, cause, htries, hperform⟩ :=
      hlib.settles replies (hroutes (.page r n perPage (UInt32.ofNat first)) rfl)
    have hp : c.perform (.page r n perPage (UInt32.ofNat first)) ⟨.serving replies, sent⟩ = _ :=
      hperform
    rw [htries.getLast?_eq] at hp
    by_cases hends : (settled tried).Ends
    · -- The first round is the last.
      refine ⟨[], tried, rest, cause, .cons htries (.nil rest), by simp, hends, ?_, ?_⟩
      · intro hfails
        have hresult := congrArg Performed.result hp
        rw [Call.result_page_of_refused hfails] at hresult
        rw [pages_of_error hresult, hp, List.nil_append, roundMessages_cons]
        simp [Wire.after, roundMessages, Mishap.within]
      · intro items hitems
        have hresult := congrArg Performed.result hp
        rw [Call.result_page hitems] at hresult
        rw [pages_of_ok hresult, hp, Reply.goesOn_of_ends hends hitems, List.nil_append,
          roundMessages_cons]
        simp [Wire.after, roundMessages]
    · -- The listing goes on over fewer replies.
      obtain ⟨hpage, hmore⟩ := Reply.page_of_not_ends hends
      have hresult := congrArg Performed.result hp
      rw [Call.result_page hpage] at hresult
      have hfewer : rest.length < count :=
        hcount ▸ htries.left_lt htries.getLast?_eq hpage.1
      obtain ⟨front, last, left, cause', hrounds, hfront, hlast, hfailure, hlisted⟩ :=
        ih rest.length hfewer (first + 1) rest (sent ++ List.replicate tried.length
          ((Call.page r n perPage (UInt32.ofNat first)).message basePath auth)) rfl
      have hsucc : UInt32.ofNat first + 1 = UInt32.ofNat (first + 1) := (UInt32.ofNat_add _ _).symm
      have hnumber : first + 1 + front.length = first + (tried :: front).length := by
        rw [List.length_cons]
        omega
      refine ⟨tried :: front, last, left, cause', .cons htries hrounds,
        List.forall_mem_cons.2 ⟨hends, hfront⟩, hlast, ?_, ?_⟩
      · intro hfails
        rw [pages_of_ok hresult, hp, hmore, hsucc]
        simp only [Wire.after, hfailure hfails, hnumber, List.cons_append, roundMessages_cons,
          List.append_assoc]
        rfl
      · intro items hitems
        rw [pages_of_ok hresult, hp, hmore, hsucc]
        simp only [Wire.after, hlisted items hitems, List.cons_append, roundMessages_cons,
          List.append_assoc, List.flatMap_cons, List.map_append]
        rfl

end

/-- What a client does when it is asked for the comments of a thread is told by the pages from the
first on. -/
theorem answer_of_pages {c : Client} {r : Repository} {n : UInt64} {w w' : Wire}
    {result : Except Failure (List Comment)} (h : c.pages r n 1 w = (result, w')) :
    c.answer (.comments r n) w =
      { reply := result
        lines := (result.toOption.map fun comments => listedLine r n comments.length).toList
        state := w' } := by
  simp only [answer, listComments, h]
  cases result <;> rfl

/-- The message for a page bears the number of the page, as far as 32 bits hold it. -/
theorem message_of_page (basePath : String) (auth : Option String) (r : Repository) (n : UInt64)
    (page : Nat) :
    (Call.page r n perPage (UInt32.ofNat page)).message basePath auth =
      { method := .get
        path := basePath ++ "/repos/" ++ r.fullName ++
          ("/issues/" ++ numeral n.toNat ++ "/comments")
        query := [("page", numeral (page % UInt32.size)), ("per_page", "100")]
        auth := auth
        content := none } := by
  have hnumber : (UInt32.ofNat page).toNat = page % UInt32.size := UInt32.toNat_ofNat'
  simp only [Call.message, Call.repository, hnumber]
  rfl

/-- The words for a listing that failed at a page name the page by its number, as far as 32 bits
hold it. -/
theorem message_of_notListed (r : Repository) (n : UInt64) (page : Nat) (cause : String) :
    (Failure.notListed r n (UInt32.ofNat page) cause).message =
      "Failed to list comments on " ++ (r.owner ++ "/" ++ r.repo ++ "#" ++ numeral n.toNat) ++
        " (page " ++ numeral (page % UInt32.size) ++ ")" := by
  have hnumber : (UInt32.ofNat page).toNat = page % UInt32.size := UInt32.toNat_ofNat'
  have hmessage : (Failure.notListed r n (UInt32.ofNat page) cause).message =
      "Failed to list comments on " ++ itemName r n ++ " (page " ++
        numeral (UInt32.ofNat page).toNat ++ ")" := rfl
  rw [hmessage, hnumber]
  rfl

/-- A client lists the comments of a thread from any script of replies, where its library is as it
is documented and the names of the repository stand in addresses as they are. It goes through
rounds, one for each page: it asks for the pages by their numbers from one on, a hundred comments to
a page, and of the replies to the copies of one message the last one counts. The last round is the
first whose reply ends a listing. If this reply is a failure, the listing fails with it and keeps
nothing of the pages before. Otherwise it has the comments of all these pages in their order, each
with its text and its author, and tells how many they are.

A script has a first reply that ends a listing. If this is no failure that may pass, every message
is sent once: the rounds are the replies up to this one, and there are as many messages. -/
theorem lists_up_to_end {c : Client} (hlib : c.library.Documented) {basePath : String}
    {auth : Option String} {r : Repository}
    (hroutes : c.library.Routes c.connection basePath auth r) (n : UInt64) (replies : List Reply)
    (sent : List Message) :
    let a := c.answer (.comments r n) ⟨.serving replies, sent⟩
    let thread := r.owner ++ "/" ++ r.repo ++ "#" ++ numeral n.toNat
    let asked (page : Nat) : Message :=
      { method := .get
        path := basePath ++ "/repos/" ++ r.fullName ++
          ("/issues/" ++ numeral n.toNat ++ "/comments")
        query := [("page", numeral (page % UInt32.size)), ("per_page", "100")]
        auth := auth
        content := none }
    ∃ front last left, Rounds replies (front ++ [last]) left ∧
      (∀ tried ∈ front, ¬ (settled tried).Ends) ∧ (settled last).Ends ∧
      let rounds := front ++ [last]
      a.state = ⟨.serving left, sent ++ roundMessages asked 1 rounds⟩ ∧
      ((∀ items, ¬ (settled last).Holds (.comments items)) →
        ∃ f, a.reply = .error f ∧
          f.message = "Failed to list comments on " ++ thread ++ " (page " ++
            numeral (rounds.length % UInt32.size) ++ ")" ∧
          a.lines = []) ∧
      (∀ items, (settled last).Holds (.comments items) →
        let listed := rounds.flatMap fun tried => (settled tried).items
        a.reply = .ok (listed.map fun item => ⟨item.2, some item.1⟩) ∧
        a.lines = [⟨.debug, .client,
          "Fetched " ++ numeral listed.length ++ " comments for " ++ thread⟩]) ∧
      ∃ k, IsLeast {k | 0 < k ∧ (replyTo replies k).Ends} k ∧ k ≤ replies.length + 1 ∧
        ((replyTo replies k).isPassing = false →
          rounds = (List.range' 1 k).map (fun page => [replyTo replies page]) ∧
          a.state = ⟨.serving (replies.drop k), sent ++ (List.range' 1 k).map asked⟩) := by
  intro a thread asked
  obtain ⟨front, last, left, cause, hrounds, hfront, hlast, hfailure, hlisted⟩ :=
    pages_rounds hlib hroutes n 1 replies sent
  have hasked : (fun page => (Call.page r n perPage (UInt32.ofNat page)).message basePath auth) =
      asked := funext (message_of_page basePath auth r n)
  rw [hasked] at hfailure hlisted
  have hstate : a.state = ⟨.serving left, sent ++ roundMessages asked 1 (front ++ [last])⟩ := by
    by_cases hpage : ∃ items, (settled last).Holds (.comments items)
    · obtain ⟨items, hitems⟩ := hpage
      exact congrArg Program.Answer.state (answer_of_pages (hlisted items hitems))
    · exact congrArg Program.Answer.state (answer_of_pages (hfailure (not_exists.1 hpage)))
  refine ⟨front, last, left, hrounds, hfront, hlast, hstate, ?_, ?_, ?_⟩
  · intro hfails
    have ha : a = _ := answer_of_pages (hfailure hfails)
    rw [ha, List.length_append, List.length_singleton, Nat.add_comm]
    exact ⟨_, rfl, message_of_notListed r n _ cause, rfl⟩
  · intro items hitems listed
    have ha : a = _ := answer_of_pages (hlisted items hitems)
    have hlistedItems : listed = (front.flatMap fun tried => (settled tried).items) ++ items := by
      unfold listed
      rw [List.flatMap_append, List.flatMap_singleton, Reply.items_of_holds hitems]
    have hlength : (listed.map ofItem).length = listed.length := List.length_map ofItem
    rw [ha, ← hlistedItems]
    exact ⟨rfl, congrArg (fun count => [listedLine r n count]) hlength⟩
  · obtain ⟨k, hleast, hle, honce⟩ := hrounds.exists_isLeast hfront hlast
    refine ⟨k, hleast, hle, fun hsteady => ?_⟩
    obtain ⟨hsingle, hleft⟩ := honce hsteady
    constructor
    · rw [hsingle, List.map_map]
      rfl
    · rw [hstate, hsingle, hleft, roundMessages_singletons, List.length_map, List.length_range']

/-- A listing asks for two pages with the token and under the path of its address, and leaves the
reply after them. -/
theorem lists_up_to_end_two_pages :
    let c : Client := ⟨standard, ⟨some "http://localhost/api/", some "t0ken"⟩⟩
    let replies : List Reply := [⟨200, .comments [(⟨"bob", "User"⟩, some "Hi")], ["next"]⟩,
      ⟨200, .comments [(⟨"ann", "User"⟩, none)], ["prev"]⟩, ⟨503, .other, []⟩]
    let a := c.answer (.comments ⟨"octo", "repo"⟩ 7) ⟨.serving replies, []⟩
    let path := "/api/repos/octo/repo/issues/7/comments"
    a.reply = .ok [⟨some "Hi", some ⟨"bob", "User"⟩⟩, ⟨none, some ⟨"ann", "User"⟩⟩] ∧
      a.state.sent =
        [⟨.get, path, [("page", "1"), ("per_page", "100")], some "Bearer t0ken", none⟩,
          ⟨.get, path, [("page", "2"), ("per_page", "100")], some "Bearer t0ken", none⟩] := by
  intro c replies a path
  have hroutes := @standard_routes c.connection ⟨"octo", "repo"⟩ (by decide +kernel)
    (by decide +kernel)
  obtain ⟨front, last, left, -, -, -, -, -, hlisted, k, hk, -, honce⟩ :=
    lists_up_to_end (c := c) standard_documented hroutes 7 replies []
  have hfirst : ∀ reply ∈ replies.take 1, ¬ reply.Ends := by
    intro reply hreply
    obtain rfl := List.mem_singleton.1 hreply
    rintro (hfails | ⟨-, hempty⟩ | ⟨-, hlast⟩)
    · exact hfails _ ⟨rfl, rfl⟩
    · cases hempty
    · exact absurd hlast (by decide)
  have hsecond : ((replies.drop 1).headD .notFound).Ends :=
    .last ⟨rfl, rfl⟩ (by decide)
  have hleast := isLeast_ends hfirst hsecond
  obtain rfl : k = 2 := Nat.le_antisymm (hk.2 hleast.1) (hleast.2 hk.1)
  obtain ⟨hrounds, hstate⟩ := honce rfl
  have hpair : front ++ [last] = [[replyTo replies 1]] ++ [[replyTo replies 2]] := hrounds
  obtain ⟨rfl, hlast⟩ := List.append_inj' hpair rfl
  cases hlast
  exact ⟨(hlisted _ ⟨rfl, rfl⟩).1, (congrArg Wire.sent hstate).trans (by decide +kernel)⟩

/-- Three ways in which a listing departs from asking once for each page up to its end. After a
failure that may pass, the page is asked for again and may be had. The names of a repository may
make no address, and then nothing is asked for. And where as many pages as 32 bits count name one
that follows, the count begins anew. -/
theorem listing_departs :
    let c : Client := ⟨standard, ⟨none, none⟩⟩
    let ends (replies : List Reply) := {k | 0 < k ∧ (replyTo replies k).Ends}
    (let replies : List Reply :=
        [⟨503, .other, []⟩, ⟨200, .comments [(⟨"ann", "User"⟩, some "Hi")], []⟩]
      let a := c.answer (.comments ⟨"octo", "repo"⟩ 7) ⟨.serving replies, []⟩
      IsLeast (ends replies) 1 ∧ (∀ items, ¬ (replyTo replies 1).Holds (.comments items)) ∧
        a.reply.isOk = true ∧ a.state.sent.length = 2) ∧
    (let replies : List Reply := [⟨200, .comments [], []⟩]
      let a := c.answer (.comments ⟨"my org", "repo"⟩ 7) ⟨.serving replies, []⟩
      IsLeast (ends replies) 1 ∧ (replyTo replies 1).Holds (.comments []) ∧
        a.reply.isOk = false ∧ a.state.sent = []) ∧
    (let replies : List Reply := .replicate (UInt32.size - 1)
        ⟨200, .comments [(⟨"ann", "User"⟩, some "Hi")], ["next"]⟩
      let a := c.answer (.comments ⟨"octo", "repo"⟩ 7) ⟨.serving replies, []⟩
      IsLeast (ends replies) (UInt32.size) ∧
        a.state.sent.getLast?.map Message.query = some [("page", "0"), ("per_page", "100")]) := by
  intro c ends
  refine ⟨?_, ?_, ?_⟩
  · -- The second reply is taken for the first page.
    intro replies a
    have hfails : ∀ items, ¬ (replies.headD .notFound).Holds (.comments items) := by
      intro items h
      exact Bool.false_ne_true h.1
    exact ⟨@isLeast_ends [] replies (by simp) (.failure hfails), hfails, by decide +kernel,
      by decide +kernel⟩
  · intro replies a
    have hpage : (replies.headD .notFound).Holds (.comments []) := ⟨rfl, rfl⟩
    exact ⟨@isLeast_ends [] replies (by simp) (.empty hpage), hpage, by decide +kernel,
      by decide +kernel⟩
  · -- The number after the greatest one of 32 bits is zero.
    intro replies a
    have hroutes := @standard_routes c.connection ⟨"octo", "repo"⟩ rfl (by decide +kernel)
    have hfront : ∀ reply ∈ replies, ¬ reply.Ends := by
      intro reply hreply
      obtain rfl := List.eq_of_mem_replicate hreply
      rintro (hfails | ⟨-, hempty⟩ | ⟨-, hlast⟩)
      · exact hfails _ ⟨rfl, rfl⟩
      · cases hempty
      · exact absurd hlast (by decide)
    have hcount : replies.length = UInt32.size - 1 := List.length_replicate
    have hleast := @isLeast_ends replies [] hfront Reply.ends_notFound
    rw [List.append_nil, hcount] at hleast
    refine ⟨hleast, ?_⟩
    obtain ⟨rounds, last, left, cause, hrounds, hbefore, hlast, hfailure, -⟩ :=
      pages_rounds (c := c) standard_documented hroutes 7 1 replies []
    obtain ⟨hsingle, -⟩ := hrounds.eq_singletons hbefore hlast (List.append_nil replies).symm hfront
      Reply.ends_notFound rfl
    have hpair : rounds ++ [last] = replies.map ([·]) ++ [[.notFound]] :=
      hsingle.trans List.map_append
    obtain ⟨-, hnone⟩ := List.append_inj' hpair rfl
    cases hnone
    have ha : a = _ := answer_of_pages (hfailure fun items h => Bool.false_ne_true h.1)
    rw [ha, hsingle, roundMessages_singletons, List.length_append, hcount, List.length_singleton,
      List.range'_1_concat]
    simp only [List.map_append, List.nil_append, List.map_singleton, List.getLast?_concat]
    rfl

end Client

end IssueSteward.Rest
