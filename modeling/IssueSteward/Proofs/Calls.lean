import IssueSteward.Rest.Client

/-!
# Calls over a script

What comes of the calls of a client over a script of replies, where its library is as it is
documented. A call whose next reply is no failure that may pass takes this reply and no other
(`perform_of_steady`), and a call whose next reply holds what it asks for has its value
(`perform_of_read`). From this follows what a next reply that holds a page makes of a listing: it
ends with its last page (`pages_of_last`), or goes on after a page (`pages_of_more`).
-/

namespace IssueSteward.Rest

/-- A reply is a success with a body. -/
def Reply.Holds (reply : Reply) (body : Body) : Prop :=
  reply.succeeds = true ∧ reply.body = body

/-! ## What a reply makes of a call -/

namespace Call

variable {r : Repository} {n : UInt64} {reply : Reply}

/-- A pull request is read off the reply that holds it. -/
theorem read_pull {item : PullItem} (h : reply.Holds (.pull item)) :
    (pull r n).read reply = some item := by
  unfold read
  rw [h.1, h.2]
  rfl

/-- A page is read off the reply that holds its comments. -/
theorem read_page {size : UInt8} {index : UInt32} {items : List (User × Option String)}
    (h : reply.Holds (.comments items)) :
    (page r n size index).read reply = some ⟨items, reply.hasNext⟩ := by
  unfold read
  rw [h.1, h.2]
  rfl

/-- A page is read off no other reply. -/
theorem read_page_eq_none {size : UInt8} {index : UInt32}
    (h : ∀ items, ¬ reply.Holds (.comments items)) : (page r n size index).read reply = none := by
  unfold read
  split
  · rename_i hsucceeds
    cases hbody : reply.body with
    | comments items => exact absurd ⟨hsucceeds, hbody⟩ (h items)
    | _ => rfl
  · rfl

/-- A call for a page has the page that a reply holds. -/
theorem result_page {size : UInt8} {index : UInt32} {items : List (User × Option String)}
    (h : reply.Holds (.comments items)) (cause : String) :
    (page r n size index).result cause (some reply) = .ok ⟨items, reply.hasNext⟩ := by
  unfold result
  rw [Option.bind_some, read_page h]

/-- A call for a page fails with a reply that holds none. -/
theorem result_page_of_refused {size : UInt8} {index : UInt32}
    (h : ∀ items, ¬ reply.Holds (.comments items)) (cause : String) :
    (page r n size index).result cause (some reply) = .error (.failure cause) := by
  unfold result
  rw [Option.bind_some, read_page_eq_none h]

/-- A reply to a comment says that it is posted. -/
theorem read_comment {body : String} (h : reply.Holds .comment) :
    (comment r n body).read reply = some () := by
  unfold read
  rw [h.1, h.2]
  rfl

/-- A reply to a change of the assignees holds the issue. -/
theorem read_unassign {logins : List String} (h : reply.Holds .issue) :
    (unassign r n logins).read reply = some () := by
  unfold read
  rw [h.1, h.2]
  rfl

end Call

/-- Where the next reply is no failure that may pass, there is one copy of a message, which takes
it. -/
theorem Tries.eq_of_steady {replies tried rest : List Reply} (h : Tries replies tried rest)
    (hsteady : (replies.headD .notFound).isPassing = false) :
    tried = [replies.headD .notFound] ∧ rest = replies.tail := by
  cases h with
  | last => exact ⟨rfl, rfl⟩
  | again hpassing => exact absurd (hpassing.symm.trans hsteady) Bool.noConfusion

namespace Client

variable {c : Client}

/-- A call whose next reply is no failure that may pass sends its message once, and has the result
that the reply makes. -/
theorem perform_of_steady (hlib : c.library.Documented) {call : Call} {m : Message}
    (hmessage : c.library.message c.connection call = some m) {replies : List Reply}
    (hsteady : (replies.headD .notFound).isPassing = false) (sent : List Message) :
    ∃ cause, c.perform call ⟨.serving replies, sent⟩ =
      ⟨call.result cause (some (replies.headD .notFound)), [m], .serving replies.tail⟩ := by
  obtain ⟨tried, rest, cause, htries, hperform⟩ := hlib.settles replies hmessage
  obtain ⟨rfl, rfl⟩ := htries.eq_of_steady hsteady
  exact ⟨cause, hperform⟩

/-- A call whose next reply holds what it asks for has its value. -/
theorem perform_of_read (hlib : c.library.Documented) {call : Call} {m : Message}
    (hmessage : c.library.message c.connection call = some m) {reply : Reply} {value : call.Value}
    (hread : call.read reply = some value) (replies : List Reply) (sent : List Message) :
    c.perform call ⟨.serving (reply :: replies), sent⟩ = ⟨.ok value, [m], .serving replies⟩ := by
  have hsteady : ((reply :: replies).headD .notFound).isPassing = false :=
    Reply.not_passing_of_succeeds (Call.succeeds_of_read hread)
  obtain ⟨cause, hperform⟩ := perform_of_steady hlib hmessage hsteady sent
  have hresult : call.result cause (some reply) = .ok value := by
    unfold Call.result
    rw [Option.bind_some, hread]
  rw [hperform, List.headD_cons, hresult, List.tail_cons]

/-! ## What a reply makes of a listing -/

/-- The calls for pages, of which the first and the count are given. -/
def pageCalls (r : Repository) (n : UInt64) (first count : Nat) : List Call :=
  (List.range' first count).map fun page => .page r n perPage (UInt32.ofNat page)

/-- The calls for pages begin with that for the first. -/
theorem pageCalls_succ (r : Repository) (n : UInt64) (first count : Nat) :
    pageCalls r n first (count + 1) =
      .page r n perPage (UInt32.ofNat first) :: pageCalls r n (first + 1) count := by
  unfold pageCalls
  rw [List.range'_succ, List.map_cons]

section

variable (hlib : c.library.Documented) {basePath : String} {auth : Option String}
  {r : Repository} (hroutes : c.library.Routes c.connection basePath auth r) (n : UInt64)
  (page : UInt32)

include hlib hroutes

variable {reply : Reply} {items : List (User × Option String)}

/-- A listing ends with a page that names none that follows, or has no comments on it. -/
theorem pages_of_last (hreply : reply.Holds (.comments items))
    (hlast : goesOn ⟨items, reply.hasNext⟩ = false) (replies : List Reply) (sent : List Message) :
    c.pages r n page ⟨.serving (reply :: replies), sent⟩ =
      (.ok (items.map ofItem), ⟨.serving replies,
        sent ++ [(Call.page r n perPage page).message basePath auth]⟩) := by
  have hmessage := hroutes (.page r n perPage page) rfl
  have hperform := perform_of_read hlib hmessage (Call.read_page hreply) replies sent
  have hresult := congrArg Performed.result hperform
  rw [pages_of_ok hresult, hperform, hlast]
  rfl

/-- A listing goes on after any other page, whose comments come first. -/
theorem pages_of_more (hreply : reply.Holds (.comments items))
    (hmore : goesOn ⟨items, reply.hasNext⟩ = true) (replies : List Reply) (sent : List Message) :
    c.pages r n page ⟨.serving (reply :: replies), sent⟩ =
      let w : Wire :=
        ⟨.serving replies, sent ++ [(Call.page r n perPage page).message basePath auth]⟩
      ((c.pages r n (page + 1) w).1.map (items.map ofItem ++ ·), (c.pages r n (page + 1) w).2) := by
  have hmessage := hroutes (.page r n perPage page) rfl
  have hperform := perform_of_read hlib hmessage (Call.read_page hreply) replies sent
  have hresult := congrArg Performed.result hperform
  rw [pages_of_ok hresult, hperform, hmore]
  rfl

end

end Client

end IssueSteward.Rest
