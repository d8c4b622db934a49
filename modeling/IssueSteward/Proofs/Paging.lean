import IssueSteward.Proofs.Calls

/-!
# Threads cut into pages

An API gives the comments of a thread in pages, and each page but the last names one that follows.
`pages_of_cut` says that a client puts the comments together again in their order, wherever they are
cut, and asks for each page once. It looks at whether a page follows, and never at the number of the
page that is named.
-/

namespace IssueSteward.Rest

/-- The ways to cut comments into pages: the last page names none that follows, and any other one
has comments on it and names one that follows. -/
inductive Cut : List (User × Option String) → List Reply → Prop
  /-- The last page has the comments that are left. -/
  | last {items : List (User × Option String)} {reply : Reply}
      (hreply : reply.Holds (.comments items)) (hnext : reply.hasNext = false) : Cut items [reply]
  /-- A page has some comments, and the pages that follow the others. -/
  | more {items others : List (User × Option String)} {reply : Reply} {replies : List Reply}
      (hreply : reply.Holds (.comments items)) (hitems : items ≠ []) (hnext : reply.hasNext = true)
      (hothers : Cut others replies) : Cut (items ++ others) (reply :: replies)

namespace Client

section

variable {c : Client} (hlib : c.library.Documented) {basePath : String} {auth : Option String}
  {r : Repository} (hroutes : c.library.Routes c.connection basePath auth r) (n : UInt64)
  {items : List (User × Option String)} {pages : List Reply}

include hlib hroutes

/-- From the pages into which comments are cut a client has all of them in their order, and leaves
the replies after the pages. It asks for one page after the other, as many as there are. -/
theorem pages_of_cut (h : Cut items pages) (first : Nat) (rest : List Reply)
    (sent : List Message) :
    c.pages r n (UInt32.ofNat first) ⟨.serving (pages ++ rest), sent⟩ =
      (.ok (items.map ofItem), ⟨.serving rest,
        sent ++ (pageCalls r n first pages.length).map (Call.message basePath auth)⟩) := by
  induction h generalizing first sent with
  | @last items reply hreply hnext =>
    have hlast : goesOn ⟨items, reply.hasNext⟩ = false := by
      unfold goesOn
      rw [hnext, Bool.false_and]
    exact pages_of_last hlib hroutes n _ hreply hlast rest sent
  | @more items others reply replies hreply hitems hnext hothers ih =>
    have hmore : goesOn ⟨items, reply.hasNext⟩ = true := by
      unfold goesOn
      rw [hnext, List.isEmpty_eq_false_iff.2 hitems]
      rfl
    have hsucc : UInt32.ofNat first + 1 = UInt32.ofNat (first + 1) := (UInt32.ofNat_add _ _).symm
    rw [List.cons_append, pages_of_more hlib hroutes n _ hreply hmore, hsucc]
    simp only [ih]
    rw [List.map_append, List.length_cons, pageCalls_succ, List.map_cons, List.append_assoc]
    rfl

/-- A client lists the comments of a thread from the pages into which they are cut. -/
theorem listComments_of_cut (h : Cut items pages) (rest : List Reply) (sent : List Message) :
    c.listComments r n ⟨.serving (pages ++ rest), sent⟩ =
      { reply := .ok (items.map ofItem)
        lines := [listedLine r n items.length]
        state := ⟨.serving rest,
          sent ++ (pageCalls r n 1 pages.length).map (Call.message basePath auth)⟩ } := by
  have hpages := pages_of_cut hlib hroutes n h 1 rest sent
  have hcount : (items.map ofItem).length = items.length := List.length_map ofItem
  have hfirst : UInt32.ofNat 1 = 1 := rfl
  rw [hfirst] at hpages
  unfold listComments
  simp only [hpages, hcount]
  rfl

end

end Client

end IssueSteward.Rest
