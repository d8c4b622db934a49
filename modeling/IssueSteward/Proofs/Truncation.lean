import IssueSteward.Proofs.Decoding
import IssueSteward.Proofs.StreamedShapes

/-!
# Payloads that break off

A payload that is cut anywhere before its end is recognised as such: `load_cut` says that of a text
from which an event is loaded, what precedes a cut is refused as truncated, and neither loaded nor
refused for another reason. The only other places are those inside a number, where what precedes the
cut may be a number itself, and those in the white space at the end.
-/

namespace IssueSteward.Payload

/-- What precedes a place at which more than white space is to come is too little of a text that
holds a value, unless the place is inside a number. -/
theorem Shape.decode_cut {s : Shape} {v : s.Value} {p q : List Char} (h : s.decode (p ++ q) = .ok v)
    (hq : ∃ c ∈ q, isSpace c = false) (hnumber : ¬ InsideNumber p q) :
    s.decode p = .error .truncated := by
  obtain ⟨r, hread, hr⟩ := Shape.decode_eq_ok.1 h
  obtain ⟨t, hsplit, ht⟩ := (s.streams 0).part (p ++ q) hread
  rcases append_cut hsplit.symm with ⟨m, hm, rfl, rfl⟩ | ⟨p', rfl, hp'⟩
  · have hcut := ht.cut rfl hm hnumber
    simp only [decode, hcut, bind, Except.bind]
  · -- only white space follows the value
    obtain ⟨c, hc, hother⟩ := hq
    have hspace := hr c (hp' ▸ List.mem_append_right p' hc)
    rw [hspace] at hother
    cases hother

/-- A payload that is loaded from a text is truncated where anything but white space is cut off at
its end, be it only the last bracket, unless the cut is inside a number: less of the text is never
loaded, and never counts as malformed or unfit. -/
theorem load_cut {α : Type} {f : Format α} {event : α} {p q : String}
    (h : load f (some (p ++ q).toUTF8) = .ok event) (hq : ∃ c ∈ q.toList, isSpace c = false)
    (hnumber : ¬ InsideNumber p.toList q.toList) :
    load f (some p.toUTF8) = .error (.refused .truncated) := by
  obtain ⟨values, hvalues, -⟩ := exists_of_load h
  rw [String.toList_append] at hvalues
  have hcut := Shape.decode_cut hvalues hq hnumber
  rw [load_toUTF8]
  simp only [Format.decode, hcut, Functor.map, Except.map, Except.mapError]

/-- A number has no quotes, nor has its sign. -/
theorem NumberLiteral.no_quote {n : List Char} (h : NumberLiteral n) : ∀ c ∈ n, c ≠ '"' := by
  obtain ⟨g, t, ht, rfl | rfl⟩ := h
  · exact ht.no_quote
  · exact List.forall_mem_cons.2 ⟨by decide, ht.no_quote⟩

/-- No number is cut inside a string. -/
theorem not_insideNumber_of_region {p : List Char} (h : regionAfter p ≠ .outside) (q : List Char) :
    ¬ InsideNumber p q := by
  rintro ⟨a, n, m, b, rfl, rfl, -, -, hliteral, ha⟩
  have hn : regionAfter n = .outside :=
    regionAfter_of_no_quote fun c hc => hliteral.no_quote c (List.mem_append_left _ hc)
  rw [regionAfter_append ha, hn] at h
  exact h rfl

/-- A payload is truncated where it is cut inside an escape, although digits stand on both sides. -/
theorem load_cut_escape :
    let p := "\x7b\"issue\": \x7b\"number\": 7\x7d, \"zen\": [1.5, \"\\ud8"
    let q := "00\"]\x7d\n"
    load issueCommentEvent (some (p ++ q).toUTF8) = .ok
      { action := none
        issue := some { number := 7, user := none, isPullRequest := false }
        comment := none } ∧
    (∃ c ∈ q.toList, isSpace c = false) ∧ ¬ InsideNumber p.toList q.toList ∧
    load issueCommentEvent (some p.toUTF8) = .error (.refused .truncated) := by
  intro p q
  have hload : load issueCommentEvent (some (p ++ q).toUTF8) = .ok
      { action := none
        issue := some { number := 7, user := none, isPullRequest := false }
        comment := none } := by
    rw [← toOption_eq_some_iff]
    decide +kernel
  have hq : ∃ c ∈ q.toList, isSpace c = false := ⟨'0', by decide, by decide⟩
  have hnumber : ¬ InsideNumber p.toList q.toList :=
    not_insideNumber_of_region (by decide +kernel) _
  exact ⟨hload, hq, hnumber, load_cut hload hq hnumber⟩

end IssueSteward.Payload
