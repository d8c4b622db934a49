import IssueSteward.Reminder
import IssueSteward.Unassignment

/-!
# Which texts bear which markers

A marker begins with `<` and ends with `>`. Where neither sign stands in the names that are pasted
into a comment, the comment bears the marker that it begins with and no other: a confirmation bears
the marker of the user whom it is for and of no one else (`confirmation_bears_iff`), not even of one
whose name begins or ends like theirs, and reminders and confirmations do not bear each other's
marker (`confirmation_not_reminder`, `reminder_not_confirmation`).
-/

namespace IssueSteward

/-- A text holds neither of the signs with which a marker begins and ends. -/
def Text.Plain (s : String) : Prop := '<' ∉ s.toList ∧ '>' ∉ s.toList

instance (s : String) : Decidable (Text.Plain s) :=
  inferInstanceAs (Decidable (_ ∧ _))

/-- What occurs in a text and begins with a sign that the text begins with and does not repeat
stands at the beginning of the text. -/
theorem Text.begins_of_occurs {c : Char} {s t : List Char} (hc : c ∉ t) (h : c :: s <:+: c :: t) :
    c :: s <+: c :: t := by
  rcases List.infix_cons_iff.1 h with hstart | hinside
  · exact hstart
  · exact absurd (hinside.subset List.mem_cons_self) hc

/-- A text that holds a sign once has one part before it, however it is split there. -/
theorem Text.eq_of_split {c : Char} {before after before' after' : List Char} (hbefore : c ∉ before)
    (hafter : c ∉ after) (h : before ++ c :: after = before' ++ c :: after') :
    before = before' := by
  rcases List.append_eq_append_iff.1 h with ⟨between, rfl, hrest⟩ | ⟨between, rfl, hrest⟩
  · rcases between with _ | ⟨sign, between⟩
    · rw [List.append_nil]
    · -- the second split would stand in what follows the sign
      obtain ⟨-, rfl⟩ := List.cons.inj hrest
      simp at hafter
  · rcases between with _ | ⟨sign, between⟩
    · rw [List.append_nil]
    · obtain ⟨rfl, -⟩ := List.cons.inj hrest
      simp at hbefore

namespace Marker

/-- A text bears a marker when the marker occurs in it. -/
def Bears (m : Marker) (body : String) : Prop := m.text.toList <:+: body.toList

/-- A marker stands in a comment exactly when the text of the comment bears it. -/
theorem isIn_singleton {m : Marker} {body : String} {user : Option User} :
    m.isIn [⟨some body, user⟩] = true ↔ m.Bears body := by
  rw [isIn_iff]
  simp [Bears]

/-- A marker is not in a thread exactly when no text of a comment bears it. -/
theorem isIn_eq_false_iff {m : Marker} {comments : List Comment} :
    m.isIn comments = false ↔ ∀ c ∈ comments, ∀ body ∈ c.body, ¬ m.Bears body := by
  rw [← Bool.not_eq_true, isIn_iff]
  simp [Bears]

/-- A stamped text bears the marker. -/
theorem bears_stamp (m : Marker) (body : String) : m.Bears (m.stamp body) :=
  isIn_singleton.1 (stamp_isIn m body none)

/-- The signs of the marker of a reminder. -/
theorem missingIssue_toList :
    missingIssue.text.toList = '<' :: "!-- LinkBot Missing Issue -->".toList := by
  simp [missingIssue]

/-- The signs of the marker of an unassignment. -/
theorem unassigned_toList (login : String) :
    (unassigned login).text.toList =
      '<' :: ("!-- unassign-requested:".toList ++ (login.toList ++ " -->".toList)) := by
  have hopening : "<!-- unassign-requested:".toList = '<' :: "!-- unassign-requested:".toList := by
    decide
  unfold unassigned
  rw [String.toList_append, String.toList_append, hopening]
  simp only [List.cons_append, List.append_assoc]

end Marker

open Marker

/-- What a confirmation says after its marker. -/
def Unassignment.message (login : String) : String :=
  "👋 @" ++ login ++ ", you have been unassigned from this issue. Thanks for letting us know! " ++
    "The issue is open for someone else to pick up."

/-- The signs of a confirmation. -/
theorem Unassignment.body_toList (login : String) :
    (body login).toList = '<' :: ("!-- unassign-requested:".toList ++
      ((login.toList ++ " --".toList) ++ '>' :: '\n' :: (message login).toList)) := by
  have hclosing : " -->".toList = " --".toList ++ ['>'] := by decide
  have hline : "\n".toList = ['\n'] := by decide
  have hbody : body login = (Marker.unassigned login).stamp (message login) := rfl
  rw [hbody]
  unfold stamp
  rw [String.toList_append, String.toList_append, unassigned_toList, hclosing, hline]
  simp only [List.cons_append, List.append_assoc, List.nil_append]

/-- The signs of a reminder. -/
theorem Reminder.body_toList (repository : Repository) (author : String) :
    (body repository author).toList = '<' :: ("!-- LinkBot Missing Issue -->".toList ++
      '\n' :: (message repository author).toList) := by
  have hline : "\n".toList = ['\n'] := by decide
  unfold body stamp
  rw [String.toList_append, String.toList_append, missingIssue_toList, hline]
  simp only [List.cons_append, List.append_assoc, List.nil_append]

/-- What a confirmation says after its marker is plain when the name of the user is. -/
theorem Unassignment.message_plain {login : String} (h : Text.Plain login) :
    Text.Plain (message login) := by
  obtain ⟨hopen, hclose⟩ := h
  unfold message Text.Plain
  simp only [String.toList_append, List.mem_append, not_or]
  simp [hopen, hclose]

/-- What a reminder says after its marker does not begin a marker when no name in it does. -/
theorem Reminder.message_plain {repository : Repository} {author : String}
    (howner : Text.Plain repository.owner) (hrepo : Text.Plain repository.repo)
    (hauthor : Text.Plain author) : '<' ∉ (message repository author).toList := by
  unfold message
  simp only [String.toList_append, List.mem_append, not_or]
  simp [howner.1, hrepo.1, hauthor.1]

/-- A confirmation bears the marker of the user whom it is for, and of no one else. -/
theorem confirmation_bears_iff {login other : String} (h : Text.Plain login) :
    (unassigned other).Bears (Unassignment.body login) ↔ other = login := by
  constructor
  · intro hbears
    obtain ⟨hopen, hclose⟩ := Unassignment.message_plain h
    unfold Bears at hbears
    rw [unassigned_toList, Unassignment.body_toList] at hbears
    -- the marker stands at the beginning, and there its end is the only one
    have hstart := Text.begins_of_occurs (by simp [h.1, hopen]) hbears
    rw [List.cons_prefix_cons, List.prefix_append_right_inj] at hstart
    obtain ⟨rest, hrest⟩ := hstart.2
    have hsplit :
        (login.toList ++ " --".toList) ++ '>' :: '\n' :: (Unassignment.message login).toList =
        (other.toList ++ " --".toList) ++ '>' :: rest := by
      rw [← hrest]
      simp
    have hname := Text.eq_of_split (by simp [h.2]) (by simp [hclose]) hsplit
    exact String.toList_inj.1 (List.append_cancel_right hname).symm
  · rintro rfl
    exact bears_stamp _ _

/-- A confirmation does not bear the marker of a reminder. -/
theorem confirmation_not_reminder {login : String} (h : Text.Plain login) :
    ¬ missingIssue.Bears (Unassignment.body login) := by
  intro hbears
  obtain ⟨hopen, -⟩ := Unassignment.message_plain h
  unfold Bears at hbears
  rw [missingIssue_toList, Unassignment.body_toList] at hbears
  have hstart := Text.begins_of_occurs (by simp [h.1, hopen]) hbears
  -- the two markers differ in their sixth sign
  simp [List.cons_prefix_cons] at hstart

/-- A reminder does not bear the marker of an unassignment. -/
theorem reminder_not_confirmation {repository : Repository} {author login : String}
    (howner : Text.Plain repository.owner) (hrepo : Text.Plain repository.repo)
    (hauthor : Text.Plain author) :
    ¬ (unassigned login).Bears (Reminder.body repository author) := by
  intro hbears
  have hopen := Reminder.message_plain howner hrepo hauthor
  unfold Bears at hbears
  rw [unassigned_toList, Reminder.body_toList] at hbears
  have hstart := Text.begins_of_occurs (by simp [hopen]) hbears
  simp [List.cons_prefix_cons] at hstart

end IssueSteward
