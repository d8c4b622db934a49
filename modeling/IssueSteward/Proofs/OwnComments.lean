import IssueSteward.Proofs.UnassignmentRule
import IssueSteward.Reminder

/-!
# The services do not obey themselves

The comments that the services post talk of commands, and names are pasted into them that may look
like one. Where no name holds a blank, no slash in such a comment stands at its beginning or after a
blank, and so it holds no command. `passes?` follows the search for a command over a text and gives
up where a slash could begin one; it goes over the pieces of a comment one after the other
(`passes_append`), and a name never makes it give up where it begins in the midst of a word
(`passes_name`). `own_comment_ignored` says that the unassignment service leaves such comments alone,
whoever wrote them.
-/

namespace IssueSteward

open Text

namespace UnassignCommand

variable {free a b c : Bool} {s t : List Char}

/-- Goes over a text in which no slash stands where a command could begin. It says whether one could
begin after the text, where `free` says whether one could at the beginning. -/
def passes? (free : Bool) : List Char → Option Bool
  | [] => some free
  | c :: s => if free && c == '/' then none else passes? (isBlank c) s

/-- The pieces of a text are gone over one after the other. -/
theorem passes_append (hs : passes? a s = some b) (ht : passes? b t = some c) :
    passes? a (s ++ t) = some c := by
  induction s generalizing a with
  | nil =>
    obtain rfl := Option.some.inj hs
    exact ht
  | cons d s ih =>
    unfold passes? at hs
    rw [List.cons_append]
    unfold passes?
    split at hs
    · cases hs
    · rename_i hd
      rw [if_neg hd]
      exact ih hs

/-- A text that is written out is gone over by its characters. -/
theorem passes_literal (h : passes? a s = some b) :
    passes? a (String.ofList s).toList = some b := by
  rw [String.toList_ofList]
  exact h

/-- A name without a blank is gone over where no command could begin, and none could after it. -/
theorem passes_name (h : ∀ c ∈ s, isBlank c = false) : passes? false s = some false := by
  induction s with
  | nil => rfl
  | cons c s ih =>
    obtain ⟨hc, hs⟩ := List.forall_mem_cons.1 h
    unfold passes?
    rw [Bool.false_and, if_neg Bool.false_ne_true, hc]
    exact ih hs

/-- The command begins with a slash. -/
theorem startsHere_of_ne_slash {d : Char} (hd : d ≠ '/') : startsHere (d :: s) = false := by
  unfold startsHere
  split
  · rename_i h
    exact absurd (List.cons.inj h).1 hd
  · rfl

/-- The command does not occur in a text that is gone over. -/
theorem not_occurs_of_passes (h : passes? a s = some b) : occurs a s = false := by
  induction s generalizing a with
  | nil => rfl
  | cons d s ih =>
    unfold passes? at h
    split at h
    · cases h
    · rename_i hslash
      have hhere : (a && startsHere (d :: s)) = false := by
        cases a
        · rfl
        · rw [Bool.true_and]
          exact startsHere_of_ne_slash (by simpa using hslash)
      unfold occurs
      rw [hhere, Bool.false_or]
      exact ih h

end UnassignCommand

open UnassignCommand

/-- A name holds no blank. -/
def Text.Blankless (s : String) : Prop := ∀ c ∈ s.toList, isBlank c = false

instance (s : String) : Decidable (Text.Blankless s) :=
  decidable_of_iff (s.toList.all (!isBlank ·) = true) (by simp [Text.Blankless])

/-- A reminder is gone over where the names in it hold no blank. -/
theorem Reminder.passes_body {repository : Repository} {author : String}
    (howner : Blankless repository.owner) (hrepo : Blankless repository.repo)
    (hauthor : Blankless author) : passes? true (body repository author).toList = some true := by
  unfold body Marker.stamp message Marker.missingIssue
  simp only [String.toList_append, List.append_assoc]
  -- the marker, the line break after it, and the greeting
  refine passes_append (b := false) (passes_literal rfl) ?_
  refine passes_append (b := true) (passes_literal rfl) ?_
  refine passes_append (b := false) (passes_literal rfl) ?_
  refine passes_append (b := false) (passes_name hauthor) ?_
  -- five pieces of guidance that end with a blank, and two links in pieces
  iterate 5 refine passes_append (b := true) (passes_literal rfl) ?_
  refine passes_append (b := false) (passes_literal rfl) ?_
  refine passes_append (b := true) (passes_literal rfl) ?_
  refine passes_append (b := false) (passes_literal rfl) ?_
  refine passes_append (b := false) (passes_name howner) ?_
  refine passes_append (b := false) (passes_literal rfl) ?_
  refine passes_append (b := false) (passes_name hrepo) ?_
  exact passes_literal rfl

/-- A confirmation is gone over where the name in it holds no blank. -/
theorem Unassignment.passes_body {login : String} (h : Blankless login) :
    passes? true (body login).toList = some false := by
  unfold body Marker.stamp Marker.unassigned
  simp only [String.toList_append, List.append_assoc]
  -- the marker and the line break after it
  refine passes_append (b := false) (passes_literal rfl) ?_
  refine passes_append (b := false) (passes_name h) ?_
  refine passes_append (b := false) (passes_literal rfl) ?_
  refine passes_append (b := true) (passes_literal rfl) ?_
  -- the message
  refine passes_append (b := false) (passes_literal rfl) ?_
  refine passes_append (b := false) (passes_name h) ?_
  exact passes_append (b := true) (passes_literal rfl) (passes_literal rfl)

/-- The comments that the services post, where the names that are pasted into them hold no blank. -/
inductive OwnComment : String → Prop
  /-- A reminder to link an issue. -/
  | reminder {repository : Repository} {author : String} (howner : Blankless repository.owner)
      (hrepo : Blankless repository.repo) (hauthor : Blankless author) :
      OwnComment (Reminder.body repository author)
  /-- A confirmation of an unassignment. -/
  | confirmation {login : String} (h : Blankless login) : OwnComment (Unassignment.body login)

/-- A comment of the services holds no command. -/
theorem OwnComment.no_command {text : String} (h : OwnComment text) :
    hasUnassignCommand text = false := by
  cases h with
  | reminder howner hrepo hauthor =>
    exact not_occurs_of_passes (Reminder.passes_body howner hrepo hauthor)
  | confirmation h => exact not_occurs_of_passes (Unassignment.passes_body h)

/-- A comment that a service posted holds no command. Whoever the author of a comment with such a
text is said to be, and whomever its issue is assigned to, the unassignment service asks nothing of
a tracker and leaves the event alone. -/
theorem own_comment_ignored {text : String} (h : OwnComment text) :
    hasUnassignCommand text = false ∧
    ∀ {σ : Type} (tracker : Program.Tracker σ) (ctx : Context) (event : IssueCommentEvent)
      (comment : Comment) (s : σ), event.comment = some comment → comment.body = some text →
      let r := (Unassignment.run ctx event).run tracker s
      r.calls = [] ∧ ∃ reason, r.result = .ok (.skipped reason) := by
  refine ⟨h.no_command, fun tracker ctx event comment s hcomment hbody => ?_⟩
  have hunmet : ∃ q ∈ Unassignment.requirements, ¬ q.Met event := by
    refine ⟨_, .tail _ (.tail _ (.tail _ (.tail _ (.tail _ (.tail _ (.head _)))))), ?_⟩
    rintro ⟨comment', hcomment', text', htext', hcommand⟩
    obtain rfl := Option.some.inj (hcomment.symm.trans hcomment')
    obtain rfl := Option.some.inj (hbody.symm.trans htext')
    rw [h.no_command] at hcommand
    cases hcommand
  obtain ⟨hcalls, reason, -, hresult⟩ :
      ((Unassignment.run ctx event).run tracker s).calls = [] ∧ _ :=
    Unassignment.run_of_unmet tracker s hunmet
  exact ⟨hcalls, reason, hresult⟩

/-- A confirmation for a user whose name reads like the command is left alone, though an assignee of
the issue posts it. -/
theorem own_comment_ignored_slash :
    let text := Unassignment.body "/unassign"
    let event : IssueCommentEvent :=
      { action := some "created"
        issue := some { number := 7, user := none, assignees := [⟨"ann", "User"⟩],
                        isPullRequest := false }
        comment := some ⟨some text, some ⟨"ann", "User"⟩⟩ }
    let r := (Unassignment.run ⟨⟨"octo", "repo"⟩, false⟩ event).run Board.answer {}
    OwnComment text ∧ hasUnassignCommand text = false ∧ r.calls = [] ∧
      ∃ reason, r.result = .ok (.skipped reason) := by
  have hown : OwnComment (Unassignment.body "/unassign") := .confirmation (by decide)
  exact ⟨hown, (own_comment_ignored hown).1, (own_comment_ignored hown).2 _ _ _ _ _ rfl rfl⟩

/-- A blank in a name could make a command of it. -/
example : hasUnassignCommand (Unassignment.body "ann /unassign") = true := by decide +kernel

end IssueSteward
