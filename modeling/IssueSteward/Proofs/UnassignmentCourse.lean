import IssueSteward.Proofs.Demand

/-!
# Courses of the unassignment service

The unassignment service takes one of a few courses, whatever the replies are: `Removal` lists those
of doing what an event asks for, and `removal_of_course` and `cases_of_course` say that there are no
others. A confirmation is only ever asked for right after a removal that succeeded.
-/

namespace IssueSteward.Unassignment

open Program

/-- The line that tells that an event is left alone. -/
def leaveLine (reason : Skip) : LogLine :=
  { level := .info, source := .unassignment, text := "Skipping unassign: " ++ reason.text }

/-- The line that tells that a user was taken off an issue before. -/
def markedLine (d : Demand) : LogLine where
  level := .info
  source := .unassignment
  text := "@" ++ d.login ++ " already unassigned themself from " ++ itemName d

/-- The line that tells of what would be done. -/
def previewLine (d : Demand) : LogLine where
  level := .info
  source := .unassignment
  text := "[dry run] Would remove @" ++ d.login ++ " from " ++ itemName d ++ " and comment:\n"
    ++ body d.login

/-- The line that tells that a user was taken off an issue. -/
def doneLine (d : Demand) : LogLine where
  level := .info
  source := .unassignment
  text := "Unassigned @" ++ d.login ++ " from " ++ itemName d

/-- The line that tells that the service failed. -/
def failureLine (ctx : Context) (d : Demand) (f : Failure) : LogLine where
  level := .error
  source := .unassignment
  text := "Unassign failed for @" ++ d.login ++ " on " ++ itemName d ++ " in "
    ++ ctx.repository.fullName ++ ": " ++ f.chain

/-- The courses of doing what an event asks for. -/
inductive Removal (ctx : Context) (d : Demand) :
    List Exchange → List LogLine → Except Failure Outcome → Prop
  /-- The comments of the issue are not to be had. -/
  | unlisted {f : Failure} :
      Removal ctx d [⟨.comments ctx.repository d.number, .error f⟩] [] (.error f)
  /-- A comment bears the marker of the user. -/
  | marked {comments : List Comment} (hmark : (Marker.unassigned d.login).isIn comments = true) :
      Removal ctx d [⟨.comments ctx.repository d.number, .ok comments⟩] [markedLine d]
        (.ok (.skipped .alreadyCommented))
  /-- It is a dry run. -/
  | previewed {comments : List Comment}
      (hmark : (Marker.unassigned d.login).isIn comments = false) (hdry : ctx.dryRun = true) :
      Removal ctx d [⟨.comments ctx.repository d.number, .ok comments⟩] [previewLine d]
        (.ok .dryRun)
  /-- The removal is refused. -/
  | kept {comments : List Comment} {f : Failure}
      (hmark : (Marker.unassigned d.login).isIn comments = false) (hdry : ctx.dryRun = false) :
      Removal ctx d
        [⟨.comments ctx.repository d.number, .ok comments⟩,
          ⟨.unassign ctx.repository d.number d.login, .error f⟩]
        [] (.error f)
  /-- The removal succeeds and the confirmation is refused. -/
  | unconfirmed {comments : List Comment} {f : Failure}
      (hmark : (Marker.unassigned d.login).isIn comments = false) (hdry : ctx.dryRun = false) :
      Removal ctx d
        [⟨.comments ctx.repository d.number, .ok comments⟩,
          ⟨.unassign ctx.repository d.number d.login, .ok ()⟩,
          ⟨.comment ctx.repository d.number (body d.login), .error f⟩]
        [] (.error f)
  /-- The user is taken off the issue and the confirmation is posted. -/
  | confirmed {comments : List Comment}
      (hmark : (Marker.unassigned d.login).isIn comments = false) (hdry : ctx.dryRun = false) :
      Removal ctx d
        [⟨.comments ctx.repository d.number, .ok comments⟩,
          ⟨.unassign ctx.repository d.number d.login, .ok ()⟩,
          ⟨.comment ctx.repository d.number (body d.login), .ok ()⟩]
        [doneLine d] (.ok .unassigned)

variable {ctx : Context} {d : Demand} {event : IssueCommentEvent} {es : List Exchange}
  {lines : List LogLine} {result : Except Failure Outcome}

/-- Once the comments of the issue are known not to bear the marker, the rest of a removal takes one
course on a dry run, and otherwise one for each way in which the two requests are replied to. -/
theorem removal_of_carryOut {comments : List Comment}
    (hmark : (Marker.unassigned d.login).isIn comments = false)
    (h : Course (carryOut ctx d) es lines result) :
    Removal ctx d (⟨.comments ctx.repository d.number, .ok comments⟩ :: es) lines result := by
  unfold carryOut at h
  split at h
  · obtain ⟨rest, hend, rfl⟩ := course_tell_bind.1 h
    obtain ⟨rfl, rfl, rfl⟩ := course_pure.1 hend
    exact .previewed hmark ‹_›
  · rename_i hdry
    rw [Bool.not_eq_true] at hdry
    rcases course_ask_bind.1 h with ⟨f, rfl, rfl, rfl⟩ | ⟨_, rest, hremoved, rfl⟩
    · exact .kept hmark hdry
    · rcases course_ask_bind.1 hremoved with ⟨f, rfl, rfl, rfl⟩ | ⟨_, rest, htell, rfl⟩
      · exact .unconfirmed hmark hdry
      · obtain ⟨rest, hend, rfl⟩ := course_tell_bind.1 htell
        obtain ⟨rfl, rfl, rfl⟩ := course_pure.1 hend
        exact .confirmed hmark hdry

/-- Doing what an event asks for takes one of the courses of a removal. -/
theorem removal_of_course (h : Course (unassign ctx d) es lines result) :
    Removal ctx d es lines result := by
  unfold unassign at h
  rcases course_ask_bind.1 h with ⟨f, rfl, rfl, rfl⟩ | ⟨comments, rest, hlisted, rfl⟩
  · exact .unlisted
  · split at hlisted
    · obtain ⟨rest, hend, rfl⟩ := course_tell_bind.1 hlisted
      obtain ⟨rfl, rfl, rfl⟩ := course_pure.1 hend
      exact .marked ‹_›
    · rename_i hmark
      exact removal_of_carryOut (Bool.not_eq_true _ ▸ hmark) hlisted

/-- A removal begins with looking for the marker of the user in the thread of the issue. -/
theorem Removal.looksFor (h : Removal ctx d es lines result) :
    LooksFor (.unassigned d.login) ctx.repository d.number es result := by
  cases h with
  | unlisted => exact .unlisted
  | marked hmark => exact .found hmark
  | previewed hmark => exact .absent hmark (by simp)
  | kept hmark => exact .absent hmark (by simp)
  | unconfirmed hmark => exact .absent hmark (by simp)
  | confirmed hmark => exact .absent hmark (by simp)

/-- The service either finds a reason to leave an event alone, without asking for anything, or does
what the event asks for and tells of its failure. -/
theorem cases_of_course (h : Course (run ctx event) es lines result) :
    (∃ reason, demand event = .error reason ∧ es = [] ∧ lines = [leaveLine reason] ∧
      result = .ok (.skipped reason)) ∨
    ∃ d own, demand event = .ok d ∧ Removal ctx d es own result ∧
      lines = own ++ complaint .unassignment (fun f => (failureLine ctx d f).text) result := by
  rw [run_eq] at h
  split at h
  · rename_i reason hreason
    obtain ⟨rest, hend, rfl⟩ := course_tell_bind.1 h
    obtain ⟨rfl, rfl, rfl⟩ := course_pure.1 hend
    exact .inl ⟨reason, hreason, rfl, rfl, rfl⟩
  · rename_i d hd
    obtain ⟨own, ho, rfl⟩ := course_complain.1 h
    exact .inr ⟨d, own, hd, removal_of_course ho, rfl⟩

/-- All that a removal asks is about the repository of the service. -/
theorem Removal.repository (h : Removal ctx d es lines result) :
    ∀ e ∈ es, e.request.repository = ctx.repository := by
  cases h <;> simp [Request.repository]

/-- All that the service asks is about its repository. -/
theorem repository_of_course (h : Course (run ctx event) es lines result) :
    ∀ e ∈ es, e.request.repository = ctx.repository := by
  rcases cases_of_course h with ⟨reason, -, rfl, -, -⟩ | ⟨d, own, -, hremoval, -⟩
  · simp
  · exact hremoval.repository

end IssueSteward.Unassignment
