import IssueSteward.Proofs.Course
import IssueSteward.Reminder

/-!
# Courses of the reminder service

The reminder service takes one of a few courses, whatever the replies are. `Inspection` lists those
of checking a pull request and `Search` those of finding the pull request; `inspection_of_course`,
`course_resolve` and `cases_of_course` say that there are no others.
-/

namespace IssueSteward.Reminder

open Program

/-- The line that tells that a pull request is left alone. -/
def leaveLine (pr : PullRequest) (reason : Skip) : LogLine :=
  { level := .info, source := .reminder, text := "Skipping " ++ itemName pr ++ ": " ++ reason.text }

/-- The line that tells of the reminder that would be posted. -/
def previewLine (ctx : Context) (pr : PullRequest) (author : String) : LogLine where
  level := .info
  source := .reminder
  text := "[dry run] Would comment on " ++ itemName pr ++ ":\n" ++ body ctx.repository author

/-- The line that tells that a reminder was posted. -/
def postLine (pr : PullRequest) : LogLine where
  level := .info
  source := .reminder
  text := "Posted missing issue reminder on " ++ itemName pr

/-- The line that tells that the check of a pull request failed. -/
def failureLine (ctx : Context) (pr : PullRequest) (f : Failure) : LogLine where
  level := .error
  source := .reminder
  text := "Missing issue check failed for " ++ itemName pr ++ " in " ++ ctx.repository.fullName
    ++ ": " ++ f.chain

/-- The line that tells that no pull request was found. -/
def searchLine (ctx : Context) (number : Option UInt64) (f : Failure) : LogLine where
  level := .error
  source := .reminder
  text := "Failed to resolve pull request " ++
    Text.optional (number.map (Decimal.numeral ·.toNat)) ++ " in " ++ ctx.repository.fullName
    ++ ": " ++ f.chain

/-- The courses of a check of a pull request for a reminder. -/
inductive Inspection (ctx : Context) (pr : PullRequest) :
    List Exchange → List LogLine → Except Failure Outcome → Prop
  /-- A reason is found to leave it alone, and nothing is asked. -/
  | left {reason : Skip} (hskip : firstSkip checks pr = some reason) :
      Inspection ctx pr [] [leaveLine pr reason] (.ok (.skipped reason))
  /-- Its comments are not to be had. -/
  | unlisted {f : Failure} (hdue : firstSkip checks pr = none) :
      Inspection ctx pr [⟨.comments ctx.repository pr.number, .error f⟩] [] (.error f)
  /-- A comment bears the marker. -/
  | marked {comments : List Comment} (hdue : firstSkip checks pr = none)
      (hmark : Marker.missingIssue.isIn comments = true) :
      Inspection ctx pr [⟨.comments ctx.repository pr.number, .ok comments⟩]
        [leaveLine pr .alreadyCommented] (.ok (.skipped .alreadyCommented))
  /-- The author is not known. -/
  | authorless {comments : List Comment} (hdue : firstSkip checks pr = none)
      (hmark : Marker.missingIssue.isIn comments = false) (huser : pr.user = none) :
      Inspection ctx pr [⟨.comments ctx.repository pr.number, .ok comments⟩] [] (.error .noAuthor)
  /-- It is a dry run. -/
  | previewed {comments : List Comment} {user : User} (hdue : firstSkip checks pr = none)
      (hmark : Marker.missingIssue.isIn comments = false) (huser : pr.user = some user)
      (hdry : ctx.dryRun = true) :
      Inspection ctx pr [⟨.comments ctx.repository pr.number, .ok comments⟩]
        [previewLine ctx pr user.login] (.ok .dryRun)
  /-- The reminder is refused. -/
  | refused {comments : List Comment} {user : User} {f : Failure}
      (hdue : firstSkip checks pr = none) (hmark : Marker.missingIssue.isIn comments = false)
      (huser : pr.user = some user) (hdry : ctx.dryRun = false) :
      Inspection ctx pr
        [⟨.comments ctx.repository pr.number, .ok comments⟩,
          ⟨.comment ctx.repository pr.number (body ctx.repository user.login), .error f⟩]
        [] (.error f)
  /-- The reminder is posted. -/
  | posted {comments : List Comment} {user : User} (hdue : firstSkip checks pr = none)
      (hmark : Marker.missingIssue.isIn comments = false) (huser : pr.user = some user)
      (hdry : ctx.dryRun = false) :
      Inspection ctx pr
        [⟨.comments ctx.repository pr.number, .ok comments⟩,
          ⟨.comment ctx.repository pr.number (body ctx.repository user.login), .ok ()⟩]
        [postLine pr] (.ok .commented)

/-- The courses of finding the pull request of an event. -/
inductive Search (ctx : Context) (event : PullRequestEvent) (number : Option UInt64) :
    List Exchange → Except Failure PullRequest → Prop
  /-- The event carries it. -/
  | carried {pr : PullRequest} (hpr : event.pullRequest = some pr) :
      Search ctx event number [] (.ok pr)
  /-- It is asked for by its number. -/
  | asked {n : UInt64} {reply : Except Failure PullRequest} (hpr : event.pullRequest = none)
      (hnumber : number = some n) :
      Search ctx event number [⟨.pullRequest ctx.repository n, reply⟩] reply
  /-- Neither is there. -/
  | missing (hpr : event.pullRequest = none) (hnumber : number = none) :
      Search ctx event number [] (.error .noPullRequest)

variable {ctx : Context} {pr : PullRequest} {event : PullRequestEvent} {number : Option UInt64}
  {es : List Exchange} {lines : List LogLine} {result : Except Failure Outcome}

/-- Leaving a pull request alone takes one course. -/
theorem course_leave {reason : Skip} (h : Course (leave pr reason) es lines result) :
    es = [] ∧ lines = [leaveLine pr reason] ∧ result = .ok (.skipped reason) := by
  unfold leave at h
  obtain ⟨rest, hend, rfl⟩ := course_tell_bind.1 h
  obtain ⟨rfl, rfl, rfl⟩ := course_pure.1 hend
  exact ⟨rfl, rfl, rfl⟩

/-- Posting a reminder on a dry run takes one course, and otherwise one for each reply. -/
theorem course_post {author : String} (h : Course (post ctx pr author) es lines result) :
    (ctx.dryRun = true ∧ es = [] ∧ lines = [previewLine ctx pr author] ∧ result = .ok .dryRun) ∨
    (ctx.dryRun = false ∧
      ((∃ f, es = [⟨.comment ctx.repository pr.number (body ctx.repository author), .error f⟩] ∧
        lines = [] ∧ result = .error f) ∨
      (es = [⟨.comment ctx.repository pr.number (body ctx.repository author), .ok ()⟩] ∧
        lines = [postLine pr] ∧ result = .ok .commented))) := by
  unfold post at h
  split at h
  · obtain ⟨rest, hend, rfl⟩ := course_tell_bind.1 h
    obtain ⟨rfl, rfl, rfl⟩ := course_pure.1 hend
    exact .inl ⟨‹_›, rfl, rfl, rfl⟩
  · rename_i hdry
    refine .inr ⟨Bool.not_eq_true _ ▸ hdry, ?_⟩
    rcases course_ask_bind.1 h with ⟨f, rfl, rfl, rfl⟩ | ⟨_, rest, htell, rfl⟩
    · exact .inl ⟨f, rfl, rfl, rfl⟩
    · obtain ⟨rest, hend, rfl⟩ := course_tell_bind.1 htell
      obtain ⟨rfl, rfl, rfl⟩ := course_pure.1 hend
      exact .inr ⟨rfl, rfl, rfl⟩

/-- Checking a pull request for a reminder takes one of the courses of an inspection. -/
theorem inspection_of_course (h : Course (notify ctx pr) es lines result) :
    Inspection ctx pr es lines result := by
  unfold notify at h
  split at h
  · obtain ⟨rfl, rfl, rfl⟩ := course_leave h
    exact .left ‹_›
  · rename_i hdue
    rcases course_ask_bind.1 h with ⟨f, rfl, rfl, rfl⟩ | ⟨comments, rest, hlisted, rfl⟩
    · exact .unlisted hdue
    · split at hlisted
      · obtain ⟨rfl, rfl, rfl⟩ := course_leave hlisted
        exact .marked hdue ‹_›
      · rename_i hmark
        rw [Bool.not_eq_true] at hmark
        split at hlisted
        · obtain ⟨rfl, rfl, rfl⟩ := course_fail.1 hlisted
          exact .authorless hdue hmark ‹_›
        · rename_i user huser
          rcases course_post hlisted with
            ⟨hdry, rfl, rfl, rfl⟩ | ⟨hdry, ⟨f, rfl, rfl, rfl⟩ | ⟨rfl, rfl, rfl⟩⟩
          · exact .previewed hdue hmark huser hdry
          · exact .refused hdue hmark huser hdry
          · exact .posted hdue hmark huser hdry

/-- An inspection of a pull request for which a check gives a reason asks for nothing. -/
theorem Inspection.eq_nil {reason : Skip} (h : Inspection ctx pr es lines result)
    (hskip : firstSkip checks pr = some reason) : es = [] := by
  rcases h with _ | hdue | hdue | hdue | hdue | hdue | hdue
  · rfl
  all_goals
    rw [hskip] at hdue
    cases hdue

/-- An inspection of a pull request for which no check gives a reason begins with looking for the
marker in its thread. -/
theorem Inspection.looksFor (h : Inspection ctx pr es lines result)
    (hdue : firstSkip checks pr = none) :
    LooksFor .missingIssue ctx.repository pr.number es result := by
  cases h with
  | left hskip =>
    rw [hdue] at hskip
    cases hskip
  | unlisted => exact .unlisted
  | marked _ hmark => exact .found hmark
  | authorless _ hmark => exact .absent hmark (by simp)
  | previewed _ hmark => exact .absent hmark (by simp)
  | refused _ hmark => exact .absent hmark (by simp)
  | posted _ hmark => exact .absent hmark (by simp)

/-- The courses of finding the pull request of an event are those of a search, and write nothing. -/
theorem course_resolve {found : Except Failure PullRequest} :
    Course (resolve ctx event number) es lines found ↔
      Search ctx event number es found ∧ lines = [] := by
  constructor
  · intro h
    unfold resolve at h
    split at h
    · obtain ⟨rfl, rfl, rfl⟩ := course_pure.1 h
      exact ⟨.carried ‹_›, rfl⟩
    · obtain ⟨rfl, rfl⟩ := course_ask.1 h
      exact ⟨.asked ‹_› rfl, rfl⟩
    · obtain ⟨rfl, rfl, rfl⟩ := course_fail.1 h
      exact ⟨.missing ‹_› rfl, rfl⟩
  · rintro ⟨hs, rfl⟩
    unfold resolve
    rcases hs with hpr | ⟨hpr, hnumber⟩ | ⟨hpr, hnumber⟩
    · rw [hpr]
      exact course_pure.2 ⟨rfl, rfl, rfl⟩
    · rw [hpr, hnumber]
      exact course_ask.2 ⟨rfl, rfl⟩
    · rw [hpr, hnumber]
      exact course_fail.2 ⟨rfl, rfl, rfl⟩

/-- The service either finds no pull request and fails, or finds one and inspects it; it tells of
either failure. -/
theorem cases_of_course (h : Course (run ctx event number) es lines result) :
    (∃ f, Search ctx event number es (.error f) ∧
      lines = complaint .reminder (fun f => (searchLine ctx number f).text) result ∧
      result = .error f) ∨
    ∃ pr es₁ es₂ own, Search ctx event number es₁ (.ok pr) ∧ Inspection ctx pr es₂ own result ∧
      es = es₁ ++ es₂ ∧
      lines = own ++ complaint .reminder (fun f => (failureLine ctx pr f).text) result := by
  unfold run at h
  rcases course_bind.1 h with ⟨f, h₁, rfl⟩ | ⟨pr, es₁, es₂, lines₁, lines₂, h₁, h₂, rfl, rfl⟩
  · obtain ⟨own, ho, rfl⟩ := course_complain.1 h₁
    obtain ⟨hs, rfl⟩ := course_resolve.1 ho
    exact .inl ⟨f, hs, rfl, rfl⟩
  · obtain ⟨own₁, ho₁, rfl⟩ := course_complain.1 h₁
    obtain ⟨own₂, ho₂, rfl⟩ := course_complain.1 h₂
    obtain ⟨hs, rfl⟩ := course_resolve.1 ho₁
    exact .inr ⟨pr, es₁, es₂, own₂, hs, inspection_of_course ho₂, rfl, rfl⟩

/-- All that the service asks is about its repository. -/
theorem repository_of_course (h : Course (run ctx event number) es lines result) :
    ∀ e ∈ es, e.request.repository = ctx.repository := by
  have hsearched : ∀ {found es}, Search ctx event number es found →
      ∀ e ∈ es, e.request.repository = ctx.repository := by
    intro found es hsearch
    cases hsearch <;> simp [Request.repository]
  rcases cases_of_course h with ⟨f, hsearch, -, -⟩ | ⟨pr, es₁, es₂, own, hsearch, hinspect, rfl, -⟩
  · exact hsearched hsearch
  · have hinspected : ∀ e ∈ es₂, e.request.repository = ctx.repository := by
      cases hinspect <;> simp [Request.repository]
    exact fun e he => (List.mem_append.1 he).elim (hsearched hsearch e) (hinspected e)

end IssueSteward.Reminder
