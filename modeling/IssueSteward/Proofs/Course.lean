import IssueSteward.Marker
import IssueSteward.Outcome
import IssueSteward.Program

/-!
# Courses of programs

A program's course is what there is to see of it, whatever tracker it is carried out over: the
requests that it makes with the replies to them, the lines that it writes, and its end. `course_run`
says that a run over a tracker takes a course of the program, and `Course.run_eq` that the replies
settle which: where a tracker gives the replies of a course, the run is that course. So what a
service does is found out once, from its courses, and holds over every tracker. `LooksFor` is how the
courses of both services begin.
-/

namespace IssueSteward

/-- The repository that a request is about. -/
def Request.repository : Request → Repository
  | .pullRequest r _ | .comments r _ | .comment r _ _ | .unassign r _ _ => r

/-- A request with the reply that it had. -/
structure Exchange where
  /-- The request. -/
  request : Request
  /-- The reply, or why there was none. -/
  reply : Except Failure request.Reply

namespace Program

variable {σ α β : Type}

/-- The exchanges of a program that is carried out over a tracker in a given state. -/
def exchanges (tracker : Tracker σ) : Program α → σ → List Exchange
  | .done _, _ => []
  | .log _ next, s => next.exchanges tracker s
  | .call request next, s =>
    let a := tracker request s
    ⟨request, a.reply⟩ :: (next a.reply).exchanges tracker a.state

/-- The lines that a program itself writes when it is carried out over a tracker in a given
state. -/
def ownLines (tracker : Tracker σ) : Program α → σ → List LogLine
  | .done _, _ => []
  | .log line next, s => line :: next.ownLines tracker s
  | .call request next, s =>
    let a := tracker request s
    (next a.reply).ownLines tracker a.state

/-- A tracker gives the replies of some exchanges, and they lead it from one state to another. -/
def Answers (tracker : Tracker σ) : σ → List Exchange → σ → Prop
  | s, [], t => s = t
  | s, e :: es, t =>
    (tracker e.request s).reply = e.reply ∧ Answers tracker (tracker e.request s).state es t

/-- The courses of a program: the exchanges that it has, the lines that it writes, and its end. -/
inductive Course : Program α → List Exchange → List LogLine → Except Failure α → Prop
  /-- At its end it does nothing. -/
  | done (result : Except Failure α) : Course (.done result) [] [] result
  /-- It writes a line and goes on. -/
  | log (line : LogLine) {next : Program α} {es : List Exchange} {lines : List LogLine}
      {result : Except Failure α} (h : Course next es lines result) :
      Course (.log line next) es (line :: lines) result
  /-- It makes a request and goes on with whatever the reply is. -/
  | call (request : Request) {next : Except Failure request.Reply → Program α}
      (reply : Except Failure request.Reply) {es : List Exchange} {lines : List LogLine}
      {result : Except Failure α} (h : Course (next reply) es lines result) :
      Course (.call request next) (⟨request, reply⟩ :: es) lines result

/-! ## Runs and courses -/

/-- A run takes a course of its program. -/
theorem course_run (tracker : Tracker σ) (p : Program α) (s : σ) :
    Course p (p.exchanges tracker s) (p.ownLines tracker s) (p.run tracker s).result := by
  induction p generalizing s with
  | done result => exact .done result
  | log line next ih => exact .log line (ih s)
  | call request next ih => exact .call request _ (ih _ _)

/-- A tracker gives the replies of the exchanges of a run over it. -/
theorem answers_run (tracker : Tracker σ) (p : Program α) (s : σ) :
    Answers tracker s (p.exchanges tracker s) (p.run tracker s).state := by
  induction p generalizing s with
  | done result => rfl
  | log line next ih => exact ih s
  | call request next ih => exact ⟨rfl, ih _ _⟩

/-- The requests of a run are those of its exchanges. -/
theorem calls_run (tracker : Tracker σ) (p : Program α) (s : σ) :
    (p.run tracker s).calls = (p.exchanges tracker s).map Exchange.request := by
  induction p generalizing s with
  | done result => rfl
  | log line next ih => exact ih s
  | call request next ih =>
    simp only [run, exchanges, List.map_cons]
    rw [ih]

/-- Over a tracker that writes no lines, the lines of a run are those of the program itself. -/
theorem logs_run {tracker : Tracker σ} (hsilent : ∀ request s, (tracker request s).lines = [])
    (p : Program α) (s : σ) : (p.run tracker s).logs = p.ownLines tracker s := by
  induction p generalizing s with
  | done result => rfl
  | log line next ih =>
    simp only [run, ownLines]
    rw [ih]
  | call request next ih =>
    simp only [run, ownLines, hsilent, List.nil_append]
    exact ih _ _

/-- Where a tracker gives the replies of a course, a run over it takes that course. -/
theorem Course.run_eq {tracker : Tracker σ} {p : Program α} {es : List Exchange}
    {lines : List LogLine} {result : Except Failure α} (h : Course p es lines result) {s t : σ}
    (ha : Answers tracker s es t) :
    p.exchanges tracker s = es ∧ p.ownLines tracker s = lines ∧
      (p.run tracker s).result = result ∧ (p.run tracker s).state = t := by
  induction h generalizing s with
  | done result => exact ⟨rfl, rfl, rfl, ha⟩
  | log line h ih =>
    obtain ⟨he, hl, hr, hs⟩ := ih ha
    exact ⟨he, congrArg _ hl, hr, hs⟩
  | call request reply h ih =>
    obtain ⟨hreply, ha⟩ := ha
    simp only at hreply ha
    subst hreply
    obtain ⟨he, hl, hr, hs⟩ := ih ha
    exact ⟨congrArg _ he, hl, hr, hs⟩

/-- Exchanges in two parts lead through a state between them. -/
theorem answers_append {tracker : Tracker σ} {s t : σ} {es₁ es₂ : List Exchange} :
    Answers tracker s (es₁ ++ es₂) t ↔
      ∃ u, Answers tracker s es₁ u ∧ Answers tracker u es₂ t := by
  induction es₁ generalizing s with
  | nil => simp [Answers]
  | cons e es ih => simp [Answers, ih, and_assoc]

/-! ## Courses of the parts of programs -/

/-- A program that is at its end has one course. -/
theorem course_pure {a : α} {es : List Exchange} {lines : List LogLine}
    {result : Except Failure α} :
    Course (pure a) es lines result ↔ es = [] ∧ lines = [] ∧ result = .ok a := by
  constructor
  · intro h
    cases h
    exact ⟨rfl, rfl, rfl⟩
  · rintro ⟨rfl, rfl, rfl⟩
    exact .done _

/-- A program that fails has one course. -/
theorem course_fail {f : Failure} {es : List Exchange} {lines : List LogLine}
    {result : Except Failure α} :
    Course (fail f) es lines result ↔ es = [] ∧ lines = [] ∧ result = .error f := by
  constructor
  · intro h
    cases h
    exact ⟨rfl, rfl, rfl⟩
  · rintro ⟨rfl, rfl, rfl⟩
    exact .done _

/-- A program that makes a request ends as the reply says. -/
theorem course_ask {request : Request} {es : List Exchange} {lines : List LogLine}
    {result : Except Failure request.Reply} :
    Course (ask request) es lines result ↔ es = [⟨request, result⟩] ∧ lines = [] := by
  constructor
  · intro h
    rcases h with _ | _ | ⟨_, _, h⟩
    cases h
    exact ⟨rfl, rfl⟩
  · rintro ⟨rfl, rfl⟩
    exact .call request _ (.done _)

/-- A program that tells of something has one course. -/
theorem course_tell {source : Source} {text : String} {es : List Exchange} {lines : List LogLine}
    {result : Except Failure Unit} :
    Course (tell source text) es lines result ↔
      es = [] ∧ lines = [{ level := .info, source, text }] ∧ result = .ok () := by
  constructor
  · intro h
    rcases h with _ | ⟨_, h⟩ | _
    cases h
    exact ⟨rfl, rfl, rfl⟩
  · rintro ⟨rfl, rfl, rfl⟩
    exact .log _ (.done _)

/-- A sequence takes a course of its first part that fails, or one that succeeds and then a course
of its second part. -/
theorem course_bind {p : Program α} {k : α → Program β} {es : List Exchange}
    {lines : List LogLine} {result : Except Failure β} :
    Course (p >>= k) es lines result ↔
      (∃ f, Course p es lines (.error f) ∧ result = .error f) ∨
      ∃ a es₁ es₂ lines₁ lines₂, Course p es₁ lines₁ (.ok a) ∧ Course (k a) es₂ lines₂ result ∧
        es = es₁ ++ es₂ ∧ lines = lines₁ ++ lines₂ := by
  constructor
  · intro h
    change Course (p.bind k) es lines result at h
    -- By induction on the first part, with whose requests and lines the sequence begins.
    induction p generalizing es lines with
    | done r =>
      rcases r with f | a
      · cases h
        exact .inl ⟨f, .done _, rfl⟩
      · exact .inr ⟨a, [], es, [], lines, .done _, h, rfl, rfl⟩
    | log line next ih =>
      rcases h with _ | ⟨_, h⟩ | _
      rcases ih h with ⟨f, hf, rfl⟩ | ⟨a, es₁, es₂, l₁, l₂, h₁, h₂, rfl, rfl⟩
      · exact .inl ⟨f, .log line hf, rfl⟩
      · exact .inr ⟨a, es₁, es₂, line :: l₁, l₂, .log line h₁, h₂, rfl, rfl⟩
    | call request next ih =>
      rcases h with _ | _ | ⟨_, reply, h⟩
      rcases ih reply h with ⟨f, hf, rfl⟩ | ⟨a, es₁, es₂, l₁, l₂, h₁, h₂, rfl, rfl⟩
      · exact .inl ⟨f, .call request reply hf, rfl⟩
      · exact .inr ⟨a, ⟨request, reply⟩ :: es₁, es₂, l₁, l₂, .call request reply h₁, h₂, rfl, rfl⟩
  · rintro (⟨f, h, rfl⟩ | ⟨a, es₁, es₂, l₁, l₂, h₁, h₂, rfl, rfl⟩)
    · generalize hr : (Except.error f : Except Failure α) = r at h
      induction h with
      | done => subst hr; exact .done _
      | log line h ih => exact .log line (ih hr)
      | call request reply h ih => exact .call request reply (ih hr)
    · generalize hr : (Except.ok a : Except Failure α) = r at h₁
      induction h₁ with
      | done => subst hr; exact h₂
      | log line h ih => exact .log line (ih hr)
      | call request reply h ih => exact .call request reply (ih hr)

/-- A sequence that begins with telling of something goes on with its second part. -/
theorem course_tell_bind {source : Source} {text : String} {k : Unit → Program β}
    {es : List Exchange} {lines : List LogLine} {result : Except Failure β} :
    Course (tell source text >>= k) es lines result ↔
      ∃ rest, Course (k ()) es rest result ∧
        lines = { level := .info, source, text } :: rest := by
  rw [course_bind]
  constructor
  · rintro (⟨f, h, -⟩ | ⟨_, es₁, es₂, lines₁, lines₂, h₁, h₂, rfl, rfl⟩)
    · rw [course_tell] at h
      cases h.2.2
    · obtain ⟨rfl, rfl, -⟩ := course_tell.1 h₁
      exact ⟨lines₂, h₂, rfl⟩
  · rintro ⟨rest, h, rfl⟩
    exact .inr ⟨(), [], es, [_], rest, course_tell.2 ⟨rfl, rfl, rfl⟩, h, rfl, rfl⟩

/-- A sequence that begins with a request ends with it when it fails, and goes on with the reply
otherwise. -/
theorem course_ask_bind {request : Request} {k : request.Reply → Program β} {es : List Exchange}
    {lines : List LogLine} {result : Except Failure β} :
    Course (ask request >>= k) es lines result ↔
      (∃ f, es = [⟨request, .error f⟩] ∧ lines = [] ∧ result = .error f) ∨
      ∃ reply rest, Course (k reply) rest lines result ∧ es = ⟨request, .ok reply⟩ :: rest := by
  rw [course_bind]
  constructor
  · rintro (⟨f, h, rfl⟩ | ⟨reply, es₁, es₂, lines₁, lines₂, h₁, h₂, rfl, rfl⟩)
    · obtain ⟨rfl, rfl⟩ := course_ask.1 h
      exact .inl ⟨f, rfl, rfl, rfl⟩
    · obtain ⟨rfl, rfl⟩ := course_ask.1 h₁
      exact .inr ⟨reply, es₂, h₂, rfl⟩
  · rintro (⟨f, rfl, rfl, rfl⟩ | ⟨reply, rest, h, rfl⟩)
    · exact .inl ⟨f, course_ask.2 ⟨rfl, rfl⟩, rfl⟩
    · exact .inr ⟨reply, [_], rest, [], lines, course_ask.2 ⟨rfl, rfl⟩, h, rfl, rfl⟩

/-- The line in which a program tells of its failure, if it fails and does not crash. -/
def complaint (source : Source) (text : Failure → String) : Except Failure α → List LogLine
  | .ok _ => []
  | .error f => if f.isCrash then [] else [⟨.error, source, text f⟩]

/-- A program that has failed and tells of its failure has one course. -/
theorem course_complain_error {source : Source} {text : Failure → String} {f : Failure}
    {es : List Exchange} {lines : List LogLine} {result : Except Failure α} :
    Course (complain source text (.done (.error f) : Program α)) es lines result ↔
      es = [] ∧ lines = complaint source text (.error f : Except Failure α) ∧
        result = .error f := by
  have hlines : complaint source text (.error f : Except Failure α) =
      if f.isCrash then [] else [⟨.error, source, text f⟩] := rfl
  rw [hlines]
  unfold complain
  split
  · exact course_fail
  · constructor
    · intro h
      rcases h with _ | ⟨_, h⟩ | _
      cases h
      exact ⟨rfl, rfl, rfl⟩
    · rintro ⟨rfl, rfl, rfl⟩
      exact .log _ (.done _)

/-- A program that tells of its failure does so at its end. -/
theorem course_complain {source : Source} {text : Failure → String} {p : Program α}
    {es : List Exchange} {lines : List LogLine} {result : Except Failure α} :
    Course (p.complain source text) es lines result ↔
      ∃ own, Course p es own result ∧ lines = own ++ complaint source text result := by
  constructor
  · intro h
    induction p generalizing es lines with
    | done r =>
      rcases r with f | a
      · obtain ⟨rfl, rfl, rfl⟩ := course_complain_error.1 h
        exact ⟨[], .done _, rfl⟩
      · cases h
        exact ⟨[], .done _, rfl⟩
    | log line next ih =>
      rcases h with _ | ⟨_, h⟩ | _
      obtain ⟨own, ho, rfl⟩ := ih h
      exact ⟨line :: own, .log line ho, rfl⟩
    | call request next ih =>
      rcases h with _ | _ | ⟨_, reply, h⟩
      obtain ⟨own, ho, rfl⟩ := ih reply h
      exact ⟨own, .call request reply ho, rfl⟩
  · rintro ⟨own, h, rfl⟩
    induction h with
    | done r =>
      rcases r with f | a
      · exact course_complain_error.2 ⟨rfl, rfl, rfl⟩
      · exact .done _
    | log line h ih => exact .log line ih
    | call request reply h ih => exact .call request reply ih

end Program

/-! ## Looking for a marker -/

/-- The courses that begin with looking for a marker in a thread. They end there when the
comments are not to be had or the marker is found, and leave something as done before only when
it is found. -/
inductive LooksFor (m : Marker) (repository : Repository) (number : UInt64) :
    List Exchange → Except Failure Outcome → Prop
  /-- The comments are not to be had. -/
  | unlisted {f : Failure} :
      LooksFor m repository number [⟨.comments repository number, .error f⟩] (.error f)
  /-- The marker is found. -/
  | found {comments : List Comment} (hmark : m.isIn comments = true) :
      LooksFor m repository number [⟨.comments repository number, .ok comments⟩]
        (.ok (.skipped .alreadyCommented))
  /-- The marker is not found. -/
  | absent {comments : List Comment} {rest : List Exchange} {result : Except Failure Outcome}
      (hmark : m.isIn comments = false) (hresult : result ≠ .ok (.skipped .alreadyCommented)) :
      LooksFor m repository number (⟨.comments repository number, .ok comments⟩ :: rest) result

end IssueSteward
