import IssueSteward.Board
import IssueSteward.Reminder
import IssueSteward.Unassignment

/-!
# Sessions

A session is a list of steps over one board: comments and pull requests come in, requests start or
stop being refused, and the services run on the payloads of events. Each step has an answer; that of
a service tells how it ended, the requests that it made and the lines that it logged.
-/

namespace IssueSteward

namespace Session

/-- A step of a session. -/
inductive Step where
  /-- The services act in another context from now on. -/
  | context (ctx : Context)
  /-- The board refuses requests of a kind from now on, or grants them again. -/
  | refuse (operation : Operation) (message : Option String)
  /-- The pull request that a text describes is stored. -/
  | pull (text : String)
  /-- Someone comments on a thread. -/
  | comment (number : UInt64) (comment : Comment)
  /-- A thread is looked at. -/
  | thread (number : UInt64)
  /-- The reminder service runs on the contents of a payload file, perhaps with a number. -/
  | remind (file : Option ByteArray) (number : Option UInt64)
  /-- The unassignment service runs on the contents of a payload file. -/
  | unassign (file : Option ByteArray)
  /-- The pull request that a text describes is checked for a reminder. -/
  | notify (text : String)
  /-- The pull request that a reminder would look at is found. -/
  | resolve (file : Option ByteArray) (number : Option UInt64)

/-- Why a service did not end in a value. -/
inductive Problem where
  /-- Its payload was not loaded. -/
  | load (fault : Payload.LoadFault)
  /-- It failed. -/
  | failure (failure : Failure)
deriving DecidableEq, Repr

/-- How a service ended in a step. -/
structure Report (α : Type) where
  /-- The value in which it ended, or why there is none. -/
  result : Except Problem α
  /-- The requests that it made. -/
  calls : List Request
  /-- The lines that it logged. -/
  logs : List LogLine

/-- The answer of a step. -/
inductive Answer where
  /-- Nothing is to be told. -/
  | nothing
  /-- The repository in which the services act. -/
  | repository (repository : Repository)
  /-- A text describes no pull request. -/
  | rejected (fault : Payload.Fault)
  /-- The comments of a thread. -/
  | thread (comments : List Comment)
  /-- The end of a service. -/
  | outcome (report : Report Outcome)
  /-- The pull request that a reminder would look at. -/
  | resolved (report : Report PullRequest)

/-- What a session has come to. -/
structure State where
  /-- Where the services act. -/
  ctx : Context
  /-- The issue tracker. -/
  board : Board := {}

/-- Carries out the program that a loaded payload makes. -/
def State.carryOut {ε α : Type} (s : State) (loaded : Except Payload.LoadFault ε)
    (program : ε → Program α) : Report α × State :=
  match loaded with
  | .error fault => (⟨.error (.load fault), [], []⟩, s)
  | .ok event =>
    let r := (program event).run Board.answer s.board
    (⟨r.result.mapError .failure, r.calls, r.logs⟩, { s with board := r.state })

/-- A pull request that a text describes. -/
def loadPull (text : String) : Except Payload.LoadFault PullRequest :=
  (Payload.pullRequest.decode text).mapError .refused

/-- Takes a step. -/
def State.step (s : State) : Step → Answer × State
  | .context ctx => (.repository ctx.repository, { s with ctx := ctx })
  | .refuse operation message => (.nothing, { s with board := s.board.refuse operation message })
  | .pull text =>
    match Payload.pullRequest.decode text with
    | .ok pr => (.nothing, { s with board := s.board.addPull pr })
    | .error fault => (.rejected fault, s)
  | .comment number comment => (.nothing, { s with board := s.board.addComment number comment })
  | .thread number => (.thread (s.board.thread number), s)
  | .remind file number =>
    let (report, s) := s.carryOut (Payload.load Payload.pullRequestEvent file) fun event =>
      Reminder.run s.ctx event number
    (.outcome report, s)
  | .unassign file =>
    let (report, s) := s.carryOut (Payload.load Payload.issueCommentEvent file) fun event =>
      Unassignment.run s.ctx event
    (.outcome report, s)
  | .notify text =>
    let (report, s) := s.carryOut (loadPull text) fun pr => Reminder.notify s.ctx pr
    (.outcome report, s)
  | .resolve file number =>
    let (report, s) := s.carryOut (Payload.load Payload.pullRequestEvent file) fun event =>
      Reminder.resolve s.ctx event number
    (.resolved report, s)

/-- Takes steps one after the other and gives their answers. -/
def State.run (s : State) : List Step → List Answer × State
  | [] => ([], s)
  | step :: steps =>
    let (answer, s) := s.step step
    let (answers, s) := s.run steps
    (answer :: answers, s)

end Session

end IssueSteward
