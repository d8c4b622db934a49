import IssueSteward.Program
import IssueSteward.Rest.Library

/-!
# The tracker behind an API

A client makes requests to an issue tracker by calls of its API. Comments come in pages, which are
called for one after the other until one is empty or names none that follows; every other request
takes one call. A request fails with the first of its calls that fails.
-/

namespace IssueSteward.Rest

open Decimal

/-- A client of an API: a library, and what it made the client of. -/
structure Client where
  /-- The library. -/
  library : Library
  /-- What the client is made of. -/
  connection : Connection

/-- The network that a client uses and the messages that arrived there. -/
structure Wire where
  /-- The network. -/
  network : Network
  /-- The messages, in the order in which they arrived. -/
  sent : List Message := []

/-- A wire after what came of a call. -/
def Wire.after {call : Call} (w : Wire) (p : Performed call) : Wire :=
  ⟨p.network, w.sent ++ p.sent⟩

/-- The failure in a context in which a call gave no value. A crash leaves every context. -/
def Mishap.within (context : String → Failure) : Mishap → Failure
  | .failure cause => context cause
  | .crash words => .crashed words

namespace Client

/-- What comes of a call over a wire. -/
def perform (c : Client) (call : Call) (w : Wire) : Performed call :=
  c.library.perform c.connection call w.network

/-- The number of comments on a page: `PER_PAGE`. -/
def perPage : UInt8 := 100

/-- A pull request as the API gives it, which is open unless it says that it is closed:
`convert_pull_request`. -/
def ofPull (item : PullItem) : PullRequest where
  number := item.number
  body := item.body
  state := if item.state = some .closed then .closed else .opened
  user := item.user

/-- A comment as a page gives it: `convert_comment`. -/
def ofItem (item : User × Option String) : Comment := ⟨item.2, some item.1⟩

/-- Whether a listing goes on after a page. -/
def goesOn (page : Page) : Bool := page.hasNext && !page.items.isEmpty

/-- The comments on the pages from the given one on: the loop of `list_comments`. The count of the
pages wraps around. -/
def pages (c : Client) (repository : Repository) (number : UInt64) (page : UInt32) (w : Wire) :
    Except Failure (List Comment) × Wire :=
  let p := c.perform (.page repository number perPage page) w
  match _hp : p.result with
  -- The first page that cannot be had ends the listing, whatever came before it.
  | .error mishap => (.error (mishap.within (.notListed repository number page)), w.after p)
  | .ok (found : Page) =>
    if goesOn found then
      let (rest, w) := c.pages repository number (page + 1) (w.after p)
      (rest.map (found.items.map ofItem ++ ·), w)
    else (.ok (found.items.map ofItem), w.after p)
termination_by w.network.left
decreasing_by exact c.library.progress _hp

section

variable {c : Client} {repository : Repository} {number : UInt64} {page : UInt32} {w : Wire}

/-- The first page that cannot be had ends the listing. -/
theorem pages_of_error {mishap : Mishap}
    (h : (c.perform (.page repository number perPage page) w).result = .error mishap) :
    c.pages repository number page w =
      (.error (mishap.within (.notListed repository number page)),
        w.after (c.perform (.page repository number perPage page) w)) := by
  rw [pages]
  split
  · rename_i hp
    rw [Except.error.inj (h.symm.trans hp)]
  · rename_i hp
    cases h.symm.trans hp

/-- A page that is had ends the listing, or the listing goes on after it. -/
theorem pages_of_ok {found : Page}
    (h : (c.perform (.page repository number perPage page) w).result = .ok found) :
    c.pages repository number page w =
      let w := w.after (c.perform (.page repository number perPage page) w)
      if goesOn found then
        ((c.pages repository number (page + 1) w).1.map (found.items.map ofItem ++ ·),
          (c.pages repository number (page + 1) w).2)
      else (.ok (found.items.map ofItem), w) := by
  rw [pages]
  split
  · rename_i hp
    cases h.symm.trans hp
  · rename_i found' hp
    rw [Except.ok.inj (h.symm.trans hp)]

end

/-- A detail that a client logs. -/
def detail (text : String) : LogLine := { level := .debug, source := .client, text }

/-- The line that a client logs when it has all comments of a thread. -/
def listedLine (repository : Repository) (number : UInt64) (count : Nat) : LogLine :=
  detail ("Fetched " ++ numeral count ++ " comments for " ++ itemName repository number)

/-- The line that a client logs before it asks for a pull request. -/
def fetchLine (repository : Repository) (number : UInt64) : LogLine :=
  detail ("Fetching pull request " ++ itemName repository number)

/-- A pull request: `get_pull_request`. -/
def getPullRequest (c : Client) (repository : Repository) (number : UInt64) (w : Wire) :
    Program.Answer Wire (.pullRequest repository number) :=
  let p := c.perform (.pull repository number) w
  { reply := match p.result with
      | .ok (item : PullItem) => .ok (ofPull item)
      | .error mishap => .error (mishap.within (.notFetched repository number))
    lines := [fetchLine repository number]
    state := w.after p }

/-- All comments of a thread: `list_comments`. -/
def listComments (c : Client) (repository : Repository) (number : UInt64) (w : Wire) :
    Program.Answer Wire (.comments repository number) :=
  let (result, w) := c.pages repository number 1 w
  { reply := result
    lines := match result with
      | .ok comments => [listedLine repository number comments.length]
      | .error _ => []
    state := w }

/-- Posts a comment: `create_comment`. -/
def createComment (c : Client) (repository : Repository) (number : UInt64) (body : String)
    (w : Wire) : Program.Answer Wire (.comment repository number body) :=
  let p := c.perform (.comment repository number body) w
  { reply := p.result.mapError (Mishap.within (.notPosted repository number))
    lines := []
    state := w.after p }

/-- Takes an issue away from a user: `remove_assignee`. -/
def removeAssignee (c : Client) (repository : Repository) (number : UInt64) (login : String)
    (w : Wire) : Program.Answer Wire (.unassign repository number login) :=
  let p := c.perform (.unassign repository number [login]) w
  { reply := p.result.mapError (Mishap.within (.notUnassigned repository number login))
    lines := []
    state := w.after p }

/-- What a client does on a request: `OctocrabTracker`. -/
def answer (c : Client) : Program.Tracker Wire := fun request w =>
  match request with
  | .pullRequest repository number => c.getPullRequest repository number w
  | .comments repository number => c.listComments repository number w
  | .comment repository number body => c.createComment repository number body w
  | .unassign repository number login => c.removeAssignee repository number login w

end Client

end IssueSteward.Rest
