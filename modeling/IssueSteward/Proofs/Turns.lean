import IssueSteward.Proofs.Once
import Mathlib.Logic.Function.Basic

/-!
# Programs that take turns

Several programs may be carried out over one board at the same time. Whose turn it is writes its
next line or makes its next request, and in between the others may have changed the threads
(`Joint`). A program that minds nothing in a thread but whether a marker stands there (`Heeds`) does
not notice others that never post this marker (`Spares`): `Joint.undisturbed_turn` says that a turn,
whoever has it, leaves such a program as far `Ahead` as it is alone, and `Joint.undisturbed_turns`
that so does every schedule. `Joint.board_of_turns` says what the board has become, and
`Joint.exists_turns_results` that every program comes to its end when it gets enough turns.
-/

namespace IssueSteward

open Program

/-! ## Boards that differ in their comments -/

/-- Two replies to a request say the same as far as a marker goes: the comments of a thread may
differ as long as the marker stands in both or in neither. -/
def Request.Alike (m : Marker) :
    (request : Request) → Except Failure request.Reply → Except Failure request.Reply → Prop
  | .comments _ _, .ok listed, .ok others => m.isIn listed = m.isIn others
  | _, reply, other => reply = other

/-- A reply says the same as itself. -/
theorem Request.Alike.refl (m : Marker) (request : Request) (reply : Except Failure request.Reply) :
    request.Alike m reply reply := by
  cases request with
  | comments r n => cases reply <;> rfl
  | _ => rfl

/-- An exchange adds the same comments whatever the reply is, as far as a marker goes. -/
theorem Request.Alike.added_eq {m : Marker} {request : Request}
    {reply other : Except Failure request.Reply} (h : request.Alike m reply other) :
    Exchange.added ⟨request, reply⟩ = Exchange.added ⟨request, other⟩ := by
  cases request with
  | comments r n => rfl
  | _ => exact congrArg (fun x => Exchange.added ⟨_, x⟩) h

namespace Board

variable {m : Marker} {b c d : Board}

/-- The board with some more comments, each with the number of its thread. -/
def post (b : Board) (posts : List (UInt64 × Comment)) : Board :=
  { b with posts := b.posts ++ posts }

/-- Two boards agree as far as a marker goes: they hold the same pull requests and refuse the same
requests, and the marker stands in the same threads. -/
structure Agree (m : Marker) (b c : Board) : Prop where
  /-- They hold the same pull requests. -/
  pulls : b.pulls = c.pulls
  /-- They refuse the same requests. -/
  refusals : b.refusals = c.refusals
  /-- The marker stands in a thread of both or of neither. -/
  marked : ∀ n, m.isIn (b.thread n) = m.isIn (c.thread n)

/-- Posting no comments changes nothing. -/
theorem post_nil (b : Board) : b.post [] = b := by
  simp only [post, List.append_nil]

/-- Posting comments and then others is posting both. -/
theorem post_post (b : Board) (posts others : List (UInt64 × Comment)) :
    (b.post posts).post others = b.post (posts ++ others) := by
  simp only [post, List.append_assoc]

/-- A request changes a board by the comment that the exchange adds. -/
theorem answer_state_eq_post (request : Request) (b : Board) :
    (answer request b).state = b.post (Exchange.added ⟨request, (answer request b).reply⟩) :=
  answer_state request b

/-- A marker stands in a thread when it did before more comments were posted, or when one of these
bears it. -/
theorem isIn_thread_post (m : Marker) (b : Board) (posts : List (UInt64 × Comment)) (n : UInt64) :
    m.isIn ((b.post posts).thread n) =
      (m.isIn (b.thread n) || m.isIn ((posts.filter fun post => post.1 == n).map Prod.snd)) := by
  unfold post thread
  rw [List.filter_append, List.map_append, Marker.isIn_append]

/-- Boards that agree still do when the same comments are posted on both. -/
theorem Agree.post (h : b.Agree m c) (posts : List (UInt64 × Comment)) :
    (b.post posts).Agree m (c.post posts) where
  pulls := h.pulls
  refusals := h.refusals
  marked n := by rw [isIn_thread_post, isIn_thread_post, h.marked]

/-- Boards that agree still do when comments without the marker are posted on one of them. -/
theorem Agree.post_left (h : b.Agree m c) {posts : List (UInt64 × Comment)}
    (hposts : ∀ post ∈ posts, m.isIn [post.2] = false) : (b.post posts).Agree m c where
  pulls := h.pulls
  refusals := h.refusals
  marked n := by
    have hnone : m.isIn ((posts.filter fun post => post.1 == n).map Prod.snd) = false := by
      rw [Bool.eq_false_iff]
      intro hmark
      obtain ⟨comment, hmem, body, hbody, hin⟩ := Marker.isIn_iff.1 hmark
      obtain ⟨post, hpost, rfl⟩ := List.mem_map.1 hmem
      have hbears := Marker.isIn_iff.2 ⟨_, List.mem_singleton.2 rfl, body, hbody, hin⟩
      rw [hposts post (List.mem_filter.1 hpost).1] at hbears
      cases hbears
    rw [isIn_thread_post, hnone, Bool.or_false, h.marked]

/-- Boards that agree reply to a request alike. -/
theorem Agree.answer_reply (h : b.Agree m c) (request : Request) :
    request.Alike m (answer request b).reply (answer request c).reply := by
  unfold answer
  rw [h.refusals]
  split
  · exact .refl ..
  · cases request with
    | pullRequest r n =>
      have hpull : b.pull? n = c.pull? n := by
        unfold pull?
        rw [h.pulls]
      simp only [grant, hpull]
      split <;> rfl
    | comments r n => exact h.marked n
    | comment r n body => rfl
    | unassign r n login => rfl

/-- Boards that agree still do after a request to both. -/
theorem Agree.answer_state (h : b.Agree m c) (request : Request) :
    (answer request b).state.Agree m (answer request c).state := by
  rw [answer_state_eq_post, answer_state_eq_post, (h.answer_reply request).added_eq]
  exact h.post _

end Board

/-! ## Programs that do not notice each other -/

namespace Program

variable {α β : Type} {m : Marker} {b c : Board}

/-- A program minds nothing in a thread but whether a marker stands there. -/
inductive Heeds (m : Marker) : Program α → Prop
  /-- At its end it minds nothing. -/
  | done (result : Except Failure α) : Heeds m (.done result)
  /-- It writes a line and goes on. -/
  | log (line : LogLine) {next : Program α} (h : Heeds m next) : Heeds m (.log line next)
  /-- It makes a request and goes on in the same way after replies that say the same. -/
  | call (request : Request) {next : Except Failure request.Reply → Program α}
      (hsame : ∀ reply other, request.Alike m reply other → next reply = next other)
      (h : ∀ reply, Heeds m (next reply)) : Heeds m (.call request next)

/-- A program that tells of its failure minds what it minds otherwise. -/
theorem Heeds.complain {p : Program α} (h : p.Heeds m) (source : Source)
    (text : Failure → String) : (p.complain source text).Heeds m := by
  induction h with
  | done result =>
    rcases result with f | a
    · unfold Program.complain
      split
      · exact .done _
      · exact .log _ (.done _)
    · exact .done _
  | log line _ ih => exact .log line ih
  | call request hsame _ ih =>
    exact .call request (fun reply other halike => by rw [hsame reply other halike]) ih

/-- A sequence minds what both of its parts mind. -/
theorem Heeds.bind {p : Program α} {k : α → Program β} (h : p.Heeds m) (hk : ∀ a, (k a).Heeds m) :
    (p >>= k).Heeds m := by
  induction h with
  | done result =>
    rcases result with f | a
    · exact .done _
    · exact hk a
  | log line _ ih => exact .log line ih
  | call request hsame _ ih =>
    exact .call request (fun reply other halike => by rw [hsame reply other halike]) ih

/-- A sequence that begins with a request minds nothing but the marker if it goes on in the same way
after values that say the same. -/
theorem heeds_ask_bind {request : Request} {k : request.Reply → Program β}
    (hsame : ∀ a a', request.Alike m (.ok a) (.ok a') → k a = k a') (hk : ∀ a, (k a).Heeds m) :
    (ask request >>= k).Heeds m := by
  refine .call request (fun reply other halike => ?_) (fun reply => ?_)
  · rcases reply with f | a
    · rcases other with f' | a'
      · cases request <;> cases halike <;> rfl
      · cases request <;> cases halike
    · rcases other with f' | a'
      · cases request <;> cases halike
      · exact hsame a a' halike
  · rcases reply with f | a
    · exact .done _
    · exact hk a

/-- Telling of something minds nothing. -/
theorem heeds_tell (source : Source) (text : String) : (tell source text).Heeds m :=
  .log _ (.done _)

end Program

/-- An exchange is one that a board may have: a pull request is the stored one of its number. -/
def Exchange.Fits (b : Board) : Exchange → Prop
  | ⟨.pullRequest _ number, .ok pr⟩ => b.pull? number = some pr
  | _ => True

/-- Which exchanges a board may have depends on its pull requests alone. -/
theorem Exchange.Fits.congr {b c : Board} (h : b.pulls = c.pulls) {e : Exchange} (he : e.Fits b) :
    e.Fits c := by
  obtain ⟨request, reply⟩ := e
  cases request with
  | pullRequest r n =>
    rcases reply with f | pr
    · trivial
    · change c.pull? n = some pr
      unfold Board.pull?
      rw [← h]
      exact he
  | _ => trivial

namespace Program

variable {α : Type} {m : Marker} {b c : Board}

/-- The exchanges of a run over a board are ones that the board may have. -/
theorem fits_of_answers {es : List Exchange} (h : Answers Board.answer b es c) :
    ∀ e ∈ es, e.Fits b := by
  induction es generalizing b with
  | nil => simp
  | cons e es ih =>
    obtain ⟨hreply, hrest⟩ := h
    have hpulls : (Board.answer e.request b).state.pulls = b.pulls := by rw [Board.answer_state]
    intro x hx
    rcases List.mem_cons.1 hx with rfl | hx
    · obtain ⟨request, reply⟩ := x
      cases request with
      | pullRequest r n =>
        rcases reply with f | pr
        · trivial
        · exact (Board.answer_pullRequest_eq_ok.1 hreply).2
      | _ => trivial
    · exact (ih hrest x hx).congr hpulls

/-- A program adds no comment that bears a marker, whatever a board replies that holds the pull
requests of the given one. -/
def Spares (m : Marker) (b : Board) (p : Program α) : Prop :=
  ∀ es lines result, Course p es lines result → (∀ e ∈ es, e.Fits b) →
    ∀ post ∈ es.flatMap Exchange.added, m.isIn [post.2] = false

/-- What a program adds depends on the pull requests of a board alone. -/
theorem Spares.congr {p : Program α} (h : p.Spares m b) (hpulls : b.pulls = c.pulls) :
    p.Spares m c :=
  fun es lines result hcourse hfits =>
    h es lines result hcourse fun e he => (hfits e he).congr hpulls.symm

/-! ## Turns -/

/-- What a program does in one turn over a board. -/
structure Turn (α : Type) where
  /-- What it has still to do. -/
  rest : Program α
  /-- The exchange that it had, if it made a request. -/
  exchanges : List Exchange
  /-- The board afterwards. -/
  board : Board

/-- A turn of a program over a board: it writes its next line or makes its next request, and does
nothing at its end. -/
def turn : Program α → Board → Turn α
  | .done result, b => ⟨.done result, [], b⟩
  | .log _ next, b => ⟨next, [], b⟩
  | .call request next, b =>
    let a := Board.answer request b
    ⟨next a.reply, [⟨request, a.reply⟩], a.state⟩

/-- A turn changes a board by the comment that its exchange adds. -/
theorem board_of_turn (p : Program α) (b : Board) :
    (p.turn b).board = b.post ((p.turn b).exchanges.flatMap Exchange.added) := by
  cases p with
  | done result => exact (Board.post_nil b).symm
  | log line next => exact (Board.post_nil b).symm
  | call request next =>
    simp only [turn, List.flatMap_singleton]
    exact Board.answer_state_eq_post request b

/-- A program that spares a marker adds no comment with it in its turn, and spares it afterwards. -/
theorem Spares.turn {p : Program α} (h : p.Spares m b) :
    (∀ post ∈ (p.turn b).exchanges.flatMap Exchange.added, m.isIn [post.2] = false) ∧
      (p.turn b).rest.Spares m (p.turn b).board := by
  cases p with
  | done result => exact ⟨by simp [Program.turn], h⟩
  | log line next =>
    exact ⟨by simp [Program.turn],
      fun es lines result hcourse => h es (line :: lines) result (.log line hcourse)⟩
  | call request next =>
    have hpulls : b.pulls = (Board.answer request b).state.pulls := by rw [Board.answer_state]
    have hfits := fits_of_answers (answers_run Board.answer (.call request next) b)
    have hspared := h _ _ _ (course_run Board.answer (.call request next) b) hfits
    constructor
    · intro post hpost
      refine hspared post ?_
      rw [Program.exchanges, List.flatMap_cons]
      exact List.mem_append_left _ (by simpa [Program.turn] using hpost)
    · intro es lines result hcourse hes post hpost
      refine h _ lines result (.call request _ hcourse) ?_ post ?_
      · intro e he
        rcases List.mem_cons.1 he with rfl | he
        · exact hfits _ List.mem_cons_self
        · exact (hes e he).congr hpulls.symm
      · rw [List.flatMap_cons]
        exact List.mem_append_right _ hpost

/-- A program has come as far as it comes alone. It has had some exchanges over a board that others
use as well, and has something still to do. Alone it would by now have led the board from `b` to
`c`, and there it would go on as it does alone; the two boards differ in nothing that it minds. -/
structure Ahead (m : Marker) (p : Program α) (b : Board) (rest : Program α) (es : List Exchange)
    (board c : Board) : Prop where
  /-- The board that others use as well agrees with the one that the program alone would have. -/
  agree : board.Agree m c
  /-- Alone the program would by now have added what it did add. -/
  posted : c = b.post (es.flatMap Exchange.added)
  /-- Its requests so far, and then those that it would make, are those of its run alone. -/
  calls : es.map Exchange.request ++ (rest.run Board.answer c).calls = (p.run Board.answer b).calls
  /-- It would end as its run alone. -/
  result : (rest.run Board.answer c).result = (p.run Board.answer b).result
  /-- It would lead the board to where its run alone leads. -/
  state : (rest.run Board.answer c).state = (p.run Board.answer b).state
  /-- It minds nothing but the marker. -/
  heeds : rest.Heeds m

variable {p rest : Program α} {es : List Exchange} {board : Board}

/-- Before its first turn a program has come as far as it comes alone. -/
theorem ahead_start (h : p.Heeds m) : Ahead m p b p [] b b where
  agree := ⟨rfl, rfl, fun _ => rfl⟩
  posted := (Board.post_nil b).symm
  calls := rfl
  result := rfl
  state := rfl
  heeds := h

/-- Its own turn leads a program on as it does alone. -/
theorem Ahead.turn (h : Ahead m p b rest es board c) :
    ∃ d, Ahead m p b (rest.turn board).rest (es ++ (rest.turn board).exchanges)
      (rest.turn board).board d := by
  obtain ⟨hagree, hposted, hcalls, hresult, hstate, hheeds⟩ := h
  cases hheeds with
  | done result =>
    refine ⟨c, hagree, ?_, ?_, hresult, hstate, .done _⟩
    · simpa [Program.turn] using hposted
    · simpa [Program.turn] using hcalls
  | log line hnext =>
    refine ⟨c, hagree, ?_, ?_, hresult, hstate, hnext⟩
    · simpa [Program.turn] using hposted
    · simp only [Program.turn, List.append_nil]
      exact hcalls
  | call request hsame hnext =>
    -- the replies of the two boards say the same, so the program goes on in the same way
    have halike := hagree.answer_reply request
    have hgo := hsame _ _ halike
    refine ⟨(Board.answer request c).state, hagree.answer_state request, ?_, ?_, ?_, ?_,
      hnext _⟩
    · simp only [Program.turn, List.flatMap_append, List.flatMap_singleton]
      rw [halike.added_eq, Board.answer_state_eq_post, ← Board.post_post]
      exact congrArg (Board.post · _) hposted
    · simp only [Program.turn, hgo, List.map_append, List.append_assoc]
      exact hcalls
    · simp only [Program.turn, hgo]
      exact hresult
    · simp only [Program.turn, hgo]
      exact hstate

/-- A turn of another program, which spares the marker, makes no difference to a program. -/
theorem Ahead.turn_other {q : Program α} (h : Ahead m p b rest es board c)
    (hq : q.Spares m board) : Ahead m p b rest es (q.turn board).board c := by
  obtain ⟨hagree, hposted, hcalls, hresult, hstate, hheeds⟩ := h
  refine ⟨?_, hposted, hcalls, hresult, hstate, hheeds⟩
  rw [board_of_turn]
  exact hagree.post_left hq.turn.1

end Program

/-! ## Programs that are carried out together -/

/-- Programs that are carried out together over one board. -/
structure Joint (ι α : Type) where
  /-- What each of them has still to do. -/
  rest : ι → Program α
  /-- The board. -/
  board : Board
  /-- The exchanges so far, in order, each with the program that had it. -/
  trace : List (ι × Exchange) := []

namespace Joint

variable {ι α : Type} {m : Marker} {p : Program α} {b : Board} {i k : ι} {j : Joint ι α}

/-- The end of one of the programs, if it is there. -/
def result? (j : Joint ι α) (i : ι) : Option (Except Failure α) :=
  match j.rest i with
  | .done result => some result
  | _ => none

/-- The end of a program is there when it has nothing else to do. -/
theorem result_eq_some_iff {result : Except Failure α} :
    j.result? i = some result ↔ j.rest i = .done result := by
  unfold result?
  split
  · rename_i hrest
    rw [hrest, Option.some.injEq, Program.done.injEq]
  · rename_i hrest
    exact ⟨nofun, fun hdone => absurd hdone (hrest result)⟩

/-- The comments that the programs added, in the order in which they were posted, each with the
number of its thread. -/
def added (j : Joint ι α) : List (UInt64 × Comment) := j.trace.flatMap fun entry => entry.2.added

variable [DecidableEq ι]

/-- The exchanges that one of the programs had. -/
def exchanges (j : Joint ι α) (i : ι) : List Exchange :=
  (j.trace.filter fun entry => entry.1 = i).map Prod.snd

/-- Gives a turn to one of the programs. -/
def turn (j : Joint ι α) (i : ι) : Joint ι α where
  rest := Function.update j.rest i ((j.rest i).turn j.board).rest
  board := ((j.rest i).turn j.board).board
  trace := j.trace ++ ((j.rest i).turn j.board).exchanges.map (i, ·)

/-- Gives turns to the programs of a schedule, one after the other. -/
def turns (j : Joint ι α) (schedule : List ι) : Joint ι α := schedule.foldl turn j

/-- A turn leads on the program whose turn it is. -/
theorem rest_turn_self (j : Joint ι α) (i : ι) :
    (j.turn i).rest i = ((j.rest i).turn j.board).rest := Function.update_self ..

/-- A turn leaves every other program where it is. -/
theorem rest_turn_of_ne (j : Joint ι α) (h : k ≠ i) : (j.turn k).rest i = j.rest i :=
  Function.update_of_ne h.symm ..

/-- The exchange of a turn is one of the program whose turn it is. -/
theorem exchanges_turn_self (j : Joint ι α) (i : ι) :
    (j.turn i).exchanges i = j.exchanges i ++ ((j.rest i).turn j.board).exchanges := by
  unfold exchanges turn
  simp [List.filter_append, List.filter_map, Function.comp_def]

/-- The exchange of a turn is none of another program. -/
theorem exchanges_turn_of_ne (j : Joint ι α) (h : k ≠ i) :
    (j.turn k).exchanges i = j.exchanges i := by
  unfold exchanges turn
  simp [List.filter_append, List.filter_map, Function.comp_def, h]

/-- A turn changes the board by the comment that is added in it. -/
theorem board_of_turn (h : j.board = b.post j.added) (k : ι) :
    (j.turn k).board = b.post (j.turn k).added := by
  unfold turn added at *
  simp only [Program.board_of_turn, List.flatMap_append, List.flatMap_map, h, Board.post_post]

/-- Turns change the board by the comments that are added in them, in order. -/
theorem board_of_turns (h : j.board = b.post j.added) (schedule : List ι) :
    (j.turns schedule).board = b.post (j.turns schedule).added := by
  induction schedule generalizing j with
  | nil => exact h
  | cons k schedule ih => exact ih (board_of_turn h k)

/-- One of the programs has come as far as it comes alone, and the others spare the marker that it
minds. -/
def Undisturbed (m : Marker) (p : Program α) (b : Board) (i : ι) (j : Joint ι α) : Prop :=
  (∃ c, Ahead m p b (j.rest i) (j.exchanges i) j.board c) ∧
    ∀ k, k ≠ i → (j.rest k).Spares m j.board

/-- Whoever has a turn, a program that is not disturbed before is not disturbed afterwards. -/
theorem undisturbed_turn (h : Undisturbed m p b i j) (k : ι) : Undisturbed m p b i (j.turn k) := by
  obtain ⟨⟨c, hahead⟩, hspares⟩ := h
  have hboard : (j.turn k).board = ((j.rest k).turn j.board).board := rfl
  rw [Undisturbed, hboard]
  refine ⟨?_, fun l hl => ?_⟩
  · rcases eq_or_ne k i with rfl | hk
    · rw [rest_turn_self, exchanges_turn_self]
      exact hahead.turn
    · rw [rest_turn_of_ne j hk, exchanges_turn_of_ne j hk]
      exact ⟨c, hahead.turn_other (hspares k hk)⟩
  · rcases eq_or_ne k l with rfl | hk
    · rw [rest_turn_self]
      exact (hspares k hl).turn.2
    · rw [rest_turn_of_ne j hk, Program.board_of_turn]
      exact (hspares l hl).congr rfl

/-- Whatever the schedule is, a program that is not disturbed before is not disturbed afterwards. -/
theorem undisturbed_turns (h : Undisturbed m p b i j) (schedule : List ι) :
    Undisturbed m p b i (j.turns schedule) := by
  induction schedule generalizing j with
  | nil => exact h
  | cons k schedule ih => exact ih (undisturbed_turn h k)

/-- A program that is not disturbed has made the first requests of its run alone. At its end it has
made all of them, has ended in the same way, and has added the same comments. -/
theorem Undisturbed.as_alone (h : Undisturbed m p b i j) :
    (j.exchanges i).map Exchange.request <+: (p.run Board.answer b).calls ∧
      ∀ result, j.result? i = some result →
        (j.exchanges i).map Exchange.request = (p.run Board.answer b).calls ∧
        result = (p.run Board.answer b).result ∧
        (p.run Board.answer b).state = b.post ((j.exchanges i).flatMap Exchange.added) := by
  obtain ⟨⟨c, hahead⟩, -⟩ := h
  refine ⟨⟨_, hahead.calls⟩, fun result hresult => ?_⟩
  obtain ⟨-, hposted, hcalls, hend, hstate, -⟩ := hahead
  rw [result_eq_some_iff.1 hresult] at hcalls hend hstate
  refine ⟨?_, hend, ?_⟩
  · rw [← hcalls]
    exact (List.append_nil _).symm
  · rw [← hstate]
    exact hposted

/-! ### Coming to an end -/

/-- What is at its end stays there, whoever has a turn. -/
theorem result_turn {result : Except Failure α} (h : j.result? i = some result) (k : ι) :
    (j.turn k).result? i = some result := by
  rw [result_eq_some_iff] at h ⊢
  rcases eq_or_ne k i with rfl | hk
  · rw [rest_turn_self, h]
    rfl
  · rw [rest_turn_of_ne j hk, h]

/-- What is at its end stays there, whatever the schedule is. -/
theorem result_turns {result : Except Failure α} (h : j.result? i = some result)
    (schedule : List ι) : (j.turns schedule).result? i = some result := by
  induction schedule generalizing j with
  | nil => exact h
  | cons k schedule ih => exact ih (result_turn h k)

/-- A program comes to its end when it has enough turns. -/
theorem exists_turns_result (j : Joint ι α) (i : ι) :
    ∃ more result, (j.turns more).result? i = some result := by
  -- By induction on what the program has still to do, which gets less with each of its turns.
  induction hrest : j.rest i generalizing j with
  | done result => exact ⟨[], result, result_eq_some_iff.2 hrest⟩
  | log line next ih =>
    obtain ⟨more, result, hresult⟩ := ih (j.turn i) (by rw [rest_turn_self, hrest]; rfl)
    exact ⟨i :: more, result, hresult⟩
  | call request next ih =>
    obtain ⟨more, result, hresult⟩ :=
      ih (Board.answer request j.board).reply (j.turn i) (by rw [rest_turn_self, hrest]; rfl)
    exact ⟨i :: more, result, hresult⟩

/-- Any schedule can be gone on with until each of some programs is at its end. -/
theorem exists_turns_results (j : Joint ι α) (programs : List ι) :
    ∃ more, ∀ i ∈ programs, ∃ result, (j.turns more).result? i = some result := by
  induction programs generalizing j with
  | nil => exact ⟨[], by simp⟩
  | cons k programs ih =>
    obtain ⟨more, result, hresult⟩ := exists_turns_result j k
    obtain ⟨most, hmost⟩ := ih (j.turns more)
    have hturns : j.turns (more ++ most) = (j.turns more).turns most := List.foldl_append ..
    refine ⟨more ++ most, fun i hi => ?_⟩
    rw [hturns]
    rcases List.mem_cons.1 hi with rfl | hi
    · exact ⟨result, result_turns hresult most⟩
    · exact hmost i hi

end Joint

end IssueSteward
