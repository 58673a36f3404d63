import Lakehouse.Failure

/-!
# Worker pools

A pool of workers answers a list of keys. Each worker claims keys one after another from a common
queue, opens a connection when it has none, asks the question that goes with the key, and sends the
answer off. A receiver folds the answers into one result, in the order in which they arrive, and is the
only one that can end a run early.

- `WorkerPool`: the keys, the number of workers, what every call would end with, and the fold. What a
  call ends with may depend on all that happened before it.
- `WorkerPool.turn?`: the next thing that one worker, or the receiver, does in a state. All
  interleavings are sequences of turns.
- `WorkerPool.isOver`, `WorkerPool.ending`: nothing is left to do, and what the run has come to then.
- `WorkerPool.run`: one run to its end; `isOver_run` says that it gets there. `WorkerPool.effort` is
  how much there is still to do at most, and `effort_turn?_lt` says that every turn makes it less.
-/

namespace Lakehouse

/-- What a call ends with: an answer, or breaking off. -/
inductive Outcome (α : Type) where
  | answered (a : Answer α)
  | broke (p : Panic)

/-- Something that happened in a run. Keys go by their index. -/
inductive PoolEvent (C V : Type) where
  | claimed (worker index : Nat)
  | opened (worker index : Nat) (outcome : Outcome C)
  | asked (worker index : Nat) (connection : C) (outcome : Outcome V)
  | sent (worker index : Nat) (answer : Answer V)
  | received (index : Nat) (answer : Answer V)

/-- What a worker is about to do. -/
inductive WorkerPhase (C K V : Type) where
  /-- To claim a key, with the connection that it has. -/
  | idle (connection : Option C)
  /-- To ask for the key at an index, or first to open a connection. -/
  | claimed (index : Nat) (key : K) (connection : Option C)
  /-- To send off the answer for the key at an index. -/
  | sending (index : Nat) (key : K) (answer : Answer V) (connection : Option C)
  /-- Nothing any more. -/
  | finished
  /-- Nothing any more: opening a connection for the key at an index broke off. -/
  | broken (index : Nat) (p : Panic)

/-- The receiver: with a result so far, or stopped by a failure of its own. -/
inductive Receiver (R : Type) where
  | listening (result : R)
  | stopped (f : Failure)

/-- The most connections that are open at a time. -/
def mostConnections : Nat := 128

/-- The number of workers that a wish comes to: zero leaves it open. -/
def workerLimit (wish : Nat) : Nat :=
  if wish = 0 then mostConnections else min wish mostConnections

/-- What a run depends on. -/
structure WorkerPool (C K V R : Type) where
  keys : List K
  /-- How many workers are wished for. -/
  wish : Nat
  /-- What opening a connection ends with, after some events, of which the last comes first. -/
  opening : List (PoolEvent C V) → Outcome C
  /-- What asking for a key over a connection ends with, after some events. -/
  asking : List (PoolEvent C V) → C → K → Outcome V
  /-- The result before any answer. -/
  start : R
  /-- The result with one more answer. -/
  fold : R → K → Answer V → Answer R

/-- Where a run stands. -/
structure PoolState (C K V R : Type) where
  /-- The index of the next key to be claimed. -/
  next : Nat
  workers : List (WorkerPhase C K V)
  /-- Answers sent and not yet received, the oldest first. -/
  queue : List (Nat × K × Answer V)
  receiver : Receiver R
  /-- All that happened so far, the last first. -/
  events : List (PoolEvent C V)

/-- Who does the next thing. -/
inductive Turn where
  | worker (w : Nat)
  | receiver
  deriving DecidableEq, Repr

/-- What a run comes to. -/
inductive Ending (R : Type) where
  | complete (result : R)
  | failed (f : Failure)
  | broke (p : Panic)

namespace WorkerPool

variable {C K V R : Type}

/-- How many workers there are: no more than keys. -/
def workerCount (p : WorkerPool C K V R) : Nat :=
  min (workerLimit p.wish) p.keys.length

/-- Where a run begins. -/
def init (p : WorkerPool C K V R) : PoolState C K V R where
  next := 0
  workers := List.replicate p.workerCount (.idle none)
  queue := []
  receiver := .listening p.start
  events := []

/-- A worker claims the next key, or finds that there is none left. -/
def claim (p : WorkerPool C K V R) (s : PoolState C K V R) (w : Nat) (connection : Option C) :
    PoolState C K V R :=
  match p.keys[s.next]? with
  | some key =>
    { s with
      next := s.next + 1
      workers := s.workers.set w (.claimed s.next key connection)
      events := .claimed w s.next :: s.events }
  | none => { s with workers := s.workers.set w .finished }

/-- A worker without a connection opens one. A failure to open is the answer for the key. -/
def openConnection (p : WorkerPool C K V R) (s : PoolState C K V R) (w i : Nat) (key : K) :
    PoolState C K V R :=
  let outcome := p.opening s.events
  let phase :=
    match outcome with
    | .answered (.ok c) => .claimed i key (some c)
    | .answered (.error f) => .sending i key (.error f) none
    | .broke panic => .broken i panic
  { s with workers := s.workers.set w phase, events := .opened w i outcome :: s.events }

/-- A worker asks for its key. When the call breaks off, the connection may be halfway through a
request and is given up. -/
def ask (p : WorkerPool C K V R) (s : PoolState C K V R) (w i : Nat) (key : K) (c : C) :
    PoolState C K V R :=
  let outcome := p.asking s.events c key
  let phase :=
    match outcome with
    | .answered a => .sending i key a (some c)
    | .broke panic => .sending i key (.error panic.toFailure) none
  { s with workers := s.workers.set w phase, events := .asked w i c outcome :: s.events }

/-- A worker sends off an answer, or finds that the receiver has stopped. -/
def send (s : PoolState C K V R) (w i : Nat) (key : K) (a : Answer V) (connection : Option C) :
    PoolState C K V R :=
  match s.receiver with
  | .listening _ =>
    { s with
      workers := s.workers.set w (.idle connection)
      queue := s.queue ++ [(i, key, a)]
      events := .sent w i a :: s.events }
  | .stopped _ => { s with workers := s.workers.set w .finished }

/-- A worker's turn. -/
def workerTurn? (p : WorkerPool C K V R) (s : PoolState C K V R) (w : Nat) :
    Option (PoolState C K V R) :=
  match s.workers[w]? with
  | some (.idle connection) => some (p.claim s w connection)
  | some (.claimed i key none) => some (p.openConnection s w i key)
  | some (.claimed i key (some c)) => some (p.ask s w i key c)
  | some (.sending i key a connection) => some (send s w i key a connection)
  | some .finished | some (.broken ..) | none => none

/-- The receiver's turn. When its fold fails it stops listening, and what has been sent is lost. -/
def receiverTurn? (p : WorkerPool C K V R) (s : PoolState C K V R) : Option (PoolState C K V R) :=
  match s.receiver, s.queue with
  | .listening result, (i, key, a) :: rest =>
    let events := .received i a :: s.events
    match p.fold result key a with
    | .ok result => some { s with receiver := .listening result, queue := rest, events }
    | .error f => some { s with receiver := .stopped f, queue := [], events }
  | _, _ => none

/-- The next thing that one participant does, if there is one. -/
def turn? (p : WorkerPool C K V R) (s : PoolState C K V R) : Turn → Option (PoolState C K V R)
  | .worker w => p.workerTurn? s w
  | .receiver => p.receiverTurn? s

/-- The worker does nothing any more. -/
def isDone : WorkerPhase C K V → Bool
  | .finished | .broken .. => true
  | _ => false

/-- What the first broken worker broke off with. -/
def firstBroken? : List (WorkerPhase C K V) → Option Panic
  | [] => none
  | .broken _ panic :: _ => some panic
  | _ :: rest => firstBroken? rest

/-- The receiver has stopped, or every worker is done and every answer received. -/
def isOver (s : PoolState C K V R) : Bool :=
  match s.receiver with
  | .stopped _ => true
  | .listening _ => s.queue.isEmpty && s.workers.all isDone

/-- What a run that is over has come to: the receiver's failure, or else what the first broken worker
broke off with, or else the result. -/
def ending (s : PoolState C K V R) : Ending R :=
  match s.receiver, firstBroken? s.workers with
  | .stopped f, _ => .failed f
  | .listening _, some panic => .broke panic
  | .listening result, none => .complete result

/-! ### Every run ends -/

/-- The most turns that a worker still has ahead of it, apart from further keys. -/
def phaseEffort : WorkerPhase C K V → Nat
  | .idle _ => 1
  | .claimed _ _ none => 5
  | .claimed _ _ (some _) => 4
  | .sending .. => 3
  | .finished | .broken .. => 0

/-- A number for each worker, added up over some workers. -/
def tally (count : WorkerPhase C K V → Nat) : List (WorkerPhase C K V) → Nat
  | [] => 0
  | phase :: rest => count phase + tally count rest

/-- The most turns that a run still has ahead of it. -/
def effort (p : WorkerPool C K V R) (s : PoolState C K V R) : Nat :=
  6 * (p.keys.length - s.next) + tally phaseEffort s.workers + s.queue.length

/-- When one worker goes on to another phase, the sum changes by the difference of the two. -/
theorem tally_set {workers : List (WorkerPhase C K V)} {w : Nat} {old : WorkerPhase C K V}
    (count : WorkerPhase C K V → Nat) (new : WorkerPhase C K V) (h : workers[w]? = some old) :
    tally count (workers.set w new) + count old = tally count workers + count new := by
  induction workers generalizing w with
  | nil => simp at h
  | cons first rest ih =>
    cases w with
    | zero =>
      obtain rfl : first = old := by simpa using h
      simp only [List.set_cons_zero, tally]
      omega
    | succ w =>
      have := ih (by simpa using h)
      simp only [List.set_cons_succ, tally]
      omega

theorem effort_claim_lt {p : WorkerPool C K V R} {s : PoolState C K V R} {w : Nat}
    {connection : Option C} (hw : s.workers[w]? = some (.idle connection)) :
    p.effort (p.claim s w connection) < p.effort s := by
  simp only [claim, effort]
  split
  · next key hkey =>
    obtain ⟨hlt, -⟩ := List.getElem?_eq_some_iff.1 hkey
    have := tally_set phaseEffort (.claimed s.next key connection) hw
    cases connection <;> simp only [phaseEffort] at this ⊢ <;> omega
  · have := tally_set phaseEffort .finished hw
    simp only [phaseEffort] at this ⊢
    omega

theorem effort_openConnection_lt {p : WorkerPool C K V R} {s : PoolState C K V R} {w i : Nat}
    {key : K} (hw : s.workers[w]? = some (.claimed i key none)) :
    p.effort (p.openConnection s w i key) < p.effort s := by
  simp only [openConnection, effort]
  split
  · next c _ =>
    have := tally_set phaseEffort (.claimed i key (some c)) hw
    simp only [phaseEffort] at this ⊢
    omega
  · next f _ =>
    have := tally_set phaseEffort (.sending i key (.error f) none) hw
    simp only [phaseEffort] at this ⊢
    omega
  · next panic _ =>
    have := tally_set phaseEffort (.broken i panic) hw
    simp only [phaseEffort] at this ⊢
    omega

theorem effort_ask_lt {p : WorkerPool C K V R} {s : PoolState C K V R} {w i : Nat} {key : K} {c : C}
    (hw : s.workers[w]? = some (.claimed i key (some c))) :
    p.effort (p.ask s w i key c) < p.effort s := by
  simp only [ask, effort]
  split
  · next a _ =>
    have := tally_set phaseEffort (.sending i key a (some c)) hw
    simp only [phaseEffort] at this ⊢
    omega
  · next panic _ =>
    have := tally_set phaseEffort (.sending i key (.error panic.toFailure) none) hw
    simp only [phaseEffort] at this ⊢
    omega

theorem effort_send_lt {p : WorkerPool C K V R} {s : PoolState C K V R} {w i : Nat} {key : K}
    {a : Answer V} {connection : Option C}
    (hw : s.workers[w]? = some (.sending i key a connection)) :
    p.effort (send s w i key a connection) < p.effort s := by
  simp only [send]
  split
  · have := tally_set phaseEffort (.idle connection) hw
    simp only [effort, phaseEffort, List.length_append, List.length_singleton] at this ⊢
    omega
  · have := tally_set phaseEffort .finished hw
    simp only [effort, phaseEffort] at this ⊢
    omega

/-- Every turn leaves less to do. -/
theorem effort_turn?_lt {p : WorkerPool C K V R} {s t : PoolState C K V R} {turn : Turn}
    (h : p.turn? s turn = some t) : p.effort t < p.effort s := by
  cases turn with
  | worker w =>
    simp only [turn?, workerTurn?] at h
    split at h
    · next hw => exact Option.some.inj h ▸ effort_claim_lt hw
    · next hw => exact Option.some.inj h ▸ effort_openConnection_lt hw
    · next hw => exact Option.some.inj h ▸ effort_ask_lt hw
    · next hw => exact Option.some.inj h ▸ effort_send_lt hw
    all_goals simp at h
  | receiver =>
    simp only [turn?, receiverTurn?] at h
    split at h
    · next hq =>
      split at h
      all_goals
        obtain rfl := Option.some.inj h
        simp only [effort, hq, List.length_cons, List.length_nil]
        omega
    · simp at h

/-! ### Running a pool -/

/-- The first turn that can be taken, the receiver before the workers. -/
def nextState? (p : WorkerPool C K V R) (s : PoolState C K V R) : Option (PoolState C K V R) :=
  match p.turn? s .receiver with
  | some t => some t
  | none => (List.range s.workers.length).findSome? fun w => p.turn? s (.worker w)

theorem effort_nextState?_lt {p : WorkerPool C K V R} {s t : PoolState C K V R}
    (h : p.nextState? s = some t) : p.effort t < p.effort s := by
  simp only [nextState?] at h
  split at h
  · next hr => exact effort_turn?_lt (Option.some.inj h ▸ hr)
  · obtain ⟨w, -, hw⟩ := List.exists_of_findSome?_eq_some h
    exact effort_turn?_lt hw

/-- Takes turns until none is left. -/
def runFrom (p : WorkerPool C K V R) (s : PoolState C K V R) : PoolState C K V R :=
  match _h : p.nextState? s with
  | none => s
  | some t => p.runFrom t
termination_by p.effort s
decreasing_by exact effort_nextState?_lt _h

/-- The last state of a run. -/
def run (p : WorkerPool C K V R) : PoolState C K V R :=
  p.runFrom p.init

/-- When no turn is left the run is over. -/
theorem isOver_of_nextState? {p : WorkerPool C K V R} {s : PoolState C K V R}
    (h : p.nextState? s = none) : isOver s = true := by
  simp only [nextState?] at h
  split at h
  · simp at h
  · next hr =>
    simp only [isOver]
    split
    · rfl
    · next result hl =>
      have hq : s.queue = [] := by
        cases hq : s.queue with
        | nil => rfl
        | cons e rest =>
          obtain ⟨i, key, a⟩ := e
          simp only [turn?, receiverTurn?, hl, hq] at hr
          split at hr <;> simp at hr
      simp only [hq, List.isEmpty_nil, Bool.true_and, List.all_eq_true]
      intro phase hmem
      obtain ⟨w, hlt, hw⟩ := List.getElem_of_mem hmem
      have hget : s.workers[w]? = some phase := List.getElem?_eq_some_iff.2 ⟨hlt, hw⟩
      have := List.findSome?_eq_none_iff.1 h w (List.mem_range.2 hlt)
      simp only [turn?, workerTurn?, hget] at this
      cases phase with
      | idle => simp at this
      | claimed i key connection => cases connection <;> simp at this
      | sending => simp at this
      | finished => rfl
      | broken => rfl

theorem isOver_runFrom (p : WorkerPool C K V R) (s : PoolState C K V R) :
    isOver (p.runFrom s) = true := by
  induction s using runFrom.induct p with
  | case1 s h =>
    rw [runFrom]
    split
    · exact isOver_of_nextState? h
    · next h' => simp [h] at h'
  | case2 s t h ih =>
    rw [runFrom]
    split
    · next h' => simp [h] at h'
    · next h' =>
      obtain rfl : t = _ := Option.some.inj (h.symm.trans h')
      exact ih

/-- A run gets to its end. -/
theorem isOver_run (p : WorkerPool C K V R) : isOver p.run = true :=
  isOver_runFrom p p.init

end WorkerPool

end Lakehouse
