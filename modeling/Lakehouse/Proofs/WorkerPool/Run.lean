import Lakehouse.WorkerPool

/-!
# Runs of a worker pool

A run is a list of turns, taken one after another from the beginning. Nothing is assumed about the
order: every list of turns that can be taken is an interleaving of the workers and the receiver.

- `Step`: everything that one turn can do, one constructor for each thing. `step_of_turn?` says that
  there is nothing else; no later proof opens `turn?`.
- `after?`: the state that a list of turns leads to, and `after?_induction`, the one induction over
  runs: what holds at the beginning and is kept by every step holds after every run.
- `AlwaysEnds`: every run comes to an end, and something holds then. `alwaysEnds_of_isOver` reduces
  it to the states in which the pool is over, and `AlwaysEnds.run` draws the conclusion for
  `WorkerPool.run`.
-/

namespace Lakehouse

/-- What a call leaves to be sent: its answer, or the failure that stands for breaking off. -/
def Outcome.answer {α : Type} : Outcome α → Answer α
  | .answered a => a
  | .broke panic => .error panic.toFailure

/-- What a call leaves of its connection: nothing if it broke off. -/
def Outcome.kept {α C : Type} (c : C) : Outcome α → Option C
  | .answered _ => some c
  | .broke _ => none

namespace WorkerPool

variable {C K V R : Type}

/-! ## What a turn can do -/

/-- What happens when a worker or the receiver takes a turn. -/
inductive Step (p : WorkerPool C K V R) (s : PoolState C K V R) : PoolState C K V R → Prop where
  /-- A worker claims the next key. -/
  | claim {w : Nat} {connection : Option C} {key : K} :
      s.workers[w]? = some (.idle connection) → p.keys[s.next]? = some key →
      Step p s { s with
        next := s.next + 1
        workers := s.workers.set w (.claimed s.next key connection)
        events := .claimed w s.next :: s.events }
  /-- A worker finds no key left. -/
  | finish {w : Nat} {connection : Option C} :
      s.workers[w]? = some (.idle connection) → p.keys[s.next]? = none →
      Step p s { s with workers := s.workers.set w .finished }
  /-- A worker opens a connection for its key. -/
  | connect {w i : Nat} {key : K} {c : C} :
      s.workers[w]? = some (.claimed i key none) → p.opening s.events = .answered (.ok c) →
      Step p s { s with
        workers := s.workers.set w (.claimed i key (some c))
        events := .opened w i (.answered (.ok c)) :: s.events }
  /-- A worker fails to open a connection, which answers its key. -/
  | refuse {w i : Nat} {key : K} {f : Failure} :
      s.workers[w]? = some (.claimed i key none) → p.opening s.events = .answered (.error f) →
      Step p s { s with
        workers := s.workers.set w (.sending i key (.error f) none)
        events := .opened w i (.answered (.error f)) :: s.events }
  /-- Opening a connection breaks off, and the worker with it. -/
  | breakOff {w i : Nat} {key : K} {panic : Panic} :
      s.workers[w]? = some (.claimed i key none) → p.opening s.events = .broke panic →
      Step p s { s with
        workers := s.workers.set w (.broken i panic)
        events := .opened w i (.broke panic) :: s.events }
  /-- A worker asks for its key. -/
  | ask {w i : Nat} {key : K} {c : C} {outcome : Outcome V} :
      s.workers[w]? = some (.claimed i key (some c)) → p.asking s.events c key = outcome →
      Step p s { s with
        workers := s.workers.set w (.sending i key outcome.answer (outcome.kept c))
        events := .asked w i c outcome :: s.events }
  /-- A worker sends off the answer for its key. -/
  | send {w i : Nat} {key : K} {a : Answer V} {connection : Option C} {result : R} :
      s.workers[w]? = some (.sending i key a connection) → s.receiver = .listening result →
      Step p s { s with
        workers := s.workers.set w (.idle connection)
        queue := s.queue ++ [(i, key, a)]
        events := .sent w i a :: s.events }
  /-- A worker finds that the receiver has stopped. -/
  | giveUp {w i : Nat} {key : K} {a : Answer V} {connection : Option C} {f : Failure} :
      s.workers[w]? = some (.sending i key a connection) → s.receiver = .stopped f →
      Step p s { s with workers := s.workers.set w .finished }
  /-- The receiver folds the oldest answer into its result. -/
  | fold {i : Nat} {key : K} {a : Answer V} {rest : List (Nat × K × Answer V)} {result next : R} :
      s.receiver = .listening result → s.queue = (i, key, a) :: rest →
      p.fold result key a = .ok next →
      Step p s { s with
        receiver := .listening next
        queue := rest
        events := .received i a :: s.events }
  /-- The receiver fails to fold the oldest answer and stops. -/
  | stop {i : Nat} {key : K} {a : Answer V} {rest : List (Nat × K × Answer V)} {result : R}
      {f : Failure} :
      s.receiver = .listening result → s.queue = (i, key, a) :: rest →
      p.fold result key a = .error f →
      Step p s { s with
        receiver := .stopped f
        queue := []
        events := .received i a :: s.events }

variable {p : WorkerPool C K V R} {s t : PoolState C K V R}

/-- What a worker is about to do after one worker, maybe this one, has gone on. -/
theorem cases_of_getElem?_set {workers : List (WorkerPhase C K V)} {v w : Nat}
    {new phase : WorkerPhase C K V} (h : (workers.set v new)[w]? = some phase) :
    v = w ∧ phase = new ∨ v ≠ w ∧ workers[w]? = some phase := by
  by_cases hvw : v = w
  · subst hvw
    obtain ⟨hlt, hphase⟩ := List.getElem?_eq_some_iff.1 h
    rw [List.getElem_set_self] at hphase
    exact .inl ⟨rfl, hphase.symm⟩
  · rw [List.getElem?_set_ne hvw] at h
    exact .inr ⟨hvw, h⟩

theorem step_claim {w : Nat} {connection : Option C}
    (hw : s.workers[w]? = some (.idle connection)) : p.Step s (p.claim s w connection) := by
  unfold claim
  split
  · next hkey => exact .claim hw hkey
  · next hkey => exact .finish hw hkey

theorem step_openConnection {w i : Nat} {key : K}
    (hw : s.workers[w]? = some (.claimed i key none)) :
    p.Step s (p.openConnection s w i key) := by
  rcases ho : p.opening s.events with (f | c) | panic <;> simp only [openConnection, ho]
  · exact .refuse hw ho
  · exact .connect hw ho
  · exact .breakOff hw ho

theorem step_ask {w i : Nat} {key : K} {c : C}
    (hw : s.workers[w]? = some (.claimed i key (some c))) : p.Step s (p.ask s w i key c) := by
  rcases ha : p.asking s.events c key with a | panic <;> simp only [ask, ha]
  · exact .ask hw ha
  · exact .ask hw ha

theorem step_send {w i : Nat} {key : K} {a : Answer V} {connection : Option C}
    (hw : s.workers[w]? = some (.sending i key a connection)) :
    p.Step s (send s w i key a connection) := by
  unfold send
  split
  · next hr => exact .send hw hr
  · next hr => exact .giveUp hw hr

theorem step_receiverTurn? (h : p.receiverTurn? s = some t) : p.Step s t := by
  unfold receiverTurn? at h
  split at h
  · next hr hq =>
    split at h
    · next hf => exact Option.some.inj h ▸ .fold hr hq hf
    · next hf => exact Option.some.inj h ▸ .stop hr hq hf
  · simp at h

/-- A turn does one of the things that `Step` lists. -/
theorem step_of_turn? {turn : Turn} (h : p.turn? s turn = some t) : p.Step s t := by
  cases turn with
  | worker w =>
    simp only [turn?, workerTurn?] at h
    split at h
    · next hw => exact Option.some.inj h ▸ step_claim hw
    · next hw => exact Option.some.inj h ▸ step_openConnection hw
    · next hw => exact Option.some.inj h ▸ step_ask hw
    · next hw => exact Option.some.inj h ▸ step_send hw
    all_goals simp at h
  | receiver => exact step_receiverTurn? h

/-! ## Runs -/

/-- The state after some turns, if all of them can be taken. -/
def after? (p : WorkerPool C K V R) (turns : List Turn) : Option (PoolState C K V R) :=
  turns.foldlM p.turn? p.init

/-- **Induction over runs.** What holds at the beginning and is kept by every step holds after every
run. -/
theorem after?_induction {I : PoolState C K V R → Prop} (init : I p.init)
    (step : ∀ s t, I s → p.Step s t → I t) {turns : List Turn} (h : p.after? turns = some s) :
    I s := by
  unfold after? at h
  -- from any state instead of the first one, since the turns are taken from the front
  generalize p.init = start at init h
  induction turns generalizing start with
  | nil =>
    obtain rfl : start = s := by simpa using h
    exact init
  | cons turn rest ih =>
    rw [List.foldlM_cons] at h
    obtain ⟨u, hu, hrest⟩ := Option.bind_eq_some_iff.1 h
    exact ih u (step start u init (step_of_turn? hu)) hrest

/-- A run has no more turns than there was effort to spend. -/
theorem length_add_effort_le {turns : List Turn} (h : p.after? turns = some s) :
    turns.length + p.effort s ≤ p.effort p.init := by
  unfold after? at h
  generalize p.init = start at h
  induction turns generalizing start with
  | nil =>
    obtain rfl : start = s := by simpa using h
    simp
  | cons turn rest ih =>
    rw [List.foldlM_cons] at h
    obtain ⟨u, hu, hrest⟩ := Option.bind_eq_some_iff.1 h
    have hspent := effort_turn?_lt hu
    have := ih u hrest
    rw [List.length_cons]
    omega

theorem exists_turn_of_nextState? (h : p.nextState? s = some t) :
    ∃ turn, p.turn? s turn = some t := by
  unfold nextState? at h
  split at h
  · next hr => exact ⟨.receiver, hr.trans h⟩
  · obtain ⟨w, -, hw⟩ := List.exists_of_findSome?_eq_some h
    exact ⟨.worker w, hw⟩

/-- While a pool is not over, someone can take a turn. -/
theorem exists_turn_of_not_isOver (h : isOver s = false) : ∃ turn u, p.turn? s turn = some u := by
  rcases hn : p.nextState? s with _ | u
  · rw [isOver_of_nextState? hn] at h
    cases h
  · obtain ⟨turn, hturn⟩ := exists_turn_of_nextState? hn
    exact ⟨turn, u, hturn⟩

/-- A worker that is not done can take a turn. -/
theorem exists_turn_of_not_isDone {w : Nat} {phase : WorkerPhase C K V}
    (hw : s.workers[w]? = some phase) (h : isDone phase = false) :
    ∃ t, p.turn? s (.worker w) = some t := by
  cases phase with
  | claimed i key connection =>
    cases connection <;> exact ⟨_, by simp only [turn?, workerTurn?, hw]; rfl⟩
  | finished | broken => cases h
  | _ => exact ⟨_, by simp only [turn?, workerTurn?, hw]; rfl⟩

/-- Whatever the order of turns, the pool comes to its end and `P` holds there: no run is longer
than the effort at the beginning, a run that is not over can go on, and `P` holds where it is
over. -/
def AlwaysEnds (p : WorkerPool C K V R) (P : PoolState C K V R → Prop) : Prop :=
  ∀ turns s, p.after? turns = some s →
    turns.length ≤ p.effort p.init ∧
      (isOver s = false → ∃ turn t, p.turn? s turn = some t) ∧ (isOver s = true → P s)

/-- For a pool to end with `P` it is enough that `P` holds wherever a run is over. -/
theorem alwaysEnds_of_isOver {P : PoolState C K V R → Prop}
    (h : ∀ turns s, p.after? turns = some s → isOver s = true → P s) : p.AlwaysEnds P := by
  intro turns s hs
  refine ⟨?_, exists_turn_of_not_isOver, h turns s hs⟩
  have := length_add_effort_le hs
  omega

/-- Taking turns until none is left is taking some list of turns. -/
theorem exists_turns_runFrom (p : WorkerPool C K V R) (s : PoolState C K V R) :
    ∃ turns : List Turn, turns.foldlM p.turn? s = some (p.runFrom s) := by
  induction s using runFrom.induct p with
  | case1 s hn =>
    refine ⟨[], ?_⟩
    rw [runFrom]
    split
    · rfl
    · next t ht => rw [hn] at ht; cases ht
  | case2 s t hn ih =>
    obtain ⟨turns, hturns⟩ := ih
    obtain ⟨turn, hturn⟩ := exists_turn_of_nextState? hn
    refine ⟨turn :: turns, ?_⟩
    rw [List.foldlM_cons, hturn, runFrom]
    split
    · next hnone => rw [hn] at hnone; cases hnone
    · next u hu =>
      obtain rfl : t = u := Option.some.inj (hn.symm.trans hu)
      exact hturns

/-- The run that is carried out is one of those. -/
theorem AlwaysEnds.run {P : PoolState C K V R → Prop} (h : p.AlwaysEnds P) : P p.run := by
  obtain ⟨turns, hturns⟩ := exists_turns_runFrom p p.init
  obtain ⟨-, -, hend⟩ := h turns p.run hturns
  exact hend (isOver_run p)

end WorkerPool

end Lakehouse
