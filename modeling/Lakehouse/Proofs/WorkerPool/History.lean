import Lakehouse.Proofs.WorkerPool.Run

/-!
# What the history of a run says

The events of a run hold what every call came to. This module reads the answers off them and says
which histories a pool can have.

- `answersIn`, `receivedIn`: the answers that calls came to, and those that the receiver has folded.
- `Refused`, `Asked`: the calls that come to an answer for an index, and `Produced`, how the answer
  came about.
- `Genuine`: every call in a history ended as the pool says, after what had happened before it;
  `produced_of_mem_answersIn` finds the call behind every answer.
- `Folds`: which calls of the fold lead to which receiver.
- `Honest`: the invariant of a run that ties workers, queue and receiver to the history, with
  `honest_init`, `honest_step` and `honest_after?`.
-/

namespace Lakehouse

variable {C K V R : Type}

/-- The answer that an event comes to, with the index of its key. -/
@[simp, grind =]
def PoolEvent.answer? : PoolEvent C V → Option (Nat × Answer V)
  | .asked _ i _ outcome => some (i, outcome.answer)
  | .opened _ i (.answered (.error f)) => some (i, .error f)
  | .opened _ _ (.answered (.ok _)) | .opened _ _ (.broke _) => none
  | .claimed .. | .sent .. | .received .. => none

/-- The answer that an event hands to the fold, with the index of its key. -/
@[simp, grind =]
def PoolEvent.received? : PoolEvent C V → Option (Nat × Answer V)
  | .received i a => some (i, a)
  | .claimed .. | .opened .. | .asked .. | .sent .. => none

namespace WorkerPool

/-! ## Reading a history -/

/-- The answers that calls came to, the first of them first. -/
def answersIn (events : List (PoolEvent C V)) : List (Nat × Answer V) :=
  events.reverse.filterMap PoolEvent.answer?

/-- The answers that were handed to the fold, the first of them first. -/
def receivedIn (events : List (PoolEvent C V)) : List (Nat × Answer V) :=
  events.reverse.filterMap PoolEvent.received?

@[simp] theorem answersIn_nil : answersIn ([] : List (PoolEvent C V)) = [] := rfl

@[simp] theorem receivedIn_nil : receivedIn ([] : List (PoolEvent C V)) = [] := rfl

@[simp, grind =] theorem answersIn_cons (e : PoolEvent C V) (events : List (PoolEvent C V)) :
    answersIn (e :: events) = answersIn events ++ e.answer?.toList := by
  unfold answersIn
  rw [List.reverse_cons, List.filterMap_append]
  rcases h : e.answer? with _ | entry
  · rw [List.filterMap_cons_none h]
    rfl
  · rw [List.filterMap_cons_some h]
    rfl

@[simp, grind =] theorem receivedIn_cons (e : PoolEvent C V) (events : List (PoolEvent C V)) :
    receivedIn (e :: events) = receivedIn events ++ e.received?.toList := by
  unfold receivedIn
  rw [List.reverse_cons, List.filterMap_append]
  rcases h : e.received? with _ | entry
  · rw [List.filterMap_cons_none h]
    rfl
  · rw [List.filterMap_cons_some h]
    rfl

theorem mem_receivedIn {events : List (PoolEvent C V)} {i : Nat} {a : Answer V} :
    (i, a) ∈ receivedIn events ↔ .received i a ∈ events := by
  simp only [receivedIn, List.mem_filterMap, List.mem_reverse]
  constructor
  · rintro ⟨e, he, hea⟩
    cases e with
    | received j b =>
      obtain ⟨rfl, rfl⟩ : j = i ∧ b = a := by simpa using hea
      exact he
    | _ => cases hea
  · intro he
    exact ⟨_, he, rfl⟩

theorem mem_answersIn {events : List (PoolEvent C V)} {i : Nat} {a : Answer V} :
    (i, a) ∈ answersIn events ↔ ∃ e ∈ events, e.answer? = some (i, a) := by
  simp [answersIn]

/-- A longer history has the answers of a shorter one. -/
theorem answersIn_subset {events events' : List (PoolEvent C V)} (h : events ⊆ events') :
    answersIn events ⊆ answersIn events' := by
  rintro ⟨i, a⟩ hmem
  obtain ⟨e, he, hea⟩ := mem_answersIn.1 hmem
  exact mem_answersIn.2 ⟨e, h he, hea⟩

/-! ## Histories that a pool can have -/

/-- The event is one that the pool can come to after some others: a call ended as the pool says, a
question was put over a connection that the same worker had opened, and what was received had been
answered. -/
def Explains (p : WorkerPool C K V R) (earlier : List (PoolEvent C V)) : PoolEvent C V → Prop
  | .claimed .. | .sent .. => True
  | .opened _ _ outcome => p.opening earlier = outcome
  | .asked w i c outcome =>
    (∃ key, p.keys[i]? = some key ∧ p.asking earlier c key = outcome) ∧
      ∃ j, .opened w j (.answered (.ok c)) ∈ earlier
  | .received i a => (i, a) ∈ answersIn earlier

/-- Every event is one that the pool can come to after those before it. -/
inductive Genuine (p : WorkerPool C K V R) : List (PoolEvent C V) → Prop where
  | nil : Genuine p []
  | cons {e : PoolEvent C V} {earlier : List (PoolEvent C V)} :
      Genuine p earlier → p.Explains earlier e → Genuine p (e :: earlier)

variable {p : WorkerPool C K V R} {events : List (PoolEvent C V)}

theorem Genuine.explains {e : PoolEvent C V} {earlier : List (PoolEvent C V)}
    (h : p.Genuine events) (hs : e :: earlier <:+ events) : p.Explains earlier e := by
  induction h with
  | nil => simp at hs
  | cons _ he ih =>
    rcases List.suffix_cons_iff.1 hs with heq | hs
    · obtain ⟨rfl, rfl⟩ := List.cons.inj heq
      exact he
    · exact ih hs

/-- Opening a connection for the key at an index was refused. -/
def Refused (p : WorkerPool C K V R) (events : List (PoolEvent C V)) (i : Nat) (f : Failure) :
    Prop :=
  ∃ w earlier, .opened w i (.answered (.error f)) :: earlier <:+ events ∧
    p.opening earlier = .answered (.error f)

/-- A worker asked for the key at an index, over a connection that it had opened itself, and the
call had an outcome. -/
def Asked (p : WorkerPool C K V R) (events : List (PoolEvent C V)) (i : Nat)
    (outcome : Outcome V) : Prop :=
  ∃ w j c key earlier, .asked w i c outcome :: earlier <:+ events ∧ p.keys[i]? = some key ∧
    p.asking earlier c key = outcome ∧ .opened w j (.answered (.ok c)) ∈ earlier

/-- How the answer for an index came about: it stands for a refusal or for what asking came to. -/
inductive Produced (p : WorkerPool C K V R) (events : List (PoolEvent C V)) (i : Nat) :
    Answer V → Prop where
  | refused {f : Failure} : p.Refused events i f → Produced p events i (.error f)
  | asked {outcome : Outcome V} : p.Asked events i outcome → Produced p events i outcome.answer

/-- Behind every answer in a history there is the call that came to it. -/
theorem produced_of_mem_answersIn {i : Nat} {a : Answer V} (h : p.Genuine events)
    (hmem : (i, a) ∈ answersIn events) : p.Produced events i a := by
  obtain ⟨e, he, hea⟩ := mem_answersIn.1 hmem
  obtain ⟨later, earlier, rfl⟩ := List.append_of_mem he
  have hs : e :: earlier <:+ later ++ e :: earlier := List.suffix_append ..
  have hexp := h.explains hs
  cases e with
  | asked w j c outcome =>
    obtain ⟨rfl, rfl⟩ : j = i ∧ outcome.answer = a := by simpa using hea
    obtain ⟨⟨key, hkey, hask⟩, k, hopen⟩ := hexp
    exact .asked ⟨w, k, c, key, earlier, hs, hkey, hask, hopen⟩
  | opened w j outcome =>
    rcases outcome with (f | c) | panic
    · obtain ⟨rfl, rfl⟩ : j = i ∧ .error f = a := by simpa using hea
      exact .refused ⟨w, earlier, hs, hexp⟩
    all_goals simp at hea
  | _ => simp at hea

/-- What was received had been answered. -/
theorem mem_answersIn_of_received {i : Nat} {a : Answer V} (h : p.Genuine events)
    (hmem : (i, a) ∈ receivedIn events) : (i, a) ∈ answersIn events := by
  obtain ⟨later, earlier, rfl⟩ := List.append_of_mem (mem_receivedIn.1 hmem)
  have hanswered : (i, a) ∈ answersIn earlier := h.explains (List.suffix_append later _)
  refine answersIn_subset ?_ hanswered
  exact List.subset_append_of_subset_right later (List.subset_cons_self _ _)

theorem Asked.mem_answersIn {i : Nat} {outcome : Outcome V} (h : p.Asked events i outcome) :
    (i, outcome.answer) ∈ answersIn events := by
  obtain ⟨w, j, c, key, earlier, hs, -, -, -⟩ := h
  exact WorkerPool.mem_answersIn.2 ⟨_, hs.subset List.mem_cons_self, rfl⟩

/-! ## Calls of the fold -/

/-- The receiver after some calls of the fold. Each call gets the result of the one before it, the
key at its index and its answer, and after a call that fails there is none. -/
inductive Folds (p : WorkerPool C K V R) : List (Nat × Answer V) → Receiver R → Prop where
  | start : Folds p [] (.listening p.start)
  | next {calls : List (Nat × Answer V)} {result result' : R} {i : Nat} {key : K} {a : Answer V} :
      Folds p calls (.listening result) → p.keys[i]? = some key →
      p.fold result key a = .ok result' → Folds p (calls ++ [(i, a)]) (.listening result')
  | stop {calls : List (Nat × Answer V)} {result : R} {i : Nat} {key : K} {a : Answer V}
      {f : Failure} :
      Folds p calls (.listening result) → p.keys[i]? = some key →
      p.fold result key a = .error f → Folds p (calls ++ [(i, a)]) (.stopped f)

/-! ## The invariant -/

/-- The worker has opened the connection that it has. -/
def Owns (events : List (PoolEvent C V)) (w : Nat) (connection : Option C) : Prop :=
  ∀ c, connection = some c → ∃ i, .opened w i (.answered (.ok c)) ∈ events

/-- The history bears out what a worker is about to do. -/
def Backed (p : WorkerPool C K V R) (events : List (PoolEvent C V)) (w : Nat) :
    WorkerPhase C K V → Prop
  | .idle connection => Owns events w connection
  | .claimed i key connection => p.keys[i]? = some key ∧ Owns events w connection
  | .sending i key a connection =>
    p.keys[i]? = some key ∧ (i, a) ∈ answersIn events ∧ Owns events w connection
  | .finished => True
  | .broken i panic => .opened w i (.broke panic) ∈ events

/-- Workers, queue and receiver are as the history says, and the history is one of the pool. -/
structure Honest (p : WorkerPool C K V R) (s : PoolState C K V R) : Prop where
  history : p.Genuine s.events
  workers : ∀ w phase, s.workers[w]? = some phase → p.Backed s.events w phase
  queue : ∀ i key a, (i, key, a) ∈ s.queue → p.keys[i]? = some key ∧ (i, a) ∈ answersIn s.events
  receiver : p.Folds (receivedIn s.events) s.receiver

theorem Owns.mono {events' : List (PoolEvent C V)} {w : Nat} {connection : Option C}
    (hsub : events ⊆ events') (h : Owns events w connection) : Owns events' w connection := by
  intro c hc
  obtain ⟨i, hi⟩ := h c hc
  exact ⟨i, hsub hi⟩

theorem Backed.mono {events' : List (PoolEvent C V)} {w : Nat} {phase : WorkerPhase C K V}
    (hsub : events ⊆ events') (h : p.Backed events w phase) : p.Backed events' w phase := by
  cases phase with
  | idle connection => exact Owns.mono hsub h
  | claimed i key connection => exact ⟨h.1, h.2.mono hsub⟩
  | sending i key a connection => exact ⟨h.1, answersIn_subset hsub h.2.1, h.2.2.mono hsub⟩
  | finished => trivial
  | broken i panic => exact hsub h

/-- When one worker goes on, the others are borne out as before. -/
theorem backed_set {events' : List (PoolEvent C V)} {workers : List (WorkerPhase C K V)} {v : Nat}
    {new : WorkerPhase C K V} (hsub : events ⊆ events')
    (h : ∀ w phase, workers[w]? = some phase → p.Backed events w phase)
    (hnew : p.Backed events' v new) :
    ∀ w phase, (workers.set v new)[w]? = some phase → p.Backed events' w phase := by
  intro w phase hw
  rcases cases_of_getElem?_set hw with ⟨rfl, rfl⟩ | ⟨-, hw⟩
  · exact hnew
  · exact (h w phase hw).mono hsub

theorem honest_init (p : WorkerPool C K V R) : p.Honest p.init where
  history := .nil
  workers := by
    intro w phase hw
    obtain ⟨-, rfl⟩ := List.mem_replicate.1 (List.mem_of_getElem? hw)
    intro c hc
    cases hc
  queue := by
    intro i key a hmem
    cases hmem
  receiver := .start

/-- A worker that goes on with an event that hands nothing to the fold keeps a state honest. -/
theorem honest_set {s : PoolState C K V R} {e : PoolEvent C V} {v : Nat} {new : WorkerPhase C K V}
    (next : Nat) (h : p.Honest s) (hexplains : p.Explains s.events e) (hquiet : e.received? = none)
    (hnew : p.Backed (e :: s.events) v new) :
    p.Honest { s with next, workers := s.workers.set v new, events := e :: s.events } where
  history := .cons h.history hexplains
  workers := backed_set (List.subset_cons_self e s.events) h.workers hnew
  queue := by
    intro i key a hmem
    obtain ⟨hkey, hanswer⟩ := h.queue i key a hmem
    exact ⟨hkey, answersIn_subset (List.subset_cons_self e s.events) hanswer⟩
  receiver := by
    rw [receivedIn_cons, hquiet, Option.toList_none, List.append_nil]
    exact h.receiver

/-- Every step keeps a state honest. -/
theorem honest_step {s t : PoolState C K V R} (h : p.Honest s) (hstep : p.Step s t) :
    p.Honest t := by
  have hsub : ∀ e : PoolEvent C V, s.events ⊆ e :: s.events := fun e =>
    List.subset_cons_self e s.events
  cases hstep with
  | claim hw hkey =>
    have howns := h.workers _ _ hw
    exact honest_set _ h trivial rfl ⟨hkey, Owns.mono (hsub _) howns⟩
  | finish hw hkey =>
    exact ⟨h.history, backed_set (List.Subset.refl _) h.workers trivial, h.queue, h.receiver⟩
  | @connect w i key c hw hopen =>
    obtain ⟨hkey, -⟩ := h.workers _ _ hw
    refine honest_set _ h hopen rfl ⟨hkey, ?_⟩
    rintro _ ⟨rfl⟩
    exact ⟨i, List.mem_cons_self⟩
  | refuse hw hopen =>
    obtain ⟨hkey, -⟩ := h.workers _ _ hw
    refine honest_set _ h hopen rfl ⟨hkey, ?_, ?_⟩
    · simp
    · rintro _ ⟨⟩
  | breakOff hw hopen => exact honest_set _ h hopen rfl List.mem_cons_self
  | @ask w i key c outcome hw hask =>
    obtain ⟨hkey, howns⟩ := h.workers _ _ hw
    refine honest_set _ h ⟨⟨key, hkey, hask⟩, howns c rfl⟩ rfl ⟨hkey, ?_, ?_⟩
    · simp
    · -- a call that broke off leaves no connection to own
      cases outcome with
      | answered a => exact Owns.mono (hsub _) howns
      | broke panic =>
        rintro _ ⟨⟩
  | @send w i key a connection result hw hr =>
    obtain ⟨hkey, hmem, howns⟩ := h.workers _ _ hw
    -- the worker goes on as ever, and its answer goes to the end of the queue
    have hset : p.Honest { s with
        workers := s.workers.set w (.idle connection), events := .sent w i a :: s.events } :=
      honest_set _ h trivial rfl (Owns.mono (hsub _) howns)
    refine ⟨hset.history, hset.workers, ?_, hset.receiver⟩
    intro j key' b hj
    rcases List.mem_append.1 hj with hj | hj
    · exact hset.queue j key' b hj
    · obtain ⟨rfl, rfl, rfl⟩ : j = i ∧ key' = key ∧ b = a := by simpa using hj
      exact ⟨hkey, answersIn_subset (hsub _) hmem⟩
  | giveUp hw hr =>
    exact ⟨h.history, backed_set (List.Subset.refl _) h.workers trivial, h.queue, h.receiver⟩
  | @fold i key a rest result next hr hq hf =>
    obtain ⟨hkey, hmem⟩ := h.queue i key a (by simp [hq])
    refine ⟨.cons h.history hmem, fun w phase hw => (h.workers w phase hw).mono (hsub _), ?_, ?_⟩
    · intro j key' b hj
      obtain ⟨hkey', hanswer⟩ := h.queue j key' b (by rw [hq]; exact List.mem_cons_of_mem _ hj)
      exact ⟨hkey', answersIn_subset (hsub _) hanswer⟩
    · have hfolds := h.receiver
      rw [hr] at hfolds
      simpa using hfolds.next hkey hf
  | @stop i key a rest result f hr hq hf =>
    obtain ⟨hkey, hmem⟩ := h.queue i key a (by simp [hq])
    refine ⟨.cons h.history hmem, fun w phase hw => (h.workers w phase hw).mono (hsub _), ?_, ?_⟩
    · -- what was in the queue is lost
      intro j key' b hj
      cases hj
    · have hfolds := h.receiver
      rw [hr] at hfolds
      simpa using hfolds.stop hkey hf

/-- Every run is honest. -/
theorem honest_after? {s : PoolState C K V R} {turns : List Turn} (h : p.after? turns = some s) :
    p.Honest s :=
  after?_induction (honest_init p) (fun _ _ => honest_step) h

end WorkerPool

end Lakehouse
