import Mathlib.Data.List.Induction
import Lakehouse.Proofs.WorkerPool.Delivery

/-!
# After the fold has failed

When the fold fails the receiver stops, and with it the run has come to its ending. The workers are
not told. Each finds out when it hands in its next answer, and until then it goes on with the key that
it has, or claims one more.

- `FailedOn`: in a history the fold was called for an index and failed. `stopped_of_failedOn` says
  that the receiver stopped then and that this was its last call.
- `Deed`, `plan`: the deeds that still lie ahead of a worker on its way to its next answer.
- `Winds`: what happened between two states, with nothing delivered and every worker keeping to its
  plan. `winds_step` is about one step after the receiver has stopped, `winds_of_turns` about all.
- **`failing_fold_stops_the_pool`**: the run ends with the failure, the fold is called no more, and
  each worker claims at most one more key, opens at most one more connection, asks at most once more
  and is done.
-/

namespace Lakehouse

variable {C K V R : Type}

/-- A thing that a worker does on its way to an answer. -/
inductive Deed where
  | claim
  | connect
  | ask

/-- What the event says that the worker did. -/
def PoolEvent.deedOf? (w : Nat) : PoolEvent C V → Option Deed
  | .claimed v _ => if v = w then some .claim else none
  | .opened v _ _ => if v = w then some .connect else none
  | .asked v _ _ _ => if v = w then some .ask else none
  | .sent .. | .received .. => none

/-- The event brings an answer to the receiver, or from it to the fold. -/
def PoolEvent.isDelivery : PoolEvent C V → Bool
  | .sent .. | .received .. => true
  | .claimed .. | .opened .. | .asked .. => false

namespace WorkerPool

/-! ## The call of the fold that failed -/

/-- The fold was called for an index, with an answer and the result of all calls before, and
failed. -/
def FailedOn (p : WorkerPool C K V R) (events : List (PoolEvent C V)) (i : Nat) (a : Answer V)
    (f : Failure) : Prop :=
  ∃ calls later result key, receivedIn events = calls ++ (i, a) :: later ∧
    p.Folds calls (.listening result) ∧ p.keys[i]? = some key ∧ p.fold result key a = .error f

variable {p : WorkerPool C K V R} {s t : PoolState C K V R}

/-- The last of some calls of the fold, by what it came to. -/
theorem Folds.of_concat {calls : List (Nat × Answer V)} {i : Nat} {a : Answer V} {r : Receiver R}
    (h : p.Folds (calls ++ [(i, a)]) r) :
    ∃ result key, p.Folds calls (.listening result) ∧ p.keys[i]? = some key ∧
      ((∃ result', p.fold result key a = .ok result' ∧ r = .listening result') ∨
        ∃ f, p.fold result key a = .error f ∧ r = .stopped f) := by
  generalize hall : calls ++ [(i, a)] = all at h
  cases h with
  | start => simp at hall
  | next hcalls hkey hf =>
    obtain ⟨rfl, hlast⟩ := List.append_inj' hall rfl
    obtain ⟨rfl, rfl⟩ : i = _ ∧ a = _ := by simpa using hlast
    exact ⟨_, _, hcalls, hkey, .inl ⟨_, hf, rfl⟩⟩
  | stop hcalls hkey hf =>
    obtain ⟨rfl, hlast⟩ := List.append_inj' hall rfl
    obtain ⟨rfl, rfl⟩ : i = _ ∧ a = _ := by simpa using hlast
    exact ⟨_, _, hcalls, hkey, .inr ⟨_, hf, rfl⟩⟩

/-- The calls of the fold determine the receiver. -/
theorem Folds.receiver_unique {calls : List (Nat × Answer V)} {r r' : Receiver R}
    (h : p.Folds calls r) (h' : p.Folds calls r') : r = r' := by
  induction h generalizing r' with
  | start =>
    generalize hnil : ([] : List (Nat × Answer V)) = calls at h'
    cases h' with
    | start => rfl
    | next | stop => simp at hnil
  | next _ hkey hf ih =>
    obtain ⟨_, _, hcalls, hkey', hlast⟩ := h'.of_concat
    obtain rfl := Receiver.listening.inj (ih hcalls)
    obtain rfl := Option.some.inj (hkey.symm.trans hkey')
    rcases hlast with ⟨_, hf', rfl⟩ | ⟨_, hf', rfl⟩
    · rw [Except.ok.inj (hf.symm.trans hf')]
    · cases hf.symm.trans hf'
  | stop _ hkey hf ih =>
    obtain ⟨_, _, hcalls, hkey', hlast⟩ := h'.of_concat
    obtain rfl := Receiver.listening.inj (ih hcalls)
    obtain rfl := Option.some.inj (hkey.symm.trans hkey')
    rcases hlast with ⟨_, hf', rfl⟩ | ⟨_, hf', rfl⟩
    · cases hf.symm.trans hf'
    · rw [Except.error.inj (hf.symm.trans hf')]

/-- After a call that fails there is none. -/
theorem Folds.nothing_after_failure {calls later : List (Nat × Answer V)} {i : Nat} {a : Answer V}
    {r : Receiver R} {result : R} {key : K} {f : Failure}
    (h : p.Folds (calls ++ (i, a) :: later) r) (hcalls : p.Folds calls (.listening result))
    (hkey : p.keys[i]? = some key) (hf : p.fold result key a = .error f) :
    later = [] ∧ r = .stopped f := by
  have hstopped : p.Folds (calls ++ [(i, a)]) (.stopped f) := hcalls.stop hkey hf
  -- from the end of the calls, since a call says what the one before it came to
  induction later using List.reverseRecOn generalizing r with
  | nil => exact ⟨rfl, h.receiver_unique hstopped⟩
  | append_singleton rest last ih =>
    have hlast : p.Folds ((calls ++ (i, a) :: rest) ++ [(last.1, last.2)]) r := by
      simpa using h
    obtain ⟨_, _, hbefore, -, -⟩ := hlast.of_concat
    obtain ⟨-, hlistening⟩ := ih hbefore
    cases hlistening

/-- Where the fold failed, the receiver has stopped, and it was called no more. -/
theorem stopped_of_failedOn {i : Nat} {a : Answer V} {f : Failure} (h : p.Honest s)
    (hfailed : p.FailedOn s.events i a f) :
    s.receiver = .stopped f ∧ ∃ calls, receivedIn s.events = calls ++ [(i, a)] := by
  obtain ⟨calls, later, result, key, hreceived, hcalls, hkey, hf⟩ := hfailed
  have hfolds := h.receiver
  rw [hreceived] at hfolds
  obtain ⟨rfl, hr⟩ := hfolds.nothing_after_failure hcalls hkey hf
  exact ⟨hr, calls, hreceived⟩

/-! ## What lies ahead of a worker -/

/-- The deeds of a worker, the first of them first. -/
def deedsIn (w : Nat) (events : List (PoolEvent C V)) : List Deed :=
  events.reverse.filterMap (PoolEvent.deedOf? w)

/-- The deeds that lie ahead of a worker until it has its next answer. -/
def plan : WorkerPhase C K V → List Deed
  | .idle none => [.claim, .connect, .ask]
  | .idle (some _) => [.claim, .ask]
  | .claimed _ _ none => [.connect, .ask]
  | .claimed _ _ (some _) => [.ask]
  | .sending .. | .finished | .broken .. => []

/-- The plan of one of the workers. -/
def planOf (workers : List (WorkerPhase C K V)) (w : Nat) : List Deed :=
  (workers[w]?.map plan).getD []

/-- The most turns that a worker takes until it is done, when nobody takes its next answer. -/
def turnsAhead : WorkerPhase C K V → Nat
  | .idle none => 4
  | .idle (some _) | .claimed _ _ none => 3
  | .claimed _ _ (some _) => 2
  | .sending .. => 1
  | .finished | .broken .. => 0

theorem plan_sublist (phase : WorkerPhase C K V) : (plan phase).Sublist [.claim, .connect, .ask] := by
  unfold plan
  split <;> simp

theorem turnsAhead_le (phase : WorkerPhase C K V) : turnsAhead phase ≤ 4 := by
  unfold turnsAhead
  split <;> omega

theorem deedsIn_append (w : Nat) (recent events : List (PoolEvent C V)) :
    deedsIn w (recent ++ events) = deedsIn w events ++ deedsIn w recent := by
  unfold deedsIn
  rw [List.reverse_append, List.filterMap_append]

/-- What happened from one state to another: the receiver is as it was, no answer was delivered, and
every worker did some of what it had planned, in that order, and plans no more than the rest. -/
structure Winds (s : PoolState C K V R) (recent : List (PoolEvent C V)) (t : PoolState C K V R) :
    Prop where
  receiver : t.receiver = s.receiver
  events : t.events = recent ++ s.events
  undelivered : ∀ e ∈ recent, e.isDelivery = false
  plans : ∀ w, (deedsIn w recent ++ planOf t.workers w).Sublist (planOf s.workers w)

theorem Winds.refl (s : PoolState C K V R) : Winds s [] s where
  receiver := rfl
  events := rfl
  undelivered := by
    intro e he
    cases he
  plans := fun w => List.Sublist.refl _

theorem Winds.trans {u : PoolState C K V R} {recent recent' : List (PoolEvent C V)}
    (h : Winds s recent t) (h' : Winds t recent' u) : Winds s (recent' ++ recent) u where
  receiver := h'.receiver.trans h.receiver
  events := by rw [h'.events, h.events, List.append_assoc]
  undelivered := by
    intro e he
    rcases List.mem_append.1 he with he | he
    · exact h'.undelivered e he
    · exact h.undelivered e he
  plans := by
    intro w
    rw [deedsIn_append, List.append_assoc]
    exact ((h'.plans w).append_left _).trans (h.plans w)

/-- When one worker goes on by its plan, the others' plans stay as they are. -/
theorem plans_set {workers : List (WorkerPhase C K V)} {v : Nat} {old new : WorkerPhase C K V}
    {recent : List (PoolEvent C V)} (hv : workers[v]? = some old)
    (hown : (deedsIn v recent ++ plan new).Sublist (plan old))
    (hothers : ∀ w, v ≠ w → deedsIn w recent = []) (w : Nat) :
    (deedsIn w recent ++ planOf (workers.set v new) w).Sublist (planOf workers w) := by
  unfold planOf
  by_cases hvw : v = w
  · subst hvw
    obtain ⟨hlt, -⟩ := List.getElem?_eq_some_iff.1 hv
    rw [hv, List.getElem?_set_self hlt]
    exact hown
  · rw [hothers w hvw, List.getElem?_set_ne hvw]
    exact List.Sublist.refl _

/-- A worker that does something by its plan. -/
theorem winds_set {e : PoolEvent C V} {v : Nat} {old new : WorkerPhase C K V} {next : Nat}
    (hv : s.workers[v]? = some old) (hdelivery : e.isDelivery = false)
    (hothers : ∀ w, v ≠ w → e.deedOf? w = none)
    (hown : ((e.deedOf? v).toList ++ plan new).Sublist (plan old)) :
    Winds s [e] { s with next, workers := s.workers.set v new, events := e :: s.events } where
  receiver := rfl
  events := rfl
  undelivered := by
    intro e' he'
    obtain rfl := List.mem_singleton.1 he'
    exact hdelivery
  plans := by
    have hdeeds : ∀ w, deedsIn w [e] = (e.deedOf? w).toList := fun w => by
      cases hdeed : e.deedOf? w <;> simp [deedsIn, hdeed]
    refine plans_set hv ?_ fun w hw => ?_
    · rw [hdeeds]
      exact hown
    · rw [hdeeds, hothers w hw]
      rfl

/-- A worker that finishes has no plans. -/
theorem winds_set_finished {v : Nat} {old : WorkerPhase C K V} (hv : s.workers[v]? = some old) :
    Winds s [] { s with workers := s.workers.set v .finished } where
  receiver := rfl
  events := rfl
  undelivered := by
    intro e he
    cases he
  plans := plans_set hv (List.nil_sublist _) fun _ _ => rfl

theorem tally_set_lt {count : WorkerPhase C K V → Nat} {workers : List (WorkerPhase C K V)} {w : Nat}
    {old new : WorkerPhase C K V} (hw : workers[w]? = some old) (hlt : count new < count old) :
    tally count (workers.set w new) < tally count workers := by
  have := tally_set count new hw
  omega

/-- When the receiver has stopped, every step is one that a worker had planned. -/
theorem winds_step {f : Failure} (hr : s.receiver = .stopped f) (hstep : p.Step s t) :
    ∃ recent, Winds s recent t ∧ tally turnsAhead t.workers < tally turnsAhead s.workers := by
  cases hstep with
  | @claim w connection key hw hkey =>
    refine ⟨[_], winds_set hw rfl (fun v hv => if_neg hv) ?_, tally_set_lt hw ?_⟩
    · cases connection <;> simp [PoolEvent.deedOf?, plan]
    · cases connection <;> simp [turnsAhead]
  | @finish w connection hw hkey =>
    refine ⟨[], winds_set_finished hw, tally_set_lt hw ?_⟩
    cases connection <;> simp [turnsAhead]
  | @connect w i key c hw hopen =>
    refine ⟨[_], winds_set hw rfl (fun v hv => if_neg hv) ?_, tally_set_lt hw ?_⟩
    · simp [PoolEvent.deedOf?, plan]
    · simp [turnsAhead]
  | @refuse w i key g hw hopen =>
    refine ⟨[_], winds_set hw rfl (fun v hv => if_neg hv) ?_, tally_set_lt hw ?_⟩
    · simp [PoolEvent.deedOf?, plan]
    · simp [turnsAhead]
  | @breakOff w i key panic hw hopen =>
    refine ⟨[_], winds_set hw rfl (fun v hv => if_neg hv) ?_, tally_set_lt hw ?_⟩
    · simp [PoolEvent.deedOf?, plan]
    · simp [turnsAhead]
  | @ask w i key c outcome hw hask =>
    refine ⟨[_], winds_set hw rfl (fun v hv => if_neg hv) ?_, tally_set_lt hw ?_⟩
    · simp [PoolEvent.deedOf?, plan]
    · simp [turnsAhead]
  | @giveUp w i key a connection g hw hr' =>
    exact ⟨[], winds_set_finished hw, tally_set_lt hw Nat.one_pos⟩
  -- whoever sends or receives has a receiver that listens
  | send _ hr' | fold hr' _ _ | stop hr' _ _ =>
    rw [hr] at hr'
    cases hr'

/-- When the receiver has stopped, the workers only do what they had planned, each turn a part of
it. -/
theorem winds_of_turns {f : Failure} {later : List Turn} (hr : s.receiver = .stopped f)
    (h : later.foldlM p.turn? s = some t) :
    ∃ recent, Winds s recent t ∧
      later.length + tally turnsAhead t.workers ≤ tally turnsAhead s.workers := by
  induction later generalizing s with
  | nil =>
    obtain rfl : s = t := by simpa using h
    exact ⟨[], .refl s, by simp⟩
  | cons turn rest ih =>
    rw [List.foldlM_cons] at h
    obtain ⟨u, hu, hrest⟩ := Option.bind_eq_some_iff.1 h
    obtain ⟨first, hwinds, hfirst⟩ := winds_step hr (step_of_turn? hu)
    obtain ⟨others, hwinds', hothers⟩ := ih (hwinds.receiver.trans hr) hrest
    refine ⟨others ++ first, hwinds.trans hwinds', ?_⟩
    rw [List.length_cons]
    omega

/-! ## The theorem -/

/-- How the workers come to their end after the receiver has stopped.

- `received`: no answer gets to the fold any more.
- `deeds`: no answer is handed in, and each worker claims at most one more key, then opens at most
  one more connection and then asks at most once more.
- `turns`: there are no more than four turns for each worker, whatever keys are left.
- `finished`: a worker that can take no turn has left its loop, unless opening a connection broke
  off for it. -/
structure WindsDown (p : WorkerPool C K V R) (s : PoolState C K V R) (later : List Turn)
    (t : PoolState C K V R) : Prop where
  received : receivedIn t.events = receivedIn s.events
  deeds : ∃ recent, t.events = recent ++ s.events ∧ (∀ w i a, .sent w i a ∉ recent) ∧
    ∀ w, (deedsIn w recent).Sublist [.claim, .connect, .ask]
  turns : later.length ≤ 4 * s.workers.length
  finished : ∀ w phase, t.workers[w]? = some phase → p.turn? t (.worker w) = none →
    phase = .finished ∨ ∃ i panic, phase = .broken i panic ∧ .opened w i (.broke panic) ∈ t.events

/-- What a failure of the fold for an index means for a run.

- `done`, `ending`: the run is over and has come to the failure.
- `last`: the fold was not called after it.
- `windsDown`: whatever turns the workers take then, they come to their end, and the run has still
  come to the failure. -/
structure StoppedBy (p : WorkerPool C K V R) (s : PoolState C K V R) (i : Nat) (a : Answer V)
    (f : Failure) : Prop where
  done : isOver s = true
  ending : ending s = .failed f
  last : ∃ calls, receivedIn s.events = calls ++ [(i, a)]
  windsDown : ∀ later t, later.foldlM p.turn? s = some t →
    WorkerPool.ending t = .failed f ∧ p.WindsDown s later t

theorem ending_of_stopped {f : Failure} (hr : s.receiver = .stopped f) : ending s = .failed f := by
  unfold ending
  rw [hr]

theorem receivedIn_append_of_undelivered {recent events : List (PoolEvent C V)}
    (h : ∀ e ∈ recent, e.isDelivery = false) : receivedIn (recent ++ events) = receivedIn events := by
  induction recent with
  | nil => rfl
  | cons e rest ih =>
    have hrest := ih fun e' he' => h e' (List.mem_cons_of_mem _ he')
    have he := h e List.mem_cons_self
    rw [List.cons_append, receivedIn_cons, hrest]
    cases e with
    | received => cases he
    | _ => exact List.append_nil _

theorem plan_of_worker_sublist (workers : List (WorkerPhase C K V)) (w : Nat) :
    (planOf workers w).Sublist [.claim, .connect, .ask] := by
  unfold planOf
  cases workers[w]? with
  | none => exact List.nil_sublist _
  | some phase => exact plan_sublist phase

theorem windsDown_of_turns {f : Failure} {later : List Turn} (hh : p.Honest t)
    (hr : s.receiver = .stopped f) (h : later.foldlM p.turn? s = some t) :
    p.WindsDown s later t := by
  obtain ⟨recent, hwinds, hturns⟩ := winds_of_turns hr h
  refine ⟨?_, ⟨recent, hwinds.events, ?_, ?_⟩, ?_, ?_⟩
  · rw [hwinds.events, receivedIn_append_of_undelivered hwinds.undelivered]
  · intro w i a hsent
    cases hwinds.undelivered _ hsent
  · intro w
    have hplans := (List.sublist_append_left _ _).trans (hwinds.plans w)
    exact hplans.trans (plan_of_worker_sublist s.workers w)
  · have hmost := tally_le_mul_length turnsAhead_le s.workers
    omega
  · intro w phase hw hnone
    cases hdone : isDone phase with
    | false =>
      obtain ⟨u, hu⟩ := exists_turn_of_not_isDone (p := p) hw hdone
      rw [hnone] at hu
      cases hu
    | true =>
      cases phase with
      | finished => exact .inl rfl
      | broken i panic => exact .inr ⟨i, panic, rfl, hh.workers w _ hw⟩
      | _ => cases hdone

/-- The turns that follow on a run make a longer run of it. -/
theorem after?_append {turns later : List Turn} (h : p.after? turns = some s)
    (hlater : later.foldlM p.turn? s = some t) : p.after? (turns ++ later) = some t := by
  unfold after? at h ⊢
  rw [List.foldlM_append, h]
  exact hlater

/-- **A failing fold stops the pool**, in whatever order the turns are taken and whatever the calls
come to. Once the fold has failed, the run has come to this failure, which is the first there was.
The fold is called no more, and each worker does no more than it takes to find that out. -/
theorem failing_fold_stops_the_pool (p : WorkerPool C K V R) {turns : List Turn}
    {s : PoolState C K V R} {i : Nat} {a : Answer V} {f : Failure} (h : p.after? turns = some s)
    (hfailed : p.FailedOn s.events i a f) : p.StoppedBy s i a f := by
  obtain ⟨hr, hlast⟩ := stopped_of_failedOn (honest_after? h) hfailed
  refine ⟨?_, ending_of_stopped hr, hlast, fun later t hlater => ?_⟩
  · unfold isOver
    rw [hr]
  · obtain ⟨recent, hwinds, -⟩ := winds_of_turns hr hlater
    have hh := honest_after? (after?_append h hlater)
    exact ⟨ending_of_stopped (hwinds.receiver.trans hr), windsDown_of_turns hh hr hlater⟩

/-- Two workers double five keys, and the fold takes nothing but small answers. -/
def choosy : WorkerPool Nat Nat Nat (List Nat) where
  keys := [7, 1, 2, 3, 4]
  wish := 2
  opening events := .answered (.ok events.length)
  asking _ _ key := .answered (.ok (2 * key))
  start := []
  fold received _ a :=
    match a with
    | .ok n => if n < 10 then .ok (received ++ [n]) else .error ⟨.driver, "too large", none⟩
    | .error f => .error f

/-- The fold fails for the first key. One worker has a connection then and asks for one more key, the
other opens one before, and two keys are left. -/
theorem failing_fold_stops_the_pool_choosy :
    ∃ turns s later t, choosy.after? turns = some s ∧
      choosy.FailedOn s.events 0 (.ok 14) ⟨.driver, "too large", none⟩ ∧
      choosy.StoppedBy s 0 (.ok 14) ⟨.driver, "too large", none⟩ ∧
      later.foldlM choosy.turn? s = some t ∧ choosy.WindsDown s later t ∧
      later.length = 7 ∧ t.next = 3 := by
  let turns : List Turn := [.worker 0, .worker 0, .worker 0, .worker 0, .receiver]
  let later : List Turn :=
    [.worker 1, .worker 0, .worker 1, .worker 0, .worker 1, .worker 0, .worker 1]
  obtain ⟨s, hs⟩ : ∃ s, choosy.after? turns = some s := ⟨_, rfl⟩
  obtain ⟨t, ht⟩ : ∃ t, later.foldlM choosy.turn? s = some t := by
    cases hs
    exact ⟨_, rfl⟩
  have hfailed : choosy.FailedOn s.events 0 (.ok 14) ⟨.driver, "too large", none⟩ := by
    cases hs
    exact ⟨[], [], [], 7, rfl, .start, rfl, rfl⟩
  have hnext : t.next = 3 := by
    cases hs
    cases ht
    rfl
  have hstopped := failing_fold_stops_the_pool choosy hs hfailed
  obtain ⟨-, hwinds⟩ := hstopped.windsDown later t ht
  exact ⟨turns, s, later, t, hs, hfailed, hstopped, ht, hwinds, rfl, hnext⟩

end WorkerPool

end Lakehouse
