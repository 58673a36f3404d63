import Lakehouse.Proofs.WorkerPool.Delivery

/-!
# Runs that break off

A failure to open a connection, a failure to answer and even a panic of a question are handed to the
fold as the answer for their key. The one call that is not guarded is that of opening a connection:
when it breaks off, the worker is gone, and the run breaks off in the end.

- `StaysBroken`: the invariant. Where opening broke off, the worker is broken from then on.
- `occurrences_received`: when the receiver has nothing more to wait for, every key that was claimed
  has been received, or opening a connection for it broke off.
- **`only_opening_breaks_off`**: where the fold never fails, a run ends with a result and every key
  received, unless opening a connection broke off in it. Then it ends with the panic of such a call,
  and the keys that are missing are those of these calls and, once every worker is gone, those that
  nobody claimed.
- `panic_of_opening_is_not_handed_on`: one such call can lose every key, where all others succeed.
-/

namespace Lakehouse

namespace WorkerPool

variable {C K V R : Type} {p : WorkerPool C K V R} {s t : PoolState C K V R}

/-! ## Workers that are gone -/

/-- Where opening a connection broke off, the worker is broken. -/
def StaysBroken (s : PoolState C K V R) : Prop :=
  ∀ w i panic, .opened w i (.broke panic) ∈ s.events → s.workers[w]? = some (.broken i panic)

/-- A worker that is broken is not the one that goes on. -/
theorem getElem?_set_of_broken {workers : List (WorkerPhase C K V)} {v w i : Nat} {panic : Panic}
    {old : WorkerPhase C K V} (new : WorkerPhase C K V) (hv : workers[v]? = some old)
    (hold : isDone old = false) (hw : workers[w]? = some (.broken i panic)) :
    (workers.set v new)[w]? = some (.broken i panic) := by
  by_cases hvw : v = w
  · subst hvw
    obtain rfl : old = .broken i panic := Option.some.inj (hv.symm.trans hw)
    cases hold
  · rw [List.getElem?_set_ne hvw, hw]

theorem staysBroken_init (p : WorkerPool C K V R) : StaysBroken p.init := by
  intro w i panic hmem
  cases hmem

/-- Every step leaves broken workers broken. -/
theorem staysBroken_step (h : StaysBroken s) (hstep : p.Step s t) : StaysBroken t := by
  intro w i panic hmem
  cases hstep with
  | claim hv hkey =>
    have hw := h w i panic (by simpa using hmem)
    exact getElem?_set_of_broken _ hv rfl hw
  | finish hv hkey => exact getElem?_set_of_broken _ hv rfl (h w i panic hmem)
  | connect hv hopen =>
    have hw := h w i panic (by simpa using hmem)
    exact getElem?_set_of_broken _ hv rfl hw
  | refuse hv hopen =>
    have hw := h w i panic (by simpa using hmem)
    exact getElem?_set_of_broken _ hv rfl hw
  | @breakOff v j key panic' hv hopen =>
    rcases List.mem_cons.1 hmem with heq | hmem
    · -- this is the worker that breaks now
      obtain ⟨rfl, rfl, rfl⟩ : w = v ∧ i = j ∧ panic = panic' := by simpa using heq
      obtain ⟨hlt, -⟩ := List.getElem?_eq_some_iff.1 hv
      exact List.getElem?_set_self hlt
    · exact getElem?_set_of_broken _ hv rfl (h w i panic hmem)
  | ask hv hask =>
    have hw := h w i panic (by simpa using hmem)
    exact getElem?_set_of_broken _ hv rfl hw
  | send hv hr =>
    have hw := h w i panic (by simpa using hmem)
    exact getElem?_set_of_broken _ hv rfl hw
  | giveUp hv hr => exact getElem?_set_of_broken _ hv rfl (h w i panic hmem)
  | fold hr hq hf => exact h w i panic (by simpa using hmem)
  | stop hr hq hf => exact h w i panic (by simpa using hmem)

/-- In every run broken workers stay broken. -/
theorem staysBroken_after? {turns : List Turn} (h : p.after? turns = some s) : StaysBroken s :=
  after?_induction (staysBroken_init p) (fun _ _ => staysBroken_step) h

/-! ## When the receiver has nothing more to wait for -/

theorem done_of_listening {result : R} (hover : isOver s = true)
    (hr : s.receiver = .listening result) :
    s.queue = [] ∧ ∀ phase ∈ s.workers, isDone phase = true := by
  unfold isOver at hover
  rw [hr] at hover
  simpa using hover

theorem le_tally_of_mem {workers : List (WorkerPhase C K V)} {phase : WorkerPhase C K V}
    (count : WorkerPhase C K V → Nat) (h : phase ∈ workers) : count phase ≤ tally count workers := by
  induction workers with
  | nil => cases h
  | cons first rest ih =>
    unfold tally
    rcases List.mem_cons.1 h with rfl | h
    · omega
    · have := ih h
      omega

/-- When everybody is done, an index that has been claimed is received, or owed by a worker that is
broken. -/
theorem occurrences_received {result : R} (h : p.Accounted s) (hover : isOver s = true)
    (hr : s.receiver = .listening result) (i : Nat) :
    occurrences i (receivedIn s.events) + tally (owes i) s.workers =
      if i < s.next then 1 else 0 := by
  obtain ⟨hq, hdone⟩ := done_of_listening hover hr
  have hheld : tally (holds i) s.workers = 0 := by
    refine tally_eq_zero fun phase hmem => ?_
    have := hdone phase hmem
    cases phase with
    | sending => cases this
    | _ => rfl
  have hclaimed := h.claimed i
  have hle := h.answered i
  have hge := h.kept result hr i
  rw [delivered, hq, hheld, occurrences_nil] at hle hge
  omega

/-- When everybody is done, an index is owed exactly if opening a connection for it broke off. -/
theorem owed_iff (hh : p.Honest s) (hb : StaysBroken s)
    (hdone : ∀ phase ∈ s.workers, isDone phase = true) (i : Nat) :
    0 < tally (owes i) s.workers ↔ ∃ w panic, .opened w i (.broke panic) ∈ s.events := by
  constructor
  · intro howed
    refine Classical.byContradiction fun hnone => ?_
    have hzero : tally (owes i) s.workers = 0 := by
      refine tally_eq_zero fun phase hmem => ?_
      cases phase with
      | broken j panic =>
        obtain ⟨w, hw⟩ := List.mem_iff_getElem?.1 hmem
        have hopened : .opened w j (.broke panic) ∈ s.events := hh.workers w _ hw
        refine if_neg ?_
        rintro rfl
        exact hnone ⟨w, panic, hopened⟩
      | finished => rfl
      | _ => cases hdone _ hmem
    omega
  · rintro ⟨w, panic, hopened⟩
    have hmem := List.mem_of_getElem? (hb w i panic hopened)
    have hle := le_tally_of_mem (owes i) hmem
    have hone : owes i (.broken i panic : WorkerPhase C K V) = 1 := if_pos rfl
    omega

/-! ## The theorem -/

/-- How a run ends if the fold does not fail.

- `delivers`: the fold was called at most once for an index, with the answer its calls came to: a
  failure to open a connection, what the question came to, or a failure that stands for a panic.
- `survives`, `complete`: there is a result exactly if opening never broke off, and then every index
  was received, once.
- `breaks`: otherwise the run ends with the panic of such a call.
- `missing`: what was not received is an index for which opening broke off, or not claimed.
- `unclaimed`: no index is left unclaimed unless every worker is gone. -/
structure EndsUnlessBroken (p : WorkerPool C K V R) (s : PoolState C K V R) : Prop where
  delivers : p.DeliversOnce s
  survives : (∃ result, ending s = .complete result) ↔
    ∀ w i panic, .opened w i (.broke panic) ∉ s.events
  complete : ∀ result, ending s = .complete result → s.receiver = .listening result ∧
    ((receivedIn s.events).map Prod.fst).Perm (List.range p.keys.length)
  breaks : (∃ w i panic, .opened w i (.broke panic) ∈ s.events) →
    ∃ w i panic, .opened w i (.broke panic) ∈ s.events ∧ ending s = .broke panic
  missing : ∀ i < p.keys.length, i ∉ (receivedIn s.events).map Prod.fst ↔
    s.next ≤ i ∨ ∃ w panic, .opened w i (.broke panic) ∈ s.events
  unclaimed : s.next < p.keys.length →
    ∀ w < p.workerCount, ∃ i panic, .opened w i (.broke panic) ∈ s.events

/-- Without a failure of the fold the receiver listens to the end. -/
theorem exists_listening (hh : p.Honest s)
    (hfold : ∀ result key a f, p.fold result key a ≠ .error f) :
    ∃ result, s.receiver = .listening result := by
  rcases hr : s.receiver with result | f
  · exact ⟨result, rfl⟩
  · have hfolds := hh.receiver
    generalize receivedIn s.events = received at hfolds
    rw [hr] at hfolds
    cases hfolds with
    | stop _ _ hf => exact absurd hf (hfold _ _ _ _)

/-- A receiver that listened to the end leaves a result, or the panic of a worker. -/
theorem ending_of_listening {result : R} (hr : s.receiver = .listening result) :
    firstBroken? s.workers = none ∧ ending s = .complete result ∨
      ∃ panic, firstBroken? s.workers = some panic ∧ ending s = .broke panic := by
  unfold ending
  rw [hr]
  cases firstBroken? s.workers with
  | none => exact .inl ⟨rfl, rfl⟩
  | some panic => exact .inr ⟨panic, rfl, rfl⟩

/-- There is a result exactly if opening never broke off. -/
theorem complete_iff {result : R} (hh : p.Honest s) (hb : StaysBroken s) (hover : isOver s = true)
    (hr : s.receiver = .listening result) :
    (∃ result, ending s = .complete result) ↔
      ∀ w i panic, .opened w i (.broke panic) ∉ s.events := by
  constructor
  · rintro ⟨result', hend⟩ w i panic hopened
    obtain ⟨-, -, hfinished⟩ := finished_of_complete hover hend
    have hmem := List.mem_of_getElem? (hb w i panic hopened)
    cases hfinished _ hmem
  · intro hnone
    rcases ending_of_listening hr with ⟨-, hend⟩ | ⟨panic, hbroken, -⟩
    · exact ⟨result, hend⟩
    · obtain ⟨i, hmem⟩ := mem_of_firstBroken? hbroken
      obtain ⟨w, hw⟩ := List.mem_iff_getElem?.1 hmem
      exact absurd (hh.workers w _ hw) (hnone w i panic)

/-- Where opening broke off, the run ends with the panic of such a call. -/
theorem exists_ending_of_broke {result : R} {w i : Nat} {panic : Panic} (hh : p.Honest s)
    (hb : StaysBroken s) (hr : s.receiver = .listening result)
    (hopened : .opened w i (.broke panic) ∈ s.events) :
    ∃ w i panic, .opened w i (.broke panic) ∈ s.events ∧ ending s = .broke panic := by
  have hmem := List.mem_of_getElem? (hb w i panic hopened)
  rcases ending_of_listening hr with ⟨hnone, -⟩ | ⟨first, -, hend⟩
  · exact absurd hmem (not_mem_of_firstBroken? hnone)
  · obtain ⟨v, j, earlier, hsuffix, -⟩ := opening_of_broke hh hend
    exact ⟨v, j, first, hsuffix.subset List.mem_cons_self, hend⟩

/-- What was not received was not claimed, or opening a connection for it broke off. -/
theorem not_received_iff {result : R} (hh : p.Honest s) (ha : p.Accounted s) (hb : StaysBroken s)
    (hover : isOver s = true) (hr : s.receiver = .listening result) (i : Nat) :
    i ∉ (receivedIn s.events).map Prod.fst ↔
      s.next ≤ i ∨ ∃ w panic, .opened w i (.broke panic) ∈ s.events := by
  obtain ⟨-, hdone⟩ := done_of_listening hover hr
  have hcount := occurrences_received ha hover hr i
  have howed := owed_iff hh hb hdone i
  rw [← List.count_eq_zero, ← howed]
  change occurrences i (receivedIn s.events) = 0 ↔ _
  split at hcount <;> omega

/-- While keys are left, only a worker that broke stops. -/
theorem exists_broke_of_unclaimed {result : R} {w : Nat} (hh : p.Honest s) (ha : p.Accounted s)
    (hover : isOver s = true) (hr : s.receiver = .listening result)
    (hleft : s.next < p.keys.length) (hw : w < p.workerCount) :
    ∃ i panic, .opened w i (.broke panic) ∈ s.events := by
  obtain ⟨-, hdone⟩ := done_of_listening hover hr
  have hlt : w < s.workers.length := by rwa [ha.crew]
  have hmem : s.workers[w] ∈ s.workers := List.getElem_mem hlt
  cases hphase : s.workers[w] with
  | broken i panic =>
    exact ⟨i, panic, hh.workers w _ (List.getElem?_eq_some_iff.2 ⟨hlt, hphase⟩)⟩
  | finished =>
    -- a worker finishes only when there is no key left to claim
    have := ha.exhausted result hr (hphase ▸ hmem)
    omega
  | _ => cases hdone _ (hphase ▸ hmem)

theorem endsUnlessBroken_of_isOver {turns : List Turn} (h : p.after? turns = some s)
    (hover : isOver s = true) (hfold : ∀ result key a f, p.fold result key a ≠ .error f) :
    p.EndsUnlessBroken s := by
  have hh := honest_after? h
  have ha := accounted_after? h
  have hb := staysBroken_after? h
  obtain ⟨result, hr⟩ := exists_listening hh hfold
  exact {
    delivers := deliversOnce_after? h
    survives := complete_iff hh hb hover hr
    complete := fun result' hend =>
      ⟨(finished_of_complete hover hend).1, indices_of_complete ha hover hend⟩
    breaks := fun ⟨_, _, _, hopened⟩ => exists_ending_of_broke hh hb hr hopened
    missing := fun i _ => not_received_iff hh ha hb hover hr i
    unclaimed := fun hleft _ hw => exists_broke_of_unclaimed hh ha hover hr hleft hw }

/-- **Only opening a connection breaks a run off.** Where the fold never fails, whatever else the
calls come to and in whatever order the turns are taken, a run ends with a result and every key
received, unless opening a connection broke off in it. -/
theorem only_opening_breaks_off (p : WorkerPool C K V R)
    (hfold : ∀ result key a f, p.fold result key a ≠ .error f) :
    p.AlwaysEnds p.EndsUnlessBroken :=
  alwaysEnds_of_isOver fun _ _ h hover => endsUnlessBroken_of_isOver h hover hfold

/-- How often a connection was opened, or tried to be. -/
def attempts (events : List (PoolEvent C V)) : Nat :=
  events.countP fun e =>
    match e with
    | .opened .. => true
    | _ => false

/-- Three keys are doubled and all answers kept. The attempts to open a connection come to the given
outcomes, and succeed after these. -/
def doubling (wish : Nat) (openings : List (Outcome Nat)) :
    WorkerPool Nat Nat Nat (List (Nat × Answer Nat)) where
  keys := [1, 2, 3]
  wish
  opening events := openings.getD (attempts events) (.answered (.ok (attempts events)))
  asking _ _ key := .answered (.ok (2 * key))
  start := []
  fold received key a := .ok (received ++ [(key, a)])

/-- Two workers, of which the first attempt to open a connection breaks off and the second is
refused. -/
def doublingByTwo : WorkerPool Nat Nat Nat (List (Nat × Answer Nat)) :=
  doubling 2 [.broke ⟨some "boom"⟩, .answered (.error ⟨.driver, "refused", none⟩)]

/-- One worker is gone, and the other one's keys are received, that of the refusal as well. -/
theorem only_opening_breaks_off_doubling :
    (∀ result key a f, doublingByTwo.fold result key a ≠ .error f) ∧
      ∃ turns s, doublingByTwo.after? turns = some s ∧ isOver s = true ∧
        doublingByTwo.EndsUnlessBroken s ∧ (receivedIn s.events).map Prod.fst = [1, 2] := by
  have hfold : ∀ result key a f, doublingByTwo.fold result key a ≠ .error f := by
    intro result key a f h
    cases h
  let turns : List Turn :=
    [.worker 0, .worker 0, .worker 1, .worker 1, .worker 1, .receiver, .worker 1, .worker 1,
      .worker 1, .worker 1, .receiver, .worker 1]
  have hrun : (doublingByTwo.after? turns).map (fun s =>
      (isOver s, (receivedIn s.events).map Prod.fst)) = some (true, [1, 2]) := by decide +kernel
  obtain ⟨s, hs, hlast⟩ := Option.map_eq_some_iff.1 hrun
  obtain ⟨hover, hreceived⟩ := Prod.mk.inj hlast
  obtain ⟨-, -, hend⟩ := only_opening_breaks_off doublingByTwo hfold turns s hs
  exact ⟨hfold, turns, s, hs, hover, hend hover, hreceived⟩

/-- One worker, whose first attempt to open a connection breaks off. -/
def doublingAlone : WorkerPool Nat Nat Nat (List (Nat × Answer Nat)) :=
  doubling 1 [.broke ⟨some "boom"⟩]

/-- A panic of opening a connection is handed to nobody. The only worker is gone, no key is received
and there is no result, although every further attempt would succeed and the fold never fails. -/
theorem panic_of_opening_is_not_handed_on :
    (∀ result key a f, doublingAlone.fold result key a ≠ .error f) ∧
      ∃ turns s, doublingAlone.after? turns = some s ∧ isOver s = true ∧
        (∀ result, ending s ≠ .complete result) ∧ receivedIn s.events = [] := by
  refine ⟨?_, [.worker 0, .worker 0], _, rfl, rfl, ?_, rfl⟩
  · intro result key a f h
    cases h
  · intro result h
    cases h

end WorkerPool

end Lakehouse
