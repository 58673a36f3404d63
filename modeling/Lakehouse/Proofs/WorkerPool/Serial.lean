import Lakehouse.Proofs.WorkerPool.Breaking

/-!
# A single worker

A pool of one worker is a loop in disguise. The worker may be far ahead of the receiver, and go on
after the receiver has stopped, but the answers come in the order of the keys, and the run ends as a
loop over the keys does.

- `Session`, `answerKey`, `serialFrom`, `serial`: the loop, with the connection that it has and the
  calls it made.
- `DependsOnCalls`: what calls end with depends on the calls before, and not on how far the receiver
  is. `dependsOnCalls_of_script` is the case of attempts to open a connection that go by a script and
  of questions that depend on nothing but the connection and the key.
- `settle`, `upcoming`: what a state will come to, by the loop: first the answers in the queue, then
  what the worker is about to do, then the keys that are left.
- `Serially`: the invariant that this is what the loop comes to. `ending_eq_serial` draws the
  conclusion.
- `InOrder`: the answers come in the order of the keys, whatever calls depend on.
-/

namespace Lakehouse

variable {C K V R : Type}

/-- The event is a call. -/
def PoolEvent.isCall : PoolEvent C V → Bool
  | .opened .. | .asked .. => true
  | .claimed .. | .sent .. | .received .. => false

/-- Where a loop over keys stands: the connection that it has, and the calls it has made, of which
the last comes first. -/
structure Session (C V : Type) where
  connection : Option C
  calls : List (PoolEvent C V)

namespace WorkerPool

/-! ## The loop -/

/-- The answer for a key over a connection, which is given up when the call breaks off. -/
def askOver (p : WorkerPool C K V R) (calls : List (PoolEvent C V)) (i : Nat) (key : K) (c : C) :
    Answer V × Session C V :=
  let outcome := p.asking calls c key
  (outcome.answer, ⟨outcome.kept c, .asked 0 i c outcome :: calls⟩)

/-- The answer for a key, over the connection there is or else over a new one. A failure to open one
is the answer itself. -/
def answerKey (p : WorkerPool C K V R) (session : Session C V) (i : Nat) (key : K) :
    Except Panic (Answer V × Session C V) :=
  match session.connection with
  | some c => .ok (p.askOver session.calls i key c)
  | none =>
    let outcome := p.opening session.calls
    let calls := .opened 0 i outcome :: session.calls
    match outcome with
    | .answered (.ok c) => .ok (p.askOver calls i key c)
    | .answered (.error f) => .ok (.error f, ⟨none, calls⟩)
    | .broke panic => .error panic

/-- Goes through some keys, of which the first has the index `i`, and folds every answer in before it
turns to the next key. -/
def serialFrom (p : WorkerPool C K V R) (session : Session C V) (result : R) (i : Nat) :
    List K → Ending R
  | [] => .complete result
  | key :: rest =>
    match p.answerKey session i key with
    | .error panic => .broke panic
    | .ok (a, session) =>
      match p.fold result key a with
      | .ok result => p.serialFrom session result (i + 1) rest
      | .error f => .failed f

/-- Goes through all keys. -/
def serial (p : WorkerPool C K V R) : Ending R :=
  p.serialFrom ⟨none, []⟩ p.start 0 p.keys

/-! ## Calls that do not depend on the receiver -/

/-- The calls among some events. -/
def callsIn (events : List (PoolEvent C V)) : List (PoolEvent C V) :=
  events.filter PoolEvent.isCall

/-- What a call ends with depends on the calls before it alone. It does not matter which keys have
been claimed, or how far the answers have come. -/
structure DependsOnCalls (p : WorkerPool C K V R) : Prop where
  opening : ∀ events, p.opening (callsIn events) = p.opening events
  asking : ∀ events c key, p.asking (callsIn events) c key = p.asking events c key

theorem attempts_callsIn (events : List (PoolEvent C V)) :
    attempts (callsIn events) = attempts events := by
  unfold attempts callsIn
  rw [List.countP_filter]
  refine List.countP_congr fun e _ => ?_
  cases e <;> simp [PoolEvent.isCall]

variable {p : WorkerPool C K V R} {s t : PoolState C K V R}

/-- Calls depend on calls alone if every attempt to open a connection ends as a script says, and
every question as the connection and the key say. -/
theorem dependsOnCalls_of_script {script : Nat → Outcome C} {map : C → K → Outcome V}
    (hopening : ∀ events, p.opening events = script (attempts events))
    (hasking : ∀ events c key, p.asking events c key = map c key) : p.DependsOnCalls where
  opening := fun events => by rw [hopening, hopening, attempts_callsIn]
  asking := fun events c key => by rw [hasking, hasking]

/-! ## What a state will come to -/

/-- Folds some answers in and goes on with the result, unless the fold fails. -/
def settle (p : WorkerPool C K V R) (goOn : R → Ending R) (result : R) :
    List (Nat × K × Answer V) → Ending R
  | [] => goOn result
  | (_, key, a) :: rest =>
    match p.fold result key a with
    | .ok result => p.settle goOn result rest
    | .error f => .failed f

/-- Goes on when a key has been answered, with the keys from `next` on. -/
def proceed (p : WorkerPool C K V R) (next i : Nat) (key : K) (result : R) :
    Except Panic (Answer V × Session C V) → Ending R
  | .error panic => .broke panic
  | .ok (a, session) =>
    p.settle (fun result => p.serialFrom session result next (p.keys.drop next)) result [(i, key, a)]

/-- Goes on by the loop from what a worker is about to do. -/
def upcomingOf (p : WorkerPool C K V R) (next : Nat) (calls : List (PoolEvent C V))
    (phase : WorkerPhase C K V) (result : R) : Ending R :=
  match phase with
  | .idle connection => p.serialFrom ⟨connection, calls⟩ result next (p.keys.drop next)
  | .claimed i key connection => p.proceed next i key result (p.answerKey ⟨connection, calls⟩ i key)
  | .sending i key a connection => p.proceed next i key result (.ok (a, ⟨connection, calls⟩))
  | .finished => .complete result
  | .broken _ panic => .broke panic

/-- Goes on by the loop when the answers in the queue have been folded in. -/
def upcoming (p : WorkerPool C K V R) (s : PoolState C K V R) : R → Ending R :=
  match s.workers with
  | [] => .complete
  | phase :: _ => p.upcomingOf s.next (callsIn s.events) phase

theorem settle_append (goOn : R → Ending R) (result : R) (queue more : List (Nat × K × Answer V)) :
    p.settle goOn result (queue ++ more) =
      p.settle (fun result => p.settle goOn result more) result queue := by
  induction queue generalizing result with
  | nil => rfl
  | cons entry rest ih =>
    obtain ⟨i, key, a⟩ := entry
    rw [List.cons_append, settle, settle]
    cases p.fold result key a with
    | ok result => exact ih result
    | error f => rfl

/-- The loop with one more key to go. -/
theorem serialFrom_drop {next : Nat} {key : K} (hkey : p.keys[next]? = some key)
    (session : Session C V) (result : R) :
    p.serialFrom session result next (p.keys.drop next) =
      p.proceed (next + 1) next key result (p.answerKey session next key) := by
  obtain ⟨hlt, rfl⟩ := List.getElem?_eq_some_iff.1 hkey
  rw [List.drop_eq_getElem_cons hlt, serialFrom]
  rcases p.answerKey session next p.keys[next] with panic | ⟨a, session'⟩
  · rfl
  · simp only [proceed, settle]

/-! ## The invariant -/

/-- What the loop comes to is what the state will come to. -/
def Serially (p : WorkerPool C K V R) (s : PoolState C K V R) : Prop :=
  match s.receiver with
  | .listening result => p.serial = p.settle (p.upcoming s) result s.queue
  | .stopped f => p.serial = .failed f

/-- In a crew of one, whoever takes a turn is the first and only worker. -/
theorem eq_singleton {α : Type} {crew : List α} {w : Nat} {a : α} (hone : crew.length ≤ 1)
    (hw : crew[w]? = some a) : w = 0 ∧ crew = [a] := by
  obtain ⟨hlt, -⟩ := List.getElem?_eq_some_iff.1 hw
  obtain rfl : w = 0 := by omega
  obtain ⟨b, rfl⟩ := List.length_eq_one_iff.1 (show crew.length = 1 by omega)
  exact ⟨rfl, by simpa using hw⟩

/-- A worker that goes on by the loop. -/
theorem Serially.go_on {old new : WorkerPhase C K V} {next : Nat} {events : List (PoolEvent C V)}
    (h : p.Serially s) (hs : s.workers = [old])
    (hupcoming : ∀ result, p.upcomingOf next (callsIn events) new result =
      p.upcomingOf s.next (callsIn s.events) old result) :
    p.Serially { s with next, workers := s.workers.set 0 new, events } := by
  have hsame : p.upcoming { s with next, workers := s.workers.set 0 new, events } = p.upcoming s := by
    unfold upcoming
    rw [hs]
    exact funext hupcoming
  unfold Serially at h ⊢
  rw [hsame]
  exact h

theorem serially_init (p : WorkerPool C K V R) : p.Serially p.init := by
  show p.serial = p.upcoming p.init p.start
  have hlimit := workerLimit_pos p.wish
  rcases hcount : p.workerCount with _ | count
  · -- without a worker there is no key
    have hkeys : p.keys = [] := List.length_eq_zero_iff.1 (by unfold workerCount at hcount; omega)
    unfold serial upcoming init
    rw [hcount, hkeys]
    rfl
  · unfold serial upcoming init
    rw [hcount]
    rfl

/-- Every step of a crew of one leaves what the loop comes to. -/
theorem serially_step (hcalls : p.DependsOnCalls) (hone : s.workers.length ≤ 1) (h : p.Serially s)
    (hstep : p.Step s t) : p.Serially t := by
  cases hstep with
  | @claim w connection key hw hkey =>
    obtain ⟨rfl, hs⟩ := eq_singleton hone hw
    exact h.go_on hs fun result =>
      (serialFrom_drop hkey ⟨connection, callsIn s.events⟩ result).symm
  | @finish w connection hw hkey =>
    obtain ⟨rfl, hs⟩ := eq_singleton hone hw
    refine h.go_on hs fun result => ?_
    simp only [upcomingOf]
    rw [List.drop_eq_nil_of_le (List.getElem?_eq_none_iff.1 hkey)]
    rfl
  | @connect w i key c hw hopen =>
    obtain ⟨rfl, hs⟩ := eq_singleton hone hw
    refine h.go_on hs fun result => ?_
    have hanswer : p.answerKey ⟨none, callsIn s.events⟩ i key =
        .ok (p.askOver (.opened 0 i (.answered (.ok c)) :: callsIn s.events) i key c) := by
      simp only [answerKey, hcalls.opening, hopen]
    simp only [upcomingOf, hanswer]
    rfl
  | @refuse w i key f hw hopen =>
    obtain ⟨rfl, hs⟩ := eq_singleton hone hw
    refine h.go_on hs fun result => ?_
    have hanswer : p.answerKey ⟨none, callsIn s.events⟩ i key =
        .ok (.error f, ⟨none, .opened 0 i (.answered (.error f)) :: callsIn s.events⟩) := by
      simp only [answerKey, hcalls.opening, hopen]
    simp only [upcomingOf, hanswer]
    rfl
  | @breakOff w i key panic hw hopen =>
    obtain ⟨rfl, hs⟩ := eq_singleton hone hw
    refine h.go_on hs fun result => ?_
    have hanswer : p.answerKey ⟨none, callsIn s.events⟩ i key = .error panic := by
      simp only [answerKey, hcalls.opening, hopen]
    simp only [upcomingOf, hanswer]
    rfl
  | @ask w i key c outcome hw hask =>
    obtain ⟨rfl, hs⟩ := eq_singleton hone hw
    refine h.go_on hs fun result => ?_
    have hanswer : p.answerKey ⟨some c, callsIn s.events⟩ i key =
        .ok (outcome.answer, ⟨outcome.kept c, .asked 0 i c outcome :: callsIn s.events⟩) := by
      simp only [answerKey, askOver, hcalls.asking, hask]
    simp only [upcomingOf, hanswer]
    rfl
  | @send w i key a connection result hw hr =>
    obtain ⟨rfl, hs⟩ := eq_singleton hone hw
    unfold Serially upcoming at h ⊢
    rw [hs, hr] at h
    rw [hs, hr]
    show p.serial = p.settle _ result (s.queue ++ [(i, key, a)])
    rw [settle_append]
    exact h
  | giveUp hw hr =>
    unfold Serially at h ⊢
    rw [hr] at h ⊢
    exact h
  | @fold i key a rest result next hr hq hf =>
    unfold Serially at h ⊢
    rw [hr, hq] at h
    simp only [settle, hf] at h
    exact h
  | @stop i key a rest result f hr hq hf =>
    unfold Serially at h ⊢
    rw [hr, hq] at h
    simp only [settle, hf] at h
    exact h

theorem workerCount_le_one (hwish : p.wish = 1) : p.workerCount ≤ 1 := by
  have hlimit : workerLimit p.wish = 1 := by rw [hwish]; rfl
  unfold workerCount
  omega

theorem length_workers_le_one {turns : List Turn} (hwish : p.wish = 1)
    (h : p.after? turns = some s) : s.workers.length ≤ 1 := by
  rw [(accounted_after? h).crew]
  exact workerCount_le_one hwish

/-- Induction over the runs of a crew of one. -/
theorem after?_induction_of_one {I : PoolState C K V R → Prop} (hwish : p.wish = 1)
    (init : I p.init) (step : ∀ s t, s.workers.length ≤ 1 → I s → p.Step s t → I t)
    {turns : List Turn} (h : p.after? turns = some s) : I s := by
  -- the size of the crew is known from the accounts, which are kept along with the invariant
  have hboth : p.Accounted s ∧ I s := by
    refine after?_induction (I := fun s => p.Accounted s ∧ I s) ⟨accounted_init p, init⟩ ?_ h
    rintro s t ⟨hacc, hs⟩ hstep
    have hone : s.workers.length ≤ 1 := hacc.crew ▸ workerCount_le_one hwish
    exact ⟨accounted_step hacc hstep, step s t hone hs hstep⟩
  exact hboth.2

/-- Where the run of a single worker is over, it has come to what the loop comes to. -/
theorem ending_eq_serial {turns : List Turn} (hwish : p.wish = 1) (hcalls : p.DependsOnCalls)
    (h : p.after? turns = some s) (hover : isOver s = true) : ending s = p.serial := by
  have hserial : p.Serially s := after?_induction_of_one hwish (serially_init p)
    (fun _ _ hone hs hstep => serially_step hcalls hone hs hstep) h
  unfold Serially at hserial
  rcases hr : s.receiver with result | f
  · obtain ⟨hq, hdone⟩ := done_of_listening hover hr
    rw [hr, hq] at hserial
    have hone := length_workers_le_one hwish h
    unfold upcoming at hserial
    unfold ending
    rw [hr, hserial]
    -- nobody is left, or one worker that is done
    rcases hworkers : s.workers with _ | ⟨phase, others⟩
    · rfl
    · rw [hworkers] at hone hdone
      obtain rfl : others = [] := List.eq_nil_of_length_eq_zero (by simpa using hone)
      have hphase := hdone phase List.mem_cons_self
      cases phase with
      | finished | broken => rfl
      | _ => cases hphase
  · rw [hr] at hserial
    unfold ending
    rw [hr, hserial]

/-! ## The order of the answers -/

/-- The index that a worker has in hand. -/
def inHand : WorkerPhase C K V → List Nat
  | .claimed i _ _ | .sending i _ _ _ | .broken i _ => [i]
  | .idle _ | .finished => []

/-- While the receiver listens, what it has received, what it will receive next and what the worker
has in hand are the indices that have been claimed, in order. -/
def InOrder (s : PoolState C K V R) : Prop :=
  ∀ result, s.receiver = .listening result →
    (receivedIn s.events).map Prod.fst ++ s.queue.map Prod.fst ++ s.workers.flatMap inHand =
      List.range s.next

theorem inOrder_init (p : WorkerPool C K V R) : InOrder p.init := by
  intro result hr
  show (List.replicate p.workerCount (WorkerPhase.idle none)).flatMap inHand = []
  refine List.flatMap_eq_nil_iff.2 fun phase hmem => ?_
  obtain ⟨-, rfl⟩ := List.mem_replicate.1 hmem
  rfl

/-- A crew of one keeps the order. -/
theorem inOrder_step (hone : s.workers.length ≤ 1) (h : InOrder s) (hstep : p.Step s t) :
    InOrder t := by
  intro result hr
  obtain ⟨before, hbefore⟩ := listening_of_step hstep hr
  have hs := h before hbefore
  cases hstep with
  | claim hw hkey =>
    obtain ⟨rfl, hcrew⟩ := eq_singleton hone hw
    rw [hcrew] at hs
    simp only [hcrew, List.range_succ, ← hs]
    simp [inHand]
  -- what the worker has in hand stays where it is, or goes to the end of the queue
  | finish hw _ | connect hw _ | refuse hw _ | breakOff hw _ | ask hw _ | send hw _ =>
    obtain ⟨rfl, hcrew⟩ := eq_singleton hone hw
    rw [hcrew] at hs
    simp only [hcrew, ← hs]
    simp [inHand]
  | giveUp hw hr' =>
    rw [hbefore] at hr'
    cases hr'
  | fold hr' hq hf =>
    rw [hq] at hs
    simp only [← hs]
    simp
  | stop hr' hq hf => cases hr

theorem inOrder_after? {turns : List Turn} (hwish : p.wish = 1) (h : p.after? turns = some s) :
    InOrder s :=
  after?_induction_of_one hwish (inOrder_init p) (fun _ _ => inOrder_step) h

/-- When the run of a single worker has ended with a result, the answers came in the order of the
keys, one for each. -/
theorem answers_in_order {turns : List Turn} {result : R} (hwish : p.wish = 1)
    (h : p.after? turns = some s) (hover : isOver s = true) (hend : ending s = .complete result) :
    ∃ answers : List (Answer V), answers.length = p.keys.length ∧
      receivedIn s.events = answers.mapIdx Prod.mk ∧
      ∀ i a, answers[i]? = some a → (i, a) ∈ answersIn s.events := by
  obtain ⟨hr, hq, hfinished⟩ := finished_of_complete hover hend
  have hnext := next_of_complete (accounted_after? h) hover hend
  have hnone : s.workers.flatMap inHand = [] :=
    List.flatMap_eq_nil_iff.2 fun phase hmem => by rw [hfinished phase hmem]; rfl
  have horder := inOrder_after? hwish h result hr
  rw [hq, hnone, hnext, List.map_nil, List.append_nil, List.append_nil] at horder
  have hreceived := eq_mapIdx_of_map_fst horder
  refine ⟨(receivedIn s.events).map Prod.snd, ?_, hreceived, fun i a hi => ?_⟩
  · have hlen := congrArg List.length horder
    rw [List.length_map, List.length_range] at hlen
    rw [List.length_map, hlen]
  · refine mem_answersIn_of_received (honest_after? h).history ?_
    obtain ⟨hlt, ha⟩ := List.getElem?_eq_some_iff.1 hi
    have hmem : (i, a) ∈ ((receivedIn s.events).map Prod.snd).mapIdx Prod.mk :=
      List.mem_mapIdx.2 ⟨i, hlt, by rw [ha]⟩
    rwa [← hreceived] at hmem

end WorkerPool

end Lakehouse
