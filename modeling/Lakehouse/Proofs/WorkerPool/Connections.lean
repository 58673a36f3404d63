import Lakehouse.Proofs.WorkerPool.Calls
import Lakehouse.Proofs.WorkerPool.Delivery
import Mathlib.Data.Set.Card

/-!
# Connections

A worker opens a connection when it has none and keeps it until a question over it breaks off. What
this comes to in a whole run, with all workers together, is counted here.

- `askedIn`, `refusedIn`: for which keys somebody asked, and for which a connection was refused, once
  for each time. Together they are the keys of all answers (`occurrences_answersIn`).
- `connects`, `breaks`: how many connections were opened, and how many questions broke off.
- `connects_le`: no more connections are opened than there are workers and questions that broke off.
- **`workers_keep_their_connections`**: in every run each worker keeps to its connection, and a
  refusal is the answer for its key, for which nobody asks. Where the fold does not end a run, every
  other key is asked for once, and as many keys go without a question as there are refusals.
-/

namespace Lakehouse

variable {C K V R : Type}

/-- The index that a question is put for. -/
@[simp, grind =]
def PoolEvent.asked? : PoolEvent C V → Option Nat
  | .asked _ i _ _ => some i
  | .claimed .. | .opened .. | .sent .. | .received .. => none

/-- The index for which a connection is refused. -/
@[simp, grind =]
def PoolEvent.refused? : PoolEvent C V → Option Nat
  | .opened _ i (.answered (.error _)) => some i
  | .opened _ _ (.answered (.ok _)) | .opened _ _ (.broke _) => none
  | .claimed .. | .asked .. | .sent .. | .received .. => none

/-- A connection is opened. -/
@[simp, grind =]
def PoolEvent.isConnect : PoolEvent C V → Bool
  | .opened _ _ (.answered (.ok _)) => true
  | .opened _ _ (.answered (.error _)) | .opened _ _ (.broke _) => false
  | .claimed .. | .asked .. | .sent .. | .received .. => false

/-- A question breaks off. -/
@[simp, grind =]
def PoolEvent.isBreak : PoolEvent C V → Bool
  | .asked _ _ _ (.broke _) => true
  | .asked _ _ _ (.answered _) => false
  | .claimed .. | .opened .. | .sent .. | .received .. => false

namespace WorkerPool

/-! ## Counting calls -/

/-- The indices for which questions were put, one for each question. -/
def askedIn (events : List (PoolEvent C V)) : List Nat :=
  events.filterMap PoolEvent.asked?

/-- The indices for which a connection was refused, one for each refusal. -/
def refusedIn (events : List (PoolEvent C V)) : List Nat :=
  events.filterMap PoolEvent.refused?

/-- How many connections were opened. -/
def connects (events : List (PoolEvent C V)) : Nat :=
  events.countP PoolEvent.isConnect

/-- How many questions broke off. -/
def breaks (events : List (PoolEvent C V)) : Nat :=
  events.countP PoolEvent.isBreak

theorem mem_refusedIn {events : List (PoolEvent C V)} {i : Nat} :
    i ∈ refusedIn events ↔ ∃ w f, .opened w i (.answered (.error f)) ∈ events := by
  rw [refusedIn, List.mem_filterMap]
  constructor
  · rintro ⟨e, he, hi⟩
    cases e with
    | opened w j outcome =>
      rcases outcome with (f | c) | panic
      · obtain rfl : j = i := Option.some.inj hi
        exact ⟨w, f, he⟩
      all_goals cases hi
    | _ => cases hi
  · rintro ⟨w, f, he⟩
    exact ⟨_, he, rfl⟩

/-- Every answer comes from a question or from a refusal. -/
theorem occurrences_answersIn (i : Nat) (events : List (PoolEvent C V)) :
    occurrences i (answersIn events) = (askedIn events).count i + (refusedIn events).count i := by
  induction events with
  | nil => rfl
  | cons e rest ih =>
    rw [answersIn_cons, occurrences_append, ih]
    unfold askedIn refusedIn
    cases e with
    | asked w j c outcome =>
      show _ + occurrences i [(j, outcome.answer)] =
        (j :: rest.filterMap PoolEvent.asked?).count i + (rest.filterMap PoolEvent.refused?).count i
      rw [List.count_cons, occurrences_cons, occurrences_nil]
      simp only [beq_iff_eq]
      omega
    | opened w j outcome =>
      rcases outcome with (f | c) | panic
      · show _ + occurrences i [(j, Except.error f)] =
          (rest.filterMap PoolEvent.asked?).count i +
            (j :: rest.filterMap PoolEvent.refused?).count i
        rw [List.count_cons, occurrences_cons, occurrences_nil]
        simp only [beq_iff_eq]
        omega
      all_goals rfl
    | _ => rfl

/-! ## How many connections are opened -/

/-- The connections that a worker has, or may have left behind when it stopped. -/
@[grind =]
def linked : WorkerPhase C K V → Nat
  | .idle none | .claimed _ _ none | .sending _ _ _ none => 0
  | .idle (some _) | .claimed _ _ (some _) | .sending _ _ _ (some _) => 1
  | .finished | .broken .. => 1

theorem linked_le_one (phase : WorkerPhase C K V) : linked phase ≤ 1 := by
  unfold linked
  split <;> omega

variable {p : WorkerPool C K V R} {s t : PoolState C K V R}

/-- A step opens no more connections than workers come by, or questions lose by breaking off. -/
theorem connects_step (hstep : p.Step s t) :
    connects t.events + breaks s.events + tally linked s.workers ≤
      connects s.events + breaks t.events + tally linked t.workers := by
  unfold connects breaks
  cases hstep with
  | @claim w connection key hw hkey =>
    have hset := tally_set linked (.claimed s.next key connection) hw
    cases connection <;> grind
  | @finish w connection hw hkey =>
    have hset := tally_set linked .finished hw
    have hone := linked_le_one (.idle connection : WorkerPhase C K V)
    grind
  | @connect w i key c hw hopen =>
    have hset := tally_set linked (.claimed i key (some c)) hw
    grind
  | @refuse w i key f hw hopen =>
    have hset := tally_set linked (.sending i key (.error f) none) hw
    grind
  | @breakOff w i key panic hw hopen =>
    have hset := tally_set linked (.broken i panic) hw
    grind
  | @ask w i key c outcome hw hask =>
    have hset := tally_set linked (.sending i key outcome.answer (outcome.kept c)) hw
    cases outcome with
    | answered a =>
      have hkept : linked (.sending i key a (some c) : WorkerPhase C K V) = 1 := rfl
      grind [Outcome.kept, Outcome.answer]
    | broke panic => grind [Outcome.kept, Outcome.answer]
  | @send w i key a connection result hw hr =>
    have hset := tally_set linked (.idle connection) hw
    cases connection <;> grind
  | @giveUp w i key a connection f hw hr =>
    have hset := tally_set linked .finished hw
    have hone := linked_le_one (.sending i key a connection : WorkerPhase C K V)
    grind
  | fold hr hq hf => simp
  | stop hr hq hf => simp

/-- In every run there are no more connections than workers and questions that broke off. -/
theorem connects_le {turns : List Turn} (h : p.after? turns = some s) :
    connects s.events ≤ p.workerCount + breaks s.events := by
  have hlinked : connects s.events ≤ breaks s.events + tally linked s.workers := by
    refine after?_induction (I := fun s => connects s.events ≤ breaks s.events + tally linked s.workers)
      (Nat.zero_le _) (fun s t hs hstep => ?_) h
    have := connects_step hstep
    omega
  have hcrew := (accounted_after? h).crew
  have hle := tally_le_mul_length linked_le_one s.workers
  omega

/-! ## The theorem -/

/-- How workers go about their connections, at any time in a run.

- `inTurn`: what a worker does next depends on its last call. Over a connection it asks for the key it
  opened it for and then for every key it claims, one after another, until a question breaks off;
  after that, and after a refusal, it opens another one for the next key it claims.
- `own`: it has opened the connection it asks over, and no question over it broke off since.
- `refused`: a refusal is the answer for its key, and nobody asks for that key.
- `few`: besides one for each worker, of which there are 128 at most and as many if it is left open,
  there is one connection for each question that broke off. -/
structure KeepsConnections (p : WorkerPool C K V R) (s : PoolState C K V R) : Prop where
  inTurn : ∀ e earlier, e :: earlier <:+ s.events → ∀ w, e.isCallOf w = true →
    Follows w (lastCall? w earlier) (claimsSince w earlier) e
  own : ∀ w i c outcome earlier, .asked w i c outcome :: earlier <:+ s.events →
    Connected w c earlier
  refused : ∀ w i f, .opened w i (.answered (.error f)) ∈ s.events →
    (∀ a, (i, a) ∈ receivedIn s.events → a = .error f) ∧ i ∉ askedIn s.events
  few : connects s.events ≤
    min (if p.wish = 0 then 128 else min p.wish 128) p.keys.length + breaks s.events

/-- What becomes of the keys of a run that the fold did not end.

- `complete`: the run ends with a result.
- `asked`: for every key there was one question, unless a connection was refused for it.
- `unanswered`: as many keys as there were refusals got a refusal as their answer. -/
structure AsksForEveryKey (p : WorkerPool C K V R) (s : PoolState C K V R) : Prop where
  complete : ∃ result, ending s = .complete result
  asked : ∀ i < p.keys.length, (∀ w f, .opened w i (.answered (.error f)) ∉ s.events) →
    (askedIn s.events).count i = 1
  unanswered : {i | ∃ w f, .opened w i (.answered (.error f)) ∈ s.events ∧
    (i, .error f) ∈ receivedIn s.events}.ncard = (refusedIn s.events).length

/-- There is one answer for an index at most, so that it comes from one question or one refusal. -/
theorem count_askedIn_add_count_refusedIn_le {turns : List Turn} (h : p.after? turns = some s)
    (i : Nat) : (askedIn s.events).count i + (refusedIn s.events).count i ≤ 1 := by
  have hclaimed := (accounted_after? h).claimed i
  rw [occurrences_answersIn] at hclaimed
  split at hclaimed <;> omega

theorem mem_answersIn_of_refusal {w i : Nat} {f : Failure}
    (h : .opened w i (.answered (.error f)) ∈ s.events) : (i, .error f) ∈ answersIn s.events :=
  mem_answersIn.2 ⟨_, h, rfl⟩

theorem keepsConnections_after? {turns : List Turn} (h : p.after? turns = some s) :
    p.KeepsConnections s where
  inTurn := (poised_after? h).history
  own := fun w i c outcome earlier hasked => connected_of_asked (poised_after? h).history hasked
  refused := by
    intro w i f hrefused
    constructor
    · intro a hreceived
      have hanswer := mem_answersIn_of_received (honest_after? h).history hreceived
      exact (deliversOnce_after? h).answer_unique hanswer (mem_answersIn_of_refusal hrefused)
    · rw [← List.count_pos_iff]
      have hpos := List.count_pos_iff.2 (mem_refusedIn.2 ⟨w, f, hrefused⟩)
      have hone := count_askedIn_add_count_refusedIn_le h i
      omega
  few := connects_le h

/-- When a run has ended with a result, what was answered has been received. -/
theorem mem_receivedIn_of_complete {turns : List Turn} {result : R} {i : Nat} {a : Answer V}
    (h : p.after? turns = some s) (hover : isOver s = true) (hend : ending s = .complete result)
    (hanswer : (i, a) ∈ answersIn s.events) : (i, a) ∈ receivedIn s.events := by
  have hindices := indices_of_complete (accounted_after? h) hover hend
  have honce := deliversOnce_after? h
  -- the index has been claimed, so that something was received for it, which is its only answer
  have hclaimed := (accounted_after? h).claimed i
  have hlt : i < p.keys.length := by
    have hpos : 0 < occurrences i (answersIn s.events) :=
      List.count_pos_iff.2 (List.mem_map.2 ⟨_, hanswer, rfl⟩)
    have hwithin := (accounted_after? h).within
    split at hclaimed <;> omega
  obtain ⟨⟨j, b⟩, hreceived, rfl⟩ := List.mem_map.1 (hindices.mem_iff.2 (List.mem_range.2 hlt))
  have hother := mem_answersIn_of_received (honest_after? h).history hreceived
  exact honce.answer_unique hanswer hother ▸ hreceived

/-- A run that ends with a result has asked for every key that a connection was there for. -/
theorem asksForEveryKey_of_complete {turns : List Turn} {result : R} (h : p.after? turns = some s)
    (hover : isOver s = true) (hend : ending s = .complete result) : p.AsksForEveryKey s where
  complete := ⟨result, hend⟩
  asked := by
    intro i hi hnone
    have hacc := accounted_after? h
    obtain ⟨-, -, hfinished⟩ := finished_of_complete hover hend
    have howed : tally (owes i) s.workers = 0 :=
      tally_eq_zero fun phase hmem => by rw [hfinished phase hmem]; rfl
    have hclaimed := hacc.claimed i
    rw [howed, occurrences_answersIn, next_of_complete hacc hover hend, if_pos hi] at hclaimed
    have hzero : (refusedIn s.events).count i = 0 := by
      refine List.count_eq_zero.2 fun hmem => ?_
      obtain ⟨w, f, hrefused⟩ := mem_refusedIn.1 hmem
      exact hnone w f hrefused
    omega
  unanswered := by
    have hnodup : (refusedIn s.events).Nodup := by
      refine List.nodup_iff_count.2 fun i => ?_
      have hone := count_askedIn_add_count_refusedIn_le h i
      omega
    have hkeys : {i | ∃ w f, .opened w i (.answered (.error f)) ∈ s.events ∧
        (i, .error f) ∈ receivedIn s.events} = ((refusedIn s.events).toFinset : Set Nat) := by
      ext i
      rw [Set.mem_ofPred_eq, Finset.mem_coe, List.mem_toFinset, mem_refusedIn]
      constructor
      · rintro ⟨w, f, hrefused, -⟩
        exact ⟨w, f, hrefused⟩
      · rintro ⟨w, f, hrefused⟩
        have hanswer := mem_answersIn_of_refusal hrefused
        exact ⟨w, f, hrefused, mem_receivedIn_of_complete h hover hend hanswer⟩
    rw [hkeys, Set.ncard_coe_finset, List.toFinset_card_of_nodup hnodup]

/-- **Workers keep their connections**, in whatever order the turns are taken. Each worker asks over a
connection of its own as long as its questions are answered, and over no other. A refusal is the
answer for the one key it was claimed for. If opening never breaks off, every run comes to its end,
and unless the fold failed there was one question for every other key. -/
theorem workers_keep_their_connections (p : WorkerPool C K V R)
    (hopen : ∀ events panic, p.opening events ≠ .broke panic) :
    (∀ turns s, p.after? turns = some s → p.KeepsConnections s) ∧
      p.AlwaysEnds fun s => (∀ f, ending s ≠ .failed f) → p.AsksForEveryKey s := by
  refine ⟨fun turns s h => keepsConnections_after? h, ?_⟩
  refine alwaysEnds_of_isOver fun turns s h hover hfold => ?_
  cases hend : ending s with
  | complete result => exact asksForEveryKey_of_complete h hover hend
  | failed f => exact absurd hend (hfold f)
  | broke panic =>
    obtain ⟨-, -, earlier, -, hbroke⟩ := opening_of_broke (honest_after? h) hend
    exact absurd hbroke (hopen earlier panic)

/-- Four keys are doubled, but for the second, which breaks off. The first connection is refused, and
the others go by the number of events before them. -/
def shaky : WorkerPool Nat Nat Nat (List (Nat × Answer Nat)) where
  keys := [1, 2, 3, 4]
  wish := 1
  opening events :=
    if events.length < 2 then .answered (.error ⟨.driver, "refused", none⟩)
    else .answered (.ok events.length)
  asking _ _ key := if key = 2 then .broke ⟨some "lost"⟩ else .answered (.ok (2 * key))
  start := []
  fold received key a := .ok (received ++ [(key, a)])

/-- The worker is refused a connection, loses its first one and keeps the second for two keys. -/
theorem workers_keep_their_connections_shaky :
    (∀ events panic, shaky.opening events ≠ .broke panic) ∧
      ∃ turns s, shaky.after? turns = some s ∧ isOver s = true ∧ (∀ f, ending s ≠ .failed f) ∧
        shaky.KeepsConnections s ∧ shaky.AsksForEveryKey s ∧ refusedIn s.events = [0] ∧
        askedIn s.events = [3, 2, 1] ∧ connects s.events = 2 ∧ breaks s.events = 1 := by
  have hopen : ∀ events panic, shaky.opening events ≠ .broke panic := by
    intro events panic h
    simp only [shaky] at h
    split at h <;> cases h
  have hfold : ∀ result key a f, shaky.fold result key a ≠ .error f := by
    intro result key a f h
    cases h
  let turns : List Turn :=
    [.worker 0, .worker 0, .worker 0, .worker 0, .worker 0, .worker 0, .worker 0, .receiver,
      .worker 0, .worker 0, .worker 0, .worker 0, .worker 0, .worker 0, .receiver, .worker 0,
      .worker 0, .receiver, .receiver]
  have hrun : (shaky.after? turns).map (fun s => (isOver s, refusedIn s.events, askedIn s.events,
      connects s.events, breaks s.events)) = some (true, [0], [3, 2, 1], 2, 1) := by
    decide +kernel
  obtain ⟨s, hs, hlast⟩ := Option.map_eq_some_iff.1 hrun
  simp only [Prod.mk.injEq] at hlast
  obtain ⟨hover, hrefused, hasked, hconnects, hbreaks⟩ := hlast
  have hunfailed : ∀ f, ending s ≠ .failed f := by
    intro f hend
    obtain ⟨-, -, key, a, result, -, -, -, hf⟩ := calls_of_failed (honest_after? hs) hend
    exact hfold result key a f hf
  obtain ⟨hkeeps, hends⟩ := workers_keep_their_connections shaky hopen
  obtain ⟨-, -, hasks⟩ := hends turns s hs
  exact ⟨hopen, turns, s, hs, hover, hunfailed, hkeeps turns s hs, hasks hover hunfailed, hrefused,
    hasked, hconnects, hbreaks⟩

end WorkerPool

end Lakehouse
