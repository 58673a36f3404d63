import Lakehouse.Proofs.WorkerPool.History
import Mathlib.Data.List.Nodup
import Mathlib.Data.List.Perm.Basic

/-!
# Every key is delivered once

Workers race for the keys, and an answer passes from a call to a worker, from there to the queue and
from there to the fold. The accounts below follow each index on that way.

- `Accounted`: an index that has been claimed is either owed or answered, once; an answer is with a
  worker, in the queue or received, once, and none is lost while the receiver listens.
- `indices_of_complete`: a run that ends with a result has received every index once.
- **`delivers_every_key_once`**: in every run the fold is called at most once for an index, with its
  key and the answer that was produced for it. Every run comes to an end, with a result only if
  every index was received, and otherwise with the first failure of the fold or with what opening a
  connection broke off with.
-/

namespace Lakehouse

namespace WorkerPool

variable {C K V R : Type}

/-! ## Counting -/

/-- How often an index occurs. -/
def occurrences {α : Type} (i : Nat) (entries : List (Nat × α)) : Nat :=
  (entries.map Prod.fst).count i

@[simp, grind =] theorem occurrences_nil {α : Type} (i : Nat) :
    occurrences i ([] : List (Nat × α)) = 0 := rfl

@[simp, grind =] theorem occurrences_cons {α : Type} (i : Nat) (e : Nat × α)
    (entries : List (Nat × α)) :
    occurrences i (e :: entries) = occurrences i entries + if e.1 = i then 1 else 0 := by
  simp [occurrences, List.count_cons]

@[simp, grind =] theorem occurrences_append {α : Type} (i : Nat) (as bs : List (Nat × α)) :
    occurrences i (as ++ bs) = occurrences i as + occurrences i bs := by
  simp [occurrences]

/-- The worker has claimed the index and come to no answer. -/
@[grind =]
def owes (i : Nat) : WorkerPhase C K V → Nat
  | .claimed j _ _ | .broken j _ => if j = i then 1 else 0
  | .idle _ | .sending .. | .finished => 0

/-- The worker has an answer for the index to send off. -/
@[grind =]
def holds (i : Nat) : WorkerPhase C K V → Nat
  | .sending j _ _ _ => if j = i then 1 else 0
  | .idle _ | .claimed .. | .finished | .broken .. => 0

theorem tally_eq_zero {count : WorkerPhase C K V → Nat} {workers : List (WorkerPhase C K V)}
    (h : ∀ phase ∈ workers, count phase = 0) : tally count workers = 0 := by
  induction workers with
  | nil => rfl
  | cons phase rest ih =>
    have hphase := h phase List.mem_cons_self
    have hrest := ih fun q hq => h q (List.mem_cons_of_mem _ hq)
    rw [tally, hphase, hrest]

theorem tally_le_mul_length {count : WorkerPhase C K V → Nat} {most : Nat}
    (h : ∀ phase, count phase ≤ most) (workers : List (WorkerPhase C K V)) :
    tally count workers ≤ most * workers.length := by
  induction workers with
  | nil => exact Nat.zero_le _
  | cons phase rest ih =>
    have hphase := h phase
    rw [tally, List.length_cons, Nat.mul_succ]
    omega

/-- The answers for an index that are on their way or have arrived. -/
def delivered (i : Nat) (s : PoolState C K V R) : Nat :=
  tally (holds i) s.workers + occurrences i s.queue + occurrences i (receivedIn s.events)

/-- The accounts of a run, index by index. -/
structure Accounted (p : WorkerPool C K V R) (s : PoolState C K V R) : Prop where
  crew : s.workers.length = p.workerCount
  /-- Only keys that there are get claimed. -/
  within : s.next ≤ p.keys.length
  /-- An index that has been claimed is owed or answered, and not twice. -/
  claimed : ∀ i, tally (owes i) s.workers + occurrences i (answersIn s.events) =
    if i < s.next then 1 else 0
  /-- Nothing is sent or received that was not answered. -/
  answered : ∀ i, delivered i s ≤ occurrences i (answersIn s.events)
  /-- Nothing that was answered is lost while the receiver listens. -/
  kept : ∀ result, s.receiver = .listening result →
    ∀ i, occurrences i (answersIn s.events) ≤ delivered i s
  /-- While the receiver listens, a worker finishes only when all keys are claimed. -/
  exhausted : ∀ result, s.receiver = .listening result → .finished ∈ s.workers →
    p.keys.length ≤ s.next

theorem accounted_init (p : WorkerPool C K V R) : p.Accounted p.init where
  crew := by simp [init]
  within := Nat.zero_le _
  claimed := by
    intro i
    have : tally (owes i) p.init.workers = 0 := by
      refine tally_eq_zero fun phase hmem => ?_
      obtain ⟨-, rfl⟩ := List.mem_replicate.1 hmem
      rfl
    rw [this]
    simp [init]
  answered := by
    intro i
    have : tally (holds i) p.init.workers = 0 := by
      refine tally_eq_zero fun phase hmem => ?_
      obtain ⟨-, rfl⟩ := List.mem_replicate.1 hmem
      rfl
    rw [delivered, this]
    simp [init]
  kept := by
    intro result _ i
    simp [init]
  exhausted := by
    intro result _ hmem
    obtain ⟨-, h⟩ := List.mem_replicate.1 hmem
    cases h

variable {p : WorkerPool C K V R} {s t : PoolState C K V R}

/-- A step leaves an index owed or answered as often as before, or claims it. -/
theorem claimed_step (hstep : p.Step s t) (i : Nat) :
    tally (owes i) t.workers + occurrences i (answersIn t.events) + (if i < s.next then 1 else 0) =
      tally (owes i) s.workers + occurrences i (answersIn s.events) +
        if i < t.next then 1 else 0 := by
  cases hstep with
  | @claim w connection key hw hkey =>
    have hset := tally_set (owes i) (.claimed s.next key connection) hw
    grind
  | finish hw hkey =>
    have hset := tally_set (owes i) .finished hw
    grind
  | @connect w j key c hw hopen =>
    have hset := tally_set (owes i) (.claimed j key (some c)) hw
    grind
  | @refuse w j key f hw hopen =>
    have hset := tally_set (owes i) (.sending j key (.error f) none) hw
    grind
  | @breakOff w j key panic hw hopen =>
    have hset := tally_set (owes i) (.broken j panic) hw
    grind
  | @ask w j key c outcome hw hask =>
    have hset := tally_set (owes i) (.sending j key outcome.answer (outcome.kept c)) hw
    grind
  | @send w j key a connection result hw hr =>
    have hset := tally_set (owes i) (.idle connection) hw
    grind
  | giveUp hw hr =>
    have hset := tally_set (owes i) .finished hw
    grind
  | fold hr hq hf => simp
  | stop hr hq hf => simp

/-- What is answered goes on its way in the same step, and is lost only where the receiver stops. -/
theorem delivered_step (hstep : p.Step s t) (i : Nat) :
    delivered i t + occurrences i (answersIn s.events) ≤
        delivered i s + occurrences i (answersIn t.events) ∧
      (∀ result, t.receiver = .listening result →
        delivered i s + occurrences i (answersIn t.events) ≤
          delivered i t + occurrences i (answersIn s.events)) := by
  unfold delivered
  -- only one worker's share of the sums changes, and `tally_set` says by how much
  cases hstep with
  | @claim w connection key hw hkey =>
    have hset := tally_set (holds i) (.claimed s.next key connection) hw
    grind
  | finish hw hkey =>
    have hset := tally_set (holds i) .finished hw
    grind
  | @connect w j key c hw hopen =>
    have hset := tally_set (holds i) (.claimed j key (some c)) hw
    grind
  | @refuse w j key f hw hopen =>
    have hset := tally_set (holds i) (.sending j key (.error f) none) hw
    grind
  | @breakOff w j key panic hw hopen =>
    have hset := tally_set (holds i) (.broken j panic) hw
    grind
  | @ask w j key c outcome hw hask =>
    have hset := tally_set (holds i) (.sending j key outcome.answer (outcome.kept c)) hw
    grind
  | @send w j key a connection result hw hr =>
    have hset := tally_set (holds i) (.idle connection) hw
    grind
  | giveUp hw hr =>
    have hset := tally_set (holds i) .finished hw
    grind
  | fold hr hq hf =>
    rw [hq]
    grind
  | stop hr hq hf =>
    rw [hq]
    grind

/-- A receiver that listens has listened all along. -/
theorem listening_of_step {result : R} (hstep : p.Step s t)
    (hr : t.receiver = .listening result) : ∃ result', s.receiver = .listening result' := by
  cases hstep with
  | giveUp hw hstop => exact ⟨result, hr⟩
  | stop hl hq hf => cases hr
  | fold hl hq hf => exact ⟨_, hl⟩
  | _ => exact ⟨result, hr⟩

/-- Every step keeps the accounts. -/
theorem accounted_step (h : p.Accounted s) (hstep : p.Step s t) : p.Accounted t where
  crew := by cases hstep <;> simpa using h.crew
  within := by
    have hs := h.within
    cases hstep with
    | claim hw hkey =>
      obtain ⟨hlt, -⟩ := List.getElem?_eq_some_iff.1 hkey
      exact hlt
    | _ => exact hs
  claimed := by
    intro i
    have hs := h.claimed i
    have := claimed_step hstep i
    omega
  answered := by
    intro i
    have hs := h.answered i
    have := (delivered_step hstep i).1
    omega
  kept := by
    intro result hr i
    obtain ⟨result', hr'⟩ := listening_of_step hstep hr
    have hs := h.kept result' hr' i
    have := (delivered_step hstep i).2 result hr
    omega
  exhausted := by
    intro result hr hmem
    obtain ⟨result', hr'⟩ := listening_of_step hstep hr
    have hs := h.exhausted result' hr'
    cases hstep with
    | finish hw hkey => exact List.getElem?_eq_none_iff.1 hkey
    | giveUp hw hstop =>
      -- a worker gives up only when nobody listens
      rw [hstop] at hr'
      cases hr'
    | fold hl hq hf => exact hs hmem
    | stop hl hq hf => exact hs hmem
    | claim hw hkey =>
      have := hs ((List.mem_or_eq_of_mem_set hmem).resolve_right (by simp))
      exact Nat.le_succ_of_le this
    | _ => exact hs ((List.mem_or_eq_of_mem_set hmem).resolve_right (by simp))

/-- Every run keeps the accounts. -/
theorem accounted_after? {turns : List Turn} (h : p.after? turns = some s) : p.Accounted s :=
  after?_induction (accounted_init p) (fun _ _ => accounted_step) h

/-! ## What a run comes to -/

theorem mem_of_firstBroken? {workers : List (WorkerPhase C K V)} {panic : Panic}
    (h : firstBroken? workers = some panic) : ∃ i, .broken i panic ∈ workers := by
  induction workers with
  | nil => cases h
  | cons phase rest ih =>
    cases phase with
    | broken i q =>
      obtain rfl : q = panic := by simpa [firstBroken?] using h
      exact ⟨i, List.mem_cons_self⟩
    | _ =>
      obtain ⟨i, hi⟩ := ih h
      exact ⟨i, List.mem_cons_of_mem _ hi⟩

theorem not_mem_of_firstBroken? {workers : List (WorkerPhase C K V)} {i : Nat} {panic : Panic}
    (h : firstBroken? workers = none) : .broken i panic ∉ workers := by
  induction workers with
  | nil => exact List.not_mem_nil
  | cons phase rest ih =>
    cases phase with
    | broken => cases h
    | _ => simpa using ih h

/-- A run that is over with a result has everybody finished and everything received. -/
theorem finished_of_complete {result : R} (hover : isOver s = true)
    (hend : ending s = .complete result) :
    s.receiver = .listening result ∧ s.queue = [] ∧ ∀ phase ∈ s.workers, phase = .finished := by
  unfold ending at hend
  split at hend
  · cases hend
  · cases hend
  · next hr hbroken =>
    obtain rfl := Ending.complete.inj hend
    unfold isOver at hover
    rw [hr] at hover
    obtain ⟨hq, hdone⟩ : s.queue = [] ∧ ∀ phase ∈ s.workers, isDone phase = true := by
      simpa using hover
    refine ⟨hr, hq, fun phase hmem => ?_⟩
    cases phase with
    | finished => rfl
    | broken i panic => exact absurd hmem (not_mem_of_firstBroken? hbroken)
    | _ => cases hdone _ hmem

theorem workerLimit_pos (wish : Nat) : 0 < workerLimit wish := by
  unfold workerLimit mostConnections
  split <;> omega

/-- A run that is over with a result has claimed every key. -/
theorem next_of_complete {result : R} (h : p.Accounted s) (hover : isOver s = true)
    (hend : ending s = .complete result) : s.next = p.keys.length := by
  obtain ⟨hr, -, hfin⟩ := finished_of_complete hover hend
  have hwithin := h.within
  rcases hw : s.workers with _ | ⟨phase, rest⟩
  · -- there are no workers only when there are no keys
    have hcrew := h.crew
    rw [hw] at hcrew
    have := workerLimit_pos p.wish
    unfold workerCount at hcrew
    simp only [List.length_nil] at hcrew
    omega
  · have hphase : phase = .finished := hfin phase (by rw [hw]; exact List.mem_cons_self)
    have := h.exhausted result hr (by rw [hw, hphase]; exact List.mem_cons_self)
    omega

/-- **Completeness.** A run that is over with a result has received every index, once. -/
theorem indices_of_complete {result : R} (h : p.Accounted s) (hover : isOver s = true)
    (hend : ending s = .complete result) :
    ((receivedIn s.events).map Prod.fst).Perm (List.range p.keys.length) := by
  obtain ⟨hr, hq, hfin⟩ := finished_of_complete hover hend
  have hnext := next_of_complete h hover hend
  have hcount : ∀ i, occurrences i (receivedIn s.events) = if i < p.keys.length then 1 else 0 := by
    intro i
    have howed : tally (owes i) s.workers = 0 :=
      tally_eq_zero fun phase hmem => by rw [hfin phase hmem]; rfl
    have hheld : tally (holds i) s.workers = 0 :=
      tally_eq_zero fun phase hmem => by rw [hfin phase hmem]; rfl
    have hclaimed := h.claimed i
    have hle := h.answered i
    have hge := h.kept result hr i
    rw [delivered, hq, hheld, occurrences_nil] at hle hge
    rw [howed, hnext] at hclaimed
    omega
  refine (List.perm_ext_iff_of_nodup ?_ List.nodup_range).2 fun i => ?_
  · refine List.nodup_iff_count.2 fun i => ?_
    have := hcount i
    unfold occurrences at this
    split at this <;> omega
  · have := hcount i
    unfold occurrences at this
    rw [← List.count_pos_iff, this, List.mem_range]
    split <;> simp_all

/-- Entries whose indices are in order are numbered by their places. -/
theorem eq_mapIdx_of_map_fst {α : Type} {n : Nat} {entries : List (Nat × α)}
    (h : entries.map Prod.fst = List.range n) :
    entries = (entries.map Prod.snd).mapIdx Prod.mk := by
  refine List.ext_getElem (by simp) fun i hi hi' => ?_
  have hindex : (entries.map Prod.fst)[i]? = some i := by
    have hlen := congrArg List.length h
    rw [List.length_map, List.length_range] at hlen
    rw [h, List.getElem?_range (by omega)]
  rw [List.getElem?_map, List.getElem?_eq_getElem hi] at hindex
  rw [List.getElem_mapIdx, List.getElem_map]
  exact Prod.ext (Option.some.inj hindex) rfl

/-- Entries whose indices are those below `n`, in any order, can be put in order. -/
theorem exists_perm_mapIdx {α : Type} {n : Nat} {entries : List (Nat × α)}
    (h : (entries.map Prod.fst).Perm (List.range n)) :
    ∃ as : List α, as.length = n ∧ entries.Perm (as.mapIdx Prod.mk) := by
  have hfst : List.Forall₂ (fun i e => i = e.1) (entries.map Prod.fst) entries := by
    rw [List.forall₂_map_left_iff]
    exact List.forall₂_same.2 fun _ _ => rfl
  obtain ⟨sorted, hsorted, hperm⟩ := List.perm_comp_forall₂ h.symm hfst
  have hindices : List.range n = sorted.map Prod.fst :=
    List.forall₂_eq_eq_eq ▸ List.forall₂_map_right_iff.2 hsorted
  have hlen := congrArg List.length hindices
  rw [List.length_range, List.length_map] at hlen
  refine ⟨sorted.map Prod.snd, by rw [List.length_map, hlen], ?_⟩
  exact eq_mapIdx_of_map_fst hindices.symm ▸ hperm.symm

/-- A run that is over with a result has received one answer for every key, in some order. -/
theorem answers_of_complete {turns : List Turn} {result : R} (h : p.after? turns = some s)
    (hover : isOver s = true) (hend : ending s = .complete result) :
    ∃ answers : List (Answer V), answers.length = p.keys.length ∧
      (receivedIn s.events).Perm (answers.mapIdx Prod.mk) ∧
      ∀ i a, answers[i]? = some a → (i, a) ∈ answersIn s.events := by
  obtain ⟨answers, hlen, hperm⟩ :=
    exists_perm_mapIdx (indices_of_complete (accounted_after? h) hover hend)
  refine ⟨answers, hlen, hperm, fun i a hi => ?_⟩
  refine mem_answersIn_of_received (honest_after? h).history (hperm.mem_iff.2 ?_)
  obtain ⟨hlt, rfl⟩ := List.getElem?_eq_some_iff.1 hi
  exact List.mem_mapIdx.2 ⟨i, hlt, rfl⟩

/-- A run that failed did so in the last call of the fold, after calls that all succeeded. -/
theorem calls_of_failed {f : Failure} (h : p.Honest s) (hend : ending s = .failed f) :
    ∃ calls i key a result, receivedIn s.events = calls ++ [(i, a)] ∧
      p.Folds calls (.listening result) ∧ p.keys[i]? = some key ∧
      p.fold result key a = .error f := by
  have hr : s.receiver = .stopped f := by
    unfold ending at hend
    split at hend
    · next hr => exact Ending.failed.inj hend ▸ hr
    · cases hend
    · cases hend
  have hfolds := h.receiver
  generalize receivedIn s.events = received at hfolds
  rw [hr] at hfolds
  cases hfolds with
  | stop hcalls hkey hf => exact ⟨_, _, _, _, _, rfl, hcalls, hkey, hf⟩

/-- A worker that is broken broke off when it opened a connection. -/
theorem opening_of_broken {w i : Nat} {panic : Panic} (h : p.Honest s)
    (hw : s.workers[w]? = some (.broken i panic)) :
    ∃ earlier, .opened w i (.broke panic) :: earlier <:+ s.events ∧
      p.opening earlier = .broke panic := by
  obtain ⟨later, earlier, heq⟩ := List.append_of_mem (h.workers w _ hw)
  have hs : .opened w i (.broke panic) :: earlier <:+ s.events :=
    heq ▸ List.suffix_append later _
  exact ⟨earlier, hs, h.history.explains hs⟩

theorem opening_of_broke {panic : Panic} (h : p.Honest s) (hend : ending s = .broke panic) :
    ∃ w i earlier, .opened w i (.broke panic) :: earlier <:+ s.events ∧
      p.opening earlier = .broke panic := by
  have hbroken : firstBroken? s.workers = some panic := by
    unfold ending at hend
    split at hend
    · cases hend
    · next hb => exact Ending.broke.inj hend ▸ hb
    · cases hend
  obtain ⟨i, hmem⟩ := mem_of_firstBroken? hbroken
  obtain ⟨w, hw⟩ := List.mem_iff_getElem?.1 hmem
  obtain ⟨earlier, hs, hopen⟩ := opening_of_broken h hw
  exact ⟨w, i, earlier, hs, hopen⟩

/-- When opening never breaks off and the fold never fails, there is nothing to end with but a
result. -/
theorem exists_complete (h : p.Honest s) (hopen : ∀ events panic, p.opening events ≠ .broke panic)
    (hfold : ∀ result key a f, p.fold result key a ≠ .error f) :
    ∃ result, ending s = .complete result := by
  rcases hend : ending s with result | f | panic
  · exact ⟨result, rfl⟩
  · obtain ⟨-, -, key, a, result, -, -, -, hf⟩ := calls_of_failed h hend
    exact absurd hf (hfold result key a f)
  · obtain ⟨-, -, earlier, -, hbroke⟩ := opening_of_broke h hend
    exact absurd hbroke (hopen earlier panic)

/-! ## The theorem -/

/-- The fold has been called at most once for each index, with the key at the index and with the one
answer that calls for it came to. -/
structure DeliversOnce (p : WorkerPool C K V R) (s : PoolState C K V R) : Prop where
  once : ((receivedIn s.events).map Prod.fst).Nodup
  calls : p.Folds (receivedIn s.events) s.receiver
  produced : ∀ i a, (i, a) ∈ receivedIn s.events → p.Produced s.events i a
  /-- There is no second answer for an index. -/
  unique : ((answersIn s.events).map Prod.fst).Nodup

/-- There are no two answers for an index. -/
theorem DeliversOnce.answer_unique {i : Nat} {a b : Answer V} (h : p.DeliversOnce s)
    (ha : (i, a) ∈ answersIn s.events) (hb : (i, b) ∈ answersIn s.events) : a = b := by
  have heq := List.inj_on_of_nodup_map h.unique ha hb rfl
  exact congrArg Prod.snd heq

/-- What a run may come to: a result only when every index was received; the failure of the fold's
last call, all calls before it having succeeded; or what opening a connection broke off with. -/
def EndsInOrder (p : WorkerPool C K V R) (s : PoolState C K V R) : Prop :=
  match ending s with
  | .complete result =>
    s.receiver = .listening result ∧
      ((receivedIn s.events).map Prod.fst).Perm (List.range p.keys.length)
  | .failed f =>
    ∃ calls i key a result, receivedIn s.events = calls ++ [(i, a)] ∧
      p.Folds calls (.listening result) ∧ p.keys[i]? = some key ∧ p.fold result key a = .error f
  | .broke panic =>
    ∃ w i earlier, .opened w i (.broke panic) :: earlier <:+ s.events ∧
      p.opening earlier = .broke panic

theorem deliversOnce_after? {turns : List Turn} (h : p.after? turns = some s) :
    p.DeliversOnce s := by
  have hh := honest_after? h
  have ha := accounted_after? h
  have hunique : ∀ i, occurrences i (answersIn s.events) ≤ 1 := by
    intro i
    have := ha.claimed i
    split at this <;> omega
  refine ⟨List.nodup_iff_count.2 fun i => ?_, hh.receiver, fun i a hmem => ?_,
    List.nodup_iff_count.2 hunique⟩
  · have hle := ha.answered i
    have hone := hunique i
    unfold delivered at hle
    show occurrences i (receivedIn s.events) ≤ 1
    omega
  · exact produced_of_mem_answersIn hh.history (mem_answersIn_of_received hh.history hmem)

theorem endsInOrder_of_isOver {turns : List Turn} (h : p.after? turns = some s)
    (hover : isOver s = true) : p.EndsInOrder s := by
  unfold EndsInOrder
  split
  · next result hend =>
    exact ⟨(finished_of_complete hover hend).1, indices_of_complete (accounted_after? h) hover hend⟩
  · next f hend => exact calls_of_failed (honest_after? h) hend
  · next panic hend => exact opening_of_broke (honest_after? h) hend

/-- **Every key is delivered once**, whatever the calls come to and in whatever order workers and
receiver take their turns. At any time the fold has been called at most once for an index, with its
key and the answer produced for it. Every run comes to an end: with a result only if every index was
received, else with the first failure of the fold, or with a panic of opening a connection. When
opening never breaks off and the fold never fails, every run ends with a result. -/
theorem delivers_every_key_once (p : WorkerPool C K V R) :
    (∀ turns s, p.after? turns = some s → p.DeliversOnce s) ∧
      p.AlwaysEnds p.EndsInOrder ∧
      ((∀ events panic, p.opening events ≠ .broke panic) →
        (∀ result key a f, p.fold result key a ≠ .error f) →
        p.AlwaysEnds fun s => ∃ result, ending s = .complete result) := by
  refine ⟨fun turns s h => deliversOnce_after? h, ?_, fun hopen hfold => ?_⟩
  · exact alwaysEnds_of_isOver fun turns s h hover => endsInOrder_of_isOver h hover
  · exact alwaysEnds_of_isOver fun turns s h _ => exists_complete (honest_after? h) hopen hfold

end WorkerPool

end Lakehouse
