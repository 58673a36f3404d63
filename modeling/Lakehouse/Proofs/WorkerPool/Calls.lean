import Lakehouse.Proofs.WorkerPool.History

/-!
# The calls of one worker

A worker opens connections and asks over them, one call after another, and what it does next depends
on nothing but how its last call ended. This module says what may follow on what.

- `lastCall?`, `claimsSince`: the last call of a worker in a history, and the keys that the worker
  has claimed since.
- `Follows`: the five ways in which a worker goes from one call to the next.
- `InTurn`: every call in a history follows on the one before it. `Poised` is the invariant that ties
  it to what the workers are about to do, with `poised_init`, `poised_step` and `poised_after?`.
- `Connected`: a worker has opened a connection, and no call over it broke off since.
  `connected_of_asked` says that questions are only put over such a connection, which follows from
  the order of the calls alone.
-/

namespace Lakehouse

variable {C K V R : Type}

/-- The worker makes a call: it opens a connection, or tries to, or it asks. -/
def PoolEvent.isCallOf (w : Nat) : PoolEvent C V → Bool
  | .opened v _ _ | .asked v _ _ _ => v == w
  | .claimed .. | .sent .. | .received .. => false

/-- The index that the worker claims. -/
def PoolEvent.claimOf? (w : Nat) : PoolEvent C V → Option Nat
  | .claimed v i => if v = w then some i else none
  | .opened .. | .asked .. | .sent .. | .received .. => none

namespace WorkerPool

/-! ## Reading the history of one worker -/

/-- The last call of a worker. -/
def lastCall? (w : Nat) (events : List (PoolEvent C V)) : Option (PoolEvent C V) :=
  events.find? (PoolEvent.isCallOf w)

/-- The indices that a worker has claimed since its last call. -/
def claimsSince (w : Nat) (events : List (PoolEvent C V)) : List Nat :=
  (events.takeWhile fun e => !e.isCallOf w).filterMap (PoolEvent.claimOf? w)

section

variable {w : Nat} {e : PoolEvent C V}

theorem lastCall?_cons_of_call (events : List (PoolEvent C V)) (h : e.isCallOf w = true) :
    lastCall? w (e :: events) = some e :=
  List.find?_cons_of_pos h

theorem claimsSince_cons_of_call (events : List (PoolEvent C V)) (h : e.isCallOf w = true) :
    claimsSince w (e :: events) = [] := by
  simp [claimsSince, h]

theorem lastCall?_cons_of_not_call (events : List (PoolEvent C V)) (h : e.isCallOf w = false) :
    lastCall? w (e :: events) = lastCall? w events :=
  List.find?_cons_of_neg (by simp [h])

theorem claimsSince_cons_of_not_call (events : List (PoolEvent C V)) (h : e.isCallOf w = false) :
    claimsSince w (e :: events) = (e.claimOf? w).toList ++ claimsSince w events := by
  unfold claimsSince
  rw [List.takeWhile_cons, h]
  cases hclaim : e.claimOf? w <;> simp [hclaim]

/-- The last call of a worker, with what happened before it and since. -/
theorem exists_of_lastCall? {events : List (PoolEvent C V)} (h : lastCall? w events = some e) :
    ∃ since before, events = since ++ e :: before ∧ ∀ e' ∈ since, e'.isCallOf w = false := by
  obtain ⟨-, since, before, heq, hsince⟩ := List.find?_eq_some_iff_append.1 h
  exact ⟨since, before, heq, fun e' he' => by simpa using hsince e' he'⟩

end

/-! ## What may follow on what -/

/-- How a worker comes to a call, given its last call before and the indices that it has claimed
since. It opens a connection exactly if it has none, and otherwise goes on with the one it has. -/
inductive Follows (w : Nat) : Option (PoolEvent C V) → List Nat → PoolEvent C V → Prop where
  /-- It has made no call yet, and opens a connection for the first key it claimed. -/
  | first {i : Nat} {outcome : Outcome C} : Follows w none [i] (.opened w i outcome)
  /-- It could not open a connection, claimed one more key and tries again. -/
  | retry {j i : Nat} {f : Failure} {outcome : Outcome C} :
      Follows w (some (.opened w j (.answered (.error f)))) [i] (.opened w i outcome)
  /-- Its question broke off, it claimed one more key and opens another connection. -/
  | reopen {j i : Nat} {c : C} {panic : Panic} {outcome : Outcome C} :
      Follows w (some (.asked w j c (.broke panic))) [i] (.opened w i outcome)
  /-- It has opened a connection, and asks over it for the same key. -/
  | ask {i : Nat} {c : C} {outcome : Outcome V} :
      Follows w (some (.opened w i (.answered (.ok c)))) [] (.asked w i c outcome)
  /-- Its question was answered, it claimed one more key and asks over the same connection. -/
  | reuse {j i : Nat} {c : C} {a : Answer V} {outcome : Outcome V} :
      Follows w (some (.asked w j c (.answered a))) [i] (.asked w i c outcome)

/-- Every call follows on the last call of the same worker. -/
def InTurn (events : List (PoolEvent C V)) : Prop :=
  ∀ e earlier, e :: earlier <:+ events → ∀ w, e.isCallOf w = true →
    Follows w (lastCall? w earlier) (claimsSince w earlier) e

theorem inTurn_nil : InTurn ([] : List (PoolEvent C V)) := by
  intro e earlier hsuffix
  simp at hsuffix

theorem InTurn.cons {e : PoolEvent C V} {events : List (PoolEvent C V)} (h : InTurn events)
    (he : ∀ w, e.isCallOf w = true → Follows w (lastCall? w events) (claimsSince w events) e) :
    InTurn (e :: events) := by
  intro e' earlier hsuffix
  rcases List.suffix_cons_iff.1 hsuffix with heq | hsuffix
  · obtain ⟨rfl, rfl⟩ := List.cons.inj heq
    exact he
  · exact h e' earlier hsuffix

/-- An event that is no call of anybody leaves the calls in turn. -/
theorem InTurn.cons_of_no_call {e : PoolEvent C V} {events : List (PoolEvent C V)}
    (h : InTurn events) (he : ∀ w, e.isCallOf w = false) : InTurn (e :: events) :=
  h.cons fun w hw => by rw [he w] at hw; cases hw

/-! ## The invariant -/

/-- The next call of a worker, for the key at an index, may be one with the connection that it has:
to open one where it has none, and else to ask over it. -/
def MayCall (w : Nat) (last : Option (PoolEvent C V)) (claims : List Nat) (i : Nat) :
    Option C → Prop
  | none => ∀ outcome, Follows w last claims (.opened w i outcome)
  | some c => ∀ outcome : Outcome V, Follows w last claims (.asked w i c outcome)

/-- The history of a worker leads up to what it is about to do. -/
def Ready (events : List (PoolEvent C V)) (w : Nat) : WorkerPhase C K V → Prop
  | .idle connection | .sending _ _ _ connection =>
    claimsSince w events = [] ∧ ∀ i, MayCall w (lastCall? w events) [i] i connection
  | .claimed i _ connection => MayCall w (lastCall? w events) (claimsSince w events) i connection
  | .finished | .broken .. => True

/-- The calls so far are in turn, and so will the next ones be. -/
structure Poised (s : PoolState C K V R) : Prop where
  history : InTurn s.events
  workers : ∀ w phase, s.workers[w]? = some phase → Ready s.events w phase

variable {p : WorkerPool C K V R} {s t : PoolState C K V R}

/-- What a worker neither claims nor calls does not matter to it. -/
theorem Ready.cons {events : List (PoolEvent C V)} {e : PoolEvent C V} {w : Nat}
    {phase : WorkerPhase C K V} (h : Ready events w phase) (hcall : e.isCallOf w = false)
    (hclaim : e.claimOf? w = none) : Ready (e :: events) w phase := by
  have hlast := lastCall?_cons_of_not_call events hcall
  have hclaims : claimsSince w (e :: events) = claimsSince w events := by
    rw [claimsSince_cons_of_not_call events hcall, hclaim]
    rfl
  cases phase with
  | idle | sending | claimed =>
    simp only [Ready, hlast, hclaims]
    exact h
  | finished | broken => trivial

/-- When one worker goes on, and what happens is nothing to the others, all are ready. -/
theorem ready_set {workers : List (WorkerPhase C K V)} {events events' : List (PoolEvent C V)}
    {v : Nat} {new : WorkerPhase C K V}
    (h : ∀ w phase, workers[w]? = some phase → Ready events w phase)
    (hothers : ∀ w (phase : WorkerPhase C K V), v ≠ w → Ready events w phase →
      Ready events' w phase)
    (hnew : Ready events' v new) :
    ∀ w phase, (workers.set v new)[w]? = some phase → Ready events' w phase := by
  intro w phase hw
  rcases cases_of_getElem?_set hw with ⟨rfl, rfl⟩ | ⟨hvw, hw⟩
  · exact hnew
  · exact hothers w phase hvw (h w phase hw)

theorem poised_init (p : WorkerPool C K V R) : Poised p.init where
  history := inTurn_nil
  workers := by
    intro w phase hw
    obtain ⟨-, rfl⟩ := List.mem_replicate.1 (List.mem_of_getElem? hw)
    exact ⟨rfl, fun i outcome => .first⟩

/-- A call that a worker may make keeps a state poised, if the worker is then ready to go on. -/
theorem poised_call {e : PoolEvent C V} {v : Nat} {new : WorkerPhase C K V} (h : Poised s)
    (hcall : ∀ w, e.isCallOf w = true ↔ v = w) (hclaim : ∀ w, e.claimOf? w = none)
    (hfollows : Follows v (lastCall? v s.events) (claimsSince v s.events) e)
    (hnew : Ready (e :: s.events) v new) :
    Poised { s with workers := s.workers.set v new, events := e :: s.events } where
  history := h.history.cons fun w hw => (hcall w).1 hw ▸ hfollows
  workers := by
    refine ready_set h.workers (fun w phase hvw hready => hready.cons ?_ (hclaim w)) hnew
    rw [← Bool.not_eq_true, hcall w]
    exact hvw

/-- A worker is ready to go on to its next key when its last call has left what it has. -/
theorem ready_sending {events : List (PoolEvent C V)} {e : PoolEvent C V} {v i : Nat} {key : K}
    {a : Answer V} {connection : Option C} (hcall : e.isCallOf v = true)
    (h : ∀ i, MayCall v (some e) [i] i connection) :
    Ready (e :: events) v (.sending i key a connection : WorkerPhase C K V) := by
  refine ⟨claimsSince_cons_of_call events hcall, fun i => ?_⟩
  rw [lastCall?_cons_of_call events hcall]
  exact h i

/-- Every step keeps a state poised. -/
theorem poised_step (h : Poised s) (hstep : p.Step s t) : Poised t := by
  cases hstep with
  | @claim w connection key hw hkey =>
    obtain ⟨hclaims, hmay⟩ := h.workers _ _ hw
    refine ⟨h.history.cons_of_no_call fun _ => rfl, ready_set h.workers ?_ ?_⟩
    · exact fun v phase hv hready => hready.cons rfl (if_neg hv)
    · show MayCall w (lastCall? w (_ :: s.events)) (claimsSince w (_ :: s.events)) s.next connection
      have hown : PoolEvent.claimOf? w (.claimed w s.next : PoolEvent C V) = some s.next := if_pos rfl
      rw [lastCall?_cons_of_not_call _ rfl, claimsSince_cons_of_not_call _ rfl, hclaims, hown]
      exact hmay s.next
  | @finish w connection hw hkey =>
    exact ⟨h.history, ready_set h.workers (fun _ _ _ hready => hready) trivial⟩
  | @connect w i key c hw hopen =>
    have hcall : (PoolEvent.opened w i (.answered (.ok c)) : PoolEvent C V).isCallOf w = true :=
      beq_self_eq_true w
    refine poised_call h (fun v => beq_iff_eq) (fun _ => rfl) (h.workers _ _ hw _) ?_
    show MayCall w (lastCall? w (_ :: s.events)) (claimsSince w (_ :: s.events)) i (some c)
    rw [lastCall?_cons_of_call _ hcall, claimsSince_cons_of_call _ hcall]
    exact fun outcome => .ask
  | @refuse w i key f hw hopen =>
    refine poised_call h (fun v => beq_iff_eq) (fun _ => rfl) (h.workers _ _ hw _) ?_
    exact ready_sending (beq_self_eq_true w) fun i outcome => .retry
  | @breakOff w i key panic hw hopen =>
    exact poised_call h (fun v => beq_iff_eq) (fun _ => rfl) (h.workers _ _ hw _) trivial
  | @ask w i key c outcome hw hask =>
    refine poised_call h (fun v => beq_iff_eq) (fun _ => rfl) (h.workers _ _ hw _) ?_
    refine ready_sending (beq_self_eq_true w) fun i => ?_
    cases outcome with
    | answered a => exact fun outcome => .reuse
    | broke panic => exact fun outcome => .reopen
  | @send w i key a connection result hw hr =>
    refine ⟨h.history.cons_of_no_call fun _ => rfl,
      ready_set h.workers (fun v phase hv hready => hready.cons rfl rfl) ?_⟩
    have hsending := h.workers _ _ hw
    have hready : Ready s.events w (.idle connection : WorkerPhase C K V) := hsending
    exact hready.cons rfl rfl
  | @giveUp w i key a connection f hw hr =>
    exact ⟨h.history, ready_set h.workers (fun _ _ _ hready => hready) trivial⟩
  | fold hr hq hf =>
    exact ⟨h.history.cons_of_no_call fun _ => rfl,
      fun w phase hw => (h.workers w phase hw).cons rfl rfl⟩
  | stop hr hq hf =>
    exact ⟨h.history.cons_of_no_call fun _ => rfl,
      fun w phase hw => (h.workers w phase hw).cons rfl rfl⟩

/-- In every run the calls are in turn. -/
theorem poised_after? {turns : List Turn} (h : p.after? turns = some s) : Poised s :=
  after?_induction (poised_init p) (fun _ _ => poised_step) h

/-! ## The connection that a worker has -/

/-- The worker has opened the connection, and all its calls since then were questions over it that
came to an answer. -/
def Connected (w : Nat) (c : C) (events : List (PoolEvent C V)) : Prop :=
  ∃ since j before, events = since ++ .opened w j (.answered (.ok c)) :: before ∧
    ∀ e ∈ since, e.isCallOf w = true → ∃ i a, e = .asked w i c (.answered a)

/-- A worker that stays connected through what happens is still connected. -/
theorem Connected.append {w : Nat} {c : C} {events : List (PoolEvent C V)} (h : Connected w c events)
    {recent : List (PoolEvent C V)}
    (hrecent : ∀ e ∈ recent, e.isCallOf w = true → ∃ i a, e = .asked w i c (.answered a)) :
    Connected w c (recent ++ events) := by
  obtain ⟨since, j, before, rfl, hsince⟩ := h
  refine ⟨recent ++ since, j, before, by rw [List.append_assoc], fun e he => ?_⟩
  rcases List.mem_append.1 he with he | he
  · exact hrecent e he
  · exact hsince e he

/-- When calls are in turn, a worker asks only over a connection that it has opened itself and over
which none of its calls broke off. -/
theorem connected_of_asked {events earlier : List (PoolEvent C V)} {w i : Nat} {c : C}
    {outcome : Outcome V} (h : InTurn events) (hasked : .asked w i c outcome :: earlier <:+ events) :
    Connected w c earlier := by
  -- back from one question to the one before, up to the connection
  induction hn : earlier.length using Nat.strongRecOn generalizing earlier i outcome with
  | ind n ih =>
    have hfollows := h _ _ hasked w (beq_self_eq_true w)
    generalize hlast : lastCall? w earlier = last at hfollows
    generalize claimsSince w earlier = claims at hfollows
    cases hfollows with
    | ask =>
      obtain ⟨since, before, rfl, hquiet⟩ := exists_of_lastCall? hlast
      refine ⟨since, i, before, rfl, fun e he hcall => ?_⟩
      rw [hquiet e he] at hcall
      cases hcall
    | @reuse j _ _ a _ =>
      obtain ⟨since, before, rfl, hquiet⟩ := exists_of_lastCall? hlast
      have hbefore : .asked w j c (.answered a) :: before <:+ events :=
        (List.suffix_append since _).trans ((List.suffix_cons _ _).trans hasked)
      have hlt : before.length < n := by
        rw [← hn, List.length_append, List.length_cons]
        omega
      have hconnected := ih before.length hlt hbefore rfl
      have hasked' : Connected w c ([.asked w j c (.answered a)] ++ before) :=
        hconnected.append fun e he _ => ⟨j, a, List.mem_singleton.1 he⟩
      refine hasked'.append fun e he hcall => ?_
      rw [hquiet e he] at hcall
      cases hcall

end WorkerPool

end Lakehouse
