import Lakehouse.Proofs.Partition.Packing
import Mathlib.Algebra.GroupWithZero.Nat
import Mathlib.Data.List.Infix

/-!
# Trying again

Acting on chunks stops at the first chunk that fails and says which chunks are left: that one and
those after it. What was done before stays done. The caller may try again with what is left, as it
is or with its predicates packed anew, and may do so any number of times.

- `recorded`: an action that keeps a record of its calls.
- `Course`: what may come of one attempt, as an answer and as the calls that were made.
  `Attempt.course` says that nothing else may.
- `Retries`: attempts at the chunks of a packing, one after another.
- `Retries.applied_append_chunks`: the invariant of all attempts. What they have done and what the
  last one tries are the chunks of the packing, in order.
- **`retries_resume`**: over all attempts no predicate is skipped and none is acted on twice.
-/

namespace Lakehouse

open PredicateChunk

variable {σ : Type}

/-! ## One attempt -/

/-- A record of calls: the chunk of each, and what the call came to. -/
abbrev CallRecord : Type := List (PredicateChunk × Answer Unit)

/-- The chunks that were acted on with success. -/
def CallRecord.succeeded (calls : CallRecord) : List PredicateChunk :=
  (calls.filter fun call => call.2.isOk).map Prod.fst

/-- The action, with a record of its calls in the state. -/
def recorded (act : PredicateChunk → σ → Answer Unit × σ) (c : PredicateChunk)
    (s : σ × CallRecord) : Answer Unit × σ × CallRecord :=
  ((act c s.1).1, (act c s.1).2, s.2 ++ [(c, (act c s.1).1)])

/-- Calls that all succeeded. -/
def successes (chunks : List PredicateChunk) : CallRecord :=
  chunks.map fun c => (c, .ok ())

/-- What may come of acting on chunks: there is a successful call for each chunk in order, or there
are some up to the first that fails, and no call after it. -/
inductive Course (chunks : List PredicateChunk) : Except PartialRun Nat → CallRecord → Prop where
  | complete : Course chunks (.ok chunks.length) (successes chunks)
  | stopped {done rest : List PredicateChunk} {c : PredicateChunk} {failure : Failure} :
      chunks = done ++ c :: rest →
      Course chunks (.error ⟨done.length, c :: rest, failure⟩)
        (successes done ++ [(c, .error failure)])

theorem successes_append (as bs : List PredicateChunk) :
    successes (as ++ bs) = successes as ++ successes bs :=
  List.map_append

theorem succeeded_successes (chunks : List PredicateChunk) :
    (successes chunks).succeeded = chunks := by
  induction chunks with
  | nil => rfl
  | cons c rest ih => exact congrArg (c :: ·) ih

theorem succeeded_append (as bs : CallRecord) :
    CallRecord.succeeded (as ++ bs) = as.succeeded ++ bs.succeeded := by
  rw [CallRecord.succeeded, List.filter_append, List.map_append]
  rfl

/-- Keeping a record changes nothing, and the record is one of the courses. -/
theorem exists_course_applyFrom (act : PredicateChunk → σ → Answer Unit × σ)
    (done rest : List PredicateChunk) (s : σ) :
    ∃ calls, applyFrom (recorded act) done.length rest (s, successes done) =
        ((applyFrom act done.length rest s).1, (applyFrom act done.length rest s).2, calls) ∧
      Course (done ++ rest) (applyFrom act done.length rest s).1 calls := by
  induction rest generalizing done s with
  | nil =>
    refine ⟨successes done, rfl, ?_⟩
    rw [List.append_nil]
    exact .complete
  | cons c rest ih =>
    unfold applyFrom
    rcases hact : act c s with ⟨failure | ⟨⟩, t⟩
    · -- the call that fails is recorded as well, and is the last
      simp only [recorded, hact]
      exact ⟨_, rfl, .stopped rfl⟩
    · simp only [recorded, hact]
      -- the chunk joins those that are done, in the count and in the record
      have hnext := ih (done ++ [c]) t
      rwa [successes_append, List.length_append, List.append_assoc] at hnext

/-- An attempt at some chunks, from a state. -/
structure Attempt (σ : Type) where
  chunks : List PredicateChunk
  start : σ

namespace Attempt

variable (act : PredicateChunk → σ → Answer Unit × σ) (a : Attempt σ)

/-- The answer of the attempt. -/
def result : Except PartialRun Nat :=
  (applyChunks act a.chunks a.start).1

/-- The calls that the attempt made. -/
def calls : CallRecord :=
  (applyChunks (recorded act) a.chunks (a.start, [])).2.2

/-- The chunks that the attempt acted on with success. -/
def applied : List PredicateChunk :=
  (a.calls act).succeeded

/-- How many chunks the attempt says that it acted on. -/
def completed : Nat :=
  match a.result act with
  | .ok count => count
  | .error left => left.completed

theorem course : Course a.chunks (a.result act) (a.calls act) := by
  obtain ⟨calls, hcalls, hcourse⟩ := exists_course_applyFrom act [] a.chunks a.start
  have hrecord : a.calls act = calls := congrArg (fun r => r.2.2) hcalls
  rw [hrecord]
  exact hcourse

variable {act a}

/-- An attempt that is complete has acted on all of its chunks. -/
theorem of_result_ok {count : Nat} (h : a.result act = .ok count) :
    count = a.chunks.length ∧ a.applied act = a.chunks := by
  have hcourse := a.course act
  rw [h] at hcourse
  unfold applied
  generalize a.calls act = calls at hcourse
  cases hcourse with
  | complete => exact ⟨rfl, succeeded_successes a.chunks⟩

/-- An attempt that has stopped has acted on its chunks up to those that it left. -/
theorem of_result_error {left : PartialRun} (h : a.result act = .error left) :
    left.completed = (a.applied act).length ∧ a.applied act ++ left.remaining = a.chunks := by
  have hcourse := a.course act
  rw [h] at hcourse
  unfold applied
  generalize a.calls act = calls at hcourse
  cases hcourse with
  | @stopped done rest c failure hchunks =>
    have hdone : CallRecord.succeeded (successes done ++ [(c, .error failure)]) = done := by
      rw [succeeded_append, succeeded_successes]
      exact List.append_nil done
    rw [hdone]
    exact ⟨rfl, hchunks.symm⟩

theorem completed_eq : a.completed act = (a.applied act).length := by
  unfold completed
  rcases hresult : a.result act with left | count
  · exact (of_result_error hresult).1
  · obtain ⟨hcount, hall⟩ := of_result_ok hresult
    rw [hall]
    exact hcount

end Attempt

/-! ## Many attempts -/

/-- What may be tried after some chunks were left: they as they are, or their predicates packed
anew. -/
def PartialRun.Next (limit : Nat) (left : PartialRun) (next : List PredicateChunk) : Prop :=
  next = left.remaining ∨ pack limit (left.remaining.flatMap PredicateChunk.predicates) = .ok next

/-- Some attempts, in order, and one more after them. The first is at the chunks of a packing, and
each of the others at what was left by the one before. What becomes of the state between two
attempts is left open. -/
inductive Retries (act : PredicateChunk → σ → Answer Unit × σ) (limit : Nat)
    (chunks : List PredicateChunk) : List (Attempt σ) → Attempt σ → Prop where
  | first (start : σ) : Retries act limit chunks [] ⟨chunks, start⟩
  | again {earlier : List (Attempt σ)} {a : Attempt σ} {left : PartialRun}
      {next : List PredicateChunk} (start : σ) :
      Retries act limit chunks earlier a → a.result act = .error left → left.Next limit next →
      Retries act limit chunks (earlier ++ [a]) ⟨next, start⟩

section

variable {act : PredicateChunk → σ → Answer Unit × σ} {limit : Nat} {predicates : List String}
  {chunks : List PredicateChunk} {earlier : List (Attempt σ)} {a : Attempt σ}

/-- The chunks that attempts acted on, in order. -/
def appliedIn (act : PredicateChunk → σ → Answer Unit × σ) (attempts : List (Attempt σ)) :
    List PredicateChunk :=
  attempts.flatMap (Attempt.applied act)

theorem appliedIn_concat (act : PredicateChunk → σ → Answer Unit × σ) (earlier : List (Attempt σ))
    (a : Attempt σ) : appliedIn act (earlier ++ [a]) = appliedIn act earlier ++ a.applied act := by
  rw [appliedIn, List.flatMap_append, List.flatMap_singleton, appliedIn]

/-- Packing what is left of a packing makes the chunks that are left. -/
theorem pack_of_append {done left : List PredicateChunk}
    (h : Packing limit predicates (done ++ left)) :
    pack limit (left.flatMap PredicateChunk.predicates) = .ok left :=
  pack_eq_ok_iff.2 h.right_of_append

/-- After any attempts, what they have done and what the next one tries are the chunks of the
packing. -/
theorem Retries.applied_append_chunks (h : Retries act limit chunks earlier a)
    (hpacking : Packing limit predicates chunks) : appliedIn act earlier ++ a.chunks = chunks := by
  induction h with
  | first start => rfl
  | @again earlier a left next start _ hresult hnext ih =>
    obtain ⟨-, hsplit⟩ := Attempt.of_result_error hresult
    have hwhole : appliedIn act (earlier ++ [a]) ++ left.remaining = chunks := by
      rw [appliedIn_concat, List.append_assoc, hsplit, ih]
    rcases hnext with rfl | hpacked
    · exact hwhole
    · -- what is left is the end of a packing, and is packed as it was
      rw [← hwhole] at hpacking
      obtain rfl := Except.ok.inj ((pack_of_append hpacking).symm.trans hpacked)
      exact hwhole

/-- Each of the attempts was made after some others, and all but the last have stopped. -/
theorem Retries.of_mem (h : Retries act limit chunks earlier a) {b : Attempt σ}
    (hb : b ∈ earlier ++ [a]) :
    (∃ before, Retries act limit chunks before b) ∧
      (b = a ∨ ∃ left, b.result act = .error left) := by
  induction h with
  | first start =>
    obtain rfl := List.mem_singleton.1 hb
    exact ⟨⟨[], .first start⟩, .inl rfl⟩
  | again start hretries hresult hnext ih =>
    rcases List.mem_append.1 hb with hb | hb
    · obtain ⟨hbefore, rfl | hstopped⟩ := ih hb
      · exact ⟨hbefore, .inr ⟨_, hresult⟩⟩
      · exact ⟨hbefore, .inr hstopped⟩
    · obtain rfl := List.mem_singleton.1 hb
      exact ⟨⟨_, .again start hretries hresult hnext⟩, .inl rfl⟩

/-- An attempt has done the first of its chunks. -/
theorem Attempt.applied_isPrefix : a.applied act <+: a.chunks := by
  rcases hresult : a.result act with left | count
  · exact ⟨left.remaining, (of_result_error hresult).2⟩
  · obtain ⟨-, hall⟩ := of_result_ok hresult
    exact hall ▸ List.prefix_refl _

/-- What an attempt leaves is packed as it is. -/
theorem Retries.pack_left (h : Retries act limit chunks earlier a)
    (hpacking : Packing limit predicates chunks) {left : PartialRun}
    (hresult : a.result act = .error left) :
    pack limit (left.remaining.flatMap PredicateChunk.predicates) = .ok left.remaining := by
  obtain ⟨-, hsplit⟩ := Attempt.of_result_error hresult
  rw [← h.applied_append_chunks hpacking, ← hsplit, ← List.append_assoc] at hpacking
  exact pack_of_append hpacking

end

/-! ## The theorem -/

/-- Attempts at the chunks of some predicates go on where the one before has stopped. -/
structure ResumesExactly (act : PredicateChunk → σ → Answer Unit × σ) (limit : Nat)
    (predicates : List String) (chunks : List PredicateChunk) (attempts : List (Attempt σ)) :
    Prop where
  /-- In each attempt the action is called on the chunks in order, up to and including the first
  that fails, and on none after it. -/
  course : ∀ a ∈ attempts, Course a.chunks (a.result act) (a.calls act)
  /-- What an attempt has completed and what it has left are its chunks, and packing what is left
  makes no difference. -/
  left : ∀ a ∈ attempts, ∀ left, a.result act = .error left →
    left.completed = (a.applied act).length ∧ a.applied act ++ left.remaining = a.chunks ∧
      pack limit (left.remaining.flatMap PredicateChunk.predicates) = .ok left.remaining
  /-- What has been done is the predicates up to some point, in order. -/
  in_order : (appliedIn act attempts).flatMap PredicateChunk.predicates <+: predicates
  /-- Once an attempt is complete, so are the predicates, and the counts of all attempts add up. -/
  complete : ∀ a ∈ attempts, ∀ count, a.result act = .ok count →
    (appliedIn act attempts).flatMap PredicateChunk.predicates = predicates ∧
      (attempts.map (Attempt.completed act)).sum = chunks.length

/-- **Trying again neither skips nor repeats a predicate**, whatever the action does, however often
it fails, and whether or not what was left is packed anew. -/
theorem retries_resume {limit : Nat} {predicates : List String} {chunks : List PredicateChunk}
    (hpack : pack limit predicates = .ok chunks) (act : PredicateChunk → σ → Answer Unit × σ)
    {earlier : List (Attempt σ)} {last : Attempt σ}
    (h : Retries act limit chunks earlier last) :
    ResumesExactly act limit predicates chunks (earlier ++ [last]) := by
  have hpacking := pack_eq_ok_iff.1 hpack
  have hchunks := h.applied_append_chunks hpacking
  refine ⟨fun a _ => a.course act, fun a ha left hresult => ?_, ?_, fun a ha count hresult => ?_⟩
  · obtain ⟨⟨before, hbefore⟩, -⟩ := h.of_mem ha
    obtain ⟨hcount, hsplit⟩ := Attempt.of_result_error hresult
    exact ⟨hcount, hsplit, hbefore.pack_left hpacking hresult⟩
  · have happlied : appliedIn act (earlier ++ [last]) <+: chunks := by
      rw [appliedIn_concat, ← hchunks]
      exact (List.prefix_append_right_inj _).2 Attempt.applied_isPrefix
    rw [← hpacking.lossless]
    exact List.IsPrefix.flatMap happlied _
  · -- only the last attempt can be complete
    have hlast : a = last := by
      obtain ⟨-, hlast | ⟨left, herror⟩⟩ := h.of_mem ha
      · exact hlast
      · cases hresult.symm.trans herror
    obtain rfl := hlast
    obtain ⟨-, hall⟩ := Attempt.of_result_ok hresult
    -- with nothing left, the invariant says that all chunks have been done
    have happlied : appliedIn act (earlier ++ [a]) = chunks := by
      rw [appliedIn_concat, hall, hchunks]
    refine ⟨by rw [happlied, hpacking.lossless], ?_⟩
    rw [← happlied, appliedIn, List.length_flatMap]
    exact congrArg List.sum (List.map_congr_left fun b _ => Attempt.completed_eq)

/-- An action that counts its calls and fails at the third and the fourth. -/
def throttled (_ : PredicateChunk) (count : Nat) : Answer Unit × Nat :=
  if count = 2 ∨ count = 3 then (.error { kind := .driver, message := "throttled" }, count + 1)
  else (.ok (), count + 1)

/-- Two failures at one chunk. What was left by the second is packed anew. -/
theorem retries_resume_throttled :
    pack 4 ["a", "b", "c", "d"] = .ok [⟨["a"]⟩, ⟨["b"]⟩, ⟨["c"]⟩, ⟨["d"]⟩] ∧
      Retries throttled 4 [⟨["a"]⟩, ⟨["b"]⟩, ⟨["c"]⟩, ⟨["d"]⟩]
        [⟨[⟨["a"]⟩, ⟨["b"]⟩, ⟨["c"]⟩, ⟨["d"]⟩], 0⟩, ⟨[⟨["c"]⟩, ⟨["d"]⟩], 3⟩]
        ⟨[⟨["c"]⟩, ⟨["d"]⟩], 4⟩ ∧
      ResumesExactly throttled 4 ["a", "b", "c", "d"] [⟨["a"]⟩, ⟨["b"]⟩, ⟨["c"]⟩, ⟨["d"]⟩]
        [⟨[⟨["a"]⟩, ⟨["b"]⟩, ⟨["c"]⟩, ⟨["d"]⟩], 0⟩, ⟨[⟨["c"]⟩, ⟨["d"]⟩], 3⟩,
          ⟨[⟨["c"]⟩, ⟨["d"]⟩], 4⟩] := by
  have hpack : pack 4 ["a", "b", "c", "d"] = .ok [⟨["a"]⟩, ⟨["b"]⟩, ⟨["c"]⟩, ⟨["d"]⟩] := by decide
  have hfirst : Retries throttled 4 [⟨["a"]⟩, ⟨["b"]⟩, ⟨["c"]⟩, ⟨["d"]⟩] []
      ⟨[⟨["a"]⟩, ⟨["b"]⟩, ⟨["c"]⟩, ⟨["d"]⟩], 0⟩ := .first 0
  have hsecond : Retries throttled 4 [⟨["a"]⟩, ⟨["b"]⟩, ⟨["c"]⟩, ⟨["d"]⟩]
      [⟨[⟨["a"]⟩, ⟨["b"]⟩, ⟨["c"]⟩, ⟨["d"]⟩], 0⟩] ⟨[⟨["c"]⟩, ⟨["d"]⟩], 3⟩ :=
    .again 3 hfirst rfl (.inl rfl)
  have hthird : Retries throttled 4 [⟨["a"]⟩, ⟨["b"]⟩, ⟨["c"]⟩, ⟨["d"]⟩]
      [⟨[⟨["a"]⟩, ⟨["b"]⟩, ⟨["c"]⟩, ⟨["d"]⟩], 0⟩, ⟨[⟨["c"]⟩, ⟨["d"]⟩], 3⟩]
      ⟨[⟨["c"]⟩, ⟨["d"]⟩], 4⟩ :=
    .again 4 hsecond rfl (.inr (by decide))
  exact ⟨hpack, hthird, retries_resume hpack throttled hthird⟩

end Lakehouse
