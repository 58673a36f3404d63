import Lakehouse.Partition.Chunk
import Mathlib.Data.List.Chain

/-!
# How predicates are packed

Predicates are packed greedily: each goes into the open chunk if the expression stays within the
limit, and else opens the next chunk. The length of the open expression is kept as a number beside
the predicates, and nothing is ever joined before a chunk is closed.

- `length_expression_append`: the length of an expression is that of its parts and one separator.
- `FirstOversized`: the first predicate that no chunk can hold.
- `Packing`: what chunks of some predicates should be. Nothing is lost or reordered, each chunk
  fits, and none is closed while the next predicate would still fit.
- `packing_packFrom`, `packFrom_flatMap`: what is packed is a packing, and packing the predicates of
  a packing makes the same chunks again. Together, `pack_eq_ok_iff`: there is one packing, and it is
  what `pack` answers.
- **`pack_lossless_bounded_maximal`**: the answer for any limit and any predicates.
-/

namespace Lakehouse

namespace PredicateChunk

/-! ## Lengths -/

theorem length_predicateSeparator : predicateSeparator.length = 4 := rfl

/-- The predicates are joined as the string library joins texts. -/
theorem expression_eq_intercalate (c : PredicateChunk) :
    c.expression = " OR ".intercalate c.predicates :=
  Text.joinWith_eq_intercalate predicateSeparator c.predicates

theorem expression_singleton (p : String) : expression ⟨[p]⟩ = p := rfl

theorem exists_eq_cons {c : PredicateChunk} (h : c.predicates ≠ []) :
    ∃ p more, c = ⟨p :: more⟩ := by
  obtain ⟨predicates⟩ := c
  obtain ⟨p, more, rfl⟩ := List.exists_cons_of_ne_nil h
  exact ⟨p, more, rfl⟩

theorem length_expression_append {ps qs : List String} (hp : ps ≠ []) (hq : qs ≠ []) :
    (expression ⟨ps ++ qs⟩).length =
      (expression ⟨ps⟩).length + 4 + (expression ⟨qs⟩).length := by
  have happend : expression ⟨ps ++ qs⟩ =
      expression ⟨ps⟩ ++ predicateSeparator ++ expression ⟨qs⟩ :=
    Text.joinWith_append predicateSeparator hp hq
  rw [happend, String.length_append, String.length_append, length_predicateSeparator]

/-- More predicates do not make an expression shorter. -/
theorem length_expression_le_append {ps : List String} (hp : ps ≠ []) (qs : List String) :
    (expression ⟨ps⟩).length ≤ (expression ⟨ps ++ qs⟩).length := by
  by_cases hq : qs = []
  · rw [hq, List.append_nil]
  · rw [length_expression_append hp hq]
    omega

theorem length_expression_le_append_left (ps : List String) {qs : List String} (hq : qs ≠ []) :
    (expression ⟨qs⟩).length ≤ (expression ⟨ps ++ qs⟩).length := by
  by_cases hp : ps = []
  · rw [hp, List.nil_append]
  · rw [length_expression_append hp hq]
    omega

/-- No predicate is longer than the expression that it is in. -/
theorem length_le_expression {ps : List String} {p : String} (h : p ∈ ps) :
    p.length ≤ (expression ⟨ps⟩).length := by
  obtain ⟨before, after, rfl⟩ := List.append_of_mem h
  calc p.length = (expression ⟨[p]⟩).length := by rw [expression_singleton]
    _ ≤ (expression ⟨[p] ++ after⟩).length :=
      length_expression_le_append (List.cons_ne_nil p []) after
    _ ≤ (expression ⟨before ++ p :: after⟩).length :=
      length_expression_le_append_left before (List.cons_ne_nil p after)

/-! ## Predicates that no chunk can hold -/

/-- The first predicate that is longer than a limit, and its index. -/
structure FirstOversized (limit : Nat) (predicates : List String) (index : Nat) (p : String) :
    Prop where
  there : predicates[index]? = some p
  oversized : limit < p.length
  first : ∀ i q, i < index → predicates[i]? = some q → q.length ≤ limit

theorem firstOversized?_eq_none_iff {limit index : Nat} {predicates : List String} :
    firstOversized? limit index predicates = none ↔ ∀ p ∈ predicates, p.length ≤ limit := by
  induction predicates generalizing index with
  | nil => simp [firstOversized?]
  | cons p rest ih =>
    rw [firstOversized?, List.forall_mem_cons]
    split
    · next hlong =>
      constructor
      · intro h
        cases h
      · rintro ⟨hp, -⟩
        exact absurd hlong (Nat.not_lt.2 hp)
    · next hshort => rw [ih, and_iff_right (Nat.not_lt.1 hshort)]

/-- What is found is the first, counted on from the index of the list's first element. -/
theorem firstOversized_of_eq_some {limit start index : Nat} {predicates : List String} {p : String}
    (h : firstOversized? limit start predicates = some (index, p)) :
    ∃ i, index = start + i ∧ FirstOversized limit predicates i p := by
  induction predicates generalizing start with
  | nil => cases h
  | cons q rest ih =>
    rw [firstOversized?] at h
    split at h
    · next hlong =>
      obtain ⟨rfl, rfl⟩ : start = index ∧ q = p := by simpa using h
      exact ⟨0, rfl, rfl, hlong, fun i q hi => absurd hi (Nat.not_lt_zero i)⟩
    · next hshort =>
      obtain ⟨i, rfl, hthere, hlong, hfirst⟩ := ih h
      refine ⟨i + 1, by omega, hthere, hlong, fun j r hj hr => ?_⟩
      cases j with
      | zero =>
        obtain rfl : q = r := by simpa using hr
        exact Nat.not_lt.1 hshort
      | succ j => exact hfirst j r (Nat.lt_of_succ_lt_succ hj) hr

/-! ## Packings -/

/-- Chunks of predicates as they should be. -/
structure Packing (limit : Nat) (predicates : List String) (chunks : List PredicateChunk) :
    Prop where
  /-- The predicates of all chunks are the predicates, in order. -/
  lossless : chunks.flatMap PredicateChunk.predicates = predicates
  filled : ∀ c ∈ chunks, c.predicates ≠ []
  joined : ∀ c ∈ chunks, c.expression = " OR ".intercalate c.predicates
  bounded : ∀ c ∈ chunks, c.expression.length ≤ limit
  /-- No chunk could have taken the first predicate of the next one. -/
  maximal : chunks.IsChain fun c d =>
    ∀ p ∈ d.predicates.head?, limit < c.expression.length + 4 + p.length

variable {limit : Nat} {predicates : List String} {c : PredicateChunk}
  {chunks : List PredicateChunk}

theorem Packing.nil (limit : Nat) : Packing limit [] [] where
  lossless := rfl
  filled := by simp
  joined := by simp
  bounded := by simp
  maximal := .nil

/-- A chunk in front of a packing, if it could not have taken the next predicate. -/
theorem Packing.cons (h : Packing limit predicates chunks) (hfilled : c.predicates ≠ [])
    (hbounded : c.expression.length ≤ limit)
    (hnext : ∀ d ∈ chunks.head?, ∀ p ∈ d.predicates.head?,
      limit < c.expression.length + 4 + p.length) :
    Packing limit (c.predicates ++ predicates) (c :: chunks) where
  lossless := by rw [List.flatMap_cons, h.lossless]
  filled := List.forall_mem_cons.2 ⟨hfilled, h.filled⟩
  joined := fun d _ => expression_eq_intercalate d
  bounded := List.forall_mem_cons.2 ⟨hbounded, h.bounded⟩
  maximal := List.isChain_cons.2 ⟨hnext, h.maximal⟩

/-- The chunks of a packing from some chunk on are a packing of their predicates. -/
theorem Packing.right_of_append {done left : List PredicateChunk}
    (h : Packing limit predicates (done ++ left)) :
    Packing limit (left.flatMap PredicateChunk.predicates) left where
  lossless := rfl
  filled := fun c hc => h.filled c (List.mem_append_right done hc)
  joined := fun c _ => expression_eq_intercalate c
  bounded := fun c hc => h.bounded c (List.mem_append_right done hc)
  maximal := h.maximal.right_of_append

/-- Each predicate of a packing is within the limit. -/
theorem Packing.length_le (h : Packing limit predicates chunks) :
    ∀ p ∈ predicates, p.length ≤ limit := by
  intro p hp
  rw [← h.lossless] at hp
  obtain ⟨c, hc, hpc⟩ := List.mem_flatMap.1 hp
  exact Nat.le_trans (length_le_expression hpc) (h.bounded c hc)

/-! ## What is packed is a packing -/

variable {opened rest : List String} {length : Nat}

/-- The first chunk begins with the open one. -/
theorem exists_packFrom_eq_cons (limit : Nat) (opened : List String) (length : Nat)
    (rest : List String) :
    ∃ more chunks, packFrom limit opened length rest = ⟨opened.reverse ++ more⟩ :: chunks := by
  induction rest generalizing opened length with
  | nil => exact ⟨[], [], by rw [packFrom, List.append_nil]⟩
  | cons p rest ih =>
    rw [packFrom]
    split
    · exact ⟨[], _, by rw [List.append_nil]⟩
    · obtain ⟨more, chunks, hpack⟩ :=
        ih (p :: opened) (length + predicateSeparator.length + p.length)
      refine ⟨p :: more, chunks, ?_⟩
      rw [hpack, List.reverse_cons, List.append_assoc, List.singleton_append]

/-- The invariant of packing: the number kept is the length of the open expression. One more
predicate adds a separator and itself. -/
theorem length_expression_push (p : String) (hopened : opened ≠ [])
    (hlength : length = (expression ⟨opened.reverse⟩).length) :
    length + predicateSeparator.length + p.length =
      (expression ⟨(p :: opened).reverse⟩).length := by
  have hreverse : opened.reverse ≠ [] := by simpa using hopened
  rw [List.reverse_cons, length_expression_append hreverse (List.cons_ne_nil p []),
    expression_singleton, hlength, length_predicateSeparator]

/-- Packing behind an open chunk that fits makes a packing. -/
theorem packing_packFrom (hopened : opened ≠ [])
    (hlength : length = (expression ⟨opened.reverse⟩).length) (hfits : length ≤ limit)
    (hrest : ∀ p ∈ rest, p.length ≤ limit) :
    Packing limit (opened.reverse ++ rest) (packFrom limit opened length rest) := by
  have hfilled : opened.reverse ≠ [] := by simpa using hopened
  -- for any open chunk, since each step closes it or adds to it
  induction rest generalizing opened length with
  | nil =>
    rw [packFrom]
    exact (Packing.nil limit).cons hfilled (hlength ▸ hfits) (by simp)
  | cons p rest ih =>
    obtain ⟨hp, hothers⟩ := List.forall_mem_cons.1 hrest
    rw [packFrom]
    split
    · next hlong =>
      -- the open chunk is closed, and the predicate opens the next one
      have hpacked : Packing limit (p :: rest) (packFrom limit [p] p.length rest) :=
        ih (List.cons_ne_nil p []) rfl hp hothers (List.cons_ne_nil p [])
      refine hpacked.cons hfilled (hlength ▸ hfits) fun d hd q hq => ?_
      -- the chunk after it begins with the predicate that did not fit
      obtain ⟨more, chunks, hpack⟩ := exists_packFrom_eq_cons limit [p] p.length rest
      rw [hpack] at hd
      obtain rfl : ⟨[p].reverse ++ more⟩ = d := by simpa using hd
      obtain rfl : p = q := by simpa using hq
      show limit < (expression ⟨opened.reverse⟩).length + predicateSeparator.length + p.length
      rwa [← hlength]
    · next hshort =>
      have hpush := length_expression_push p hopened hlength
      have hpacked := ih (List.cons_ne_nil p opened) hpush (Nat.not_lt.1 hshort) hothers (by simp)
      rwa [List.reverse_cons, ← List.append_cons] at hpacked

/-! ## A packing is what is packed -/

/-- As long as the open expression fits, predicates go into the open chunk. -/
theorem packFrom_append {more : List String} (hopened : opened ≠ [])
    (hlength : length = (expression ⟨opened.reverse⟩).length)
    (hfits : (expression ⟨opened.reverse ++ more⟩).length ≤ limit) (rest : List String) :
    packFrom limit opened length (more ++ rest) =
      packFrom limit (more.reverse ++ opened)
        (expression ⟨opened.reverse ++ more⟩).length rest := by
  induction more generalizing opened length with
  | nil => rw [List.append_nil, ← hlength, List.nil_append, List.reverse_nil, List.nil_append]
  | cons p more ih =>
    have hpush := length_expression_push p hopened hlength
    have hreverse : opened.reverse ++ p :: more = (p :: opened).reverse ++ more := by
      rw [List.reverse_cons, List.append_assoc, List.singleton_append]
    have hturn : (p :: more).reverse ++ opened = more.reverse ++ p :: opened := by
      rw [List.reverse_cons, List.append_assoc, List.singleton_append]
    rw [hreverse] at hfits ⊢
    have hshort : ¬ limit < length + predicateSeparator.length + p.length := by
      rw [hpush]
      exact Nat.not_lt.2 (Nat.le_trans (length_expression_le_append (by simp) more) hfits)
    rw [List.cons_append, packFrom, if_neg hshort, hturn]
    exact ih (List.cons_ne_nil p opened) hpush hfits

/-- A chunk that fits takes all of its predicates. -/
theorem packFrom_of_fits {p : String} {more : List String}
    (hfits : (expression ⟨p :: more⟩).length ≤ limit) (rest : List String) :
    packFrom limit [p] p.length (more ++ rest) =
      packFrom limit (p :: more).reverse (expression ⟨p :: more⟩).length rest := by
  rw [List.reverse_cons]
  exact packFrom_append (List.cons_ne_nil p []) rfl hfits rest

/-- Packing the predicates of a packing makes its chunks. -/
theorem packFrom_flatMap {p : String} {more : List String}
    (h : Packing limit predicates (⟨p :: more⟩ :: chunks)) :
    packFrom limit [p] p.length (more ++ chunks.flatMap PredicateChunk.predicates) =
      ⟨p :: more⟩ :: chunks := by
  induction chunks generalizing predicates p more with
  | nil =>
    rw [packFrom_of_fits (h.bounded _ List.mem_cons_self), List.flatMap_nil, packFrom,
      List.reverse_reverse]
  | cons d chunks ih =>
    obtain ⟨q, others, rfl⟩ :=
      exists_eq_cons (h.filled d (List.mem_cons_of_mem _ List.mem_cons_self))
    -- the next predicate does not fit any more, and opens the next chunk
    have hlong : limit < (expression ⟨p :: more⟩).length + predicateSeparator.length + q.length :=
      (List.isChain_cons_cons.1 h.maximal).1 q rfl
    have hsplit : Packing limit predicates ([⟨p :: more⟩] ++ ⟨q :: others⟩ :: chunks) := h
    rw [packFrom_of_fits (h.bounded _ List.mem_cons_self), List.flatMap_cons, List.cons_append,
      packFrom, if_pos hlong, List.reverse_reverse, ih hsplit.right_of_append]

/-! ## The answer -/

/-- If some predicate is too long, the first such predicate is what the failure is about. -/
theorem exists_pack_eq_error (h : ∃ p ∈ predicates, limit < p.length) :
    ∃ index p, FirstOversized limit predicates index p ∧
      pack limit predicates = .error (oversized limit index p) := by
  obtain ⟨p, hp, hlong⟩ := h
  rcases hfirst : firstOversized? limit 0 predicates with _ | ⟨index, q⟩
  · have hfits := firstOversized?_eq_none_iff.1 hfirst
    exact absurd hlong (Nat.not_lt.2 (hfits p hp))
  · obtain ⟨i, rfl, hoversized⟩ := firstOversized_of_eq_some hfirst
    rw [Nat.zero_add] at hfirst
    refine ⟨i, q, hoversized, ?_⟩
    unfold pack
    rw [hfirst]

/-- If no predicate is too long, all are packed. -/
theorem exists_pack_eq_ok (hfits : ∀ p ∈ predicates, p.length ≤ limit) :
    ∃ chunks, pack limit predicates = .ok chunks ∧ Packing limit predicates chunks := by
  have hnone : firstOversized? limit 0 predicates = none := firstOversized?_eq_none_iff.2 hfits
  unfold pack
  rw [hnone]
  cases predicates with
  | nil => exact ⟨[], rfl, .nil limit⟩
  | cons p rest =>
    obtain ⟨hp, hrest⟩ := List.forall_mem_cons.1 hfits
    exact ⟨_, rfl, packing_packFrom (List.cons_ne_nil p []) rfl hp hrest⟩

/-- **There is one packing**, and it is what `pack` answers. -/
theorem pack_eq_ok_iff : pack limit predicates = .ok chunks ↔ Packing limit predicates chunks := by
  constructor
  · intro h
    have hfits : ∀ p ∈ predicates, p.length ≤ limit := by
      intro p hp
      refine Nat.not_lt.1 fun hlong => ?_
      obtain ⟨_, _, -, herror⟩ := exists_pack_eq_error ⟨p, hp, hlong⟩
      cases h.symm.trans herror
    obtain ⟨packed, hpacked, hpacking⟩ := exists_pack_eq_ok hfits
    obtain rfl := Except.ok.inj (h.symm.trans hpacked)
    exact hpacking
  · intro h
    have hnone : firstOversized? limit 0 predicates = none :=
      firstOversized?_eq_none_iff.2 h.length_le
    unfold pack
    rw [hnone]
    cases chunks with
    | nil =>
      obtain rfl : [] = predicates := h.lossless
      rfl
    | cons c chunks =>
      obtain ⟨p, more, rfl⟩ := exists_eq_cons (h.filled c List.mem_cons_self)
      obtain rfl : p :: (more ++ chunks.flatMap PredicateChunk.predicates) = predicates :=
        h.lossless
      exact congrArg Except.ok (packFrom_flatMap h)

/-- **Packing is lossless, bounded and maximal.** If some predicate is longer than the limit, the
answer is a failure that names the first such predicate and its length. If none is, the answer is a
packing: all predicates in order, in chunks that fit and could not have taken one predicate more. -/
theorem pack_lossless_bounded_maximal (limit : Nat) (predicates : List String) :
    ((∃ p ∈ predicates, limit < p.length) →
      ∃ index p, FirstOversized limit predicates index p ∧
        pack limit predicates = .error
          { kind := .chunking
            message := s!"predicate {index} is {p.length} characters, longer than the {limit} " ++
              s!"character limit: {p}" }) ∧
      ((∀ p ∈ predicates, p.length ≤ limit) →
        ∃ chunks, pack limit predicates = .ok chunks ∧ Packing limit predicates chunks) := by
  constructor
  · intro hlong
    exact exists_pack_eq_error hlong
  · intro hfits
    exact exists_pack_eq_ok hfits

example : pack 12 ["aaaa", "bbbb", "", "cccc"] = .ok [⟨["aaaa", "bbbb"]⟩, ⟨["", "cccc"]⟩] := by
  decide

end PredicateChunk

end Lakehouse
