import Lakehouse.Proofs.Partition.Packing

/-!
# Packing makes the fewest chunks

Every chunk is a call to the external catalog, so a list of predicates should make as few of them as
the limit allows. Packing looks no further than the next predicate, and that is enough.

- `Segmentation`: a way to cut a list of predicates, in order, into groups that fit the limit.
- `Packing.segmentation`: chunks that are packed are one of these ways.
- `Packing.length_le_of_isPrefix`: packing stays ahead. A group that begins no later than a chunk ends
  no later than the chunk does, or it would hold the predicate that did not fit any more.
- **`packs_fewest`**: no way to cut the list has fewer groups than packing makes chunks.
-/

namespace Lakehouse

namespace PredicateChunk

variable {limit : Nat} {predicates : List String} {chunks : List PredicateChunk}

/-- A way to cut predicates into consecutive groups, each of which makes an expression within the
limit. -/
structure Segmentation (limit : Nat) (predicates : List String) (groups : List (List String)) :
    Prop where
  consecutive : groups.flatten = predicates
  filled : ∀ g ∈ groups, g ≠ []
  bounded : ∀ g ∈ groups, (" OR ".intercalate g).length ≤ limit

/-- The chunks of a packing cut its predicates. -/
theorem Packing.segmentation (h : Packing limit predicates chunks) :
    Segmentation limit predicates (chunks.map PredicateChunk.predicates) where
  consecutive := by
    have hlossless := h.lossless
    rwa [List.flatMap_def] at hlossless
  filled := by
    intro g hg
    obtain ⟨c, hc, rfl⟩ := List.mem_map.1 hg
    exact h.filled c hc
  bounded := by
    intro g hg
    obtain ⟨c, hc, rfl⟩ := List.mem_map.1 hg
    have hbounded := h.bounded c hc
    rwa [expression_eq_intercalate] at hbounded

/-- **Packing stays ahead.** A group that fits and begins with predicates before the first chunk
ends no later than that chunk. -/
theorem Packing.length_le_of_isPrefix {c : PredicateChunk} {skipped g : List String}
    (h : Packing limit predicates (c :: chunks)) (hbounded : (expression ⟨g⟩).length ≤ limit)
    (hbegins : g <+: skipped ++ predicates) : g.length ≤ (skipped ++ c.predicates).length := by
  have hlossless := h.lossless
  rw [List.flatMap_cons] at hlossless
  cases chunks with
  | nil =>
    -- the first chunk is the last, and there is nothing after it
    have hlength := hbegins.length_le
    rwa [← hlossless, List.flatMap_nil, List.append_nil] at hlength
  | cons d chunks =>
    obtain ⟨p, more, rfl⟩ :=
      exists_eq_cons (h.filled d (List.mem_cons_of_mem _ List.mem_cons_self))
    have hlong : limit < c.expression.length + 4 + p.length :=
      (List.isChain_cons_cons.1 h.maximal).1 p rfl
    refine Nat.le_of_not_lt fun hbeyond => ?_
    -- a longer group would hold the chunk and the predicate that did not fit any more
    have hnext : skipped ++ (c.predicates ++ [p]) <+: skipped ++ predicates := by
      refine (List.prefix_append_right_inj skipped).2
        ⟨more ++ chunks.flatMap PredicateChunk.predicates, ?_⟩
      rw [← hlossless, List.flatMap_cons, List.append_assoc]
      rfl
    have hinside : skipped ++ (c.predicates ++ [p]) <+: g := by
      refine List.prefix_of_prefix_length_le hnext hbegins ?_
      simp only [List.length_append, List.length_singleton] at hbeyond ⊢
      omega
    obtain ⟨others, rfl⟩ := hinside
    have hfilled : c.predicates ≠ [] := h.filled c List.mem_cons_self
    have htoo := calc c.expression.length + 4 + p.length
        _ = (expression ⟨c.predicates ++ [p]⟩).length := by
          rw [length_expression_append hfilled (List.cons_ne_nil p []), expression_singleton]
        _ ≤ (expression ⟨skipped ++ (c.predicates ++ [p])⟩).length :=
          length_expression_le_append_left skipped (by simp)
        _ ≤ (expression ⟨skipped ++ (c.predicates ++ [p]) ++ others⟩).length :=
          length_expression_le_append (by simp) others
    omega

/-- Groups that fit are no fewer than the chunks of a packing, also if they begin with predicates
before it. -/
theorem Packing.length_le_of_flatten {skipped : List String} {groups : List (List String)}
    (h : Packing limit predicates chunks) (hgroups : groups.flatten = skipped ++ predicates)
    (hbounded : ∀ g ∈ groups, (expression ⟨g⟩).length ≤ limit) :
    chunks.length ≤ groups.length := by
  -- each chunk is matched with a group, and what a group leaves of its chunk is skipped
  induction chunks generalizing predicates skipped groups with
  | nil => exact Nat.zero_le _
  | cons c chunks ih =>
    have hlossless := h.lossless
    rw [List.flatMap_cons] at hlossless
    cases groups with
    | nil =>
      rw [List.flatten_nil, ← hlossless] at hgroups
      obtain ⟨-, hempty⟩ := List.nil_eq_append_iff.1 hgroups
      have hnil : c.predicates = [] := (List.append_eq_nil_iff.1 hempty).1
      exact absurd hnil (h.filled c List.mem_cons_self)
    | cons g groups =>
      obtain ⟨hg, hothers⟩ := List.forall_mem_cons.1 hbounded
      rw [List.flatten_cons] at hgroups
      have hbegins : g <+: skipped ++ predicates := ⟨groups.flatten, hgroups⟩
      have hlength := h.length_le_of_isPrefix hg hbegins
      have hends : g <+: skipped ++ c.predicates := by
        refine List.prefix_of_prefix_length_le hbegins ?_ hlength
        rw [← hlossless, ← List.append_assoc]
        exact List.prefix_append _ _
      obtain ⟨left, hleft⟩ := hends
      have hrest : groups.flatten = left ++ chunks.flatMap PredicateChunk.predicates := by
        rw [← hlossless, ← List.append_assoc, ← hleft, List.append_assoc] at hgroups
        exact List.append_cancel_left hgroups
      have happend : Packing limit predicates ([c] ++ chunks) := h
      have htail := happend.right_of_append
      have hle := ih htail hrest hothers
      simp only [List.length_cons]
      omega

/-- **Packing makes the fewest chunks.** Predicates none of which is longer than the limit are cut
into chunks, and every other way to cut them into groups that fit has at least as many groups. -/
theorem packs_fewest (limit : Nat) (predicates : List String)
    (hfits : ∀ p ∈ predicates, p.length ≤ limit) :
    ∃ chunks, pack limit predicates = .ok chunks ∧
      Segmentation limit predicates (chunks.map PredicateChunk.predicates) ∧
      ∀ groups, Segmentation limit predicates groups → chunks.length ≤ groups.length := by
  obtain ⟨chunks, hpack, hpacking⟩ := exists_pack_eq_ok hfits
  refine ⟨chunks, hpack, hpacking.segmentation, fun groups h => ?_⟩
  have hgroups : groups.flatten = [] ++ predicates := h.consecutive
  refine hpacking.length_le_of_flatten hgroups fun g hg => ?_
  have hbounded := h.bounded g hg
  rwa [← expression_eq_intercalate ⟨g⟩] at hbounded

/-- Four predicates make two chunks, and to cut them in three is one group too many. -/
theorem packs_fewest_of_four :
    (∀ p ∈ ["aaaa", "bbbb", "", "cccc"], p.length ≤ 12) ∧
      Segmentation 12 ["aaaa", "bbbb", "", "cccc"] [["aaaa"], ["bbbb", ""], ["cccc"]] ∧
      ∃ chunks, pack 12 ["aaaa", "bbbb", "", "cccc"] = .ok chunks ∧ chunks.length = 2 ∧
        chunks.length ≤ [["aaaa"], ["bbbb", ""], ["cccc"]].length := by
  have hfits : ∀ p ∈ ["aaaa", "bbbb", "", "cccc"], p.length ≤ 12 := by decide
  have hcut : Segmentation 12 ["aaaa", "bbbb", "", "cccc"]
      [["aaaa"], ["bbbb", ""], ["cccc"]] := ⟨rfl, by decide, by decide⟩
  obtain ⟨chunks, hpack, -, hleast⟩ := packs_fewest 12 ["aaaa", "bbbb", "", "cccc"] hfits
  have hchunks : chunks = [⟨["aaaa", "bbbb"]⟩, ⟨["", "cccc"]⟩] :=
    Except.ok.inj (hpack.symm.trans rfl)
  exact ⟨hfits, hcut, chunks, hpack, by rw [hchunks]; rfl, hleast _ hcut⟩

end PredicateChunk

end Lakehouse
