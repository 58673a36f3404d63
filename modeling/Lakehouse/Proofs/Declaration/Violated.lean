import Lakehouse.Proofs.Declaration.InUse

/-!
# Declarations that break the rules

The check goes through the declarations in one order and stops at the first violation. What it finds is
said here without the names that it keeps in mind on its way.

- `FirstBadName`: the first of some names that is blank or has been given before
  (`firstBadName?_eq_some_iff`).
- `CatalogDeclaration.Breaks`, `Declarations.Breaks`: the first violation of the rules.
- **`declarations_are_checked_in_order`**: what the check lets through, and what it says of the rest.
-/

namespace Lakehouse

/-! ## Names -/

section Names

variable {blank : Violation} {duplicate : String → Violation} {v : Violation}

/-- What is wrong with a name that comes after others: it is blank, or else it has been given. -/
inductive BadName (blank : Violation) (duplicate : String → Violation) (earlier : List String)
    (name : String) : Violation → Prop
  | blank (h : Text.isBlankText name = true) : BadName blank duplicate earlier name blank
  | given (hfilled : Text.isBlankText name = false) (h : name ∈ earlier) :
      BadName blank duplicate earlier name (duplicate name)

/-- What is wrong with the first bad one of some names. -/
def FirstBadName (blank : Violation) (duplicate : String → Violation) (names : List String)
    (v : Violation) : Prop :=
  ∃ earlier name later, names = earlier ++ name :: later ∧ ProperNames earlier ∧
    BadName blank duplicate earlier name v

theorem BadName.of_subset {earlier earlier' : List String} {name : String}
    (hsubset : earlier ⊆ earlier') (h : BadName blank duplicate earlier name v) :
    BadName blank duplicate earlier' name v := by
  cases h with
  | blank h => exact .blank h
  | given hfilled h => exact .given hfilled (hsubset h)

/-- The first bad name is found, wherever it comes. -/
theorem firstBadName?_of_badName {earlier later seen : List String} {name : String}
    (hearlier : ProperNames earlier) (hnew : ∀ other ∈ earlier, other ∉ seen)
    (h : BadName blank duplicate (earlier ++ seen) name v) :
    firstBadName? blank duplicate seen (earlier ++ name :: later) = some v := by
  -- a name that has been looked at moves from the earlier ones to those seen
  induction earlier generalizing seen with
  | nil =>
    rw [List.nil_append] at h ⊢
    rw [firstBadName?]
    cases h with
    | blank h => rw [if_pos h]
    | given hfilled h => rw [if_neg (by simp [hfilled]), if_pos (List.contains_iff_mem.2 h)]
  | cons other rest ih =>
    obtain ⟨hfilled, hfresh, hrest⟩ := properNames_cons.1 hearlier
    obtain ⟨hother, hothers⟩ := List.forall_mem_cons.1 hnew
    rw [List.cons_append, firstBadName?, if_neg (by simp [hfilled]), if_neg (by simpa using hother)]
    refine ih hrest (fun x hx hmem => ?_) (h.of_subset ?_)
    · rcases List.mem_cons.1 hmem with rfl | hmem
      · exact hfresh hx
      · exact hothers x hx hmem
    · rw [List.cons_append]
      exact List.perm_middle.symm.subset

/-- What is found is wrong with the first bad name. -/
theorem exists_badName_of_firstBadName? {names seen : List String}
    (h : firstBadName? blank duplicate seen names = some v) :
    ∃ earlier name later, names = earlier ++ name :: later ∧ ProperNames earlier ∧
      (∀ other ∈ earlier, other ∉ seen) ∧ BadName blank duplicate (earlier ++ seen) name v := by
  induction names generalizing seen with
  | nil => cases h
  | cons name rest ih =>
    have hnone : ProperNames [] := ⟨by simp, List.nodup_nil⟩
    rw [firstBadName?] at h
    split at h
    · next hblank =>
      obtain rfl := Option.some.inj h
      exact ⟨[], name, rest, rfl, hnone, by simp, .blank hblank⟩
    next hfilled =>
    rw [Bool.not_eq_true] at hfilled
    split at h
    · next hseen =>
      obtain rfl := Option.some.inj h
      exact ⟨[], name, rest, rfl, hnone, by simp, .given hfilled (List.contains_iff_mem.1 hseen)⟩
    · next hunseen =>
      obtain ⟨earlier, bad, later, rfl, hearlier, hnew, hbad⟩ := ih h
      have hnew : ∀ other ∈ earlier, other ≠ name ∧ other ∉ seen := fun other hother =>
        not_or.1 fun h => hnew other hother (List.mem_cons.2 h)
      refine ⟨name :: earlier, bad, later, rfl, ?_, ?_, hbad.of_subset List.perm_middle.subset⟩
      · exact properNames_cons.2 ⟨hfilled, fun hmem => (hnew name hmem).1 rfl, hearlier⟩
      · exact List.forall_mem_cons.2 ⟨fun hmem => hunseen (List.contains_iff_mem.2 hmem),
          fun other hother => (hnew other hother).2⟩

theorem firstBadName?_eq_some_iff {names : List String} :
    firstBadName? blank duplicate [] names = some v ↔ FirstBadName blank duplicate names v := by
  constructor
  · intro h
    obtain ⟨earlier, name, later, hsplit, hearlier, -, hbad⟩ := exists_badName_of_firstBadName? h
    exact ⟨earlier, name, later, hsplit, hearlier, by simpa using hbad⟩
  · rintro ⟨earlier, name, later, rfl, hearlier, hbad⟩
    exact firstBadName?_of_badName hearlier (by simp) (by simpa using hbad)

end Names

/-! ## Violations -/

/-- The first violation inside a catalog: what it calls its active integration says nothing, the names
of its integrations are not proper, or none of those for writing is called as the active one. -/
inductive CatalogDeclaration.Breaks (c : CatalogDeclaration) : Violation → Prop
  | blankActive (h : Text.isBlankText c.active = true) : Breaks c (.blankActive c.name)
  | integration {v : Violation} (hactive : Text.isBlankText c.active = false)
      (h : FirstBadName (.blankIntegration c.name) (.duplicateIntegration c.name)
        (c.writes.map (·.name) ++ c.reads.map (·.name)) v) : Breaks c v
  | activeMissing (hactive : Text.isBlankText c.active = false)
      (hnames : ProperNames (c.writes.map (·.name) ++ c.reads.map (·.name)))
      (h : c.active ∉ c.writes.map (·.name)) :
      Breaks c (.activeMissing c.name c.active (c.writes.map (·.name)))

/-- The first violation of the rules: the names of all catalogs come before what is in any of them. -/
inductive Declarations.Breaks (d : Declarations) : Violation → Prop
  | catalog {v : Violation}
      (h : FirstBadName .blankCatalog .duplicateCatalog (d.catalogs.map (·.name)) v) : Breaks d v
  | inside {earlier later : List CatalogDeclaration} {c : CatalogDeclaration} {v : Violation}
      (hnames : ProperNames (d.catalogs.map (·.name))) (hsplit : d.catalogs = earlier ++ c :: later)
      (hearlier : ∀ e ∈ earlier, e.WellFormed) (h : c.Breaks v) : Breaks d v

theorem CatalogDeclaration.violation?_eq_some_iff {c : CatalogDeclaration} {v : Violation} :
    c.violation? = some v ↔ c.Breaks v := by
  have hnames : c.integrations.map (·.name) = c.writes.map (·.name) ++ c.reads.map (·.name) :=
    List.map_append
  simp only [violation?, hnames]
  constructor
  · intro h
    split at h
    · next hblank =>
      obtain rfl := Option.some.inj h
      exact .blankActive hblank
    next hactive =>
    rw [Bool.not_eq_true] at hactive
    rcases Option.or_eq_some_iff.1 h with h | ⟨hproper, h⟩
    · exact .integration hactive (firstBadName?_eq_some_iff.1 h)
    · split at h
      · cases h
      · next hmissing =>
        obtain rfl := Option.some.inj h
        exact .activeMissing hactive (firstBadName?_eq_none_iff.1 hproper).1
          fun hmem => hmissing (List.contains_iff_mem.2 hmem)
  · intro h
    cases h with
    | blankActive h => simp [h]
    | integration hactive h => simp [hactive, firstBadName?_eq_some_iff.2 h]
    | activeMissing hactive hproper h =>
      rw [if_neg (by simp [hactive]), firstBadName?_eq_none_iff.2 ⟨hproper, by simp⟩, Option.none_or,
        if_neg fun hmem => h (List.contains_iff_mem.1 hmem)]

namespace Declarations

variable {d : Declarations} {path : String} {v : Violation} {f : Failure}

theorem violation?_eq_some_iff : d.violation? = some v ↔ d.Breaks v := by
  rw [violation?, Option.or_eq_some_iff, firstBadName?_eq_some_iff, firstBadName?_eq_none_iff,
    List.findSome?_eq_some_iff]
  simp only [CatalogDeclaration.violation?_eq_some_iff, CatalogDeclaration.violation?_eq_none_iff]
  constructor
  · rintro (h | ⟨⟨hnames, -⟩, earlier, c, later, hsplit, h, hearlier⟩)
    · exact .catalog h
    · exact .inside hnames hsplit hearlier h
  · intro h
    cases h with
    | catalog h => exact .inl h
    | inside hnames hsplit hearlier h =>
      exact .inr ⟨⟨hnames, by simp⟩, _, _, _, hsplit, h, hearlier⟩

/-- The check fails with the first violation. -/
theorem validate_eq_error_iff :
    d.validate path = .error f ↔ ∃ v, d.Breaks v ∧ f = v.toFailure path := by
  simp only [← violation?_eq_some_iff, validate]
  cases d.violation? <;> simp [eq_comm]

/-- Of declarations that keep the rules, no active integration is looked for in vain. -/
theorem WellFormed.ne_activeNotFound (h : d.WellFormed) (hfails : d.configs = .error f)
    (c : CatalogDeclaration) : f ≠ c.activeNotFound := by
  obtain ⟨-, u, -, fault, -, -, hfault, rfl⟩ := h.configs_eq_error_iff.1 hfails
  rintro hsame
  have hkind : fault.kind = .configuration := congrArg Failure.kind hsame
  rcases hfault.kind_eq with h | h <;> rw [h] at hkind <;> cases hkind

/-! ## Checking -/

/-- What is settled by checking the declarations of a file.

- `accepts_iff`: they are let through exactly if names say something and none is given twice, those of
  catalogs in the file and those of integrations in a catalog, and if each catalog is written through
  one of its integrations for writing.
- `refuses_iff`, `settled`, `kind`: otherwise the first violation is the failure, and there is only one
  that is first.
- `active`, `found`: of declarations that are let through, each catalog has exactly one active
  integration, and it is not looked for in vain. -/
structure CheckedInOrder (d : Declarations) (path : String) : Prop where
  accepts_iff : d.validate path = .ok () ↔
    ((∀ c ∈ d.catalogs, Text.isBlankText c.name = false) ∧ (d.catalogs.map (·.name)).Nodup) ∧
      ∀ c ∈ d.catalogs,
        Text.isBlankText c.active = false ∧ (∃ write ∈ c.writes, write.name = c.active) ∧
          (∀ i ∈ c.writes ++ c.reads, Text.isBlankText i.name = false) ∧
          ((c.writes ++ c.reads).map (·.name)).Nodup
  refuses_iff : ∀ f, d.validate path = .error f ↔ ∃ v, d.Breaks v ∧ f = v.toFailure path
  settled : ∀ v v', d.Breaks v → d.Breaks v' → v = v'
  kind : ∀ f, d.validate path = .error f → f.kind = .configuration
  active : d.validate path = .ok () → ∀ c ∈ d.catalogs,
    ∃ write, c.writes.filter (·.name = c.active) = [write]
  found : d.validate path = .ok () → ∀ f, d.configs = .error f →
    ∀ c : CatalogDeclaration, f ≠ c.activeNotFound

end Declarations

/-- Declarations are let through exactly if they keep the rules, and fail with the first violation if
they do not. -/
theorem declarations_are_checked_in_order (d : Declarations) (path : String) :
    d.CheckedInOrder path := by
  refine
    { accepts_iff := ?_
      refuses_iff := fun f => Declarations.validate_eq_error_iff
      settled := fun v v' h h' => ?_
      kind := fun f h => ?_
      active := fun h c hc => ?_
      found := fun h f hfails => (Declarations.validate_eq_ok_iff.1 h).ne_activeNotFound hfails }
  · rw [Declarations.validate_eq_ok_iff]
    constructor
    · intro h
      refine ⟨⟨List.forall_mem_map.1 h.catalogs.filled, h.catalogs.distinct⟩, fun c hc => ?_⟩
      have hwell := h.each c hc
      exact ⟨hwell.active_filled, List.mem_map.1 hwell.active,
        List.forall_mem_map.1 hwell.integrations.filled, hwell.integrations.distinct⟩
    · rintro ⟨⟨hfilled, hdistinct⟩, heach⟩
      refine ⟨⟨List.forall_mem_map.2 hfilled, hdistinct⟩, fun c hc => ?_⟩
      obtain ⟨-, hactive, hfilled, hdistinct⟩ := heach c hc
      exact ⟨⟨List.forall_mem_map.2 hfilled, hdistinct⟩, List.mem_map.2 hactive⟩
  · have hsame := (Declarations.violation?_eq_some_iff.2 h).symm.trans
      (Declarations.violation?_eq_some_iff.2 h')
    exact Option.some.inj hsame
  · obtain ⟨v, -, rfl⟩ := Declarations.validate_eq_error_iff.1 h
    rfl
  · obtain ⟨write, -, hwrite⟩ := ((Declarations.validate_eq_ok_iff.1 h).each c hc).filter_active
    exact ⟨write, hwrite⟩

/-- A blank name of a later catalog comes before what is missing in an earlier one. -/
example (path : String) :
    Declarations.validate path ⟨[⟨"lake", "primary", [], []⟩, ⟨" ", "primary", [], []⟩]⟩ =
      .error (Violation.blankCatalog.toFailure path) := by
  rfl

end Lakehouse
