import Lakehouse.Declaration.Violation
import Mathlib.Data.List.Nodup

/-!
# Declarations that keep the rules

The rules are checked one name after another, and the check stops at the first violation. What
declarations are like that it lets through does not depend on that order.

- `ProperNames`: names that say something, none of them twice.
- `CatalogDeclaration.WellFormed`, `Declarations.WellFormed`: declarations that keep the rules.
- `Declarations.validate_eq_ok_iff`: they are exactly those that the check lets through.
-/

namespace Lakehouse

/-- Names that say something, none of which is given twice. -/
structure ProperNames (names : List String) : Prop where
  filled : ∀ name ∈ names, Text.isBlankText name = false
  distinct : names.Nodup

theorem properNames_cons {name : String} {rest : List String} :
    ProperNames (name :: rest) ↔
      Text.isBlankText name = false ∧ name ∉ rest ∧ ProperNames rest := by
  constructor
  · rintro ⟨hfilled, hdistinct⟩
    obtain ⟨hname, hrest⟩ := List.forall_mem_cons.1 hfilled
    obtain ⟨hnew, hdistinct⟩ := List.nodup_cons.1 hdistinct
    exact ⟨hname, hnew, hrest, hdistinct⟩
  · rintro ⟨hname, hnew, hrest, hdistinct⟩
    exact ⟨List.forall_mem_cons.2 ⟨hname, hrest⟩, List.nodup_cons.2 ⟨hnew, hdistinct⟩⟩

/-- No name is bad exactly if the names are proper and none has been seen. -/
theorem firstBadName?_eq_none_iff {blank : Violation} {duplicate : String → Violation}
    {seen names : List String} :
    firstBadName? blank duplicate seen names = none ↔
      ProperNames names ∧ ∀ name ∈ names, name ∉ seen := by
  induction names generalizing seen with
  | nil => simp [firstBadName?, ProperNames.mk]
  | cons name rest ih =>
    rw [firstBadName?, properNames_cons, List.forall_mem_cons]
    split
    · next hblank => simp [hblank]
    · next hfilled =>
      split
      · next hseen => simp [List.contains_iff_mem.1 hseen]
      · next hnew =>
        have hunseen : name ∉ seen := fun hmem => hnew (List.contains_iff_mem.2 hmem)
        rw [ih]
        constructor
        · rintro ⟨hproper, hothers⟩
          have hrest : ∀ other ∈ rest, other ≠ name ∧ other ∉ seen := fun other hother =>
            not_or.1 fun h => hothers other hother (List.mem_cons.2 h)
          exact ⟨⟨by simpa using hfilled, fun hmem => (hrest name hmem).1 rfl, hproper⟩, hunseen,
            fun other hother => (hrest other hother).2⟩
        · rintro ⟨⟨-, hfresh, hproper⟩, -, hothers⟩
          refine ⟨hproper, fun other hother hmem => ?_⟩
          rcases List.mem_cons.1 hmem with rfl | hmem
          · exact hfresh hother
          · exact hothers other hother hmem

/-- A catalog that keeps the rules: its integrations have proper names, and the active one is among
those for writing. -/
structure CatalogDeclaration.WellFormed (c : CatalogDeclaration) : Prop where
  integrations : ProperNames (c.integrations.map (·.name))
  active : c.active ∈ c.writes.map (·.name)

/-- Declarations that keep the rules. -/
structure Declarations.WellFormed (d : Declarations) : Prop where
  catalogs : ProperNames (d.catalogs.map (·.name))
  each : ∀ c ∈ d.catalogs, c.WellFormed

/-- What a catalog calls its active integration says something, because an integration is called so.
-/
theorem CatalogDeclaration.WellFormed.active_filled {c : CatalogDeclaration} (h : c.WellFormed) :
    Text.isBlankText c.active = false := by
  refine h.integrations.filled c.active ?_
  rw [CatalogDeclaration.integrations, List.map_append]
  exact List.mem_append_left _ h.active

/-- Integrations for writing are told apart by their names. -/
theorem CatalogDeclaration.WellFormed.write_unique {c : CatalogDeclaration} (h : c.WellFormed)
    {write other : IntegrationDeclaration} (hwrite : write ∈ c.writes) (hother : other ∈ c.writes)
    (hname : write.name = other.name) : write = other := by
  have hdistinct := h.integrations.distinct
  rw [CatalogDeclaration.integrations, List.map_append] at hdistinct
  exact List.inj_on_of_nodup_map hdistinct.of_append_left hwrite hother hname

theorem CatalogDeclaration.violation?_eq_none_iff {c : CatalogDeclaration} :
    c.violation? = none ↔ c.WellFormed := by
  rw [violation?]
  split
  · next hblank =>
    refine iff_of_false (by simp) fun h => ?_
    rw [h.active_filled] at hblank
    cases hblank
  · rw [Option.or_eq_none_iff, firstBadName?_eq_none_iff]
    constructor
    · rintro ⟨⟨hnames, -⟩, hactive⟩
      refine ⟨hnames, ?_⟩
      simpa using hactive
    · rintro ⟨hnames, hactive⟩
      exact ⟨⟨hnames, by simp⟩, by simpa using hactive⟩

namespace Declarations

variable {d : Declarations} {path : String}

theorem violation?_eq_none_iff : d.violation? = none ↔ d.WellFormed := by
  rw [violation?, Option.or_eq_none_iff, firstBadName?_eq_none_iff, List.findSome?_eq_none_iff]
  simp only [CatalogDeclaration.violation?_eq_none_iff]
  constructor
  · rintro ⟨⟨hnames, -⟩, heach⟩
    exact ⟨hnames, heach⟩
  · rintro ⟨hnames, heach⟩
    exact ⟨⟨hnames, by simp⟩, heach⟩

/-- The check lets exactly those declarations through that keep the rules. -/
theorem validate_eq_ok_iff : d.validate path = .ok () ↔ d.WellFormed := by
  rw [← violation?_eq_none_iff, validate]
  cases d.violation? <;> simp

end Declarations

end Lakehouse
