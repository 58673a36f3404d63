import Lakehouse.Proofs.Integration.Resolved

/-!
# The right to write

Whether tables may be written is said by a declaration, and settled by the catalog type: a type that
is only read is never written, and any other one is not declared for reading.

- `Integration.BuiltFrom`: what an integration keeps of its declaration, by `builtFrom_of_onBackend`
  all of it but the right to write, where the catalog type is only read.
- `Integration.SafelyResolved`: a relation may be written as far as its catalog type and its
  integration allow, and one that may not has no location of its own. Every relation that an
  integration resolves is one (`BuiltFrom.safelyResolved`).
-/

namespace Lakehouse

/-- The catalog types that are only read. -/
theorem behaviour_eq_externalReadOnly_iff {t : CatalogType} :
    t.behaviour = .externalReadOnly ↔ t = .icebergRest ∨ t = .awsGlue := by
  cases t <;> decide

/-! ## What an integration keeps of its declaration -/

namespace Integration

/-- An integration has the declaration it is built from. Either models are written through it, as
the declaration says, or its catalog type is only read, and it forbids writing whatever that says.
-/
inductive BuiltFrom (c : IntegrationConfig) : Integration → Prop
  | writing {strategy : Strategy} (hbehaviour : c.catalogType.behaviour ≠ .externalReadOnly)
      (hwrites : c.allowsWrites = true) (hstrategy : ∀ o, strategy ≠ .readOnly o) :
      BuiltFrom c ⟨c, strategy⟩
  | reading {o : ReadOnlyOptions} (hbehaviour : c.catalogType.behaviour = .externalReadOnly) :
      BuiltFrom c ⟨{ c with allowsWrites := false }, .readOnly o⟩

variable {b : Backend} {c : IntegrationConfig} {i : Integration} {m : Model}
  {relation : StorageRelation}

/-- An integration on a backend is built from its declaration. -/
theorem builtFrom_of_onBackend (h : onBackend b c = .ok i) : BuiltFrom c i := by
  cases madeFrom_of_onBackend h with
  | internal hbehaviour hwrites => exact .writing (by simp [hbehaviour]) hwrites (by simp)
  | managed hbehaviour hwrites => exact .writing (by simp [hbehaviour]) hwrites (by simp)
  | glue hbehaviour hwrites => exact .writing (by simp [hbehaviour]) hwrites (by simp)
  | readOnly hbehaviour => exact .reading hbehaviour

/-- The declaration of an integration is the one it is built from, but for the right to write where
the catalog type is only read. -/
theorem BuiltFrom.config_eq (h : BuiltFrom c i) :
    i.config = if c.catalogType.behaviour = .externalReadOnly then { c with allowsWrites := false }
      else c := by
  cases h with
  | writing hbehaviour => rw [if_neg hbehaviour]
  | reading hbehaviour => rw [if_pos hbehaviour]

theorem BuiltFrom.name_eq (h : BuiltFrom c i) : i.name = c.name := by
  cases h <;> rfl

/-! ## What is resolved -/

/-- A relation with the catalog type of an integration, and the right to write that it declares. -/
def Keeps (i : Integration) (relation : StorageRelation) : Prop :=
  relation.catalogType = i.config.catalogType ∧ relation.allowsWrites = i.config.allowsWrites

theorem keeps_of_common (h : i.common m = .ok relation) : i.Keeps relation := by
  obtain ⟨tableFormat, fileFormat, -, -, rfl⟩ := eq_of_common h
  exact ⟨rfl, rfl⟩

theorem keeps_of_resolveInternal (h : i.resolveInternal m = .ok relation) : i.Keeps relation := by
  obtain ⟨common, hcommon, rfl⟩ := eq_of_resolveInternal h
  have hkeeps := keeps_of_common hcommon
  exact hkeeps

theorem keeps_of_resolveManaged {location : ManagedLocation} {o : ManagedOptions}
    (h : i.resolveManaged location o m = .ok relation) : i.Keeps relation := by
  obtain ⟨common, uri, tracking, policy, retention, extension, hcommon, -, -, -, -, -, rfl⟩ :=
    eq_of_resolveManaged h
  have hkeeps := keeps_of_common hcommon
  exact hkeeps

theorem keeps_of_resolveGlue {o : GlueOptions} (h : i.resolveGlue o m = .ok relation) :
    i.Keeps relation := by
  obtain ⟨common, uri, hcommon, -, rfl⟩ := eq_of_resolveGlue h
  have hkeeps := keeps_of_common hcommon
  exact hkeeps

/-- A strategy by which tables are written keeps what the integration declares. -/
theorem keeps_of_resolve (hstrategy : ∀ o, i.strategy ≠ .readOnly o)
    (h : i.resolve m = .ok relation) : i.Keeps relation := by
  unfold resolve at h
  split at h
  · exact keeps_of_resolveInternal h
  · exact keeps_of_resolveManaged h
  · exact keeps_of_resolveGlue h
  · next o hreadOnly => exact absurd hreadOnly (hstrategy o)

/-- A table that is only read is an Iceberg table, is not written and has no location. -/
theorem of_resolve_reading {o : ReadOnlyOptions} (hstrategy : i.strategy = .readOnly o)
    (h : i.resolve m = .ok relation) :
    relation.catalogType = i.config.catalogType ∧ relation.allowsWrites = false ∧
      relation.tableFormat = .iceberg ∧ relation.storageUri = none ∧
      relation.baseLocation = none := by
  rw [resolve, hstrategy] at h
  obtain ⟨common, hcommon, hformat, rfl⟩ := eq_of_resolveReadOnly h
  obtain ⟨tableFormat, fileFormat, -, -, rfl⟩ := eq_of_common hcommon
  exact ⟨rfl, rfl, hformat, rfl, rfl⟩

/-- A relation may be written as far as its catalog type and its integration allow.

- `readOnly_iff`: it may not exactly if its catalog type is one that is only read.
- `agrees`: the integration says the same.
- `location`: if it may not, it is an Iceberg table without a location. -/
structure SafelyResolved (i : Integration) (relation : StorageRelation) : Prop where
  readOnly_iff : relation.allowsWrites = false ↔
    relation.catalogType = .icebergRest ∨ relation.catalogType = .awsGlue
  agrees : relation.allowsWrites = i.allowsWrites
  location : relation.allowsWrites = false →
    relation.tableFormat = .iceberg ∧ relation.storageUri = none ∧ relation.baseLocation = none

/-- What an integration resolves may be written as far as it should be, whatever the model
overrides. -/
theorem BuiltFrom.safelyResolved (hbuilt : BuiltFrom c i) (h : i.resolve m = .ok relation) :
    SafelyResolved i relation := by
  cases hbuilt with
  | @writing strategy hbehaviour hwrites hstrategy =>
    obtain ⟨htype, hrelation⟩ := keeps_of_resolve hstrategy h
    have hallowed : relation.allowsWrites = true := hrelation.trans hwrites
    have hown : Integration.allowsWrites ⟨c, strategy⟩ = true := by
      unfold allowsWrites
      split
      · next o hreadOnly => exact absurd hreadOnly (hstrategy o)
      · exact hwrites
    refine ⟨?_, hallowed.trans hown.symm, fun hnot => ?_⟩
    · rw [hallowed, htype, ← behaviour_eq_externalReadOnly_iff]
      exact iff_of_false (by decide) hbehaviour
    · rw [hallowed] at hnot
      cases hnot
  | reading hbehaviour =>
    obtain ⟨htype, hnot, hformat, huri, hbase⟩ := of_resolve_reading rfl h
    refine ⟨?_, hnot, fun _ => ⟨hformat, huri, hbase⟩⟩
    rw [hnot, htype, ← behaviour_eq_externalReadOnly_iff]
    exact iff_of_true rfl hbehaviour

end Integration

end Lakehouse
