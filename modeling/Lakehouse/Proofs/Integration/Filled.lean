import Lakehouse.Proofs.Integration.Precedence
import Lakehouse.Proofs.Model.Written

/-!
# No blank texts

A blank text counts as none wherever a project writes one: as a property, as a volume, as an option of
a model. What a model is resolved to is put together from texts that are there, so no field of it is a
blank text either.

- `Text.Filled`: a text that is not blank.
- `Model.Filled`, `IntegrationConfig.Filled`, `StorageRelation.Filled`: no text is blank.
- `Model.filled_of_ofTemplate`: a model that is read has no blank text.
- **`filled_of_fieldByField`**: a relation has no blank text if the model and the declaration have
  none.
-/

namespace Lakehouse

/-! ## Texts -/

namespace Text

variable {s t : String}

/-- The text is not blank. -/
def Filled (s : String) : Prop :=
  isBlankText s = false

instance (s : String) : Decidable (Filled s) :=
  inferInstanceAs (Decidable (_ = _))

theorem filled_iff_exists : Filled s ↔ ∃ c ∈ s.toList, isBlank c = false := by
  simp [Filled, isBlankText, List.all_eq_false]

theorem filled_iff_trim : Filled s ↔ trim s ≠ "" := by
  rw [Filled, ← Bool.not_eq_true, isBlankText_iff_trim]

theorem Filled.append_left (h : Filled s) (t : String) : Filled (s ++ t) := by
  obtain ⟨c, hc, hfilled⟩ := filled_iff_exists.1 h
  exact filled_iff_exists.2 ⟨c, by simp [hc], hfilled⟩

theorem Filled.append_right (h : Filled t) (s : String) : Filled (s ++ t) := by
  obtain ⟨c, hc, hfilled⟩ := filled_iff_exists.1 h
  exact filled_iff_exists.2 ⟨c, by simp [hc], hfilled⟩

theorem Filled.trim (h : Filled s) : Filled (trim s) := by
  rw [filled_iff_trim, trim_trim]
  exact filled_iff_trim.1 h

theorem Solid.filled (h : Solid s) : Filled s := by
  obtain ⟨c, rest, hs, hfilled⟩ := h.begins
  exact filled_iff_exists.2 ⟨c, hs ▸ List.mem_cons_self, hfilled⟩

theorem Marked.filled (h : Marked s) : Filled s := by
  obtain ⟨c, hc, hfilled, -⟩ := h
  exact filled_iff_exists.2 ⟨c, hc, hfilled⟩

/-- Joined texts are filled by the first of them. -/
theorem Filled.intercalate (h : Filled s) (separator : String) (rest : List String) :
    Filled (separator.intercalate (s :: rest)) := by
  rw [← joinWith_eq_intercalate]
  cases rest with
  | nil => exact h
  | cons t rest =>
    rw [joinWith]
    exact (h.append_left _).append_left _

end Text

/-- An optional text is not blank, if it is there. -/
def FilledIfSet (s : Option String) : Prop :=
  ∀ t, s = some t → Text.Filled t

theorem filledIfSet_none : FilledIfSet none := nofun

theorem filledIfSet_some {s : String} : FilledIfSet (some s) ↔ Text.Filled s := by
  simp [FilledIfSet]

theorem FilledIfSet.or {s t : Option String} (hs : FilledIfSet s) (ht : FilledIfSet t) :
    FilledIfSet (s.or t) := by
  cases s with
  | none => exact ht
  | some _ => exact hs

/-! ## Models -/

namespace Model

variable {v : TemplateValue} {m : Model} {key s : String}

/-- No text of the model is blank. -/
def Filled (m : Model) : Prop :=
  ∀ e ∈ m.textOptions, FilledIfSet e.2

/-- An option is not set to a blank text: a text is trimmed and not empty, and nothing else is shown as a
blank. -/
theorem filled_of_textOption (h : textOption v key = some s) : Text.Filled s := by
  obtain ⟨w, hw, hset⟩ := Option.bind_eq_some_iff.1 h
  obtain ⟨-, hdefined⟩ := defined?_eq_some_iff.1 hw
  obtain ⟨rfl, hne, -⟩ := unlessUnset_eq_some_iff.1 hset
  unfold textOf at hne ⊢
  cases htext : w.text? with
  | some t =>
    simp only [htext] at hne
    exact Text.filled_iff_trim.2 (by rwa [Text.trim_trim])
  | none =>
    by_cases hbytes : ∃ bs, w = .bytes bs
    · obtain ⟨bs, rfl⟩ := hbytes
      exact (TemplateValue.marked_ofBytesLossy htext).filled
    · exact (TemplateValue.solid_rendered hdefined htext fun bs hbs => hbytes ⟨bs, hbs⟩).filled

/-- A model that is read has no blank text. -/
theorem filled_of_ofTemplate (h : ofTemplate v = .ok m) : m.Filled := by
  intro e he s hs
  obtain ⟨key, -, hkey⟩ := exists_textOption h e he s hs
  exact filled_of_textOption hkey

end Model

/-! ## Declarations and relations -/

/-- The name and the volume of the declaration are not blank. Properties may be, and then count as
none. -/
structure IntegrationConfig.Filled (c : IntegrationConfig) : Prop where
  name : Text.Filled c.name
  volume : FilledIfSet c.externalVolume

theorem IntegrationConfig.filled_property? (c : IntegrationConfig) (key : String) :
    FilledIfSet (c.property? key) := by
  intro s hs
  exact Text.filled_iff_trim.2 (property?_eq_some_iff.1 hs).2

/-- The optional texts of a relation, each under its name. -/
def StorageRelation.optionalTexts (r : StorageRelation) : List (String × Option String) :=
  [("external_volume", r.externalVolume), ("storage_uri", r.storageUri),
    ("base_location", r.baseLocation), ("external_schema", r.externalSchema),
    ("glue_database", r.glueDatabase), ("namespace", r.catalogNamespace),
    ("change_tracking", r.changeTracking),
    ("storage_serialization_policy", r.serializationPolicy)]

/-- No text of the relation is blank. -/
structure StorageRelation.Filled (r : StorageRelation) : Prop where
  catalogName : Text.Filled r.catalogName
  texts : ∀ e ∈ r.optionalTexts, FilledIfSet e.2

/-! ## Resolution -/

/-- A value that is set was understood by one rule or the other. -/
theorem FirstSet.exists_of_some {α β γ : Type} {own : α → Answer γ} {declared : β → Answer γ}
    {a : Option α} {b : Option β} {value : γ} (h : FirstSet own declared a b (some value)) :
    (∃ a, own a = .ok value) ∨ ∃ b, declared b = .ok value := by
  cases h with
  | own h => exact .inl ⟨_, h⟩
  | declared h => exact .inr ⟨_, h⟩

namespace Integration

variable {c : IntegrationConfig} {m : Model} {r : StorageRelation}

theorem filled_trackingToken {kind : FailureKind} {flag : Flag} {token : String}
    (h : trackingToken kind flag = .ok token) : Text.Filled token := by
  have htruth : ∀ b, Text.Filled (truthToken b) := by decide
  unfold trackingToken at h
  split at h
  · exact Except.ok.inj h ▸ htruth _
  · split at h
    · exact Except.ok.inj h ▸ htruth true
    · split at h
      · exact Except.ok.inj h ▸ htruth false
      · cases h

theorem ManagedFields.filled_changeTracking (h : ManagedFields c m r) :
    FilledIfSet r.changeTracking := by
  intro token htoken
  have hset := h.changeTracking
  rw [htoken] at hset
  obtain ⟨flag, hflag⟩ | ⟨raw, hraw⟩ := hset.exists_of_some
  · exact filled_trackingToken hflag
  · exact filled_trackingToken hraw

theorem ManagedFields.filled_serializationPolicy (h : ManagedFields c m r) :
    FilledIfSet r.serializationPolicy := by
  intro token htoken
  obtain ⟨policy, -, hpolicy⟩ := h.policy
  rw [hpolicy] at htoken
  obtain ⟨p, -, rfl⟩ := Option.map_eq_some_iff.1 htoken
  cases p <;> decide

/-- A base location begins with a root that is not blank. -/
theorem filled_effectiveRoot (root : Option String) : Text.Filled (effectiveRoot root) := by
  unfold effectiveRoot
  split
  · decide
  · next hne => exact (Text.filled_iff_trim.2 hne).trim

theorem ManagedFields.filled_baseLocation (h : ManagedFields c m r) :
    FilledIfSet r.baseLocation := by
  intro base hbase
  cases hschema : m.schema with
  | none => simp [(h.nowhere (.inl hschema)).1] at hbase
  | some schema =>
    cases hidentifier : m.identifier with
    | none => simp [(h.nowhere (.inr hidentifier)).1] at hbase
    | some identifier =>
      rw [h.location schema identifier hschema hidentifier] at hbase
      obtain rfl := Option.some.inj hbase
      exact (filled_effectiveRoot _).intercalate "/" _

/-- An address with a slash in it is not blank. -/
theorem filled_under (volume path : String) : Text.Filled (volume ++ "/" ++ path) :=
  (Text.Filled.append_right (by decide) volume).append_left path

theorem ManagedFields.filled_storageUri (h : ManagedFields c m r)
    (hbehaviour : c.catalogType.behaviour = .managedExternal) (hm : FilledIfSet m.storageUri) :
    FilledIfSet r.storageUri := by
  cases huri : m.storageUri with
  | some uri =>
    rw [h.own uri huri, ← huri]
    exact hm
  | none =>
    have htype : c.catalogType = .builtIn ∨ c.catalogType = .biglakeMetastore := by
      revert hbehaviour
      cases c.catalogType <;> simp [CatalogType.behaviour]
    obtain hbuiltIn | hbiglake := htype
    · rw [h.builtIn huri hbuiltIn]
      exact h.filled_baseLocation
    · obtain ⟨base, -, hprefixed⟩ := h.prefixed huri hbiglake
      intro address haddress
      rw [hprefixed] at haddress
      obtain ⟨volume, -, rfl⟩ := Option.map_eq_some_iff.1 haddress
      exact filled_under _ base

theorem GlueFields.filled_storageUri (h : GlueFields c m r) (hm : FilledIfSet m.storageUri) :
    FilledIfSet r.storageUri := by
  cases huri : m.storageUri with
  | some uri =>
    rw [h.own uri huri, ← huri]
    exact hm
  | none =>
    cases hvolume : r.externalVolume with
    | none =>
      rw [h.nowhere huri hvolume]
      exact filledIfSet_none
    | some volume =>
      obtain ⟨schema, identifier, -, -, hderived⟩ := h.derived volume huri hvolume
      rw [hderived, filledIfSet_some]
      exact Text.Filled.append_right (by decide) _

theorem GlueFields.filled_externalSchema (h : GlueFields c m r)
    (hm : FilledIfSet m.externalSchema) : FilledIfSet r.externalSchema := by
  obtain ⟨declared, hdeclared, hschema⟩ := h.externalSchema
  have hfilled := c.filled_property? "external_schema" declared hdeclared
  rw [hschema, filledIfSet_some]
  cases hown : m.externalSchema with
  | none => exact hfilled.trim
  | some own => exact hm own hown

/-- **No blank text is resolved**, if the model and the declaration have none. -/
theorem filled_of_fieldByField (h : FieldByField c m r) (hc : c.Filled) (hm : m.Filled) :
    r.Filled := by
  have hown : ∀ key s, (key, s) ∈ m.textOptions → FilledIfSet s := fun key s hmem => hm _ hmem
  have hvolume : FilledIfSet r.externalVolume := by
    rw [h.common.externalVolume]
    exact (hown "external_volume" _ (by simp [Model.textOptions])).or hc.volume
  have huri : FilledIfSet m.storageUri := hown "storage_uri" _ (by simp [Model.textOptions])
  have hnamespace : FilledIfSet r.catalogNamespace := by
    rw [h.other.catalogNamespace]
    split
    · exact (c.filled_property? _).or (c.filled_property? _)
    · exact filledIfSet_none
  refine ⟨h.common.catalogName ▸ hc.name, ?_⟩
  simp only [StorageRelation.optionalTexts, List.forall_mem_cons]
  cases hbehaviour : c.catalogType.behaviour with
  | internal =>
    obtain ⟨hbase, htracking, hpolicy, -, -⟩ := h.other.unmanaged (by simp [hbehaviour])
    obtain ⟨hschema, hglue, -⟩ := h.other.unregistered (by simp [hbehaviour])
    rw [h.other.native hbehaviour, hbase, htracking, hpolicy, hschema, hglue]
    exact ⟨hvolume, huri, filledIfSet_none, filledIfSet_none, filledIfSet_none, hnamespace,
      filledIfSet_none, filledIfSet_none, by simp⟩
  | managedExternal =>
    have hmanaged := h.managed hbehaviour
    obtain ⟨hschema, hglue, -⟩ := h.other.unregistered (by simp [hbehaviour])
    rw [hschema, hglue]
    exact ⟨hvolume, hmanaged.filled_storageUri hbehaviour huri, hmanaged.filled_baseLocation,
      filledIfSet_none, filledIfSet_none, hnamespace, hmanaged.filled_changeTracking,
      hmanaged.filled_serializationPolicy, by simp⟩
  | externalWritable =>
    have hglue := h.glue hbehaviour
    obtain ⟨hbase, htracking, hpolicy, -, -⟩ := h.other.unmanaged (by simp [hbehaviour])
    rw [hbase, htracking, hpolicy, hglue.glueDatabase]
    exact ⟨hvolume, hglue.filled_storageUri huri, filledIfSet_none,
      hglue.filled_externalSchema (hown "external_schema" _ (by simp [Model.textOptions])),
      c.filled_property? _, hnamespace, filledIfSet_none, filledIfSet_none, by simp⟩
  | externalReadOnly =>
    obtain ⟨hbase, htracking, hpolicy, -, -⟩ := h.other.unmanaged (by simp [hbehaviour])
    obtain ⟨hschema, hglue, -⟩ := h.other.unregistered (by simp [hbehaviour])
    rw [(h.other.read hbehaviour).2, hbase, htracking, hpolicy, hschema, hglue]
    exact ⟨hvolume, filledIfSet_none, filledIfSet_none, filledIfSet_none, filledIfSet_none,
      hnamespace, filledIfSet_none, filledIfSet_none, by simp⟩

end Integration

end Lakehouse
