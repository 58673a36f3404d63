import Lakehouse.Proofs.Integration.Precedence

/-!
# Reading a model

A model is read from a template value, option by option. An option that is a text is set to what is
left of the text without the blanks around it, unless nothing is left or the word `none` is; and what
is stated under another key makes no difference to it.

- `Model.textOption_of_text`: an option that is a text, as a model is read.
- `TemplateValue.stating`: a value that states something more, under one key.
- `Model.textOption_stating_of_ne` and its like for the other kinds of options: what is stated under
  another key is not looked at.
- `Model.failsToResolve_ofTemplate`: a model that cannot be read is a failure of resolution.
-/

namespace Lakehouse

/-! ## Stating something more -/

namespace TemplateValue

/-- The entries of a map; other values have none. -/
def entries : TemplateValue → List (String × TemplateValue)
  | map entries => entries
  | _ => []

/-- A value that states something under a key, besides what it states under other keys. -/
def stating (v : TemplateValue) (key : String) (stated : TemplateValue) : TemplateValue :=
  .map (insertName key stated v.entries)

variable {v stated : TemplateValue} {key other : String}

theorem member_eq (v : TemplateValue) (key : String) :
    v.member key = (lookupName key v.entries).getD undefined := by
  cases v <;> rfl

@[simp] theorem member_stating_self : (v.stating key stated).member key = stated := by
  rw [member_eq, stating, entries, lookupName_insertName_self, Option.getD_some]

theorem member_stating_of_ne (h : other ≠ key) :
    (v.stating key stated).member other = v.member other := by
  rw [member_eq, member_eq, stating, entries, lookupName_insertName_of_ne _ _ h]

end TemplateValue

/-! ## Options -/

namespace Model

variable {v stated : TemplateValue} {m : Model} {key other older text : String}

/-- An option that is a text is set to it without the blanks around it, if that says something. -/
theorem textOption_of_text (h : (v.member key).text? = some text) :
    textOption v key = unlessUnset (Text.trim text) := by
  have hdefined : (v.member key).isDefined = true := by
    cases hmember : v.member key with
    | undefined | null =>
      rw [hmember] at h
      cases h
    | _ => rfl
  rw [textOption, defined?, if_pos hdefined, Option.bind_some, textOf, h]

/-- A text other than the word `none` is unset only if nothing is left of it. -/
theorem unlessUnset_of_ne_none (hnone : Text.sameToken text "none" = false) :
    unlessUnset text = if text = "" then none else some text := by
  simp only [unlessUnset, hnone, Bool.false_eq_true, or_false]

theorem unlessUnset_trim (hnone : Text.sameToken (Text.trim text) "none" = false) :
    unlessUnset (Text.trim text) = Text.trimmed? text := by
  rw [unlessUnset_of_ne_none hnone, Text.trimmed?_eq]

/-! ### What is not stated -/

section Undefined

variable (h : (v.member key).isDefined = false)

include h

theorem defined?_of_undefined : defined? v key = none := by
  simp [defined?, h]

theorem textOption_of_undefined : textOption v key = none := by
  rw [textOption, defined?_of_undefined h, Option.bind_none]

theorem flagOption_of_undefined : flagOption v key = none := by
  rw [flagOption, defined?_of_undefined h, Option.map_none]

theorem integerOption_of_undefined : integerOption v key = .ok none := by
  rw [integerOption, defined?_of_undefined h]

end Undefined

/-! ### What is stated under another key -/

theorem defined?_stating_of_ne (h : other ≠ key) :
    defined? (v.stating key stated) other = defined? v other := by
  rw [defined?, defined?, TemplateValue.member_stating_of_ne h]

theorem textOption_stating_of_ne (h : other ≠ key) :
    textOption (v.stating key stated) other = textOption v other := by
  rw [textOption, textOption, defined?_stating_of_ne h]

theorem renamedOption_stating_of_ne (h : other ≠ key) (holder : older ≠ key) :
    renamedOption (v.stating key stated) other older = renamedOption v other older := by
  rw [renamedOption, renamedOption, textOption_stating_of_ne h, textOption_stating_of_ne holder]

theorem flagOption_stating_of_ne (h : other ≠ key) :
    flagOption (v.stating key stated) other = flagOption v other := by
  rw [flagOption, flagOption, defined?_stating_of_ne h]

theorem listOption_stating_of_ne (h : other ≠ key) :
    listOption (v.stating key stated) other = listOption v other := by
  rw [listOption, listOption, defined?_stating_of_ne h, textOption_stating_of_ne h]

theorem integerOption_stating_of_ne (h : other ≠ key) :
    integerOption (v.stating key stated) other = integerOption v other := by
  rw [integerOption, integerOption, defined?_stating_of_ne h]

/-! ### What is stated under the key -/

theorem textOption_stating (v : TemplateValue) (key text : String) :
    textOption (v.stating key (.text text)) key = unlessUnset (Text.trim text) :=
  textOption_of_text (by rw [TemplateValue.member_stating_self]; rfl)

theorem flagOption_stating (v : TemplateValue) (key text : String) :
    flagOption (v.stating key (.text text)) key = some (.text text) := by
  rw [flagOption, defined?, TemplateValue.member_stating_self]
  rfl

/-- A whole number is read from a text that is one, and nothing from a text of blanks. -/
theorem integerOption_stating (v : TemplateValue) (key : String)
    (hnone : Text.sameToken (Text.trim text) "none" = false) :
    integerOption (v.stating key (.text text)) key =
      if Text.trim text = "" then .ok none
      else
        match Decimal.signed64? (Text.trim text) with
        | some n => .ok (some n)
        | none => .error (notAnInteger key (Text.trim text)) := by
  have hdefined : defined? (v.stating key (.text text)) key = some (.text text) := by
    rw [defined?, TemplateValue.member_stating_self]
    rfl
  simp only [integerOption, hdefined, TemplateValue.toWord?, TemplateValue.text?,
    unlessUnset_of_ne_none hnone]
  by_cases hblank : Text.trim text = ""
  · simp [hblank]
  · cases hread : Decimal.signed64? (Text.trim text) <;> simp [hblank, hread]

/-! ## Models -/

/-- A model that is read, option by option. -/
theorem eq_of_ofTemplate (h : ofTemplate v = .ok m) :
    ∃ retention extension,
      integerOption v "data_retention_time_in_days" = .ok retention ∧
      integerOption v "max_data_extension_time_in_days" = .ok extension ∧
      m = {
        database := textOption v "database"
        schema := textOption v "schema"
        identifier := renamedOption v "identifier" "alias"
        catalogName := renamedOption v "catalog_name" "catalog"
        tableFormat := textOption v "table_format"
        fileFormat := textOption v "file_format"
        externalVolume := textOption v "external_volume"
        storageUri := textOption v "storage_uri"
        baseLocationRoot := textOption v "base_location_root"
        baseLocationSubpath := textOption v "base_location_subpath"
        partitionBy := listOption v "partition_by"
        externalSchema := textOption v "external_schema"
        changeTracking := flagOption v "change_tracking"
        serializationPolicy := textOption v "storage_serialization_policy"
        dataRetentionDays := retention
        maxExtensionDays := extension } := by
  obtain ⟨retention, hretention, h⟩ := exists_of_bind_ok h
  obtain ⟨extension, hextension, h⟩ := exists_of_bind_ok h
  obtain rfl := Except.ok.inj h
  exact ⟨retention, extension, hretention, hextension, rfl⟩

theorem failsToResolve_integerOption (v : TemplateValue) (key : String) :
    Integration.FailsToResolve (integerOption v key) := by
  have hproblem : ∀ got, Integration.FailsToResolve
      (.error (notAnInteger key got) : Answer (Option Int)) := by
    intro got f h
    rw [← Except.error.inj h]
    rfl
  unfold integerOption
  split
  · exact Integration.failsToResolve_ok _
  · split
    · exact Integration.failsToResolve_ok _
    · exact hproblem _
    · split
      · exact Integration.failsToResolve_ok _
      · split
        · exact Integration.failsToResolve_ok _
        · exact hproblem _

/-- A model that cannot be read is a failure of resolution. -/
theorem failsToResolve_ofTemplate (v : TemplateValue) :
    Integration.FailsToResolve (ofTemplate v) :=
  (failsToResolve_integerOption v _).bind fun _ =>
    (failsToResolve_integerOption v _).bind fun _ => Integration.failsToResolve_ok _

end Model

end Lakehouse
