import Lakehouse.Table.Batch

/-!
# Columns that can be written as texts

A column whose type differs between parts is written as texts. That can be done unless it holds
bytes of fixed width, or a date outside the calendar.

- `ColumnType.isDateYear_ofDays_iff`: the calendar ends at certain days. A day is located in its era
  of 400 years (`Date.year_ofDays`), and the first and the last year are cut off within theirs.
- `ColumnType.exists_toText_iff`: which values of a type can be written as texts.
- `ColumnType.holds_written`, `ColumnType.toText_of_isText`: what is written may stand in a column of
  texts, and what stands in one is written as it is.
- `Column.Writable`: the column can be written, which is to say that each of its values can
  (`writable_iff`).
-/

namespace Lakehouse

/-! ## The ends of the calendar -/

namespace Date

/-- The year that a day of an era falls in, counted from the one in which the era begins. -/
def yearInEra (day : Nat) : Nat :=
  let year := (day - day / 1460 + day / 36524 - day / 146096) / 365
  let fromMarch := (5 * (day - (365 * year + year / 4 - year / 100)) + 2) / 153
  year + if (if fromMarch < 10 then fromMarch + 3 else fromMarch - 9) ≤ 2 then 1 else 0

/-- A date's year is that of its era and the year within it. -/
theorem year_ofDays (days : Int) :
    ∃ era : Int, ∃ day : Nat, days + 719468 = 146097 * era + day ∧ day < 146097 ∧
      (ofDays days).year = 400 * era + yearInEra day := by
  have hdiv : (days + 719468).fdiv 146097 = (days + 719468) / 146097 :=
    Int.fdiv_eq_ediv_of_nonneg _ (by decide)
  refine ⟨(days + 719468).fdiv 146097,
    (days + 719468 - (days + 719468).fdiv 146097 * 146097).toNat, ?_, ?_, ?_⟩
  · rw [hdiv]
    omega
  · rw [hdiv]
    omega
  · simp only [ofDays, yearInEra]
    split <;> split <;> omega

theorem yearInEra_le {day : Nat} (h : day < 146097) : yearInEra day ≤ 400 := by
  simp only [yearInEra]
  split <;> split <;> omega

-- the months matter in one year only, which is why the years before and after it are taken apart
theorem yearInEra_le_iff {day : Nat} (h : day < 146097) : yearInEra day ≤ 142 ↔ day ≤ 52169 := by
  simp only [yearInEra]
  generalize hyear : (day - day / 1460 + day / 36524 - day / 146096) / 365 = year
  obtain hlt | rfl | hgt := Nat.lt_trichotomy year 142 <;> split <;> split <;> omega

theorem le_yearInEra_iff {day : Nat} (h : day < 146097) : 257 ≤ yearInEra day ↔ 93808 ≤ day := by
  simp only [yearInEra]
  generalize hyear : (day - day / 1460 + day / 36524 - day / 146096) / 365 = year
  obtain hlt | rfl | hgt := Nat.lt_trichotomy year 256 <;> split <;> split <;> omega

end Date

/-- The day is one of the calendar, which goes from 1 January -262143 to 31 December 262142. -/
def InCalendar (days : Int) : Prop :=
  -96465292 ≤ days ∧ days ≤ 95026236

namespace ColumnType

/-- The years that a date can be written in are those of the calendar. -/
theorem isDateYear_ofDays_iff {days : Int} :
    isDateYear (Date.ofDays days).year = true ↔ InCalendar days := by
  obtain ⟨era, day, hdays, hlt, hyear⟩ := Date.year_ofDays days
  have hlast := Date.yearInEra_le_iff hlt
  have hfirst := Date.le_yearInEra_iff hlt
  have hle := Date.yearInEra_le hlt
  rw [isDateYear, hyear, Bool.and_eq_true, decide_eq_true_iff, decide_eq_true_iff, InCalendar]
  omega

/-! ## Values of a type -/

variable {t : ColumnType} {cell : Cell}

/-- What may stand in a column is held as it is. -/
theorem hold_of_holds (h : t.Holds cell) : t.hold cell = cell := by
  obtain rfl | hadmits := h
  · cases t <;> rfl
  · unfold hold
    split
    · cases hadmits
    · exact if_pos hadmits

/-! ## Values as texts -/

/-- Of a type that can be written, every value is but a date outside the calendar. -/
theorem exists_toText_iff (hcast : t.isCastable = true) :
    (∃ text, t.toText cell = .ok text) ↔
      (t = .date32 → ∀ days, cell = .int days → InCalendar days) := by
  simp only [toText, hcast, Bool.not_true, Bool.false_eq_true, if_false]
  cases cell with
  | int days =>
    by_cases ht : t = .date32
    · by_cases hyear : isDateYear (Date.ofDays days).year = true
      · simp [ht, hyear, isDateYear_ofDays_iff.1 hyear]
      · have hout : ¬ InCalendar days := fun h => hyear (isDateYear_ofDays_iff.2 h)
        simp [ht, hyear, hout]
    · simp [ht]
  | bytes bs => cases hread : Text.ofBytes? bs <;> simp [hread]
  | null | text | float | bool => simp

/-- A value as a text, null if it cannot be written. -/
def written (t : ColumnType) (cell : Cell) : Cell :=
  match t.toText cell with
  | .ok text => text
  | .error _ => .null

@[simp] theorem written_null (t : ColumnType) : t.written .null = .null := by
  cases t <;> rfl

theorem toText_eq_written (h : ∃ text, t.toText cell = .ok text) :
    t.toText cell = .ok (t.written cell) := by
  obtain ⟨text, htext⟩ := h
  rw [written, htext]

/-- What a value is written as is a text or null. -/
theorem holds_of_toText {text : Cell} (h : t.toText cell = .ok text) : utf8.Holds text := by
  unfold toText at h
  split at h
  · cases h
  · cases cell with
    | null =>
      obtain rfl := Except.ok.inj h
      exact .inl rfl
    | text | bool | float =>
      obtain rfl := Except.ok.inj h
      exact .inr rfl
    | bytes bs =>
      cases hread : Text.ofBytes? bs <;> simp only [hread] at h <;> obtain rfl := Except.ok.inj h
      · exact .inl rfl
      · exact .inr rfl
    | int n =>
      dsimp only at h
      split at h
      · split at h
        · obtain rfl := Except.ok.inj h
          exact .inr rfl
        · cases h
      · obtain rfl := Except.ok.inj h
        exact .inr rfl

theorem holds_written (t : ColumnType) (cell : Cell) : utf8.Holds (t.written cell) := by
  unfold written
  split
  · next htext => exact holds_of_toText htext
  · exact .inl rfl

/-- What stands in a column of texts is written as it is. -/
theorem toText_of_isText (htext : t.isText = true) (hcell : t.Holds cell) :
    t.toText cell = .ok cell := by
  cases t
  case utf8 | largeUtf8 | utf8View =>
    obtain rfl | hadmits := hcell
    · rfl
    · cases cell <;> first | rfl | cases hadmits
  all_goals cases htext

end ColumnType

namespace Column

variable {c : Column}

/-- The column can be written as texts: its type can, and it holds no date outside the calendar. -/
structure Writable (c : Column) : Prop where
  castable : c.field.type.isCastable = true
  dates : c.field.type = .date32 → ∀ days, .int days ∈ c.cells → InCalendar days

theorem writable_iff : c.Writable ↔ c.field.type.isCastable = true ∧
    ∀ cell ∈ c.cells, ∃ text, c.field.type.toText cell = .ok text := by
  constructor
  · rintro ⟨hcast, hdates⟩
    refine ⟨hcast, fun cell hcell => (ColumnType.exists_toText_iff hcast).2 ?_⟩
    rintro ht days rfl
    exact hdates ht days hcell
  · rintro ⟨hcast, htexts⟩
    refine ⟨hcast, fun ht days hdays => ?_⟩
    exact (ColumnType.exists_toText_iff hcast).1 (htexts _ hdays) ht days rfl

/-- A column of texts can be written as texts. -/
theorem writable_of_utf8 (h : c.field.type = .utf8) : c.Writable :=
  ⟨by rw [h]; rfl, fun hdate => by rw [h] at hdate; cases hdate⟩

end Column

end Lakehouse
