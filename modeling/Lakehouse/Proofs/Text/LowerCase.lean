import Lakehouse.Text.LowerCase

/-!
# Lower-casing plain text

Most names are plain ASCII, where lower-casing looks at one character at a time.

- `lower_of_ascii`: on ASCII text lower-casing is character by character.
-/

namespace Lakehouse

namespace Text

theorem lowerFrom_of_ascii {before cs : List Char} (h : ∀ c ∈ cs, c.toNat < 0x80) :
    lowerFrom before cs = cs.map Char.toLower := by
  induction cs generalizing before with
  | nil => rfl
  | cons c rest ih =>
    have hc := h c List.mem_cons_self
    have hrest : ∀ nearer, lowerFrom nearer rest = rest.map Char.toLower := fun _ =>
      ih fun d hd => h d (List.mem_cons_of_mem _ hd)
    have hsigma : c ≠ capitalSigma := by
      rintro rfl
      exact absurd hc (by decide)
    rw [lowerFrom, if_neg hsigma, lowerChar, if_pos hc, hrest]
    rfl

/-- ASCII text is lower-cased character by character. -/
theorem lower_of_ascii {s : String} (h : ∀ c ∈ s.toList, c.toNat < 0x80) :
    lower s = String.ofList (s.toList.map Char.toLower) := by
  rw [lower, lowerFrom_of_ascii h]

example : lower "Table_1" = "table_1" := by decide

end Text

end Lakehouse
