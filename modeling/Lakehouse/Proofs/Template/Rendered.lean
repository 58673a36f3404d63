import Lakehouse.Proofs.Integration.Validity
import Lakehouse.Template.Value
import Mathlib.Data.List.TakeWhile

/-!
# What templates show

An option of a model may be any value, and one that is no text is read as templates show it. What they
show has no blanks around it, and it is none of the words that options look for, unless it is a truth
value.

- `Text.Solid`: a text without blanks around it.
- `Text.Marked`: a text with something in it that is in no word (`Text.Marked.not_spelledAs`).
- `TemplateValue.solid_rendered`, `TemplateValue.not_spelledAs_rendered`: what is shown of a value that
  is no text.
-/

namespace Lakehouse

/-! ## Texts -/

namespace Text

variable {s t word : String} {c : Char} {cs : List Char}

theorem mem_dropBlanks (hc : c ∈ cs) (hfilled : isBlank c = false) : c ∈ dropBlanks cs := by
  rw [← List.takeWhile_append_dropWhile (p := isBlank) (l := cs), List.mem_append] at hc
  rcases hc with hc | hc
  · rw [List.mem_takeWhile_imp hc] at hfilled
    cases hfilled
  · exact hc

/-- Trimming takes nothing but blanks away. -/
theorem mem_trim (hc : c ∈ s.toList) (hfilled : isBlank c = false) : c ∈ (trim s).toList := by
  have hleft := mem_dropBlanks hc hfilled
  rw [trim, String.toList_ofList, dropBlanksRight, List.mem_reverse]
  exact mem_dropBlanks (List.mem_reverse.2 hleft) hfilled

/-- The text begins and ends with characters that are no blanks. -/
structure Solid (s : String) : Prop where
  begins : ∃ c rest, s.toList = c :: rest ∧ isBlank c = false
  ends : ∃ rest c, s.toList = rest ++ [c] ∧ isBlank c = false

theorem Solid.trim_eq (h : Solid s) : trim s = s := by
  obtain ⟨c, rest, hbegins, hc⟩ := h.begins
  obtain ⟨front, d, hends, hd⟩ := h.ends
  have hleft : dropBlanks s.toList = s.toList := by
    rw [hbegins, dropBlanks, List.dropWhile_cons_of_neg (by simp [hc])]
  have hright : dropBlanksRight s.toList = s.toList := by
    rw [dropBlanksRight, hends, List.reverse_append, List.reverse_singleton, List.singleton_append,
      dropBlanks, List.dropWhile_cons_of_neg (by simp [hd]), List.reverse_cons, List.reverse_reverse]
  rw [trim, hleft, hright, String.ofList_toList]

theorem solid_of_all (hne : s.toList ≠ []) (h : s.toList.all (!isBlank ·) = true) : Solid s := by
  have hfilled : ∀ c ∈ s.toList, isBlank c = false := by simpa using h
  constructor
  · obtain ⟨c, rest, hs⟩ := List.exists_cons_of_ne_nil hne
    exact ⟨c, rest, hs, hfilled c (hs ▸ List.mem_cons_self)⟩
  · exact ⟨s.toList.dropLast, s.toList.getLast hne, (List.dropLast_append_getLast hne).symm,
      hfilled _ (List.getLast_mem hne)⟩

/-- What stands between two texts does not matter. -/
theorem Solid.between (hs : Solid s) (ht : Solid t) (middle : String) : Solid (s ++ middle ++ t) := by
  obtain ⟨c, rest, hbegins, hc⟩ := hs.begins
  obtain ⟨front, d, hends, hd⟩ := ht.ends
  refine ⟨⟨c, rest ++ middle.toList ++ t.toList, ?_, hc⟩,
    s.toList ++ middle.toList ++ front, d, ?_, hd⟩
  · simp [hbegins]
  · simp [hends]

/-- Something in the text is neither a blank nor a letter. -/
def Marked (s : String) : Prop :=
  ∃ c ∈ s.toList, isBlank c = false ∧ c.isAlpha = false

theorem Marked.append_right (h : Marked s) (t : String) : Marked (s ++ t) := by
  obtain ⟨c, hc, hmark⟩ := h
  exact ⟨c, by simp [hc], hmark⟩

theorem isAlpha_iff_toNat :
    c.isAlpha = true ↔ (65 ≤ c.toNat ∧ c.toNat ≤ 90) ∨ (97 ≤ c.toNat ∧ c.toNat ≤ 122) := by
  have hupper : c.isUpper = true ↔ 65 ≤ c.toNat ∧ c.toNat ≤ 90 := decide_eq_true_iff
  have hlower : c.isLower = true ↔ 97 ≤ c.toNat ∧ c.toNat ≤ 122 :=
    Bool.and_eq_true_iff.trans (and_congr decide_eq_true_iff decide_eq_true_iff)
  exact Bool.or_eq_true_iff.trans (or_congr hupper hlower)

theorem toLower_of_not_isAlpha (h : c.isAlpha = false) : c.toLower = c := by
  refine dif_neg ?_
  rintro ⟨hleast, hgreatest⟩
  have hletter : c.isAlpha = true := isAlpha_iff_toNat.2 (.inl ⟨hleast, hgreatest⟩)
  rw [h] at hletter
  cases hletter

/-- A word of letters is not spelled with anything else. -/
theorem Marked.not_spelledAs (h : Marked s) (hword : word.toList.all Char.isAlpha = true) :
    ¬ SpelledAs s word := by
  obtain ⟨c, hc, hfilled, hmark⟩ := h
  rintro rfl
  have hmem : c ∈ (foldAscii (trim s)).toList := by
    rw [foldAscii, String.toList_ofList, ← toLower_of_not_isAlpha hmark]
    exact List.mem_map_of_mem (mem_trim hc hfilled)
  rw [List.all_eq_true.1 hword c hmem] at hmark
  cases hmark

end Text

/-! ## Numbers -/

namespace Decimal

variable {c : Char} {s : String}

/-- The characters that finite numbers are made of. -/
def isNumeric (c : Char) : Bool :=
  c.isDigit || c == '.' || c == '-'

/-- A row of digits, points and minus signs. -/
structure Numeric (s : String) : Prop where
  filled : s.toList ≠ []
  chars : ∀ c ∈ s.toList, isNumeric c = true

theorem isNumeric_of_isDigit (h : c.isDigit = true) : isNumeric c = true := by
  rw [isNumeric, h, Bool.true_or, Bool.true_or]

theorem mark_of_isDigit (h : c.isDigit = true) : Text.isBlank c = false ∧ c.isAlpha = false := by
  have hrange : 48 ≤ c.toNat ∧ c.toNat ≤ 57 := isDigit_iff_le.1 h
  constructor
  · simp only [Text.isBlank, Bool.or_eq_false_iff, Bool.and_eq_false_iff, beq_eq_false_iff_ne,
      decide_eq_false_iff_not]
    omega
  · rw [← Bool.not_eq_true, Text.isAlpha_iff_toNat]
    omega

theorem Numeric.mark (h : Numeric s) (hc : c ∈ s.toList) :
    Text.isBlank c = false ∧ c.isAlpha = false := by
  have hnumeric := h.chars c hc
  rw [isNumeric, Bool.or_eq_true, Bool.or_eq_true, beq_iff_eq, beq_iff_eq] at hnumeric
  obtain (hdigit | rfl) | rfl := hnumeric
  · exact mark_of_isDigit hdigit
  · decide
  · decide

theorem Numeric.solid (h : Numeric s) : Text.Solid s := by
  refine Text.solid_of_all h.filled (List.all_eq_true.2 fun c hc => ?_)
  rw [(h.mark hc).1]
  rfl

theorem Numeric.marked (h : Numeric s) : Text.Marked s := by
  obtain ⟨c, rest, hs⟩ := List.exists_cons_of_ne_nil h.filled
  have hc : c ∈ s.toList := hs ▸ List.mem_cons_self
  exact ⟨c, hc, h.mark hc⟩

theorem Numeric.minus (h : Numeric s) : Numeric ("-" ++ s) := by
  refine ⟨by simp, ?_⟩
  rw [String.toList_append, List.forall_mem_append]
  exact ⟨List.all_eq_true.1 (by decide), h.chars⟩

theorem numeric_natRepr (n : Nat) : Numeric n.repr := by
  rw [Nat.repr]
  refine ⟨by simp [Nat.toDigits_ne_nil], fun c hc => isNumeric_of_isDigit ?_⟩
  rw [String.toList_ofList] at hc
  exact Nat.isDigit_of_mem_toDigits (by decide) (by decide) hc

theorem numeric_toString : ∀ n : Int, Numeric (toString n)
  | .ofNat n => numeric_natRepr n
  | .negSucc n => (numeric_natRepr (n + 1)).minus

/-- With the point in place, a number is a row of digits with a point in it. -/
theorem numeric_pointInPlace {digits : List Char} (h : ∀ c ∈ digits, c.isDigit = true) (power : Int) :
    Numeric (pointInPlace digits power) := by
  have hzeros (n : Nat) : ∀ c ∈ List.replicate n '0', c.isDigit = true := by
    intro c hc
    rw [List.eq_of_mem_replicate hc]
    rfl
  have hrow {cs : List Char} (hcs : ∀ c ∈ cs, c.isDigit = true) :
      ∀ c ∈ cs, isNumeric c = true := fun c hc => isNumeric_of_isDigit (hcs c hc)
  have hpoint {s : String} (hs : s.toList.all isNumeric = true) :
      ∀ c ∈ s.toList, isNumeric c = true := List.all_eq_true.1 hs
  unfold pointInPlace
  split
  · refine ⟨by simp, ?_⟩
    simp only [String.toList_append, String.toList_ofList, List.forall_mem_append]
    exact ⟨⟨hrow h, hrow (hzeros _)⟩, hpoint (by decide)⟩
  dsimp only
  split
  · refine ⟨by simp, ?_⟩
    simp only [String.toList_append, String.toList_ofList, List.forall_mem_append]
    exact ⟨⟨hrow fun c hc => h c (List.mem_of_mem_take hc), hpoint (by decide)⟩,
      hrow fun c hc => h c (List.mem_of_mem_drop hc)⟩
  · refine ⟨by simp, ?_⟩
    simp only [String.toList_append, String.toList_ofList, List.forall_mem_append]
    exact ⟨hpoint (by decide), hrow (hzeros _), hrow h⟩

end Decimal

/-! ## Values -/

namespace TemplateValue

open Text

variable {v : TemplateValue} {word : String}

/-- A finite number is shown with its point in place, however large or small it is. -/
theorem numeric_shownNumbers (negative : Bool) (m : Nat) (e : Int) :
    Decimal.Numeric (shownNumbers.text (.finite negative m e)) := by
  have hplace (lead : Int) : m = 0 ∨ shownNumbers.inPlace lead = true := .inr rfl
  have hdigits (n : Nat) : ∀ c ∈ Nat.toDigits 10 n, c.isDigit = true :=
    fun c hc => Nat.isDigit_of_mem_toDigits (by decide) (by decide) hc
  -- the layout has no bounds, so no number is written with a power of ten
  simp only [Decimal.Layout.text, if_pos (hplace _)]
  have hrow := Decimal.numeric_pointInPlace (hdigits (Decimal.Binary64.shortest .up m e).digits)
    (Decimal.Binary64.shortest .up m e).power
  cases negative with
  | true => exact hrow.minus
  | false => exact hrow

theorem solid_shownNumbers : ∀ x : Decimal.Binary64, Solid (shownNumbers.text x)
  | .nan => solid_of_all (by decide) (by decide)
  | .infinite true => solid_of_all (by decide) (by decide)
  | .infinite false => solid_of_all (by decide) (by decide)
  | .finite negative m e => (numeric_shownNumbers negative m e).solid

/-- Where bytes are no text, what is shown of them has a mark in it. -/
theorem marked_ofBytesLossy {bs : List UInt8} (h : ofBytes? bs = none) : Marked (ofBytesLossy bs) := by
  have hbroken : none ∈ pieces bs := by
    by_contra hwhole
    have hall : (pieces bs).all Option.isSome = true := by
      refine List.all_eq_true.2 fun p hp => Option.isSome_iff_ne_none.2 ?_
      rintro rfl
      exact hwhole hp
    simp [ofBytes?, hall] at h
  refine ⟨Char.ofNat 0xFFFD, ?_, by decide, by decide⟩
  rw [ofBytesLossy, String.toList_ofList]
  exact List.mem_map.2 ⟨none, hbroken, rfl⟩

/-- What is shown of a value that is neither a text nor bytes has no blanks around it. -/
theorem solid_rendered (hdefined : v.isDefined = true) (htext : v.text? = none)
    (hbytes : ∀ bs, v ≠ .bytes bs) : Solid v.rendered := by
  cases v with
  | undefined | null => cases hdefined
  | text s => cases htext
  | bytes bs => exact absurd rfl (hbytes bs)
  | bool b => cases b <;> exact solid_of_all (by decide) (by decide)
  | int n => exact (Decimal.numeric_toString n).solid
  | float x => exact solid_shownNumbers x
  | list items =>
    have hopen : Solid "[" := solid_of_all (by decide) (by decide)
    exact hopen.between (solid_of_all (by decide) (by decide)) (debugItems items)
  | map entries =>
    have hopen : Solid "\x7b" := solid_of_all (by decide) (by decide)
    exact hopen.between (solid_of_all (by decide) (by decide)) (debugEntries entries)

/-- What is shown of a value that is neither a text nor a truth value is no word but `nan` and `inf`. -/
theorem not_spelledAs_rendered (hdefined : v.isDefined = true) (htext : v.text? = none)
    (hbool : ∀ b, v ≠ .bool b) (hword : word.toList.all Char.isAlpha = true) (hnan : word ≠ "nan")
    (hinf : word ≠ "inf") : ¬ SpelledAs v.rendered word := by
  cases v with
  | undefined | null => cases hdefined
  | text s => cases htext
  | bool b => exact absurd rfl (hbool b)
  | bytes bs => exact (marked_ofBytesLossy htext).not_spelledAs hword
  | int n => exact (Decimal.numeric_toString n).marked.not_spelledAs hword
  | float x =>
    cases x with
    | nan => exact fun h => hnan h.symm
    | infinite negative =>
      cases negative with
      | true =>
        have hminus : Marked "-" := ⟨'-', by decide, by decide, by decide⟩
        exact (hminus.append_right "inf").not_spelledAs hword
      | false => exact fun h => hinf h.symm
    | finite negative m e => exact (numeric_shownNumbers negative m e).marked.not_spelledAs hword
  | list items =>
    have hopen : Marked "[" := ⟨'[', by decide, by decide, by decide⟩
    exact ((hopen.append_right (debugItems items)).append_right "]").not_spelledAs hword
  | map entries =>
    have hopen : Marked "\x7b" := ⟨'\x7b', by decide, by decide, by decide⟩
    exact ((hopen.append_right (debugEntries entries)).append_right "\x7d").not_spelledAs hword

end TemplateValue

end Lakehouse
