import Lakehouse.Decimal.Digits

/-!
# Numerals

What is read as a whole number, by its shape: a sign or none, and at least one digit. Zeros in front
are allowed, and so is a sign in front of nothing but zeros.

- `Decimal.Numeral`: a text is a numeral of a number.
- `Decimal.signedInteger?_eq_some_iff`: the texts that are read are the numerals.
- `Decimal.signed64?_eq_some_iff`: of these, the ones whose number fits a signed word of 64 bits.
-/

namespace Lakehouse

namespace Decimal

/-- At least one digit, and nothing else. -/
def IsDigits (cs : List Char) : Prop :=
  cs ≠ [] ∧ ∀ c ∈ cs, c.isDigit = true

/-- A whole number as it is written in decimal, with a sign in front or without one. -/
inductive Numeral : List Char → Int → Prop
  | unsigned {digits : List Char} (h : IsDigits digits) :
      Numeral digits (Nat.ofDigitChars 10 digits 0)
  | plus {digits : List Char} (h : IsDigits digits) :
      Numeral ('+' :: digits) (Nat.ofDigitChars 10 digits 0)
  | minus {digits : List Char} (h : IsDigits digits) :
      Numeral ('-' :: digits) (-(Nat.ofDigitChars 10 digits 0 : Int))

/-! ## Rows of digits -/

theorem isDigit_iff_le {c : Char} : c.isDigit = true ↔ '0' ≤ c ∧ c ≤ '9' := by
  simp [Char.isDigit, Char.le_def]

theorem digitValue?_of_isDigit {c : Char} (h : c.isDigit = true) :
    digitValue? 10 c = some (c.toNat - '0'.toNat) := by
  have hle := isDigit_iff_le.1 h
  have hmost : c.toNat ≤ 57 := hle.2
  have hvalue : c.toNat - 48 < 10 := by omega
  rw [digitValue?, if_pos hle]
  exact if_pos hvalue

/-- Letters are digits only in a greater base. -/
theorem digitValue?_of_not_isDigit {c : Char} (h : ¬ c.isDigit = true) :
    digitValue? 10 c = none := by
  rw [digitValue?, if_neg fun hle => h (isDigit_iff_le.2 hle)]
  split
  · next hle =>
    have hleast : 97 ≤ c.toNat := hle.1
    exact if_neg (by omega)
  · split
    · next hle =>
      have hleast : 65 ≤ c.toNat := hle.1
      exact if_neg (by omega)
    · rfl

/-- A row is read digit by digit, and not at all if there is something else in it. -/
theorem digitsFrom?_eq_some_iff {cs : List Char} {value n : Nat} :
    digitsFrom? 10 value cs = some n ↔
      (∀ c ∈ cs, c.isDigit = true) ∧ Nat.ofDigitChars 10 cs value = n := by
  -- general in the number that was read before the row
  induction cs generalizing value with
  | nil => simp [digitsFrom?]
  | cons c rest ih =>
    by_cases hc : c.isDigit = true
    · rw [digitsFrom?, digitValue?_of_isDigit hc, Nat.ofDigitChars_cons, Nat.mul_comm 10 value]
      simp only [List.forall_mem_cons, hc, true_and]
      exact ih
    · rw [digitsFrom?, digitValue?_of_not_isDigit hc]
      simp [hc]

theorem digitsValue?_eq_some_iff {cs : List Char} {n : Nat} :
    digitsValue? 10 cs = some n ↔ IsDigits cs ∧ Nat.ofDigitChars 10 cs 0 = n := by
  cases cs with
  | nil => simp [digitsValue?, IsDigits]
  | cons c rest =>
    have hread : digitsFrom? 10 0 (c :: rest) = some n ↔ _ := digitsFrom?_eq_some_iff
    simpa [digitsValue?, IsDigits] using hread

/-- A number made of the value of a row of digits. -/
theorem map_digitsValue?_eq_some_iff {cs : List Char} {f : Nat → Int} {n : Int} :
    (digitsValue? 10 cs).map f = some n ↔ IsDigits cs ∧ f (Nat.ofDigitChars 10 cs 0) = n := by
  rw [Option.map_eq_some_iff]
  constructor
  · rintro ⟨value, hvalue, rfl⟩
    obtain ⟨hdigits, rfl⟩ := digitsValue?_eq_some_iff.1 hvalue
    exact ⟨hdigits, rfl⟩
  · rintro ⟨hdigits, rfl⟩
    exact ⟨_, digitsValue?_eq_some_iff.2 ⟨hdigits, rfl⟩, rfl⟩

/-! ## Signs -/

theorem signedInteger?_minus (rest : List Char) :
    signedInteger? ('-' :: rest) = (digitsValue? 10 rest).map fun n : Nat => -(n : Int) := by
  rw [signedInteger?]
  cases digitsValue? 10 rest <;> rfl

theorem signedInteger?_plus (rest : List Char) :
    signedInteger? ('+' :: rest) = (digitsValue? 10 rest).map fun n : Nat => (n : Int) := by
  rw [signedInteger?]
  cases digitsValue? 10 rest <;> rfl

theorem signedInteger?_unsigned {cs : List Char} (hminus : ∀ rest, cs ≠ '-' :: rest)
    (hplus : ∀ rest, cs ≠ '+' :: rest) :
    signedInteger? cs = (digitsValue? 10 cs).map fun n : Nat => (n : Int) := by
  rw [signedInteger?]
  · cases digitsValue? 10 cs <;> rfl
  · exact hminus
  · exact hplus

/-- A sign is no digit. -/
theorem IsDigits.ne_sign {digits : List Char} (h : IsDigits digits) {sign : Char}
    (hsign : sign.isDigit = false) (rest : List Char) : digits ≠ sign :: rest := by
  rintro rfl
  have hdigit := h.2 sign List.mem_cons_self
  rw [hsign] at hdigit
  cases hdigit

/-- **The texts that are read as whole numbers are the numerals.** -/
theorem signedInteger?_eq_some_iff {cs : List Char} {n : Int} :
    signedInteger? cs = some n ↔ Numeral cs n := by
  constructor
  · intro h
    -- the reader looks at the first character only to tell the three shapes apart
    by_cases hminus : ∃ rest, cs = '-' :: rest
    · obtain ⟨rest, rfl⟩ := hminus
      rw [signedInteger?_minus, map_digitsValue?_eq_some_iff] at h
      obtain ⟨hdigits, rfl⟩ := h
      exact .minus hdigits
    by_cases hplus : ∃ rest, cs = '+' :: rest
    · obtain ⟨rest, rfl⟩ := hplus
      rw [signedInteger?_plus, map_digitsValue?_eq_some_iff] at h
      obtain ⟨hdigits, rfl⟩ := h
      exact .plus hdigits
    · rw [signedInteger?_unsigned (not_exists.1 hminus) (not_exists.1 hplus),
        map_digitsValue?_eq_some_iff] at h
      obtain ⟨hdigits, rfl⟩ := h
      exact .unsigned hdigits
  · intro h
    cases h with
    | unsigned hdigits =>
      rw [signedInteger?_unsigned (hdigits.ne_sign rfl) (hdigits.ne_sign rfl),
        map_digitsValue?_eq_some_iff]
      exact ⟨hdigits, rfl⟩
    | plus hdigits =>
      rw [signedInteger?_plus, map_digitsValue?_eq_some_iff]
      exact ⟨hdigits, rfl⟩
    | minus hdigits =>
      rw [signedInteger?_minus, map_digitsValue?_eq_some_iff]
      exact ⟨hdigits, rfl⟩

/-- The numerals of too great or too small a number are not read. -/
theorem signed64?_eq_some_iff {s : String} {n : Int} :
    signed64? s = some n ↔ Numeral s.toList n ∧ fits64 n = true := by
  constructor
  · intro h
    refine ⟨signedInteger?_eq_some_iff.1 ?_, fits64_of_signed64? h⟩
    unfold signed64? at h
    split at h
    · next m hm =>
      split at h
      · rw [hm, h]
      · cases h
    · cases h
  · rintro ⟨hnumeral, hfits⟩
    rw [signed64?, signedInteger?_eq_some_iff.2 hnumeral]
    exact if_pos hfits

end Decimal

end Lakehouse
