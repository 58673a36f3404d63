import Lakehouse.Proofs.Text.LowerCase
import Mathlib

/-!
# Lower case as a normal form

A text in lower case is its own lower case. It is not enough that the table of letters leads nowhere
twice: what a letter goes to may be two characters, a capital sigma goes to one of two, and each of
these must stay as it is wherever it stands in a text.

- `CaseRange.isApart`: two runs of letters have none in common. What the letters of any run go to is
  apart from the letters that are moved (`lowered_isApart`).
- `lowerAt`: what one character of a text goes to, with what stands around it.
- `Settled`: a character that stays as it is, whatever stands around it. What any character goes to is
  settled (`settled_of_mem_lowerAt`).
- `lower_lower`: hence a text in lower case stays as it is.
-/

namespace Lakehouse

namespace Text

/-! ## Runs of letters -/

namespace CaseRange

variable {r r' : CaseRange} {n : Nat}

/-- Where a letter of a run goes. -/
def image (r : CaseRange) (n : Nat) : Nat :=
  ((n : Int) + r.shift).toNat

/-- Where a run goes, as a run. -/
def lowered (r : CaseRange) : CaseRange :=
  ⟨r.image r.first, r.image r.last, r.stride, 0⟩

-- The table is checked pair by pair, and the kernel runs through `Nat.blt` and `Nat.beq` at once.
/-- Two runs have no letter in common: one ends before the other begins, or every other letter is in one
of them and only letters in between are in the other. -/
def isApart (r r' : CaseRange) : Bool :=
  r.last.blt r'.first || r'.last.blt r.first ||
    ((r.first.beq r.last || r.stride.beq 2) && r'.stride.beq 2 && ((r.first + r'.first) % 2).beq 1)

theorem covers_iff :
    r.covers n = true ↔ r.first ≤ n ∧ n ≤ r.last ∧ (n - r.first) % r.stride = 0 := by
  simp [covers, and_assoc]

theorem not_covers_of_isApart (h : r.isApart r' = true) (hn : r.covers n = true) :
    r'.covers n = false := by
  simp only [isApart, Bool.or_eq_true, Bool.and_eq_true, Nat.blt_eq, Nat.beq_eq] at h
  obtain ⟨hfirst, hlast, hstep⟩ := covers_iff.1 hn
  rw [← Bool.not_eq_true, covers_iff]
  rintro ⟨hfirst', hlast', hstep'⟩
  obtain (h | h) | ⟨⟨hone | htwo, htwo'⟩, hodd⟩ := h
  · omega
  · omega
  · rw [htwo'] at hstep'
    omega
  · rw [htwo] at hstep
    rw [htwo'] at hstep'
    omega

/-- The letters of a run keep their distances. -/
theorem covers_lowered (hfirst : 0 ≤ (r.first : Int) + r.shift) (h : r.covers n = true) :
    r.lowered.covers (r.image n) = true := by
  obtain ⟨hle, hge, hstep⟩ := covers_iff.1 h
  have hoffset : r.image n - r.image r.first = n - r.first := by
    simp only [image]
    omega
  refine covers_iff.2 ⟨?_, ?_, hoffset ▸ hstep⟩
  · simp only [lowered, image]
    omega
  · simp only [lowered, image]
    omega

end CaseRange

/-! ## The table -/

/-- A capital I with a dot above, which alone goes to two characters. -/
def dottedI : Char := Char.ofNat 0x130

theorem lowered_isApart :
    (lowerRanges.all fun r => lowerRanges.all r.lowered.isApart) = true := by
  decide +kernel

/-- Every run goes to characters, and to others than the capital I with a dot above. -/
theorem lowered_valid : ∀ r ∈ lowerRanges, 0 ≤ (r.first : Int) + r.shift ∧
    (r.lowered.last < 0xD800 ∨ 0xDFFF < r.lowered.first ∧ r.lowered.last < 0x110000) ∧
    r.lowered.isApart ⟨0x130, 0x130, 1, 0⟩ = true := by
  decide +kernel

variable {c d : Char} {r : CaseRange} {before after cs : List Char}

/-- No run has the letter. -/
def Uncovered (n : Nat) : Prop :=
  ∀ r ∈ lowerRanges, r.covers n = false

theorem uncovered_image (hr : r ∈ lowerRanges) (h : r.covers c.toNat = true) :
    Uncovered (r.image c.toNat) := by
  intro r' hr'
  have hapart := List.all_eq_true.1 (List.all_eq_true.1 lowered_isApart r hr) r' hr'
  exact CaseRange.not_covers_of_isApart hapart
    (CaseRange.covers_lowered (lowered_valid r hr).1 h)

theorem image_ne_dottedI (hr : r ∈ lowerRanges) (h : r.covers c.toNat = true) :
    r.image c.toNat ≠ 0x130 := by
  intro heq
  obtain ⟨hfirst, -, hapart⟩ := lowered_valid r hr
  have hnot := CaseRange.not_covers_of_isApart hapart (CaseRange.covers_lowered hfirst h)
  rw [heq] at hnot
  cases hnot

/-- The letter that a letter of a run goes to. -/
theorem toNat_ofNat_image (hr : r ∈ lowerRanges) (h : r.covers c.toNat = true) :
    (Char.ofNat (r.image c.toNat)).toNat = r.image c.toNat := by
  obtain ⟨hfirst, hvalid, -⟩ := lowered_valid r hr
  obtain ⟨hle, hge, -⟩ := CaseRange.covers_iff.1 (CaseRange.covers_lowered hfirst h)
  rw [Char.toNat_ofNat, if_pos]
  unfold Nat.isValidChar
  omega

/-! ## Characters -/

/-- A letter of no run goes to itself. -/
theorem lowerChar_of_uncovered (h : Uncovered c.toNat) (hdot : c.toNat ≠ 0x130) :
    lowerChar c = [c] := by
  have hnone : lowerRanges.find? (·.covers c.toNat) = none :=
    List.find?_eq_none.2 fun r hr => by simp [h r hr]
  -- the runs have the ASCII capitals too
  have hupper : ¬ c.isUpper = true := by
    intro hupper
    have hrange : 65 ≤ c.toNat ∧ c.toNat ≤ 90 := of_decide_eq_true hupper
    have hcovers : CaseRange.covers ⟨0x41, 0x5A, 1, 32⟩ c.toNat = true :=
      CaseRange.covers_iff.2 ⟨hrange.1, hrange.2, Nat.mod_one _⟩
    rw [h _ List.mem_cons_self] at hcovers
    cases hcovers
  simp only [lowerChar, hnone, hdot, if_false, Char.toLower_eq_of_not_isUpper hupper, ite_self]

/-- What one character goes to, between the characters before it (nearest first) and those after it. -/
def lowerAt (before : List Char) (c : Char) (after : List Char) : List Char :=
  if c = capitalSigma then [if endsWord before after then finalSigma else smallSigma]
  else lowerChar c

theorem lowerFrom_cons (before : List Char) (c : Char) (after : List Char) :
    lowerFrom before (c :: after) = lowerAt before c after ++ lowerFrom (c :: before) after := rfl

/-- A character that stays as it is, whatever stands around it. -/
def Settled (c : Char) : Prop :=
  ∀ before after, lowerAt before c after = [c]

theorem settled_of_lowerChar (h : lowerChar c = [c]) (hsigma : c ≠ capitalSigma) : Settled c := by
  intro before after
  rw [lowerAt, if_neg hsigma, h]

theorem settled_smallSigma : Settled smallSigma :=
  settled_of_lowerChar (by decide) (by decide)

theorem settled_finalSigma : Settled finalSigma :=
  settled_of_lowerChar (by decide) (by decide)

theorem ne_capitalSigma_of_uncovered (h : Uncovered c.toNat) : c ≠ capitalSigma := by
  rintro rfl
  have hcovered : (lowerRanges.any (·.covers capitalSigma.toNat)) = true := by decide
  obtain ⟨r, hr, hcovers⟩ := List.any_eq_true.1 hcovered
  rw [h r hr] at hcovers
  cases hcovers

theorem settled_toLower (h : c.toNat < 0x80) : Settled c.toLower := by
  have hall : ∀ n < 0x80, (Char.ofNat n).toLower.toNat < 0x80 := by decide
  have hascii : c.toLower.toNat < 0x80 := by
    simpa only [Char.ofNat_toNat] using hall c.toNat h
  refine settled_of_lowerChar ?_ ?_
  · rw [lowerChar, if_pos hascii, Char.toLower_toLower_eq_toLower]
  · intro heq
    rw [heq] at hascii
    exact absurd hascii (by decide)

/-- What a character goes to, context aside, is settled. -/
theorem settled_of_mem_lowerChar (hsigma : c ≠ capitalSigma) (h : d ∈ lowerChar c) : Settled d := by
  unfold lowerChar at h
  split at h
  · next hascii =>
    obtain rfl := List.mem_singleton.1 h
    exact settled_toLower hascii
  · split at h
    · rcases List.mem_cons.1 h with rfl | h
      · exact settled_of_lowerChar (by decide) (by decide)
      · obtain rfl := List.mem_singleton.1 h
        exact settled_of_lowerChar (by decide) (by decide)
    · next hdot =>
      split at h
      · next r hfind =>
        obtain rfl := List.mem_singleton.1 h
        have hr := List.mem_of_find?_eq_some hfind
        have hcovers := List.find?_some hfind
        have himage := toNat_ofNat_image hr hcovers
        have huncovered : Uncovered (Char.ofNat (r.image c.toNat)).toNat := by
          rw [himage]
          exact uncovered_image hr hcovers
        have hother : (Char.ofNat (r.image c.toNat)).toNat ≠ 0x130 := by
          rw [himage]
          exact image_ne_dottedI hr hcovers
        exact settled_of_lowerChar (lowerChar_of_uncovered huncovered hother)
          (ne_capitalSigma_of_uncovered huncovered)
      · next hfind =>
        obtain rfl := List.mem_singleton.1 h
        refine settled_of_lowerChar (lowerChar_of_uncovered (fun r hr => ?_) hdot) hsigma
        simpa using List.find?_eq_none.1 hfind r hr

/-- What a character goes to is settled. -/
theorem settled_of_mem_lowerAt (h : d ∈ lowerAt before c after) : Settled d := by
  unfold lowerAt at h
  split at h
  · obtain rfl := List.mem_singleton.1 h
    split
    · exact settled_finalSigma
    · exact settled_smallSigma
  · next hsigma => exact settled_of_mem_lowerChar hsigma h

theorem settled_of_mem_lowerFrom (h : d ∈ lowerFrom before cs) : Settled d := by
  induction cs generalizing before with
  | nil => cases h
  | cons c rest ih =>
    rw [lowerFrom_cons, List.mem_append] at h
    rcases h with h | h
    · exact settled_of_mem_lowerAt h
    · exact ih h

/-! ## Texts -/

/-- Settled characters stay as they are. -/
theorem lowerFrom_of_settled (h : ∀ c ∈ cs, Settled c) : lowerFrom before cs = cs := by
  induction cs generalizing before with
  | nil => rfl
  | cons c rest ih =>
    obtain ⟨hc, hrest⟩ := List.forall_mem_cons.1 h
    rw [lowerFrom_cons, hc, ih hrest, List.singleton_append]

/-- A text in lower case is its own lower case. -/
@[simp] theorem lower_lower (s : String) : lower (lower s) = lower s := by
  have hsettled : ∀ c ∈ (lower s).toList, Settled c := by
    intro c hc
    rw [lower, String.toList_ofList] at hc
    exact settled_of_mem_lowerFrom hc
  rw [lower, lowerFrom_of_settled hsettled, String.ofList_toList]

end Text

end Lakehouse
