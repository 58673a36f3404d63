import Lakehouse.Proofs.Text.NormalForm

/-!
# Texts that differ in letter case

Two texts that differ in letter case only are one text in lower case, with two exceptions. A capital I
with a dot above leaves its dot behind where a plain letter leaves none, and a capital sigma at the end
of a word goes to the final form where a small sigma stays as it is.

- `smallLetter`: the lower-case letter of a character, as one character.
- `isCased_smallLetter`, `isCaseIgnorable_smallLetter`: a character and its lower-case letter count alike
  where a sigma asks whether it ends a word. Of the tables this needs that letters which are moved are
  cased, before and after (`lowerRanges_cased`), and that no cased character is looked through
  (`casedRanges_apart`).
- `SameLetters`: texts that differ in letter case only.
- `ShowsCase`: some place in them where the case shows all the same.
- **`lower_eq_lower_iff`**: texts that differ in letter case only are one text in lower case exactly if
  their case shows nowhere.
-/

namespace Lakehouse

namespace Text

/-! ## The tables -/

/-- All letters of a run lie in a table: in one interval of it, or one by one. -/
def CaseRange.isIn (r : CaseRange) (ranges : List (Nat × Nat)) : Bool :=
  ranges.any (fun e => e.1.ble r.first && r.last.ble e.2) ||
    (List.range' r.first (r.last - r.first + 1)).all fun n => !r.covers n || inRanges ranges n

theorem CaseRange.inRanges_of_isIn {r : CaseRange} {ranges : List (Nat × Nat)} {n : Nat}
    (h : r.isIn ranges = true) (hn : r.covers n = true) : inRanges ranges n = true := by
  obtain ⟨hfirst, hlast, -⟩ := covers_iff.1 hn
  rw [isIn, Bool.or_eq_true, List.any_eq_true, List.all_eq_true] at h
  obtain ⟨e, he, hle⟩ | hall := h
  · simp only [Bool.and_eq_true, Nat.ble_eq] at hle
    refine List.any_eq_true.2 ⟨e, he, ?_⟩
    simp only [Bool.and_eq_true, decide_eq_true_eq]
    omega
  · have hmem : n ∈ List.range' r.first (r.last - r.first + 1) := by
      rw [List.mem_range'_1]
      omega
    simpa only [hn, Bool.not_true, Bool.false_or] using hall n hmem

theorem lowerRanges_cased :
    (lowerRanges.all fun r => r.isIn casedRanges && r.lowered.isIn casedRanges) = true := by
  decide +kernel

/-- No interval of one table meets one of the other, if both are in ascending order: each table is gone
through once. -/
def areApart : List (Nat × Nat) → List (Nat × Nat) → Bool
  | [], _ => true
  | e :: table, others =>
    match others.dropWhile fun e' => e'.2.blt e.1 with
    | [] => true
    | e' :: rest => e.2.blt e'.1 && areApart table (e' :: rest)

theorem apart_of_areApart {table others : List (Nat × Nat)}
    (htable : table.Pairwise fun e e' => e.1 ≤ e'.1) (hothers : others.Pairwise fun e e' => e.1 ≤ e'.1)
    (h : areApart table others = true) : ∀ e ∈ table, ∀ e' ∈ others, e.2 < e'.1 ∨ e'.2 < e.1 := by
  induction table generalizing others with
  | nil => simp
  | cons first table ih =>
    obtain ⟨hfirst, htable⟩ := List.pairwise_cons.1 htable
    have hle : ∀ e ∈ first :: table, first.1 ≤ e.1 := List.forall_mem_cons.2 ⟨Nat.le_refl _, hfirst⟩
    intro e he e' he'
    rw [← List.takeWhile_append_dropWhile (p := fun e' => e'.2.blt first.1) (l := others),
      List.mem_append] at he'
    rcases he' with hpassed | hleft
    · -- what ends before the first interval ends before all of them
      have hends := List.mem_takeWhile_imp hpassed
      rw [Nat.blt_eq] at hends
      exact .inr (Nat.lt_of_lt_of_le hends (hle e he))
    · have hsorted := hothers.sublist (List.dropWhile_sublist fun e' => e'.2.blt first.1)
      rw [areApart] at h
      cases hdrop : others.dropWhile fun e' => e'.2.blt first.1 with
      | nil =>
        rw [hdrop] at hleft
        cases hleft
      | cons next rest =>
        rw [hdrop] at h hleft hsorted
        simp only [Bool.and_eq_true, Nat.blt_eq] at h
        rcases List.mem_cons.1 he with rfl | he
        · have hnext : next.1 ≤ e'.1 := by
            rcases List.mem_cons.1 hleft with rfl | hrest
            · exact Nat.le_refl _
            · exact (List.pairwise_cons.1 hsorted).1 e' hrest
          exact .inl (Nat.lt_of_lt_of_le h.1 hnext)
        · exact ih htable hsorted h.2 e he e' hleft

theorem casedRanges_apart : caseIgnorableRanges.IsChain (fun e e' => e.1 ≤ e'.1) ∧
    casedRanges.IsChain (fun e e' => e.1 ≤ e'.1) ∧
    areApart caseIgnorableRanges casedRanges = true := by
  decide +kernel

variable {c d : Char} {before before' after after' cs ds : List Char}

/-- No cased character is looked through. -/
theorem isCaseIgnorable_of_isCased (h : isCased c = true) : isCaseIgnorable c = false := by
  rw [← Bool.not_eq_true]
  intro hignorable
  obtain ⟨e, he, hin⟩ := List.any_eq_true.1 hignorable
  obtain ⟨e', he', hin'⟩ := List.any_eq_true.1 h
  obtain ⟨hignorables, hcased, hdisjoint⟩ := casedRanges_apart
  have hapart := apart_of_areApart hignorables.pairwise hcased.pairwise hdisjoint e he e' he'
  simp only [Bool.and_eq_true, decide_eq_true_eq] at hin hin'
  omega

/-! ## Letters -/

/-- The lower-case letter of a character, as one character. -/
def smallLetter (c : Char) : Char :=
  (lowerChar c).headD c

/-- A combining dot above. -/
def combiningDot : Char := Char.ofNat 0x307

theorem lowerChar_dottedI : lowerChar dottedI = ['i', combiningDot] := by decide

theorem smallLetter_capitalSigma : smallLetter capitalSigma = smallSigma := by decide

/-- Only a capital I with a dot above goes to more than its lower-case letter. -/
theorem lowerChar_eq (h : c ≠ dottedI) : lowerChar c = [smallLetter c] := by
  have hdot : c.toNat ≠ 0x130 := by
    intro heq
    exact h (by rw [dottedI, ← heq, Char.ofNat_toNat])
  unfold smallLetter lowerChar
  rw [if_neg hdot]
  split
  · rfl
  · split <;> rfl

/-- A lower-case letter is the character itself, or the character is in a run that goes there. -/
theorem smallLetter_cases (h : c ≠ dottedI) : smallLetter c = c ∨
    ∃ r ∈ lowerRanges, r.covers c.toNat = true ∧ smallLetter c = Char.ofNat (r.image c.toNat) := by
  by_cases hascii : c.toNat < 0x80
  · have hsmall : smallLetter c = c.toLower := by
      rw [smallLetter, lowerChar, if_pos hascii]
      rfl
    by_cases hupper : c.isUpper = true
    · have hrange : 65 ≤ c.toNat ∧ c.toNat ≤ 90 := of_decide_eq_true hupper
      refine .inr ⟨⟨0x41, 0x5A, 1, 32⟩, List.mem_cons_self, ?_, ?_⟩
      · exact CaseRange.covers_iff.2 ⟨hrange.1, hrange.2, Nat.mod_one _⟩
      · rw [hsmall, Char.toLower_eq_of_isUpper hupper]
        rfl
    · exact .inl (by rw [hsmall, Char.toLower_eq_of_not_isUpper hupper])
  · have hdot : c.toNat ≠ 0x130 := by
      intro heq
      exact h (by rw [dottedI, ← heq, Char.ofNat_toNat])
    cases hfind : lowerRanges.find? (·.covers c.toNat) with
    | none => exact .inl (by rw [smallLetter, lowerChar, if_neg hascii, if_neg hdot, hfind]; rfl)
    | some r =>
      have hcovers := List.find?_some hfind
      refine .inr ⟨r, List.mem_of_find?_eq_some hfind, hcovers, ?_⟩
      rw [smallLetter, lowerChar, if_neg hascii, if_neg hdot, hfind]
      rfl

/-- A letter that is moved is cased, before and after. -/
theorem isCased_of_moved (h : smallLetter c ≠ c) :
    isCased c = true ∧ isCased (smallLetter c) = true := by
  by_cases hdot : c = dottedI
  · rw [hdot]
    decide
  · obtain hsame | ⟨r, hr, hcovers, hsmall⟩ := smallLetter_cases hdot
    · exact absurd hsame h
    · have hcased := List.all_eq_true.1 lowerRanges_cased r hr
      rw [Bool.and_eq_true] at hcased
      have hlowered := CaseRange.covers_lowered (lowered_valid r hr).1 hcovers
      refine ⟨CaseRange.inRanges_of_isIn hcased.1 hcovers, ?_⟩
      rw [hsmall, isCased, toNat_ofNat_image hr hcovers]
      exact CaseRange.inRanges_of_isIn hcased.2 hlowered

theorem isCased_smallLetter (c : Char) : isCased (smallLetter c) = isCased c := by
  by_cases h : smallLetter c = c
  · rw [h]
  · rw [(isCased_of_moved h).1, (isCased_of_moved h).2]

theorem isCaseIgnorable_smallLetter (c : Char) :
    isCaseIgnorable (smallLetter c) = isCaseIgnorable c := by
  by_cases h : smallLetter c = c
  · rw [h]
  · obtain ⟨hbefore, hafter⟩ := isCased_of_moved h
    rw [isCaseIgnorable_of_isCased hbefore, isCaseIgnorable_of_isCased hafter]

/-- Nothing but a combining dot goes to one by itself. -/
theorem eq_combiningDot (h : smallLetter c = combiningDot) : c = combiningDot := by
  by_contra hne
  have hcased := (isCased_of_moved (c := c) (by rw [h]; exact Ne.symm hne)).2
  rw [h] at hcased
  exact absurd hcased (by decide)

/-! ## Ends of words -/

/-- Whether a cased character is met does not depend on letter case. -/
theorem meetsCased_map (cs : List Char) : meetsCased (cs.map smallLetter) = meetsCased cs := by
  induction cs with
  | nil => rfl
  | cons c rest ih =>
    have hignorable := isCaseIgnorable_smallLetter c
    cases h : isCaseIgnorable c with
    | true =>
      rw [h] at hignorable
      rw [List.map_cons, meetsCased, meetsCased, List.dropWhile_cons_of_pos hignorable,
        List.dropWhile_cons_of_pos h]
      exact ih
    | false =>
      rw [h] at hignorable
      rw [List.map_cons, meetsCased, meetsCased, List.dropWhile_cons_of_neg (by simp [hignorable]),
        List.dropWhile_cons_of_neg (by simp [h])]
      exact isCased_smallLetter c

theorem endsWord_congr (hbefore : before.map smallLetter = before'.map smallLetter)
    (hafter : after.map smallLetter = after'.map smallLetter) :
    endsWord before after = endsWord before' after' := by
  rw [endsWord, endsWord, ← meetsCased_map before, ← meetsCased_map after, hbefore, hafter,
    meetsCased_map, meetsCased_map]

/-! ## Where the case of a letter shows -/

/-- A place where the case of a letter shows in lower case: one of two letters is a capital I with a dot
above, or one of them is a capital sigma at the end of a word. -/
def ShowsAt (before : List Char) (c d : Char) (after : List Char) : Prop :=
  c ≠ d ∧ (c = dottedI ∨ d = dottedI ∨
    (c = capitalSigma ∨ d = capitalSigma) ∧ endsWord before after = true)

instance (before : List Char) (c d : Char) (after : List Char) :
    Decidable (ShowsAt before c d after) :=
  inferInstanceAs (Decidable (_ ∧ _))

/-- The case shows at one of the places of two stretches of text, the first of which comes after the
characters `before` (nearest first). -/
def ShowsFrom (before : List Char) : List Char → List Char → Prop
  | c :: cs, d :: ds => ShowsAt before c d cs ∨ ShowsFrom (c :: before) cs ds
  | _, _ => False

instance : (before cs ds : List Char) → Decidable (ShowsFrom before cs ds)
  | before, c :: cs, d :: ds =>
    have := instDecidableShowsFrom (c :: before) cs ds
    inferInstanceAs (Decidable (ShowsAt before c d cs ∨ ShowsFrom (c :: before) cs ds))
  | _, [], _ => .isFalse not_false
  | _, _ :: _, [] => .isFalse not_false

/-- What a character goes to, other than a capital I with a dot above. -/
theorem lowerAt_eq (h : c ≠ dottedI) : lowerAt before c after =
    [if c = capitalSigma ∧ endsWord before after = true then finalSigma else smallLetter c] := by
  by_cases hsigma : c = capitalSigma
  · subst hsigma
    simp only [lowerAt, if_true, true_and, smallLetter_capitalSigma]
  · rw [lowerAt, if_neg hsigma, if_neg (fun hand => hsigma hand.1), lowerChar_eq h]

/-- Where the case does not show, letters that differ in case go to the same. -/
theorem lowerAt_congr (hbefore : before.map smallLetter = before'.map smallLetter)
    (hafter : after.map smallLetter = after'.map smallLetter) (hsmall : smallLetter c = smallLetter d)
    (h : ¬ ShowsAt before c d after) : lowerAt before c after = lowerAt before' d after' := by
  have hends := endsWord_congr hbefore hafter
  by_cases hsame : c = d
  · subst hsame
    rw [lowerAt, lowerAt, hends]
  · obtain ⟨hc, hd, hsigma⟩ : c ≠ dottedI ∧ d ≠ dottedI ∧
        ¬ ((c = capitalSigma ∨ d = capitalSigma) ∧ endsWord before after = true) := by
      simpa only [ShowsAt, hsame, ne_eq, not_false_eq_true, true_and, not_or] using h
    rw [lowerAt_eq hc, lowerAt_eq hd, ← hends, if_neg fun hand => hsigma ⟨.inl hand.1, hand.2⟩,
      if_neg fun hand => hsigma ⟨.inr hand.1, hand.2⟩, hsmall]

/-- A dot that is left behind is not made up for: the texts that follow differ in letter case only, so
the dot would have to be followed by dots without end. -/
theorem combiningDot_cons_ne (h : cs.map smallLetter = ds.map smallLetter) :
    combiningDot :: lowerFrom before cs ≠ lowerFrom before' ds := by
  induction ds generalizing cs before before' with
  | nil => exact List.cons_ne_nil _ _
  | cons d ds ih =>
    obtain ⟨c, cs, rfl⟩ := List.exists_cons_of_ne_nil (l := cs) (by rintro rfl; cases h)
    obtain ⟨hsmall, hrest⟩ := List.cons.inj h
    intro heq
    rw [lowerFrom_cons before' d] at heq
    by_cases hd : d = dottedI
    · rw [hd, lowerAt, if_neg (by decide), lowerChar_dottedI, List.cons_append] at heq
      exact absurd (List.cons.inj heq).1 (by decide)
    · rw [lowerAt_eq hd, List.singleton_append] at heq
      obtain ⟨hhead, htail⟩ := List.cons.inj heq
      split at hhead
      · exact absurd hhead (by decide)
      · have hc : c = combiningDot := eq_combiningDot (hsmall.trans hhead.symm)
        have hlower : lowerAt before combiningDot cs = [combiningDot] := by
          rw [lowerAt_eq (by decide), if_neg fun hand => absurd hand.1 (by decide)]
          decide
        rw [hc, lowerFrom_cons, hlower] at htail
        exact ih hrest htail

/-- A capital I with a dot above does not go to what another letter goes to. -/
theorem lowerFrom_ne_of_dottedI (hd : d ≠ dottedI)
    (h : cs.map smallLetter = ds.map smallLetter) :
    lowerFrom before (dottedI :: cs) ≠ lowerFrom before' (d :: ds) := by
  intro heq
  rw [lowerFrom_cons, lowerFrom_cons, lowerAt_eq hd, lowerAt, if_neg (by decide),
    lowerChar_dottedI] at heq
  exact combiningDot_cons_ne h (List.cons.inj heq).2

/-- Where the case shows, texts that differ in letter case only go to different ones. -/
theorem lowerFrom_ne_of_showsAt (hbefore : before.map smallLetter = before'.map smallLetter)
    (hsmall : smallLetter c = smallLetter d) (h : cs.map smallLetter = ds.map smallLetter)
    (hshows : ShowsAt before c d cs) :
    lowerFrom before (c :: cs) ≠ lowerFrom before' (d :: ds) := by
  obtain ⟨hne, hcases⟩ := hshows
  by_cases hc : c = dottedI
  · subst hc
    exact lowerFrom_ne_of_dottedI (Ne.symm hne) h
  by_cases hd : d = dottedI
  · subst hd
    exact (lowerFrom_ne_of_dottedI hne h.symm).symm
  obtain ⟨hsigma, hends⟩ := (hcases.resolve_left hc).resolve_left hd
  have hends' := (endsWord_congr hbefore h).symm.trans hends
  intro heq
  rw [lowerFrom_cons, lowerFrom_cons, lowerAt_eq hc, lowerAt_eq hd] at heq
  have hhead := (List.cons.inj heq).1
  have hfinal : finalSigma ≠ smallLetter capitalSigma := by
    rw [smallLetter_capitalSigma]
    decide
  obtain rfl | rfl := hsigma
  · rw [if_pos ⟨rfl, hends⟩, if_neg fun hand => hne hand.1.symm, ← hsmall] at hhead
    exact hfinal hhead
  · rw [if_neg fun hand => hne hand.1, if_pos ⟨rfl, hends'⟩, hsmall] at hhead
    exact hfinal hhead.symm

/-- Stretches of text that differ in letter case only are one in lower case exactly if their case shows
nowhere. -/
theorem lowerFrom_eq_iff (hbefore : before.map smallLetter = before'.map smallLetter)
    (h : cs.map smallLetter = ds.map smallLetter) :
    lowerFrom before cs = lowerFrom before' ds ↔ ¬ ShowsFrom before cs ds := by
  induction cs generalizing before before' ds with
  | nil =>
    obtain rfl : ds = [] := List.map_eq_nil_iff.1 h.symm
    exact iff_of_true rfl not_false
  | cons c cs ih =>
    obtain ⟨d, ds, rfl⟩ := List.exists_cons_of_ne_nil (l := ds) (by rintro rfl; cases h)
    obtain ⟨hsmall, hrest⟩ := List.cons.inj h
    by_cases hshows : ShowsAt before c d cs
    · exact iff_of_false (lowerFrom_ne_of_showsAt hbefore hsmall hrest hshows)
        (not_not_intro (.inl hshows))
    · have hnearer : (c :: before).map smallLetter = (d :: before').map smallLetter := by
        rw [List.map_cons, List.map_cons, hsmall, hbefore]
      rw [lowerFrom_cons, lowerFrom_cons, lowerAt_congr hbefore hrest hsmall hshows,
        List.append_cancel_left_eq, ih hnearer hrest, ShowsFrom, or_iff_right hshows]

/-! ## Texts -/

/-- As many characters, and place by place the same lower-case letter: texts that differ in letter case
only. -/
def SameLetters (s t : String) : Prop :=
  s.toList.map smallLetter = t.toList.map smallLetter

instance (s t : String) : Decidable (SameLetters s t) :=
  inferInstanceAs (Decidable (_ = _))

/-- There is a place where the case shows. -/
def ShowsCase (s t : String) : Prop :=
  ShowsFrom [] s.toList t.toList

instance (s t : String) : Decidable (ShowsCase s t) :=
  inferInstanceAs (Decidable (ShowsFrom [] s.toList t.toList))

/-- **Lower case and letter case.** Texts that differ in letter case only are one text in lower case
exactly if their case shows nowhere. -/
theorem lower_eq_lower_iff {s t : String} (h : SameLetters s t) :
    lower s = lower t ↔ ¬ ShowsCase s t := by
  rw [lower, lower, String.ofList_inj]
  exact lowerFrom_eq_iff rfl h

end Text

end Lakehouse
