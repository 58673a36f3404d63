/-!
# Blanks

Leading and trailing blanks never count in a name, a token or a path segment. A blank is a
character with the Unicode property White_Space.

- `isBlank`: the property, for one character.
- `trim`: a text without its leading and trailing blanks. Trimming twice is trimming once (`trim_trim`).
- `isBlankText`: a text of blanks only (the empty text included); `isBlankText_iff_trim` says that
  these are the texts which trim to nothing.
- `unlessBlank`: a text as an optional one, absent when blank.
-/

namespace Lakehouse

namespace Text

/-- The Unicode property White_Space. -/
def isBlank (c : Char) : Bool :=
  let n := c.toNat
  (0x9 ≤ n && n ≤ 0xD) || n == 0x20 || n == 0x85 || n == 0xA0 || n == 0x1680 ||
    (0x2000 ≤ n && n ≤ 0x200A) || n == 0x2028 || n == 0x2029 || n == 0x202F || n == 0x205F ||
    n == 0x3000

/-- Without the leading blanks. -/
def dropBlanks (cs : List Char) : List Char :=
  cs.dropWhile isBlank

/-- Without the trailing blanks. -/
def dropBlanksRight (cs : List Char) : List Char :=
  (dropBlanks cs.reverse).reverse

/-- A text without its leading and trailing blanks. -/
def trim (s : String) : String :=
  String.ofList (dropBlanksRight (dropBlanks s.toList))

/-- Nothing but blanks, or nothing at all. -/
def isBlankText (s : String) : Bool :=
  s.toList.all isBlank

/-- The text, unless it is blank. -/
def unlessBlank (s : String) : Option String :=
  if isBlankText s then none else some s

/-- The trimmed text, unless nothing is left of it. -/
def trimmed? (s : String) : Option String :=
  if isBlankText s then none else some (trim s)

/-- Without the trailing slashes: a volume and the path under it meet in exactly one. -/
def dropSlashesRight (s : String) : String :=
  String.ofList ((s.toList.reverse.dropWhile (· == '/')).reverse)

/-! ### What trimming leaves -/

theorem dropBlanks_eq_nil_iff (cs : List Char) : dropBlanks cs = [] ↔ cs.all isBlank = true := by
  induction cs with
  | nil => simp [dropBlanks]
  | cons c cs ih =>
    cases h : isBlank c with
    | true =>
      rw [dropBlanks, List.dropWhile_cons_of_pos h, List.all_cons, h, Bool.true_and]
      exact ih
    | false => simp [dropBlanks, h]

/-- What is left after the leading blanks starts with none. -/
theorem not_isBlank_of_dropBlanks {cs r : List Char} {c : Char} (h : dropBlanks cs = c :: r) :
    isBlank c = false := by
  induction cs with
  | nil => simp [dropBlanks] at h
  | cons d cs ih =>
    cases hd : isBlank d with
    | true => exact ih (by simpa [dropBlanks, List.dropWhile_cons, hd] using h)
    | false =>
      simp only [dropBlanks, List.dropWhile_cons, hd] at h
      obtain ⟨rfl, -⟩ := List.cons.inj h
      exact hd

/-- Blanks are all there is exactly when dropping them at both ends leaves nothing. -/
theorem dropBlanks_both_eq_nil_iff (cs : List Char) :
    dropBlanksRight (dropBlanks cs) = [] ↔ cs.all isBlank = true := by
  rw [dropBlanksRight, List.reverse_eq_nil_iff, dropBlanks_eq_nil_iff, List.all_reverse]
  constructor
  · intro h
    cases hd : dropBlanks cs with
    | nil => exact (dropBlanks_eq_nil_iff cs).1 hd
    | cons c r => simp [hd, not_isBlank_of_dropBlanks hd] at h
  · intro h
    simp [(dropBlanks_eq_nil_iff cs).2 h]

theorem dropBlanks_dropBlanks (cs : List Char) : dropBlanks (dropBlanks cs) = dropBlanks cs := by
  cases h : dropBlanks cs with
  | nil => rfl
  | cons c r => simp [dropBlanks, not_isBlank_of_dropBlanks h]

/-- Dropping the trailing blanks leaves what comes before them. -/
theorem exists_append_dropBlanksRight (cs : List Char) :
    ∃ blanks, dropBlanksRight cs ++ blanks = cs := by
  obtain ⟨blanks, h⟩ : dropBlanks cs.reverse <:+ cs.reverse := List.dropWhile_suffix isBlank
  exact ⟨blanks.reverse, by rw [dropBlanksRight, ← List.reverse_append, h, List.reverse_reverse]⟩

/-- A trimmed text has nothing left to trim. -/
@[simp] theorem trim_trim (s : String) : trim (trim s) = trim s := by
  have hleft (cs : List Char) :
      dropBlanks (dropBlanksRight (dropBlanks cs)) = dropBlanksRight (dropBlanks cs) := by
    cases h : dropBlanksRight (dropBlanks cs) with
    | nil => rfl
    | cons c r =>
      obtain ⟨rest, hrest⟩ := exists_append_dropBlanksRight (dropBlanks cs)
      rw [h, List.cons_append] at hrest
      simp [dropBlanks, not_isBlank_of_dropBlanks hrest.symm]
  have hright (cs : List Char) : dropBlanksRight (dropBlanksRight cs) = dropBlanksRight cs := by
    simp only [dropBlanksRight, List.reverse_reverse, dropBlanks_dropBlanks]
  simp only [trim, String.toList_ofList, hleft, hright]

/-- A text trims to nothing exactly when it is blank. -/
theorem isBlankText_iff_trim (s : String) : isBlankText s = true ↔ trim s = "" := by
  rw [isBlankText, ← dropBlanks_both_eq_nil_iff, trim]
  constructor
  · intro h
    rw [h]
  · intro h
    simpa using congrArg String.toList h

end Text

end Lakehouse
