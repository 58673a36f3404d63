/-!
# Tokens

A keyword such as `iceberg` or `true` is recognised whatever the case of its ASCII letters; no other
letters are identified.

- `foldAscii`: the ASCII letters in lower case.
- `sameToken`: equality up to that.
- `replaceChar`: every occurrence of a character replaced by a text.
- `joinWith`: texts with a separator between them. Joining two parts and then joining the results is
  joining all (`joinWith_append`).
-/

namespace Lakehouse

namespace Text

/-- The ASCII letters in lower case, all else unchanged. -/
def foldAscii (s : String) : String :=
  String.ofList (s.toList.map Char.toLower)

/-- Equality up to the case of ASCII letters. -/
def sameToken (s token : String) : Bool :=
  foldAscii s == foldAscii token

/-- Every occurrence of a character replaced by a text. -/
def replaceChar (s : String) (c : Char) (by_ : String) : String :=
  String.ofList (s.toList.flatMap fun d => if d = c then by_.toList else [d])

/-- The texts in order, with a separator between neighbours. -/
def joinWith (separator : String) : List String → String
  | [] => ""
  | [s] => s
  | s :: t :: rest => s ++ separator ++ joinWith separator (t :: rest)

/-- Texts are joined as the string library joins them. -/
theorem joinWith_eq_intercalate (separator : String) (ss : List String) :
    joinWith separator ss = separator.intercalate ss := by
  induction ss with
  | nil => rfl
  | cons s rest ih =>
    cases rest with
    | nil => rfl
    | cons t rest => rw [joinWith, ih, String.intercalate_cons_cons]

/-- Between two parts of a joined text there is one separator. -/
theorem joinWith_append (separator : String) {ss ts : List String} (hs : ss ≠ []) (ht : ts ≠ []) :
    joinWith separator (ss ++ ts) =
      joinWith separator ss ++ separator ++ joinWith separator ts := by
  induction ss with
  | nil => exact absurd rfl hs
  | cons s rest ih =>
    cases rest with
    | nil =>
      obtain ⟨t, others, rfl⟩ := List.exists_cons_of_ne_nil ht
      rfl
    | cons u rest =>
      have hrest := ih (List.cons_ne_nil u rest)
      rw [List.cons_append, List.cons_append, joinWith, ← List.cons_append, hrest, joinWith]
      simp only [String.append_assoc]

end Text

end Lakehouse
