import Lakehouse.Failure
import Mathlib.Data.List.Forall2

/-!
# Answers in sequence

Where one thing is asked after another, there is an answer if each has one.

- `exists_of_map_ok`, `exists_of_bind_ok`, `of_bind_error`: an answer is turned into another, or asked
  another. `map_of_bind`, `bind_of_map` and `bind_congr_of_ok` rewrite such sequences, and
  `bind_eq_error_iff` says at which of two steps they fail.
- `Alike`: two answers that differ only in what is answered, and not in whether or why there is none.
- `mapM_eq_ok_iff`, `mapM_eq_error_iff`, `mapM_eq_map`, `exists_of_mapM_ok`, `map_eq_map_of_mapM_ok`,
  `mapM_congr`, `mapM_flatMap`: the same is asked of every element of a list.
-/

namespace Lakehouse

variable {α β ε : Type} {f : α → Except ε β} {a : α} {as : List α}

theorem toOption_eq_some_iff {x : Except ε α} : x.toOption = some a ↔ x = .ok a := by
  cases x <;> simp [Except.toOption]

/-- What an answer was turned into comes from an answer. -/
theorem exists_of_map_ok {g : α → β} {x : Except ε α} {b : β} (h : x.map g = .ok b) :
    ∃ a, x = .ok a ∧ g a = b := by
  cases x with
  | error e => cases h
  | ok a => exact ⟨a, rfl, Except.ok.inj h⟩

theorem eq_ok_of_mapError_ok {ε' : Type} {g : ε → ε'} {x : Except ε α}
    (h : x.mapError g = .ok a) : x = .ok a := by
  cases x with
  | error e => cases h
  | ok a => exact congrArg _ (Except.ok.inj h)

/-- What was answered second was asked of what was answered first. -/
theorem exists_of_bind_ok {x : Except ε α} {b : β} (h : x >>= f = .ok b) :
    ∃ a, x = .ok a ∧ f a = .ok b := by
  cases x with
  | error e => cases h
  | ok a => exact ⟨a, rfl, h⟩

/-- What is answered second is turned into another answer. -/
theorem map_of_bind {γ : Type} (x : Except ε α) (g : β → γ) :
    (x >>= f).map g = x >>= fun a => (f a).map g := by
  cases x <;> rfl

theorem bind_of_map {γ : Type} (x : Except ε α) (g : α → β) (next : β → Except ε γ) :
    x.map g >>= next = x >>= fun a => next (g a) := by
  cases x <;> rfl

/-- What is asked second matters only for what can be answered first. -/
theorem bind_congr_of_ok {f' : α → Except ε β} {x : Except ε α} (h : ∀ a, x = .ok a → f a = f' a) :
    x >>= f = x >>= f' := by
  cases x with
  | error e => rfl
  | ok a => exact h a rfl

/-- What is said of every failure of two steps is said of the failures of both together. -/
theorem of_bind_error {P : ε → Prop} {x : Except ε α} (hx : ∀ e, x = .error e → P e)
    (hf : ∀ a e, f a = .error e → P e) : ∀ e, x >>= f = .error e → P e := by
  intro e h
  cases x with
  | error e' => exact hx e (congrArg Except.error (Except.error.inj h))
  | ok a => exact hf a e h

/-- Two steps fail where the first does, or where the second does with what is answered first. -/
theorem bind_eq_error_iff {x : Except ε α} {e : ε} :
    x >>= f = .error e ↔ x = .error e ∨ ∃ a, x = .ok a ∧ f a = .error e := by
  cases x with
  | error e' => simp [bind, Except.bind]
  | ok a => simp [bind, Except.bind]

theorem map_eq_error_iff {g : α → β} {x : Except ε α} {e : ε} : x.map g = .error e ↔ x = .error e := by
  cases x <;> simp [Except.map]

theorem mapError_eq_error_iff {ε' : Type} {g : ε → ε'} {x : Except ε α} {e' : ε'} :
    x.mapError g = .error e' ↔ ∃ e, x = .error e ∧ g e = e' := by
  cases x <;> simp [Except.mapError]

/-- Two answers are alike if both are failures, and the same one, or if what is answered is related. -/
inductive Alike {α' : Type} (R : α → α' → Prop) : Except ε α → Except ε α' → Prop
  | ok {a : α} {a' : α'} (h : R a a') : Alike R (.ok a) (.ok a')
  | error (e : ε) : Alike R (.error e) (.error e)

section Alike

variable {α' β' : Type} {R : α → α' → Prop} {S : β → β' → Prop} {x : Except ε α} {y : Except ε α'}

theorem alike_refl (x : Except ε α) : Alike (· = ·) x x := by
  cases x with
  | ok a => exact .ok rfl
  | error e => exact .error e

/-- What is asked after alike answers is answered alike. -/
theorem Alike.bind {f' : α' → Except ε β'} (h : Alike R x y)
    (hnext : ∀ a a', R a a' → Alike S (f a) (f' a')) : Alike S (x >>= f) (y >>= f') := by
  cases h with
  | ok h => exact hnext _ _ h
  | error e => exact .error e

theorem Alike.error_iff (h : Alike R x y) (e : ε) : x = .error e ↔ y = .error e := by
  cases h with
  | ok h => simp
  | error e' => simp

theorem Alike.of_ok {a : α} {a' : α'} (h : Alike R (.ok a : Except ε α) (.ok a')) : R a a' := by
  cases h with
  | ok h => exact h

end Alike

/-- A list is read if its first element and the others are. -/
theorem mapM_cons_ok {b : β} {bs : List β} (ha : f a = .ok b) (has : as.mapM f = .ok bs) :
    (a :: as).mapM f = .ok (b :: bs) := by
  rw [List.mapM_cons, ha, has]
  rfl

/-- A list is read element by element. -/
theorem mapM_eq_ok_iff {bs : List β} :
    as.mapM f = .ok bs ↔ List.Forall₂ (fun a b => f a = .ok b) as bs := by
  constructor
  · intro h
    induction as generalizing bs with
    | nil =>
      obtain rfl : [] = bs := Except.ok.inj h
      exact .nil
    | cons a rest ih =>
      rw [List.mapM_cons] at h
      obtain ⟨b, ha, h⟩ := exists_of_bind_ok h
      obtain ⟨others, hrest, h⟩ := exists_of_bind_ok h
      obtain rfl : b :: others = bs := Except.ok.inj h
      exact .cons ha (ih hrest)
  · intro h
    induction h with
    | nil => rfl
    | cons ha _ ih => exact mapM_cons_ok ha ih

/-- A list is not read if one of its elements is not, and the first of these says why. -/
theorem mapM_eq_error_iff {e : ε} :
    as.mapM f = .error e ↔ ∃ earlier a later, as = earlier ++ a :: later ∧
      (∀ x ∈ earlier, ∃ b, f x = .ok b) ∧ f a = .error e := by
  constructor
  · intro h
    induction as with
    | nil => cases h
    | cons a rest ih =>
      rw [List.mapM_cons] at h
      rcases bind_eq_error_iff.1 h with ha | ⟨b, ha, h⟩
      · exact ⟨[], a, rest, rfl, by simp, ha⟩
      · rcases bind_eq_error_iff.1 h with hrest | ⟨others, -, h⟩
        · obtain ⟨earlier, a', later, rfl, hearlier, hfails⟩ := ih hrest
          exact ⟨a :: earlier, a', later, rfl, List.forall_mem_cons.2 ⟨⟨b, ha⟩, hearlier⟩, hfails⟩
        · cases h
  · rintro ⟨earlier, a, later, rfl, hearlier, hfails⟩
    induction earlier with
    | nil => rw [List.nil_append, List.mapM_cons, hfails]; rfl
    | cons x rest ih =>
      obtain ⟨⟨b, hx⟩, hrest⟩ := List.forall_mem_cons.1 hearlier
      rw [List.cons_append, List.mapM_cons, hx, ih hrest]
      rfl

/-- Lists are read alike if their elements are. -/
theorem mapM_congr {α' : Type} {f' : α' → Except ε β} {as' : List α'}
    (h : List.Forall₂ (fun a a' => f a = f' a') as as') : as.mapM f = as'.mapM f' := by
  induction h with
  | nil => rfl
  | cons ha _ ih => rw [List.mapM_cons, List.mapM_cons, ha, ih]

/-- Lists that are read one by one are read together. -/
theorem mapM_flatMap {γ : Type} (g : α → List β) (h : β → Except ε γ) :
    (as.mapM fun a => (g a).mapM h).map List.flatten = (as.flatMap g).mapM h := by
  induction as with
  | nil => rfl
  | cons a rest ih =>
    rw [List.mapM_cons, List.flatMap_cons, List.mapM_append, ← ih]
    cases (g a).mapM h with
    | error e => rfl
    | ok first => cases (rest.mapM fun a => (g a).mapM h) <;> rfl

/-- A list is read if every element of it is. -/
theorem mapM_eq_map {g : α → β} (h : ∀ a ∈ as, f a = .ok (g a)) :
    as.mapM f = .ok (as.map g) := by
  induction as with
  | nil => rfl
  | cons a rest ih =>
    have hrest := ih fun b hb => h b (List.mem_cons_of_mem _ hb)
    exact mapM_cons_ok (h a List.mem_cons_self) hrest

/-- Every element of a list that is read is read. -/
theorem exists_of_mapM_ok {bs : List β} (h : as.mapM f = .ok bs) (ha : a ∈ as) :
    ∃ b ∈ bs, f a = .ok b := by
  have hread := mapM_eq_ok_iff.1 h
  clear h
  induction hread with
  | nil => cases ha
  | cons hfirst _ ih =>
    obtain rfl | ha := List.mem_cons.1 ha
    · exact ⟨_, List.mem_cons_self, hfirst⟩
    · obtain ⟨b, hb, hread⟩ := ih ha
      exact ⟨b, List.mem_cons_of_mem _ hb, hread⟩

/-- What is the same for an element and for what it is read as is the same for a whole list. -/
theorem map_eq_map_of_mapM_ok {γ : Type} {g : α → γ} {g' : β → γ} {bs : List β}
    (hsame : ∀ a b, f a = .ok b → g' b = g a) (h : as.mapM f = .ok bs) :
    bs.map g' = as.map g := by
  have hread := mapM_eq_ok_iff.1 h
  clear h
  induction hread with
  | nil => rfl
  | cons hfirst _ ih => rw [List.map_cons, List.map_cons, hsame _ _ hfirst, ih]

end Lakehouse
