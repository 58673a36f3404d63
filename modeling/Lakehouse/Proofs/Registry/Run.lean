import Lakehouse.Proofs.Answer
import Lakehouse.Proofs.Integration.Writes
import Lakehouse.Registry
import Mathlib.Data.List.Induction

/-!
# Runs of a registry

A registry is only ever added to, and a declaration that cannot be added leaves it as it was. After
any calls it therefore stores, under each name, what the first declaration of that name came to that
the backend can work with.

- `Registry.Call`, `Registry.after`, `Registry.run`: calls to a registry, one by one and together.
- `Registry.add_cases`: what comes of adding a declaration, and the registry that is left by it. A
  failure leaves it as it was (`eq_of_add_eq_error`).
- `Registry.Added`: adding a declaration changes what is stored under its name only. What is stored
  already stays (`get_after`, `get_run`).
- `Registry.firstBuilt?`: what the first declaration of a name comes to that the backend can work
  with.
- `Registry.Tracks`: the registry stores just that under each name. One call preserves it
  (`Tracks.after`), and so does a run (`tracks_run`).
- **`registries_keep_first`**: what a registry answers after any calls.
-/

namespace Lakehouse

/-! ## Calls -/

namespace Registry

/-- A call to a registry: an integration is added or looked up, or a model is resolved. -/
inductive Call where
  | add (c : IntegrationConfig)
  | get (name : String)
  | resolve (m : Model)

/-- The registry after a call. -/
def after (r : Registry) : Call → Registry
  | .add c => (r.add c).2
  | .get _ | .resolve _ => r

/-- The registry after some calls. -/
def run (r : Registry) (calls : List Call) : Registry :=
  calls.foldl after r

/-- What a call adds under a name, where nothing is stored under it. -/
def Call.built? (b : Backend) (name : String) : Call → Option Integration
  | .add c => if c.name = name then (Integration.onBackend b c).toOption else none
  | .get _ | .resolve _ => none

/-- The first integration of a name that the backend can work with. -/
def firstBuilt? (b : Backend) (name : String) (calls : List Call) : Option Integration :=
  calls.findSome? (Call.built? b name)

variable {b : Backend} {r r' : Registry} {c : IntegrationConfig} {i : Integration} {name : String}
  {calls : List Call}

theorem run_append (r : Registry) (calls : List Call) (call : Call) :
    r.run (calls ++ [call]) = (r.run calls).after call := by
  rw [run, List.foldl_append]
  rfl

theorem run_cons (r : Registry) (call : Call) (calls : List Call) :
    r.run (call :: calls) = (r.after call).run calls :=
  rfl

theorem get_eq_ok_iff : r.get name = .ok i ↔ r.integrations.get? name = some i := by
  unfold get
  cases r.integrations.get? name <;> simp

theorem mem_names_iff : name ∈ r.names ↔ ∃ i, r.get name = .ok i := by
  rw [names, ← NameMap.contains_iff, NameMap.contains, Option.isSome_iff_exists]
  exact exists_congr fun i => get_eq_ok_iff.symm

theorem get_of_not_mem (h : name ∉ r.names) : r.get name = .error (unknown name r.names) := by
  rw [get, NameMap.get?_eq_none_iff.2 h]

/-- A declaration is refused where its name is taken or the backend cannot work with it, and then the
registry is as it was; else what it comes to is stored under its name. -/
theorem add_cases (r : Registry) (c : IntegrationConfig) :
    (c.name ∈ r.names ∧ r.add c = (.error (taken c.name), r)) ∨
      c.name ∉ r.names ∧
        ((∃ f, Integration.onBackend r.backend c = .error f ∧ r.add c = (.error f, r)) ∨
          ∃ i, Integration.onBackend r.backend c = .ok i ∧
            r.add c = (.ok i, { r with integrations := r.integrations.insert c.name i })) := by
  by_cases hmem : c.name ∈ r.names
  · exact .inl ⟨hmem, if_pos (NameMap.contains_iff.2 hmem)⟩
  · refine .inr ⟨hmem, ?_⟩
    rw [add, if_neg fun hcontains => hmem (NameMap.contains_iff.1 hcontains)]
    cases hbuilt : Integration.onBackend r.backend c with
    | error f => exact .inl ⟨f, rfl, rfl⟩
    | ok i =>
      rw [← (Integration.builtFrom_of_onBackend hbuilt).name_eq]
      exact .inr ⟨i, rfl, rfl⟩

/-- A name that is stored is taken, whatever is declared under it. -/
theorem add_of_mem (h : c.name ∈ r.names) : r.add c = (.error (taken c.name), r) := by
  obtain ⟨-, hadd⟩ | ⟨hfree, -⟩ := r.add_cases c
  · exact hadd
  · exact absurd h hfree

/-- Under a name that is free, a declaration comes to what the backend makes of it. -/
theorem fst_add_of_not_mem (h : c.name ∉ r.names) :
    (r.add c).1 = Integration.onBackend r.backend c := by
  obtain ⟨hmem, -⟩ | ⟨-, ⟨f, hbuilt, hadd⟩ | ⟨i, hbuilt, hadd⟩⟩ := r.add_cases c
  · exact absurd hmem h
  · rw [hadd, hbuilt]
  · rw [hadd, hbuilt]

/-- A declaration that cannot be added leaves the registry as it was. -/
theorem eq_of_add_eq_error {f : Failure} (h : r.add c = (.error f, r')) : r' = r := by
  obtain ⟨-, hadd⟩ | ⟨-, ⟨g, -, hadd⟩ | ⟨i, -, hadd⟩⟩ := r.add_cases c <;> rw [hadd] at h
  · exact (Prod.mk.inj h).2.symm
  · exact (Prod.mk.inj h).2.symm
  · cases (Prod.mk.inj h).1

/-- What is added is the integration of the declaration, under its name, which was free. -/
theorem of_add_eq_ok (h : r.add c = (.ok i, r')) :
    c.name ∉ r.names ∧ Integration.onBackend r.backend c = .ok i ∧
      r' = { r with integrations := r.integrations.insert c.name i } := by
  obtain ⟨-, hadd⟩ | ⟨hfree, ⟨g, -, hadd⟩ | ⟨j, hbuilt, hadd⟩⟩ := r.add_cases c <;> rw [hadd] at h
  · cases (Prod.mk.inj h).1
  · cases (Prod.mk.inj h).1
  · obtain ⟨hanswer, rfl⟩ := Prod.mk.inj h
    obtain rfl := Except.ok.inj hanswer
    exact ⟨hfree, hbuilt, rfl⟩

theorem backend_of_add_eq_ok (h : r.add c = (.ok i, r')) : r'.backend = r.backend := by
  obtain ⟨-, -, rfl⟩ := of_add_eq_ok h
  rfl

/-- Adding a declaration has changed a registry by the name of the declaration only, which was free.
-/
structure Added (r r' : Registry) (c : IntegrationConfig) (i : Integration) : Prop where
  built : Integration.onBackend r.backend c = .ok i
  free : c.name ∉ r.names
  names : ∀ name, name ∈ r'.names ↔ name = c.name ∨ name ∈ r.names
  size : r'.size = r.size + 1
  get : ∀ name j, r'.get name = .ok j ↔ name = c.name ∧ j = i ∨ r.get name = .ok j

theorem added_of_add_eq_ok (h : r.add c = (.ok i, r')) : Added r r' c i := by
  obtain ⟨hfree, hbuilt, rfl⟩ := of_add_eq_ok h
  refine ⟨hbuilt, hfree, fun name => NameMap.mem_names_insert, NameMap.size_insert i hfree, ?_⟩
  intro name j
  rw [get_eq_ok_iff, get_eq_ok_iff]
  by_cases hname : name = c.name
  · subst hname
    rw [NameMap.get?_insert_self, NameMap.get?_eq_none_iff.2 hfree]
    simp [eq_comm]
  · rw [NameMap.get?_insert_of_ne _ _ hname]
    simp [hname]

/-- What is stored under a name stays there. -/
theorem get_after (h : r.get name = .ok i) (call : Call) : (r.after call).get name = .ok i := by
  cases call with
  | get n => exact h
  | resolve m => exact h
  | add c =>
    rw [after]
    rcases hadd : r.add c with ⟨result, r'⟩
    cases result with
    | error f => rwa [eq_of_add_eq_error hadd]
    | ok added => exact ((added_of_add_eq_ok hadd).get name i).2 (.inr h)

theorem get_run (h : r.get name = .ok i) (calls : List Call) : (r.run calls).get name = .ok i := by
  induction calls generalizing r with
  | nil => exact h
  | cons call rest ih => exact ih (get_after h call)

/-! ## Runs -/

/-- The registry stores the first integration of each name, and is otherwise as it began. -/
structure Tracks (fresh : Registry) (calls : List Call) (r : Registry) : Prop where
  backend : r.backend = fresh.backend
  native : r.native = fresh.native
  stored : ∀ name, r.integrations.get? name = firstBuilt? fresh.backend name calls

/-- One more call adds what it builds under a name where nothing is stored. -/
theorem firstBuilt?_append (b : Backend) (name : String) (calls : List Call) (call : Call) :
    firstBuilt? b name (calls ++ [call]) =
      (firstBuilt? b name calls).or (call.built? b name) := by
  rw [firstBuilt?, List.findSome?_append, List.findSome?_singleton]
  rfl

/-- A call that builds nothing new under any name, and leaves the registry as it was. -/
theorem Tracks.of_built_eq_none {fresh : Registry} {call : Call} (h : Tracks fresh calls r)
    (hbuilt : ∀ name, r.integrations.get? name = none → call.built? fresh.backend name = none) :
    Tracks fresh (calls ++ [call]) r := by
  refine ⟨h.backend, h.native, fun name => ?_⟩
  rw [firstBuilt?_append, ← h.stored]
  cases hstored : r.integrations.get? name with
  | none => rw [hbuilt name hstored, Option.or_none]
  | some i => rw [Option.some_or]

/-- One call preserves what a registry tracks. -/
theorem Tracks.after {fresh : Registry} (h : Tracks fresh calls r) (call : Call) :
    Tracks fresh (calls ++ [call]) (r.after call) := by
  cases call with
  | get name => exact h.of_built_eq_none fun n _ => rfl
  | resolve m => exact h.of_built_eq_none fun n _ => rfl
  | add c =>
    rw [Registry.after]
    obtain ⟨hmem, hadd⟩ | ⟨hfree, ⟨f, hfailed, hadd⟩ | ⟨i, hbuilt, hadd⟩⟩ := r.add_cases c <;>
      rw [hadd]
    · refine h.of_built_eq_none fun name hnone => ?_
      have hname : c.name ≠ name := by
        rintro rfl
        exact NameMap.get?_eq_none_iff.1 hnone hmem
      rw [Call.built?, if_neg hname]
    · refine h.of_built_eq_none fun name _ => ?_
      rw [Call.built?, ← h.backend, hfailed]
      exact ite_self none
    · rw [h.backend] at hbuilt
      refine ⟨h.backend, h.native, fun name => ?_⟩
      rw [firstBuilt?_append, ← h.stored, Call.built?]
      by_cases hname : c.name = name
      · subst hname
        rw [NameMap.get?_insert_self, NameMap.get?_eq_none_iff.2 hfree, Option.none_or, if_pos rfl,
          hbuilt]
        rfl
      · rw [NameMap.get?_insert_of_ne _ _ (Ne.symm hname), if_neg hname, Option.or_none]

/-- A run stores the first integration of each name. -/
theorem tracks_run {fresh : Registry} (hnew : new b = .ok fresh) (calls : List Call) :
    Tracks fresh calls (fresh.run calls) := by
  induction calls using List.reverseRecOn with
  | nil =>
    refine ⟨rfl, rfl, fun name => ?_⟩
    obtain ⟨native, -, rfl⟩ := exists_of_map_ok hnew
    rfl
  | append_singleton calls call ih =>
    rw [run_append]
    exact ih.after call

/-- Every backend has a registry without integrations. -/
theorem exists_new (b : Backend) :
    ∃ fresh, new b = .ok fresh ∧ fresh.names = [] ∧ fresh.backend = b := by
  cases b <;> exact ⟨_, rfl, rfl, rfl⟩

/-- The first integration of a name is that of a declaration before which no other of the name can
be worked with. -/
theorem firstBuilt?_eq_some_iff : firstBuilt? b name calls = some i ↔
    ∃ earlier c later, calls = earlier ++ .add c :: later ∧ c.name = name ∧
      Integration.onBackend b c = .ok i ∧
      ∀ d, .add d ∈ earlier → d.name = name → ∃ f, Integration.onBackend b d = .error f := by
  rw [firstBuilt?, List.findSome?_eq_some_iff]
  constructor
  · rintro ⟨earlier, call, later, hcalls, hbuilt, hnone⟩
    cases call with
    | get n => cases hbuilt
    | resolve m => cases hbuilt
    | add c =>
      rw [Call.built?] at hbuilt
      split at hbuilt
      · next hname =>
        refine ⟨earlier, c, later, hcalls, hname, toOption_eq_some_iff.1 hbuilt, ?_⟩
        intro d hd hdname
        have hnot := hnone _ hd
        rw [Call.built?, if_pos hdname] at hnot
        cases hfailed : Integration.onBackend b d with
        | error f => exact ⟨f, rfl⟩
        | ok j =>
          rw [hfailed] at hnot
          cases hnot
      · cases hbuilt
  · rintro ⟨earlier, c, later, hcalls, hname, hbuilt, hfailed⟩
    refine ⟨earlier, .add c, later, hcalls, ?_, fun call hcall => ?_⟩
    · rw [Call.built?, if_pos hname, hbuilt]
      rfl
    · cases call with
      | get n => rfl
      | resolve m => rfl
      | add d =>
        rw [Call.built?]
        split
        · next hdname =>
          obtain ⟨f, hf⟩ := hfailed d hcall hdname
          rw [hf]
          rfl
        · rfl

/-- Something is stored under a name exactly if one declaration of the name can be worked with. -/
theorem exists_firstBuilt?_iff : (∃ i, firstBuilt? b name calls = some i) ↔
    ∃ c, .add c ∈ calls ∧ c.name = name ∧ ∃ i, Integration.onBackend b c = .ok i := by
  rw [← Option.isSome_iff_exists, firstBuilt?, List.findSome?_isSome_iff]
  constructor
  · rintro ⟨call, hcall, hbuilt⟩
    cases call with
    | get n => cases hbuilt
    | resolve m => cases hbuilt
    | add c =>
      rw [Call.built?] at hbuilt
      split at hbuilt
      · next hname =>
        obtain ⟨i, hi⟩ := Option.isSome_iff_exists.1 hbuilt
        exact ⟨c, hcall, hname, i, toOption_eq_some_iff.1 hi⟩
      · cases hbuilt
  · rintro ⟨c, hcall, hname, i, hbuilt⟩
    refine ⟨.add c, hcall, ?_⟩
    rw [Call.built?, if_pos hname, hbuilt]
    rfl

/-! ## What a registry answers -/

/-- What a registry that began as `fresh` answers after some calls.

- `found`, `first`: under a name there is an integration exactly if one declaration of the name
  could be worked with, and it is the one of the first such declaration.
- `config`: it has the declaration that it was built from, but for the right to write where the
  catalog type is only read.
- `taken`, `failed`, `added`: a name that is stored is taken, a declaration that cannot be added
  changes nothing, and one that can be adds its name.
- `ascending`, `counted`, `listed`: the names are those of the integrations, each once and in order.
- `unknown`: any other name is not found, and the names that are stored are listed.
- `native`: a model that names no integration is resolved as at the beginning. -/
structure KeepsFirst (b : Backend) (fresh : Registry) (calls : List Call) (r : Registry) :
    Prop where
  found : ∀ name, (∃ i, r.get name = .ok i) ↔
    ∃ c, .add c ∈ calls ∧ c.name = name ∧ ∃ i, Integration.onBackend b c = .ok i
  first : ∀ name i, r.get name = .ok i ↔
    ∃ earlier c later, calls = earlier ++ .add c :: later ∧ c.name = name ∧
      Integration.onBackend b c = .ok i ∧
      ∀ d, .add d ∈ earlier → d.name = name → ∃ f, Integration.onBackend b d = .error f
  config : ∀ c i, Integration.onBackend b c = .ok i →
    i.config = if c.catalogType.behaviour = .externalReadOnly then { c with allowsWrites := false }
      else c
  taken : ∀ c, c.name ∈ r.names → ∃ f, (r.add c).1 = .error f ∧ f.kind = .alreadyExists
  failed : ∀ c f, (r.add c).1 = .error f →
    (r.after (.add c)).names = r.names ∧ (r.after (.add c)).size = r.size ∧
      ∀ name, (r.after (.add c)).get name = r.get name
  added : ∀ c i, (r.add c).1 = .ok i → Added r (r.after (.add c)) c i
  ascending : r.names.Pairwise (· < ·)
  counted : r.names.length = r.size
  listed : ∀ name, name ∈ r.names ↔ ∃ i, r.get name = .ok i
  unknown : ∀ name, name ∉ r.names → ∃ f, r.get name = .error f ∧ f.kind = .notFound ∧
    f.message = "Catalog integration '" ++ name ++ "' not found. Registered: " ++
      if r.names = [] then "<none>" else ", ".intercalate r.names
  native : ∀ m, m.catalogName = none → r.resolve m = fresh.resolve m

end Registry

/-- Every backend has an empty registry, and whatever it is called with, it stores under each name
the first declaration of that name that the backend can work with. -/
theorem registries_keep_first (b : Backend) :
    ∃ fresh, Registry.new b = .ok fresh ∧ fresh.names = [] ∧
      ∀ calls, Registry.KeepsFirst b fresh calls (fresh.run calls) := by
  obtain ⟨fresh, hnew, hempty, hbackend⟩ := Registry.exists_new b
  refine ⟨fresh, hnew, hempty, fun calls => ?_⟩
  have htracks := Registry.tracks_run hnew calls
  rw [← hbackend]
  have hget : ∀ name i, (fresh.run calls).get name = .ok i ↔
      Registry.firstBuilt? fresh.backend name calls = some i := by
    intro name i
    rw [Registry.get_eq_ok_iff, htracks.stored]
  refine
    { found := fun name => ?_
      first := fun name i => (hget name i).trans Registry.firstBuilt?_eq_some_iff
      config := fun c i h => (Integration.builtFrom_of_onBackend h).config_eq
      taken := fun c h => ⟨_, congrArg Prod.fst (Registry.add_of_mem h), rfl⟩
      failed := fun c f h => ?_
      added := fun c i h => Registry.added_of_add_eq_ok (Prod.ext h rfl)
      ascending := NameMap.names_ascending _
      counted := NameMap.length_names _
      listed := fun name => Registry.mem_names_iff
      unknown := fun name h => ⟨_, Registry.get_of_not_mem h, rfl, ?_⟩
      native := fun m hm => ?_ }
  · exact (exists_congr fun i => hget name i).trans Registry.exists_firstBuilt?_iff
  · have hsame : (fresh.run calls).after (.add c) = fresh.run calls :=
      Registry.eq_of_add_eq_error (Prod.ext h rfl)
    rw [hsame]
    exact ⟨rfl, rfl, fun name => rfl⟩
  · simp only [Registry.unknown, Registry.listedNames, Text.joinWith_eq_intercalate,
      List.isEmpty_iff]
    rfl
  · simp only [Registry.resolve, hm, htracks.native]

end Lakehouse
