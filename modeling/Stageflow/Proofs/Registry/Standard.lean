import Mathlib.Data.List.Nodup
import Stageflow.Proofs.Options.Merge
import Stageflow.Registry.Standard

namespace Stageflow

open Host (Machine)

/-! Entries whose names are in order are determined by what lookups find in them. -/

/-- Lookups do not depend on the order of entries. -/
theorem lookup_perm {α : Type} {entries others : List (String × α)} (hperm : entries.Perm others)
    (hnodup : (others.map (·.1)).Nodup) (name : String) :
    lookup name entries = lookup name others := by
  have hnodup' : (entries.map (·.1)).Nodup := (hperm.map (·.1)).nodup_iff.2 hnodup
  apply Option.ext
  intro value
  rw [lookup_eq_some_iff_mem hnodup', lookup_eq_some_iff_mem hnodup, hperm.mem_iff]

theorem Table.ext_get? {α : Type} {table other : Table α}
    (h : ∀ name, table.get? name = other.get? name) : table = other := by
  obtain ⟨entries, hordered⟩ := table
  obtain ⟨others, hordered'⟩ := other
  have hmem : ∀ entry, entry ∈ entries ↔ entry ∈ others := by
    rintro ⟨name, value⟩
    rw [← lookup_eq_some_iff_mem hordered.nodup_names,
      ← lookup_eq_some_iff_mem hordered'.nodup_names]
    exact iff_of_eq (congrArg (· = some value) (h name))
  have hperm : entries.Perm others :=
    (List.perm_ext_iff_of_nodup (List.Nodup.of_map _ hordered.nodup_names)
      (List.Nodup.of_map _ hordered'.nodup_names)).2 hmem
  have hentries : entries = others := by
    refine hperm.eq_of_pairwise ?_ hordered hordered'
    intro a b _ _ hlt hgt
    exact absurd (String.lt_trans hlt hgt) (String.lt_irrefl _)
  subst hentries
  rfl

/-- Where the program of a declaration is started from, if it is a path or the name of an installed
    program. -/
inductive CommandSpec.StartsFrom (findProgram : String → Option String) (spec : CommandSpec) :
    String → Prop where
  | path (hslash : '/' ∈ spec.program.toList) : StartsFrom findProgram spec spec.program
  | installed {path : String} (hslash : '/' ∉ spec.program.toList)
      (hfind : findProgram spec.program = some path) : StartsFrom findProgram spec path

theorem CommandSpec.path?_eq_some_iff {findProgram : String → Option String} {spec : CommandSpec}
    {path : String} : spec.path? findProgram = some path ↔ spec.StartsFrom findProgram path := by
  simp only [path?, List.contains_iff_mem]
  constructor
  · intro h
    split at h
    next hslash => exact Option.some.inj h ▸ .path hslash
    next hslash => exact .installed hslash h
  · rintro (hslash | ⟨hslash, hfind⟩)
    · rw [if_pos hslash]
    · rw [if_neg hslash, hfind]

/-- The stage types that need no declaration. -/
inductive Registry.Builtin (shell : String) : String → Handler Machine → Prop where
  | echo : Builtin shell "echo" .echo
  | json : Builtin shell "json" .json
  | read : Builtin shell "read" .read
  | shell : Builtin shell "shell" (.shell shell)

/-- What settings make of a stage type: a program that is declared for it, or what it is without a
    declaration if none can be started. -/
inductive Settings.Provides (findProgram : String → Option String) (settings : Settings)
    (type : String) : Handler Machine → Prop where
  | declared {spec : CommandSpec} {path : String} (hspec : settings.handlers.get? type = some spec)
      (hpath : spec.StartsFrom findProgram path) :
      Provides findProgram settings type (spec.handler path)
  | builtin {handler : Handler Machine} (hbuiltin : Registry.Builtin settings.shell type handler)
      (hnone : ∀ spec path, settings.handlers.get? type = some spec →
        ¬ spec.StartsFrom findProgram path) : Provides findProgram settings type handler

namespace Registry

variable {σ : Type}

theorem get?_foldl_unregister (registry : Registry σ) (disabled : List String) (type : String) :
    (disabled.foldl unregister registry).get? type =
      if type ∈ disabled then none else registry.get? type := by
  induction disabled generalizing registry with
  | nil => rw [List.foldl_nil, if_neg List.not_mem_nil]
  | cons first disabled ih =>
    rw [List.foldl_cons, ih, get?_unregister]
    by_cases hfirst : type = first
    · rw [if_pos hfirst, ite_self, if_pos (hfirst ▸ List.mem_cons_self)]
    · simp only [List.mem_cons, hfirst, false_or, if_false]

theorem get?_builtin_eq_some_iff {shell type : String} {handler : Handler Machine} :
    (builtin shell).get? type = some handler ↔ Builtin shell type handler := by
  simp only [builtin, get?_register]
  constructor
  · intro h
    split at h
    next heq => exact heq ▸ Option.some.inj h ▸ .shell
    split at h
    next heq => exact heq ▸ Option.some.inj h ▸ .read
    split at h
    next heq => exact heq ▸ Option.some.inj h ▸ .json
    split at h
    next heq => exact heq ▸ Option.some.inj h ▸ .echo
    cases h
  · rintro (_ | _ | _ | _) <;> simp

/-- The handler of a declaration if its program can be started. -/
private def started? (findProgram : String → Option String) (spec : CommandSpec) :
    Option (Handler Machine) :=
  (spec.path? findProgram).map spec.handler

private theorem started?_eq_some_iff {findProgram : String → Option String} {spec : CommandSpec}
    {handler : Handler Machine} :
    started? findProgram spec = some handler ↔
      ∃ path, spec.StartsFrom findProgram path ∧ spec.handler path = handler := by
  rw [started?, Option.map_eq_some_iff]
  simp only [CommandSpec.path?_eq_some_iff]

private theorem started?_eq_none_iff {findProgram : String → Option String} {spec : CommandSpec} :
    started? findProgram spec = none ↔ ∀ path, ¬ spec.StartsFrom findProgram path := by
  rw [started?, Option.map_eq_none_iff, Option.eq_none_iff_forall_ne_some]
  simp only [ne_eq, CommandSpec.path?_eq_some_iff]

variable (findProgram : String → Option String)

private theorem get?_declare (registry : Registry Machine) (declaration : String × CommandSpec)
    (type : String) :
    (declare findProgram registry declaration).get? type =
      if type = declaration.1 then (started? findProgram declaration.2).or (registry.get? type)
      else registry.get? type := by
  rw [declare, CommandSpec.toHandler, started?]
  cases declaration.2.path? findProgram with
  | some path => exact get?_register registry declaration.1 type _
  | none => exact (ite_self _).symm

/-- Declarations are looked up one by one, and what was registered before remains under all other
    stage types. -/
private theorem get?_foldl_declare (registry : Registry Machine)
    {declarations : List (String × CommandSpec)} (hnodup : (declarations.map (·.1)).Nodup)
    (type : String) :
    (declarations.foldl (declare findProgram) registry).get? type =
      ((lookup type declarations).bind (started? findProgram)).or (registry.get? type) := by
  induction declarations generalizing registry with
  | nil => rfl
  | cons first rest ih =>
    rw [List.map_cons, List.nodup_cons] at hnodup
    rw [List.foldl_cons, ih _ hnodup.2, get?_declare, lookup]
    by_cases hfirst : type = first.1
    · -- No later declaration has the same stage type, so that none replaces this one.
      have hmissing : lookup type rest = none := by
        rw [← Option.not_isSome_iff_eq_none, lookup_isSome_iff, hfirst]
        exact hnodup.1
      rw [hmissing, if_pos hfirst, if_pos hfirst.symm]
      rfl
    · rw [if_neg hfirst, if_neg (Ne.symm hfirst)]

/-- A declaration that can be started comes first, whatever is registered without it. -/
private theorem provides_iff {settings : Settings} {type : String} {handler : Handler Machine} :
    settings.Provides findProgram type handler ↔
      ((settings.handlers.get? type).bind (started? findProgram)).or
        ((builtin settings.shell).get? type) = some handler := by
  rw [Option.or_eq_some_iff, Option.bind_eq_some_iff, Option.bind_eq_none_iff,
    get?_builtin_eq_some_iff]
  simp only [started?_eq_some_iff, started?_eq_none_iff]
  constructor
  · rintro (⟨hspec, hpath⟩ | ⟨hbuiltin, hnone⟩)
    · exact .inl ⟨_, hspec, _, hpath, rfl⟩
    · exact .inr ⟨fun spec hspec path => hnone spec path hspec, hbuiltin⟩
  · rintro (⟨spec, hspec, path, hpath, rfl⟩ | ⟨hnone, hbuiltin⟩)
    · exact .declared hspec hpath
    · exact .builtin hbuiltin fun spec path hspec => hnone spec hspec path

/-- What settings register, in whatever order their declarations are gone through. -/
theorem get?_ofDeclarations_eq_some_iff {settings : Settings}
    {declarations : List (String × CommandSpec)}
    (hperm : declarations.Perm settings.handlers.entries) {type : String}
    {handler : Handler Machine} :
    (ofDeclarations findProgram settings.shell declarations settings.disabled).get? type =
        some handler ↔
      type ∉ settings.disabled ∧ settings.Provides findProgram type handler := by
  have hnodup := settings.handlers.ordered.nodup_names
  rw [ofDeclarations, get?_foldl_unregister,
    get?_foldl_declare _ _ ((hperm.map (·.1)).nodup_iff.2 hnodup), lookup_perm hperm hnodup,
    provides_iff]
  by_cases hdisabled : type ∈ settings.disabled
  · simp [hdisabled]
  · simp [hdisabled, Table.get?]

/-! Which stage types settings provide. -/

private theorem exists_startsFrom_iff {spec : CommandSpec} :
    (∃ path, spec.StartsFrom findProgram path) ↔
      '/' ∈ spec.program.toList ∨ (findProgram spec.program).isSome = true := by
  constructor
  · rintro ⟨path, hslash | ⟨-, hfind⟩⟩
    · exact .inl hslash
    · exact .inr (Option.isSome_of_eq_some hfind)
  · intro h
    by_cases hslash : '/' ∈ spec.program.toList
    · exact ⟨_, .path hslash⟩
    · obtain ⟨path, hfind⟩ := Option.isSome_iff_exists.1 (h.resolve_left hslash)
      exact ⟨path, .installed hslash hfind⟩

private theorem exists_builtin_iff {shell type : String} :
    (∃ handler, Builtin shell type handler) ↔ type ∈ ["echo", "json", "read", "shell"] := by
  simp only [List.mem_cons, List.not_mem_nil, or_false]
  constructor
  · rintro ⟨handler, _ | _ | _ | _⟩ <;> simp
  · rintro (rfl | rfl | rfl | rfl)
    · exact ⟨_, .echo⟩
    · exact ⟨_, .json⟩
    · exact ⟨_, .read⟩
    · exact ⟨_, .shell⟩

private theorem exists_provides_iff {settings : Settings} {type : String} :
    (∃ handler, settings.Provides findProgram type handler) ↔
      type ∈ ["echo", "json", "read", "shell"] ∨
        ∃ spec, settings.handlers.get? type = some spec ∧
          ('/' ∈ spec.program.toList ∨ (findProgram spec.program).isSome = true) := by
  simp only [← @exists_builtin_iff settings.shell, ← exists_startsFrom_iff]
  constructor
  · rintro ⟨handler, ⟨hspec, hpath⟩ | ⟨hbuiltin, -⟩⟩
    · exact .inr ⟨_, hspec, _, hpath⟩
    · exact .inl ⟨handler, hbuiltin⟩
  · intro h
    by_cases hstarts : ∃ spec, settings.handlers.get? type = some spec ∧
        ∃ path, spec.StartsFrom findProgram path
    · obtain ⟨spec, hspec, path, hpath⟩ := hstarts
      exact ⟨_, .declared hspec hpath⟩
    · obtain ⟨handler, hbuiltin⟩ := h.resolve_right hstarts
      exact ⟨handler, .builtin hbuiltin fun spec path hspec hpath =>
        hstarts ⟨spec, hspec, path, hpath⟩⟩

/-- The registry of settings does not depend on the order in which the declarations are gone
    through. It has a handler for a stage type exactly if the type is not disabled and is built in
    or declared with a program that can be started, and the declaration wins then. -/
theorem ofDeclarations_exact (settings : Settings) (declarations : List (String × CommandSpec))
    (hperm : declarations.Perm settings.handlers.entries) :
    ofDeclarations findProgram settings.shell declarations settings.disabled =
        ofSettings findProgram settings ∧
      (∀ type, (ofSettings findProgram settings).has type = true ↔
        type ∉ settings.disabled ∧
          (type ∈ ["echo", "json", "read", "shell"] ∨
            ∃ spec, settings.handlers.get? type = some spec ∧
              ('/' ∈ spec.program.toList ∨ (findProgram spec.program).isSome = true))) ∧
      ∀ type handler, (ofSettings findProgram settings).get? type = some handler ↔
        type ∉ settings.disabled ∧ settings.Provides findProgram type handler := by
  have hget : ∀ type handler, (ofSettings findProgram settings).get? type = some handler ↔
      type ∉ settings.disabled ∧ settings.Provides findProgram type handler :=
    fun _ _ => get?_ofDeclarations_eq_some_iff findProgram (.refl _)
  refine ⟨?_, ?_, hget⟩
  · refine congrArg Registry.mk (Table.ext_get? fun type => Option.ext fun handler => ?_)
    exact (get?_ofDeclarations_eq_some_iff findProgram hperm).trans (hget type handler).symm
  · intro type
    rw [← exists_provides_iff, ← exists_and_left]
    exact Option.isSome_iff_exists.trans (exists_congr (hget type))

/-- Declarations for three stage types, one of them with a program that is not installed. -/
private def shadowing : Settings where
  handlers := .ofList [("greet", { program := "./greet" }), ("json", { program := "gone" }),
    ("read", { program := "cat" })]
  disabled := ["shell", "shell", "other"]

private def installed (name : String) : Option String :=
  if name = "cat" then some "/bin/cat" else none

/-- A declaration takes the place of a built-in handler only if its program is installed. -/
theorem ofDeclarations_exact_shadowing :
    shadowing.handlers.entries.reverse.Perm shadowing.handlers.entries ∧
      ofDeclarations installed shadowing.shell shadowing.handlers.entries.reverse
        shadowing.disabled = ofSettings installed shadowing ∧
      (ofSettings installed shadowing).has "greet" = true ∧
      (ofSettings installed shadowing).has "shell" = false ∧
      (ofSettings installed shadowing).get? "json" = some .json ∧
      (ofSettings installed shadowing).get? "read" =
        some (CommandSpec.handler { program := "cat" } "/bin/cat") := by
  have hperm := List.reverse_perm shadowing.handlers.entries
  obtain ⟨horder, hhas, hget⟩ := ofDeclarations_exact installed shadowing _ hperm
  refine ⟨hperm, horder, ?_, ?_, ?_, ?_⟩
  · exact (hhas "greet").2 ⟨by decide, .inr ⟨_, rfl, .inl (by decide)⟩⟩
  · rw [Bool.eq_false_iff]
    intro hshell
    exact absurd ((hhas "shell").1 hshell).1 (by decide)
  · refine (hget "json" _).2 ⟨by decide, .builtin .json ?_⟩
    intro spec path hspec
    obtain rfl := Option.some.inj hspec
    rintro (hslash | ⟨-, hfind⟩)
    · revert hslash
      decide
    · cases hfind
  · exact (hget "read" _).2 ⟨by decide, .declared rfl (.installed (by decide) rfl)⟩

end Registry

end Stageflow
