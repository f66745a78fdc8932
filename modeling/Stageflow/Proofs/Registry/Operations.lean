import Stageflow.Proofs.Options.Merge
import Stageflow.Proofs.Text.ByteOrder
import Stageflow.Registry

namespace Stageflow.Registry

variable {σ : Type}

/-- An operation that changes a registry. -/
inductive Operation (σ : Type) where
  | register (type : String) (handler : Handler σ)
  | unregister (type : String)

/-- The stage type that an operation is about. -/
def Operation.type : Operation σ → String
  | .register type _ => type
  | .unregister type => type

def perform (registry : Registry σ) : Operation σ → Registry σ
  | .register type handler => registry.register type handler
  | .unregister type => (registry.remove type).2

/-- What operations on an empty registry lead to. -/
def ofOperations (operations : List (Operation σ)) : Registry σ :=
  operations.foldl perform empty

/-- Operations leave a handler under a stage type: it was registered there, and no later operation
    is about the type. -/
def Leaves (operations : List (Operation σ)) (type : String) (handler : Handler σ) : Prop :=
  ∃ before after, operations = before ++ .register type handler :: after ∧
    ∀ operation ∈ after, operation.type ≠ type

/-- All views of a registry show the same handlers. -/
structure Consistent (registry : Registry σ) : Prop where
  /-- The stage types are listed in the order of their bytes, and none of them twice. -/
  increasing : registry.types.Pairwise fun a b => Text.encode a.toList < Text.encode b.toList
  mem_types : ∀ type, type ∈ registry.types ↔ ∃ handler, registry.get? type = some handler
  names_describe : registry.describe.map (·.1) = registry.types
  describes : ∀ type description, (type, description) ∈ registry.describe ↔
    ∃ handler, registry.get? type = some handler ∧ handler.description = description
  size_eq : registry.size = registry.types.length
  has_iff : ∀ type, registry.has type = true ↔ ∃ handler, registry.get? type = some handler
  resolve_iff : ∀ type index handler,
    registry.resolve type index = .ok handler ↔ registry.get? type = some handler
  failure_eq : ∀ type index failure, registry.resolve type index = .error failure →
    failure = .unknownStage type index (", ".intercalate registry.types)

/-! What one operation does, and from it what a sequence of operations does. -/

theorem get?_perform (registry : Registry σ) (operation : Operation σ) (type : String)
    (handler : Handler σ) :
    (registry.perform operation).get? type = some handler ↔
      operation = .register type handler ∨
        operation.type ≠ type ∧ registry.get? type = some handler := by
  cases operation with
  | register other new =>
    rw [perform, get?_register]
    by_cases h : type = other
    · simp [h, Operation.type]
    · simp [h, Operation.type, Ne.symm h]
  | unregister other =>
    rw [perform, remove, get?_unregister]
    by_cases h : type = other
    · simp [h, Operation.type]
    · simp [h, Operation.type, Ne.symm h]

theorem leaves_cons_iff {operation : Operation σ} {operations : List (Operation σ)}
    {type : String} {handler : Handler σ} :
    Leaves (operation :: operations) type handler ↔
      Leaves operations type handler ∨
        operation = .register type handler ∧ ∀ later ∈ operations, later.type ≠ type := by
  constructor
  · rintro ⟨before, after, hoperations, hafter⟩
    cases before with
    | nil =>
      obtain ⟨rfl, rfl⟩ := List.cons.inj hoperations
      exact .inr ⟨rfl, hafter⟩
    | cons first before =>
      obtain ⟨-, rfl⟩ := List.cons.inj hoperations
      exact .inl ⟨before, after, rfl, hafter⟩
  · rintro (⟨before, after, rfl, hafter⟩ | ⟨rfl, hlater⟩)
    · exact ⟨operation :: before, after, rfl, hafter⟩
    · exact ⟨[], operations, rfl, hlater⟩

/-- Operations leave what they register last, and under stage types that none of them is about what
    was there before. -/
theorem get?_foldl_perform (registry : Registry σ) (operations : List (Operation σ))
    (type : String) (handler : Handler σ) :
    (operations.foldl perform registry).get? type = some handler ↔
      Leaves operations type handler ∨
        (∀ operation ∈ operations, operation.type ≠ type) ∧ registry.get? type = some handler := by
  induction operations generalizing registry with
  | nil => simp [Leaves]
  | cons operation operations ih =>
    rw [List.foldl_cons, ih, get?_perform, leaves_cons_iff, List.forall_mem_cons]
    constructor
    · rintro (hleaves | ⟨hlater, hoperation | ⟨hother, hget⟩⟩)
      · exact .inl (.inl hleaves)
      · exact .inl (.inr ⟨hoperation, hlater⟩)
      · exact .inr ⟨⟨hother, hlater⟩, hget⟩
    · rintro ((hleaves | ⟨hoperation, hlater⟩) | ⟨⟨hother, hlater⟩, hget⟩)
      · exact .inl hleaves
      · exact .inr ⟨hlater, .inl hoperation⟩
      · exact .inr ⟨hlater, .inr ⟨hother, hget⟩⟩

theorem get?_ofOperations (operations : List (Operation σ)) (type : String)
    (handler : Handler σ) :
    (ofOperations operations).get? type = some handler ↔ Leaves operations type handler := by
  have hempty : (empty : Registry σ).get? type = none := Table.get?_empty type
  simp [ofOperations, get?_foldl_perform, hempty]

/-! The views of one registry. -/

private theorem mem_describe_iff {registry : Registry σ} {type description : String} :
    (type, description) ∈ registry.describe ↔
      ∃ handler, registry.get? type = some handler ∧ handler.description = description := by
  unfold describe get? Table.get?
  simp only [List.mem_map, Prod.mk.injEq]
  constructor
  · rintro ⟨⟨name, handler⟩, hentry, rfl, hdescription⟩
    exact ⟨handler, lookup_of_mem registry.handlers.ordered.nodup_names hentry, hdescription⟩
  · rintro ⟨handler, hget, hdescription⟩
    exact ⟨(type, handler), mem_of_lookup hget, rfl, hdescription⟩

theorem consistent (registry : Registry σ) : registry.Consistent where
  increasing := registry.pairwise_types.imp Text.encode_lt_encode_iff.2
  mem_types _ := mem_types_iff.trans has_iff_get?
  names_describe := by
    unfold describe types Table.names
    rw [List.map_map]
    rfl
  describes _ _ := mem_describe_iff
  size_eq := by
    unfold size Table.size types Table.names
    rw [List.length_map]
  has_iff _ := has_iff_get?
  resolve_iff type index handler := by
    unfold resolve
    cases hget : registry.get? type <;> simp
  failure_eq type index failure hresolve := by
    unfold resolve at hresolve
    cases hget : registry.get? type with
    | some handler =>
      rw [hget] at hresolve
      cases hresolve
    | none =>
      rw [hget] at hresolve
      exact (Except.error.inj hresolve).symm

/-- After any operations a registry has, under each stage type, the handler that was registered last
    unless the type was unregistered since. Unregistering a type says whether it has a handler, and
    all views of the registry agree. -/
theorem ofOperations_exact (operations : List (Operation σ)) :
    (∀ type handler, (ofOperations operations).get? type = some handler ↔
      Leaves operations type handler) ∧
    (∀ type, ((ofOperations operations).remove type).1 = true ↔
      ∃ handler, Leaves operations type handler) ∧
    (ofOperations operations).Consistent := by
  refine ⟨get?_ofOperations operations, ?_, consistent _⟩
  intro type
  simp only [← get?_ofOperations]
  exact Option.isSome_iff_exists

end Stageflow.Registry
