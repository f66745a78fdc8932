import Stageflow.Json.Record
import Stageflow.Proofs.Json.Printing

namespace Stageflow

/-- A list of things that are written one by one is read back one by one. -/
theorem mapM_map_of_forall {α β γ : Type} {write : α → β} {read : β → Option γ} (f : α → γ)
    {xs : List α} (h : ∀ x ∈ xs, read (write x) = some (f x)) :
    (xs.map write).mapM read = some (xs.map f) := by
  induction xs with
  | nil => rfl
  | cons x xs ih =>
    obtain ⟨hx, hxs⟩ := List.forall_mem_cons.1 h
    rw [List.map_cons, List.mapM_cons, hx, ih hxs]
    rfl

namespace Json.Document

/-! Members of records. -/

theorem natural?_natCast {n : Nat} (h : n < Nat.pow 2 64) :
    natural? (.number (.integer n)) = some n :=
  if_pos h

theorem optional?_none {α : Type} (read : Document → Option α) :
    optional? read none = some none :=
  rfl

theorem optional?_of_eq_some {α : Type} {read : Document → Option α} {doc : Document} {a : α}
    (hread : read doc = some a) (hnull : doc ≠ .null) : optional? read (some doc) = some (some a) := by
  cases doc with
  | null => exact absurd rfl hnull
  | _ => exact congrArg (Option.map some) hread

theorem exact_natCast {n : Nat} (h : n < Nat.pow 2 64) : Exact (.number (.integer n)) :=
  .integer ⟨by omega, Int.ofNat_lt.2 h⟩

/-! The parts of a document nest no deeper than all of them together. -/

theorem depth_le_listDepth {item : Document} {items : List Document} (h : item ∈ items) :
    item.depth ≤ listDepth items := by
  induction items with
  | nil => cases h
  | cons first items ih =>
    rw [listDepth]
    rcases List.mem_cons.1 h with rfl | h
    · exact Nat.le_max_left _ _
    · exact Nat.le_trans (ih h) (Nat.le_max_right _ _)

theorem depth_le_membersDepth {member : String × Document}
    {members : List (String × Document)} (h : member ∈ members) :
    member.2.depth ≤ membersDepth members := by
  induction members with
  | nil => cases h
  | cons first members ih =>
    rw [membersDepth]
    rcases List.mem_cons.1 h with rfl | h
    · exact Nat.le_max_left _ _
    · exact Nat.le_trans (ih h) (Nat.le_max_right _ _)

end Json.Document

end Stageflow
