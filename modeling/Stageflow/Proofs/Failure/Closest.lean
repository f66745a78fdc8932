import Stageflow.Failure.Advice
import Stageflow.Proofs.Text.ByteOrder
import Stageflow.Registry

namespace Stageflow

variable {σ : Type}

/-- Two texts begin with the same two characters. -/
def ShareTwo (a b : String) : Prop :=
  ∃ first second as bs, a.toList = first :: second :: as ∧ b.toList = first :: second :: bs

/-- The longest text with which two texts begin. -/
structure LongestShared (start : List Char) (a b : String) : Prop where
  begins_left : start <+: a.toList
  begins_right : start <+: b.toList
  longest : ∀ other, other <+: a.toList → other <+: b.toList → other.length ≤ start.length

/-- A registered stage type that is meant by a name: none shares a longer start with it, and of those
    that share as much this one comes last in the order of bytes. -/
structure Registry.Nearest (registry : Registry σ) (name type : String) : Prop where
  registered : registry.has type = true
  shareTwo : ShareTwo type name
  longest : ∀ other, registry.has other = true → ∀ start shared,
    LongestShared start type name → LongestShared shared other name → shared.length ≤ start.length
  last : ∀ other, registry.has other = true → ∀ start shared,
    LongestShared start type name → LongestShared shared other name →
      shared.length = start.length →
        other = type ∨ Text.encode other.toList < Text.encode type.toList

/-! How much two texts share. -/

theorem exists_shared (as bs : List Char) :
    ∃ start, start.length = sharedStart as bs ∧ start <+: as ∧ start <+: bs := by
  induction as generalizing bs with
  | nil => exact ⟨[], by simp [sharedStart]⟩
  | cons a as ih =>
    cases bs with
    | nil => exact ⟨[], by simp [sharedStart]⟩
    | cons b bs =>
      rw [sharedStart]
      split
      next h =>
        obtain ⟨start, hlength, has, hbs⟩ := ih bs
        refine ⟨a :: start, by simp [hlength], ?_, ?_⟩
        · exact List.cons_prefix_cons.2 ⟨rfl, has⟩
        · exact List.cons_prefix_cons.2 ⟨h, hbs⟩
      next => exact ⟨[], by simp⟩

theorem length_le_sharedStart {start as bs : List Char} (has : start <+: as) (hbs : start <+: bs) :
    start.length ≤ sharedStart as bs := by
  induction start generalizing as bs with
  | nil => simp
  | cons c start ih =>
    obtain ⟨as, rfl, hleft⟩ := List.cons_prefix_iff.1 has
    obtain ⟨bs, rfl, hright⟩ := List.cons_prefix_iff.1 hbs
    have hrest := ih hleft hright
    simp only [sharedStart, if_true, List.length_cons]
    omega

theorem LongestShared.length_eq {start : List Char} {a b : String} (h : LongestShared start a b) :
    start.length = sharedStart a.toList b.toList := by
  obtain ⟨shared, hlength, ha, hb⟩ := exists_shared a.toList b.toList
  have hle := length_le_sharedStart h.begins_left h.begins_right
  have hge := h.longest shared ha hb
  omega

theorem exists_longestShared (a b : String) : ∃ start, LongestShared start a b := by
  obtain ⟨start, hlength, ha, hb⟩ := exists_shared a.toList b.toList
  refine ⟨start, ha, hb, ?_⟩
  intro other hleft hright
  have hle := length_le_sharedStart hleft hright
  omega

theorem shareTwo_iff {a b : String} : ShareTwo a b ↔ 2 ≤ sharedStart a.toList b.toList := by
  constructor
  · rintro ⟨first, second, as, bs, ha, hb⟩
    have hstart : [first, second].length ≤ sharedStart a.toList b.toList := by
      apply length_le_sharedStart
      · rw [ha]
        exact List.prefix_append [first, second] as
      · rw [hb]
        exact List.prefix_append [first, second] bs
    simpa using hstart
  · intro h
    obtain ⟨start, hlength, ⟨as, ha⟩, ⟨bs, hb⟩⟩ := exists_shared a.toList b.toList
    match start with
    | [] | [_] =>
      rw [← hlength] at h
      simp at h
    | first :: second :: start => exact ⟨first, second, start ++ as, start ++ bs, ha.symm, hb.symm⟩

/-! The candidate that is chosen. -/

/-- The candidate chosen of those that have been looked at: the last of those that share the most
    with a name, if that is at least two characters. -/
inductive Chosen (name : String) : List String → Option String → Prop where
  | none {candidates : List String}
      (hfew : ∀ candidate ∈ candidates, sharedStart candidate.toList name.toList < 2) :
      Chosen name candidates none
  | some {before after : List String} {best : String}
      (hshared : 2 ≤ sharedStart best.toList name.toList)
      (hbefore : ∀ other ∈ before,
        sharedStart other.toList name.toList ≤ sharedStart best.toList name.toList)
      (hafter : ∀ other ∈ after,
        sharedStart other.toList name.toList < sharedStart best.toList name.toList) :
      Chosen name (before ++ best :: after) (some best)

/-- The better of the best candidate so far and the next one. -/
private def better (name : String) (best : Option String) (candidate : String) : Option String :=
  let shared := sharedStart candidate.toList name.toList
  if shared < 2 then best
  else
    match best with
    | .some earlier =>
      if shared < sharedStart earlier.toList name.toList then best else .some candidate
    | .none => .some candidate

private theorem Chosen.better {name : String} {candidates : List String} {best : Option String}
    (h : Chosen name candidates best) (candidate : String) :
    Chosen name (candidates ++ [candidate]) (Stageflow.better name best candidate) := by
  unfold Stageflow.better
  cases h with
  | none hfew =>
    dsimp only
    split
    next hnext =>
      exact .none (List.forall_mem_append.2 ⟨hfew, List.forall_mem_singleton.2 hnext⟩)
    next hnext =>
      refine .some (by omega) ?_ (by simp)
      intro other hother
      have hless := hfew other hother
      omega
  | @some before after best hshared hbefore hafter =>
    have hextended (hless : sharedStart candidate.toList name.toList <
        sharedStart best.toList name.toList) :
        Chosen name (before ++ best :: after ++ [candidate]) (.some best) := by
      rw [List.append_assoc, List.cons_append]
      exact .some hshared hbefore
        (List.forall_mem_append.2 ⟨hafter, List.forall_mem_singleton.2 hless⟩)
    dsimp only
    split
    next hnext => exact hextended (by omega)
    next hnext =>
      split
      next hless => exact hextended hless
      next hnot =>
        refine .some (by omega) ?_ (by simp)
        intro other hother
        rcases List.mem_append.1 hother with hother | hother
        · have hle := hbefore other hother
          omega
        · rcases List.mem_cons.1 hother with rfl | hother
          · omega
          · have hless := hafter other hother
            omega

private theorem Chosen.foldl {name : String} {earlier : List String} {best : Option String}
    (h : Chosen name earlier best) (candidates : List String) :
    Chosen name (earlier ++ candidates) (candidates.foldl (Stageflow.better name) best) := by
  induction candidates generalizing earlier best with
  | nil => simpa using h
  | cons candidate candidates ih => simpa using ih (h.better candidate)

theorem chosen_closest (name : String) (candidates : List String) :
    Chosen name candidates (closest name candidates) :=
  have hnone : Chosen name [] none := .none (by simp)
  hnone.foldl candidates

theorem closest_eq_none_iff {name : String} {candidates : List String} :
    closest name candidates = none ↔ ∀ candidate ∈ candidates, ¬ ShareTwo candidate name := by
  have h := chosen_closest name candidates
  generalize closest name candidates = best at h
  simp only [shareTwo_iff]
  cases h with
  | none hfew => simpa using hfew
  | @some before after best hshared =>
    refine iff_of_false (by simp) ?_
    intro hnone
    exact hnone best (by simp) hshared

theorem exists_closest_iff {name : String} {candidates : List String} :
    (∃ chosen, closest name candidates = some chosen) ↔
      ∃ candidate ∈ candidates, ShareTwo candidate name := by
  have hnone := not_congr (@closest_eq_none_iff name candidates)
  rw [← Option.ne_none_iff_exists', ne_eq, hnone]
  simp

/-- No candidate shares more with a name than the chosen one, and none behind it as much. -/
theorem exists_of_closest {name chosen : String} {candidates : List String}
    (h : closest name candidates = some chosen) :
    ShareTwo chosen name ∧ ∃ before after, candidates = before ++ chosen :: after ∧
      (∀ other ∈ candidates,
        sharedStart other.toList name.toList ≤ sharedStart chosen.toList name.toList) ∧
      ∀ other ∈ after,
        sharedStart other.toList name.toList < sharedStart chosen.toList name.toList := by
  have hchosen := chosen_closest name candidates
  rw [h] at hchosen
  cases hchosen with
  | @some before after _ hshared hbefore hafter =>
    refine ⟨shareTwo_iff.2 hshared, before, after, rfl, ?_, hafter⟩
    intro other hother
    rcases List.mem_append.1 hother with hother | hother
    · exact hbefore other hother
    · rcases List.mem_cons.1 hother with rfl | hother
      · exact Nat.le_refl _
      · exact Nat.le_of_lt (hafter other hother)

/-! The stage type that is meant. -/

theorem Registry.Nearest.unique {registry : Registry σ} {name type other : String}
    (h : registry.Nearest name type) (h' : registry.Nearest name other) : type = other := by
  obtain ⟨start, hstart⟩ := exists_longestShared type name
  obtain ⟨shared, hshared⟩ := exists_longestShared other name
  have hle := h.longest other h'.registered start shared hstart hshared
  have hge := h'.longest type h.registered shared start hshared hstart
  rcases h.last other h'.registered start shared hstart hshared (by omega) with heq | hless
  · exact heq.symm
  rcases h'.last type h.registered shared start hshared hstart (by omega) with heq | hgreater
  · exact heq
  · exact absurd hgreater (List.lt_asymm hless)

/-- Stage types are looked through in the order of their bytes, so that of those that share as much
    with the name the last one is the greatest. -/
private theorem Registry.nearest_of_closest {registry : Registry σ} {name type : String}
    (h : closest name registry.types = some type) : registry.Nearest name type := by
  obtain ⟨hshare, before, after, htypes, hlongest, hafter⟩ := exists_of_closest h
  have hordered := registry.pairwise_types
  rw [htypes, List.pairwise_append] at hordered
  refine ⟨mem_types_iff.1 (by simp [htypes]), hshare, ?_, ?_⟩
  · intro other hother start shared hstart hshared
    rw [hstart.length_eq, hshared.length_eq]
    exact hlongest other (mem_types_iff.2 hother)
  · intro other hother start shared hstart hshared hlength
    rw [hstart.length_eq, hshared.length_eq] at hlength
    have hplace : other ∈ before ∨ other = type ∨ other ∈ after := by
      simpa [htypes] using mem_types_iff.2 hother
    rcases hplace with hmem | rfl | hmem
    · exact .inr (Text.encode_lt_encode_iff.2 (hordered.2.2 other hmem type List.mem_cons_self))
    · exact .inl rfl
    · have hless := hafter other hmem
      omega

theorem Registry.nearest_iff {registry : Registry σ} {name type : String} :
    registry.Nearest name type ↔ closest name registry.types = some type := by
  refine ⟨fun h => ?_, nearest_of_closest⟩
  cases hclosest : closest name registry.types with
  | none =>
    have hmem := mem_types_iff.2 h.registered
    exact absurd h.shareTwo (closest_eq_none_iff.1 hclosest type hmem)
  | some chosen => rw [h.unique (nearest_of_closest hclosest)]

/-- Only the step that names a candidate begins with these words. -/
private theorem Advice.mem_steps_registerStage {name step : String} {available : List String} :
    step ∈ (registerStage name available).steps ∧ "Did you mean".toList <+: step.toList ↔
      ∃ type, closest name available = some type ∧ step = "Did you mean '" ++ type ++ "'?" := by
  have hfirst : ¬ "Did you mean".toList <+: ("No handler is registered for '" ++ name ++ "'").toList := by
    simp
  have hlast : ¬ "Did you mean".toList <+:
      "Declare an external command handler in .stagepipe.yaml".toList := by
    simp
  have hnamed (type : String) :
      "Did you mean".toList <+: ("Did you mean '" ++ type ++ "'?").toList := by
    simp
  have hsteps : (registerStage name available).steps =
      ["No handler is registered for '" ++ name ++ "'"] ++
        ((closest name available).toList.map fun type => "Did you mean '" ++ type ++ "'?") ++
        ["Declare an external command handler in .stagepipe.yaml"] := rfl
  rw [hsteps]
  simp only [List.mem_append, List.mem_singleton, List.mem_map, Option.mem_toList]
  constructor
  · rintro ⟨(rfl | ⟨type, htype, rfl⟩) | rfl, hbegins⟩
    · exact absurd hbegins hfirst
    · exact ⟨type, htype, rfl⟩
    · exact absurd hbegins hlast
  · rintro ⟨type, htype, rfl⟩
    exact ⟨.inl (.inr ⟨type, htype, rfl⟩), hnamed type⟩

/-- The candidate taken for a name is the last of those that share the longest start with it, at
    least two characters; without such a candidate none is taken. The advice for a stage type without
    a handler therefore names the registered type that is meant, if there is one. -/
theorem closest_exact (name : String) (candidates : List String) (registry : Registry σ)
    (index : Nat) (available : String) :
    (closest name candidates = none ↔ ∀ candidate ∈ candidates, ¬ ShareTwo candidate name) ∧
    (∀ chosen, closest name candidates = some chosen →
      ∃ before after start, candidates = before ++ chosen :: after ∧
        LongestShared start chosen name ∧
        (∀ other ∈ candidates, ∀ shared, LongestShared shared other name →
          shared.length ≤ start.length) ∧
        ∀ other ∈ after, ∀ shared, LongestShared shared other name →
          shared.length < start.length) ∧
    ∃ advice, Advice.ofFailure? (.unknownStage name index available) registry.types = some advice ∧
      ((∃ step ∈ advice.steps, "Did you mean".toList <+: step.toList) ↔
        ∃ type, registry.has type = true ∧ ShareTwo type name) ∧
      ∀ step, (step ∈ advice.steps ∧ "Did you mean".toList <+: step.toList) ↔
        ∃ type, registry.Nearest name type ∧ step = "Did you mean '" ++ type ++ "'?" := by
  refine ⟨closest_eq_none_iff, ?_, .registerStage name registry.types, rfl, ?_, ?_⟩
  · intro chosen hchosen
    obtain ⟨-, before, after, hcandidates, hlongest, hafter⟩ := exists_of_closest hchosen
    obtain ⟨start, hstart⟩ := exists_longestShared chosen name
    refine ⟨before, after, start, hcandidates, hstart, ?_, ?_⟩
    · intro other hother shared hshared
      rw [hstart.length_eq, hshared.length_eq]
      exact hlongest other hother
    · intro other hother shared hshared
      rw [hstart.length_eq, hshared.length_eq]
      exact hafter other hother
  · simp only [Advice.mem_steps_registerStage, ← Registry.mem_types_iff, ← exists_closest_iff]
    constructor
    · rintro ⟨step, type, htype, -⟩
      exact ⟨type, htype⟩
    · rintro ⟨type, htype⟩
      exact ⟨_, type, htype, rfl⟩
  · intro step
    simp only [Advice.mem_steps_registerStage, Registry.nearest_iff]

end Stageflow
