import Stageflow.Proofs.Expression.Grammar

namespace Stageflow.Expression

open Text

/-- Reading a text from the byte `position` on leads from one quoting to another and meets no pipe
    outside quotes. -/
inductive Passes : Quoting → Nat → List Char → Quoting → Prop where
  | nil {quoting : Quoting} {position : Nat} : Passes quoting position [] quoting
  | cons {quoting final : Quoting} {position : Nat} {c : Char} {cs : List Char}
      (hpipe : ¬ (quoting = .bare ∧ c = '|'))
      (tail : Passes (quoting.next position c) (position + c.utf8Size) cs final) :
      Passes quoting position (c :: cs) final

theorem Passes.append {quoting middle final : Quoting} {position : Nat} {cs ds : List Char}
    (h : Passes quoting position cs middle)
    (h' : Passes middle (position + byteLength cs) ds final) :
    Passes quoting position (cs ++ ds) final := by
  induction h with
  | nil => exact h'
  | cons hpipe _ ih =>
    refine .cons hpipe (ih ?_)
    rw [byteLength_cons, ← Nat.add_assoc] at h'
    exact h'

/-- Reading one text behind another goes on from the quoting that the first leads to. -/
theorem passes_append_iff {quoting final : Quoting} {position : Nat} {cs ds : List Char} :
    Passes quoting position (cs ++ ds) final ↔
      ∃ middle, Passes quoting position cs middle ∧
        Passes middle (position + byteLength cs) ds final := by
  constructor
  · intro h
    induction cs generalizing quoting position with
    | nil => exact ⟨quoting, .nil, h⟩
    | cons c cs ih =>
      cases h with
      | cons hpipe tail =>
        obtain ⟨middle, hfirst, hrest⟩ := ih tail
        rw [Nat.add_assoc, ← byteLength_cons] at hrest
        exact ⟨middle, .cons hpipe hfirst, hrest⟩
  · rintro ⟨middle, hfirst, hrest⟩
    exact hfirst.append hrest

theorem not_passes_append_pipe {quoting final : Quoting} {position : Nat}
    {text rest : List Char} (h : Passes quoting position text .bare) :
    ¬ Passes quoting position (text ++ '|' :: rest) final := by
  intro hpasses
  induction text generalizing quoting position with
  | nil =>
    cases h
    cases hpasses with
    | cons hpipe _ => exact hpipe ⟨rfl, rfl⟩
  | cons c text ih =>
    cases h with
    | cons _ tail =>
      cases hpasses with
      | cons _ htail => exact ih tail htail

/-- The first pipe outside quotes has one place. -/
theorem append_pipe_inj {quoting : Quoting} {position : Nat}
    {text rest other behind : List Char} (h : Passes quoting position text .bare)
    (h' : Passes quoting position other .bare) (heq : text ++ '|' :: rest = other ++ '|' :: behind) :
    text = other ∧ rest = behind := by
  induction text generalizing quoting position other with
  | nil =>
    cases h
    cases h' with
    | nil => exact ⟨rfl, List.tail_eq_of_cons_eq heq⟩
    | cons hpipe _ =>
      obtain ⟨rfl, -⟩ := List.cons_eq_cons.1 heq
      exact absurd ⟨rfl, rfl⟩ hpipe
  | cons c text ih =>
    cases h with
    | cons hpipe tail =>
      cases h' with
      | nil =>
        obtain ⟨rfl, -⟩ := List.cons_eq_cons.1 heq
        exact absurd ⟨rfl, rfl⟩ hpipe
      | cons _ htail =>
        obtain ⟨rfl, hbehind⟩ := List.cons_eq_cons.1 heq
        obtain ⟨rfl, hrest⟩ := ih tail htail hbehind
        exact ⟨rfl, hrest⟩

/-- The segments of an expression, the rest of which starts at the byte `position`: what stands
    between the pipes outside quotes, with every quote closed. -/
inductive SplitsAt : Nat → List Char → List Segment → Prop where
  | last {position : Nat} {text : List Char} (htext : Passes .bare position text .bare) :
      SplitsAt position text [⟨position, text⟩]
  | pipe {position : Nat} {text rest : List Char} {segments : List Segment}
      (htext : Passes .bare position text .bare)
      (hrest : SplitsAt (position + byteLength text + 1) rest segments) :
      SplitsAt position (text ++ '|' :: rest) (⟨position, text⟩ :: segments)

private theorem splitFrom_of_passes {quoting : Quoting} {position : Nat} {text : List Char}
    (h : Passes quoting position text .bare) : splitFrom quoting position text = .ok (text, []) := by
  induction text generalizing quoting position with
  | nil =>
    cases h
    rfl
  | cons c cs ih =>
    cases h with
    | cons hpipe tail => simp only [splitFrom, hpipe, if_false, ih tail]

private theorem splitFrom_append_pipe {quoting : Quoting} {position : Nat}
    {text rest behind : List Char} {segments : List Segment}
    (h : Passes quoting position text .bare)
    (hrest : splitFrom .bare (position + byteLength text + 1) rest = .ok (behind, segments)) :
    splitFrom quoting position (text ++ '|' :: rest) =
      .ok (text, ⟨position + byteLength text + 1, behind⟩ :: segments) := by
  induction text generalizing quoting position with
  | nil =>
    cases h
    rw [byteLength_nil, Nat.add_zero] at hrest
    simp [splitFrom, hrest]
  | cons c cs ih =>
    cases h with
    | cons hpipe tail =>
      rw [byteLength_cons, ← Nat.add_assoc] at hrest
      simp only [List.cons_append, splitFrom, hpipe, if_false, ih tail hrest, byteLength_cons,
        Nat.add_assoc]

private theorem splitFrom_sound {quoting : Quoting} {position : Nat} {cs text : List Char}
    {segments : List Segment} (h : splitFrom quoting position cs = .ok (text, segments)) :
    Passes quoting position text .bare ∧
      ((cs = text ∧ segments = []) ∨
        ∃ rest behind later, cs = text ++ '|' :: rest ∧
          splitFrom .bare (position + byteLength text + 1) rest = .ok (behind, later) ∧
          segments = ⟨position + byteLength text + 1, behind⟩ :: later) := by
  induction cs generalizing quoting position text segments with
  | nil =>
    cases quoting <;> cases h
    exact ⟨.nil, .inl ⟨rfl, rfl⟩⟩
  | cons c cs ih =>
    rw [splitFrom] at h
    split at h
    next hpipe =>
      obtain ⟨rfl, rfl⟩ := hpipe
      cases hrest : splitFrom .bare (position + 1) cs with
      | error fault =>
        rw [hrest] at h
        cases h
      | ok split =>
        rw [hrest] at h
        cases h
        exact ⟨.nil, .inr ⟨cs, split.1, split.2, rfl, hrest, rfl⟩⟩
    next hpipe =>
      cases hrest : splitFrom (quoting.next position c) (position + c.utf8Size) cs with
      | error fault =>
        rw [hrest] at h
        cases h
      | ok split =>
        obtain ⟨tail, later⟩ := split
        rw [hrest] at h
        cases h
        obtain ⟨hpasses, hends⟩ := ih hrest
        refine ⟨.cons hpipe hpasses, ?_⟩
        rw [byteLength_cons, ← Nat.add_assoc]
        rcases hends with ⟨rfl, rfl⟩ | ⟨rest, behind, segments, rfl, hsplit, rfl⟩
        · exact .inl ⟨rfl, rfl⟩
        · exact .inr ⟨rest, behind, segments, rfl, hsplit, rfl⟩

private theorem splitsAt_of_splitFrom {position : Nat} {cs text : List Char}
    {segments : List Segment} (h : splitFrom .bare position cs = .ok (text, segments)) :
    SplitsAt position cs (⟨position, text⟩ :: segments) := by
  obtain ⟨hpasses, ⟨hcs, hsegments⟩ | ⟨rest, behind, later, hcs, hsplit, hsegments⟩⟩ :=
    splitFrom_sound h
  · rw [hcs, hsegments]
    exact .last hpasses
  · have hshorter : rest.length < cs.length := by
      rw [hcs, List.length_append, List.length_cons]
      omega
    rw [hcs, hsegments]
    exact .pipe hpasses (splitsAt_of_splitFrom hsplit)
termination_by cs.length

private theorem splitFrom_of_splitsAt {position : Nat} {cs : List Char} {segments : List Segment}
    (h : SplitsAt position cs segments) :
    ∃ text later, segments = ⟨position, text⟩ :: later ∧
      splitFrom .bare position cs = .ok (text, later) := by
  induction h with
  | last htext => exact ⟨_, _, rfl, splitFrom_of_passes htext⟩
  | pipe htext _ ih =>
    obtain ⟨behind, later, rfl, hsplit⟩ := ih
    exact ⟨_, _, rfl, splitFrom_append_pipe htext hsplit⟩

/-- Splitting succeeds exactly where the pipes outside quotes cut an expression into segments that
    leave no quote open, and gives these segments. -/
theorem split_eq_ok_iff {cs : List Char} {segments : List Segment} :
    split cs = .ok segments ↔ SplitsAt 0 cs segments := by
  constructor
  · intro h
    rw [split] at h
    split at h
    · cases h
    next text later hsplit =>
      cases h
      exact splitsAt_of_splitFrom hsplit
  · intro h
    obtain ⟨text, later, rfl, hsplit⟩ := splitFrom_of_splitsAt h
    simp only [split, hsplit]

end Stageflow.Expression
