import Stageflow.Proofs.Outputs.Substitution

namespace Stageflow.Placeholder

/-- A part of a text, given by the number of characters in front of it and up to its end, and a
    stage type that it names. -/
structure Occurrence where
  start : Nat
  stop : Nat
  name : String
  deriving DecidableEq, Repr

/-- A placeholder stands at this place of a text whose first character has the number `base`. What
    surrounds the placeholder is arbitrary. -/
inductive OccursFrom (base : Nat) : List Char → Occurrence → Prop where
  | mk {before written after name : List Char} (hwritten : Written name written) :
      OccursFrom base (before ++ (written ++ after))
        ⟨base + before.length, base + before.length + written.length, String.ofList name⟩

/-- A placeholder stands at this place of a text. -/
def OccursIn (text : String) (occurrence : Occurrence) : Prop :=
  OccursFrom 0 text.toList occurrence

/-! Two placeholders never overlap: a second one would have to begin with two braces inside the
first, which has none behind its own. -/

private theorem Written.exists_body {name written : List Char} (h : Written name written) :
    ∃ c body, written = '\x7b' :: '\x7b' :: c :: body ∧ '\x7b' ∉ c :: body := by
  obtain @⟨before, _, after, hbefore, hname, hafter⟩ := h
  obtain ⟨-, hchars⟩ := Bool.and_eq_true_iff.1 hname
  have hbrace : '\x7b' ∉ before ++ (name ++ (after ++ ['\x7d', '\x7d'])) := by
    intro hmem
    simp only [List.mem_append, List.mem_cons, List.not_mem_nil, or_false] at hmem
    rcases hmem with hmem | hmem | hmem | hmem | hmem
    · exact absurd (hbefore _ hmem) (by decide)
    · exact absurd (List.all_eq_true.1 hchars _ hmem) (by decide)
    · exact absurd (hafter _ hmem) (by decide)
    · exact absurd hmem (by decide)
    · exact absurd hmem (by decide)
  obtain ⟨c, body, hbody⟩ := List.exists_cons_of_ne_nil
    (List.append_ne_nil_of_right_ne_nil before (List.append_ne_nil_of_right_ne_nil name
      (List.append_ne_nil_of_right_ne_nil after (List.cons_ne_nil '\x7d' ['\x7d']))))
  rw [hbody] at hbrace
  exact ⟨c, body, by rw [hbody], hbrace⟩

private theorem Starts.exists_braces {cs : List Char} (h : Starts cs) :
    ∃ rest, cs = '\x7b' :: '\x7b' :: rest := by
  obtain ⟨name, written, rest, hwritten, rfl⟩ := h
  obtain ⟨c, body, rfl, -⟩ := hwritten.exists_body
  exact ⟨c :: body ++ rest, rfl⟩

/-- No placeholder begins inside another one. -/
theorem Written.not_starts_inside {name inside behind : List Char}
    (h : Written name (inside ++ behind)) (hinside : inside ≠ []) (hbehind : behind ≠ [])
    (rest : List Char) : ¬ Starts (behind ++ rest) := by
  intro hstarts
  obtain ⟨c, body, hwritten, hbrace⟩ := h.exists_body
  obtain ⟨others, hbraces⟩ := hstarts.exists_braces
  obtain ⟨first, inside, rfl⟩ := List.exists_cons_of_ne_nil hinside
  rw [List.cons_append, List.cons_eq_cons] at hwritten
  cases inside with
  | nil =>
    rw [List.nil_append] at hwritten
    rw [hwritten.2] at hbraces
    obtain ⟨-, hsecond⟩ := List.cons_eq_cons.1 hbraces
    obtain ⟨rfl, -⟩ := List.cons_eq_cons.1 hsecond
    simp at hbrace
  | cons second inside =>
    rw [List.cons_append, List.cons_eq_cons] at hwritten
    obtain ⟨brace, behind, rfl⟩ := List.exists_cons_of_ne_nil hbehind
    obtain ⟨rfl, -⟩ := List.cons_eq_cons.1 hbraces
    rw [← hwritten.2.2] at hbrace
    simp at hbrace

/-- A placeholder that begins behind the start of another one begins behind its end. -/
private theorem Written.exists_gap {name written after name' written' after' more : List Char}
    (h : Written name written) (h' : Written name' written')
    (heq : written ++ after = more ++ (written' ++ after')) (hmore : more ≠ []) :
    ∃ gap, more = written ++ gap ∧ after = gap ++ (written' ++ after') := by
  rcases List.append_eq_append_iff.1 heq with ⟨gap, hgap, hafter⟩ | ⟨tail, htail, hafter⟩
  · exact ⟨gap, hgap, hafter⟩
  · cases tail with
    | nil =>
      rw [List.append_nil] at htail
      exact ⟨[], by rw [htail, List.append_nil], hafter.symm⟩
    | cons c tail =>
      rw [htail] at h
      refine absurd ?_ (h.not_starts_inside hmore (List.cons_ne_nil c tail) after)
      exact ⟨name', written', after', h', hafter.symm⟩

/-- Two placeholders of a text are the same, or one ends before the other begins. -/
theorem Written.eq_or_apart {before written after name before' written' after' name' : List Char}
    (h : Written name written) (h' : Written name' written')
    (heq : before ++ (written ++ after) = before' ++ (written' ++ after')) :
    (before = before' ∧ name = name' ∧ written = written') ∨
      (∃ gap, before' = before ++ (written ++ gap) ∧ after = gap ++ (written' ++ after')) ∨
      ∃ gap, before = before' ++ (written' ++ gap) ∧ after' = gap ++ (written ++ after) := by
  rcases List.append_eq_append_iff.1 heq with ⟨more, hmore, hrest⟩ | ⟨more, hmore, hrest⟩
  · by_cases hnone : more = []
    · rw [hnone, List.append_nil] at hmore
      rw [hnone, List.nil_append] at hrest
      obtain ⟨hname, hwritten, -⟩ := h.unique h' hrest
      exact .inl ⟨hmore.symm, hname.symm, hwritten.symm⟩
    · obtain ⟨gap, rfl, hafter⟩ := h.exists_gap h' hrest hnone
      exact .inr (.inl ⟨gap, hmore, hafter⟩)
  · by_cases hnone : more = []
    · rw [hnone, List.append_nil] at hmore
      rw [hnone, List.nil_append] at hrest
      obtain ⟨hname, hwritten, -⟩ := h'.unique h hrest
      exact .inl ⟨hmore, hname, hwritten⟩
    · obtain ⟨gap, rfl, hafter⟩ := h'.exists_gap h hrest hnone
      exact .inr (.inr ⟨gap, hmore, hafter⟩)

theorem OccursFrom.start_lt_stop {base : Nat} {cs : List Char} {occurrence : Occurrence}
    (h : OccursFrom base cs occurrence) :
    base ≤ occurrence.start ∧ occurrence.start < occurrence.stop := by
  obtain ⟨hwritten⟩ := h
  have hlength := List.length_pos_iff.2 hwritten.ne_nil
  dsimp only
  omega

theorem OccursFrom.eq_or_apart {base : Nat} {cs : List Char} {occurrence other : Occurrence}
    (h : OccursFrom base cs occurrence) (h' : OccursFrom base cs other) :
    occurrence = other ∨ occurrence.stop ≤ other.start ∨ other.stop ≤ occurrence.start := by
  obtain @⟨before, written, after, name, hwritten⟩ := h
  generalize htext : before ++ (written ++ after) = text at h'
  obtain ⟨hwritten'⟩ := h'
  rcases hwritten.eq_or_apart hwritten' htext with ⟨rfl, rfl, rfl⟩ | ⟨gap, rfl, -⟩ | ⟨gap, rfl, -⟩
  · exact .inl rfl
  · refine .inr (.inl ?_)
    simp only [List.length_append]
    omega
  · refine .inr (.inr ?_)
    simp only [List.length_append]
    omega

/-- No text without placeholders has an occurrence. -/
theorem Free.not_occursFrom {base : Nat} {cs : List Char} {occurrence : Occurrence}
    (h : Free cs []) : ¬ OccursFrom base cs occurrence := by
  rintro @⟨before, written, after, name, hwritten⟩
  refine h before (written ++ after) rfl (List.append_ne_nil_of_left_ne_nil hwritten.ne_nil _) ?_
  exact ⟨name, written, after ++ [], hwritten, List.append_assoc ..⟩

/-- The occurrences of a text that begins with literal text and a placeholder are this placeholder
    and those of the rest. -/
private theorem occursFrom_append_iff {base : Nat} {literal written name rest : List Char}
    (hfree : Free literal (written ++ rest)) (hwritten : Written name written)
    {occurrence : Occurrence} :
    OccursFrom base (literal ++ (written ++ rest)) occurrence ↔
      occurrence = ⟨base + literal.length, base + literal.length + written.length,
        String.ofList name⟩ ∨
      OccursFrom (base + literal.length + written.length) rest occurrence := by
  constructor
  · intro h
    generalize htext : literal ++ (written ++ rest) = text at h
    obtain @⟨before, written', after, name', hwritten'⟩ := h
    rcases hwritten.eq_or_apart hwritten' htext with
      ⟨rfl, rfl, rfl⟩ | ⟨gap, rfl, hrest⟩ | ⟨gap, hliteral, -⟩
    · exact .inl rfl
    · have hoccurs : OccursFrom (base + literal.length + written.length)
          (gap ++ (written' ++ after)) _ := .mk hwritten'
      rw [← hrest] at hoccurs
      simp only [List.length_append, ← Nat.add_assoc]
      exact .inr hoccurs
    · -- A placeholder in front would begin inside the literal text.
      refine absurd ?_ (hfree before (written' ++ gap) hliteral
        (List.append_ne_nil_of_left_ne_nil hwritten'.ne_nil gap))
      exact ⟨name', written', _, hwritten', List.append_assoc ..⟩
  · rintro (rfl | h)
    · exact .mk hwritten
    · obtain @⟨before, written', after, name', hwritten'⟩ := h
      have hoccurs : OccursFrom base ((literal ++ (written ++ before)) ++ (written' ++ after)) _ :=
        .mk hwritten'
      simp only [List.length_append, ← Nat.add_assoc, List.append_assoc] at hoccurs
      exact hoccurs

/-- The parts of a text are at its occurrences, from left to right. -/
private theorem TakenApart.exists_occurrences {cs last : List Char} {parts : List Part}
    (h : TakenApart cs parts last) (base : Nat) :
    ∃ occurrences : List Occurrence, occurrences.map (·.name) = parts.map (·.name) ∧
      occurrences.Pairwise (fun earlier later => earlier.stop ≤ later.start) ∧
      ∀ occurrence, occurrence ∈ occurrences ↔ OccursFrom base cs occurrence := by
  induction h generalizing base with
  | last hfree => exact ⟨[], rfl, .nil, fun _ => by simp [hfree.not_occursFrom]⟩
  | @next literal written name rest last parts hfree hwritten _ ih =>
    obtain ⟨occurrences, hnames, hpairwise, hmem⟩ := ih (base + literal.length + written.length)
    refine ⟨⟨base + literal.length, base + literal.length + written.length, String.ofList name⟩ ::
      occurrences, ?_, ?_, ?_⟩
    · rw [List.map_cons, List.map_cons, hnames]
    · rw [List.pairwise_cons]
      exact ⟨fun later hlater => ((hmem later).1 hlater).start_lt_stop.1, hpairwise⟩
    · intro occurrence
      rw [List.mem_cons, hmem, occursFrom_append_iff hfree hwritten]

theorem mem_references_iff {text reference : String} :
    reference ∈ references text ↔ ∃ start stop, OccursIn text ⟨start, stop, reference⟩ := by
  obtain ⟨parts, last, hparts⟩ := exists_takenApart text.toList
  obtain ⟨occurrences, hnames, -, hmem⟩ := hparts.exists_occurrences 0
  rw [hparts.references_eq, ← hnames, List.mem_map]
  constructor
  · rintro ⟨⟨start, stop, name⟩, hoccurrence, rfl⟩
    exact ⟨start, stop, (hmem _).1 hoccurrence⟩
  · rintro ⟨start, stop, hoccurs⟩
    exact ⟨_, (hmem _).2 hoccurs, rfl⟩

theorem OccursIn.isTypeChar {text : String} {occurrence : Occurrence}
    (h : OccursIn text occurrence) {c : Char} (hc : c ∈ occurrence.name.toList) :
    isTypeChar c = true := by
  rw [OccursIn] at h
  generalize text.toList = cs at h
  obtain ⟨⟨-, hname, -⟩⟩ := h
  rw [String.toList_ofList] at hc
  exact List.all_eq_true.1 (Bool.and_eq_true_iff.1 hname).2 c hc

/-- No placeholder is ever missed. The stage types that a text refers to are those of all
    placeholders that stand anywhere in it, from left to right and each of them once. That reading
    goes on behind a placeholder loses none, as two of them never overlap. -/
theorem references_exact (text : String) :
    (∃ occurrences : List Occurrence, references text = occurrences.map (·.name) ∧
      occurrences.Pairwise (fun earlier later => earlier.stop ≤ later.start) ∧
      occurrences.Nodup ∧
      ∀ occurrence, occurrence ∈ occurrences ↔ OccursIn text occurrence) ∧
    ∀ occurrence other, OccursIn text occurrence → OccursIn text other →
      occurrence = other ∨ occurrence.stop ≤ other.start ∨ other.stop ≤ occurrence.start := by
  obtain ⟨parts, last, hparts⟩ := exists_takenApart text.toList
  obtain ⟨occurrences, hnames, hpairwise, hmem⟩ := hparts.exists_occurrences 0
  constructor
  · refine ⟨occurrences, ?_, hpairwise, ?_, hmem⟩
    · rw [hnames, hparts.references_eq]
    · apply List.Pairwise.imp_of_mem _ hpairwise
      rintro occurrence other hoccurrence - hapart rfl
      have hlength := ((hmem occurrence).1 hoccurrence).start_lt_stop
      omega
  · intro occurrence other hoccurrence hother
    exact hoccurrence.eq_or_apart hother

/-- A brace in front of a placeholder and two behind it do not hide it, nor the next one. -/
example : references "\x7b\x7b\x7ba\x7d\x7d\x7d\x7d\x7b\x7b b \x7d\x7d" = ["a", "b"] := by
  rfl

end Stageflow.Placeholder
