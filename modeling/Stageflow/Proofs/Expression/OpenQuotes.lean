import Stageflow.Proofs.Expression.Words

namespace Stageflow.Expression

open Text

/-- A text that begins and ends outside quotes: every quote in it belongs to a quoted piece. -/
inductive Closed : List Char → Prop where
  | nil : Closed []
  | plain {c : Char} {rest : List Char} (hsingle : c ≠ '\'') (hdouble : c ≠ '"')
      (hrest : Closed rest) : Closed (c :: rest)
  | quoted {written text rest : List Char} (hpiece : Piece true written text)
      (hrest : Closed rest) : Closed (written ++ rest)

/-- Where a text ends that begins outside quotes. The quote that is open there stands behind a
    closed text, at its byte, and what stands behind the quote does not close it. -/
inductive EndsIn : Quoting → List Char → Prop where
  | bare {cs : List Char} (hclosed : Closed cs) : EndsIn .bare cs
  | single {before inside : List Char} (hbefore : Closed before) (hinside : '\'' ∉ inside) :
      EndsIn (.single (byteLength before)) (before ++ '\'' :: inside)
  | double {before inside text : List Char} (hbefore : Closed before)
      (hinside : Escaped inside text) :
      EndsIn (.double (byteLength before)) (before ++ '"' :: inside)
  | escaped {before inside text : List Char} (hbefore : Closed before)
      (hinside : Escaped inside text) :
      EndsIn (.escaped (byteLength before)) (before ++ '"' :: (inside ++ ['\\']))

/-- The quote at the byte `opened` of a text is never closed. -/
def LeavesOpen (opened : Nat) (cs : List Char) : Prop :=
  ∃ quoting, EndsIn quoting cs ∧ quoting.opened? = some opened

theorem Closed.append {cs ds : List Char} (h : Closed cs) (h' : Closed ds) : Closed (cs ++ ds) := by
  induction h with
  | nil => exact h'
  | plain hsingle hdouble _ ih => exact .plain hsingle hdouble ih
  | quoted hpiece _ ih =>
    rw [List.append_assoc]
    exact .quoted hpiece ih

theorem Closed.append_piece {cs written text : List Char} (h : Closed cs)
    (hpiece : Piece true written text) : Closed (cs ++ written) := by
  rw [← List.append_nil written]
  exact h.append (.quoted hpiece .nil)

theorem Escaped.append {written text behind meaning : List Char} (h : Escaped written text)
    (h' : Escaped behind meaning) : Escaped (written ++ behind) (text ++ meaning) := by
  induction h with
  | nil => exact h'
  | escape he _ ih => exact .escape he ih
  | backslash hquote hslash _ ih => exact .backslash hquote hslash ih
  | plain hquote hslash _ ih => exact .plain hquote hslash ih

/-- Behind a backslash inside double quotes any character stays inside them. -/
theorem Escaped.exists_append_backslash {written text : List Char} (h : Escaped written text)
    (c : Char) : ∃ text, Escaped (written ++ ['\\', c]) text := by
  by_cases hc : c = '"' ∨ c = '\\'
  · exact ⟨_, h.append (.escape hc .nil)⟩
  · rw [not_or] at hc
    exact ⟨_, h.append (.backslash hc.1 hc.2 (.plain hc.1 hc.2 .nil))⟩

/-! Reading one character further. -/

theorem EndsIn.next {quoting : Quoting} {cs : List Char} (h : EndsIn quoting cs) (c : Char) :
    EndsIn (quoting.next (byteLength cs) c) (cs ++ [c]) := by
  cases h with
  | bare hclosed =>
    rw [Quoting.next]
    by_cases hdouble : c = '"'
    · subst hdouble
      exact .double hclosed .nil
    by_cases hsingle : c = '\''
    · subst hsingle
      exact .single hclosed List.not_mem_nil
    rw [if_neg hdouble, if_neg hsingle]
    exact .bare (hclosed.append (.plain hsingle hdouble .nil))
  | @single before inside hbefore hinside =>
    rw [Quoting.next, List.append_assoc, List.cons_append]
    by_cases hc : c = '\''
    · subst hc
      exact .bare (hbefore.append_piece (.single hinside))
    · rw [if_neg hc]
      exact .single hbefore (by simp [hinside, Ne.symm hc])
  | @double before inside text hbefore hinside =>
    rw [Quoting.next, List.append_assoc, List.cons_append]
    by_cases hslash : c = '\\'
    · subst hslash
      exact .escaped hbefore hinside
    by_cases hquote : c = '"'
    · subst hquote
      exact .bare (hbefore.append_piece (.double hinside))
    rw [if_neg hslash, if_neg hquote]
    exact .double hbefore (hinside.append (.plain hquote hslash .nil))
  | @escaped before inside text hbefore hinside =>
    obtain ⟨meaning, hmeaning⟩ := hinside.exists_append_backslash c
    rw [Quoting.next, List.append_assoc, List.cons_append, List.append_assoc]
    exact .double hbefore hmeaning

/-- The quoting behind a text that is read from the byte `position` on. -/
def Quoting.behind (quoting : Quoting) (position : Nat) : List Char → Quoting
  | [] => quoting
  | c :: cs => (quoting.next position c).behind (position + c.utf8Size) cs

theorem Quoting.behind_append (quoting : Quoting) (position : Nat) (cs ds : List Char) :
    quoting.behind position (cs ++ ds) =
      (quoting.behind position cs).behind (position + byteLength cs) ds := by
  induction cs generalizing quoting position with
  | nil => rfl
  | cons c cs ih =>
    rw [List.cons_append, behind, behind, ih, byteLength_cons, Nat.add_assoc]

theorem Passes.behind_eq {quoting final : Quoting} {position : Nat} {cs : List Char}
    (h : Passes quoting position cs final) : quoting.behind position cs = final := by
  induction h with
  | nil => rfl
  | cons _ _ ih => exact ih

theorem Closed.behind_eq {cs : List Char} (h : Closed cs) (position : Nat) :
    Quoting.bare.behind position cs = .bare := by
  induction h generalizing position with
  | nil => rfl
  | plain hsingle hdouble _ ih =>
    rw [Quoting.behind, Quoting.next, if_neg hdouble, if_neg hsingle]
    exact ih _
  | quoted hpiece _ ih =>
    rw [Quoting.behind_append, hpiece.passes.behind_eq]
    exact ih _

private theorem EndsIn.endsIn_behind {quoting : Quoting} {before : List Char}
    (h : EndsIn quoting before) (cs : List Char) :
    EndsIn (quoting.behind (byteLength before) cs) (before ++ cs) := by
  induction cs generalizing quoting before with
  | nil =>
    rw [List.append_nil]
    exact h
  | cons c cs ih =>
    have hnext := ih (h.next c)
    rw [byteLength_append, byteLength_cons, byteLength_nil, List.append_assoc] at hnext
    exact hnext

/-- A text ends in the quoting that reading it from its start leads to. -/
theorem endsIn_iff {quoting : Quoting} {cs : List Char} :
    EndsIn quoting cs ↔ Quoting.bare.behind 0 cs = quoting := by
  constructor
  · intro h
    cases h with
    | bare hclosed => exact hclosed.behind_eq 0
    | single hbefore hinside =>
      rw [Quoting.behind_append, hbefore.behind_eq, Nat.zero_add]
      exact (passes_single hinside).behind_eq
    | double hbefore hinside =>
      rw [Quoting.behind_append, hbefore.behind_eq, Nat.zero_add]
      exact hinside.passes.behind_eq
    | escaped hbefore hinside =>
      rw [Quoting.behind_append, hbefore.behind_eq, Nat.zero_add]
      exact (hinside.passes.append (.cons (by simp) .nil)).behind_eq
  · rintro rfl
    exact (EndsIn.bare .nil).endsIn_behind cs

theorem leavesOpen_iff {opened : Nat} {cs : List Char} :
    LeavesOpen opened cs ↔ (Quoting.bare.behind 0 cs).opened? = some opened := by
  simp only [LeavesOpen, endsIn_iff, exists_eq_left']

/-- Splitting fails only where the text ends inside quotes. -/
private theorem splitFrom_eq_error_iff {quoting : Quoting} {position : Nat} {cs : List Char}
    {fault : Fault} : splitFrom quoting position cs = .error fault ↔
      ∃ opened, (quoting.behind position cs).opened? = some opened ∧
        fault = .unterminated opened := by
  induction cs generalizing quoting position with
  | nil => cases quoting <;> simp [splitFrom, Quoting.behind, Quoting.opened?, eq_comm]
  | cons c cs ih =>
    rw [splitFrom, Quoting.behind]
    split
    next hpipe =>
      -- A pipe is read outside quotes and stays there.
      obtain ⟨rfl, rfl⟩ := hpipe
      rw [show Quoting.bare.next position '|' = .bare from rfl, show '|'.utf8Size = 1 from rfl, ← ih]
      cases splitFrom .bare (position + 1) cs <;> simp
    next =>
      rw [← ih]
      cases splitFrom (quoting.next position c) (position + c.utf8Size) cs <;> simp

/-- Splitting fails exactly where a quote is never closed, and says where that quote stands. -/
theorem split_eq_error_iff {cs : List Char} {fault : Fault} :
    split cs = .error fault ↔ ∃ opened, LeavesOpen opened cs ∧ fault = .unterminated opened := by
  simp only [leavesOpen_iff, ← splitFrom_eq_error_iff, split]
  cases splitFrom .bare 0 cs <;> simp

theorem exists_splitsAt {cs : List Char} (h : ∀ opened, ¬ LeavesOpen opened cs) :
    ∃ segments, SplitsAt 0 cs segments := by
  cases hsplit : split cs with
  | error fault =>
    obtain ⟨opened, hopen, -⟩ := split_eq_error_iff.1 hsplit
    exact absurd hopen (h opened)
  | ok segments => exact ⟨segments, split_eq_ok_iff.1 hsplit⟩

/-- An open quote stands at its byte. -/
theorem LeavesOpen.exists_quote {opened : Nat} {cs : List Char} (h : LeavesOpen opened cs) :
    ∃ before quote inside, (quote = '\'' ∨ quote = '"') ∧ cs = before ++ quote :: inside ∧
      opened = byteLength before := by
  obtain ⟨quoting, hends, hopened⟩ := h
  cases hends with
  | bare => cases hopened
  | single =>
    cases hopened
    exact ⟨_, _, _, .inl rfl, rfl, rfl⟩
  | double =>
    cases hopened
    exact ⟨_, _, _, .inr rfl, rfl, rfl⟩
  | escaped =>
    cases hopened
    exact ⟨_, _, _, .inr rfl, rfl, rfl⟩

/-- No text of blanks has a quote. -/
theorem LeavesOpen.not_all_isBlank {opened : Nat} {cs : List Char} (h : LeavesOpen opened cs) :
    ¬ cs.all Text.isBlank = true := by
  intro hblank
  obtain ⟨before, quote, inside, hquote, rfl, -⟩ := h.exists_quote
  have hmem : Text.isBlank quote = true := List.all_eq_true.1 hblank quote (by simp)
  obtain ⟨hsingle, hdouble, -⟩ := ne_of_isBlank hmem
  exact hquote.elim hsingle hdouble

end Stageflow.Expression
