import Stageflow.Placeholder

namespace Stageflow.Placeholder

/-- How a placeholder for a stage type can be written: any blanks may stand between the braces and
    the stage type. -/
inductive Written : List Char → List Char → Prop where
  | mk {before name after : List Char} (hbefore : ∀ c ∈ before, Text.isBlank c = true)
      (hname : isTypeName name = true) (hafter : ∀ c ∈ after, Text.isBlank c = true) :
      Written name ('\x7b' :: '\x7b' :: (before ++ (name ++ (after ++ ['\x7d', '\x7d']))))

/-- A text begins with a placeholder. -/
def Starts (cs : List Char) : Prop :=
  ∃ name written rest, Written name written ∧ cs = written ++ rest

/-- No placeholder begins inside a text that goes on with the given rest. One may begin at the
    rest itself. -/
def Free (literal rest : List Char) : Prop :=
  ∀ before after, literal = before ++ after → after ≠ [] → ¬ Starts (after ++ rest)

/-- Literal text and the stage type that the placeholder behind it names. -/
structure Part where
  literal : List Char
  name : String
  deriving DecidableEq, Repr

/-- A text taken apart at its placeholders, with the literal text behind the last of them. Each
    placeholder is the leftmost one behind the placeholder before it. -/
inductive TakenApart : List Char → List Part → List Char → Prop where
  | last {literal : List Char} (hfree : Free literal []) : TakenApart literal [] literal
  | next {literal written name rest last : List Char} {parts : List Part}
      (hfree : Free literal (written ++ rest)) (hwritten : Written name written)
      (hrest : TakenApart rest parts last) :
      TakenApart (literal ++ (written ++ rest)) (⟨literal, String.ofList name⟩ :: parts) last

theorem Written.ne_nil {name written : List Char} (h : Written name written) : written ≠ [] := by
  cases h
  exact List.cons_ne_nil _ _

/-- A run of characters ends where one of another kind follows. -/
private theorem run_exact {p : Char → Bool} {run rest : List Char}
    (hrun : ∀ c ∈ run, p c = true) (hends : ∀ c ∈ rest.head?, p c = false) :
    (run ++ rest).takeWhile p = run ∧ (run ++ rest).dropWhile p = rest := by
  rw [List.takeWhile_append_of_pos hrun, List.dropWhile_append_of_pos hrun]
  cases rest with
  | nil => exact ⟨List.append_nil run, rfl⟩
  | cons c rest => simp [hends c rfl]

private theorem isTypeChar_of_isBlank {c : Char} (h : Text.isBlank c = true) :
    isTypeChar c = false := by
  cases htype : isTypeChar c with
  | false => rfl
  | true => exact absurd h (Bool.eq_false_iff.1 (isBlank_of_isTypeChar htype))

/-- A placeholder is read to its end whatever follows it: blanks, the characters of stage types and
    braces are all different, so that each run ends where the next begins. -/
theorem read?_written {name written : List Char} (h : Written name written) (rest : List Char) :
    read? (written ++ rest) = some (name, rest) := by
  cases h with
  | @mk before _ after hbefore hname hafter =>
    obtain ⟨hne, hall⟩ := Bool.and_eq_true_iff.1 hname
    have hchars : ∀ c ∈ name, isTypeChar c = true := List.all_eq_true.1 hall
    have hfirst : ∀ c ∈ (name ++ (after ++ '\x7d' :: '\x7d' :: rest)).head?,
        Text.isBlank c = false := by
      cases name with
      | nil => cases hne
      | cons c name =>
        rintro _ ⟨⟩
        exact isBlank_of_isTypeChar (hchars c List.mem_cons_self)
    have hbehind : ∀ c ∈ (after ++ '\x7d' :: '\x7d' :: rest).head?, isTypeChar c = false := by
      cases after with
      | nil =>
        rintro _ ⟨⟩
        decide
      | cons c after =>
        rintro _ ⟨⟩
        exact isTypeChar_of_isBlank (hafter c List.mem_cons_self)
    have hclosing : ∀ c ∈ ('\x7d' :: '\x7d' :: rest).head?, Text.isBlank c = false := by
      rintro _ ⟨⟩
      decide
    obtain ⟨-, hdropBefore⟩ := run_exact hbefore hfirst
    obtain ⟨htakeName, hdropName⟩ := run_exact hchars hbehind
    obtain ⟨-, hdropAfter⟩ := run_exact hafter hclosing
    have htext : '\x7b' :: '\x7b' :: (before ++ (name ++ (after ++ ['\x7d', '\x7d']))) ++ rest =
        '\x7b' :: '\x7b' :: (before ++ (name ++ (after ++ '\x7d' :: '\x7d' :: rest))) := by
      simp only [List.cons_append, List.append_assoc, List.nil_append]
    rw [htext, read?]
    simp only [hdropBefore, htakeName, hdropName, hdropAfter]
    rw [if_neg]
    simpa using hne

/-- Whatever is read is a placeholder. -/
theorem exists_written_of_read? {cs name rest : List Char} (h : read? cs = some (name, rest)) :
    ∃ written, Written name written ∧ cs = written ++ rest := by
  unfold read? at h
  split at h
  next cs =>
    simp only at h
    split at h
    next hclosing =>
      split at h
      · cases h
      next hne =>
        cases h
        have hbefore : ∀ c ∈ cs.takeWhile Text.isBlank, Text.isBlank c = true :=
          List.all_eq_true.1 List.all_takeWhile
        have hname : isTypeName ((cs.dropWhile Text.isBlank).takeWhile isTypeChar) = true := by
          rw [isTypeName, List.all_takeWhile, Bool.and_true]
          simpa using hne
        have hafter : ∀ c ∈ ((cs.dropWhile Text.isBlank).dropWhile isTypeChar).takeWhile
            Text.isBlank, Text.isBlank c = true :=
          List.all_eq_true.1 List.all_takeWhile
        refine ⟨_, .mk hbefore hname hafter, ?_⟩
        simp only [List.cons_append, List.append_assoc, List.nil_append]
        rw [← hclosing, List.takeWhile_append_dropWhile, List.takeWhile_append_dropWhile,
          List.takeWhile_append_dropWhile]
    · cases h
  · cases h

theorem read?_isSome_iff {cs : List Char} : (read? cs).isSome = true ↔ Starts cs := by
  constructor
  · intro h
    obtain ⟨⟨name, rest⟩, hread⟩ := Option.isSome_iff_exists.1 h
    obtain ⟨written, hwritten, hcs⟩ := exists_written_of_read? hread
    exact ⟨name, written, rest, hwritten, hcs⟩
  · rintro ⟨name, written, rest, hwritten, rfl⟩
    rw [read?_written hwritten]
    rfl

/-- At most one placeholder begins at a place. -/
theorem Written.unique {name written rest name' written' rest' : List Char}
    (h : Written name written) (h' : Written name' written')
    (heq : written ++ rest = written' ++ rest') :
    name' = name ∧ written' = written ∧ rest' = rest := by
  have hread := read?_written h rest
  rw [heq, read?_written h', Option.some.injEq, Prod.mk.injEq] at hread
  obtain ⟨hname, rfl⟩ := hread
  exact ⟨hname, (List.append_cancel_right heq).symm, rfl⟩

theorem free_nil (rest : List Char) : Free [] rest := by
  intro before after heq hafter
  exact absurd (List.append_eq_nil_iff.1 heq.symm).2 hafter

theorem free_cons_iff {c : Char} {literal rest : List Char} :
    Free (c :: literal) rest ↔ ¬ Starts (c :: (literal ++ rest)) ∧ Free literal rest := by
  constructor
  · intro h
    refine ⟨h [] (c :: literal) rfl (List.cons_ne_nil _ _), ?_⟩
    intro before after heq hafter
    exact h (c :: before) after (congrArg (c :: ·) heq) hafter
  · rintro ⟨hstarts, h⟩ before after heq hafter
    cases before with
    | nil =>
      rw [List.nil_append] at heq
      rw [← heq]
      exact hstarts
    | cons _ before =>
      obtain ⟨-, hrest⟩ := List.cons.inj heq
      exact h before after hrest hafter

/-- A text can be taken apart: it begins with a placeholder, or its first character is literal. -/
theorem exists_takenApart (cs : List Char) : ∃ parts last, TakenApart cs parts last := by
  induction hlength : cs.length using Nat.strongRecOn generalizing cs with
  | ind length ih =>
    cases cs with
    | nil => exact ⟨[], [], .last (free_nil [])⟩
    | cons c cs =>
      by_cases hstarts : Starts (c :: cs)
      · obtain ⟨name, written, rest, hwritten, hcs⟩ := hstarts
        have hshorter : rest.length < length := by
          have hpositive := List.length_pos_iff.2 hwritten.ne_nil
          rw [← hlength, hcs, List.length_append]
          omega
        obtain ⟨parts, last, hrest⟩ := ih _ hshorter rest rfl
        rw [hcs]
        exact ⟨_, last, .next (free_nil _) hwritten hrest⟩
      · have hshorter : cs.length < length := by
          rw [← hlength, List.length_cons]
          omega
        obtain ⟨parts, last, hrest⟩ := ih _ hshorter cs rfl
        cases hrest with
        | last hfree =>
          rw [← List.append_nil cs] at hstarts
          exact ⟨_, _, .last (free_cons_iff.2 ⟨hstarts, hfree⟩)⟩
        | next hfree hwritten hrest =>
          exact ⟨_, _, .next (free_cons_iff.2 ⟨hstarts, hfree⟩) hwritten hrest⟩

/-- Two literal texts in front of placeholders are the same: the longer one would hold the
    placeholder behind the shorter one. -/
private theorem literal_eq {literal literal' rest rest' : List Char} (hfree : Free literal rest)
    (hfree' : Free literal' rest') (hstarts : Starts rest) (hstarts' : Starts rest')
    (heq : literal ++ rest = literal' ++ rest') : literal' = literal := by
  rcases List.append_eq_append_iff.1 heq with ⟨more, hmore, hrest⟩ | ⟨more, hmore, hrest⟩
  · cases more with
    | nil => rw [hmore, List.append_nil]
    | cons c more =>
      rw [hrest] at hstarts
      exact absurd hstarts (hfree' literal (c :: more) hmore (List.cons_ne_nil _ _))
  · cases more with
    | nil => rw [hmore, List.append_nil]
    | cons c more =>
      rw [hrest] at hstarts'
      exact absurd hstarts' (hfree literal' (c :: more) hmore (List.cons_ne_nil _ _))

/-- A text that is free to its end holds no placeholder. -/
private theorem not_free_append {literal rest : List Char} (hne : rest ≠ [])
    (hstarts : Starts rest) : ¬ Free (literal ++ rest) [] := by
  intro hfree
  refine hfree literal rest rfl hne ?_
  rwa [List.append_nil]

/-- There is only one way to take a text apart. -/
theorem TakenApart.unique {cs last last' : List Char} {parts parts' : List Part}
    (h : TakenApart cs parts last) (h' : TakenApart cs parts' last') :
    parts' = parts ∧ last' = last := by
  induction h generalizing parts' last' with
  | @last literal hfree =>
    cases h' with
    | last => exact ⟨rfl, rfl⟩
    | next _ hwritten' =>
      refine absurd hfree (not_free_append ?_ ⟨_, _, _, hwritten', rfl⟩)
      exact List.append_ne_nil_of_left_ne_nil hwritten'.ne_nil _
  | @next literal written name rest last parts hfree hwritten hrest ih =>
    generalize htext : literal ++ (written ++ rest) = text at h'
    cases h' with
    | last hfree' =>
      rw [← htext] at hfree'
      refine absurd hfree' (not_free_append ?_ ⟨_, _, _, hwritten, rfl⟩)
      exact List.append_ne_nil_of_left_ne_nil hwritten.ne_nil _
    | @next literal' written' name' rest' _ parts' hfree' hwritten' hrest' =>
      obtain rfl := literal_eq hfree hfree' ⟨_, _, _, hwritten, rfl⟩ ⟨_, _, _, hwritten', rfl⟩ htext
      obtain ⟨rfl, rfl, rfl⟩ := hwritten.unique hwritten' (List.append_cancel_left htext)
      obtain ⟨rfl, rfl⟩ := ih hrest'
      exact ⟨rfl, rfl⟩

theorem existsIn_eq_false_iff {cs : List Char} : existsIn cs = false ↔ Free cs [] := by
  induction cs with
  | nil => exact iff_of_true rfl (free_nil [])
  | cons c cs ih =>
    rw [existsIn, Bool.or_eq_false_iff, ih, free_cons_iff, List.append_nil, ← read?_isSome_iff,
      Bool.not_eq_true]

private theorem piecesFrom_skip (skipped rest : List Char) :
    piecesFrom skipped.length (skipped ++ rest) = piecesFrom 0 rest := by
  induction skipped with
  | nil => rfl
  | cons c skipped ih => exact ih

theorem piecesFrom_written {name written : List Char} (h : Written name written)
    (rest : List Char) :
    piecesFrom 0 (written ++ rest) = .reference name :: piecesFrom 0 rest := by
  have hread := read?_written h rest
  cases written with
  | nil => exact absurd rfl h.ne_nil
  | cons c cs =>
    rw [List.cons_append] at hread ⊢
    have hskip : (cs ++ rest).length - rest.length = cs.length := by
      rw [List.length_append, Nat.add_sub_cancel]
    rw [piecesFrom, hread]
    simp only [hskip, piecesFrom_skip]

theorem piecesFrom_free {literal rest : List Char} (h : Free literal rest) :
    piecesFrom 0 (literal ++ rest) = literal.map .literal ++ piecesFrom 0 rest := by
  induction literal with
  | nil => rfl
  | cons c literal ih =>
    obtain ⟨hstarts, hfree⟩ := free_cons_iff.1 h
    rw [← read?_isSome_iff, Bool.not_eq_true, Option.isSome_eq_false_iff,
      Option.isNone_iff_eq_none] at hstarts
    rw [List.cons_append, piecesFrom, hstarts, ih hfree]
    rfl

theorem piecesFrom_of_free {literal : List Char} (h : Free literal []) :
    piecesFrom 0 literal = literal.map .literal := by
  have hpieces := piecesFrom_free h
  rwa [List.append_nil, piecesFrom, List.append_nil] at hpieces

end Stageflow.Placeholder
