import Stageflow.Proofs.Expression.Acceptance

namespace Stageflow

namespace Expression

open Text

/-! What words write does not depend on the place where they stand. -/

/-- Words that differ at most in the bytes at which they start. -/
def SameWords : List Word → List Word → Prop :=
  List.Forall₂ fun word other => word.text = other.text ∧ word.quoted = other.quoted

private theorem isFlag_congr {word other : Word}
    (h : word.text = other.text ∧ word.quoted = other.quoted) : other.isFlag = word.isFlag := by
  rw [Word.isFlag, Word.isFlag, h.1, h.2]

private theorem OptionWords.of_sameWords {words others : List Word}
    {entries : List (String × OptionValue)} (h : OptionWords words entries)
    (hsame : SameWords words others) : OptionWords others entries := by
  induction h generalizing others with
  | nil =>
    cases hsame
    exact .nil
  | inline hflag htext hname hequals _ ih =>
    cases hsame with
    | cons hword hrest =>
      rw [← isFlag_congr hword] at hflag
      rw [hword.1] at htext
      exact .inline hflag htext hname hequals (ih hrest)
  | separate hflag htext hname hequals hnext _ ih =>
    cases hsame with
    | cons hword hrest =>
      cases hrest with
      | cons hother hrest =>
        rw [← isFlag_congr hword] at hflag
        rw [hword.1] at htext
        rw [← isFlag_congr hother] at hnext
        rw [hother.1]
        exact .separate hflag htext hname hequals hnext (ih hrest)
  | flag hflag htext hname hequals hnext _ ih =>
    cases hsame with
    | cons hword hrest =>
      rw [← isFlag_congr hword] at hflag
      rw [hword.1] at htext
      refine .flag hflag htext hname hequals ?_ (ih hrest)
      cases hrest with
      | nil => simp
      | cons hother _ =>
        rintro _ ⟨⟩
        rw [isFlag_congr hother]
        exact hnext _ rfl

private theorem StageWords.of_sameWords {words others : List Word} {stage : Stage}
    (h : StageWords words stage) (hsame : SameWords words others) : StageWords others stage := by
  obtain ⟨hquoted, hflag, htype, hentries, hoptions⟩ := h
  cases hsame with
  | cons hword hrest =>
    rw [← isFlag_congr hword] at hflag
    rw [hword.2] at hquoted
    rw [hword.1] at htype ⊢
    exact .mk hquoted hflag htype (hentries.of_sameWords hrest) hoptions

private theorem WordsAt.exists_sameWords {position : Nat} {cs : List Char} {words : List Word}
    (h : WordsAt position cs words) (place : Nat) :
    ∃ others, WordsAt place cs others ∧ SameWords words others := by
  induction h generalizing place with
  | blank hblank => exact ⟨[], .blank hblank, .nil⟩
  | word hblanks hword hends _ ih =>
    obtain ⟨first, rest⟩ := hword
    obtain ⟨others, hothers, hsame⟩ := ih _
    exact ⟨_, .word hblanks (.mk first rest) hends hothers, .cons ⟨rfl, rfl⟩ hsame⟩

/-- Stages are written in the same way at every place. -/
theorem StagesAt.moved {position : Nat} {cs : List Char} {stages : List Stage}
    (h : StagesAt position cs stages) (place : Nat) : StagesAt place cs stages := by
  induction h generalizing place with
  | last hwords hstage =>
    obtain ⟨others, hothers, hsame⟩ := hwords.exists_sameWords place
    exact .last hothers (hstage.of_sameWords hsame)
  | pipe hwords hstage _ ih =>
    obtain ⟨others, hothers, hsame⟩ := hwords.exists_sameWords place
    exact .pipe hothers (hstage.of_sameWords hsame) (ih _)

/-! Blanks around words. -/

private theorem next_eq_bare_iff {quoting : Quoting} {position : Nat} {c : Char}
    (h : Text.isBlank c = true) : quoting.next position c = .bare ↔ quoting = .bare := by
  obtain ⟨hsingle, hdouble, -⟩ := ne_of_isBlank h
  cases quoting with
  | bare => simp [Quoting.next, hsingle, hdouble]
  | single opened => simp [Quoting.next, hsingle]
  | double opened =>
    simp only [Quoting.next, hdouble, if_false]
    split <;> simp
  | escaped opened => simp [Quoting.next]

/-- Blanks neither open a quote nor close one. -/
private theorem Passes.eq_bare_iff {quoting final : Quoting} {position : Nat} {blanks : List Char}
    (h : Passes quoting position blanks final) (hblanks : ∀ c ∈ blanks, Text.isBlank c = true) :
    final = .bare ↔ quoting = .bare := by
  induction h with
  | nil => exact Iff.rfl
  | cons _ _ ih =>
    rw [List.forall_mem_cons] at hblanks
    rw [ih hblanks.2, next_eq_bare_iff hblanks.1]

private theorem Passes.of_blanks_append {position : Nat} {blanks cs : List Char}
    (h : Passes .bare position (blanks ++ cs) .bare)
    (hblanks : ∀ c ∈ blanks, Text.isBlank c = true) :
    Passes .bare (position + byteLength blanks) cs .bare := by
  obtain ⟨middle, hfirst, hrest⟩ := passes_append_iff.1 h
  obtain rfl := (hfirst.eq_bare_iff hblanks).2 rfl
  exact hrest

private theorem Passes.of_append_blanks {position : Nat} {cs blanks : List Char}
    (h : Passes .bare position (cs ++ blanks) .bare)
    (hblanks : ∀ c ∈ blanks, Text.isBlank c = true) : Passes .bare position cs .bare := by
  obtain ⟨middle, hfirst, hrest⟩ := passes_append_iff.1 h
  obtain rfl := (hrest.eq_bare_iff hblanks).1 rfl
  exact hfirst

theorem EndsWord.append_blanks {cs blanks : List Char} (h : EndsWord cs)
    (hblanks : ∀ c ∈ blanks, Text.isBlank c = true) : EndsWord (cs ++ blanks) := by
  cases cs with
  | nil => exact fun c hc => hblanks c (List.mem_of_mem_head? hc)
  | cons c cs => exact h

private theorem WordsAt.append_blanks {position : Nat} {cs blanks : List Char}
    {words : List Word} (h : WordsAt position cs words)
    (hblanks : ∀ c ∈ blanks, Text.isBlank c = true) : WordsAt position (cs ++ blanks) words := by
  induction h with
  | blank hblank => exact .blank (List.forall_mem_append.2 ⟨hblank, hblanks⟩)
  | word hbefore hword hends _ ih =>
    rw [List.append_assoc, List.append_assoc]
    exact .word hbefore hword (hends.append_blanks hblanks) ih

/-- Blanks in front only move the words behind them: without the blanks the text is still closed,
    so that it is made of words, and there is only one way to read it. -/
private theorem wordsAt_blanks_append_iff {position : Nat} {blanks cs : List Char}
    {words : List Word} (hblanks : ∀ c ∈ blanks, Text.isBlank c = true) :
    WordsAt position (blanks ++ cs) words ↔ WordsAt (position + byteLength blanks) cs words := by
  constructor
  · intro h
    obtain ⟨found, hfound⟩ := exists_wordsAt (h.passes.of_blanks_append hblanks)
    rwa [h.unique (.blanks_append hblanks hfound)]
  · exact .blanks_append hblanks

private theorem wordsAt_append_blanks_iff {position : Nat} {cs blanks : List Char}
    {words : List Word} (hblanks : ∀ c ∈ blanks, Text.isBlank c = true) :
    WordsAt position (cs ++ blanks) words ↔ WordsAt position cs words := by
  constructor
  · intro h
    obtain ⟨found, hfound⟩ := exists_wordsAt (h.passes.of_append_blanks hblanks)
    rwa [h.unique (hfound.append_blanks hblanks)]
  · intro h
    exact h.append_blanks hblanks

/-! Blanks around stages. -/

private theorem pipe_not_mem {blanks : List Char} (h : ∀ c ∈ blanks, Text.isBlank c = true) :
    '|' ∉ blanks := by
  intro hmem
  obtain ⟨-, -, hpipe⟩ := ne_of_isBlank (h '|' hmem)
  exact hpipe rfl

/-- A pipe in a text with blanks in front stands behind the blanks. -/
private theorem exists_of_append_pipe {blanks cs text rest : List Char}
    (hblanks : ∀ c ∈ blanks, Text.isBlank c = true) (h : text ++ '|' :: rest = blanks ++ cs) :
    ∃ behind, text = blanks ++ behind ∧ cs = behind ++ '|' :: rest := by
  have hpipe := pipe_not_mem hblanks
  rcases List.append_eq_append_iff.1 h with ⟨more, hmore, hrest⟩ | ⟨more, hmore, hrest⟩
  · cases more with
    | nil =>
      rw [List.append_nil] at hmore
      exact ⟨[], by rw [hmore, List.append_nil], hrest.symm⟩
    | cons c more =>
      obtain ⟨rfl, -⟩ := List.cons_eq_cons.1 hrest
      simp [hmore] at hpipe
  · exact ⟨more, hmore, hrest⟩

/-- A pipe in a text with blanks behind it stands in front of the blanks. -/
private theorem exists_of_append_pipe_blanks {blanks cs text rest : List Char}
    (hblanks : ∀ c ∈ blanks, Text.isBlank c = true) (h : text ++ '|' :: rest = cs ++ blanks) :
    ∃ before, cs = text ++ '|' :: before ∧ rest = before ++ blanks := by
  have hpipe := pipe_not_mem hblanks
  rcases List.append_eq_append_iff.1 h with ⟨more, hmore, hrest⟩ | ⟨more, hmore, hrest⟩
  · cases more with
    | nil =>
      rw [List.nil_append] at hrest
      simp [← hrest] at hpipe
    | cons c more =>
      obtain ⟨rfl, hbehind⟩ := List.cons_eq_cons.1 hrest
      exact ⟨more, hmore, hbehind⟩
  · simp [hrest] at hpipe

private theorem stagesAt_blanks_append_iff {position : Nat} {blanks cs : List Char}
    {stages : List Stage} (hblanks : ∀ c ∈ blanks, Text.isBlank c = true) :
    StagesAt position (blanks ++ cs) stages ↔
      StagesAt (position + byteLength blanks) cs stages := by
  constructor
  · intro h
    generalize htext : blanks ++ cs = text at h
    cases h with
    | last hwords hstage =>
      rw [← htext, wordsAt_blanks_append_iff hblanks] at hwords
      exact .last hwords hstage
    | pipe hwords hstage hrest =>
      obtain ⟨behind, rfl, rfl⟩ := exists_of_append_pipe hblanks htext.symm
      rw [wordsAt_blanks_append_iff hblanks] at hwords
      rw [byteLength_append, ← Nat.add_assoc] at hrest
      exact .pipe hwords hstage hrest
  · intro h
    cases h with
    | last hwords hstage => exact .last (.blanks_append hblanks hwords) hstage
    | pipe hwords hstage hrest =>
      rw [Nat.add_assoc position, ← byteLength_append] at hrest
      rw [← List.append_assoc]
      exact .pipe (.blanks_append hblanks hwords) hstage hrest

private theorem stagesAt_append_blanks_iff {position : Nat} {cs blanks : List Char}
    {stages : List Stage} (hblanks : ∀ c ∈ blanks, Text.isBlank c = true) :
    StagesAt position (cs ++ blanks) stages ↔ StagesAt position cs stages := by
  constructor
  · intro h
    generalize htext : cs ++ blanks = text at h
    induction h generalizing cs with
    | last hwords hstage =>
      rw [← htext, wordsAt_append_blanks_iff hblanks] at hwords
      exact .last hwords hstage
    | pipe hwords hstage _ ih =>
      obtain ⟨before, rfl, rfl⟩ := exists_of_append_pipe_blanks hblanks htext.symm
      exact .pipe hwords hstage (ih rfl)
  · intro h
    induction h with
    | last hwords hstage => exact .last (hwords.append_blanks hblanks) hstage
    | pipe hwords hstage _ ih =>
      rw [List.append_assoc, List.cons_append]
      exact .pipe hwords hstage ih

/-- Blanks around an expression write nothing. -/
theorem stagesAt_padded_iff {position : Nat} {before cs behind : List Char} {stages : List Stage}
    (hbefore : ∀ c ∈ before, Text.isBlank c = true)
    (hbehind : ∀ c ∈ behind, Text.isBlank c = true) :
    StagesAt position (before ++ (cs ++ behind)) stages ↔ StagesAt position cs stages := by
  rw [stagesAt_blanks_append_iff hbefore, stagesAt_append_blanks_iff hbehind]
  exact ⟨fun h => h.moved position, fun h => h.moved _⟩

/-! Pipes. -/

private theorem StageWords.unique {words : List Word} {stage other : Stage}
    (h : StageWords words stage) (h' : StageWords words other) : stage = other := by
  have hread := (@readStage_eq_ok_iff 0 0 _ _).2 h
  rw [readStage_eq_ok_iff.2 h'] at hread
  exact (Except.ok.inj hread).symm

/-- The words of a stage leave no quote open, so that a pipe behind them separates segments. -/
private theorem StageWords.stagesAt_pipe_iff {position : Nat} {text rest : List Char}
    {words : List Word} {stage : Stage} {whole : List Stage} (hwords : WordsAt position text words)
    (h : StageWords words stage) :
    StagesAt position (text ++ '|' :: rest) whole ↔
      ∃ later, StagesAt (position + byteLength text + 1) rest later ∧ whole = stage :: later := by
  constructor
  · intro hwhole
    generalize hcs : text ++ '|' :: rest = cs at hwhole
    cases hwhole with
    | last hothers =>
      subst hcs
      exact absurd hothers.passes (not_passes_append_pipe hwords.passes)
    | pipe hothers hother hrest =>
      obtain ⟨rfl, rfl⟩ := append_pipe_inj hwords.passes hothers.passes hcs
      obtain rfl := hwords.unique hothers
      obtain rfl := h.unique hother
      exact ⟨_, hrest, rfl⟩
  · rintro ⟨later, hlater, rfl⟩
    exact .pipe hwords h hlater

/-- Behind stages and a pipe an expression goes on as if it began there. -/
theorem StagesAt.append_pipe_iff {position : Nat} {cs rest : List Char} {stages whole : List Stage}
    (h : StagesAt position cs stages) :
    StagesAt position (cs ++ '|' :: rest) whole ↔
      ∃ later, StagesAt (position + byteLength cs + 1) rest later ∧ whole = stages ++ later := by
  induction h generalizing whole with
  | last hwords hstage => exact hstage.stagesAt_pipe_iff hwords
  | @pipe position text middle words stage stages hwords hstage _ ih =>
    have hplace : position + byteLength (text ++ '|' :: middle) + 1 =
        position + byteLength text + 1 + byteLength middle + 1 := by
      have hpipe : '|'.utf8Size = 1 := rfl
      rw [byteLength_append, byteLength_cons]
      omega
    rw [hplace, List.append_assoc, List.cons_append, hstage.stagesAt_pipe_iff hwords]
    constructor
    · rintro ⟨others, hothers, rfl⟩
      obtain ⟨later, hlater, rfl⟩ := ih.1 hothers
      exact ⟨later, hlater, rfl⟩
    · rintro ⟨later, hlater, rfl⟩
      exact ⟨_, ih.2 ⟨later, hlater, rfl⟩, rfl⟩

/-- An expression that is joined to another by a pipe writes its own stages in front of those of
    the other, with any blanks around both. -/
theorem writes_joined_iff {first before between gap behind : String} {stages : List Stage}
    (hbefore : Text.isBlankText before = true) (hbetween : Text.isBlankText between = true)
    (hgap : Text.isBlankText gap = true) (hbehind : Text.isBlankText behind = true)
    (h : Writes first stages) (second : String) (whole : List Stage) :
    Writes (before ++ first ++ between ++ "|" ++ gap ++ second ++ behind) whole ↔
      ∃ later, Writes second later ∧ whole = stages ++ later := by
  have hfirst : StagesAt 0 (before.toList ++ (first.toList ++ between.toList)) stages :=
    (stagesAt_padded_iff (isBlankText_iff.1 hbefore)
      (isBlankText_iff.1 hbetween)).2 h
  have hjoined : (before ++ first ++ between ++ "|" ++ gap ++ second ++ behind).toList =
      (before.toList ++ (first.toList ++ between.toList)) ++
        '|' :: (gap.toList ++ (second.toList ++ behind.toList)) := by
    have hpipe : "|".toList = ['|'] := rfl
    simp only [String.toList_append, hpipe, List.append_assoc, List.cons_append, List.nil_append]
  have hsecond : ∀ (position : Nat) (later : List Stage),
      StagesAt position (gap.toList ++ (second.toList ++ behind.toList)) later ↔
        Writes second later := by
    intro position later
    rw [stagesAt_padded_iff (isBlankText_iff.1 hgap) (isBlankText_iff.1 hbehind)]
    exact ⟨fun h => h.moved 0, fun h => h.moved position⟩
  unfold Writes
  rw [hjoined, hfirst.append_pipe_iff]
  simp only [hsecond, Writes]

end Expression

open Expression

namespace Pipeline

theorem exists_parse_iff {expression : String} {stages : List Stage} :
    (∃ pipeline, parse expression = .ok pipeline ∧ pipeline.stages = stages) ↔
      Writes expression stages := by
  constructor
  · rintro ⟨pipeline, hparse, rfl⟩
    exact (parse_eq_ok_iff.1 hparse).1
  · intro hwrites
    exact ⟨⟨label expression.toList stages, stages⟩, parse_eq_ok_iff.2 ⟨hwrites, rfl⟩, rfl⟩

/-- Parsing is compositional over pipes and blind to blanks. An expression that parses can be
    joined by a pipe to exactly the expressions that parse themselves, whatever blanks stand around
    both, and its stages then stand in front of theirs. Blanks around a single expression change
    nothing, not even its name. -/
theorem parse_joined :
    (∀ (first second before between gap behind : String) (pipeline : Pipeline),
      Text.isBlankText before = true → Text.isBlankText between = true →
      Text.isBlankText gap = true → Text.isBlankText behind = true →
      parse first = .ok pipeline →
        ((∃ whole, parse (before ++ first ++ between ++ "|" ++ gap ++ second ++ behind) =
            .ok whole) ↔ ∃ rest, parse second = .ok rest) ∧
        ∀ whole rest,
          parse (before ++ first ++ between ++ "|" ++ gap ++ second ++ behind) = .ok whole →
          parse second = .ok rest → whole.stages = pipeline.stages ++ rest.stages) ∧
    ∀ (expression before behind : String) (pipeline : Pipeline),
      Text.isBlankText before = true → Text.isBlankText behind = true →
        (parse (before ++ expression ++ behind) = .ok pipeline ↔
          parse expression = .ok pipeline) := by
  constructor
  · intro first second before between gap behind pipeline hbefore hbetween hgap hbehind hfirst
    have hwrites := writes_joined_iff hbefore hbetween hgap hbehind
      (parse_eq_ok_iff.1 hfirst).1 second
    constructor
    · constructor
      · rintro ⟨whole, hwhole⟩
        obtain ⟨later, hlater, -⟩ := (hwrites _).1 (parse_eq_ok_iff.1 hwhole).1
        obtain ⟨rest, hrest, -⟩ := exists_parse_iff.2 hlater
        exact ⟨rest, hrest⟩
      · rintro ⟨rest, hrest⟩
        have hrest := (parse_eq_ok_iff.1 hrest).1
        obtain ⟨whole, hwhole, -⟩ := exists_parse_iff.2 ((hwrites _).2 ⟨_, hrest, rfl⟩)
        exact ⟨whole, hwhole⟩
    · intro whole rest hwhole hrest
      obtain ⟨later, hlater, hstages⟩ := (hwrites _).1 (parse_eq_ok_iff.1 hwhole).1
      obtain ⟨found, hfound, rfl⟩ := exists_parse_iff.2 hlater
      rw [hrest] at hfound
      cases hfound
      exact hstages
  · intro expression before behind pipeline hbefore hbehind
    have hbefore := Text.isBlankText_iff.1 hbefore
    have hbehind := Text.isBlankText_iff.1 hbehind
    have htext : (before ++ expression ++ behind).toList =
        before.toList ++ (expression.toList ++ behind.toList) := by
      simp only [String.toList_append, List.append_assoc]
    have hlabel : label (before ++ expression ++ behind).toList pipeline.stages =
        label expression.toList pipeline.stages := by
      unfold label
      rw [htext, Text.trim_append hbefore hbehind]
    rw [parse_eq_ok_iff, parse_eq_ok_iff, hlabel, Writes, Writes, htext,
      stagesAt_padded_iff hbefore hbehind]

/-- A pipe in quotes in front of the pipe that joins, and a tab behind it. -/
theorem parse_joined_quoted :
    Text.isBlankText " " = true ∧ Text.isBlankText "\t" = true ∧
      ∃ pipeline rest whole, parse "a --x '|'" = .ok pipeline ∧ parse "b" = .ok rest ∧
        parse " a --x '|' |\tb\t" = .ok whole ∧ whole.stages = pipeline.stages ++ rest.stages ∧
        parse " b\t" = .ok rest := by
  have hspace : Text.isBlankText " " = true := by rfl
  have htab : Text.isBlankText "\t" = true := by rfl
  have hstage : Expression.stages "a --x '|'".toList = .ok [⟨"a", .ofList [("x", .text "|")]⟩] := by
    decide +kernel
  have hother : Expression.stages "b".toList = .ok [⟨"b", .empty⟩] := by
    decide +kernel
  obtain ⟨pipeline, hfirst, -⟩ := exists_parse_iff.2 (stages_eq_ok_iff.1 hstage)
  obtain ⟨rest, hsecond, -⟩ := exists_parse_iff.2 (stages_eq_ok_iff.1 hother)
  obtain ⟨hexists, hstages⟩ := parse_joined.1 "a --x '|'" "b" " " " " "\t" "\t" pipeline hspace
    hspace htab htab hfirst
  have htext : " " ++ "a --x '|'" ++ " " ++ "|" ++ "\t" ++ "b" ++ "\t" = " a --x '|' |\tb\t" := by
    rfl
  have hpadded : " " ++ "b" ++ "\t" = " b\t" := by rfl
  rw [htext] at hexists hstages
  obtain ⟨whole, hwhole⟩ := hexists.2 ⟨rest, hsecond⟩
  have hsame := (parse_joined.2 "b" " " "\t" rest hspace htab).2 hsecond
  rw [hpadded] at hsame
  exact ⟨hspace, htab, pipeline, rest, whole, hfirst, hsecond, hwhole,
    hstages whole rest hwhole hsecond, hsame⟩

end Pipeline

end Stageflow
