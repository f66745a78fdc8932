import Mathlib.Data.List.Forall2
import Stageflow.Proofs.Expression.Reading

namespace Stageflow

namespace Expression

private theorem bind_eq_ok_iff {α β : Type} {x : Except Fault α} {f : α → Except Fault β} {b : β} :
    (x >>= f) = .ok b ↔ ∃ a, x = .ok a ∧ f a = .ok b := by
  cases x <;> simp [bind, Except.bind]

theorem splitAtEquals_of_not_mem {cs : List Char} (h : '=' ∉ cs) :
    splitAtEquals cs = (cs, none) := by
  have hall : ∀ c ∈ cs, (c != '=') = true := by
    intro c hc
    simpa using ne_of_mem_of_not_mem hc h
  have hnil : (cs ++ []).dropWhile (· != '=') = [] := List.dropWhile_append_of_pos hall
  rw [List.append_nil] at hnil
  rw [splitAtEquals, hnil]

theorem splitAtEquals_append {name : List Char} (value : List Char) (h : '=' ∉ name) :
    splitAtEquals (name ++ '=' :: value) = (name, some value) := by
  have hall : ∀ c ∈ name, (c != '=') = true := by
    intro c hc
    simpa using ne_of_mem_of_not_mem hc h
  rw [splitAtEquals, List.dropWhile_append_of_pos hall, List.takeWhile_append_of_pos hall]
  simp

private theorem exists_splitAtEquals (cs : List Char) :
    ('=' ∉ cs ∧ splitAtEquals cs = (cs, none)) ∨
      ∃ name value, cs = name ++ '=' :: value ∧ '=' ∉ name ∧
        splitAtEquals cs = (name, some value) := by
  by_cases h : '=' ∈ cs
  · obtain ⟨name, value, rfl, hname⟩ := List.eq_append_cons_of_mem h
    exact .inr ⟨name, value, rfl, hname, splitAtEquals_append value hname⟩
  · exact .inl ⟨h, splitAtEquals_of_not_mem h⟩

theorem splitAtEquals_eq_none {cs name : List Char} (h : splitAtEquals cs = (name, none)) :
    cs = name ∧ '=' ∉ name := by
  rcases exists_splitAtEquals cs with ⟨hcs, heq⟩ | ⟨_, _, _, _, heq⟩
  · rw [heq] at h
    cases h
    exact ⟨rfl, hcs⟩
  · rw [heq] at h
    cases h

theorem splitAtEquals_eq_some {cs name value : List Char}
    (h : splitAtEquals cs = (name, some value)) : cs = name ++ '=' :: value ∧ '=' ∉ name := by
  rcases exists_splitAtEquals cs with ⟨_, heq⟩ | ⟨_, _, hcs, hname, heq⟩
  · rw [heq] at h
    cases h
  · rw [heq] at h
    cases h
    exact ⟨hcs, hname⟩

/-- An option begins with its two dashes. -/
theorem Word.text_of_isFlag {word : Word} (h : word.isFlag = true) :
    word.text = '-' :: '-' :: word.text.drop 2 := by
  obtain ⟨-, hdashes⟩ := Bool.and_eq_true_iff.1 h
  obtain ⟨rest, hrest⟩ := List.isPrefixOf_iff_prefix.1 hdashes
  rw [← hrest]
  rfl

theorem Word.text_eq_of_splitAtEquals_none {word : Word} {name : List Char}
    (hflag : word.isFlag = true) (hsplit : splitAtEquals (word.text.drop 2) = (name, none)) :
    word.text = '-' :: '-' :: name ∧ '=' ∉ name := by
  obtain ⟨hdrop, hequals⟩ := splitAtEquals_eq_none hsplit
  refine ⟨?_, hequals⟩
  rw [← hdrop]
  exact Word.text_of_isFlag hflag

theorem Word.text_eq_of_splitAtEquals_some {word : Word} {name value : List Char}
    (hflag : word.isFlag = true)
    (hsplit : splitAtEquals (word.text.drop 2) = (name, some value)) :
    word.text = '-' :: '-' :: (name ++ '=' :: value) ∧ '=' ∉ name := by
  obtain ⟨hdrop, hequals⟩ := splitAtEquals_eq_some hsplit
  refine ⟨?_, hequals⟩
  rw [← hdrop]
  exact Word.text_of_isFlag hflag

theorem AwaitsValue.cons {words : List Word} (h : AwaitsValue words) (word : Word) :
    AwaitsValue (word :: words) := by
  obtain ⟨last, hlast, hawaits⟩ := h
  refine ⟨last, ?_, hawaits⟩
  rw [List.getLast?_cons, Option.mem_def.1 hlast]
  rfl

/-- Options are read one after the other, up to a word that cannot be the value of the last. -/
theorem readOptions_append {type : String} {options : Options} {before rest : List Word}
    {entries : List (String × OptionValue)} (h : OptionWords before entries)
    (hrest : ∀ next ∈ rest.head?, AwaitsValue before → next.isFlag = true) :
    readOptions type options (before ++ rest) =
      readOptions type
        (entries.foldl (fun options entry => options.insert entry.1 entry.2) options) rest := by
  induction h generalizing options with
  | nil => rfl
  | inline hflag htext hname hequals _ ih =>
    have ih := fun options => @ih options fun next hnext h => hrest next hnext (h.cons _)
    rw [List.cons_append, readOptions.eq_def]
    simp [hflag, htext, splitAtEquals_append _ hequals, hname, ih]
  | separate hflag htext hname hequals hnext _ ih =>
    have ih := fun options => @ih options fun next hnext h => hrest next hnext ((h.cons _).cons _)
    rw [List.cons_append, List.cons_append, readOptions.eq_def]
    simp [hflag, htext, splitAtEquals_of_not_mem hequals, hname, hnext, ih]
  | @flag word words name entries hflag htext hname hequals hnext _ ih =>
    have ih := fun options => @ih options fun next hnext h => hrest next hnext (h.cons _)
    -- The option stays without a value: the word behind it is an option, in `words` or in `rest`.
    have hhead : ∀ next ∈ (words ++ rest).head?, next.isFlag = true := by
      intro next hmem
      cases words with
      | nil => exact hrest next hmem ⟨word, rfl, hflag, by simp [htext, hequals]⟩
      | cons => exact hnext next hmem
    rw [List.cons_append, readOptions.eq_def]
    cases hbehind : words ++ rest with
    | nil =>
      rw [hbehind] at ih
      simp [hflag, htext, splitAtEquals_of_not_mem hequals, hname, ih]
    | cons next behind =>
      rw [hbehind] at ih hhead
      have hnext : next.isFlag = true := hhead next rfl
      simp [hflag, htext, splitAtEquals_of_not_mem hequals, hname, hnext, ih]

private theorem readOptions_of_optionWords {type : String} {options : Options} {words : List Word}
    {entries : List (String × OptionValue)} (h : OptionWords words entries) :
    readOptions type options words =
      .ok (entries.foldl (fun options entry => options.insert entry.1 entry.2) options) := by
  rw [← List.append_nil words, readOptions_append h (by simp), readOptions]

private theorem optionWords_of_readOptions {type : String} {options result : Options}
    {words : List Word} (h : readOptions type options words = .ok result) :
    ∃ entries, OptionWords words entries ∧
      result = entries.foldl (fun options entry => options.insert entry.1 entry.2) options := by
  fun_induction readOptions type options words with
  | case1 =>
    cases h
    exact ⟨[], .nil, rfl⟩
  | case2 => cases h
  | case3 => cases h
  | case4 options word rest hflag name hname _ value hsplit ih =>
    obtain ⟨entries, hentries, hresult⟩ := ih h
    rw [Bool.not_eq_true', Bool.not_eq_false] at hflag
    obtain ⟨htext, hequals⟩ := Word.text_eq_of_splitAtEquals_some hflag hsplit
    exact ⟨_ :: entries, .inline hflag htext (by simpa using hname) hequals hentries, hresult⟩
  | case5 options word hflag name hname _ hsplit ih =>
    obtain ⟨entries, hentries, hresult⟩ := ih h
    rw [Bool.not_eq_true', Bool.not_eq_false] at hflag
    obtain ⟨htext, hequals⟩ := Word.text_eq_of_splitAtEquals_none hflag hsplit
    exact ⟨_ :: entries, .flag hflag htext (by simpa using hname) hequals (by simp) hentries,
      hresult⟩
  | case6 options word hflag name hname _ next rest hnext hsplit ih =>
    obtain ⟨entries, hentries, hresult⟩ := ih h
    rw [Bool.not_eq_true', Bool.not_eq_false] at hflag
    obtain ⟨htext, hequals⟩ := Word.text_eq_of_splitAtEquals_none hflag hsplit
    exact ⟨_ :: entries, .flag hflag htext (by simpa using hname) hequals (by simpa using hnext)
      hentries, hresult⟩
  | case7 options word hflag name hname _ next rest hnext hsplit ih =>
    obtain ⟨entries, hentries, hresult⟩ := ih h
    rw [Bool.not_eq_true', Bool.not_eq_false] at hflag
    obtain ⟨htext, hequals⟩ := Word.text_eq_of_splitAtEquals_none hflag hsplit
    exact ⟨_ :: entries, .separate hflag htext (by simpa using hname) hequals
      (by simpa using hnext) hentries, hresult⟩

/-- The words of a segment are read as the stage that they write. Number and place of the segment
    matter for faults only. -/
theorem readStage_eq_ok_iff {index offset : Nat} {words : List Word} {stage : Stage} :
    readStage index offset words = .ok stage ↔ StageWords words stage := by
  constructor
  · intro h
    cases words with
    | nil => cases h
    | cons head rest =>
      rw [readStage] at h
      split at h
      · cases h
      next hhead =>
        split at h
        · cases h
        next htype =>
          rw [Bool.or_eq_true, not_or, Bool.not_eq_true, Bool.not_eq_true] at hhead
          cases hoptions : readOptions (String.ofList head.text) .empty rest with
          | error fault =>
            simp only [hoptions] at h
            cases h
          | ok options =>
            simp only [hoptions] at h
            cases h
            obtain ⟨entries, hentries, rfl⟩ := optionWords_of_readOptions hoptions
            exact .mk hhead.1 hhead.2 (by simpa using htype) hentries (Options.merges_ofList entries)
  · rintro ⟨hquoted, hflag, htype, hentries, hoptions⟩
    obtain rfl := hoptions.unique (Options.merges_ofList _)
    simp only [readStage, hquoted, hflag, htype, readOptions_of_optionWords hentries]
    rfl

private theorem readStages_cons {index : Nat} {segment : Segment} {segments : List Segment}
    {found : List Word} (hfound : words segment = .ok found) {result : List Stage} :
    readStages index (segment :: segments) = .ok result ↔
      ∃ stage stages, StageWords found stage ∧ readStages (index + 1) segments = .ok stages ∧
        result = stage :: stages := by
  simp only [readStages, hfound, bind_eq_ok_iff, Except.ok.injEq, exists_eq_left',
    readStage_eq_ok_iff]
  constructor
  · rintro ⟨stage, hstage, stages, hstages, hresult⟩
    exact ⟨stage, stages, hstage, hstages, (Except.ok.inj hresult).symm⟩
  · rintro ⟨stage, stages, hstage, hstages, rfl⟩
    exact ⟨stage, hstage, stages, hstages, rfl⟩

/-- Segments that read as stages write them: each leaves no quote open and so is made of words. -/
private theorem SplitsAt.stagesAt {position index : Nat} {cs : List Char}
    {segments : List Segment} {result : List Stage} (h : SplitsAt position cs segments)
    (hread : readStages index segments = .ok result) : StagesAt position cs result := by
  induction h generalizing index result with
  | @last position text htext =>
    obtain ⟨found, hfound⟩ := exists_wordsAt htext
    rw [readStages_cons (words_of_wordsAt hfound)] at hread
    obtain ⟨stage, stages, hstage, hstages, rfl⟩ := hread
    cases hstages
    exact .last hfound hstage
  | @pipe position text rest segments htext _ ih =>
    obtain ⟨found, hfound⟩ := exists_wordsAt htext
    rw [readStages_cons (words_of_wordsAt hfound)] at hread
    obtain ⟨stage, stages, hstage, hstages, rfl⟩ := hread
    exact .pipe hfound hstage (ih hstages)

/-- A segment is made of the words of a stage. -/
def Segment.Holds (segment : Segment) (stage : Stage) : Prop :=
  ∃ words, WordsAt segment.offset segment.text words ∧ StageWords words stage

/-- Words leave no quote open and hold no pipe outside quotes, so that splitting finds the segments
    between the pipes of the grammar. -/
theorem StagesAt.exists_segments {position : Nat} {cs : List Char} {stages : List Stage}
    (h : StagesAt position cs stages) :
    ∃ segments, SplitsAt position cs segments ∧ List.Forall₂ Segment.Holds segments stages := by
  induction h with
  | last hwords hstage => exact ⟨_, .last hwords.passes, .cons ⟨_, hwords, hstage⟩ .nil⟩
  | pipe hwords hstage _ ih =>
    obtain ⟨segments, hsplits, hholds⟩ := ih
    exact ⟨_, .pipe hwords.passes hsplits, .cons ⟨_, hwords, hstage⟩ hholds⟩

private theorem readStages_of_holds {index : Nat} {segments : List Segment} {stages : List Stage}
    (h : List.Forall₂ Segment.Holds segments stages) : readStages index segments = .ok stages := by
  induction h generalizing index with
  | nil => rfl
  | cons hfirst _ ih =>
    obtain ⟨found, hwords, hstage⟩ := hfirst
    rw [readStages_cons (words_of_wordsAt hwords)]
    exact ⟨_, _, hstage, ih, rfl⟩

/-- Where there are only blanks there is no stage. -/
private theorem not_stagesAt_of_blank {position : Nat} {cs : List Char} {result : List Stage}
    (hblank : ∀ c ∈ cs, Text.isBlank c = true) : ¬ StagesAt position cs result := by
  intro h
  cases h with
  | last hwords hstage =>
    obtain rfl := hwords.unique (.blank hblank)
    cases hstage
  | pipe =>
    have hpipe := hblank '|' (List.mem_append_right _ List.mem_cons_self)
    revert hpipe
    decide

theorem stages_eq_ok_iff {cs : List Char} {result : List Stage} :
    stages cs = .ok result ↔ StagesAt 0 cs result := by
  constructor
  · intro h
    rw [stages] at h
    split at h
    · cases h
    · obtain ⟨segments, hsplit, hread⟩ := bind_eq_ok_iff.1 h
      exact (split_eq_ok_iff.1 hsplit).stagesAt hread
  · intro h
    obtain ⟨segments, hsplits, hholds⟩ := h.exists_segments
    have hblank : ¬ cs.all Text.isBlank = true := by
      intro hall
      exact not_stagesAt_of_blank (List.all_eq_true.1 hall) h
    rw [stages, if_neg hblank]
    exact bind_eq_ok_iff.2 ⟨segments, split_eq_ok_iff.2 hsplits, readStages_of_holds hholds⟩

end Expression

open Expression

namespace Pipeline

theorem parse_eq_ok_iff {expression : String} {pipeline : Pipeline} :
    parse expression = .ok pipeline ↔
      Writes expression pipeline.stages ∧
        pipeline.name = label expression.toList pipeline.stages := by
  rw [Writes, ← stages_eq_ok_iff, parse, Expression.parse]
  cases hstages : Expression.stages expression.toList with
  | error fault =>
    constructor
    · rintro ⟨⟩
    · rintro ⟨⟨⟩, -⟩
  | ok found =>
    constructor
    · intro h
      cases h
      exact ⟨rfl, rfl⟩
    · obtain ⟨name, stages⟩ := pipeline
      rintro ⟨hfound, hname⟩
      cases hfound
      dsimp only at hname
      rw [hname]
      rfl

/-- An expression that does not parse fails with a parse error. -/
theorem parse_eq_error {expression : String} {failure : Failure}
    (h : parse expression = .error failure) :
    ∃ message position, failure = .parse message position := by
  rw [parse] at h
  cases hparse : Expression.parse expression with
  | error fault =>
    rw [hparse] at h
    cases h
    exact ⟨_, _, rfl⟩
  | ok pipeline =>
    rw [hparse] at h
    cases h

/-- Parsing accepts exactly the expressions of the grammar and gives what they write, under the
    label of the expression. The grammar is unambiguous, and everything else is a parse error. -/
theorem parse_grammar (expression : String) :
    (∀ pipeline, parse expression = .ok pipeline ↔
      Writes expression pipeline.stages ∧
        pipeline.name = label expression.toList pipeline.stages) ∧
    (∀ stages others, Writes expression stages → Writes expression others → stages = others) ∧
    ((¬ ∃ stages, Writes expression stages) →
      ∃ message position, parse expression = .error (.parse message position)) := by
  refine ⟨fun _ => parse_eq_ok_iff, ?_, ?_⟩
  · intro stages others hstages hothers
    have h := stages_eq_ok_iff.2 hstages
    rw [stages_eq_ok_iff.2 hothers] at h
    exact (Except.ok.inj h).symm
  · intro hnone
    cases hparse : parse expression with
    | ok pipeline => exact absurd ⟨_, (parse_eq_ok_iff.1 hparse).1⟩ hnone
    | error failure =>
      obtain ⟨message, position, rfl⟩ := parse_eq_error hparse
      exact ⟨message, position, rfl⟩

end Pipeline

end Stageflow
