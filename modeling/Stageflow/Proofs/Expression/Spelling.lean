import Stageflow.Proofs.Expression.Acceptance

namespace Stageflow

namespace Expression

/-- A text with a backslash in front of every quote and backslash in it. -/
def escape (text : List Char) : List Char :=
  text.flatMap fun c => if c = '"' ∨ c = '\\' then ['\\', c] else [c]

/-- A way to write a text inside a word. -/
inductive Spelling where
  | double
  | single
  | bare
  deriving DecidableEq, Repr

namespace Spelling

/-- How a text is written. -/
def written (text : List Char) : Spelling → List Char
  | .double => '"' :: (escape text ++ ['"'])
  | .single => '\'' :: (text ++ ['\''])
  | .bare => text

/-- The texts that can be written in a way: all of them in double quotes, those without a single
    quote in single quotes, and those of bare characters as they are. -/
def Admits (text : List Char) : Spelling → Prop
  | .double => True
  | .single => '\'' ∉ text
  | .bare => text ≠ [] ∧ ∀ c ∈ text, isBare c = true

end Spelling

/-- The words that write an option: a flag alone, a text behind an equals sign or as the next word.
    There it must not look like an option itself. -/
inductive SpellsOption : String × OptionValue → List (List Char) → Prop where
  | flag {name : String} {spelling : Spelling} (hname : spelling.Admits name.toList) :
      SpellsOption (name, .flag true) ['-' :: '-' :: spelling.written name.toList]
  | inline {name value : String} {spelling valueSpelling : Spelling}
      (hname : spelling.Admits name.toList) (hvalue : valueSpelling.Admits value.toList) :
      SpellsOption (name, .text value)
        ['-' :: '-' ::
          (spelling.written name.toList ++ '=' :: valueSpelling.written value.toList)]
  | separate {name value : String} {spelling valueSpelling : Spelling}
      (hname : spelling.Admits name.toList) (hvalue : valueSpelling.Admits value.toList)
      (hdashes : valueSpelling = .bare → ¬ ['-', '-'] <+: value.toList) :
      SpellsOption (name, .text value)
        ['-' :: '-' :: spelling.written name.toList, valueSpelling.written value.toList]

/-- The words that write options one after the other. -/
inductive SpellsOptions : List (String × OptionValue) → List (List Char) → Prop where
  | nil : SpellsOptions [] []
  | cons {entry : String × OptionValue} {entries : List (String × OptionValue)}
      {first rest : List (List Char)} (hfirst : SpellsOption entry first)
      (hrest : SpellsOptions entries rest) : SpellsOptions (entry :: entries) (first ++ rest)

/-- Written words with blanks between them, and perhaps around them. -/
inductive LaidOut : List (List Char) → List Char → Prop where
  | blank {cs : List Char} (hblank : ∀ c ∈ cs, Text.isBlank c = true) : LaidOut [] cs
  | word {blanks written rest : List Char} {words : List (List Char)}
      (hblanks : ∀ c ∈ blanks, Text.isBlank c = true) (hends : EndsWord rest)
      (hrest : LaidOut words rest) : LaidOut (written :: words) (blanks ++ (written ++ rest))

/-- A text writes a stage: its type, and its options in their order. -/
inductive SpellsStage (stage : Stage) (cs : List Char) : Prop where
  | mk {words : List (List Char)} (hoptions : SpellsOptions stage.options.entries words)
      (hlayout : LaidOut (stage.type.toList :: words) cs) : SpellsStage stage cs

/-- A text writes stages with pipes between them. -/
inductive SpellsStages : List Stage → List Char → Prop where
  | last {stage : Stage} {cs : List Char} (hstage : SpellsStage stage cs) :
      SpellsStages [stage] cs
  | pipe {stage : Stage} {stages : List Stage} {cs rest : List Char}
      (hstage : SpellsStage stage cs) (hrest : SpellsStages stages rest) :
      SpellsStages (stage :: stages) (cs ++ '|' :: rest)

end Expression

open Expression

/-- A stage that can be written in an expression. The names of its options are distinct as those of
    all options are. -/
structure Stage.Writable (stage : Stage) : Prop where
  type : isTypeName stage.type.toList = true
  dashes : ¬ ['-', '-'] <+: stage.type.toList
  names : ∀ entry ∈ stage.options.entries, entry.1 ≠ "" ∧ '=' ∉ entry.1.toList
  values : ∀ entry ∈ stage.options.entries, entry.2 ≠ .flag false

namespace Expression

open Text

theorem Pieces.append {written text writtens texts : List Char} (h : Pieces written text)
    (h' : Pieces writtens texts) : Pieces (written ++ writtens) (text ++ texts) := by
  induction h with
  | nil => exact h'
  | cons first _ ih =>
    rw [List.append_assoc, List.append_assoc]
    exact .cons first ih

theorem Pieces.of_bare {text : List Char} (h : ∀ c ∈ text, isBare c = true) :
    Pieces text text := by
  induction text with
  | nil => exact .nil
  | cons c text ih =>
    rw [List.forall_mem_cons] at h
    exact .cons (.bare h.1) (ih h.2)

theorem Piece.pieces {quoted : Bool} {written text : List Char} (h : Piece quoted written text) :
    Pieces written text := by
  simpa using Pieces.cons h .nil

theorem escaped_escape (text : List Char) : Escaped (escape text) text := by
  induction text with
  | nil => exact .nil
  | cons c text ih =>
    rw [escape, List.flatMap_cons]
    split
    next hc => exact .escape hc ih
    next hc =>
      rw [not_or] at hc
      exact .plain hc.1 hc.2 ih

theorem Spelling.Admits.pieces {spelling : Spelling} {text : List Char}
    (h : spelling.Admits text) : Pieces (spelling.written text) text := by
  cases spelling with
  | double => exact (Piece.double (escaped_escape text)).pieces
  | single => exact (Piece.single h).pieces
  | bare => exact .of_bare h.2

/-- Two dashes and pieces are a word that no quote covers. -/
theorem Pieces.wordAt_dashes {written text : List Char} (h : Pieces written text)
    (position : Nat) :
    WordAt position ('-' :: '-' :: written) ⟨'-' :: '-' :: text, false, position⟩ :=
  have hdash : Piece false ['-'] ['-'] := .bare (by decide)
  .mk hdash (.cons hdash h)

theorem wordAt_bare {text : List Char} (hne : text ≠ [])
    (hbare : ∀ c ∈ text, isBare c = true) (position : Nat) :
    WordAt position text ⟨text, false, position⟩ := by
  cases text with
  | nil => exact absurd rfl hne
  | cons c text =>
    rw [List.forall_mem_cons] at hbare
    exact .mk (.bare hbare.1) (.of_bare hbare.2)

theorem isFlag_dashes (text : List Char) (position : Nat) :
    Word.isFlag ⟨'-' :: '-' :: text, false, position⟩ = true := by
  simp [Word.isFlag]

theorem isFlag_bare_eq_false {text : List Char} {position : Nat} :
    Word.isFlag ⟨text, false, position⟩ = false ↔ ¬ ['-', '-'] <+: text := by
  rw [Word.isFlag, Bool.not_false, Bool.true_and, Bool.eq_false_iff, ne_eq,
    List.isPrefixOf_iff_prefix]

/-- A spelled text is a word of its own, and not an option unless it is bare and looks like one. -/
theorem Spelling.Admits.exists_wordAt {spelling : Spelling} {text : List Char}
    (h : spelling.Admits text) (hdashes : spelling = .bare → ¬ ['-', '-'] <+: text)
    (position : Nat) :
    ∃ quoted, WordAt position (spelling.written text) ⟨text, quoted, position⟩ ∧
      Word.isFlag ⟨text, quoted, position⟩ = false := by
  cases spelling with
  | double =>
    have hword : WordAt position _ _ := .mk (Piece.double (escaped_escape text)) .nil
    simp only [List.append_nil] at hword
    exact ⟨true, hword, rfl⟩
  | single =>
    have hword : WordAt position _ _ := .mk (Piece.single h) .nil
    simp only [List.append_nil] at hword
    exact ⟨true, hword, rfl⟩
  | bare => exact ⟨false, wordAt_bare h.1 h.2 position, isFlag_bare_eq_false.2 (hdashes rfl)⟩

/-- Written words that are read as options wherever they are laid out. The first of them is an
    option, so that no flag in front takes it as its value. -/
private def ReadAs (writtens : List (List Char)) (entries : List (String × OptionValue)) : Prop :=
  ∀ (position : Nat) (cs : List Char), LaidOut writtens cs →
    ∃ words, WordsAt position cs words ∧ OptionWords words entries ∧
      ∀ next ∈ words.head?, next.isFlag = true

/-- An option in front of options is read as its entry in front of theirs. -/
private theorem SpellsOption.readAs_append {entry : String × OptionValue}
    {first writtens : List (List Char)} {entries : List (String × OptionValue)}
    (h : SpellsOption entry first) (hempty : entry.1 ≠ "") (hequals : '=' ∉ entry.1.toList)
    (hentries : ReadAs writtens entries) : ReadAs (first ++ writtens) (entry :: entries) := by
  intro position cs hlayout
  rw [ne_eq, ← String.toList_eq_nil_iff] at hempty
  cases h with
  | @flag name spelling hname =>
    cases hlayout with
    | @word blanks _ rest _ hblanks hends hrest =>
      have hword := hname.pieces.wordAt_dashes (position + byteLength blanks)
      have hflag := isFlag_dashes name.toList (position + byteLength blanks)
      obtain ⟨words, hwords, hrest, hhead⟩ := hentries _ rest hrest
      have hentry := OptionWords.flag hflag rfl hempty hequals hhead hrest
      rw [String.ofList_toList] at hentry
      exact ⟨_, .word hblanks hword hends hwords, hentry, by simp [hflag]⟩
  | @inline name value spelling valueSpelling hname hvalue =>
    cases hlayout with
    | @word blanks _ rest _ hblanks hends hrest =>
      have hsign : Piece false ['='] ['='] := .bare (by decide)
      have hword := (hname.pieces.append (.cons hsign hvalue.pieces)).wordAt_dashes
        (position + byteLength blanks)
      have hflag := isFlag_dashes (name.toList ++ '=' :: value.toList)
        (position + byteLength blanks)
      obtain ⟨words, hwords, hrest, -⟩ := hentries _ rest hrest
      have hentry := OptionWords.inline hflag rfl hempty hequals hrest
      rw [String.ofList_toList, String.ofList_toList] at hentry
      exact ⟨_, .word hblanks hword hends hwords, hentry, by simp [hflag]⟩
  | @separate name value spelling valueSpelling hname hvalue hdashes =>
    cases hlayout with
    | @word blanks _ behind _ hblanks hends hlayout =>
      cases hlayout with
      | @word between _ rest _ hbetween hends' hrest =>
        have hword := hname.pieces.wordAt_dashes (position + byteLength blanks)
        have hflag := isFlag_dashes name.toList (position + byteLength blanks)
        obtain ⟨quoted, hnext, hnextFlag⟩ := hvalue.exists_wordAt hdashes _
        obtain ⟨words, hwords, hrest, -⟩ := hentries _ rest hrest
        have hentry := OptionWords.separate hflag rfl hempty hequals hnextFlag hrest
        rw [String.ofList_toList, String.ofList_toList] at hentry
        exact ⟨_, .word hblanks hword hends (.word hbetween hnext hends' hwords), hentry,
          by simp [hflag]⟩

private theorem SpellsOptions.readAs {entries : List (String × OptionValue)}
    {writtens : List (List Char)} (h : SpellsOptions entries writtens)
    (hnames : ∀ entry ∈ entries, entry.1 ≠ "" ∧ '=' ∉ entry.1.toList) :
    ReadAs writtens entries := by
  induction h with
  | nil =>
    intro position cs hlayout
    cases hlayout with
    | blank hblank => exact ⟨[], .blank hblank, .nil, by simp⟩
  | cons hfirst _ ih =>
    rw [List.forall_mem_cons] at hnames
    exact hfirst.readAs_append hnames.1.1 hnames.1.2 (ih hnames.2)

theorem isBare_of_isTypeChar {c : Char} (h : isTypeChar c = true) : isBare c = true := by
  refine isBare_iff.2 ⟨isBlank_of_isTypeChar h, ?_, ?_, ?_⟩ <;> rintro rfl <;> revert h <;> decide

theorem bare_of_isTypeName {name : List Char} (h : isTypeName name = true) :
    name ≠ [] ∧ ∀ c ∈ name, isBare c = true := by
  obtain ⟨hne, hchars⟩ := Bool.and_eq_true_iff.1 h
  refine ⟨by simpa using hne, ?_⟩
  intro c hc
  exact isBare_of_isTypeChar (List.all_eq_true.1 hchars c hc)

/-- A stage type stands on one line. -/
theorem lineFeed_not_mem_of_isTypeName {name : List Char} (h : isTypeName name = true) :
    '\n' ∉ name := by
  intro hmem
  obtain ⟨hblank, -⟩ := isBare_iff.1 ((bare_of_isTypeName h).2 _ hmem)
  cases hblank

/-- A text that writes a stage has words that write it. -/
private theorem SpellsStage.exists_stageWords {stage : Stage} {cs : List Char}
    (h : SpellsStage stage cs) (hwritable : stage.Writable) (position : Nat) :
    ∃ words, WordsAt position cs words ∧ StageWords words stage := by
  obtain ⟨hoptions, hlayout⟩ := h
  obtain ⟨hne, hbare⟩ := bare_of_isTypeName hwritable.type
  cases hlayout with
  | @word blanks _ rest _ hblanks hends hrest =>
    have hword := wordAt_bare hne hbare (position + byteLength blanks)
    obtain ⟨words, hwords, hentries, -⟩ := hoptions.readAs hwritable.names _ rest hrest
    have hflag : Word.isFlag ⟨stage.type.toList, false, position + byteLength blanks⟩ = false :=
      isFlag_bare_eq_false.2 hwritable.dashes
    have hstage := StageWords.mk rfl hflag hwritable.type hentries
      (Options.merges_self stage.options)
    rw [String.ofList_toList] at hstage
    exact ⟨_, .word hblanks hword hends hwords, hstage⟩

/-- Whatever spellings and layout are chosen, the text is one of the grammar that writes the
    stages. -/
theorem SpellsStages.stagesAt {stages : List Stage} {cs : List Char} (h : SpellsStages stages cs)
    (hwritable : ∀ stage ∈ stages, stage.Writable) (position : Nat) :
    StagesAt position cs stages := by
  induction h generalizing position with
  | last hstage =>
    obtain ⟨words, hwords, hwrites⟩ :=
      hstage.exists_stageWords (List.forall_mem_singleton.1 hwritable) position
    exact .last hwords hwrites
  | pipe hstage _ ih =>
    rw [List.forall_mem_cons] at hwritable
    obtain ⟨words, hwords, hwrites⟩ := hstage.exists_stageWords hwritable.1 position
    exact .pipe hwords hwrites (ih hwritable.2 _)

/-! There is always a spelling: double quotes fit every text. -/

private theorem exists_spellsOptions {entries : List (String × OptionValue)}
    (h : ∀ entry ∈ entries, entry.2 ≠ .flag false) : ∃ words, SpellsOptions entries words := by
  have hadmits : ∀ text : String, Spelling.double.Admits text.toList := fun _ => trivial
  induction entries with
  | nil => exact ⟨[], .nil⟩
  | cons entry entries ih =>
    rw [List.forall_mem_cons] at h
    obtain ⟨words, hwords⟩ := ih h.2
    obtain ⟨name, value⟩ := entry
    match value with
    | .text value => exact ⟨_, .cons (.inline (hadmits name) (hadmits value)) hwords⟩
    | .flag true => exact ⟨_, .cons (.flag (hadmits name)) hwords⟩
    | .flag false => exact absurd rfl h.1

private theorem isBlank_space : ∀ c ∈ [' '], Text.isBlank c = true :=
  List.forall_mem_singleton.2 (by decide)

private theorem endsWord_space (cs : List Char) : EndsWord (' ' :: cs) := by
  simp [EndsWord, Text.isBlank]

private theorem exists_laidOut (words : List (List Char)) :
    ∃ cs, LaidOut words cs ∧ EndsWord cs := by
  induction words with
  | nil => exact ⟨[], .blank (by simp), by simp [EndsWord]⟩
  | cons word words ih =>
    obtain ⟨rest, hrest, hends⟩ := ih
    exact ⟨_, .word isBlank_space hends hrest, endsWord_space _⟩

theorem exists_spellsStages {stages : List Stage} (hne : stages ≠ [])
    (hwritable : ∀ stage ∈ stages, stage.Writable) : ∃ cs, SpellsStages stages cs := by
  have hspelled : ∀ stage : Stage, stage.Writable → ∃ cs, SpellsStage stage cs := by
    intro stage hstage
    obtain ⟨words, hwords⟩ := exists_spellsOptions hstage.values
    obtain ⟨cs, hlayout, -⟩ := exists_laidOut (stage.type.toList :: words)
    exact ⟨cs, hwords, hlayout⟩
  induction stages with
  | nil => exact absurd rfl hne
  | cons stage stages ih =>
    rw [List.forall_mem_cons] at hwritable
    obtain ⟨cs, hcs⟩ := hspelled stage hwritable.1
    cases stages with
    | nil => exact ⟨cs, .last hcs⟩
    | cons next stages =>
      obtain ⟨rest, hrest⟩ := ih (by simp) hwritable.2
      exact ⟨_, .pipe hcs hrest⟩

/-! Nothing else is ever read. -/

private theorem OptionWords.writable {words : List Word} {entries : List (String × OptionValue)}
    (h : OptionWords words entries) :
    ∀ entry ∈ entries,
      (entry.1 ≠ "" ∧ '=' ∉ entry.1.toList) ∧ entry.2 ≠ .flag false := by
  have hname : ∀ name : List Char, name ≠ [] → '=' ∉ name →
      String.ofList name ≠ "" ∧ '=' ∉ (String.ofList name).toList := by
    intro name hne hequals
    rw [String.toList_ofList, ne_eq, ← String.toList_eq_nil_iff, String.toList_ofList]
    exact ⟨hne, hequals⟩
  induction h with
  | nil => simp
  | inline _ _ hne hequals _ ih =>
    rw [List.forall_mem_cons]
    exact ⟨⟨hname _ hne hequals, by simp⟩, ih⟩
  | separate _ _ hne hequals _ _ ih =>
    rw [List.forall_mem_cons]
    exact ⟨⟨hname _ hne hequals, by simp⟩, ih⟩
  | flag _ _ hne hequals _ _ ih =>
    rw [List.forall_mem_cons]
    exact ⟨⟨hname _ hne hequals, by simp⟩, ih⟩

theorem StageWords.writable {words : List Word} {stage : Stage} (h : StageWords words stage) :
    stage.Writable := by
  obtain @⟨⟨text, quoted, offset⟩, _, _, _, hquoted, hflag, htype, hentries, hoptions⟩ := h
  cases hquoted
  refine ⟨?_, ?_, ?_, ?_⟩
  · rw [String.toList_ofList]
    exact htype
  · rw [String.toList_ofList]
    exact isFlag_bare_eq_false.1 hflag
  · intro entry hentry
    exact (hentries.writable entry (hoptions.mem_entries hentry)).1
  · intro entry hentry
    exact (hentries.writable entry (hoptions.mem_entries hentry)).2

theorem StagesAt.writable {position : Nat} {cs : List Char} {stages : List Stage}
    (h : StagesAt position cs stages) : stages ≠ [] ∧ ∀ stage ∈ stages, stage.Writable := by
  induction h with
  | last _ hstage => exact ⟨by simp, List.forall_mem_singleton.2 hstage.writable⟩
  | pipe _ hstage _ ih => exact ⟨by simp, List.forall_mem_cons.2 ⟨hstage.writable, ih.2⟩⟩

end Expression

/-- Stages that can be written are given back by parsing, whatever spellings and layout they are
    written in, with their options in the same order. Conversely parsing gives only stages that can
    be written, and at least one. -/
theorem Pipeline.parse_spelled :
    (∀ stages : List Stage, stages ≠ [] → (∀ stage ∈ stages, stage.Writable) →
      (∃ cs, SpellsStages stages cs) ∧
        ∀ expression : String, SpellsStages stages expression.toList →
          ∃ pipeline, parse expression = .ok pipeline ∧ pipeline.stages = stages) ∧
    ∀ (expression : String) (pipeline : Pipeline), parse expression = .ok pipeline →
      pipeline.stages ≠ [] ∧ ∀ stage ∈ pipeline.stages, stage.Writable := by
  constructor
  · intro stages hne hwritable
    refine ⟨exists_spellsStages hne hwritable, ?_⟩
    intro expression hspelled
    have hwrites : Writes expression stages := hspelled.stagesAt hwritable 0
    exact ⟨⟨label expression.toList stages, stages⟩, parse_eq_ok_iff.2 ⟨hwrites, rfl⟩, rfl⟩
  · intro expression pipeline hparse
    exact (parse_eq_ok_iff.1 hparse).1.writable

/-- A name with a blank in single quotes, and a text with a pipe and a quote in double quotes. -/
theorem Pipeline.parse_spelled_quoted :
    ∃ pipeline, parse "echo --'a b' \"|\\\"\"" = .ok pipeline ∧
      pipeline.stages = [⟨"echo", .ofList [("a b", .text "|\"")]⟩] := by
  have hwritable : ∀ stage ∈ [(⟨"echo", .ofList [("a b", .text "|\"")]⟩ : Stage)],
      stage.Writable := by
    rw [List.forall_mem_singleton]
    exact ⟨by decide, by decide, by decide, by decide⟩
  have hname : Spelling.single.Admits "a b".toList := by
    rw [Spelling.Admits]
    decide
  have hvalue : Spelling.double.Admits "|\"".toList := trivial
  have hspelled : SpellsStage ⟨"echo", .ofList [("a b", .text "|\"")]⟩
      ([] ++ ("echo".toList ++
        ([' '] ++ ("--'a b'".toList ++ ([' '] ++ ("\"|\\\"\"".toList ++ [])))))) :=
    ⟨.cons (.separate hname hvalue (by decide)) .nil,
      .word (by simp) (endsWord_space _) (.word isBlank_space (endsWord_space _)
        (.word isBlank_space (by simp [EndsWord]) (.blank (by simp))))⟩
  exact (parse_spelled.1 _ (by simp) hwritable).2 _ (.last hspelled)

end Stageflow
