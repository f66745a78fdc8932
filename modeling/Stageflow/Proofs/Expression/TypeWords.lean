import Stageflow.Proofs.Expression.Spelling

namespace Stageflow

namespace Expression

open Text

/-- A text begins with a stage type as it is, and the word ends behind it. -/
def BeginsWith (type text : List Char) : Prop :=
  ∃ rest, text = type ++ rest ∧ EndsWord rest

/-- The first word of a text, as it is written, stands for a stage type. Its first character is
    the first one of the type; quoted pieces may stand only behind it. -/
inductive FirstWord : List Char → List Char → List Char → Prop where
  | mk {c : Char} {writtens texts rest : List Char} (hc : isBare c = true)
      (hpieces : Pieces writtens texts) (hends : EndsWord rest) :
      FirstWord (c :: texts) (c :: writtens ++ rest) (c :: writtens)

/-! Words neither begin nor end with a blank, so that trimming stops at them. -/

private theorem Pieces.ends {written text : List Char} (h : Pieces written text) :
    (∀ c ∈ written.head?, Text.isBlank c = false) ∧
      ∀ c ∈ written.getLast?, Text.isBlank c = false := by
  induction h with
  | nil => simp
  | cons first _ ih =>
    obtain ⟨⟨c, hhead, hfirst⟩, d, hlast, hend⟩ := first.ends
    rw [Option.mem_def] at hhead hlast
    rw [List.head?_append, List.getLast?_append, hhead, hlast]
    constructor
    · rintro _ ⟨⟩
      exact hfirst
    · intro e he
      rw [Option.mem_def, Option.or_eq_some_iff] at he
      rcases he with he | ⟨-, he⟩
      · exact ih.2 e he
      · cases he
        exact hend

/-- A trimmed segment begins with its first word. -/
private theorem WordsAt.exists_trim {position : Nat} {text : List Char} {head : Word}
    {words : List Word} (h : WordsAt position text (head :: words)) :
    ∃ place written rest, WordAt place written head ∧ EndsWord rest ∧
      trim text = written ++ rest := by
  cases h with
  | @word _ blanks written behind _ _ hblanks hword hends hrest =>
    obtain ⟨rest, blanks', rfl, hblanks', hlast⟩ := exists_append_blanks behind
    refine ⟨_, written, rest, hword, ?_, ?_⟩
    · cases rest with
      | nil => simp [EndsWord]
      | cons c rest => exact hends
    · obtain ⟨first, others⟩ := hword
      obtain ⟨hbegin, hend⟩ := (Pieces.cons first others).ends
      obtain ⟨⟨c, hc, -⟩, -⟩ := first.ends
      rw [← List.append_assoc (_ ++ _) rest, trim_append hblanks hblanks']
      apply trim_eq_self
      · rw [List.append_assoc, List.head?_append, Option.mem_def.1 hc]
        rw [List.head?_append, Option.mem_def.1 hc] at hbegin
        exact hbegin
      · intro d hd
        rw [List.getLast?_append, Option.mem_def, Option.or_eq_some_iff] at hd
        rcases hd with hd | ⟨-, hd⟩
        · exact hlast d hd
        · exact hend d hd

/-- The type of a stage is written by the first word of its segment. -/
private theorem StageWords.exists_firstWord {position : Nat} {text : List Char} {words : List Word}
    {stage : Stage} (hwords : WordsAt position text words) (h : StageWords words stage) :
    ∃ written, FirstWord stage.type.toList (trim text) written := by
  obtain @⟨head, words, _, _, hquoted, -, -, -, -⟩ := h
  obtain ⟨place, written, rest, hword, hends, htrim⟩ := hwords.exists_trim
  obtain ⟨first, others⟩ := hword
  rw [htrim, String.toList_ofList]
  cases first with
  | bare hc => exact ⟨_, .mk hc others hends⟩
  | single => cases hquoted
  | double => cases hquoted

/-! A word without quotes is written as its text. -/

private theorem Pieces.eq_of_not_mem {written text : List Char} (h : Pieces written text)
    (hsingle : '\'' ∉ written) (hdouble : '"' ∉ written) : written = text := by
  induction h with
  | nil => rfl
  | cons first _ ih =>
    rw [List.mem_append, not_or] at hsingle hdouble
    rw [ih hsingle.2 hdouble.2]
    cases first with
    | bare => rfl
    | single => exact absurd List.mem_cons_self hsingle.1
    | double => exact absurd List.mem_cons_self hdouble.1

/-- Pieces that begin with bare characters stand for these characters first. -/
private theorem Pieces.exists_of_bare_append {bare behind text : List Char}
    (hbare : ∀ c ∈ bare, isBare c = true) (h : Pieces (bare ++ behind) text) :
    ∃ more, text = bare ++ more ∧ Pieces behind more := by
  induction bare generalizing text with
  | nil => exact ⟨text, rfl, h⟩
  | cons c bare ih =>
    rw [List.forall_mem_cons] at hbare
    obtain ⟨-, hsingle, hdouble, -⟩ := isBare_iff.1 hbare.1
    generalize hwritten : c :: bare ++ behind = written at h
    cases h with
    | nil => cases hwritten
    | cons first rest =>
      cases first with
      | bare =>
        obtain ⟨rfl, rfl⟩ := List.cons_eq_cons.1 hwritten
        obtain ⟨more, rfl, hmore⟩ := ih hbare.2 rest
        exact ⟨more, rfl, hmore⟩
      | single => exact absurd (List.cons_eq_cons.1 hwritten).1 hsingle
      | double => exact absurd (List.cons_eq_cons.1 hwritten).1 hdouble

/-- Where a word ends no pieces begin. -/
private theorem Pieces.eq_nil_of_endsWord {written text rest : List Char} (h : Pieces written text)
    (hends : EndsWord (written ++ rest)) : written = [] := by
  cases written with
  | nil => rfl
  | cons c written =>
    have hblank : Text.isBlank c = true := hends c rfl
    rw [h.ends.1 c rfl] at hblank
    cases hblank

private theorem FirstWord.eq_of_beginsWith {type text written : List Char}
    (h : FirstWord type text written) (htype : ∀ c ∈ type, isBare c = true)
    (hbegins : BeginsWith type text) : written = type := by
  obtain @⟨c, writtens, texts, rest, hc, hpieces, hends⟩ := h
  obtain ⟨behind, heq, hbehind⟩ := hbegins
  rw [List.forall_mem_cons] at htype
  rw [List.cons_append, List.cons_append, List.cons_eq_cons] at heq
  rcases List.append_eq_append_iff.1 heq.2 with ⟨more, rfl, hrest⟩ | ⟨more, rfl, hmore⟩
  · -- The type goes on where the word ends.
    rw [hrest] at hends
    have hpieces : Pieces more more := .of_bare fun d hd => htype.2 d (List.mem_append_right _ hd)
    rw [hpieces.eq_nil_of_endsWord hends, List.append_nil]
  · -- The word goes on behind the type.
    obtain ⟨others, hothers, hpieces⟩ := Pieces.exists_of_bare_append htype.2 hpieces
    rw [hmore] at hbehind
    rw [hpieces.eq_nil_of_endsWord hbehind, List.append_nil]

/-- A text begins with its stage type as it is exactly if the first word has no quotes. -/
theorem FirstWord.beginsWith_iff {type text written : List Char} (h : FirstWord type text written)
    (htype : isTypeName type = true) :
    BeginsWith type text ↔ '\'' ∉ written ∧ '"' ∉ written := by
  obtain ⟨-, hbare⟩ := bare_of_isTypeName htype
  constructor
  · intro hbegins
    rw [h.eq_of_beginsWith hbare hbegins]
    constructor
    · intro hmem
      exact (isBare_iff.1 (hbare _ hmem)).2.1 rfl
    · intro hmem
      exact (isBare_iff.1 (hbare _ hmem)).2.2.1 rfl
  · rintro ⟨hsingle, hdouble⟩
    obtain ⟨hc, hpieces, hends⟩ := h
    rw [List.mem_cons, not_or] at hsingle hdouble
    rw [hpieces.eq_of_not_mem hsingle.2 hdouble.2]
    exact ⟨_, rfl, hends⟩

end Expression

open Expression

namespace Pipeline

/-- How stage types are written. Each segment of an expression that parses begins, apart from
    blanks, with a word for the type of its stage, and the first character of this word is that of
    the type. Quotes behind it are taken away as in any other word, so that a segment begins with
    its stage type as it is exactly if the word has none. -/
theorem parse_types_written (expression : String) (pipeline : Pipeline)
    (h : parse expression = .ok pipeline) :
    ∃ segments, split expression.toList = .ok segments ∧
      List.Forall₂ (fun segment stage => ∃ written,
        FirstWord stage.type.toList (Text.trim segment.text) written ∧
          (BeginsWith stage.type.toList (Text.trim segment.text) ↔
            '\'' ∉ written ∧ '"' ∉ written)) segments pipeline.stages := by
  obtain ⟨segments, hsplits, hholds⟩ := (parse_eq_ok_iff.1 h).1.exists_segments
  refine ⟨segments, split_eq_ok_iff.2 hsplits, hholds.imp ?_⟩
  rintro segment stage ⟨words, hwords, hstage⟩
  obtain ⟨written, hfirst⟩ := hstage.exists_firstWord hwords
  exact ⟨written, hfirst, hfirst.beginsWith_iff hstage.writable.type⟩

/-- A stage type without quotes, and one with a quoted end. -/
theorem parse_types_written_quoted :
    ∃ pipeline, parse " a | b'c'" = .ok pipeline ∧
      ∃ segments, split " a | b'c'".toList = .ok segments ∧
        List.Forall₂ (fun segment stage => ∃ written,
          FirstWord stage.type.toList (Text.trim segment.text) written ∧
            (BeginsWith stage.type.toList (Text.trim segment.text) ↔
              '\'' ∉ written ∧ '"' ∉ written)) segments pipeline.stages := by
  have hstages : Expression.stages " a | b'c'".toList = .ok [⟨"a", .empty⟩, ⟨"bc", .empty⟩] := by
    decide +kernel
  have hparse : parse " a | b'c'" = .ok ⟨label " a | b'c'".toList _, _⟩ :=
    parse_eq_ok_iff.2 ⟨stages_eq_ok_iff.1 hstages, rfl⟩
  exact ⟨_, hparse, parse_types_written _ _ hparse⟩

/-- An expression parses in which a stage type is written with quotes around its end, so that its
    only segment does not begin with the type. -/
theorem parse_accepts_quotes_in_type :
    ∃ pipeline, parse "a\"b\"" = .ok pipeline ∧ pipeline.types = ["ab"] ∧
      split "a\"b\"".toList = .ok [⟨0, "a\"b\"".toList⟩] ∧
      ¬ BeginsWith "ab".toList (Text.trim "a\"b\"".toList) := by
  have hstages : Expression.stages "a\"b\"".toList = .ok [⟨"ab", .empty⟩] := by
    decide +kernel
  have hparse : parse "a\"b\"" = .ok ⟨label "a\"b\"".toList _, _⟩ :=
    parse_eq_ok_iff.2 ⟨stages_eq_ok_iff.1 hstages, rfl⟩
  refine ⟨_, hparse, rfl, by decide +kernel, ?_⟩
  rintro ⟨rest, heq, -⟩
  cases heq

end Pipeline

end Stageflow
