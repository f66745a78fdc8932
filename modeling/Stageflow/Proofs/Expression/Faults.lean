import Stageflow.Proofs.Expression.Acceptance
import Stageflow.Proofs.Expression.OpenQuotes

namespace Stageflow

namespace Expression

open Text

/-- What is wrong with a word that is no value: it is no option, or an option without a name. -/
inductive WordFault (type : String) (word : Word) : Fault → Prop where
  | argument (hflag : word.isFlag = false) :
      WordFault type word (.unexpectedArgument (String.ofList word.text) type word.offset)
  | nameless (hflag : word.isFlag = true)
      (htext : word.text = ['-', '-'] ∨ ∃ value, word.text = '-' :: '-' :: '=' :: value) :
      WordFault type word (.emptyOptionName type word.offset)

/-- The first fault of the words behind a stage type. The words before the faulty one are options,
    and it is not the value of the last of them. -/
inductive OptionFault (type : String) : List Word → Fault → Prop where
  | mk {before behind : List Word} {word : Word} {entries : List (String × OptionValue)}
      {fault : Fault} (hbefore : OptionWords before entries)
      (hvalue : AwaitsValue before → word.isFlag = true) (hword : WordFault type word fault) :
      OptionFault type (before ++ word :: behind) fault

/-- The first fault of the words of the segment with the number `index` that starts at the byte
    `position`. -/
inductive StageFault (index position : Nat) : List Word → Fault → Prop where
  | blank : StageFault index position [] (.noStageType index position)
  | head {head : Word} {words : List Word} (hhead : head.quoted = true ∨ head.isFlag = true) :
      StageFault index position (head :: words) (.noStageType index head.offset)
  | type {head : Word} {words : List Word} (hquoted : head.quoted = false)
      (hflag : head.isFlag = false) (htype : isTypeName head.text = false) :
      StageFault index position (head :: words)
        (.invalidStageType (String.ofList head.text) index head.offset)
  | option {head : Word} {words : List Word} {fault : Fault} (hquoted : head.quoted = false)
      (hflag : head.isFlag = false) (htype : isTypeName head.text = true)
      (hoption : OptionFault (String.ofList head.text) words fault) :
      StageFault index position (head :: words) fault

/-- The first fault of an expression, the rest of which starts at the byte `position` with the
    segment `index`. The segments before the faulty one write stages. -/
inductive FaultAt : Nat → Nat → List Char → Fault → Prop where
  | last {index position : Nat} {text : List Char} {words : List Word} {fault : Fault}
      (hwords : WordsAt position text words) (hfault : StageFault index position words fault) :
      FaultAt index position text fault
  | pipe {index position : Nat} {text rest : List Char} {words : List Word} {fault : Fault}
      (hwords : WordsAt position text words) (hfault : StageFault index position words fault) :
      FaultAt index position (text ++ '|' :: rest) fault
  | later {index position : Nat} {text rest : List Char} {words : List Word} {stage : Stage}
      {fault : Fault} (hwords : WordsAt position text words) (hstage : StageWords words stage)
      (hrest : FaultAt (index + 1) (position + byteLength text + 1) rest fault) :
      FaultAt index position (text ++ '|' :: rest) fault

/-- What is reported of a fault in the segments of an expression: a message that names what is at
    fault, and the byte at which that starts. -/
inductive Fault.ReportedAs : Fault → String → Nat → Prop where
  | noStageType (segment position : Nat) :
      ReportedAs (.noStageType segment position) s!"segment {segment} has no stage type" position
  | invalidStageType (text : String) (segment position : Nat) :
      ReportedAs (.invalidStageType text segment position)
        s!"invalid stage type '{text}' in segment {segment}" position
  | unexpectedArgument (text type : String) (position : Nat) :
      ReportedAs (.unexpectedArgument text type position)
        s!"unexpected argument '{text}' for stage '{type}' (options are written --name value)"
        position
  | emptyOptionName (type : String) (position : Nat) :
      ReportedAs (.emptyOptionName type position) s!"empty option name in stage '{type}'" position

/-! The words of a stage. -/

theorem AwaitsValue.of_cons {word : Word} {words : List Word} (h : AwaitsValue (word :: words)) :
    (words = [] ∧ word.isFlag = true ∧ '=' ∉ word.text) ∨ AwaitsValue words := by
  obtain ⟨last, hlast, hawaits⟩ := h
  cases words with
  | nil =>
    obtain rfl : word = last := by simpa using hlast
    exact .inl ⟨rfl, hawaits⟩
  | cons next words =>
    rw [List.getLast?_cons_cons] at hlast
    exact .inr ⟨last, hlast, hawaits⟩

private theorem readOptions_of_optionFault {type : String} {options : Options} {words : List Word}
    {fault : Fault} (h : OptionFault type words fault) :
    readOptions type options words = .error fault := by
  obtain ⟨hbefore, hvalue, hword⟩ := h
  rw [readOptions_append hbefore (by simpa using hvalue), readOptions.eq_def]
  cases hword with
  | argument hflag => simp [hflag]
  | nameless hflag htext =>
    rcases htext with htext | ⟨value, htext⟩ <;> simp [hflag, htext, splitAtEquals]

private theorem OptionFault.cons_inline {type : String} {word : Word} {words : List Word}
    {name value : List Char} {fault : Fault} (h : OptionFault type words fault)
    (hflag : word.isFlag = true) (htext : word.text = '-' :: '-' :: (name ++ '=' :: value))
    (hname : name ≠ []) (hequals : '=' ∉ name) : OptionFault type (word :: words) fault := by
  obtain ⟨hbefore, hvalue, hword⟩ := h
  rw [← List.cons_append]
  refine .mk (.inline hflag htext hname hequals hbefore) ?_ hword
  intro hawaits
  rcases hawaits.of_cons with ⟨-, -, hnone⟩ | hawaits
  · simp [htext] at hnone
  · exact hvalue hawaits

private theorem OptionFault.cons_separate {type : String} {word next : Word} {words : List Word}
    {name : List Char} {fault : Fault} (h : OptionFault type words fault)
    (hflag : word.isFlag = true) (htext : word.text = '-' :: '-' :: name) (hname : name ≠ [])
    (hequals : '=' ∉ name) (hnext : next.isFlag = false) :
    OptionFault type (word :: next :: words) fault := by
  obtain ⟨hbefore, hvalue, hword⟩ := h
  rw [← List.cons_append, ← List.cons_append]
  refine .mk (.separate hflag htext hname hequals hnext hbefore) ?_ hword
  intro hawaits
  rcases hawaits.of_cons with ⟨hnil, -⟩ | hawaits
  · cases hnil
  rcases hawaits.of_cons with ⟨-, hnextFlag, -⟩ | hawaits
  · rw [hnext] at hnextFlag
    cases hnextFlag
  · exact hvalue hawaits

private theorem OptionFault.cons_flag {type : String} {word : Word} {words : List Word}
    {name : List Char} {fault : Fault} (h : OptionFault type words fault)
    (hflag : word.isFlag = true) (htext : word.text = '-' :: '-' :: name) (hname : name ≠ [])
    (hequals : '=' ∉ name) (hnext : ∀ next ∈ words.head?, next.isFlag = true) :
    OptionFault type (word :: words) fault := by
  obtain @⟨before, behind, faulty, entries, _, hbefore, hvalue, hword⟩ := h
  have hhead : ∀ next ∈ before.head?, next.isFlag = true := by
    intro next hmem
    refine hnext next ?_
    rw [List.head?_append, Option.mem_def.1 hmem]
    rfl
  rw [← List.cons_append]
  refine .mk (.flag hflag htext hname hequals hhead hbefore) ?_ hword
  intro hawaits
  rcases hawaits.of_cons with ⟨rfl, -⟩ | hawaits
  · exact hnext faulty rfl
  · exact hvalue hawaits

private theorem optionFault_of_readOptions {type : String} {options : Options} {words : List Word}
    {fault : Fault} (h : readOptions type options words = .error fault) :
    OptionFault type words fault := by
  fun_induction readOptions type options words with
  | case1 => cases h
  | case2 options word rest hflag =>
    cases h
    rw [← List.nil_append (word :: rest)]
    refine .mk .nil ?_ (.argument (by simpa using hflag))
    rintro ⟨_, hlast, -⟩
    cases hlast
  | case3 options word rest hflag name inline hsplit hname =>
    cases h
    rw [Bool.not_eq_true', Bool.not_eq_false] at hflag
    rw [List.isEmpty_iff] at hname
    subst hname
    rw [← List.nil_append (word :: rest)]
    refine .mk .nil (fun _ => hflag) (.nameless hflag ?_)
    cases inline with
    | none => exact .inl (Word.text_eq_of_splitAtEquals_none hflag hsplit).1
    | some value => exact .inr ⟨value, (Word.text_eq_of_splitAtEquals_some hflag hsplit).1⟩
  | case4 options word rest hflag name hname _ value hsplit ih =>
    rw [Bool.not_eq_true', Bool.not_eq_false] at hflag
    obtain ⟨htext, hequals⟩ := Word.text_eq_of_splitAtEquals_some hflag hsplit
    exact (ih h).cons_inline hflag htext (by simpa using hname) hequals
  | case5 options word hflag name hname _ hsplit ih =>
    rw [readOptions] at h
    cases h
  | case6 options word hflag name hname _ next rest hnext hsplit ih =>
    rw [Bool.not_eq_true', Bool.not_eq_false] at hflag
    obtain ⟨htext, hequals⟩ := Word.text_eq_of_splitAtEquals_none hflag hsplit
    exact (ih h).cons_flag hflag htext (by simpa using hname) hequals (by simpa using hnext)
  | case7 options word hflag name hname _ next rest hnext hsplit ih =>
    rw [Bool.not_eq_true', Bool.not_eq_false] at hflag
    obtain ⟨htext, hequals⟩ := Word.text_eq_of_splitAtEquals_none hflag hsplit
    exact (ih h).cons_separate hflag htext (by simpa using hname) hequals (by simpa using hnext)

/-- The words of a segment are no stage exactly where they have a first fault, which is found. -/
theorem readStage_eq_error_iff {index position : Nat} {words : List Word} {fault : Fault} :
    readStage index position words = .error fault ↔ StageFault index position words fault := by
  constructor
  · intro h
    cases words with
    | nil =>
      cases h
      exact .blank
    | cons head rest =>
      rw [readStage] at h
      split at h
      next hhead =>
        cases h
        exact .head (Bool.or_eq_true_iff.1 hhead)
      next hhead =>
        rw [Bool.or_eq_true, not_or, Bool.not_eq_true, Bool.not_eq_true] at hhead
        split at h
        next htype =>
          cases h
          exact .type hhead.1 hhead.2 (by simpa using htype)
        next htype =>
          cases hoptions : readOptions (String.ofList head.text) .empty rest with
          | ok options =>
            simp only [hoptions] at h
            cases h
          | error found =>
            simp only [hoptions] at h
            cases h
            exact .option hhead.1 hhead.2 (by simpa using htype)
              (optionFault_of_readOptions hoptions)
  · intro h
    cases h with
    | blank => rfl
    | head hhead => simp [readStage, hhead]
    | type hquoted hflag htype => simp [readStage, hquoted, hflag, htype]
    | option hquoted hflag htype hoption =>
      simp only [readStage, hquoted, hflag, htype, readOptions_of_optionFault hoption]
      rfl

/-! Segments. -/

/-- The fault of an expression without pipes outside quotes is that of its only segment. -/
private theorem faultAt_last_iff {index position : Nat} {text : List Char} {words : List Word}
    {fault : Fault} (hwords : WordsAt position text words) :
    FaultAt index position text fault ↔ StageFault index position words fault := by
  constructor
  · intro h
    cases h with
    | last hothers hfault =>
      rw [hwords.unique hothers]
      exact hfault
    | pipe hothers => exact absurd hwords.passes (not_passes_append_pipe hothers.passes)
    | later hothers => exact absurd hwords.passes (not_passes_append_pipe hothers.passes)
  · exact .last hwords

/-- The fault of an expression with a pipe is that of its first segment, or that of the rest. -/
private theorem faultAt_pipe_iff {index position : Nat} {text rest : List Char} {words : List Word}
    {fault : Fault} (hwords : WordsAt position text words) :
    FaultAt index position (text ++ '|' :: rest) fault ↔
      StageFault index position words fault ∨
        ∃ stage, StageWords words stage ∧
          FaultAt (index + 1) (position + byteLength text + 1) rest fault := by
  constructor
  · intro h
    generalize hcs : text ++ '|' :: rest = cs at h
    cases h with
    | last hothers =>
      subst hcs
      exact absurd hothers.passes (not_passes_append_pipe hwords.passes)
    | pipe hothers hfault =>
      obtain ⟨rfl, rfl⟩ := append_pipe_inj hwords.passes hothers.passes hcs
      rw [hwords.unique hothers]
      exact .inl hfault
    | later hothers hstage hrest =>
      obtain ⟨rfl, rfl⟩ := append_pipe_inj hwords.passes hothers.passes hcs
      rw [hwords.unique hothers]
      exact .inr ⟨_, hstage, hrest⟩
  · rintro (hfault | ⟨stage, hstage, hrest⟩)
    · exact .pipe hwords hfault
    · exact .later hwords hstage hrest

private theorem bind_eq_error_iff {α β : Type} {x : Except Fault α} {f : α → Except Fault β}
    {fault : Fault} :
    (x >>= f) = .error fault ↔ x = .error fault ∨ ∃ a, x = .ok a ∧ f a = .error fault := by
  cases x <;> simp [bind, Except.bind]

private theorem readStages_cons_eq_error_iff {index : Nat} {segment : Segment}
    {segments : List Segment} {found : List Word} (hfound : words segment = .ok found)
    {fault : Fault} : readStages index (segment :: segments) = .error fault ↔
      StageFault index segment.offset found fault ∨
        ∃ stage, StageWords found stage ∧ readStages (index + 1) segments = .error fault := by
  simp only [readStages, hfound, bind_eq_error_iff, readStage_eq_error_iff, readStage_eq_ok_iff,
    Except.ok.injEq, exists_eq_left', reduceCtorEq, false_or, pure, Except.pure, and_false,
    exists_false, or_false]

/-- Segments are read up to the first fault. Each leaves no quote open, so that it is made of words
    and has no fault but those of its stage. -/
private theorem SplitsAt.readStages_eq_error_iff {position index : Nat} {cs : List Char}
    {segments : List Segment} {fault : Fault} (h : SplitsAt position cs segments) :
    readStages index segments = .error fault ↔ FaultAt index position cs fault := by
  induction h generalizing index with
  | @last position text htext =>
    obtain ⟨found, hfound⟩ := exists_wordsAt htext
    rw [readStages_cons_eq_error_iff (words_of_wordsAt hfound), faultAt_last_iff hfound]
    simp [readStages]
  | @pipe position text rest segments htext _ ih =>
    obtain ⟨found, hfound⟩ := exists_wordsAt htext
    rw [readStages_cons_eq_error_iff (words_of_wordsAt hfound), faultAt_pipe_iff hfound]
    simp only [ih]

/-! What stands at a position. -/

theorem WordsAt.exists_before {position : Nat} {cs : List Char} {words : List Word}
    (h : WordsAt position cs words) : ∀ word ∈ words,
      ∃ before behind, cs = before ++ behind ∧ word.offset = position + byteLength before := by
  intro word hword
  obtain ⟨before, written, behind, hcs, hoffset, -⟩ := h.exists_written word hword
  exact ⟨before, written ++ behind, hcs, hoffset⟩

theorem WordFault.position?_eq {type : String} {word : Word} {fault : Fault}
    (h : WordFault type word fault) : fault.position? = some word.offset := by
  cases h <;> rfl

/-- A stage is at fault at its start or at one of its words. -/
theorem StageFault.exists_position {index position : Nat} {words : List Word} {fault : Fault}
    (h : StageFault index position words fault) :
    ∃ place, fault.position? = some place ∧
      (place = position ∨ ∃ word ∈ words, place = word.offset) := by
  cases h with
  | blank => exact ⟨_, rfl, .inl rfl⟩
  | head => exact ⟨_, rfl, .inr ⟨_, List.mem_cons_self, rfl⟩⟩
  | type => exact ⟨_, rfl, .inr ⟨_, List.mem_cons_self, rfl⟩⟩
  | option _ _ _ hoption =>
    obtain ⟨-, -, hword⟩ := hoption
    exact ⟨_, hword.position?_eq, .inr ⟨_, by simp, rfl⟩⟩

private theorem exists_before_of_stageFault {index position : Nat} {text : List Char}
    {words : List Word} {fault : Fault} (hwords : WordsAt position text words)
    (h : StageFault index position words fault) :
    ∃ before behind, text = before ++ behind ∧
      fault.position? = some (position + byteLength before) := by
  obtain ⟨place, hplace, rfl | ⟨word, hword, rfl⟩⟩ := h.exists_position
  · exact ⟨[], text, rfl, hplace⟩
  · obtain ⟨before, behind, htext, hoffset⟩ := hwords.exists_before word hword
    rw [hoffset] at hplace
    exact ⟨before, behind, htext, hplace⟩

theorem FaultAt.exists_before {index position : Nat} {cs : List Char} {fault : Fault}
    (h : FaultAt index position cs fault) :
    ∃ before behind, cs = before ++ behind ∧
      fault.position? = some (position + byteLength before) := by
  induction h with
  | last hwords hfault => exact exists_before_of_stageFault hwords hfault
  | pipe hwords hfault =>
    obtain ⟨before, behind, rfl, hplace⟩ := exists_before_of_stageFault hwords hfault
    exact ⟨before, _, List.append_assoc .., hplace⟩
  | @later index position text rest words stage fault hwords hstage hrest ih =>
    obtain ⟨before, behind, rfl, hplace⟩ := ih
    refine ⟨text ++ '|' :: before, behind, by simp, ?_⟩
    rw [hplace, byteLength_append, byteLength_cons, show '|'.utf8Size = 1 from rfl]
    simp only [Nat.add_assoc]

/-! Reports. -/

theorem Fault.ReportedAs.eq {fault : Fault} {message : String} {position : Nat}
    (h : fault.ReportedAs message position) :
    fault.message = message ∧ fault.position? = some position := by
  cases h <;> exact ⟨rfl, rfl⟩

theorem StageFault.exists_reportedAs {index position : Nat} {words : List Word} {fault : Fault}
    (h : StageFault index position words fault) :
    ∃ message place, fault.ReportedAs message place := by
  cases h with
  | blank => exact ⟨_, _, .noStageType _ _⟩
  | head => exact ⟨_, _, .noStageType _ _⟩
  | type => exact ⟨_, _, .invalidStageType _ _ _⟩
  | option _ _ _ hoption =>
    obtain ⟨-, -, hword⟩ := hoption
    cases hword with
    | argument => exact ⟨_, _, .unexpectedArgument _ _ _⟩
    | nameless => exact ⟨_, _, .emptyOptionName _ _⟩

theorem FaultAt.exists_reportedAs {index position : Nat} {cs : List Char} {fault : Fault}
    (h : FaultAt index position cs fault) : ∃ message place, fault.ReportedAs message place := by
  induction h with
  | last _ hfault => exact hfault.exists_reportedAs
  | pipe _ hfault => exact hfault.exists_reportedAs
  | later _ _ _ ih => exact ih

/-! Outcomes. -/

theorem stages_of_blank {cs : List Char} (hblank : cs.all Text.isBlank = true) :
    stages cs = .error .blank := by
  rw [stages, if_pos hblank]
  rfl

theorem stages_of_leavesOpen {opened : Nat} {cs : List Char} (h : LeavesOpen opened cs) :
    stages cs = .error (.unterminated opened) := by
  rw [stages, if_neg h.not_all_isBlank, split_eq_error_iff.2 ⟨opened, h, rfl⟩]
  rfl

theorem stages_eq_error_iff {cs : List Char} {fault : Fault}
    (hblank : ¬ cs.all Text.isBlank = true) (hopen : ∀ opened, ¬ LeavesOpen opened cs) :
    stages cs = .error fault ↔ FaultAt 0 0 cs fault := by
  obtain ⟨segments, hsplits⟩ := exists_splitsAt hopen
  rw [stages, if_neg hblank, split_eq_ok_iff.2 hsplits]
  exact hsplits.readStages_eq_error_iff

/-- The fault of a blank expression has no position; any other has that of a character of the
    expression or of its end. -/
theorem position?_of_stages {cs : List Char} {fault : Fault} (h : stages cs = .error fault) :
    (fault.position? = none ↔ cs.all Text.isBlank = true) ∧
      ∀ place, fault.position? = some place →
        ∃ before behind, cs = before ++ behind ∧ place = byteLength before := by
  by_cases hblank : cs.all Text.isBlank = true
  · rw [stages_of_blank hblank] at h
    cases h
    exact ⟨iff_of_true rfl hblank, fun _ h => by cases h⟩
  suffices hplace : ∃ before behind, cs = before ++ behind ∧
      fault.position? = some (byteLength before) by
    obtain ⟨before, behind, hcs, hplace⟩ := hplace
    rw [hplace]
    refine ⟨iff_of_false (by simp) hblank, ?_⟩
    rintro _ ⟨⟩
    exact ⟨before, behind, hcs, rfl⟩
  by_cases hopen : ∃ opened, LeavesOpen opened cs
  · obtain ⟨opened, hopened⟩ := hopen
    rw [stages_of_leavesOpen hopened] at h
    cases h
    obtain ⟨before, quote, inside, -, rfl, rfl⟩ := hopened.exists_quote
    exact ⟨before, _, rfl, rfl⟩
  · rw [not_exists] at hopen
    obtain ⟨before, behind, hcs, hplace⟩ := ((stages_eq_error_iff hblank hopen).1 h).exists_before
    rw [Nat.zero_add] at hplace
    exact ⟨before, behind, hcs, hplace⟩

end Expression

open Expression Text

namespace Pipeline

theorem parse_eq_error_iff {expression : String} {failure : Failure} :
    parse expression = .error failure ↔
      ∃ fault, Expression.stages expression.toList = .error fault ∧ failure = .ofFault fault := by
  rw [parse, Expression.parse]
  cases Expression.stages expression.toList with
  | error found =>
    constructor
    · rintro ⟨⟩
      exact ⟨found, rfl, rfl⟩
    · rintro ⟨fault, ⟨⟩, rfl⟩
      rfl
  | ok stages =>
    constructor
    · rintro ⟨⟩
    · rintro ⟨fault, ⟨⟩, -⟩

/-- Parse errors point at the right place. Their positions count bytes and are absent for blank
    expressions only. A quote that is never closed is reported before anything else, at its byte.
    Without such a quote an expression that is not blank is rejected exactly if one of its segments
    writes no stage, and the error reports the only fault that the first of these has. -/
theorem parse_error_place (expression : String) :
    (∀ failure, parse expression = .error failure →
      ∃ message position?, failure = .parse message position? ∧
        (position? = none ↔ Text.isBlankText expression = true) ∧
        ∀ position, position? = some position →
          position ≤ expression.utf8ByteSize ∧
            (⟨position⟩ : String.Pos.Raw).IsValid expression) ∧
    (Text.isBlankText expression = true →
      parse expression = .error (.parse "expression is empty" none)) ∧
    (∀ opened, LeavesOpen opened expression.toList →
      parse expression = .error
        (.parse s!"unterminated quote starting at position {opened}" (some opened))) ∧
    (Text.isBlankText expression = false →
      (∀ opened, ¬ LeavesOpen opened expression.toList) →
        (∀ failure, parse expression = .error failure ↔
          ∃ fault message position, FaultAt 0 0 expression.toList fault ∧
            fault.ReportedAs message position ∧ failure = .parse message (some position)) ∧
        ∀ fault other, FaultAt 0 0 expression.toList fault →
          FaultAt 0 0 expression.toList other → fault = other) := by
  refine ⟨?_, ?_, ?_, ?_⟩
  · intro failure h
    obtain ⟨fault, hstages, rfl⟩ := parse_eq_error_iff.1 h
    obtain ⟨hnone, hplace⟩ := position?_of_stages hstages
    refine ⟨fault.message, fault.position?, rfl, hnone, ?_⟩
    intro position hposition
    obtain ⟨before, behind, hcs, rfl⟩ := hplace position hposition
    exact isValid_of_append hcs
  · intro hblank
    exact parse_eq_error_iff.2 ⟨_, stages_of_blank hblank, rfl⟩
  · intro opened hopened
    exact parse_eq_error_iff.2 ⟨_, stages_of_leavesOpen hopened, rfl⟩
  · intro hblank hopen
    have hfaults : ∀ fault, Expression.stages expression.toList = .error fault ↔
        FaultAt 0 0 expression.toList fault :=
      fun _ => stages_eq_error_iff (Bool.eq_false_iff.1 hblank) hopen
    constructor
    · intro failure
      simp only [parse_eq_error_iff, hfaults]
      constructor
      · rintro ⟨fault, hfault, rfl⟩
        obtain ⟨message, position, hreported⟩ := hfault.exists_reportedAs
        obtain ⟨hmessage, hposition⟩ := hreported.eq
        exact ⟨fault, message, position, hfault, hreported, by
          rw [Failure.ofFault, hmessage, hposition]⟩
      · rintro ⟨fault, message, position, hfault, hreported, rfl⟩
        obtain ⟨hmessage, hposition⟩ := hreported.eq
        exact ⟨fault, hfault, by rw [Failure.ofFault, hmessage, hposition]⟩
    · intro fault other hfault hother
      rw [← hfaults] at hfault hother
      exact Except.error.inj (hfault.symm.trans hother)

/-- The second segment begins with an option. Its position counts two bytes for the letter that has
    two, and the options in front of it are no fault. -/
theorem parse_error_place_dashes :
    Text.isBlankText "a --b 'é'|--" = false ∧
      (∀ opened, ¬ LeavesOpen opened "a --b 'é'|--".toList) ∧
      FaultAt 0 0 "a --b 'é'|--".toList (.noStageType 1 11) ∧
      parse "a --b 'é'|--" = .error (.parse "segment 1 has no stage type" (some 11)) := by
  have hblank : Text.isBlankText "a --b 'é'|--" = false := by
    decide +kernel
  have hopen : ∀ opened, ¬ LeavesOpen opened "a --b 'é'|--".toList := by
    have hbehind : Quoting.bare.behind 0 "a --b 'é'|--".toList = .bare := by
      decide +kernel
    intro opened hopened
    rw [leavesOpen_iff, hbehind] at hopened
    cases hopened
  have hfault : FaultAt 0 0 "a --b 'é'|--".toList (.noStageType 1 11) := by
    rw [← stages_eq_error_iff (Bool.eq_false_iff.1 hblank) hopen]
    decide +kernel
  obtain ⟨-, -, -, hplace⟩ := parse_error_place "a --b 'é'|--"
  obtain ⟨hparse, -⟩ := hplace hblank hopen
  exact ⟨hblank, hopen, hfault, (hparse _).2 ⟨_, _, _, hfault, .noStageType 1 11, rfl⟩⟩

end Pipeline

end Stageflow
