import Stageflow.Failure.Advice
import Stageflow.Proofs.Expression.Faults

namespace Stageflow

theorem occursIn_iff {part cs : List Char} : occursIn part cs = true ↔ part <:+: cs := by
  induction cs with
  | nil => simp [occursIn]
  | cons c cs ih =>
    rw [occursIn, Bool.or_eq_true, ih, List.isPrefixOf_iff_prefix, List.infix_cons_iff]

/-! A phrase in a longer text. -/

/-- A phrase without a given character does not reach across that character. -/
theorem infix_append_cons_iff {part cs ds : List Char} {c : Char} (h : c ∉ part) :
    part <:+: cs ++ c :: ds ↔ part <:+: cs ∨ part <:+: ds := by
  constructor
  · intro hpart
    rcases List.infix_append_iff.1 hpart with hpart | hpart | ⟨before, behind, rfl, hbefore, hbehind⟩
    · exact .inl hpart
    · rcases List.infix_cons_iff.1 hpart with hpart | hpart
      · rcases List.prefix_cons_iff.1 hpart with rfl | ⟨rest, rfl, -⟩
        · exact .inl List.nil_infix
        · exact absurd List.mem_cons_self h
      · exact .inr hpart
    · rcases List.prefix_cons_iff.1 hbehind with rfl | ⟨rest, rfl, -⟩
      · rw [List.append_nil]
        exact .inl hbefore.isInfix
      · exact absurd (List.mem_append_right before List.mem_cons_self) h
  · rintro (hpart | hpart)
    · exact hpart.trans (List.prefix_append cs (c :: ds)).isInfix
    · exact hpart.trans ((List.suffix_cons c ds).trans (List.suffix_append cs (c :: ds))).isInfix

/-- A phrase without any of the characters that separate two texts does not reach across them. -/
theorem infix_append_append_iff {part separators : List Char} (hne : separators ≠ [])
    (h : ∀ c ∈ separators, c ∉ part) (cs ds : List Char) :
    part <:+: cs ++ (separators ++ ds) ↔ part <:+: cs ∨ part <:+: ds := by
  induction separators generalizing cs with
  | nil => exact absurd rfl hne
  | cons c separators ih =>
    rw [List.forall_mem_cons] at h
    rw [List.cons_append, infix_append_cons_iff h.1]
    cases separators with
    | nil => rfl
    | cons d separators =>
      have hrest := ih (List.cons_ne_nil d separators) h.2 []
      rw [List.nil_append] at hrest
      rw [hrest]
      constructor
      · rintro (hpart | hpart | hpart)
        · exact .inl hpart
        · rw [List.infix_nil.1 hpart]
          exact .inl List.nil_infix
        · exact .inr hpart
      · rintro (hpart | hpart)
        · exact .inl hpart
        · exact .inr (.inr hpart)

/-- A phrase that can be told from the texts and numbers that stand in a message: it has no single
    quote, which stands around texts, and no digit. -/
structure Phrase (part : List Char) : Prop where
  unquoted : '\'' ∉ part
  digitless : ∀ c ∈ part, c.isDigit = false

private theorem Phrase.infix_number_iff {part : List Char} (h : Phrase part) (n : Nat)
    (cs ds : List Char) :
    part <:+: cs ++ ((toString n).toList ++ ds) ↔ part <:+: cs ∨ part <:+: ds := by
  have hdigits : (toString n).toList = Nat.toDigits 10 n := Nat.toList_repr
  rw [hdigits]
  apply infix_append_append_iff Nat.toDigits_ne_nil
  intro c hc hmem
  have hdigit : c.isDigit = true := Nat.isDigit_of_mem_toDigits (by omega) (by omega) hc
  rw [h.digitless c hmem] at hdigit
  cases hdigit

namespace Expression

namespace Fault

/-- The fixed parts of the message for a fault. -/
def wording : Fault → List String
  | .blank => ["expression is empty"]
  | .unterminated _ => ["unterminated quote starting at position "]
  | .noStageType _ _ => ["segment ", " has no stage type"]
  | .invalidStageType .. => ["invalid stage type ", " in segment "]
  | .unexpectedArgument .. =>
    ["unexpected argument ", " for stage ", " (options are written --name value)"]
  | .emptyOptionName _ _ => ["empty option name in stage "]

/-- The texts of an expression that the message for a fault repeats. -/
def repeated : Fault → List String
  | .blank | .unterminated _ | .noStageType _ _ => []
  | .invalidStageType text _ _ => [text]
  | .unexpectedArgument text type _ => [text, type]
  | .emptyOptionName type _ => [type]

/-! How messages are put together. -/

private theorem toList_message_unterminated (opened : Nat) :
    (unterminated opened).message.toList =
      "unterminated quote starting at position ".toList ++ ((toString opened).toList ++ []) := by
  have hmessage : (unterminated opened).message =
      "unterminated quote starting at position " ++ toString opened := rfl
  rw [hmessage, String.toList_append, List.append_nil]

private theorem toList_message_noStageType (segment position : Nat) :
    (noStageType segment position).message.toList =
      "segment ".toList ++ ((toString segment).toList ++ " has no stage type".toList) := by
  have hmessage : (noStageType segment position).message =
      "segment " ++ toString segment ++ " has no stage type" := rfl
  rw [hmessage, String.toList_append, String.toList_append, List.append_assoc]

private theorem toList_message_invalidStageType (text : String) (segment position : Nat) :
    (invalidStageType text segment position).message.toList =
      "invalid stage type ".toList ++ '\'' :: (text.toList ++ '\'' ::
        (" in segment ".toList ++ ((toString segment).toList ++ []))) := by
  have hmessage : (invalidStageType text segment position).message =
      "invalid stage type '" ++ text ++ "' in segment " ++ toString segment := rfl
  have hbefore : "invalid stage type '".toList = "invalid stage type ".toList ++ ['\''] := by simp
  have hbehind : "' in segment ".toList = '\'' :: " in segment ".toList := by simp
  rw [hmessage]
  simp only [String.toList_append, hbefore, hbehind, List.append_assoc, List.cons_append,
    List.nil_append, List.append_nil]

private theorem toList_message_unexpectedArgument (text type : String) (position : Nat) :
    (unexpectedArgument text type position).message.toList =
      "unexpected argument ".toList ++ '\'' :: (text.toList ++ '\'' ::
        (" for stage ".toList ++ '\'' :: (type.toList ++ '\'' ::
          " (options are written --name value)".toList))) := by
  have hmessage : (unexpectedArgument text type position).message =
      "unexpected argument '" ++ text ++ "' for stage '" ++ type ++
        "' (options are written --name value)" := rfl
  have hbefore : "unexpected argument '".toList = "unexpected argument ".toList ++ ['\''] := by simp
  have hbetween : "' for stage '".toList = '\'' :: (" for stage ".toList ++ ['\'']) := by simp
  have hbehind : "' (options are written --name value)".toList =
      '\'' :: " (options are written --name value)".toList := by simp
  rw [hmessage]
  simp only [String.toList_append, hbefore, hbetween, hbehind, List.append_assoc,
    List.cons_append, List.nil_append]

private theorem toList_message_emptyOptionName (type : String) (position : Nat) :
    (emptyOptionName type position).message.toList =
      "empty option name in stage ".toList ++ '\'' :: (type.toList ++ '\'' :: []) := by
  have hmessage : (emptyOptionName type position).message =
      "empty option name in stage '" ++ type ++ "'" := rfl
  have hbefore : "empty option name in stage '".toList =
      "empty option name in stage ".toList ++ ['\''] := by simp
  have hbehind : "'".toList = ['\''] := by simp
  rw [hmessage]
  simp only [String.toList_append, hbefore, hbehind, List.append_assoc, List.cons_append,
    List.nil_append]

/-- A phrase stands in the message for a fault exactly if it stands in the wording or in a text
    that is repeated, as quotes and numbers separate these. -/
theorem infix_message_iff {part : List Char} (h : Phrase part) (hne : part ≠ []) (fault : Fault) :
    part <:+: fault.message.toList ↔
      (∃ text ∈ fault.wording, part <:+: text.toList) ∨
        ∃ text ∈ fault.repeated, part <:+: text.toList := by
  have hnil : ¬ part <:+: [] := by
    rw [List.infix_nil]
    exact hne
  have hcons : ∀ (first : String) (rest : List String),
      (∃ text ∈ first :: rest, part <:+: text.toList) ↔
        part <:+: first.toList ∨ ∃ text ∈ rest, part <:+: text.toList := by
    simp
  have hnone : ¬ ∃ text ∈ ([] : List String), part <:+: text.toList := by
    simp
  cases fault with
  | blank =>
    have hmessage : blank.message = "expression is empty" := rfl
    rw [hmessage]
    simp only [wording, repeated, hcons, hnone, or_false]
  | unterminated opened =>
    rw [toList_message_unterminated, h.infix_number_iff]
    simp only [wording, repeated, hcons, hnil, hnone, or_false]
  | noStageType segment position =>
    rw [toList_message_noStageType, h.infix_number_iff]
    simp only [wording, repeated, hcons, hnone, or_false]
  | invalidStageType text segment position =>
    rw [toList_message_invalidStageType, infix_append_cons_iff h.unquoted,
      infix_append_cons_iff h.unquoted, h.infix_number_iff]
    simp only [wording, repeated, hcons, hnil, hnone, or_false]
    grind
  | unexpectedArgument text type position =>
    rw [toList_message_unexpectedArgument, infix_append_cons_iff h.unquoted,
      infix_append_cons_iff h.unquoted, infix_append_cons_iff h.unquoted,
      infix_append_cons_iff h.unquoted]
    simp only [wording, repeated, hcons, hnone, or_false]
    grind
  | emptyOptionName type position =>
    rw [toList_message_emptyOptionName, infix_append_cons_iff h.unquoted,
      infix_append_cons_iff h.unquoted]
    simp only [wording, repeated, hcons, hnil, hnone, or_false]

/-- Only the message for an open quote is worded with the word. -/
private theorem wording_unterminated_iff {fault : Fault} :
    (∃ text ∈ fault.wording, "unterminated".toList <:+: text.toList) ↔
      ∃ opened, fault = .unterminated opened := by
  have hany : fault.wording.any (fun text => occursIn "unterminated".toList text.toList) =
      match fault with
      | .unterminated _ => true
      | _ => false := by
    cases fault <;> rfl
  simp only [← occursIn_iff, ← List.any_eq_true, hany]
  cases fault <;> simp

/-- Only the message for a missing stage type is worded with the phrase. -/
private theorem wording_noStageType_iff {fault : Fault} :
    (∃ text ∈ fault.wording, "no stage type".toList <:+: text.toList) ↔
      ∃ segment position, fault = .noStageType segment position := by
  have hany : fault.wording.any (fun text => occursIn "no stage type".toList text.toList) =
      match fault with
      | .noStageType _ _ => true
      | _ => false := by
    cases fault <;> rfl
  simp only [← occursIn_iff, ← List.any_eq_true, hany]
  cases fault <;> simp

end Fault

private theorem StageFault.ne_unterminated {index position opened : Nat} {words : List Word}
    {fault : Fault} (h : StageFault index position words fault) : fault ≠ .unterminated opened := by
  cases h with
  | blank => simp
  | head => simp
  | type => simp
  | option _ _ _ hoption =>
    obtain ⟨-, -, hword⟩ := hoption
    cases hword <;> simp

private theorem FaultAt.ne_unterminated {index position opened : Nat} {cs : List Char}
    {fault : Fault} (h : FaultAt index position cs fault) : fault ≠ .unterminated opened := by
  induction h with
  | last _ hfault => exact hfault.ne_unterminated
  | pipe _ hfault => exact hfault.ne_unterminated
  | later _ _ _ ih => exact ih

/-- The fault of an expression is an open quote exactly if it leaves one open. -/
theorem exists_leavesOpen_iff {cs : List Char} {fault : Fault} (h : stages cs = .error fault) :
    (∃ opened, LeavesOpen opened cs) ↔ ∃ opened, fault = .unterminated opened := by
  constructor
  · rintro ⟨opened, hopen⟩
    rw [stages_of_leavesOpen hopen] at h
    cases h
    exact ⟨opened, rfl⟩
  · rintro ⟨opened, rfl⟩
    by_cases hblank : cs.all Text.isBlank = true
    · rw [stages_of_blank hblank] at h
      cases h
    by_cases hopen : ∃ opened, LeavesOpen opened cs
    · exact hopen
    · rw [not_exists] at hopen
      exact absurd rfl ((stages_eq_error_iff hblank hopen).1 h).ne_unterminated

end Expression

open Expression

namespace Advice

/-- The step about open quotes in the advice for an expression. -/
def closeQuotes : String :=
  "Close every opening quote with the same quote character"

/-- The steps about segments without a stage type in the advice for an expression. -/
def startSegments : List String :=
  ["Every segment between `|` must start with a stage type",
    "Remove doubled or trailing pipe characters"]

/-- The last step in the advice for an expression, whatever its fault. -/
def quoteValues : String :=
  "Quote values that contain spaces or `|`"

/-- The steps between the first and the last are there because of words in the message. -/
theorem mem_steps_fixExpression {message step : String} :
    step ∈ (fixExpression message).steps ↔
      step = "The parser reported: " ++ message ∨
        ("unterminated".toList <:+: message.toList ∧ step = closeQuotes) ∨
        ("no stage type".toList <:+: message.toList ∧ step ∈ startSegments) ∨
        step = quoteValues := by
  unfold fixExpression closeQuotes startSegments quoteValues
  simp only [List.mem_append, List.mem_singleton, List.mem_ite_nil_right, occursIn_iff, or_assoc]

private theorem ne_reported {message step : String} (h : step.toList.head? ≠ some 'T') :
    step ≠ "The parser reported: " ++ message := by
  rintro rfl
  apply h
  rw [String.toList_append]
  rfl

theorem closeQuotes_mem_iff {message : String} :
    closeQuotes ∈ (fixExpression message).steps ↔ "unterminated".toList <:+: message.toList := by
  have hreported : closeQuotes ≠ "The parser reported: " ++ message := ne_reported (by simp [closeQuotes])
  have hstart : closeQuotes ∉ startSegments := by simp [closeQuotes, startSegments]
  have hvalues : closeQuotes ≠ quoteValues := by simp [closeQuotes, quoteValues]
  rw [mem_steps_fixExpression]
  simp only [hreported, hstart, hvalues, and_true, and_false, or_false, false_or]

theorem startSegments_mem_iff {message step : String} (h : step ∈ startSegments) :
    step ∈ (fixExpression message).steps ↔ "no stage type".toList <:+: message.toList := by
  have hall : ∀ step ∈ startSegments,
      step.toList.head? ≠ some 'T' ∧ step ≠ closeQuotes ∧ step ≠ quoteValues := by
    simp [startSegments, closeQuotes, quoteValues]
  obtain ⟨hfirst, hclose, hvalues⟩ := hall step h
  rw [mem_steps_fixExpression]
  simp only [ne_reported hfirst, hclose, hvalues, h, and_true, and_false, or_false, false_or]

end Advice

namespace Pipeline

/-- What the advice for an expression that does not parse depends on. It tells to close quotes if
    the expression leaves a quote open, and how segments start if one has no stage type. The only
    other reason for either is a text of the expression that the message repeats, when this text
    has the words in it by which the advice tells faults apart. -/
theorem parse_advice (expression : String) (failure : Failure) (available : List String)
    (h : parse expression = .error failure) :
    ∃ fault advice, Expression.stages expression.toList = .error fault ∧
      failure = .ofFault fault ∧ Advice.ofFailure? failure available = some advice ∧
      (Advice.closeQuotes ∈ advice.steps ↔
        (∃ opened, LeavesOpen opened expression.toList) ∨
          ∃ text ∈ fault.repeated, "unterminated".toList <:+: text.toList) ∧
      ∀ step ∈ Advice.startSegments, (step ∈ advice.steps ↔
        (∃ segment position, fault = .noStageType segment position) ∨
          ∃ text ∈ fault.repeated, "no stage type".toList <:+: text.toList) := by
  obtain ⟨fault, hstages, rfl⟩ := parse_eq_error_iff.1 h
  have hunterminated : Phrase "unterminated".toList := ⟨by simp, by simp [Char.isDigit]⟩
  have hnoStageType : Phrase "no stage type".toList := ⟨by simp, by simp [Char.isDigit]⟩
  refine ⟨fault, .fixExpression fault.message, hstages, rfl, rfl, ?_, ?_⟩
  · rw [Advice.closeQuotes_mem_iff, fault.infix_message_iff hunterminated (by simp),
      Fault.wording_unterminated_iff, exists_leavesOpen_iff hstages]
  · intro step hstep
    rw [Advice.startSegments_mem_iff hstep, fault.infix_message_iff hnoStageType (by simp),
      Fault.wording_noStageType_iff]

/-- A quote that is left open, in front of a pipe. -/
theorem parse_advice_quote :
    ∃ failure, parse "a 'b |" = .error failure ∧
      ∃ fault advice, Expression.stages "a 'b |".toList = .error fault ∧
        failure = .ofFault fault ∧ Advice.ofFailure? failure [] = some advice ∧
        (Advice.closeQuotes ∈ advice.steps ↔
          (∃ opened, LeavesOpen opened "a 'b |".toList) ∨
            ∃ text ∈ fault.repeated, "unterminated".toList <:+: text.toList) ∧
        ∀ step ∈ Advice.startSegments, (step ∈ advice.steps ↔
          (∃ segment position, fault = .noStageType segment position) ∨
            ∃ text ∈ fault.repeated, "no stage type".toList <:+: text.toList) := by
  have hstages : Expression.stages "a 'b |".toList = .error (.unterminated 2) := by
    decide +kernel
  have hparse : parse "a 'b |" = .error (.ofFault (.unterminated 2)) :=
    parse_eq_error_iff.2 ⟨_, hstages, rfl⟩
  exact ⟨_, hparse, parse_advice _ _ [] hparse⟩

/-- The advice tells to close quotes for an expression that has none: its second word is what the
    advice looks for in the message. -/
theorem parse_advice_misled :
    ∃ failure advice, parse "a unterminated" = .error failure ∧
      Advice.ofFailure? failure [] = some advice ∧ Advice.closeQuotes ∈ advice.steps ∧
      ¬ ∃ opened, LeavesOpen opened "a unterminated".toList := by
  have hstages : Expression.stages "a unterminated".toList =
      .error (.unexpectedArgument "unterminated" "a" 2) := by
    decide +kernel
  refine ⟨_, _, parse_eq_error_iff.2 ⟨_, hstages, rfl⟩, rfl, ?_, ?_⟩
  · have hmessage : (Fault.unexpectedArgument "unterminated" "a" 2).message =
        "unexpected argument '" ++ "unterminated" ++ "' for stage 'a'" ++
          " (options are written --name value)" := rfl
    rw [Advice.closeQuotes_mem_iff, hmessage, ← occursIn_iff]
    decide +kernel
  · have hbehind : Quoting.bare.behind 0 "a unterminated".toList = .bare := by
      decide +kernel
    rintro ⟨opened, hopen⟩
    rw [leavesOpen_iff, hbehind] at hopen
    cases hopen

end Pipeline

end Stageflow
