import Stageflow.Text.Lines
import Stageflow.Text.Quoted

namespace Stageflow.Text

/-! The lines of a text. -/

/-- The lines that a text consists of. A line ends with a line feed, or with a carriage return and a
    line feed; no other carriage return ends a line. A last line may lack its end, but is not
    empty then. -/
inductive HasLines : List Char → List (List Char) → Prop where
  | nil : HasLines [] []
  | last {line : List Char} (hne : line ≠ []) (hfeed : '\n' ∉ line) : HasLines line [line]
  | feed {line rest : List Char} {others : List (List Char)} (hfeed : '\n' ∉ line)
      (hreturn : line.getLast? ≠ some '\r') (hrest : HasLines rest others) :
      HasLines (line ++ '\n' :: rest) (line :: others)
  | returnFeed {line rest : List Char} {others : List (List Char)} (hfeed : '\n' ∉ line)
      (hrest : HasLines rest others) : HasLines (line ++ '\r' :: '\n' :: rest) (line :: others)

/-- A character in front of a text belongs to its first line, unless it ends a line itself. -/
private theorem HasLines.cons {c : Char} {cs line : List Char} {others : List (List Char)}
    (hfeed : c ≠ '\n') (hreturn : ∀ rest, c = '\r' → cs ≠ '\n' :: rest)
    (h : HasLines cs (line :: others)) : HasLines (c :: cs) ((c :: line) :: others) := by
  have hline : ∀ {line : List Char}, '\n' ∉ line → '\n' ∉ c :: line := by
    intro line hnot
    exact List.not_mem_cons_of_ne_of_not_mem hfeed.symm hnot
  cases h with
  | last _ hnot => exact .last (List.cons_ne_nil _ _) (hline hnot)
  | @feed _ rest _ hnot hlast hrest =>
    refine .feed (hline hnot) ?_ hrest
    cases line with
    | nil =>
      rintro ⟨⟩
      exact hreturn rest rfl rfl
    | cons d line => rwa [List.getLast?_cons_cons]
  | returnFeed hnot hrest => exact .returnFeed (hline hnot) hrest

private theorem hasLines_lines (cs : List Char) : HasLines cs (lines cs) := by
  fun_induction lines cs with
  | case1 => exact .nil
  | case2 cs ih => exact @HasLines.feed [] cs _ (by simp) (by simp) ih
  | case3 cs ih => exact @HasLines.returnFeed [] cs _ (by simp) ih
  | case4 c cs hfeed hreturn hlines _ =>
    obtain rfl := lines_eq_nil_iff.1 hlines
    exact .last (List.cons_ne_nil _ _) (by simpa using Ne.symm hfeed)
  | case5 c cs hfeed hreturn line others hlines ih =>
    rw [hlines] at ih
    exact ih.cons hfeed hreturn

private theorem lines_cons {c : Char} {cs : List Char} (hfeed : c ≠ '\n')
    (hreturn : ∀ rest, c = '\r' → cs ≠ '\n' :: rest) :
    lines (c :: cs) = (c :: (lines cs).headD []) :: (lines cs).tail := by
  rw [lines.eq_def]
  split
  next heq => cases heq
  next heq => exact absurd (List.cons.inj heq).1 hfeed
  next heq => exact absurd (List.cons.inj heq).2 (hreturn _ (List.cons.inj heq).1)
  next heq =>
    obtain ⟨rfl, rfl⟩ := List.cons.inj heq
    split
    next hlines => rw [hlines]; rfl
    next hlines => rw [hlines]; rfl

private theorem lines_last {line : List Char} (hne : line ≠ []) (hfeed : '\n' ∉ line) :
    lines line = [line] := by
  induction line with
  | nil => exact absurd rfl hne
  | cons c line ih =>
    rw [List.mem_cons, not_or] at hfeed
    have hreturn : ∀ rest, c = '\r' → line ≠ '\n' :: rest := by
      rintro rest - rfl
      exact hfeed.2 List.mem_cons_self
    rw [lines_cons (Ne.symm hfeed.1) hreturn]
    cases line with
    | nil => rfl
    | cons d line => rw [ih (List.cons_ne_nil _ _) hfeed.2]; rfl

/-- What stands in front of the end of a line is the line. -/
private theorem lines_append {line rest : List Char} {others : List (List Char)}
    (hfeed : '\n' ∉ line) (hreturn : ∀ behind, line.getLast? = some '\r' → rest ≠ '\n' :: behind)
    (hrest : lines rest = [] :: others) : lines (line ++ rest) = line :: others := by
  induction line with
  | nil => exact hrest
  | cons c line ih =>
    rw [List.mem_cons, not_or] at hfeed
    have hbehind : ∀ behind, c = '\r' → line ++ rest ≠ '\n' :: behind := by
      rintro behind rfl heq
      cases line with
      | nil => exact hreturn behind rfl heq
      | cons d line => exact hfeed.2 ((List.cons.inj heq).1 ▸ List.mem_cons_self)
    have hlast : ∀ behind, line.getLast? = some '\r' → rest ≠ '\n' :: behind := by
      intro behind h
      apply hreturn behind
      rw [List.getLast?_cons, h]
      rfl
    rw [List.cons_append, lines_cons (Ne.symm hfeed.1) hbehind, ih hfeed.2 hlast]
    rfl

/-- A text consists of its lines and of no others. -/
theorem hasLines_iff {cs : List Char} {found : List (List Char)} :
    HasLines cs found ↔ found = lines cs := by
  constructor
  · intro h
    symm
    induction h with
    | nil => rfl
    | last hne hfeed => exact lines_last hne hfeed
    | feed hfeed hreturn _ ih =>
      refine lines_append hfeed (fun _ h => absurd h hreturn) ?_
      rw [lines, ih]
    | returnFeed hfeed _ ih =>
      refine lines_append hfeed (by simp) ?_
      rw [lines, ih]
  · rintro rfl
    exact hasLines_lines cs

theorem lineFeed_not_mem_of_mem_lines {cs line : List Char} (h : line ∈ lines cs) :
    '\n' ∉ line := by
  have hlines := hasLines_lines cs
  generalize lines cs = found at h hlines
  induction hlines with
  | nil => cases h
  | last _ hfeed =>
    obtain rfl := List.mem_singleton.1 h
    exact hfeed
  | feed hfeed _ _ ih | returnFeed hfeed _ ih =>
    rcases List.mem_cons.1 h with rfl | h
    · exact hfeed
    · exact ih h

private theorem lineFeed_not_mem_toDigits {base : Nat} (hbase : 1 < base) (n : Nat) :
    '\n' ∉ Nat.toDigits base n := by
  induction n using Nat.strongRecOn with
  | ind n ih =>
    have hdigit : ∀ digit, '\n' ∉ [Nat.digitChar digit] := by
      intro digit hmem
      exact Nat.digitChar_ne '\n' (by decide) (List.mem_singleton.1 hmem).symm
    rw [Nat.toDigits_eq_if hbase]
    split
    next => exact hdigit n
    next hle =>
      rw [List.mem_append, not_or]
      exact ⟨ih (n / base) (Nat.div_lt_self (by omega) hbase), hdigit (n % base)⟩

theorem lineFeed_not_mem_number (n : Nat) : '\n' ∉ (toString n).toList := by
  have hdigits : (toString n).toList = Nat.toDigits 10 n := Nat.toList_repr
  rw [hdigits]
  exact lineFeed_not_mem_toDigits (by decide) n

private theorem lineFeed_not_mem_quotedChar (c : Char) : '\n' ∉ quotedChar c := by
  fun_cases quotedChar c with
  | case7 =>
    rw [List.mem_append, List.mem_append, not_or, not_or]
    exact ⟨⟨by decide, lineFeed_not_mem_toDigits (by decide) _⟩, by decide⟩
  | case8 _ _ _ _ hfeed => simpa using Ne.symm hfeed
  | _ => decide

/-- A text between quotes stands on one line, since the quotes escape its line feeds. -/
theorem lineFeed_not_mem_quoted (s : String) : '\n' ∉ (quoted s).toList := by
  rw [quoted, String.toList_ofList, List.cons_append, List.mem_cons, List.mem_append,
    List.mem_flatMap]
  rintro (hquote | ⟨c, -, hmem⟩ | hquote)
  · cases hquote
  · exact lineFeed_not_mem_quotedChar c hmem
  · revert hquote
    decide

/-! Texts in which every line ends with a line feed. -/

/-- Lines one behind the other, each with a line feed at its end. -/
def terminated (lines : List (List Char)) : List Char :=
  lines.flatMap (· ++ ['\n'])

/-- The lines of a text that end with a line feed, whatever stands in front of it. Nothing behind
    the last line feed is among them. -/
def terminatedLines : List Char → List (List Char)
  | [] => []
  | c :: cs =>
    if c = '\n' then [] :: terminatedLines cs
    else
      match terminatedLines cs with
      | [] => []
      | line :: rest => (c :: line) :: rest

theorem terminatedLines_append {line : List Char} (h : '\n' ∉ line) (cs : List Char) :
    terminatedLines (line ++ '\n' :: cs) = line :: terminatedLines cs := by
  induction line with
  | nil => rw [List.nil_append, terminatedLines, if_pos rfl]
  | cons c line ih =>
    rw [List.mem_cons, not_or] at h
    rw [List.cons_append, terminatedLines, if_neg (Ne.symm h.1), ih h.2]

theorem terminatedLines_terminated {lines : List (List Char)} (h : ∀ line ∈ lines, '\n' ∉ line) :
    terminatedLines (terminated lines) = lines := by
  induction lines with
  | nil => rfl
  | cons line lines ih =>
    rw [List.forall_mem_cons] at h
    have hcons : terminated (line :: lines) = line ++ '\n' :: terminated lines := by
      rw [terminated, List.flatMap_cons, List.append_assoc]
      rfl
    rw [hcons, terminatedLines_append h.1, ih h.2]

theorem terminated_append (lines others : List (List Char)) :
    terminated (lines ++ others) = terminated lines ++ terminated others :=
  List.flatMap_append

theorem terminated_flatMap {α : Type} (xs : List α) (f : α → List (List Char)) :
    terminated (xs.flatMap f) = xs.flatMap fun x => terminated (f x) :=
  List.flatMap_assoc

/-- A text of such lines ends with a line feed, unless it is empty. -/
theorem terminated_eq_nil_or (lines : List (List Char)) :
    terminated lines = [] ∨ ∃ text, terminated lines = text ++ ['\n'] := by
  rcases List.eq_nil_or_concat lines with rfl | ⟨others, last, rfl⟩
  · exact .inl rfl
  · refine .inr ⟨terminated others ++ last, ?_⟩
    rw [List.concat_eq_append, terminated, List.flatMap_append, List.flatMap_singleton,
      List.append_assoc]
    rfl

theorem length_terminatedLines (cs : List Char) : (terminatedLines cs).length = cs.count '\n' := by
  induction cs with
  | nil => rfl
  | cons c cs ih =>
    rw [terminatedLines]
    split
    next hfeed => rw [hfeed, List.length_cons, List.count_cons_self, ih]
    next hfeed =>
      rw [List.count_cons_of_ne hfeed, ← ih]
      split
      next hlines => rw [hlines]
      next hlines => rw [hlines]; rfl

theorem count_terminated (lines : List (List Char)) :
    (terminated lines).count '\n' = lines.length + lines.flatten.count '\n' := by
  induction lines with
  | nil => rfl
  | cons line lines ih =>
    rw [terminated, List.flatMap_cons, List.count_append, List.count_append, List.flatten_cons,
      List.count_append, List.length_cons, List.count_singleton_self]
    rw [terminated] at ih
    omega

private theorem intercalate_append_feed {lines : List (List Char)} (hne : lines ≠ []) :
    ['\n'].intercalate lines ++ ['\n'] = terminated lines := by
  induction lines with
  | nil => exact absurd rfl hne
  | cons line lines ih =>
    cases lines with
    | nil =>
      rw [List.intercalate_singleton, terminated, List.flatMap_singleton]
    | cons next lines =>
      rw [List.intercalate_cons_cons, List.append_assoc, ih (List.cons_ne_nil _ _),
        terminated, terminated, List.flatMap_cons, List.flatMap_cons, List.flatMap_cons]

/-- The lines of a text, each behind some spaces and with a line feed at its end. -/
theorem toList_indent {text : String} (hne : text ≠ "") (width : Nat) :
    (indent width text).toList ++ ['\n'] =
      terminated ((lines text.toList).map (List.replicate width ' ' ++ ·)) := by
  have hlines : lines text.toList ≠ [] := by
    rw [ne_eq, lines_eq_nil_iff, String.toList_eq_nil_iff]
    exact hne
  have hmap : (lines text.toList).map (List.replicate width ' ' ++ ·) ≠ [] := by
    rwa [ne_eq, List.map_eq_nil_iff]
  rw [indent, String.toList_intercalate, List.map_map, ← intercalate_append_feed hmap]
  simp only [Function.comp_def, String.toList_ofList]
  rfl

end Stageflow.Text
