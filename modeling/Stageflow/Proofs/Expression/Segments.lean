import Stageflow.Proofs.Expression.OpenQuotes
import Stageflow.Proofs.Expression.Scanning

namespace Stageflow.Expression

open Text

/-- The quoting inside quotes that were opened at the given byte. -/
def Quote.quoting : Quote → Nat → Quoting
  | .single, opened => .single opened
  | .double, opened => .double opened

namespace Scan

/-! A reader stands where the splitter does. -/

/-- How the splitter sees the place where the reader stands. It is never right behind a backslash:
    the reader has gone past the next character too, or this changes nothing for the splitter. -/
def quoting (scan : Scan) : Quoting :=
  match scan.quote with
  | none => .bare
  | some (quote, opened) => quote.quoting opened

/-- The splitter meets no pipe outside quotes from here on, and ends outside quotes. -/
def Agrees (scan : Scan) : Prop :=
  Passes scan.quoting scan.position scan.rest .bare

/-- Behind any character that neither closes quotes nor escapes another one, a text goes on inside
    the same quotes. -/
private theorem passes_quoted {quote : Quote} {opened position : Nat} {c : Char} {cs : List Char}
    (hmark : c ≠ quote.mark)
    (hescape : quote = .double → c = '\\' → ∀ e ∈ cs.head?, ¬ (e = '"' ∨ e = '\\'))
    (h : Passes ((quote.quoting opened).next position c) (position + c.utf8Size) cs .bare) :
    Passes (quote.quoting opened) (position + c.utf8Size) cs .bare := by
  cases quote with
  | single =>
    have hsingle : c ≠ '\'' := hmark
    rw [Quote.quoting, Quoting.next, if_neg hsingle] at h
    exact h
  | double =>
    have hdouble : c ≠ '"' := hmark
    by_cases hslash : c = '\\'
    · subst hslash
      cases h with
      | @cons _ _ _ e tail _ htail =>
        obtain ⟨hquote, hslash⟩ := not_or.1 (hescape rfl rfl e rfl)
        refine .cons (by simp [Quote.quoting]) ?_
        simp only [Quote.quoting, Quoting.next, hslash, hquote, if_false]
        exact htail
    · rw [Quote.quoting, Quoting.next, if_neg hslash, if_neg hdouble] at h
      exact h

theorem Agrees.of_rest {scan : Scan} {c : Char} {cs : List Char} (h : scan.Agrees)
    (hrest : scan.rest = c :: cs) :
    ¬ (scan.quoting = .bare ∧ c = '|') ∧
      Passes (scan.quoting.next scan.position c) (scan.position + c.utf8Size) cs .bare := by
  rw [Agrees, hrest] at h
  cases h with
  | cons hpipe tail => exact ⟨hpipe, tail⟩

theorem Moves.agrees {scan next : Scan} (h : scan.Moves next) (hagrees : scan.Agrees) :
    next.Agrees := by
  cases h with
  | blank hrest hquote hblank =>
    obtain ⟨-, htail⟩ := hagrees.of_rest hrest
    obtain ⟨hsingle, hdouble, -⟩ := ne_of_isBlank hblank
    simp only [quoting, hquote, Quoting.next, hdouble, hsingle, if_false] at htail
    simpa only [Agrees, quoting, pass, finish, hquote] using htail
  | @opens quote cs hrest hquote =>
    obtain ⟨-, htail⟩ := hagrees.of_rest hrest
    rw [quoting, hquote] at htail
    cases quote <;> exact htail
  | bare hrest hquote hblank hsingle hdouble =>
    obtain ⟨-, htail⟩ := hagrees.of_rest hrest
    simp only [quoting, hquote, Quoting.next, hdouble, hsingle, if_false] at htail
    simpa only [Agrees, quoting, pass, push, begin, hquote] using htail
  | @closes quote opened cs hrest hquote =>
    obtain ⟨-, htail⟩ := hagrees.of_rest hrest
    rw [quoting, hquote] at htail
    cases quote <;> exact htail
  | @escape opened e tail hrest hquote he =>
    obtain ⟨-, hescaped⟩ := hagrees.of_rest hrest
    rw [quoting, hquote] at hescaped
    simp only [Agrees, quoting, pass, push, hquote]
    cases hescaped with
    | cons _ htail => exact htail
  | @quoted quote opened c cs hrest hquote hmark hescape =>
    obtain ⟨-, htail⟩ := hagrees.of_rest hrest
    rw [quoting, hquote] at htail
    simp only [Agrees, quoting, pass, push, hquote]
    exact passes_quoted hmark hescape htail

theorem Reaches.agrees {scan final : Scan} (h : scan.Reaches final)
    (hagrees : scan.Agrees) : final.Agrees :=
  h.induction (fun _ _ hmoves => hmoves.agrees) hagrees

/-- A step inside quotes closes them and leaves the word alone, or adds to the word the character
    that it reads, for which a backslash can stand in front of a quote or backslash. -/
def KeepsText (scan : Scan) (quote : Quote) (next : Scan) : Prop :=
  (next.quote = none ∧ scan.rest = quote.mark :: next.rest ∧ next.current = scan.current) ∨
    ∃ word read c, next.quote = scan.quote ∧ scan.rest = read ++ next.rest ∧
      (read = [c] ∨ read = ['\\', c] ∧ (c = '"' ∨ c = '\\')) ∧
      scan.current = some word ∧ next.current = some { word with text := word.text ++ [c] }

/-- Nothing goes wrong where a reader stands: outside quotes it meets no pipe, and inside quotes a
    word is being read, to which every character goes. -/
structure Sound (scan : Scan) : Prop where
  no_pipe : scan.quote = none → scan.rest.head? ≠ some '|'
  keeps_word : scan.quote ≠ none → scan.current ≠ none
  keeps_text : ∀ next quote opened, scan.step = some next → scan.quote = some (quote, opened) →
    scan.KeepsText quote next

theorem Moves.keepsText {scan next : Scan} {quote : Quote} {opened : Nat} (h : scan.Moves next)
    (hkeeps : scan.KeepsWord) (hquote : scan.quote = some (quote, opened)) :
    scan.KeepsText quote next := by
  obtain ⟨word, hcurrent⟩ := Option.ne_none_iff_exists'.1 (hkeeps (by simp [hquote]))
  cases h with
  | blank _ hnone | opens _ hnone | bare _ hnone => cases hnone.symm.trans hquote
  | closes hrest hopen =>
    cases hopen.symm.trans hquote
    exact .inl ⟨rfl, hrest, rfl⟩
  | @escape _ e tail hrest _ he =>
    refine .inr ⟨word, ['\\', e], e, rfl, hrest, .inr ⟨rfl, he⟩, hcurrent, ?_⟩
    simp only [push, pass, hcurrent, Option.map_some]
  | @quoted _ _ c cs hrest =>
    refine .inr ⟨word, [c], c, rfl, hrest, .inl rfl, hcurrent, ?_⟩
    simp only [push, pass, hcurrent, Option.map_some]

theorem sound_of_agrees {scan : Scan} (hkeeps : scan.KeepsWord) (hagrees : scan.Agrees) :
    scan.Sound where
  no_pipe := by
    intro hquote hhead
    obtain ⟨cs, hrest⟩ := List.head?_eq_some_iff.1 hhead
    have hbare : scan.quoting = .bare := by rw [quoting, hquote]
    exact (hagrees.of_rest hrest).1 ⟨hbare, rfl⟩
  keeps_word := hkeeps
  keeps_text := fun _ _ _ hstep => (moves_of_step hstep).keepsText hkeeps

/-- A text that leaves no quote open and has no pipe outside quotes is read without trouble. -/
theorem Reaches.sound {segment : Segment} {scan : Scan}
    (hpasses : Passes .bare segment.offset segment.text .bare)
    (h : (start segment).Reaches scan) : scan.Sound :=
  sound_of_agrees (h.keepsWord (keepsWord_start segment)) (h.agrees hpasses)

end Scan

/-! Where segments stand. -/

/-- Segments, each with a pipe behind it. -/
def leading (segments : List Segment) : List Char :=
  segments.flatMap fun segment => segment.text ++ ['|']

/-- Segments, each with a pipe in front of it. -/
def following (segments : List Segment) : List Char :=
  segments.flatMap fun segment => '|' :: segment.text

theorem SplitsAt.following_eq {position : Nat} {cs : List Char} {segments : List Segment}
    (h : SplitsAt position cs segments) : following segments = '|' :: cs := by
  induction h with
  | last => simp [following]
  | pipe _ _ ih =>
    rw [following, List.flatMap_cons, ← following, ih]
    rfl

theorem SplitsAt.ne_nil {position : Nat} {cs : List Char} {segments : List Segment}
    (h : SplitsAt position cs segments) : segments ≠ [] := by
  cases h <;> exact List.cons_ne_nil _ _

theorem SplitsAt.intercalate_eq {position : Nat} {cs : List Char} {segments : List Segment}
    (h : SplitsAt position cs segments) : ['|'].intercalate (segments.map (·.text)) = cs := by
  induction h with
  | last => exact List.intercalate_singleton
  | pipe _ hrest ih =>
    rw [List.map_cons, List.intercalate_cons_of_ne_nil, ih, List.append_assoc]
    · rfl
    · exact mt List.map_eq_nil_iff.1 hrest.ne_nil

theorem SplitsAt.passes {position : Nat} {cs : List Char} {segments : List Segment}
    (h : SplitsAt position cs segments) :
    ∀ segment ∈ segments, Passes .bare segment.offset segment.text .bare := by
  induction h with
  | last htext => exact List.forall_mem_singleton.2 htext
  | pipe htext _ ih => exact List.forall_mem_cons.2 ⟨htext, ih⟩

private theorem byteLength_append_pipe (before inside : List Char) :
    byteLength (before ++ '|' :: inside) = byteLength before + (1 + byteLength inside) := by
  rw [byteLength_append, byteLength_cons]
  rfl

private theorem leading_cons (segment : Segment) (segments : List Segment) :
    leading (segment :: segments) = segment.text ++ '|' :: leading segments := by
  rw [leading, List.flatMap_cons, List.append_assoc]
  rfl

/-- Every segment starts behind those before it and their pipes. -/
theorem SplitsAt.place {position : Nat} {cs : List Char} {segments : List Segment}
    (h : SplitsAt position cs segments) {earlier later : List Segment} {segment : Segment}
    (hsegments : segments = earlier ++ segment :: later) :
    segment.offset = position + byteLength (leading earlier) ∧
      cs = leading earlier ++ (segment.text ++ following later) := by
  induction h generalizing earlier with
  | last =>
    obtain ⟨rfl, hsingle⟩ | ⟨_, -, hnil⟩ := List.append_eq_cons_iff.1 hsegments.symm
    · cases hsingle
      simp [leading, following]
    · simp at hnil
  | @pipe position text rest segments _ hrest ih =>
    obtain ⟨rfl, hcons⟩ | ⟨others, rfl, hothers⟩ := List.append_eq_cons_iff.1 hsegments.symm
    · cases hcons
      rw [hrest.following_eq]
      exact ⟨rfl, rfl⟩
    · obtain ⟨hoffset, hcs⟩ := ih hothers
      rw [leading_cons, byteLength_append_pipe, hoffset, hcs]
      dsimp only
      constructor
      · omega
      · rw [List.append_assoc, List.cons_append]

/-- In a text that is read without meeting a pipe outside quotes, all pipes are inside. -/
private theorem Passes.behind_ne_bare {position : Nat} {before behind : List Char}
    {final : Quoting} (h : Passes .bare position (before ++ '|' :: behind) final) :
    Quoting.bare.behind position before ≠ .bare := by
  obtain ⟨middle, hbefore, hbehind⟩ := passes_append_iff.1 h
  rw [hbefore.behind_eq]
  rintro rfl
  cases hbehind with
  | cons hpipe _ => exact hpipe ⟨rfl, rfl⟩

/-- Of two pipes in a text, one stands behind the other unless they are the same. -/
private theorem append_pipe_cases {text rest before behind : List Char}
    (h : text ++ '|' :: rest = before ++ '|' :: behind) :
    before = text ∨ (∃ inside, before = text ++ '|' :: inside ∧ rest = inside ++ '|' :: behind) ∨
      ∃ inside, text = before ++ '|' :: inside := by
  obtain ⟨inside, rfl, hinside⟩ | ⟨inside, rfl, hinside⟩ := List.append_eq_append_iff.1 h
  · cases inside with
    | nil => exact .inl (List.append_nil text)
    | cons c inside =>
      obtain ⟨rfl, hrest⟩ := List.cons_eq_cons.1 hinside
      exact .inr (.inl ⟨inside, rfl, hrest⟩)
  · cases inside with
    | nil => exact .inl (List.append_nil before).symm
    | cons c inside =>
      obtain ⟨rfl, -⟩ := List.cons_eq_cons.1 hinside
      exact .inr (.inr ⟨inside, rfl⟩)

/-- A segment starts behind a pipe exactly if that stands outside quotes. -/
theorem SplitsAt.exists_offset_iff {position : Nat} {cs before behind : List Char}
    {segments : List Segment} (h : SplitsAt position cs segments)
    (hcs : cs = before ++ '|' :: behind) :
    (∃ segment ∈ segments, segment.offset = position + byteLength before + 1) ↔
      Quoting.bare.behind position before = .bare := by
  induction h generalizing before with
  | last htext =>
    subst hcs
    refine iff_of_false ?_ htext.behind_ne_bare
    rintro ⟨segment, hsegment, hoffset⟩
    obtain rfl := List.mem_singleton.1 hsegment
    dsimp only at hoffset
    omega
  | @pipe position text rest segments htext hrest ih =>
    have hfirst : position ≠ position + byteLength before + 1 := by omega
    simp only [List.mem_cons, exists_eq_or_imp, hfirst, false_or]
    obtain rfl | ⟨inside, rfl, hinside⟩ | ⟨inside, rfl⟩ := append_pipe_cases hcs
    · -- The pipe behind the first segment.
      obtain ⟨next, later, rfl⟩ := List.exists_cons_of_ne_nil hrest.ne_nil
      obtain ⟨hoffset, -⟩ := hrest.place (List.nil_append (next :: later)).symm
      exact iff_of_true ⟨next, List.mem_cons_self, hoffset⟩ htext.behind_eq
    · -- A pipe further behind.
      have hnext : Quoting.bare.behind position (text ++ '|' :: inside) =
          Quoting.bare.behind (position + byteLength text + 1) inside := by
        rw [Quoting.behind_append, htext.behind_eq]
        rfl
      have hlength : position + byteLength (text ++ '|' :: inside) + 1 =
          position + byteLength text + 1 + byteLength inside + 1 := by
        rw [byteLength_append_pipe]
        omega
      rw [hnext, hlength]
      exact ih hinside
    · -- A pipe inside the first segment.
      refine iff_of_false ?_ htext.behind_ne_bare
      rintro ⟨segment, hsegment, hoffset⟩
      obtain ⟨earlier, later, hsegments⟩ := List.append_of_mem hsegment
      obtain ⟨hstart, -⟩ := hrest.place hsegments
      rw [byteLength_append_pipe] at hstart
      omega

/-- A segment lies in an expression between those before it and those behind it, at its bytes. Both
    ends of it are boundaries of characters. -/
structure Segment.LiesBetween (segment : Segment) (earlier later : List Segment)
    (expression : String) : Prop where
  toList_eq : expression.toList = leading earlier ++ (segment.text ++ following later)
  offset_eq : segment.offset = byteLength (leading earlier)
  start_valid : (⟨segment.offset⟩ : String.Pos.Raw).IsValid expression
  end_valid : (⟨segment.offset + byteLength segment.text⟩ : String.Pos.Raw).IsValid expression

theorem SplitsAt.liesBetween {expression : String} {segments earlier later : List Segment}
    {segment : Segment} (h : SplitsAt 0 expression.toList segments)
    (hsegments : segments = earlier ++ segment :: later) :
    segment.LiesBetween earlier later expression := by
  obtain ⟨hoffset, htext⟩ := h.place hsegments
  rw [Nat.zero_add] at hoffset
  refine ⟨htext, hoffset, ?_, ?_⟩
  · rw [hoffset]
    exact (isValid_of_append htext).2
  · rw [← List.append_assoc] at htext
    rw [hoffset, ← byteLength_append]
    exact (isValid_of_append htext).2

/-- A word is written in an expression at its byte, between blanks, pipes and the ends of the
    expression. -/
def Word.StandsIn (word : Word) (cs : List Char) : Prop :=
  ∃ before written behind, cs = before ++ (written ++ behind) ∧ word.offset = byteLength before ∧
    WordAt word.offset written word ∧
    (∀ c ∈ before.getLast?, Text.isBlank c = true ∨ c = '|') ∧
    ∀ c ∈ behind.head?, Text.isBlank c = true ∨ c = '|'

private theorem getLast?_leading {segments : List Segment} :
    ∀ c ∈ (leading segments).getLast?, c = '|' := by
  rcases List.eq_nil_or_concat segments with rfl | ⟨front, last, rfl⟩
  · simp [leading]
  · simp [leading]

private theorem head?_following {segments : List Segment} :
    ∀ c ∈ (following segments).head?, c = '|' := by
  cases segments <;> simp [following]

theorem Segment.LiesBetween.standsIn {segment : Segment} {earlier later : List Segment}
    {expression : String} (h : segment.LiesBetween earlier later expression) {found : List Word}
    (hwords : WordsAt segment.offset segment.text found) :
    ∀ word ∈ found, word.StandsIn expression.toList := by
  intro word hword
  obtain ⟨before, written, behind, htext, hoffset, hwritten, hlast, hends⟩ :=
    hwords.exists_written word hword
  refine ⟨leading earlier ++ before, written, behind ++ following later, ?_, ?_, hwritten, ?_, ?_⟩
  · rw [h.toList_eq, htext]
    simp only [List.append_assoc]
  · rw [hoffset, h.offset_eq, byteLength_append]
  · intro c hc
    rw [List.getLast?_append, Option.mem_def, Option.or_eq_some_iff] at hc
    rcases hc with hc | ⟨-, hc⟩
    · exact .inl (hlast c hc)
    · exact .inr (getLast?_leading c hc)
  · intro c hc
    rw [List.head?_append, Option.mem_def, Option.or_eq_some_iff] at hc
    rcases hc with hc | ⟨-, hc⟩
    · exact .inl (hends c hc)
    · exact .inr (head?_following c hc)

/-- A segment of an expression holds the given words. They are in the order of their bytes, and the
    reader that goes through the segment character by character finds them without trouble. -/
structure Segment.HoldsWords (segment : Segment) (expression : String) (found : List Word) :
    Prop where
  words_eq : words segment = .ok found
  reaches : ∃ final, (Scan.start segment).Reaches final ∧ final.rest = [] ∧ final.result = .ok found
  sound : ∀ scan, (Scan.start segment).Reaches scan → scan.Sound
  increasing : found.Pairwise fun word later => word.offset < later.offset
  standsIn : ∀ word ∈ found, word.StandsIn expression.toList

theorem Segment.LiesBetween.exists_holdsWords {segment : Segment} {earlier later : List Segment}
    {expression : String} (h : segment.LiesBetween earlier later expression)
    (hpasses : Passes .bare segment.offset segment.text .bare) :
    ∃ found, segment.HoldsWords expression found := by
  obtain ⟨found, hwords⟩ := exists_wordsAt hpasses
  have hfound : words segment = .ok found := words_of_wordsAt hwords
  obtain ⟨final, hreaches, hrest, hresult⟩ := Scan.exists_reaches_words segment
  exact ⟨found, hfound, ⟨final, hreaches, hrest, hresult.trans hfound⟩,
    fun _ hscan => hscan.sound hpasses, hwords.pairwise_offset, h.standsIn hwords⟩

/-- Splitting an expression and reading the words of its segments agree about quotes. The segments
    are what the pipes outside quotes cut the expression into, and each of them is read to its end.
    There is none only where a quote is never closed, which is the one that is reported. -/
theorem split_exact (expression : String) :
    (∀ segments, split expression.toList = .ok segments →
      ['|'].intercalate (segments.map (·.text)) = expression.toList ∧
      (∀ earlier segment later, segments = earlier ++ segment :: later →
        segment.LiesBetween earlier later expression) ∧
      (∀ before behind, expression.toList = before ++ '|' :: behind →
        ((∃ segment ∈ segments, segment.offset = byteLength before + 1) ↔ Closed before)) ∧
      ∀ segment ∈ segments, ∃ found, segment.HoldsWords expression found) ∧
    ∀ fault, split expression.toList = .error fault ↔
      ∃ opened, LeavesOpen opened expression.toList ∧ fault = .unterminated opened := by
  refine ⟨?_, fun fault => split_eq_error_iff⟩
  intro segments hsplit
  have hsegments : SplitsAt 0 expression.toList segments := split_eq_ok_iff.1 hsplit
  refine ⟨hsegments.intercalate_eq, fun _ _ _ => hsegments.liesBetween, ?_, ?_⟩
  · intro before behind hcs
    have hiff := hsegments.exists_offset_iff hcs
    rw [Nat.zero_add, ← endsIn_iff] at hiff
    rw [hiff]
    constructor
    · rintro ⟨hclosed⟩
      exact hclosed
    · exact .bare
  · intro segment hsegment
    obtain ⟨earlier, later, hcut⟩ := List.append_of_mem hsegment
    exact (hsegments.liesBetween hcut).exists_holdsWords (hsegments.passes segment hsegment)

/-- In single quotes a backslash stands for itself, in double quotes it takes the meaning from a
    quote. -/
example : split "a '\\'|\"\\\"|\"".toList =
    .ok [⟨0, "a '\\'".toList⟩, ⟨6, "\"\\\"|\"".toList⟩] := by
  rfl

end Stageflow.Expression
