import Stageflow.Proofs.Expression.Splitting

namespace Stageflow.Expression

open Text

theorem isBare_iff {c : Char} :
    isBare c = true ↔ Text.isBlank c = false ∧ c ≠ '\'' ∧ c ≠ '"' ∧ c ≠ '|' := by
  simp [isBare, and_assoc]

/-- No blank opens a quote or separates segments. -/
theorem ne_of_isBlank {c : Char} (h : Text.isBlank c = true) :
    c ≠ '\'' ∧ c ≠ '"' ∧ c ≠ '|' := by
  refine ⟨?_, ?_, ?_⟩ <;> rintro rfl <;> revert h <;> decide

/-! Words are closed: reading them from outside quotes leads back there and meets no pipe. -/

private theorem passes_blanks {position : Nat} {cs : List Char}
    (h : ∀ c ∈ cs, Text.isBlank c = true) : Passes .bare position cs .bare := by
  induction cs generalizing position with
  | nil => exact .nil
  | cons c cs ih =>
    rw [List.forall_mem_cons] at h
    obtain ⟨hsingle, hdouble, hpipe⟩ := ne_of_isBlank h.1
    refine .cons (by simp [hpipe]) ?_
    simp only [Quoting.next, hdouble, hsingle, if_false]
    exact ih h.2

theorem passes_single {opened position : Nat} {text : List Char} (h : '\'' ∉ text) :
    Passes (.single opened) position text (.single opened) := by
  induction text generalizing position with
  | nil => exact .nil
  | cons c cs ih =>
    rw [List.mem_cons, not_or] at h
    refine .cons (by simp) ?_
    simp only [Quoting.next, Ne.symm h.1, if_false]
    exact ih h.2

theorem Escaped.passes {opened position : Nat} {written text : List Char}
    (h : Escaped written text) : Passes (.double opened) position written (.double opened) := by
  induction h generalizing position with
  | nil => exact .nil
  | escape he tail ih => exact .cons (by simp) (.cons (by simp [Quoting.next]) ih)
  | @backslash c written text hquote hslash tail ih =>
    have hrest : Passes (.double opened) (position + '\\'.utf8Size) (c :: written)
      (.double opened) := ih
    cases hrest with
    | cons _ hrest =>
      simp only [Quoting.next, hquote, hslash, if_false] at hrest
      exact .cons (by simp) (.cons (by simp [Quoting.next]) hrest)
  | plain hquote hslash tail ih =>
    refine .cons (by simp) ?_
    simp only [Quoting.next, hquote, hslash, if_false]
    exact ih

theorem Piece.passes {quoted : Bool} {position : Nat} {written text : List Char}
    (h : Piece quoted written text) : Passes .bare position written .bare := by
  cases h with
  | bare hc =>
    obtain ⟨-, hsingle, hdouble, hpipe⟩ := isBare_iff.1 hc
    refine .cons (by simp [hpipe]) ?_
    simp only [Quoting.next, hdouble, hsingle, if_false]
    exact .nil
  | single htext =>
    refine .cons (by simp) (Passes.append (passes_single htext) ?_)
    exact .cons (by simp) .nil
  | double hwritten =>
    refine .cons (by simp) (Passes.append hwritten.passes ?_)
    exact .cons (by simp) .nil

private theorem Pieces.passes {position : Nat} {written text : List Char}
    (h : Pieces written text) : Passes .bare position written .bare := by
  induction h generalizing position with
  | nil => exact .nil
  | cons first _ ih => exact first.passes.append ih

theorem WordsAt.passes {position : Nat} {cs : List Char} {words : List Word}
    (h : WordsAt position cs words) : Passes .bare position cs .bare := by
  induction h with
  | blank hblank => exact passes_blanks hblank
  | word hblanks hword _ _ ih =>
    obtain ⟨first, rest⟩ := hword
    exact (passes_blanks hblanks).append ((first.passes.append rest.passes).append ih)

/-! Conversely, a text that is closed is made of words. -/

private theorem exists_single {opened position : Nat} {cs : List Char}
    (h : Passes (.single opened) position cs .bare) :
    ∃ text rest, '\'' ∉ text ∧ cs = text ++ '\'' :: rest ∧
      Passes .bare (position + byteLength text + 1) rest .bare := by
  induction cs generalizing position with
  | nil => cases h
  | cons c cs ih =>
    cases h with
    | cons _ tail =>
      by_cases hc : c = '\''
      · subst hc
        exact ⟨[], cs, by simp, rfl, tail⟩
      · simp only [Quoting.next, hc, if_false] at tail
        obtain ⟨text, rest, htext, rfl, hrest⟩ := ih tail
        refine ⟨c :: text, rest, by simp [htext, Ne.symm hc], rfl, ?_⟩
        rw [byteLength_cons, ← Nat.add_assoc]
        exact hrest

/-- Inside double quotes, and behind a backslash there, a closed text goes on to a closing quote. -/
private theorem exists_double_and_escaped {opened position : Nat} {cs : List Char} :
    (Passes (.double opened) position cs .bare →
      ∃ written text rest, Escaped written text ∧ cs = written ++ '"' :: rest ∧
        Passes .bare (position + byteLength written + 1) rest .bare) ∧
    (Passes (.escaped opened) position cs .bare →
      ∃ e written text rest, Escaped written text ∧ cs = e :: (written ++ '"' :: rest) ∧
        Passes .bare (position + byteLength (e :: written) + 1) rest .bare) := by
  induction cs generalizing position with
  | nil =>
    constructor
    · rintro ⟨⟩
    · rintro ⟨⟩
  | cons c cs ih =>
    constructor
    · intro h
      cases h with
      | cons _ tail =>
        by_cases hslash : c = '\\'
        · -- Whatever stands behind the backslash, the text goes on behind it inside the quotes.
          subst hslash
          obtain ⟨e, written, text, rest, hwritten, rfl, hrest⟩ := ih.2 tail
          rw [Nat.add_assoc position, ← byteLength_cons] at hrest
          by_cases he : e = '"' ∨ e = '\\'
          · exact ⟨_, _, rest, .escape he hwritten, rfl, hrest⟩
          · rw [not_or] at he
            exact ⟨_, _, rest, .backslash he.1 he.2 (.plain he.1 he.2 hwritten), rfl, hrest⟩
        · by_cases hquote : c = '"'
          · subst hquote
            exact ⟨[], [], cs, .nil, rfl, tail⟩
          · simp only [Quoting.next, hslash, hquote, if_false] at tail
            obtain ⟨written, text, rest, hwritten, rfl, hrest⟩ := ih.1 tail
            rw [Nat.add_assoc position, ← byteLength_cons] at hrest
            exact ⟨_, _, rest, .plain hquote hslash hwritten, rfl, hrest⟩
    · intro h
      cases h with
      | cons _ tail =>
        obtain ⟨written, text, rest, hwritten, rfl, hrest⟩ := ih.1 tail
        rw [Nat.add_assoc position, ← byteLength_cons] at hrest
        exact ⟨c, written, text, rest, hwritten, rfl, hrest⟩

/-- Outside quotes and at no blank, a closed text begins with a piece. -/
private theorem exists_piece {position : Nat} {c : Char} {cs : List Char}
    (h : Passes .bare position (c :: cs) .bare) (hblank : Text.isBlank c = false) :
    ∃ quoted written text rest, Piece quoted written text ∧ c :: cs = written ++ rest ∧
      rest.length ≤ cs.length ∧ Passes .bare (position + byteLength written) rest .bare := by
  cases h with
  | cons hpipe tail =>
    by_cases hdouble : c = '"'
    · subst hdouble
      obtain ⟨written, text, rest, hwritten, hcs, hrest⟩ := exists_double_and_escaped.1 tail
      refine ⟨true, _, text, rest, .double hwritten, by simp [hcs], ?_, ?_⟩
      · rw [hcs, List.length_append, List.length_cons]
        omega
      · rw [byteLength_cons, byteLength_append, ← Nat.add_assoc, ← Nat.add_assoc]
        exact hrest
    · by_cases hsingle : c = '\''
      · subst hsingle
        obtain ⟨text, rest, htext, hcs, hrest⟩ := exists_single tail
        refine ⟨true, _, text, rest, .single htext, by simp [hcs], ?_, ?_⟩
        · rw [hcs, List.length_append, List.length_cons]
          omega
        · rw [byteLength_cons, byteLength_append, ← Nat.add_assoc, ← Nat.add_assoc]
          exact hrest
      · simp only [Quoting.next, hdouble, hsingle, if_false] at tail
        have hbare : isBare c = true := isBare_iff.2 ⟨hblank, hsingle, hdouble, by simpa using hpipe⟩
        exact ⟨false, [c], [c], cs, .bare hbare, rfl, Nat.le_refl _, tail⟩

/-- Outside quotes a closed text begins with pieces up to a blank or its end. -/
private theorem exists_pieces {position : Nat} {cs : List Char}
    (h : Passes .bare position cs .bare) :
    ∃ written text rest, Pieces written text ∧ cs = written ++ rest ∧
      rest.length ≤ cs.length ∧ EndsWord rest ∧
      Passes .bare (position + byteLength written) rest .bare := by
  match cs with
  | [] => exact ⟨[], [], [], .nil, rfl, Nat.le_refl _, by simp [EndsWord], h⟩
  | c :: cs =>
    cases hblank : Text.isBlank c with
    | true => exact ⟨[], [], c :: cs, .nil, rfl, Nat.le_refl _, by simp [EndsWord, hblank], h⟩
    | false =>
      obtain ⟨quoted, written, text, rest, hpiece, hcs, hshorter, hrest⟩ := exists_piece h hblank
      have hless : rest.length < (c :: cs).length := Nat.lt_succ_of_le hshorter
      obtain ⟨writtens, texts, behind, hpieces, hbehind, hlength, hends, hpasses⟩ :=
        exists_pieces hrest
      refine ⟨written ++ writtens, text ++ texts, behind, .cons hpiece hpieces, ?_, ?_, hends, ?_⟩
      · rw [hcs, hbehind, List.append_assoc]
      · omega
      · rw [byteLength_append, ← Nat.add_assoc]
        exact hpasses
termination_by cs.length

/-- Blanks in front of words are passed over. -/
theorem WordsAt.blanks_append {position : Nat} {blanks cs : List Char} {words : List Word}
    (hblanks : ∀ c ∈ blanks, Text.isBlank c = true)
    (h : WordsAt (position + byteLength blanks) cs words) :
    WordsAt position (blanks ++ cs) words := by
  cases h with
  | blank hblank => exact .blank (List.forall_mem_append.2 ⟨hblanks, hblank⟩)
  | @word _ before written rest word words hbefore hword hends hrest =>
    rw [Nat.add_assoc position, ← byteLength_append] at hword hrest
    rw [← List.append_assoc]
    exact .word (List.forall_mem_append.2 ⟨hblanks, hbefore⟩) hword hends hrest

/-- A text that leaves no quote open and has no pipe outside quotes is made of words. -/
theorem exists_wordsAt {position : Nat} {cs : List Char} (h : Passes .bare position cs .bare) :
    ∃ words, WordsAt position cs words := by
  match cs with
  | [] => exact ⟨[], .blank (by simp)⟩
  | c :: cs =>
    cases hblank : Text.isBlank c with
    | true =>
      obtain ⟨hsingle, hdouble, -⟩ := ne_of_isBlank hblank
      cases h with
      | cons _ tail =>
        simp only [Quoting.next, hdouble, hsingle, if_false] at tail
        obtain ⟨words, hwords⟩ := exists_wordsAt tail
        exact ⟨words, .blanks_append (List.forall_mem_singleton.2 hblank) hwords⟩
    | false =>
      obtain ⟨quoted, written, text, middle, hpiece, hcs, hmiddle, hpasses⟩ :=
        exists_piece h hblank
      obtain ⟨writtens, texts, rest, hpieces, hrest, hlength, hends, hpasses⟩ :=
        exists_pieces hpasses
      have hless : rest.length < (c :: cs).length :=
        Nat.lt_succ_of_le (Nat.le_trans hlength hmiddle)
      obtain ⟨words, hwords⟩ := exists_wordsAt hpasses
      have hword : WordAt (position + byteLength []) (written ++ writtens)
          ⟨text ++ texts, quoted, position⟩ := .mk hpiece hpieces
      refine ⟨⟨text ++ texts, quoted, position⟩ :: words, ?_⟩
      rw [hcs, hrest, ← List.append_assoc]
      refine @WordsAt.word _ [] _ _ _ _ (by simp) hword hends ?_
      rw [byteLength_append, ← Nat.add_assoc]
      exact hwords
termination_by cs.length

/-! Where words stand. -/

theorem isBlank_of_isBare {c : Char} (h : isBare c = true) : Text.isBlank c = false :=
  (isBare_iff.1 h).1

theorem Piece.ends {quoted : Bool} {written text : List Char}
    (h : Piece quoted written text) :
    (∃ c ∈ written.head?, Text.isBlank c = false) ∧
      ∃ c ∈ written.getLast?, Text.isBlank c = false := by
  cases h with
  | bare hc => exact ⟨⟨_, rfl, isBlank_of_isBare hc⟩, _, rfl, isBlank_of_isBare hc⟩
  | single =>
    refine ⟨⟨'\'', rfl, rfl⟩, '\'', ?_, rfl⟩
    rw [← List.cons_append, List.getLast?_append]
    rfl
  | double =>
    refine ⟨⟨'"', rfl, rfl⟩, '"', ?_, rfl⟩
    rw [← List.cons_append, List.getLast?_append]
    rfl

theorem WordAt.offset_eq {position : Nat} {written : List Char} {word : Word}
    (h : WordAt position written word) : word.offset = position := by
  cases h
  rfl

/-- A word begins with a character that is no blank. -/
theorem WordAt.exists_cons {position : Nat} {written : List Char} {word : Word}
    (h : WordAt position written word) :
    ∃ c cs, written = c :: cs ∧ Text.isBlank c = false := by
  obtain ⟨first, rest⟩ := h
  obtain ⟨⟨c, hhead, hblank⟩, -⟩ := first.ends
  obtain ⟨cs, rfl⟩ := List.head?_eq_some_iff.1 hhead
  exact ⟨c, _, rfl, hblank⟩

/-- Every word is written at its byte, and blanks or the ends of the text stand around it. -/
theorem WordsAt.exists_written {position : Nat} {cs : List Char} {words : List Word}
    (h : WordsAt position cs words) : ∀ word ∈ words, ∃ before written behind,
      cs = before ++ (written ++ behind) ∧ word.offset = position + byteLength before ∧
        WordAt word.offset written word ∧
        (∀ c ∈ before.getLast?, Text.isBlank c = true) ∧ EndsWord behind := by
  induction h with
  | blank => simp
  | @word position blanks written rest word words hblanks hword hends hrest ih =>
    rw [List.forall_mem_cons]
    constructor
    · refine ⟨blanks, written, rest, rfl, hword.offset_eq, ?_, ?_, hends⟩
      · rw [hword.offset_eq]
        exact hword
      · exact fun c hc => hblanks c (List.mem_of_getLast? hc)
    · intro later hlater
      obtain ⟨before, spelled, behind, rfl, hoffset, hspelled, hlast, hbehind⟩ := ih later hlater
      refine ⟨blanks ++ (written ++ before), spelled, behind, by simp, ?_, hspelled, ?_, hbehind⟩
      · rw [hoffset, byteLength_append, byteLength_append, Nat.add_assoc, Nat.add_assoc]
      · -- Words do not stand right behind each other, since a word begins with no blank.
        have hbefore : before ≠ [] := by
          rintro rfl
          obtain ⟨c, cs, rfl, hblank⟩ := hspelled.exists_cons
          have hcontra : Text.isBlank c = true := hends c rfl
          rw [hblank] at hcontra
          cases hcontra
        obtain ⟨last, hsome⟩ :=
          Option.ne_none_iff_exists'.1 (mt List.getLast?_eq_none_iff.1 hbefore)
        rw [← List.append_assoc, List.getLast?_append, hsome, Option.some_or, ← hsome]
        exact hlast

/-- Words come in the order of their bytes. -/
theorem WordsAt.pairwise_offset {position : Nat} {cs : List Char} {words : List Word}
    (h : WordsAt position cs words) :
    words.Pairwise fun word later => word.offset < later.offset := by
  induction h with
  | blank => exact .nil
  | @word position blanks written rest word words hblanks hword hends hrest ih =>
    refine .cons ?_ ih
    intro later hlater
    obtain ⟨before, spelled, behind, -, hoffset, -⟩ := hrest.exists_written later hlater
    obtain ⟨c, cs, rfl, -⟩ := hword.exists_cons
    have hpos : 0 < byteLength (c :: cs) := by
      have hsize := c.utf8Size_pos
      rw [byteLength_cons]
      omega
    rw [hword.offset_eq, hoffset]
    omega

end Stageflow.Expression
