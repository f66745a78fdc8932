import Stageflow.Proofs.Expression.Words

namespace Stageflow.Expression

open Text

/-- Puts a text in front of the text that continues a word. -/
def WordsRead.prepend (text : List Char) (read : WordsRead) : WordsRead :=
  read.map fun (behind, words) => (text ++ behind, words)

theorem WordsRead.prepend_nil (read : WordsRead) : read.prepend [] = read := by
  cases read <;> rfl

theorem WordsRead.prepend_append (cs ds : List Char) (read : WordsRead) :
    read.prepend (cs ++ ds) = (read.prepend ds).prepend cs := by
  cases read with
  | error => rfl
  | ok words => simp only [prepend, Except.map, List.append_assoc]

theorem WordsRead.push_prepend (c : Char) (cs : List Char) (read : WordsRead) :
    (read.prepend cs).push c = read.prepend (c :: cs) := by
  cases read <;> rfl

theorem WordsRead.push_eq_prepend (c : Char) (read : WordsRead) :
    read.push c = read.prepend [c] := by
  cases read <;> rfl

private theorem wordsFrom_blanks {position : Nat} {blanks : List Char}
    (h : ∀ c ∈ blanks, Text.isBlank c = true) (rest : List Char) :
    wordsFrom .between position (blanks ++ rest) =
      wordsFrom .between (position + byteLength blanks) rest := by
  induction blanks generalizing position with
  | nil => rfl
  | cons c blanks ih =>
    rw [List.forall_mem_cons] at h
    rw [List.cons_append, wordsFrom.eq_def]
    simp only [h.1, if_true]
    rw [ih h.2, byteLength_cons, Nat.add_assoc]

private theorem wordsFrom_single {opened position : Nat} {text : List Char} (h : '\'' ∉ text)
    (rest : List Char) :
    wordsFrom (.single opened) position (text ++ '\'' :: rest) =
      (wordsFrom .bare (position + byteLength text + 1) rest).prepend text := by
  induction text generalizing position with
  | nil =>
    rw [WordsRead.prepend_nil, List.nil_append, wordsFrom.eq_def]
    rfl
  | cons c text ih =>
    rw [List.mem_cons, not_or] at h
    rw [List.cons_append, wordsFrom.eq_def]
    simp only [Ne.symm h.1, if_false]
    rw [ih h.2, WordsRead.push_prepend, byteLength_cons, Nat.add_assoc position]

private theorem wordsFrom_double {opened position : Nat} {written text : List Char}
    (h : Escaped written text) (rest : List Char) :
    wordsFrom (.double opened) position (written ++ '"' :: rest) =
      (wordsFrom .bare (position + byteLength written + 1) rest).prepend text := by
  induction h generalizing position with
  | nil =>
    rw [WordsRead.prepend_nil, List.nil_append, wordsFrom.eq_def]
    rfl
  | @escape e written text he tail ih =>
    have hsize : e.utf8Size = 1 := by rcases he with rfl | rfl <;> rfl
    rw [List.cons_append, List.cons_append, wordsFrom.eq_def]
    simp only [he, if_true, (by decide : '\\' ≠ '"'), if_false]
    rw [ih, WordsRead.push_prepend, byteLength_cons, byteLength_cons, hsize]
    simp only [Nat.add_assoc]
  | @backslash c written text hquote hslash tail ih =>
    -- The character behind the backslash is read again, as the first of the rest.
    rw [List.cons_append, List.cons_append, wordsFrom.eq_def]
    simp only [hquote, hslash, or_self, if_true, (by decide : '\\' ≠ '"'), if_false]
    rw [← List.cons_append, ih, WordsRead.push_prepend, byteLength_cons '\\', Nat.add_assoc position]
  | @plain c written text hquote hslash tail ih =>
    rw [List.cons_append, wordsFrom.eq_def]
    simp only [hquote, hslash, if_false]
    rw [ih, WordsRead.push_prepend, byteLength_cons, Nat.add_assoc position]

/-- Inside a word a piece adds its text. -/
private theorem wordsFrom_piece {quoted : Bool} {position : Nat} {written text : List Char}
    (h : Piece quoted written text) (rest : List Char) :
    wordsFrom .bare position (written ++ rest) =
      (wordsFrom .bare (position + byteLength written) rest).prepend text := by
  cases h with
  | @bare c hc =>
    obtain ⟨hblank, hsingle, hdouble, -⟩ := isBare_iff.1 hc
    rw [List.singleton_append, wordsFrom.eq_def]
    simp only [hblank, hsingle, hdouble, if_false, Bool.false_eq_true]
    exact WordsRead.push_eq_prepend _ _
  | single htext =>
    rw [List.cons_append, List.append_assoc, wordsFrom.eq_def]
    simp only [(by decide : Text.isBlank '\'' = false), if_true, if_false, Bool.false_eq_true]
    rw [List.singleton_append, wordsFrom_single htext, byteLength_cons, byteLength_append,
      ← Nat.add_assoc, ← Nat.add_assoc]
    rfl
  | double hwritten =>
    rw [List.cons_append, List.append_assoc, wordsFrom.eq_def]
    simp only [(by decide : Text.isBlank '"' = false), (by decide : '"' ≠ '\''), if_true, if_false,
      Bool.false_eq_true]
    rw [List.singleton_append, wordsFrom_double hwritten, byteLength_cons, byteLength_append,
      ← Nat.add_assoc, ← Nat.add_assoc]
    rfl

/-- Between words a piece begins one. -/
private theorem wordsFrom_first {quoted : Bool} {position : Nat} {written text : List Char}
    (h : Piece quoted written text) (rest : List Char) :
    wordsFrom .between position (written ++ rest) =
      ((wordsFrom .bare (position + byteLength written) rest).prepend text).begin quoted
        position := by
  rw [← wordsFrom_piece h]
  cases h with
  | @bare c hc =>
    obtain ⟨hblank, hsingle, hdouble, -⟩ := isBare_iff.1 hc
    rw [List.singleton_append, wordsFrom.eq_def, wordsFrom.eq_def .bare]
    simp only [hblank, hsingle, hdouble, if_false, Bool.false_eq_true]
  | single htext =>
    rw [List.cons_append, wordsFrom.eq_def, wordsFrom.eq_def .bare]
    simp only [(by decide : Text.isBlank '\'' = false), if_true, if_false, Bool.false_eq_true]
  | double hwritten =>
    rw [List.cons_append, wordsFrom.eq_def, wordsFrom.eq_def .bare]
    simp only [(by decide : Text.isBlank '"' = false), (by decide : '"' ≠ '\''), if_true, if_false,
      Bool.false_eq_true]

private theorem wordsFrom_pieces {position : Nat} {written text : List Char}
    (h : Pieces written text) (rest : List Char) :
    wordsFrom .bare position (written ++ rest) =
      (wordsFrom .bare (position + byteLength written) rest).prepend text := by
  induction h generalizing position with
  | nil =>
    rw [WordsRead.prepend_nil]
    rfl
  | cons first _ ih =>
    rw [List.append_assoc, wordsFrom_piece first, ih, WordsRead.prepend_append, byteLength_append,
      Nat.add_assoc]

/-- A word ends where the text ends or a blank stands. -/
private theorem wordsFrom_endsWord {position : Nat} {rest : List Char} (h : EndsWord rest) :
    wordsFrom .bare position rest = (wordsFrom .between position rest).finish := by
  cases rest with
  | nil => rfl
  | cons c rest =>
    have hblank : Text.isBlank c = true := h c rfl
    rw [wordsFrom.eq_def, wordsFrom.eq_def .between]
    simp only [hblank, if_true]

private theorem wordsFrom_of_wordsAt {position : Nat} {cs : List Char} {words : List Word}
    (h : WordsAt position cs words) : wordsFrom .between position cs = .ok ([], words) := by
  induction h with
  | @blank position cs hblank =>
    rw [← List.append_nil cs, wordsFrom_blanks hblank]
    rfl
  | word hblanks hword hends _ ih =>
    obtain ⟨first, rest⟩ := hword
    rw [byteLength_append, ← Nat.add_assoc] at ih
    rw [wordsFrom_blanks hblanks, List.append_assoc, wordsFrom_first first, wordsFrom_pieces rest,
      wordsFrom_endsWord hends, ih]
    simp only [WordsRead.finish, WordsRead.prepend, WordsRead.begin, Except.map, List.append_nil]

theorem words_of_wordsAt {position : Nat} {text : List Char} {found : List Word}
    (h : WordsAt position text found) : words ⟨position, text⟩ = .ok found := by
  rw [words, wordsFrom_of_wordsAt h]
  rfl

/-- A text is made of words in one way only. -/
theorem WordsAt.unique {position : Nat} {cs : List Char} {found others : List Word}
    (h : WordsAt position cs found) (h' : WordsAt position cs others) : found = others := by
  have hread := wordsFrom_of_wordsAt h
  rw [wordsFrom_of_wordsAt h'] at hread
  cases hread
  rfl

end Stageflow.Expression
