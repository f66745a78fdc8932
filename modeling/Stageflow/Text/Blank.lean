namespace Stageflow.Text

/-- The characters that separate words: exactly those with the Unicode property
    White_Space. The zero-width space and the byte order mark are not among them. -/
def isBlank (c : Char) : Bool :=
  let n := c.toNat
  (0x09 ≤ n && n ≤ 0x0D) || n == 0x20 || n == 0x85 || n == 0xA0 || n == 0x1680 ||
    (0x2000 ≤ n && n ≤ 0x200A) || n == 0x2028 || n == 0x2029 || n == 0x202F || n == 0x205F ||
    n == 0x3000

/-- A text without its blanks at both ends. -/
def trim (cs : List Char) : List Char :=
  ((cs.dropWhile isBlank).reverse.dropWhile isBlank).reverse

/-- Blanks around a text leave no trace in what is trimmed. -/
theorem trim_append {before behind : List Char} (hbefore : ∀ c ∈ before, isBlank c = true)
    (hbehind : ∀ c ∈ behind, isBlank c = true) (cs : List Char) :
    trim (before ++ (cs ++ behind)) = trim cs := by
  have hreverse : ∀ c ∈ behind.reverse, isBlank c = true := by simpa using hbehind
  have hnone : (behind ++ []).dropWhile isBlank = [] := List.dropWhile_append_of_pos hbehind
  rw [List.append_nil] at hnone
  unfold trim
  rw [List.dropWhile_append_of_pos hbefore, List.dropWhile_append]
  split
  next hblank =>
    rw [List.isEmpty_iff] at hblank
    rw [hnone, hblank]
  next => rw [List.reverse_append, List.dropWhile_append_of_pos hreverse]

private theorem dropWhile_eq_self {cs : List Char} (h : ∀ c ∈ cs.head?, isBlank c = false) :
    cs.dropWhile isBlank = cs := by
  cases cs with
  | nil => rfl
  | cons c cs => simp [h c rfl]

/-- A text that begins and ends with other characters has no blanks to trim. -/
theorem trim_eq_self {cs : List Char} (hfirst : ∀ c ∈ cs.head?, isBlank c = false)
    (hlast : ∀ c ∈ cs.getLast?, isBlank c = false) : trim cs = cs := by
  have hreverse : ∀ c ∈ cs.reverse.head?, isBlank c = false := by
    rwa [List.head?_reverse]
  rw [trim, dropWhile_eq_self hfirst, dropWhile_eq_self hreverse, List.reverse_reverse]

/-- A text is one that does not end with a blank, and blanks. -/
theorem exists_append_blanks (cs : List Char) :
    ∃ kept blanks, cs = kept ++ blanks ∧ (∀ c ∈ blanks, isBlank c = true) ∧
      ∀ c ∈ kept.getLast?, isBlank c = false := by
  refine ⟨(cs.reverse.dropWhile isBlank).reverse, (cs.reverse.takeWhile isBlank).reverse, ?_, ?_,
    ?_⟩
  · rw [← List.reverse_append, List.takeWhile_append_dropWhile, List.reverse_reverse]
  · intro c hc
    rw [List.mem_reverse] at hc
    exact List.all_eq_true.1 List.all_takeWhile c hc
  · intro c hc
    rw [List.getLast?_reverse] at hc
    have hstops := List.head?_dropWhile_not isBlank cs.reverse
    rw [Option.mem_def.1 hc] at hstops
    simpa using hstops

def isBlankText (s : String) : Bool :=
  s.toList.all isBlank

theorem isBlankText_iff {s : String} :
    isBlankText s = true ↔ ∀ c ∈ s.toList, isBlank c = true :=
  List.all_eq_true

def trimmed (s : String) : String :=
  String.ofList (trim s.toList)

/-- Removes one line break, `\n` or `\r\n`, from the end of a text. -/
def chomp (s : String) : String :=
  match s.toList.reverse with
  | '\n' :: '\r' :: cs => String.ofList cs.reverse
  | '\n' :: cs => String.ofList cs.reverse
  | _ => s

end Stageflow.Text
