import Mathlib.Logic.Relation
import Stageflow.Proofs.Expression.Reading

namespace Stageflow.Expression

open Text

/-- A kind of quotes. -/
inductive Quote where
  | single
  | double
  deriving DecidableEq, Repr

/-- The character that opens and closes quotes. -/
def Quote.mark : Quote → Char
  | .single => '\''
  | .double => '"'

/-- The place inside quotes that were opened at the given byte. -/
def Quote.place : Quote → Nat → Place
  | .single, opened => .single opened
  | .double, opened => .double opened

/-- The quotes that a character opens. -/
def Quote.of? (c : Char) : Option Quote :=
  if c = '\'' then some .single else if c = '"' then some .double else none

theorem Quote.of?_eq_some {c : Char} {quote : Quote} (h : Quote.of? c = some quote) :
    c = quote.mark := by
  unfold Quote.of? at h
  split at h
  next hsingle =>
    cases h
    exact hsingle
  next =>
    split at h
    next hdouble =>
      cases h
      exact hdouble
    next => cases h

theorem Quote.of?_eq_none_iff {c : Char} : Quote.of? c = none ↔ c ≠ '\'' ∧ c ≠ '"' := by
  unfold Quote.of?
  split
  next hsingle => simp [hsingle]
  next hsingle =>
    split
    next hdouble => simp [hdouble]
    next hdouble => simp [hsingle, hdouble]

/-- A reader of words in the middle of a segment, which it goes through character by character. -/
structure Scan where
  /-- The byte of the expression at which the reader stands. -/
  position : Nat
  rest : List Char
  /-- The words that have ended. -/
  words : List Word
  /-- The word that is being read. -/
  current : Option Word
  /-- The quotes that are open, and the byte at which they were opened. -/
  quote : Option (Quote × Nat)
  deriving DecidableEq, Repr

namespace Scan

def start (segment : Segment) : Scan :=
  ⟨segment.offset, segment.text, [], none, none⟩

/-- Goes past a character. -/
def pass (scan : Scan) (c : Char) (cs : List Char) : Scan :=
  { scan with position := scan.position + c.utf8Size, rest := cs }

/-- Begins a word here if none is being read. -/
def begin (scan : Scan) (quoted : Bool) : Scan :=
  { scan with current := some (scan.current.getD ⟨[], quoted, scan.position⟩) }

/-- Adds a character to the word that is being read. Without such a word the character is lost. -/
def push (scan : Scan) (c : Char) : Scan :=
  { scan with current := scan.current.map fun word => { word with text := word.text ++ [c] } }

/-- Ends the word that is being read. -/
def finish (scan : Scan) : Scan :=
  { scan with words := scan.words ++ scan.current.toList, current := none }

/-- Opens quotes here. -/
def enter (scan : Scan) (quote : Quote) : Scan :=
  { scan with quote := some (quote, scan.position) }

/-- Closes the quotes that are open. -/
def leave (scan : Scan) : Scan :=
  { scan with quote := none }

/-- Reads a character outside quotes. -/
def readBare (scan : Scan) (c : Char) (cs : List Char) : Scan :=
  if Text.isBlank c then scan.finish.pass c cs
  else
    match Quote.of? c with
    | some quote => ((scan.begin true).enter quote).pass c cs
    | none => ((scan.begin false).push c).pass c cs

/-- Reads a character inside quotes, and with a backslash inside double quotes the quote or
    backslash behind it. -/
def readQuoted (scan : Scan) (quote : Quote) (c : Char) (cs : List Char) : Scan :=
  if c = quote.mark then scan.leave.pass c cs
  else
    match quote, c, cs with
    | .double, '\\', '"' :: tail => ((scan.push '"').pass '\\' ('"' :: tail)).pass '"' tail
    | .double, '\\', '\\' :: tail => ((scan.push '\\').pass '\\' ('\\' :: tail)).pass '\\' tail
    | _, _, _ => (scan.push c).pass c cs

def step (scan : Scan) : Option Scan :=
  match scan.rest with
  | [] => none
  | c :: cs =>
    match scan.quote with
    | none => some (scan.readBare c cs)
    | some (quote, _) => some (scan.readQuoted quote c cs)

/-- Where reading can lead to. -/
def Reaches : Scan → Scan → Prop :=
  Relation.ReflTransGen fun scan next => scan.step = some next

/-- What is made of the words when nothing is left to be read. -/
def result (scan : Scan) : Except Fault (List Word) :=
  match scan.quote with
  | none => .ok (scan.words ++ scan.current.toList)
  | some (_, opened) => .error (.unterminated opened)

/-- What one step can do. -/
inductive Moves (scan : Scan) : Scan → Prop where
  | blank {c : Char} {cs : List Char} (hrest : scan.rest = c :: cs) (hquote : scan.quote = none)
      (hblank : Text.isBlank c = true) : scan.Moves (scan.finish.pass c cs)
  | opens {quote : Quote} {cs : List Char} (hrest : scan.rest = quote.mark :: cs)
      (hquote : scan.quote = none) :
      scan.Moves (((scan.begin true).enter quote).pass quote.mark cs)
  | bare {c : Char} {cs : List Char} (hrest : scan.rest = c :: cs) (hquote : scan.quote = none)
      (hblank : Text.isBlank c = false) (hsingle : c ≠ '\'') (hdouble : c ≠ '"') :
      scan.Moves (((scan.begin false).push c).pass c cs)
  | closes {quote : Quote} {opened : Nat} {cs : List Char} (hrest : scan.rest = quote.mark :: cs)
      (hquote : scan.quote = some (quote, opened)) : scan.Moves (scan.leave.pass quote.mark cs)
  | escape {opened : Nat} {e : Char} {tail : List Char} (hrest : scan.rest = '\\' :: e :: tail)
      (hquote : scan.quote = some (.double, opened)) (he : e = '"' ∨ e = '\\') :
      scan.Moves (((scan.push e).pass '\\' (e :: tail)).pass e tail)
  | quoted {quote : Quote} {opened : Nat} {c : Char} {cs : List Char} (hrest : scan.rest = c :: cs)
      (hquote : scan.quote = some (quote, opened)) (hmark : c ≠ quote.mark)
      (hescape : quote = .double → c = '\\' → ∀ e ∈ cs.head?, ¬ (e = '"' ∨ e = '\\')) :
      scan.Moves ((scan.push c).pass c cs)

private theorem moves_readBare {scan : Scan} {c : Char} {cs : List Char}
    (hrest : scan.rest = c :: cs) (hquote : scan.quote = none) :
    scan.Moves (scan.readBare c cs) := by
  unfold readBare
  split
  next hblank => exact .blank hrest hquote hblank
  next hblank =>
    split
    next quote hof =>
      obtain rfl := Quote.of?_eq_some hof
      exact .opens hrest hquote
    next hof =>
      obtain ⟨hsingle, hdouble⟩ := Quote.of?_eq_none_iff.1 hof
      exact .bare hrest hquote (Bool.eq_false_iff.2 hblank) hsingle hdouble

private theorem moves_readQuoted {scan : Scan} {quote : Quote} {opened : Nat} {c : Char}
    {cs : List Char} (hrest : scan.rest = c :: cs) (hquote : scan.quote = some (quote, opened)) :
    scan.Moves (scan.readQuoted quote c cs) := by
  unfold readQuoted
  split
  next hmark =>
    subst hmark
    exact .closes hrest hquote
  next hmark =>
    split
    next => exact .escape hrest hquote (.inl rfl)
    next => exact .escape hrest hquote (.inr rfl)
    next hnoQuote hnoSlash =>
      refine .quoted hrest hquote hmark ?_
      rintro rfl rfl e he (rfl | rfl)
      · obtain ⟨tail, rfl⟩ := List.head?_eq_some_iff.1 he
        exact hnoQuote tail rfl rfl rfl
      · obtain ⟨tail, rfl⟩ := List.head?_eq_some_iff.1 he
        exact hnoSlash tail rfl rfl rfl

theorem moves_of_step {scan next : Scan} (h : scan.step = some next) : scan.Moves next := by
  unfold step at h
  split at h
  · cases h
  next c cs hrest =>
    split at h
    next hquote =>
      cases h
      exact moves_readBare hrest hquote
    next quote opened hquote =>
      cases h
      exact moves_readQuoted hrest hquote

/-- Inside quotes a word is being read. -/
def KeepsWord (scan : Scan) : Prop :=
  scan.quote ≠ none → scan.current ≠ none

theorem Moves.keepsWord {scan next : Scan} (h : scan.Moves next) (hkeeps : scan.KeepsWord) :
    next.KeepsWord := by
  cases h with
  | blank _ hquote => exact fun hopen => absurd hquote hopen
  | opens => exact fun _ => Option.some_ne_none _
  | bare _ hquote => exact fun hopen => absurd hquote hopen
  | closes => exact fun hopen => absurd rfl hopen
  | escape | quoted => simpa [KeepsWord, push, pass] using hkeeps

/-! What is found in the end is the same before and behind each step. -/

/-- Where the reader stands, for one that keeps a word inside quotes. -/
def place (scan : Scan) : Place :=
  match scan.quote, scan.current with
  | none, none => .between
  | none, some _ => .bare
  | some (quote, opened), _ => quote.place opened

theorem place_between {scan : Scan} (hquote : scan.quote = none) (hcurrent : scan.current = none) :
    scan.place = .between := by
  simp only [place, hquote, hcurrent]

theorem place_bare {scan : Scan} {word : Word} (hquote : scan.quote = none)
    (hcurrent : scan.current = some word) : scan.place = .bare := by
  simp only [place, hquote, hcurrent]

theorem place_quoted {scan : Scan} {quote : Quote} {opened : Nat}
    (hquote : scan.quote = some (quote, opened)) : scan.place = quote.place opened := by
  simp only [place, hquote]

/-- The words that are found in the end, from what is read of the rest. -/
def complete (scan : Scan) (read : WordsRead) : Except Fault (List Word) :=
  read.map fun (text, words) =>
    scan.words ++
      ((scan.current.map fun word => { word with text := word.text ++ text }).toList ++ words)

def expected (scan : Scan) : Except Fault (List Word) :=
  scan.complete (wordsFrom scan.place scan.position scan.rest)

theorem expected_of_place {scan : Scan} {cs : List Char} {place : Place} (hrest : scan.rest = cs)
    (hplace : scan.place = place) :
    scan.expected = scan.complete (wordsFrom place scan.position cs) := by
  rw [expected, hrest, hplace]

theorem complete_push (scan : Scan) (c : Char) (read : WordsRead) :
    (scan.push c).complete read = scan.complete (read.push c) := by
  cases read <;> simp [complete, push, WordsRead.push, Except.map, Function.comp_def]

theorem complete_finish (scan : Scan) (read : WordsRead) :
    scan.finish.complete read = scan.complete read.finish := by
  cases read <;> simp [complete, finish, WordsRead.finish, Except.map]

theorem complete_begin {scan : Scan} (h : scan.current = none) (quoted : Bool) (read : WordsRead) :
    (scan.begin quoted).complete read = scan.complete (read.begin quoted scan.position) := by
  cases read <;> simp [complete, begin, h, WordsRead.begin, Except.map]

theorem begin_of_current {scan : Scan} {word : Word} (h : scan.current = some word)
    (quoted : Bool) : scan.begin quoted = scan := by
  obtain ⟨position, rest, words, current, quote⟩ := scan
  cases h
  rfl

/-- Inside quotes any other character than the closing quote stands for itself, and so does a
    backslash that takes no meaning away. -/
private theorem wordsFrom_quoted {quote : Quote} {opened position : Nat} {c : Char}
    {cs : List Char} (hmark : c ≠ quote.mark)
    (hescape : quote = .double → c = '\\' → ∀ e ∈ cs.head?, ¬ (e = '"' ∨ e = '\\')) :
    wordsFrom (quote.place opened) position (c :: cs) =
      (wordsFrom (quote.place opened) (position + c.utf8Size) cs).push c := by
  rw [wordsFrom.eq_def]
  cases quote with
  | single => exact if_neg hmark
  | double =>
    refine (if_neg hmark).trans ?_
    split
    next hslash =>
      subst hslash
      cases cs with
      | nil => rfl
      | cons e tail => exact if_neg (hescape rfl rfl e rfl)
    next => rfl

theorem Moves.expected_eq {scan next : Scan} (h : scan.Moves next) (hkeeps : scan.KeepsWord) :
    next.expected = scan.expected := by
  cases h with
  | @blank c cs hrest hquote hblank =>
    have hbetween : (scan.finish.pass c cs).place = .between := place_between hquote rfl
    rw [expected_of_place rfl hbetween]
    cases hcurrent : scan.current with
    | none =>
      rw [expected_of_place hrest (place_between hquote hcurrent),
        wordsFrom.eq_def .between _ (c :: cs)]
      simp only [hblank, if_true, complete, pass, finish, hcurrent, Option.toList_none,
        List.append_nil]
    | some word =>
      rw [expected_of_place hrest (place_bare hquote hcurrent), wordsFrom.eq_def .bare]
      simp only [hblank, if_true]
      exact complete_finish scan _
  | @opens quote cs hrest hquote =>
    cases hcurrent : scan.current with
    | none =>
      rw [expected_of_place hrest (place_between hquote hcurrent), wordsFrom.eq_def .between]
      cases quote <;> exact complete_begin hcurrent true _
    | some word =>
      rw [expected_of_place hrest (place_bare hquote hcurrent), wordsFrom.eq_def .bare,
        begin_of_current hcurrent]
      cases quote <;> rfl
  | @bare c cs hrest hquote hblank hsingle hdouble =>
    have hbare : (((scan.begin false).push c).pass c cs).place = .bare := place_bare hquote rfl
    rw [expected_of_place rfl hbare]
    cases hcurrent : scan.current with
    | none =>
      rw [expected_of_place hrest (place_between hquote hcurrent), wordsFrom.eq_def .between]
      simp only [hblank, hsingle, hdouble, if_false, Bool.false_eq_true]
      rw [← complete_begin hcurrent]
      exact complete_push (scan.begin false) c _
    | some word =>
      rw [expected_of_place hrest (place_bare hquote hcurrent), wordsFrom.eq_def .bare _ (c :: cs),
        begin_of_current hcurrent]
      simp only [hblank, hsingle, hdouble, if_false, Bool.false_eq_true]
      exact complete_push scan c _
  | @closes quote opened cs hrest hquote =>
    obtain ⟨word, hcurrent⟩ := Option.ne_none_iff_exists'.1 (hkeeps (by simp [hquote]))
    have hbare : (scan.leave.pass quote.mark cs).place = .bare := place_bare rfl hcurrent
    rw [expected_of_place rfl hbare, expected_of_place hrest (place_quoted hquote),
      wordsFrom.eq_def (quote.place opened)]
    cases quote <;> rfl
  | @escape opened e tail hrest hquote he =>
    have hsize : e.utf8Size = 1 := by rcases he with rfl | rfl <;> rfl
    have hplace : scan.place = .double opened := place_quoted hquote
    have hnext : (((scan.push e).pass '\\' (e :: tail)).pass e tail).place = .double opened :=
      @place_quoted _ .double opened hquote
    rw [expected_of_place rfl hnext, expected_of_place hrest hplace,
      wordsFrom.eq_def (.double opened) _ ('\\' :: e :: tail)]
    simp only [he, if_true, (by decide : '\\' ≠ '"'), if_false, ← hsize]
    exact complete_push scan e _
  | @quoted quote opened c cs hrest hquote hmark hescape =>
    have hnext : ((scan.push c).pass c cs).place = quote.place opened := place_quoted hquote
    rw [expected_of_place rfl hnext, expected_of_place hrest (place_quoted hquote),
      wordsFrom_quoted hmark hescape]
    exact complete_push scan c _

/-! Reading goes on to the end. -/

theorem exists_step {scan : Scan} (h : scan.rest ≠ []) : ∃ next, scan.step = some next := by
  obtain ⟨c, cs, hrest⟩ := List.exists_cons_of_ne_nil h
  unfold step
  rw [hrest]
  cases scan.quote with
  | none => exact ⟨_, rfl⟩
  | some => exact ⟨_, rfl⟩

theorem Moves.length_lt {scan next : Scan} (h : scan.Moves next) :
    next.rest.length < scan.rest.length := by
  cases h with
  | blank hrest | opens hrest | bare hrest | closes hrest | quoted hrest =>
    rw [hrest]
    exact Nat.lt_succ_self _
  | escape hrest =>
    rw [hrest]
    exact Nat.lt_succ_of_lt (Nat.lt_succ_self _)

theorem exists_reaches_end (scan : Scan) : ∃ final, scan.Reaches final ∧ final.rest = [] := by
  by_cases hrest : scan.rest = []
  · exact ⟨scan, .refl, hrest⟩
  · obtain ⟨next, hstep⟩ := exists_step hrest
    have hless := (moves_of_step hstep).length_lt
    obtain ⟨final, hreaches, hfinal⟩ := exists_reaches_end next
    exact ⟨final, .head hstep hreaches, hfinal⟩
termination_by scan.rest.length

/-- What a step keeps holds wherever reading leads. -/
theorem Reaches.induction {motive : Scan → Prop} {scan final : Scan} (h : scan.Reaches final)
    (hstep : ∀ scan next : Scan, scan.Moves next → motive scan → motive next)
    (hstart : motive scan) : motive final := by
  induction h with
  | refl => exact hstart
  | tail _ hnext ih => exact hstep _ _ (moves_of_step hnext) ih

theorem Reaches.keepsWord {scan final : Scan} (h : scan.Reaches final)
    (hkeeps : scan.KeepsWord) : final.KeepsWord :=
  h.induction (fun _ _ hmoves => hmoves.keepsWord) hkeeps

theorem Reaches.expected_eq {scan final : Scan} (h : scan.Reaches final)
    (hkeeps : scan.KeepsWord) : final.expected = scan.expected := by
  refine (h.induction (motive := fun next => next.KeepsWord ∧ next.expected = scan.expected) ?_
    ⟨hkeeps, rfl⟩).2
  rintro next following hmoves ⟨hkeeps, heq⟩
  exact ⟨hmoves.keepsWord hkeeps, (hmoves.expected_eq hkeeps).trans heq⟩

theorem keepsWord_start (segment : Segment) : (start segment).KeepsWord :=
  fun h => absurd rfl h

theorem expected_start (segment : Segment) :
    (start segment).expected = Expression.words segment := by
  have hplace : (start segment).place = .between := rfl
  rw [expected, hplace, Expression.words, start]
  cases wordsFrom .between segment.offset segment.text <;> rfl

/-- Where nothing is left to be read, the words are those found so far. -/
theorem result_eq_expected {scan : Scan} (hrest : scan.rest = []) :
    scan.result = scan.expected := by
  rw [expected_of_place hrest rfl, result]
  cases hquote : scan.quote with
  | none =>
    cases hcurrent : scan.current with
    | none =>
      rw [place_between hquote hcurrent]
      simp [complete, wordsFrom, hcurrent, Except.map]
    | some word =>
      rw [place_bare hquote hcurrent]
      simp [complete, wordsFrom, hcurrent, Except.map]
  | some quoted =>
    obtain ⟨quote, opened⟩ := quoted
    rw [place_quoted hquote]
    cases quote <;> rfl

/-- Reading a segment character by character finds its words. -/
theorem exists_reaches_words (segment : Segment) :
    ∃ final, (start segment).Reaches final ∧ final.rest = [] ∧
      final.result = Expression.words segment := by
  obtain ⟨final, hreaches, hrest⟩ := exists_reaches_end (start segment)
  refine ⟨final, hreaches, hrest, ?_⟩
  rw [result_eq_expected hrest, hreaches.expected_eq (keepsWord_start segment), expected_start]

end Scan

end Stageflow.Expression
