import Stageflow.Json.Reader
import Stageflow.Json.Writer

namespace Stageflow.Json

/-! Strings. -/

private theorem hexValue?_hexDigit : ∀ n, n < 16 → hexValue? (hexDigit n) = some n := by
  decide

/-- The escape of a control character writes its code. -/
private theorem hexWord?_of_lt {n : Nat} (h : n < 0x20) :
    hexWord? '0' '0' (hexDigit (n / 16)) (hexDigit (n % 16)) = some n := by
  have hzero : hexValue? '0' = some 0 := rfl
  have hhigh : hexValue? (hexDigit (n / 16)) = some (n / 16) := hexValue?_hexDigit _ (by omega)
  have hlow : hexValue? (hexDigit (n % 16)) = some (n % 16) := hexValue?_hexDigit _ (by omega)
  simp only [hexWord?, hzero, hhigh, hlow, Option.bind_eq_bind, Option.bind_some, Option.pure_def,
    Option.some.injEq]
  omega

private theorem simpleEscape?_ne_u {e x : Char} (h : simpleEscape? e = some x) : e ≠ 'u' := by
  rintro rfl
  have hnone : simpleEscape? 'u' = none := by decide
  rw [hnone] at h
  cases h

/-- A backslash takes a character with a short escape. -/
private theorem readString_simpleEscape {e x : Char} (h : simpleEscape? e = some x)
    (lenient : Bool) (cs : List Char) :
    readString lenient ('\\' :: e :: cs) = (readString lenient cs).push x := by
  have hu := simpleEscape?_ne_u h
  rw [readString.eq_def]
  simp only [(by decide : '\\' ≠ '"'), if_false, if_true, hu, h]

/-- The four digits of a code below the first surrogate stand for the character of that code. -/
private theorem readString_hexEscape {h₁ h₂ h₃ h₄ : Char} {n : Nat}
    (hword : hexWord? h₁ h₂ h₃ h₄ = some n) (hn : n < 0xD800) (lenient : Bool) (cs : List Char) :
    readString lenient ('\\' :: 'u' :: h₁ :: h₂ :: h₃ :: h₄ :: cs) =
      (readString lenient cs).push (Char.ofNat n) := by
  have hlow : ¬ (0xDC00 ≤ n ∧ n ≤ 0xDFFF) := by omega
  have hhigh : ¬ (0xD800 ≤ n ∧ n ≤ 0xDBFF) := by omega
  rw [readString.eq_def]
  simp only [(by decide : '\\' ≠ '"'), if_false, if_true, hword, hlow, hhigh]

private theorem readString_plain {c : Char} (hquote : c ≠ '"') (hslash : c ≠ '\\')
    (hcontrol : ¬ c.toNat < 0x20) (lenient : Bool) (cs : List Char) :
    readString lenient (c :: cs) = (readString lenient cs).push c := by
  rw [readString.eq_def]
  simp only [hquote, hslash, hcontrol, if_false]

/-- However a character is written, it is read as itself. -/
private theorem readString_escapedChar (lenient : Bool) (c : Char) (cs : List Char) :
    readString lenient (escapedChar c ++ cs) = (readString lenient cs).push c := by
  by_cases hshort : c = '"' ∨ c = '\\' ∨ c = '\x08' ∨ c = '\t' ∨ c = '\n' ∨ c = '\x0c' ∨ c = '\r'
  · rcases hshort with rfl | rfl | rfl | rfl | rfl | rfl | rfl
    all_goals exact readString_simpleEscape rfl lenient cs
  · simp only [not_or] at hshort
    by_cases hcontrol : c.toNat < 0x20
    · have hread := readString_hexEscape (hexWord?_of_lt hcontrol) (by omega) lenient cs
      rw [Char.ofNat_toNat] at hread
      simp only [escapedChar, hshort, hcontrol, if_false, if_true]
      exact hread
    · simp only [escapedChar, hshort, hcontrol, if_false]
      exact readString_plain hshort.1 hshort.2.1 hcontrol lenient cs

private theorem readString_escaped (lenient : Bool) (text rest : List Char) :
    readString lenient (text.flatMap escapedChar ++ '"' :: rest) = .ok (some text, rest) := by
  induction text with
  | nil =>
    rw [List.flatMap_nil, List.nil_append, readString.eq_def]
    rfl
  | cons c text ih =>
    rw [List.flatMap_cons, List.append_assoc, readString_escapedChar, ih]
    rfl

/-- A string is written behind a quote, from where it is read back up to its closing quote. -/
theorem exists_stringText (s : String) :
    ∃ content, stringText s = '"' :: content ∧ ∀ (lenient : Bool) (rest : List Char),
      readString lenient (content ++ rest) = .ok (some s.toList, rest) := by
  refine ⟨s.toList.flatMap escapedChar ++ ['"'], rfl, ?_⟩
  intro lenient rest
  rw [List.append_assoc, List.singleton_append]
  exact readString_escaped lenient s.toList rest

/-! Integers. -/

/-- No number goes on into a text. -/
def EndsNumber (cs : List Char) : Prop :=
  ∀ c ∈ cs.head?, c.isDigit = false ∧ c ≠ '.' ∧ c ≠ 'e' ∧ c ≠ 'E'

private theorem le_ofDigitChars (init : Nat) (ds : List Char) :
    init ≤ Nat.ofDigitChars 10 ds init := by
  rw [Nat.ofDigitChars_eq_ofDigitChars_zero]
  have hpow : 0 < 10 ^ ds.length := Nat.pow_pos (by decide)
  have hmul : 1 * init ≤ 10 ^ ds.length * init := Nat.mul_le_mul_right init hpow
  omega

/-- Digits are absorbed whole if their number fits the significand. -/
private theorem absorb_eq {init : Nat} {ds : List Char}
    (h : Nat.ofDigitChars 10 ds init < Nat.pow 2 64) :
    absorb init ds = (Nat.ofDigitChars 10 ds init, []) := by
  induction ds generalizing init with
  | nil => rfl
  | cons d ds ih =>
    have hnext : 10 * init + (d.toNat - '0'.toNat) = init * 10 + (d.toNat - 48) := by
      rw [Nat.mul_comm]
      rfl
    rw [Nat.ofDigitChars_cons, hnext] at h ⊢
    have hfits : init * 10 + (d.toNat - 48) < Nat.pow 2 64 :=
      Nat.lt_of_le_of_lt (le_ofDigitChars _ ds) h
    simp only [absorb, hfits, if_true]
    exact ih h

/-- Only zero is written with a leading zero. -/
private theorem exists_toDigits {n : Nat} (h : 0 < n) :
    ∃ d ds, Nat.toDigits 10 n = d :: ds ∧ d ≠ '0' := by
  by_cases hsmall : n < 10
  · refine ⟨n.digitChar, [], Nat.toDigits_of_lt_base hsmall, ?_⟩
    have hne : ∀ n, n < 10 → 0 < n → n.digitChar ≠ '0' := by decide
    exact hne n hsmall h
  · obtain ⟨d, ds, hds, hd⟩ := exists_toDigits (n := n / 10) (by omega)
    rw [Nat.toDigits_of_base_le (by decide) (Nat.le_of_not_lt hsmall), hds]
    exact ⟨d, ds ++ [(n % 10).digitChar], rfl, hd⟩
termination_by n

private theorem isDigit_of_mem_toDigits {n : Nat} {c : Char} (h : c ∈ Nat.toDigits 10 n) :
    c.isDigit = true :=
  Nat.isDigit_of_mem_toDigits (by decide) (by decide) h

/-- The digits of a number that fits 64 bits are its whole part. -/
private theorem readNumber_toDigits {n : Nat} (h : n < Nat.pow 2 64) {rest : List Char}
    (hrest : EndsNumber rest) (lenient negative : Bool) :
    readNumber lenient negative (Nat.toDigits 10 n ++ rest) =
      readFraction lenient negative n 0 rest := by
  by_cases hzero : n = 0
  · subst hzero
    rw [Nat.toDigits_zero, List.singleton_append, readNumber.eq_def]
    simp only [if_true]
    cases rest with
    | nil => rfl
    | cons d rest =>
      have hd : d.isDigit = false := (hrest d rfl).1
      simp only [hd, Bool.false_eq_true, if_false]
  · obtain ⟨d, ds, hds, hd⟩ := exists_toDigits (Nat.pos_of_ne_zero hzero)
    have hall : ∀ c ∈ d :: ds, c.isDigit = true := by
      rw [← hds]
      exact fun _ => isDigit_of_mem_toDigits
    have hfirst : d.isDigit = true := hall d List.mem_cons_self
    have htake : rest.takeWhile Char.isDigit = [] ∧ rest.dropWhile Char.isDigit = rest := by
      cases rest with
      | nil => exact ⟨rfl, rfl⟩
      | cons c rest => simp [(hrest c rfl).1]
    have hvalue : Nat.ofDigitChars 10 (d :: ds) 0 = n := by
      rw [← hds, Nat.ofDigitChars_ten_toDigits]
    have habsorb : absorb 0 (d :: ds) = (n, []) := by
      rw [absorb_eq (by rwa [hvalue]), hvalue]
    rw [hds, List.cons_append, readNumber.eq_def]
    simp only [hd, hfirst, if_true, if_false]
    rw [← List.cons_append, List.takeWhile_append_of_pos hall, List.dropWhile_append_of_pos hall,
      htake.1, htake.2, List.append_nil, habsorb]
    rfl

/-- Where no number goes on, an integer has neither fraction nor exponent. -/
private theorem readFraction_eq {rest : List Char} (hrest : EndsNumber rest)
    (lenient negative : Bool) (n : Nat) :
    readFraction lenient negative n 0 rest =
      if !negative then .ok (some (.integer n), rest)
      else if n = 0 ∨ Nat.pow 2 63 < n then realNumber lenient negative n 0 rest
      else .ok (some (.integer (-n)), rest) := by
  cases rest with
  | nil => rfl
  | cons c rest =>
    obtain ⟨-, hpoint, hsmall, hlarge⟩ := hrest c rfl
    rw [readFraction.eq_def]
    split
    next heq => exact absurd (List.cons.inj heq).1 hpoint
    next heq => exact absurd (List.cons.inj heq).1 hsmall
    next heq => exact absurd (List.cons.inj heq).1 hlarge
    next => rfl

/-- An integer that fits 64 bits, with a sign or without. -/
def FitsWord (n : Int) : Prop :=
  -(Nat.pow 2 63 : Nat) ≤ n ∧ n < (Nat.pow 2 64 : Nat)

instance (n : Int) : Decidable (FitsWord n) :=
  inferInstanceAs (Decidable (_ ∧ _))

/-- An integer is written as its digits, perhaps behind a sign, and these are read back. -/
theorem exists_integerText {n : Int} (h : FitsWord n) :
    ∃ negative digits, (Number.integer n).text = (if negative then ['-'] else []) ++ digits ∧
      (∃ d ∈ digits.head?, d.isDigit = true) ∧
      ∀ (lenient : Bool) (rest : List Char), EndsNumber rest →
        readNumber lenient negative (digits ++ rest) = .ok (some (.integer n), rest) := by
  have hhead : ∀ m, ∃ d ∈ (Nat.toDigits 10 m).head?, d.isDigit = true := by
    intro m
    cases hds : Nat.toDigits 10 m with
    | nil => exact absurd hds Nat.toDigits_ne_nil
    | cons d ds => exact ⟨d, rfl, isDigit_of_mem_toDigits (hds ▸ List.mem_cons_self)⟩
  obtain ⟨hleast, hgreatest⟩ := h
  cases n with
  | ofNat n =>
    have hn : n < Nat.pow 2 64 := Int.ofNat_lt.1 hgreatest
    refine ⟨false, Nat.toDigits 10 n, rfl, hhead n, ?_⟩
    intro lenient rest hrest
    rw [readNumber_toDigits hn hrest, readFraction_eq hrest]
    rfl
  | negSucc n =>
    have hn : n + 1 ≤ Nat.pow 2 63 := by omega
    refine ⟨true, Nat.toDigits 10 (n + 1), rfl, hhead (n + 1), ?_⟩
    intro lenient rest hrest
    have hsmall : ¬ (n + 1 = 0 ∨ Nat.pow 2 63 < n + 1) := by omega
    have hword : n + 1 < Nat.pow 2 64 := Nat.lt_of_le_of_lt hn (by decide)
    rw [readNumber_toDigits hword hrest, readFraction_eq hrest]
    simp only [Bool.not_true, Bool.false_eq_true, if_false, hsmall]
    rfl

end Stageflow.Json
