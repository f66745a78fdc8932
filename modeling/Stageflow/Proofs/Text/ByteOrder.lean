import Stageflow.Text.Utf8

namespace Stageflow.Text

/-- The greater of two numbers has the greater digits to the base 64, of which the last three are
    looked at one by one. -/
private theorem digits_lt {m n : Nat} (h : m < n) :
    m / 262144 < n / 262144 ∨ m / 262144 = n / 262144 ∧
      (m / 4096 % 64 < n / 4096 % 64 ∨ m / 4096 % 64 = n / 4096 % 64 ∧
        (m / 64 % 64 < n / 64 % 64 ∨ m / 64 % 64 = n / 64 % 64 ∧ m % 64 < n % 64)) := by
  have hlast {a b : Nat} (h : a < b) : a / 64 < b / 64 ∨ a / 64 = b / 64 ∧ a % 64 < b % 64 := by
    omega
  have hthird (a : Nat) : a / 64 / 64 = a / 4096 := Nat.div_div_eq_div_mul a 64 64
  have hsecond (a : Nat) : a / 4096 / 64 = a / 262144 := Nat.div_div_eq_div_mul a 4096 64
  rcases hlast h with h | ⟨hquotient, hrest⟩
  · rcases hlast h with h | ⟨hquotient, hrest⟩
    · rw [hthird, hthird] at h
      rcases hlast h with h | ⟨hquotient, hrest⟩
      · rw [hsecond, hsecond] at h
        exact .inl h
      · rw [hsecond, hsecond] at hquotient
        exact .inr ⟨hquotient, .inl hrest⟩
    · rw [hthird, hthird] at hquotient
      rw [← hsecond, ← hsecond, hquotient]
      exact .inr ⟨rfl, .inr ⟨rfl, .inl hrest⟩⟩
  · rw [← hsecond, ← hsecond, ← hthird, ← hthird, hquotient]
    exact .inr ⟨rfl, .inr ⟨rfl, .inr ⟨rfl, hrest⟩⟩⟩

private theorem ofNat_lt_ofNat_iff {m n : Nat} (hm : m < 256) (hn : n < 256) :
    UInt8.ofNat m < UInt8.ofNat n ↔ m < n := by
  rw [UInt8.lt_iff_toNat_lt, UInt8.toNat_ofNat_of_lt' hm, UInt8.toNat_ofNat_of_lt' hn]

private theorem ofNat_eq_ofNat_iff {m n : Nat} (hm : m < 256) (hn : n < 256) :
    UInt8.ofNat m = UInt8.ofNat n ↔ m = n := by
  rw [← UInt8.toNat_inj, UInt8.toNat_ofNat_of_lt' hm, UInt8.toNat_ofNat_of_lt' hn]

/-- Of two characters the lesser one has the lesser bytes, whatever stands behind either: they
    differ before one of the encodings ends. -/
private theorem utf8EncodeChar_append_lt {c d : Char} (h : c < d) (before behind : List UInt8) :
    String.utf8EncodeChar c ++ before < String.utf8EncodeChar d ++ behind := by
  have hvalue : c.val.toNat < d.val.toNat := UInt32.lt_iff_toNat_lt.1 h
  have hgreatest : d.val.toNat < 1114112 := by
    rcases d.valid with hlow | ⟨-, hhigh⟩
    · have : d.val.toNat < 55296 := hlow
      omega
    · exact hhigh
  have hdigits := digits_lt hvalue
  unfold String.utf8EncodeChar
  generalize c.val.toNat = m at *
  generalize d.val.toNat = n at *
  have hlead : m / 262144 % 8 = m / 262144 := by omega
  have hlead' : n / 262144 % 8 = n / 262144 := by omega
  dsimp only
  -- One case for every pair of lengths. Where these differ, the first bytes decide.
  repeat' split
  all_goals
    simp (disch := omega) only [List.cons_append, List.nil_append, List.cons_lt_cons_iff,
      hlead, hlead', ofNat_lt_ofNat_iff, ofNat_eq_ofNat_iff]
    omega

private theorem append_lt_append_iff {before cs ds : List UInt8} :
    before ++ cs < before ++ ds ↔ cs < ds := by
  induction before with
  | nil => rfl
  | cons b before ih => simp [ih]

private theorem encode_lt_encode {cs ds : List Char} (h : cs < ds) : encode cs < encode ds := by
  induction cs generalizing ds with
  | nil =>
    cases ds with
    | nil => exact absurd h (List.lt_irrefl [])
    | cons d ds =>
      have hsize := String.length_utf8EncodeChar d
      have hpositive := d.utf8Size_pos
      cases hbytes : String.utf8EncodeChar d with
      | nil =>
        rw [hbytes, List.length_nil] at hsize
        omega
      | cons b bs => simp [encode, hbytes]
  | cons c cs ih =>
    cases ds with
    | nil => cases h
    | cons d ds =>
      unfold encode
      rw [List.flatMap_cons, List.flatMap_cons]
      rcases List.cons_lt_cons_iff.1 h with hlt | ⟨rfl, htail⟩
      · exact utf8EncodeChar_append_lt hlt _ _
      · exact append_lt_append_iff.2 (ih htail)

/-- Texts are ordered by their code points as they are by their bytes. -/
theorem encode_lt_encode_iff {a b : String} : encode a.toList < encode b.toList ↔ a < b := by
  refine ⟨fun h => ?_, encode_lt_encode⟩
  apply Classical.byContradiction
  intro hnot
  by_cases hgreater : b < a
  · exact List.lt_asymm h (encode_lt_encode hgreater)
  · have heq : a = b := String.le_antisymm (String.not_lt.1 hgreater) (String.not_lt.1 hnot)
    rw [heq] at h
    exact List.lt_irrefl _ h

end Stageflow.Text
