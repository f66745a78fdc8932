namespace Stageflow.Text

/-- How many bytes a text takes in UTF-8. -/
def byteLength : List Char → Nat
  | [] => 0
  | c :: cs => c.utf8Size + byteLength cs

@[simp]
theorem byteLength_nil : byteLength [] = 0 :=
  rfl

@[simp]
theorem byteLength_cons (c : Char) (cs : List Char) :
    byteLength (c :: cs) = c.utf8Size + byteLength cs :=
  rfl

@[simp]
theorem byteLength_append (cs ds : List Char) :
    byteLength (cs ++ ds) = byteLength cs + byteLength ds := by
  induction cs with
  | nil => simp
  | cons c cs ih => rw [List.cons_append, byteLength_cons, ih, byteLength_cons, Nat.add_assoc]

theorem utf8ByteSize_ofList (cs : List Char) : (String.ofList cs).utf8ByteSize = byteLength cs := by
  induction cs with
  | nil => rfl
  | cons c cs ih => simp [String.ofList_cons, ih]

/-- The bytes of a text up to some place lead to the start of a character or to the end. -/
theorem isValid_of_append {s : String} {before behind : List Char}
    (h : s.toList = before ++ behind) :
    byteLength before ≤ s.utf8ByteSize ∧ (⟨byteLength before⟩ : String.Pos.Raw).IsValid s := by
  have hs : s = String.ofList before ++ String.ofList behind := by
    rw [← String.ofList_append, ← h, String.ofList_toList]
  constructor
  · rw [hs, String.utf8ByteSize_append, utf8ByteSize_ofList]
    omega
  · refine String.Pos.Raw.isValid_iff_exists_append.2 ⟨_, _, hs, ?_⟩
    rw [← utf8ByteSize_ofList]
    rfl

/-- The bytes of a text in UTF-8. -/
def encode (cs : List Char) : List UInt8 :=
  cs.flatMap String.utf8EncodeChar

/-- The character that stands for bytes that are no UTF-8. -/
def replacement : Char := '\uFFFD'

/-- What the first byte of a UTF-8 sequence promises: how many bytes follow it, in which range the
    second one lies, and which value bits it carries itself. The narrowed ranges rule out
    overlong forms, surrogates and values above U+10FFFF. -/
structure Lead where
  tails : Nat
  low : Nat
  high : Nat
  bits : Nat

/-- Reads the first byte of a sequence; `none` for a byte that can only continue one. -/
def Lead.ofByte? (n : Nat) : Option Lead :=
  if n < 0x80 then some ⟨0, 0x80, 0xBF, n⟩
  else if n < 0xC2 then none
  else if n < 0xE0 then some ⟨1, 0x80, 0xBF, n - 0xC0⟩
  else if n = 0xE0 then some ⟨2, 0xA0, 0xBF, 0⟩
  else if n = 0xED then some ⟨2, 0x80, 0x9F, 0xD⟩
  else if n < 0xF0 then some ⟨2, 0x80, 0xBF, n - 0xE0⟩
  else if n = 0xF0 then some ⟨3, 0x90, 0xBF, 0⟩
  else if n < 0xF4 then some ⟨3, 0x80, 0xBF, n - 0xF0⟩
  else if n = 0xF4 then some ⟨3, 0x80, 0x8F, 4⟩
  else none

/-- Decodes bytes with `owed` bytes of a sequence still to come, the next one of them between
    `low` and `high`, and the value bits so far. `none` stands for a place where the bytes are no
    UTF-8, one for each longest run that begins a sequence and cannot be continued. -/
def decodeFrom (owed low high value : Nat) : List UInt8 → List (Option Char)
  | [] => if owed = 0 then [] else [none]
  | b :: bs =>
    let n := b.toNat
    if owed ≠ 0 ∧ low ≤ n ∧ n ≤ high then
      let value := value * 64 + n % 64
      if owed = 1 then some (Char.ofNat value) :: decodeFrom 0 0x80 0xBF 0 bs
      else decodeFrom (owed - 1) 0x80 0xBF value bs
    else
      let broken := if owed = 0 then [] else [none]
      broken ++
        match Lead.ofByte? n with
        | none => none :: decodeFrom 0 0x80 0xBF 0 bs
        | some lead =>
          if lead.tails = 0 then some (Char.ofNat n) :: decodeFrom 0 0x80 0xBF 0 bs
          else decodeFrom lead.tails lead.low lead.high lead.bits bs

/-- The characters of a byte string, with a U+FFFD wherever it is no UTF-8. -/
def decodeLossy (bytes : List UInt8) : List Char :=
  (decodeFrom 0 0x80 0xBF 0 bytes).map (·.getD replacement)

/-- The characters of a byte string, if it is UTF-8 throughout. -/
def decode? (bytes : List UInt8) : Option (List Char) :=
  (decodeFrom 0 0x80 0xBF 0 bytes).mapM id

end Stageflow.Text
