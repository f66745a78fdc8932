namespace Stageflow.Blake3

/-- Four words that are mixed side by side. -/
structure Row where
  w₀ : UInt32
  w₁ : UInt32
  w₂ : UInt32
  w₃ : UInt32
  deriving DecidableEq

namespace Row

def add (x y : Row) : Row :=
  ⟨x.w₀ + y.w₀, x.w₁ + y.w₁, x.w₂ + y.w₂, x.w₃ + y.w₃⟩

def xor (x y : Row) : Row :=
  ⟨x.w₀ ^^^ y.w₀, x.w₁ ^^^ y.w₁, x.w₂ ^^^ y.w₂, x.w₃ ^^^ y.w₃⟩

/-- Turns every word to the right by the given number of bits, which lies between 1 and 31. -/
def turn (x : Row) (bits : UInt32) : Row :=
  let one (w : UInt32) : UInt32 := (w >>> bits) ||| (w <<< (32 - bits))
  ⟨one x.w₀, one x.w₁, one x.w₂, one x.w₃⟩

/-- Moves every word one place to the left; the first becomes the last. -/
def shift (x : Row) : Row :=
  ⟨x.w₁, x.w₂, x.w₃, x.w₀⟩

def words (x : Row) : List UInt32 :=
  [x.w₀, x.w₁, x.w₂, x.w₃]

end Row

/-- The state of the compression function. -/
structure State where
  a : Row
  b : Row
  c : Row
  d : Row
  deriving DecidableEq

/-- Mixes the four columns with two message words each. -/
def State.mixColumns (s : State) (x y : Row) : State :=
  let a := (s.a.add s.b).add x
  let d := (s.d.xor a).turn 16
  let c := s.c.add d
  let b := (s.b.xor c).turn 12
  let a := (a.add b).add y
  let d := (d.xor a).turn 8
  let c := c.add d
  let b := (b.xor c).turn 7
  ⟨a, b, c, d⟩

/-- Moves the diagonals into the columns. -/
def State.diagonal (s : State) : State :=
  ⟨s.a, s.b.shift, s.c.shift.shift, s.d.shift.shift.shift⟩

/-- Moves the columns back onto the diagonals. -/
def State.undiagonal (s : State) : State :=
  ⟨s.a, s.b.shift.shift.shift, s.c.shift.shift, s.d.shift⟩

/-- The message words at four places. -/
def pick (message : List UInt32) (i j k l : Nat) : Row :=
  ⟨message.getD i 0, message.getD j 0, message.getD k 0, message.getD l 0⟩

def State.round (s : State) (message : List UInt32) : State :=
  let s := s.mixColumns (pick message 0 2 4 6) (pick message 1 3 5 7)
  (s.diagonal.mixColumns (pick message 8 10 12 14) (pick message 9 11 13 15)).undiagonal

/-- The order in which a round takes the words of the round before. -/
def schedule : List Nat :=
  [2, 6, 3, 10, 7, 0, 4, 13, 1, 11, 12, 5, 9, 14, 15, 8]

def State.rounds (s : State) (message : List UInt32) : Nat → State
  | 0 => s
  | count + 1 => (s.round message).rounds (schedule.map fun i => message.getD i 0) count

/-- A chaining value: eight words. -/
abbrev Chain := Row × Row

def start : Chain :=
  (⟨0x6A09E667, 0xBB67AE85, 0x3C6EF372, 0xA54FF53A⟩,
    ⟨0x510E527F, 0x9B05688C, 0x1F83D9AB, 0x5BE0CD19⟩)

/-- What is left to compress for a node of the tree; whether the node is the root is not yet
    known. -/
structure Node where
  chain : Chain
  message : List UInt32
  counter : Nat
  length : Nat
  flags : UInt32

def chunkStart : UInt32 := 1
def chunkEnd : UInt32 := 2
def parent : UInt32 := 4
def root : UInt32 := 8

/-- The first eight words that a node compresses to. -/
def Node.compress (node : Node) (extra : UInt32) : Chain :=
  let last : Row :=
    ⟨node.counter.toUInt32, (node.counter / Nat.pow 2 32).toUInt32, node.length.toUInt32,
      node.flags ||| extra⟩
  let s := State.rounds ⟨node.chain.1, node.chain.2, start.1, last⟩ node.message 7
  (s.a.xor s.c, s.b.xor s.d)

/-- The little-endian words of a byte string, filled up with zeros to sixteen words. -/
def wordsOfBytes (bytes : List UInt8) : List UInt32 :=
  (List.range 16).map fun i =>
    let byte (j : Nat) : UInt32 := (bytes.getD (4 * i + j) 0).toUInt32
    byte 0 ||| (byte 1 <<< 8) ||| (byte 2 <<< 16) ||| (byte 3 <<< 24)

/-- Cuts a list into pieces of the given size, the last of which may be shorter. The empty list is
    one empty piece. -/
def pieces {α : Type} (size : Nat) : Nat → List α → List (List α)
  | 0, xs => [xs]
  | fuel + 1, xs =>
    if xs.length ≤ size then [xs] else xs.take size :: pieces size fuel (xs.drop size)

/-- Chains the blocks of a chunk and leaves the last one to compress. -/
def chunkNode (counter : Nat) (chain : Chain) (flags : UInt32) : List (List UInt8) → Node
  | [] => ⟨chain, wordsOfBytes [], counter, 0, flags ||| chunkEnd⟩
  | [block] => ⟨chain, wordsOfBytes block, counter, block.length, flags ||| chunkEnd⟩
  | block :: blocks =>
    let node : Node := ⟨chain, wordsOfBytes block, counter, block.length, flags⟩
    chunkNode counter (node.compress 0) 0 blocks

/-- The largest power of two below a number, doubling from one at most `fuel` times. -/
def powerBelow (n : Nat) : Nat → Nat → Nat
  | 0, power => power
  | fuel + 1, power => if 2 * power < n then powerBelow n fuel (2 * power) else power

/-- The root of the tree over the nodes of some chunks. The left half is as large a complete tree
    as leaves something for the right. -/
def tree : Nat → List Node → Node
  | 0, nodes => nodes.headD ⟨start, [], 0, 0, 0⟩
  | _ + 1, [node] => node
  | fuel + 1, nodes =>
    let count := powerBelow nodes.length nodes.length 1
    let left := (tree fuel (nodes.take count)).compress 0
    let right := (tree fuel (nodes.drop count)).compress 0
    let message := left.1.words ++ left.2.words ++ right.1.words ++ right.2.words
    ⟨start, message, 0, 64, parent⟩

/-- The four bytes of a word, the lowest first. -/
def bytesOfWord (w : UInt32) : List UInt8 :=
  [w.toUInt8, (w >>> 8).toUInt8, (w >>> 16).toUInt8, (w >>> 24).toUInt8]

/-- The 32 bytes of the BLAKE3 hash of a byte string. -/
def hash (bytes : List UInt8) : List UInt8 :=
  let chunks := pieces 1024 bytes.length bytes
  let nodes := chunks.mapIdx fun i chunk => chunkNode i start chunkStart (pieces 64 16 chunk)
  let top := (tree nodes.length nodes).compress root
  (top.1.words ++ top.2.words).flatMap bytesOfWord

/-- Two lower-case hexadecimal digits for every byte. -/
def hexDigits (bytes : List UInt8) : List Char :=
  bytes.flatMap fun b => [Nat.digitChar (b.toNat / 16), Nat.digitChar (b.toNat % 16)]

end Stageflow.Blake3
