namespace Stageflow.Decimal

/-- A positive number in decimal: its digits, and the power of ten of the first of them. -/
structure Scientific where
  digits : List Char
  exponent : Int
  deriving DecidableEq, Repr

/-- A positive rational number with the interval of numbers that round to it, all over one
    denominator. The ends belong to the interval if `closed` holds. -/
structure Rounding where
  low : Nat
  value : Nat
  high : Nat
  denominator : Nat
  closed : Bool

/-- The rounding interval of a positive finite binary64 value, from its bits. The distance to the
    neighbour below is halved at a power of two, save at the smallest exponent. -/
def Rounding.ofBits (bits : Nat) : Rounding :=
  let biased := bits / Nat.pow 2 52 % Nat.pow 2 11
  let fraction := bits % Nat.pow 2 52
  let mantissa := if biased = 0 then fraction else fraction + Nat.pow 2 52
  let below := if fraction = 0 ∧ 1 < biased then 1 else 2
  -- the value is `4 * mantissa * 2 ^ (shift - 1077)`
  let shift := max biased 1
  let up := Nat.pow 2 (shift - 1077)
  { low := (4 * mantissa - below) * up
    value := 4 * mantissa * up
    high := (4 * mantissa + 2) * up
    denominator := Nat.pow 2 (1077 - shift)
    closed := mantissa % 2 == 0 }

/-- Counts how often a numerator has to be multiplied by ten to reach the denominator, giving up
    after `fuel` steps. -/
def leadingZeros (denominator : Nat) : Nat → Nat → Nat
  | 0, _ => 0
  | fuel + 1, numerator =>
    if denominator ≤ numerator then 0 else leadingZeros denominator fuel (numerator * 10) + 1

/-- The power of ten of the first digit of a positive rational number. -/
def exponentOf (numerator denominator : Nat) : Int :=
  if denominator ≤ numerator then
    ((Nat.toDigits 10 (numerator / denominator)).length : Int) - 1
  else -(leadingZeros denominator 400 numerator : Int)

/-- The multiple of `10 ^ place` in the interval that is nearest to the value, if there is one. Of
    two equally near the even one is taken. -/
def nearestOnGrid (r : Rounding) (place : Int) : Option Nat :=
  let up := Nat.pow 10 (-place).toNat
  let unit := r.denominator * Nat.pow 10 place.toNat
  let value := r.value * up
  let inside (n : Nat) : Bool :=
    if r.closed then r.low * up ≤ n * unit && n * unit ≤ r.high * up
    else r.low * up < n * unit && n * unit < r.high * up
  let floor := value / unit
  let twice := 2 * (value % unit)
  let lower := inside floor && floor != 0
  let upper := inside (floor + 1)
  if lower && upper then
    if twice < unit || (twice == unit && floor % 2 == 0) then some floor else some (floor + 1)
  else if lower then some floor
  else if upper then some (floor + 1)
  else none

/-- Tries grids of 1, 2, ... digits and takes the first that has a point in the interval. -/
def searchGrids (r : Rounding) (exponent : Int) : Nat → Nat → Nat × Int
  | 0, _ => (0, 0)
  | fuel + 1, count =>
    let place := exponent - count
    match nearestOnGrid r place with
    | some n => (n, place)
    | none => searchGrids r exponent fuel (count + 1)

/-- The fewest digits that read back as the given positive finite binary64 value, and of those the
    nearest to it. Seventeen digits always suffice. -/
def shortest (bits : Nat) : Scientific :=
  let r := Rounding.ofBits bits
  let (n, place) := searchGrids r (exponentOf r.value r.denominator) 18 0
  let digits := Nat.toDigits 10 n
  { digits := (digits.reverse.dropWhile (· == '0')).reverse
    exponent := place + (digits.length : Int) - 1 }

/-- How a number's digits are laid out: positionally when the power of ten of the first digit is at
    least `least` and below `limit`, otherwise with an exponent. -/
structure Layout where
  least : Int
  limit : Int

/-- Lays out digits. Positional notation always has a point with a digit on either side of it, the
    other has a point only between digits, and its exponent always has a sign. -/
def Layout.write (layout : Layout) (number : Scientific) : List Char :=
  let count : Int := number.digits.length
  if layout.least ≤ number.exponent ∧ number.exponent < layout.limit then
    if number.exponent < 0 then
      ['0', '.'] ++ List.replicate (-number.exponent - 1).toNat '0' ++ number.digits
    else if count ≤ number.exponent + 1 then
      number.digits ++ List.replicate (number.exponent + 1 - count).toNat '0' ++ ['.', '0']
    else
      let whole := (number.exponent + 1).toNat
      number.digits.take whole ++ '.' :: number.digits.drop whole
  else
    let mantissa :=
      match number.digits with
      | first :: second :: rest => first :: '.' :: second :: rest
      | digits => digits
    let sign := if number.exponent < 0 then '-' else '+'
    mantissa ++ 'e' :: sign :: Nat.toDigits 10 number.exponent.natAbs

end Stageflow.Decimal
