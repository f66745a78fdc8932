namespace Stageflow.Decimal

/-- A significand below 2^64 times a power of ten as a binary64 value: the significand is rounded
    once and scaled by a single multiplication or division, so that the last bit may differ from
    the nearest value. Exponents below -308 take one more division. `none` if the value is too
    large. -/
def toBinary? (significand : Nat) (exponent : Int) : Option Float :=
  let start := significand.toUInt64.toFloat
  let step := exponent.natAbs
  if exponent < 0 then
    if step ≤ 308 then some (start / Float.ofScientific 1 false step)
    else if step ≤ 616 then
      some (start / Float.ofScientific 1 false 308 / Float.ofScientific 1 false (step - 308))
    else some 0
  else if step ≤ 308 then
    let scaled := start * Float.ofScientific 1 false step
    if scaled.isInf then none else some scaled
  else if significand = 0 then some 0
  else none

/-- The bits of a value with the given sign and a magnitude without one. -/
def signedBits (negative : Bool) (magnitude : Float) : UInt64 :=
  if negative then magnitude.toBits ||| 0x8000000000000000 else magnitude.toBits

end Stageflow.Decimal
