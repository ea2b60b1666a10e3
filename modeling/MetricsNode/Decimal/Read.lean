import MetricsNode.Decimal.Shortest

/-!
# Reading a decimal as a double

The double nearest to a non-negative rational `num / den`, a tie going to the double with an
even mantissa, and a value beyond the largest double going to infinity. This is how a written
number is read back, so it is the yardstick of the shortest digits: the digits of a double
read back as that double.

The rational is placed on the binary grid of its binade (or on the subnormal grid below the
least normal binade) and rounded there in exact `Nat` arithmetic.
-/

namespace MetricsNode.Decimal

/-- `⌊log₂ (num / den)⌋` for a positive ratio. -/
def floorLog2 (num den : Nat) : Int :=
  let l : Int := (num.log2 : Int) - den.log2
  let fits :=
    if 0 ≤ l then den * Nat.pow 2 l.toNat ≤ num else den ≤ num * Nat.pow 2 (-l).toNat
  if fits then l else l - 1

/-- `num / den` rounded to an integer, a tie going to the even one. -/
def roundHalfEven (num den : Nat) : Nat :=
  let q := num / den
  let r := num % den
  if den < 2 * r then q + 1
  else if 2 * r = den then q + q % 2
  else q

/-- The bits of the double nearest to `num / den` (positive sign). -/
def nearestBits (num den : Nat) : UInt64 :=
  if num = 0 || den = 0 then 0
  else
    let e0 : Int := max (floorLog2 num den - 52) (-1074)
    let scaled := if 0 ≤ e0 then roundHalfEven num (den * Nat.pow 2 e0.toNat)
      else roundHalfEven (num * Nat.pow 2 (-e0).toNat) den
    -- a carry out of the mantissa moves to the next binade
    let (m, e) := if scaled = Nat.pow 2 53 then (Nat.pow 2 52, e0 + 1) else (scaled, e0)
    if 971 < e then 0x7FF0000000000000
    else if m < Nat.pow 2 52 then m.toUInt64
    else ((e + 1075).toNat * Nat.pow 2 52 + (m - Nat.pow 2 52)).toUInt64

/-- The double nearest to `±num / den`. -/
def nearest (negative : Bool) (num den : Nat) : Float :=
  let bits := nearestBits num den
  Float.ofBits (if negative then bits ||| 0x8000000000000000 else bits)

end MetricsNode.Decimal
