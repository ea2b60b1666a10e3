/-!
# Shortest decimal digits of a double

A double is read off its 64 bits as `±mant * 2 ^ exp`. Every finite non-zero double owns an
interval of reals that round to it; its *shortest digits* are the fewest significant decimal
digits of a point in that interval, and among the points with that many digits the one nearest
to the double (an exact tie goes to the larger one).

Everything here runs on `Nat` and `Int`: a candidate `c * 10 ^ p` is compared with a point
`x * 2 ^ e` of the binary grid by clearing both denominators, so no step rounds.

The rounding interval follows the usual decoding: a mantissa that is a power of two and not
subnormal has a lower neighbour only half as far away, so its interval is asymmetric; the ends
belong to the interval exactly when the mantissa is even (round-half-to-even reads them back).
-/

namespace MetricsNode.Decimal

/-- What the 64 bits of a double denote. -/
inductive Binary where
  /-- Not a number. -/
  | nan
  /-- An infinity with its sign. -/
  | infinite (negative : Bool)
  /-- A zero with its sign. -/
  | zero (negative : Bool)
  /-- The value `±mant * 2 ^ exp`, with `mant ≠ 0`; `powerOfTwoNormal` marks a normal double
  whose stored fraction is zero, the one case with a nearer lower neighbour. -/
  | finite (negative : Bool) (mant : Nat) (exp : Int) (powerOfTwoNormal : Bool)
  deriving Repr, DecidableEq

/-- Splits the bits of a double into sign, exponent field and fraction field. -/
def Binary.ofBits (bits : UInt64) : Binary :=
  let negative := bits >>> 63 == 1
  let field := ((bits >>> 52) &&& 0x7FF).toNat
  let frac := (bits &&& 0xFFFFFFFFFFFFF).toNat
  if field == 0x7FF then
    if frac == 0 then .infinite negative else .nan
  else if field == 0 then
    if frac == 0 then .zero negative else .finite negative frac (-1074) false
  else
    .finite negative (frac + Nat.pow 2 52) ((field : Int) - 1075) (frac == 0)

/-- The binary reading of a double. -/
def Binary.ofFloat (x : Float) : Binary := Binary.ofBits x.toBits

/-- A non-negative rational `num / den` with `den ≠ 0`, enough for exact comparisons. -/
structure Ratio where
  num : Nat
  den : Nat
  deriving Repr

/-- `x * 2 ^ e` as a ratio. -/
def Ratio.ofBinary (x : Nat) (e : Int) : Ratio :=
  if 0 ≤ e then ⟨x * Nat.pow 2 e.toNat, 1⟩ else ⟨x, Nat.pow 2 (-e).toNat⟩

/-- `c * 10 ^ p` as a ratio. -/
def Ratio.ofDecimal (c : Nat) (p : Int) : Ratio :=
  if 0 ≤ p then ⟨c * Nat.pow 10 p.toNat, 1⟩ else ⟨c, Nat.pow 10 (-p).toNat⟩

/-- Strict order of ratios, by cross multiplication. -/
def Ratio.lt (a b : Ratio) : Bool := a.num * b.den < b.num * a.den

/-- Non-strict order of ratios, by cross multiplication. -/
def Ratio.le (a b : Ratio) : Bool := a.num * b.den ≤ b.num * a.den

/-- The rounding interval of a positive double, in a scaled form: the double is
`mant * 2 ^ exp` and the interval runs from `(mant - minus) * 2 ^ exp` to
`(mant + plus) * 2 ^ exp`. -/
structure Interval where
  mant : Nat
  minus : Nat
  plus : Nat
  exp : Int
  inclusive : Bool
  deriving Repr

/-- The rounding interval of `mant * 2 ^ exp`: halfway to each neighbour, with the lower
half-gap halved again below a power of two that is not subnormal. -/
def Interval.ofBinary (mant : Nat) (exp : Int) (powerOfTwoNormal : Bool) : Interval :=
  if powerOfTwoNormal then
    { mant := mant * 4, minus := 1, plus := 2, exp := exp - 2, inclusive := mant % 2 == 0 }
  else
    { mant := mant * 2, minus := 1, plus := 1, exp := exp - 1, inclusive := mant % 2 == 0 }

/-- The double itself as a ratio. -/
def Interval.value (i : Interval) : Ratio := Ratio.ofBinary i.mant i.exp

/-- Whether `c * 10 ^ p` reads back as the double. -/
def Interval.contains (i : Interval) (c : Nat) (p : Int) : Bool :=
  let x := Ratio.ofDecimal c p
  let lo := Ratio.ofBinary (i.mant - i.minus) i.exp
  let hi := Ratio.ofBinary (i.mant + i.plus) i.exp
  if i.inclusive then lo.le x && x.le hi else lo.lt x && x.lt hi

/-- The number of decimal digits of a natural number (one for zero). -/
def digitCount (n : Nat) : Nat := (Nat.toDigits 10 n).length

/-- `⌊log₁₀ (num / den)⌋` for a positive ratio. -/
def floorLog10 (r : Ratio) : Int :=
  if r.den ≤ r.num then
    (digitCount (r.num / r.den) : Int) - 1
  else
    let d := digitCount (r.den / r.num)
    if r.den ≤ r.num * Nat.pow 10 (d - 1) then -((d : Int) - 1) else -(d : Int)

/-- The shortest digits of a positive double: the value `digits * 10 ^ exp`. -/
structure Digits where
  digits : Nat
  exp : Int
  deriving Repr, DecidableEq

/-- Drops trailing zeros of the digit string into the exponent. -/
def Digits.normalize (c : Nat) (p : Int) : Digits :=
  let zeros := ((Nat.toDigits 10 c).reverse.takeWhile (· == '0')).length
  if c = 0 then ⟨0, 0⟩ else ⟨c / Nat.pow 10 zeros, p + zeros⟩

/-- The two points of the grid `10 ^ p` around the double, and which of them reads back:
the lower one, the upper one, or, when both do, the nearer one (the upper one on a tie). -/
def Interval.pick (i : Interval) (p : Int) : Option Nat :=
  let v := i.value
  let step := Ratio.ofDecimal 1 p
  -- lo = ⌊v / 10^p⌋
  let lo := (v.num * step.den) / (v.den * step.num)
  let downOk := i.contains lo p
  let upOk := i.contains (lo + 1) p
  if downOk && upOk then
    -- 2v ≥ (2 lo + 1) 10^p  decides for the upper point
    if Ratio.le (Ratio.ofDecimal (2 * lo + 1) p) ⟨2 * v.num, v.den⟩ then some (lo + 1)
    else some lo
  else if upOk then some (lo + 1)
  else if downOk then some lo
  else none

/-- Searches the grids with `1, 2, …` significant digits, the first hit wins. -/
def Interval.search (i : Interval) (top : Int) : List Nat → Option Digits
  | [] => none
  | n :: rest =>
    let p := top - (n : Int) + 1
    match i.pick p with
    | some c => some (Digits.normalize c p)
    | none => i.search top rest

/-- Seventeen significant digits always suffice for a double; as a last resort the search
falls back to those digits. -/
def Interval.shortest (i : Interval) : Digits :=
  let top := floorLog10 i.value
  match i.search top ((List.range 17).map (· + 1)) with
  | some d => d
  | none =>
    let p := top - 16
    let v := i.value
    let step := Ratio.ofDecimal 1 p
    Digits.normalize ((v.num * step.den) / (v.den * step.num)) p

/-- The shortest digits of the positive double `mant * 2 ^ exp`. -/
def shortest (mant : Nat) (exp : Int) (powerOfTwoNormal : Bool) : Digits :=
  (Interval.ofBinary mant exp powerOfTwoNormal).shortest

end MetricsNode.Decimal
