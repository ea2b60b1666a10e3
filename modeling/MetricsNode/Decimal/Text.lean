import MetricsNode.Decimal.Shortest

/-!
# Writing a double as text

Two layouts of the shortest digits are in use. Values sent to a collector are written
*positionally*: all digits, with zeros up to or after the point, never an exponent, and no
fraction for a whole number (`1e21` is `1000000000000000000000`). Inspection text writes a
whole number with a `.0` and switches to `d.ddde±x` notation when the decimal exponent is
below `-4` or at least `16` (`1e16`, `1e-7`, but `1000000000000000.0` and `0.0001`).

Both layouts write `NaN`, `inf` and `-inf` for the non-finite values and keep the sign of a
negative zero. A layout is a record of these decisions; one function writes every layout.
-/

namespace MetricsNode.Decimal

/-- The decisions that distinguish one way of writing a double from another. -/
structure Layout where
  /-- Scientific notation for decimal exponents below this bound, if any. -/
  scientificBelow : Option Int
  /-- Scientific notation for decimal exponents at or above this bound, if any. -/
  scientificFrom : Option Int
  /-- The least number of digits after the point in positional notation. -/
  minFraction : Nat
  deriving Repr

/-- Values on the wire: positional, no forced fraction. -/
def Layout.plain : Layout := ⟨none, none, 0⟩

/-- Inspection text: a `.0` on whole numbers, scientific outside `[1e-4, 1e16)`. -/
def Layout.inspect : Layout := ⟨some (-4), some 16, 1⟩

/-- `n` zeros. -/
def zeros (n : Nat) : String := String.ofList (List.replicate n '0')

/-- Positional text of `0.d₁d₂… * 10 ^ point`, with at least `minFraction` digits after the
point (a whole number gets a fraction only when `minFraction` is positive). -/
def positional (ds : String) (point : Int) (minFraction : Nat) : String :=
  let len := ds.length
  if point ≤ 0 then
    let frac := zeros (-point).toNat ++ ds
    "0." ++ frac ++ zeros (minFraction - frac.length)
  else if point.toNat < len then
    let whole := String.ofList (ds.toList.take point.toNat)
    let frac := String.ofList (ds.toList.drop point.toNat)
    whole ++ "." ++ frac ++ zeros (minFraction - frac.length)
  else
    let whole := ds ++ zeros (point.toNat - len)
    if minFraction = 0 then whole else whole ++ "." ++ zeros minFraction

/-- Scientific text of `0.d₁d₂… * 10 ^ point`: `d₁.d₂…e(point-1)`. -/
def scientific (ds : String) (point : Int) : String :=
  let cs := ds.toList
  let mantissa :=
    match cs with
    | [] => "0"
    | [d] => String.singleton d
    | d :: rest => String.singleton d ++ "." ++ String.ofList rest
  mantissa ++ "e" ++ toString (point - 1)

/-- Writes positive shortest digits in a layout. -/
def Layout.writeDigits (l : Layout) (d : Digits) : String :=
  let ds := toString d.digits
  let point := (ds.length : Int) + d.exp
  let sciExp := point - 1
  let low := match l.scientificBelow with
    | some b => decide (sciExp < b)
    | none => false
  let high := match l.scientificFrom with
    | some b => decide (b ≤ sciExp)
    | none => false
  if low || high then scientific ds point else positional ds point l.minFraction

/-- Writes a double in a layout. -/
def Layout.write (l : Layout) (x : Float) : String :=
  match Binary.ofFloat x with
  | .nan => "NaN"
  | .infinite neg => if neg then "-inf" else "inf"
  | .zero neg =>
    (if neg then "-" else "") ++ (if l.minFraction = 0 then "0" else "0." ++ zeros l.minFraction)
  | .finite neg mant exp p2 =>
    (if neg then "-" else "") ++ l.writeDigits (shortest mant exp p2)

/-- A value as written on the wire. -/
def plainText (x : Float) : String := Layout.plain.write x

/-- A value as written in inspection text. -/
def inspectText (x : Float) : String := Layout.inspect.write x

end MetricsNode.Decimal
