import MetricsNode.Text.Inspect

/-!
# Durations

A span of time as whole seconds and a number of nanoseconds below one second. Its inspection
text picks the largest unit in which the span is at least one (seconds, milliseconds,
microseconds, nanoseconds) and writes the rest as a decimal fraction without trailing zeros:
`10s`, `1.5s`, `500ms`, `1µs`, `0ns`.
-/

namespace MetricsNode

/-- A span of time. -/
structure Duration where
  secs : UInt64
  nanos : Fin 1000000000
  deriving DecidableEq, Repr, Inhabited

namespace Duration

/-- The digits of a fraction `frac / (10 * divisor)` after the point, without trailing zeros;
`divisor` is the value of the first digit. -/
def fractionDigits (frac divisor : Nat) : Nat → String
  | 0 => ""
  | fuel + 1 =>
    if frac = 0 || divisor = 0 then ""
    else toString (frac / divisor) ++ fractionDigits (frac % divisor) (divisor / 10) fuel

/-- `whole` followed by the fraction `frac / (10 * divisor)` and a unit. -/
def decimal (whole frac divisor : Nat) (unit : String) : String :=
  let ds := fractionDigits frac divisor 9
  toString whole ++ (if ds.isEmpty then "" else "." ++ ds) ++ unit

/-- The duration in inspection text. -/
def text (d : Duration) : String :=
  let n := d.nanos.val
  if 0 < d.secs.toNat then decimal d.secs.toNat n 100000000 "s"
  else if 1000000 ≤ n then decimal (n / 1000000) (n % 1000000) 100000 "ms"
  else if 1000 ≤ n then decimal (n / 1000) (n % 1000) 100 "µs"
  else decimal n 0 1 "ns"

end Duration

end MetricsNode
