/-!
# Instants and their RFC 3339 text

An instant is a number of seconds since the Unix epoch, possibly negative, and nanoseconds
within that second. Its RFC 3339 text in UTC is

  `YYYY-MM-DDTHH:MM:SS[.fff|.ffffff|.fffffffff]+00:00`

where the fraction is left out when it is zero and otherwise has the fewest of three, six or
nine digits that write it exactly. A year outside `0..9999` is written with its sign and at
least four digits.

The calendar date of a day number is the civil-from-days computation on 400-year eras of
146097 days; the integer divisions round down, so days before the epoch need no special case.
-/

namespace MetricsNode

/-- An instant: seconds since 1970-01-01T00:00:00Z and nanoseconds within the second. -/
structure Instant where
  seconds : Int
  nanos : Fin 1000000000
  deriving DecidableEq, Repr

/-- A calendar date of the proleptic Gregorian calendar. -/
structure CivilDate where
  year : Int
  month : Nat
  day : Nat
  deriving DecidableEq, Repr

/-- The calendar date of a day number counted from 1970-01-01. -/
def civilOfDays (days : Int) : CivilDate :=
  let z := days + 719468
  let era := z / 146097
  let doe := (z - era * 146097).toNat
  let yoe := (doe - doe / 1460 + doe / 36524 - doe / 146096) / 365
  let doy := doe - (365 * yoe + yoe / 4 - yoe / 100)
  let mp := (5 * doy + 2) / 153
  let day := doy - (153 * mp + 2) / 5 + 1
  let month := if mp < 10 then mp + 3 else mp - 9
  let year := (yoe : Int) + era * 400 + (if month ≤ 2 then 1 else 0)
  ⟨year, month, day⟩

/-- A number written with at least `width` digits, zeros in front. -/
def padded (width n : Nat) : String :=
  let s := toString n
  String.ofList (List.replicate (width - s.length) '0') ++ s

/-- The year as RFC 3339 writes it: four digits within `0..9999`, else a sign and at least four
digits. -/
def yearText (y : Int) : String :=
  if 0 ≤ y && y ≤ 9999 then padded 4 y.toNat
  else (if y < 0 then "-" else "+") ++ padded 4 y.natAbs

/-- The fraction of a second: nothing for zero, else the shortest of three, six or nine digits
that is exact. -/
def fractionText (nanos : Nat) : String :=
  if nanos == 0 then ""
  else if nanos % 1000000 == 0 then "." ++ padded 3 (nanos / 1000000)
  else if nanos % 1000 == 0 then "." ++ padded 6 (nanos / 1000)
  else "." ++ padded 9 nanos

/-- The RFC 3339 text of an instant in UTC. -/
def Instant.rfc3339 (t : Instant) : String :=
  let date := civilOfDays (t.seconds / 86400)
  let secs := (t.seconds % 86400).toNat
  yearText date.year ++ "-" ++ padded 2 date.month ++ "-" ++ padded 2 date.day ++ "T" ++
    padded 2 (secs / 3600) ++ ":" ++ padded 2 (secs / 60 % 60) ++ ":" ++ padded 2 (secs % 60) ++
    fractionText t.nanos.val ++ "+00:00"

end MetricsNode
