import MetricsNode.Toml.Lexical

/-!
# TOML: numbers, truth values and date-times

* An integer is decimal with an optional sign, no leading zero, and single underscores between
  digits; or hexadecimal `0x`, octal `0o` or binary `0b` without a sign. Its value must fit in a
  signed 64-bit integer.
* A float is a decimal integer part followed by an exponent, or by a fraction and an optional
  exponent; or `inf` or `nan` with an optional sign. A float whose value rounds to positive
  infinity is refused (a negative one that rounds to negative infinity is kept).
* A date-time is a date `YYYY-MM-DD`, optionally followed by `T`, `t` or a space and a time
  `HH:MM:SS` with an optional fraction and an optional offset `Z`, `z` or `±HH:MM`; or a time
  alone. Months run to 12, days to the length of the month (with leap years), hours to 23,
  minutes to 59 and seconds to 60.

Nothing in a node's configuration reads a float or a date-time, so they are kept as read: the
digits and exponent of a float, the fields of a date-time.
-/

namespace MetricsNode.Toml

/-- Whether a character is an ASCII digit. -/
def isDigitChar (c : Char) : Bool := '0' ≤ c && c ≤ '9'

/-- The value of a string of digits in a radix. -/
def digitsValue (radix : Nat) (ds : List Char) : Nat :=
  ds.foldl (fun acc c => acc * radix + (hexDigitValue c).getD 0) 0

/-- Reads more digits with single underscores between them, after a first digit; `acc` holds
the digits read so far, last first, without underscores. -/
def readDigitsAfter (ok : Char → Bool) (acc : List Char) : Input → Option (List Char × Input)
  | '_' :: d :: rest => if ok d then readDigitsAfter ok (d :: acc) rest else none
  | '_' :: [] => none
  | c :: rest => if ok c then readDigitsAfter ok (c :: acc) rest else some (acc.reverse, c :: rest)
  | [] => some (acc.reverse, [])

/-- Reads digits with single underscores between them, starting with a digit. -/
def readDigitRun (ok : Char → Bool) : Input → Option (List Char × Input)
  | c :: rest => if ok c then readDigitsAfter ok [c] rest else none
  | [] => none

/-- Reads an unsigned decimal integer: `0`, or digits with no leading zero. -/
def readUnsignedDecimal : Input → Option (List Char × Input)
  | '0' :: rest => some (['0'], rest)
  | c :: rest => if '1' ≤ c && c ≤ '9' then readDigitsAfter isDigitChar [c] rest else none
  | [] => none

/-- Reads an optional sign: whether it is a minus, and the rest. -/
def readSign : Input → Bool × Input
  | '+' :: rest => (false, rest)
  | '-' :: rest => (true, rest)
  | cs => (false, cs)

/-- The least value of a signed 64-bit integer. -/
def int64Min : Int := -(Int.pow 2 63)

/-- The greatest value of a signed 64-bit integer. -/
def int64Max : Int := Int.pow 2 63 - 1

/-- Whether an integer fits in a signed 64-bit integer. -/
def fitsInt64 (i : Int) : Bool := int64Min ≤ i && i ≤ int64Max

/-- Reads digits of a radix after its prefix, as a non-negative 64-bit value. -/
def readRadixInteger (radix : Nat) (rest : Input) : Option (Int × Input) := do
  let ok := fun (c : Char) => match hexDigitValue c with
    | some d => decide (d < radix)
    | none => false
  let (ds, r) ← readDigitRun ok rest
  let v : Int := digitsValue radix ds
  if fitsInt64 v then some (v, r) else none

/-- Reads an integer. -/
def readInteger : Input → Option (Int × Input)
  | '0' :: 'x' :: rest => readRadixInteger 16 rest
  | '0' :: 'o' :: rest => readRadixInteger 8 rest
  | '0' :: 'b' :: rest => readRadixInteger 2 rest
  | cs => do
    let (negative, r) := readSign cs
    let (ds, r) ← readUnsignedDecimal r
    let m : Int := digitsValue 10 ds
    let v := if negative then -m else m
    if fitsInt64 v then some (v, r) else none

/-- A float as read: a special value, or a sign, the decimal digits of the integer part and the
fraction together, and the power of ten that scales them. -/
inductive FloatLiteral where
  | infinity (negative : Bool)
  | notANumber
  | finite (negative : Bool) (digits : Nat) (exponent : Int)
  deriving DecidableEq, Repr

/-- The least positive decimal value that rounds to infinity in binary64: halfway between the
largest finite double `(2 ^ 53 - 1) * 2 ^ 971` and `2 ^ 1024`; the tie goes to the even
neighbour, which is infinity. -/
def overflowThreshold : Nat := Nat.pow 2 970 * (Nat.pow 2 54 - 1)

/-- The number of decimal digits of a positive number. -/
def decimalLength (n : Nat) : Nat := (Nat.toDigits 10 n).length

/-- Whether `digits * 10 ^ exponent` rounds to infinity in binary64. A value of `d` digits lies
in `[10 ^ (d + e - 1), 10 ^ (d + e))`, which settles all exponents but a narrow band without
computing a large power. -/
def overflows (digits : Nat) (exponent : Int) : Bool :=
  if digits = 0 then false
  else
    let top := (decimalLength digits : Int) + exponent
    if top > 310 then true
    else if top < 300 then false
    else if exponent ≥ 0 then digits * Nat.pow 10 exponent.toNat ≥ overflowThreshold
    else digits ≥ overflowThreshold * Nat.pow 10 (-exponent).toNat

/-- Reads an exponent after `e` or `E`: an optional sign and digits that may start with zero. -/
def readExponent (cs : Input) : Option (Int × Input) := do
  let (negative, r) := readSign cs
  let (ds, r) ← readDigitRun isDigitChar r
  let v : Int := digitsValue 10 ds
  pure (if negative then -v else v, r)

/-- Reads the part of a float after its integer part: an exponent, or a fraction and an
optional exponent. Returns the fraction digits and the exponent. -/
def readFloatTail : Input → Option ((List Char × Int) × Input)
  | 'e' :: rest | 'E' :: rest => do
    let (e, r) ← readExponent rest
    pure (([], e), r)
  | '.' :: rest => do
    let (fs, r) ← readDigitRun isDigitChar rest
    match r with
    | 'e' :: more | 'E' :: more =>
      let (e, r') ← readExponent more
      pure ((fs, e), r')
    | _ => pure ((fs, 0), r)
  | _ => none

/-- Reads a float. -/
def readFloat (cs : Input) : Option (FloatLiteral × Input) :=
  let (negative, r) := readSign cs
  match r with
  | 'i' :: 'n' :: 'f' :: rest => some (.infinity negative, rest)
  | 'n' :: 'a' :: 'n' :: rest => some (.notANumber, rest)
  | _ => do
    let (ds, r) ← readUnsignedDecimal r
    let ((fs, e), r) ← readFloatTail r
    let digits := digitsValue 10 (ds ++ fs)
    let exponent := e - fs.length
    if !negative && overflows digits exponent then none
    else some (.finite negative digits exponent, r)

/-- A calendar date. -/
structure LocalDate where
  year : Nat
  month : Nat
  day : Nat
  deriving DecidableEq, Repr

/-- A time of day; `fraction` holds the digits after the decimal point, if any. -/
structure LocalTime where
  hour : Nat
  minute : Nat
  second : Nat
  fraction : List Char
  deriving DecidableEq, Repr

/-- A date-time as read: a date, a time, or both, and an offset when both are there. -/
structure DateTime where
  date : Option LocalDate
  time : Option LocalTime
  offsetMinutes : Option Int
  deriving DecidableEq, Repr

/-- Whether a year is a leap year. -/
def isLeapYear (y : Nat) : Bool := y % 4 == 0 && (y % 100 != 0 || y % 400 == 0)

/-- The number of days of a month. -/
def daysInMonth (year month : Nat) : Nat :=
  if month == 2 then (if isLeapYear year then 29 else 28)
  else if month == 4 || month == 6 || month == 9 || month == 11 then 30
  else 31

/-- Reads exactly `n` decimal digits. -/
def readFixedDigits (n : Nat) (cs : Input) : Option (Nat × Input) :=
  let ds := cs.take n
  if ds.length == n && ds.all isDigitChar then some (digitsValue 10 ds, cs.drop n) else none

/-- Reads a date `YYYY-MM-DD`. -/
def readDate (cs : Input) : Option (LocalDate × Input) := do
  let (y, r) ← readFixedDigits 4 cs
  let r ← expect '-' r
  let (m, r) ← readFixedDigits 2 r
  let r ← expect '-' r
  let (d, r) ← readFixedDigits 2 r
  if 1 ≤ m && m ≤ 12 && 1 ≤ d && d ≤ daysInMonth y m then some (⟨y, m, d⟩, r) else none

/-- Reads a time `HH:MM:SS` with an optional fraction. -/
def readTime (cs : Input) : Option (LocalTime × Input) := do
  let (h, r) ← readFixedDigits 2 cs
  let r ← expect ':' r
  let (m, r) ← readFixedDigits 2 r
  let r ← expect ':' r
  let (s, r) ← readFixedDigits 2 r
  if !(h ≤ 23 && m ≤ 59 && s ≤ 60) then none
  else match r with
    | '.' :: rest =>
      match rest.takeWhile isDigitChar with
      | [] => none
      | fs => some (⟨h, m, s, fs⟩, rest.drop fs.length)
    | _ => some (⟨h, m, s, []⟩, r)

/-- Reads an offset: `Z`, `z`, or a sign and `HH:MM`; the result is in minutes east. -/
def readOffset : Input → Option (Int × Input)
  | 'Z' :: rest | 'z' :: rest => some (0, rest)
  | c :: rest =>
    if c == '+' || c == '-' then do
      let (h, r) ← readFixedDigits 2 rest
      let r ← expect ':' r
      let (m, r) ← readFixedDigits 2 r
      if h ≤ 23 && m ≤ 59 then
        let v : Int := h * 60 + m
        some (if c == '-' then -v else v, r)
      else none
    else none
  | [] => none

/-- Whether a character separates the date from the time. -/
def isTimeSeparator (c : Char) : Bool := c == 'T' || c == 't' || c == ' '

/-- Reads a date-time. After a date, a separator and a time are taken only when a whole time
follows; otherwise the date stands alone. -/
def readDateTime (cs : Input) : Option (DateTime × Input) :=
  match readDate cs with
  | some (d, r) =>
    let dateOnly := some (⟨some d, none, none⟩, r)
    match r with
    | c :: rest =>
      if isTimeSeparator c then
        match readTime rest with
        | some (t, r') =>
          match readOffset r' with
          | some (o, r'') => some (⟨some d, some t, some o⟩, r'')
          | none => some (⟨some d, some t, none⟩, r')
        | none => dateOnly
      else dateOnly
    | [] => dateOnly
  | none => (readTime cs).map fun (t, r) => (⟨none, some t, none⟩, r)

end MetricsNode.Toml
