/-!
# Base64

The standard encoding of RFC 4648 §4: every three bytes become four characters of the alphabet
`A–Z a–z 0–9 + /`, six bits each; a last group of one or two bytes is padded with `=` to four
characters.
-/

namespace MetricsNode.Digest

/-- The character of a six-bit value. -/
def base64Char (v : Nat) : Char :=
  if v < 26 then Char.ofNat ('A'.toNat + v)
  else if v < 52 then Char.ofNat ('a'.toNat + v - 26)
  else if v < 62 then Char.ofNat ('0'.toNat + v - 52)
  else if v == 62 then '+'
  else '/'

/-- The characters of bytes, three at a time. -/
def base64Chars : List UInt8 → List Char
  | a :: b :: c :: rest =>
    let n := a.toNat * 65536 + b.toNat * 256 + c.toNat
    [base64Char (n / 262144), base64Char (n / 4096 % 64), base64Char (n / 64 % 64),
      base64Char (n % 64)] ++ base64Chars rest
  | [a, b] =>
    let n := a.toNat * 65536 + b.toNat * 256
    [base64Char (n / 262144), base64Char (n / 4096 % 64), base64Char (n / 64 % 64), '=']
  | [a] =>
    let n := a.toNat * 65536
    [base64Char (n / 262144), base64Char (n / 4096 % 64), '=', '=']
  | [] => []

/-- The base64 text of bytes. -/
def base64 (bytes : List UInt8) : String := String.ofList (base64Chars bytes)

end MetricsNode.Digest
