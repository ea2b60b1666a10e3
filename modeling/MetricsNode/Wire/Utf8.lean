/-!
# UTF-8 on the wire

Text goes out as UTF-8. Bytes that come in are read as UTF-8 *lossily*: every well-formed
sequence gives its character, and every maximal ill-formed subpart gives one replacement
character `U+FFFD`. A maximal subpart is a lead byte followed by as many continuation bytes as
could still begin a well-formed sequence with it, or a single byte that can begin none; this is
the practice the Unicode standard recommends, so `E2 82` followed by `A` gives one replacement
character and then `A`.
-/

namespace MetricsNode.Wire

/-- Bytes. -/
abbrev Bytes := List UInt8

/-- The UTF-8 encoding of a text. -/
def encodeUtf8 (s : String) : Bytes := s.toList.flatMap String.utf8EncodeChar

/-- The replacement character. -/
def replacement : Char := '�'

/-- For a lead byte of a multi-byte sequence: how many continuation bytes follow it, and the
range the first of them must lie in (the later ones lie in `80..BF`). -/
def leadRule (b : UInt8) : Option (Nat × UInt8 × UInt8) :=
  if 0xC2 ≤ b && b ≤ 0xDF then some (1, 0x80, 0xBF)
  else if b == 0xE0 then some (2, 0xA0, 0xBF)
  else if (0xE1 ≤ b && b ≤ 0xEC) || b == 0xEE || b == 0xEF then some (2, 0x80, 0xBF)
  else if b == 0xED then some (2, 0x80, 0x9F)
  else if b == 0xF0 then some (3, 0x90, 0xBF)
  else if 0xF1 ≤ b && b ≤ 0xF3 then some (3, 0x80, 0xBF)
  else if b == 0xF4 then some (3, 0x80, 0x8F)
  else none

/-- How many of the `n` expected continuation bytes are present at the front, the first in
`[lo, hi]`, the others in `80..BF`. -/
def matchedContinuations : Nat → UInt8 → UInt8 → Bytes → Nat
  | 0, _, _, _ => 0
  | _ + 1, _, _, [] => 0
  | n + 1, lo, hi, c :: rest =>
    if lo ≤ c && c ≤ hi then 1 + matchedContinuations n 0x80 0xBF rest else 0

/-- The code point of a well-formed sequence: the payload bits of the lead byte for a sequence
of `n` continuation bytes, then six bits from each continuation byte. -/
def codePoint (lead : UInt8) (conts : Bytes) : Nat :=
  let leadBits := lead.toNat % Nat.pow 2 (6 - conts.length)
  conts.foldl (fun acc c => acc * 64 + c.toNat % 64) leadBits

/-- Decodes bytes lossily. -/
def decodeLossyChars (bs : Bytes) : List Char :=
  match bs with
  | [] => []
  | b :: rest =>
    if b < 0x80 then Char.ofNat b.toNat :: decodeLossyChars rest
    else
      match leadRule b with
      | none => replacement :: decodeLossyChars rest
      | some (n, lo, hi) =>
        let k := matchedContinuations n lo hi rest
        if k = n then Char.ofNat (codePoint b (rest.take n)) :: decodeLossyChars (rest.drop n)
        else replacement :: decodeLossyChars (rest.drop k)
termination_by bs.length
decreasing_by
  all_goals simp only [List.length_cons, List.length_drop]
  all_goals omega

/-- Decodes bytes lossily into a text. -/
def decodeLossy (bs : Bytes) : String := String.ofList (decodeLossyChars bs)

end MetricsNode.Wire
