/-!
# IP addresses and socket addresses

IPv4 addresses are four octets, IPv6 addresses eight 16-bit segments. Both are read from and
written as the usual texts; every reader here walks a `List Char` and returns what it read
with the rest of the input, and a text is an address only when the reader uses all of it.

Reading:
* a decimal octet has one to three digits, no leading zero unless it is `0`, and is at most
  255;
* an IPv6 segment has one to four hex digits (either case); at most one `::` stands for one or
  more zero segments; the last two segments may be written as an IPv4 address, which is not
  allowed before a `::`;
* a socket address is `a.b.c.d:port` or `[segments]:port`, the IPv6 form with an optional
  `%scope` inside the brackets; ports and scopes are decimal, leading zeros allowed.

Writing an IPv6 address uses lowercase hex without leading zeros; an IPv4-mapped address
(`::ffff:a.b.c.d`) keeps its dotted tail, and otherwise the first longest run of at least two
zero segments is written `::`.
-/

namespace MetricsNode.Net

/-- An IPv4 address. -/
structure Ipv4 where
  octets : Vector UInt8 4
  deriving DecidableEq, Repr

/-- An IPv6 address. -/
structure Ipv6 where
  segments : Vector UInt16 8
  deriving DecidableEq, Repr

/-- An IP address of either family. -/
inductive IpAddr where
  | v4 (a : Ipv4)
  | v6 (a : Ipv6)
  deriving DecidableEq, Repr

/-- A socket address: an IP address and a port, an IPv6 one with a scope. -/
inductive SocketAddress where
  | v4 (ip : Ipv4) (port : UInt16)
  | v6 (ip : Ipv6) (port : UInt16) (scope : UInt32)
  deriving DecidableEq, Repr

/-! ## Reading -/

/-- The value of a digit in a base up to 16. -/
def digitValue (radix : Nat) (c : Char) : Option Nat :=
  let v :=
    if c.isDigit then some (c.toNat - '0'.toNat)
    else if 'a' ≤ c && c ≤ 'z' then some (c.toNat - 'a'.toNat + 10)
    else if 'A' ≤ c && c ≤ 'Z' then some (c.toNat - 'A'.toNat + 10)
    else none
  v.bind fun d => if d < radix then some d else none

/-- The value of a list of digits. -/
def digitsValue (radix : Nat) (ds : List Char) : Nat :=
  ds.foldl (fun acc c => acc * radix + (digitValue radix c).getD 0) 0

/-- Reads a number: all the digits that follow, refused when there are none, more than
`maxDigits`, a leading zero in front of other digits (unless `zeroPrefix`), or a value above
`limit`. -/
def readNumber (radix : Nat) (maxDigits : Option Nat) (zeroPrefix : Bool) (limit : Nat)
    (cs : List Char) : Option (Nat × List Char) :=
  let ds := cs.takeWhile (fun c => (digitValue radix c).isSome)
  let tooLong := match maxDigits with
    | some m => decide (m < ds.length)
    | none => false
  if ds.isEmpty || tooLong then none
  else if !zeroPrefix && ds.head? == some '0' && 1 < ds.length then none
  else
    let v := digitsValue radix ds
    if limit < v then none else some (v, cs.drop ds.length)

/-- Reads a given character. -/
def readChar (c : Char) : List Char → Option (List Char)
  | d :: rest => if c == d then some rest else none
  | [] => none

/-- Reads a decimal octet. -/
def readOctet (cs : List Char) : Option (UInt8 × List Char) :=
  (readNumber 10 (some 3) false 255 cs).map fun (v, r) => (v.toUInt8, r)

/-- Reads a dotted IPv4 address. -/
def readIpv4 (cs : List Char) : Option (Ipv4 × List Char) := do
  let (a, r) ← readOctet cs
  let (b, r) ← readOctet (← readChar '.' r)
  let (c, r) ← readOctet (← readChar '.' r)
  let (d, r) ← readOctet (← readChar '.' r)
  pure (⟨#v[a, b, c, d]⟩, r)

/-- The two segments that an IPv4 address fills in an IPv6 address. -/
def Ipv4.toSegments (a : Ipv4) : List Nat :=
  [a.octets[0].toNat * 256 + a.octets[1].toNat, a.octets[2].toNat * 256 + a.octets[3].toNat]

/-- Reads up to `slots` colon-separated segments (the first without a colon before it); when
at least two slots are left, an IPv4 address may stand for the last two, and ends the run.
Gives the segments, whether they ended in an IPv4 address, and the rest. -/
def readGroups : (slots : Nat) → (first : Bool) → List Char → List Nat × Bool × List Char
  | 0, _, cs => ([], false, cs)
  | k + 1, first, cs =>
    let afterSep := if first then some cs else readChar ':' cs
    let dotted := if 1 ≤ k then afterSep.bind readIpv4 else none
    match dotted with
    | some (a, rest) => (a.toSegments, true, rest)
    | none =>
      match afterSep.bind (readNumber 16 (some 4) true 0xFFFF) with
      | some (g, rest) =>
        let (gs, v4, r) := readGroups k false rest
        (g :: gs, v4, r)
      | none => ([], false, cs)

/-- Eight segments from a list, zeros where it is short. -/
def toSegmentVector (gs : List Nat) : Vector UInt16 8 :=
  ⟨(List.range 8).toArray.map (fun i => (gs.getD i 0).toUInt16), by simp⟩

/-- Reads an IPv6 address. -/
def readIpv6 (cs : List Char) : Option (Ipv6 × List Char) :=
  let (head, headDotted, r) := readGroups 8 true cs
  if head.length == 8 then some (⟨toSegmentVector head⟩, r)
  else if headDotted then none
  else do
    let r ← readChar ':' r
    let r ← readChar ':' r
    let slots := 8 - (head.length + 1)
    let (tail, _, r) := readGroups slots true r
    let gs := head ++ List.replicate (8 - head.length - tail.length) 0 ++ tail
    pure (⟨toSegmentVector gs⟩, r)

/-- Reads an IP address of either family, IPv4 first. -/
def readIp (cs : List Char) : Option (IpAddr × List Char) :=
  match readIpv4 cs with
  | some (a, r) => some (.v4 a, r)
  | none => (readIpv6 cs).map fun (a, r) => (.v6 a, r)

/-- Reads a port. -/
def readPort (cs : List Char) : Option (UInt16 × List Char) :=
  (readNumber 10 none true 0xFFFF cs).map fun (v, r) => (v.toUInt16, r)

/-- Reads a socket address of either family. -/
def readSocketAddress (cs : List Char) : Option (SocketAddress × List Char) :=
  let v4 : Option (SocketAddress × List Char) := do
    let (a, r) ← readIpv4 cs
    let (p, r) ← readPort (← readChar ':' r)
    pure (.v4 a p, r)
  match v4 with
  | some x => some x
  | none => do
    let r ← readChar '[' cs
    let (a, r) ← readIpv6 r
    let (scope, r) ← match readChar '%' r with
      | some r' => (readNumber 10 none true 0xFFFFFFFF r').map fun (v, r'') => (v.toUInt32, r'')
      | none => some (0, r)
    let r ← readChar ']' r
    let (p, r) ← readPort (← readChar ':' r)
    pure (.v6 a p scope, r)

/-- Runs a reader on a whole text. -/
def readAll {α : Type} (reader : List Char → Option (α × List Char)) (s : String) : Option α :=
  match reader s.toList with
  | some (a, []) => some a
  | _ => none

/-- Parses an IP address. -/
def IpAddr.ofString? (s : String) : Option IpAddr := readAll readIp s

/-- Parses a socket address. -/
def SocketAddress.ofString? (s : String) : Option SocketAddress := readAll readSocketAddress s

/-! ## Writing -/

/-- The dotted text of an IPv4 address. -/
def Ipv4.text (a : Ipv4) : String :=
  ".".intercalate (a.octets.toList.map fun o => toString o.toNat)

/-- The IPv4 address an IPv4-mapped IPv6 address (`::ffff:a.b.c.d`) carries. -/
def Ipv6.toMapped? (a : Ipv6) : Option Ipv4 :=
  let s := a.segments
  if s[0] = 0 && s[1] = 0 && s[2] = 0 && s[3] = 0 && s[4] = 0 && s[5] = 0xFFFF then
    some ⟨#v[(s[6] >>> 8).toUInt8, s[6].toUInt8, (s[7] >>> 8).toUInt8, s[7].toUInt8]⟩
  else none

/-- The IPv4-mapped IPv6 address `::ffff:a.b.c.d` of an IPv4 address. -/
def Ipv4.toIpv6Mapped (a : Ipv4) : Ipv6 :=
  ⟨#v[0, 0, 0, 0, 0, 0xFFFF, a.octets[0].toUInt16 * (256 : UInt16) + a.octets[1].toUInt16,
    a.octets[2].toUInt16 * (256 : UInt16) + a.octets[3].toUInt16]⟩

/-- The first longest run of zero segments: its start and length. -/
def longestZeroRun (segs : List UInt16) : Nat × Nat :=
  let step := fun (acc : (Nat × Nat) × (Nat × Nat) × Nat) (s : UInt16) =>
    let (best, cur, i) := acc
    if s = 0 then
      let cur := if cur.2 = 0 then (i, 1) else (cur.1, cur.2 + 1)
      let best := if best.2 < cur.2 then cur else best
      (best, cur, i + 1)
    else (best, (0, 0), i + 1)
  (segs.foldl step ((0, 0), (0, 0), 0)).1

/-- Segments in lowercase hex, separated by colons. -/
def hexGroups (segs : List UInt16) : String :=
  ":".intercalate (segs.map fun s => String.ofList (Nat.toDigits 16 s.toNat))

/-- The text of an IPv6 address. -/
def Ipv6.text (a : Ipv6) : String :=
  match a.toMapped? with
  | some v4 => "::ffff:" ++ v4.text
  | none =>
    let segs := a.segments.toList
    let (start, len) := longestZeroRun segs
    if 1 < len then
      hexGroups (segs.take start) ++ "::" ++ hexGroups (segs.drop (start + len))
    else hexGroups segs

/-- The text of an IP address. -/
def IpAddr.text : IpAddr → String
  | .v4 a => a.text
  | .v6 a => a.text

/-- The IP address of a socket address. -/
def SocketAddress.ip : SocketAddress → IpAddr
  | .v4 a _ => .v4 a
  | .v6 a _ _ => .v6 a

/-- The socket address of an IP address and a port (scope zero). -/
def SocketAddress.ofIp (ip : IpAddr) (port : UInt16) : SocketAddress :=
  match ip with
  | .v4 a => .v4 a port
  | .v6 a => .v6 a port 0

/-- The text of a socket address: `a.b.c.d:port`, `[ip]:port` or `[ip%scope]:port`. -/
def SocketAddress.text : SocketAddress → String
  | .v4 a p => a.text ++ ":" ++ toString p.toNat
  | .v6 a p scope =>
    "[" ++ a.text ++ (if scope = 0 then "" else "%" ++ toString scope.toNat) ++ "]:" ++
      toString p.toNat

/-- The IPv4 loopback address. -/
def Ipv4.localhost : Ipv4 := ⟨#v[127, 0, 0, 1]⟩

/-- The IPv6 loopback address. -/
def Ipv6.localhost : Ipv6 := ⟨#v[0, 0, 0, 0, 0, 0, 0, 1]⟩

end MetricsNode.Net
