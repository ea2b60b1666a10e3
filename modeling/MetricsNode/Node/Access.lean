import MetricsNode.Net.Address
import MetricsNode.Text.Inspect

/-!
# Access control

A node answers only peers on its allow list. A peer is accepted when its IP address is on the
list; a peer that comes as an IPv4-mapped IPv6 address (`::ffff:a.b.c.d`) is also accepted by
the IPv4 entry `a.b.c.d`. The port plays no part, and an empty list refuses everyone.
-/

namespace MetricsNode

open Net Text

/-- The addresses allowed by default: the IPv4 and IPv6 loopback addresses. -/
def loopbackAddresses : List IpAddr := [.v4 Ipv4.localhost, .v6 Ipv6.localhost]

/-- An allow list. -/
structure AccessRule where
  allowed : List IpAddr := loopbackAddresses
  deriving DecidableEq, Repr, Inhabited

namespace AccessRule

/-- The rule that allows the loopback addresses. -/
def loopback : AccessRule := {}

/-- Whether an entry of the list admits an address: the same address, or an IPv4 entry and the
address mapped from it. -/
def admits (entry ip : IpAddr) : Bool :=
  let mapped := match ip with
    | .v6 a => a.toMapped?
    | .v4 _ => none
  let candidate := match entry, mapped with
    | .v4 _, some v4 => IpAddr.v4 v4
    | _, _ => ip
  entry == candidate

/-- Whether a peer is accepted. -/
def accepts (r : AccessRule) (remote : SocketAddress) : Bool :=
  r.allowed.any (admits · remote.ip)

/-- The rule in inspection text. -/
def shape (r : AccessRule) : Shape :=
  .record "AddressListAccessRule" [("allowed", .list (r.allowed.map fun a => .text a.text))] false

end AccessRule

/-- The characters that separate the entries of an address list. -/
def isListSeparator (c : Char) : Bool := c == ' ' || c == ',' || c == ';'

/-- The addresses of a list separated by spaces, commas or semicolons, in order; empty entries
and entries that are not addresses are skipped. -/
def parseAddressList (s : String) : List IpAddr :=
  ((s.toList.splitOnP isListSeparator).filter (· ≠ [])).filterMap
    fun part => IpAddr.ofString? (String.ofList part)

end MetricsNode
