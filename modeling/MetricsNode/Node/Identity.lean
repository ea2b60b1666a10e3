import MetricsNode.Digest.Sha256
import MetricsNode.Digest.Base64
import MetricsNode.Time.Instant
import MetricsNode.Node.Session

/-!
# Session identity

A session is named by the base64 text of the SHA-256 digest of

  `<local address>\n<remote address>\n<instant accepted, RFC 3339>`

with both socket addresses in their usual text (`a.b.c.d:port`, `[v6]:port`). The name is 44
characters long: 32 digest bytes make eleven base64 groups, the last one padded.

A new session starts *accepted*; the time it was accepted is a parameter, so that the name is a
function of the three values it is made of.
-/

namespace MetricsNode

open Net

/-- The name of a session between two endpoints accepted at an instant. -/
def sessionId (localAddress remoteAddress : SocketAddress) (acceptedAt : Instant) : String :=
  Digest.base64 (Digest.sha256 (Wire.encodeUtf8
    (localAddress.text ++ "\n" ++ remoteAddress.text ++ "\n" ++ acceptedAt.rfc3339)))

/-- A session: its endpoints, when it was accepted, and its state. -/
structure Session where
  localAddress : SocketAddress
  remoteAddress : SocketAddress
  acceptedAt : Instant
  state : SessionState := .accepted
  deriving DecidableEq, Repr

namespace Session

/-- A session just accepted. -/
def new (localAddress remoteAddress : SocketAddress) (acceptedAt : Instant) : Session :=
  { localAddress, remoteAddress, acceptedAt }

/-- The name of the session. -/
def id (s : Session) : String := sessionId s.localAddress s.remoteAddress s.acceptedAt

end Session

end MetricsNode
