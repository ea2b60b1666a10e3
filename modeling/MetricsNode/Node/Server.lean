import MetricsNode.Node.Config

/-!
# The listener

A server binds its configured address and then accepts connections one at a time, running a
whole session on each before it takes the next. It stops only when the node's token is
cancelled: before an accept, while waiting for one, or by a session (a field that cancels the
node). A stop by cancellation is a success unless the caller asked to see it as an error.

## The host

Binding and connecting depend on the machine. A `Host` says what its sockets do: whether it has
an IPv6 interface (binding an IPv6 address without one fails with *address not available*),
which addresses are taken (binding one of them fails with *address in use*), and whether a
client's connection to a local listener gets through.
-/

namespace MetricsNode

open Net

/-- What the sockets of a machine do. -/
structure Host where
  /-- An IPv6 address can be bound. -/
  hasIpv6 : Bool := true
  /-- Addresses bound by other listeners. -/
  taken : List SocketAddress := []
  /-- A client's connection to a listener on this machine reaches it. -/
  connects : Bool := true
  deriving DecidableEq, Repr

/-- Whether a socket address is an IPv6 one. -/
def Net.SocketAddress.isV6 : SocketAddress → Bool
  | .v6 .. => true
  | .v4 .. => false

/-- Binds a listening socket. -/
def Host.bind (h : Host) (addr : SocketAddress) : Except ServerError Unit :=
  if addr.isV6 && !h.hasIpv6 then .error (.bindFailed addr (.os .addrNotAvailable 99))
  else if h.taken.contains addr then .error (.bindFailed addr (.os .addrInUse 98))
  else .ok ()

/-- A connection as the node accepts it: where it comes from, what the peer sends, and how the
socket takes writes. -/
structure Incoming where
  remote : SocketAddress
  peer : Peer
  sink : Sink := {}

/-- A server: its configuration and the session manager built from it. -/
structure MuninServer where
  config : NodeConfig
  sessions : SessionManager

/-- How serving ended: the sessions run, in order, and the result. -/
structure Serving where
  sessions : List SessionOutcome
  result : Except ServerError Unit

/-- Whether a session left the node's token cancelled. -/
def SessionOutcome.cancelledNode (o : SessionOutcome) : Bool :=
  match o.result with
  | .error .cancelled => true
  | _ => false

namespace MuninServer

/-- The server of a configuration and a provider: the standard engine, the configured allow
list and session limits. -/
def new (config : NodeConfig) (provider : Provider) : MuninServer :=
  ⟨config, ⟨Protocol.standard config.hostname config.version provider, ⟨config.allowFrom⟩,
    config.session⟩⟩

/-- Accepts connections in turn until the node's token is cancelled; when no connection is left
the caller cancels, so the loop always ends with `Cancelled`. -/
def acceptLoop (s : MuninServer) : List Incoming → (cancelled : Bool) →
    List SessionOutcome × ServerError
  | _, true => ([], .cancelled)
  | [], false => ([], .cancelled)
  | c :: rest, false =>
    let o := s.sessions.run c.peer c.sink c.remote false
    let (os, e) := acceptLoop s rest o.cancelledNode
    (o :: os, e)

/-- Serves the given connections; `cancelled` tells whether the token is cancelled before
serving starts, and `errorOnCancel` whether a stop by cancellation is an error. -/
def serve (s : MuninServer) (incoming : List Incoming) (cancelled errorOnCancel : Bool) : Serving :=
  let (sessions, e) := s.acceptLoop incoming cancelled
  ⟨sessions, if e.isCancelled && !errorOnCancel then .ok () else .error e⟩

/-- Binds the configured address on a host and serves the connections that reach it. -/
def run (s : MuninServer) (h : Host) (incoming : List Incoming) (cancelled errorOnCancel : Bool) :
    Serving :=
  match h.bind s.config.bindAddress with
  | .error e => ⟨[], .error e⟩
  | .ok () => s.serve (if h.connects then incoming else []) cancelled errorOnCancel

end MuninServer

end MetricsNode
