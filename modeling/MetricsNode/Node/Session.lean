import MetricsNode.Node.Protocol
import MetricsNode.Node.Access

/-!
# Sessions

One connection from a collector, from the access check to the closed socket. A session moves
through the states

  accepted → authorized → banner sent → active → closing → closed

with shortcuts to *closing* from *accepted* (access refused) and from *authorized* (the
banner could not be sent).

The run is a function of what the peer sends and how the socket behaves:

* a refused peer gets nothing, and no callback runs;
* a node already cancelled fails the session at once;
* the banner is written next; if that write fails the session ends quietly, with no callback;
* then the start callbacks run; when they all succeed the session is *active* and the
  received lines are answered in order, each answer written before the next line is taken,
  until a quit line (which gets no answer), a failing command, a failing write, a
  cancellation, or the end of input (an unterminated last line is dropped);
* the close callbacks run whenever the banner was sent, whatever ended the session;
* the session fails only when the node's own token was cancelled.

A read error that means the peer went away counts as the end of input. Any other read error
cancels the session before a line is answered.
-/

namespace MetricsNode

open Net Text Wire

/-- The states of a session. -/
inductive SessionState where
  | accepted
  | authorized
  | bannerSent
  | active
  | closing
  | closed
  deriving DecidableEq, Repr, Inhabited

namespace SessionState

/-- The word of the state. -/
def word : SessionState → String
  | .accepted => "accepted"
  | .authorized => "authorized"
  | .bannerSent => "banner-sent"
  | .active => "active"
  | .closing => "closing"
  | .closed => "closed"

/-- The name of the state in inspection text. -/
def name : SessionState → String
  | .accepted => "Accepted"
  | .authorized => "Authorized"
  | .bannerSent => "BannerSent"
  | .active => "Active"
  | .closing => "Closing"
  | .closed => "Closed"

/-- Every state. -/
def all : List SessionState := [.accepted, .authorized, .bannerSent, .active, .closing, .closed]

/-- Whether the session answers lines. -/
def isActive (s : SessionState) : Bool := s == .active

/-- Whether the session is over. -/
def isClosed (s : SessionState) : Bool := s == .closed

end SessionState

/-- How much a session buffers: the size of one read, and how many read chunks may wait. -/
structure SessionConfig where
  readChunkSize : Nat := 256
  maxPendingChunks : Nat := 16
  deriving DecidableEq, Repr, Inhabited

/-- The limits in inspection text. -/
def SessionConfig.shape (c : SessionConfig) : Shape :=
  .record "SessionConfig" [("read_chunk_size", .nat c.readChunkSize),
    ("max_pending_chunks", .nat c.maxPendingChunks)] false

/-- What the peer sends: chunks of bytes, then the end of input or a read error. -/
structure Peer where
  chunks : List Bytes
  readError : Option IoKind := none
  deriving DecidableEq, Repr, Inhabited

/-- How the socket takes writes: how many bytes it accepts before every further write fails,
how those writes fail, and whether a failing write cancels the node. -/
structure Sink where
  limit : Option Nat := none
  failure : IoKind := .brokenPipe
  cancelsNode : Bool := false
  deriving DecidableEq, Repr, Inhabited

/-- The bytes written so far, and whether the node's token is cancelled. -/
structure Wire where
  written : Bytes := []
  nodeCancelled : Bool := false
  deriving DecidableEq, Repr, Inhabited

/-- Writes bytes: all of them, or as many as the socket still accepts and then a failure. A
cancelled token stops the write before any byte; an empty write always succeeds. -/
def Sink.write (s : Sink) (w : Wire) (tokenCancelled : Bool) (phase : SessionPhase)
    (bytes : Bytes) : Except ServerError Unit × Wire :=
  if bytes.isEmpty then (.ok (), w)
  else if tokenCancelled then (.error .cancelled, w)
  else
    match s.limit with
    | none => (.ok (), { w with written := w.written ++ bytes })
    | some lim =>
      let room := lim - w.written.length
      if bytes.length ≤ room then (.ok (), { w with written := w.written ++ bytes })
      else
        (.error (.transport phase (.custom s.failure "simulated write failure")),
          { written := w.written ++ bytes.take room, nodeCancelled := w.nodeCancelled || s.cancelsNode })

/-- Answers the lines in order while the session token is not cancelled: each answer is
written before the next line is taken; a quit line, a failing command or a failing write ends
the run. A field that cancels the node's token while a command runs leaves it cancelled,
whether the command then answers or fails. -/
def answerLines (p : Protocol) (sink : Sink) : List Bytes → Cancellation → Wire →
    Except ServerError Status × Cancellation × Wire
  | [], c, w => (.ok .carryOn, c, w)
  | line :: rest, c, w =>
    let c := { c with server := w.nodeCancelled }
    if c.isCancelled then (.error .cancelled, c, w)
    else
      let (r, c') := p.handle line c
      let w := { w with nodeCancelled := w.nodeCancelled || c'.server }
      match r with
      | .error e => (.error e, c', w)
      | .ok reply =>
        if reply.status == .quit then (.ok .quit, c', w)
        else
          match sink.write w c'.isCancelled .sending (encodeLines reply.lines) with
          | (.error e, w') => (.error e, c', w')
          | (.ok (), w') => answerLines p sink rest c' w'

/-- The complete lines of what the peer sends, in order. -/
def Peer.lines (peer : Peer) : List Bytes :=
  (Framer.feedAll {} peer.chunks).1.flatten

/-- Whether reading ends in a failure other than the peer going away. -/
def Peer.failsReading (peer : Peer) : Bool :=
  match peer.readError with
  | some k => !k.isDisconnect
  | none => false

/-- What a session did: its result, the bytes it wrote, the callbacks' notices, and the
states it went through. -/
structure SessionOutcome where
  result : Except ServerError Unit
  written : Bytes
  notices : List Notice
  states : List SessionState
  deriving Inhabited

/-- The part of a node that runs sessions: its engine, its allow list and its limits. -/
structure SessionManager where
  protocol : Protocol
  access : AccessRule := {}
  config : SessionConfig := {}

namespace SessionManager

/-- Serves an active session: answers the peer's lines. -/
def serve (m : SessionManager) (peer : Peer) (sink : Sink) (w : Wire) :
    Except ServerError Status × Wire :=
  if peer.failsReading then (.error .cancelled, w)
  else
    let (r, _, w') := answerLines m.protocol sink peer.lines { server := w.nodeCancelled } w
    (r, w')

/-- Runs a session with a peer at `remote`; `nodeCancelled` tells whether the node's token is
cancelled before it starts. -/
def run (m : SessionManager) (peer : Peer) (sink : Sink) (remote : SocketAddress)
    (nodeCancelled : Bool) : SessionOutcome :=
  if !m.access.accepts remote then
    ⟨.ok (), [], [], [.accepted, .closing, .closed]⟩
  else if nodeCancelled then
    ⟨.error .cancelled, [], [], [.accepted, .authorized]⟩
  else
    let w : Wire := {}
    match sink.write w false .banner (encodeUtf8 m.protocol.banner) with
    | (.error _, w) =>
      ⟨if w.nodeCancelled then .error .cancelled else .ok (), w.written, [],
        [.accepted, .authorized, .closing, .closed]⟩
    | (.ok (), w) =>
      let (startNotices, started) := m.protocol.start
      let (served, w) := match started with
        | .ok () => (true, (m.serve peer sink w).2)
        | .error _ => (false, w)
      let (closeNotices, _) := m.protocol.close
      ⟨if w.nodeCancelled then .error .cancelled else .ok (), w.written,
        startNotices ++ closeNotices,
        [.accepted, .authorized, .bannerSent] ++ (if served then [.active] else []) ++
          [.closing, .closed]⟩

/-- The manager in inspection text. -/
def shape (m : SessionManager) : Shape :=
  .record "SessionManager" [("protocol", m.protocol.shape), ("config", m.config.shape)] true

end SessionManager

end MetricsNode
