import MetricsNode.Node.Identity

/-!
# Sessions as interleaved tasks

`SessionManager.run` follows one order of events. In the node a session is three tasks that
share a socket and two cancellation tokens: the session's own task (access check, banner,
callbacks), and, while the session is active, a *receive pump* and a *process pump* that run
concurrently and meet at a bounded channel of read chunks. This module describes every order in
which their steps can happen.

## Moves

A `Move` names what happens next: one step of one of the tasks, or the node's token being
cancelled from outside. A task's step is a function of the state; a task that cannot go on (a
full or an empty channel, the session's task waiting for the pumps) leaves the state as it is.
A schedule is then any list of moves, and a property of every schedule is a property of every
list. The size of a read or of a piece of a write is the socket's business, so a move carries
it: a read takes the next `n + 1` bytes the peer sent, or what is left; a write step hands the
socket the next `n + 1` bytes, or as many as it has room for.

* The receive pump checks the session token, reads, and waits for room in the channel. The end
  of input, or a read error meaning that the peer went away, stops it quietly; any other read
  error stops it and cancels the session token.
* The process pump checks the session token and takes a chunk into its framer, or stops once
  the channel is empty and the receive pump has stopped. It then answers each complete line in
  turn: the token is checked, the engine answers, and the answer is written, piece by piece,
  before the next line is taken. A quit line, a failed answer or a failed write stops it; it
  always cancels the session token when it stops.
* The session's task checks access and the node's token, writes the banner, runs the start
  callbacks one at a time, waits until both pumps have stopped, runs the close callbacks, and
  returns.

A write of no bytes succeeds at once. Otherwise each piece first looks at the token it runs
under, so a cancellation stops a write before its first byte or between two pieces.

## The log

The machine keeps what the node does that is seen from outside a session: the session's state
changes, every callback it calls with the session's name, and every line it hands to the
engine together with the answer. The notices the callbacks leave are kept apart, as the run
keeps them.
-/

namespace MetricsNode

open Net Wire

/-- Where the receive pump stands. -/
inductive Receiver where
  /-- About to check the token and read. -/
  | reading
  /-- Holding a chunk it read, waiting for room in the channel. -/
  | holding (chunk : Bytes)
  /-- Stopped, with its result. -/
  | stopped (result : Except ServerError Unit)
  deriving Repr, Inhabited

/-- Where the process pump stands. -/
inductive Processor where
  /-- At the top of its loop: about to check the token and take a chunk. -/
  | receiving
  /-- Taking the complete lines out of its buffer. -/
  | framing
  /-- Writing an answer: the bytes still to go. -/
  | writing (rest : Bytes)
  /-- Stopped, with its result. -/
  | stopped (result : Except ServerError Status)
  deriving Repr, Inhabited

/-- Whether the receive pump has not stopped. -/
def Receiver.running : Receiver → Bool
  | .stopped _ => false
  | _ => true

/-- Whether the process pump has not stopped. -/
def Processor.running : Processor → Bool
  | .stopped _ => false
  | _ => true

/-- Where the process pump goes once the engine has answered a line: a failure stops it, the
quit answer stops it, any other answer is written. -/
def Processor.afterAnswer : Except ServerError Reply → Processor
  | .error e => .stopped (.error e)
  | .ok reply =>
    if reply.status == .quit then .stopped (.ok .quit) else .writing (encodeLines reply.lines)

/-- Where the session's own task stands. -/
inductive Stage where
  /-- The connection was accepted; nothing is checked yet. -/
  | accepted
  /-- Writing the banner: the bytes still to go. -/
  | banner (rest : Bytes)
  /-- Running the start callbacks: those still to run. -/
  | starting (hooks : List (Party × Hooks))
  /-- Waiting for the pumps. -/
  | serving
  /-- Running the close callbacks: those still to run. -/
  | closing (hooks : List (Party × Hooks))
  /-- Returned, with the session's result. -/
  | returned (result : Except ServerError Unit)
  deriving Repr, Inhabited

/-- What the node does that is seen from outside a session. -/
inductive Event where
  /-- The session moved to a state. -/
  | moved (state : SessionState)
  /-- A session callback was called: by whom, whether at close, and with which session name. -/
  | called (party : Party) (closing : Bool) (session : String)
  /-- A line was handed to the engine, which gave an answer. -/
  | handled (line : Bytes) (answer : Except ServerError Reply)
  deriving Repr, Inhabited

/-- What happens next in a session. -/
inductive Move where
  /-- The session's own task takes a step; a piece of the banner is up to `n + 1` bytes. -/
  | session (n : Nat)
  /-- The receive pump takes a step; a read takes up to `n + 1` bytes. -/
  | receive (n : Nat)
  /-- The process pump takes a step; a piece of an answer is up to `n + 1` bytes. -/
  | process (n : Nat)
  /-- The node's token is cancelled. -/
  | cancel
  deriving DecidableEq, Repr, Inhabited

/-- An accepted connection: the manager serving it, what the peer sends, how the socket takes
writes, and the session record (its endpoints and the instant it was accepted). -/
structure Connection where
  manager : SessionManager
  peer : Peer
  sink : Sink
  session : Session

/-- What the read after the peer's last byte gives: the end of input, or a read error. An error
meaning that the peer went away ends reading as the end of input does. -/
def Peer.endOfInput (peer : Peer) : Except ServerError Unit :=
  match peer.readError with
  | none => .ok ()
  | some k =>
    if k.isDisconnect then .ok ()
    else .error (.transport .receiving (.custom k "simulated read failure"))

/-- How many bytes the socket still takes, if it has a limit. -/
def Sink.room (s : Sink) (w : Wire) : Option Nat := s.limit.map (· - w.written.length)

/-- One piece of a write in progress, under a token: a cancelled token ends the write, a socket
with no room left fails it (and may cancel the node's token), and otherwise the socket takes the
next `n + 1` bytes, or as many as it has room for. The bytes still to go, or the failure. -/
def Sink.advance (s : Sink) (w : Wire) (cancelled : Bool) (phase : SessionPhase) (n : Nat)
    (rest : Bytes) : Except ServerError Bytes × Wire :=
  if cancelled then (.error .cancelled, w)
  else
    let k := match s.room w with
      | none => n + 1
      | some r => min (n + 1) r
    if k = 0 then
      (.error (.transport phase (.custom s.failure "simulated write failure")),
        { w with nodeCancelled := w.nodeCancelled || s.cancelsNode })
    else (.ok (rest.drop k), { w with written := w.written ++ rest.take k })

/-- A session in progress: the peer's bytes not read yet, the three tasks, the channel, the
process pump's framer, the session token, the socket's output with the node's token, the
callbacks' notices, and the log. -/
structure Machine where
  unread : Bytes
  receiver : Receiver := .reading
  /-- The chunks in the channel, oldest first. -/
  channel : List Bytes := []
  framer : Framer := {}
  processor : Processor := .receiving
  stage : Stage := .accepted
  /-- The session token was cancelled by itself: by a pump, or by a field it was handed to. -/
  sessionCancelled : Bool := false
  wire : Wire := {}
  notices : List Notice := []
  log : List Event := []
  deriving Repr, Inhabited

namespace Machine

/-- A session just accepted; `nodeCancelled` tells whether the node's token is cancelled. -/
def init (c : Connection) (nodeCancelled : Bool) : Machine :=
  { unread := c.peer.chunks.flatten, wire := { nodeCancelled } }

/-- The token handed to the pumps and the engine: the session's, a child of the node's. -/
def token (s : Machine) : Cancellation :=
  { server := s.wire.nodeCancelled, handed := s.sessionCancelled }

/-- Whether the session token is cancelled. -/
def cancelled (s : Machine) : Bool := s.token.isCancelled

/-- Stops the receive pump; a failure also cancels the session token. -/
def stopReceiver (s : Machine) (r : Except ServerError Unit) : Machine :=
  { s with receiver := .stopped r,
           sessionCancelled := s.sessionCancelled || r matches .error _ }

/-- Stops the process pump, which always cancels the session token. -/
def stopProcessor (s : Machine) (r : Except ServerError Status) : Machine :=
  { s with processor := .stopped r, sessionCancelled := true }

/-- The session moves to a state; the move is logged. -/
def transition (s : Machine) (st : SessionState) : Machine := { s with log := s.log ++ [.moved st] }

/-- The session's task calls a callback with the session's name; the notices it leaves are
kept. -/
def call (c : Connection) (s : Machine) (party : Party) (h : Hooks) (closing : Bool) : Machine :=
  { s with notices := s.notices ++ (h.run party closing).1,
           log := s.log ++ [.called party closing c.session.id] }

/-- The session closes and returns: what it returns depends only on the node's token. -/
def finish (s : Machine) : Machine :=
  { s.transition .closed with
    stage := .returned (if s.wire.nodeCancelled then .error .cancelled else .ok ()) }

/-- One step of the receive pump. -/
def receiveStep (c : Connection) (s : Machine) (n : Nat) : Machine :=
  match s.receiver with
  | .stopped _ => s
  | .reading =>
    if s.cancelled then s.stopReceiver (.error .cancelled)
    else match s.unread with
      | [] => s.stopReceiver c.peer.endOfInput
      | _ => { s with unread := s.unread.drop (n + 1), receiver := .holding (s.unread.take (n + 1)) }
  | .holding chunk =>
    if s.cancelled then s.stopReceiver (.error .cancelled)
    else if !s.processor.running then s.stopReceiver (.ok ())
    else if s.channel.length < c.manager.config.maxPendingChunks then
      { s with channel := s.channel ++ [chunk], receiver := .reading }
    else s

/-- The process pump hands a line to the engine: the answer is logged and its effect on the
tokens taken, and the pump stops (a failure or a quit) or goes on to write the answer. A pump
that stops cancels the session token. -/
def answer (c : Connection) (s : Machine) (line : Bytes) : Machine :=
  let r := c.manager.protocol.handle line s.token
  let next := Processor.afterAnswer r.1
  { s with wire := { s.wire with nodeCancelled := r.2.server },
           sessionCancelled := r.2.handed || !next.running,
           processor := next,
           log := s.log ++ [.handled line r.1] }

/-- One step of the process pump. -/
def processStep (c : Connection) (s : Machine) (n : Nat) : Machine :=
  match s.processor with
  | .stopped _ => s
  | .receiving =>
    if s.cancelled then s.stopProcessor (.error .cancelled)
    else match s.channel with
      | chunk :: rest => { s with channel := rest, framer := s.framer.push chunk, processor := .framing }
      | [] => if s.receiver.running then s else s.stopProcessor (.ok .carryOn)
  | .framing =>
    match s.framer.nextLine with
    | (none, f) => { s with framer := f, processor := .receiving }
    | (some line, f) =>
      if s.cancelled then { s with framer := f }.stopProcessor (.error .cancelled)
      else answer c { s with framer := f } line
  | .writing [] => { s with processor := .framing }
  | .writing (b :: bs) =>
    match c.sink.advance s.wire s.cancelled .sending n (b :: bs) with
    | (.ok rest, w) => { s with wire := w, processor := .writing rest }
    | (.error e, w) => { s with wire := w }.stopProcessor (.error e)

/-- One step of the session's own task. -/
def sessionStep (c : Connection) (s : Machine) (n : Nat) : Machine :=
  match s.stage with
  | .accepted =>
    if !c.manager.access.accepts c.session.remoteAddress then
      { (s.transition .closing).transition .closed with stage := .returned (.ok ()) }
    else if s.wire.nodeCancelled then
      { s.transition .authorized with stage := .returned (.error .cancelled) }
    else { s.transition .authorized with stage := .banner (encodeUtf8 c.manager.protocol.banner) }
  | .banner [] => { s.transition .bannerSent with stage := .starting c.manager.protocol.startHooks }
  | .banner (b :: bs) =>
    match c.sink.advance s.wire s.wire.nodeCancelled .banner n (b :: bs) with
    | (.ok rest, w) => { s with wire := w, stage := .banner rest }
    | (.error _, w) => ({ s with wire := w }.transition .closing).finish
  | .starting [] => { s.transition .active with stage := .serving }
  | .starting ((party, h) :: rest) =>
    match (h.run party false).2 with
    | .ok () => { s.call c party h false with stage := .starting rest }
    | .error _ =>
      { (s.call c party h false).transition .closing with
        stage := .closing c.manager.protocol.closeHooks }
  | .serving =>
    if s.receiver.running || s.processor.running then s
    else { s.transition .closing with stage := .closing c.manager.protocol.closeHooks }
  | .closing [] => s.finish
  | .closing ((party, h) :: rest) =>
    match (h.run party true).2 with
    | .ok () => { s.call c party h true with stage := .closing rest }
    | .error _ => (s.call c party h true).finish
  | .returned _ => s

/-- One move. The pumps exist only while the session is serving. -/
def step (c : Connection) (s : Machine) : Move → Machine
  | .session n => sessionStep c s n
  | .receive n =>
    match s.stage with
    | .serving => receiveStep c s n
    | _ => s
  | .process n =>
    match s.stage with
    | .serving => processStep c s n
    | _ => s
  | .cancel => { s with wire := { s.wire with nodeCancelled := true } }

/-- The state after a schedule of moves. -/
def run (c : Connection) (s : Machine) (moves : List Move) : Machine := moves.foldl (step c) s

/-- What the session returned, once it has. -/
def result? (s : Machine) : Option (Except ServerError Unit) :=
  match s.stage with
  | .returned r => some r
  | _ => none

end Machine

end MetricsNode
