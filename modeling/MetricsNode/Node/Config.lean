import MetricsNode.Toml.Decode
import MetricsNode.Node.Session

/-!
# Node configuration

What a node is configured with: the address and port it listens on, the host name it reports,
the addresses allowed to connect, the version it reports, and the buffering limits of its
sessions.

A configuration is read from TOML. Every key may be left out and takes its default then:
listen on `127.0.0.1` port `4949`, the system host name, the loopback addresses, version
`0.1.0`, and the default session limits. Unknown keys are ignored. A text that is not TOML, or
a key of the wrong type (an address that does not parse, a port past 65535, a negative size),
is refused as a whole with `invalid TOML`.

A configuration is then *validated*, in this order: the host name must not be empty once
Unicode white space is trimmed, must hold no line break, and both session limits must be
positive.

The system host name is a parameter: the reader does not look at the machine it runs on.
-/

namespace MetricsNode

open Net Text Toml

/-- The version a node reports unless configured otherwise. -/
def packageVersion : String := "0.1.0"

/-- The port a node listens on unless configured otherwise. -/
def defaultPort : UInt16 := 4949

/-- The configuration of a node. -/
structure NodeConfig where
  listen : IpAddr := .v4 Ipv4.localhost
  port : UInt16 := defaultPort
  hostname : String
  allowFrom : List IpAddr := loopbackAddresses
  version : String := packageVersion
  session : SessionConfig := {}
  deriving DecidableEq, Repr

/-- What reading a configuration file finds at its path. -/
inductive ConfigFile where
  | missing
  | directory
  | contents (bytes : Wire.Bytes)
  deriving DecidableEq, Repr

namespace NodeConfig

/-- The default configuration on a machine with the given host name. -/
def new (systemHostname : String) : NodeConfig := { hostname := systemHostname }

/-- The socket address a node binds. -/
def bindAddress (c : NodeConfig) : SocketAddress := .ofIp c.listen c.port

/-- Checks a configuration: the host name, then the session limits. -/
def validate (c : NodeConfig) : Except ServerError Unit :=
  if (trimUnicode c.hostname).isEmpty then .error (.config "hostname cannot be empty")
  else if c.hostname.any (fun ch => ch == '\r' || ch == '\n') then
    .error (.config "hostname cannot contain line breaks")
  else if c.session.readChunkSize == 0 then
    .error (.config "session.read_chunk_size must be greater than zero")
  else if c.session.maxPendingChunks == 0 then
    .error (.config "session.max_pending_chunks must be greater than zero")
  else .ok ()

/-- The configuration in inspection text. -/
def shape (c : NodeConfig) : Shape :=
  .record "NodeConfig" [("listen", .text c.listen.text), ("port", .nat c.port.toNat),
    ("hostname", .quoted c.hostname), ("allow_from", .list (c.allowFrom.map (.text ·.text))),
    ("version", .quoted c.version), ("session", c.session.shape)] false

end NodeConfig

/-! ## Reading from TOML -/

/-- One more than the largest size a session limit can hold. -/
def sizeBound : Nat := Nat.pow 2 64

/-- An address written as a string. -/
def readAddress (it : Item) : Option IpAddr := it.text?.bind IpAddr.ofString?

/-- Session limits from a table, or from a sequence of the two limits in order. -/
def SessionConfig.ofItem? (it : Item) : Option SessionConfig :=
  let d : SessionConfig := {}
  let size := Item.natBelow? sizeBound
  match it.map? with
  | some es => do
    let r ← readField es "read_chunk_size" d.readChunkSize size
    let m ← readField es "max_pending_chunks" d.maxPendingChunks size
    pure ⟨r, m⟩
  | none => do
    let items ← it.sequence?
    let r ← readPosition items 0 d.readChunkSize size
    let m ← readPosition items 1 d.maxPendingChunks size
    pure ⟨r, m⟩

/-- A configuration from the entries of a TOML document. -/
def NodeConfig.ofEntries? (systemHostname : String) (es : Entries) : Option NodeConfig := do
  let d := NodeConfig.new systemHostname
  let listen ← readField es "listen" d.listen readAddress
  let port ← readField es "port" d.port fun it => (it.natBelow? 65536).map Nat.toUInt16
  let hostname ← readField es "hostname" d.hostname Item.text?
  let allowFrom ← readField es "allow_from" d.allowFrom fun it => it.sequence?.bind (·.mapM readAddress)
  let version ← readField es "version" d.version Item.text?
  let session ← readField es "session" d.session SessionConfig.ofItem?
  pure { listen, port, hostname, allowFrom, version, session }

/-- The error of a text that is not a configuration. -/
def invalidToml : ServerError := .config "invalid TOML"

/-- Reads and validates a configuration from TOML text. -/
def NodeConfig.ofToml (systemHostname text : String) : Except ServerError NodeConfig := do
  match (parseDocument text).bind (NodeConfig.ofEntries? systemHostname) with
  | none => throw invalidToml
  | some c =>
    c.validate
    pure c

/-- The error of a configuration file that cannot be read. -/
def unreadableConfig (path : String) (cause : IoFailure) : ServerError :=
  .config ("failed to read config file '" ++ path ++ "': " ++ cause.message)

/-- Reads and validates the configuration file at `path`: it must be there, be a file, and hold
UTF-8 text. -/
def NodeConfig.ofFile (systemHostname path : String) : ConfigFile → Except ServerError NodeConfig
  | .missing => .error (unreadableConfig path (.os .notFound 2))
  | .directory => .error (unreadableConfig path (.os .isADirectory 21))
  | .contents bytes =>
    match String.fromUTF8? (ByteArray.mk bytes.toArray) with
    | none => .error (unreadableConfig path (.custom .invalidData "stream did not contain valid UTF-8"))
    | some text => NodeConfig.ofToml systemHostname text

end MetricsNode
