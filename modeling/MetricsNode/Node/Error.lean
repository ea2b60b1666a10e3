import MetricsNode.Plugin.Error
import MetricsNode.Net.Address

/-!
# Node errors

What can end a node's work: a socket that could not be bound, a bad configuration, a failed
read or write on a session's socket, a plugin error passed through, and cancellation.

A transport failure carries the phase of the session it struck and the input/output failure
itself. Five kinds of failure mean that the peer went away (reset, aborted, broken pipe,
unexpected end of input, not connected); they are *expected disconnects*, which a session
treats as an ordinary end. Cancellation is either the node's own or one a plugin reports.
-/

namespace MetricsNode

open Text

/-- The phase of a session in which a transport failure happened. -/
inductive SessionPhase where
  | banner
  | receiving
  | processing
  | sending
  deriving DecidableEq, Repr, Inhabited

namespace SessionPhase

/-- The word used in error messages. -/
def word : SessionPhase → String
  | .banner => "banner"
  | .receiving => "receiving"
  | .processing => "processing"
  | .sending => "sending"

/-- The name in inspection text. -/
def name : SessionPhase → String
  | .banner => "Banner"
  | .receiving => "Receiving"
  | .processing => "Processing"
  | .sending => "Sending"

/-- Every phase. -/
def all : List SessionPhase := [.banner, .receiving, .processing, .sending]

end SessionPhase

/-- Kinds of input/output failure. -/
inductive IoKind where
  | connectionReset
  | connectionAborted
  | brokenPipe
  | unexpectedEof
  | notConnected
  | permissionDenied
  | invalidData
  | timedOut
  | addrInUse
  | wouldBlock
  | interrupted
  | other
  | addrNotAvailable
  | notFound
  | isADirectory
  | notADirectory
  deriving DecidableEq, Repr, Inhabited

namespace IoKind

/-- The name of the kind. -/
def name : IoKind → String
  | .connectionReset => "ConnectionReset"
  | .connectionAborted => "ConnectionAborted"
  | .brokenPipe => "BrokenPipe"
  | .unexpectedEof => "UnexpectedEof"
  | .notConnected => "NotConnected"
  | .permissionDenied => "PermissionDenied"
  | .invalidData => "InvalidData"
  | .timedOut => "TimedOut"
  | .addrInUse => "AddrInUse"
  | .wouldBlock => "WouldBlock"
  | .interrupted => "Interrupted"
  | .other => "Other"
  | .addrNotAvailable => "AddrNotAvailable"
  | .notFound => "NotFound"
  | .isADirectory => "IsADirectory"
  | .notADirectory => "NotADirectory"

/-- Every kind. -/
def all : List IoKind :=
  [.connectionReset, .connectionAborted, .brokenPipe, .unexpectedEof, .notConnected,
    .permissionDenied, .invalidData, .timedOut, .addrInUse, .wouldBlock, .interrupted, .other,
    .addrNotAvailable, .notFound, .isADirectory, .notADirectory]

/-- The kind with a given name. -/
def ofName? (s : String) : Option IoKind := all.find? (·.name == s)

/-- Whether the kind means that the peer went away. -/
def isDisconnect : IoKind → Bool
  | .connectionReset | .connectionAborted | .brokenPipe | .unexpectedEof | .notConnected => true
  | _ => false

end IoKind

/-- An input/output failure: one with a message of its own, or one reported by the operating
system with its error number. -/
inductive IoFailure where
  | custom (kind : IoKind) (message : String)
  | os (kind : IoKind) (code : Nat)
  deriving DecidableEq, Repr, Inhabited

namespace IoFailure

/-- The kind of the failure. -/
def kind : IoFailure → IoKind
  | .custom k _ => k
  | .os k _ => k

/-- The operating system's description of an error number. -/
def osDescription : Nat → String
  | 2 => "No such file or directory"
  | 13 => "Permission denied"
  | 20 => "Not a directory"
  | 21 => "Is a directory"
  | 98 => "Address already in use"
  | 99 => "Cannot assign requested address"
  | n => "Unknown error " ++ toString n

/-- The sentence that reports the failure. -/
def message : IoFailure → String
  | .custom _ m => m
  | .os _ code => osDescription code ++ " (os error " ++ toString code ++ ")"

/-- The failure in inspection text. -/
def shape : IoFailure → Shape
  | .custom k m => .record "Custom" [("kind", .text k.name), ("error", .quoted m)] false
  | .os k code => .record "Os" [("code", .nat code), ("kind", .text k.name),
      ("message", .quoted (osDescription code))] false

end IoFailure

/-- Why the node's work failed. -/
inductive ServerError where
  /-- The listening socket could not be bound. -/
  | bindFailed (addr : Net.SocketAddress) (cause : IoFailure)
  /-- The configuration is not usable. -/
  | config (message : String)
  /-- Reading or writing a session's socket failed. -/
  | transport (phase : SessionPhase) (cause : IoFailure)
  /-- A plugin failed. -/
  | plugin (e : PluginError)
  /-- The node's work was cancelled. -/
  | cancelled
  deriving DecidableEq, Repr, Inhabited

namespace ServerError

/-- The sentence that reports the error. -/
def message : ServerError → String
  | .bindFailed addr cause => "failed to bind to " ++ addr.text ++ ": " ++ cause.message
  | .config m => "configuration error: " ++ m
  | .transport phase cause => "transport error while " ++ phase.word ++ ": " ++ cause.message
  | .plugin e => "plugin error: " ++ e.message
  | .cancelled => "operation cancelled"

/-- The name of the cause, as error reports tag it. -/
def tag : ServerError → String
  | .bindFailed .. => "ServerError::BindFailed"
  | .config .. => "ServerError::Config"
  | .transport .. => "ServerError::Transport"
  | .plugin e => "ServerError::Plugin(PluginError::" ++ e.tag ++ ")"
  | .cancelled => "ServerError::Cancelled"

/-- Whether the error means that the peer went away. -/
def isExpectedDisconnect : ServerError → Bool
  | .transport _ cause => cause.kind.isDisconnect
  | _ => false

/-- Whether the error is a cancellation, the node's own or one a plugin reports. -/
def isCancelled : ServerError → Bool
  | .cancelled | .plugin .cancelled => true
  | _ => false

/-- The error in inspection text. -/
def shape : ServerError → Shape
  | .bindFailed addr cause => .tuple "BindFailed" [.text addr.text, cause.shape]
  | .config m => .tuple "Config" [.quoted m]
  | .transport phase cause =>
    .record "Transport" [("phase", .text phase.name), ("source", cause.shape)] false
  | .plugin e => .tuple "Plugin" [e.shape]
  | .cancelled => .text "Cancelled"

end ServerError

end MetricsNode
