import MetricsNode.Plugin.Graph

/-!
# Fields

A field is one time series of a plugin: its attributes (name, label, style, ranges, negative
partner) and what reading it does. A reading gives a sample, possibly unknown, or fails; it may
also cancel a token as a side effect, which later steps of the same command observe.

A sample is written on a `value` line as a wire number; an unknown or non-finite sample is
written `U`.
-/

namespace MetricsNode

open Text

/-- The written form of an unknown sample. -/
def unknownValue : String := "U"

/-- Whether a double is finite, read off its bits. -/
def isFiniteFloat (x : Float) : Bool :=
  match Decimal.Binary.ofFloat x with
  | .nan | .infinite _ => false
  | _ => true

/-- A sample as written on a `value` line. -/
def formatValue : Option Float → String
  | some v => if isFiniteFloat v then Decimal.plainText v else unknownValue
  | none => unknownValue

/-- The attributes of a field. -/
structure FieldAttributes where
  name : FieldName
  label : String
  style : DrawStyle := .default
  warning : ValueRange := {}
  critical : ValueRange := {}
  negative : Option FieldName := none

namespace FieldAttributes

/-- Attributes with a checked label and nothing else set. -/
def new? (name : FieldName) (label : String) : Except PluginError FieldAttributes := do
  checkLabel label
  pure { name, label }

/-- The attributes in inspection text. -/
def shape (a : FieldAttributes) : Shape :=
  .record "FieldAttributes" [
    ("name", a.name.shape),
    ("label", .quoted a.label),
    ("graph_style", .text a.style.name),
    ("warning", a.warning.shape),
    ("critical", a.critical.shape),
    ("negative", .option (a.negative.map FieldName.shape))] false

end FieldAttributes

/-- The token a reading may cancel: the one handed to the command, or the server-wide one. -/
inductive CancelScope where
  | handed
  | server
  deriving DecidableEq, Repr, Inhabited

/-- The cancellation state that a command runs under. -/
structure Cancellation where
  /-- The server-wide token is cancelled. -/
  server : Bool := false
  /-- The token handed to the command is cancelled by itself. -/
  handed : Bool := false
  /-- The handed token is a child of the server-wide one, so it follows its cancellation. -/
  follows : Bool := true
  deriving DecidableEq, Repr, Inhabited

namespace Cancellation

/-- Whether the token handed to the command is cancelled. -/
def isCancelled (c : Cancellation) : Bool := c.handed || (c.follows && c.server)

/-- Cancels one of the tokens. -/
def cancel (c : Cancellation) : CancelScope → Cancellation
  | .handed => { c with handed := true }
  | .server => { c with server := true }

end Cancellation

/-- What reading a field does: its outcome, and the token it cancels on the way. -/
structure Reading where
  outcome : Except PluginError (Option Float)
  cancels : Option CancelScope := none
  deriving Inhabited

/-- A field: attributes and reading. -/
structure Field where
  attributes : FieldAttributes
  reading : Reading

namespace Field

/-- The name of the field. -/
def name (f : Field) : String := f.attributes.name.text

/-- Reads the field for a `value` line: refused on a cancelled token, otherwise the reading's
outcome, written as a sample, after its cancellation took effect. -/
def fetch (f : Field) (c : Cancellation) : Except PluginError String × Cancellation :=
  if c.isCancelled then (.error .cancelled, c)
  else
    let c' := match f.reading.cancels with
      | some s => c.cancel s
      | none => c
    (f.reading.outcome.map formatValue, c')

/-- The field in inspection text; the reading is not shown. -/
def shape (f : Field) : Shape := .record "FnField" [("attributes", f.attributes.shape)] true

end Field

end MetricsNode
