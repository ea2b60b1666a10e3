import MetricsNode.Text.Inspect

/-!
# Plugin errors

Everything that can go wrong while plugins are built or read, as causes. The wording of each
cause lives in `PluginError.message`, its inspection text in `PluginError.shape`.
-/

namespace MetricsNode

open Text

/-- Why building or reading a plugin failed. -/
inductive PluginError where
  /-- A field name that is not a letter or underscore followed by letters, digits and
  underscores. -/
  | invalidFieldName (name reason : String)
  /-- A field label that is empty or holds `#` or a backslash. -/
  | invalidLabel (label reason : String)
  /-- A plugin without a name. -/
  | emptyPluginName
  /-- Two fields of one plugin with the same name. -/
  | duplicateField (plugin field : String)
  /-- Reading a field failed. -/
  | fetchFailed (field reason : String)
  /-- A session start or close callback failed. -/
  | callback (message : String)
  /-- The work was cancelled. -/
  | cancelled
  deriving DecidableEq, Repr, Inhabited

namespace PluginError

/-- The sentence that reports the error. -/
def message : PluginError → String
  | .invalidFieldName name reason => "invalid field name '" ++ name ++ "': " ++ reason
  | .invalidLabel label reason => "invalid field label '" ++ label ++ "': " ++ reason
  | .emptyPluginName => "plugin name cannot be empty"
  | .duplicateField plugin field => "duplicate field '" ++ field ++ "' in plugin '" ++ plugin ++ "'"
  | .fetchFailed field reason => "failed to fetch value of field '" ++ field ++ "': " ++ reason
  | .callback message => "session callback failed: " ++ message
  | .cancelled => "operation cancelled"

/-- The name of the cause, as error reports tag it. -/
def tag : PluginError → String
  | .invalidFieldName .. => "InvalidFieldName"
  | .invalidLabel .. => "InvalidLabel"
  | .emptyPluginName => "EmptyPluginName"
  | .duplicateField .. => "DuplicateField"
  | .fetchFailed .. => "FetchFailed"
  | .callback .. => "Callback"
  | .cancelled => "Cancelled"

/-- The error in inspection text. -/
def shape : PluginError → Shape
  | .invalidFieldName name reason =>
    .record "InvalidFieldName" [("name", .quoted name), ("reason", .quoted reason)] false
  | .invalidLabel label reason =>
    .record "InvalidLabel" [("label", .quoted label), ("reason", .quoted reason)] false
  | .emptyPluginName => .text "EmptyPluginName"
  | .duplicateField plugin field =>
    .record "DuplicateField" [("plugin", .quoted plugin), ("field", .quoted field)] false
  | .fetchFailed field reason =>
    .record "FetchFailed" [("field", .quoted field), ("reason", .quoted reason)] false
  | .callback message => .tuple "Callback" [.quoted message]
  | .cancelled => .text "Cancelled"

end PluginError

end MetricsNode
