import MetricsNode.Plugin.Field

/-!
# Plugins and providers

A plugin is a named source of metrics: graph attributes and an ordered list of fields with
distinct names. A provider owns the plugins a node serves, in order. Both take part in every
collector session through two callbacks, one when the session starts and one when it closes;
a callback either succeeds or fails with a plugin error, and a *traced* one leaves a notice in
the session's log.
-/

namespace MetricsNode

open Text

/-- The session callbacks of a plugin or provider: how each one ends, and whether they leave a
notice in the session log. -/
structure Hooks where
  traced : Bool := false
  onStart : Option PluginError := none
  onClose : Option PluginError := none
  deriving DecidableEq, Repr, Inhabited

/-- Who ran a session callback. -/
inductive Party where
  | provider
  | plugin (name : String)
  deriving DecidableEq, Repr, Inhabited

/-- The trace of one session callback: who ran it, and whether it was the closing one. -/
structure Notice where
  party : Party
  closing : Bool
  deriving DecidableEq, Repr, Inhabited

namespace Hooks

/-- Hooks that succeed silently. -/
def quiet : Hooks := {}

/-- Runs one callback: the notice it leaves, and its outcome. -/
def run (h : Hooks) (party : Party) (closing : Bool) : List Notice × Except PluginError Unit :=
  let trace := if h.traced then [⟨party, closing⟩] else []
  let outcome := if closing then h.onClose else h.onStart
  (trace, match outcome with
    | some e => .error e
    | none => .ok ())

end Hooks

/-- A plugin: a name, graph attributes, fields in order, and session callbacks. -/
structure Plugin where
  name : String
  graph : GraphAttributes := {}
  fields : List Field := []
  hooks : Hooks := {}

/-- The first name that occurs a second time, scanning from the front; `seen` holds the names
before the rest. -/
def firstRepeat (seen : List String) : List String → Option String
  | [] => none
  | n :: rest => if seen.contains n then some n else firstRepeat (n :: seen) rest

namespace Plugin

/-- Builds a plugin: an empty name is refused first, then the first field whose name repeats
an earlier one. -/
def new? (name : String) (graph : GraphAttributes) (fields : List Field)
    (hooks : Hooks := {}) : Except PluginError Plugin :=
  if name.isEmpty then .error .emptyPluginName
  else match firstRepeat [] (fields.map Field.name) with
    | some n => .error (.duplicateField name n)
    | none => .ok { name, graph, fields, hooks }

/-- The first field with a given name. -/
def field? (p : Plugin) (n : String) : Option Field := p.fields.find? (·.name == n)

/-- The plugin in inspection text: its name, graph and field names. -/
def shape (p : Plugin) : Shape :=
  .record "BasicPlugin" [("name", .quoted p.name), ("graph", p.graph.shape),
    ("fields", .strings (p.fields.map Field.name))] false

end Plugin

/-- The plugins a node serves, in order, and the provider's own session callbacks. -/
structure Provider where
  plugins : List Plugin := []
  hooks : Hooks := {}

namespace Provider

/-- The first plugin with a given name. -/
def find? (p : Provider) (name : String) : Option Plugin := p.plugins.find? (·.name == name)

/-- The plugin names, in order. -/
def names (p : Provider) : List String := p.plugins.map (·.name)

/-- The provider in inspection text: its plugin names. -/
def shape (p : Provider) : Shape :=
  .record "StaticPluginProvider" [("plugins", .strings p.names)] false

end Provider

end MetricsNode
