import MetricsNode.Node.Command
import MetricsNode.Wire.Framer

/-!
# The protocol engine

What a node says, apart from the sockets: the banner `# munin node at <host>`, the session
callbacks, and the answer to each received line.

Session start runs the provider's callback and then each plugin's, in order; session close
runs each plugin's and then the provider's. Either run stops at the first callback that fails.
A received line is read as UTF-8 lossily and dispatched through the registry, whose built-in
commands run for the engine's provider.
-/

namespace MetricsNode

open Text

/-- The protocol engine of a node. -/
structure Protocol where
  hostname : String
  provider : Provider
  registry : Registry Builtin

/-- Runs callbacks in order until one fails: the notices they leave, and the outcome. -/
def runHooks (closing : Bool) : List (Party × Hooks) → List Notice × Except PluginError Unit
  | [] => ([], .ok ())
  | (party, h) :: rest =>
    let (t, r) := h.run party closing
    match r with
    | .error e => (t, .error e)
    | .ok () =>
      let (t', r') := runHooks closing rest
      (t ++ t', r')

namespace Protocol

/-- The engine of a node with the standard registry. -/
def standard (hostname version : String) (provider : Provider) : Protocol :=
  ⟨hostname, provider, Registry.standard hostname version⟩

/-- The greeting sent when a session opens. -/
def banner (p : Protocol) : String := "# munin node at " ++ p.hostname ++ "\n"

/-- The plugins' callbacks, in provider order. -/
def pluginHooks (p : Protocol) : List (Party × Hooks) :=
  p.provider.plugins.map fun pl => (.plugin pl.name, pl.hooks)

/-- The order of the start callbacks: the provider first, then the plugins. -/
def startHooks (p : Protocol) : List (Party × Hooks) := (.provider, p.provider.hooks) :: p.pluginHooks

/-- The order of the close callbacks: the plugins first, then the provider. -/
def closeHooks (p : Protocol) : List (Party × Hooks) := p.pluginHooks ++ [(.provider, p.provider.hooks)]

/-- Session start: the start callbacks in order. -/
def start (p : Protocol) : List Notice × Except ServerError Unit :=
  let (t, r) := runHooks false p.startHooks
  (t, r.mapError .plugin)

/-- Session close: the close callbacks in order. -/
def close (p : Protocol) : List Notice × Except ServerError Unit :=
  let (t, r) := runHooks true p.closeHooks
  (t, r.mapError .plugin)

/-- The commands of the engine: its registry's, each run for its provider. -/
def commands (p : Protocol) : Registry (Command Cancellation) :=
  p.registry.map (Builtin.command p.provider)

/-- Answers a received line. -/
def handle (p : Protocol) (line : Wire.Bytes) (c : Cancellation) :
    Except ServerError Reply × Cancellation :=
  p.commands.dispatch (Wire.decodeLossy line) c

/-- The engine in inspection text. -/
def shape (p : Protocol) : Shape :=
  .record "MuninProtocol" [("hostname", .quoted p.hostname), ("registry", p.commands.shape)] true

end Protocol

end MetricsNode
