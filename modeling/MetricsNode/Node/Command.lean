import MetricsNode.Plugin.Config
import MetricsNode.Node.Error

/-!
# Commands

A command line is a command word, alone or followed by one space and an argument that runs to
the end of the line. `quit` (alone or with an argument) and `.` end the session and are
checked before any command.

A node knows seven commands:

| word | answer |
|---|---|
| `cap` | `cap` (no optional capability is offered) |
| `list` | the plugin names joined by single spaces |
| `nodes` | the host name, then `.` |
| `version` | `munins node on <host> version: <version>` |
| `config <plugin>` | the plugin's configuration block, or `# Unknown service` and `.` |
| `fetch <plugin>` | a `value` line per field, then `.`; or `# Unknown service` and `.` |
| `help` | a line naming the commands |

A registry holds commands in order and a fallback; a line goes to the first command whose
word it starts with (as above), otherwise to the fallback with an empty argument. A command is
any word with a way to run: it runs on an argument in a state of its own, the token it is
handed and whatever it records. The seven commands above are the node's built-in ones; a node's
registry holds built-in commands, each run for the node's provider.
-/

namespace MetricsNode

open Text

/-- Whether the session goes on after a command. -/
inductive Status where
  | carryOn
  | quit
  deriving DecidableEq, Repr, Inhabited

/-- The name of a status in inspection text. -/
def Status.name : Status → String
  | .carryOn => "Continue"
  | .quit => "Quit"

/-- The answer to a command line: lines to send, and whether to go on. -/
structure Reply where
  lines : List String
  status : Status := .carryOn
  deriving DecidableEq, Repr, Inhabited

namespace Reply

/-- The answer that ends the session. -/
def quit : Reply := ⟨[], .quit⟩

/-- The reply in inspection text. -/
def shape (r : Reply) : Shape :=
  .record "CommandResult" [("lines", .strings r.lines), ("status", .text r.status.name)] false

end Reply

/-- The word that ends a session. -/
def quitWord : String := "quit"

/-- The short form of `quit`. -/
def quitShorthand : String := "."

/-- The argument of a line for a command word: empty for the word alone, the rest after one
space for the word followed by a space, nothing otherwise. -/
def matchCommand (line name : String) : Option String :=
  if name.toList.isPrefixOf line.toList then
    match line.toList.drop name.length with
    | [] => some ""
    | ' ' :: rest => some (String.ofList rest)
    | _ => none
  else none

/-- Whether a line ends the session. -/
def isQuitLine (line : String) : Bool :=
  line == quitShorthand || (matchCommand line quitWord).isSome

/-- The line answered to an unknown plugin. -/
def unknownService : String := "# Unknown service"

/-- The line answered to an unknown command. -/
def usage : String := "# Unknown command. Try cap, list, nodes, config, fetch, version or quit"

/-- The product name in the version line. -/
def productName : String := "munins node"

/-- A command: the word that selects it, and what it does with an argument. It runs in a state
of its own (the token it is handed, and whatever it keeps), which it may change. -/
structure Command (σ : Type) where
  word : String
  run : String → σ → Except ServerError Reply × σ

/-- Entries in order, and a fallback for the lines that none of them takes. -/
structure Registry (κ : Type) where
  commands : List κ
  fallback : κ
  deriving DecidableEq, Repr

namespace Registry

variable {κ κ' σ : Type}

/-- The registry with every entry replaced by its image. -/
def map (f : κ → κ') (r : Registry κ) : Registry κ' := ⟨r.commands.map f, f r.fallback⟩

/-- The words of the commands, in order. -/
def words (r : Registry (Command σ)) : List String := r.commands.map Command.word

/-- The first command that takes the line, with its argument. -/
def select? (r : Registry (Command σ)) (line : String) : Option (Command σ × String) :=
  r.commands.findSome? fun cmd => (matchCommand line cmd.word).map (cmd, ·)

/-- Answers a line: the quit reply for a quit line, else the selected command, else the
fallback with an empty argument. -/
def dispatch (r : Registry (Command σ)) (line : String) (s : σ) : Except ServerError Reply × σ :=
  if isQuitLine line then (.ok Reply.quit, s)
  else match r.select? line with
    | some (cmd, args) => cmd.run args s
    | none => r.fallback.run "" s

/-- The registry in inspection text. -/
def shape (r : Registry (Command σ)) : Shape :=
  .record "CommandRegistry" [("commands", .strings r.words), ("fallback", .quoted r.fallback.word)]
    false

end Registry

/-- The commands built into a node, with what each one holds. -/
inductive Builtin where
  | cap
  | list
  | nodes (hostname : String)
  | version (line : String)
  | config
  | fetch
  | help
  deriving DecidableEq, Repr, Inhabited

/-- The `value` lines of a plugin's fields, read in order while the token is not cancelled;
the first failure ends the reading. -/
def fetchValues (fields : List Field) (c : Cancellation) :
    Except PluginError (List String) × Cancellation :=
  match fields with
  | [] => (.ok [], c)
  | f :: rest =>
    match f.fetch c with
    | (.error e, c') => (.error e, c')
    | (.ok v, c') =>
      let (r, c'') := fetchValues rest c'
      (r.map ((f.name ++ ".value " ++ v) :: ·), c'')

namespace Builtin

/-- The version command of a host and a version. -/
def versionOf (hostname version : String) : Builtin :=
  .version (productName ++ " on " ++ hostname ++ " version: " ++ version)

/-- The word of the command. -/
def word : Builtin → String
  | .cap => "cap"
  | .list => "list"
  | .nodes _ => "nodes"
  | .version _ => "version"
  | .config => "config"
  | .fetch => "fetch"
  | .help => "help"

/-- The answer to an unknown plugin. -/
def unknownServiceReply : Reply := ⟨[unknownService, endOfBlock], .carryOn⟩

/-- Runs the command on an argument, for a provider's plugins, under a cancellation state. -/
def run (cmd : Builtin) (provider : Provider) (args : String) (c : Cancellation) :
    Except ServerError Reply × Cancellation :=
  match cmd with
  | .cap => (.ok ⟨["cap"], .carryOn⟩, c)
  | .list => (.ok ⟨[" ".intercalate provider.names], .carryOn⟩, c)
  | .nodes h => (.ok ⟨[h, endOfBlock], .carryOn⟩, c)
  | .version line => (.ok ⟨[line], .carryOn⟩, c)
  | .config =>
    match provider.find? args with
    | some p => (.ok ⟨p.configLines, .carryOn⟩, c)
    | none => (.ok unknownServiceReply, c)
  | .fetch =>
    match provider.find? args with
    | some p =>
      let (r, c') := fetchValues p.fields c
      match r with
      | .ok lines => (.ok ⟨lines ++ [endOfBlock], .carryOn⟩, c')
      | .error e => (.error (.plugin e), c')
    | none => (.ok unknownServiceReply, c)
  | .help => (.ok ⟨[usage], .carryOn⟩, c)

/-- The command for a provider: it runs on the token it is handed. -/
def command (provider : Provider) (cmd : Builtin) : Command Cancellation :=
  ⟨cmd.word, cmd.run provider⟩

/-- The command in inspection text; the commands that hold the provider have none. -/
def shape? : Builtin → Option Shape
  | .cap => some (.text "CapCommand")
  | .nodes h => some (.record "NodesCommand" [("hostname", .quoted h)] false)
  | .version line => some (.record "VersionCommand" [("line", .quoted line)] false)
  | .help => some (.text "HelpCommand")
  | _ => none

end Builtin

/-- The registry of a node: fetch, nodes, list, config, cap, version, and help as fallback. -/
def Registry.standard (hostname version : String) : Registry Builtin :=
  { commands := [.fetch, .nodes hostname, .list, .config, .cap, Builtin.versionOf hostname version]
    fallback := .help }

end MetricsNode
