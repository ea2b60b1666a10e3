import MetricsNode.Cli.Similarity
import MetricsNode.Net.Address

/-!
# The command line

The node takes five options, each of which may also come from an environment variable, and the
two standard flags:

| option | value | variable |
|---|---|---|
| `-c`, `--config <CONFIG>` | a path to a TOML file | `MUNIN_NODE_CONFIG` |
| `--listen <LISTEN>` | an IP address | `MUNIN_NODE_LISTEN` |
| `-p`, `--port <PORT>` | a port `0..=65535` | `MUNIN_NODE_PORT` |
| `--hostname <HOSTNAME>` | any text | `MUNIN_NODE_HOSTNAME` |
| `--allow-from <ALLOW_FROM>` | an address list | `MUNIN_NODE_ALLOW_FROM` |
| `-h`, `--help` | | |
| `-V`, `--version` | | |

## How arguments are read

Arguments are read left to right. `--name value`, `--name=value`, `-x value`, `-xvalue` and
`-x=value` give an option its value; short flags may be clustered (`-hV`). An option waiting
for its value takes the next argument unless that argument looks like an option (`--…` or
`-x…`), which is then read as one; a lone `-` is a value. After `--` every argument is a
positional one, and the node takes none.

An option's value is read and checked when the option is *settled*: as soon as its value is
attached, else when the next option starts or the arguments end. Settling an option that got no
value is an error, and so is giving an option twice. `--help` and `--version` stop the reading
when they are settled, after the option before them. An unknown argument is an error at once,
even if the option before it is still waiting. An environment variable is read only for an
option not given on the command line, after all arguments.
-/

namespace MetricsNode.Cli

open Net

/-- How an option's value is read. -/
inductive ValueKind where
  | path
  | address
  | port
  | text
  deriving DecidableEq, Repr

/-- What an option does. -/
inductive Action where
  | set (kind : ValueKind)
  | help
  | version
  deriving DecidableEq, Repr

/-- An option of the command line. -/
structure OptionSpec where
  long : String
  short : Option Char
  valueName : String
  help : String
  env : Option String
  action : Action
  deriving DecidableEq, Repr

/-- The name of the program. -/
def programName : String := "munin-node"

/-- What the program is, as the help says it. -/
def about : String := "Munin node daemon"

/-- The options, in the order the help lists them. -/
def options : List OptionSpec := [
  ⟨"config", some 'c', "CONFIG", "Path to a TOML config file", some "MUNIN_NODE_CONFIG", .set .path⟩,
  ⟨"listen", none, "LISTEN", "Address to listen on", some "MUNIN_NODE_LISTEN", .set .address⟩,
  ⟨"port", some 'p', "PORT", "Port to listen on", some "MUNIN_NODE_PORT", .set .port⟩,
  ⟨"hostname", none, "HOSTNAME", "Host name reported to the collector", some "MUNIN_NODE_HOSTNAME",
    .set .text⟩,
  ⟨"allow-from", none, "ALLOW_FROM",
    "Allowed remote addresses, separated by spaces, commas or semicolons", some "MUNIN_NODE_ALLOW_FROM",
    .set .text⟩,
  ⟨"help", some 'h', "", "Print help", none, .help⟩,
  ⟨"version", some 'V', "", "Print version", none, .version⟩]

namespace OptionSpec

/-- Whether the option takes a value. -/
def takesValue (o : OptionSpec) : Bool :=
  match o.action with
  | .set _ => true
  | _ => false

/-- The option as messages name it: `--long <VALUE>`, or `--long` for a flag. -/
def display (o : OptionSpec) : String :=
  "--" ++ o.long ++ (if o.takesValue then " <" ++ o.valueName ++ ">" else "")

end OptionSpec

/-- The option with a long name. -/
def findLong (name : String) : Option OptionSpec := options.find? (·.long == name)

/-- The option with a short name. -/
def findShort (c : Char) : Option OptionSpec := options.find? (·.short == some c)

/-- A value given to an option. -/
inductive OptionValue where
  | path (p : String)
  | address (a : IpAddr)
  | port (n : UInt16)
  | text (s : String)
  deriving DecidableEq, Repr

/-- Why the command line cannot be read. Those marked so are followed by the usage line. -/
inductive CliError where
  /-- An argument that is no option (with usage), and the option it may have meant. -/
  | unknownArgument (arg : String) (suggestion : Option String)
  /-- An option without its value. -/
  | missingValue (option : String)
  /-- A value the option cannot take, and why. -/
  | invalidValue (option value reason : String)
  /-- An option given twice (with usage). -/
  | repeated (option : String)
  /-- A value attached to a flag (with usage). -/
  | unexpectedValue (option value : String)
  deriving DecidableEq, Repr

/-- The usage line. -/
def usage : String := "Usage: " ++ programName ++ " [OPTIONS]"

/-- The text written for an error, ending with a line break. -/
def CliError.text : CliError → String
  | .unknownArgument arg suggestion =>
    "error: unexpected argument '" ++ arg ++ "' found" ++
      (match suggestion with
        | some s => "\n\n  tip: a similar argument exists: '" ++ s ++ "'"
        | none => "") ++
      "\n\n" ++ usage ++ "\n\nFor more information, try '--help'.\n"
  | .missingValue option =>
    "error: a value is required for '" ++ option ++ "' but none was supplied" ++
      "\n\nFor more information, try '--help'.\n"
  | .invalidValue option value reason =>
    "error: invalid value '" ++ value ++ "' for '" ++ option ++ "': " ++ reason ++
      "\n\nFor more information, try '--help'.\n"
  | .repeated option =>
    "error: the argument '" ++ option ++ "' cannot be used multiple times" ++
      "\n\n" ++ usage ++ "\n\nFor more information, try '--help'.\n"
  | .unexpectedValue option value =>
    "error: unexpected value '" ++ value ++ "' for '" ++ option ++ "' found; no more were expected" ++
      "\n\n" ++ usage ++ "\n\nFor more information, try '--help'.\n"

/-! ## Values -/

/-- Why a text is not a signed 64-bit integer, reading left to right as the standard library
does: an empty text, a character that is no digit (a sign alone counts as one), or a value
past either end of the range, whichever shows first. -/
def integerFailure (s : String) : Except String Int :=
  let (negative, digits) := match s.toList with
    | '-' :: rest => (true, rest)
    | '+' :: rest => (false, rest)
    | cs => (false, cs)
  if s.isEmpty then .error "cannot parse integer from empty string"
  else if digits.isEmpty then .error "invalid digit found in string"
  else
    let step := fun (acc : Except String Nat) (c : Char) => acc.bind fun n =>
      if !c.isDigit then .error "invalid digit found in string"
      else
        let n' := n * 10 + (c.toNat - '0'.toNat)
        if negative && n' > Nat.pow 2 63 then .error "number too small to fit in target type"
        else if !negative && n' ≥ Nat.pow 2 63 then .error "number too large to fit in target type"
        else .ok n'
    (digits.foldl step (.ok 0)).map fun n => if negative then -(n : Int) else n

/-- Reads a port: a 64-bit integer, then the range check. -/
def readPort (s : String) : Except String UInt16 := do
  let i ← integerFailure s
  if 0 ≤ i && i ≤ 65535 then pure i.toNat.toUInt16
  else throw (toString i ++ " is not in 0..=65535")

/-- Reads an option's value. -/
def readValue (o : OptionSpec) (kind : ValueKind) (raw : String) : Except CliError OptionValue :=
  match kind with
  | .path => if raw.isEmpty then .error (.missingValue o.display) else .ok (.path raw)
  | .address =>
    match IpAddr.ofString? raw with
    | some a => .ok (.address a)
    | none => .error (.invalidValue o.display raw "invalid IP address syntax")
  | .port =>
    match readPort raw with
    | .ok n => .ok (.port n)
    | .error reason => .error (.invalidValue o.display raw reason)
  | .text => .ok (.text raw)

/-! ## Reading the arguments -/

/-- What reading the arguments asks for: running with the options given, or printing the
help or the version. -/
inductive Request where
  | run (values : List (String × OptionValue))
  | help
  | version
  deriving DecidableEq, Repr

/-- Why reading stops early: an error, or a flag that prints and exits. -/
inductive Stop where
  | failed (e : CliError)
  | help
  | version
  deriving DecidableEq, Repr

/-- The state of reading: the values settled so far (by long name), the option not yet settled
with the values it got, whether it still waits for one, and whether `--` was seen. -/
structure ReadState where
  settled : List (String × OptionValue) := []
  pending : Option (OptionSpec × List String) := none
  waiting : Bool := false
  trailing : Bool := false
  deriving Inhabited

/-- Settles an option with its values, when nothing is pending. `fromLine` tells a command-line
option from an environment variable; only the former must come with its value. -/
def settle (st : ReadState) (o : OptionSpec) (vals : List String) (fromLine : Bool) :
    Except Stop ReadState :=
  if fromLine && o.takesValue && vals.isEmpty then .error (.failed (.missingValue o.display))
  else match o.action with
    | .help => .error .help
    | .version => .error .version
    | .set kind =>
      if st.settled.any (·.1 == o.long) then .error (.failed (.repeated o.display))
      else match vals with
        | v :: _ =>
          match readValue o kind v with
          | .ok x => .ok { st with settled := st.settled ++ [(o.long, x)] }
          | .error e => .error (.failed e)
        | [] => .error (.failed (.missingValue o.display))

/-- Settles the pending option, if any. -/
def settlePending (st : ReadState) : Except Stop ReadState :=
  match st.pending with
  | none => .ok st
  | some (o, vals) => settle { st with pending := none, waiting := false } o vals true

/-- Settles the pending option, then a given one. -/
def react (st : ReadState) (o : OptionSpec) (vals : List String) : Except Stop ReadState := do
  let st ← settlePending st
  settle st o vals true

/-- Makes an option pending, waiting for its value, after settling the one before. -/
def await (st : ReadState) (o : OptionSpec) : Except Stop ReadState := do
  let st ← settlePending st
  pure { st with pending := some (o, []), waiting := true }

/-- The long names, for suggestions. -/
def longNames : List String := options.map (·.long)

/-- Reads `--name` or `--name=value`. -/
def readLong (st : ReadState) (body : String) : Except Stop ReadState :=
  let (name, value) := match body.toList.splitOn '=' with
    | n :: v :: more => (String.ofList n, some (String.intercalate "=" ((v :: more).map String.ofList)))
    | _ => (body, none)
  match findLong name, value with
  | none, _ => .error (.failed (.unknownArgument ("--" ++ name) ((mostSimilar name longNames).map ("--" ++ ·))))
  | some o, some v =>
    if o.takesValue then react st o [v]
    else .error (.failed (.unexpectedValue o.display v))
  | some o, none => if o.takesValue then await st o else react st o []

/-- Reads a cluster of short flags, the characters after `-`. -/
def readShorts (st : ReadState) : List Char → Except Stop ReadState
  | [] => .ok st
  | c :: rest =>
    match findShort c with
    | none => .error (.failed (.unknownArgument ("-" ++ c.toString) none))
    | some o =>
      if !o.takesValue then do
        let st ← react st o []
        readShorts st rest
      else match rest with
        | [] => await st o
        | '=' :: v => react st o [String.ofList v]
        | v => react st o [String.ofList v]

/-- Reads one argument. -/
def readArgument (st : ReadState) (arg : String) : Except Stop ReadState :=
  let unexpected := Except.error (Stop.failed (.unknownArgument arg none))
  if st.trailing then unexpected
  else if arg == "--" then .ok { st with trailing := true }
  else if arg.startsWith "--" then readLong st (String.ofList (arg.toList.drop 2))
  else if arg.startsWith "-" && arg != "-" then readShorts st (arg.toList.drop 1)
  else if st.waiting then
    match st.pending with
    | some (o, vals) => .ok { st with pending := some (o, vals ++ [arg]), waiting := false }
    | none => unexpected
  else unexpected

/-- Reads the arguments, then the environment for the options not given. -/
def readCommandLine (args : List String) (env : String → Option String) : Except CliError Request :=
  let read : Except Stop ReadState := do
    let st ← args.foldlM readArgument {}
    let st ← settlePending st
    options.foldlM (fun st o =>
      match o.env.bind env with
      | some v => if st.settled.any (·.1 == o.long) then pure st else settle st o [v] false
      | none => pure st) st
  match read with
  | .ok st => .ok (.run st.settled)
  | .error .help => .ok .help
  | .error .version => .ok .version
  | .error (.failed e) => .error e

/-! ## Help and version -/

/-- The width of the widest option as the help writes it, with the four columns of a short
name in front. -/
def helpColumn : Nat := (options.map fun o => o.display.length + 4).foldl max 2

/-- The help line of an option; an environment variable is shown with its current value. -/
def helpLine (env : String → Option String) (o : OptionSpec) : String :=
  let short := match o.short with
    | some c => "-" ++ c.toString ++ ", "
    | none => "    "
  let gap := helpColumn + 2 - (o.display.length + 4)
  let envText := match o.env with
    | some name => " [env: " ++ name ++ "=" ++ (env name).getD "" ++ "]"
    | none => ""
  "  " ++ short ++ o.display ++ String.ofList (List.replicate gap ' ') ++ o.help ++ envText

/-- The lines of the help. -/
def helpLines (env : String → Option String) : List String :=
  [about, "", usage, "", "Options:"] ++ options.map (helpLine env)

/-- The version line. -/
def versionLine (version : String) : String := programName ++ " " ++ version

end MetricsNode.Cli
