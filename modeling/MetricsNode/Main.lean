import MetricsNode.Cli.Run

/-!
# The executable

The thin layer around `Cli.runNode`: it gathers the command line, the five `MUNIN_NODE_*`
variables, the machine's host name and the configuration file, runs the node, and writes the
transcript. It opens no socket: the node runs on a host where no client connects, and is stopped
as the terminate signal would stop it once it has started.
-/

open MetricsNode

/-- The host name a machine reports, or `localhost` when it reports none. -/
def systemHostname : IO String := do
  let text ← try IO.FS.readFile "/proc/sys/kernel/hostname" catch _ => pure ""
  let name := String.ofList (text.toList.filter fun c => c != '\n' && c != '\r')
  pure (if name.isEmpty then "localhost" else name)

/-- What is found at a configuration path. -/
def readConfigFile (path : String) : IO ConfigFile := do
  try
    let bytes ← IO.FS.readBinFile path
    pure (.contents bytes.toList)
  catch e =>
    match e with
    | .inappropriateType .. => pure .directory
    | _ => pure .missing

/-- The environment variables the node reads. -/
def nodeVariables : List String :=
  Cli.options.filterMap (·.env)

/-- Runs the node and writes what it wrote; the exit code is the run's. -/
def main (args : List String) : IO UInt32 := do
  let env ← nodeVariables.filterMapM fun name => do
    return (← IO.getEnv name).map (name, ·)
  let host ← systemHostname
  let configPath := (Cli.readCommandLine args (fun k => List.lookup k env)).toOption.bind fun
    | .run values => match Cli.valueOf values "config" with
      | some (.path p) => some p
      | _ => none
    | _ => none
  let file ← match configPath with
    | some p => readConfigFile p
    | none => pure .missing
  let t := Cli.runNode args (fun k => List.lookup k env) host (fun _ => file)
    { connects := false } [] .terminate
  for line in t.stdout do
    IO.println line
  IO.eprint t.stderr
  pure t.exitCode.toUInt32
