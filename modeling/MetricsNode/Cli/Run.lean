import MetricsNode.Cli.Options
import MetricsNode.Node.Server
import MetricsNode.Plugin.Uptime

/-!
# Running the node

What the program does with its command line, as a transcript of what it writes and how it
exits:

1. read the command line; print the help or the version and exit with `0`, or print the error
   on standard error and exit with `2`;
2. build the configuration: the file given by `--config` (read and validated), else the
   defaults; then the options given override it, and the whole is validated again; an error is
   logged and the exit code is `1`;
3. log the address, host name and allow list, build the uptime plugin (a host name that is not
   a valid label is an error, written on standard error, exit `1`), and log the plugin count;
4. bind and serve; a failure to bind is logged and the exit code is `1`; otherwise the node
   serves the connections that reach it until the shutdown signal, logs it, logs that it
   stopped, and exits with `0`.

Log lines are written `LEVEL message`. The machine is a parameter: its host name, its
configuration file system, and what its sockets do.
-/

namespace MetricsNode.Cli

open Net

/-- The signal that stops the node. -/
inductive Signal where
  | terminate
  | interrupt
  deriving DecidableEq, Repr

/-- The name of a signal. -/
def Signal.name : Signal → String
  | .terminate => "SIGTERM"
  | .interrupt => "SIGINT"

/-- What a run wrote and how it ended. -/
structure Transcript where
  exitCode : Nat
  stdout : List String
  stderr : String := ""
  sessions : List SessionOutcome := []

/-- A line of the log at level `INFO`. -/
def info (message : String) : String := "INFO " ++ message

/-- A line of the log at level `ERROR`. -/
def errorLine (message : String) : String := "ERROR " ++ message

/-- The value given to an option, by long name. -/
def valueOf (values : List (String × OptionValue)) (long : String) : Option OptionValue :=
  values.lookup long

/-- The configuration of the options given: the file or the defaults, then the overrides, then
validation. `readConfig` says what is found at a path. -/
def configOf (values : List (String × OptionValue)) (systemHostname : String)
    (readConfig : String → ConfigFile) : Except ServerError NodeConfig := do
  let base ← match valueOf values "config" with
    | some (.path p) => NodeConfig.ofFile systemHostname p (readConfig p)
    | _ => pure (NodeConfig.new systemHostname)
  let c := match valueOf values "listen" with
    | some (.address a) => { base with listen := a }
    | _ => base
  let c := match valueOf values "port" with
    | some (.port n) => { c with port := n }
    | _ => c
  let c := match valueOf values "hostname" with
    | some (.text h) => { c with hostname := h }
    | _ => c
  let c := match valueOf values "allow-from" with
    | some (.text list) => { c with allowFrom := parseAddressList list }
    | _ => c
  c.validate
  pure c

/-- The allow list as the log shows it. -/
def allowText (addrs : List IpAddr) : String := "[" ++ ", ".intercalate (addrs.map (·.text)) ++ "]"

/-- Runs the node with a configuration, from the startup log to the exit. -/
def serveNode (config : NodeConfig) (host : Host) (incoming : List Incoming) (signal : Signal) :
    Transcript :=
  let startup := [info ("Starting munin node on " ++ config.bindAddress.text),
    info ("  Host name:  " ++ config.hostname), info ("  Allow from: " ++ allowText config.allowFrom)]
  match uptimePlugin config.hostname 0.0 with
  | .error e => ⟨1, startup, "Error: " ++ e.message ++ "\n", []⟩
  | .ok uptime =>
    let provider : Provider := { plugins := [uptime] }
    let startup := startup ++ [info ("  Plugins:    " ++ toString provider.plugins.length)]
    let server := MuninServer.new config provider
    match host.bind config.bindAddress with
    | .error e => ⟨1, startup ++ [errorLine ("munin node error: " ++ e.message)], "", []⟩
    | .ok () =>
      let serving := server.serve (if host.connects then incoming else []) false false
      let shutdown := info ("received " ++ signal.name ++ ", initiating shutdown")
      match serving.result with
      | .ok () => ⟨0, startup ++ [shutdown, info "munin node stopped"], "", serving.sessions⟩
      | .error e =>
        ⟨1, startup ++ [shutdown, errorLine ("munin node error: " ++ e.message)], "", serving.sessions⟩

/-- Runs the program on a command line and an environment. -/
def runNode (args : List String) (env : String → Option String) (systemHostname : String)
    (readConfig : String → ConfigFile) (host : Host) (incoming : List Incoming) (signal : Signal) :
    Transcript :=
  match readCommandLine args env with
  | .error e => ⟨2, [], e.text, []⟩
  | .ok .help => ⟨0, helpLines env, "", []⟩
  | .ok .version => ⟨0, [versionLine packageVersion], "", []⟩
  | .ok (.run values) =>
    match configOf values systemHostname readConfig with
    | .error e => ⟨1, [errorLine ("Configuration error: " ++ e.message)], "", []⟩
    | .ok config => serveNode config host incoming signal

end MetricsNode.Cli
