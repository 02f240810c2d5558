import DocGateway.Config.Load
/-!
# The command line

Options name the file of a configuration, and override what the file and the environment say. A
value follows its option as an argument of its own or in the same argument, after an equals sign; a
short option may also be followed by its value at once.
-/

namespace DocGateway

/-- The options of a run. -/
structure CommandLine where
  config : Option String
  logLevel : Option String
  bind : Option SocketAddress
  metricsBind : Option SocketAddress
  /-- The seconds between the signal to end and the start of the shutdown. -/
  termSleep : Option Nat
deriving DecidableEq, Repr, Inhabited

namespace CommandLine

/-- The options that take a value. -/
inductive Key where
  | config
  | logLevel
  | bind
  | metricsBind
  | termSleep
deriving DecidableEq, Repr

namespace Key

/-- All options, in the order in which help shows them. -/
def all : List Key := [config, logLevel, bind, metricsBind, termSleep]

/-- The name after two dashes. -/
def long : Key → String
  | config => "config"
  | logLevel => "log-level"
  | bind => "bind"
  | metricsBind => "metrics-bind"
  | termSleep => "term-sleep"

/-- The letter after one dash. -/
def short? : Key → Option Char
  | config => some 'c'
  | bind => some 'b'
  | _ => none

/-- The place of the value in messages. -/
def placeholder : Key → String
  | config => "CONFIG"
  | logLevel => "LOG_LEVEL"
  | bind => "BIND"
  | metricsBind => "METRICS_BIND"
  | termSleep => "TERM_SLEEP"

/-- The option as messages show it. -/
def shown (k : Key) : String := "--" ++ k.long ++ " <" ++ k.placeholder ++ ">"

/-- What the option does. -/
def purpose : Key → String
  | config => "Path to the YAML configuration file"
  | logLevel => "Log filter"
  | bind => "Client listen address (overrides the config file)"
  | metricsBind => "Metrics listen address; enables the metrics server"
  | termSleep => "Seconds to keep serving after SIGTERM before draining"

end Key

/-- Why arguments are refused. -/
inductive Refusal where
  | unexpected (argument : String)
  | valueMissing (key : Key)
  | repeated (key : Key)
  | valueInvalid (key : Key) (value reason : String)
deriving DecidableEq, Repr

/-- What is wrong, in words. -/
def Refusal.message : Refusal → String
  | unexpected argument => "unexpected argument '" ++ argument ++ "' found"
  | valueMissing key => "a value is required for '" ++ key.shown ++ "' but none was supplied"
  | repeated key => "the argument '" ++ key.shown ++ "' cannot be used multiple times"
  | valueInvalid key value reason =>
    "invalid value '" ++ value ++ "' for '" ++ key.shown ++ "': " ++ reason

/-- What arguments ask for. -/
inductive Wish where
  | run (c : CommandLine)
  | help
  | version
deriving DecidableEq, Repr

/-- No options. -/
def empty : CommandLine := ⟨none, none, none, none, none⟩

/-- Whether an option has been given. -/
def has (c : CommandLine) : Key → Bool
  | .config => c.config.isSome
  | .logLevel => c.logLevel.isSome
  | .bind => c.bind.isSome
  | .metricsBind => c.metricsBind.isSome
  | .termSleep => c.termSleep.isSome

/-- The address of a value. -/
def address (key : Key) (value : String) : Except Refusal SocketAddress :=
  (SocketAddress.parse? value).elim
    (.error (.valueInvalid key value "invalid socket address syntax")) .ok

/-- Gives an option a value. -/
def set (c : CommandLine) (key : Key) (value : String) : Except Refusal CommandLine :=
  if c.has key then .error (.repeated key)
  else
    match key with
    | .config => .ok { c with config := some value }
    | .logLevel => .ok { c with logLevel := some value }
    | .bind => (address key value).map fun a => { c with bind := some a }
    | .metricsBind => (address key value).map fun a => { c with metricsBind := some a }
    | .termSleep =>
      match Integer.word? 64 value with
      | some n => .ok { c with termSleep := some n }
      | none => .error (.valueInvalid key value "invalid digit found in string")

/-- An option in an argument, with the value that the same argument gives it. -/
def split? (argument : String) : Option (Key × Option String) :=
  match argument.toList with
  | '-' :: '-' :: cs =>
    let name := String.ofList (cs.takeWhile (· ≠ '='))
    let value := cs.dropWhile (· ≠ '=')
    (Key.all.find? (·.long = name)).map fun k =>
      (k, if value.isEmpty then none else some (String.ofList (value.drop 1)))
  | '-' :: letter :: cs =>
    let value := if cs.head? = some '=' then cs.drop 1 else cs
    (Key.all.find? (·.short? = some letter)).map fun k =>
      (k, if cs.isEmpty then none else some (String.ofList value))
  | _ => none

/-- Reads arguments after those that have been read. -/
def readFrom (c : CommandLine) : List String → Except Refusal Wish
  | [] => .ok (.run c)
  | argument :: rest =>
    if argument = "--help" ∨ argument = "-h" then .ok .help
    else if argument = "--version" ∨ argument = "-V" then .ok .version
    else
      match split? argument with
      | none => .error (.unexpected argument)
      | some (key, some value) => do readFrom (← c.set key value) rest
      | some (key, none) =>
        match rest with
        | [] => .error (.valueMissing key)
        | value :: rest =>
          if value.startsWith "-" then .error (.valueMissing key)
          else do readFrom (← c.set key value) rest

/-- Reads arguments. -/
def read (arguments : List String) : Except Refusal Wish := empty.readFrom arguments

/-- The configuration with what the options override. A metrics address also turns the metrics
server on. -/
def override (c : CommandLine) (g : Configuration) : Configuration where
  network := { g.network with bindAddr := c.bind.getD g.network.bindAddr }
  gateway := g.gateway
  shutdown := { g.shutdown with termSleep := c.termSleep.getD g.shutdown.termSleep }
  metrics := ⟨g.metrics.enabled || c.metricsBind.isSome, c.metricsBind.getD g.metrics.bindAddr⟩
  stages := g.stages

/-- The help text. -/
def help : List String :=
  ["Wire protocol gateway with a pluggable stage pipeline", "", "Usage: mongate [OPTIONS]", "",
    "Options:"] ++
    Key.all.map (fun k =>
      let letter := (k.short?.map fun c => "-" ++ String.singleton c ++ ", ").getD "    "
      "  " ++ letter ++ k.shown ++ "  " ++ k.purpose) ++
    ["  -h, --help  Print help", "  -V, --version  Print version"]

end CommandLine

end DocGateway
