import EventLedger.Catalog
import EventLedger.CommandLine.Reader

namespace EventLedger

inductive OutputFormat where
  | table
  | json
  | yaml
deriving DecidableEq, Repr

namespace OutputFormat

def all : List OutputFormat := [table, json, yaml]

def name : OutputFormat → String
  | table => "table"
  | json => "json"
  | yaml => "yaml"

def ofName? (s : String) : Option OutputFormat := all.find? fun f => f.name == s

end OutputFormat

inductive FieldMerge where
  | counter
  | growSet
deriving DecidableEq, Repr

inductive ClockRequest where
  | current
  | tick
  | update (remote : Nat)
deriving DecidableEq, Repr

inductive Command where
  | reduce (domain : Domain) (file : String) (aggregate : Option String)
  | validate (file : String) (lenient failuresOnly : Bool)
  | conflicts (file : String) (priorities : List (String × Int)) (stateField : Option String)
  | merge (kind : FieldMerge) (field file : String) (aggregate : Option String)
  | order (file : String) (aggregate : Option String) (causal : Bool)
  | clock (node state : Option String) (request : ClockRequest)
deriving DecidableEq, Repr

structure Invocation where
  format : OutputFormat
  configFile : Option String
  verbose : Bool
  command : Command
deriving DecidableEq, Repr

namespace CommandLine

def programName : String := "missionlog"

def programVersion : String := "0.1.0"

/-! Values -/

def readDomain (s : String) : Except String Domain :=
  match Domain.ofName? s with
  | some d => .ok d
  | none => .error ("unknown domain '" ++ s ++ "' (expected one of: " ++
      ", ".intercalate (Domain.all.map Domain.name) ++ ")")

def readPriority (s : String) : Except String (String × Int) :=
  match s.toList.dropWhile (· ≠ '=') with
  | [] => .error ("expected STATE=N, got '" ++ s ++ "'")
  | _ :: rest =>
    let value := String.ofList rest
    match Text.parseSigned64 (Text.trim value) with
    | .ok n => .ok (Text.trim (String.ofList (s.toList.takeWhile (· ≠ '='))), n)
    | .error e => .error ("invalid priority '" ++ value ++ "': " ++ e.message)

def readRemote (s : String) : Except String Nat := (Text.parseWord64 s).mapError (·.message)

/-! Parameters and commands -/

namespace Parameter

def output : Parameter where
  name := "output"
  kind := .option
  letter := some 'o'
  valueName := "OUTPUT"
  check := .oneOf (OutputFormat.all.map OutputFormat.name)

def config : Parameter where
  name := "config"
  kind := .option
  valueName := "CONFIG"
  environmentName := some "MISSIONLOG_CONFIG"
  check := .nonempty

/-- Nothing is coloured; the flag is taken all the same. -/
def noColor : Parameter where
  name := "no-color"
  kind := .flag

def verbose : Parameter where
  name := "verbose"
  kind := .flag
  letter := some 'v'

def version : Parameter where
  name := "version"
  kind := .version
  letter := some 'V'

def help : Parameter where
  name := "help"
  kind := .help
  letter := some 'h'

def shared : List Parameter := [output, config, noColor, verbose, version, help]

def file : Parameter where
  name := "file"
  kind := .option
  letter := some 'f'
  valueName := "FILE"
  required := true
  check := .nonempty

def aggregate : Parameter where
  name := "aggregate"
  kind := .option
  letter := some 'a'
  valueName := "AGGREGATE"

def domain : Parameter where
  name := "domain"
  kind := .positional
  valueName := "DOMAIN"
  required := true
  check := .readable readDomain

def lenient : Parameter where
  name := "lenient"
  kind := .flag

def failuresOnly : Parameter where
  name := "failures-only"
  kind := .flag

def priority : Parameter where
  name := "priority"
  kind := .repeatedOption
  letter := some 'p'
  valueName := "PRIORITIES"
  check := .readable readPriority

def stateField : Parameter where
  name := "state-field"
  kind := .option
  valueName := "STATE_FIELD"

def field : Parameter where
  name := "field"
  kind := .option
  valueName := "FIELD"
  required := true

def causal : Parameter where
  name := "causal"
  kind := .flag

def node : Parameter where
  name := "node"
  kind := .option
  valueName := "NODE"

def state : Parameter where
  name := "state"
  kind := .option
  valueName := "STATE"
  check := .nonempty

def remote : Parameter where
  name := "remote"
  kind := .positional
  valueName := "REMOTE"
  required := true
  check := .readable readRemote

end Parameter

def form (above : List String) (name about : String) (parameters : List Parameter)
    (subcommands : List CommandForm) : CommandForm where
  name := name
  fullName := " ".intercalate (above ++ [name])
  about := about
  parameters := parameters ++ Parameter.shared
  subcommands := subcommands

def mergeForm : CommandForm :=
  let below := form [programName, "merge"]
  form [programName] "merge" "CRDT merges over a payload field" [] [
    below "counter" "Sum an integer field over distinct events" [.field, .file, .aggregate] [],
    below "gset" "Union a field's values into a grow-only set" [.field, .file, .aggregate] []]

def clockForm : CommandForm :=
  let below := form [programName, "clock"]
  form [programName] "clock" "Inspect or advance a persisted Lamport clock" [.node, .state] [
    below "current" "Show the persisted value" [.node, .state] [],
    below "tick" "Advance by one" [.node, .state] [],
    below "update" "Merge a remote value: max(local, remote) + 1" [.remote, .node, .state] []]

def programForm : CommandForm :=
  let below := form [programName]
  form [] programName "Reduce and inspect mission event logs" [] [
    below "reduce" "Fold an event file into one domain's state" [.domain, .file, .aggregate] [],
    below "validate" "Validate envelopes and payloads of an event file"
      [.file, .lenient, .failuresOnly] [],
    below "conflicts" "List concurrent event groups and how each merges"
      [.file, .priority, .stateField] [],
    mergeForm,
    below "order" "Print events in canonical or causal order" [.file, .aggregate, .causal] [],
    clockForm]

/-! Commands from what was read -/

def text (levels : List Level) (p : Parameter) : String := (value? levels p).getD ""

/-- The command that some levels name. The values of parameters were checked before. -/
def command? (levels : List Level) : Option Command :=
  let file := text levels .file
  let aggregate := value? levels .aggregate
  let clock := Command.clock (value? levels .node) (value? levels .state)
  match levels.tail.map Level.command with
  | ["reduce"] => do some (.reduce (← (readDomain (text levels .domain)).toOption) file aggregate)
  | ["validate"] =>
    some (.validate file (isFlagged levels .lenient) (isFlagged levels .failuresOnly))
  | ["conflicts"] =>
    some (.conflicts file
      ((valuesOf levels .priority).filterMap fun v => (readPriority v).toOption)
      (value? levels .stateField))
  | ["merge", "counter"] => some (.merge .counter (text levels .field) file aggregate)
  | ["merge", "gset"] => some (.merge .growSet (text levels .field) file aggregate)
  | ["order"] => some (.order file aggregate (isFlagged levels .causal))
  | ["clock", "current"] => some (clock .current)
  | ["clock", "tick"] => some (clock .tick)
  | ["clock", "update"] => do
    some (clock (.update (← (readRemote (text levels .remote)).toOption)))
  | _ => none

def readInvocation (env : Environment) (args : List String) : Except Stop Invocation := do
  let levels ← programForm.read env args
  match command? levels with
  | none => .error (.nothingGiven programForm)
  | some command => .ok {
      format := ((value? levels .output).bind OutputFormat.ofName?).getD .table
      configFile := value? levels .config
      verbose := isFlagged levels .verbose
      command }

end CommandLine
end EventLedger
