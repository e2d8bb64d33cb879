import EventLedger.CommandLine.Help
import EventLedger.Report.Clock
import EventLedger.Report.Conflicts
import EventLedger.Report.Fold
import EventLedger.Report.Merge
import EventLedger.Report.Order
import EventLedger.Report.Validation
import EventLedger.Settings.Config
import EventLedger.Settings.VariableFile
import EventLedger.Store.EventFile

namespace EventLedger

structure Outcome where
  status : Nat
  output : String
  messages : String
  directory : Directory

namespace Outcome

def errorLine (message : String) : String := "[ERROR] " ++ message ++ "\n"

def warningLine (message : String) : String := "[WARN] " ++ message ++ "\n"

def failed (d : Directory) (message : String) : Outcome := ⟨1, "", errorLine message, d⟩

def ofReport (d : Directory) (format : OutputFormat) (r : Report) : Outcome where
  status := if r.failure.isSome then 1 else 0
  output := r.shown format
  messages := String.join ((r.shownWarnings format).map warningLine) ++
    r.failure.elim "" errorLine
  directory := d

def ofStop (d : Directory) : CommandLine.Stop → Outcome
  | .problem p => ⟨2, "", p.text, d⟩
  | .version form =>
    ⟨0, form.fullName.replace " " "-" ++ " " ++ CommandLine.programVersion ++ "\n", "", d⟩
  | .help form => ⟨0, form.helpText, "", d⟩
  | .nothingGiven form => ⟨2, "", form.helpText, d⟩

end Outcome

def LedgerError.chain (e : LedgerError) : String := e.message ++ e.source.elim "" (": " ++ ·)

namespace Program

def attempt (what : String) (x : Except LedgerError α) : Except String α :=
  x.mapError fun e => what ++ ": " ++ e.chain

/-- The configuration, with the level of log lines that holds for one run: all with `--verbose`,
    else warnings, unless a variable asks for a level. -/
def configure (d : Directory) (env : Environment) (i : Invocation) : Except String Config := do
  let origin := i.configFile.getD "from environment"
  let c ← attempt ("Failed to load config " ++ origin) (Config.load d env i.configFile)
  let level :=
    if i.verbose then "debug"
    else if (env.find? "RUST_LOG").isSome then c.logging.level
    else "warn"
  let logging := { c.logging with level }
  logging.checkFilter.mapError FilterProblem.message
  .ok { c with logging }

def events (d : Directory) (file : String) (aggregate : Option String) :
    Except String (List Event) := do
  let es ← attempt ("Failed to read events from " ++ file) (EventFile.read d (.ofText file))
  .ok (es.filter fun e => aggregate.all (· == e.aggregateId))

def priority (c : Config) (priorities : List (String × Int)) (stateField : Option String) :
    StatePriority :=
  let p := stateField.elim c.priority c.priority.withStateField
  { p with priorities := priorities.foldl (fun ps s => ps.insert s.1 s.2) p.priorities }

def performClock (d : Directory) (node stateFile : String) (request : ClockRequest) :
    Except String Report × Directory :=
  let (result, r) := request.perform (.new (.file d (.ofText stateFile))) node
  let what := "Clock " ++ request.name ++ " failed for node " ++ node
  let after := match r.storage with
    | .file after _ => after
    | .memory _ => d
  ((attempt what result).map (.ofClock node stateFile request), after)

/-- Carries out a command. Only clocks change files. -/
def perform (d : Directory) (c : Config) : Command → Except String Report × Directory
  | .reduce domain file aggregate => ((events d file aggregate).map (.ofFold domain), d)
  | .validate file lenient failuresOnly =>
    let mode := if lenient then .lenient else .strict
    ((events d file none).map (.ofValidation mode failuresOnly), d)
  | .conflicts file priorities stateField =>
    ((events d file none).map (.ofConflicts (priority c priorities stateField)), d)
  | .merge .counter field file aggregate => ((events d file aggregate).map (.ofCounter field), d)
  | .merge .growSet field file aggregate => ((events d file aggregate).map (.ofGrowSet field), d)
  | .order file aggregate causal => ((events d file aggregate).map (.ofOrder causal), d)
  | .clock node state request =>
    performClock d (node.getD c.nodeId) (state.getD c.statePath) request

def filesOf (c : Config) : Command → List String
  | .reduce _ file _ | .validate file _ _ | .conflicts file _ _ | .merge _ _ file _
  | .order file _ _ => [file]
  | .clock _ state _ =>
    let p := Path.ofText (state.getD c.statePath)
    [p.text, (ClockStorage.draftOf p).text]

def filesSeen (args : List String) (given : Environment) (d : Directory) : List String :=
  let env := VariableFile.load d given
  VariableFile.name ::
    match CommandLine.readInvocation env args with
    | .error _ => []
    | .ok i =>
      let configFiles := i.configFile.elim [] fun name =>
        [name, ((Path.ofText name).addExtension Setting.fileExtension).text]
      match Config.load d env i.configFile with
      | .error _ => configFiles
      | .ok c => configFiles ++ filesOf c i.command

def run (args : List String) (given : Environment) (d : Directory) : Outcome :=
  let env := VariableFile.load d given
  match CommandLine.readInvocation env args with
  | .error stop => .ofStop d stop
  | .ok i =>
    match configure d env i with
    | .error message => .failed d message
    | .ok c =>
      match perform d c i.command with
      | (.error message, d) => .failed d message
      | (.ok report, d) => .ofReport d i.format report

end Program
end EventLedger
