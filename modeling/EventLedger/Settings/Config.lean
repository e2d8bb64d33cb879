import EventLedger.Merge.StatePriority
import EventLedger.Settings.LogFilter
import EventLedger.Settings.Source

namespace EventLedger

inductive LogFormat where
  | json
  | pretty
  | compact
deriving DecidableEq, Repr

namespace LogFormat

def name : LogFormat → String
  | json => "Json"
  | pretty => "Pretty"
  | compact => "Compact"

def choices : List (String × LogFormat) :=
  [("json", json), ("pretty", pretty), ("compact", compact)]

end LogFormat

open Setting (asText asBoolean asChoice asIndex asInteger asOptionalText)

structure Logging where
  level : String
  format : LogFormat := .json
  moduleLevels : Index String := .empty
  includeLocation : Bool := false
  includeTarget : Bool := true
  onNew : Bool := false
  onClose : Bool := false

structure Config where
  serviceName : String := "missionlog"
  environment : String
  logging : Logging
  nodeId : String := "local"
  statePath : String := ".missionlog/clock.json"
  eventsPath : String := ".missionlog/events.jsonl"
  priority : StatePriority := .laneDefaults

namespace Logging

def ofEnvironment (env : Environment) : Logging := { level := (env.find? "RUST_LOG").getD "info" }

def readSpanEvents (s : Setting) : Except SettingProblem (Bool × Bool) := do
  let x ← s.asSection "SpanEventConfig" ["on_new", "on_close"]
  .ok (← x.read "on_new" asBoolean false, ← x.read "on_close" asBoolean false)

def read (otherwise : Logging) (s : Setting) : Except SettingProblem Logging := do
  let x ← s.asSection "LoggingConfig"
    ["level", "format", "module_levels", "include_location", "include_target", "span_events"]
  let level ← x.read "level" asText otherwise.level
  let format ← x.read "format" (asChoice "LogFormat" LogFormat.choices) otherwise.format
  let moduleLevels ← x.read "module_levels" (asIndex asText) otherwise.moduleLevels
  let includeLocation ← x.read "include_location" asBoolean otherwise.includeLocation
  let includeTarget ← x.read "include_target" asBoolean otherwise.includeTarget
  let (onNew, onClose) ← x.read "span_events" readSpanEvents (otherwise.onNew, otherwise.onClose)
  .ok { level, format, moduleLevels, includeLocation, includeTarget, onNew, onClose }

def checkFilter (l : Logging) : Except FilterProblem Unit := do
  LogFilter.check l.level
  l.moduleLevels.entries.forM fun m => LogFilter.checkDirective (m.1 ++ "=" ++ m.2)

end Logging

namespace Config

def ofEnvironment (env : Environment) : Config where
  environment := (env.find? "MISSIONLOG_ENVIRONMENT").getD "development"
  logging := .ofEnvironment env

def readTelemetry (c : Config) (s : Setting) : Except SettingProblem Config := do
  let x ← s.asSection "TelemetryConfig" ["service_name", "environment", "logging"]
  let serviceName ← x.read "service_name" asText c.serviceName
  let environment ← x.read "environment" asText c.environment
  let logging ← x.read "logging" c.logging.read c.logging
  .ok { c with serviceName, environment, logging }

def readClock (c : Config) (s : Setting) : Except SettingProblem Config := do
  let x ← s.asSection "ClockConfig" ["node_id", "state_path"]
  let nodeId ← x.read "node_id" asText c.nodeId
  let statePath ← x.read "state_path" asText c.statePath
  .ok { c with nodeId, statePath }

def readStore (c : Config) (s : Setting) : Except SettingProblem Config := do
  let x ← s.asSection "StoreConfig" ["events_path"]
  .ok { c with eventsPath := ← x.read "events_path" asText c.eventsPath }

def readMerge (c : Config) (s : Setting) : Except SettingProblem Config := do
  let x ← s.asSection "MergeConfig" ["state_field", "fallback_field", "priorities"]
  let stateField ← x.read "state_field" asText c.priority.stateField
  let fallbackField ← x.read "fallback_field" asOptionalText c.priority.fallbackField
  let priorities ← x.read "priorities" (asIndex asInteger) c.priority.priorities
  .ok { c with priority := ⟨priorities, stateField, fallbackField⟩ }

def read (env : Environment) (s : Setting) : Except SettingProblem Config := do
  let x ← s.asSection "Config" ["telemetry", "clock", "store", "merge"]
  let c := ofEnvironment env
  let c ← x.read "telemetry" c.readTelemetry c
  let c ← x.read "clock" c.readClock c
  let c ← x.read "store" c.readStore c
  x.read "merge" c.readMerge c

def asError (p : SettingProblem) : LedgerError :=
  let (code, message) : ErrorCode × String :=
    match p with
    | .malformed _ _ => (.invalidConfiguration, "Configuration file is invalid")
    | _ => (.configurationError, "Configuration error occurred")
  .withInternal code message p.message

/-- The configuration that a file, if there is one, and the variables over it make. -/
def load (d : Directory) (env : Environment) (file : Option String) :
    Except LedgerError Config :=
  Except.mapError asError do
    let base ← match file with
      | some name => Setting.ofFile d name
      | none => .ok []
    read env (Setting.merged [base, Setting.ofEnvironment env])

end Config
end EventLedger
