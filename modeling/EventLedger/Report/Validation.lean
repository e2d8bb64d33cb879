import EventLedger.Report.Basic
import EventLedger.Validation

namespace EventLedger.Report

structure Checked where
  event : Event
  violations : List Violation

namespace Checked

def check (mode : Validation.Strictness) (e : Event) : Checked :=
  ⟨e, Validation.envelope mode e ++ Validation.payload e.eventType e.payload⟩

def isValid (c : Checked) : Bool := c.violations.isEmpty

def violationText (c : Checked) : String :=
  "; ".intercalate (c.violations.map fun v => v.field ++ ": " ++ v.message)

def toJson (c : Checked) : Json :=
  .object [("event_id", .string c.event.id.text), ("event_type", .string c.event.eventType),
    ("valid", .bool c.isValid), ("violations", .string c.violationText)]

def row (c : Checked) : List String :=
  [c.event.id.text, c.event.eventType, if c.isValid then "true" else "false", c.violationText]

end Checked

def ofValidation (mode : Validation.Strictness) (failuresOnly : Bool) (events : List Event) :
    Report :=
  let checked := events.map (Checked.check mode)
  let failed := checked.countP fun c => !c.isValid
  let listed := if failuresOnly then checked.filter fun c => !c.isValid else checked
  let table : Table :=
    ⟨["Event", "Type", "Valid", "Violations"], listed.map Checked.row⟩
  let count := Text.decimal events.length
  { document := .array (listed.map Checked.toJson)
    text := table.text ++ (if failed = 0 then success (count ++ " events valid") else "")
    failure :=
      if failed = 0 then none
      else some (Text.decimal failed ++ " of " ++ count ++ " events failed validation") }

end EventLedger.Report
