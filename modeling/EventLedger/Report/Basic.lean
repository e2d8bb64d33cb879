import EventLedger.CommandLine.Invocation
import EventLedger.Output.Table
import EventLedger.Yaml.Printer

namespace EventLedger

/-- What a command answers: a document for other programs, and a text for people with warnings
    beside it. A failure is told after either. -/
structure Report where
  document : Json
  text : String
  warnings : List String := []
  failure : Option String := none

namespace Report

def heading (title : String) : String := "\n" ++ title ++ "\n\n"

def detail (name value : String) : String := "  " ++ name ++ ": " ++ value ++ "\n"

def success (message : String) : String := "[OK] " ++ message ++ "\n"

def jsonText (v : Json) : String := v.pretty ++ "\n"

def shown (r : Report) : OutputFormat → String
  | .table => r.text
  | .json => jsonText r.document
  | .yaml => Yaml.text r.document

def shownWarnings (r : Report) : OutputFormat → List String
  | .table => r.warnings
  | _ => []

end Report
end EventLedger
