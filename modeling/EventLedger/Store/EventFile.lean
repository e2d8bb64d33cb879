import EventLedger.Event.Basic
import EventLedger.Files.Directory
import EventLedger.LedgerError
import EventLedger.Text.Blank
import EventLedger.Text.Lines

namespace EventLedger

def LedgerError.ofFileProblem (p : FileProblem) : LedgerError :=
  let (code, message) : ErrorCode × String :=
    match p with
    | .notFound => (.recordNotFound, "File or resource not found")
    | _ => (.storageError, "An I/O error occurred")
  (withInternal code message p.message).withSource p.message

namespace EventFile

def eventOfLine (name : String) (number : Nat) (line : List UInt8) :
    Except LedgerError (Option Event) :=
  match Text.decodeUtf8? line with
  | none => .error (.ofFileProblem .notText)
  | some s =>
    if Text.isBlankText s then .ok none
    else
      match Event.parse s with
      | .ok e => .ok (some e)
      | .error e =>
        .error (((LedgerError.ofReadError e).withContext "path" (.string name)).withContext "line"
          (.nat number))

def eventsOfLines (name : String) (number : Nat) :
    List (List UInt8) → Except LedgerError (List Event)
  | [] => .ok []
  | line :: lines => do
    let e ← eventOfLine name number line
    let es ← eventsOfLines name (number + 1) lines
    .ok (e.toList ++ es)

def ofBytes (name : String) (content : List UInt8) : Except LedgerError (List Event) :=
  eventsOfLines name 1 (Text.lines content)

/-- A file that cannot be found is reported with its path; one that is found and cannot be read is
    not. -/
def read (d : Directory) (p : Path) : Except LedgerError (List Event) := do
  let found ← (d.find p).mapError fun problem =>
    (LedgerError.ofFileProblem problem).withContext "path" (.string p.text)
  match found with
  | .file content => ofBytes p.text content
  | .folder => .error (.ofFileProblem .isFolder)

def lineOf (e : Event) : List UInt8 := Text.encodeUtf8 e.text ++ [Text.lineFeed]

end EventFile
end EventLedger
