import EventLedger.Files.Directory
import EventLedger.Json.IndexReader
import EventLedger.LedgerError
import EventLedger.Text.Blank

namespace EventLedger

abbrev ClockValues := Index Int

namespace ClockValues

def valueOf (v : ClockValues) (node : String) : Int := (v.find? node).getD 0

def ofText (s : String) : Except Json.ReadError ClockValues :=
  if Text.isBlankText s then .ok .empty else Json.parseIndex .signed64 s

def text (v : ClockValues) : String := (v.toJson .int).pretty

end ClockValues

inductive ClockStorage where
  | memory (values : ClockValues)
  | file (directory : Directory) (path : Path)

namespace ClockStorage

def fileFailure (x : Except FileProblem α) : Except LedgerError α :=
  x.mapError fun p => .withCause .clockStorageFailed p.message

def readDocument (d : Directory) (p : Path) : Except LedgerError ClockValues := do
  if d.contains p then
    let s ← fileFailure (d.readText p)
    (ClockValues.ofText s).mapError fun e =>
      (LedgerError.ofReadError e).withContext "path" (.string p.text)
  else .ok .empty

def draftOf (p : Path) : Path := p.withExtension "tmp"

/-- Writes a document beside its place and moves it there, so that it is never seen half
    written. -/
def writeDocument (d : Directory) (p : Path) (v : ClockValues) (room : Option Nat := none) :
    Except LedgerError Unit × Directory :=
  match d.makeFolders p.parent with
  | (.error problem, d) => (fileFailure (.error problem), d)
  | (.ok (), d) =>
    let draft := draftOf p
    match d.write draft (Text.encodeUtf8 v.text) room with
    | .error (problem, d) => (fileFailure (.error problem), d)
    | .ok d =>
      match fileFailure (d.rename draft p) with
      | .error e => (.error e, d)
      | .ok d => (.ok (), d)

def load (s : ClockStorage) (node : String) : Except LedgerError Int :=
  match s with
  | memory v => .ok (v.valueOf node)
  | file d p => (readDocument d p).map (·.valueOf node)

def save (s : ClockStorage) (node : String) (value : Int) (room : Option Nat := none) :
    Except LedgerError Unit × ClockStorage :=
  if value < 0 then (.error (.invalidClockValue node (Text.signedDecimal value)), s)
  else
    match s with
    | memory v => (.ok (), memory (v.insert node value))
    | file d p =>
      match readDocument d p with
      | .error e => (.error e, s)
      | .ok v =>
        let (result, d) := writeDocument d p (v.insert node value) room
        (result, file d p)

end ClockStorage
end EventLedger
