import EventLedger.Store.EventFile

namespace EventLedger

/-- Where events are kept in the order of their arrival, each id once: in memory, or in a file in a
    directory, whose ids are known since it was opened. -/
inductive EventStore where
  | memory (events : List Event)
  | file (directory : Directory) (path : Path) (ids : List EventId)

namespace EventStore

def new : EventStore := memory []

def fileFailure (x : Except FileProblem α) : Except LedgerError α :=
  x.mapError fun p => .withCause .eventStoreFailed p.message

def stored (d : Directory) (p : Path) : Except LedgerError (List Event) :=
  if d.contains p then EventFile.read d p else .ok []

def openFile (d : Directory) (p : Path) : Except LedgerError EventStore × Directory :=
  match d.makeFolders p.parent with
  | (.error problem, d) => (fileFailure (.error problem), d)
  | (.ok (), d) => ((stored d p).map fun events => file d p (events.map (·.id)), d)

def save (s : EventStore) (e : Event) (room : Option Nat := none) :
    Except LedgerError Bool × EventStore :=
  match s with
  | memory events =>
    if events.any fun kept => kept.id = e.id then (.ok false, s)
    else (.ok true, memory (events ++ [e]))
  | file d p ids =>
    if ids.contains e.id then (.ok false, s)
    else
      match d.append p (EventFile.lineOf e) room with
      | .error (problem, d) => (fileFailure (.error problem), file d p ids)
      | .ok d => (.ok true, file d p (ids ++ [e.id]))

def all : EventStore → Except LedgerError (List Event)
  | memory events => .ok events
  | file d p _ => stored d p

def load (s : EventStore) (aggregate : Option String) : Except LedgerError (List Event) :=
  s.all.map fun events =>
    match aggregate with
    | none => events
    | some id => events.filter fun e => e.aggregateId = id

end EventStore
end EventLedger
