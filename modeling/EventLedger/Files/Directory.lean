import EventLedger.Files.Path
import EventLedger.Text.Utf8

/-! A tree of files and folders. What operations on it do, in which order they check their paths, and in
what words they fail is assumed of the system below the ledger. Nothing else changes the tree. -/

namespace EventLedger

inductive Entry where
  | file (content : List UInt8)
  | folder
deriving DecidableEq, Repr

inductive FileProblem where
  | notFound
  | isFolder
  | notFolder
  | alreadyExists
  | busy
  | nameTooLong
  | zeroByte
  | notText
  | noSpace
deriving DecidableEq, Repr

def FileProblem.message : FileProblem → String
  | notFound => "No such file or directory (os error 2)"
  | isFolder => "Is a directory (os error 21)"
  | notFolder => "Not a directory (os error 20)"
  | alreadyExists => "File exists (os error 17)"
  | busy => "Device or resource busy (os error 16)"
  | nameTooLong => "File name too long (os error 36)"
  | zeroByte => "file name contained an unexpected NUL byte"
  | notText => "stream did not contain valid UTF-8"
  | noSpace => "No space left on device (os error 28)"

/-- A place, by the names that lead to it from a directory. It may lie above the directory, and then
    begins with steps up, or below the root, and then begins with a slash. -/
structure Place where
  names : List String
deriving DecidableEq, Repr

namespace Place

def root : Place := ⟨["/"]⟩

def here : Place := ⟨[]⟩

def isGiven (p : Place) : Bool := p = root || p.names.all (· == "..")

def child (p : Place) (name : String) : Place := ⟨p.names ++ [name]⟩

def above (p : Place) : Place :=
  if p = root then root
  else if p.names.all (· == "..") then ⟨p.names ++ [".."]⟩
  else ⟨p.names.dropLast⟩

end Place

structure Directory where
  entries : List (Place × Entry)

namespace Directory

def empty : Directory := ⟨[]⟩

def at? (d : Directory) (p : Place) : Option Entry :=
  if p.isGiven then some .folder else (d.entries.find? fun e => e.1 = p).map (·.2)

def set (d : Directory) (p : Place) (e : Entry) : Directory :=
  ⟨(p, e) :: d.entries.filter fun old => old.1 ≠ p⟩

def clear (d : Directory) (p : Place) : Directory := ⟨d.entries.filter fun old => old.1 ≠ p⟩

/-! Ways to places -/

def nameLimit : Nat := 255

def pathLimit : Nat := 4095

def checkText (p : Path) : Except FileProblem Unit :=
  let s := p.text
  if s.contains '\x00' then .error .zeroByte
  else if s.isEmpty then .error .notFound
  else if pathLimit < s.utf8ByteSize then .error .nameTooLong
  else .ok ()

def checkFolder (d : Directory) (p : Place) : Except FileProblem Unit :=
  match d.at? p with
  | some .folder => .ok ()
  | some (.file _) => .error .notFolder
  | none => .error .notFound

def step (d : Directory) (p : Place) (segment : String) : Except FileProblem Place := do
  d.checkFolder p
  if Path.isIdle segment then .ok p
  else if segment == ".." then .ok p.above
  else if nameLimit < segment.utf8ByteSize then .error .nameTooLong
  else .ok (p.child segment)

def walk (d : Directory) (p : Path) (segments : List String) : Except FileProblem Place := do
  checkText p
  segments.foldlM d.step (if p.isAbsolute then .root else .here)

/-- The place that a path leads to. Only the last place of the way may hold nothing. -/
def locate (d : Directory) (p : Path) : Except FileProblem Place := d.walk p p.segments

def container (d : Directory) (p : Path) : Except FileProblem Place := do
  let folder ← d.walk p p.front
  d.checkFolder folder
  .ok folder

def find (d : Directory) (p : Path) : Except FileProblem Entry := do
  match d.at? (← d.locate p) with
  | some e => .ok e
  | none => .error .notFound

def contains (d : Directory) (p : Path) : Bool := (d.find p).toOption.isSome

def isFile (d : Directory) (p : Path) : Bool :=
  match d.find p with
  | .ok (.file _) => true
  | _ => false

def isFolder (d : Directory) (p : Path) : Bool := (d.find p).toOption = some .folder

/-! Files -/

def read (d : Directory) (p : Path) : Except FileProblem (List UInt8) := do
  match ← d.find p with
  | .file content => .ok content
  | .folder => .error .isFolder

def readText (d : Directory) (p : Path) : Except FileProblem String := do
  match Text.decodeUtf8? (← d.read p) with
  | some s => .ok s
  | none => .error .notText

def openFile (d : Directory) (p : Path) : Except FileProblem (Place × List UInt8) := do
  let folder ← d.container p
  if p.meansFolder then .error .isFolder
  else
    let place ← d.step folder p.last
    match d.at? place with
    | some .folder => .error .isFolder
    | some (.file content) => .ok (place, content)
    | none => .ok (place, [])

/-- Puts bytes behind the old ones of a file. If there is not room for all of them, as many as there
    is room for stay behind. -/
def put (d : Directory) (place : Place) (old content : List UInt8) (room : Option Nat) :
    Except (FileProblem × Directory) Directory :=
  let left := d.set place (.file (old ++ room.elim content content.take))
  if room.all (content.length ≤ ·) then .ok left else .error (.noSpace, left)

def write (d : Directory) (p : Path) (content : List UInt8) (room : Option Nat := none) :
    Except (FileProblem × Directory) Directory := do
  let (place, _) ← (d.openFile p).mapError (·, d)
  d.put place [] content room

def append (d : Directory) (p : Path) (content : List UInt8) (room : Option Nat := none) :
    Except (FileProblem × Directory) Directory := do
  let (place, old) ← (d.openFile p).mapError (·, d)
  d.put place old content room

def removeFile (d : Directory) (p : Path) : Except FileProblem Directory := do
  let place ← d.locate p
  match d.at? place with
  | some (.file _) => .ok (d.clear place)
  | some .folder => .error .isFolder
  | none => .error .notFound

def namesPlace (p : Path) : Bool := !Path.isIdle p.last && p.last != ".."

def rename (d : Directory) (source target : Path) : Except FileProblem Directory := do
  let sourceFolder ← d.container source
  let targetFolder ← d.container target
  if !namesPlace source || !namesPlace target then .error .busy
  else
    let sourcePlace ← d.step sourceFolder source.last
    let targetPlace ← d.step targetFolder target.last
    match d.at? sourcePlace with
    | none => .error .notFound
    | some .folder => .error .isFolder
    | some (.file content) =>
      if source.meansFolder || target.meansFolder then .error .notFolder
      else if d.at? targetPlace = some .folder then .error .isFolder
      else .ok ((d.clear sourcePlace).set targetPlace (.file content))

/-! Folders -/

def makeFolder (d : Directory) (p : Path) : Except FileProblem Directory := do
  let folder ← d.container p
  if namesPlace p then
    let place ← d.step folder p.last
    if (d.at? place).isSome then .error .alreadyExists else .ok (d.set place .folder)
  else .error .alreadyExists

def ensureFolder (d : Directory) (p : Path) : Except FileProblem Directory :=
  match d.makeFolder p with
  | .ok d => .ok d
  | .error e => if d.isFolder p then .ok d else .error e

/-- Makes a folder and all that lead to it, as far as they are missing. Those that were made stay
    when a later one cannot be. -/
def makeFolders (d : Directory) (p : Path) : Except FileProblem Unit × Directory :=
  if p.isEmpty then (.ok (), d)
  else
    match d.ensureFolder p with
    | .ok d => (.ok (), d)
    | .error .notFound =>
      match makeFolders d p.parent with
      | (.error e, d) => (.error e, d)
      | (.ok (), d) =>
        match d.ensureFolder p with
        | .ok d => (.ok (), d)
        | .error e => (.error e, d)
    | .error e => (.error e, d)
termination_by p.segments.length
decreasing_by exact p.length_parent_lt (p.segments_ne_nil ‹_›)

end Directory
end EventLedger
