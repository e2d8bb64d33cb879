import EventLedger.Program

namespace EventLedger.Disk

def entry? (name : String) : IO (Option Entry) := do
  try
    return some (.file (← IO.FS.readBinFile name).toList)
  catch
    | .noFileOrDirectory .. => return none
    | .inappropriateType .. => return some .folder
    | e => throw e

def prefixes (name : String) : List String :=
  let parts := name.splitOn "/"
  ((List.range parts.length).map fun n => "/".intercalate (parts.take (n + 1))).filter (· ≠ "")

def look (d : Directory) (name : String) : IO Directory :=
  (prefixes name).foldlM (fun d part => do
    match d.locate (.ofText part) with
    | .ok place =>
      if place.isGiven then return d
      return (← entry? part).elim d (d.set place)
    | .error _ => return d) d

/-- Looks at files as long as those that are known lead to others, in a number of steps. -/
def explore (seen : Directory → List String) : Nat → Directory → IO Directory
  | 0, d => return d
  | n + 1, d => do explore seen n (← (seen d).foldlM look d)

def replace (name : String) (content : List UInt8) : IO Unit := do
  let folder := "/".intercalate (name.splitOn "/").dropLast
  if folder ≠ "" then IO.FS.createDirAll folder
  let draft := name ++ ".draft"
  IO.FS.writeBinFile draft ⟨content.toArray⟩
  IO.FS.rename draft name

def writeBack (before after : Directory) : IO Unit :=
  (before.entries ++ after.entries).forM fun e => do
    let name := "/".intercalate e.1.names
    let old := before.at? e.1
    match after.at? e.1 with
    | some (.file content) => if old ≠ some (.file content) then replace name content
    | some .folder => if old ≠ some .folder then IO.FS.createDirAll name
    | none => IO.FS.removeFile name

end EventLedger.Disk

open EventLedger in
/-- Variables tell of configurations, and configurations of files, so that three looks show all. -/
def main (args : List String) : IO UInt32 := do
  let block ← IO.FS.readBinFile "/proc/self/environ"
  let given := Environment.ofBlock block.toList
  let seen := Program.filesSeen args given
  let d ← Disk.explore seen 3 .empty
  let outcome := Program.run args given d
  IO.print outcome.output
  IO.eprint outcome.messages
  Disk.writeBack d outcome.directory
  return outcome.status.toUInt32
