import EventLedger.Files.Directory
import EventLedger.Json.Reader
import EventLedger.Settings.Key

namespace EventLedger

abbrev Environment := List (String × String)

namespace Environment

def find? (env : Environment) (name : String) : Option String :=
  (List.find? (fun v => v.1 == name) env).map (·.2)

def entryOf (s : String) : String × String :=
  (String.ofList (s.toList.takeWhile (· ≠ '=')),
    String.ofList (s.toList.dropWhile (· ≠ '=')).tail)

def ofBlock (block : List UInt8) : Environment :=
  ((block.splitOn 0).filter fun entry => !entry.isEmpty).map fun entry =>
    entryOf (Text.decodeUtf8 entry)

end Environment

namespace Setting

def ofInteger (origin : Option String) (i : Int) : Setting :=
  if clamped i = i then integer origin i
  else float origin ((Binary64.ofNat? i.natAbs).getD .zero)

mutual

def ofJson (origin : String) : Json → Setting
  | .null => absent origin
  | .bool b => boolean origin b
  | .number (.integer i) => ofInteger origin i
  | .number (.float x) => float origin x
  | .string s => text origin s
  | .array xs => list origin (ofItems origin xs)
  | .object ms => table origin (ofMembers origin [] ms)

def ofItems (origin : String) : List Json → List Setting
  | [] => []
  | x :: xs => ofJson origin x :: ofItems origin xs

def ofMembers (origin : String) (soFar : List (String × Setting)) :
    List (String × Json) → List (String × Setting)
  | [] => soFar
  | (name, v) :: ms =>
    ofMembers origin (insertEntry name (ofJson origin v) soFar) ms

end

def fileExtension : String := "json"

def locate (d : Directory) (name : String) : Except SettingProblem Path :=
  let p := Path.ofText name
  let extended := p.addExtension fileExtension
  if d.isFile p then
    if p.extension? = some fileExtension then .ok p else .error (.fileUnknown name)
  else if d.isFile extended then .ok extended
  else .error (.fileMissing name)

def ofText (origin : String) (s : String) : Except SettingProblem (List (String × Setting)) := do
  let v ← (Json.parse s).mapError fun e => .malformed e.message origin
  match ofJson origin v with
  | table _ members => .ok members
  | other => .error (.malformed (other.refusal "a map").message origin)

def ofFile (d : Directory) (name : String) : Except SettingProblem (List (String × Setting)) := do
  let p ← locate d name
  match d.read p with
  | .ok content => ofText p.plainText (Text.decodeUtf8 content)
  | .error problem => .error (.shape problem.message)

def variablePrefix : String := "missionlog__"

def variableOrigin : String := "the environment"

/-- The key that a variable sets: its parts stand between double underscores, in any case. -/
def variableKey? (name : String) : Option String :=
  let small := (Text.lowercase name).toList
  if variablePrefix.toList.isPrefixOf small then
    some ((String.ofList (small.drop variablePrefix.length)).replace "__" ".")
  else none

def ofEnvironment (env : Environment) : List (String × Setting) :=
  (Index.ofList (env.filterMap fun v =>
    (variableKey? v.1).map fun key => (key, text variableOrigin v.2))).entries

def merged (sources : List (List (String × Setting))) : Setting :=
  sources.foldl (fun s source => source.foldl (fun s entry => setKey entry.1 entry.2 s) s)
    emptyTable

end Setting
end EventLedger
