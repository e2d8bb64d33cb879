import EventLedger.Index
import EventLedger.Number.Bounds
import EventLedger.Number.Integer
import EventLedger.Number.Shortest
import EventLedger.Text.Lowercase
import EventLedger.Text.Quoted

namespace EventLedger

/-- A value in a configuration, and where it was set. Tables that were merged are from nowhere. -/
inductive Setting where
  | absent (origin : Option String)
  | boolean (origin : Option String) (value : Bool)
  | integer (origin : Option String) (value : Int)
  | float (origin : Option String) (value : Binary64)
  | text (origin : Option String) (value : String)
  | list (origin : Option String) (items : List Setting)
  | table (origin : Option String) (members : List (String × Setting))

inductive SettingProblem where
  | fileMissing (name : String)
  | fileUnknown (path : String)
  | malformed (cause origin : String)
  | conversion (origin : Option String) (found expected : String) (key : Option String)
  | shape (message : String)
deriving DecidableEq, Repr

namespace SettingProblem

def message : SettingProblem → String
  | fileMissing name => "configuration file \"" ++ name ++ "\" not found"
  | fileUnknown path => "configuration file \"" ++ path ++ "\" is not of a registered file format"
  | malformed cause origin => cause ++ " in " ++ origin
  | conversion origin found expected key =>
    "invalid type: " ++ found ++ ", expected " ++ expected ++
      key.elim "" (fun k => " for key `" ++ k ++ "`") ++ origin.elim "" (" in " ++ ·)
  | shape message => message

def longerKey (step : String) (key : Option String) : String :=
  match key with
  | none => step
  | some k => if k.isEmpty || k.startsWith "[" then step ++ k else step ++ "." ++ k

def insideMember (name : String) : SettingProblem → SettingProblem
  | conversion origin found expected key =>
    conversion origin found expected (some (longerKey name key))
  | p => p

def insideItem (index : Nat) : SettingProblem → SettingProblem
  | conversion origin found expected key =>
    conversion origin found expected
      (some ("[" ++ Text.decimal index ++ "]" ++ key.getD ""))
  | p => p

end SettingProblem

namespace Setting

def describe : Setting → String
  | absent _ => "unit value"
  | boolean _ b => if b then "boolean `true`" else "boolean `false`"
  | integer _ i => "64-bit integer `" ++ Text.signedDecimal i ++ "`"
  | float _ x => "floating point `" ++ x.plainText ++ "`"
  | text _ s => "string " ++ Text.quoted s
  | list _ _ => "sequence"
  | table _ _ => "map"

def pointedText (x : Binary64) : String :=
  let s := x.plainText
  if s.toList.contains '.' then s else s ++ ".0"

def describeShape : Setting → String
  | absent _ => "unit value"
  | boolean _ b => if b then "boolean `true`" else "boolean `false`"
  | integer _ i => "integer `" ++ Text.signedDecimal i ++ "`"
  | float _ x => "floating point `" ++ pointedText x ++ "`"
  | text _ s => "string " ++ Text.quoted s
  | list _ _ => "sequence"
  | table _ _ => "map"

def origin : Setting → Option String
  | absent o | boolean o _ | integer o _ | float o _ | text o _ | list o _ | table o _ => o

def refusal (s : Setting) (expected : String) : SettingProblem :=
  .conversion s.origin s.describe expected none

def asText : Setting → Except SettingProblem String
  | text _ s => .ok s
  | boolean _ b => .ok (if b then "true" else "false")
  | integer _ i => .ok (Text.signedDecimal i)
  | float _ x => .ok x.plainText
  | s => .error (s.refusal "a string")

def truthWord? (word : String) : Option Bool :=
  if ["true", "on", "yes"].contains word then some true
  else if ["false", "off", "no"].contains word then some false
  else none

def asBoolean : Setting → Except SettingProblem Bool
  | boolean _ b => .ok b
  | integer _ i => .ok (i != 0)
  | float _ x => .ok (!x.isZero)
  | text o s =>
    let word := Text.lowercase s
    if word = "1" then .ok true
    else if word = "0" then .ok false
    else
      match truthWord? word with
      | some b => .ok b
      | none => .error ((text o word).refusal "a boolean")
  | s => .error (s.refusal "a boolean")

def clamped (i : Int) : Int := max leastSigned64 (min greatestSigned64 i)

def asInteger : Setting → Except SettingProblem Int
  | integer _ i => .ok i
  | boolean _ b => .ok (if b then 1 else 0)
  | float _ x => .ok (clamped x.nearestInt)
  | text o s =>
    match truthWord? (Text.lowercase s) with
    | some b => .ok (if b then 1 else 0)
    | none => (Text.parseSigned64 s).mapError fun _ => (text o s).refusal "an integer"
  | s => .error (s.refusal "an integer")

def asOptionalText : Setting → Except SettingProblem (Option String)
  | absent _ => .ok none
  | s => s.asText.map some

def asChoice (title : String) (choices : List (String × α)) (s : Setting) :
    Except SettingProblem α :=
  let find := fun (name : String) =>
    match choices.find? fun c => c.1 == Text.lowercase name with
    | some c => .ok c.2
    | none =>
      .error (.shape ("enum " ++ title ++ " does not have variant constructor " ++ name))
  match s with
  | text _ name => find name
  | table _ [(name, _)] => find name
  | _ =>
    .error (.shape ("value of enum " ++ title ++
      " should be represented by either string or table with exactly one key"))

def convertMembers (f : Setting → Except SettingProblem α) :
    List (String × Setting) → Except SettingProblem (Index α)
  | [] => .ok .empty
  | (name, s) :: rest => do
    let x ← (f s).mapError (.insideMember name)
    .ok ((← convertMembers f rest).insert name x)

def asIndex (f : Setting → Except SettingProblem α) : Setting → Except SettingProblem (Index α)
  | table _ members => convertMembers f members
  | s => .error (.shape ("invalid type: " ++ s.describeShape ++ ", expected a map"))

abbrev Section := List (String × (SettingProblem → SettingProblem) × Setting)

def asSection (title : String) (names : List String) : Setting → Except SettingProblem Section
  | table _ members => .ok (members.map fun m => (m.1, .insideMember m.1, m.2))
  | list _ items =>
    .ok ((names.zip items).zipIdx.map fun entry =>
      (entry.1.1, .insideItem entry.2, entry.1.2))
  | s => .error (.shape ("invalid type: " ++ s.describeShape ++ ", expected struct " ++ title))

def Section.read (x : Section) (name : String) (f : Setting → Except SettingProblem α)
    (otherwise : α) : Except SettingProblem α :=
  match x.find? fun entry => entry.1 == name with
  | none => .ok otherwise
  | some (_, locate, s) => (f s).mapError locate

end Setting
end EventLedger
