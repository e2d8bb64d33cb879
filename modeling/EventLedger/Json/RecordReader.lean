import EventLedger.Json.Decoder
import EventLedger.Json.Skip

namespace EventLedger.Json

/-- Reads a scalar of a type. A bracket is refused where it stands, anything else after it. -/
def readScalar (d : Decoder α) (cs : List Char) : Except Fault (α × List Char) := do
  match ← readStart (skipSpace cs) with
  | (.scalar v, rest) => (d v).mapError (fun r => .here (.refused r) rest) |>.map (·, rest)
  | (.list, rest) =>
    (d (.array [])).mapError (fun r => .here (.refused r) rest) |>.map (·, rest)
  | (.members, rest) =>
    (d (.object [])).mapError (fun r => .here (.refused r) rest) |>.map (·, rest)

/-- Where reading stands once the end of an object was looked for. -/
def settleObject (cs : List Char) : List Char :=
  match skipSpace cs with
  | '\x7d' :: rest => rest
  | rest => rest

def settleList (cs : List Char) : List Char :=
  match skipSpace cs with
  | ']' :: rest => rest
  | ',' :: rest => skipSpace rest
  | rest => rest

end Json

namespace Field
open Json

def read (f : Field) (cs : List Char) : Except Fault (Json × List Char) :=
  if f.anyShape then readValue (nestingLimit - 1) cs
  else readScalar (fun v => (f.check v).map fun _ => v) cs

end Field

namespace Record
open Json

def readMembers (r : Record α) :
    Nat → Bool → List (String × Json) → List Char → Except Fault (List (String × Json) × List Char)
  | 0, _, _, cs => .error (.here .endInObject cs)
  | n + 1, first, seen, cs => do
    match ← nextKey first cs with
    | none => .ok (seen, cs)
    | some cs =>
      let (name, cs) ← readString cs
      match r.field? name with
      | none => r.readMembers n false seen (← skipValue (← readColon cs))
      | some f =>
        if (lookup name seen).isSome then
          .error (.here (.refused (.duplicateField name)) (settleObject cs))
        else
          let (v, cs) ← f.read (← readColon cs)
          r.readMembers n false (seen ++ [(name, v)]) cs

def readItems : List Field → Bool → List Char → Except Fault (List (String × Json) × List Char)
  | [], _, cs => .ok ([], cs)
  | f :: fs, first, cs => do
    match ← nextItem first cs with
    | none => .ok ([], cs)
    | some cs =>
      let (v, cs) ← f.read cs
      let (ms, cs) ← readItems fs false cs
      .ok ((f.name, v) :: ms, cs)

def read (r : Record α) (cs : List Char) : Except Fault (α × List Char) := do
  match ← readStart (skipSpace cs) with
  | (.scalar v, rest) => .error (.here (.refused (.wrongType v ("struct " ++ r.title))) rest)
  | (.list, rest) =>
    let (ms, rest) ← readItems r.fields true (rest.drop 1)
    match r.build (lookup · ms) r.tooShort with
    | .ok x => .ok (x, ← closeList rest)
    | .error e => .error (.here (.refused e) (settleList rest))
  | (.members, rest) =>
    let (ms, rest) ← r.readMembers (rest.length + 1) true [] (rest.drop 1)
    match r.build (lookup · ms) .missingField with
    | .ok x => .ok (x, ← closeObject rest)
    | .error e => .error (.here (.refused e) (settleObject rest))

def parse (r : Record α) (input : String) : Except ReadError α :=
  let cs := input.toList
  (do
    let (x, rest) ← r.read cs
    readEnd rest
    return x).mapError (ReadError.ofFault cs)

end Record
end EventLedger
