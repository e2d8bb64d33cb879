import EventLedger.Index
import EventLedger.Json.RecordReader

namespace EventLedger.Json

/-- Reads an object in which every member holds a scalar of one type. Of a repeated name the last
    value stays. -/
def readIndex (d : Decoder α) (cs : List Char) : Except Fault (Index α × List Char) := do
  match ← readStart (skipSpace cs) with
  | (.scalar v, rest) => .error (.here (.refused (.wrongType v "a map")) rest)
  | (.list, rest) => .error (.here (.refused (.wrongType (.array []) "a map")) rest)
  | (.members, rest) =>
    let (ms, rest) ← readMembers (readScalar d) (rest.length + 1) true (rest.drop 1)
    .ok (.ofList ms, rest)

def parseIndex (d : Decoder α) (input : String) : Except ReadError (Index α) :=
  let cs := input.toList
  (do
    let (x, rest) ← readIndex d cs
    readEnd rest
    return x).mapError (ReadError.ofFault cs)

end EventLedger.Json
