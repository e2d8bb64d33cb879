import EventLedger.Json.Printer
import EventLedger.Number.Integer
import EventLedger.Text.Quoted

/-! Why a value is refused. The words are assumed of the library that decodes values. It takes a place
off the end of a refusal that it did not word itself, and tells that place again. -/

namespace EventLedger

inductive Refusal where
  | wrongType (found : Json) (expected : String)
  | wrongValue (found : Json) (expected : String)
  | wrongLength (length : Nat) (expected : String)
  | unknownVariant (name : String) (choices : List String)
  | missingField (name : String)
  | duplicateField (name : String)
  | unknownLane (raw : String)
  | rule (message : String)
deriving Repr

namespace Refusal

def describe : Json → String
  | .null => "null"
  | .bool true => "boolean `true`"
  | .bool false => "boolean `false`"
  | .number (.integer i) => "integer `" ++ Text.signedDecimal i ++ "`"
  | .number (.float x) => "floating point `" ++ x.text ++ "`"
  | .string s => "string " ++ Text.quoted s
  | .array _ => "sequence"
  | .object _ => "map"

def ticked (name : String) : String := "`" ++ name ++ "`"

def choicesText : List String → String
  | [] => "there are no variants"
  | [a] => "expected " ++ ticked a
  | [a, b] => "expected " ++ ticked a ++ " or " ++ ticked b
  | names => "expected one of " ++ ", ".intercalate (names.map ticked)

def laneMessage (raw : String) : String := "Unknown lane: " ++ raw

def words : Refusal → String
  | wrongType found expected => "invalid type: " ++ describe found ++ ", expected " ++ expected
  | wrongValue found expected => "invalid value: " ++ describe found ++ ", expected " ++ expected
  | wrongLength n expected => "invalid length " ++ Text.decimal n ++ ", expected " ++ expected
  | unknownVariant name choices => "unknown variant " ++ ticked name ++ ", " ++ choicesText choices
  | missingField name => "missing field " ++ ticked name
  | duplicateField name => "duplicate field " ++ ticked name
  | unknownLane raw => "[UnknownLane] " ++ laneMessage raw
  | rule message => message

def endNumber? (reversed : List Char) : Option (Nat × List Char) := do
  let n ← (Text.parseWord64 (String.ofList (reversed.takeWhile Text.isDigit).reverse)).toOption
  some (n, reversed.dropWhile Text.isDigit)

def withoutEnd? (label : String) (reversed : List Char) : Option (List Char) :=
  let ending := label.toList.reverse
  if ending.isPrefixOf reversed then some (reversed.drop ending.length) else none

def endPlace? (message : String) : Option (List Char × Nat × Nat) := do
  let (column, rest) ← endNumber? message.toList.reverse
  let rest ← withoutEnd? " column " rest
  let (line, rest) ← endNumber? rest
  let rest ← withoutEnd? " at line " rest
  some (rest.reverse, line, column)

def placeText (line column : Nat) : String :=
  " at line " ++ Text.decimal line ++ " column " ++ Text.decimal column

/-- The words of a refusal. A place that they end in is taken for the place of the refusal, and told
    unless its line is zero. -/
def message (r : Refusal) : String :=
  match endPlace? r.words with
  | none => r.words
  | some (text, line, column) =>
    String.ofList text ++ if line = 0 then "" else placeText line column

end Refusal
end EventLedger
