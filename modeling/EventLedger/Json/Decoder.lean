import EventLedger.Json.Refusal
import EventLedger.Number.Bounds

namespace EventLedger

abbrev Decoder (α : Type) : Type := Json → Except Refusal α

namespace Decoder

def any : Decoder Json := .ok

def string : Decoder String
  | .string s => .ok s
  | v => .error (.wrongType v "a string")

def boolean : Decoder Bool
  | .bool b => .ok b
  | v => .error (.wrongType v "a boolean")

def integer (name : String) (low high : Int) : Decoder Int
  | .number (.integer i) =>
    if low ≤ i ∧ i ≤ high then .ok i else .error (.wrongValue (.int i) name)
  | v => .error (.wrongType v name)

def natural (name : String) (high : Nat) : Decoder Nat := fun v =>
  (integer name 0 high v).map Int.toNat

def word32 : Decoder Nat := natural "u32" greatestWord32

def word64 : Decoder Nat := natural "u64" greatestWord64

def signed64 : Decoder Int := integer "i64" leastSigned64 greatestSigned64

def items (d : Decoder α) : List Json → Except Refusal (List α)
  | [] => .ok []
  | v :: vs => do
    let x ← d v
    let xs ← items d vs
    .ok (x :: xs)

def list (d : Decoder α) : Decoder (List α)
  | .array vs => items d vs
  | v => .error (.wrongType v "a sequence")

def strings : Decoder (List String) := list string

def optional (d : Decoder α) : Decoder (Option α)
  | .null => .ok none
  | v => (d v).map some

/-- A name out of a fixed choice. The name may also be the single member of an object, and then
    stands beside `null`. -/
def choice (choices : List (String × α)) : Decoder α := fun v =>
  let find := fun (name : String) =>
    match choices.find? fun c => c.1 == name with
    | some c => Except.ok c.2
    | none => .error (.unknownVariant name (choices.map (·.1)))
  match v with
  | .string name => find name
  | .object [(name, content)] => do
    let x ← find name
    match content with
    | .null => .ok x
    | content => .error (.wrongType content "unit")
  | .object _ => .error (.wrongValue v "map with a single key")
  | v => .error (.wrongType v "string or map")

def check (d : Decoder α) : Decoder Unit := fun v => (d v).map fun _ => ()

end Decoder

/-- A field of a record. A field of any shape takes every JSON value; the others take scalars. -/
structure Field where
  name : String
  anyShape : Bool
  check : Decoder Unit

/-- The fields of a record in order, and how a value is made once each field can be looked up. -/
structure Record (α : Type) where
  title : String
  fields : List Field
  build : (String → Option Json) → (String → Refusal) → Except Refusal α

namespace Record

def of (title : String) (a : α) : Record α := ⟨title, [], fun _ _ => .ok a⟩

def required (r : Record (α → β)) (name : String) (d : Decoder α) : Record β where
  title := r.title
  fields := r.fields ++ [⟨name, false, d.check⟩]
  build := fun find absent => do
    let f ← r.build find absent
    match find name with
    | some v => (d v).map f
    | none => .error (absent name)

def defaulted (r : Record (α → β)) (name : String) (d : Decoder α) (value : α) : Record β where
  title := r.title
  fields := r.fields ++ [⟨name, false, d.check⟩]
  build := fun find absent => do
    let f ← r.build find absent
    match find name with
    | some v => (d v).map f
    | none => .ok (f value)

def optional (r : Record (Option α → β)) (name : String) (d : Decoder α) : Record β :=
  r.defaulted name d.optional none

def free (r : Record (Json → β)) (name : String) (value : Json) : Record β where
  title := r.title
  fields := r.fields ++ [⟨name, true, Decoder.any.check⟩]
  build := fun find absent => do
    let f ← r.build find absent
    .ok (f ((find name).getD value))

def field? (r : Record α) (name : String) : Option Field := r.fields.find? fun f => f.name == name

def lengthText (r : Record α) : String :=
  "struct " ++ r.title ++ " with " ++ Text.decimal r.fields.length ++
    (if r.fields.length = 1 then " element" else " elements")

/-- A list that ends before a field without a value of its own is too short. -/
def tooShort (r : Record α) (name : String) : Refusal :=
  .wrongLength (r.fields.findIdx fun f => f.name == name) r.lengthText

def label (r : Record α) (items : List Json) : List (String × Json) :=
  (r.fields.map (·.name)).zip items

def checkMembers (r : Record α) : List (String × Json) → Except Refusal Unit
  | [] => .ok ()
  | (name, v) :: ms => do
    match r.field? name with
    | some f => f.check v
    | none => .ok ()
    r.checkMembers ms

/-- A record is an object, or a list of its fields in order. A wrong member is reported before an
    absent field. -/
def decode (r : Record α) : Decoder α
  | .object members => do
    r.checkMembers members
    r.build (Json.lookup · members) .missingField
  | .array items => do
    let x ← r.build (Json.lookup · (r.label items)) r.tooShort
    if r.fields.length < items.length then
      .error (.wrongLength items.length "fewer elements in array")
    else .ok x
  | v => .error (.wrongType v ("struct " ++ r.title))

end Record
end EventLedger
