import EventLedger.Text.Decimal

/-! Identifiers of 128 bits in hexadecimal groups. Which forms of them are read, and in what words the
others are refused, is assumed of the library that the ledger reads them with. -/

namespace EventLedger

structure Uuid where
  digits : List (Fin 16)
  length_digits : digits.length = 32
deriving DecidableEq

namespace Uuid

def groupLengths : List Nat := [8, 4, 4, 4, 12]

def digitChars (ds : List (Fin 16)) : List Char := ds.map fun d => Text.hexDigit d.val

def chars (u : Uuid) : List Char :=
  digitChars (u.digits.take 8) ++ '-' :: digitChars ((u.digits.drop 8).take 4) ++
    '-' :: digitChars ((u.digits.drop 12).take 4) ++ '-' :: digitChars ((u.digits.drop 16).take 4) ++
    '-' :: digitChars (u.digits.drop 20)

def text (u : Uuid) : String := String.ofList u.chars

def digit? (c : Char) : Option (Fin 16) :=
  (Text.hexValue? c).bind fun n => if h : n < 16 then some ⟨n, h⟩ else none

def ofDigits? (cs : List Char) : Option Uuid :=
  match cs.mapM digit? with
  | some ds => if h : ds.length = 32 then some ⟨ds, h⟩ else none
  | none => none

def ofGroups? (cs : List Char) : Option Uuid :=
  match cs.drop 8, cs.drop 13, cs.drop 18, cs.drop 23 with
  | '-' :: _, '-' :: _, '-' :: _, '-' :: last =>
    ofDigits? (cs.take 8 ++ (cs.drop 9).take 4 ++ (cs.drop 14).take 4 ++ (cs.drop 19).take 4 ++ last)
  | _, _, _, _ => none

def urnLabel : List Char := "urn:uuid:".toList

def unwrap? (cs : List Char) : Option (List Char × Nat) :=
  match cs with
  | '\x7b' :: rest =>
    if rest.getLast? = some '\x7d' then some (rest.dropLast, 1) else none
  | _ =>
    if (cs.take 9).map Char.toLower = urnLabel then some (cs.drop 9, 9) else none

inductive Problem where
  | character (found : Char) (index : Nat)
  | length (found : Nat)
  | groupCount (count : Nat)
  | groupLength (group length : Nat)
deriving DecidableEq, Repr

def Problem.message : Problem → String
  | character c i =>
    "invalid character: found `" ++ String.ofList [c] ++ "` at " ++ Text.decimal i
  | length n => "invalid length: found " ++ Text.decimal n
  | groupCount n => "invalid group count: expected 5, found " ++ Text.decimal n
  | groupLength g n =>
    "invalid group length in group " ++ Text.decimal g ++ ": expected " ++
      Text.decimal (groupLengths.getD g 0) ++ ", found " ++ Text.decimal n

def stray? (index : Nat) : List Char → Option (Char × Nat)
  | [] => none
  | c :: cs =>
    if c = '-' || (Text.hexValue? c).isSome then stray? (index + c.utf8Size) cs else some (c, index)

def wrongGroup? (index : Nat) : List (List Char) → Option (Nat × Nat)
  | [] => none
  | g :: gs =>
    if g.length = groupLengths.getD index 0 then wrongGroup? (index + 1) gs
    else some (index, g.length)

/-- Why groups are none of an identifier. The place of a character counts from an offset. The last
    group counts to the end of the whole text, of the given length. -/
def diagnoseGroups (offset total : Nat) (body : List Char) : Problem :=
  match stray? offset body with
  | some (c, index) => .character c index
  | none =>
    let groups := body.splitOn '-'
    if groups.length ≠ 5 then .groupCount groups.length
    else
      match wrongGroup? 0 groups.dropLast with
      | some (group, length) => .groupLength group length
      | none => .groupLength 4 (total - 24)

def diagnose (cs : List Char) (total : Nat) : Problem :=
  if 45 < total then .length total
  else
    match unwrap? cs with
    | some (body, offset) => diagnoseGroups offset total body
    | none =>
      if cs.all fun c => (Text.hexValue? c).isSome then .length total
      else diagnoseGroups 0 total cs

/-- Reads 32 digits, five groups, or five groups in braces or behind the URN label. The length in
    bytes tells which of them is to be expected. -/
def parse (s : String) : Except Problem Uuid :=
  let cs := s.toList
  let total := s.utf8ByteSize
  let grouped := fun (body : List Char) =>
    match ofGroups? body with
    | some u => .ok u
    | none => .error (diagnoseGroups 0 total body)
  if total = 32 then
    match ofDigits? cs with
    | some u => .ok u
    | none => .error (diagnoseGroups 0 total cs)
  else if total = 36 then grouped cs
  else
    match unwrap? cs with
    | some (body, offset) =>
      if (total = 38 ∧ offset = 1) ∨ (total = 45 ∧ offset = 9) then grouped body
      else .error (diagnose cs total)
    | none => .error (diagnose cs total)

end Uuid
end EventLedger
