import EventLedger.Text.Decimal

/-! Identifiers of 128 bits in base 32. The ledger leaves their reading and writing to a library, and
what is defined here is assumed of it: either case is read, no letter stands for a digit that it looks
like, and of the first digit the bits that do not fit are dropped without a word. -/

namespace EventLedger

abbrev Ulid.count : Nat := 0x100000000000000000000000000000000

structure Ulid where
  value : Nat
  value_lt : value < Ulid.count
deriving DecidableEq

namespace Ulid

def alphabet : List Char := "0123456789ABCDEFGHJKMNPQRSTVWXYZ".toList

def digitChar (n : Nat) : Char := alphabet.getD (n % 32) '0'

def digitValue? (c : Char) : Option Nat := alphabet.findIdx? fun a => a = c.toUpper

inductive Problem where
  | invalidLength
  | invalidCharacter
deriving DecidableEq, Repr

def Problem.message : Problem → String
  | invalidLength => "invalid length"
  | invalidCharacter => "invalid character"

def ofDigits (ds : List Nat) : Ulid :=
  ⟨ds.foldl (fun v d => 32 * v + d) 0 % count, Nat.mod_lt _ (by decide)⟩

/-- Reads 26 digits. They hold 130 bits, of which the two highest are dropped. -/
def parse (s : String) : Except Problem Ulid :=
  if s.utf8ByteSize ≠ 26 then .error .invalidLength
  else match s.toList.mapM digitValue? with
    | some ds => .ok (ofDigits ds)
    | none => .error .invalidCharacter

def chars (u : Ulid) : List Char :=
  (List.range 26).map fun i => digitChar (u.value / Nat.pow 32 (25 - i))

def text (u : Ulid) : String := String.ofList u.chars

end Ulid
end EventLedger
