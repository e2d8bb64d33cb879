import EventLedger.Json.Decoder
import EventLedger.Text.Blank

namespace EventLedger

inductive Lane where
  | planned
  | claimed
  | inProgress
  | forReview
  | done
  | blocked
  | canceled
deriving DecidableEq, Repr

namespace Lane

instance : LT Lane := ⟨fun a b => a.ctorIdx < b.ctorIdx⟩

instance : LE Lane := ⟨fun a b => a.ctorIdx ≤ b.ctorIdx⟩

instance : DecidableLT Lane := fun a b => inferInstanceAs (Decidable (a.ctorIdx < b.ctorIdx))

instance : Std.IsLinearOrder Lane where
  le_refl a := Nat.le_refl a.ctorIdx
  le_trans _ _ _ := Nat.le_trans
  le_antisymm a b ab ba := by
    have same : a.ctorIdx = b.ctorIdx := Nat.le_antisymm ab ba
    rw [← ofNat_ctorIdx a, same, ofNat_ctorIdx]
  le_total a b := Nat.le_total a.ctorIdx b.ctorIdx

instance : Std.LawfulOrderLT Lane where
  lt_iff _ _ := Nat.lt_iff_le_and_not_ge

def all : List Lane := [.planned, .claimed, .inProgress, .forReview, .done, .blocked, .canceled]

def name : Lane → String
  | .planned => "planned"
  | .claimed => "claimed"
  | .inProgress => "in_progress"
  | .forReview => "for_review"
  | .done => "done"
  | .blocked => "blocked"
  | .canceled => "canceled"

def aliases : List (String × Lane) := [("doing", .inProgress), ("cancelled", .canceled)]

def ofName? (s : String) : Option Lane :=
  let name := Text.canonicalName s
  match aliases.find? fun a => a.1 == name with
  | some a => some a.2
  | none => all.find? fun l => l.name == name

def isTerminal : Lane → Bool
  | .done | .canceled => true
  | _ => false

def decoder : Decoder Lane := fun v => do
  let s ← Decoder.string v
  match ofName? s with
  | some l => .ok l
  | none => .error (.unknownLane s)

def toJson (l : Lane) : Json := .string l.name

end Lane
end EventLedger
