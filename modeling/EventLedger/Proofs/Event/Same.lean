import EventLedger.Event.Basic

/-! Equality of events by value: it is equality once zeros have lost their signs. -/

namespace EventLedger

/-- The number with a zero's sign dropped. -/
def Binary64.unsigned (x : Binary64) : Binary64 := if x.isZero then .zero else x

theorem Binary64.same_iff (x y : Binary64) : x.same y = true ↔ x.unsigned = y.unsigned := by
  have nonzero {z : Binary64} (h : ¬ z.isZero = true) : Binary64.zero ≠ z := by
    rintro rfl
    exact h rfl
  by_cases hx : x.isZero = true
  · by_cases hy : y.isZero = true
    · simp [same, unsigned, hx, hy]
    · have other : ¬ x = y := fun h => hy (h ▸ hx)
      simp [same, unsigned, hx, hy, other, nonzero hy]
  · by_cases hy : y.isZero = true
    · have other : ¬ x = y := fun h => hx (h ▸ hy)
      simp [same, unsigned, hx, hy, other, (nonzero hx).symm]
    · simp [same, unsigned, hx, hy]

def Number.unsigned : Number → Number
  | .integer i => .integer i
  | .float x => .float x.unsigned

theorem Number.same_iff (m n : Number) : m.same n = true ↔ m.unsigned = n.unsigned := by
  cases m <;> cases n <;> simp [same, unsigned, Binary64.same_iff]

namespace Json

mutual

def unsigned : Json → Json
  | .null => .null
  | .bool b => .bool b
  | .number n => .number n.unsigned
  | .string s => .string s
  | .array xs => .array (unsignedItems xs)
  | .object ms => .object (unsignedMembers ms)

def unsignedItems : List Json → List Json
  | [] => []
  | x :: xs => x.unsigned :: unsignedItems xs

def unsignedMembers : List (String × Json) → List (String × Json)
  | [] => []
  | (k, x) :: ms => (k, x.unsigned) :: unsignedMembers ms

end

mutual

theorem same_iff (v w : Json) : v.same w = true ↔ v.unsigned = w.unsigned := by
  match v with
  | .null => cases w <;> simp [same, unsigned]
  | .bool b => cases w <;> simp [same, unsigned]
  | .number n => cases w <;> simp [same, unsigned, Number.same_iff]
  | .string s => cases w <;> simp [same, unsigned]
  | .array xs => cases w <;> simp [same, unsigned, sameItems_iff xs]
  | .object ms => cases w <;> simp [same, unsigned, sameMembers_iff ms]

theorem sameItems_iff (xs ys : List Json) :
    sameItems xs ys = true ↔ unsignedItems xs = unsignedItems ys := by
  match xs with
  | [] => cases ys <;> simp [sameItems, unsignedItems]
  | x :: xs => cases ys <;> simp [sameItems, unsignedItems, same_iff x, sameItems_iff xs]

theorem sameMembers_iff (ms ns : List (String × Json)) :
    sameMembers ms ns = true ↔ unsignedMembers ms = unsignedMembers ns := by
  match ms with
  | [] => cases ns <;> simp [sameMembers, unsignedMembers]
  | (k, x) :: ms =>
    cases ns <;> simp [sameMembers, unsignedMembers, same_iff x, sameMembers_iff ms, and_assoc]

end

end Json

namespace Event

def unsigned (e : Event) : Event := { e with payload := e.payload.unsigned }

theorem same_iff (a b : Event) : a.same b = true ↔ a.unsigned = b.unsigned := by
  cases a
  cases b
  simp [same, unsigned, Json.same_iff, and_assoc]

end Event
end EventLedger
