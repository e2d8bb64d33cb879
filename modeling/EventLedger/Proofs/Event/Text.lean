import EventLedger.Event.Basic
import EventLedger.Proofs.Json.Text

/-! The text of an event gives away every field, the sign of a zero in its payload included. -/

namespace EventLedger

open Text

namespace Timestamp

theorem paddedDigits_ne_cons {c : Char} (other : isDigit c = false) (width n : Nat) (r s : List Char) :
    paddedDigits width n ++ r ≠ c :: s := by
  intro h
  cases digits : paddedDigits width n with
  | nil =>
    have empty := congrArg List.length digits
    have pos := length_decimalDigits_pos n
    rw [paddedDigits, List.length_append, List.length_nil] at empty
    omega
  | cons d ds =>
    have digit := isDigit_of_mem_paddedDigits width n d (by rw [digits]; exact List.mem_cons_self)
    rw [digits] at h
    rw [(List.cons.inj h).1, other] at digit
    cases digit

theorem yearChars_append_inj {y z : Int} {r s : List Char} (hr : Ends isDigit r) (hs : Ends isDigit s)
    (h : yearChars y ++ r = yearChars z ++ s) : y = z ∧ r = s := by
  have sign (year : Int) : isDigit (if year < 0 then '-' else '+') = false := by
    split <;> decide
  unfold yearChars at h
  by_cases hy : 0 ≤ y ∧ y ≤ 9999
  · rw [if_pos hy] at h
    by_cases hz : 0 ≤ z ∧ z ≤ 9999
    · rw [if_pos hz] at h
      obtain ⟨size, rest⟩ := paddedDigits_append_inj hr hs h
      exact ⟨by omega, rest⟩
    · rw [if_neg hz] at h
      exact absurd h (paddedDigits_ne_cons (sign z) _ _ _ _)
  · rw [if_neg hy] at h
    by_cases hz : 0 ≤ z ∧ z ≤ 9999
    · rw [if_pos hz] at h
      exact absurd h.symm (paddedDigits_ne_cons (sign y) _ _ _ _)
    · rw [if_neg hz] at h
      obtain ⟨signs, digits⟩ := List.cons.inj h
      obtain ⟨size, rest⟩ := paddedDigits_append_inj hr hs digits
      refine ⟨?_, rest⟩
      have sides : y < 0 ↔ z < 0 := by
        by_cases below : y < 0
        · by_cases below' : z < 0
          · exact iff_of_true below below'
          · rw [if_pos below, if_neg below'] at signs
            exact absurd signs (by decide)
        · by_cases below' : z < 0
          · rw [if_neg below, if_pos below'] at signs
            exact absurd signs (by decide)
          · exact iff_of_false below below'
      omega

/-- A fraction denotes its nanoseconds, however many groups of digits it has. -/
theorem fractionChars_value {nano : Nat} (less : nano < 1000000000) :
    (nano = 0 ∧ fractionChars nano = []) ∨
    ∃ ds, fractionChars nano = '.' :: ds ∧ nano = digitsValue ds * 10 ^ (9 - ds.length) := by
  unfold fractionChars
  split
  · rename_i zero
    exact Or.inl ⟨zero, rfl⟩
  · refine Or.inr ?_
    split
    · refine ⟨_, rfl, ?_⟩
      rw [digitsValue_paddedDigits, length_paddedDigits (by decide) (by omega)]
      omega
    · split
      · refine ⟨_, rfl, ?_⟩
        rw [digitsValue_paddedDigits, length_paddedDigits (by decide) (by omega)]
        omega
      · refine ⟨_, rfl, ?_⟩
        rw [digitsValue_paddedDigits, length_paddedDigits (by decide) (by omega)]
        omega

theorem fractionChars_injective {m n : Nat} (hm : m < 1000000000) (hn : n < 1000000000)
    (h : fractionChars m = fractionChars n) : m = n := by
  rcases fractionChars_value hm with ⟨rfl, none⟩ | ⟨ds, digits, value⟩ <;>
    rcases fractionChars_value hn with ⟨rfl, none'⟩ | ⟨ds', digits', value'⟩
  · rfl
  · rw [none, digits'] at h
    cases h
  · rw [digits, none'] at h
    cases h
  · rw [digits, digits'] at h
    rw [value, value', (List.cons.inj h).2]

theorem ends_fraction (nano : Nat) (r : List Char) : Ends isDigit (fractionChars nano ++ 'Z' :: r) := by
  unfold fractionChars
  split
  · exact Ends.cons (by decide) _
  · split
    · exact Ends.cons (by decide) _
    · split <;> exact Ends.cons (by decide) _

/-- Second 60 is written for a leap second only. -/
theorem leap_injective {s n s' n' : Nat} (hs : s < 60) (hs' : s' < 60)
    (hn : n < 1000000000 ∨ s = 59 ∧ n < 2000000000) (hn' : n' < 1000000000 ∨ s' = 59 ∧ n' < 2000000000)
    (second : (if 1000000000 ≤ n then s + 1 else s) = if 1000000000 ≤ n' then s' + 1 else s')
    (nano : (if 1000000000 ≤ n then n - 1000000000 else n) =
      if 1000000000 ≤ n' then n' - 1000000000 else n') : s = s' ∧ n = n' := by
  by_cases leap : 1000000000 ≤ n
  · rw [if_pos leap] at second nano
    by_cases leap' : 1000000000 ≤ n'
    · rw [if_pos leap'] at second nano
      omega
    · rw [if_neg leap'] at second nano
      omega
  · rw [if_neg leap] at second nano
    by_cases leap' : 1000000000 ≤ n'
    · rw [if_pos leap'] at second nano
      omega
    · rw [if_neg leap'] at second nano
      exact ⟨second, nano⟩

theorem chars_injective {s t : Timestamp} (h : s.chars = t.chars) : s = t := by
  have dash (r : List Char) : Ends isDigit ('-' :: r) := Ends.cons (by decide) r
  have colon (r : List Char) : Ends isDigit (':' :: r) := Ends.cons (by decide) r
  have mark (r : List Char) : Ends isDigit ('T' :: r) := Ends.cons (by decide) r
  have hs := s.nano_mem
  have ht := t.nano_mem
  simp only [chars, List.append_assoc, List.cons_append] at h
  obtain ⟨year, h⟩ := yearChars_append_inj (dash _) (dash _) h
  obtain ⟨month, h⟩ := paddedDigits_append_inj (dash _) (dash _) (List.cons.inj h).2
  obtain ⟨day, h⟩ := paddedDigits_append_inj (mark _) (mark _) (List.cons.inj h).2
  obtain ⟨hour, h⟩ := paddedDigits_append_inj (colon _) (colon _) (List.cons.inj h).2
  obtain ⟨minute, h⟩ := paddedDigits_append_inj (colon _) (colon _) (List.cons.inj h).2
  obtain ⟨second, h⟩ :=
    paddedDigits_append_inj (ends_fraction _ []) (ends_fraction _ []) (List.cons.inj h).2
  have nano := fractionChars_injective (by split <;> omega) (by split <;> omega)
    (List.append_cancel_right h)
  obtain ⟨second, nano⟩ := leap_injective s.time_mem.2.2 t.time_mem.2.2 hs ht second nano
  cases s
  cases t
  simp_all only

theorem text_injective {s t : Timestamp} (h : s.text = t.text) : s = t :=
  chars_injective (String.ofList_injective h)

end Timestamp

namespace Uuid

theorem hexDigit_injective : ∀ a b : Fin 16, hexDigit a.val = hexDigit b.val → a = b := by
  decide

/-- The digits of the five groups are all digits. -/
theorem take_groups (ds : List (Fin 16)) :
    digitChars (ds.take 8) ++ digitChars ((ds.drop 8).take 4) ++ digitChars ((ds.drop 12).take 4) ++
      digitChars ((ds.drop 16).take 4) ++ digitChars (ds.drop 20) = digitChars ds := by
  simp only [digitChars, ← List.map_append]
  congr 1
  rw [← List.take_add, ← List.take_add, ← List.take_add, List.take_append_drop]

theorem filter_chars (u : Uuid) : u.chars.filter (· != '-') = digitChars u.digits := by
  have digit : ∀ d : Fin 16, (hexDigit d.val != '-') = true := by decide
  have all (ds : List (Fin 16)) : (digitChars ds).filter (· != '-') = digitChars ds := by
    refine List.filter_eq_self.mpr ?_
    intro c member
    obtain ⟨d, -, rfl⟩ := List.mem_map.mp member
    exact digit d
  have hyphen (cs : List Char) : ('-' :: cs).filter (· != '-') = cs.filter (· != '-') :=
    List.filter_cons_of_neg (by decide)
  simp only [chars, List.filter_append, hyphen, all]
  exact take_groups u.digits

theorem chars_injective {u v : Uuid} (h : u.chars = v.chars) : u = v := by
  have digits : digitChars u.digits = digitChars v.digits := by
    rw [← filter_chars, ← filter_chars, h]
  have same := List.map_injective_iff.mpr (fun a b => hexDigit_injective a b) digits
  cases u
  cases v
  cases same
  rfl

theorem text_injective {u v : Uuid} (h : u.text = v.text) : u = v :=
  chars_injective (String.ofList_injective h)

end Uuid

namespace Event

theorem string_id_injective (i j : EventId) (h : Json.string i.text = Json.string j.text) : i = j := by
  cases i
  cases j
  exact congrArg EventId.mk (Json.string.inj h)

theorem string_uuid_injective (u v : Uuid) (h : Json.string u.text = Json.string v.text) : u = v :=
  Uuid.text_injective (Json.string.inj h)

/-- A member that may be left out is told from a member of another name. -/
theorem member?_append_inj {name : String} {f : α → Json} (inj : ∀ a b, f a = f b → a = b)
    {x y : Option α} {r s : List (String × Json)} (hr : ∀ m ∈ r.head?, m.1 ≠ name)
    (hs : ∀ m ∈ s.head?, m.1 ≠ name) (h : member? name f x ++ r = member? name f y ++ s) :
    x = y ∧ r = s := by
  cases x with
  | none =>
    cases y with
    | none => exact ⟨rfl, h⟩
    | some b => exact absurd rfl (hr _ (by rw [show r = (name, f b) :: s from h]; rfl))
  | some a =>
    cases y with
    | none => exact absurd rfl (hs _ (by rw [← show (name, f a) :: r = s from h]; rfl))
    | some b =>
      obtain ⟨values, rest⟩ := List.cons.inj h
      exact ⟨congrArg some (inj a b (Prod.mk.inj values).2), rest⟩

theorem head?_member?_append {name other : String} {f : α → Json} {x : Option α}
    {r : List (String × Json)} (apart : name ≠ other) (hr : ∀ m ∈ r.head?, m.1 ≠ other) :
    ∀ m ∈ (member? name f x ++ r).head?, m.1 ≠ other := by
  intro m member
  cases x with
  | none => exact hr m member
  | some a =>
    cases member
    exact apart

theorem members_injective {a b : Event} (h : a.members = b.members) : a = b := by
  simp only [members, List.append_assoc, List.cons_append, List.nil_append, List.cons.injEq,
    Prod.mk.injEq, true_and, Json.string.injEq, Json.nat, Json.number.injEq, Number.integer.injEq] at h
  obtain ⟨id, type, aggregate, time, node, clock, h⟩ := h
  obtain ⟨cause, h⟩ := member?_append_inj string_id_injective (by simp) (by simp) h
  simp only [List.cons.injEq, Prod.mk.injEq, true_and, Json.string.injEq] at h
  obtain ⟨correlation, h⟩ := h
  obtain ⟨project, h⟩ := member?_append_inj string_uuid_injective
    (head?_member?_append (by decide) (by simp)) (head?_member?_append (by decide) (by simp)) h
  obtain ⟨slug, h⟩ := member?_append_inj (fun s t => Json.string.inj) (by simp) (by simp) h
  simp only [List.cons.injEq, Prod.mk.injEq, true_and, and_true, Json.string.injEq] at h
  obtain ⟨schema, payload⟩ := h
  have id := string_id_injective _ _ (congrArg Json.string id)
  have time := Timestamp.text_injective time
  have clock := Int.ofNat.inj clock
  cases a
  cases b
  simp_all only

/-- Events that are written alike are the same. -/
theorem text_injective {a b : Event} (h : a.text = b.text) : a = b :=
  members_injective (Json.object.inj (Json.text_injective h))

end Event
end EventLedger
