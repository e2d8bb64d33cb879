import EventLedger.Event.Basic
import EventLedger.Proofs.Event.Text
import EventLedger.Proofs.Json.Numbers

/-! Timestamps and identifiers are read back from their texts. -/

namespace EventLedger

open Text

namespace Timestamp

theorem trimLeft_cons {c : Char} (plain : isBlank c = false) (cs : List Char) :
    trimLeft (c :: cs) = c :: cs := by
  rw [trimLeft, List.dropWhile_cons_of_neg (by rw [plain]; exact Bool.false_ne_true)]

theorem ends_take {p : Char → Bool} {cs : List Char} (ends : Ends p cs) (n : Nat) :
    Ends p (cs.take n) := by
  intro c member
  cases n with
  | zero => cases member
  | succ n =>
    cases cs with
    | nil => cases member
    | cons d cs => exact ends c member

section Numbers

variable {ds rest : List Char} (digits : ∀ c ∈ ds, isDigit c = true) (some : ds ≠ [])
  (ends : Ends isDigit rest)
include digits some

theorem trimLeft_digits (rest : List Char) : trimLeft (ds ++ rest) = ds ++ rest := by
  cases ds with
  | nil => exact absurd rfl some
  | cons d ds => exact trimLeft_cons (not_isBlank_of_isDigit (digits d List.mem_cons_self)) _

include ends

theorem readNumber_digits {width : Nat} (fits : ds.length ≤ width) :
    readNumber width (ds ++ rest) = .ok (digitsValue ds, rest) := by
  have taken : ((ds ++ rest).take width).takeWhile isDigit = ds := by
    rw [List.take_append, List.take_of_length_le fits]
    exact takeWhile_run digits (ends_take ends _)
  cases ds with
  | nil => exact absurd rfl some
  | cons d ds =>
    have digit := digits d List.mem_cons_self
    rw [List.cons_append] at taken ⊢
    rw [readNumber, if_pos digit]
    dsimp only
    rw [taken, ← List.cons_append, List.drop_left]

end Numbers

section Padded

variable {rest : List Char} (ends : Ends isDigit rest)
include ends

theorem readNumber_padded {width n : Nat} (pos : 0 < width) (less : n < 10 ^ width) :
    readNumber width (paddedDigits width n ++ rest) = .ok (n, rest) := by
  have length := length_paddedDigits pos less
  have some : paddedDigits width n ≠ [] := List.ne_nil_of_length_pos (by omega)
  rw [readNumber_digits (isDigit_of_mem_paddedDigits width n) some ends (Nat.le_of_eq length),
    digitsValue_paddedDigits]

theorem readPart_padded {low high n : Nat} (within : low ≤ n ∧ n ≤ high) (two : n < 100) :
    readPart low high (paddedDigits 2 n ++ rest) = .ok (n, rest) := by
  have length := length_paddedDigits (show 0 < 2 by decide) (show n < 10 ^ 2 from two)
  have some : paddedDigits 2 n ≠ [] := List.ne_nil_of_length_pos (by omega)
  rw [readPart, trimLeft_digits (isDigit_of_mem_paddedDigits 2 n) some,
    readNumber_padded ends (by decide) two, ok_bind]
  exact if_pos within

theorem readLongNumber_padded {width n : Nat} (small : n ≤ greatestSigned32) :
    readLongNumber (paddedDigits width n ++ rest) = .ok (n, rest) := by
  have some : paddedDigits width n ≠ [] := by
    intro none
    have digits := decimalDigits_ne_nil n
    rw [paddedDigits, List.append_eq_nil_iff] at none
    exact digits none.2
  rw [readLongNumber, readNumber_digits (isDigit_of_mem_paddedDigits width n) some ends (by simp),
    ok_bind, digitsValue_paddedDigits]
  refine if_neg ?_
  simp only [greatestSigned32, greatestSigned64] at *
  omega

/-- Years of four digits stand as they are, the others behind a sign. -/
theorem readYear_chars {year : Int} (low : yearFloor ≤ year) (high : year ≤ yearCeiling) :
    readYear (yearChars year ++ rest) = .ok (year, rest) := by
  have within : ¬ (year < leastSigned32 ∨ greatestSigned32 < year) := by
    simp only [yearFloor, yearCeiling, leastSigned32, greatestSigned32] at *
    omega
  have small : (year.natAbs : Int) ≤ greatestSigned32 := by
    simp only [yearFloor, yearCeiling, greatestSigned32] at *
    omega
  have long := @readLongNumber_padded rest ends 4 year.natAbs small
  unfold yearChars readYear
  by_cases plain : 0 ≤ year ∧ year ≤ 9999
  · have four : year.natAbs < 10 ^ 4 := by omega
    have length := length_paddedDigits (show 0 < 4 by decide) four
    have digits := isDigit_of_mem_paddedDigits 4 year.natAbs
    have some : paddedDigits 4 year.natAbs ≠ [] := List.ne_nil_of_length_pos (by omega)
    have number := readNumber_padded ends (show 0 < 4 by decide) four
    rw [if_pos plain, trimLeft_digits digits some]
    cases chars : paddedDigits 4 year.natAbs with
    | nil => exact absurd chars some
    | cons d ds =>
      have digit := digits d (by rw [chars]; exact List.mem_cons_self)
      rw [chars] at number
      rw [List.cons_append] at number ⊢
      have value : (year.natAbs : Int) = year := by omega
      split
      · rename_i sign
        exact absurd (List.cons.inj sign).1 (ne_of_apart digit (by decide))
      · rename_i sign
        exact absurd (List.cons.inj sign).1 (ne_of_apart digit (by decide))
      · rw [number, ok_bind]
        simp only [value]
        exact if_neg within
  · rw [if_neg plain]
    by_cases negative : year < 0
    · rw [if_pos negative, List.cons_append, trimLeft_cons (by decide)]
      have value : -(year.natAbs : Int) = year := by omega
      simp only [long, ok_bind, value]
      exact if_neg within
    · rw [if_neg negative, List.cons_append, trimLeft_cons (by decide)]
      have value : (year.natAbs : Int) = year := by omega
      simp only [long, ok_bind, value]
      exact if_neg within

end Padded

theorem readMark_mark {mark : Char} (plain : isBlank mark = false) (rest : List Char) :
    readMark mark (mark :: rest) = .ok rest := by
  rw [readMark, trimLeft_cons plain]
  exact if_pos rfl

theorem fractionChars_digits {nano : Nat} (less : nano < 1000000000) {ds : List Char}
    (h : fractionChars nano = '.' :: ds) :
    (∀ c ∈ ds, isDigit c = true) ∧ 0 < ds.length ∧ ds.length ≤ 9 := by
  have group (width n : Nat) (pos : 0 < width) (most : width ≤ 9) (below : n < 10 ^ width)
      (same : paddedDigits width n = ds) :
      (∀ c ∈ ds, isDigit c = true) ∧ 0 < ds.length ∧ ds.length ≤ 9 := by
    have length := length_paddedDigits pos below
    rw [same] at length
    exact ⟨same ▸ isDigit_of_mem_paddedDigits width n, by omega, by omega⟩
  unfold fractionChars at h
  split at h
  · cases h
  · split at h
    · exact group 3 _ (by decide) (by decide) (by omega) (List.cons.inj h).2
    · split at h
      · exact group 6 _ (by decide) (by decide) (by omega) (List.cons.inj h).2
      · exact group 9 _ (by decide) (by decide) (by omega) (List.cons.inj h).2

theorem readFraction_chars {nano : Nat} (less : nano < 1000000000) (rest : List Char) :
    readFraction (fractionChars nano ++ 'Z' :: rest) = .ok (nano, 'Z' :: rest) := by
  rcases fractionChars_value less with ⟨rfl, none⟩ | ⟨ds, chars, value⟩
  · rw [none]
    rfl
  · obtain ⟨digits, pos, most⟩ := fractionChars_digits less chars
    have zone : Ends isDigit ('Z' :: rest) := Ends.cons (by decide) rest
    have number := readNumber_digits digits (List.ne_nil_of_length_pos pos) zone most
    have used : (ds ++ 'Z' :: rest).length - ('Z' :: rest).length = ds.length := by
      rw [List.length_append, Nat.add_sub_cancel]
    rw [chars, List.cons_append, readFraction, number, ok_bind]
    simp only [used]
    rw [value, List.dropWhile_cons_of_neg (by decide)]
    rfl

theorem ofFields?_fields (t : Timestamp) :
    ofFields? t.year t.month t.day t.hour t.minute t.second t.nano = some t := by
  rw [ofFields?, dif_pos t.year_mem, dif_pos t.month_mem, dif_pos t.day_mem, dif_pos t.time_mem,
    dif_pos t.nano_mem]

/-- Second 60 is read as a leap second, which is second 59 with a second more of nanoseconds. -/
theorem leap_read {second nano : Nat} (less : second < 60)
    (within : nano < 1000000000 ∨ second = 59 ∧ nano < 2000000000) {s n : Nat}
    (hs : (if 1000000000 ≤ nano then second + 1 else second) = s)
    (hn : (if 1000000000 ≤ nano then nano - 1000000000 else nano) = n) :
    s ≤ 60 ∧ n < 1000000000 ∧ (if s = 60 then (59, n + 1000000000) else (s, n)) = (second, nano) := by
  split at hs
  · rename_i leap
    rw [if_pos leap] at hn
    refine ⟨by omega, by omega, ?_⟩
    rw [if_pos (by omega), Prod.mk.injEq]
    omega
  · rename_i plain
    rw [if_neg plain] at hn
    refine ⟨by omega, by omega, ?_⟩
    rw [if_neg (by omega), Prod.mk.injEq]
    omega

theorem parse_text (t : Timestamp) : parse t.text = .ok t := by
  have dash (r : List Char) : Ends isDigit ('-' :: r) := Ends.cons (by decide) r
  have colon (r : List Char) : Ends isDigit (':' :: r) := Ends.cons (by decide) r
  have mark (r : List Char) : Ends isDigit ('T' :: r) := Ends.cons (by decide) r
  have month := t.month_mem
  have day := t.day_mem
  have time := t.time_mem
  have nano := t.nano_mem
  have days : daysInMonth t.year t.month ≤ 31 := by
    unfold daysInMonth
    split_ifs <;> decide
  have zone : readZone (trimLeft ['Z']) = .ok (0, []) := rfl
  obtain ⟨second, hs⟩ : ∃ s, (if 1000000000 ≤ t.nano then t.second + 1 else t.second) = s := ⟨_, rfl⟩
  obtain ⟨fraction, hn⟩ : ∃ n, (if 1000000000 ≤ t.nano then t.nano - 1000000000 else t.nano) = n :=
    ⟨_, rfl⟩
  obtain ⟨seconds, below, leap⟩ := leap_read time.2.2 nano hs hn
  rw [parse, text, String.toList_ofList, chars, hs, hn]
  simp only [List.append_assoc, List.cons_append]
  rw [readYear_chars (dash _) t.year_mem.1 t.year_mem.2, ok_bind]
  dsimp only
  rw [readMark_mark (by decide), ok_bind, readPart_padded (dash _) month (by omega), ok_bind]
  dsimp only
  rw [readMark_mark (by decide), ok_bind, readPart_padded (mark _) ⟨day.1, by omega⟩ (by omega), ok_bind]
  dsimp only
  rw [if_pos (by decide), ok_bind, readPart_padded (colon _) ⟨by omega, by omega⟩ (by omega), ok_bind]
  dsimp only
  rw [readMark_mark (by decide), ok_bind, readPart_padded (colon _) ⟨by omega, by omega⟩ (by omega),
    ok_bind]
  dsimp only
  rw [readMark_mark (by decide), ok_bind,
    readPart_padded (ends_fraction _ []) ⟨by omega, seconds⟩ (by omega), ok_bind]
  dsimp only
  rw [readFraction_chars below, ok_bind]
  dsimp only
  rw [leap]
  simp only [ofFields?_fields, zone, ok_bind]
  rfl

end Timestamp

namespace Uuid

theorem digit?_hexDigit : ∀ d : Fin 16, digit? (hexDigit d.val) = some d := by decide

theorem mapM_digitChars (ds : List (Fin 16)) : (digitChars ds).mapM digit? = some ds := by
  induction ds with
  | nil => rfl
  | cons d ds ih =>
    rw [digitChars] at *
    rw [List.map_cons, List.mapM_cons, digit?_hexDigit, ih]
    rfl

theorem length_digitChars (ds : List (Fin 16)) : (digitChars ds).length = ds.length := List.length_map _

theorem drop_group {group : List Char} {size : Nat} (length : group.length = size) (rest : List Char) :
    (group ++ '-' :: rest).drop (size + 1) = rest := by
  rw [← length, ← List.drop_drop, List.drop_left]
  rfl

/-- Five groups of their proper lengths are read as one run of digits. -/
theorem ofGroups?_groups {a b c d e : List Char} (ha : a.length = 8) (hb : b.length = 4)
    (hc : c.length = 4) (hd : d.length = 4) :
    ofGroups? (a ++ '-' :: (b ++ '-' :: (c ++ '-' :: (d ++ '-' :: e)))) =
      ofDigits? (a ++ b ++ c ++ d ++ e) := by
  obtain ⟨cs, whole⟩ : ∃ cs, a ++ '-' :: (b ++ '-' :: (c ++ '-' :: (d ++ '-' :: e))) = cs := ⟨_, rfl⟩
  have from8 : cs.drop 8 = '-' :: (b ++ '-' :: (c ++ '-' :: (d ++ '-' :: e))) := by
    rw [← whole, ← ha, List.drop_left]
  have from9 : cs.drop 9 = b ++ '-' :: (c ++ '-' :: (d ++ '-' :: e)) := by
    rw [← whole]
    exact drop_group ha _
  have from13 : cs.drop 13 = '-' :: (c ++ '-' :: (d ++ '-' :: e)) := by
    rw [show 13 = 9 + 4 from rfl, ← List.drop_drop, from9, ← hb, List.drop_left]
  have from14 : cs.drop 14 = c ++ '-' :: (d ++ '-' :: e) := by
    rw [show 14 = 9 + 5 from rfl, ← List.drop_drop, from9]
    exact drop_group hb _
  have from18 : cs.drop 18 = '-' :: (d ++ '-' :: e) := by
    rw [show 18 = 14 + 4 from rfl, ← List.drop_drop, from14, ← hc, List.drop_left]
  have from19 : cs.drop 19 = d ++ '-' :: e := by
    rw [show 19 = 14 + 5 from rfl, ← List.drop_drop, from14]
    exact drop_group hc _
  have from23 : cs.drop 23 = '-' :: e := by
    rw [show 23 = 19 + 4 from rfl, ← List.drop_drop, from19, ← hd, List.drop_left]
  have first : cs.take 8 = a := by rw [← whole, ← ha, List.take_left]
  have second : (cs.drop 9).take 4 = b := by rw [from9, ← hb, List.take_left]
  have third : (cs.drop 14).take 4 = c := by rw [from14, ← hc, List.take_left]
  have fourth : (cs.drop 19).take 4 = d := by rw [from19, ← hd, List.take_left]
  rw [whole, ofGroups?, from8, from13, from18, from23, first, second, third, fourth]
  rfl

theorem ofGroups?_chars (u : Uuid) : ofGroups? u.chars = some u := by
  have digits := u.length_digits
  have length (ds : List (Fin 16)) {n : Nat} (h : ds.length = n) : (digitChars ds).length = n := by
    rw [length_digitChars, h]
  rw [chars]
  simp only [List.append_assoc, List.cons_append]
  rw [ofGroups?_groups (length _ (by simp [digits])) (length _ (by simp [digits]))
    (length _ (by simp [digits])) (length _ (by simp [digits])), take_groups, ofDigits?, mapM_digitChars]
  exact dif_pos digits

/-- Every character of an identifier takes one byte. -/
theorem utf8ByteSize_text (u : Uuid) : u.text.utf8ByteSize = 36 := by
  have digits := u.length_digits
  have digit : ∀ d : Fin 16, (hexDigit d.val).utf8Size = 1 := by decide
  have hyphen : '-'.utf8Size = 1 := by decide
  have sizes (ds : List (Fin 16)) : String.utf8Len (digitChars ds) = ds.length := by
    induction ds with
    | nil => rfl
    | cons d ds ih =>
      rw [digitChars] at *
      rw [List.map_cons, String.utf8Len_cons, digit, ih, List.length_cons]
  rw [text, String.utf8ByteSize_ofList, chars]
  simp only [String.utf8Len_append, String.utf8Len_cons, sizes, hyphen, List.length_take,
    List.length_drop, digits]
  rfl

theorem parse_text (u : Uuid) : Uuid.parse u.text = .ok u := by
  unfold parse
  dsimp only
  rw [utf8ByteSize_text, if_neg (by decide), if_pos rfl, text, String.toList_ofList, ofGroups?_chars]

end Uuid
end EventLedger
