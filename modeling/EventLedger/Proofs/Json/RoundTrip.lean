import EventLedger.Proofs.Index
import EventLedger.Proofs.Json.Legible
import EventLedger.Proofs.Json.Text

/-! A written value is read back. Floats are left out: reading takes two roundings. -/

namespace EventLedger.Json

open Text

/-- A value in which every number is an integer. -/
inductive FloatFree : Json → Prop where
  | null : FloatFree .null
  | bool (b : Bool) : FloatFree (.bool b)
  | integer (i : Int) : FloatFree (.int i)
  | string (s : String) : FloatFree (.string s)
  | array {xs : List Json} (items : ∀ x ∈ xs, FloatFree x) : FloatFree (.array xs)
  | object {ms : List (String × Json)} (members : ∀ m ∈ ms, FloatFree m.2) : FloatFree (.object ms)

theorem skipSpace_cons {c : Char} (other : isSpace c = false) (cs : List Char) :
    skipSpace (c :: cs) = c :: cs := by
  rw [skipSpace, List.dropWhile_cons_of_neg (by rw [other]; exact Bool.false_ne_true)]

theorem skipSpace_append {gap : List Char} (blank : ∀ c ∈ gap, isSpace c = true) (cs : List Char) :
    skipSpace (gap ++ cs) = skipSpace cs := List.dropWhile_append_of_pos blank

theorem ends_append {gap rest : List Char} (blank : ∀ c ∈ gap, isSpace c = true)
    (ends : Ends continuesNumber rest) : Ends continuesNumber (gap ++ rest) := by
  cases gap with
  | nil => exact ends
  | cons c gap =>
    have space := blank c List.mem_cons_self
    refine Ends.cons ?_ _
    simp only [isSpace, Bool.or_eq_true, decide_eq_true_eq] at space
    rcases space with ((rfl | rfl) | rfl) | rfl <;> decide

theorem head_chars_item (v : Json) :
    ∃ c rest, v.chars = c :: rest ∧ isSpace c = false ∧ c ≠ ',' ∧ c ≠ ']' := by
  cases v with
  | null => exact ⟨'n', _, rfl, by decide, by decide, by decide⟩
  | bool b =>
    cases b with
    | true => exact ⟨'t', _, rfl, by decide, by decide, by decide⟩
    | false => exact ⟨'f', _, rfl, by decide, by decide, by decide⟩
  | number n =>
    obtain ⟨c, rest, text, numeral⟩ := Number.head_chars n
    have apart (d : Char) (other : ¬ (d = '-' ∨ isDigit d = true)) : c ≠ d :=
      fun same => other (same ▸ numeral)
    refine ⟨c, rest, text, ?_, apart _ (by decide), apart _ (by decide)⟩
    simp [isSpace, apart ' ' (by decide), apart '\n' (by decide), apart '\t' (by decide),
      apart '\r' (by decide)]
  | string s => exact ⟨'"', _, rfl, by decide, by decide, by decide⟩
  | array xs =>
    cases xs with
    | nil => exact ⟨'[', _, rfl, by decide, by decide, by decide⟩
    | cons x xs => exact ⟨'[', _, by rw [chars], by decide, by decide, by decide⟩
  | object ms =>
    cases ms with
    | nil => exact ⟨'\x7b', _, rfl, by decide, by decide, by decide⟩
    | cons m ms => exact ⟨'\x7b', _, by rw [chars], by decide, by decide, by decide⟩

/-! Items -/

theorem nextItem_first (v : Json) (rest : List Char) :
    nextItem true (v.chars ++ rest) = .ok (some (v.chars ++ rest)) := by
  obtain ⟨c, cs, text, plain, comma, bracket⟩ := head_chars_item v
  rw [text, List.cons_append, nextItem, skipSpace_cons plain]
  split <;> simp_all

theorem nextItem_comma (v : Json) (rest : List Char) :
    nextItem false (',' :: (v.chars ++ rest)) = .ok (some (v.chars ++ rest)) := by
  obtain ⟨c, cs, text, plain, comma, bracket⟩ := head_chars_item v
  rw [text, List.cons_append, nextItem, skipSpace_cons (by decide)]
  simp only [Bool.false_eq_true, if_false]
  rw [skipSpace_cons plain]
  split <;> simp_all

theorem nextItem_end (first : Bool) (rest : List Char) : nextItem first (']' :: rest) = .ok none := by
  rw [nextItem, skipSpace_cons (by decide)]
  rfl

theorem closeList_end (rest : List Char) : closeList (']' :: rest) = .ok rest := by
  rw [closeList, skipSpace_cons (by decide)]
  rfl

theorem ends_itemsChars (xs : List Json) (rest : List Char) :
    Ends continuesNumber (itemsChars xs ++ ']' :: rest) := by
  cases xs with
  | nil => exact Ends.cons (by decide) _
  | cons x xs =>
    rw [itemsChars]
    exact Ends.cons (by decide) _

theorem readItems_itemsChars {read : List Char → Except Fault (Json × List Char)} {xs : List Json}
    (each : ∀ x ∈ xs, ∀ rest, Ends continuesNumber rest → read (x.chars ++ rest) = .ok (x, rest))
    {n : Nat} (enough : xs.length < n) (rest : List Char) :
    readItems read n false (itemsChars xs ++ ']' :: rest) = .ok (xs, rest) := by
  induction xs generalizing n with
  | nil =>
    obtain ⟨n, rfl⟩ := Nat.exists_eq_succ_of_ne_zero (Nat.ne_of_gt enough)
    rw [itemsChars, List.nil_append, readItems, nextItem_end, ok_bind]
    simp only [closeList_end, ok_bind]
  | cons x xs ih =>
    obtain ⟨n, rfl⟩ := Nat.exists_eq_succ_of_ne_zero (Nat.ne_of_gt (Nat.zero_lt_of_lt enough))
    have item := each x List.mem_cons_self _ (ends_itemsChars xs rest)
    have others := ih (fun y member => each y (List.mem_cons_of_mem _ member))
      (Nat.lt_of_succ_lt_succ enough)
    rw [itemsChars, List.cons_append, List.append_assoc, readItems, nextItem_comma, ok_bind]
    simp only [item, others, ok_bind]

/-! Members -/

/-- Members behind commas, with blanks in front of each name. -/
def spacedMembers {α : Type} (gap : List Char) (write : α → List Char) :
    List (String × α) → List Char
  | [] => []
  | (k, v) :: ms => ',' :: (gap ++ stringChars k ++ ':' :: (write v ++ spacedMembers gap write ms))

theorem membersChars_eq_spaced (ms : List (String × Json)) :
    membersChars ms = spacedMembers [] chars ms := by
  induction ms with
  | nil => rfl
  | cons m ms ih => rw [membersChars, spacedMembers, ih, List.nil_append]

theorem stringChars_append (s : String) (rest : List Char) :
    stringChars s ++ rest = '"' :: (s.toList.flatMap escapedChar ++ '"' :: rest) := by
  simp [stringChars]

theorem readString_escaped (s : String) (rest : List Char) :
    readString (s.toList.flatMap escapedChar ++ '"' :: rest) = .ok (s, rest) := by
  have read := readString_written s rest
  rwa [List.append_assoc, List.singleton_append] at read

section Members

variable {gap close : List Char} (blank : ∀ c ∈ gap, isSpace c = true)
  (closeBlank : ∀ c ∈ close, isSpace c = true)
include blank

theorem nextKey_first (cs : List Char) : nextKey true (gap ++ '"' :: cs) = .ok (some cs) := by
  rw [nextKey, skipSpace_append blank, skipSpace_cons (by decide)]
  rfl

theorem nextKey_comma (cs : List Char) : nextKey false (',' :: (gap ++ '"' :: cs)) = .ok (some cs) := by
  rw [nextKey, skipSpace_cons (by decide)]
  simp only [Bool.false_eq_true, if_false]
  rw [skipSpace_append blank, skipSpace_cons (by decide)]
  rfl

theorem nextKey_end (first : Bool) (rest : List Char) :
    nextKey first (gap ++ '\x7d' :: rest) = .ok none := by
  rw [nextKey, skipSpace_append blank, skipSpace_cons (by decide)]
  rfl

theorem closeObject_end (rest : List Char) : closeObject (gap ++ '\x7d' :: rest) = .ok rest := by
  rw [closeObject, skipSpace_append blank, skipSpace_cons (by decide)]
  rfl

omit blank in
theorem readColon_colon (rest : List Char) : readColon (':' :: rest) = .ok rest := by
  rw [readColon, skipSpace_cons (by decide)]
  rfl

include closeBlank in
omit blank in
theorem ends_spacedMembers {α : Type} (gap : List Char) (write : α → List Char)
    (ms : List (String × α)) (rest : List Char) :
    Ends continuesNumber (spacedMembers gap write ms ++ (close ++ '\x7d' :: rest)) := by
  cases ms with
  | nil =>
    have stop : continuesNumber '\x7d' = false := by decide
    rw [spacedMembers, List.nil_append]
    exact ends_append closeBlank (Ends.cons stop rest)
  | cons m ms =>
    rw [spacedMembers]
    exact Ends.cons (by decide) _

variable {α : Type} {read : List Char → Except Fault (α × List Char)} {write : α → List Char}

include closeBlank in
theorem readMembers_spaced {ms : List (String × α)}
    (each : ∀ m ∈ ms, ∀ rest, Ends continuesNumber rest → read (write m.2 ++ rest) = .ok (m.2, rest))
    {n : Nat} (enough : ms.length < n) (rest : List Char) :
    readMembers read n false (spacedMembers gap write ms ++ (close ++ '\x7d' :: rest)) =
      .ok (ms, rest) := by
  induction ms generalizing n with
  | nil =>
    obtain ⟨n, rfl⟩ := Nat.exists_eq_succ_of_ne_zero (Nat.ne_of_gt enough)
    rw [spacedMembers, List.nil_append, readMembers, nextKey_end closeBlank, ok_bind]
    simp only [closeObject_end closeBlank, ok_bind]
  | cons m ms ih =>
    obtain ⟨k, v⟩ := m
    obtain ⟨n, rfl⟩ := Nat.exists_eq_succ_of_ne_zero (Nat.ne_of_gt (Nat.zero_lt_of_lt enough))
    have value := each (k, v) List.mem_cons_self _ (ends_spacedMembers closeBlank gap write ms rest)
    have others := ih (fun m member => each m (List.mem_cons_of_mem _ member))
      (Nat.lt_of_succ_lt_succ enough)
    rw [spacedMembers, List.cons_append, List.append_assoc, List.append_assoc, stringChars_append,
      readMembers, nextKey_comma blank, ok_bind]
    simp only [readString_escaped, readColon_colon, List.cons_append, List.append_assoc, value,
      others, ok_bind]

include closeBlank in
/-- Members that are written one after another are read back. -/
theorem readMembers_first {m : String × α} {ms : List (String × α)}
    (each : ∀ l ∈ m :: ms, ∀ rest, Ends continuesNumber rest →
      read (write l.2 ++ rest) = .ok (l.2, rest))
    {n : Nat} (enough : ms.length + 1 < n) (rest : List Char) :
    readMembers read n true (gap ++ stringChars m.1 ++ ':' ::
      (write m.2 ++ (spacedMembers gap write ms ++ (close ++ '\x7d' :: rest)))) =
      .ok (m :: ms, rest) := by
  obtain ⟨n, rfl⟩ := Nat.exists_eq_succ_of_ne_zero (Nat.ne_of_gt (Nat.zero_lt_of_lt enough))
  have value := each m List.mem_cons_self _ (ends_spacedMembers closeBlank gap write ms rest)
  have others := readMembers_spaced blank closeBlank
    (fun m member => each m (List.mem_cons_of_mem _ member)) (Nat.lt_of_succ_lt_succ enough) rest
  rw [List.append_assoc, stringChars_append, readMembers, nextKey_first blank, ok_bind]
  simp only [readString_escaped, readColon_colon, value, others, ok_bind]

end Members

/-! Values -/

theorem skipSpace_chars (v : Json) (rest : List Char) : skipSpace (v.chars ++ rest) = v.chars ++ rest := by
  obtain ⟨c, cs, text, plain, -⟩ := head_chars_item v
  rw [text, List.cons_append, skipSpace_cons plain]

theorem readStart_digit {c : Char} (digit : isDigit c = true) {cs rest : List Char} {n : Number}
    (number : readNumber false (c :: cs) = .ok (n, rest)) :
    readStart (c :: cs) = .ok (.scalar (.number n), rest) := by
  rw [readStart.eq_def]
  split
  case h_1 none => cases none
  case h_9 same =>
    cases same
    rw [if_pos digit, number]
    rfl
  all_goals
    rename_i same
    exact absurd (List.cons.inj same).1 (ne_of_apart digit (by decide))

/-- No value begins with a blank. -/
theorem readStart_blank {c : Char} (blank : isBlank c = true) (cs : List Char) :
    readStart (c :: cs) = .error (.next .expectedValue (c :: cs)) := by
  have digit : isDigit c = false := by
    rw [← Bool.not_eq_true]
    intro digit
    rw [not_isBlank_of_isDigit digit] at blank
    cases blank
  rw [readStart.eq_def]
  split
  case h_1 none => cases none
  case h_9 same =>
    cases same
    rw [digit]
    rfl
  all_goals
    rename_i same
    exact absurd (List.cons.inj same).1 (ne_of_apart blank (by decide))

theorem readStart_integer {i : Int} (fits : (Number.integer i).Fits) {rest : List Char}
    (ends : Ends continuesNumber rest) :
    readStart (signedDigits i ++ rest) = .ok (.scalar (.int i), rest) := by
  have number := readNumber_digits fits ends
  by_cases negative : i < 0
  · simp only [negative, decide_true] at number
    rw [signedDigits, if_pos negative, List.cons_append, readStart, number]
    rfl
  · simp only [negative, decide_false] at number
    rw [signedDigits, if_neg negative]
    cases digits : decimalDigits i.natAbs with
    | nil => exact absurd digits (decimalDigits_ne_nil _)
    | cons d ds =>
      have digit := isDigit_of_mem_decimalDigits i.natAbs d (by rw [digits]; exact List.mem_cons_self)
      rw [digits] at number
      exact readStart_digit digit number

theorem readWord_append (word rest : List Char) : readWord word (word ++ rest) = .ok rest := by
  induction word with
  | nil => rfl
  | cons c word ih => rw [List.cons_append, readWord, if_pos rfl, ih]

theorem readStart_chars {v : Json} (scalar : v.IsScalar) (legible : v.Legible 0) (free : v.FloatFree)
    {rest : List Char} (ends : Ends continuesNumber rest) :
    readStart (v.chars ++ rest) = .ok (.scalar v, rest) := by
  cases free with
  | null =>
    change (readWord "ull".toList ("ull".toList ++ rest)).map _ = _
    rw [readWord_append]
    rfl
  | bool b =>
    cases b with
    | true =>
      change (readWord "rue".toList ("rue".toList ++ rest)).map _ = _
      rw [readWord_append]
      rfl
    | false =>
      change (readWord "alse".toList ("alse".toList ++ rest)).map _ = _
      rw [readWord_append]
      rfl
  | integer i => exact readStart_integer legible ends
  | string s =>
    rw [chars, stringChars_append, readStart, readString_escaped]
    rfl
  | array items => cases scalar
  | object members => cases scalar

theorem readValue_scalar {v : Json} (scalar : v.IsScalar) (legible : v.Legible 0) (free : v.FloatFree)
    (depth : Nat) {rest : List Char} (ends : Ends continuesNumber rest) :
    readValue depth (v.chars ++ rest) = .ok (v, rest) := by
  rw [readValue, skipSpace_chars, readStart_chars scalar legible free ends]
  rfl

theorem sortMembers_of_ascending {ms : List (String × Json)}
    (ascending : ms.Pairwise fun a b => a.1 < b.1) : sortMembers ms = ms := by
  have folded := foldl_insertEntry ascending
  simpa only [sortMembers, insertMember_eq_insertEntry] using folded

theorem length_le_itemsChars (xs : List Json) : xs.length ≤ (itemsChars xs).length := by
  induction xs with
  | nil => exact Nat.le_refl _
  | cons x xs ih =>
    rw [itemsChars, List.length_cons, List.length_cons, List.length_append]
    omega

theorem length_le_spacedMembers {α : Type} (gap : List Char) (write : α → List Char)
    (ms : List (String × α)) : ms.length ≤ (spacedMembers gap write ms).length := by
  induction ms with
  | nil => exact Nat.le_refl _
  | cons m ms ih =>
    simp only [spacedMembers, List.length_cons, List.length_append]
    omega

theorem readStart_list (cs : List Char) : readStart ('[' :: cs) = .ok (.list, '[' :: cs) := rfl

theorem readStart_members (cs : List Char) : readStart ('\x7b' :: cs) = .ok (.members, '\x7b' :: cs) := rfl

theorem readValue_array {depth : Nat} {xs : List Json}
    (each : ∀ x ∈ xs, ∀ rest, Ends continuesNumber rest →
      readValue depth (x.chars ++ rest) = .ok (x, rest)) (rest : List Char) :
    readValue (depth + 1) ((array xs).chars ++ rest) = .ok (.array xs, rest) := by
  rw [readValue, skipSpace_chars]
  cases xs with
  | nil =>
    rw [chars, List.cons_append, readStart_list, ok_bind]
    simp only [List.drop_one, List.tail_cons, List.singleton_append, readItems, nextItem_end,
      closeList_end, ok_bind]
  | cons x xs =>
    have item := each x List.mem_cons_self _ (ends_itemsChars xs rest)
    have size := length_le_itemsChars xs
    have others := readItems_itemsChars (fun y member => each y (List.mem_cons_of_mem _ member))
      (show xs.length < ('[' :: (x.chars ++ itemsChars xs ++ [']'] ++ rest)).length by
        simp only [List.length_cons, List.length_append]
        omega) rest
    rw [chars, List.cons_append, readStart_list, ok_bind]
    simp only [List.drop_one, List.tail_cons, List.append_assoc, List.singleton_append] at others ⊢
    rw [readItems, nextItem_first, ok_bind]
    simp only [item, others, ok_bind]

theorem readValue_object {depth : Nat} {ms : List (String × Json)}
    (ascending : ms.Pairwise fun a b => a.1 < b.1)
    (each : ∀ m ∈ ms, ∀ rest, Ends continuesNumber rest →
      readValue depth (m.2.chars ++ rest) = .ok (m.2, rest)) (rest : List Char) :
    readValue (depth + 1) ((object ms).chars ++ rest) = .ok (.object ms, rest) := by
  have blank : ∀ c ∈ ([] : List Char), isSpace c = true := List.forall_mem_nil _
  rw [readValue, skipSpace_chars]
  cases ms with
  | nil =>
    rw [chars, List.cons_append, readStart_members, ok_bind]
    simp only [List.drop_one, List.tail_cons, List.singleton_append, readMembers]
    rw [← List.nil_append ('\x7d' :: rest)]
    simp only [nextKey_end blank, closeObject_end blank, ok_bind]
    rfl
  | cons m ms =>
    obtain ⟨k, v⟩ := m
    have size := length_le_spacedMembers [] chars ms
    have all := readMembers_first blank blank each
      (show ms.length + 1 < ((Json.object ((k, v) :: ms)).chars ++ rest).length + 1 by
        rw [chars, membersChars_eq_spaced]
        simp only [List.length_cons, List.length_append]
        omega) rest
    rw [chars, membersChars_eq_spaced, List.cons_append] at all ⊢
    rw [readStart_members, ok_bind]
    simp only [List.drop_one, List.tail_cons, List.append_assoc, List.nil_append, List.cons_append]
      at all ⊢
    rw [all, ok_bind, sortMembers_of_ascending ascending]

/-- A written value is read back, where nothing goes on with a number at its end. -/
theorem readValue_chars {depth : Nat} {v : Json} (legible : v.Legible depth) (free : v.FloatFree)
    {rest : List Char} (ends : Ends continuesNumber rest) :
    readValue depth (v.chars ++ rest) = .ok (v, rest) := by
  induction depth generalizing v rest with
  | zero =>
    refine readValue_scalar ?_ legible free 0 ends
    cases free with
    | array items => exact legible
    | object members => exact legible
    | _ => exact True.intro
  | succ depth ih =>
    cases free with
    | array items => exact readValue_array (fun x member _ => ih (legible x member) (items x member)) rest
    | object members =>
      obtain ⟨ascending, each⟩ := legible
      exact readValue_object ascending (fun m member _ => ih (each m member) (members m member)) rest
    | null => exact @readValue_scalar .null True.intro True.intro .null _ _ ends
    | bool b => exact @readValue_scalar (.bool b) True.intro True.intro (.bool b) _ _ ends
    | integer i => exact @readValue_scalar (.int i) True.intro legible (.integer i) _ _ ends
    | string s => exact @readValue_scalar (.string s) True.intro True.intro (.string s) _ _ ends

end EventLedger.Json
