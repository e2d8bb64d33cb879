import EventLedger.Identity.EventId
import Mathlib

/-! The text of an identifier holds its digits to base 32, and the identifier is read back from it. Main
statement: a text is read as an identifier if its 26 characters are digits, small letters taken for
capitals, and it is the text of that identifier if it has no small letters and starts with a digit up to
7. -/

namespace EventLedger

theorem mapM_eq_some {α β : Type} {f : α → Option β} {as : List α} {bs : List β} :
    as.mapM f = some bs ↔ List.Forall₂ (fun a b => f a = some b) as bs := by
  induction as generalizing bs with
  | nil => cases bs <;> simp
  | cons a as ih =>
    rw [List.mapM_cons]
    cases bs with
    | nil => simp [Option.bind_eq_some_iff]
    | cons b bs => simp [Option.bind_eq_some_iff, ← ih]

namespace Ulid

/-- The number that digits stand for. -/
def number (ds : List Nat) : Nat := ds.foldl (fun v d => 32 * v + d) 0

/-- The last digits of a number, the highest first. -/
def digits : Nat → Nat → List Nat
  | 0, _ => []
  | n + 1, v => digits n (v / 32) ++ [v % 32]

theorem ofDigits_value (ds : List Nat) : (ofDigits ds).value = number ds % count := rfl

theorem ext {u w : Ulid} (same : u.value = w.value) : u = w := by
  cases u
  cases w
  cases same
  rfl

theorem number_append (ds : List Nat) (d : Nat) : number (ds ++ [d]) = 32 * number ds + d := by
  unfold number
  rw [List.foldl_append]
  rfl

theorem length_digits (n v : Nat) : (digits n v).length = n := by
  induction n generalizing v with
  | zero => rfl
  | succ n ih => rw [digits, List.length_append, ih, List.length_singleton]

theorem number_digits (n v : Nat) : number (digits n v) = v % 32 ^ n := by
  induction n generalizing v with
  | zero => rw [pow_zero, Nat.mod_one]; rfl
  | succ n ih =>
    rw [digits, number_append, ih, pow_succ', Nat.mod_mul]
    omega

theorem digits_number {ds : List Nat} (small : ∀ d ∈ ds, d < 32) : digits ds.length (number ds) = ds := by
  induction ds using List.reverseRecOn with
  | nil => rfl
  | append_singleton ds d ih =>
    have last : d < 32 := small d (by simp)
    have quotient : (32 * number ds + d) / 32 = number ds := by omega
    have remainder : (32 * number ds + d) % 32 = d := by omega
    rw [List.length_append, List.length_singleton, digits, number_append, quotient, remainder,
      ih fun d member => small d (List.mem_append_left _ member)]

theorem number_lt {d : Nat} {ds : List Nat} (small : ∀ d ∈ ds, d < 32) :
    number (d :: ds) < (d + 1) * 32 ^ ds.length := by
  induction ds using List.reverseRecOn with
  | nil =>
    change 32 * 0 + d < (d + 1) * 1
    omega
  | append_singleton ds last ih =>
    have before := ih fun d member => small d (List.mem_append_left _ member)
    have low : last < 32 := small last (by simp)
    rw [← List.cons_append, number_append, List.length_append, List.length_singleton]
    calc 32 * number (d :: ds) + last < 32 * (number (d :: ds) + 1) := by omega
      _ ≤ 32 * ((d + 1) * 32 ^ ds.length) := Nat.mul_le_mul_left 32 before
      _ = (d + 1) * 32 ^ (ds.length + 1) := by ring

theorem digitChar_mod (n : Nat) : digitChar (n % 32) = digitChar n := by
  rw [digitChar, digitChar, Nat.mod_mod]

theorem chars_eq (u : Ulid) : u.chars = (digits 26 u.value).map digitChar := by
  have all (n v : Nat) : ((List.range n).map fun i => digitChar (v / Nat.pow 32 (n - 1 - i))) =
      (digits n v).map digitChar := by
    induction n generalizing v with
    | zero => rfl
    | succ n ih =>
      rw [List.range_succ, List.map_append, digits, List.map_append, ← ih]
      congr 1
      · refine List.map_congr_left fun i member => ?_
        have below : i < n := List.mem_range.mp member
        have exponent : n + 1 - 1 - i = (n - 1 - i) + 1 := by omega
        have power : Nat.pow 32 (n - 1 - i + 1) = 32 * Nat.pow 32 (n - 1 - i) := pow_succ' 32 _
        rw [exponent, power, Nat.div_div_eq_div_mul]
      · rw [List.map_singleton, List.map_singleton, digitChar_mod, Nat.add_sub_cancel, Nat.sub_self]
        simp
  exact all 26 u.value

theorem digitValue?_digitChar (n : Nat) : digitValue? (digitChar n) = some (n % 32) := by
  have all : ∀ d < 32, digitValue? (digitChar d) = some d := by decide
  rw [← digitChar_mod]
  exact all (n % 32) (Nat.mod_lt _ (by decide))

theorem digitValue?_eq_some {c : Char} {d : Nat} :
    digitValue? c = some d ↔ d < 32 ∧ digitChar d = c.toUpper := by
  constructor
  · intro valued
    obtain ⟨below, here, -⟩ := List.findIdx?_eq_some_iff_getElem.mp valued
    have small : d < 32 := below
    refine ⟨small, ?_⟩
    rw [digitChar, Nat.mod_eq_of_lt small, List.getD_eq_getElem _ _ below]
    exact of_decide_eq_true here
  · rintro ⟨small, same⟩
    have capital : (digitChar d).toUpper = digitChar d := by
      have all : ∀ d < 32, (digitChar d).toUpper = digitChar d := by decide
      exact all d small
    have valued := digitValue?_digitChar d
    rw [Nat.mod_eq_of_lt small] at valued
    rw [← valued, digitValue?, digitValue?, ← same, capital]

theorem mem_alphabet {c : Char} : c ∈ alphabet ↔ ∃ d < 32, digitChar d = c := by
  constructor
  · intro member
    obtain ⟨d, below, rfl⟩ := List.getElem_of_mem member
    have small : d < 32 := below
    refine ⟨d, small, ?_⟩
    rw [digitChar, Nat.mod_eq_of_lt small, List.getD_eq_getElem _ _ below]
  · rintro ⟨d, small, rfl⟩
    rw [digitChar, Nat.mod_eq_of_lt small, List.getD_eq_getElem _ _ (show d < alphabet.length from small)]
    exact List.getElem_mem _

/-- A digit takes one byte, so 26 bytes are 26 digits. -/
theorem utf8ByteSize_of_digits {s : String} (digits : ∀ c ∈ s.toList, c.toUpper ∈ alphabet) :
    s.utf8ByteSize = s.toList.length := by
  have size {c : Char} (digit : c.toUpper ∈ alphabet) : c.utf8Size = 1 := by
    refine Char.utf8Size_eq_one_iff.mpr ?_
    by_cases lower : c.isLower = true
    · simp only [Char.isLower, Bool.and_eq_true, decide_eq_true_eq] at lower
      exact UInt32.le_trans lower.2 (by decide)
    · rw [Char.toUpper_eq_of_not_isLower lower] at digit
      obtain ⟨d, small, rfl⟩ := mem_alphabet.mp digit
      have all : ∀ d < 32, (digitChar d).val ≤ 127 := by decide
      exact all d small
  have sizes (cs : List Char) (digits : ∀ c ∈ cs, c.toUpper ∈ alphabet) :
      String.utf8Len cs = cs.length := by
    induction cs with
    | nil => rfl
    | cons c cs ih =>
      rw [String.utf8Len_cons, size (digits c List.mem_cons_self), List.length_cons,
        ih fun c member => digits c (List.mem_cons_of_mem _ member)]
  conv_lhs => rw [← String.ofList_toList (s := s)]
  rw [String.utf8ByteSize_ofList, sizes _ digits]

theorem upper_of_valued {cs : List Char} {ds : List Nat}
    (valued : List.Forall₂ (fun c d => digitValue? c = some d) cs ds) :
    ∀ c ∈ cs, c.toUpper ∈ alphabet := by
  induction valued with
  | nil => exact fun _ member => nomatch member
  | cons value _ ih =>
    intro c member
    rcases List.mem_cons.mp member with rfl | member
    · exact mem_alphabet.mpr ⟨_, digitValue?_eq_some.mp value⟩
    · exact ih c member

theorem parse_eq_ok {s : String} {u : Ulid} :
    parse s = .ok u ↔ ∃ ds, List.Forall₂ (fun c d => digitValue? c = some d) s.toList ds ∧
      s.toList.length = 26 ∧ ofDigits ds = u := by
  unfold parse
  constructor
  · intro parsed
    split at parsed
    · cases parsed
    · rename_i size
      split at parsed
      · rename_i ds read
        have valued := mapM_eq_some.mp read
        cases parsed
        have length := utf8ByteSize_of_digits (upper_of_valued valued)
        exact ⟨ds, valued, length.symm.trans (not_not.mp size), rfl⟩
      · cases parsed
  · rintro ⟨ds, valued, length, rfl⟩
    rw [utf8ByteSize_of_digits (upper_of_valued valued), if_neg (not_not.mpr length), mapM_eq_some.mpr valued]

/-- A text of 26 digits, in capitals or small letters, is read as an identifier. -/
theorem exists_parse_iff {s : String} :
    (∃ u, parse s = .ok u) ↔ s.toList.length = 26 ∧ ∀ c ∈ s.toList, c.toUpper ∈ alphabet := by
  constructor
  · rintro ⟨u, parsed⟩
    obtain ⟨ds, valued, length, -⟩ := parse_eq_ok.mp parsed
    exact ⟨length, upper_of_valued valued⟩
  · rintro ⟨length, digits⟩
    have read (cs : List Char) (digits : ∀ c ∈ cs, c.toUpper ∈ alphabet) :
        ∃ ds, List.Forall₂ (fun c d => digitValue? c = some d) cs ds := by
      induction cs with
      | nil => exact ⟨[], .nil⟩
      | cons c cs ih =>
        obtain ⟨d, valued⟩ := mem_alphabet.mp (digits c List.mem_cons_self)
        obtain ⟨ds, others⟩ := ih fun c member => digits c (List.mem_cons_of_mem _ member)
        exact ⟨d :: ds, .cons (digitValue?_eq_some.mpr valued) others⟩
    obtain ⟨ds, valued⟩ := read s.toList digits
    exact ⟨ofDigits ds, parse_eq_ok.mpr ⟨ds, valued, length, rfl⟩⟩

theorem digits_lt (n v : Nat) : ∀ d ∈ digits n v, d < 32 := by
  induction n generalizing v with
  | zero => exact fun _ member => nomatch member
  | succ n ih =>
    intro d member
    rw [digits, List.mem_append, List.mem_singleton] at member
    rcases member with member | rfl
    · exact ih _ d member
    · exact Nat.mod_lt _ (by decide)

theorem parse_text (u : Ulid) : parse u.text = .ok u := by
  refine parse_eq_ok.mpr ⟨digits 26 u.value, ?_, ?_, ?_⟩
  · rw [text, String.toList_ofList, chars_eq, List.forall₂_map_left_iff, List.forall₂_same]
    intro d member
    rw [digitValue?_digitChar, Nat.mod_eq_of_lt (digits_lt _ _ d member)]
  · rw [text, String.toList_ofList, chars_eq, List.length_map, length_digits]
  · have below : u.value < 32 ^ 26 := lt_trans u.value_lt (by decide)
    refine ext ?_
    rw [ofDigits_value, number_digits, Nat.mod_eq_of_lt below, Nat.mod_eq_of_lt u.value_lt]

theorem head_chars (u : Ulid) : ∃ d < 8, u.chars.head? = some (digitChar d) :=
  ⟨u.value / 32 ^ 25, Nat.div_lt_of_lt_mul u.value_lt, rfl⟩

theorem mem_chars {u : Ulid} {c : Char} (member : c ∈ u.chars) : c ∈ alphabet := by
  rw [chars_eq] at member
  obtain ⟨d, digit, rfl⟩ := List.mem_map.mp member
  exact mem_alphabet.mpr ⟨d, digits_lt _ _ d digit, rfl⟩

theorem not_isLower_of_mem_alphabet {c : Char} (member : c ∈ alphabet) : c.isLower = false := by
  obtain ⟨d, small, rfl⟩ := mem_alphabet.mp member
  have all : ∀ d < 32, (digitChar d).isLower = false := by decide
  exact all d small

theorem map_digitChar {cs : List Char} {ds : List Nat}
    (valued : List.Forall₂ (fun c d => digitValue? c = some d) cs ds)
    (capitals : ∀ c ∈ cs, c.isLower = false) : cs = ds.map digitChar ∧ ∀ d ∈ ds, d < 32 := by
  induction valued with
  | nil => exact ⟨rfl, fun _ member => nomatch member⟩
  | @cons c d cs ds value _ ih =>
    obtain ⟨small, same⟩ := digitValue?_eq_some.mp value
    obtain ⟨rest, others⟩ := ih fun c member => capitals c (List.mem_cons_of_mem _ member)
    have capital : c.toUpper = c :=
      Char.toUpper_eq_of_not_isLower (Bool.eq_false_iff.mp (capitals c List.mem_cons_self))
    rw [List.map_cons, same, capital, ← rest]
    refine ⟨rfl, fun x member => ?_⟩
    rcases List.mem_cons.mp member with rfl | member
    · exact small
    · exact others x member

/-- Small letters are read as capitals, and of a first digit above 7 the highest bits are dropped: in both
    cases the text is not written again. -/
theorem text_eq_iff {s : String} {u : Ulid} (parsed : parse s = .ok u) :
    u.text = s ↔ (∀ c ∈ s.toList, c.isLower = false) ∧ ∀ c, s.toList.head? = some c → c ≤ '7' := by
  constructor
  · rintro rfl
    rw [text, String.toList_ofList]
    refine ⟨fun c member => not_isLower_of_mem_alphabet (mem_chars member), fun c first => ?_⟩
    obtain ⟨d, small, head⟩ := u.head_chars
    rw [head] at first
    have all : ∀ d < 8, digitChar d ≤ '7' := by decide
    exact Option.some.inj first ▸ all d small
  · rintro ⟨capitals, first⟩
    obtain ⟨ds, valued, length, value⟩ := parse_eq_ok.mp parsed
    obtain ⟨same, small⟩ := map_digitChar valued capitals
    cases ds with
    | nil =>
      rw [same] at length
      cases length
    | cons d ds =>
      have count_digits : ds.length = 25 := by
        rw [same, List.length_map, List.length_cons] at length
        omega
      have low : d ≤ 7 := by
        have all : ∀ d < 32, digitChar d ≤ '7' → d ≤ 7 := by decide
        exact all d (small d List.mem_cons_self) (first _ (by rw [same]; rfl))
      have fits : number (d :: ds) < count := by
        have bound := number_lt (d := d) fun d member => small d (List.mem_cons_of_mem _ member)
        rw [count_digits] at bound
        calc number (d :: ds) < (d + 1) * 32 ^ 25 := bound
          _ ≤ 8 * 32 ^ 25 := Nat.mul_le_mul_right _ (by omega)
          _ = count := by decide
      have whole : u.value = number (d :: ds) := by
        rw [← value, ofDigits_value, Nat.mod_eq_of_lt fits]
      have back := digits_number small
      rw [List.length_cons, count_digits] at back
      rw [text, chars_eq, whole, back, ← same, String.ofList_toList]

end Ulid

theorem EventId.isUlid_iff {id : EventId} : id.isUlid = true ↔ ∃ u, Ulid.parse id.text = .ok u := by
  unfold EventId.isUlid
  cases Ulid.parse id.text with
  | error e => simp [Except.toOption]
  | ok u => simp [Except.toOption]

end EventLedger
