import EventLedger.Text.Utf8
import Mathlib.Tactic.SplitIfs

/-! Text that is written as bytes is read back, whatever bytes stand behind it. -/

namespace EventLedger.Text

theorem toNat_byte {n : Nat} (small : n < 0x100) : (UInt8.ofNat n).toNat = n := by
  rw [UInt8.toNat_ofNat']
  omega

theorem scalar_cases (c : Char) : c.toNat < 0xD800 ∨ 0xDFFF < c.toNat ∧ c.toNat < 0x110000 := c.valid

theorem following_two {n : Nat} (low : 0x80 ≤ n) (high : n < 0x800) :
    following? (0xC0 + n / 0x40) = some (n / 0x40, [(0x80, 0xBF)]) := by
  rw [following?, if_neg (by omega), if_neg (by omega), if_pos (by omega), Nat.add_sub_cancel_left]

/-- A leading byte of three allows the second byte that is written behind it. -/
theorem following_three {n : Nat} (low : 0x800 ≤ n) (high : n < 0x10000)
    (scalar : n < 0xD800 ∨ 0xDFFF < n) :
    ∃ range : Nat × Nat, following? (0xE0 + n / 0x1000) = some (n / 0x1000, [range, (0x80, 0xBF)]) ∧
      range.1 ≤ 0x80 + n / 0x40 % 0x40 ∧ 0x80 + n / 0x40 % 0x40 ≤ range.2 := by
  rw [following?, if_neg (by omega), if_neg (by omega), if_neg (by omega)]
  split_ifs with first surrogate
  · exact ⟨(0xA0, 0xBF), by rw [show n / 0x1000 = 0 by omega], by omega, by omega⟩
  · exact ⟨(0x80, 0x9F), by rw [show n / 0x1000 = 0xD by omega], by omega, by omega⟩
  · exact ⟨(0x80, 0xBF), by rw [Nat.add_sub_cancel_left], by omega, by omega⟩
  · omega
  · omega
  · omega
  · omega

theorem following_four {n : Nat} (low : 0x10000 ≤ n) (high : n < 0x110000) :
    ∃ range : Nat × Nat,
      following? (0xF0 + n / 0x40000) = some (n / 0x40000, [range, (0x80, 0xBF), (0x80, 0xBF)]) ∧
      range.1 ≤ 0x80 + n / 0x1000 % 0x40 ∧ 0x80 + n / 0x1000 % 0x40 ≤ range.2 := by
  rw [following?, if_neg (by omega), if_neg (by omega), if_neg (by omega), if_neg (by omega),
    if_neg (by omega), if_neg (by omega)]
  split_ifs with first middle last
  · exact ⟨(0x90, 0xBF), by rw [show n / 0x40000 = 0 by omega], by omega, by omega⟩
  · exact ⟨(0x80, 0xBF), by rw [Nat.add_sub_cancel_left], by omega, by omega⟩
  · exact ⟨(0x80, 0x8F), by rw [show n / 0x40000 = 4 by omega], by omega, by omega⟩
  · omega

theorem readTails_byte {low high n k : Nat} {ranges : List (Nat × Nat)} {bs : List UInt8}
    (small : k < 0x40) (within : low ≤ 0x80 + k ∧ 0x80 + k ≤ high) :
    readTails n ((low, high) :: ranges) (.ofNat (0x80 + k) :: bs) =
      readTails (0x40 * n + k) ranges bs := by
  have tail : (0x80 + k) % 0x40 = k := by omega
  rw [readTails, toNat_byte (by omega), if_pos within, tail]

theorem readUtf8_lead {lead n : Nat} {ranges : List (Nat × Nat)} {bs rest : List UInt8} {c : Char}
    (small : lead < 0x100) (follow : following? lead = some (n, ranges))
    (tails : readTails n ranges bs = (some c.toNat, rest)) :
    readUtf8 (.ofNat lead) bs = (some c, rest) := by
  rw [readUtf8, toNat_byte small, follow]
  simp only [tails, Option.map_some, Char.ofNat_toNat]

/-- The bytes of a character are read back as the character, whatever stands behind them. -/
theorem readUtf8_utf8Bytes (c : Char) (rest : List UInt8) :
    ∃ b bs, utf8Bytes c ++ rest = b :: bs ∧ readUtf8 b bs = (some c, rest) := by
  have scalar := scalar_cases c
  unfold utf8Bytes
  dsimp only
  split_ifs with one two three
  · have follow : following? c.toNat = some (c.toNat, []) := by rw [following?, if_pos one]
    exact ⟨_, _, rfl, readUtf8_lead (by omega) follow rfl⟩
  · have follow := following_two (by omega) two
    refine ⟨_, _, rfl, readUtf8_lead (by omega) follow ?_⟩
    have code : 0x40 * (c.toNat / 0x40) + c.toNat % 0x40 = c.toNat := by omega
    rw [List.append_eq, List.singleton_append, readTails_byte (by omega) (by omega), readTails, code]
  · obtain ⟨⟨low, high⟩, follow, within⟩ := following_three (by omega) three (by omega)
    refine ⟨_, _, rfl, readUtf8_lead (by omega) follow ?_⟩
    have code : 0x40 * (0x40 * (c.toNat / 0x1000) + c.toNat / 0x40 % 0x40) + c.toNat % 0x40 = c.toNat := by
      omega
    rw [List.append_eq, List.cons_append, List.singleton_append, readTails_byte (by omega) within,
      readTails_byte (by omega) (by omega), readTails, code]
  · obtain ⟨⟨low, high⟩, follow, within⟩ := @following_four c.toNat (by omega) (by omega)
    refine ⟨_, _, rfl, readUtf8_lead (by omega) follow ?_⟩
    have code : 0x40 * (0x40 * (0x40 * (c.toNat / 0x40000) + c.toNat / 0x1000 % 0x40) +
        c.toNat / 0x40 % 0x40) + c.toNat % 0x40 = c.toNat := by omega
    rw [List.append_eq, List.cons_append, List.cons_append, List.singleton_append,
      readTails_byte (by omega) within, readTails_byte (by omega) (by omega),
      readTails_byte (by omega) (by omega), readTails, code]

/-- A byte below 0x80 stands for a character of its own. -/
theorem toNat_eq_of_mem_utf8Bytes {c : Char} {b : UInt8} (member : b ∈ utf8Bytes c)
    (small : b.toNat < 0x80) : b.toNat = c.toNat := by
  have scalar := scalar_cases c
  unfold utf8Bytes at member
  dsimp only at member
  split_ifs at member with one two three
  · rw [List.mem_singleton.mp member, toNat_byte (by omega)]
  all_goals
    simp only [List.mem_cons, List.not_mem_nil, or_false] at member
    rcases member with rfl | rfl | rfl | rfl <;> rw [toNat_byte (by omega)] at small <;> omega

theorem utf8Chars_utf8Bytes (c : Char) (rest : List UInt8) :
    utf8Chars (utf8Bytes c ++ rest) = some c :: utf8Chars rest := by
  obtain ⟨b, bs, bytes, read⟩ := readUtf8_utf8Bytes c rest
  rw [bytes, utf8Chars, read]

theorem utf8Chars_encoded (cs : List Char) (rest : List UInt8) :
    utf8Chars (cs.flatMap utf8Bytes ++ rest) = cs.map some ++ utf8Chars rest := by
  induction cs with
  | nil => rfl
  | cons c cs ih =>
    rw [List.flatMap_cons, List.append_assoc, utf8Chars_utf8Bytes, ih, List.map_cons, List.cons_append]

theorem everyChar?_eq_some_iff {cs : List (Option Char)} {ds : List Char} :
    everyChar? cs = some ds ↔ cs = ds.map some := by
  induction cs generalizing ds with
  | nil => cases ds <;> simp [everyChar?]
  | cons c cs ih =>
    cases c with
    | none => cases ds <;> simp [everyChar?]
    | some c =>
      cases ds with
      | nil => simp [everyChar?]
      | cons d ds =>
        simp only [everyChar?, Option.map_eq_some_iff, ih, List.map_cons, List.cons.injEq,
          Option.some.injEq]
        constructor
        · rintro ⟨_, others, rfl, rfl⟩
          exact ⟨rfl, others⟩
        · rintro ⟨rfl, others⟩
          exact ⟨_, others, rfl, rfl⟩

theorem decodeUtf8?_eq_some_iff {bs : List UInt8} {s : String} :
    decodeUtf8? bs = some s ↔ utf8Chars bs = s.toList.map some := by
  rw [decodeUtf8?, Option.map_eq_some_iff]
  constructor
  · rintro ⟨cs, chars, rfl⟩
    rw [everyChar?_eq_some_iff.mp chars, String.toList_ofList]
  · exact fun chars => ⟨s.toList, everyChar?_eq_some_iff.mpr chars, String.ofList_toList⟩

theorem decodeUtf8?_encodeUtf8 (s : String) : decodeUtf8? (encodeUtf8 s) = some s := by
  have chars := utf8Chars_encoded s.toList []
  rw [List.append_nil, utf8Chars, List.append_nil] at chars
  exact decodeUtf8?_eq_some_iff.mpr chars

theorem readTails_append {n code : Nat} {ranges : List (Nat × Nat)} {bs rest : List UInt8}
    (read : readTails n ranges bs = (some code, rest)) (more : List UInt8) :
    readTails n ranges (bs ++ more) = (some code, rest ++ more) := by
  fun_induction readTails n ranges bs with
  | case1 n bs =>
    cases read
    rw [readTails]
  | case2 => cases read
  | case3 n low high ranges b bs within ih => rw [List.cons_append, readTails, if_pos within, ih read]
  | case4 => cases read

theorem readUtf8_append {b : UInt8} {bs rest : List UInt8} {c : Char}
    (read : readUtf8 b bs = (some c, rest)) (more : List UInt8) :
    readUtf8 b (bs ++ more) = (some c, rest ++ more) := by
  unfold readUtf8 at *
  cases follow : following? b.toNat with
  | none =>
    rw [follow] at read
    cases read
  | some lead =>
    obtain ⟨n, ranges⟩ := lead
    simp only [follow, Prod.mk.injEq, Option.map_eq_some_iff] at read ⊢
    obtain ⟨⟨code, tails, rfl⟩, rfl⟩ := read
    have := readTails_append (Prod.ext tails rfl) more
    simp [this]

/-- Text keeps its place in front of more bytes. -/
theorem utf8Chars_append {bs : List UInt8} {cs : List Char} (chars : utf8Chars bs = cs.map some)
    (more : List UInt8) : utf8Chars (bs ++ more) = cs.map some ++ utf8Chars more := by
  fun_induction utf8Chars bs generalizing cs with
  | case1 =>
    rw [List.map_eq_nil_iff.mp chars.symm]
    rfl
  | case2 b bs ih =>
    cases cs with
    | nil => cases chars
    | cons c cs =>
      obtain ⟨first, others⟩ := List.cons.inj chars
      have read := readUtf8_append (Prod.ext first rfl) more
      rw [List.cons_append, utf8Chars, read, List.map_cons, List.cons_append, ih others]

theorem decodeUtf8?_append {bs : List UInt8} {s : String} (read : decodeUtf8? bs = some s)
    (t : String) : decodeUtf8? (bs ++ encodeUtf8 t) = some (s ++ t) := by
  rw [decodeUtf8?_eq_some_iff] at *
  rw [utf8Chars_append read, decodeUtf8?_eq_some_iff.mp (decodeUtf8?_encodeUtf8 t),
    String.toList_append, List.map_append]

end EventLedger.Text
