namespace EventLedger.Text

def utf8Bytes (c : Char) : List UInt8 :=
  let n := c.toNat
  if n < 0x80 then [.ofNat n]
  else if n < 0x800 then [.ofNat (0xC0 + n / 0x40), .ofNat (0x80 + n % 0x40)]
  else if n < 0x10000 then
    [.ofNat (0xE0 + n / 0x1000), .ofNat (0x80 + n / 0x40 % 0x40), .ofNat (0x80 + n % 0x40)]
  else
    [.ofNat (0xF0 + n / 0x40000), .ofNat (0x80 + n / 0x1000 % 0x40),
      .ofNat (0x80 + n / 0x40 % 0x40), .ofNat (0x80 + n % 0x40)]

def encodeUtf8 (s : String) : List UInt8 := s.toList.flatMap utf8Bytes

/-- The ranges in which the bytes after a leading byte must lie, and the part of the code point
    that the leading byte holds. -/
def following? (lead : Nat) : Option (Nat × List (Nat × Nat)) :=
  let tail := (0x80, 0xBF)
  if lead < 0x80 then some (lead, [])
  else if lead < 0xC2 then none
  else if lead < 0xE0 then some (lead - 0xC0, [tail])
  else if lead = 0xE0 then some (0, [(0xA0, 0xBF), tail])
  else if lead = 0xED then some (0xD, [(0x80, 0x9F), tail])
  else if lead < 0xF0 then some (lead - 0xE0, [tail, tail])
  else if lead = 0xF0 then some (0, [(0x90, 0xBF), tail, tail])
  else if lead < 0xF4 then some (lead - 0xF0, [tail, tail, tail])
  else if lead = 0xF4 then some (4, [(0x80, 0x8F), tail, tail])
  else none

/-- Reads bytes in the given ranges into a code point. It is none if a byte does not fit; that byte
    stays in the rest. -/
def readTails (n : Nat) : List (Nat × Nat) → List UInt8 → Option Nat × List UInt8
  | [], bs => (some n, bs)
  | _ :: _, [] => (none, [])
  | (low, high) :: ranges, b :: bs =>
    if low ≤ b.toNat ∧ b.toNat ≤ high then readTails (0x40 * n + b.toNat % 0x40) ranges bs
    else (none, b :: bs)

theorem readTails_length (n : Nat) (ranges : List (Nat × Nat)) (bs : List UInt8) :
    (readTails n ranges bs).2.length ≤ bs.length := by
  fun_induction readTails n ranges bs with
  | case1 => simp
  | case2 => simp
  | case3 _ _ _ _ _ _ _ ih => simp only [List.length_cons]; omega
  | case4 => simp

/-- Reads one character. It is none for a longest run of bytes that begins one but does not
    complete it, or for a byte that begins none. -/
def readUtf8 (b : UInt8) (bs : List UInt8) : Option Char × List UInt8 :=
  match following? b.toNat with
  | none => (none, bs)
  | some (n, ranges) =>
    let (code, rest) := readTails n ranges bs
    (code.map Char.ofNat, rest)

theorem readUtf8_length (b : UInt8) (bs : List UInt8) :
    (readUtf8 b bs).2.length ≤ bs.length := by
  unfold readUtf8
  split
  · simp
  · exact readTails_length _ _ bs

def utf8Chars : List UInt8 → List (Option Char)
  | [] => []
  | b :: bs => (readUtf8 b bs).1 :: utf8Chars (readUtf8 b bs).2
termination_by bs => bs.length
decreasing_by
  have := readUtf8_length b bs
  simp only [List.length_cons]
  omega

def everyChar? : List (Option Char) → Option (List Char)
  | [] => some []
  | none :: _ => none
  | some c :: cs => (everyChar? cs).map (c :: ·)

def decodeUtf8? (bs : List UInt8) : Option String := (everyChar? (utf8Chars bs)).map String.ofList

def decodeUtf8 (bs : List UInt8) : String :=
  String.ofList ((utf8Chars bs).map fun c => c.getD '\uFFFD')

end EventLedger.Text
