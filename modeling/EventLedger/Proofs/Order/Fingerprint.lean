import EventLedger.Order.Fingerprint
import EventLedger.Proofs.Event.RoundTrip
import EventLedger.Proofs.Json.Strings
import EventLedger.Proofs.Order.Canonical
import EventLedger.Proofs.Reduction.Folding

/-! What a fingerprint tells about a list of events. Main statements: lists with the same ids have one
fingerprint if the first copies of their ids come in the same order; and what is hashed gives away the
lines of the canonical ids one after another, so the ids themselves where each of them is one line. -/

namespace EventLedger

namespace Text

theorem toList_loop (bytes : ByteArray) (i : Nat) (read : List UInt8) :
    ByteArray.toList.loop bytes i read = read.reverse ++ bytes.data.toList.drop i := by
  induction i, read using ByteArray.toList.loop.induct bytes with
  | case1 i read below ih =>
    have inside : i < bytes.data.toList.length := by simpa using below
    have byte : bytes.get! i = bytes.data.toList[i] := by
      rw [Array.getElem_toList]
      exact getElem!_pos bytes.data i (by simpa using below)
    rw [ByteArray.toList.loop, if_pos below, ih, List.drop_eq_getElem_cons inside, byte,
      List.reverse_cons, List.append_assoc, List.singleton_append]
  | case2 i read above =>
    have none : bytes.data.toList.drop i = [] := by simpa using above
    rw [ByteArray.toList.loop, if_neg above, none, List.append_nil]

theorem toUTF8_toList (s : String) : s.toUTF8.toList = s.toList.flatMap String.utf8EncodeChar := by
  have encoded : s.toUTF8 = (s.toList.flatMap String.utf8EncodeChar).toByteArray := by
    conv_lhs => rw [← String.ofList_toList (s := s)]
    rw [String.toUTF8_eq_toByteArray, String.toByteArray_ofList, List.utf8Encode]
  rw [encoded, ByteArray.toList, toList_loop, List.data_toByteArray]
  rfl

theorem flatMap_utf8EncodeChar_inj {cs ds : List Char} :
    cs.flatMap String.utf8EncodeChar = ds.flatMap String.utf8EncodeChar ↔ cs = ds := by
  refine ⟨fun same => ?_, fun same => by rw [same]⟩
  have bytes : (String.ofList cs).toByteArray = (String.ofList ds).toByteArray := by
    rw [String.toByteArray_ofList, String.toByteArray_ofList, List.utf8Encode, List.utf8Encode, same]
  exact String.ofList_injective (String.toByteArray_inj.mp bytes)

theorem hexBytes_injective {bs cs : List UInt8} (same : hexBytes bs = hexBytes cs) : bs = cs := by
  have digits := String.ofList_injective same
  induction bs generalizing cs with
  | nil =>
    cases cs with
    | nil => rfl
    | cons c cs => cases digits
  | cons b bs ih =>
    cases cs with
    | nil => cases digits
    | cons c cs =>
      simp only [List.flatMap_cons, List.cons_append, List.nil_append, List.cons.injEq] at digits
      obtain ⟨high, low, others⟩ := digits
      have rest : bs = cs := ih (congrArg String.ofList others) others
      have digit {m n : Nat} (same : hexDigit m = hexDigit n) : m % 16 = n % 16 := by
        have value := congrArg hexValue? same
        rw [hexValue_hexDigit, hexValue_hexDigit] at value
        exact Option.some.inj value
      have byte : b.toNat = c.toNat := by
        have high := digit high
        have low := digit low
        have small := b.toNat_lt
        have small' := c.toNat_lt
        omega
      rw [UInt8.toNat_inj.mp byte, rest]

/-- A text whose parts are each ended by a line feed has the lines of the parts, and nothing behind them. -/
theorem splitOn_ended (parts : List (List Char)) :
    (parts.flatMap (· ++ ['\n'])).splitOn '\n' = parts.flatMap (·.splitOn '\n') ++ [[]] := by
  induction parts with
  | nil => rfl
  | cons part parts ih =>
    rw [List.flatMap_cons, List.flatMap_cons, List.append_assoc, List.singleton_append,
      List.splitOn_append_cons_self, ih, List.append_assoc]

theorem ended_inj {parts others : List (List Char)} :
    parts.flatMap (· ++ ['\n']) = others.flatMap (· ++ ['\n']) ↔
      parts.flatMap (·.splitOn '\n') = others.flatMap (·.splitOn '\n') := by
  have joined (cs : List Char) : ['\n'].intercalate (cs.splitOn '\n') = cs :=
    List.intercalate_splitOn '\n'
  constructor
  · intro same
    have lines := congrArg (List.splitOn '\n') same
    rw [splitOn_ended, splitOn_ended] at lines
    exact List.append_cancel_right lines
  · intro same
    rw [← joined (parts.flatMap _), splitOn_ended, same, ← splitOn_ended, joined]

end Text

def EventId.lines (id : EventId) : List (List Char) := id.text.toList.splitOn '\n'

/-- Different messages with one digest. -/
def Sha256.Collision (a b : List UInt8) : Prop := a ≠ b ∧ digest a = digest b

namespace Event

def canonicalIds (events : List Event) : List EventId := (canonicalize events).map id

theorem fingerprintInput_eq (events : List Event) :
    fingerprintInput events =
      (((canonicalIds events).map (·.text.toList)).flatMap (· ++ ['\n'])).flatMap
        String.utf8EncodeChar := by
  rw [fingerprintInput, canonicalIds, List.map_map, List.flatMap_map, List.flatMap_assoc]
  refine congrArg List.flatten (List.map_congr_left fun e _ => ?_)
  rw [Text.toUTF8_toList, List.flatMap_append]
  rfl

theorem fingerprintInput_inj_lines {xs ys : List Event} :
    fingerprintInput xs = fingerprintInput ys ↔
      (canonicalIds xs).flatMap EventId.lines = (canonicalIds ys).flatMap EventId.lines := by
  rw [fingerprintInput_eq, fingerprintInput_eq, Text.flatMap_utf8EncodeChar_inj, Text.ended_inj,
    List.flatMap_map, List.flatMap_map]
  rfl

theorem fingerprint_cases {xs ys : List Event} (same : fingerprint xs = fingerprint ys) :
    fingerprintInput xs = fingerprintInput ys ∨
      Sha256.Collision (fingerprintInput xs) (fingerprintInput ys) := by
  by_cases input : fingerprintInput xs = fingerprintInput ys
  · exact Or.inl input
  · exact Or.inr ⟨input, Text.hexBytes_injective same⟩

theorem mem_canonicalIds {events : List Event} {i : EventId} :
    i ∈ canonicalIds events ↔ ∃ e ∈ events, e.id = i := by
  rw [canonicalIds, mem_canonicalize_ids, List.mem_map]

/-- Ids of one line each are what is hashed, line by line. -/
theorem lines_of_whole {events : List Event} (whole : ∀ e ∈ events, '\n' ∉ e.id.text.toList) :
    (canonicalIds events).flatMap EventId.lines = (canonicalIds events).map (·.text.toList) := by
  rw [← List.flatMap_singleton' ((canonicalIds events).map (·.text.toList)), List.flatMap_map]
  refine congrArg List.flatten (List.map_congr_left fun i member => ?_)
  obtain ⟨e, present, rfl⟩ := mem_canonicalIds.mp member
  exact List.splitOn_eq_singleton (whole e present)

theorem fingerprintInput_inj {xs ys : List Event} (whole : ∀ e ∈ xs ++ ys, '\n' ∉ e.id.text.toList) :
    fingerprintInput xs = fingerprintInput ys ↔ canonicalIds xs = canonicalIds ys := by
  obtain ⟨left, right⟩ := List.forall_mem_append.mp whole
  have text : Function.Injective fun i : EventId => i.text.toList := by
    rintro ⟨s⟩ ⟨t⟩ same
    exact congrArg EventId.mk (String.toList_injective same)
  rw [fingerprintInput_inj_lines, lines_of_whole left, lines_of_whole right]
  exact (List.map_injective_iff.mpr text).eq_iff

section Leading

/-- Some copy of one id has a smaller key than all copies of another. -/
def Leads (events : List Event) (i j : EventId) : Prop :=
  ∃ e ∈ events, e.id = i ∧ ∀ f ∈ events, f.id = j → e.orderKey.before f.orderKey

variable {events xs ys : List Event} {i j : EventId}

theorem Leads.asymm (leads : Leads events i j) : ¬ Leads events j i := by
  rintro ⟨f, hf, rfl, first⟩
  obtain ⟨e, he, rfl, first'⟩ := leads
  have less := (OrderKey.before_iff_lt _ _).mp (first' f hf rfl)
  exact absurd ((OrderKey.before_iff_lt _ _).mp (first e he rfl)) less.asymm

instance : Std.Irrefl (Leads events) := ⟨fun _ leads => leads.asymm leads⟩

instance : Std.Antisymm (Leads events) := ⟨fun _ _ leads back => absurd back leads.asymm⟩

theorem canonicalIds_leads (events : List Event) : (canonicalIds events).Pairwise (Leads events) := by
  rw [canonicalIds, List.pairwise_map]
  refine (canonicalize_ascending events).imp_of_mem fun {a b} ha hb less => ?_
  refine ⟨a, mem_of_mem_canonicalize ha, rfl, fun f member same => ?_⟩
  rw [OrderKey.before_iff_lt] at less ⊢
  exact less.trans_le (dedup_key_le (mem_canonicalize.mp hb) f member same)

/-- Of two ids, the one that leads comes first in the canonical sequence. -/
theorem leads_of_canonicalIds_eq (order : canonicalIds xs = canonicalIds ys) (leads : Leads xs i j) :
    Leads ys i j := by
  have first : i ∈ canonicalIds ys := by
    obtain ⟨e, he, same, -⟩ := leads
    exact order ▸ mem_canonicalIds.mpr ⟨e, he, same⟩
  by_cases second : j ∈ canonicalIds ys
  · have other : i ≠ j := by
      rintro rfl
      exact leads.asymm leads
    -- The ids stand in one of two orders, which is that of both lists.
    let Ordered (i j : EventId) : Prop := Leads xs i j ∧ Leads ys i j ∨ Leads xs j i ∧ Leads ys j i
    have : Std.Symm Ordered := ⟨fun _ _ => Or.symm⟩
    have pairs : (canonicalIds ys).Pairwise Ordered :=
      ((order ▸ canonicalIds_leads xs).and (canonicalIds_leads ys)).imp Or.inl
    rcases pairs.forall first second other with ⟨-, forward⟩ | ⟨backward, -⟩
    · exact forward
    · exact absurd backward leads.asymm
  · obtain ⟨f, hf, same⟩ := mem_canonicalIds.mp first
    exact ⟨f, hf, same, fun g hg last => absurd (mem_canonicalIds.mpr ⟨g, hg, last⟩) second⟩

theorem canonicalIds_eq_iff (same : ∀ i, i ∈ xs.map Event.id ↔ i ∈ ys.map Event.id) :
    canonicalIds xs = canonicalIds ys ↔ ∀ i j, Leads xs i j ↔ Leads ys i j := by
  constructor
  · exact fun order i j => ⟨leads_of_canonicalIds_eq order, leads_of_canonicalIds_eq order.symm⟩
  · intro order
    have right : (canonicalIds ys).Pairwise (Leads xs) :=
      (canonicalIds_leads ys).imp (order _ _).mpr
    refine (canonicalIds_leads xs).eq_of_mem_iff right fun i => ?_
    rw [canonicalIds, canonicalIds, mem_canonicalize_ids, mem_canonicalize_ids, same]

end Leading

theorem fingerprint_congr {xs ys : List Event} (order : canonicalIds xs = canonicalIds ys) :
    fingerprint xs = fingerprint ys := by
  rw [fingerprint, fingerprint, fingerprintInput_eq, fingerprintInput_eq, order]

theorem leads_congr {xs ys : List Event} (h : ∀ e, e ∈ xs ↔ e ∈ ys) (i j : EventId) :
    Leads xs i j ↔ Leads ys i j := by
  unfold Leads
  simp only [h]

/-- Two lists with the same ids have one fingerprint if they hold the same events, in any order and any
    number, and also if the first copies of their ids come in the same order. They have no other reason
    to, unless an id has more than one line or two messages have one digest. -/
theorem fingerprint_of_same_ids (xs ys : List Event)
    (same : ∀ i, i ∈ xs.map Event.id ↔ i ∈ ys.map Event.id) :
    ((∀ e, e ∈ xs ↔ e ∈ ys) → fingerprint xs = fingerprint ys) ∧
      ((∀ i j, Leads xs i j ↔ Leads ys i j) → fingerprint xs = fingerprint ys) ∧
      (fingerprint xs = fingerprint ys → (∀ i j, Leads xs i j ↔ Leads ys i j) ∨
        (∃ e ∈ xs ++ ys, '\n' ∈ e.id.text.toList) ∨
        Sha256.Collision (fingerprintInput xs) (fingerprintInput ys)) := by
  have ordered (order : ∀ i j, Leads xs i j ↔ Leads ys i j) : fingerprint xs = fingerprint ys :=
    fingerprint_congr ((canonicalIds_eq_iff same).mpr order)
  refine ⟨fun members => ordered (leads_congr members), ordered, fun one => ?_⟩
  rcases fingerprint_cases one with input | collision
  · by_cases whole : ∀ e ∈ xs ++ ys, '\n' ∉ e.id.text.toList
    · exact Or.inl ((canonicalIds_eq_iff same).mp ((fingerprintInput_inj whole).mp input))
    · push Not at whole
      exact Or.inr (Or.inl whole)
  · exact Or.inr (Or.inr collision)

theorem canonicalIds_of_ascending {events : List Event} (sorted : Ascending events)
    (distinct : (events.map Event.id).Nodup) : canonicalIds events = events.map id := by
  rw [canonicalIds, canonicalize_of_ascending sorted distinct]

def started (id : String) (clock : Nat) : Event := plain id clock "MissionStarted" (.object [])

theorem fingerprint_of_same_ids_later :
    let xs := [started "a" 1, started "b" 2]
    let ys := [{ started "a" 3 with nodeId := "z" }, started "b" 7]
    (∀ i, i ∈ xs.map Event.id ↔ i ∈ ys.map Event.id) ∧ fingerprint xs = fingerprint ys := by
  intro xs ys
  have same (i : EventId) : i ∈ xs.map Event.id ↔ i ∈ ys.map Event.id := Iff.rfl
  have left : canonicalIds xs = [⟨"a"⟩, ⟨"b"⟩] := canonicalIds_of_ascending (by decide) (by decide)
  have right : canonicalIds ys = [⟨"a"⟩, ⟨"b"⟩] := canonicalIds_of_ascending (by decide) (by decide)
  have order := (canonicalIds_eq_iff same).mp (left.trans right.symm)
  exact ⟨same, (fingerprint_of_same_ids xs ys same).2.1 order⟩

/-- The ids of the events are the same, and their clocks are exchanged. -/
theorem fingerprint_of_exchanged_clocks :
    let xs := [started "a" 1, started "b" 2]
    let ys := [started "b" 1, started "a" 2]
    (∀ i, i ∈ xs.map Event.id ↔ i ∈ ys.map Event.id) ∧ fingerprint xs ≠ fingerprint ys := by
  intro xs ys
  have left : fingerprintInput xs = [97, 10, 98, 10] := by
    rw [fingerprintInput_eq, canonicalIds_of_ascending (by decide) (by decide)]
    decide
  have right : fingerprintInput ys = [98, 10, 97, 10] := by
    rw [fingerprintInput_eq, canonicalIds_of_ascending (by decide) (by decide)]
    decide
  refine ⟨fun i => List.Perm.mem_iff (List.Perm.swap _ _ _), fun one => ?_⟩
  have digests := Text.hexBytes_injective one
  rw [left, right] at digests
  revert digests
  decide +kernel

/-- What is hashed for two lists is the same exactly if the lines of their canonical ids are. If each id is
    one line, it is the same exactly if the ids are, and so is the fingerprint, unless two messages have
    one digest. -/
theorem fingerprintInput_eq_iff_lines (xs ys : List Event) :
    (fingerprintInput xs = fingerprintInput ys ↔
      (canonicalIds xs).flatMap EventId.lines = (canonicalIds ys).flatMap EventId.lines) ∧
    ((∀ e ∈ xs ++ ys, '\n' ∉ e.id.text.toList) →
      (fingerprintInput xs = fingerprintInput ys ↔ canonicalIds xs = canonicalIds ys) ∧
      (fingerprint xs = fingerprint ys ↔ canonicalIds xs = canonicalIds ys ∨
        Sha256.Collision (fingerprintInput xs) (fingerprintInput ys))) := by
  refine ⟨fingerprintInput_inj_lines, fun whole => ⟨fingerprintInput_inj whole, fun one => ?_, ?_⟩⟩
  · exact (fingerprint_cases one).imp_left (fingerprintInput_inj whole).mp
  · rintro (order | collision)
    · exact fingerprint_congr order
    · exact congrArg Text.hexBytes collision.2

/-- An id of two lines is hashed as two ids of one line. -/
theorem fingerprint_of_two_lines :
    let xs := [started "a\nb" 1]
    let ys := [started "a" 1, started "b" 2]
    (∀ e ∈ xs ++ ys, ∃ text, Event.parse text = .ok e) ∧ canonicalIds xs ≠ canonicalIds ys ∧
      fingerprintInput xs = fingerprintInput ys ∧ fingerprint xs = fingerprint ys := by
  intro xs ys
  have left : canonicalIds xs = [⟨"a\nb"⟩] := canonicalIds_of_ascending (by decide) (by decide)
  have right : canonicalIds ys = [⟨"a"⟩, ⟨"b"⟩] := canonicalIds_of_ascending (by decide) (by decide)
  have input : fingerprintInput xs = fingerprintInput ys := by
    rw [fingerprintInput_inj_lines, left, right]
    decide
  have read (id : String) (clock : Nat) (small : clock ≤ greatestWord64) :
      ∃ text, parse text = .ok (started id clock) := by
    have legible : (started id clock).Legible := ⟨small, List.Pairwise.nil, List.forall_mem_nil _⟩
    have parsed : parse ("" ++ (started id clock).text) = .ok (started id clock) :=
      parse_text legible (.object (List.forall_mem_nil _)) (List.forall_mem_nil _)
    exact ⟨_, parsed⟩
  refine ⟨?_, ?_, input, congrArg (Text.hexBytes ∘ Sha256.digest) input⟩
  · intro e member
    simp only [xs, ys, List.cons_append, List.nil_append, List.mem_cons, List.not_mem_nil, or_false] at member
    rcases member with rfl | rfl | rfl <;> exact read _ _ (by decide)
  · rw [left, right]
    decide

end Event
end EventLedger
