import EventLedger.Proofs.Identity.Ulid
import EventLedger.Proofs.Outcome
import EventLedger.Proofs.Reduction.Folding
import EventLedger.Validation

/-! The ids that are reported in strict validation. Main statements: an id is not reported exactly if it is
the text of an identifier, so that ids are reported that are read as identifiers but written otherwise; and
the id that a text is read as is never reported, and is read as itself. -/

namespace EventLedger.Validation

open Ulid Text

/-- A digit of the written form. -/
def isFormDigit (d : Char) : Bool :=
  isDigit d || ('A' ≤ d && d ≤ 'H') || d == 'J' || d == 'K' || d == 'M' || d == 'N' ||
    ('P' ≤ d && d ≤ 'T') || ('V' ≤ d && d ≤ 'Z')

theorem isFormDigit_iff {d : Char} : isFormDigit d = true ↔ d ∈ alphabet := by
  constructor
  · intro digit
    have below : d ≤ 'Z' := by
      simp only [isFormDigit, isDigit, Bool.or_eq_true, Bool.and_eq_true, decide_eq_true_eq,
        beq_iff_eq] at digit
      rcases digit with ((((((digit | early) | rfl) | rfl) | rfl) | rfl) | middle) | late
      · exact le_trans digit.2 (by decide)
      · exact le_trans early.2 (by decide)
      · decide
      · decide
      · decide
      · decide
      · exact le_trans middle.2 (by decide)
      · exact late.2
    have all : ∀ n < 91, isFormDigit (Char.ofNat n) = true → Char.ofNat n ∈ alphabet := by
      decide +kernel
    have low : d.toNat < 91 := Nat.lt_succ_of_le (UInt32.le_iff_toNat_le.mp below)
    have member := all d.toNat low
    rw [Char.ofNat_toNat] at member
    exact member digit
  · intro member
    obtain ⟨n, small, rfl⟩ := mem_alphabet.mp member
    have all : ∀ n < 32, isFormDigit (Ulid.digitChar n) = true := by decide
    exact all n small

theorem isUlidForm_cases {s : String} : isUlidForm s = true ↔
    s.toList.length = 26 ∧ (∀ c ∈ s.toList, c ∈ alphabet) ∧
      ∀ c, s.toList.head? = some c → c ≤ '7' := by
  unfold isUlidForm
  cases s.toList with
  | nil => simp
  | cons c rest =>
    have first : c ∈ alphabet ∧ c ≤ '7' ↔ '0' ≤ c ∧ c ≤ '7' := by
      refine ⟨fun h => ⟨?_, h.2⟩, fun h => ⟨?_, h.2⟩⟩
      · obtain ⟨n, small, rfl⟩ := mem_alphabet.mp h.1
        have all : ∀ n < 32, '0' ≤ Ulid.digitChar n := by decide
        exact all n small
      · refine isFormDigit_iff.mp ?_
        have digit : isDigit c = true := by
          simp only [isDigit, Bool.and_eq_true, decide_eq_true_eq]
          exact ⟨h.1, le_trans h.2 (by decide)⟩
        unfold isFormDigit
        rw [digit]
        rfl
    change ('0' ≤ c && c ≤ '7' && rest.length == 25 && rest.all isFormDigit) = true ↔ _
    simp only [Bool.and_eq_true, decide_eq_true_eq, beq_iff_eq, List.all_eq_true, isFormDigit_iff,
      List.length_cons, List.mem_cons, forall_eq_or_imp, List.head?_cons, Option.some.injEq,
      forall_eq']
    constructor
    · rintro ⟨⟨low, length⟩, others⟩
      have here := first.mpr low
      exact ⟨by omega, ⟨here.1, others⟩, here.2⟩
    · rintro ⟨length, ⟨here, others⟩, low⟩
      exact ⟨⟨first.mp ⟨here, low⟩, by omega⟩, others⟩

theorem isUlidForm_iff {s : String} : isUlidForm s = true ↔ ∃ u : Ulid, u.text = s := by
  rw [isUlidForm_cases]
  constructor
  · rintro ⟨length, digits, low⟩
    have capitals (c : Char) (member : c ∈ s.toList) : c.isLower = false :=
      not_isLower_of_mem_alphabet (digits c member)
    obtain ⟨u, parsed⟩ := exists_parse_iff.mpr ⟨length, fun c member => by
      rw [Char.toUpper_eq_of_not_isLower (Bool.eq_false_iff.mp (capitals c member))]
      exact digits c member⟩
    exact ⟨u, (text_eq_iff parsed).mpr ⟨capitals, low⟩⟩
  · rintro ⟨u, rfl⟩
    have written := (text_eq_iff u.parse_text).mp rfl
    rw [Ulid.text, String.toList_ofList] at written ⊢
    refine ⟨?_, fun c member => mem_chars member, written.2⟩
    rw [u.chars_eq, List.length_map, length_digits]

section Fields

/-! Each check reports the field that it checks. -/

variable {mode : Strictness} {e : Event} {x : Violation}

theorem eventId_field (member : x ∈ eventIdViolations mode e) : x.field = "event_id" := by
  unfold eventIdViolations at member
  split at member
  · rw [List.mem_singleton.mp member]
  · split at member
    · rw [List.mem_singleton.mp member]
    · cases member

theorem causation_field (member : x ∈ causationViolations mode e) : x.field = "causation_id" := by
  unfold causationViolations at member
  split at member
  · split at member
    · rw [List.mem_singleton.mp member]
    · cases member
  · cases member

theorem name_field {field value : String} (member : x ∈ nameViolations field value) :
    x.field = field := by
  unfold nameViolations at member
  split at member
  · rw [List.mem_singleton.mp member]
  · cases member

theorem slug_field (member : x ∈ slugViolations e) : x.field = "project_slug" := by
  unfold slugViolations at member
  split at member
  · split at member
    · cases member
    · rw [List.mem_singleton.mp member]
  · cases member

theorem mem_eventIdViolations :
    x ∈ eventIdViolations mode e ↔ x ∈ envelope mode e ∧ x.field = "event_id" := by
  unfold envelope
  simp only [List.mem_append]
  constructor
  · exact fun own => ⟨.inl (.inl (.inl (.inl own))), eventId_field own⟩
  · rintro ⟨(((own | cause) | aggregate) | node) | slug, field⟩
    · exact own
    · exact absurd ((causation_field cause).symm.trans field) (by decide)
    · exact absurd ((name_field aggregate).symm.trans field) (by decide)
    · exact absurd ((name_field node).symm.trans field) (by decide)
    · exact absurd ((slug_field slug).symm.trans field) (by decide)

end Fields

/-- No violation is reported for the id. -/
def Unreported (e : Event) : Prop := ∀ x ∈ envelope .strict e, x.field ≠ "event_id"

theorem unreported_iff {e : Event} : Unreported e ↔ isUlidForm e.id.text = true := by
  have none : Unreported e ↔ eventIdViolations .strict e = [] := by
    rw [List.eq_nil_iff_forall_not_mem]
    exact forall_congr' fun x => by rw [mem_eventIdViolations, not_and]
  rw [none]
  unfold eventIdViolations
  split
  · rename_i empty
    have unformed : isUlidForm e.id.text = false := by
      rw [String.isEmpty_iff.mp empty]
      rfl
    simp [unformed]
  · split
    · rename_i unformed
      simp [unformed.2]
    · rename_i formed
      simpa using formed

/-- Strict validation reports nothing for an id exactly if it is the text of an identifier. So it agrees
    with the reading of identifiers on an id exactly if the id is not read, or is written again as it
    stands; a small letter or a first digit above 7 is read and reported all the same. -/
theorem unreported_iff_written (e : Event) :
    (Unreported e ↔ ∃ u, e.id = .ofUlid u) ∧
    ((e.id.isUlid = true ↔ Unreported e) ↔
      ∀ u, Ulid.parse e.id.text = .ok u → EventId.ofUlid u = e.id) ∧
    (e.id.isUlid = true → (Unreported e ↔ (∀ c ∈ e.id.text.toList, c.isLower = false) ∧
      ∀ c, e.id.text.toList.head? = some c → c ≤ '7')) := by
  have same {u : Ulid} : EventId.ofUlid u = e.id ↔ u.text = e.id.text :=
    ⟨congrArg EventId.text, fun text => congrArg EventId.mk text⟩
  have written : Unreported e ↔ ∃ u, e.id = .ofUlid u := by
    rw [unreported_iff, isUlidForm_iff]
    exact exists_congr fun u => same.symm.trans eq_comm
  refine ⟨written, ⟨fun agree u parsed => ?_, fun again => ⟨fun read => ?_, fun unreported => ?_⟩⟩,
    fun read => ?_⟩
  · obtain ⟨w, id⟩ := written.mp (agree.mp (EventId.isUlid_iff.mpr ⟨u, parsed⟩))
    have back : Ulid.parse e.id.text = .ok w := by
      rw [id]
      exact w.parse_text
    rw [parsed] at back
    cases back
    exact id.symm
  · obtain ⟨u, parsed⟩ := EventId.isUlid_iff.mp read
    exact written.mpr ⟨u, (again u parsed).symm⟩
  · obtain ⟨u, id⟩ := written.mp unreported
    rw [id]
    exact EventId.isUlid_iff.mpr ⟨u, u.parse_text⟩
  · obtain ⟨u, parsed⟩ := EventId.isUlid_iff.mp read
    rw [← text_eq_iff parsed, unreported_iff, isUlidForm_iff]
    refine ⟨fun ⟨w, text⟩ => ?_, fun text => ⟨u, text⟩⟩
    have back : Ulid.parse e.id.text = .ok w := text ▸ w.parse_text
    rw [parsed] at back
    cases back
    exact text

/-- One bit too many: the id is read as if it began with a 0. -/
theorem unreported_iff_written_eight :
    let e := Event.plain "8ZZZZZZZZZZZZZZZZZZZZZZZZZ" 1 "MissionStarted" (.object [])
    e.id.isUlid = true ∧ ¬ Unreported e := by
  intro e
  have read : e.id.isUlid = true := by decide +kernel
  refine ⟨read, fun unreported => ?_⟩
  have low := (((unreported_iff_written e).2.2 read).mp unreported).2 '8' (by decide +kernel)
  exact absurd low (by decide)

theorem small_letters_reported :
    let e := Event.plain "01arz3ndektsv4rrffq69g5fav" 1 "MissionStarted" (.object [])
    e.id.isUlid = true ∧
      envelope .strict e = [⟨"event_id", .pattern, "'01arz3ndektsv4rrffq69g5fav' is not a ULID"⟩] ∧
      ¬ (e.id.isUlid = true ↔ Unreported e) := by
  intro e
  have read : e.id.isUlid = true := by decide +kernel
  have reported : envelope .strict e =
      [⟨"event_id", .pattern, "'01arz3ndektsv4rrffq69g5fav' is not a ULID"⟩] := by
    decide +kernel
  refine ⟨read, reported, fun agree => ?_⟩
  have unreported := agree.mp read
  unfold Unreported at unreported
  rw [reported] at unreported
  exact unreported _ (List.mem_singleton_self _) rfl

/-- The id that a text is read as is not reported in any event, is an identifier, and is read as it
    stands. The identifier is the one that the text was. -/
theorem parsed_id_unreported (s : String) (c : EventId) (parsed : EventId.parse s = .ok c) :
    (∀ e : Event, e.id = c → Unreported e) ∧ c.isUlid = true ∧ EventId.parse c.text = .ok c ∧
      Ulid.parse c.text = Ulid.parse s := by
  obtain ⟨u, read, rfl⟩ := map_eq_ok.mp parsed
  have again : Ulid.parse (EventId.ofUlid u).text = .ok u := u.parse_text
  refine ⟨fun e id => ?_, ?_, ?_, ?_⟩
  · rw [unreported_iff, isUlidForm_iff, id]
    exact ⟨u, rfl⟩
  · exact EventId.isUlid_iff.mpr ⟨u, again⟩
  · exact map_eq_ok.mpr ⟨u, again, rfl⟩
  · exact again.trans read.symm

/-- Small letters, and two bits too many. -/
theorem parsed_id_unreported_small_letters :
    let s := "zzzzzzzzzzzzzzzzzzzzzzzzzz"
    let c : EventId := ⟨"7ZZZZZZZZZZZZZZZZZZZZZZZZZ"⟩
    EventId.parse s = .ok c ∧ Unreported (Event.plain c.text 1 "MissionStarted" (.object [])) ∧
      c.isUlid = true ∧ EventId.parse c.text = .ok c := by
  intro s c
  have parsed : EventId.parse s = .ok c := by decide +kernel
  obtain ⟨unreported, read, again, -⟩ := parsed_id_unreported s c parsed
  exact ⟨parsed, unreported _ rfl, read, again⟩

end EventLedger.Validation
