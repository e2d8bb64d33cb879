import EventLedger.Proofs.Json.Records
import EventLedger.Validation

/-! Why a record refuses what it is given: a value in it is wrong, or a field is absent without which it
takes nothing. -/

namespace EventLedger

open Json

/-- A refusal of a value. It names no field, and what it expects does not read like a missing field. -/
def Refusal.Plain : Refusal → Prop
  | .wrongType _ expected => '`' ∉ expected.toList
  | .wrongValue _ expected => '`' ∉ expected.toList
  | .wrongLength _ expected => '`' ∉ expected.toList
  | .unknownVariant _ choices => ¬ Validation.missingFieldLabel <:+: (choicesText choices).toList
  | .unknownLane _ => True
  | .missingField _ | .duplicateField _ | .rule _ => False

namespace Decoder

variable {α : Type} {d : Decoder α}

def Plain (d : Decoder α) : Prop := ∀ v e, d v = .error e → e.Plain

theorem Plain.check (plain : d.Plain) : d.check.Plain := fun v e refused =>
  plain v e (map_eq_error.mp refused)

theorem Plain.optional (plain : d.Plain) : d.optional.Plain := by
  intro v e refused
  unfold Decoder.optional at refused
  split at refused
  · cases refused
  · exact plain _ e (map_eq_error.mp refused)

theorem string_plain : string.Plain := by
  intro v e refused
  unfold string at refused
  split at refused
  · cases refused
  · cases refused
    exact (by decide : '`' ∉ "a string".toList)

theorem boolean_plain : boolean.Plain := by
  intro v e refused
  unfold boolean at refused
  split at refused
  · cases refused
  · cases refused
    exact (by decide : '`' ∉ "a boolean".toList)

theorem natural_plain {name : String} (high : Nat) (spelled : '`' ∉ name.toList) :
    (natural name high).Plain := by
  intro v e refused
  have refused := map_eq_error.mp refused
  unfold integer at refused
  split at refused
  · split at refused
    · cases refused
    · cases refused
      exact spelled
  · cases refused
    exact spelled

theorem word32_plain : word32.Plain := natural_plain _ (by decide)

theorem word64_plain : word64.Plain := natural_plain _ (by decide)

theorem items_plain (plain : d.Plain) {vs : List Json} {e : Refusal} (refused : items d vs = .error e) :
    e.Plain := by
  induction vs with
  | nil => cases refused
  | cons v vs ih =>
    rcases bind_eq_error.mp refused with first | ⟨x, -, refused⟩
    · exact plain v e first
    · rcases bind_eq_error.mp refused with others | ⟨xs, -, refused⟩
      · exact ih others
      · cases refused

theorem strings_plain : strings.Plain := by
  intro v e refused
  unfold strings list at refused
  split at refused
  · exact items_plain string_plain refused
  · cases refused
    exact (by decide : '`' ∉ "a sequence".toList)

theorem choice_plain {choices : List (String × α)}
    (unlike : ¬ Validation.missingFieldLabel <:+: (Refusal.choicesText (choices.map (·.1))).toList) :
    (choice choices).Plain := by
  intro v e refused
  unfold choice at refused
  dsimp only at refused
  split at refused
  · split at refused
    · cases refused
    · cases refused
      exact unlike
  · rename_i name content
    cases found : choices.find? fun c => c.1 == name with
    | none =>
      rw [found] at refused
      cases refused
      exact unlike
    | some c =>
      rw [found, ok_bind] at refused
      split at refused
      · cases refused
      · cases refused
        exact (by decide : '`' ∉ "unit".toList)
  · cases refused
    exact (by decide : '`' ∉ "map with a single key".toList)
  · cases refused
    exact (by decide : '`' ∉ "string or map".toList)

end Decoder

theorem Lane.decoder_plain : decoder.Plain := by
  intro v e refused
  rcases bind_eq_error.mp refused with text | ⟨s, -, refused⟩
  · exact Decoder.string_plain v e text
  · split at refused
    · cases refused
    · cases refused
      trivial

namespace Record

variable {α β : Type}

/-- What an object or a list gives for a field. -/
def given? (r : Record α) (v : Json) (name : String) : Option Json :=
  match v with
  | .object members => lookup name members
  | .array items => lookup name (r.label items)
  | _ => none

/-- Nothing is built where the field is not found. -/
def Needs (r : Record α) (name : String) : Prop :=
  ∀ find absent, find name = none → ∃ e, r.build find absent = .error e

theorem Needs.bind {r : Record α} {s : Record β} {name : String} (needs : r.Needs name)
    {g : (String → Option Json) → (String → Refusal) → α → Except Refusal β}
    (builds : ∀ find absent, s.build find absent = r.build find absent >>= g find absent) :
    s.Needs name := by
  intro find absent unfound
  obtain ⟨e, refused⟩ := needs find absent unfound
  exact ⟨e, (builds find absent).trans (bind_eq_error.mpr (.inl refused))⟩

/-- What the record refuses it refuses for a value, or for want of a field that it needs. -/
structure Candid (r : Record α) : Prop where
  checks : ∀ f ∈ r.fields, f.check.Plain
  builds : ∀ find absent e, r.build find absent = .error e →
    e.Plain ∨ ∃ name ∈ r.fields.map (·.name), e = absent name ∧ find name = none ∧ r.Needs name

namespace Candid

theorem of {title : String} {x : α} : (Record.of title x).Candid where
  checks _ member := nomatch member
  builds _ _ _ refused := nomatch refused

section Fields

variable {name : String} {r : Record (α → β)} {d : Decoder α}

theorem checks_append (plain : d.Plain) (candid : r.Candid) :
    ∀ f ∈ r.fields ++ [⟨name, false, d.check⟩], f.check.Plain := by
  intro f member
  rcases List.mem_append.mp member with member | member
  · exact candid.checks f member
  · rw [List.mem_singleton.mp member]
    exact plain.check

/-- What is refused before the last field is refused for the same reason with it. -/
theorem builds_before (candid : r.Candid) {s : Record β} {f : Field}
    {g : (String → Option Json) → (String → Refusal) → (α → β) → Except Refusal β}
    (builds : ∀ find absent, s.build find absent = r.build find absent >>= g find absent)
    (fields : s.fields = r.fields ++ [f]) {find : String → Option Json} {absent : String → Refusal}
    {e : Refusal} (refused : r.build find absent = .error e) :
    e.Plain ∨ ∃ name ∈ s.fields.map (·.name), e = absent name ∧ find name = none ∧ s.Needs name := by
  rcases candid.builds find absent e refused with plain | ⟨n, member, named, unfound, needs⟩
  · exact .inl plain
  · refine .inr ⟨n, ?_, named, unfound, needs.bind builds⟩
    rw [fields, List.map_append]
    exact List.mem_append_left _ member

theorem required (plain : d.Plain) (candid : r.Candid) : (r.required name d).Candid where
  checks := checks_append plain candid
  builds find absent e refused := by
    rcases bind_eq_error.mp refused with before | ⟨f, -, refused⟩
    · exact candid.builds_before (fun _ _ => rfl) rfl before
    · split at refused
      · exact .inl (plain _ e (map_eq_error.mp refused))
      · rename_i unfound
        cases refused
        refine .inr ⟨name, by simp [Record.required], rfl, unfound, fun find absent unfound => ?_⟩
        unfold Record.required
        dsimp only
        rw [unfound]
        cases r.build find absent with
        | error e => exact ⟨e, rfl⟩
        | ok f => exact ⟨absent name, rfl⟩

theorem defaulted {value : α} (plain : d.Plain) (candid : r.Candid) :
    (r.defaulted name d value).Candid where
  checks := checks_append plain candid
  builds find absent e refused := by
    rcases bind_eq_error.mp refused with before | ⟨f, -, refused⟩
    · exact candid.builds_before (fun _ _ => rfl) rfl before
    · split at refused
      · exact .inl (plain _ e (map_eq_error.mp refused))
      · cases refused

theorem optional {r : Record (Option α → β)} (plain : d.Plain) (candid : r.Candid) :
    (r.optional name d).Candid := defaulted plain.optional candid

end Fields

variable {r : Record α} {v : Json} {e : Refusal}

theorem checkMembers (candid : r.Candid) {ms : List (String × Json)}
    (refused : r.checkMembers ms = .error e) : e.Plain := by
  induction ms with
  | nil => cases refused
  | cons m ms ih =>
    rw [Record.checkMembers] at refused
    split at refused
    · rename_i f field
      rcases bind_eq_error.mp refused with here | ⟨⟨⟩, -, others⟩
      · exact candid.checks f (List.mem_of_find?_eq_some field) m.2 e here
      · exact ih others
    · exact ih refused

theorem tooShort_plain (titled : '`' ∉ r.title.toList) (name : String) : (r.tooShort name).Plain := by
  have digits : '`' ∉ (Text.decimal r.fields.length).toList := by
    intro member
    rw [Text.decimal, String.toList_ofList] at member
    exact absurd (Text.isDigit_of_mem_decimalDigits _ _ member) (by decide)
  unfold tooShort Refusal.Plain lengthText
  simp only [String.toList_append, List.mem_append, titled, digits, or_false]
  split <;> decide

theorem decode (candid : r.Candid) (titled : '`' ∉ r.title.toList) (refused : r.decode v = .error e) :
    e.Plain ∨ ∃ name ∈ r.fields.map (·.name),
      e = .missingField name ∧ r.given? v name = none ∧ r.Needs name := by
  unfold Record.decode at refused
  split at refused
  · rcases bind_eq_error.mp refused with checked | ⟨⟨⟩, -, refused⟩
    · exact .inl (candid.checkMembers checked)
    · exact candid.builds _ _ e refused
  · rcases bind_eq_error.mp refused with built | ⟨x, -, refused⟩
    · rcases candid.builds _ _ e built with plain | ⟨name, -, rfl, -⟩
      · exact .inl plain
      -- A list without the field is refused for its length.
      · exact .inl (tooShort_plain titled name)
    · split at refused
      · cases refused
        exact .inl (by decide : '`' ∉ "fewer elements in array".toList)
      · cases refused
  · cases refused
    refine .inl ?_
    simp only [Refusal.Plain, String.toList_append, List.mem_append, titled, or_false]
    decide

end Candid

/-- What a record needs it refuses to do without, be it given an object, a list or anything else. -/
theorem Needs.refuses {r : Record α} {name : String} (needs : r.Needs name) {v : Json}
    (absent : r.given? v name = none) : ∃ e, r.decode v = .error e := by
  unfold Record.decode
  split
  · rename_i members
    obtain ⟨e, built⟩ := needs (lookup · members) .missingField absent
    cases r.checkMembers members with
    | error e' => exact ⟨e', rfl⟩
    | ok x => exact ⟨e, by rw [ok_bind, built]⟩
  · rename_i items
    obtain ⟨e, built⟩ := needs (lookup · (r.label items)) r.tooShort absent
    rw [built]
    exact ⟨e, rfl⟩
  · exact ⟨_, rfl⟩

end Record
end EventLedger
