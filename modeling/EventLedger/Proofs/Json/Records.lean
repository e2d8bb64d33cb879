import EventLedger.Json.RecordReader
import EventLedger.Proofs.Json.RoundTrip

/-! Records are made of what their fields hold, and are read back from their members. -/

namespace EventLedger

open Json Text

namespace Decoder

theorem check_of_ok {α : Type} {d : Decoder α} {v : Json} {a : α} (decoded : d v = .ok a) :
    d.check v = .ok () := map_eq_ok.mpr ⟨a, decoded, rfl⟩

theorem natural_nat {name : String} {high n : Nat} (fits : n ≤ high) :
    natural name high (.nat n) = .ok n := by
  have within : (0 : Int) ≤ n ∧ (n : Int) ≤ (high : Int) := by omega
  rw [natural, Json.nat, integer, if_pos within]
  rfl

theorem natural_le {name : String} {high n : Nat} {v : Json} (h : natural name high v = .ok n) :
    n ≤ high := by
  obtain ⟨i, decoded, rfl⟩ := map_eq_ok.mp h
  unfold integer at decoded
  split at decoded
  · split at decoded
    · rename_i within
      cases decoded
      omega
    · cases decoded
  · cases decoded

end Decoder

section Build

variable {α β : Type} {find : String → Option Json} {absent : String → Refusal} {name : String}

theorem Record.required_build {r : Record (α → β)} {d : Decoder α} {x : β} :
    (r.required name d).build find absent = .ok x ↔
      ∃ f v a, r.build find absent = .ok f ∧ find name = some v ∧ d v = .ok a ∧ f a = x := by
  constructor
  · intro h
    obtain ⟨f, built, h⟩ := bind_eq_ok.mp h
    split at h
    · rename_i v found
      obtain ⟨a, decoded, same⟩ := map_eq_ok.mp h
      exact ⟨f, v, a, built, found, decoded, same⟩
    · cases h
  · rintro ⟨f, v, a, built, found, decoded, rfl⟩
    refine bind_eq_ok.mpr ⟨f, built, ?_⟩
    rw [found]
    exact map_eq_ok.mpr ⟨a, decoded, rfl⟩

theorem Record.defaulted_build {r : Record (α → β)} {d : Decoder α} {value : α} {x : β} :
    (r.defaulted name d value).build find absent = .ok x ↔
      ∃ f a, r.build find absent = .ok f ∧ (find name).elim (.ok value) d = .ok a ∧ f a = x := by
  constructor
  · intro h
    obtain ⟨f, built, h⟩ := bind_eq_ok.mp h
    split at h
    · rename_i v found
      obtain ⟨a, decoded, same⟩ := map_eq_ok.mp h
      exact ⟨f, a, built, by rw [found]; exact decoded, same⟩
    · rename_i none
      cases h
      exact ⟨f, value, built, by rw [none]; rfl, rfl⟩
  · rintro ⟨f, a, built, decoded, rfl⟩
    refine bind_eq_ok.mpr ⟨f, built, ?_⟩
    cases found : find name with
    | none =>
      rw [found] at decoded
      cases decoded
      rfl
    | some v =>
      rw [found] at decoded
      exact map_eq_ok.mpr ⟨a, decoded, rfl⟩

theorem Record.free_build {r : Record (Json → β)} {value : Json} {x : β} :
    (r.free name value).build find absent = .ok x ↔
      ∃ f, r.build find absent = .ok f ∧ f ((find name).getD value) = x := by
  constructor
  · intro h
    obtain ⟨f, built, h⟩ := bind_eq_ok.mp h
    cases h
    exact ⟨f, built, rfl⟩
  · rintro ⟨f, built, rfl⟩
    exact bind_eq_ok.mpr ⟨f, built, rfl⟩

end Build

/-- How deep a value may be nested that stands in a record. -/
def Record.depth : Nat := nestingLimit - 1

namespace Field

variable {f : Field} {cs rest : List Char} {v : Json}

theorem read_legible (h : f.read cs = .ok (v, rest)) : v.Legible Record.depth := by
  unfold read at h
  split at h
  · exact readValue_legible h
  · unfold readScalar at h
    obtain ⟨⟨start, after⟩, begins, h⟩ := bind_eq_ok.mp h
    cases start with
    | scalar w =>
      obtain ⟨u, checked, same⟩ := map_eq_ok.mp h
      cases same
      obtain ⟨-, -, rfl⟩ := map_eq_ok.mp (mapError_eq_ok.mp checked)
      obtain ⟨scalar, legible⟩ := readStart_scalar begins
      exact legible.of_scalar scalar _
    | list =>
      obtain ⟨u, checked, same⟩ := map_eq_ok.mp h
      cases same
      obtain ⟨-, -, rfl⟩ := map_eq_ok.mp (mapError_eq_ok.mp checked)
      exact List.forall_mem_nil _
    | members =>
      obtain ⟨u, checked, same⟩ := map_eq_ok.mp h
      cases same
      obtain ⟨-, -, rfl⟩ := map_eq_ok.mp (mapError_eq_ok.mp checked)
      exact ⟨List.Pairwise.nil, List.forall_mem_nil _⟩

/-- A value can stand in a field: any that is legible in a field of any shape, else a scalar that
    passes the check. -/
def Takes (f : Field) (v : Json) : Prop :=
  v.FloatFree ∧
    if f.anyShape then v.Legible Record.depth
    else v.IsScalar ∧ v.Legible 0 ∧ f.check v = .ok ()

theorem Takes.read (takes : f.Takes v) (ends : Ends continuesNumber rest) :
    f.read (v.chars ++ rest) = .ok (v, rest) := by
  obtain ⟨free, takes⟩ := takes
  unfold Field.read
  split
  · rename_i any
    rw [if_pos any] at takes
    exact readValue_chars takes free ends
  · rename_i shaped
    rw [if_neg shaped] at takes
    obtain ⟨scalar, legible, checked⟩ := takes
    rw [readScalar, skipSpace_chars, readStart_chars scalar legible free ends, ok_bind]
    dsimp only
    rw [checked]
    rfl

end Field

namespace Record

variable {α : Type} {r : Record α}

theorem readItems_legible {fs : List Field} {first : Bool} {cs rest : List Char}
    {ms : List (String × Json)} (h : readItems fs first cs = .ok (ms, rest)) :
    ∀ m ∈ ms, m.2.Legible depth := by
  induction fs generalizing first cs ms with
  | nil =>
    cases h
    exact List.forall_mem_nil _
  | cons f fs ih =>
    obtain ⟨next, -, h⟩ := bind_eq_ok.mp h
    cases next with
    | none =>
      cases h
      exact List.forall_mem_nil _
    | some cs =>
      obtain ⟨⟨v, afterItem⟩, item, h⟩ := bind_eq_ok.mp h
      obtain ⟨⟨ns, after⟩, others, h⟩ := bind_eq_ok.mp h
      cases h
      exact List.forall_mem_cons.mpr ⟨Field.read_legible item, ih others⟩

theorem readMembers_legible {n : Nat} {first : Bool} {seen ms : List (String × Json)}
    {cs rest : List Char} (legible : ∀ m ∈ seen, m.2.Legible depth)
    (h : r.readMembers n first seen cs = .ok (ms, rest)) : ∀ m ∈ ms, m.2.Legible depth := by
  induction n generalizing first seen cs with
  | zero => cases h
  | succ n ih =>
    obtain ⟨next, -, h⟩ := bind_eq_ok.mp h
    cases next with
    | none =>
      cases h
      exact legible
    | some cs =>
      obtain ⟨⟨name, afterName⟩, -, h⟩ := bind_eq_ok.mp h
      dsimp only at h
      split at h
      · obtain ⟨afterColon, -, h⟩ := bind_eq_ok.mp h
        obtain ⟨afterValue, -, h⟩ := bind_eq_ok.mp h
        exact ih legible h
      · split at h
        · cases h
        · obtain ⟨afterColon, -, h⟩ := bind_eq_ok.mp h
          obtain ⟨⟨v, afterValue⟩, value, h⟩ := bind_eq_ok.mp h
          refine ih ?_ h
          intro m member
          rcases List.mem_append.mp member with member | last
          · exact legible m member
          · rw [List.mem_singleton.mp last]
            exact Field.read_legible value

theorem read_spaces {gap : List Char} (blank : ∀ c ∈ gap, isSpace c = true) (cs : List Char) :
    r.read (gap ++ cs) = r.read cs := by
  rw [read, read, skipSpace_append blank]

/-- What was read is made of members that are legible. -/
theorem build_of_read {cs rest : List Char} {x : α} (h : r.read cs = .ok (x, rest)) :
    ∃ (ms : List (String × Json)) (absent : String → Refusal),
      r.build (lookup · ms) absent = .ok x ∧ ∀ m ∈ ms, m.2.Legible depth := by
  unfold read at h
  obtain ⟨⟨start, after⟩, -, h⟩ := bind_eq_ok.mp h
  cases start with
  | scalar v => cases h
  | list =>
    obtain ⟨⟨ms, afterItems⟩, items, h⟩ := bind_eq_ok.mp h
    dsimp only at h
    split at h
    · rename_i y built
      obtain ⟨closed, -, h⟩ := bind_eq_ok.mp h
      cases h
      exact ⟨ms, _, built, readItems_legible items⟩
    · cases h
  | members =>
    obtain ⟨⟨ms, afterMembers⟩, members, h⟩ := bind_eq_ok.mp h
    dsimp only at h
    split at h
    · rename_i y built
      obtain ⟨closed, -, h⟩ := bind_eq_ok.mp h
      cases h
      exact ⟨ms, _, built, readMembers_legible (List.forall_mem_nil _) members⟩
    · cases h

theorem lookup_of_not_mem {name : String} {ms : List (String × Json)}
    (new : name ∉ ms.map (·.1)) : lookup name ms = none := by
  rw [lookup, Option.map_eq_none_iff, List.find?_eq_none]
  intro m member same
  exact new (List.mem_map.mpr ⟨m, member, beq_iff_eq.mp same⟩)

/-- Every member is a field that takes its value, and none comes twice. -/
structure Lists (r : Record α) (ms : List (String × Json)) : Prop where
  takes : ∀ m ∈ ms, ∃ f, r.field? m.1 = some f ∧ f.Takes m.2
  distinct : (ms.map (·.1)).Nodup

section Written

variable {seen ms : List (String × Json)} {name : String} {v : Json}

/-- One member is read behind the quote that opens its name. -/
theorem readMembers_step {f : Field} (field : r.field? name = some f) (takes : f.Takes v)
    (new : name ∉ seen.map (·.1)) {n : Nat} {first : Bool} {cs rest : List Char}
    (next : nextKey first cs =
      .ok (some (name.toList.flatMap escapedChar ++ '"' :: ':' :: (v.chars ++ rest))))
    (ends : Ends continuesNumber rest) :
    r.readMembers (n + 1) first seen cs = r.readMembers n false (seen ++ [(name, v)]) rest := by
  have unseen := lookup_of_not_mem new
  rw [readMembers, next, ok_bind]
  simp only [readString_escaped, readColon_colon, field, unseen, takes.read ends, ok_bind,
    Option.isSome_none, Bool.false_eq_true, if_false]

theorem readMembers_end {n : Nat} (first : Bool) (rest : List Char) :
    r.readMembers (n + 1) first seen ('\x7d' :: rest) = .ok (seen, '\x7d' :: rest) := by
  have none := @nextKey_end [] (List.forall_mem_nil _) first rest
  rw [readMembers, show '\x7d' :: rest = [] ++ '\x7d' :: rest from rfl, none]
  rfl

theorem ends_membersChars (ms : List (String × Json)) (rest : List Char) :
    Ends continuesNumber (membersChars ms ++ '\x7d' :: rest) := by
  cases ms with
  | nil => exact Ends.cons (by decide) _
  | cons m ms =>
    rw [membersChars]
    exact Ends.cons (by decide) _

theorem readMembers_written (lists : r.Lists (seen ++ ms)) {n : Nat} (enough : ms.length < n)
    (rest : List Char) :
    r.readMembers n false seen (membersChars ms ++ '\x7d' :: rest) =
      .ok (seen ++ ms, '\x7d' :: rest) := by
  have blank : ∀ c ∈ ([] : List Char), isSpace c = true := List.forall_mem_nil _
  induction ms generalizing n seen with
  | nil =>
    obtain ⟨n, rfl⟩ := Nat.exists_eq_succ_of_ne_zero (Nat.ne_of_gt enough)
    rw [membersChars, List.nil_append, readMembers_end, List.append_nil]
  | cons m ms ih =>
    obtain ⟨name, v⟩ := m
    obtain ⟨n, rfl⟩ := Nat.exists_eq_succ_of_ne_zero (Nat.ne_of_gt (Nat.zero_lt_of_lt enough))
    obtain ⟨f, field, takes⟩ := lists.takes (name, v) (by simp)
    have new : name ∉ seen.map (·.1) := by
      have distinct := lists.distinct
      rw [List.map_append, List.nodup_append] at distinct
      exact fun member => distinct.2.2 name member name (by simp) rfl
    have split : seen ++ (name, v) :: ms = (seen ++ [(name, v)]) ++ ms := by simp
    have text : membersChars ((name, v) :: ms) ++ '\x7d' :: rest =
        ',' :: ([] ++ '"' :: (name.toList.flatMap escapedChar ++ '"' :: ':' ::
          (v.chars ++ (membersChars ms ++ '\x7d' :: rest)))) := by
      simp [membersChars, stringChars]
    rw [split] at lists ⊢
    rw [text, readMembers_step field takes new (nextKey_comma blank _) (ends_membersChars ms rest)]
    exact ih lists (Nat.lt_of_succ_lt_succ enough)

/-- A record is read back from its members. -/
theorem read_written {m : String × Json} {x : α} (lists : r.Lists (m :: ms))
    (built : r.build (lookup · (m :: ms)) .missingField = .ok x) (rest : List Char) :
    r.read ((object (m :: ms)).chars ++ rest) = .ok (x, rest) := by
  have blank : ∀ c ∈ ([] : List Char), isSpace c = true := List.forall_mem_nil _
  obtain ⟨name, v⟩ := m
  obtain ⟨f, field, takes⟩ := lists.takes (name, v) List.mem_cons_self
  have text : (object ((name, v) :: ms)).chars ++ rest =
      '\x7b' :: ([] ++ '"' :: (name.toList.flatMap escapedChar ++ '"' :: ':' ::
        (v.chars ++ (membersChars ms ++ '\x7d' :: rest)))) := by
    simp [chars, stringChars]
  have size : ms.length ≤ (membersChars ms).length := by
    rw [membersChars_eq_spaced]
    exact length_le_spacedMembers [] chars ms
  rw [read, skipSpace_chars, text, readStart_members, ok_bind]
  simp only [List.drop_one, List.tail_cons]
  rw [readMembers_step field takes List.not_mem_nil (nextKey_first blank _) (ends_membersChars ms rest),
    readMembers_written lists]
  · simp only [List.nil_append, List.singleton_append, ok_bind, built]
    rw [show '\x7d' :: rest = [] ++ '\x7d' :: rest from rfl, closeObject_end blank, ok_bind]
  · simp only [List.length_cons, List.length_append, List.nil_append]
    omega

end Written

end Record
end EventLedger
