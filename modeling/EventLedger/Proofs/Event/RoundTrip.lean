import EventLedger.Proofs.Event.Fields
import EventLedger.Proofs.Json.Records
import Mathlib

/-! An event that was read from text is written and read back as the same event, unless its payload
holds a float. -/

namespace EventLedger

open Json Text

theorem Decoder.timestamp_text (t : Timestamp) : timestamp (.string t.text) = .ok t := by
  rw [timestamp, Timestamp.parse_text]
  rfl

theorem Decoder.uuid_text (u : Uuid) : uuid (.string u.text) = .ok u := by
  rw [uuid, Uuid.parse_text]
  rfl

theorem Decoder.optional_uuid (u : Uuid) : uuid.optional (.string u.text) = .ok (some u) := by
  change (uuid (.string u.text)).map some = _
  rw [uuid_text]
  rfl

namespace Event

/-- Events as they are read from text. -/
structure Legible (e : Event) : Prop where
  clock : e.lamportClock ≤ greatestWord64
  payload : e.payload.Legible Record.depth

theorem legible_of_build {ms : List (String × Json)} {absent : String → Refusal} {e : Event}
    (legible : ∀ m ∈ ms, m.2.Legible Record.depth)
    (h : record.build (lookup · ms) absent = .ok e) : e.Legible := by
  have any : ∀ v, lookup "payload" ms = some v → v.Legible Record.depth := by
    intro v found
    obtain ⟨m, present, rfl⟩ := Option.map_eq_some_iff.mp found
    exact legible m (List.mem_of_find?_eq_some present)
  obtain ⟨f, schema, rfl⟩ := Record.free_build.mp h
  obtain ⟨f, -, slug, -, rfl⟩ := Record.defaulted_build.mp schema
  obtain ⟨f, -, project, -, rfl⟩ := Record.defaulted_build.mp slug
  obtain ⟨f, -, correlation, -, rfl⟩ := Record.defaulted_build.mp project
  obtain ⟨f, -, cause, -, rfl⟩ := Record.defaulted_build.mp correlation
  obtain ⟨f, -, clock, -, rfl⟩ := Record.defaulted_build.mp cause
  obtain ⟨f, v, n, node, -, decoded, rfl⟩ := Record.required_build.mp clock
  obtain ⟨f, -, -, time, -, -, rfl⟩ := Record.required_build.mp node
  obtain ⟨f, -, -, aggregate, -, -, rfl⟩ := Record.required_build.mp time
  obtain ⟨f, -, -, type, -, -, rfl⟩ := Record.required_build.mp aggregate
  obtain ⟨f, -, -, id, -, -, rfl⟩ := Record.required_build.mp type
  obtain ⟨f, -, -, all, -, -, rfl⟩ := Record.required_build.mp id
  cases all
  refine ⟨Decoder.natural_le decoded, ?_⟩
  dsimp only
  cases found : lookup "payload" ms with
  | none => exact ⟨List.Pairwise.nil, List.forall_mem_nil _⟩
  | some v => exact any v found

theorem legible_of_parse {s : String} {e : Event} (h : parse s = .ok e) : e.Legible := by
  obtain ⟨⟨x, rest⟩, read, h⟩ := bind_eq_ok.mp (mapError_eq_ok.mp h)
  obtain ⟨-, -, h⟩ := bind_eq_ok.mp h
  cases h
  obtain ⟨ms, absent, built, legible⟩ := Record.build_of_read read
  exact legible_of_build legible built

/-- Every field is found under its name, unless it was left out. -/
theorem lookup_members (e : Event) :
    lookup "event_id" e.members = some (.string e.id.text) ∧
      lookup "event_type" e.members = some (.string e.eventType) ∧
      lookup "aggregate_id" e.members = some (.string e.aggregateId) ∧
      lookup "timestamp" e.members = some (.string e.timestamp.text) ∧
      lookup "node_id" e.members = some (.string e.nodeId) ∧
      lookup "lamport_clock" e.members = some (.nat e.lamportClock) ∧
      lookup "causation_id" e.members = e.causationId.map (fun id => .string id.text) ∧
      lookup "correlation_id" e.members = some (.string e.correlationId) ∧
      lookup "project_uuid" e.members = e.projectUuid.map (fun u => .string u.text) ∧
      lookup "project_slug" e.members = e.projectSlug.map .string ∧
      lookup "schema_version" e.members = some (.string e.schemaVersion) ∧
      lookup "payload" e.members = some e.payload := by
  obtain ⟨_, _, _, _, _, _, cause, _, project, slug, _, _⟩ := e
  cases cause <;> cases project <;> cases slug <;>
    exact ⟨rfl, rfl, rfl, rfl, rfl, rfl, rfl, rfl, rfl, rfl, rfl, rfl⟩

theorem optional_written {α : Type} {d : Decoder α} {write : α → Json}
    (decoded : ∀ a, d.optional (write a) = .ok (some a)) {x : Option α} {found : Option Json}
    (h : found = x.map write) : found.elim (.ok none) d.optional = .ok x := by
  rw [h]
  cases x with
  | none => rfl
  | some a => exact decoded a

theorem build_members {e : Event} (legible : e.Legible) :
    record.build (lookup · e.members) .missingField = .ok e := by
  obtain ⟨id, type, aggregate, time, node, clock, cause, correlation, project, slug, schema,
    payload⟩ := lookup_members e
  refine Record.free_build.mpr ⟨mk e.id e.eventType e.aggregateId e.timestamp e.nodeId e.lamportClock
    e.causationId e.correlationId e.projectUuid e.projectSlug e.schemaVersion, ?_, by rw [payload]; rfl⟩
  refine Record.defaulted_build.mpr ⟨_, _, ?_, by rw [schema]; rfl, rfl⟩
  refine Record.defaulted_build.mpr ⟨_, _, ?_, optional_written (fun _ => rfl) slug, rfl⟩
  refine Record.defaulted_build.mpr ⟨_, _, ?_, optional_written Decoder.optional_uuid project, rfl⟩
  refine Record.defaulted_build.mpr ⟨_, _, ?_, by rw [correlation]; rfl, rfl⟩
  refine Record.defaulted_build.mpr ⟨_, _, ?_, optional_written (fun _ => rfl) cause, rfl⟩
  refine Record.required_build.mpr ⟨_, _, _, ?_, clock, Decoder.natural_nat legible.clock, rfl⟩
  refine Record.required_build.mpr ⟨_, _, _, ?_, node, rfl, rfl⟩
  refine Record.required_build.mpr ⟨_, _, _, ?_, time, Decoder.timestamp_text _, rfl⟩
  refine Record.required_build.mpr ⟨_, _, _, ?_, aggregate, rfl, rfl⟩
  refine Record.required_build.mpr ⟨_, _, _, ?_, type, rfl, rfl⟩
  exact Record.required_build.mpr ⟨_, _, _, rfl, id, rfl, rfl⟩

theorem mem_member? {α : Type} {name : String} {f : α → Json} {x : Option α} {m : String × Json}
    (member : m ∈ member? name f x) : ∃ a, m = (name, f a) := by
  cases x with
  | none => cases member
  | some a => exact ⟨a, List.mem_singleton.mp member⟩

theorem takes_scalar {name : String} {d : Decoder Unit} {v : Json} (free : v.FloatFree)
    (scalar : v.IsScalar) (legible : v.Legible 0) (checked : d v = .ok ()) :
    Field.Takes ⟨name, false, d⟩ v := by
  refine ⟨free, ?_⟩
  rw [if_neg Bool.false_ne_true]
  exact ⟨scalar, legible, checked⟩

theorem takes_string {name : String} {d : Decoder Unit} {s : String}
    (checked : d (.string s) = .ok ()) : Field.Takes ⟨name, false, d⟩ (.string s) :=
  takes_scalar (.string s) trivial trivial checked

theorem takes_members {e : Event} (legible : e.Legible) (free : e.payload.FloatFree) :
    ∀ m ∈ e.members, ∃ f, record.field? m.1 = some f ∧ f.Takes m.2 := by
  have fits : (Number.integer e.lamportClock).Fits := by
    have least := legible.clock
    simp only [Number.Fits, leastSigned64]
    omega
  have clock : Decoder.word64.check (.nat e.lamportClock) = .ok () :=
    Decoder.check_of_ok (Decoder.natural_nat legible.clock)
  have time := Decoder.check_of_ok (Decoder.timestamp_text e.timestamp)
  intro m member
  simp only [members, List.mem_append, List.mem_cons, List.not_mem_nil, or_false] at member
  rcases member with ((((((rfl | rfl | rfl | rfl | rfl | rfl) | cause) | rfl) | project) | slug) | rfl | rfl)
  · exact ⟨_, rfl, takes_string rfl⟩
  · exact ⟨_, rfl, takes_string rfl⟩
  · exact ⟨_, rfl, takes_string rfl⟩
  · exact ⟨⟨_, false, Decoder.timestamp.check⟩, rfl, takes_string time⟩
  · exact ⟨_, rfl, takes_string rfl⟩
  · exact ⟨⟨_, false, Decoder.word64.check⟩, rfl, takes_scalar (.integer _) trivial fits clock⟩
  · obtain ⟨id, rfl⟩ := mem_member? cause
    exact ⟨_, rfl, takes_string rfl⟩
  · exact ⟨_, rfl, takes_string rfl⟩
  · obtain ⟨u, rfl⟩ := mem_member? project
    have project := Decoder.check_of_ok (Decoder.optional_uuid u)
    exact ⟨⟨_, false, Decoder.uuid.optional.check⟩, rfl, takes_string project⟩
  · obtain ⟨s, rfl⟩ := mem_member? slug
    exact ⟨_, rfl, takes_string rfl⟩
  · exact ⟨_, rfl, takes_string rfl⟩
  · exact ⟨_, rfl, free, legible.payload⟩

theorem lists_members {e : Event} (legible : e.Legible) (free : e.payload.FloatFree) :
    record.Lists e.members := by
  refine ⟨takes_members legible free, ?_⟩
  obtain ⟨_, _, _, _, _, _, cause, _, project, slug, _, _⟩ := e
  cases cause <;> cases project <;> cases slug <;> simp [members, member?]

theorem toList_text (e : Event) : ∃ cs, e.text.toList = '\x7b' :: cs :=
  ⟨_, by rw [text, toJson, Json.text, String.toList_ofList, members]; rfl⟩

/-- An event without floats is read back from its text, also behind spaces. -/
theorem parse_text {e : Event} (legible : e.Legible) (free : e.payload.FloatFree) {gap : String}
    (blank : ∀ c ∈ gap.toList, isSpace c = true) : parse (gap ++ e.text) = .ok e := by
  have lists := lists_members legible free
  have built := build_members legible
  obtain ⟨m, ms, members⟩ : ∃ m ms, e.members = m :: ms := ⟨_, _, rfl⟩
  rw [members] at lists built
  have read := Record.read_written lists built []
  rw [List.append_nil] at read
  rw [parse, Record.parse, String.toList_append, text, toJson, Json.text, String.toList_ofList, members]
  simp only [Record.read_spaces blank, read, ok_bind]
  rfl

/-- An event that was read from any text is written in a form that reads as the same event and is
    written alike, unless its payload holds a float. -/
theorem parse_again {s : String} {e : Event} (h : parse s = .ok e) (free : e.payload.FloatFree) :
    parse e.text = .ok e ∧ (parse e.text).map text = .ok e.text := by
  have again : parse ("" ++ e.text) = .ok e :=
    parse_text (legible_of_parse h) free (List.forall_mem_nil _)
  rw [String.empty_append] at again
  refine ⟨again, ?_⟩
  rw [again]
  rfl

/-- A list of the fields that are required, at a leap second of another time zone. -/
theorem parse_again_list :
    let s := "[\"e\",\"T\",\"m\",\"2026-01-01T01:59:60+02:00\",\"n\",7]"
    let time : Timestamp := ⟨2025, 12, 31, 23, 59, 59, 1000000000, by decide, by decide, by decide,
      by decide, by decide⟩
    let e : Event := ⟨⟨"e"⟩, "T", "m", time, "n", 7, none, "", none, none, currentSchemaVersion, .empty⟩
    parse s = .ok e ∧ e.payload.FloatFree ∧ parse e.text = .ok e := by
  intro s time e
  have read : parse s = .ok e := by
    rw [parse, Record.parse, Record.read]
    cbv
  have free : e.payload.FloatFree := .object (List.forall_mem_nil _)
  exact ⟨read, free, (parse_again read free).1⟩

/-- Blanks that are no spaces of the format stand for nothing. -/
theorem parse_other_blank {s : String} {gap rest : List Char} {c : Char}
    (text : s.toList = gap ++ c :: rest) (blank : ∀ d ∈ gap, isSpace d = true)
    (other : isSpace c = false) (blankLike : isBlank c = true) (e : Event) : parse s ≠ .ok e := by
  intro h
  obtain ⟨⟨x, after⟩, read, -⟩ := bind_eq_ok.mp (mapError_eq_ok.mp h)
  rw [text, Record.read_spaces blank, Record.read, skipSpace_cons other, readStart_blank blankLike] at read
  cases read

end Event
end EventLedger
