import EventLedger.Proofs.Store.Appending
import Mathlib.Data.List.ReduceOption

/-! What is read from a file, whatever its bytes are. Main statement: either each line is blank or an
event, and the events are read in order, or the first other line is reported, with its number if it is
text and without if it is not. -/

namespace EventLedger.EventFile

open Text

/-- What a line holds: nothing if it is blank, or an event. -/
inductive Holds : List UInt8 → Option Event → Prop where
  | blank {line : List UInt8} {s : String} (text : decodeUtf8? line = some s)
      (blank : isBlankText s = true) : Holds line none
  | event {line : List UInt8} {s : String} {e : Event} (text : decodeUtf8? line = some s)
      (plain : isBlankText s = false) (parsed : Event.parse s = .ok e) : Holds line (some e)

/-- How a line of the given number is reported, in a file of the given name, that is not text, or is
    text but neither blank nor an event. -/
inductive Reported (name : String) (number : Nat) : List UInt8 → LedgerError → Prop where
  | notText {line : List UInt8} (bytes : decodeUtf8? line = none) :
      Reported name number line (.ofFileProblem .notText)
  | notEvent {line : List UInt8} {s : String} {e : Json.ReadError} (text : decodeUtf8? line = some s)
      (plain : isBlankText s = false) (parsed : Event.parse s = .error e) :
      Reported name number line (((LedgerError.ofReadError e).withContext "path"
        (.string name)).withContext "line" (.nat number))

variable {name : String} {number : Nat} {line : List UInt8} {ls : List (List UInt8)}

theorem eventOfLine_eq_ok_iff {x : Option Event} : eventOfLine name number line = .ok x ↔ Holds line x := by
  rw [eventOfLine_eq_ok]
  constructor
  · rintro ⟨s, text, ⟨blank, rfl⟩ | ⟨plain, e, parsed, rfl⟩⟩
    · exact .blank text blank
    · exact .event text plain parsed
  · rintro (⟨text, blank⟩ | ⟨text, plain, parsed⟩)
    · exact ⟨_, text, .inl ⟨blank, rfl⟩⟩
    · exact ⟨_, text, .inr ⟨plain, _, parsed, rfl⟩⟩

theorem eventOfLine_eq_error_iff {err : LedgerError} :
    eventOfLine name number line = .error err ↔ Reported name number line err := by
  unfold eventOfLine
  constructor
  · intro h
    split at h
    · rename_i bytes
      cases h
      exact .notText bytes
    · rename_i s text
      split at h
      · cases h
      · rename_i plain
        split at h
        · cases h
        · rename_i problem parsed
          cases h
          exact .notEvent text (Bool.eq_false_iff.mpr plain) parsed
  · rintro (bytes | ⟨text, plain, parsed⟩)
    · simp only [bytes]
    · simp only [text, plain, parsed, Bool.false_eq_true, if_false]

theorem Reported.not_holds {err : LedgerError} (reported : Reported name number line err) (x : Option Event) :
    ¬ Holds line x := by
  intro holds
  have ok : eventOfLine name number line = .ok x := eventOfLine_eq_ok_iff.mpr holds
  rw [eventOfLine_eq_error_iff.mpr reported] at ok
  cases ok

theorem eventsOfLines_eq_ok_iff {es : List Event} :
    eventsOfLines name number ls = .ok es ↔ ∃ xs, List.Forall₂ Holds ls xs ∧ es = xs.reduceOption := by
  induction ls generalizing number es with
  | nil => simp [eventsOfLines, eq_comm]
  | cons line ls ih =>
    constructor
    · intro h
      obtain ⟨x, first, h⟩ := bind_eq_ok.mp h
      obtain ⟨rest, others, h⟩ := bind_eq_ok.mp h
      cases h
      obtain ⟨xs, holds, rfl⟩ := ih.mp others
      refine ⟨x :: xs, .cons (eventOfLine_eq_ok_iff.mp first) holds, ?_⟩
      cases x <;> rfl
    · rintro ⟨_, _ | @⟨_, x, _, xs, first, others⟩, rfl⟩
      rw [eventsOfLines, eventOfLine_eq_ok_iff.mpr first, ok_bind, ih.mpr ⟨xs, others, rfl⟩, ok_bind]
      cases x <;> rfl

theorem eventsOfLines_eq_error_iff {err : LedgerError} :
    eventsOfLines name number ls = .error err ↔ ∃ front line back, ls = front ++ line :: back ∧
      (∀ l ∈ front, ∃ x, Holds l x) ∧ Reported name (number + front.length) line err := by
  induction ls generalizing number with
  | nil => simp [eventsOfLines]
  | cons line ls ih =>
    -- Lines are counted from the first of the list here, and from the second one in the hypothesis.
    have next (front : List (List UInt8)) :
        number + (front.length + 1) = number + 1 + front.length := by omega
    rw [eventsOfLines, bind_eq_error]
    constructor
    · rintro (first | ⟨x, first, h⟩)
      · exact ⟨[], line, ls, rfl, List.forall_mem_nil _, eventOfLine_eq_error_iff.mp first⟩
      · rcases bind_eq_error.mp h with later | ⟨rest, -, h⟩
        · obtain ⟨front, bad, back, rfl, before, reported⟩ := ih.mp later
          refine ⟨line :: front, bad, back, rfl, ?_, ?_⟩
          · exact List.forall_mem_cons.mpr ⟨⟨x, eventOfLine_eq_ok_iff.mp first⟩, before⟩
          · rwa [List.length_cons, next]
        · cases h
    · rintro ⟨front, bad, back, split, before, reported⟩
      cases front with
      | nil =>
        obtain ⟨rfl, rfl⟩ := List.cons.inj split
        exact Or.inl (eventOfLine_eq_error_iff.mpr reported)
      | cons l front =>
        obtain ⟨rfl, rfl⟩ := List.cons.inj split
        obtain ⟨⟨x, first⟩, before⟩ := List.forall_mem_cons.mp before
        refine Or.inr ⟨x, eventOfLine_eq_ok_iff.mpr first, bind_eq_error.mpr (Or.inl (ih.mpr ?_))⟩
        rw [List.length_cons, next] at reported
        exact ⟨front, bad, back, rfl, before, reported⟩

theorem Reported.number_iff {err : LedgerError} (reported : Reported name number line err) :
    Json.lookup "line" err.details.context =
      if (decodeUtf8? line).isSome then some (.nat number) else none := by
  cases reported with
  | notText bytes =>
    rw [bytes]
    rfl
  | notEvent text plain parsed =>
    rw [text]
    rfl

theorem read_of_found {d : Directory} {p : Path} {content : List UInt8}
    (there : d.read p = .ok content) : read d p = ofBytes p.text content := by
  obtain ⟨entry, found, h⟩ := bind_eq_ok.mp there
  cases entry with
  | folder => cases h
  | file bytes =>
    cases h
    rw [read, found]
    rfl

/-- What is read from a file are the events of its lines, of which some may be blank, or else the first
    line that is neither blank nor an event is reported. It is reported with its number, for which blank
    lines count, exactly if it is text. -/
theorem read_reports_first_bad_line (d : Directory) (p : Path) (content : List UInt8)
    (there : d.read p = .ok content) :
    Breaks content (lines content) ∧
      (∀ es, read d p = .ok es ↔
        ∃ xs, List.Forall₂ Holds (lines content) xs ∧ es = xs.reduceOption) ∧
      (∀ err, read d p = .error err ↔ ∃ front line back, lines content = front ++ line :: back ∧
        (∀ l ∈ front, ∃ x, Holds l x) ∧ Reported p.text (front.length + 1) line err) ∧
      ∀ name number line err, Reported name number line err → (∀ x, ¬ Holds line x) ∧
        Json.lookup "line" err.details.context =
          if (decodeUtf8? line).isSome then some (.nat number) else none := by
  have whole : read d p = eventsOfLines p.text 1 (lines content) := read_of_found there
  refine ⟨breaks_lines content, fun es => ?_, fun err => ?_, fun name number line err reported => ?_⟩
  · rw [whole, eventsOfLines_eq_ok_iff]
  · rw [whole, eventsOfLines_eq_error_iff]
    simp only [Nat.add_comm 1]
  · exact ⟨reported.not_holds, reported.number_iff⟩

theorem read_directoryOf (bytes : List UInt8) :
    (EventStore.directoryOf "events.jsonl" bytes).read ⟨["events.jsonl"]⟩ = .ok bytes := by
  obtain ⟨reaches, entry⟩ := EventStore.reaches_directoryOf bytes
  exact reaches.read entry

/-- Two blank lines stand before a letter. -/
theorem read_reports_first_bad_line_letter :
    let p : Path := ⟨["events.jsonl"]⟩
    let content : List UInt8 := [10, 32, 13, 10, 120]
    let d := EventStore.directoryOf "events.jsonl" content
    d.read p = .ok content ∧
      ∃ err, read d p = .error err ∧ Json.lookup "line" err.details.context = some (.nat 3) := by
  intro p content d
  have there : d.read p = .ok content := read_directoryOf content
  obtain ⟨-, -, refused, numbers⟩ := read_reports_first_bad_line d p content there
  have text : decodeUtf8? [120] = some "x" := decodeUtf8?_encodeUtf8 "x"
  have parsed : Event.parse "x" = .error ⟨.expectedValue, some ⟨1, 1⟩⟩ := by
    rw [Event.parse, Record.parse, Record.read]
    cbv
  have reported : Reported p.text 3 [120] _ := .notEvent text (by decide) parsed
  have blank : Holds [] none := .blank (decodeUtf8?_encodeUtf8 "") rfl
  have blank' : Holds [32] none := .blank (decodeUtf8?_encodeUtf8 " ") (by decide)
  refine ⟨there, _, (refused _).mpr ⟨[[], [32]], [120], [], rfl, ?_, reported⟩, ?_⟩
  · simp only [List.forall_mem_cons]
    exact ⟨⟨_, blank⟩, ⟨_, blank'⟩, List.forall_mem_nil _⟩
  · rw [(numbers _ _ _ _ reported).2, text]
    rfl

/-- The second line is a byte that begins no character, and is reported without its number. -/
theorem bad_byte_without_number :
    let p : Path := ⟨["events.jsonl"]⟩
    let content : List UInt8 := [10, 255, 10]
    let d := EventStore.directoryOf "events.jsonl" content
    d.read p = .ok content ∧ lines content = [[], [255]] ∧ Holds [] none ∧ (∀ x, ¬ Holds [255] x) ∧
      ∃ err, read d p = .error err ∧ Json.lookup "line" err.details.context = none := by
  intro p content d
  have blank : Holds [] none := .blank (decodeUtf8?_encodeUtf8 "") rfl
  have bytes : decodeUtf8? [255] = none := by
    rw [decodeUtf8?, utf8Chars]
    rfl
  have reported : Reported p.text 2 [255] (.ofFileProblem .notText) := .notText bytes
  have there : d.read p = .ok content := read_directoryOf content
  refine ⟨there, rfl, blank, reported.not_holds, _, ?_, reported.number_iff.trans (by rw [bytes]; rfl)⟩
  rw [read_of_found there]
  exact eventsOfLines_eq_error_iff.mpr
    ⟨[[]], [255], [], rfl, List.forall_mem_singleton.mpr ⟨_, blank⟩, reported⟩

end EventLedger.EventFile
