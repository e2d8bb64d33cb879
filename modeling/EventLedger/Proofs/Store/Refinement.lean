import EventLedger.Proofs.Store.Operations

/-! A store in a file answers as a store in memory does, also after it was closed and opened again. -/

namespace EventLedger.EventStore

/-- Events that are written and read back as they are. -/
def Lasting (e : Event) : Prop := e.Legible ∧ e.payload.FloatFree

/-- A file holds the lines of some events, and the store over it knows their ids. -/
structure Holds (d : Directory) (p : Path) (ids : List EventId) (es : List Event) : Prop where
  ids : ids = es.map Event.id
  folders : d.makeFolders p.parent = (.ok (), d)
  stored : stored d p = .ok es
  content : d.content p = EventFile.contentOf es
  lasting : ∀ e ∈ es, Lasting e

/-- A store in a file shows the events of a store in memory. -/
def Mirrors : EventStore → EventStore → Prop
  | memory es, file d p ids => Holds d p ids es
  | _, _ => False

def Writable : EventStore → Prop
  | memory _ => True
  | file d p _ => ∃ place, d.Reaches p place

section Steps

variable {kept filed : EventStore}

theorem Mirrors.shape (mirrors : Mirrors kept filed) :
    ∃ es d p ids, kept = memory es ∧ filed = file d p ids ∧ Holds d p ids es := by
  cases kept with
  | file _ _ _ => cases mirrors
  | memory es =>
    cases filed with
    | memory _ => cases mirrors
    | file d p ids => exact ⟨es, d, p, ids, rfl, rfl, mirrors⟩

theorem load_mirrored (mirrors : Mirrors kept filed) (aggregate : Option String) :
    filed.load aggregate = kept.load aggregate := by
  obtain ⟨es, d, p, ids, rfl, rfl, holds⟩ := mirrors.shape
  simp only [load, all, holds.stored]

theorem reopen_mirrored (mirrors : Mirrors kept filed) :
    filed.reopen = (.ok (), filed) ∧ kept.reopen = (.ok (), kept) := by
  obtain ⟨es, d, p, ids, rfl, rfl, holds⟩ := mirrors.shape
  refine ⟨?_, rfl⟩
  rw [reopen, openFile_of_stored holds.folders holds.stored, holds.ids]

theorem Holds.append {es : List Event} {d d' : Directory} {p : Path} {ids : List EventId}
    {place : Place} {e : Event} (holds : Holds d p ids es) (lasting : Lasting e)
    (reached : d'.Reaches p place) (keeps : d.KeepsFolders d')
    (content : d'.content p = d.content p ++ EventFile.lineOf e) :
    Holds d' p (ids ++ [e.id]) (es ++ [e]) := by
  have all : ∀ x ∈ es ++ [e], Lasting x :=
    List.forall_mem_append.mpr ⟨holds.lasting, List.forall_mem_singleton.mpr lasting⟩
  have lines : d'.content p = EventFile.contentOf (es ++ [e]) := by
    rw [content, holds.content]
    simp [EventFile.contentOf]
  constructor
  · rw [holds.ids, List.map_append]
    rfl
  · exact Directory.makeFolders_again holds.folders keeps
  · rw [stored_eq_ofBytes reached, lines, EventFile.ofBytes, EventFile.lines_contentOf]
    exact EventFile.eventsOfLines_texts all 1
  · exact lines
  · exact all

theorem save_mirrored (mirrors : Mirrors kept filed) (writable : filed.Writable) {e : Event}
    (lasting : Lasting e) :
    (filed.save e).1 = (kept.save e).1 ∧ Mirrors (kept.save e).2 (filed.save e).2 ∧
      (filed.save e).2.Writable := by
  obtain ⟨es, d, p, ids, rfl, rfl, holds⟩ := mirrors.shape
  have same : (es.any fun x => x.id = e.id) = true ↔ e.id ∈ ids := by
    rw [holds.ids, List.any_eq_true, List.mem_map]
    simp only [decide_eq_true_eq]
  by_cases known : e.id ∈ ids
  · rw [save_known known, save, if_pos (same.mpr known)]
    exact ⟨rfl, holds, writable⟩
  · obtain ⟨place, reaches⟩ := writable
    obtain ⟨d', append, reached, keeps, content⟩ := appended reaches e
    rw [save_new known append, save, if_neg (fun any => known (same.mp any))]
    exact ⟨rfl, holds.append lasting reached keeps content, place, reached⟩

theorem perform_mirrored (mirrors : Mirrors kept filed) (op : Operation)
    (fits : ∀ e, op = .save e → Lasting e ∧ filed.Writable) :
    (filed.perform op).1 = (kept.perform op).1 ∧ Mirrors (kept.perform op).2 (filed.perform op).2 ∧
      (filed.Writable → (filed.perform op).2.Writable) := by
  cases op with
  | load aggregate => exact ⟨congrArg Answer.loaded (load_mirrored mirrors aggregate), mirrors, id⟩
  | save e =>
    obtain ⟨lasting, writable⟩ := fits e rfl
    obtain ⟨same, mirrors, writable⟩ := save_mirrored mirrors writable lasting
    exact ⟨congrArg Answer.saved same, mirrors, fun _ => writable⟩
  | reopen =>
    obtain ⟨stays, stays'⟩ := reopen_mirrored mirrors
    rw [perform, perform, stays, stays']
    exact ⟨rfl, mirrors, id⟩

end Steps

theorem run_mirrored {kept filed : EventStore} (mirrors : Mirrors kept filed) (ops : List Operation)
    (lasting : ∀ e, .save e ∈ ops → Lasting e)
    (writable : (∃ e, .save e ∈ ops) → filed.Writable) :
    (filed.run ops).1 = (kept.run ops).1 := by
  induction ops generalizing kept filed with
  | nil => rfl
  | cons op ops ih =>
    have fits : ∀ e, op = .save e → Lasting e ∧ filed.Writable := by
      rintro e rfl
      exact ⟨lasting e List.mem_cons_self, writable ⟨e, List.mem_cons_self⟩⟩
    obtain ⟨same, mirrors, stays⟩ := perform_mirrored mirrors op fits
    have others := ih mirrors (fun e member => lasting e (List.mem_cons_of_mem _ member))
      fun ⟨e, member⟩ => stays (writable ⟨e, List.mem_cons_of_mem _ member⟩)
    rw [run_cons, run_cons, same, others]

/-- A store that was opened on a file that is missing, and can be written if anything is saved,
    answers every sequence of operations as a store in memory does, for events that were read from
    text and have no floats. -/
theorem file_agrees_with_memory (d d' : Directory) (p : Path) (s : EventStore) (ops : List Operation)
    (opened : openFile d p = (.ok s, d')) (absent : d'.contains p = false)
    (writable : (∃ e, .save e ∈ ops) → ∃ bytes d'', d'.append p bytes = .ok d'')
    (read : ∀ e, .save e ∈ ops → (∃ text, Event.parse text = .ok e) ∧ e.payload.FloatFree) :
    (s.run ops).1 = (new.run ops).1 := by
  obtain ⟨es, folders, stored, rfl⟩ := openFile_eq_ok opened
  have none := stored_absent absent
  rw [stored] at none
  cases none
  have holds : Holds d' p [] [] := by
    constructor
    · rfl
    · exact Directory.makeFolders_again folders (Directory.KeepsFolders.refl d')
    · exact stored
    · exact Directory.content_absent absent
    · exact List.forall_mem_nil _
  refine @run_mirrored new (file d' p []) holds ops ?_ ?_
  · intro e member
    obtain ⟨⟨text, parsed⟩, free⟩ := read e member
    exact ⟨Event.legible_of_parse parsed, free⟩
  · intro saves
    obtain ⟨bytes, d'', append⟩ := writable saves
    exact Directory.reaches_of_append append

/-- An event with a quote in its id and two lines in its payload. -/
def remark : Event where
  id := ⟨"re\"mark"⟩
  eventType := "MissionStarted"
  aggregateId := "m"
  timestamp := ⟨2025, 2, 3, 4, 5, 6, 7, by decide, by decide, by decide, by decide, by decide⟩
  nodeId := "n"
  lamportClock := 1
  causationId := none
  correlationId := ""
  projectUuid := none
  projectSlug := none
  schemaVersion := currentSchemaVersion
  payload := .object [("text", .string "first\nsecond")]

theorem lasting_remark : Lasting remark := by
  have legible : remark.Legible := by
    refine ⟨by decide, List.pairwise_singleton _ _, ?_⟩
    intro m member
    rw [List.mem_singleton.mp member]
    trivial
  refine ⟨legible, .object fun m member => ?_⟩
  rw [List.mem_singleton.mp member]
  exact .string _

theorem file_agrees_with_memory_remark :
    let p : Path := ⟨["events.jsonl"]⟩
    let ops : List Operation := [.save remark, .reopen, .save remark, .load none]
    ∃ s, openFile .empty p = (.ok s, .empty) ∧ Directory.empty.contains p = false ∧
      (∃ bytes d, Directory.empty.append p bytes = .ok d) ∧
      (∃ text, Event.parse text = .ok remark) ∧ remark.payload.FloatFree ∧
      (s.run ops).1 = [.saved (.ok true), .reopened (.ok ()), .saved (.ok false),
        .loaded (.ok [remark])] := by
  intro p ops
  have reaches : Directory.empty.Reaches p ⟨["events.jsonl"]⟩ :=
    Directory.reaches_name (by decide) (by decide) (by simp) (by decide) (by decide)
  have absent : Directory.empty.contains p = false := reaches.contains
  have opened : openFile .empty p = (.ok (file .empty p []), .empty) :=
    openFile_of_stored (Directory.makeFolders_of_isFolder (Or.inl (by decide))) (stored_absent absent)
  have parsed : Event.parse ("" ++ remark.text) = .ok remark :=
    Event.parse_text lasting_remark.1 lasting_remark.2 (List.forall_mem_nil _)
  have read : ∀ e, .save e ∈ ops → (∃ text, Event.parse text = .ok e) ∧ e.payload.FloatFree := by
    intro e member
    have same : e = remark := by simpa [ops] using member
    rw [same]
    exact ⟨⟨_, parsed⟩, lasting_remark.2⟩
  have writable : ∃ bytes d, Directory.empty.append p bytes = .ok d := ⟨[], _, reaches.append []⟩
  have same := file_agrees_with_memory .empty .empty p _ ops opened absent (fun _ => writable) read
  exact ⟨_, opened, absent, writable, ⟨_, parsed⟩, lasting_remark.2, same.trans rfl⟩

end EventLedger.EventStore
