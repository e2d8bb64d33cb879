import EventLedger.Proofs.Store.Refinement

/-! What is loaded after events were saved to a file that was there before. A line that was left
unfinished swallows the first of them. -/

namespace EventLedger.EventStore

theorem load_none (s : EventStore) : s.load none = s.all := by
  unfold load
  cases s.all <;> rfl

/-- Events that are saved one after another are appended to the file in that order. -/
theorem run_saves {d : Directory} {p : Path} {place : Place} {ids : List EventId} {es : List Event}
    (reaches : d.Reaches p place)
    (saved : ∀ a ∈ ((file d p ids).run (es.map .save)).1, a = .saved (.ok true)) :
    ∃ d' ids', ((file d p ids).run (es.map .save)).2 = file d' p ids' ∧ d'.Reaches p place ∧
      d'.content p = d.content p ++ EventFile.contentOf es := by
  induction es generalizing d ids with
  | nil => exact ⟨d, ids, rfl, reaches, (List.append_nil _).symm⟩
  | cons e es ih =>
    rw [List.map_cons, run_cons] at saved ⊢
    obtain ⟨first, others⟩ := List.forall_mem_cons.mp saved
    have answered : ((file d p ids).save e).1 = .ok true := Answer.saved.inj first
    obtain ⟨d₁, append, after⟩ := save_eq_true (Prod.ext answered rfl)
    obtain ⟨d₂, append', reached, -, content⟩ := appended reaches e
    rw [append] at append'
    cases append'
    have step : ((file d p ids).perform (.save e)).2 = file d₁ p (ids ++ [e.id]) := after
    rw [step] at others ⊢
    obtain ⟨d', ids', last, reached', content'⟩ := ih reached others
    refine ⟨d', ids', last, reached', ?_⟩
    rw [content', content, List.append_assoc]
    rfl

theorem load_after_saves {d : Directory} {p : Path} {place : Place} {ids : List EventId}
    {es : List Event} (reaches : d.Reaches p place)
    (saved : ∀ a ∈ ((file d p ids).run (es.map .save)).1, a = .saved (.ok true)) :
    ((file d p ids).run (es.map .save)).2.load none =
      EventFile.ofBytes p.text (d.content p ++ EventFile.contentOf es) := by
  obtain ⟨d', ids', last, reached, content⟩ := run_saves reaches saved
  rw [last, load_none, all, stored_eq_ofBytes reached, content]

/-- After new events were saved to a file, what it held when it was opened and then the saved events
    are loaded, exactly if it held nothing but spaces behind its last line feed and each saved event is
    nested no deeper than can be read. -/
theorem loaded_after_saves_iff (d d' : Directory) (p : Path) (s : EventStore) (held es : List Event)
    (opened : openFile d p = (.ok s, d')) (before : s.load none = .ok held) (some : es ≠ [])
    (free : ∀ e ∈ es, e.payload.FloatFree)
    (saved : ∀ a ∈ (s.run (es.map .save)).1, a = .saved (.ok true)) :
    (s.run (es.map .save)).2.load none = .ok (held ++ es) ↔
      EventFile.Appendable (d'.content p) ∧ ∀ e ∈ es, e.Legible := by
  obtain ⟨kept, -, -, rfl⟩ := openFile_eq_ok opened
  obtain ⟨place, reaches⟩ : ∃ place, d'.Reaches p place := by
    obtain ⟨e, es, rfl⟩ := List.exists_cons_of_ne_nil some
    have first := saved _ List.mem_cons_self
    obtain ⟨d₁, append, -⟩ := save_eq_true (Prod.ext (Answer.saved.inj first) rfl)
    exact Directory.reaches_of_append append
  rw [load_none, all, stored_eq_ofBytes reaches] at before
  rw [load_after_saves reaches saved]
  exact EventFile.ofBytes_append_iff before some free

/-- A save that fails for want of room spares the lines that were finished. Behind it events can be
    saved and loaded exactly if nothing of its own line was written. -/
theorem torn_save {d : Directory} {p : Path} {ids : List EventId} {e : Event} {room : Option Nat}
    {err : LedgerError} {s : EventStore} (before : EventFile.Appendable (d.content p))
    (h : (file d p ids).save e room = (.error err, s)) :
    ∃ d', s = file d' p ids ∧
      Text.finishedLines (d'.content p) = Text.finishedLines (d.content p) ∧
      (EventFile.Appendable (d'.content p) ↔ d'.content p = d.content p) := by
  obtain ⟨d', n, rfl, short, content⟩ := save_eq_error h
  refine ⟨d', rfl, ?_, ?_⟩
  · rw [content, EventFile.take_lineOf short]
    exact Text.finishedLines_append (fun member =>
      EventFile.lineFeed_not_mem e (List.mem_of_mem_take member)) _
  · rw [content, EventFile.appendable_torn_iff before short, List.append_right_eq_self,
      List.take_eq_nil_iff]
    constructor
    · exact Or.inl
    · rintro (none | nil)
      · exact none
      · rw [nil] at short
        cases short

section Remarks

/-- A directory with one file. -/
def directoryOf (name : String) (bytes : List UInt8) : Directory := ⟨[(⟨[name]⟩, .file bytes)]⟩

theorem reaches_directoryOf (bytes : List UInt8) :
    (directoryOf "events.jsonl" bytes).Reaches ⟨["events.jsonl"]⟩ ⟨["events.jsonl"]⟩ ∧
      (directoryOf "events.jsonl" bytes).at? ⟨["events.jsonl"]⟩ = some (.file bytes) := by
  have entry : (directoryOf "events.jsonl" bytes).at? ⟨["events.jsonl"]⟩ = some (.file bytes) := rfl
  refine ⟨Directory.reaches_name (by decide) (by decide) (by simp) (by decide) ?_, entry⟩
  rw [entry]
  exact nofun

def furtherRemark : Event := { remark with id := ⟨"further"⟩ }

theorem lasting_furtherRemark : Lasting furtherRemark :=
  ⟨⟨lasting_remark.1.clock, lasting_remark.1.payload⟩, lasting_remark.2⟩

/-- The file of these examples, with one event in it, can be opened and written. -/
theorem opened_with_remark {bytes : List UInt8}
    (one : EventFile.ofBytes (Path.text ⟨["events.jsonl"]⟩) bytes = .ok [remark]) :
    let p : Path := ⟨["events.jsonl"]⟩
    let d := directoryOf "events.jsonl" bytes
    let s := file d p [remark.id]
    d.Reaches p ⟨["events.jsonl"]⟩ ∧ d.content p = bytes ∧ openFile d p = (.ok s, d) ∧
      s.load none = .ok [remark] ∧ (s.run [.save furtherRemark]).1 = [.saved (.ok true)] := by
  intro p d s
  obtain ⟨reaches, entry⟩ : d.Reaches p _ ∧ d.at? _ = _ := reaches_directoryOf bytes
  have content : d.content p = bytes := by rw [reaches.content, Directory.bytesAt, entry]
  have folders := @Directory.makeFolders_of_isFolder d p.parent (Or.inl (by decide))
  obtain ⟨d', append, -⟩ := appended reaches furtherRemark
  have new : furtherRemark.id ∉ [remark.id] := by decide
  have kept : stored d p = .ok [remark] := by rw [stored_eq_ofBytes reaches, content, one]
  refine ⟨reaches, content, openFile_of_stored folders kept, ?_, ?_⟩
  · rw [load_none, all, kept]
  · rw [run_cons, perform, save_new new append]
    rfl

theorem loaded_after_saves_iff_finished :
    let p : Path := ⟨["events.jsonl"]⟩
    let d := directoryOf "events.jsonl" (EventFile.contentOf [remark])
    ∃ s, openFile d p = (.ok s, d) ∧ s.load none = .ok [remark] ∧
      (s.run [.save furtherRemark]).1 = [.saved (.ok true)] ∧
      (s.run [.save furtherRemark]).2.load none = .ok [remark, furtherRemark] := by
  intro p d
  have one : EventFile.ofBytes p.text (EventFile.contentOf [remark]) = .ok [remark] := by
    rw [EventFile.ofBytes, EventFile.lines_contentOf]
    exact EventFile.eventsOfLines_texts (List.forall_mem_singleton.mpr lasting_remark) 1
  obtain ⟨reaches, content, opened, before, saved⟩ := opened_with_remark one
  have finished : EventFile.Appendable (d.content p) := by
    have ends : EventFile.contentOf [remark] = Text.encodeUtf8 remark.text ++ [Text.lineFeed] :=
      List.append_nil _
    refine ⟨"", ?_, List.forall_mem_nil _⟩
    rw [content, ends, Text.unfinished_append_cons List.not_mem_nil, EventFile.decodeUtf8?_nil]
  have loaded := loaded_after_saves_iff d d p _ [remark] [furtherRemark] opened before (by simp)
    (List.forall_mem_singleton.mpr lasting_furtherRemark.2)
    (by rw [List.map_singleton, saved]; exact List.forall_mem_singleton.mpr rfl)
  exact ⟨_, opened, before, saved,
    loaded.mpr ⟨finished, List.forall_mem_singleton.mpr lasting_furtherRemark.1⟩⟩

/-- The file ends in its event, and the next one is written into the same line. -/
theorem unfinished_line_swallows_save :
    let p : Path := ⟨["events.jsonl"]⟩
    let d := directoryOf "events.jsonl" (Text.encodeUtf8 remark.text)
    ∃ s, openFile d p = (.ok s, d) ∧ s.load none = .ok [remark] ∧
      (s.run [.save furtherRemark]).1 = [.saved (.ok true)] ∧
      (s.run [.save furtherRemark]).2.load none ≠ .ok [remark, furtherRemark] := by
  intro p d
  have oneLine := Text.lines_of_not_mem (EventFile.lineFeed_not_mem remark) (EventFile.encoded_ne_nil remark)
  have one : EventFile.ofBytes p.text (Text.encodeUtf8 remark.text) = .ok [remark] := by
    rw [EventFile.ofBytes, oneLine]
    exact EventFile.eventsOfLines_texts (List.forall_mem_singleton.mpr lasting_remark) 1
  obtain ⟨reaches, content, opened, before, saved⟩ := opened_with_remark one
  refine ⟨_, opened, before, saved, fun loaded => ?_⟩
  have answers : ∀ a ∈ ((file d p [remark.id]).run ([furtherRemark].map .save)).1,
      a = .saved (.ok true) := by
    rw [List.map_singleton, saved]
    exact List.forall_mem_singleton.mpr rfl
  have swallowed := load_after_saves reaches answers
  rw [List.map_singleton, loaded, content] at swallowed
  obtain ⟨⟨s, decoded, spaces⟩, -⟩ := (EventFile.ofBytes_append_iff one (by simp)
    (List.forall_mem_singleton.mpr lasting_furtherRemark.2)).mp swallowed.symm
  rw [Text.unfinished_of_not_mem (EventFile.lineFeed_not_mem remark), Text.decodeUtf8?_encodeUtf8] at decoded
  cases decoded
  obtain ⟨cs, text⟩ := remark.toList_text
  have brace := spaces '\x7b' (by rw [text]; exact List.mem_cons_self)
  revert brace
  decide

end Remarks

end EventLedger.EventStore
