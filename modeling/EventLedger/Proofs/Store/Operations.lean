import EventLedger.Proofs.Files.Contents
import EventLedger.Proofs.Store.EventFile
import EventLedger.Store.EventStore

/-! Stores taken through operations, and what one operation leaves in a file. -/

namespace EventLedger.EventStore

inductive Operation where
  | save (e : Event)
  | load (aggregate : Option String)
  | reopen

inductive Answer where
  | saved (x : Except LedgerError Bool)
  | loaded (x : Except LedgerError (List Event))
  | reopened (x : Except LedgerError Unit)

/-- Closes a store and opens it again. What is in memory stays. -/
def reopen (s : EventStore) : Except LedgerError Unit × EventStore :=
  match s with
  | memory _ => (.ok (), s)
  | file d p ids =>
    match openFile d p with
    | (.ok s, _) => (.ok (), s)
    | (.error e, d) => (.error e, file d p ids)

def perform (s : EventStore) : Operation → Answer × EventStore
  | .save e => let (x, s) := s.save e; (.saved x, s)
  | .load aggregate => (.loaded (s.load aggregate), s)
  | .reopen => let (x, s) := s.reopen; (.reopened x, s)

def run (s : EventStore) : List Operation → List Answer × EventStore
  | [] => ([], s)
  | op :: ops =>
    let (answer, s) := s.perform op
    let (answers, s) := s.run ops
    (answer :: answers, s)

theorem run_cons (s : EventStore) (op : Operation) (ops : List Operation) :
    s.run (op :: ops) =
      ((s.perform op).1 :: ((s.perform op).2.run ops).1, ((s.perform op).2.run ops).2) := rfl

variable {d d' : Directory} {p : Path} {place : Place} {ids : List EventId} {e : Event} {s : EventStore}

theorem stored_absent (absent : d.contains p = false) : stored d p = .ok [] := by
  rw [stored, absent]
  rfl

/-- What a file keeps depends on its bytes only; a file that is missing keeps what an empty one does. -/
theorem stored_eq_ofBytes (reaches : d.Reaches p place) :
    stored d p = EventFile.ofBytes p.text (d.content p) := by
  rw [stored, reaches.contains, reaches.content, Directory.bytesAt]
  cases entry : d.at? place with
  | none => rfl
  | some kept =>
    cases kept with
    | file content =>
      have found : d.find p = .ok (.file content) := by rw [reaches.find, entry]
      rw [EventFile.read, found]
      rfl
    | folder => exact absurd entry reaches.free

theorem openFile_eq_ok (h : openFile d p = (.ok s, d')) :
    ∃ es : List Event, d.makeFolders p.parent = (.ok (), d') ∧ stored d' p = .ok es ∧
      s = file d' p (es.map (·.id)) := by
  unfold openFile at h
  split at h
  · cases h
  · rename_i made folders
    obtain ⟨opened, rfl⟩ := Prod.mk.inj h
    obtain ⟨es, read, rfl⟩ := map_eq_ok.mp opened
    exact ⟨es, folders, read, rfl⟩

theorem openFile_of_stored {es : List Event} (folders : d.makeFolders p.parent = (.ok (), d))
    (read : stored d p = .ok es) : openFile d p = (.ok (file d p (es.map (·.id))), d) := by
  rw [openFile, folders]
  dsimp only
  rw [read]
  rfl

/-- The file after a line was appended to it. -/
theorem appended (reaches : d.Reaches p place) (e : Event) :
    ∃ d', d.append p (EventFile.lineOf e) = .ok d' ∧ d'.Reaches p place ∧ d.KeepsFolders d' ∧
      d'.content p = d.content p ++ EventFile.lineOf e := by
  obtain ⟨reached, entry⟩ := reaches.set (d.bytesAt place ++ EventFile.lineOf e)
  refine ⟨_, reaches.append _, reached, reaches.set_keeps _, ?_⟩
  rw [reached.content, reaches.content, Directory.bytesAt, entry]

theorem save_known (known : e.id ∈ ids) : (file d p ids).save e = (.ok false, file d p ids) := by
  rw [save, if_pos (List.contains_iff_mem.mpr known)]

theorem save_new (new : e.id ∉ ids) (append : d.append p (EventFile.lineOf e) = .ok d') :
    (file d p ids).save e = (.ok true, file d' p (ids ++ [e.id])) := by
  rw [save, if_neg (fun known => new (List.contains_iff_mem.mp known)), append]

theorem save_eq_true (h : (file d p ids).save e = (.ok true, s)) :
    ∃ d', d.append p (EventFile.lineOf e) = .ok d' ∧ s = file d' p (ids ++ [e.id]) := by
  unfold save at h
  dsimp only at h
  split at h
  · cases h
  · split at h
    · cases h
    · rename_i d' append
      cases h
      exact ⟨d', append, rfl⟩

/-- A save that fails adds no id. The file has got a beginning of the line, of as many bytes as there
    was room for. -/
theorem save_eq_error {room : Option Nat} {err : LedgerError}
    (h : (file d p ids).save e room = (.error err, s)) :
    ∃ d' n, s = file d' p ids ∧ n < (EventFile.lineOf e).length ∧
      d'.content p = d.content p ++ (EventFile.lineOf e).take n := by
  unfold save at h
  dsimp only at h
  split at h
  · cases h
  · split at h
    · rename_i problem d' failed
      obtain ⟨-, rfl⟩ := Prod.mk.inj h
      obtain rfl | ⟨place, n, reaches, -, short, rfl⟩ := Directory.append_eq_error failed
      · refine ⟨d', 0, rfl, ?_, ?_⟩
        · rw [EventFile.lineOf, List.length_append, List.length_singleton]
          omega
        · rw [List.take_zero, List.append_nil]
      · refine ⟨_, n, rfl, short, ?_⟩
        obtain ⟨reached, entry⟩ := reaches.set (d.bytesAt place ++ (EventFile.lineOf e).take n)
        rw [reached.content, reaches.content, Directory.bytesAt, entry]
    · cases h

end EventLedger.EventStore
