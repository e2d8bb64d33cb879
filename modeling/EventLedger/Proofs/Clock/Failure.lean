import EventLedger.Proofs.Clock.Refinement
import EventLedger.Proofs.Files.Untouched

/-! An operation on a clock file that fails leaves the file as it was, also where there is too little room
for what it writes. One that gives out a value has saved that value for its node, and has changed no
other node. -/

namespace EventLedger

namespace ClockStorage

open Directory

variable {d d' : Directory} {p : Path} {v : ClockValues} {e : LedgerError}

/-- A path leads to the same file in two directories. A file that is read afterwards stood where it
    stands, though a missing folder may have been in the way. -/
structure Unchanged (p : Path) (d d' : Directory) : Prop where
  kept : ∀ bytes, d.read p = .ok bytes → d'.read p = .ok bytes
  stood : ∀ bytes, d'.read p = .ok bytes →
    ∃ place, d'.locate p = .ok place ∧ d.at? place = some (.file bytes)
  same : p.parent.isEmpty = true ∨ d.isFolder p.parent = true →
    (d'.read p).toOption = (d.read p).toOption

theorem Unchanged.refl (p : Path) (d : Directory) : Unchanged p d d where
  kept _ read := read
  stood bytes read := by
    obtain ⟨place, reaches, entry⟩ := read_eq_ok.mp read
    obtain ⟨folder, walk, step⟩ := reaches.way
    exact ⟨place, locate_of_file reaches.file walk step, entry⟩
  same _ := rfl

/-- It is enough that the path reads alike once the missing folders are there. -/
theorem unchanged_of_made (h : (d'.read p).toOption = ((d.makeFolders p.parent).2.read p).toOption)
    (keeps : KeepsFolders (d.makeFolders p.parent).2 d') : Unchanged p d d' := by
  have gains := makeFolders_gains d p.parent
  have alike (bytes : List UInt8) :
      d'.read p = .ok bytes ↔ (d.makeFolders p.parent).2.read p = .ok bytes := by
    rw [← toOption_eq_some, h, toOption_eq_some]
  refine ⟨fun bytes read => ?_, fun bytes read => ?_, fun there => ?_⟩
  · obtain ⟨place, reaches, entry⟩ := read_eq_ok.mp read
    exact (alike bytes).mpr (read_eq_ok.mpr ⟨place, reaches.gains gains entry⟩)
  · obtain ⟨place, reaches, entry⟩ := read_eq_ok.mp ((alike bytes).mp read)
    obtain ⟨folder, walk, step⟩ := reaches.way
    refine ⟨place, walk_keeps keeps (locate_of_file reaches.file walk step), ?_⟩
    rw [← file?_eq_some, ← gains.files, file?_eq_some]
    exact entry
  · rw [h, makeFolders_of_isFolder there]

/-- A path that can be reached can be moved to. -/
theorem not_reached_of_rename {draft : Path} {s : Place} {content : List UInt8}
    {problem : FileProblem} (reaches : d.Reaches draft s)
    (entry : d.at? s = some (.file content)) (failed : d.rename draft p = .error problem)
    (place : Place) : ¬ d.Reaches p place := by
  intro target
  rw [reaches.rename target entry] at failed
  cases failed

theorem read_of_not_reached (h : ∀ place, ¬ d.Reaches p place) : (d.read p).toOption = none := by
  cases read : d.read p with
  | error problem => rfl
  | ok bytes =>
    obtain ⟨place, reaches, -⟩ := read_eq_ok.mp read
    exact absurd reaches (h place)

/-- Whatever is left of a draft, the path does not lead to it. -/
def Apart (p : Path) (room : Option Nat) : Prop := room = none ∨ p.last ≠ (draftOf p).last

/-- A document that cannot be written stays. Where there is too little room, it is its draft that is
    torn, so the draft must have another name. -/
theorem writeDocument_failed {room : Option Nat} (apart : Apart p room)
    (h : writeDocument d p v room = (.error e, d')) : Unchanged p d d' := by
  unfold writeDocument at h
  split at h
  · rename_i made folders
    cases h
    exact unchanged_of_made (by rw [folders]) (by rw [folders]; exact .refl _)
  · rename_i made folders
    dsimp only at h
    split at h
    · rename_i problem left torn
      cases h
      obtain rfl | ⟨s, n, draft, limited, -, rfl⟩ := write_eq_error torn
      · exact unchanged_of_made (by rw [folders]) (by rw [folders]; exact .refl _)
      · have other := apart.resolve_left (by rw [limited]; exact Option.some_ne_none n)
        refine unchanged_of_made ?_ (by rw [folders]; exact draft.set_keeps _)
        rw [folders, draft.read_other _ other]
    · rename_i drafted wrote
      obtain ⟨s, draft, rfl⟩ := reaches_of_write wrote
      obtain ⟨draft', entry⟩ := draft.set (Text.encodeUtf8 v.text)
      split at h
      · rename_i stuck
        cases h
        -- A draft that stays behind is no file of the path: the path leads to no file at all.
        obtain ⟨problem, stuck, -⟩ := mapError_eq_error.mp stuck
        have after := not_reached_of_rename draft' entry stuck
        have before (place : Place) (reached : made.Reaches p place) : False :=
          after place (draft.set_reaches reached _)
        refine unchanged_of_made ?_ (by rw [folders]; exact draft.set_keeps _)
        rw [folders, read_of_not_reached after, read_of_not_reached before]
      · cases h

/-- A step over a clock file that leaves the document as it was when it fails. -/
def Careful {α : Type} (d : Directory) (p : Path) (done : Except LedgerError α × ClockStorage) : Prop :=
  ∃ d', done.2 = file d' p ∧ ∀ e, done.1 = .error e → Unchanged p d d'

theorem careful_of_idle {α : Type} (x : Except LedgerError α) : Careful d p (x, file d p) :=
  ⟨d, rfl, fun _ _ => .refl p d⟩

section Room

variable {room : Option Nat} (apart : Apart p room)
include apart

theorem save_careful (d : Directory) (node : String) (value : Int) :
    Careful d p ((file d p).save node value room) := by
  unfold save
  split
  · exact careful_of_idle _
  · dsimp only
    split
    · exact careful_of_idle _
    · rename_i v read
      refine ⟨(writeDocument d p (v.insert node value) room).2, rfl, fun e failed => ?_⟩
      exact writeDocument_failed apart (Prod.ext failed rfl)

/-- A value that was saved can be given out, so only what comes before the saving can fail. -/
theorem commit_careful (d : Directory) (node : String) (next : Except LedgerError Int) :
    Careful d p ((file d p).commit node next room) := by
  cases next with
  | error e => exact careful_of_idle _
  | ok value =>
    obtain ⟨d', stored, unchanged⟩ := save_careful apart d node value
    unfold commit
    dsimp only
    split
    · rename_i e s failed
      rw [failed] at stored unchanged
      exact ⟨d', stored, fun _ _ => unchanged e rfl⟩
    · rename_i s saved
      have low := save_eq_ok (save_enough saved)
      rw [saved] at stored
      refine ⟨d', stored, fun e failed => ?_⟩
      rw [asClock, if_neg (by omega)] at failed
      cases failed

theorem tick_careful (d : Directory) (node : String) :
    Careful d p ((file d p).tick node room) := commit_careful apart d node _

theorem update_careful (d : Directory) (node : String) (remote : Nat) :
    Careful d p ((file d p).update node remote room) := by
  unfold update
  split
  · exact careful_of_idle _
  · exact commit_careful apart d node _

end Room

end ClockStorage

namespace ClockRegistry

open ClockStorage Directory

def Answer.error? : Answer → Option LedgerError
  | .clock (.error e) | .saved (.error e) | .loaded (.error e) => some e
  | _ => none

/-- The node whose clock an operation advances, and where to from the value that is stored. -/
def Operation.advance? : Operation → Option (String × (Int → Int))
  | .tick node => some (node, fun old => old + 1)
  | .update node remote => some (node, fun old => max old remote.toNat + 1)
  | _ => none

theorem Answer.clock_error {x : Except LedgerError Nat} {e : LedgerError}
    (h : (Answer.clock x).error? = some e) : x = .error e := by
  cases x with
  | error problem => rw [Option.some.inj h]
  | ok clock => cases h

theorem Answer.saved_error {x : Except LedgerError Unit} {e : LedgerError}
    (h : (Answer.saved x).error? = some e) : x = .error e := by
  cases x with
  | error problem => rw [Option.some.inj h]
  | ok => cases h

theorem perform_careful (d : Directory) (p : Path) (nodes : GrowSet) (op : Operation) :
    let done := (⟨.file d p, nodes⟩ : ClockRegistry).perform op
    ∃ d', done.2.storage = .file d' p ∧ ∀ e, done.1.error? = some e → Unchanged p d d' := by
  intro done
  cases op with
  | tick node =>
    obtain ⟨d', stored, unchanged⟩ := tick_careful (Or.inl rfl) d node
    exact ⟨d', stored, fun e failed => unchanged e (Answer.clock_error failed)⟩
  | update node remote =>
    obtain ⟨d', stored, unchanged⟩ := update_careful (Or.inl rfl) d node remote.toNat
    exact ⟨d', stored, fun e failed => unchanged e (Answer.clock_error failed)⟩
  | save node value =>
    obtain ⟨d', stored, unchanged⟩ := save_careful (Or.inl rfl) d node value.toInt
    exact ⟨d', stored, fun e failed => unchanged e (Answer.saved_error failed)⟩
  | current node => exact ⟨d, rfl, fun _ _ => .refl p d⟩
  | load node => exact ⟨d, rfl, fun _ _ => .refl p d⟩
  | restart => exact ⟨d, rfl, fun _ _ => .refl p d⟩

/-- A clock that was given out is the one that is stored, and no other node has changed. -/
theorem perform_advance {r : ClockRegistry} {op : Operation} {node : String} {next : Int → Int}
    {clock : Nat} (advance : op.advance? = some (node, next))
    (given : (r.perform op).1 = .clock (.ok clock)) :
    ∃ old, r.storage.load node = .ok old ∧ (clock : Int) = next old ∧
      ∀ other, (r.perform op).2.storage.load other =
        if node = other then .ok (clock : Int) else r.storage.load other := by
  cases op with
  | tick n =>
    cases advance
    exact tick_eq_ok (Prod.ext (Answer.clock.inj given) rfl)
  | update n remote =>
    cases advance
    exact update_eq_ok (Prod.ext (Answer.clock.inj given) rfl)
  | current _ => cases advance
  | save _ _ => cases advance
  | load _ => cases advance
  | restart => cases advance

/-- Whatever stands where clock values are kept, an operation that fails leaves it byte for byte, and
    one that gives out a clock has stored that clock for its node and nothing else. So nothing is
    stored by an operation that fails. -/
theorem failure_stores_nothing (d : Directory) (p : Path) (nodes : GrowSet) (op : Operation) :
    let done := (⟨.file d p, nodes⟩ : ClockRegistry).perform op
    ∃ d', done.2.storage = .file d' p ∧
      (∀ e, done.1.error? = some e → Unchanged p d d') ∧
      ∀ node next clock, op.advance? = some (node, next) → done.1 = .clock (.ok clock) →
        ∃ old, (ClockStorage.file d p).load node = .ok old ∧ (d.contains p = false → old = 0) ∧
          (clock : Int) = next old ∧
          ∀ other, (ClockStorage.file d' p).load other =
            if node = other then .ok (clock : Int) else (ClockStorage.file d p).load other := by
  intro done
  obtain ⟨d', stored, unchanged⟩ := perform_careful d p nodes op
  refine ⟨d', stored, unchanged, fun node next clock advance given => ?_⟩
  obtain ⟨old, load, moved, values⟩ := perform_advance advance given
  refine ⟨old, load, fun absent => ?_, moved, fun other => ?_⟩
  · rw [ClockStorage.load, readDocument_absent absent] at load
    exact (Except.ok.inj load).symm
  · rw [← stored]
    exact values other

/-- A file that is no text refuses a tick and keeps its bytes; where none is, the first tick is
    stored. -/
theorem failure_stores_nothing_first_ticks :
    let p : Path := ⟨["clock.json"]⟩
    let d : Directory := ⟨[(⟨["clock.json"]⟩, .file [255])]⟩
    let refused := (⟨.file d p, .empty⟩ : ClockRegistry).perform (.tick "a")
    let ticked := (⟨.file .empty p, .empty⟩ : ClockRegistry).perform (.tick "a")
    (∃ e d', refused.1.error? = some e ∧ refused.2.storage = .file d' p ∧ d'.read p = .ok [255]) ∧
      ticked.1 = .clock (.ok 1) ∧
      ∃ d', ticked.2.storage = .file d' p ∧ (ClockStorage.file d' p).load "a" = .ok 1 := by
  intro p d refused ticked
  have there : d.Reaches p ⟨["clock.json"]⟩ :=
    reaches_name (by decide) (by decide) (by simp) (by decide) (by decide)
  have target : Directory.empty.Reaches p ⟨["clock.json"]⟩ :=
    reaches_name (by decide) (by decide) (by simp) (by decide) (by decide)
  have draft : Directory.empty.Reaches ⟨["clock.tmp"]⟩ ⟨["clock.tmp"]⟩ :=
    reaches_name (by decide) (by decide) (by simp) (by decide) (by decide)
  have read : d.read p = .ok [255] := there.read rfl
  have failed : refused.1.error? =
      some (.withCause .clockStorageFailed FileProblem.notText.message) := by
    have unreadable : readDocument d p =
        .error (.withCause .clockStorageFailed FileProblem.notText.message) := by
      have noText : Text.decodeUtf8? [255] = none := by
        rw [Text.decodeUtf8?, Text.utf8Chars]
        rfl
      rw [readDocument, if_pos (by rw [there.contains]; rfl), readText, read, ok_bind, noText]
      rfl
    change (Answer.clock ((ClockStorage.file d p).tick "a").1).error? = _
    rw [ClockStorage.tick, ClockStorage.load, unreadable]
    rfl
  have given : ticked.1 = .clock (.ok 1) := by
    have mirrors : Mirrors (.memory .empty) (.file .empty p) :=
      ⟨ClockValues.Fit.empty, readDocument_absent target.contains⟩
    have ready : Ready .empty p :=
      ⟨.empty, _, _, makeFolders_of_isFolder (Or.inl (by decide)), draft, target⟩
    exact congrArg Answer.clock (tick_mirrored mirrors ready "a").1
  obtain ⟨d', stored, unchanged, -⟩ := failure_stores_nothing d p .empty (.tick "a")
  obtain ⟨last, lastStored, -, advanced⟩ := failure_stores_nothing .empty p .empty (.tick "a")
  obtain ⟨old, -, -, -, values⟩ := advanced "a" _ 1 rfl given
  refine ⟨⟨_, d', failed, stored, (unchanged _ failed).kept [255] read⟩, given, last, lastStored, ?_⟩
  rw [values "a", if_pos rfl]
  rfl

end ClockRegistry
end EventLedger
