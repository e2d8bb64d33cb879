import EventLedger.Clock.Registry
import EventLedger.Proofs.Clock.Document
import EventLedger.Proofs.Files.Contents
import EventLedger.Proofs.Text.Utf8

/-! What is saved for a node is loaded again, and nothing else changes, in memory and in a file. -/

namespace EventLedger.ClockStorage

open Directory

variable {d d' : Directory} {p : Path} {v : ClockValues}

/-- A document can be written: the folders that lead to it are made, and it and its draft stand in
    them or may stand there. -/
def Ready (d : Directory) (p : Path) : Prop :=
  ∃ made s t, d.makeFolders p.parent = (.ok (), made) ∧ made.Reaches (draftOf p) s ∧
    made.Reaches p t

theorem fileFailure_eq_ok {α : Type} {x : Except FileProblem α} {a : α} :
    fileFailure x = .ok a ↔ x = .ok a := mapError_eq_ok

theorem ready_of_writeDocument (h : writeDocument d p v = (.ok (), d')) : Ready d p := by
  unfold writeDocument at h
  split at h
  · cases h
  · rename_i made folders
    dsimp only at h
    split at h
    · cases h
    · rename_i drafted wrote
      split at h
      · cases h
      · rename_i moved renamed
        obtain ⟨s, draft, rfl⟩ := reaches_of_write wrote
        obtain ⟨-, t, target⟩ := reaches_of_rename (fileFailure_eq_ok.mp renamed)
        exact ⟨made, s, t, folders, draft, draft.reaches_of_set target⟩

/-- Where one document can be written, every document can be written, time after time. -/
theorem Ready.writeDocument (ready : Ready d p) (v : ClockValues) :
    ∃ d', writeDocument d p v = (.ok (), d') ∧ Ready d' p ∧ d'.contains p = true ∧
      d'.read p = .ok (Text.encodeUtf8 v.text) := by
  obtain ⟨made, s, t, folders, draft, target⟩ := ready
  obtain ⟨drafted, last, wrote, renamed, keeps, draft, target, content⟩ :=
    replaced draft target (Text.encodeUtf8 v.text)
  refine ⟨last, ?_, ⟨last, s, t, makeFolders_again folders keeps, draft, target⟩, ?_, ?_⟩
  · rw [ClockStorage.writeDocument, folders]
    simp only [wrote, renamed, fileFailure, ok_mapError]
  · rw [target.contains, content]
    rfl
  · exact target.read content

theorem readDocument_absent (absent : d.contains p = false) : readDocument d p = .ok .empty := by
  rw [readDocument, absent]
  rfl

theorem readDocument_written (fit : v.Fit) (present : d.contains p = true)
    (content : d.read p = .ok (Text.encodeUtf8 v.text)) : readDocument d p = .ok v := by
  rw [readDocument, if_pos present, readText, content, ok_bind, Text.decodeUtf8?_encodeUtf8]
  simp only [fileFailure, ok_mapError, ok_bind, ClockValues.ofText_text fit]

theorem fit_of_readDocument (h : readDocument d p = .ok v) : v.Fit := by
  unfold readDocument at h
  split at h
  · obtain ⟨s, -, h⟩ := bind_eq_ok.mp h
    exact ClockValues.fit_of_ofText (mapError_eq_ok.mp h)
  · cases h
    exact ClockValues.Fit.empty

/-- Room that was enough makes no difference. -/
theorem writeDocument_enough {room : Option Nat} (h : writeDocument d p v room = (.ok (), d')) :
    writeDocument d p v = (.ok (), d') := by
  unfold writeDocument at *
  split at h
  · cases h
  · dsimp only at *
    split at h
    · cases h
    · rename_i drafted wrote
      obtain ⟨s, draft, rfl⟩ := reaches_of_write wrote
      rw [draft.write]
      exact h

/-- A document that could be written is the one that is read from then on. -/
theorem readDocument_of_writeDocument (fit : v.Fit) (h : writeDocument d p v = (.ok (), d')) :
    readDocument d' p = .ok v := by
  obtain ⟨last, wrote, -, present, content⟩ := (ready_of_writeDocument h).writeDocument v
  rw [h] at wrote
  cases wrote
  exact readDocument_written fit present content

variable {s s' : ClockStorage} {node : String} {value : Int}

theorem save_eq_ok (h : s.save node value = (.ok (), s')) : 0 ≤ value := by
  unfold save at h
  split at h
  · cases h
  · omega

/-- What is saved is loaded, and the values of the other nodes stay. -/
theorem load_of_save (h : s.save node value = (.ok (), s')) (high : value ≤ greatestSigned64)
    (other : String) : s'.load other = if node = other then .ok value else s.load other := by
  have low := save_eq_ok h
  unfold save at h
  rw [if_neg (by omega)] at h
  cases s with
  | memory v =>
    cases h
    simp only [load, ClockValues.valueOf_insert]
    split <;> rfl
  | file d p =>
    dsimp only at h
    split at h
    · cases h
    · rename_i v read
      have fit : ClockValues.Fit (v.insert node value) :=
        (fit_of_readDocument read).insert (by simp only [leastSigned64]; omega) high node
      obtain ⟨result, d', wrote⟩ : ∃ result d', writeDocument d p (v.insert node value) = (result, d') :=
        ⟨_, _, rfl⟩
      rw [wrote] at h
      cases h
      simp only [load, readDocument_of_writeDocument fit wrote, read, Except.map,
        ClockValues.valueOf_insert]
      split <;> rfl

theorem save_enough {room : Option Nat} (h : s.save node value room = (.ok (), s')) :
    s.save node value = (.ok (), s') := by
  unfold save at *
  split
  · rename_i negative
    rw [if_pos negative] at h
    cases h
  · rename_i low
    rw [if_neg low] at h
    cases s with
    | memory v => exact h
    | file d p =>
      dsimp only at *
      split at h
      · cases h
      · rename_i v read
        obtain ⟨result, d', wrote⟩ :
            ∃ result d', writeDocument d p (v.insert node value) room = (result, d') := ⟨_, _, rfl⟩
        rw [wrote] at h
        cases h
        rw [writeDocument_enough wrote]

theorem advance_eq_ok {next : Int} :
    advance node value = .ok next ↔ next = value + 1 ∧ next ≤ greatestSigned64 := by
  unfold advance
  split
  · rename_i below
    rw [greatestValue] at below
    constructor
    · intro h
      cases h
      exact ⟨rfl, by omega⟩
    · rintro ⟨rfl, -⟩
      rfl
  · rename_i above
    rw [greatestValue] at above
    constructor
    · nofun
    · rintro ⟨rfl, high⟩
      omega

theorem asClock_eq_ok {clock : Nat} : asClock node value = .ok clock ↔ value = clock := by
  unfold asClock
  split
  · constructor
    · nofun
    · omega
  · constructor
    · intro h
      cases h
      omega
    · rintro rfl
      rfl

/-- The value that was given out is the one that was saved. -/
theorem commit_eq_ok {next : Except LedgerError Int} {room : Option Nat} {clock : Nat}
    (h : s.commit node next room = (.ok clock, s')) :
    next = .ok (clock : Int) ∧ s.save node clock = (.ok (), s') := by
  unfold commit at h
  split at h
  · cases h
  · rename_i value
    split at h
    · cases h
    · rename_i saved
      obtain ⟨given, same⟩ := Prod.mk.inj h
      obtain rfl := asClock_eq_ok.mp given
      exact ⟨rfl, save_enough (by rw [saved, same])⟩

/-- A tick gives out, and keeps, the value after the one that was kept. -/
theorem tick_eq_ok {room : Option Nat} {clock : Nat} (h : s.tick node room = (.ok clock, s')) :
    ∃ value, s.load node = .ok value ∧ (clock : Int) = value + 1 ∧
      ∀ other, s'.load other = if node = other then .ok (clock : Int) else s.load other := by
  obtain ⟨next, saved⟩ := commit_eq_ok h
  obtain ⟨value, load, advanced⟩ := bind_eq_ok.mp next
  obtain ⟨same, high⟩ := advance_eq_ok.mp advanced
  exact ⟨value, load, same, load_of_save saved high⟩

/-- An update gives out, and keeps, the value after the one that was kept and the one received. -/
theorem update_eq_ok {remote : Nat} {room : Option Nat} {clock : Nat}
    (h : s.update node remote room = (.ok clock, s')) :
    ∃ value, s.load node = .ok value ∧ (clock : Int) = max value remote + 1 ∧
      ∀ other, s'.load other = if node = other then .ok (clock : Int) else s.load other := by
  unfold update at h
  split at h
  · cases h
  · obtain ⟨next, saved⟩ := commit_eq_ok h
    obtain ⟨value, load, advanced⟩ := bind_eq_ok.mp next
    obtain ⟨same, high⟩ := advance_eq_ok.mp advanced
    exact ⟨value, load, same, load_of_save saved high⟩

end EventLedger.ClockStorage
