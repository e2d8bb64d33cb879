import EventLedger.Proofs.Files.Contents
import Mathlib.Logic.Function.Iterate

/-! A path that leads to a file ends in the name of its place. Folders are made without touching a
file. -/

namespace EventLedger

namespace Place

theorem isGiven_above {q : Place} (given : q.isGiven = true) : q.above.isGiven = true := by
  by_cases top : q = root
  · simp [above, top, isGiven]
  · have up : q.names.all (· == "..") = true := by simpa [isGiven, top] using given
    have climbed : q.above = ⟨q.names ++ [".."]⟩ := by rw [above, if_neg top, if_pos up]
    rw [climbed, isGiven, List.all_append, up]
    simp

theorem isGiven_iterate {q : Place} (given : q.isGiven = true) (n : Nat) :
    (above^[n] q).isGiven = true := by
  induction n generalizing q with
  | zero => exact given
  | succ n ih => exact ih (isGiven_above given)

/-- A name leads down, so the way up from it leads back. -/
theorem above_child {q : Place} {name : String} (down : name ≠ "..") (inner : q.child name ≠ root) :
    (q.child name).above = q := by
  have some : (q.child name).names.all (· == "..") = false := by simp [child, down]
  rw [above, if_neg inner, some, if_neg Bool.false_ne_true, child, List.dropLast_concat]

end Place

namespace Directory

variable {d d' d'' : Directory}

/-- Everything above a place is a folder. -/
def Upward (d : Directory) (q : Place) : Prop :=
  ∀ n, d.at? (Place.above^[n] q.above) = some .folder

theorem upward_given {q : Place} (given : q.isGiven = true) : d.Upward q := fun n =>
  at?_given (Place.isGiven_iterate (Place.isGiven_above given) n)

theorem Upward.step {q r : Place} {segment : String} (up : d.Upward q)
    (h : d.step q segment = .ok r) : d.Upward r := by
  have folder := folder_of_step h
  obtain ⟨⟨⟩, -, h⟩ := bind_eq_ok.mp h
  split_ifs at h with idle upward long
  · cases h
    exact up
  · cases h
    intro n
    exact up (n + 1)
  · cases h
    by_cases top : q.child segment = .root
    · exact upward_given (by rw [top]; rfl)
    · have back := Place.above_child (by simpa using upward) top
      intro n
      rw [back]
      cases n with
      | zero => exact folder
      | succ n => exact up n

theorem Upward.steps {segments : List String} {q r : Place} (up : d.Upward q)
    (h : segments.foldlM d.step q = .ok r) : d.Upward r := by
  induction segments generalizing q with
  | nil =>
    cases h
    exact up
  | cons segment segments ih =>
    rw [List.foldlM_cons] at h
    obtain ⟨next, step, h⟩ := bind_eq_ok.mp h
    exact ih (up.step step) h

theorem walk_upward {p : Path} {segments : List String} {q : Place} (h : d.walk p segments = .ok q) :
    d.Upward q := by
  obtain ⟨⟨⟩, -, h⟩ := bind_eq_ok.mp h
  have start : d.Upward (if p.isAbsolute then .root else .here) := by
    split
    · exact upward_given rfl
    · exact upward_given rfl
  exact start.steps h

/-- A path that leads to no folder ends in a name. -/
theorem meansFolder_of_locate {p : Path} {place : Place} (h : d.locate p = .ok place)
    (free : d.at? place ≠ some .folder) : p.meansFolder = false := by
  obtain ⟨⟨⟩, text, steps⟩ := bind_eq_ok.mp h
  cases ends : p.segments.getLast? with
  | none =>
    have bare := List.getLast?_eq_none_iff.mp ends
    rw [bare] at steps
    cases steps
    refine absurd ?_ free
    split
    · exact at?_given rfl
    · exact at?_given rfl
  | some last =>
    obtain ⟨others, segments⟩ := List.getLast?_eq_some_iff.mp ends
    rw [segments, List.foldlM_append] at steps
    obtain ⟨folder, front, step⟩ := bind_eq_ok.mp steps
    rw [List.foldlM_cons] at step
    obtain ⟨q, step, same⟩ := bind_eq_ok.mp step
    cases same
    have up : d.Upward folder := walk_upward (bind_eq_ok.mpr ⟨(), text, front⟩)
    have here := folder_of_step step
    obtain ⟨⟨⟩, -, step⟩ := bind_eq_ok.mp step
    rw [Path.meansFolder, ends, Option.all_some]
    split_ifs at step with idle upward long
    · cases step
      exact absurd here free
    · cases step
      exact absurd (up 0) free
    · simp [idle, upward]

/-- What can be read is a file at a place that the path leads to by name. -/
theorem read_eq_ok {p : Path} {content : List UInt8} :
    d.read p = .ok content ↔ ∃ place, d.Reaches p place ∧ d.at? place = some (.file content) := by
  constructor
  · intro h
    obtain ⟨e, found, h⟩ := bind_eq_ok.mp h
    obtain ⟨place, located, found⟩ := bind_eq_ok.mp found
    cases e with
    | folder => cases h
    | file content =>
      cases h
      have entry : d.at? place = some (.file content) := by
        split at found
        · rename_i e stands
          cases found
          exact stands
        · cases found
      have free : d.at? place ≠ some .folder := by
        rw [entry]
        exact nofun
      have file := meansFolder_of_locate located free
      obtain ⟨-, plain, -⟩ := Path.segments_of_file file
      exact ⟨place, ⟨file, locate_eq_ok (Path.ne_empty_of_not_idle plain) located, free⟩, entry⟩
  · rintro ⟨place, reaches, entry⟩
    exact reaches.read entry

/-- A file that is written leaves those of other names as they were. -/
theorem Reaches.read_other {p q : Path} {place : Place} (reaches : d.Reaches p place)
    (content : List UInt8) (other : q.last ≠ p.last) :
    ((d.set place (.file content)).read q).toOption = (d.read q).toOption := by
  have apart {target : Place} (reached : d.Reaches q target) : target ≠ place := by
    rintro rfl
    have names := reached.lastName
    rw [reaches.lastName] at names
    exact other (Option.some.inj names).symm
  have kept {target : Place} (reached : d.Reaches q target) :
      (d.set place (.file content)).at? target = d.at? target := by
    rw [at?_set d reaches.not_given, if_neg (apart reached)]
  refine Option.ext fun bytes => ?_
  rw [toOption_eq_some, toOption_eq_some, read_eq_ok, read_eq_ok]
  constructor
  · rintro ⟨target, reached, entry⟩
    have before := reaches.reaches_of_set reached
    exact ⟨target, before, by rw [← kept before, entry]⟩
  · rintro ⟨target, reached, entry⟩
    exact ⟨target, reaches.set_reaches reached content, by rw [kept reached, entry]⟩

/-- The bytes of the file that stands at a place, if one does. -/
def file? (d : Directory) (place : Place) : Option (List UInt8) :=
  match d.at? place with
  | some (.file content) => some content
  | _ => none

theorem file?_eq_some {place : Place} {content : List UInt8} :
    d.file? place = some content ↔ d.at? place = some (.file content) := by
  unfold file?
  split <;> simp_all

/-- There may be more folders; the files are the same. -/
structure GainsFolders (d d' : Directory) : Prop where
  folders : KeepsFolders d d'
  files : ∀ place, d'.file? place = d.file? place

theorem GainsFolders.refl (d : Directory) : GainsFolders d d := ⟨.refl d, fun _ => rfl⟩

theorem GainsFolders.trans (h : GainsFolders d d') (h' : GainsFolders d' d'') : GainsFolders d d'' :=
  ⟨h.folders.trans h'.folders, fun place => (h'.files place).trans (h.files place)⟩

theorem makeFolder_gains {p : Path} (h : d.makeFolder p = .ok d') : GainsFolders d d' := by
  refine ⟨(makeFolder_keeps h).1, fun place => ?_⟩
  obtain ⟨-, -, made, -, -, none, rfl⟩ := makeFolder_eq_ok h
  have free := not_given (d := d) (p := made) (by rw [none]; exact nofun)
  unfold file?
  rw [at?_set d free]
  split_ifs with here
  · rw [here, none]
  · rfl

theorem ensureFolder_gains {p : Path} (h : d.ensureFolder p = .ok d') : GainsFolders d d' := by
  unfold ensureFolder at h
  split at h
  · rename_i made
    cases h
    exact makeFolder_gains made
  · split at h
    · cases h
      exact .refl d
    · cases h

/-- Folders are made, as far as they can be, and nothing else is. -/
theorem makeFolders_gains (d : Directory) (p : Path) : GainsFolders d (d.makeFolders p).2 := by
  fun_induction makeFolders d p with
  | case1 => exact .refl _
  | case2 p some d made => exact ensureFolder_gains made
  | case3 p some missing e d failed ih => simpa [failed] using ih
  | case4 p some missing d above d' made ih =>
    rw [above] at ih
    exact ih.trans (ensureFolder_gains made)
  | case5 p some missing d above e failed ih => simpa [above] using ih
  | case6 => exact .refl _

theorem Reaches.gains {p : Path} {place : Place} (reaches : d.Reaches p place)
    (gains : GainsFolders d d') {content : List UInt8}
    (entry : d.at? place = some (.file content)) :
    d'.Reaches p place ∧ d'.at? place = some (.file content) := by
  have kept : d'.at? place = some (.file content) := by
    rw [← file?_eq_some, gains.files, file?_eq_some]
    exact entry
  exact ⟨reaches.keeps gains.folders (by rw [kept]; exact nofun), kept⟩

end Directory
end EventLedger
