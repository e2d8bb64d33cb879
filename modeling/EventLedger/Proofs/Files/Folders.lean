import EventLedger.Files.Directory
import EventLedger.Proofs.Outcome
import Mathlib.Data.List.TakeWhile
import Mathlib.Tactic.SplitIfs

/-! Ways lead to the same places as long as the folders on them stay. A folder that was made is not
made again. -/

namespace EventLedger

namespace Path

theorem isIdle_empty : isIdle "" = true := by decide

/-- A path is its front, its last name and the slashes behind it. -/
theorem segments_eq_front {p : Path} (named : p.last ≠ "") :
    ∃ slashes : List String, (∀ s ∈ slashes, s = "") ∧
      p.segments = p.front ++ p.last :: slashes := by
  have split := List.takeWhile_append_dropWhile (p := (·.isEmpty)) (l := p.segments.reverse)
  cases names : p.segments.reverse.dropWhile (·.isEmpty) with
  | nil =>
    rw [last, names] at named
    exact absurd rfl named
  | cons name others =>
    rw [names] at split
    refine ⟨(p.segments.reverse.takeWhile (·.isEmpty)).reverse, ?_, ?_⟩
    · intro s member
      have empty := List.mem_takeWhile_imp (List.mem_reverse.mp member)
      simpa using empty
    · have reversed := congrArg List.reverse split
      rw [List.reverse_reverse, List.reverse_append, List.reverse_cons, List.append_assoc] at reversed
      rw [front, last, names, List.reverse_cons, List.dropLast_concat]
      exact reversed.symm

/-- A path that can lead to a file ends in the name of its place. -/
theorem segments_of_file {p : Path} (file : p.meansFolder = false) :
    p.segments = p.front ++ [p.last] ∧ isIdle p.last = false ∧ p.last ≠ ".." := by
  rw [meansFolder] at file
  cases ends : p.segments.reverse with
  | nil =>
    rw [List.reverse_eq_nil_iff.mp ends] at file
    cases file
  | cons name others =>
    have segments : p.segments = others.reverse ++ [name] := by
      rw [← List.reverse_reverse p.segments, ends, List.reverse_cons]
    rw [segments, List.getLast?_concat, Option.all_some, Bool.or_eq_false_iff] at file
    obtain ⟨plain, down⟩ := file
    have some : name.isEmpty = false := by
      rw [isIdle, Bool.or_eq_false_iff] at plain
      exact plain.1
    have kept : p.segments.reverse.dropWhile (·.isEmpty) = name :: others := by
      rw [ends, List.dropWhile_cons_of_neg (by rw [some]; exact Bool.false_ne_true)]
    rw [front, last, kept, List.reverse_cons, List.dropLast_concat]
    exact ⟨segments, plain, by simpa using down⟩

theorem ne_empty_of_not_idle {name : String} (plain : isIdle name = false) : name ≠ "" := by
  rintro rfl
  rw [isIdle_empty] at plain
  cases plain

end Path

namespace Directory

/-- Every folder of one directory is a folder of the other. -/
def KeepsFolders (d d' : Directory) : Prop := ∀ q, d.at? q = some .folder → d'.at? q = some .folder

theorem KeepsFolders.refl (d : Directory) : KeepsFolders d d := fun _ h => h

theorem KeepsFolders.trans {d d' d'' : Directory} (h : KeepsFolders d d') (h' : KeepsFolders d' d'') :
    KeepsFolders d d'' := fun q folder => h' q (h q folder)

theorem checkFolder_eq_ok {d : Directory} {p : Place} :
    d.checkFolder p = .ok () ↔ d.at? p = some .folder := by
  unfold checkFolder
  split <;> simp_all

theorem at?_given {d : Directory} {p : Place} (given : p.isGiven = true) : d.at? p = some .folder := by
  rw [at?, if_pos given]

theorem find?_other {p q : Place} (other : q ≠ p) (entries : List (Place × Entry)) :
    (entries.filter fun old => old.1 ≠ p).find? (fun e => e.1 = q) =
      entries.find? fun e => e.1 = q := by
  induction entries with
  | nil => rfl
  | cons e entries ih =>
    by_cases here : e.1 = q
    · simp [here, other]
    · by_cases gone : e.1 = p
      · rw [List.filter_cons_of_neg (by simpa using gone), ih,
          List.find?_cons_of_neg (by simpa using here)]
      · rw [List.filter_cons_of_pos (by simpa using gone), List.find?_cons_of_neg (by simpa using here),
          ih, List.find?_cons_of_neg (by simpa using here)]

theorem find?_gone (p : Place) (entries : List (Place × Entry)) :
    (entries.filter fun old => old.1 ≠ p).find? (fun e => e.1 = p) = none := by
  simp [List.find?_filter]

theorem at?_clear (d : Directory) {p : Place} (free : p.isGiven = false) (q : Place) :
    (d.clear p).at? q = if q = p then none else d.at? q := by
  by_cases same : q = p
  · subst same
    rw [at?, free, if_neg Bool.false_ne_true, clear, find?_gone, if_pos rfl]
    rfl
  · rw [at?, at?, clear, find?_other same, if_neg same]

theorem at?_set (d : Directory) {p : Place} (free : p.isGiven = false) (e : Entry) (q : Place) :
    (d.set p e).at? q = if q = p then some e else d.at? q := by
  by_cases same : q = p
  · subst same
    simp [at?, set, free]
  · have other : ¬ p = q := fun h => same h.symm
    rw [at?, at?, set, List.find?_cons_of_neg (by simpa using other), find?_other same, if_neg same]

theorem not_given {d : Directory} {p : Place} (h : d.at? p ≠ some .folder) : p.isGiven = false := by
  rw [← Bool.not_eq_true]
  exact fun given => h (at?_given given)

section Ways

variable {d d' : Directory} (keeps : KeepsFolders d d')
include keeps

theorem step_keeps {p q : Place} {segment : String} (h : d.step p segment = .ok q) :
    d'.step p segment = .ok q := by
  obtain ⟨⟨⟩, folder, h⟩ := bind_eq_ok.mp h
  exact bind_eq_ok.mpr ⟨(), checkFolder_eq_ok.mpr (keeps p (checkFolder_eq_ok.mp folder)), h⟩

theorem steps_keeps {segments : List String} {p q : Place} (h : segments.foldlM d.step p = .ok q) :
    segments.foldlM d'.step p = .ok q := by
  induction segments generalizing p with
  | nil => exact h
  | cons segment segments ih =>
    rw [List.foldlM_cons] at h ⊢
    obtain ⟨next, step, h⟩ := bind_eq_ok.mp h
    exact bind_eq_ok.mpr ⟨next, step_keeps keeps step, ih h⟩

theorem walk_keeps {p : Path} {segments : List String} {q : Place} (h : d.walk p segments = .ok q) :
    d'.walk p segments = .ok q := by
  obtain ⟨⟨⟩, text, h⟩ := bind_eq_ok.mp h
  exact bind_eq_ok.mpr ⟨(), text, steps_keeps keeps h⟩

omit keeps in
theorem isFolder_iff {p : Path} :
    d.isFolder p = true ↔ ∃ place, d.locate p = .ok place ∧ d.at? place = some .folder := by
  unfold isFolder find
  cases located : d.locate p with
  | error e => simp [Except.toOption]
  | ok place =>
    rw [ok_bind]
    cases entry : d.at? place with
    | none => simp [Except.toOption, entry]
    | some e => cases e <;> simp [Except.toOption, entry]

theorem isFolder_keeps {p : Path} (h : d.isFolder p = true) : d'.isFolder p = true := by
  obtain ⟨place, located, folder⟩ := isFolder_iff.mp h
  exact isFolder_iff.mpr ⟨place, walk_keeps keeps located, keeps place folder⟩

end Ways

theorem steps_slashes {d : Directory} {place q : Place} {slashes : List String}
    (empty : ∀ s ∈ slashes, s = "") (h : slashes.foldlM d.step place = .ok q) : q = place := by
  induction slashes with
  | nil =>
    cases h
    rfl
  | cons s slashes ih =>
    rw [List.foldlM_cons, empty s List.mem_cons_self] at h
    obtain ⟨next, step, h⟩ := bind_eq_ok.mp h
    obtain ⟨⟨⟩, -, step⟩ := bind_eq_ok.mp step
    rw [if_pos Path.isIdle_empty] at step
    cases step
    exact ih (fun t member => empty t (List.mem_cons_of_mem _ member)) h

theorem steps_slashes_of_folder {d : Directory} {place : Place} (folder : d.at? place = some .folder)
    {slashes : List String} (empty : ∀ s ∈ slashes, s = "") :
    slashes.foldlM d.step place = .ok place := by
  induction slashes with
  | nil => rfl
  | cons s slashes ih =>
    have stays : d.step place "" = .ok place := by
      rw [step, checkFolder_eq_ok.mpr folder, ok_bind, if_pos Path.isIdle_empty]
    rw [List.foldlM_cons, empty s List.mem_cons_self, stays, ok_bind]
    exact ih fun t member => empty t (List.mem_cons_of_mem _ member)

/-- The way to a place leads through the folder that the place is in. -/
theorem locate_eq_ok {d : Directory} {p : Path} (named : p.last ≠ "") {q : Place} :
    d.locate p = .ok q → ∃ folder, d.walk p p.front = .ok folder ∧ d.step folder p.last = .ok q := by
  intro h
  obtain ⟨slashes, empty, segments⟩ := Path.segments_eq_front named
  obtain ⟨⟨⟩, text, h⟩ := bind_eq_ok.mp h
  rw [segments, List.foldlM_append] at h
  obtain ⟨folder, front, h⟩ := bind_eq_ok.mp h
  rw [List.foldlM_cons] at h
  obtain ⟨place, step, h⟩ := bind_eq_ok.mp h
  obtain rfl := steps_slashes empty h
  exact ⟨folder, bind_eq_ok.mpr ⟨(), text, front⟩, step⟩

theorem locate_of_folder {d : Directory} {p : Path} (named : p.last ≠ "") {folder place : Place}
    (front : d.walk p p.front = .ok folder) (step : d.step folder p.last = .ok place)
    (isFolder : d.at? place = some .folder) : d.locate p = .ok place := by
  obtain ⟨slashes, empty, segments⟩ := Path.segments_eq_front named
  obtain ⟨⟨⟩, text, front⟩ := bind_eq_ok.mp front
  refine bind_eq_ok.mpr ⟨(), text, ?_⟩
  rw [segments, List.foldlM_append, front, ok_bind, List.foldlM_cons, step, ok_bind]
  exact steps_slashes_of_folder isFolder empty

theorem locate_of_file {d : Directory} {p : Path} (file : p.meansFolder = false)
    {folder place : Place} (front : d.walk p p.front = .ok folder)
    (step : d.step folder p.last = .ok place) : d.locate p = .ok place := by
  obtain ⟨⟨⟩, text, front⟩ := bind_eq_ok.mp front
  refine bind_eq_ok.mpr ⟨(), text, ?_⟩
  rw [(Path.segments_of_file file).1, List.foldlM_append, front, ok_bind, List.foldlM_cons, step,
    ok_bind]
  rfl

/-! Making folders -/

theorem makeFolder_eq_ok {d d' : Directory} {p : Path} (h : d.makeFolder p = .ok d') :
    p.last ≠ "" ∧ ∃ folder place, d.walk p p.front = .ok folder ∧ d.step folder p.last = .ok place ∧
      d.at? place = none ∧ d' = d.set place .folder := by
  obtain ⟨folder, container, h⟩ := bind_eq_ok.mp h
  obtain ⟨inner, front, container⟩ := bind_eq_ok.mp container
  obtain ⟨⟨⟩, -, same⟩ := bind_eq_ok.mp container
  cases same
  split at h
  · rename_i names
    obtain ⟨place, step, h⟩ := bind_eq_ok.mp h
    split at h
    · cases h
    · rename_i free
      cases h
      rw [namesPlace, Bool.and_eq_true, Bool.not_eq_true'] at names
      have none : d.at? place = none := by simpa using free
      exact ⟨Path.ne_empty_of_not_idle names.1, _, place, front, step, none, rfl⟩
  · cases h

theorem makeFolder_keeps {d d' : Directory} {p : Path} (h : d.makeFolder p = .ok d') :
    KeepsFolders d d' ∧ d'.isFolder p = true ∧ ¬ d.isFolder p = true := by
  obtain ⟨named, folder, place, front, step, none, rfl⟩ := makeFolder_eq_ok h
  have free := not_given (d := d) (p := place) (by rw [none]; exact nofun)
  have made : (d.set place .folder).at? place = some .folder := by rw [at?_set d free, if_pos rfl]
  have keeps : KeepsFolders d (d.set place .folder) := by
    intro q isFolder
    rw [at?_set d free]
    split
    · rfl
    · exact isFolder
  refine ⟨keeps, isFolder_iff.mpr ⟨place, ?_, made⟩, fun before => ?_⟩
  · exact locate_of_folder named (walk_keeps keeps front) (step_keeps keeps step) made
  · obtain ⟨q, located, isFolder⟩ := isFolder_iff.mp before
    obtain ⟨folder', front', step'⟩ := locate_eq_ok named located
    rw [front] at front'
    cases front'
    rw [step] at step'
    cases step'
    rw [none] at isFolder
    cases isFolder

theorem ensureFolder_keeps {d d' : Directory} {p : Path} (h : d.ensureFolder p = .ok d') :
    KeepsFolders d d' ∧ d'.isFolder p = true := by
  unfold ensureFolder at h
  split at h
  · rename_i made
    cases h
    obtain ⟨keeps, isFolder, -⟩ := makeFolder_keeps made
    exact ⟨keeps, isFolder⟩
  · split at h
    · rename_i isFolder
      cases h
      exact ⟨KeepsFolders.refl d, isFolder⟩
    · cases h

theorem ensureFolder_of_isFolder {d : Directory} {p : Path} (h : d.isFolder p = true) :
    d.ensureFolder p = .ok d := by
  unfold ensureFolder
  split
  · rename_i made
    exact absurd h (makeFolder_keeps made).2.2
  · rw [if_pos h]

theorem makeFolders_isFolder {d d' : Directory} {p : Path} (h : d.makeFolders p = (.ok (), d')) :
    p.isEmpty = true ∨ d'.isFolder p = true := by
  unfold makeFolders at h
  split at h
  · rename_i empty
    exact Or.inl empty
  · refine Or.inr ?_
    split at h
    · rename_i made
      cases h
      exact (ensureFolder_keeps made).2
    · split at h
      · cases h
      · split at h
        · rename_i made
          cases h
          exact (ensureFolder_keeps made).2
        · cases h
    · cases h

theorem makeFolders_of_isFolder {d : Directory} {p : Path}
    (h : p.isEmpty = true ∨ d.isFolder p = true) : d.makeFolders p = (.ok (), d) := by
  unfold makeFolders
  split
  · rfl
  · rename_i some
    rw [ensureFolder_of_isFolder (h.resolve_left some)]

/-- Folders that were made are not made again, as long as they stay. -/
theorem makeFolders_again {d d' d'' : Directory} {p : Path} (h : d.makeFolders p = (.ok (), d'))
    (keeps : KeepsFolders d' d'') : d''.makeFolders p = (.ok (), d'') :=
  makeFolders_of_isFolder ((makeFolders_isFolder h).imp_right (isFolder_keeps keeps))

end Directory
end EventLedger
