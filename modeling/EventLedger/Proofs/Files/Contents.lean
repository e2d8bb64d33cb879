import EventLedger.Proofs.Files.Folders

/-! What a file holds after it was written, appended to or moved. -/

namespace EventLedger.Directory

/-- A path leads to a place in a folder where a file stands or may be made. -/
structure Reaches (d : Directory) (p : Path) (place : Place) : Prop where
  file : p.meansFolder = false
  way : ∃ folder, d.walk p p.front = .ok folder ∧ d.step folder p.last = .ok place
  free : d.at? place ≠ some .folder

/-- The bytes at a place; where no file stands there are none. -/
def bytesAt (d : Directory) (place : Place) : List UInt8 :=
  match d.at? place with
  | some (.file content) => content
  | _ => []

/-- The bytes of a file; a file that is missing has none. -/
def content (d : Directory) (p : Path) : List UInt8 := (d.read p).toOption.getD []

theorem content_absent {d : Directory} {p : Path} (absent : d.contains p = false) : d.content p = [] := by
  unfold Directory.contains at absent
  unfold content read
  cases found : d.find p with
  | error problem => rfl
  | ok e =>
    rw [found] at absent
    cases absent

section Reached

variable {d d' : Directory} {p : Path} {place : Place}

theorem container_eq_ok {folder : Place} :
    d.container p = .ok folder ↔ d.walk p p.front = .ok folder ∧ d.at? folder = some .folder := by
  constructor
  · intro h
    obtain ⟨inner, walk, h⟩ := bind_eq_ok.mp h
    obtain ⟨⟨⟩, check, h⟩ := bind_eq_ok.mp h
    cases h
    exact ⟨walk, checkFolder_eq_ok.mp check⟩
  · rintro ⟨walk, folder⟩
    exact bind_eq_ok.mpr ⟨_, walk, bind_eq_ok.mpr ⟨(), checkFolder_eq_ok.mpr folder, rfl⟩⟩

theorem folder_of_step {folder : Place} {segment : String} (h : d.step folder segment = .ok place) :
    d.at? folder = some .folder := by
  obtain ⟨⟨⟩, check, -⟩ := bind_eq_ok.mp h
  exact checkFolder_eq_ok.mp check

theorem Reaches.openFile (reaches : d.Reaches p place) :
    d.openFile p = .ok (place, d.bytesAt place) := by
  obtain ⟨folder, walk, step⟩ := reaches.way
  have container := container_eq_ok.mpr ⟨walk, folder_of_step step⟩
  rw [Directory.openFile, container, ok_bind, reaches.file, if_neg Bool.false_ne_true, step, ok_bind,
    bytesAt]
  cases entry : d.at? place with
  | none => rfl
  | some e =>
    cases e with
    | file content => rfl
    | folder => exact absurd entry reaches.free

theorem reaches_of_openFile {old : List UInt8} (h : d.openFile p = .ok (place, old)) :
    d.Reaches p place := by
  obtain ⟨folder, container, h⟩ := bind_eq_ok.mp h
  obtain ⟨walk, -⟩ := container_eq_ok.mp container
  split at h
  · cases h
  · rename_i file
    obtain ⟨q, step, h⟩ := bind_eq_ok.mp h
    rw [Bool.not_eq_true] at file
    have same : q = place ∧ d.at? q ≠ some .folder := by
      split at h
      · cases h
      · rename_i entry
        cases h
        exact ⟨rfl, by rw [entry]; exact nofun⟩
      · rename_i entry
        cases h
        exact ⟨rfl, by rw [entry]; exact nofun⟩
    obtain ⟨rfl, free⟩ := same
    exact ⟨file, ⟨folder, walk, step⟩, free⟩

theorem Reaches.keeps (reaches : d.Reaches p place) (keeps : KeepsFolders d d')
    (free : d'.at? place ≠ some .folder) : d'.Reaches p place := by
  obtain ⟨folder, walk, step⟩ := reaches.way
  exact ⟨reaches.file, ⟨folder, walk_keeps keeps walk, step_keeps keeps step⟩, free⟩

theorem Reaches.find (reaches : d.Reaches p place) :
    d.find p = match d.at? place with | some e => .ok e | none => .error .notFound := by
  obtain ⟨folder, walk, step⟩ := reaches.way
  rw [Directory.find, locate_of_file reaches.file walk step]
  exact ok_bind _ _

theorem Reaches.contains (reaches : d.Reaches p place) : d.contains p = (d.at? place).isSome := by
  rw [Directory.contains, reaches.find]
  cases d.at? place <;> rfl

theorem Reaches.read {content : List UInt8} (reaches : d.Reaches p place)
    (entry : d.at? place = some (.file content)) : d.read p = .ok content := by
  rw [Directory.read, reaches.find, entry, ok_bind]

theorem Reaches.content (reaches : d.Reaches p place) : d.content p = d.bytesAt place := by
  rw [Directory.content, bytesAt]
  cases entry : d.at? place with
  | none =>
    rw [Directory.read, reaches.find, entry]
    rfl
  | some e =>
    cases e with
    | file content =>
      rw [reaches.read entry]
      rfl
    | folder => exact absurd entry reaches.free

theorem Reaches.not_given (reaches : d.Reaches p place) : place.isGiven = false :=
  Directory.not_given reaches.free

theorem Reaches.set_keeps (reaches : d.Reaches p place) (content : List UInt8) :
    KeepsFolders d (d.set place (.file content)) := by
  intro q folder
  have other : q ≠ place := fun same => reaches.free (same ▸ folder)
  rw [at?_set d reaches.not_given, if_neg other]
  exact folder

theorem Reaches.set (reaches : d.Reaches p place) (content : List UInt8) :
    (d.set place (.file content)).Reaches p place ∧
      (d.set place (.file content)).at? place = some (.file content) := by
  have entry : (d.set place (.file content)).at? place = some (.file content) := by
    rw [at?_set d reaches.not_given, if_pos rfl]
  exact ⟨reaches.keeps (reaches.set_keeps content) (by rw [entry]; exact nofun), entry⟩

theorem Reaches.set_reaches (reaches : d.Reaches p place) {q : Path} {other : Place}
    (reached : d.Reaches q other) (content : List UInt8) :
    (d.set place (.file content)).Reaches q other := by
  refine reached.keeps (reaches.set_keeps content) ?_
  rw [at?_set d reaches.not_given]
  split
  · exact nofun
  · exact reached.free

/-- A path to a file ends in the name of its place. -/
theorem Reaches.lastName (reaches : d.Reaches p place) : place.names.getLast? = some p.last := by
  obtain ⟨folder, -, step⟩ := reaches.way
  obtain ⟨-, plain, down⟩ := Path.segments_of_file reaches.file
  obtain ⟨⟨⟩, -, step⟩ := bind_eq_ok.mp step
  rw [plain, if_neg Bool.false_ne_true, if_neg (by simpa using down)] at step
  split at step
  · cases step
  · cases step
    exact List.getLast?_concat

/-- A file that was written leads to no place that was not reached before. -/
theorem Reaches.reaches_of_set (reaches : d.Reaches p place) {content : List UInt8} {q : Path}
    {other : Place} (reached : (d.set place (.file content)).Reaches q other) : d.Reaches q other := by
  have keeps : KeepsFolders (d.set place (.file content)) d := by
    intro r folder
    rw [at?_set d reaches.not_given] at folder
    split at folder
    · cases folder
    · exact folder
  refine reached.keeps keeps fun folder => reached.free ?_
  exact reaches.set_keeps content other folder

/-- Whatever room there was, bytes that were put somewhere are there in full. -/
theorem put_eq_ok {old content : List UInt8} {room : Option Nat}
    (h : d.put place old content room = .ok d') : d' = d.set place (.file (old ++ content)) := by
  unfold put at h
  split at h
  · rename_i fits
    cases h
    cases room with
    | none => rfl
    | some n => rw [Option.elim_some, List.take_of_length_le (by simpa using fits)]
  · cases h

theorem put_eq_error {old content : List UInt8} {room : Option Nat} {problem : FileProblem}
    (h : d.put place old content room = .error (problem, d')) :
    ∃ n < content.length, room = some n ∧ d' = d.set place (.file (old ++ content.take n)) := by
  unfold put at h
  split at h
  · cases h
  · rename_i short
    cases h
    cases room with
    | none => exact absurd rfl short
    | some n => exact ⟨n, by simpa using short, rfl, rfl⟩

theorem Reaches.append (reaches : d.Reaches p place) (content : List UInt8) :
    d.append p content = .ok (d.set place (.file (d.bytesAt place ++ content))) := by
  rw [Directory.append, reaches.openFile, ok_mapError, ok_bind]
  rfl

theorem Reaches.write (reaches : d.Reaches p place) (content : List UInt8) :
    d.write p content = .ok (d.set place (.file content)) := by
  rw [Directory.write, reaches.openFile, ok_mapError, ok_bind]
  rfl

theorem reaches_of_append {content : List UInt8} {room : Option Nat}
    (h : d.append p content room = .ok d') : ∃ place, d.Reaches p place := by
  obtain ⟨⟨place, old⟩, opened, -⟩ := bind_eq_ok.mp h
  exact ⟨place, reaches_of_openFile (mapError_eq_ok.mp opened)⟩

theorem reaches_of_write {content : List UInt8} {room : Option Nat}
    (h : d.write p content room = .ok d') :
    ∃ place, d.Reaches p place ∧ d' = d.set place (.file content) := by
  obtain ⟨⟨place, old⟩, opened, h⟩ := bind_eq_ok.mp h
  exact ⟨place, reaches_of_openFile (mapError_eq_ok.mp opened), put_eq_ok h⟩

theorem left_of_closed {α : Type} {x : Except FileProblem α} {problem : FileProblem}
    (closed : x.mapError (·, d) = .error (problem, d')) : d' = d := by
  obtain ⟨problem, -, same⟩ := mapError_eq_error.mp closed
  exact (Prod.mk.inj same).2.symm

/-- A file that cannot be opened is left as it is, and one that there is too little room for gets a
    beginning of the bytes. -/
theorem append_eq_error {content : List UInt8} {room : Option Nat} {problem : FileProblem}
    (h : d.append p content room = .error (problem, d')) :
    d' = d ∨ ∃ place n, d.Reaches p place ∧ room = some n ∧ n < content.length ∧
      d' = d.set place (.file (d.bytesAt place ++ content.take n)) := by
  obtain closed | ⟨⟨place, old⟩, opened, h⟩ := bind_eq_error.mp h
  · exact Or.inl (left_of_closed closed)
  · have reaches := reaches_of_openFile (mapError_eq_ok.mp opened)
    rw [reaches.openFile] at opened
    cases opened
    obtain ⟨n, short, within, left⟩ := put_eq_error h
    exact Or.inr ⟨place, n, reaches, within, short, left⟩

theorem write_eq_error {content : List UInt8} {room : Option Nat} {problem : FileProblem}
    (h : d.write p content room = .error (problem, d')) :
    d' = d ∨ ∃ place n, d.Reaches p place ∧ room = some n ∧ n < content.length ∧
      d' = d.set place (.file (content.take n)) := by
  obtain closed | ⟨⟨place, old⟩, opened, h⟩ := bind_eq_error.mp h
  · exact Or.inl (left_of_closed closed)
  · obtain ⟨n, short, within, left⟩ := put_eq_error h
    exact Or.inr ⟨place, n, reaches_of_openFile (mapError_eq_ok.mp opened), within, short, left⟩

/-- A name that fits leads to a place of that name, wherever it is looked up. -/
theorem reaches_name {name : String} (plain : Path.isIdle name = false) (down : name ≠ "..")
    (clean : name.contains '\x00' = false) (short : name.utf8ByteSize ≤ nameLimit)
    (free : d.at? ⟨[name]⟩ ≠ some .folder) : d.Reaches ⟨[name]⟩ ⟨[name]⟩ := by
  have named := Path.ne_empty_of_not_idle plain
  have text : Path.text ⟨[name]⟩ = name := by simp [Path.text]
  have checked : checkText ⟨[name]⟩ = .ok () := by
    have within : ¬ pathLimit < name.utf8ByteSize := by
      simp only [nameLimit, pathLimit] at *
      omega
    rw [checkText, text]
    simp [clean, named, within]
  have stripped : ([name].reverse.dropWhile (·.isEmpty)) = [name] := by simp [named]
  have front : Path.front ⟨[name]⟩ = [] := by rw [Path.front, stripped]; rfl
  have last : Path.last ⟨[name]⟩ = name := by rw [Path.last, stripped]; rfl
  refine ⟨?_, ⟨.here, ?_, ?_⟩, free⟩
  · simpa [Path.meansFolder, plain] using down
  · have relative : Path.isAbsolute ⟨[name]⟩ = false := by simp [Path.isAbsolute]
    rw [walk, checked, front, relative]
    rfl
  · have here : d.checkFolder .here = .ok () := checkFolder_eq_ok.mpr (at?_given rfl)
    rw [last, step, here, ok_bind, plain, if_neg Bool.false_ne_true, if_neg (by simpa using down),
      if_neg (by omega)]
    rfl

end Reached

section Moved

variable {d d' : Directory} {source target : Path} {s t : Place}

theorem Reaches.namesPlace {p : Path} {place : Place} (reaches : d.Reaches p place) :
    Directory.namesPlace p = true := by
  obtain ⟨-, plain, down⟩ := Path.segments_of_file reaches.file
  rw [Directory.namesPlace, plain]
  simpa using down

theorem Reaches.rename {content : List UInt8} (hs : d.Reaches source s) (ht : d.Reaches target t)
    (entry : d.at? s = some (.file content)) :
    d.rename source target = .ok ((d.clear s).set t (.file content)) := by
  obtain ⟨sourceFolder, sourceWalk, sourceStep⟩ := hs.way
  obtain ⟨targetFolder, targetWalk, targetStep⟩ := ht.way
  have sourceContainer := container_eq_ok.mpr ⟨sourceWalk, folder_of_step sourceStep⟩
  have targetContainer := container_eq_ok.mpr ⟨targetWalk, folder_of_step targetStep⟩
  rw [Directory.rename, sourceContainer, ok_bind, targetContainer, ok_bind, hs.namesPlace,
    ht.namesPlace]
  simp only [Bool.not_true, Bool.or_self, Bool.false_eq_true, if_false, sourceStep, targetStep, ok_bind,
    entry, hs.file, ht.file, if_neg ht.free]

theorem reaches_of_rename (h : d.rename source target = .ok d') :
    (∃ s, d.Reaches source s) ∧ ∃ t, d.Reaches target t := by
  obtain ⟨sourceFolder, sourceContainer, h⟩ := bind_eq_ok.mp h
  obtain ⟨targetFolder, targetContainer, h⟩ := bind_eq_ok.mp h
  split at h
  · cases h
  · obtain ⟨s, sourceStep, h⟩ := bind_eq_ok.mp h
    obtain ⟨t, targetStep, h⟩ := bind_eq_ok.mp h
    split at h
    · cases h
    · cases h
    · rename_i content entry
      split_ifs at h with folders taken
      rw [Bool.or_eq_true, not_or, Bool.not_eq_true, Bool.not_eq_true] at folders
      exact ⟨⟨s, folders.1, ⟨_, (container_eq_ok.mp sourceContainer).1, sourceStep⟩,
          by rw [entry]; exact nofun⟩,
        ⟨t, folders.2, ⟨_, (container_eq_ok.mp targetContainer).1, targetStep⟩, taken⟩⟩

/-- A file that was moved stands at the target, and the folders are as before. -/
theorem at?_moved (hs : d.Reaches source s) (ht : d.Reaches target t) (content : List UInt8) (q : Place) :
    ((d.clear s).set t (.file content)).at? q =
      if q = t then some (.file content) else if q = s then none else d.at? q := by
  rw [at?_set _ ht.not_given, at?_clear _ hs.not_given]

theorem moved_keeps (hs : d.Reaches source s) (ht : d.Reaches target t) (content : List UInt8) :
    KeepsFolders d ((d.clear s).set t (.file content)) := by
  intro q folder
  have notTarget : q ≠ t := fun same => ht.free (same ▸ folder)
  have notSource : q ≠ s := fun same => hs.free (same ▸ folder)
  rw [at?_moved hs ht, if_neg notTarget, if_neg notSource]
  exact folder

/-- Bytes that are written beside a file and then moved onto it are what it holds. Both can be written
    again. -/
theorem replaced (hs : d.Reaches source s) (ht : d.Reaches target t) (content : List UInt8) :
    ∃ drafted last, d.write source content = .ok drafted ∧ drafted.rename source target = .ok last ∧
      KeepsFolders d last ∧ last.Reaches source s ∧ last.Reaches target t ∧
      last.at? t = some (.file content) := by
  obtain ⟨hs', entry⟩ := hs.set content
  have ht' := hs.set_reaches ht content
  have stays := moved_keeps hs' ht' content
  have moved := at?_moved hs' ht' content
  refine ⟨_, _, hs.write content, hs'.rename ht' entry, (hs.set_keeps content).trans stays, ?_, ?_, ?_⟩
  · refine hs'.keeps stays ?_
    rw [moved, if_pos (rfl : s = s)]
    split <;> exact nofun
  · refine ht'.keeps stays ?_
    rw [moved, if_pos rfl]
    exact nofun
  · rw [moved, if_pos rfl]

end Moved

end EventLedger.Directory
