import EventLedger.Proofs.Clock.Storage

/-! Clocks over a file answer as clocks in memory do, also after restarts. -/

namespace EventLedger

namespace ClockStorage

/-- A storage in a file shows the values of a storage in memory. -/
def Mirrors : ClockStorage → ClockStorage → Prop
  | memory v, file d p => v.Fit ∧ readDocument d p = .ok v
  | _, _ => False

def Writable : ClockStorage → Prop
  | memory _ => True
  | file d p => Ready d p

/-- Two steps, one in memory and one over a file, give the same answer and stay mirrored. -/
def Agree {α : Type} (kept filed : α × ClockStorage) : Prop :=
  filed.1 = kept.1 ∧ Mirrors kept.2 filed.2 ∧ filed.2.Writable

variable {kept filed : ClockStorage}

theorem Mirrors.shape (mirrors : Mirrors kept filed) :
    ∃ v d p, kept = memory v ∧ filed = file d p ∧ v.Fit ∧ readDocument d p = .ok v := by
  cases kept with
  | file _ _ => cases mirrors
  | memory v =>
    cases filed with
    | memory _ => cases mirrors
    | file d p => exact ⟨v, d, p, rfl, rfl, mirrors⟩

theorem load_mirrored (mirrors : Mirrors kept filed) (node : String) :
    filed.load node = kept.load node := by
  obtain ⟨v, d, p, rfl, rfl, -, read⟩ := mirrors.shape
  simp only [load, read, Except.map]

theorem save_mirrored (mirrors : Mirrors kept filed) (writable : filed.Writable) (node : String)
    {value : Int} (high : value ≤ greatestSigned64) :
    Agree (kept.save node value) (filed.save node value) := by
  obtain ⟨v, d, p, rfl, rfl, fit, read⟩ := mirrors.shape
  unfold save
  split
  · exact ⟨rfl, ⟨fit, read⟩, writable⟩
  · rename_i low
    have fit' : ClockValues.Fit (v.insert node value) :=
      fit.insert (by simp only [leastSigned64]; omega) high node
    obtain ⟨d', wrote, ready, present, content⟩ := writable.writeDocument (v.insert node value)
    dsimp only
    rw [read]
    dsimp only
    rw [wrote]
    exact ⟨rfl, ⟨fit', readDocument_written fit' present content⟩, ready⟩

theorem commit_mirrored (mirrors : Mirrors kept filed) (writable : filed.Writable) (node : String)
    {next : Except LedgerError Int} (high : ∀ value, next = .ok value → value ≤ greatestSigned64) :
    Agree (kept.commit node next) (filed.commit node next) := by
  cases next with
  | error e => exact ⟨rfl, mirrors, writable⟩
  | ok value =>
    have saved := save_mirrored mirrors writable node (high value rfl)
    unfold commit
    dsimp only
    obtain ⟨kept', keptSave⟩ : ∃ x, kept.save node value = x := ⟨_, rfl⟩
    obtain ⟨filed', filedSave⟩ : ∃ x, filed.save node value = x := ⟨_, rfl⟩
    rw [keptSave, filedSave] at saved ⊢
    obtain ⟨answer, s⟩ := kept'
    obtain ⟨same, t⟩ := filed'
    obtain ⟨rfl, mirrors, writable⟩ := saved
    cases same with
    | error e => exact ⟨rfl, mirrors, writable⟩
    | ok => exact ⟨rfl, mirrors, writable⟩

theorem tick_mirrored (mirrors : Mirrors kept filed) (writable : filed.Writable) (node : String) :
    Agree (kept.tick node) (filed.tick node) := by
  unfold tick
  rw [load_mirrored mirrors]
  refine commit_mirrored mirrors writable node fun value next => ?_
  obtain ⟨old, -, advanced⟩ := bind_eq_ok.mp next
  exact (advance_eq_ok.mp advanced).2

theorem update_mirrored (mirrors : Mirrors kept filed) (writable : filed.Writable) (node : String)
    (remote : Nat) : Agree (kept.update node remote) (filed.update node remote) := by
  unfold update
  split
  · exact ⟨rfl, mirrors, writable⟩
  · rw [load_mirrored mirrors]
    refine commit_mirrored mirrors writable node fun value next => ?_
    obtain ⟨old, -, advanced⟩ := bind_eq_ok.mp next
    exact (advance_eq_ok.mp advanced).2

theorem current_mirrored (mirrors : Mirrors kept filed) (node : String) :
    filed.current node = kept.current node := by
  rw [current, current, load_mirrored mirrors]

/-- In memory, the value of a node changes exactly when one was given out. -/
theorem commit_in_memory (v : ClockValues) (node : String) (next : Except LedgerError Int) :
    ∃ v' : ClockValues, ((memory v).commit node next).2 = memory v' ∧
      ∀ other, v'.valueOf other =
        (if node = other then ((memory v).commit node next).1.toOption.map Int.ofNat
          else none).getD (v.valueOf other) := by
  have unchanged (e : LedgerError) (other : String) : v.valueOf other =
      (if node = other then (Except.error e : Except LedgerError Nat).toOption.map Int.ofNat
        else none).getD (v.valueOf other) := by
    split <;> rfl
  cases next with
  | error e => exact ⟨v, rfl, unchanged e⟩
  | ok value =>
    unfold commit save
    dsimp only
    by_cases low : value < 0
    · rw [if_pos low]
      exact ⟨v, rfl, unchanged _⟩
    · rw [if_neg low]
      refine ⟨v.insert node value, rfl, fun other => ?_⟩
      rw [ClockValues.valueOf_insert]
      dsimp only
      rw [asClock, if_neg low]
      split
      · exact (Int.toNat_of_nonneg (by omega)).symm
      · rfl

end ClockStorage

namespace ClockRegistry

/-- What can be done with clocks and with the storage under them. -/
inductive Operation where
  | tick (node : String)
  | update (node : String) (remote : UInt64)
  | current (node : String)
  | save (node : String) (value : Int64)
  | load (node : String)
  | restart

inductive Answer where
  | clock (x : Except LedgerError Nat)
  | saved (x : Except LedgerError Unit)
  | loaded (x : Except LedgerError Int)
  | restarted

namespace Operation

def writes : Operation → Bool
  | tick _ | update _ _ | save _ _ => true
  | current _ | load _ | restart => false

/-- The value that an operation persisted for a node, as its answer tells. -/
def persisted (node : String) : Operation → Answer → Option Int
  | tick n, .clock x | update n _, .clock x =>
    if n = node then x.toOption.map Int.ofNat else none
  | save n value, .saved (.ok ()) => if n = node then some value.toInt else none
  | _, _ => none

end Operation

def perform (r : ClockRegistry) : Operation → Answer × ClockRegistry
  | .tick node => let (x, r) := r.tick node; (.clock x, r)
  | .update node remote => let (x, r) := r.update node remote.toNat; (.clock x, r)
  | .current node => let (x, r) := r.current node; (.clock x, r)
  | .save node value => let (x, s) := r.storage.save node value.toInt; (.saved x, ⟨s, r.nodes⟩)
  | .load node => (.loaded (r.storage.load node), r)
  | .restart => (.restarted, r.restart)

def run (r : ClockRegistry) : List Operation → List Answer × ClockRegistry
  | [] => ([], r)
  | op :: ops =>
    let (answer, r) := r.perform op
    let (answers, r) := r.run ops
    (answer :: answers, r)

theorem run_cons (r : ClockRegistry) (op : Operation) (ops : List Operation) :
    r.run (op :: ops) =
      ((r.perform op).1 :: ((r.perform op).2.run ops).1, ((r.perform op).2.run ops).2) := rfl

def persistedValues (node : String) (trace : List (Operation × Answer)) : List Int :=
  trace.filterMap fun x => x.1.persisted node x.2

open ClockStorage

variable {kept filed : ClockRegistry}

theorem perform_mirrored (mirrors : Mirrors kept.storage filed.storage) (op : Operation)
    (writable : op.writes = true → filed.storage.Writable) :
    (filed.perform op).1 = (kept.perform op).1 ∧
      Mirrors (kept.perform op).2.storage (filed.perform op).2.storage ∧
      (filed.storage.Writable → (filed.perform op).2.storage.Writable) := by
  cases op with
  | tick node =>
    obtain ⟨same, mirrors, writable⟩ := tick_mirrored mirrors (writable rfl) node
    exact ⟨congrArg Answer.clock same, mirrors, fun _ => writable⟩
  | update node remote =>
    obtain ⟨same, mirrors, writable⟩ := update_mirrored mirrors (writable rfl) node remote.toNat
    exact ⟨congrArg Answer.clock same, mirrors, fun _ => writable⟩
  | current node => exact ⟨congrArg Answer.clock (current_mirrored mirrors node), mirrors, id⟩
  | save node value =>
    have high : value.toInt ≤ greatestSigned64 := by
      have := value.toInt_lt
      simp only [greatestSigned64]
      omega
    obtain ⟨same, mirrors, writable⟩ := save_mirrored mirrors (writable rfl) node high
    exact ⟨congrArg Answer.saved same, mirrors, fun _ => writable⟩
  | load node => exact ⟨congrArg Answer.loaded (load_mirrored mirrors node), mirrors, id⟩
  | restart => exact ⟨rfl, mirrors, id⟩

theorem run_mirrored (mirrors : Mirrors kept.storage filed.storage) (ops : List Operation)
    (writable : (∃ op ∈ ops, op.writes = true) → filed.storage.Writable) :
    (filed.run ops).1 = (kept.run ops).1 ∧
      Mirrors (kept.run ops).2.storage (filed.run ops).2.storage := by
  induction ops generalizing kept filed with
  | nil => exact ⟨rfl, mirrors⟩
  | cons op ops ih =>
    have here := fun writes => writable ⟨op, List.mem_cons_self, writes⟩
    obtain ⟨same, mirrors, stays⟩ := perform_mirrored mirrors op here
    obtain ⟨others, mirrors⟩ := ih mirrors fun ⟨next, member, writes⟩ =>
      stays (writable ⟨next, List.mem_cons_of_mem _ member, writes⟩)
    rw [run_cons, run_cons, same, others]
    exact ⟨rfl, mirrors⟩

/-! What memory holds is what was persisted last -/

theorem perform_in_memory {v : ClockValues} (memory : kept.storage = .memory v) (op : Operation) :
    ∃ v' : ClockValues, (kept.perform op).2.storage = .memory v' ∧
      ∀ node, v'.valueOf node = (op.persisted node (kept.perform op).1).getD (v.valueOf node) := by
  obtain ⟨storage, nodes⟩ := kept
  cases memory
  cases op with
  | tick node => exact commit_in_memory v node _
  | update node remote =>
    simp only [perform, update, ClockStorage.update]
    split
    · refine ⟨v, rfl, fun other => ?_⟩
      simp only [Operation.persisted, Except.toOption]
      split <;> rfl
    · exact commit_in_memory v node _
  | current node => exact ⟨v, rfl, fun _ => rfl⟩
  | save node value =>
    simp only [perform, ClockStorage.save]
    split
    · exact ⟨v, rfl, fun _ => rfl⟩
    · refine ⟨v.insert node value.toInt, rfl, fun other => ?_⟩
      rw [ClockValues.valueOf_insert]
      simp only [Operation.persisted]
      split <;> rfl
  | load node => exact ⟨v, rfl, fun _ => rfl⟩
  | restart => exact ⟨v, rfl, fun _ => rfl⟩

theorem run_in_memory {v : ClockValues} (memory : kept.storage = .memory v) (ops : List Operation) :
    ∃ v' : ClockValues, (kept.run ops).2.storage = .memory v' ∧
      ∀ node, v'.valueOf node =
        (persistedValues node (ops.zip (kept.run ops).1)).getLast?.getD (v.valueOf node) := by
  induction ops generalizing kept v with
  | nil => exact ⟨v, memory, fun _ => rfl⟩
  | cons op ops ih =>
    obtain ⟨next, memory, step⟩ := perform_in_memory memory op
    obtain ⟨last, memory, others⟩ := ih memory
    refine ⟨last, memory, fun node => ?_⟩
    rw [run_cons, others, step, List.zip_cons_cons, persistedValues, persistedValues,
      List.filterMap_cons]
    dsimp only
    cases op.persisted node (kept.perform op).1 with
    | none => rfl
    | some value => rw [List.getLast?_cons]; rfl

/-- Clocks over a file that was missing and can be written answer every sequence of operations as
    clocks in memory do. A restart finds the value of every node that was persisted last. -/
theorem file_answers_as_memory (d : Directory) (p : Path) (ops : List Operation)
    (absent : d.contains p = false)
    (writable : (∃ op ∈ ops, op.writes = true) →
      ∃ v d', ClockStorage.writeDocument d p v = (.ok (), d')) :
    let filed := (new (.file d p)).run ops
    let kept := (new (.memory .empty)).run ops
    filed.1 = kept.1 ∧
      ∀ node, filed.2.restart.storage.load node =
        .ok ((persistedValues node (ops.zip filed.1)).getLast?.getD 0) := by
  have start : Mirrors (new (.memory .empty)).storage (new (.file d p)).storage :=
    ⟨ClockValues.Fit.empty, readDocument_absent absent⟩
  have ready : (∃ op ∈ ops, op.writes = true) → (new (.file d p)).storage.Writable := by
    intro writes
    obtain ⟨v, d', wrote⟩ := writable writes
    exact ready_of_writeDocument wrote
  obtain ⟨same, mirrors⟩ := run_mirrored start ops ready
  obtain ⟨last, memory, values⟩ := @run_in_memory (new (.memory .empty)) .empty rfl ops
  refine ⟨same, fun node => ?_⟩
  rw [memory] at mirrors
  rw [show ∀ r : ClockRegistry, r.restart.storage = r.storage from fun _ => rfl,
    load_mirrored mirrors, same]
  exact congrArg Except.ok (values node)

theorem file_answers_two_nodes :
    let p : Path := ⟨["clock.json"]⟩
    let ops : List Operation :=
      [.tick "a", .update "line\nfeed" 7, .save "a" (-1), .restart, .tick "a"]
    let filed := (new (.file .empty p)).run ops
    Directory.empty.contains p = false ∧
      (∃ v d', ClockStorage.writeDocument .empty p v = (.ok (), d')) ∧
      filed.1 = [.clock (.ok 1), .clock (.ok 8), .saved (.error
          (.invalidClockValue "a" (Text.signedDecimal (-1)))), .restarted, .clock (.ok 2)] ∧
      filed.2.restart.storage.load "line\nfeed" = .ok 8 := by
  intro p ops filed
  have target : Directory.empty.Reaches p ⟨["clock.json"]⟩ :=
    Directory.reaches_name (by decide) (by decide) (by simp) (by decide) (by decide)
  have draft : Directory.empty.Reaches ⟨["clock.tmp"]⟩ ⟨["clock.tmp"]⟩ :=
    Directory.reaches_name (by decide) (by decide) (by simp) (by decide) (by decide)
  have ready : Ready .empty p :=
    ⟨.empty, _, _, Directory.makeFolders_of_isFolder (Or.inl (by decide)), draft, target⟩
  have absent : Directory.empty.contains p = false := target.contains
  have writable : ∃ v d', ClockStorage.writeDocument .empty p v = (.ok (), d') := by
    obtain ⟨d', wrote, -⟩ := ready.writeDocument .empty
    exact ⟨.empty, d', wrote⟩
  obtain ⟨same, restarted⟩ := file_answers_as_memory .empty p ops absent fun _ => writable
  have answers := same.trans rfl
  refine ⟨absent, writable, answers, ?_⟩
  rw [restarted "line\nfeed", answers]
  rfl

end ClockRegistry
end EventLedger
