import EventLedger.Proofs.Clock.Storage
import EventLedger.Proofs.Order.Canonical
import Mathlib.Logic.Function.Basic
import Mathlib.Logic.Relation

/-! Clocks tell causes from effects: what happened before an event has a smaller clock and stands
before it in canonical sequences. -/

namespace EventLedger

namespace ClockRegistry

variable {r r' : ClockRegistry} {node : String}

theorem update_eq_ok {remote clock : Nat} (h : r.update node remote = (.ok clock, r')) :
    ∃ value, r.storage.load node = .ok value ∧ (clock : Int) = max value remote + 1 ∧
      ∀ other, r'.storage.load other =
        if node = other then .ok (clock : Int) else r.storage.load other := by
  obtain ⟨updated, rfl⟩ := Prod.mk.inj h
  exact ClockStorage.update_eq_ok (Prod.ext updated rfl)

theorem stamp_eq_ok {draft : EventDraft} {e : Event} (h : r.stamp node draft = (.ok e, r')) :
    e.nodeId = node ∧ e.id = draft.id ∧
      ∃ value, r.storage.load node = .ok value ∧ (e.lamportClock : Int) = value + 1 ∧
        ∀ other, r'.storage.load other =
          if node = other then .ok (e.lamportClock : Int) else r.storage.load other := by
  obtain ⟨stamped, rfl⟩ := Prod.mk.inj h
  obtain ⟨clock, ticked, rfl⟩ := map_eq_ok.mp stamped
  exact ⟨rfl, rfl, ClockStorage.tick_eq_ok (Prod.ext ticked rfl)⟩

end ClockRegistry

namespace Causality

/-- What happened at a node: it stamped an event, or took notice of one. -/
inductive Occurrence where
  | stamped (e : Event)
  | received (node : String) (e : Event)

namespace Occurrence

def node : Occurrence → String
  | stamped e => e.nodeId
  | received n _ => n

def event : Occurrence → Event
  | stamped e => e
  | received _ e => e

end Occurrence

open Occurrence

variable {Host : Type} [DecidableEq Host]

/-- What can have happened, and the clocks then, when every node has its clock at its host: any node
    stamps a new event, or updates its clock by an event that was stamped before. -/
inductive Run (home : String → Host) (start : Host → ClockRegistry) :
    List Occurrence → (Host → ClockRegistry) → Prop
  | start : Run home start [] start
  | stamp {history : List Occurrence} {clocks : Host → ClockRegistry} {node : String}
      {draft : EventDraft} {e : Event} {r : ClockRegistry} (run : Run home start history clocks)
      (fresh : ∀ d, stamped d ∈ history → d.id ≠ draft.id)
      (step : (clocks (home node)).stamp node draft = (.ok e, r)) :
      Run home start (history ++ [stamped e]) (Function.update clocks (home node) r)
  | receive {history : List Occurrence} {clocks : Host → ClockRegistry} {node : String} {e : Event}
      {clock : Nat} {r : ClockRegistry} (run : Run home start history clocks)
      (sent : stamped e ∈ history)
      (step : (clocks (home node)).update node e.lamportClock = (.ok clock, r)) :
      Run home start (history ++ [received node e]) (Function.update clocks (home node) r)

/-- Before its node stamped an event, it had stamped or received another one. -/
def Known (history : List Occurrence) (e f : Event) : Prop :=
  ∃ x : Occurrence, x.event = e ∧ x.node = f.nodeId ∧ [x, stamped f].Sublist history

def HappenedBefore (history : List Occurrence) : Event → Event → Prop :=
  Relation.TransGen (Known history)

/-- No clock is behind what its node has stamped or received. -/
def Bounded (home : String → Host) (history : List Occurrence) (clocks : Host → ClockRegistry) : Prop :=
  ∀ x ∈ history, ∀ value, (clocks (home x.node)).storage.load x.node = .ok value →
    (x.event.lamportClock : Int) ≤ value

section Steps

variable {home : String → Host} {start clocks : Host → ClockRegistry} {history : List Occurrence}
  {node : String} {r : ClockRegistry} {value clock : Int}

theorem load_update
    (after : ∀ other, r.storage.load other =
      if node = other then .ok clock else (clocks (home node)).storage.load other) (other : String) :
    (Function.update clocks (home node) r (home other)).storage.load other =
      if node = other then .ok clock else (clocks (home other)).storage.load other := by
  by_cases shared : home other = home node
  · rw [shared, Function.update_self, after]
  · have apart : node ≠ other := fun same => shared (congrArg home same.symm)
    rw [Function.update_of_ne shared, if_neg apart]

/-- A clock that grows at least to what is stamped or received with it stays ahead. -/
theorem Bounded.step (bounded : Bounded home history clocks)
    (load : (clocks (home node)).storage.load node = .ok value) (grows : value < clock)
    (after : ∀ other, r.storage.load other =
      if node = other then .ok clock else (clocks (home node)).storage.load other)
    {x : Occurrence} (place : x.node = node) (reached : x.event.lamportClock ≤ clock) :
    Bounded home (history ++ [x]) (Function.update clocks (home node) r) := by
  intro y member loaded now
  rw [load_update after] at now
  split at now
  · rename_i here
    cases now
    rcases List.mem_append.mp member with old | new
    · have behind := bounded y old value (by rw [← here, load])
      omega
    · rw [List.mem_singleton.mp new]
      exact reached
  · rename_i elsewhere
    rcases List.mem_append.mp member with old | new
    · exact bounded y old loaded now
    · rw [List.mem_singleton.mp new] at elsewhere
      exact absurd place.symm elsewhere

end Steps

section Runs

variable {home : String → Host} {start clocks : Host → ClockRegistry} {history : List Occurrence}

theorem Run.bounded (run : Run home start history clocks) : Bounded home history clocks := by
  induction run with
  | start => exact List.forall_mem_nil _
  | stamp run fresh step ih =>
    obtain ⟨place, -, value, load, next, after⟩ := ClockRegistry.stamp_eq_ok step
    exact ih.step load (by omega) after place le_rfl
  | receive run sent step ih =>
    obtain ⟨value, load, next, after⟩ := ClockRegistry.update_eq_ok step
    exact ih.step load (by omega) after rfl (by simp only [event]; omega)

/-- The id of a stamped event is its own. -/
theorem Run.eq_of_id (run : Run home start history clocks) {d e : Event} (hd : stamped d ∈ history)
    (he : stamped e ∈ history) (id : d.id = e.id) : d = e := by
  induction run with
  | start => cases hd
  | receive run sent step ih =>
    have old (c : Event) {h : List Occurrence} {n : String} {m : Event}
        (member : stamped c ∈ h ++ [received n m]) : stamped c ∈ h := by
      simpa using member
    exact ih (old d hd) (old e he)
  | stamp run fresh step ih =>
    obtain ⟨-, own, -⟩ := ClockRegistry.stamp_eq_ok step
    rcases List.mem_append.mp hd with earlierD | lastD <;>
      rcases List.mem_append.mp he with earlierE | lastE
    · exact ih earlierD earlierE
    · cases List.mem_singleton.mp lastE
      exact absurd (id.trans own) (fresh d earlierD)
    · cases List.mem_singleton.mp lastD
      exact absurd (id.symm.trans own) (fresh e earlierE)
    · cases List.mem_singleton.mp lastD
      cases List.mem_singleton.mp lastE
      rfl

theorem pair_sublist_concat {x y z : Occurrence} (h : [x, y].Sublist (history ++ [z])) :
    [x, y].Sublist history ∨ x ∈ history ∧ y = z := by
  obtain ⟨front, back, pair, before, last⟩ := List.sublist_append_iff.mp h
  rcases List.sublist_singleton.mp last with rfl | rfl
  · rw [List.append_nil] at pair
    exact Or.inl (pair ▸ before)
  · obtain ⟨rfl, last⟩ := List.append_inj' (show [x] ++ [y] = front ++ [z] from pair) rfl
    exact Or.inr ⟨List.singleton_sublist.mp before, (List.cons.inj last).1⟩

theorem Run.clock_lt_of_known (run : Run home start history clocks) {e f : Event}
    (known : Known history e f) : e.lamportClock < f.lamportClock := by
  obtain ⟨x, rfl, place, earlier⟩ := known
  induction run with
  | start => cases earlier
  | receive run sent step ih =>
    rcases pair_sublist_concat earlier with earlier | ⟨-, last⟩
    · exact ih earlier
    · cases last
  | stamp run fresh step ih =>
    rcases pair_sublist_concat earlier with earlier | ⟨member, last⟩
    · exact ih earlier
    · cases last
      obtain ⟨own, -, value, load, next, -⟩ := ClockRegistry.stamp_eq_ok step
      have behind := run.bounded x member value (by rw [place, own, load])
      omega

theorem Run.clock_lt (run : Run home start history clocks) {e f : Event}
    (before : HappenedBefore history e f) : e.lamportClock < f.lamportClock := by
  induction before with
  | single known => exact run.clock_lt_of_known known
  | tail _ known ih => exact ih.trans (run.clock_lt_of_known known)

/-- Only one event of an id was stamped, so a log of what was stamped keeps all of it. -/
theorem Run.mem_canonicalize (run : Run home start history clocks) {log : List Event}
    (written : ∀ d ∈ log, stamped d ∈ history) {e : Event} (member : e ∈ log) :
    e ∈ Event.canonicalize log := by
  have ids := Event.mem_canonicalize_ids.mpr (List.mem_map_of_mem member)
  obtain ⟨kept, present, id⟩ := List.mem_map.mp ids
  have logged := Event.mem_of_mem_canonicalize present
  rw [← run.eq_of_id (written kept logged) (written e member) id]
  exact present

/-- An event that happened before another has a smaller clock. In the canonical sequence of any log of
    stamped events it precedes the other. -/
theorem happened_before_precedes (run : Run home start history clocks) {e f : Event}
    (before : HappenedBefore history e f) :
    e.lamportClock < f.lamportClock ∧
      ∀ log : List Event, (∀ d ∈ log, stamped d ∈ history) → e ∈ log → f ∈ log →
        [e, f].Sublist (Event.canonicalize log) := by
  have less := run.clock_lt before
  refine ⟨less, fun log written he hf => ?_⟩
  refine Event.pair_sublist_canonicalize (run.mem_canonicalize written he)
    (run.mem_canonicalize written hf) ?_
  rw [← OrderKey.before_iff_lt, OrderKey.before]
  simp [Event.orderKey, less]

/-- One node takes notice of an event of another and then stamps its own. -/
theorem happened_before_precedes_reply :
    let start : Bool → ClockRegistry := fun _ => .new (.memory .empty)
    let home : String → Bool := fun node => node == "a"
    let draft : EventDraft :=
      { id := ⟨"ask"⟩, eventType := "MissionStarted", aggregateId := "m",
        timestamp := ⟨2026, 1, 1, 0, 0, 0, 0, by decide, by decide, by decide, by decide, by decide⟩ }
    let ask := { draft with nodeId := "b", lamportClock := 1 }.event
    let reply := { draft with id := ⟨"answer"⟩, nodeId := "a", lamportClock := 3 }.event
    let history := [stamped ask, received "a" ask, stamped reply]
    (∃ clocks, Run home start history clocks) ∧ HappenedBefore history ask reply ∧
      [ask, reply].Sublist (Event.canonicalize [reply, ask, reply]) := by
  intro start home draft ask reply history
  obtain ⟨bob, asks⟩ : ∃ r, (start (home "b")).stamp "b" draft = (.ok ask, r) := ⟨_, rfl⟩
  have asked : Run home start [stamped ask] _ := .stamp .start (by simp) asks
  obtain ⟨alice, last, hears, replies⟩ : ∃ r r', (start (home "a")).update "a" 1 = (.ok 2, r) ∧
      r.stamp "a" { draft with id := ⟨"answer"⟩ } = (.ok reply, r') := ⟨_, _, rfl, rfl⟩
  have heard : Run home start [stamped ask, received "a" ask] _ :=
    .receive asked List.mem_cons_self hears
  have fresh : ∀ d, stamped d ∈ [stamped ask, received "a" ask] → d.id ≠ ⟨"answer"⟩ := by
    intro d member
    have same : d = ask := by simpa using member
    rw [same]
    decide
  have run : Run home start history _ := .stamp heard fresh replies
  have before : HappenedBefore history ask reply :=
    .single ⟨received "a" ask, rfl, rfl, (List.Sublist.refl _).cons _⟩
  have written : ∀ d ∈ [reply, ask, reply], stamped d ∈ history := by
    intro d member
    simp only [List.mem_cons, List.not_mem_nil, or_false] at member
    rcases member with rfl | rfl | rfl <;> simp [history]
  obtain ⟨-, ordered⟩ := happened_before_precedes run before
  exact ⟨⟨_, run⟩, before, ordered _ written (by simp) (by simp)⟩

end Runs

end Causality
end EventLedger
