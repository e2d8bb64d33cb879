import EventLedger.Proofs.Reduction.Rollback

/-! A change of a work package is superseded, comes too late, or moves its package. Main statement:
whatever becomes of it, it counts in exactly one place. -/

namespace EventLedger.Status

open Payload (WpStatusChanged)

variable {s : State} {e : Event} {c : WpStatusChanged} {k : String} {wp : WorkPackage}

/-- The package that a change is about, as it stands; it is planned if nothing is known of it. -/
def package (s : State) (c : WpStatusChanged) : WorkPackage :=
  (workPackage? s c.wpId).getD (.planned c)

def moved (s : State) (e : Event) (c : WpStatusChanged) : State :=
  { s with workPackages := s.workPackages.insert c.wpId ((package s c).move e.id c) }

/-- What is found of a change that comes after the end of its package. -/
def belated (lane : Lane) (c : WpStatusChanged) : Finding :=
  ⟨.eventAfterTerminal,
    c.wpId ++ " is " ++ lane.name ++ "; move to " ++ c.toLane.name ++ " ignored"⟩

/-- What is held against a move that is made all the same. -/
def objections (lane : Lane) (c : WpStatusChanged) : List Finding :=
  if c.force then withoutReason c
  else if lane.allows c.toLane then []
  else
    [⟨.invalidTransition,
      c.wpId ++ " cannot move " ++ lane.name ++ " -> " ++ c.toLane.name⟩]

theorem known_of_isTerminal (ended : (package s c).lane.isTerminal) :
    workPackage? s c.wpId = some (package s c) := by
  unfold package at ended ⊢
  cases known : workPackage? s c.wpId with
  | none => rw [known] at ended; cases ended
  | some wp => rfl

/-- All that a change can do. -/
theorem apply_cases (s : State) (e : Event) (c : WpStatusChanged) :
    (e.id ∈ s.superseded ∧ apply s e c = (s, [dismissal c])) ∨
    (e.id ∉ s.superseded ∧ (package s c).lane.isTerminal ∧ c.force = false ∧
      apply s e c =
        (s, mismatch (package s c).lane c ++ [belated (package s c).lane c])) ∨
    (e.id ∉ s.superseded ∧ (c.force = false → (package s c).lane.isTerminal = false) ∧
      apply s e c =
        (moved s e c, mismatch (package s c).lane c ++ objections (package s c).lane c)) := by
  by_cases superseded : e.id ∈ s.superseded
  · exact .inl ⟨superseded, apply_dismissed superseded⟩
  · right
    have kept : ¬ s.superseded.contains e.id = true := mt List.contains_iff_mem.mp superseded
    have here : (s.workPackages.find? c.wpId).getD (.planned c) = package s c := rfl
    unfold apply
    rw [if_neg kept, here]
    dsimp only
    cases forced : c.force with
    | true =>
      exact .inr ⟨superseded, nofun, by simp [objections, forced, moved]⟩
    | false =>
      cases ended : (package s c).lane.isTerminal with
      | true =>
        -- The package is set to what it already is, so the state stays as it was.
        have same := Index.insert_of_find? (known_of_isTerminal (s := s) (c := c) ended)
        refine .inl ⟨superseded, rfl, rfl, ?_⟩
        rw [same]
        rfl
      | false =>
        refine .inr ⟨superseded, fun _ => rfl, ?_⟩
        by_cases allowed : (package s c).lane.allows c.toLane = true <;>
          simp [objections, forced, moved, allowed]

/-- The moves made so far. -/
def State.moves (s : State) : Nat := (s.workPackages.values.map (·.transitions)).sum

/-- How many of the oddities are of changes that were not made. -/
def setAside (odd : List AnomalyKind) : Nat :=
  odd.count .supersededByRollback + odd.count .eventAfterTerminal

theorem setAside_append (odd more : List AnomalyKind) :
    setAside (odd ++ more) = setAside odd + setAside more := by
  unfold setAside
  rw [List.count_append, List.count_append]
  omega

theorem setAside_mismatch (lane : Lane) (c : WpStatusChanged) :
    setAside ((mismatch lane c).map Finding.kind) = 0 := by
  unfold mismatch
  split <;> rfl

theorem setAside_objections (lane : Lane) (c : WpStatusChanged) :
    setAside ((objections lane c).map Finding.kind) = 0 := by
  unfold objections withoutReason
  split_ifs <;> rfl

theorem package_transitions (s : State) (c : WpStatusChanged) :
    (package s c).transitions = ((workPackage? s c.wpId).map (·.transitions)).getD 0 := by
  unfold package
  cases workPackage? s c.wpId <;> rfl

theorem moves_moved (s : State) (e : Event) (c : WpStatusChanged) :
    (moved s e c).moves = s.moves + 1 := by
  have sum : (moved s e c).moves + ((workPackage? s c.wpId).map (·.transitions)).getD 0 =
      s.moves + ((package s c).transitions + 1) :=
    s.workPackages.sum_values_insert c.wpId ((package s c).move e.id c) (·.transitions)
  have before := package_transitions s c
  omega

/-- A change is a move more, or else one that was not made. -/
theorem apply_counts (s : State) (e : Event) (c : WpStatusChanged) :
    (apply s e c).1.moves + setAside ((apply s e c).2.map Finding.kind) = s.moves + 1 := by
  rcases apply_cases s e c with ⟨-, dismissed⟩ | ⟨-, -, -, late⟩ | ⟨-, -, made⟩
  · rw [dismissed]
    rfl
  · rw [late, List.map_append, setAside_append, setAside_mismatch, Nat.zero_add]
    rfl
  · rw [made, List.map_append, setAside_append, setAside_mismatch, setAside_objections, moves_moved]

/-- A change as an event of a fold. -/
def asFolded (f : Event × WpStatusChanged) : Event × Payload := (f.1, .wpStatusChanged f.2)

theorem map_asFolded (log : List Event) :
    (folded log).map asFolded = projection.relevant (Event.canonicalize log) := map_folded log

theorem after_counts (s : State) (cs : List (Event × WpStatusChanged)) :
    (projection.after s (cs.map asFolded)).moves +
        setAside ((projection.findings s (cs.map asFolded)).flatten.map Anomaly.kind) =
      s.moves + cs.length := by
  induction cs generalizing s with
  | nil => rfl
  | cons f cs ih =>
    have step := apply_counts s f.1 f.2
    have rest := ih (apply s f.1 f.2).1
    have found : ((apply s f.1 f.2).2.map (Anomaly.about f.1)).map Anomaly.kind =
        (apply s f.1 f.2).2.map Finding.kind := by
      rw [List.map_map]
      rfl
    have stepped : projection.step s (asFolded f).1 (asFolded f).2 = apply s f.1 f.2 := rfl
    rw [List.map_cons, Projection.after_cons, Projection.findings_cons, stepped, List.flatten_cons,
      List.map_append, setAside_append, List.length_cons]
    dsimp only [asFolded] at found ⊢
    rw [found]
    omega

/-- What is true of a package from its first move on. -/
structure WorkPackage.Sound (wp : WorkPackage) : Prop where
  hasMoved : 1 ≤ wp.transitions
  forced_le : wp.forcedTransitions ≤ wp.transitions
  hasEvent : wp.lastEventId.isSome

theorem sound_move (le : wp.forcedTransitions ≤ wp.transitions) (id : EventId)
    (c : WpStatusChanged) : (wp.move id c).Sound := by
  refine ⟨Nat.le_add_left 1 _, ?_, rfl⟩
  unfold WorkPackage.move
  dsimp only
  split <;> omega

theorem sound_apply (sound : ∀ k wp, workPackage? s k = some wp → wp.Sound) (e : Event)
    (c : WpStatusChanged) : ∀ k wp, workPackage? (apply s e c).1 k = some wp → wp.Sound := by
  rcases apply_cases s e c with ⟨-, dismissed⟩ | ⟨-, -, -, late⟩ | ⟨-, -, made⟩
  · rw [dismissed]
    exact sound
  · rw [late]
    exact sound
  · rw [made]
    intro k wp known
    unfold workPackage? moved at known
    dsimp only at known
    rw [Index.find?_insert] at known
    split at known
    · have le : (package s c).forcedTransitions ≤ (package s c).transitions := by
        unfold package
        cases before : workPackage? s c.wpId with
        | none => exact Nat.le_refl 0
        | some wp => exact (sound _ wp before).forced_le
      rw [← Option.some.inj known]
      exact sound_move le e.id c
    · exact sound k wp known

theorem workPackage?_start (cs : List (Event × Payload)) (k : String) :
    workPackage? (projection.start cs) k = none := rfl

theorem sound_reduce (log : List Event) {k : String} {wp : WorkPackage}
    (known : workPackage? (projection.reduce log).state k = some wp) : wp.Sound := by
  rw [projection.reduce_state] at known
  refine projection.after_keeps (fun s => ∀ k wp, workPackage? s k = some wp → wp.Sound)
    (fun s e x sound => ?_) (fun k wp known => ?_) _ k wp known
  · cases x with
    | wpStatusChanged c => exact sound_apply sound e c
    | _ => exact sound
  · cases known.symm.trans (workPackage?_start _ k)

theorem transitions_le_moves (known : workPackage? s k = some wp) : wp.transitions ≤ s.moves :=
  List.single_le_sum (fun _ _ => Nat.zero_le _) _ (List.mem_map_of_mem (Index.mem_values known))

theorem eventCount_le_length (log : List Event) : (projection.reduce log).eventCount ≤ log.length := by
  have folded := (folded_events log).length_le
  have canonical := Domain.length_canonicalize log
  have distinct := (List.dedup_sublist (log.map Event.id)).length_le
  rw [List.length_map] at folded distinct
  rw [eventCount_eq]
  omega

theorem eventCount_balance (log : List Event) :
    let s := projection.reduce log
    s.eventCount = s.state.moves + (s.ofKind .supersededByRollback).length +
      (s.ofKind .eventAfterTerminal).length := by
  intro s
  let folds := projection.relevant (Event.canonicalize log)
  let found := (projection.findings (projection.start folds) folds).flatten
  have unmoved : (projection.start folds).moves = 0 := rfl
  have counts := after_counts (projection.start folds) (folded log)
  rw [map_asFolded, unmoved, ← eventCount_eq, ← projection.reduce_state] at counts
  -- What is screened out before the fold is of neither kind.
  have number {k : AnomalyKind} (unscreened : ¬ k.IsScreened) :
      (s.ofKind k).length = (found.map Anomaly.kind).count k := by
    have kept : s.ofKind k = found.filter fun a => a.kind = k :=
      Domain.ofKind_folded .status log unscreened
    rw [kept, List.count_eq_countP, List.countP_map, List.countP_eq_length_filter]
    rfl
  have counted : s.state.moves + setAside (found.map Anomaly.kind) = s.eventCount :=
    counts.trans (Nat.zero_add _)
  rw [← counted, number (by decide), number (by decide), setAside, Nat.add_assoc]

/-- The order of lanes, as the counts go by it. -/
instance : LinearOrder Lane where
  le_refl := Std.le_refl
  le_trans _ _ _ := Std.le_trans
  le_antisymm _ _ := Std.le_antisymm
  le_total _ _ := Std.le_total
  lt_iff_le_not_ge _ _ := Std.LawfulOrderLT.lt_iff _ _
  toDecidableLE := fun a b => inferInstanceAs (Decidable (a.ctorIdx ≤ b.ctorIdx))
  toDecidableEq := inferInstance
  toDecidableLT := inferInstance

theorem inLane_eq (s : State) (l : Lane) :
    s.inLane l = s.workPackages.names.countP fun k => s.laneOf? k = some l := by
  have unused : ((Index.ofList (Lane.all.map fun l => (l, 0))).find? l).getD 0 = 0 := by
    cases l <;> rfl
  rw [State.inLane, State.lanes, Index.find?_foldl_increment, unused, Nat.zero_add]
  exact s.workPackages.countP_values (·.lane) l

/-- Every lane is counted, also one in which there is no work package. -/
theorem entries_lanes (s : State) : s.lanes.entries = Lane.all.map fun l => (l, s.inLane l) := by
  have names : s.lanes.names = Lane.all := by
    rw [State.lanes, Index.names_foldl_increment _ _ _ fun wp _ => by cases wp.lane <;> rfl]
    rfl
  rw [s.lanes.entries_eq_map_names 0, names]
  rfl

theorem sum_inLane (s : State) : (Lane.all.map s.inLane).sum = s.workPackages.names.length := by
  have one (l : Lane) : (Lane.all.map fun lane => if l = lane then 1 else 0).sum = 1 := by
    cases l <;> rfl
  have each : s.inLane = fun l => s.workPackages.values.countP fun wp => wp.lane = l :=
    funext fun l => (inLane_eq s l).trans (s.workPackages.countP_values (·.lane) l).symm
  rw [each, sum_countP one, Index.values, Index.names, List.length_map, List.length_map]

/-- Every folded change counts once: as a move of its package, as superseded, or as one that comes after
    the end of its package. No count reaches what 32 bits cannot hold. The summary gives for each lane
    the number of packages in it. -/
theorem transitions_balance (log : List Event) (bounded : log.length < 2 ^ 32) :
    let s := projection.reduce log
    let packages := s.state.workPackages
    let held (l : Lane) := packages.names.countP fun k => s.state.laneOf? k = some l
    s.eventCount = (packages.values.map (·.transitions)).sum +
        (s.ofKind .supersededByRollback).length + (s.ofKind .eventAfterTerminal).length ∧
      (∀ k wp, packages.find? k = some wp →
        1 ≤ wp.transitions ∧ wp.transitions < 2 ^ 32 ∧ wp.forcedTransitions ≤ wp.transitions ∧
          wp.lastEventId.isSome) ∧
      s.state.members.lookup "summary" =
          some (.object (Lane.all.map fun l => (l.name, .nat (held l)))) ∧
      (∀ l, Lane.all.count l = 1) ∧ (Lane.all.map held).sum = packages.names.length := by
  intro s packages held
  have balance : s.eventCount = s.state.moves + (s.ofKind .supersededByRollback).length +
      (s.ofKind .eventAfterTerminal).length := eventCount_balance log
  have counted : held = s.state.inLane := funext fun l => (inLane_eq s.state l).symm
  refine ⟨balance, fun k wp known => ?_, ?_, fun l => ?_, ?_⟩
  · have sound : wp.Sound := sound_reduce log known
    have fewer : wp.transitions ≤ s.state.moves := transitions_le_moves known
    have seen : s.eventCount ≤ log.length := eventCount_le_length log
    exact ⟨sound.hasMoved, by omega, sound.forced_le, sound.hasEvent⟩
  · have summary : s.state.members.lookup "summary" =
        some (.object (s.state.lanes.entries.map fun e => (e.1.name, .nat e.2))) := rfl
    rw [summary, entries_lanes, List.map_map, counted]
    rfl
  · cases l <;> rfl
  · rw [counted]
    exact sum_inLane s.state

/-- One package moves twice, the second time by force, and another is canceled before it is claimed. -/
theorem transitions_balance_late_claim :
    let change (id : String) (clock : Nat) (wpId : String) (source target : String) (force : Bool) : Event :=
      Event.plain id clock "WPStatusChanged" (.object [("actor", .string "a"),
        ("feature_slug", .string "slug"), ("force", .bool force), ("from_lane", .string source),
        ("to_lane", .string target), ("wp_id", .string wpId)])
    let log := [change "e1" 1 "WP01" "planned" "claimed" false,
      change "e2" 2 "WP02" "planned" "canceled" false,
      change "e3" 3 "WP01" "claimed" "done" true, change "e4" 4 "WP02" "canceled" "claimed" false]
    let s := projection.reduce log
    log.length < 2 ^ 32 ∧ s.eventCount = 4 ∧ (s.ofKind .eventAfterTerminal).length = 1 ∧
      s.eventCount = (s.state.workPackages.values.map (·.transitions)).sum +
        (s.ofKind .supersededByRollback).length + (s.ofKind .eventAfterTerminal).length := by
  intro change log s
  have bounded : log.length < 2 ^ 32 := by decide
  have sorted : Event.Ascending log := by decide
  have canonical : Event.canonicalize log = log := Event.canonicalize_of_ascending sorted (by decide)
  refine ⟨bounded, ?_, ?_, (transitions_balance log bounded).1⟩
  · rw [eventCount_eq, folded, canonical]
    decide +kernel
  · rw [Snapshot.ofKind, projection.reduce_entries, canonical]
    decide +kernel

end EventLedger.Status
