import EventLedger.Merge.Replicated
import EventLedger.Proofs.Order.Canonical
import EventLedger.Proofs.Reduction.Folding
import Mathlib

/-! What a counter makes of its deltas. Each addition stays in range, so what is cut off at one end is
missing when later deltas lead away from it. Main statement: the total is the sum, held between the
totals that the same deltas lead to from the two ends. -/

namespace EventLedger.Event

/-- An integer that a total can be. -/
def InRange (i : Int) : Prop := totalFloor ≤ i ∧ i ≤ totalCeiling

instance (i : Int) : Decidable (InRange i) := inferInstanceAs (Decidable (_ ∧ _))

/-- The nearest integer that a total can be. -/
def clamp (i : Int) : Int := max totalFloor (min totalCeiling i)

theorem floor_le_ceiling : totalFloor ≤ totalCeiling := by decide

theorem clamp_inRange (i : Int) : InRange (clamp i) := by
  have ends := floor_le_ceiling
  unfold InRange clamp
  omega

theorem clamp_of_inRange {i : Int} (h : InRange i) : clamp i = i := by
  unfold InRange at h
  unfold clamp
  omega

/-- Where a counter gets from a start. -/
def tally (start : Int) (deltas : List Int) : Int := deltas.foldl saturatingAdd start

theorem tally_cons (start d : Int) (deltas : List Int) :
    tally start (d :: deltas) = tally (clamp (start + d)) deltas := rfl

theorem tally_append_singleton (start d : Int) (deltas : List Int) :
    tally start (deltas ++ [d]) = clamp (tally start deltas + d) := by
  rw [tally, List.foldl_append]
  rfl

theorem tally_inRange {start : Int} (h : InRange start) (deltas : List Int) :
    InRange (tally start deltas) := by
  induction deltas generalizing start with
  | nil => exact h
  | cons d deltas ih => exact ih (clamp_inRange _)

theorem tally_mono {a b : Int} (le : a ≤ b) (deltas : List Int) : tally a deltas ≤ tally b deltas := by
  induction deltas generalizing a b with
  | nil => exact le
  | cons d deltas ih =>
    apply ih
    unfold saturatingAdd
    omega

/-- One addition moves the bounds of a sum as it moves the sum. -/
theorem clamp_add_between {least greatest sum : Int} (hl : InRange least) (hg : InRange greatest)
    (le : least ≤ greatest) (d : Int) :
    clamp (max least (min greatest sum) + d) =
      max (clamp (least + d)) (min (clamp (greatest + d)) (sum + d)) := by
  unfold InRange at hl hg
  unfold clamp
  omega

theorem inRange_floor : InRange totalFloor := by decide

theorem inRange_ceiling : InRange totalCeiling := by decide

/-- A counter gets to the sum, as far as the deltas let it from the two ends. -/
theorem tally_eq_between {start : Int} (h : InRange start) (deltas : List Int) :
    tally start deltas =
      max (tally totalFloor deltas) (min (tally totalCeiling deltas) (start + deltas.sum)) := by
  induction deltas using List.reverseRecOn with
  | nil =>
    rw [List.sum_nil, Int.add_zero]
    exact (clamp_of_inRange h).symm
  | append_singleton deltas d ih =>
    have least := tally_inRange inRange_floor deltas
    have greatest := tally_inRange inRange_ceiling deltas
    have le := tally_mono floor_le_ceiling deltas
    rw [tally_append_singleton, tally_append_singleton, tally_append_singleton, ih,
      clamp_add_between least greatest le, List.sum_append, List.sum_singleton, Int.add_assoc]

theorem between_eq_clamp_iff {least greatest : Int} (hl : InRange least) (hg : InRange greatest)
    (le : least ≤ greatest) (sum : Int) :
    max least (min greatest sum) = clamp sum ↔
      (least = totalFloor ∨ least ≤ sum) ∧ (greatest = totalCeiling ∨ sum ≤ greatest) := by
  unfold InRange at hl hg
  unfold clamp
  omega

theorem tally_of_prefixes {start : Int} {deltas : List Int}
    (h : ∀ n, InRange (start + (deltas.take n).sum)) : tally start deltas = start + deltas.sum := by
  induction deltas generalizing start with
  | nil => exact (Int.add_zero start).symm
  | cons d deltas ih =>
    have first : clamp (start + d) = start + d := clamp_of_inRange (by simpa using h 1)
    rw [tally_cons, first, List.sum_cons, ← Int.add_assoc]
    refine ih fun n => ?_
    simpa [Int.add_assoc] using h (n + 1)

/-- The integer under a field, however large. -/
def integer? : Option Json → Option Int
  | some (.number (.integer i)) => some i
  | _ => none

theorem delta?_eq_filter (value : Option Json) :
    delta? value = (integer? value).filter fun i => InRange i := by
  rcases value with _ | v
  · rfl
  · cases v with
    | number n =>
      cases n with
      | integer i =>
        rw [integer?, Option.filter_some]
        exact if_congr decide_eq_true_iff.symm rfl rfl
      | float x => rfl
    | _ => rfl

/-- The integers under a field of the canonical events, in their order. -/
def integers (events : List Event) (field : String) : List Int :=
  (canonicalize events).filterMap fun e => integer? (e.payload.get? field)

/-- The integers that a counter adds. -/
def deltas (events : List Event) (field : String) : List Int :=
  (integers events field).filter fun i => InRange i

theorem mergeCounter_eq_tally (events : List Event) (field : String) :
    mergeCounter events field = tally 0 (deltas events field) := by
  have added : deltas events field =
      (canonicalize events).filterMap fun e => delta? (e.payload.get? field) := by
    rw [deltas, integers, List.filter_filterMap]
    simp only [delta?_eq_filter]
  rw [added]
  rfl

theorem sum_integers (events : List Event) (field : String) :
    (integers events field).sum =
      (deltas events field).sum + ((integers events field).filter fun i => ¬ InRange i).sum := by
  rw [← List.sum_append, deltas]
  refine (List.Perm.sum_eq ?_).symm
  simpa using List.filter_append_perm (fun i => decide (InRange i)) (integers events field)

/-- The total is the sum of the deltas, held between what they lead to from the least total and from
    the greatest one. So it is the sum clamped once exactly if neither bound cuts off more than its own
    end of the range does. It is the sum itself as long as no sum on the way leaves the range. Integers
    that no total can be are left out. -/
theorem mergeCounter_clamped_once_iff (events : List Event) (field : String) :
    let added := deltas events field
    let least := tally totalFloor added
    let greatest := tally totalCeiling added
    mergeCounter events field = max least (min greatest added.sum) ∧
      (mergeCounter events field = clamp added.sum ↔
        (least = totalFloor ∨ least ≤ added.sum) ∧ (greatest = totalCeiling ∨ added.sum ≤ greatest)) ∧
      ((∀ n, InRange (added.take n).sum) → mergeCounter events field = added.sum) ∧
      (integers events field).sum =
        added.sum + ((integers events field).filter fun i => ¬ InRange i).sum := by
  intro added least greatest
  have total : mergeCounter events field = max least (min greatest added.sum) := by
    rw [mergeCounter_eq_tally, tally_eq_between (by decide), Int.zero_add]
  refine ⟨total, ?_, fun prefixes => ?_, sum_integers events field⟩
  · rw [total]
    exact between_eq_clamp_iff (tally_inRange inRange_floor _) (tally_inRange inRange_ceiling _)
      (tally_mono floor_le_ceiling _) _
  · rw [mergeCounter_eq_tally, tally_of_prefixes (by simpa using prefixes), Int.zero_add]

/-- The greatest total is reached, one is added and taken away again: what is left is less than the sum,
    while the same deltas in another order lead to it. An integer beyond the greatest total counts
    nothing. -/
theorem sum_lost_at_ceiling :
    let event (id : String) (clock : Nat) (n : Int) : Event :=
      Event.plain id clock "Counted" (.object [("n", .int n)])
    let log := [event "a" 1 totalCeiling, event "b" 2 1, event "c" 3 (-1)]
    let other := [event "a" 1 totalCeiling, event "c" 2 (-1), event "b" 3 1]
    let beyond := [event "a" 1 (totalCeiling + 1)]
    (integers log "n").sum = totalCeiling ∧ mergeCounter log "n" = totalCeiling - 1 ∧
      (integers other "n").sum = totalCeiling ∧ mergeCounter other "n" = totalCeiling ∧
      clamp (integers beyond "n").sum = totalCeiling ∧ mergeCounter beyond "n" = 0 := by
  intro event log other beyond
  have canonical : canonicalize log = log :=
    canonicalize_of_ascending (by decide) (by decide)
  have canonical' : canonicalize other = other :=
    canonicalize_of_ascending (by decide) (by decide)
  have canonical'' : canonicalize beyond = beyond :=
    canonicalize_of_ascending (by decide) (by decide)
  unfold mergeCounter integers
  rw [canonical, canonical', canonical'']
  decide +kernel

end EventLedger.Event
