import EventLedger.Proofs.Reduction.Moves

/-! A history in which nothing is odd. Main statement: the unforced changes of each work package then
lead from lane to lane as lanes allow, from planned to where the package stands. -/

namespace EventLedger.Status

open Payload (WpStatusChanged)

variable {s : State} {e : Event} {c : WpStatusChanged} {k : String} {l : Lane}
  {cs : List (Event × WpStatusChanged)}

/-- Changes that can follow one another from a lane on: each starts where the one before it ended, and
    moves as lanes allow. -/
def Path : Lane → List (Event × WpStatusChanged) → Prop
  | _, [] => True
  | l, f :: cs => f.2.fromLane = l ∧ l.allows f.2.toLane ∧ Path f.2.toLane cs

def ofPackage (k : String) (cs : List (Event × WpStatusChanged)) : List (Event × WpStatusChanged) :=
  cs.filter fun f => f.2.wpId = k

/-- The lane in which a package is met; it is planned if nothing is known of it. -/
def laneMet (s : State) (k : String) : Lane := (s.laneOf? k).getD .planned

theorem Path.head (path : Path l cs) : ∀ f ∈ cs.head?, f.2.fromLane = l := by
  intro f first
  cases cs with
  | nil => cases first
  | cons g cs =>
    obtain rfl : g = f := Option.some.inj first
    exact path.1

theorem Path.isChain (path : Path l cs) :
    List.IsChain (fun f g => f.2.toLane = g.2.fromLane) cs := by
  induction cs generalizing l with
  | nil => exact .nil
  | cons f cs ih =>
    obtain ⟨-, -, rest⟩ := path
    cases cs with
    | nil => exact .singleton f
    | cons g cs => exact .cons_cons rest.1.symm (ih rest)

theorem Path.allows (path : Path l cs) : ∀ f ∈ cs, f.2.fromLane.allows f.2.toLane := by
  induction cs generalizing l with
  | nil => exact List.forall_mem_nil _
  | cons f cs ih =>
    obtain ⟨start, allowed, rest⟩ := path
    intro g member
    rcases List.mem_cons.mp member with rfl | member
    · rw [start]
      exact allowed
    · exact ih rest g member

theorem isTerminal_of_allows {l target : Lane} (allowed : l.allows target) : l.isTerminal = false := by
  cases l with
  | done => cases allowed
  | canceled => cases allowed
  | _ => rfl

theorem package_lane (s : State) (c : WpStatusChanged) : (package s c).lane = laneMet s c.wpId := by
  unfold package laneMet State.laneOf? workPackage?
  cases s.workPackages.find? c.wpId <;> rfl

theorem mismatch_eq_nil : mismatch l c = [] ↔ c.fromLane = l := by
  unfold mismatch
  split <;> simp [*]

theorem objections_eq_nil (unforced : c.force = false) : objections l c = [] ↔ l.allows c.toLane := by
  unfold objections
  rw [if_neg (Bool.eq_false_iff.mp unforced)]
  split <;> simp [*]

/-- An unforced change is not odd exactly if it is one more move along the path of its package. -/
theorem apply_quiet_iff (unforced : c.force = false) :
    (apply s e c).2 = [] ↔ e.id ∉ s.superseded ∧ c.fromLane = laneMet s c.wpId ∧
      (laneMet s c.wpId).allows c.toLane := by
  rw [← package_lane]
  rcases apply_cases s e c with ⟨superseded, dismissed⟩ | ⟨kept, ended, -, late⟩ | ⟨kept, -, made⟩
  · rw [dismissed]
    exact ⟨nofun, fun quiet => absurd superseded quiet.1⟩
  · rw [late]
    constructor
    · exact fun quiet => absurd quiet (List.append_ne_nil_of_right_ne_nil _ (List.cons_ne_nil _ _))
    · rintro ⟨-, -, allowed⟩
      rw [isTerminal_of_allows allowed] at ended
      cases ended
  · rw [made, List.append_eq_nil_iff, mismatch_eq_nil, objections_eq_nil unforced]
    exact (and_iff_right kept).symm

theorem apply_of_quiet (quiet : (apply s e c).2 = []) :
    (apply s e c).1 = moved s e c := by
  rcases apply_cases s e c with ⟨-, dismissed⟩ | ⟨-, -, -, late⟩ | ⟨-, -, made⟩
  · rw [dismissed] at quiet
    cases quiet
  · rw [late] at quiet
    exact absurd quiet (List.append_ne_nil_of_right_ne_nil _ (List.cons_ne_nil _ _))
  · rw [made]

theorem laneOf?_moved (s : State) (e : Event) (c : WpStatusChanged) (k : String) :
    (moved s e c).laneOf? k = if c.wpId = k then some c.toLane else s.laneOf? k := by
  unfold State.laneOf? moved
  dsimp only
  rw [Index.find?_insert]
  split <;> rfl

theorem laneMet_moved (s : State) (e : Event) (c : WpStatusChanged) (k : String) :
    laneMet (moved s e c) k = if c.wpId = k then c.toLane else laneMet s k := by
  unfold laneMet
  rw [laneOf?_moved]
  split <;> rfl

theorem ofPackage_cons (f : Event × WpStatusChanged) (cs : List (Event × WpStatusChanged)) (k : String) :
    ofPackage k (f :: cs) = if f.2.wpId = k then f :: ofPackage k cs else ofPackage k cs := by
  unfold ofPackage
  rw [List.filter_cons]
  simp only [decide_eq_true_eq]

theorem findings_cons_quiet {f : Event × WpStatusChanged} :
    (projection.findings s ((f :: cs).map asFolded)).flatten = [] ↔ (apply s f.1 f.2).2 = [] ∧
      (projection.findings (apply s f.1 f.2).1 (cs.map asFolded)).flatten = [] :=
  projection.findings_cons_quiet

/-- One more move along the path of its package leaves the paths of all others as they were. -/
theorem paths_cons {f : Event × WpStatusChanged} :
    (∀ k, Path (laneMet s k) (ofPackage k (f :: cs))) ↔
      (f.2.fromLane = laneMet s f.2.wpId ∧ (laneMet s f.2.wpId).allows f.2.toLane) ∧
        ∀ k, Path (laneMet (moved s f.1 f.2) k) (ofPackage k cs) := by
  constructor
  · intro paths
    have own := paths f.2.wpId
    rw [ofPackage_cons, if_pos rfl] at own
    obtain ⟨start, allowed, rest⟩ := own
    refine ⟨⟨start, allowed⟩, fun k => ?_⟩
    rw [laneMet_moved]
    split
    · rename_i same
      exact same ▸ rest
    · rename_i other
      have path := paths k
      rwa [ofPackage_cons, if_neg other] at path
  · rintro ⟨⟨start, allowed⟩, paths⟩ k
    have path := paths k
    rw [laneMet_moved] at path
    rw [ofPackage_cons]
    split
    · rename_i same
      rw [if_pos same] at path
      subst same
      exact ⟨start, allowed, path⟩
    · rename_i other
      rwa [if_neg other] at path

/-- Nothing is odd about unforced changes exactly if none of them is superseded and those of each
    package are a path from its lane on. -/
theorem findings_quiet_iff (unforced : ∀ f ∈ cs, f.2.force = false) :
    (projection.findings s (cs.map asFolded)).flatten = [] ↔
      (∀ f ∈ cs, f.1.id ∉ s.superseded) ∧ ∀ k, Path (laneMet s k) (ofPackage k cs) := by
  -- Each quiet change leads its package to another lane, so the induction is over all states.
  induction cs generalizing s with
  | nil => exact ⟨fun _ => ⟨List.forall_mem_nil _, fun _ => trivial⟩, fun _ => rfl⟩
  | cons f cs ih =>
    have here := unforced f List.mem_cons_self
    have later := fun g member => unforced g (List.mem_cons_of_mem f member)
    rw [findings_cons_quiet, paths_cons, List.forall_mem_cons]
    constructor
    · rintro ⟨now, rest⟩
      rw [apply_of_quiet now, ih later] at rest
      obtain ⟨kept, step⟩ := (apply_quiet_iff here).mp now
      exact ⟨⟨kept, rest.1⟩, step, rest.2⟩
    · rintro ⟨⟨kept, others⟩, step, paths⟩
      have now := (apply_quiet_iff here).mpr ⟨kept, step⟩
      rw [apply_of_quiet now, ih later]
      exact ⟨now, others, paths⟩

/-- Where nothing is odd, a package stands in the lane that its last change led to. -/
theorem laneOf?_of_quiet (unforced : ∀ f ∈ cs, f.2.force = false)
    (quiet : (projection.findings s (cs.map asFolded)).flatten = []) (k : String) :
    (projection.after s (cs.map asFolded)).laneOf? k =
      ((ofPackage k cs).getLast?.map (·.2.toLane)).or (s.laneOf? k) := by
  induction cs generalizing s with
  | nil => rfl
  | cons f cs ih =>
    have here := unforced f List.mem_cons_self
    have later := fun g member => unforced g (List.mem_cons_of_mem f member)
    obtain ⟨now, rest⟩ := findings_cons_quiet.mp quiet
    have stepped : projection.after s ((f :: cs).map asFolded) =
        projection.after (apply s f.1 f.2).1 (cs.map asFolded) := rfl
    rw [stepped, ih later rest, apply_of_quiet now, laneOf?_moved, ofPackage_cons]
    split
    · rw [List.getLast?_cons]
      cases (ofPackage k cs).getLast? <;> rfl
    · rfl

/-- Where a log of unforced changes leads to no anomaly, the changes folded for a package go from planned
    to its lane, each from where the one before it ended, by moves that lanes allow. -/
theorem quiet_history_leads (log : List Event) (unforced : ∀ f ∈ folded log, f.2.force = false)
    (quiet : (projection.reduce log).anomalies = []) (k : String) :
    let mine := (folded log).filter fun f => f.2.wpId = k
    (mine.map (·.1)).Sublist (Event.canonicalize log) ∧
      (∀ f ∈ mine.head?, f.2.fromLane = .planned) ∧
      List.IsChain (fun f g => f.2.toLane = g.2.fromLane) mine ∧
      (∀ f ∈ mine, f.2.fromLane.allows f.2.toLane) ∧
      (projection.reduce log).state.laneOf? k = mine.getLast?.map (·.2.toLane) := by
  intro mine
  rw [projection.reduce_entries, List.append_eq_nil_iff, ← map_asFolded] at quiet
  have path : Path .planned mine := ((findings_quiet_iff unforced).mp quiet.2).2 k
  have lane := laneOf?_of_quiet unforced quiet.2 k
  refine ⟨?_, path.head, path.isChain, path.allows, ?_⟩
  · exact (List.filter_sublist.map Prod.fst).trans (folded_events log)
  · rw [projection.reduce_state, ← map_asFolded, lane]
    exact Option.or_none

/-- Two packages in turn, one of which is sent back to be planned again. -/
theorem quiet_history_leads_two_packages :
    let change (id : String) (clock : Nat) (wpId source target : String) : Event :=
      Event.plain id clock "WPStatusChanged" (.object [("actor", .string "a"),
        ("feature_slug", .string "slug"), ("from_lane", .string source),
        ("to_lane", .string target), ("wp_id", .string wpId)])
    let log := [change "e1" 1 "WP01" "planned" "claimed", change "e2" 2 "WP02" "planned" "claimed",
      change "e3" 3 "WP01" "claimed" "doing", change "e4" 4 "WP02" "claimed" "planned"]
    let mine := (folded log).filter fun f => f.2.wpId = "WP01"
    (∀ f ∈ folded log, f.2.force = false) ∧ (projection.reduce log).anomalies = [] ∧
      mine.length = 2 ∧ List.IsChain (fun f g => f.2.toLane = g.2.fromLane) mine ∧
      (projection.reduce log).state.laneOf? "WP01" = mine.getLast?.map (·.2.toLane) := by
  intro change log mine
  have sorted : Event.Ascending log := by decide
  have canonical : Event.canonicalize log = log := Event.canonicalize_of_ascending sorted (by decide)
  have unforced : ∀ f ∈ folded log, f.2.force = false := by
    rw [folded, canonical]
    decide +kernel
  have quiet : (projection.reduce log).anomalies = [] := by
    rw [projection.reduce_entries, canonical]
    decide +kernel
  have two : mine.length = 2 := by
    dsimp only [mine]
    rw [folded, canonical]
    decide +kernel
  obtain ⟨-, -, chain, -, lane⟩ := quiet_history_leads log unforced quiet "WP01"
  exact ⟨unforced, quiet, two, chain, lane⟩

end EventLedger.Status
