import EventLedger.Proofs.Merge.Causes
import EventLedger.Proofs.Order.Canonical

/-! What the topological order is: grounded events, each as soon as its cause stands before it and no
other such event has a smaller key, and then all others in canonical order. -/

namespace EventLedger.Event

/-- An event can be placed behind others that have its cause among them, if it has one. -/
def Free (events placed : List Event) (e : Event) : Prop :=
  ∀ c, cause? events e = some c → c ∈ placed

/-- All grounded events, always the one of the least key among those that are free. -/
structure Placement (events placed : List Event) : Prop where
  perm : placed.Perm (events.filter fun e => Grounded events e)
  next : ∀ front e back, placed = front ++ e :: back →
    Free events front e ∧ ∀ f ∈ back, Free events front f → e.orderKey.before f.orderKey

namespace Frontier

/-- What holds of a frontier and of the events placed before it. -/
structure Sound (events front : List Event) (f : Frontier) : Prop where
  perm : (front ++ (f.ready ++ f.waiting)).Perm events
  grounded : ∀ e ∈ front, Grounded events e
  free : ∀ e ∈ f.ready, Free events front e
  blocked : ∀ e ∈ f.waiting, ∃ c ∈ f.ready ++ f.waiting, cause? events e = some c
  readySorted : Ascending f.ready
  waitingSorted : Ascending f.waiting

variable {events front ready waiting : List Event} {e g : Event} {f : Frontier}

theorem sound_start (sorted : Ascending events) : (start events).Sound events [] := by
  have perm : ((start events).ready ++ (start events).waiting).Perm events := by
    have parts := List.filter_append_perm (fun e => (cause? events e).isNone) events
    simpa only [start, Option.not_isNone] using parts
  refine ⟨perm, List.forall_mem_nil _, ?_, ?_, sorted.filter _, sorted.filter _⟩
  · intro e member c cause
    have first := (List.mem_filter.mp member).2
    rw [cause] at first
    cases first
  · intro e member
    obtain ⟨c, cause⟩ := Option.isSome_iff_exists.mp (List.mem_filter.mp member).2
    exact ⟨c, perm.mem_iff.mpr (mem_of_cause? cause), cause⟩

theorem Sound.not_mem_front (distinct : (events.map Event.id).Nodup) (h : f.Sound events front)
    (member : e ∈ f.ready ++ f.waiting) : e ∉ front := by
  have once := h.perm.nodup_iff.mpr (List.Nodup.of_map _ distinct)
  exact fun placed => (List.nodup_append.mp once).2.2 e placed e member rfl

/-- The first ready event has the least key of all that are free. -/
theorem Sound.least (distinct : (events.map Event.id).Nodup)
    (h : Sound events front ⟨e :: ready, waiting⟩) (member : g ∈ ready ++ waiting)
    (free : Free events front g) : e.orderKey.before g.orderKey := by
  rcases List.mem_append.mp member with member | member
  · exact (List.pairwise_cons.mp h.readySorted).1 g member
  · obtain ⟨c, ahead, cause⟩ := h.blocked g member
    exact absurd (free c cause) (h.not_mem_front distinct ahead)

theorem release_perm (f : Frontier) (e : Event) :
    ((f.release e).ready ++ (f.release e).waiting).Perm (f.ready ++ f.waiting) := by
  refine ((List.merge_perm_append _).append_right _).trans ?_
  rw [List.append_assoc]
  exact (List.filter_append_perm e.causes f.waiting).append_left f.ready

theorem mem_release : g ∈ (f.release e).ready ++ (f.release e).waiting ↔ g ∈ f.ready ++ f.waiting :=
  (release_perm f e).mem_iff

theorem release_ascending (ready : Ascending f.ready) (waiting : Ascending f.waiting)
    (distinct : ((f.ready ++ f.waiting).map Event.id).Nodup) : Ascending (f.release e).ready := by
  have released : Ascending (f.waiting.filter e.causes) := waiting.filter _
  refine ascending_of_sorted (merge_sorted ready.sorted released.sorted) ?_
  have ids := ((release_perm f e).map Event.id).nodup_iff.mpr distinct
  exact ids.sublist ((List.sublist_append_left _ _).map Event.id)

theorem Sound.step (distinct : (events.map Event.id).Nodup)
    (h : Sound events front ⟨e :: ready, waiting⟩) :
    (release ⟨ready, waiting⟩ e).Sound events (front ++ [e]) := by
  have split : front ++ (e :: ready ++ waiting) = front ++ [e] ++ (ready ++ waiting) := by simp
  have perm := h.perm
  rw [split] at perm
  refine ⟨((release_perm ⟨ready, waiting⟩ e).append_left _).trans perm, ?_, ?_, ?_, ?_,
    h.waitingSorted.filter _⟩
  · intro g member
    rcases List.mem_append.mp member with member | member
    · exact h.grounded g member
    · rw [List.mem_singleton.mp member, grounded_iff]
      exact fun c cause => h.grounded c (h.free e List.mem_cons_self c cause)
  · intro g member c cause
    rcases List.mem_merge.mp member with member | member
    · exact List.mem_append_left _ (h.free g (List.mem_cons_of_mem _ member) c cause)
    · -- an event that was waiting for `e` has no other cause
      have present : e ∈ events := perm.subset (by simp)
      have own := (cause?_eq_some_iff distinct).mpr ⟨present, (List.mem_filter.mp member).2⟩
      rw [own] at cause
      cases cause
      exact List.mem_append_right _ (List.mem_singleton_self e)
  · intro g member
    obtain ⟨member, blocked⟩ := List.mem_filter.mp member
    obtain ⟨c, ahead, cause⟩ := h.blocked g member
    refine ⟨c, mem_release.mpr ?_, cause⟩
    rcases List.mem_cons.mp ahead with rfl | ahead
    · rw [causes_of_cause? cause] at blocked
      cases blocked
    · exact ahead
  · refine release_ascending h.readySorted.of_cons h.waitingSorted ?_
    exact ((perm.map Event.id).nodup_iff.mpr distinct).sublist
      ((List.sublist_append_right _ _).map Event.id)

theorem Sound.run (distinct : (events.map Event.id).Nodup) (h : f.Sound events front) :
    ∃ stranded, Sound events (front ++ f.place) ⟨[], stranded⟩ := by
  induction f using Frontier.place.induct generalizing front with
  | case1 waiting =>
    rw [place, List.append_nil]
    exact ⟨waiting, h⟩
  | case2 e ready waiting ih =>
    obtain ⟨stranded, last⟩ := ih (h.step distinct)
    rw [place, List.append_cons]
    exact ⟨stranded, last⟩

theorem mem_of_mem_place (member : g ∈ f.place) : g ∈ f.ready ++ f.waiting := by
  induction f using Frontier.place.induct with
  | case1 waiting =>
    rw [place] at member
    cases member
  | case2 e ready waiting ih =>
    rw [place] at member
    rcases List.mem_cons.mp member with rfl | member
    · exact List.mem_append_left _ List.mem_cons_self
    · exact List.mem_cons_of_mem _ (mem_release.mp (ih member))

/-- Whatever is placed is free by then, and has the least key of all that are. -/
theorem Sound.next (distinct : (events.map Event.id).Nodup) (h : f.Sound events front)
    {before after : List Event} (split : f.place = before ++ e :: after) :
    Free events (front ++ before) e ∧
      ∀ g ∈ after, Free events (front ++ before) g → e.orderKey.before g.orderKey := by
  induction f using Frontier.place.induct generalizing front before with
  | case1 waiting =>
    rw [place] at split
    cases before <;> cases split
  | case2 d ready waiting ih =>
    rw [place] at split
    cases before with
    | nil =>
      obtain ⟨rfl, rfl⟩ := List.cons.inj split
      rw [List.append_nil]
      refine ⟨h.free _ List.mem_cons_self, fun g member free => ?_⟩
      exact h.least distinct (mem_release.mp (mem_of_mem_place member)) free
    | cons b before =>
      obtain ⟨rfl, rest⟩ := List.cons.inj split
      rw [List.append_cons]
      exact ih (h.step distinct) rest

/-- When nothing is ready, what waits follows causes in vain. -/
theorem Sound.stranded (h : Sound events front ⟨[], waiting⟩) (member : e ∈ waiting) :
    ¬ Grounded events e := by
  intro ground
  refine ground.rec_on_cause (motive := fun e => e ∉ waiting) (fun e ih member => ?_) member
  obtain ⟨c, ahead, cause⟩ := h.blocked e member
  exact ih c cause ahead

theorem Sound.perm_grounded (h : Sound events front ⟨[], waiting⟩) :
    front.Perm (events.filter fun e => Grounded events e) := by
  have parts := h.perm.filter fun e => Grounded events e
  rw [List.filter_append, List.filter_eq_self.mpr fun e member => decide_eq_true (h.grounded e member),
    List.filter_eq_nil_iff.mpr, List.append_nil] at parts
  · exact parts
  · exact fun e member => by simpa using h.stranded member

theorem placement_place (sorted : Ascending events) (distinct : (events.map Event.id).Nodup) :
    Placement events (start events).place := by
  have sound := sound_start sorted
  obtain ⟨stranded, last⟩ := sound.run distinct
  exact ⟨last.perm_grounded, fun before e after split => sound.next distinct split⟩

end Frontier

section Orders

variable {events placed : List Event} {e : Event}

theorem Placement.mem_iff (h : Placement events placed) :
    e ∈ placed ↔ e ∈ events ∧ Grounded events e := by
  rw [h.perm.mem_iff, List.mem_filter, decide_eq_true_eq]

/-- After the same beginning, there is only one way to go on. -/
theorem Placement.eq_of_append {front left right : List Event}
    (hl : Placement events (front ++ left)) (hr : Placement events (front ++ right)) :
    left = right := by
  have perm : left.Perm right :=
    (List.perm_append_left_iff front).mp (hl.perm.trans hr.perm.symm)
  induction left generalizing front right with
  | nil => exact perm.nil_eq
  | cons e left ih =>
    cases right with
    | nil => exact absurd perm.symm (List.not_perm_nil_cons _ _)
    | cons g right =>
      -- `e` and `g` are both free behind `front`, so if they differed, either would be the less
      obtain ⟨freeE, leastE⟩ := hl.next front e left rfl
      obtain ⟨freeG, leastG⟩ := hr.next front g right rfl
      have same : e = g := by
        rcases List.mem_cons.mp (perm.mem_iff.mpr List.mem_cons_self : g ∈ e :: left) with eq | later
        · exact eq.symm
        rcases List.mem_cons.mp (perm.mem_iff.mp List.mem_cons_self : e ∈ g :: right) with eq | later'
        · exact eq
        have less := (OrderKey.before_iff_lt _ _).mp (leastE g later freeG)
        have greater := (OrderKey.before_iff_lt _ _).mp (leastG e later' freeE)
        exact absurd (less.trans greater) (lt_irrefl _)
      subst same
      rw [List.append_cons] at hl hr
      rw [ih hl hr perm.cons_inv]

theorem Placement.unique {left right : List Event} (hl : Placement events left)
    (hr : Placement events right) : left = right := by
  rw [← List.nil_append left] at hl
  exact hl.eq_of_append hr

theorem placement_canonical (events : List Event) :
    Placement (canonicalize events) (Frontier.start (canonicalize events)).place :=
  Frontier.placement_place (canonicalize_ascending events) (canonicalize_ids_nodup events)

theorem topologicalOrder_eq (events : List Event) :
    topologicalOrder events = (Frontier.start (canonicalize events)).place ++
      (canonicalize events).filter fun e => ¬ Grounded (canonicalize events) e := by
  have placement := placement_canonical events
  rw [topologicalOrder]
  congr 1
  refine List.filter_congr fun e member => ?_
  have own : (∃ p ∈ (Frontier.start (canonicalize events)).place, p.id = e.id) ↔
      Grounded (canonicalize events) e := by
    constructor
    · rintro ⟨p, found, same⟩
      obtain ⟨present, ground⟩ := placement.mem_iff.mp found
      rwa [← List.inj_on_of_nodup_map (canonicalize_ids_nodup events) present member same]
    · exact fun ground => ⟨e, placement.mem_iff.mpr ⟨member, ground⟩, rfl⟩
  rw [Bool.eq_iff_iff]
  simp only [Bool.not_eq_true', List.any_eq_false, beq_iff_eq, decide_eq_true_eq, ← own, not_exists,
    not_and]

theorem topologicalOrder_perm (events : List Event) :
    (topologicalOrder events).Perm (canonicalize events) := by
  have parts := List.filter_append_perm (fun e => Grounded (canonicalize events) e)
    (canonicalize events)
  simp only [← decide_not] at parts
  rw [topologicalOrder_eq]
  exact ((placement_canonical events).perm.append_right _).trans parts

/-- The topological order has each canonical event once. It is the only sequence that begins with all
    grounded events, each of them free and of the least key of those that are when its turn comes, and
    goes on with the others in canonical order. -/
theorem topologicalOrder_iff_placement (events : List Event) :
    let canonical := canonicalize events
    (topologicalOrder events).Perm canonical ∧
      ∀ order, order = topologicalOrder events ↔
        ∃ placed, Placement canonical placed ∧
          order = placed ++ canonical.filter fun e => ¬ Grounded canonical e := by
  refine ⟨topologicalOrder_perm events, fun order => ?_⟩
  rw [topologicalOrder_eq]
  constructor
  · exact fun same => ⟨_, placement_canonical events, same⟩
  · rintro ⟨placed, placement, rfl⟩
    rw [placement.unique (placement_canonical events)]

end Orders

end EventLedger.Event
