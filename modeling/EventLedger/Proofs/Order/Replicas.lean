import EventLedger.Proofs.Order.Ties

/-! Logs that are deduplicated on their own and then exchanged lead to one canonical sequence. -/

namespace EventLedger.Event

/-- How a log came about: written down, tidied in one of two ways, or joined from two logs. -/
inductive Exchange where
  | log (events : List Event)
  | deduplicated (x : Exchange)
  | canonical (x : Exchange)
  | joined (x y : Exchange)

namespace Exchange

def events : Exchange → List Event
  | log events => events
  | deduplicated x => x.events
  | canonical x => x.events
  | joined x y => x.events ++ y.events

def held : Exchange → List Event
  | log events => events
  | deduplicated x => dedup x.held
  | canonical x => canonicalize x.held
  | joined x y => x.held ++ y.held

theorem mem_events_of_mem_held (x : Exchange) : ∀ e ∈ x.held, e ∈ x.events := by
  induction x with
  | log events => exact fun e member => member
  | deduplicated x ih => exact fun e member => ih e (mem_of_mem_dedup member)
  | canonical x ih => exact fun e member => ih e (mem_of_mem_canonicalize member)
  | joined x y ihx ihy =>
    intro e member
    rw [held, List.mem_append] at member
    rw [events, List.mem_append]
    exact member.imp (ihx e) (ihy e)

/-- No exchange loses a best copy. -/
theorem mem_held_of_best (x : Exchange) (unmixed : Unmixed x.events) {b : Event}
    (hb : Best x.events b) : b ∈ x.held := by
  induction x with
  | log events => exact hb.1
  | deduplicated x ih =>
    have decided := (unmixed.subset x.mem_events_of_mem_held).decided
    exact (mem_dedup_iff_best decided).mpr (hb.subset x.mem_events_of_mem_held (ih unmixed hb))
  | canonical x ih =>
    have decided := (unmixed.subset x.mem_events_of_mem_held).decided
    exact (mem_canonicalize_iff_best decided).mpr
      (hb.subset x.mem_events_of_mem_held (ih unmixed hb))
  | joined x y ihx ihy =>
    have left : ∀ e ∈ x.events, e ∈ (joined x y).events := fun e => List.mem_append_left _
    have right : ∀ e ∈ y.events, e ∈ (joined x y).events := fun e => List.mem_append_right _
    rw [held, List.mem_append]
    rcases List.mem_append.mp hb.1 with member | member
    · exact Or.inl (ihx (unmixed.subset left) (hb.subset left member))
    · exact Or.inr (ihy (unmixed.subset right) (hb.subset right member))

theorem canonicalize_held (x : Exchange) (unmixed : Unmixed x.events) :
    canonicalize x.held = canonicalize x.events :=
  canonicalize_of_subset unmixed.decided x.mem_events_of_mem_held
    fun _ hb => x.mem_held_of_best unmixed hb

end Exchange

/-- Two logs that are deduplicated on their own are merged into the canonical sequence of both, and so
    is whatever comes out of exchanges in which all their events were written down somewhere. That
    sequence holds the best copies of both in ascending order. -/
theorem canonicalize_replicas (a b : List Event) (unmixed : Unmixed (a ++ b)) :
    canonicalize (canonicalize a ++ canonicalize b) = canonicalize (a ++ b) ∧
      canonicalize (a ++ b) = canonicalize (b ++ a) ∧
      canonicalize (canonicalize a) = canonicalize a ∧
      (∀ x : Exchange, (∀ e, e ∈ x.events ↔ e ∈ a ++ b) →
        canonicalize x.held = canonicalize (a ++ b)) ∧
      (∀ e, e ∈ canonicalize (a ++ b) ↔ Best (a ++ b) e) ∧
      (canonicalize (a ++ b)).Pairwise fun e f => e.orderKey.before f.orderKey := by
  refine ⟨?_, ?_, ?_, ?_, fun e => mem_canonicalize_iff_best unmixed.decided,
    canonicalize_ascending (a ++ b)⟩
  · exact (Exchange.joined (.canonical (.log a)) (.canonical (.log b))).canonicalize_held unmixed
  · refine (canonicalize_congr unmixed.decided fun e => ?_).symm
    rw [List.mem_append, List.mem_append, or_comm]
  · exact canonicalize_canonicalize a
  · intro x written
    rw [x.canonicalize_held (unmixed.subset fun e => (written e).mp)]
    exact canonicalize_congr unmixed.decided written

/-- Each side has a copy that the other one does not have. The one kept has the greater text of the two
    that are earliest. -/
theorem canonicalize_replicas_readings :
    let late : Event := { reading (.int 2) with lamportClock := 2 }
    let other : Event := { reading (.int 4) with id := ⟨"f"⟩ }
    let a := [reading (.int 1), late]
    let b := [other, reading (.int 3)]
    let x := Exchange.joined (.canonical (.log b)) (.deduplicated (.joined (.log [late, other]) (.log a)))
    Unmixed (a ++ b) ∧ (∀ e, e ∈ x.events ↔ e ∈ a ++ b) ∧
      canonicalize (canonicalize a ++ canonicalize b) = canonicalize (a ++ b) ∧
      canonicalize x.held = canonicalize (a ++ b) ∧
      canonicalize (a ++ b) = [reading (.int 3), other] := by
  intro late other a b x
  have unmixed : Unmixed (a ++ b) := by
    refine unmixed_of_unsigned fun e member => ?_
    simp only [a, b, List.cons_append, List.nil_append, List.mem_cons, List.not_mem_nil, or_false] at member
    rcases member with rfl | rfl | rfl | rfl <;> rfl
  have written (e : Event) : e ∈ x.events ↔ e ∈ a ++ b := by
    simp only [x, a, b, Exchange.events, List.cons_append, List.nil_append, List.mem_cons,
      List.not_mem_nil, or_false]
    tauto
  have earliest : Best (a ++ b) (reading (.int 3)) := by
    refine best_reading (by simp [a, b]) fun c member id => ?_
    simp only [a, b, List.cons_append, List.nil_append, List.mem_cons, List.not_mem_nil, or_false] at member
    rcases member with rfl | rfl | rfl | rfl
    · exact .inr (.inl rfl)
    · exact .inr (.inr (by decide))
    · exact absurd id (by decide)
    · exact .inl rfl
  have only : Best (a ++ b) other := by
    refine ⟨by simp [a, b], fun c member id => ?_⟩
    simp only [a, b, List.cons_append, List.nil_append, List.mem_cons, List.not_mem_nil, or_false] at member
    rcases member with rfl | rfl | rfl | rfl
    · exact absurd id (by decide)
    · exact absurd id (by decide)
    · exact le_rfl
    · exact absurd id (by decide)
  have kept : canonicalize (a ++ b) = [reading (.int 3), other] := by
    refine canonicalize_eq_of_best unmixed.decided (by decide) ?_ ?_
    · exact List.forall_mem_cons.mpr ⟨earliest, List.forall_mem_singleton.mpr only⟩
    · decide
  obtain ⟨merged, -, -, exchanged, -⟩ := canonicalize_replicas a b unmixed
  exact ⟨unmixed, written, merged, exchanged x written, kept⟩

end EventLedger.Event
