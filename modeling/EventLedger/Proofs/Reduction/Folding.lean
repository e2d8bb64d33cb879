import EventLedger.Reduction.Basic

/-! A fold in terms of its steps: the state that they lead to, and what each of them finds. -/

namespace EventLedger
namespace AnomalyLog

@[simp] theorem record_entries (log : AnomalyLog) (e : Event) (f : Finding) :
    (log.record e f).entries = log.entries ++ [.about e f] := rfl

theorem recordAll_entries (log : AnomalyLog) (e : Event) (fs : List Finding) :
    (log.recordAll e fs).entries = log.entries ++ fs.map (Anomaly.about e) := by
  rw [recordAll]
  induction fs generalizing log with
  | nil => simp
  | cons f fs ih =>
    rw [List.foldl_cons, ih, record_entries, List.map_cons, List.append_assoc]
    rfl

end AnomalyLog

namespace Projection

variable {σ : Type} (p : Projection σ)

/-- The state that some events lead to. -/
def after (s : σ) (events : List (Event × Payload)) : σ :=
  events.foldl (fun s x => (p.step s x.1 x.2).1) s

/-- What the steps of a fold find, event by event. -/
def findings (s : σ) : List (Event × Payload) → List (List Anomaly)
  | [] => []
  | x :: rest => (p.step s x.1 x.2).2.map (.about x.1) :: findings (p.step s x.1 x.2).1 rest

@[simp] theorem after_nil (s : σ) : p.after s [] = s := rfl

@[simp] theorem after_cons (s : σ) (x : Event × Payload) (rest : List (Event × Payload)) :
    p.after s (x :: rest) = p.after (p.step s x.1 x.2).1 rest := rfl

@[simp] theorem findings_nil (s : σ) : p.findings s [] = [] := rfl

@[simp] theorem findings_cons (s : σ) (x : Event × Payload) (rest : List (Event × Payload)) :
    p.findings s (x :: rest) =
      (p.step s x.1 x.2).2.map (.about x.1) :: p.findings (p.step s x.1 x.2).1 rest := rfl

theorem after_append (s : σ) (events later : List (Event × Payload)) :
    p.after s (events ++ later) = p.after (p.after s events) later := List.foldl_append

theorem findings_append (s : σ) (events later : List (Event × Payload)) :
    p.findings s (events ++ later) = p.findings s events ++ p.findings (p.after s events) later := by
  induction events generalizing s with
  | nil => rfl
  | cons x rest ih => rw [List.cons_append, findings_cons, ih, findings_cons, after_cons, List.cons_append]

theorem findings_cons_quiet {s : σ} {x : Event × Payload} {rest : List (Event × Payload)} :
    (p.findings s (x :: rest)).flatten = [] ↔
      (p.step s x.1 x.2).2 = [] ∧ (p.findings (p.step s x.1 x.2).1 rest).flatten = [] := by
  rw [findings_cons, List.flatten_cons, List.append_eq_nil_iff, List.map_eq_nil_iff]

theorem fold_state (s : σ) (log : AnomalyLog) (events : List (Event × Payload)) :
    (p.fold s log events).1 = p.after s events := by
  induction events generalizing s log with
  | nil => rfl
  | cons x rest ih => exact ih _ _

/-- A fold leaves what was recorded before it in front, and adds what its steps find. -/
theorem fold_entries (s : σ) (log : AnomalyLog) (events : List (Event × Payload)) :
    (p.fold s log events).2.entries = log.entries ++ (p.findings s events).flatten := by
  induction events generalizing s log with
  | nil => exact (List.append_nil _).symm
  | cons x rest ih =>
    rw [findings_cons, List.flatten_cons, ← List.append_assoc, ← AnomalyLog.recordAll_entries]
    exact ih _ _

/-- What every step keeps is kept by any number of them. -/
theorem after_keeps (Inv : σ → Prop) (step : ∀ s e payload, Inv s → Inv (p.step s e payload).1)
    {s : σ} (start : Inv s) (events : List (Event × Payload)) : Inv (p.after s events) := by
  induction events generalizing s with
  | nil => exact start
  | cons x rest ih => exact ih (step s x.1 x.2 start)

/-- Where each step that counts adds one to a measure, or else gives rise to something odd, all that
    count have added to the measure or to what is odd. -/
theorem after_balance (measure : σ → Nat) (odd : Anomaly → Bool) (Counts : Payload → Prop)
    [DecidablePred Counts] {Holds : σ → Prop} {Fits : Event × Payload → Prop}
    (step : ∀ s y, Holds s → Fits y → Holds (p.step s y.1 y.2).1 ∧
      measure (p.step s y.1 y.2).1 + ((p.step s y.1 y.2).2.map (.about y.1)).countP odd =
        measure s + if Counts y.2 then 1 else 0)
    {s : σ} (holds : Holds s) {events : List (Event × Payload)} (fits : ∀ y ∈ events, Fits y) :
    measure (p.after s events) + (p.findings s events).flatten.countP odd =
      measure s + events.countP fun y => Counts y.2 := by
  induction events generalizing s with
  | nil => rfl
  | cons y rest ih =>
    obtain ⟨still, now⟩ := step s y holds (fits y List.mem_cons_self)
    have later := ih still fun z member => fits z (List.mem_cons_of_mem y member)
    rw [after_cons, findings_cons, List.flatten_cons, List.countP_append, List.countP_cons]
    simp only [decide_eq_true_eq]
    omega

/-- Where each step that counts adds one to a measure, or else finds something of one kind, all that
    count have added to the measure or to what was found. -/
theorem after_tally (measure : σ → Nat) (k : AnomalyKind) (Counts : Payload → Prop)
    [DecidablePred Counts] {Holds : σ → Prop} {Fits : Payload → Prop}
    (step : ∀ s e x, Holds s → Fits x → Holds (p.step s e x).1 ∧
      measure (p.step s e x).1 + (p.step s e x).2.countP (fun f => f.kind = k) =
        measure s + if Counts x then 1 else 0)
    {s : σ} (holds : Holds s) {events : List (Event × Payload)} (fits : ∀ y ∈ events, Fits y.2) :
    measure (p.after s events) + (p.findings s events).flatten.countP (fun a => a.kind = k) =
      measure s + events.countP fun y => Counts y.2 := by
  refine p.after_balance measure _ Counts (fun s y holds (fits : Fits y.2) => ?_) holds fits
  rw [List.countP_map]
  exact step s y.1 y.2 holds fits

/-- A measure to which each step that counts adds one tells how many there were. -/
theorem after_count (measure : σ → Nat) (Counts : Payload → Prop) [DecidablePred Counts]
    (step : ∀ s e x, measure (p.step s e x).1 = measure s + if Counts x then 1 else 0) (s : σ)
    (events : List (Event × Payload)) :
    measure (p.after s events) = measure s + events.countP fun y => Counts y.2 := by
  have balance := p.after_balance measure (fun _ => false) Counts
    (fun s y (_ : True) (_ : True) => ⟨trivial, by rw [List.countP_false]; exact step s y.1 y.2⟩)
    (s := s) trivial fun y (_ : y ∈ events) => trivial
  rw [List.countP_false] at balance
  exact balance

/-- Where a step shows what its event gives if nothing was shown before it, a fold shows what the first
    event that counts gives. -/
theorem after_first {β : Type} (shown? : σ → Option β) (gives : Payload → β)
    (Counts : Payload → Prop) [DecidablePred Counts] {Holds : σ → Prop} {Fits : Payload → Prop}
    (step : ∀ s e x, Holds s → Fits x → Holds (p.step s e x).1 ∧
      shown? (p.step s e x).1 = (shown? s).or (if Counts x then some (gives x) else none))
    {s : σ} (holds : Holds s) {events : List (Event × Payload)} (fits : ∀ y ∈ events, Fits y.2) :
    shown? (p.after s events) =
      (shown? s).or ((events.find? fun y => Counts y.2).map fun y => gives y.2) := by
  induction events generalizing s with
  | nil => exact (Option.or_none).symm
  | cons y rest ih =>
    obtain ⟨still, now⟩ := step s y.1 y.2 holds (fits y List.mem_cons_self)
    rw [after_cons, ih still fun z member => fits z (List.mem_cons_of_mem y member), now, Option.or_assoc,
      List.find?_cons]
    by_cases counts : Counts y.2
    · rw [if_pos counts, decide_eq_true counts]
      rfl
    · rw [if_neg counts, decide_eq_false counts, Option.none_or]

/-- A flag that stands once an event raises it stands after a fold if one of the events does. -/
theorem after_raised (flag : σ → Bool) (raises : Payload → Bool)
    (step : ∀ s e x, flag (p.step s e x).1 = (flag s || raises x)) (s : σ)
    (events : List (Event × Payload)) :
    flag (p.after s events) = (flag s || events.any fun y => raises y.2) := by
  induction events generalizing s with
  | nil => exact (Bool.or_false _).symm
  | cons y rest ih => rw [after_cons, ih, step, List.any_cons, Bool.or_assoc]

/-- A state at some point of a fold: events were looked through beforehand, and events were folded. -/
def Reached (s : σ) : Prop :=
  ∃ (seen before : List (Event × Payload)) (log : AnomalyLog),
    (p.fold (p.start seen) log before).1 = s

theorem Reached.keeps {p : Projection σ} {s : σ} (reached : p.Reached s) (Inv : σ → Prop)
    (start : ∀ seen, Inv (p.start seen))
    (step : ∀ s e payload, Inv s → Inv (p.step s e payload).1) : Inv s := by
  obtain ⟨seen, before, log, rfl⟩ := reached
  rw [fold_state]
  exact p.after_keeps Inv step (start seen) before

end Projection

/-- An event with nothing to it but its id, clock, type and payload. -/
def Event.plain (id : String) (clock : Nat) (eventType : String) (payload : Json) : Event where
  id := ⟨id⟩
  eventType := eventType
  aggregateId := "m"
  timestamp := ⟨2027, 5, 17, 10, 20, 30, 250000000, by decide, by decide, by decide, by decide, by decide⟩
  nodeId := "n"
  lamportClock := clock
  causationId := none
  correlationId := ""
  projectUuid := none
  projectSlug := none
  schemaVersion := currentSchemaVersion
  payload := payload

end EventLedger
