import EventLedger.Proofs.Json.Settling
import EventLedger.Proofs.Reduction.Accounting
import EventLedger.Proofs.Reduction.Sifting
import EventLedger.Proofs.Reduction.Terminal

/-! What a delivery shows of its events. Main statement: up to its first end each of them counts, and the
totals of a snapshot are those of its deliveries. -/

namespace EventLedger.Sync

variable {s : State} {e : Event} {x : Payload} {k : String} {d : Delivery}
  {mine : List (Event × Payload)} {y : Event × Payload}

/-- Events that end a delivery, whatever its status is. -/
def ends : Payload → Bool
  | .syncIngestAccepted _ | .syncDeadLettered _ => true
  | _ => false

def attempt? : Payload → Option Nat
  | .syncRetryScheduled p => some p.attempt
  | .syncDeadLettered p => some p.attempts
  | _ => none

def reason? : Payload → Option String
  | .syncIngestRejected p => some p.reason
  | _ => none

def status? : Payload → Option DeliveryStatus
  | .syncIngestAccepted _ => some .accepted
  | .syncIngestRejected _ => some .rejected
  | .syncRetryScheduled _ => some .retryScheduled
  | .syncDeadLettered _ => some .deadLettered
  | _ => none

/-- The events up to the first that ends the delivery, with that one. -/
def effective : List (Event × Payload) → List (Event × Payload)
  | [] => []
  | y :: rest => y :: if ends y.2 then [] else effective rest

/-- The event that a status is that of: the first that ends the delivery, or else the last one. -/
def deciding? (mine : List (Event × Payload)) : Option (Event × Payload) :=
  (mine.find? fun y => ends y.2).or mine.getLast?

theorem effective_append (mine more : List (Event × Payload)) :
    effective (mine ++ more) =
      if mine.any (fun y => ends y.2) then effective mine else mine ++ effective more := by
  induction mine with
  | nil => rfl
  | cons z rest ih =>
    rw [List.cons_append, effective, effective, List.any_cons, ih]
    cases ends z.2 with
    | true => rfl
    | false => cases rest.any fun y => ends y.2 <;> rfl

theorem effective_sublist (mine : List (Event × Payload)) : (effective mine).Sublist mine := by
  induction mine with
  | nil => exact .slnil
  | cons z rest ih =>
    rw [effective]
    split
    · exact (List.nil_sublist rest).cons_cons z
    · exact ih.cons_cons z

theorem effective_ended (ended : mine.any (fun y => ends y.2) = true) (y : Event × Payload) :
    effective (mine ++ [y]) = effective mine :=
  (effective_append mine [y]).trans (if_pos ended)

theorem effective_unended (unended : mine.any (fun y => ends y.2) = false) : effective mine = mine := by
  have whole := effective_append mine []
  rwa [unended, if_neg Bool.false_ne_true, effective, List.append_nil] at whole

theorem effective_concat (unended : mine.any (fun y => ends y.2) = false) (y : Event × Payload) :
    effective (mine ++ [y]) = mine ++ [y] := by
  rw [effective_append, unended, if_neg Bool.false_ne_true, effective, effective, ite_self]

theorem deciding?_ended (ended : mine.any (fun y => ends y.2) = true) (y : Event × Payload) :
    deciding? (mine ++ [y]) = deciding? mine := by
  obtain ⟨z, first⟩ : ∃ z, mine.find? (fun y => ends y.2) = some z :=
    Option.isSome_iff_exists.mp (List.find?_isSome.mpr (List.any_eq_true.mp ended))
  rw [deciding?, deciding?, List.find?_append, first]
  rfl

theorem deciding?_concat (unended : mine.any (fun y => ends y.2) = false) (y : Event × Payload) :
    deciding? (mine ++ [y]) = some y := by
  have none : mine.find? (fun y => ends y.2) = none :=
    List.find?_eq_none.mpr fun z member => List.any_eq_false.mp unended z member
  rw [deciding?, List.find?_append, none, List.getLast?_concat, Option.none_or, List.find?_singleton]
  split <;> rfl

namespace Delivery

/-- What an event makes of a delivery that has not ended. -/
def receive (d : Delivery) : Payload → Delivery
  | .syncIngestAccepted p => d.accept p
  | .syncIngestRejected p => d.reject p
  | .syncRetryScheduled p => (d.retry p).1
  | .syncDeadLettered p => d.bury p
  | _ => d

theorem receive_attempts (d : Delivery) (x : Payload) :
    (d.receive x).attempts = (attempt? x).toList.foldl max d.attempts := by
  cases x <;> rfl

theorem receive_rejectionReasons (d : Delivery) (x : Payload) :
    (d.receive x).rejectionReasons = d.rejectionReasons ++ (reason? x).toList := by
  cases x with
  | syncIngestRejected p => rfl
  | _ => exact (List.append_nil _).symm

theorem receive_status (d : Delivery) (named : deliveryId? x = some k) :
    status? x = some (d.receive x).status ∧ (d.receive x).status.isTerminal = ends x := by
  cases x with
  | syncIngestAccepted p | syncIngestRejected p | syncRetryScheduled p | syncDeadLettered p =>
    exact ⟨rfl, rfl⟩
  | _ => cases named

/-- What a delivery shows of the events that name it. -/
structure Sums (d : Delivery) (mine : List (Event × Payload)) : Prop where
  attempts : d.attempts = ((effective mine).filterMap fun y => attempt? y.2).foldl max 0
  reasons : d.rejectionReasons = (effective mine).filterMap fun y => reason? y.2
  ended : d.status.isTerminal = mine.any fun y => ends y.2
  status : (deciding? mine).bind (fun y => status? y.2) = some d.status

theorem sums_receive (unended : mine.any (fun y => ends y.2) = false)
    (attempts : d.attempts = (mine.filterMap fun y => attempt? y.2).foldl max 0)
    (reasons : d.rejectionReasons = mine.filterMap fun y => reason? y.2)
    (named : deliveryId? x = some k) (e : Event) : (d.receive x).Sums (mine ++ [(e, x)]) := by
  obtain ⟨status, terminal⟩ := d.receive_status named
  constructor
  · rw [effective_concat unended, List.filterMap_append, List.foldl_append, ← attempts,
      receive_attempts, List.filterMap_cons]
    cases attempt? x <;> rfl
  · rw [effective_concat unended, List.filterMap_append, ← reasons, receive_rejectionReasons,
      List.filterMap_cons]
    cases reason? x <;> rfl
  · rw [List.any_append, unended, terminal, List.any_cons, List.any_nil, Bool.or_false, Bool.false_or]
  · rw [deciding?_concat unended]
    exact status

theorem Sums.late (sums : d.Sums mine) (ended : d.status.isTerminal = true) (y : Event × Payload) :
    d.Sums (mine ++ [y]) := by
  have ended' : mine.any (fun y => ends y.2) = true := sums.ended ▸ ended
  constructor
  · rw [effective_ended ended']
    exact sums.attempts
  · rw [effective_ended ended']
    exact sums.reasons
  · rw [List.any_append, ended', ended, Bool.true_or]
  · rw [deciding?_ended ended']
    exact sums.status

end Delivery

theorem change_new (unknown : delivery? s k = none) (status : DeliveryStatus)
    (f : Option Delivery → Delivery → Delivery × List Finding) :
    delivery? (change s e k status f).1 k = some (f none { deliveryId := k, status }).1 := by
  unfold delivery? at unknown ⊢
  unfold change
  rw [unknown]
  exact Index.find?_insert_self _ _ _

theorem change_ongoing (known : delivery? s k = some d) (unended : d.status.isTerminal = false)
    (status : DeliveryStatus) (f : Option Delivery → Delivery → Delivery × List Finding) :
    delivery? (change s e k status f).1 k = some (f (some d) d).1 := by
  unfold delivery? at known ⊢
  unfold change
  simp only [known, Option.getD_some, Option.isSome_some, unended, Bool.and_false, Bool.false_eq_true,
    ↓reduceIte]
  exact Index.find?_insert_self _ _ _

theorem step_new (named : deliveryId? x = some k) (unknown : delivery? s k = none) :
    ∃ status, delivery? (step s e x).1 k = some (Delivery.receive { deliveryId := k, status } x) := by
  cases x with
  | syncIngestAccepted p => cases named; exact ⟨_, change_new unknown _ _⟩
  | syncIngestRejected p => cases named; exact ⟨_, change_new unknown _ _⟩
  | syncRetryScheduled p => cases named; exact ⟨_, change_new unknown _ _⟩
  | syncDeadLettered p => cases named; exact ⟨_, change_new unknown _ _⟩
  | _ => cases named

theorem step_ongoing (named : deliveryId? x = some k) (known : delivery? s k = some d)
    (unended : d.status.isTerminal = false) : delivery? (step s e x).1 k = some (d.receive x) := by
  cases x with
  | syncIngestAccepted p => cases named; exact change_ongoing known unended _ _
  | syncIngestRejected p => cases named; exact change_ongoing known unended _ _
  | syncRetryScheduled p => cases named; exact change_ongoing known unended _ _
  | syncDeadLettered p => cases named; exact change_ongoing known unended _ _
  | _ => cases named

def Tells (mine : List (Event × Payload)) : Option Delivery → Prop
  | none => mine = []
  | some d => d.Sums mine

theorem tells_step {t : State} (named : deliveryId? y.2 = some k) (tells : Tells mine (delivery? t k)) :
    Tells (mine ++ [y]) (delivery? (step t y.1 y.2).1 k) := by
  cases known : delivery? t k with
  | none =>
    rw [known] at tells
    obtain ⟨status, made⟩ := step_new (e := y.1) named known
    rw [made, show mine = [] from tells]
    exact Delivery.sums_receive rfl rfl rfl named y.1
  | some d =>
    rw [known] at tells
    have sums : d.Sums mine := tells
    cases ended : d.status.isTerminal with
    | true =>
      rw [(step_ended (e := y.1) named known ended).1]
      exact sums.late ended y
    | false =>
      have unended : mine.any (fun y => ends y.2) = false := sums.ended ▸ ended
      have whole := effective_unended unended
      have attempts := sums.attempts
      have reasons := sums.reasons
      rw [whole] at attempts reasons
      rw [step_ongoing (e := y.1) named known ended]
      exact Delivery.sums_receive unended attempts reasons named y.1

theorem tells_own (k : String) (events : List (Event × Payload)) :
    Tells (deliveries.own k events) (delivery? (projection.after {} events) k) := by
  have start : Tells [] (deliveries.record? {} k) := rfl
  exact deliveries.own_keeps Tells (fun _ _ _ named tells => tells_step named tells) start events

theorem attempt_le {kind : Kind} {v : Json} {n : Nat} (read : Payload.decode kind v = .ok x)
    (given : attempt? x = some n) : n ≤ greatestWord32 := by
  obtain rfl := Payload.kind_of_decode read
  cases x with
  | syncRetryScheduled p =>
    cases given
    obtain ⟨q, decoded, same⟩ := map_eq_ok.mp read
    cases same
    obtain ⟨find, absent, built⟩ := Record.build_of_decode decoded
    obtain ⟨withBackoff, backoff, front, -, same⟩ := Record.defaulted_build.mp built
    obtain ⟨withAttempt, w, attempt, start, -, number, rfl⟩ := Record.required_build.mp front
    obtain ⟨make, u, id, mk, -, -, rfl⟩ := Record.required_build.mp start
    cases mk
    rw [← same]
    exact Decoder.natural_le number
  | syncDeadLettered p =>
    cases given
    obtain ⟨q, decoded, same⟩ := map_eq_ok.mp read
    cases same
    obtain ⟨find, absent, built⟩ := Record.build_of_decode decoded
    obtain ⟨withAttempts, attempts, front, number, same⟩ := Record.defaulted_build.mp built
    obtain ⟨withReason, reason, start, -, rfl⟩ := Record.defaulted_build.mp front
    obtain ⟨make, u, id, mk, -, -, rfl⟩ := Record.required_build.mp start
    cases mk
    rw [← same]
    cases found : find "attempts" with
    | none =>
      rw [found] at number
      cases number
      exact Nat.zero_le _
    | some v =>
      rw [found] at number
      exact Decoder.natural_le number
  | _ => cases given

theorem foldl_max_le {ns : List Nat} {n bound : Nat} (first : n ≤ bound)
    (rest : ∀ m ∈ ns, m ≤ bound) : ns.foldl max n ≤ bound := by
  induction ns generalizing n with
  | nil => exact first
  | cons m ns ih =>
    obtain ⟨here, later⟩ := List.forall_mem_cons.mp rest
    exact ih (Nat.max_le.mpr ⟨first, here⟩) later

theorem sums_reduce (log : List Event) (known : delivery? (projection.reduce log).state k = some d) :
    d.Sums (deliveries.own k (projection.relevant (Event.canonicalize log))) := by
  have tells := tells_own k (projection.relevant (Event.canonicalize log))
  have state : (projection.reduce log).state =
      projection.after {} (projection.relevant (Event.canonicalize log)) := projection.reduce_state log
  rw [← state, known] at tells
  exact tells

theorem attempts_le (log : List Event) (known : delivery? (projection.reduce log).state k = some d) :
    d.attempts ≤ greatestWord32 := by
  rw [(sums_reduce log known).attempts]
  refine foldl_max_le (Nat.zero_le _) fun n member => ?_
  obtain ⟨y, counted, given⟩ := List.mem_filterMap.mp member
  have folded : y ∈ projection.relevant (Event.canonicalize log) :=
    List.mem_of_mem_filter (effective_sublist _ |>.subset counted)
  obtain ⟨-, read, -⟩ := projection.mem_relevant.mp folded
  exact attempt_le (Event.decoded?_eq_some.mp read).2 given

/-- The deliveries counted under one status. -/
def Totals.inStatus (t : Totals) : DeliveryStatus → Nat
  | .accepted => t.accepted
  | .rejected => t.rejected
  | .retryScheduled => t.retryScheduled
  | .deadLettered => t.deadLettered

theorem Totals.inStatus_add (t : Totals) (d : Delivery) (status : DeliveryStatus) :
    (t.add d).inStatus status = t.inStatus status + if d.status = status then 1 else 0 := by
  unfold add
  cases d.status <;> cases status <;> rfl

theorem Totals.retries_add (t : Totals) (d : Delivery) : (t.add d).retries = t.retries + d.attempts := by
  unfold add
  cases d.status <;> rfl

theorem foldl_add (ds : List Delivery) (t : Totals) :
    (∀ status, (ds.foldl Totals.add t).inStatus status =
        t.inStatus status + ds.countP fun d => d.status = status) ∧
      (ds.foldl Totals.add t).retries = t.retries + (ds.map (·.attempts)).sum := by
  induction ds generalizing t with
  | nil => exact ⟨fun _ => rfl, rfl⟩
  | cons d ds ih =>
    obtain ⟨counts, retries⟩ := ih (t.add d)
    rw [List.foldl_cons, retries, t.retries_add, List.map_cons, List.sum_cons, Nat.add_assoc]
    refine ⟨fun status => ?_, rfl⟩
    rw [counts, t.inStatus_add, List.countP_cons]
    simp only [decide_eq_true_eq]
    omega

theorem inStatus_totals (s : State) (status : DeliveryStatus) :
    s.totals.inStatus status =
      s.deliveries.names.countP fun k => (delivery? s k).map (·.status) = some status := by
  have counts := (foldl_add s.deliveries.values {}).1 status
  have unused : ({} : Totals).inStatus status = 0 := by cases status <;> rfl
  rw [unused, Nat.zero_add] at counts
  exact counts.trans (s.deliveries.countP_values (·.status) status)

theorem retries_totals (s : State) : s.totals.retries = (s.deliveries.values.map (·.attempts)).sum :=
  (foldl_add s.deliveries.values {}).2.trans (Nat.zero_add _)

theorem sum_inStatus (s : State) :
    s.totals.accepted + s.totals.rejected + s.totals.retryScheduled + s.totals.deadLettered =
      s.deliveries.names.length := by
  have one (status : DeliveryStatus) :
      (([.accepted, .rejected, .retryScheduled, .deadLettered] : List DeliveryStatus).map fun key =>
        if status = key then 1 else 0).sum = 1 := by
    cases status <;> rfl
  have sum := sum_countP one Delivery.status s.deliveries.values
  have each (status : DeliveryStatus) :
      (s.deliveries.values.countP fun d => d.status = status) = s.totals.inStatus status :=
    (s.deliveries.countP_values (·.status) status).trans (inStatus_totals s status).symm
  simp only [each, List.map_cons, List.map_nil, List.sum_cons, List.sum_nil, Totals.inStatus] at sum
  rw [Index.values, List.length_map] at sum
  rw [Index.names, List.length_map, ← sum]
  omega

theorem retries_le (log : List Event) :
    ((projection.reduce log).state.deliveries.values.map (·.attempts)).sum ≤
      (projection.reduce log).state.deliveries.names.length * greatestWord32 := by
  have bounded : ∀ n ∈ (projection.reduce log).state.deliveries.values.map (·.attempts),
      n ≤ greatestWord32 := by
    intro n member
    obtain ⟨d, held, rfl⟩ := List.mem_map.mp member
    obtain ⟨⟨k, d⟩, entry, rfl⟩ := List.mem_map.mp held
    exact attempts_le log (Index.mem_entries_iff.mp entry)
  have sum := List.sum_le_card_nsmul _ greatestWord32 bounded
  rwa [List.length_map, smul_eq_mul, Index.values, List.length_map, ← List.length_map (f := (·.1))] at sum

theorem delivery_known_iff (log : List Event) (k : String) :
    (delivery? (projection.reduce log).state k).isSome ↔
      ∃ y ∈ projection.relevant (Event.canonicalize log), deliveryId? y.2 = some k := by
  have state : (projection.reduce log).state =
      projection.after {} (projection.relevant (Event.canonicalize log)) := projection.reduce_state log
  rw [state]
  refine deliveries.known_iff (fun s e x named => ?_) [] _
  cases known : delivery? s k with
  | none =>
    obtain ⟨status, made⟩ := step_new (e := e) named known
    exact Option.isSome_of_eq_some made
  | some d =>
    cases ended : d.status.isTerminal with
    | true => exact Option.isSome_of_eq_some (step_ended (e := e) named known ended).1
    | false => exact Option.isSome_of_eq_some (step_ongoing (e := e) named known ended)

/-- A delivery is in the snapshot exactly if an event names it. Of its events those up to the first that
    ends it make its attempts and its rejections, and its status is that of the one that ended it, or
    else of the last. Each delivery is in one of the four totals, and the sum of their attempts is what
    64 bits hold, for fewer deliveries than 32 bits count. -/
theorem deliveries_sum_up (log : List Event) :
    let folded := projection.relevant (Event.canonicalize log)
    let s := (projection.reduce log).state
    let held (status : DeliveryStatus) :=
      s.deliveries.names.countP fun k => (delivery? s k).map (·.status) = some status
    let retries := (s.deliveries.values.map (·.attempts)).sum
    (∀ k, (delivery? s k).isSome ↔ ∃ y ∈ folded, deliveryId? y.2 = some k) ∧
      (∀ k d, delivery? s k = some d →
        let mine := deliveries.own k folded
        d.attempts = ((effective mine).filterMap fun y => attempt? y.2).foldl max 0 ∧
          d.rejectionReasons = (effective mine).filterMap (fun y => reason? y.2) ∧
          (d.status.isTerminal = true ↔ ∃ y ∈ mine, ends y.2 = true) ∧
          ((mine.find? fun y => ends y.2).or mine.getLast?).bind (fun y => status? y.2) =
            some d.status) ∧
      s.members.lookup "totals" =
        some (.object [("accepted", .nat (held .accepted)), ("rejected", .nat (held .rejected)),
          ("retry_scheduled", .nat (held .retryScheduled)),
          ("dead_lettered", .nat (held .deadLettered)), ("retries", .nat retries)]) ∧
      held .accepted + held .rejected + held .retryScheduled + held .deadLettered =
        s.deliveries.names.length ∧
      (s.deliveries.names.length < 2 ^ 32 → retries < 2 ^ 64) := by
  intro folded s held retries
  have counted : held = s.totals.inStatus := funext fun status => (inStatus_totals s status).symm
  refine ⟨delivery_known_iff log, fun k d known => ?_, ?_, ?_, fun few => ?_⟩
  · have sums := sums_reduce log known
    refine ⟨sums.attempts, sums.reasons, ?_, sums.status⟩
    rw [sums.ended]
    exact List.any_eq_true
  · have totals : s.members.lookup "totals" = some s.totals.toJson := rfl
    rw [totals, counted, Totals.toJson, retries_totals]
    rfl
  · rw [counted]
    exact sum_inStatus s
  · have bound : retries ≤ s.deliveries.names.length * 4294967295 := retries_le log
    omega

/-- A delivery is retried, with an attempt that goes back, given up, and then accepted after all. -/
theorem deliveries_sum_up_given_up :
    let about (id : String) (clock : Nat) (eventType delivery : String) (more : List (String × Json)) :=
      Event.plain id clock eventType (.object (("delivery_id", .string delivery) :: more))
    let log := [about "e1" 1 "SyncIngestRejected" "d1" [("reason", .string "503")],
      about "e2" 2 "SyncRetryScheduled" "d1" [("attempt", .nat 2)],
      about "e3" 3 "SyncIngestAccepted" "d2" [],
      about "e4" 4 "SyncRetryScheduled" "d1" [("attempt", .nat 1)],
      about "e5" 5 "SyncDeadLettered" "d1" [("reason", .string "gave up")],
      about "e6" 6 "SyncIngestAccepted" "d1" []]
    let mine := deliveries.own "d1" (projection.relevant (Event.canonicalize log))
    let s := (projection.reduce log).state
    let d : Delivery := ⟨"d1", .deadLettered, none, 2, none, ["503"], some false, some "gave up"⟩
    delivery? s "d1" = some d ∧ mine.length = 5 ∧ s.deliveries.names.length = 2 ∧
      d.attempts = ((effective mine).filterMap fun y => attempt? y.2).foldl max 0 ∧
      ((mine.find? fun y => ends y.2).or mine.getLast?).bind (fun y => status? y.2) = some d.status ∧
      (s.deliveries.values.map (·.attempts)).sum < 2 ^ 64 := by
  intro about log mine s d
  have sorted : Event.Ascending log := by decide
  have canonical : Event.canonicalize log = log := Event.canonicalize_of_ascending sorted (by decide)
  have known : delivery? s "d1" = some d := by
    dsimp only [s]
    rw [projection.reduce_state, canonical]
    decide +kernel
  have two : s.deliveries.names.length = 2 := by
    dsimp only [s]
    rw [projection.reduce_state, canonical]
    decide +kernel
  have five : mine.length = 5 := by
    dsimp only [mine]
    rw [canonical]
    decide +kernel
  have few : s.deliveries.names.length < 2 ^ 32 := by
    rw [two]
    decide
  obtain ⟨-, each, -, -, fits⟩ := deliveries_sum_up log
  obtain ⟨attempts, -, -, status⟩ := each "d1" d known
  exact ⟨known, five, two, attempts, status, fits few⟩

end EventLedger.Sync
