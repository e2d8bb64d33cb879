import EventLedger.Proofs.GrowSet
import EventLedger.Proofs.Reduction.Terminal

/-! How a decision is taken. Main statement: it only goes forward, and its choice is that of its first
override, or else of its first resolution, which is reported if the choice is none of its options. -/

namespace EventLedger.DecisionPoint

variable {s : State} {e : Event} {x : Payload} {k : String} {d d' d'' : Decision}
  {mine : List (Event × Payload)} {y : Event × Payload}

def DecisionStatus.rank : DecisionStatus → Nat
  | .opened => 0
  | .discussing => 1
  | .resolved => 2
  | .overridden => 3

def resolves : Payload → Bool
  | .decisionPointResolved _ => true
  | _ => false

def overrides : Payload → Bool
  | .decisionPointOverridden _ => true
  | _ => false

def choice? : Payload → Option String
  | .decisionPointResolved p => some p.chosenOption
  | .decisionPointOverridden p => some p.chosenOption
  | _ => none

/-- The event of a decision that its choice is that of. -/
def chooser? (mine : List (Event × Payload)) : Option (Event × Payload) :=
  (mine.find? fun y => overrides y.2).or (mine.find? fun y => resolves y.2)

/-- Whether a decision is still open, and if not how it was taken, with its choice. -/
def verdict (mine : List (Event × Payload)) : DecisionStatus × Option String :=
  match mine.find? fun y => overrides y.2, mine.find? fun y => resolves y.2 with
  | some y, _ => (.overridden, choice? y.2)
  | none, some y => (.resolved, choice? y.2)
  | none, none => (.opened, none)

namespace Decision

/-- What a decision keeps on its way to another state of it. -/
structure Leads (d d' : Decision) : Prop where
  id : d'.decisionId = d.decisionId
  status : d.status.rank ≤ d'.status.rank
  title : d'.title = d.title
  options : d'.options = d.options
  authorityRole : d'.authorityRole = d.authorityRole
  participants : ∀ name, d.participants.contains name = true → d'.participants.contains name = true

theorem Leads.refl (d : Decision) : d.Leads d :=
  ⟨rfl, Nat.le_refl _, rfl, rfl, rfl, fun _ held => held⟩

theorem Leads.trans (one : d.Leads d') (two : d'.Leads d'') : d.Leads d'' where
  id := two.id.trans one.id
  status := Nat.le_trans one.status two.status
  title := two.title.trans one.title
  options := two.options.trans one.options
  authorityRole := two.authorityRole.trans one.authorityRole
  participants name held := two.participants name (one.participants name held)

/-- Whether a decision was taken, and what for: a discussion leaves it open. -/
def settled (d : Decision) : DecisionStatus × Option String :=
  (if d.status = .discussing then .opened else d.status, d.chosenOption)

theorem forward {before after : DecisionStatus} (status : d.status = before)
    (rises : before.rank.ble after.rank = true) : d.status.rank ≤ after.rank :=
  status ▸ Nat.le_of_ble_eq_true rises

theorem leads_discuss (d : Decision) (p : Payload.DecisionPointDiscussing) :
    d.Leads (d.discuss p).1 := by
  have joined (name : String) (held : d.participants.contains name = true) :
      (d.participants.extend p.participant.toList).contains name = true :=
    GrowSet.contains_extend.mpr (.inl held)
  unfold discuss
  cases status : d.status with
  | overridden => exact .refl d
  | resolved => exact ⟨rfl, Nat.le_of_eq (congrArg _ status), rfl, rfl, rfl, joined⟩
  | opened | discussing => exact ⟨rfl, forward status rfl, rfl, rfl, rfl, joined⟩

theorem leads_resolve (d : Decision) (p : Payload.DecisionPointResolved) : d.Leads (d.resolve p).1 := by
  unfold resolve
  cases status : d.status with
  | overridden | resolved => exact .refl d
  | opened | discussing =>
    exact ⟨rfl, forward status rfl, rfl, rfl, rfl, fun _ held => held⟩

theorem leads_override (d : Decision) (p : Payload.DecisionPointOverridden) :
    d.Leads (d.override p).1 := by
  unfold override
  cases status : d.status with
  | overridden => exact .refl d
  | resolved | opened | discussing =>
    exact ⟨rfl, forward status rfl, rfl, rfl, rfl, fun _ held => held⟩

theorem settled_discuss (d : Decision) (p : Payload.DecisionPointDiscussing) :
    (d.discuss p).1.settled = d.settled := by
  unfold discuss settled
  cases status : d.status <;> simp only [status, reduceCtorEq, ↓reduceIte]

theorem settled_resolve (d : Decision) (p : Payload.DecisionPointResolved) :
    (d.resolve p).1.settled =
      if d.settled.1 = .opened then (.resolved, some p.chosenOption) else d.settled := by
  unfold resolve settled
  cases status : d.status <;> simp only [status, reduceCtorEq, ↓reduceIte]

theorem settled_override (d : Decision) (p : Payload.DecisionPointOverridden) :
    (d.override p).1.settled =
      if d.settled.1 = .overridden then d.settled else (.overridden, some p.chosenOption) := by
  unfold override settled
  cases status : d.status <;> simp only [status, reduceCtorEq, ↓reduceIte]

theorem strayOption_of_stray {option : String} (given : d.options ≠ []) (stray : option ∉ d.options) :
    d.strayOption option =
      [⟨.invalidOption, "'" ++ option ++ "' is not an option of decision " ++ d.decisionId⟩] := by
  have refused : acceptsOption d.options option = false := by
    rw [acceptsOption, List.isEmpty_eq_false_iff.mpr given, Bool.false_or]
    exact (List.contains_eq_mem _ _).trans (decide_eq_false stray)
  rw [strayOption, refused, if_neg Bool.false_ne_true]

theorem resolve_finds (unsettled : d.settled.1 = .opened) (p : Payload.DecisionPointResolved) :
    (d.resolve p).2 = d.strayOption p.chosenOption := by
  unfold settled at unsettled
  unfold resolve
  cases status : d.status with
  | opened | discussing => rfl
  | resolved | overridden => simp only [status, reduceCtorEq, ↓reduceIte] at unsettled

theorem override_finds (unended : d.settled.1 ≠ .overridden) (p : Payload.DecisionPointOverridden) :
    d.strayOption p.chosenOption ⊆ (d.override p).2 := by
  unfold settled at unended
  unfold override
  cases status : d.status with
  | opened | discussing => exact List.subset_cons_self _ _
  | resolved => exact List.Subset.refl _
  | overridden => simp only [status, reduceCtorEq, ↓reduceIte, ne_eq, not_true_eq_false] at unended

end Decision

theorem verdict_pass (override : overrides y.2 = false) (resolve : resolves y.2 = false) :
    verdict (mine ++ [y]) = verdict mine := by
  rw [verdict, List.find?_append, List.find?_append, List.find?_singleton, List.find?_singleton, override,
    resolve, if_neg Bool.false_ne_true, Option.or_none, Option.or_none]
  rfl

theorem verdict_resolve (override : overrides y.2 = false) (resolve : resolves y.2 = true) :
    verdict (mine ++ [y]) =
      if (verdict mine).1 = .opened then (.resolved, choice? y.2) else verdict mine := by
  unfold verdict
  rw [List.find?_append, List.find?_append, List.find?_singleton, List.find?_singleton, override,
    resolve, if_neg Bool.false_ne_true, Option.or_none]
  cases mine.find? (fun y => overrides y.2) <;> cases mine.find? (fun y => resolves y.2) <;> rfl

theorem verdict_override (override : overrides y.2 = true) :
    verdict (mine ++ [y]) =
      if (verdict mine).1 = .overridden then verdict mine else (.overridden, choice? y.2) := by
  unfold verdict
  rw [List.find?_append, List.find?_append, List.find?_singleton, List.find?_singleton, override]
  cases mine.find? (fun y => overrides y.2) <;> cases mine.find? (fun y => resolves y.2) <;> rfl

theorem verdict_chosen (mine : List (Event × Payload)) :
    (verdict mine).2 = (chooser? mine).bind fun y => choice? y.2 := by
  unfold verdict chooser?
  cases mine.find? (fun y => overrides y.2) <;> cases mine.find? (fun y => resolves y.2) <;> rfl

/-- The decision that an event meets, new if it is not known yet. -/
def met (s : State) (k : String) : Decision := (decision? s k).getD { decisionId := k }

theorem change_met (s : State) (e : Event) (k : String) (f : Decision → Decision × List Finding) :
    decision? (change s e k f).1 k = some (f (met s k)).1 ∧ (f (met s k)).2 ⊆ (change s e k f).2 := by
  unfold change met decision?
  cases s.decisions.find? k with
  | none =>
    exact ⟨Index.find?_insert_self _ _ _, List.subset_append_right _ _⟩
  | some d =>
    exact ⟨Index.find?_insert_self _ _ _, List.subset_append_right _ _⟩

theorem openDecision_new {p : Payload.DecisionPointOpened} (unknown : decision? s p.decisionId = none) :
    openDecision s p = (⟨s.decisions.insert p.decisionId
      { decisionId := p.decisionId, title := p.title, options := p.options,
        authorityRole := p.authorityRole }⟩, []) := by
  unfold decision? at unknown
  unfold openDecision Index.contains
  rw [unknown]
  exact if_neg Bool.false_ne_true

theorem openDecision_settled (s : State) (p : Payload.DecisionPointOpened) :
    (met (openDecision s p).1 p.decisionId).settled = (met s p.decisionId).settled := by
  unfold met
  cases known : decision? s p.decisionId with
  | none =>
    rw [openDecision_new known, decision?, Index.find?_insert_self]
    rfl
  | some d => rw [(openDecision_known known).1]

theorem settled_step (named : decisionId? y.2 = some k) (settled : (met s k).settled = verdict mine) :
    (met (step s y.1 y.2).1 k).settled = verdict (mine ++ [y]) := by
  obtain ⟨e, x⟩ := y
  have changed (f : Decision → Decision × List Finding) : met (change s e k f).1 k = (f (met s k)).1 := by
    rw [met, (change_met s e k f).1, Option.getD_some]
  cases x with
  | decisionPointOpened p =>
    cases named
    rw [verdict_pass rfl rfl, ← settled]
    exact openDecision_settled s p
  | decisionPointDiscussing p =>
    cases named
    rw [verdict_pass rfl rfl, ← settled, step, changed]
    exact Decision.settled_discuss _ p
  | decisionPointResolved p =>
    cases named
    rw [verdict_resolve rfl rfl, ← settled, step, changed]
    exact Decision.settled_resolve _ p
  | decisionPointOverridden p =>
    cases named
    rw [verdict_override rfl, ← settled, step, changed]
    exact Decision.settled_override _ p
  | _ => cases named

theorem settled_after (k : String) (events : List (Event × Payload)) :
    (met (projection.after {} events) k).settled = verdict (decisions.own k events) := by
  have start : ((decisions.record? {} k).getD { decisionId := k }).settled = verdict [] := rfl
  exact decisions.own_keeps (fun mine r => (r.getD { decisionId := k }).settled = verdict mine)
    (fun _ _ _ named settled => settled_step named settled) start events

theorem leads_step (known : decision? s k = some d) (e : Event) (x : Payload) :
    ∃ d', decision? (step s e x).1 k = some d' ∧ d.Leads d' := by
  have found : met s k = d := by
    rw [met, known, Option.getD_some]
  have changed {f : Decision → Decision × List Finding} (leads : ∀ d, d.Leads (f d).1) :
      ∃ d', decision? (change s e k f).1 k = some d' ∧ d.Leads d' :=
    ⟨(f d).1, found ▸ (change_met s e k f).1, leads d⟩
  by_cases named : decisionId? x = some k
  · cases x with
    | decisionPointOpened p => cases named; exact ⟨d, (openDecision_known known).1, .refl d⟩
    | decisionPointDiscussing p => cases named; exact changed fun d => d.leads_discuss p
    | decisionPointResolved p => cases named; exact changed fun d => d.leads_resolve p
    | decisionPointOverridden p => cases named; exact changed fun d => d.leads_override p
    | _ => cases named
  · exact ⟨d, (decisions.record?_other named).trans known, .refl d⟩

theorem leads_after (known : decision? s k = some d) (events : List (Event × Payload)) :
    ∃ d', decision? (projection.after s events) k = some d' ∧ d.Leads d' := by
  induction events generalizing s d with
  | nil => exact ⟨d, known, .refl d⟩
  | cons y rest ih =>
    obtain ⟨d', stepped, first⟩ := leads_step known y.1 y.2
    obtain ⟨d'', after, second⟩ := ih stepped
    exact ⟨d'', after, first.trans second⟩

/-- Whether an event makes the choice of a decision that was settled so far as given. -/
def Chooses (before : DecisionStatus × Option String) (x : Payload) : Prop :=
  overrides x = true ∧ before.1 ≠ .overridden ∨ resolves x = true ∧ before.1 = .opened

theorem chooses_step (named : decisionId? x = some k) (chooses : Chooses (met s k).settled x)
    {option : String} (choice : choice? x = some option) (e : Event) :
    (∃ d, decision? (step s e x).1 k = some d ∧ (met s k).Leads d) ∧
      (met s k).strayOption option ⊆ (step s e x).2 := by
  cases x with
  | decisionPointResolved p =>
    cases named
    cases choice
    obtain ⟨after, finds⟩ := change_met s e p.decisionId (·.resolve p)
    obtain ⟨other, -⟩ | ⟨-, unsettled⟩ := chooses
    · cases other
    · rw [Decision.resolve_finds unsettled p] at finds
      exact ⟨⟨_, after, Decision.leads_resolve _ p⟩, finds⟩
  | decisionPointOverridden p =>
    cases named
    cases choice
    obtain ⟨after, finds⟩ := change_met s e p.decisionId (·.override p)
    obtain ⟨-, unended⟩ | ⟨other, -⟩ := chooses
    · have stray := List.Subset.trans (Decision.override_finds unended p) finds
      exact ⟨⟨_, after, Decision.leads_override _ p⟩, stray⟩
    · cases other
  | _ => cases choice

theorem chooses_chooser {events : List (Event × Payload)}
    (found : chooser? (decisions.own k events) = some y) :
    ∃ before after, events = before ++ y :: after ∧ decisionId? y.2 = some k ∧
      Chooses (verdict (decisions.own k before)) y.2 := by
  -- An event before it that could have chosen, and is found first, would be the chooser itself.
  obtain first | ⟨never, first⟩ := Option.or_eq_some_iff.mp found
  · obtain ⟨before, after, split, none⟩ := decisions.own_find? first
    have named := decisions.names_of_mem_own (List.mem_of_find?_eq_some first)
    have overriding := List.find?_some (p := fun y : Event × Payload => overrides y.2) first
    refine ⟨before, after, split, named, .inl ⟨overriding, ?_⟩⟩
    unfold verdict
    rw [none]
    cases (decisions.own k before).find? fun y => resolves y.2 <;> exact nofun
  · obtain ⟨before, after, split, none⟩ := decisions.own_find? first
    have named := decisions.names_of_mem_own (List.mem_of_find?_eq_some first)
    have resolving := List.find?_some (p := fun y : Event × Payload => resolves y.2) first
    refine ⟨before, after, split, named, .inr ⟨resolving, ?_⟩⟩
    have unended : (decisions.own k before).find? (fun y => overrides y.2) = Option.none := by
      rw [split, decisions.own_append, List.find?_append, Option.or_eq_none_iff] at never
      exact never.1
    unfold verdict
    rw [none, unended]

theorem settled_choice_iff (d : Decision) :
    d.settled.1 ≠ .opened ↔ d.status = .resolved ∨ d.status = .overridden := by
  unfold Decision.settled
  cases d.status <;> simp

theorem verdict_chosen_iff (mine : List (Event × Payload)) :
    (verdict mine).2.isSome ↔ (verdict mine).1 ≠ .opened := by
  unfold verdict
  cases override : mine.find? fun y => overrides y.2 with
  | some y =>
    have overriding := List.find?_some (p := fun y : Event × Payload => overrides y.2) override
    cases payload : y.2 <;> simp_all [overrides, choice?]
  | none =>
    cases resolve : mine.find? fun y => resolves y.2 with
    | some y =>
      have resolving := List.find?_some (p := fun y : Event × Payload => resolves y.2) resolve
      cases payload : y.2 <;> simp_all [resolves, choice?]
    | none => simp

/-- The choice of a decision is looked up in its options by the event that makes it. -/
theorem stray_choice_found {events : List (Event × Payload)}
    (known : decision? (projection.after {} events) k = some d) {option : String}
    (chooser : chooser? (decisions.own k events) = some y) (choice : choice? y.2 = some option)
    (given : d.options ≠ []) (stray : option ∉ d.options) :
    .about y.1 ⟨.invalidOption, "'" ++ option ++ "' is not an option of decision " ++ d.decisionId⟩ ∈
      (projection.findings {} events).flatten := by
  obtain ⟨before, after, rfl, named, chooses⟩ := chooses_chooser chooser
  rw [← settled_after] at chooses
  obtain ⟨⟨d', stepped, first⟩, finds⟩ := chooses_step named chooses choice y.1
  obtain ⟨d'', last, second⟩ := leads_after stepped after
  rw [Projection.after_append, Projection.after_cons] at known
  have same : d'' = d := Option.some.inj (last.symm.trans known)
  have leads : (met (projection.after {} before) k).Leads d := same ▸ first.trans second
  rw [leads.options] at given stray
  rw [Decision.strayOption_of_stray given stray, ← leads.id] at finds
  rw [Projection.findings_append, Projection.findings_cons, List.flatten_append, List.flatten_cons]
  exact List.mem_append_right _ (List.mem_append_left _ (List.mem_map_of_mem (finds List.mem_cons_self)))

/-- At every point of a fold, a decision that is known goes forward only, and keeps its title, its
    options, its role and its participants. It has a choice exactly if it is resolved or overridden: that
    of the first event that overrides it, or else of the first that resolves it. When the options are
    given and the choice is none of them, an anomaly about that event says so. -/
theorem decisions_go_forward (log : AnomalyLog) (before later : List (Event × Payload))
    (known : decision? (projection.fold {} log before).1 k = some d) :
    let mine := decisions.own k before
    (∃ d', decision? (projection.fold {} log (before ++ later)).1 k = some d' ∧
        d.status.rank ≤ d'.status.rank ∧ d'.title = d.title ∧ d'.options = d.options ∧
        d'.authorityRole = d.authorityRole ∧
        ∀ name, d.participants.contains name = true → d'.participants.contains name = true) ∧
      (d.chosenOption.isSome ↔ d.status = .resolved ∨ d.status = .overridden) ∧
      d.chosenOption = ((mine.find? fun y => overrides y.2).or
        (mine.find? fun y => resolves y.2)).bind (fun y => choice? y.2) ∧
      ∀ option, d.chosenOption = some option → d.options ≠ [] → option ∉ d.options →
        ∃ y, (mine.find? fun y => overrides y.2).or (mine.find? fun y => resolves y.2) = some y ∧
          choice? y.2 = some option ∧
          ∃ a ∈ (projection.fold {} log before).2.entries,
            a.kind = .invalidOption ∧ a.eventId = y.1.id := by
  intro mine
  rw [projection.fold_state] at known
  have settled : d.settled = verdict mine := by
    have after := settled_after k before
    rwa [met, known, Option.getD_some] at after
  have chosen : d.chosenOption = (chooser? mine).bind fun y => choice? y.2 :=
    (congrArg (·.2) settled).trans (verdict_chosen mine)
  refine ⟨?_, ?_, chosen, fun option choice given stray => ?_⟩
  · obtain ⟨d', after, leads⟩ := leads_after known later
    rw [projection.fold_state, projection.after_append]
    exact ⟨d', after, leads.status, leads.title, leads.options, leads.authorityRole, leads.participants⟩
  · rw [← settled_choice_iff, settled, ← verdict_chosen_iff, ← settled]
    rfl
  · obtain ⟨y, chooser, choice⟩ := Option.bind_eq_some_iff.mp (chosen.symm.trans choice)
    have found := stray_choice_found known chooser choice given stray
    rw [projection.fold_entries]
    exact ⟨y, chooser, choice, _, List.mem_append_right _ found, rfl, rfl⟩

/-- A decision is overridden with something else than its options, and then resolved in vain. -/
theorem decisions_go_forward_overridden :
    let event (id : String) : Event := Event.plain id 1 "" (.object [])
    let before : List (Event × Payload) :=
      [(event "e1", .decisionPointOpened ⟨"d1", "Which store?", ["sql", "files"], some "lead"⟩),
        (event "e2", .decisionPointDiscussing ⟨"d1", some "ann"⟩),
        (event "e3", .decisionPointOverridden ⟨"d1", "none", some "bob", none⟩)]
    let later : List (Event × Payload) :=
      [(event "e4", .decisionPointResolved ⟨"d1", "sql", none, none⟩)]
    let log : AnomalyLog := .empty .decisionPoint
    ∃ d d', decision? (projection.fold {} log before).1 "d1" = some d ∧
      decision? (projection.fold {} log (before ++ later)).1 "d1" = some d' ∧
      d.status.rank ≤ d'.status.rank ∧ d'.options = ["sql", "files"] ∧
      d'.participants.contains "ann" = true ∧ d.chosenOption = some "none" ∧
      ∃ a ∈ (projection.fold {} log before).2.entries, a.kind = .invalidOption := by
  intro event before later log
  obtain ⟨d, known⟩ : ∃ d, decision? (projection.fold {} log before).1 "d1" = some d := ⟨_, rfl⟩
  obtain ⟨⟨d', after, status, -, options, -, participants⟩, -, -, stray⟩ :=
    decisions_go_forward log before later known
  have opened : d.options = ["sql", "files"] := by
    cases known
    rfl
  have joined : d.participants.contains "ann" = true := by
    cases known
    rfl
  have chosen : d.chosenOption = some "none" := by
    cases known
    rfl
  obtain ⟨y, -, -, a, member, kind, -⟩ := stray "none" chosen (by rw [opened]; decide)
    (by rw [opened]; decide)
  exact ⟨d, d', known, after, status, options.trans opened, participants "ann" joined, chosen, a, member,
    kind⟩

end EventLedger.DecisionPoint
