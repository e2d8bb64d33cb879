import EventLedger.Proofs.Index
import EventLedger.Proofs.Reduction.Accounting

/-! What a glossary keeps of its events. Main statement: every request, resolution, check and observation
is counted in one place, and terms stand under their spelling in small letters. -/

namespace EventLedger.Glossary

variable {s : State} {e : Event} {x : Payload} {k : String} {c : Clarification}

theorem request_known {p : Payload.GlossaryClarificationRequested}
    (known : s.pending.contains p.clarificationId = true ∨
      s.resolved.contains p.clarificationId = true) :
    request s p = (s, [⟨.duplicateClarificationId,
      "Clarification " ++ p.clarificationId ++ " requested twice"⟩]) :=
  if_pos (Bool.or_eq_true_iff.mpr known)

theorem request_new {p : Payload.GlossaryClarificationRequested}
    (unasked : s.pending.contains p.clarificationId = false)
    (unsettled : s.resolved.contains p.clarificationId = false) :
    request s p = ({ s with
        pending := s.pending.insert p.clarificationId
          { clarificationId := p.clarificationId, term := p.term, question := p.question } }, []) := by
  unfold request
  dsimp only
  rw [unasked, unsettled]
  rfl

theorem resolve_unknown {p : Payload.GlossaryClarificationResolved}
    (unknown : s.pending.find? p.clarificationId = none) :
    resolve s p = (s, [⟨.unknownClarification,
      "Resolution for unknown or settled clarification " ++ p.clarificationId⟩]) := by
  unfold resolve
  rw [unknown]

theorem resolve_known {p : Payload.GlossaryClarificationResolved}
    (known : s.pending.find? p.clarificationId = some c) :
    resolve s p = ({ s with
        pending := s.pending.erase p.clarificationId
        resolved := s.resolved.insert c.clarificationId
          { c with senseId := p.senseId, answer := p.answer } }, []) := by
  unfold resolve
  rw [known]

def stored? (s : State) (scope key : String) : Option Term :=
  (s.terms.find? scope).bind fun terms => terms.find? key

/-- What is true of a glossary, whatever has been folded. -/
structure State.Coherent (s : State) : Prop where
  named : ∀ k c, s.pending.find? k = some c → c.clarificationId = k
  apart : ∀ k, s.pending.contains k = true → s.resolved.contains k = false
  lowered : ∀ scope key t, stored? s scope key = some t → key = Text.lowercase t.term

theorem coherent_start : State.Coherent {} := by
  constructor
  · intro k c known
    cases known
  · intro k known
    cases known
  · intro scope key t known
    cases known

theorem stored?_changeTerm (s : State) (e : Event) (scope term : String) (f : Term → Term)
    (scope' key : String) :
    stored? (changeTerm s e scope term f).1 scope' key =
      if scope = scope' ∧ Text.lowercase term = key then
        some (f ((stored? s scope (Text.lowercase term)).getD { term }))
      else stored? s scope' key := by
  unfold stored? changeTerm
  dsimp only
  rw [Index.find?_insert]
  by_cases here : scope = scope'
  · subst here
    rw [if_pos rfl, Option.bind_some, Index.find?_insert]
    by_cases same : Text.lowercase term = key
    · rw [if_pos same, if_pos ⟨rfl, same⟩]
      cases s.terms.find? scope <;> rfl
    · rw [if_neg same, if_neg fun both => same both.2]
      cases s.terms.find? scope <;> rfl
  · rw [if_neg here, if_neg fun both => here both.1]

namespace State.Coherent

theorem changeTerm (coherent : s.Coherent) (e : Event) (scope term : String) {f : Term → Term}
    (keeps : ∀ t, (f t).term = t.term) : (changeTerm s e scope term f).1.Coherent := by
  refine ⟨coherent.named, coherent.apart, fun scope' key t known => ?_⟩
  rw [stored?_changeTerm] at known
  split at known
  · rename_i here
    rw [← Option.some.inj known, keeps, ← here.2]
    cases met : stored? s scope (Text.lowercase term) with
    | none => rfl
    | some t => exact coherent.lowered scope _ t met
  · exact coherent.lowered scope' key t known

theorem request (coherent : s.Coherent) (p : Payload.GlossaryClarificationRequested) :
    (request s p).1.Coherent := by
  cases unasked : s.pending.contains p.clarificationId with
  | true =>
    rw [request_known (.inl unasked)]
    exact coherent
  | false =>
    cases unsettled : s.resolved.contains p.clarificationId with
    | true =>
      rw [request_known (.inr unsettled)]
      exact coherent
    | false =>
      rw [request_new unasked unsettled]
      refine ⟨fun k c known => ?_, fun k known => ?_, coherent.lowered⟩
      · rw [Index.find?_insert] at known
        split at known
        · rename_i same
          rw [← Option.some.inj known]
          exact same
        · exact coherent.named k c known
      · rw [Index.contains, Index.find?_insert] at known
        split at known
        · rename_i same
          exact same ▸ unsettled
        · exact coherent.apart k known

theorem resolve (coherent : s.Coherent) (p : Payload.GlossaryClarificationResolved) :
    (resolve s p).1.Coherent := by
  cases known : s.pending.find? p.clarificationId with
  | none =>
    rw [resolve_unknown known]
    exact coherent
  | some c =>
    rw [resolve_known known]
    refine ⟨fun k c left => ?_, fun k left => ?_, coherent.lowered⟩
    · rw [Index.find?_erase] at left
      split at left
      · cases left
      · exact coherent.named k c left
    · rw [Index.contains, Index.find?_erase] at left
      split at left
      · cases left
      · rename_i other
        have elsewhere : c.clarificationId ≠ k := coherent.named _ c known ▸ other
        rw [Index.contains, Index.find?_insert, if_neg elsewhere]
        exact coherent.apart k left

theorem step (coherent : s.Coherent) (e : Event) (x : Payload) : (step s e x).1.Coherent := by
  cases x with
  | termCandidateObserved p => exact coherent.changeTerm e _ _ fun _ => rfl
  | glossarySenseUpdated p => exact coherent.changeTerm e _ _ fun _ => rfl
  | glossaryClarificationRequested p => exact coherent.request p
  | glossaryClarificationResolved p => exact coherent.resolve p
  | _ => exact ⟨coherent.named, coherent.apart, coherent.lowered⟩

end State.Coherent

/-- How many clarifications are pending or resolved. -/
def State.opened (s : State) : Nat := s.pending.names.length + s.resolved.names.length

/-- A step opens a clarification, or settles one, where the event asks for that, unless it finds that it
    cannot. -/
structure Tallies (s : State) (k : Kind) (r : State × List Finding) : Prop where
  opened : r.1.opened + r.2.countP (fun f => f.kind = .duplicateClarificationId) =
    s.opened + if k = .glossaryClarificationRequested then 1 else 0
  settled : r.1.resolved.names.length + r.2.countP (fun f => f.kind = .unknownClarification) =
    s.resolved.names.length + if k = .glossaryClarificationResolved then 1 else 0

theorem tallies_request (s : State) (p : Payload.GlossaryClarificationRequested) :
    Tallies s .glossaryClarificationRequested (request s p) := by
  cases unasked : s.pending.contains p.clarificationId with
  | true =>
    rw [request_known (.inl unasked)]
    exact ⟨rfl, rfl⟩
  | false =>
    cases unsettled : s.resolved.contains p.clarificationId with
    | true =>
      rw [request_known (.inr unsettled)]
      exact ⟨rfl, rfl⟩
    | false =>
      have longer := s.pending.length_insert p.clarificationId
        { clarificationId := p.clarificationId, term := p.term, question := p.question }
      rw [unasked, if_neg Bool.false_ne_true] at longer
      rw [request_new unasked unsettled]
      refine ⟨?_, rfl⟩
      simp only [State.opened, List.countP_nil, if_true]
      omega

theorem tallies_resolve (coherent : s.Coherent) (p : Payload.GlossaryClarificationResolved) :
    Tallies s .glossaryClarificationResolved (resolve s p) := by
  cases known : s.pending.find? p.clarificationId with
  | none =>
    rw [resolve_unknown known]
    exact ⟨rfl, rfl⟩
  | some c =>
    have held : s.pending.contains p.clarificationId = true := Option.isSome_of_eq_some known
    have shorter := Index.length_erase held
    have longer := s.resolved.length_insert c.clarificationId
      { c with senseId := p.senseId, answer := p.answer }
    -- It is resolved under the id under which it was pending.
    rw [coherent.named _ c known, coherent.apart _ held, if_neg Bool.false_ne_true] at longer
    rw [resolve_known known, coherent.named _ c known]
    constructor
    · simp only [State.opened, List.countP_nil, reduceCtorEq, if_false]
      omega
    · simp only [List.countP_nil, if_true]
      omega

theorem tallies_changeTerm (s : State) (e : Event) (scope term : String) (f : Term → Term) {k : Kind}
    (unasked : k ≠ .glossaryClarificationRequested) (unsettled : k ≠ .glossaryClarificationResolved) :
    Tallies s k (changeTerm s e scope term f) := by
  unfold changeTerm
  dsimp only
  constructor
  · rw [if_neg unasked]
    split <;> rfl
  · rw [if_neg unsettled]
    split <;> rfl

theorem tallies_step (coherent : s.Coherent) (e : Event) (x : Payload) :
    Tallies s x.kind (step s e x) := by
  cases x with
  | termCandidateObserved p =>
    let seen (t : Term) : Term := { t with
      observations := t.observations + 1
      sourceSteps := t.sourceSteps.extend p.sourceStep.toList }
    exact tallies_changeTerm s e p.scopeId p.term seen nofun nofun
  | glossarySenseUpdated p =>
    let told (t : Term) : Term := { t with senses := t.senses.insert p.senseId p.definition }
    exact tallies_changeTerm s e p.scopeId p.term told nofun nofun
  | glossaryClarificationRequested p => exact tallies_request s p
  | glossaryClarificationResolved p => exact tallies_resolve coherent p
  | _ => exact ⟨rfl, rfl⟩

def Tally.total (t : Tally) : Nat := t.pass + t.warn + t.block

theorem Tally.total_add (t : Tally) (outcome : CheckOutcome) : (t.add outcome).total = t.total + 1 := by
  cases outcome <;> simp only [add, total] <;> omega

theorem step_checks (s : State) (e : Event) (x : Payload) :
    (step s e x).1.checks.total =
      s.checks.total + if x.kind = .semanticCheckEvaluated then 1 else 0 := by
  cases x with
  | semanticCheckEvaluated p => exact s.checks.total_add p.outcome
  | glossaryClarificationRequested p =>
    unfold step request
    dsimp only
    split <;> rfl
  | glossaryClarificationResolved p =>
    unfold step resolve
    dsimp only
    split <;> rfl
  | _ => rfl

/-- The observations of all terms of a scope. -/
def observed (terms : Index Term) : Nat := (terms.values.map (·.observations)).sum

def State.observations (s : State) : Nat := (s.terms.values.map observed).sum

theorem observations_changeTerm (s : State) (e : Event) (scope term : String) {f : Term → Term} {n : Nat}
    (more : ∀ t, (f t).observations = t.observations + n) :
    (changeTerm s e scope term f).1.observations = s.observations + n := by
  let key := Text.lowercase term
  let terms := (s.terms.find? scope).getD .empty
  let known := (terms.find? key).getD { term }
  have outer : (changeTerm s e scope term f).1.observations +
      ((s.terms.find? scope).map observed).getD 0 =
        s.observations + observed (terms.insert key (f known)) :=
    s.terms.sum_values_insert scope (terms.insert key (f known)) observed
  have inner : observed (terms.insert key (f known)) +
      ((terms.find? key).map (·.observations)).getD 0 = observed terms + (f known).observations :=
    terms.sum_values_insert key (f known) (·.observations)
  have before : ((s.terms.find? scope).map observed).getD 0 = observed terms := by
    dsimp only [terms]
    cases s.terms.find? scope <;> rfl
  have old : ((terms.find? key).map (·.observations)).getD 0 = known.observations := by
    dsimp only [known]
    cases terms.find? key <;> rfl
  have new := more known
  omega

theorem step_observations (s : State) (e : Event) (x : Payload) :
    (step s e x).1.observations =
      s.observations + if x.kind = .termCandidateObserved then 1 else 0 := by
  cases x with
  | termCandidateObserved p => exact observations_changeTerm s e _ _ fun _ => rfl
  | glossarySenseUpdated p => exact observations_changeTerm s e _ _ fun _ => rfl
  | glossaryClarificationRequested p =>
    unfold step request
    dsimp only
    split <;> rfl
  | glossaryClarificationResolved p =>
    unfold step resolve
    dsimp only
    split <;> rfl
  | _ => rfl

/-- No clarification is both pending and resolved. Every request that is folded is one of a clarification
    that is pending or resolved, or a repeated one; every resolution settles a clarification, or is of
    none that is pending. Checks and observations are all counted, and a term stands under its own
    spelling in small letters. -/
theorem requests_and_observations_balance (log : List Event) :
    let folded := projection.relevant (Event.canonicalize log)
    let s := projection.reduce log
    let g := s.state
    (∀ k, ¬ (g.pending.contains k = true ∧ g.resolved.contains k = true)) ∧
      g.pending.names.length + g.resolved.names.length +
          (s.ofKind .duplicateClarificationId).length =
        (folded.countP fun y => y.2.kind = .glossaryClarificationRequested) ∧
      g.resolved.names.length + (s.ofKind .unknownClarification).length =
        (folded.countP fun y => y.2.kind = .glossaryClarificationResolved) ∧
      g.checks.pass + g.checks.warn + g.checks.block =
        (folded.countP fun y => y.2.kind = .semanticCheckEvaluated) ∧
      (g.terms.values.map fun terms => (terms.values.map (·.observations)).sum).sum =
        (folded.countP fun y => y.2.kind = .termCandidateObserved) ∧
      ∀ scope terms key t, g.terms.find? scope = some terms → terms.find? key = some t →
        key = Text.lowercase t.term := by
  intro folded s g
  have state : g = projection.after {} folded := projection.reduce_state log
  have coherent : g.Coherent := by
    rw [state]
    exact projection.after_keeps State.Coherent (fun _ e x coherent => coherent.step e x)
      coherent_start folded
  have number {k : AnomalyKind} (unscreened : ¬ k.IsScreened) :
      (s.ofKind k).length = (projection.findings {} folded).flatten.countP fun a => a.kind = k := by
    rw [List.countP_eq_length_filter]
    exact congrArg List.length (Domain.ofKind_folded .glossary log unscreened)
  have opened := projection.after_tally State.opened .duplicateClarificationId
    (fun x => x.kind = .glossaryClarificationRequested)
    (fun t e x (coherent : t.Coherent) (_ : True) =>
      ⟨coherent.step e x, (tallies_step coherent e x).opened⟩)
    coherent_start fun y (_ : y ∈ folded) => trivial
  have settled := projection.after_tally (fun t => t.resolved.names.length) .unknownClarification
    (fun x => x.kind = .glossaryClarificationResolved)
    (fun t e x (coherent : t.Coherent) (_ : True) =>
      ⟨coherent.step e x, (tallies_step coherent e x).settled⟩)
    coherent_start fun y (_ : y ∈ folded) => trivial
  have checked := projection.after_count (·.checks.total) (fun x => x.kind = .semanticCheckEvaluated)
    step_checks {} folded
  have observed := projection.after_count State.observations (fun x => x.kind = .termCandidateObserved)
    step_observations {} folded
  rw [← state] at opened settled checked observed
  refine ⟨fun k both => ?_, ?_, ?_, checked.trans (Nat.zero_add _), observed.trans (Nat.zero_add _),
    fun scope terms key t here held => ?_⟩
  · rw [coherent.apart k both.1] at both
    exact Bool.false_ne_true both.2
  · rw [number (by decide)]
    exact opened.trans (Nat.zero_add _)
  · rw [number (by decide)]
    exact settled.trans (Nat.zero_add _)
  · refine coherent.lowered scope key t ?_
    rw [stored?, here]
    exact held

/-- A clarification is requested twice and resolved twice, another is left pending, and a term is observed
    in two spellings in a scope that was never activated. -/
theorem requests_and_observations_balance_late_answer :
    let about (id : String) (clock : Nat) (eventType : String) (members : List (String × Json)) :=
      Event.plain id clock eventType (.object members)
    let requested (id : String) (clock : Nat) (name : String) :=
      about id clock "GlossaryClarificationRequested"
        [("clarification_id", .string name), ("term", .string "run")]
    let resolved (id : String) (clock : Nat) (name : String) :=
      about id clock "GlossaryClarificationResolved" [("clarification_id", .string name)]
    let observed (id : String) (clock : Nat) (term : String) :=
      about id clock "TermCandidateObserved" [("scope_id", .string "team"), ("term", .string term)]
    let log := [requested "e1" 1 "c1", requested "e2" 2 "c1", resolved "e3" 3 "c1",
      resolved "e4" 4 "c1", requested "e5" 5 "c1", requested "e6" 6 "c2", observed "e7" 7 "Lane",
      observed "e8" 8 "LANE"]
    let folded := projection.relevant (Event.canonicalize log)
    let s := projection.reduce log
    s.state.pending.names = ["c2"] ∧ s.state.resolved.names = ["c1"] ∧
      (folded.countP fun y => y.2.kind = .glossaryClarificationRequested) = 4 ∧
      s.state.pending.names.length + s.state.resolved.names.length +
          (s.ofKind .duplicateClarificationId).length =
        (folded.countP fun y => y.2.kind = .glossaryClarificationRequested) ∧
      (s.ofKind .unknownClarification).length = 1 ∧
      ∃ terms t, s.state.terms.find? "team" = some terms ∧ terms.find? "lane" = some t ∧
        t.term = "Lane" ∧ "lane" = Text.lowercase t.term := by
  intro about requested resolved observed log folded s
  have sorted : Event.Ascending log := by decide
  have canonical : Event.canonicalize log = log := Event.canonicalize_of_ascending sorted (by decide)
  have folds : s.state = projection.after {} (projection.relevant log) := by
    have state := projection.reduce_state log
    rwa [canonical] at state
  have asked : (folded.countP fun y => y.2.kind = .glossaryClarificationRequested) = 4 := by
    dsimp only [folded]
    rw [canonical]
    decide +kernel
  have odd : (s.ofKind .unknownClarification).length = 1 := by
    rw [Snapshot.ofKind, projection.reduce_entries, canonical]
    decide +kernel
  have met : ((s.state.terms.find? "team").bind fun terms => terms.find? "lane").map (·.term) =
      some "Lane" := by
    rw [folds]
    decide +kernel
  obtain ⟨t, found, spelled⟩ := Option.map_eq_some_iff.mp met
  obtain ⟨terms, scope, held⟩ := Option.bind_eq_some_iff.mp found
  obtain ⟨-, opened, -, -, -, lowered⟩ := requests_and_observations_balance log
  refine ⟨?_, ?_, asked, opened, odd, terms, t, scope, held, spelled,
    lowered "team" terms "lane" t scope held⟩
  · rw [folds]
    decide +kernel
  · rw [folds]
    decide +kernel

end EventLedger.Glossary
