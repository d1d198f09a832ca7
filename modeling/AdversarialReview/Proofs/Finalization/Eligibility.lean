import AdversarialReview.Finalization.Eligibility

/-! What folding a ledger keeps, how each branch of the eligibility fold is reached, and which
decisions it can make. -/

namespace AdversarialReview

theorem fold_collects {α : Type} (project : LedgerState → List α)
    (observe : FinalizationEvent → Option α) (start : project initialLedgerState = [])
    (step : ∀ state event,
      project (applyEvent state event) = project state ++ (observe event).toList)
    (events : List FinalizationEvent) : project (fold events) = events.filterMap observe := by
  -- Appending one event appends its contribution on both sides.
  induction events using List.reverseRecOn with
  | nil => simpa using start
  | append_singleton events event ih =>
    rw [fold_concat, step, ih, List.filterMap_append]
    cases seen : observe event <;> simp [seen]

theorem fold_keepsLast {α : Type} (project : LedgerState → Option α)
    (observe : FinalizationEvent → Option α) (start : project initialLedgerState = none)
    (step : ∀ state event, project (applyEvent state event) = (observe event).or (project state))
    (events : List FinalizationEvent) :
    project (fold events) = (events.filterMap observe).getLast? := by
  induction events using List.reverseRecOn with
  | nil => simpa using start
  | append_singleton events event ih =>
    rw [fold_concat, step, ih, List.filterMap_append]
    cases seen : observe event <;> simp [seen]

theorem ensureRevision_updateRevision (state : LedgerState) (rev other : String)
    (change : RevisionState → RevisionState) :
    ensureRevision (state.updateRevision rev change) other =
      if rev = other then change (ensureRevision state other) else ensureRevision state other := by
  unfold ensureRevision LedgerState.updateRevision
  rw [OrderedMap.get?_set]
  split
  · next same => simp [ensureRevision, same]
  · rfl

@[simp] theorem ensureRevision_countEvent (state : LedgerState) (event : FinalizationEvent)
    (rev : String) : ensureRevision (countEvent state event) rev = ensureRevision state rev := rfl

@[simp] theorem ensureRevision_advanceHead (state : LedgerState) (head rev : String) :
    ensureRevision (state.advanceHead head) rev = ensureRevision state rev := rfl

def verdictAt (rev : String) (event : FinalizationEvent) : Option VerdictRecord :=
  match event.body with
  | .verdictRecorded revisionRef stageId role verdictKind =>
    if revisionRef = rev then
      some { stageId, role, verdictKind, sourceRef := event.sourceRef, at_ := event.at_ }
    else none
  | _ => none

def checksObservedAt (rev : String) (event : FinalizationEvent) : Option ChecksRecord :=
  match event.body with
  | .checksSettled revisionRef conclusion requiredChecksPresent =>
    if revisionRef = rev then
      some { conclusion, requiredChecksPresent, sourceRef := event.sourceRef, at_ := event.at_ }
    else none
  | _ => none

def attestationAt (rev : String) (event : FinalizationEvent) : Option AttestationRecord :=
  match event.body with
  | .attestationRecorded revisionRef kind principal =>
    if revisionRef = rev then
      some { kind, principal, sourceRef := event.sourceRef, at_ := event.at_ }
    else none
  | _ => none

def dispatchOf (event : FinalizationEvent) : Option DispatchRecord :=
  match event.body with
  | .remediationDispatched revisionRef round idempotencyKey stageId final =>
    some { revisionRef, round, idempotencyKey, stageId, final := final = some true,
           at_ := event.at_ }
  | _ => none

def conclusionOf (event : FinalizationEvent) : Option ConclusionRecord :=
  match event.body with
  | .remediationConcluded revisionRef round outcome stageId =>
    some { revisionRef, round, outcome, stageId, at_ := event.at_ }
  | _ => none

def overrideOf (event : FinalizationEvent) : Option OverrideRecord :=
  match event.body with
  | .operatorOverride overrideKind principal reason roundCap revisionRef =>
    some { overrideKind, principal, reason, roundCap, revisionRef, at_ := event.at_ }
  | _ => none

def headOf (event : FinalizationEvent) : Option String :=
  match event.body with
  | .revisionAdvanced revisionRef => some revisionRef
  | _ => none

def verdictsAt (rev : String) (events : List FinalizationEvent) : List VerdictRecord :=
  events.filterMap (verdictAt rev)

def checksAt (rev : String) (events : List FinalizationEvent) : Option ChecksRecord :=
  (events.filterMap (checksObservedAt rev)).getLast?

def attestationsAt (rev : String) (events : List FinalizationEvent) : List AttestationRecord :=
  events.filterMap (attestationAt rev)

def headAfter (events : List FinalizationEvent) : Option String :=
  (events.filterMap headOf).getLast?

theorem ensureRevision_applyEvent (state : LedgerState) (event : FinalizationEvent) (rev : String) :
    (ensureRevision (applyEvent state event) rev).verdicts =
        (ensureRevision state rev).verdicts ++ (verdictAt rev event).toList ∧
      (ensureRevision (applyEvent state event) rev).checks =
        (checksObservedAt rev event).or (ensureRevision state rev).checks ∧
      (ensureRevision (applyEvent state event) rev).attestations =
        (ensureRevision state rev).attestations ++ (attestationAt rev event).toList := by
  obtain ⟨subjectKey, at_, sourceRef, body⟩ := event
  cases body with
  | revisionAdvanced revisionRef =>
    simp only [applyEvent, applyBody, ensureRevision_updateRevision, verdictAt, checksObservedAt,
      attestationAt]
    -- Advancing a head stamps the revision and leaves its evidence alone.
    by_cases here : revisionRef = rev
    · by_cases stamped : truthy (ensureRevision state rev).revisionAdvancedAt = true
      · simp [here, stamped]
      · simp [here, stamped]
    · simp [here]
  | verdictRecorded revisionRef stageId role verdictKind =>
    by_cases here : revisionRef = rev <;>
      simp [applyEvent, applyBody, ensureRevision_updateRevision, verdictAt, checksObservedAt,
        attestationAt, here]
  | checksSettled revisionRef conclusion requiredChecksPresent =>
    by_cases here : revisionRef = rev <;>
      simp [applyEvent, applyBody, ensureRevision_updateRevision, verdictAt, checksObservedAt,
        attestationAt, here]
  | attestationRecorded revisionRef kind principal =>
    by_cases here : revisionRef = rev <;>
      simp [applyEvent, applyBody, ensureRevision_updateRevision, verdictAt, checksObservedAt,
        attestationAt, here]
  | _ =>
    simp [applyEvent, applyBody, verdictAt, checksObservedAt, attestationAt, ensureRevision,
      countEvent, LedgerState.recordDispatch, LedgerState.recordConclusion,
      LedgerState.updateStage, LedgerState.updateNamedStage]

theorem fold_verdicts (rev : String) (events : List FinalizationEvent) :
    (ensureRevision (fold events) rev).verdicts = verdictsAt rev events :=
  fold_collects (fun state => (ensureRevision state rev).verdicts) _ rfl
    (fun state event => (ensureRevision_applyEvent state event rev).1) events

theorem fold_checks (rev : String) (events : List FinalizationEvent) :
    (ensureRevision (fold events) rev).checks = checksAt rev events :=
  fold_keepsLast (fun state => (ensureRevision state rev).checks) _ rfl
    (fun state event => (ensureRevision_applyEvent state event rev).2.1) events

theorem fold_attestations (rev : String) (events : List FinalizationEvent) :
    (ensureRevision (fold events) rev).attestations = attestationsAt rev events :=
  fold_collects (fun state => (ensureRevision state rev).attestations) _ rfl
    (fun state event => (ensureRevision_applyEvent state event rev).2.2) events

theorem history_applyEvent (state : LedgerState) (event : FinalizationEvent) :
    (applyEvent state event).remediation.dispatched =
        state.remediation.dispatched ++ (dispatchOf event).toList ∧
      (applyEvent state event).remediation.concluded =
        state.remediation.concluded ++ (conclusionOf event).toList ∧
      (applyEvent state event).operatorOverrides =
        state.operatorOverrides ++ (overrideOf event).toList ∧
      (applyEvent state event).currentRevision = (headOf event).or state.currentRevision := by
  obtain ⟨subjectKey, at_, sourceRef, body⟩ := event
  cases body <;>
    simp [applyEvent, applyBody, dispatchOf, conclusionOf, overrideOf, headOf, countEvent,
      LedgerState.recordDispatch, LedgerState.recordConclusion, LedgerState.updateStage,
      LedgerState.updateNamedStage, LedgerState.updateRevision, LedgerState.advanceHead]

theorem fold_dispatched (events : List FinalizationEvent) :
    (fold events).remediation.dispatched = events.filterMap dispatchOf :=
  fold_collects (fun state => state.remediation.dispatched) _ rfl
    (fun state event => (history_applyEvent state event).1) events

theorem fold_concluded (events : List FinalizationEvent) :
    (fold events).remediation.concluded = events.filterMap conclusionOf :=
  fold_collects (fun state => state.remediation.concluded) _ rfl
    (fun state event => (history_applyEvent state event).2.1) events

theorem fold_overrides (events : List FinalizationEvent) :
    (fold events).operatorOverrides = events.filterMap overrideOf :=
  fold_collects LedgerState.operatorOverrides _ rfl
    (fun state event => (history_applyEvent state event).2.2.1) events

theorem fold_currentRevision (events : List FinalizationEvent) :
    (fold events).currentRevision = headAfter events :=
  fold_keepsLast LedgerState.currentRevision _ rfl
    (fun state event => (history_applyEvent state event).2.2.2) events

def exhausts (stageId : String) (event : FinalizationEvent) : Bool :=
  match event.body with
  | .budgetExhausted named => named = stageId
  | _ => false

theorem ensureStage_updateStage (state : LedgerState) (stage other : String)
    (change : StageState → StageState) :
    ensureStage (state.updateStage stage change) other =
      if stage = other then change (ensureStage state other) else ensureStage state other := by
  unfold ensureStage LedgerState.updateStage
  rw [OrderedMap.get?_set]
  split
  · next same => simp [ensureStage, same]
  · rfl

theorem ensureStage_updateNamedStage (state : LedgerState) (named : Option String)
    (change : StageState → StageState) (stage : String)
    (keeps : ∀ s, (change s).budgetExhausted = s.budgetExhausted) :
    (ensureStage (state.updateNamedStage named change) stage).budgetExhausted =
      (ensureStage state stage).budgetExhausted := by
  by_cases present : truthy named = true
  · have updated : ensureStage (state.updateNamedStage named change) stage =
        ensureStage (state.updateStage (named.getD "") change) stage := by
      simp [ensureStage, LedgerState.updateNamedStage, present]
    rw [updated, ensureStage_updateStage]
    split
    · exact keeps _
    · rfl
  · simp [ensureStage, LedgerState.updateNamedStage, present]

theorem fold_exhausted (stage : String) (events : List FinalizationEvent) :
    (ensureStage (fold events) stage).budgetExhausted = events.any (exhausts stage) := by
  -- Exhaustion is set by one event type and cleared by none.
  induction events using List.reverseRecOn with
  | nil => rfl
  | append_singleton events event ih =>
    rw [fold_concat, List.any_append, ← ih]
    obtain ⟨subjectKey, at_, sourceRef, body⟩ := event
    cases body with
    | budgetExhausted named =>
      simp only [applyEvent, applyBody, ensureStage_updateStage]
      by_cases here : named = stage
      · simp [here, exhausts]
      · simp [here, exhausts, ensureStage, countEvent]
    | remediationDispatched revisionRef round idempotencyKey stageId final =>
      refine (ensureStage_updateNamedStage _ _ _ _ fun _ => ?_).trans ?_
      · rfl
      · simp [exhausts, ensureStage, countEvent, LedgerState.recordDispatch]
    | remediationConcluded revisionRef round outcome stageId =>
      refine (ensureStage_updateNamedStage _ _ _ _ fun _ => ?_).trans ?_
      · rfl
      · simp [exhausts, ensureStage, countEvent, LedgerState.recordConclusion]
    | _ =>
      simp [applyEvent, applyBody, exhausts, ensureStage, countEvent, LedgerState.updateRevision,
        LedgerState.advanceHead]

def markOf (event : FinalizationEvent) : Option TerminalKind :=
  match event.body with
  | .finalized .. => some .finalized
  | .closed .. => some .closed
  | .escalated .. => some .escalated
  | .halted .. => some .halted
  | _ => none

def resumes (event : FinalizationEvent) : Bool :=
  match event.body with
  | .operatorOverride overrideKind .. => overrideKind.resuming
  | _ => false

def lastMark (events : List FinalizationEvent) : Option TerminalKind :=
  (events.filterMap markOf).getLast?

def sinceLastMark (events : List FinalizationEvent) : List FinalizationEvent :=
  events.reverse.takeWhile fun event => (markOf event).isNone

def revived (events : List FinalizationEvent) : Bool :=
  (lastMark events).any TerminalKind.suspends && (sinceLastMark events).any resumes

theorem sinceLastMark_concat (events : List FinalizationEvent) (event : FinalizationEvent) :
    sinceLastMark (events ++ [event]) =
      if (markOf event).isNone then event :: sinceLastMark events else [] := by
  simp [sinceLastMark, List.takeWhile_cons]

theorem lastMark_concat (events : List FinalizationEvent) (event : FinalizationEvent) :
    lastMark (events ++ [event]) = (markOf event).or (lastMark events) := by
  unfold lastMark
  rw [List.filterMap_append]
  cases seen : markOf event <;> simp [seen]

theorem fold_terminal (events : List FinalizationEvent) :
    (fold events).terminal.map TerminalState.kind =
      if revived events then none else lastMark events := by
  induction events using List.reverseRecOn with
  | nil => rfl
  | append_singleton events event ih =>
    rw [fold_concat]
    obtain ⟨subjectKey, at_, sourceRef, body⟩ := event
    cases body with
    | operatorOverride overrideKind principal reason roundCap revisionRef =>
      -- The only event that can clear a mark, and only a suspending one.
      simp only [applyEvent, applyBody, countEvent, revived, sinceLastMark_concat,
        lastMark_concat, markOf, resumes, Option.isNone_none, if_true, List.any_cons,
        Option.none_or]
      simp only [revived] at ih
      cases held : (fold events).terminal with
      | none =>
        rcases last : lastMark events with _ | kind
        · simp [resumeTerminal]
        · cases kind <;> cases resumed : (sinceLastMark events).any resumes <;>
            simp_all [resumeTerminal, TerminalKind.suspends]
      | some mark =>
        rcases last : lastMark events with _ | kind
        · cases resumed : (sinceLastMark events).any resumes <;> simp_all
        · cases kind <;> cases resumed : (sinceLastMark events).any resumes <;>
            cases resuming : overrideKind.resuming <;>
            simp_all [resumeTerminal, TerminalKind.suspends]
    | _ =>
      simp_all [applyEvent, applyBody, countEvent, revived, sinceLastMark_concat,
        lastMark_concat, markOf, resumes, LedgerState.updateRevision, LedgerState.advanceHead,
        LedgerState.updateStage, LedgerState.updateNamedStage, LedgerState.recordDispatch,
        LedgerState.recordConclusion]

def finalizedOf (event : FinalizationEvent) : Option TerminalState :=
  match event.body with
  | .finalized revisionRef method =>
    some { kind := .finalized, revisionRef := some revisionRef, method := some method,
           at_ := event.at_ }
  | _ => none

theorem fold_finalized (events : List FinalizationEvent) :
    (fold events).finalized = (events.filterMap finalizedOf).getLast? := by
  refine fold_keepsLast LedgerState.finalized _ rfl ?_ events
  intro state event
  obtain ⟨subjectKey, at_, sourceRef, body⟩ := event
  cases body <;>
    simp [applyEvent, applyBody, finalizedOf, countEvent, LedgerState.recordDispatch,
      LedgerState.recordConclusion, LedgerState.updateStage, LedgerState.updateNamedStage,
      LedgerState.updateRevision, LedgerState.advanceHead]

def everFinalized (events : List FinalizationEvent) : Bool :=
  events.any fun event => markOf event = some .finalized

theorem fold_finalized_isSome (events : List FinalizationEvent) :
    (fold events).finalized.isSome = everFinalized events := by
  have marks : ∀ event, (finalizedOf event).isSome = decide (markOf event = some .finalized) := by
    intro event
    obtain ⟨subjectKey, at_, sourceRef, body⟩ := event
    cases body <;> simp [finalizedOf, markOf]
  rw [fold_finalized, Bool.eq_iff_iff, everFinalized, Option.isSome_iff_ne_none, ne_eq,
    List.getLast?_eq_none_iff, List.filterMap_eq_nil_iff]
  simp only [List.any_eq_true, ← marks, Option.isSome_iff_ne_none, not_forall, exists_prop, ne_eq]

def exampleEvent (body : EventBody) : FinalizationEvent :=
  { subjectKey := { domainId := "code-pr", subjectExternalId := "acme/app#7" }
    at_ := "2026-07-17T12:00:00.000Z", sourceRef := some "review:1", body }

theorem mem_latestVerdicts_iff (revState : RevisionState) (verdict : VerdictRecord) :
    verdict ∈ latestVerdicts revState ↔
      (revState.verdicts.filter fun other => roleKey other = roleKey verdict).getLast? =
        some verdict := by
  unfold latestVerdicts
  simp only [OrderedMap.mem_values_iff, OrderedMap.get?_index]
  constructor
  · rintro ⟨key, last⟩
    -- The last verdict kept under a key has that key.
    have named : roleKey verdict = key := by
      simpa using (List.mem_filter.mp (List.mem_of_getLast? last)).2
    rwa [named]
  · exact fun last => ⟨_, last⟩

theorem latestVerdicts_eq_nil_iff (revState : RevisionState) :
    latestVerdicts revState = [] ↔ revState.verdicts = [] := by
  constructor
  · intro none
    -- The last verdict recorded is its role's latest.
    by_contra some
    obtain ⟨before, last, split⟩ :=
      (List.eq_nil_or_concat' revState.verdicts).resolve_left some
    have kept : last ∈ latestVerdicts revState := by
      rw [mem_latestVerdicts_iff, split, List.filter_append]
      simp
    simp [none] at kept
  · intro none
    simp [latestVerdicts, none, OrderedMap.values, OrderedMap.empty]

theorem verdictDisposition_eq_blocking_iff (kind : VerdictKind) :
    verdictDisposition kind = .blocking ↔ kind = .requestChanges := by
  cases kind <;> simp [verdictDisposition]

theorem aggregateDisposition_eq_none_iff (verdicts : List VerdictRecord) :
    aggregateDisposition verdicts = .none ↔ verdicts = [] := by
  unfold aggregateDisposition
  split <;> simp_all
  repeat' split
  all_goals simp

theorem aggregateDisposition_eq_blocking_iff (verdicts : List VerdictRecord) :
    aggregateDisposition verdicts = .blocking ↔
      ∃ verdict ∈ verdicts, verdict.verdictKind = .requestChanges := by
  have listed : Disposition.blocking ∈
      verdicts.map (fun verdict => verdictDisposition verdict.verdictKind) ↔
        ∃ verdict ∈ verdicts, verdict.verdictKind = .requestChanges := by
    simp [verdictDisposition_eq_blocking_iff]
  rw [← listed]
  unfold aggregateDisposition
  by_cases empty : verdicts = []
  · simp [empty]
  · simp only [empty, if_false]
    repeat' split
    all_goals simp_all

theorem aggregateDisposition_eq_indeterminate_iff (verdicts : List VerdictRecord) :
    aggregateDisposition verdicts = .indeterminate ↔
      (∃ verdict ∈ verdicts, verdictDisposition verdict.verdictKind = .indeterminate) ∧
        ¬ ∃ verdict ∈ verdicts, verdict.verdictKind = .requestChanges := by
  have listed : Disposition.indeterminate ∈
      verdicts.map (fun verdict => verdictDisposition verdict.verdictKind) ↔
        ∃ verdict ∈ verdicts, verdictDisposition verdict.verdictKind = .indeterminate := by
    simp
  rw [← listed, ← aggregateDisposition_eq_blocking_iff]
  unfold aggregateDisposition
  by_cases empty : verdicts = []
  · simp [empty]
  · simp only [empty, if_false]
    repeat' split
    all_goals simp_all

theorem gate_eq (pol : EligibilityPolicy) (base : DecisionFields) (decision : EligibilityDecision)
    (passes : pol.autonomousExecutionDisabled = false ∨ decision.kind.mutating = false) :
    gate pol base decision = decision := by
  unfold gate
  rcases passes with enabled | harmless
  · simp [enabled]
  · simp [harmless]

theorem gate_cases (pol : EligibilityPolicy) (base : DecisionFields)
    (decision : EligibilityDecision) :
    (gate pol base decision).kind = .escalate ∨ (gate pol base decision = decision ∧
      (decision.kind.mutating = true → pol.autonomousExecutionDisabled = false)) := by
  unfold gate
  split
  · exact .inl rfl
  · next passed =>
    refine .inr ⟨rfl, fun mutating => ?_⟩
    simpa [mutating] using passed

theorem of_gate_kind {pol : EligibilityPolicy} {base : DecisionFields}
    {decision : EligibilityDecision} (kept : (gate pol base decision).kind ≠ .escalate) :
    gate pol base decision = decision ∧
      (decision.kind.mutating = true → pol.autonomousExecutionDisabled = false) :=
  (gate_cases pol base decision).resolve_left kept

/-- The evidence at a revision is complete: only remediation can still hold the merge back. -/
structure SettledAt (pol : EligibilityPolicy) (state : LedgerState) (rev : String)
    (checks : ChecksRecord) : Prop where
  conclusive : conclusiveChecks (ensureRevision state rev).checks = some checks
  reviewed : aggregateDisposition (latestVerdicts (ensureRevision state rev)) ≠ .none
  determinate : aggregateDisposition (latestVerdicts (ensureRevision state rev)) ≠ .indeterminate
  attested : awaitedProducers pol (ensureRevision state rev) = []

structure LandsExhausted (pol : EligibilityPolicy) (state : LedgerState) (rev : String)
    (stageId : Option String) : Prop where
  exhausted : anyStageExhausted state stageId = true
  closes : pol.exhaustionAlwaysCloses = true
  covered : ∃ dispatch conclusion, finalDispatchForRev state rev = some dispatch ∧
    conclusionForDispatch state rev dispatch.round = some conclusion ∧
    conclusion.outcome = .completed

/-- A settled subject owes a round nobody has dispatched as final yet. -/
structure OwesRound (pol : EligibilityPolicy) (state : LedgerState) (rev : String)
    (checks : ChecksRecord) : Prop where
  needed : needsRemediation pol state
    (aggregateDisposition (latestVerdicts (ensureRevision state rev))) checks = true
  budget : anyStageExhausted state (activeStageId (latestVerdicts (ensureRevision state rev))) =
      false ∨
    (pol.exhaustionAlwaysCloses = true ∧ finalDispatchForRev state rev = none)

structure OpenAt (state : LedgerState) (rev : String) : Prop where
  unmarked : state.terminal = none
  undirected : ∀ directive, latestActiveOverride state = some directive →
    directive.overrideKind ≠ .close ∧ directive.overrideKind ≠ .halt
  head : state.currentRevision = some rev
  named : rev ≠ ""

theorem overrideDecision_eq_none_iff (pol : EligibilityPolicy) (base : DecisionFields)
    (state : LedgerState) :
    overrideDecision pol base state = none ↔
      ∀ directive, latestActiveOverride state = some directive →
        directive.overrideKind ≠ .close ∧ directive.overrideKind ≠ .halt := by
  unfold overrideDecision
  cases latestActiveOverride state with
  | none => simp
  | some directive => cases kind : directive.overrideKind <;> simp [kind]

theorem overrideDecision_kind {pol : EligibilityPolicy} {base : DecisionFields}
    {state : LedgerState} {decision : EligibilityDecision}
    (decided : overrideDecision pol base state = some decision) :
    decision.kind = .escalate ∨ decision.kind = .halt ∨
      (decision.kind = .close ∧ pol.autonomousExecutionDisabled = false) := by
  unfold overrideDecision at decided
  split at decided
  · split at decided
    · rw [← Option.some.inj decided]
      rcases gate_cases pol base (makeEligibilityDecision .close _) with
        escalates | ⟨same, enabled⟩
      · exact .inl escalates
      · exact .inr (.inr ⟨by rw [same]; rfl, enabled rfl⟩)
    · exact .inr (.inl (by rw [← Option.some.inj decided]; rfl))
    · cases decided
  · cases decided

section

variable [JsDate]

variable {base : DecisionFields} {decision : EligibilityDecision}

theorem awaitEvidence_kind {anchorAt : Option String} {patienceMs : Int} {expired waiting : String}
    (decided : awaitEvidence base anchorAt patienceMs expired waiting = .ok decision) :
    decision.kind = .wait ∨ decision.kind = .escalate := by
  unfold awaitEvidence at decided
  split at decided
  · cases decided
  · split at decided
    · exact .inr (by rw [← Except.ok.inj decided]; rfl)
    · exact .inl (by rw [← Except.ok.inj decided]; rfl)

variable {checks : ChecksRecord} {pol : EligibilityPolicy} {rev : String} {state : LedgerState}

theorem revisionDecision_of_settled (settled : SettledAt pol state rev checks) :
    revisionDecision pol base state rev =
      settledDecision pol base state rev (latestVerdicts (ensureRevision state rev)) checks := by
  obtain ⟨conclusive, reviewed, determinate, attested⟩ := settled
  unfold ensureRevision at *
  unfold revisionDecision
  simp only [conclusive, attested, ne_eq, not_true_eq_false, if_false]

theorem revisionDecision_of_unsettled (unsettled : ∀ checks, ¬ SettledAt pol state rev checks)
    (decided : revisionDecision pol base state rev = .ok decision) :
    decision.kind = .wait ∨ decision.kind = .escalate := by
  unfold revisionDecision at decided
  simp only at decided
  split at decided
  · exact awaitEvidence_kind decided
  · next checks conclusive =>
    split at decided
    · exact awaitEvidence_kind decided
    · exact awaitEvidence_kind decided
    · next reviewed determinate =>
      split at decided
      · exact awaitEvidence_kind decided
      · next complete =>
        -- All four questions were answered, so the evidence was settled after all.
        exact absurd ⟨conclusive, reviewed, determinate, not_not.mp complete⟩ (unsettled checks)

theorem exhaustedDecision_finalizeNow {stageId : Option String}
    (decided : exhaustedDecision pol base state rev stageId = .ok decision)
    (finalizes : decision.kind = .finalizeNow) :
    pol.exhaustionAlwaysCloses = true ∧ ∃ dispatch conclusion,
      finalDispatchForRev state rev = some dispatch ∧
      conclusionForDispatch state rev dispatch.round = some conclusion ∧
      conclusion.outcome = .completed := by
  unfold exhaustedDecision at decided
  split at decided
  · rw [← Except.ok.inj decided] at finalizes
    cases finalizes
  · next closes =>
    refine ⟨by simpa using closes, ?_⟩
    split at decided
    · -- A missing final round is dispatched, never merged past.
      rw [← Except.ok.inj decided] at finalizes
      have kept := of_gate_kind (by rw [finalizes]; decide)
      rw [kept.1] at finalizes
      cases finalizes
    · next dispatch dispatched =>
      split at decided
      · rcases awaitEvidence_kind decided with waits | escalates
        · rw [waits] at finalizes; cases finalizes
        · rw [escalates] at finalizes; cases finalizes
      · next conclusion concluded =>
        split at decided
        · next completed => exact ⟨dispatch, conclusion, dispatched, concluded, completed⟩
        · rw [← Except.ok.inj decided] at finalizes
          cases finalizes

theorem settledDecision_finalizeNow {verdicts : List VerdictRecord}
    (decided : settledDecision pol base state rev verdicts checks = .ok decision)
    (finalizes : decision.kind = .finalizeNow) :
    needsRemediation pol state (aggregateDisposition verdicts) checks = false ∨
      LandsExhausted pol state rev (activeStageId verdicts) := by
  unfold settledDecision at decided
  simp only at decided
  split at decided
  · next clean => exact .inl (by simpa using clean)
  · split at decided
    · rw [← Except.ok.inj decided] at finalizes
      have kept := of_gate_kind (by rw [finalizes]; decide)
      rw [kept.1] at finalizes
      cases finalizes
    · next exhausted =>
      obtain ⟨closes, covered⟩ := exhaustedDecision_finalizeNow decided finalizes
      exact .inr ⟨by simpa using exhausted, closes, covered⟩

theorem settledDecision_remediate
    (decided : settledDecision pol base state rev (latestVerdicts (ensureRevision state rev))
      checks = .ok decision)
    (remediates : decision.kind = .remediate) :
    OwesRound pol state rev checks ∧
      decision.round = some (dispatchedRoundsForRev state rev + 1 : Int) ∧
      decision.revisionRef = base.revisionRef ∧
      decision.final = if anyStageExhausted state
        (activeStageId (latestVerdicts (ensureRevision state rev))) then some true
        else base.final := by
  unfold settledDecision at decided
  simp only at decided
  split at decided
  · -- A clean subject finalizes or escalates.
    rw [← Except.ok.inj decided] at remediates
    have kept := of_gate_kind (by rw [remediates]; decide)
    rw [kept.1] at remediates
    cases remediates
  · next needed =>
    have needed : needsRemediation pol state
        (aggregateDisposition (latestVerdicts (ensureRevision state rev))) checks = true := by
      simpa using needed
    split at decided
    · next budget =>
      have same := Except.ok.inj decided
      rw [← same] at remediates
      have kept := of_gate_kind (by rw [remediates]; decide)
      rw [kept.1] at same
      have unspent : anyStageExhausted state
          (activeStageId (latestVerdicts (ensureRevision state rev))) = false := by
        simpa using budget
      refine ⟨⟨needed, .inl unspent⟩, by rw [← same]; rfl, by rw [← same]; rfl, ?_⟩
      rw [← same, unspent]
      rfl
    · next spent =>
      have spent : anyStageExhausted state
          (activeStageId (latestVerdicts (ensureRevision state rev))) = true := by
        simpa using spent
      unfold exhaustedDecision at decided
      split at decided
      · rw [← Except.ok.inj decided] at remediates
        cases remediates
      · next closes =>
        split at decided
        · next undispatched =>
          have same := Except.ok.inj decided
          rw [← same] at remediates
          have kept := of_gate_kind (by rw [remediates]; decide)
          rw [kept.1] at same
          refine ⟨⟨needed, .inr ⟨by simpa using closes, undispatched⟩⟩, by rw [← same]; rfl,
            by rw [← same]; rfl, ?_⟩
          rw [← same, spent]
          rfl
        · split at decided
          · rcases awaitEvidence_kind decided with waits | escalates
            · rw [waits] at remediates; cases remediates
            · rw [escalates] at remediates; cases remediates
          · split at decided
            · rw [← Except.ok.inj decided] at remediates
              have kept := of_gate_kind (by rw [remediates]; decide)
              rw [kept.1] at remediates
              cases remediates
            · rw [← Except.ok.inj decided] at remediates
              cases remediates

theorem settledDecision_of_owes (enabled : pol.autonomousExecutionDisabled = false)
    (owes : OwesRound pol state rev checks) :
    ∃ decision, settledDecision pol base state rev
        (latestVerdicts (ensureRevision state rev)) checks = .ok decision ∧
      decision.kind = .remediate := by
  unfold settledDecision
  simp only [owes.needed, Bool.not_true, Bool.false_eq_true, if_false]
  by_cases exhausted : anyStageExhausted state
      (activeStageId (latestVerdicts (ensureRevision state rev))) = true
  · obtain ⟨closes, undispatched⟩ := owes.budget.resolve_left (by simp [exhausted])
    simp only [exhausted, Bool.not_true, Bool.false_eq_true, if_false, exhaustedDecision, closes,
      undispatched]
    exact ⟨_, rfl, by rw [gate_eq _ _ _ (.inl enabled)]; rfl⟩
  · simp only [exhausted, Bool.not_false, if_true]
    exact ⟨_, rfl, by rw [gate_eq _ _ _ (.inl enabled)]; rfl⟩

variable {observedAt : Option String}

theorem eligibleUnder_cases (decided : eligibleUnder pol state observedAt = .ok decision) :
    (∃ mark, state.terminal = some mark ∧
        decision = terminalDecision (decisionBase state observedAt) state.currentRevision mark) ∨
      (state.terminal = none ∧
        overrideDecision pol (decisionBase state observedAt) state = some decision) ∨
      (state.terminal = none ∧
        overrideDecision pol (decisionBase state observedAt) state = none ∧
        decision.kind = .wait) ∨
      ∃ rev, OpenAt state rev ∧
        revisionDecision pol (decisionBase state observedAt) state rev = .ok decision := by
  unfold eligibleUnder at decided
  simp only at decided
  split at decided
  · next mark marked => exact .inl ⟨mark, marked, (Except.ok.inj decided).symm⟩
  · next unmarked =>
    refine .inr ?_
    split at decided
    · next directed => exact .inl ⟨unmarked, by rw [directed, Except.ok.inj decided]⟩
    · next undirected =>
      refine .inr ?_
      split at decided
      · next known =>
        -- A revision text that is present and not empty is the subject's head.
        obtain ⟨rev, head⟩ : ∃ rev, state.currentRevision = some rev := by
          cases head : state.currentRevision with
          | none => simp [truthy, head] at known
          | some rev => exact ⟨rev, rfl⟩
        simp only [head, Option.getD_some] at decided
        refine .inr ⟨rev, ⟨unmarked, ?_, head, ?_⟩, decided⟩
        · exact (overrideDecision_eq_none_iff _ _ _).mp undirected
        · simpa [truthy, head] using known
      · exact .inl ⟨unmarked, undirected, by rw [← Except.ok.inj decided]; rfl⟩

theorem eligibleUnder_of_open (opened : OpenAt state rev) (observedAt : Option String) :
    eligibleUnder pol state observedAt =
      revisionDecision pol (decisionBase state observedAt) state rev := by
  obtain ⟨unmarked, undirected, head, named⟩ := opened
  unfold eligibleUnder
  simp only [unmarked, (overrideDecision_eq_none_iff _ _ _).mpr undirected, head]
  simp [truthy, named]

theorem revisionDecision_finalizeNow (decided : revisionDecision pol base state rev = .ok decision)
    (finalizes : decision.kind = .finalizeNow) :
    ∃ checks, SettledAt pol state rev checks ∧
      (needsRemediation pol state
          (aggregateDisposition (latestVerdicts (ensureRevision state rev))) checks = false ∨
        LandsExhausted pol state rev
          (activeStageId (latestVerdicts (ensureRevision state rev)))) := by
  by_cases settled : ∃ checks, SettledAt pol state rev checks
  · obtain ⟨checks, settled⟩ := settled
    rw [revisionDecision_of_settled settled] at decided
    exact ⟨checks, settled, settledDecision_finalizeNow decided finalizes⟩
  · rcases revisionDecision_of_unsettled (not_exists.mp settled) decided with waits | escalates
    · rw [waits] at finalizes; cases finalizes
    · rw [escalates] at finalizes; cases finalizes

theorem eligibleUnder_finalizeNow (decided : eligibleUnder pol state observedAt = .ok decision)
    (finalizes : decision.kind = .finalizeNow)
    (fresh : state.terminal.map TerminalState.kind ≠ some .finalized) :
    ∃ rev checks, OpenAt state rev ∧ SettledAt pol state rev checks ∧
      (needsRemediation pol state
          (aggregateDisposition (latestVerdicts (ensureRevision state rev))) checks = false ∨
        LandsExhausted pol state rev
          (activeStageId (latestVerdicts (ensureRevision state rev)))) := by
  rcases eligibleUnder_cases decided with
    ⟨mark, marked, rfl⟩ | ⟨-, directed⟩ | ⟨-, -, waits⟩ | ⟨rev, opened, decided⟩
  · -- Only a finalized mark answers finalize-now.
    cases kind : mark.kind with
    | finalized => simp [marked, kind] at fresh
    | _ => simp [terminalDecision, kind] at finalizes
  · rcases overrideDecision_kind directed with escalates | halts | ⟨closes, -⟩ <;> simp_all
  · simp [waits] at finalizes
  · obtain ⟨checks, settled, reached⟩ := revisionDecision_finalizeNow decided finalizes
    exact ⟨rev, checks, opened, settled, reached⟩

theorem eligibleUnder_remediate (decided : eligibleUnder pol state observedAt = .ok decision)
    (remediates : decision.kind = .remediate) :
    ∃ rev checks, OpenAt state rev ∧ SettledAt pol state rev checks ∧
      OwesRound pol state rev checks ∧
      decision.round = some (dispatchedRoundsForRev state rev + 1 : Int) ∧
      decision.revisionRef = rev ∧
      decision.final = if anyStageExhausted state
        (activeStageId (latestVerdicts (ensureRevision state rev))) then some true else none := by
  rcases eligibleUnder_cases decided with
    ⟨mark, marked, rfl⟩ | ⟨-, directed⟩ | ⟨-, -, waits⟩ | ⟨rev, opened, decided⟩
  · cases kind : mark.kind <;> simp [terminalDecision, kind] at remediates
  · rcases overrideDecision_kind directed with escalates | halts | ⟨closes, -⟩ <;> simp_all
  · simp [waits] at remediates
  · by_cases settled : ∃ checks, SettledAt pol state rev checks
    · obtain ⟨checks, settled⟩ := settled
      rw [revisionDecision_of_settled settled] at decided
      obtain ⟨owes, round, located, final⟩ := settledDecision_remediate decided remediates
      refine ⟨rev, checks, opened, settled, owes, round, located.trans ?_, final⟩
      simp [decisionBase, opened.head]
    · rcases revisionDecision_of_unsettled (not_exists.mp settled) decided with waits | escalates
      · rw [waits] at remediates; cases remediates
      · rw [escalates] at remediates; cases remediates

theorem eligibleUnder_of_owes (enabled : pol.autonomousExecutionDisabled = false)
    (opened : OpenAt state rev) (settled : SettledAt pol state rev checks)
    (owes : OwesRound pol state rev checks) (observedAt : Option String) :
    ∃ decision, eligibleUnder pol state observedAt = .ok decision ∧
      decision.kind = .remediate := by
  rw [eligibleUnder_of_open opened, revisionDecision_of_settled settled]
  exact settledDecision_of_owes enabled owes

end

end AdversarialReview
