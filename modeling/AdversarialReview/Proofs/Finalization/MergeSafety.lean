import AdversarialReview.Proofs.Finalization.Eligibility

/-! What the ledger must hold at a revision before the fold lets it merge. -/

namespace AdversarialReview

def LatestAt (rev : String) (events : List FinalizationEvent) (verdict : VerdictRecord) : Prop :=
  ((verdictsAt rev events).filter fun other => roleKey other = roleKey verdict).getLast? =
    some verdict

structure LandedExhausted (policy : PolicyInput) (rev : String)
    (events : List FinalizationEvent) : Prop where
  closes : policy.exhaustionAlwaysCloses ≠ some false
  exhausted : ∃ stageId, events.any (exhausts stageId) = true
  covered : ∃ dispatch ∈ events.filterMap dispatchOf,
    ∃ conclusion ∈ events.filterMap conclusionOf,
      dispatch.revisionRef = rev ∧ dispatch.final = true ∧ conclusion.revisionRef = rev ∧
        conclusion.round = dispatch.round ∧ conclusion.outcome = .completed

structure MergeEvidence (policy : PolicyInput) (rev : String)
    (events : List FinalizationEvent) : Prop where
  /-- The last observation found every required check present and settled. -/
  checks : ∃ checks, checksAt rev events = some checks ∧ checks.requiredChecksPresent = true ∧
    checks.conclusion.settled = true ∧
    (checks.conclusion.nonBlocking = true ∨ LandedExhausted policy rev events)
  /-- Somebody reviewed exactly this revision. -/
  reviewed : verdictsAt rev events ≠ []
  /-- An unsettled verdict is only passed over by an exhausted landing that addressed a blocker. -/
  determinate : (∀ verdict, LatestAt rev events verdict →
      verdictDisposition verdict.verdictKind ≠ .indeterminate) ∨
    (LandedExhausted policy rev events ∧
      ∃ verdict, LatestAt rev events verdict ∧ verdict.verdictKind = .requestChanges)
  /-- Every configured producer attested, where attestations are consumed. -/
  attested : policy.consumeAttestations = some true →
    ∀ producers, (policy.attestationProducers.getD []).mapM normalizeProducer = .ok producers →
      ∀ producer ∈ producers, ∃ attestation ∈ attestationsAt rev events,
        producerKey attestation.principal attestation.kind =
          producerKey producer.principal producer.kind
  /-- Nobody's latest word asks for changes, unless a final round addressed it. -/
  unblocked : (∀ verdict, LatestAt rev events verdict → verdict.verdictKind ≠ .requestChanges) ∨
    LandedExhausted policy rev events

variable {pol : EligibilityPolicy} {policy : PolicyInput}

theorem normalizePolicy_ok (accepted : normalizePolicy policy = .ok pol) :
    (policy.attestationProducers.getD []).mapM normalizeProducer = .ok pol.attestationProducers ∧
      pol.consumeAttestations = decide (policy.consumeAttestations = some true) ∧
      pol.exhaustionAlwaysCloses = decide (policy.exhaustionAlwaysCloses ≠ some false) ∧
      pol.autonomousExecutionDisabled =
        decide (policy.autonomousExecutionDisabled = some true) := by
  unfold normalizePolicy at accepted
  split at accepted
  · cases accepted
  · next producers read =>
    split at accepted
    · cases accepted
    · rw [← Except.ok.inj accepted]
      exact ⟨read, rfl, rfl, rfl⟩

theorem mem_latestVerdicts_fold (rev : String) (events : List FinalizationEvent)
    (verdict : VerdictRecord) :
    verdict ∈ latestVerdicts (ensureRevision (fold events) rev) ↔ LatestAt rev events verdict := by
  rw [mem_latestVerdicts_iff, fold_verdicts, LatestAt]

variable {events : List FinalizationEvent}

theorem exists_exhausts_of_anyStageExhausted
    {stageId : Option String} (exhausted : anyStageExhausted (fold events) stageId = true) :
    ∃ stage, events.any (exhausts stage) = true := by
  -- Both halves of the test read one stored stage, found under its own key.
  suffices stored : ∃ stage record, (fold events).stages.get? stage = some record ∧
      record.budgetExhausted = true by
    obtain ⟨stage, record, found, spent⟩ := stored
    refine ⟨stage, ?_⟩
    rw [← fold_exhausted, ensureStage, found]
    exact spent
  unfold anyStageExhausted at exhausted
  rcases Bool.or_eq_true_iff.mp exhausted with active | some_
  · obtain ⟨-, spent⟩ := Bool.and_eq_true_iff.mp active
    cases found : (fold events).stages.get? (stageId.getD "") with
    | none => simp [found] at spent
    | some record => exact ⟨_, record, found, by simpa [found] using spent⟩
  · obtain ⟨record, stored, spent⟩ := List.any_eq_true.mp some_
    obtain ⟨stage, found⟩ := (OrderedMap.mem_values_iff _ _).mp stored
    exact ⟨stage, record, found, spent⟩

theorem landedExhausted_of_lands {rev : String} {stageId : Option String}
    (accepted : normalizePolicy policy = .ok pol)
    (lands : LandsExhausted pol (fold events) rev stageId) :
    LandedExhausted policy rev events := by
  obtain ⟨exhausted, closes, dispatch, conclusion, dispatched, concluded, completed⟩ := lands
  rw [(normalizePolicy_ok accepted).2.2.1] at closes
  refine ⟨of_decide_eq_true closes, exists_exhausts_of_anyStageExhausted exhausted, ?_⟩
  -- Both searches return a recorded round that matches what they look for.
  have located := List.find?_some dispatched
  have matching := List.find?_some concluded
  simp only [Bool.decide_and, Bool.and_eq_true, decide_eq_true_eq] at located matching
  refine ⟨dispatch, ?_, conclusion, ?_, located.1, located.2, matching.1, matching.2, completed⟩
  · rw [← fold_dispatched]
    exact List.mem_of_find?_eq_some dispatched
  · rw [← fold_concluded]
    exact List.mem_of_find?_eq_some concluded

theorem attested_of_missingProducers {producers : List AttestationProducer}
    {attestations : List AttestationRecord} (complete : missingProducers producers attestations = [])
    {producer : AttestationProducer} (configured : producer ∈ producers) :
    ∃ attestation ∈ attestations, producerKey attestation.principal attestation.kind =
      producerKey producer.principal producer.kind := by
  simpa using (List.filter_eq_nil_iff.mp complete) producer configured

theorem of_needsRemediation_false {state : LedgerState}
    {disposition : Disposition} {checks : ChecksRecord}
    (clean : needsRemediation pol state disposition checks = false) :
    disposition ≠ .blocking ∧ checks.conclusion.nonBlocking = true := by
  unfold needsRemediation at clean
  simp only [Bool.or_eq_false_iff, decide_eq_false_iff_not, Bool.not_eq_false'] at clean
  exact ⟨clean.1.1, clean.2⟩

theorem mergeEvidence_of_settled {rev : String} {checks : ChecksRecord}
    (accepted : normalizePolicy policy = .ok pol) (settled : SettledAt pol (fold events) rev checks)
    (reached : needsRemediation pol (fold events)
          (aggregateDisposition (latestVerdicts (ensureRevision (fold events) rev))) checks =
        false ∨
      LandsExhausted pol (fold events) rev
        (activeStageId (latestVerdicts (ensureRevision (fold events) rev)))) :
    MergeEvidence policy rev events := by
  obtain ⟨conclusive, reviewed, determinate, attested⟩ := settled
  obtain ⟨read, consumes, -, -⟩ := normalizePolicy_ok accepted
  rw [fold_checks] at conclusive
  obtain ⟨observed, green⟩ := Option.filter_eq_some_iff.mp conclusive
  obtain ⟨present, done⟩ := Bool.and_eq_true_iff.mp green
  -- Either way the ledger is clean, or it landed exhausted.
  have outcome : (aggregateDisposition (latestVerdicts (ensureRevision (fold events) rev)) ≠
        .blocking ∧ checks.conclusion.nonBlocking = true) ∨ LandedExhausted policy rev events :=
    reached.imp of_needsRemediation_false (landedExhausted_of_lands accepted)
  rw [ne_eq, aggregateDisposition_eq_blocking_iff] at outcome
  refine ⟨⟨checks, observed, present, done, outcome.imp_left And.right⟩, ?_, ?_, ?_, ?_⟩
  · rw [ne_eq, aggregateDisposition_eq_none_iff, latestVerdicts_eq_nil_iff, fold_verdicts]
      at reviewed
    exact reviewed
  · rw [ne_eq, aggregateDisposition_eq_indeterminate_iff, not_and_or, not_not] at determinate
    rcases determinate with none_ | blocked
    · refine .inl fun verdict latest unsettled => none_ ⟨verdict, ?_, unsettled⟩
      exact (mem_latestVerdicts_fold rev events verdict).mpr latest
    · obtain ⟨verdict, latest, asks⟩ := blocked
      refine .inr ⟨outcome.resolve_left fun clean => clean.1 ⟨verdict, latest, asks⟩, verdict, ?_,
        asks⟩
      exact (mem_latestVerdicts_fold rev events verdict).mp latest
  · intro consuming producers named producer configured
    rw [read] at named
    rw [awaitedProducers, consumes, if_pos (decide_eq_true consuming), fold_attestations]
      at attested
    rw [← Except.ok.inj named] at configured
    exact attested_of_missingProducers attested configured
  · refine outcome.imp_left fun clean verdict latest asks => clean.1 ⟨verdict, ?_, asks⟩
    exact (mem_latestVerdicts_fold rev events verdict).mpr latest

/-- A fresh finalize-now rests on complete evidence at the current revision. -/
theorem eligible_finalizeNow_evidence [JsDate] (events : List FinalizationEvent)
    (policy : PolicyInput) (observedAt : Option String) (decision : EligibilityDecision)
    (decided : eligible (fold events) policy observedAt = .ok decision)
    (finalizes : decision.kind = .finalizeNow)
    (fresh : (fold events).terminal.map TerminalState.kind ≠ some .finalized) :
    ∃ rev, headAfter events = some rev ∧ MergeEvidence policy rev events := by
  unfold eligible at decided
  split at decided
  · cases decided
  · next pol accepted =>
    obtain ⟨rev, checks, opened, settled, reached⟩ :=
      eligibleUnder_finalizeNow decided finalizes fresh
    refine ⟨rev, ?_, mergeEvidence_of_settled accepted settled reached⟩
    rw [← fold_currentRevision, opened.head]

def approvedLedger : List FinalizationEvent :=
  [.revisionAdvanced "head-1",
    .verdictRecorded "head-1" "review" "lead" .approved,
    .checksSettled "head-1" .success true].map exampleEvent

/-- The approved ledger finalizes, on evidence at its head. -/
theorem eligible_finalizeNow_evidence_approved :
    ∃ rev, headAfter approvedLedger = some rev ∧ MergeEvidence {} rev approvedLedger :=
  letI := JsDate.isoDates
  eligible_finalizeNow_evidence approvedLedger {} none
    { subjectKey := some ⟨"code-pr", "acme/app#7"⟩
      revisionRef := "head-1"
      observedAt := some "2026-07-17T12:00:00.000Z"
      reason := some "clean verdict, green checks at current revision"
      kind := .finalizeNow }
    rfl rfl (by decide)

def exhaustedRedLedger : List FinalizationEvent :=
  [.revisionAdvanced "head-1",
    .verdictRecorded "head-1" "review" "lead" .requestChanges,
    .verdictRecorded "head-1" "review" "second" (.other "unclear"),
    .checksSettled "head-1" .failure true,
    .budgetExhausted "review",
    .remediationDispatched "head-1" 1 "remediate:head-1:1:final" (some "review") (some true),
    .remediationConcluded "head-1" 1 .completed (some "review")].map exampleEvent

/-- Landing exhausted merges past red checks and past a role whose latest verdict is unsettled. -/
theorem eligible_finalizeNow_on_red_checks :
    (@eligible JsDate.isoDates (fold exhaustedRedLedger) {} none).toOption.map
        EligibilityDecision.kind = some .finalizeNow ∧
      everFinalized exhaustedRedLedger = false ∧ headAfter exhaustedRedLedger = some "head-1" ∧
      (checksAt "head-1" exhaustedRedLedger).map ChecksRecord.conclusion = some .failure ∧
      ∃ verdict, LatestAt "head-1" exhaustedRedLedger verdict ∧
        verdictDisposition verdict.verdictKind = .indeterminate := by
  refine ⟨by decide, by decide, by decide, by decide,
    { stageId := "review", role := "second", verdictKind := .other "unclear"
      sourceRef := some "review:1", at_ := "2026-07-17T12:00:00.000Z" }, ?_, rfl⟩
  unfold LatestAt
  decide

end AdversarialReview
