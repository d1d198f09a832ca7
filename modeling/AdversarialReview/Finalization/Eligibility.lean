import AdversarialReview.Library.JsDate
import AdversarialReview.Finalization.LedgerFold

/-! The pure eligibility fold: one decision from a projected ledger, a policy and a time. -/

namespace AdversarialReview

inductive DecisionKind where
  | finalizeNow
  | remediate
  | close
  | wait
  | halt
  | escalate
  deriving DecidableEq

def DecisionKind.text : DecisionKind → String
  | finalizeNow => "finalize-now"
  | remediate => "remediate"
  | close => "close"
  | wait => "wait"
  | halt => "halt"
  | escalate => "escalate"

def DecisionKind.mutating : DecisionKind → Bool
  | finalizeNow | remediate | close => true
  | wait | halt | escalate => false

def CheckConclusion.nonBlocking : CheckConclusion → Bool
  | success | neutral | skipped => true
  | _ => false

def CheckConclusion.settled : CheckConclusion → Bool
  | other _ => false
  | _ => true

structure AttestationProducer where
  principal : String
  kind : String

/-- One entry of the producer list as a policy file spells it. -/
inductive ProducerEntry where
  | name (principal : String)
  | record (principal : String) (kind : Option String)
  | malformed

structure PolicyInput where
  policyVersion : Option Int := none
  strictMode : Option Bool := none
  exhaustionAlwaysCloses : Option Bool := none
  allCommentsBeforeMerge : Option Bool := none
  consumeAttestations : Option Bool := none
  attestationProducers : Option (List ProducerEntry) := none
  checksPatienceMs : Option Int := none
  verdictPatienceMs : Option Int := none
  attestationPatienceMs : Option Int := none
  autonomousExecutionDisabled : Option Bool := none

structure EligibilityPolicy where
  policyVersion : Int
  strictMode : Bool
  exhaustionAlwaysCloses : Bool
  allCommentsBeforeMerge : Bool
  consumeAttestations : Bool
  attestationProducers : List AttestationProducer
  checksPatienceMs : Int
  verdictPatienceMs : Int
  attestationPatienceMs : Int
  autonomousExecutionDisabled : Bool
  producer_of_consumes : consumeAttestations = true → attestationProducers ≠ []
  patience_pos : 0 < checksPatienceMs ∧ 0 < verdictPatienceMs ∧ 0 < attestationPatienceMs

def defaultPatienceMs : Int := 30 * 60 * 1000

def positiveMs (value : Option Int) : Int :=
  match value with
  | some ms => if 0 < ms then ms else defaultPatienceMs
  | none => defaultPatienceMs

theorem positiveMs_pos (value : Option Int) : 0 < positiveMs value := by
  unfold positiveMs
  split
  · split
    · assumption
    · decide
  · decide

def normalizeProducer : ProducerEntry → Except String AttestationProducer
  | .name principal => .ok { principal, kind := "produced" }
  | .record principal kind =>
    .ok { principal, kind := if truthy kind then kind.getD "" else "produced" }
  | .malformed =>
    .error "attestation producer must be a principal string or \x7b principal, kind \x7d"

def normalizePolicy (policy : PolicyInput) : Except String EligibilityPolicy :=
  match (policy.attestationProducers.getD []).mapM normalizeProducer with
  | .error refusal => .error refusal
  | .ok producers =>
    if bare : policy.consumeAttestations = some true ∧ producers = [] then
      .error ("invalid eligibility policy: consume_attestations is enabled but no attestation" ++
        " producer is configured")
    else .ok
      { policyVersion := if policy.policyVersion.getD 1 = 0 then 1 else policy.policyVersion.getD 1
        strictMode := policy.strictMode ≠ some false
        exhaustionAlwaysCloses := policy.exhaustionAlwaysCloses ≠ some false
        allCommentsBeforeMerge := policy.allCommentsBeforeMerge ≠ some false
        consumeAttestations := policy.consumeAttestations = some true
        attestationProducers := producers
        checksPatienceMs := positiveMs policy.checksPatienceMs
        verdictPatienceMs := positiveMs policy.verdictPatienceMs
        attestationPatienceMs := positiveMs policy.attestationPatienceMs
        autonomousExecutionDisabled := policy.autonomousExecutionDisabled = some true
        producer_of_consumes := fun consumes empty =>
          bare ⟨of_decide_eq_true consumes, empty⟩
        patience_pos := ⟨positiveMs_pos _, positiveMs_pos _, positiveMs_pos _⟩ }

structure DecisionFields where
  subjectKey : Option SubjectKey
  revisionRef : String
  observedAt : Option String
  reason : Option String := none
  stageId : Option String := none
  round : Option Int := none
  deadline : Option String := none
  final : Option Bool := none

/-- The one decision the executor must act on. -/
structure EligibilityDecision extends DecisionFields where
  kind : DecisionKind

def makeEligibilityDecision (kind : DecisionKind) (fields : DecisionFields) :
    EligibilityDecision :=
  { toDecisionFields := fields, kind }

@[simp] theorem makeEligibilityDecision_kind (kind : DecisionKind) (fields : DecisionFields) :
    (makeEligibilityDecision kind fields).kind = kind := rfl

@[simp] theorem makeEligibilityDecision_fields (kind : DecisionKind) (fields : DecisionFields) :
    (makeEligibilityDecision kind fields).toDecisionFields = fields := rfl

/-- What a set of latest verdicts amounts to. -/
inductive Disposition where
  | none
  | clean
  | nonBlocking
  | blocking
  | indeterminate
  deriving DecidableEq

def roleKey (verdict : VerdictRecord) : String :=
  verdict.stageId ++ "\x00" ++ verdict.role

def latestVerdicts (revState : RevisionState) : List VerdictRecord :=
  (revState.verdicts.foldl (fun byRole verdict => byRole.set (roleKey verdict) verdict)
    OrderedMap.empty).values

def verdictDisposition : VerdictKind → Disposition
  | .approved => .clean
  | .commentOnly => .nonBlocking
  | .requestChanges => .blocking
  | .other _ => .indeterminate

def aggregateDisposition (verdicts : List VerdictRecord) : Disposition :=
  let each := verdicts.map fun verdict => verdictDisposition verdict.verdictKind
  if verdicts = [] then .none
  else if .blocking ∈ each then .blocking
  else if .indeterminate ∈ each then .indeterminate
  else if .nonBlocking ∈ each then .nonBlocking
  else .clean

def activeStageId (verdicts : List VerdictRecord) : Option String :=
  let blocking := verdicts.find? fun verdict =>
    verdictDisposition verdict.verdictKind = .blocking
  (blocking.or verdicts.head?).map VerdictRecord.stageId

def latestActiveOverride (state : LedgerState) : Option OverrideRecord :=
  state.operatorOverrides.getLast?

def producerKey (principal kind : String) : String :=
  principal ++ "\x00" ++ kind

def missingProducers (producers : List AttestationProducer)
    (attestations : List AttestationRecord) : List AttestationProducer :=
  let seen := attestations.map fun attestation =>
    producerKey attestation.principal attestation.kind
  producers.filter fun producer => producerKey producer.principal producer.kind ∉ seen

def awaitedProducers (pol : EligibilityPolicy) (revState : RevisionState) :
    List AttestationProducer :=
  if pol.consumeAttestations then
    missingProducers pol.attestationProducers revState.attestations
  else []

/-- Exhaustion of any stage is a subject-level gate on the final round. -/
def anyStageExhausted (state : LedgerState) (stageId : Option String) : Bool :=
  (truthy stageId && ((state.stages.get? (stageId.getD "")).map
    StageState.budgetExhausted).getD false)
    || state.stages.values.any fun stage => stage.budgetExhausted

def dispatchedRoundsForRev (state : LedgerState) (rev : String) : Nat :=
  (state.remediation.dispatched.filter fun round => round.revisionRef = rev).length

def finalDispatchForRev (state : LedgerState) (rev : String) : Option DispatchRecord :=
  state.remediation.dispatched.find? fun round => round.revisionRef = rev ∧ round.final = true

def conclusionForDispatch (state : LedgerState) (rev : String) (round : Int) :
    Option ConclusionRecord :=
  state.remediation.concluded.find? fun concluded =>
    concluded.revisionRef = rev ∧ concluded.round = round

def gate (pol : EligibilityPolicy) (base : DecisionFields) (decision : EligibilityDecision) :
    EligibilityDecision :=
  if pol.autonomousExecutionDisabled && decision.kind.mutating then
    makeEligibilityDecision .escalate { base with reason := some ("kill switch: " ++
      decision.kind.text ++ " intercepted (autonomous execution disabled)") }
  else decision

def terminalDecision (base : DecisionFields) (currentRevision : Option String)
    (mark : TerminalState) : EligibilityDecision :=
  match mark.kind with
  | .finalized => makeEligibilityDecision .finalizeNow { base with
      revisionRef := (mark.revisionRef.or currentRevision).getD ""
      reason := some "already finalized" }
  | .closed => makeEligibilityDecision .close { base with
      reason := some (mark.reason.getD "closed") }
  | .escalated => makeEligibilityDecision .escalate { base with
      reason := some (mark.reason.getD "escalated"), final := some true }
  | .halted => makeEligibilityDecision .halt { base with
      reason := some (mark.reason.getD "halted"), final := some true }

def overrideDecision (pol : EligibilityPolicy) (base : DecisionFields) (state : LedgerState) :
    Option EligibilityDecision :=
  match latestActiveOverride state with
  | some directive =>
    match directive.overrideKind with
    | .close => some (gate pol base (makeEligibilityDecision .close { base with
        reason := some directive.reason }))
    | .halt => some (makeEligibilityDecision .halt { base with reason := some directive.reason })
    | _ => none
  | none => none

section

variable [JsDate]

def deadlineFrom (anchorAt : Option String) (patienceMs : Int) : Except String (Option String) :=
  match JsDate.parse (anchorAt.getD "") with
  | none => .ok none
  | some anchorMs => (JsDate.shift anchorMs patienceMs).map some

def deadlineExpired (observedAt deadline : Option String) : Bool :=
  truthy deadline && JsDate.reached (observedAt.getD "") (deadline.getD "")

def awaitEvidence (base : DecisionFields) (anchorAt : Option String) (patienceMs : Int)
    (expired waiting : String) : Except String EligibilityDecision :=
  match deadlineFrom anchorAt patienceMs with
  | .error refusal => .error refusal
  | .ok deadline =>
    if deadlineExpired base.observedAt deadline then
      .ok (makeEligibilityDecision .escalate { base with reason := some expired, deadline })
    else .ok (makeEligibilityDecision .wait { base with reason := some waiting, deadline })

def checksWaitReason : Option ChecksRecord → String
  | none => "checks not yet settled at current revision"
  | some checks =>
    if checks.requiredChecksPresent then "required checks still running at current revision"
    else "required checks not yet present at current revision"

def conclusiveChecks (checks : Option ChecksRecord) : Option ChecksRecord :=
  checks.filter fun checks => checks.requiredChecksPresent && checks.conclusion.settled

/-- Whether a settled subject still owes a remediation round. -/
def needsRemediation (pol : EligibilityPolicy) (state : LedgerState) (disposition : Disposition)
    (checks : ChecksRecord) : Bool :=
  let operatorApproved :=
    ((latestActiveOverride state).map OverrideRecord.overrideKind) = some .approve
  disposition = .blocking
    || (disposition = .nonBlocking && pol.strictMode && !operatorApproved)
    || !checks.conclusion.nonBlocking

/-- Why a remediation round is owed. -/
def remediationReason (disposition : Disposition) (checks : ChecksRecord) : String :=
  if !checks.conclusion.nonBlocking && disposition = .clean then
    "checks not green at current revision (" ++ checks.conclusion.text ++ ")"
  else if disposition = .blocking then "blocking review finding at current revision"
  else "non-blocking comments must be addressed before merge (strict_mode)"

def exhaustedDecision (pol : EligibilityPolicy) (base : DecisionFields) (state : LedgerState)
    (rev : String) (stageId : Option String) : Except String EligibilityDecision :=
  if !pol.exhaustionAlwaysCloses then
    .ok (makeEligibilityDecision .halt { base with
      reason := some "remediation budget exhausted; exhaustion-always-closes disabled", stageId })
  else match finalDispatchForRev state rev with
  | none => .ok (gate pol base (makeEligibilityDecision .remediate { base with
      stageId, round := some (dispatchedRoundsForRev state rev + 1), final := some true
      reason := some ("final coverage-gated remediation (budget exhausted; addresses all comments"
        ++ " before merge)") }))
  | some finalDispatch =>
    match conclusionForDispatch state rev finalDispatch.round with
    | none => awaitEvidence base (some finalDispatch.at_) pol.checksPatienceMs
        "final remediation did not conclude within patience" "final remediation in progress"
    | some conclusion =>
      -- The producer validated the reply's coverage; the fold trusts its outcome.
      if conclusion.outcome = .completed then
        .ok (gate pol base (makeEligibilityDecision .finalizeNow { base with
          reason := some "exhaustion final remediation reached validated full coverage" }))
      else .ok (makeEligibilityDecision .halt { base with
        reason := some ("final remediation could not achieve full coverage (outcome: " ++
          conclusion.outcome.text ++ ")"), stageId })

/-- A subject with settled evidence finalizes, or owes a round while its budget lasts. -/
def settledDecision (pol : EligibilityPolicy) (base : DecisionFields) (state : LedgerState)
    (rev : String) (verdicts : List VerdictRecord) (checks : ChecksRecord) :
    Except String EligibilityDecision :=
  let disposition := aggregateDisposition verdicts
  if !needsRemediation pol state disposition checks then
    .ok (gate pol base (makeEligibilityDecision .finalizeNow { base with
      reason := some "clean verdict, green checks at current revision" }))
  else
    let stageId := activeStageId verdicts
    if !anyStageExhausted state stageId then
      .ok (gate pol base (makeEligibilityDecision .remediate { base with
        stageId, round := some (dispatchedRoundsForRev state rev + 1)
        reason := some (remediationReason disposition checks) }))
    else exhaustedDecision pol base state rev stageId

def revisionDecision (pol : EligibilityPolicy) (base : DecisionFields) (state : LedgerState)
    (rev : String) : Except String EligibilityDecision :=
  let revState := (state.revisions.get? rev).getD {}
  let anchor := revState.revisionAdvancedAt.or base.observedAt
  match conclusiveChecks revState.checks with
  | none => awaitEvidence base anchor pol.checksPatienceMs "checks patience expired"
      (checksWaitReason revState.checks)
  | some checks =>
    let verdicts := latestVerdicts revState
    match aggregateDisposition verdicts with
    | .none => awaitEvidence base anchor pol.verdictPatienceMs
        "verdict patience expired at current revision" "no verdict at current revision"
    | .indeterminate => awaitEvidence base anchor pol.verdictPatienceMs
        "verdict indeterminate past patience" "verdict indeterminate at current revision"
    | _ =>
      let missing := awaitedProducers pol revState
      if missing ≠ [] then
        awaitEvidence base anchor pol.attestationPatienceMs "attestation patience expired"
          ("awaiting attestations from: " ++
            ", ".intercalate (missing.map AttestationProducer.principal))
      else settledDecision pol base state rev verdicts checks

def decisionBase (state : LedgerState) (observedAt : Option String) : DecisionFields :=
  { subjectKey := state.subjectKey
    revisionRef := state.currentRevision.getD ""
    observedAt := observedAt.or state.lastEventAt }

def eligibleUnder (pol : EligibilityPolicy) (state : LedgerState) (observedAt : Option String) :
    Except String EligibilityDecision :=
  let base := decisionBase state observedAt
  match state.terminal with
  | some mark => .ok (terminalDecision base state.currentRevision mark)
  | none =>
    match overrideDecision pol base state with
    | some decision => .ok decision
    | none =>
      if truthy state.currentRevision then
        revisionDecision pol base state (state.currentRevision.getD "")
      else .ok (makeEligibilityDecision .wait { base with
        reason := some "no revision advanced yet" })

/-- The pure eligibility fold, throwing where its policy or a deadline is invalid. -/
def eligible (state : LedgerState) (policy : PolicyInput) (observedAt : Option String) :
    Except String EligibilityDecision :=
  match normalizePolicy policy with
  | .error refusal => .error refusal
  | .ok pol => eligibleUnder pol state observedAt

end

end AdversarialReview
