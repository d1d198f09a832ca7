import AdversarialReview.Ama.Evidence

/-! The gates and waivers of a closure, the authority behind it, and whether its standing findings
are the ones its hammer addressed. -/

namespace AdversarialReview.Ama

structure AmaReaders (Rollup Primary : Type) where
  summarizeChecksConclusion : Rollup → Option String
  operatorLabelGateFailures : Rollup → List String → List String
  /-- Why a primary change is refused, or nothing. -/
  checkPrimaryChange : Option Primary → String → Bool → Option String
  guardRepairReviewCoverage : Option Primary → String → String → Bool
  normalizeCoverageTitle : String → String

/-- The review of a pull request as the watcher keeps it. -/
structure ReviewState where
  verdict : String
  headSha : String
  riskClass : String
  /-- Absent where it is no boolean. -/
  remediationPending : Option Bool
  reviewCycleExhausted : Bool := false
  operatorApprovedEvidence : Option LabelEvidence := none
  blocking : FindingField
  nonBlocking : FindingField
  blockingFindingIdentities : Option (List String) := none
  nonBlockingFindingIdentities : Option (List String) := none
  reviewCurrency : Option ReviewCurrency := none
  reviewBodySha256 : String := ""

/-- The pull request as the forge shows it. -/
structure PrMetadata (Rollup : Type) where
  headSha : String
  isOpen : Bool
  isDraft : Bool
  mergeableState : String
  labels : List String
  statusCheckRollup : Rollup
  requiredContexts : List String
  author : String := ""

structure AmaConfig where
  enabled : Bool
  riskClasses : List String
  fastMergeLabels : List String
  highRiskRequiresTwoKey : Bool := true
  strictNonBlockingRemediation : Bool := true
  branchProtectionRequired : Bool := true
  operatorLogins : List String := []
  operatorLabelActorEnforcement : String := "observe"

structure FastMergeState where
  active : Bool := false
  vetoPresent : Bool := false
  currentHeadAuthorized : Bool := false
  authorizedHeadSha : String := ""

/-- What else a closure is evaluated with. -/
structure AmaOptions (Primary : Type) where
  /-- The context of the gate, where one resolves. -/
  gateContext : Option String
  adversarialMergeRequested : Option LabelEvidence := none
  adversarialMergeBlocked : Option LabelEvidence := none
  fastMergeState : FastMergeState := {}
  hamTerminalRemediation : Option HamEvidence := none
  groundTruth : HamGroundTruth Primary := {}
  rebaseReviewCoverage : Option RebaseCoverage := none
  nonReviewableHeadDelta : Option HeadDelta := none
  closerAuthoredStale : Option CloserAuthoredStale := none
  primaryChange : Option Primary := none
  withdrawals : List Withdrawal := []

/-- Everything that one evaluation reads. -/
structure AmaInput (Rollup Primary : Type) where
  reviewState : ReviewState
  prMetadata : PrMetadata Rollup
  cfg : AmaConfig
  options : AmaOptions Primary

section

variable {Rollup Primary : Type} (readers : AmaReaders Rollup Primary)
variable (input : AmaInput Rollup Primary)

def currentLabelSet (labels : List String) : List String :=
  (labels.map normalizeLogin).filter fun label => label ≠ ""

def hasCurrentLabel (labels : List String) (label : String) : Bool :=
  label ∈ currentLabelSet labels

def actorHonored (cfg : AmaConfig) (actor : String) : Bool :=
  let knownActor := normalizeLogin actor ≠ "" && normalizeLogin actor ≠ "unknown"
  let allowed := knownActor && normalizeLogin actor ∈ cfg.operatorLogins.map normalizeLogin
  knownActor && (allowed || normalizeLogin cfg.operatorLabelActorEnforcement ≠ "enforce")

def hasOperatorApprovedOverride : Bool :=
  input.reviewState.operatorApprovedEvidence.any fun evidence =>
    hasValidScopedOperatorApprovalEvidence evidence input.prMetadata.headSha &&
      hasCurrentLabel input.prMetadata.labels "operator-approved" &&
      actorHonored input.cfg evidence.actor

def hasAdversarialMergeRequestedOverride : Bool :=
  input.options.adversarialMergeRequested.any fun evidence =>
    hasValidScopedOverrideEvidence evidence input.prMetadata.headSha &&
      hasCurrentLabel input.prMetadata.labels "adversarial-merge-requested" &&
      !(normalizeLogin input.prMetadata.author ≠ "" &&
        normalizeLogin evidence.actor = normalizeLogin input.prMetadata.author) &&
      evidence.observedRevisionRef = input.prMetadata.headSha

def reviewedHead : String := input.reviewState.headSha

def currentHead : String := input.prMetadata.headSha

def currencyRefused : Bool :=
  input.reviewState.reviewCurrency.isSome &&
    !reviewCurrencyCovers input.reviewState.reviewCurrency (reviewedHead input) (currentHead input)

def blockingFindings : FindingCount :=
  if currencyRefused input then { known := false, count := 0 }
  else classifyFindings input.reviewState.blocking

def nonBlockingFindings : FindingCount :=
  classifyFindings input.reviewState.nonBlocking

def primaryEvidence : Option Primary :=
  input.options.primaryChange <|> input.options.groundTruth.primaryChange

def hamValidated : Bool :=
  input.options.hamTerminalRemediation.any fun evidence =>
    let truth := input.options.groundTruth
    evidence.active &&
      (jsTrim truth.commitSha ≠ "" && jsTrim truth.commitSha = currentHead input &&
        shaClaimMatches evidence.commitSha (jsTrim truth.commitSha)) &&
      (exactHammerValidation truth.auditComment (currentHead input) &&
        hammerRangeMatches truth.range (reviewedHead input) (currentHead input)) &&
      (readers.checkPrimaryChange truth.primaryChange (currentHead input)
        input.cfg.strictNonBlockingRemediation).isNone

def reviewCarried : Bool :=
  (reviewedHead input ≠ "" && reviewedHead input = currentHead input) ||
    validateRebaseReviewCoverageEvidence input.options.rebaseReviewCoverage (reviewedHead input)
      (currentHead input) ||
    validateNonReviewableHeadDeltaEvidence input.options.nonReviewableHeadDelta
      (reviewedHead input) (currentHead input) ||
    readers.guardRepairReviewCoverage (primaryEvidence input) (reviewedHead input)
      (currentHead input) ||
    closerAuthoredStaleCovers input.options.closerAuthoredStale (reviewedHead input)
      (currentHead input) ||
    rebaseCurrencyCovers input.reviewState.reviewCurrency (reviewedHead input) (currentHead input)

def headMatchOk : Bool :=
  hasOperatorApprovedOverride input || hamValidated readers input || reviewCarried readers input

def hammerAdjudication : HammerAdjudication :=
  resolveHammerAdjudication
    { blockingFindingState :=
        if currencyRefused input then "unknown" else input.reviewState.blocking.state
      blockingFindingCount := input.reviewState.blocking.count
      blockingFindingIdentities := input.reviewState.blockingFindingIdentities
      reviewedHead := reviewedHead input
      currentHead := currentHead input
      reviewCurrency := input.reviewState.reviewCurrency
      reviewBodySha256 := input.reviewState.reviewBodySha256 }
    input.options.withdrawals

def verdict : String := input.reviewState.verdict.toLower

def verdictSettles : Bool :=
  verdict input ∈ ["approved", "comment-only"] ||
    (verdict input = "request-changes" && (hammerAdjudication input).allBlockingWithdrawn)

def standingBlockingFindings : FindingCount :=
  let found := blockingFindings input
  if found.known then
    { known := true, count := max 0 (found.count - (hammerAdjudication input).withdrawnCount) }
  else found

def remediationPending : Bool := input.reviewState.remediationPending = some true

def blockersSettled : Bool :=
  verdictSettles input && !remediationPending input &&
    (standingBlockingFindings input).known && (standingBlockingFindings input).count = 0

def nonBlockingClear : Bool :=
  (nonBlockingFindings input).known && (nonBlockingFindings input).count = 0

def settledSuccess : Bool :=
  blockersSettled input &&
    (!input.cfg.strictNonBlockingRemediation || nonBlockingClear input)

def riskClass : String := input.reviewState.riskClass.toLower

def riskAllowed : Bool :=
  riskClass input ≠ "" && riskClass input ∈ input.cfg.riskClasses.map String.toLower

def riskClassRequiresTwoKey : Bool :=
  riskClass input ∈ ["unknown", ""] ||
    (input.cfg.highRiskRequiresTwoKey && riskClass input ∈ ["high", "critical"])

def riskPermitted : Bool :=
  if riskClassRequiresTwoKey input then
    hasAdversarialMergeRequestedOverride input && hasOperatorApprovedOverride input
  else riskAllowed input

def riskClassFinalHammerWaivable : Bool :=
  (hamValidated readers input && input.reviewState.reviewCycleExhausted) ||
    (hasAdversarialMergeRequestedOverride input && !riskClassRequiresTwoKey input &&
      !(riskClass input ∈ ["high", "critical"] && !riskAllowed input))

def ciGreen : Bool :=
  readers.summarizeChecksConclusion input.prMetadata.statusCheckRollup = some "SUCCESS"

def branchProtectionRequiresGate : Bool :=
  input.options.gateContext.any fun context =>
    context ≠ "" && context.toLower ∈ input.prMetadata.requiredContexts.map String.toLower

def protectionOk : Bool :=
  !input.cfg.branchProtectionRequired || branchProtectionRequiresGate input

def hardStopLabels : List String :=
  ["merge-agent-skip", "do-not-merge", "no-merge-hold", "duplicate-family-hold",
    "adversarial-merge-blocked"]

def blockEvidenceElsewhere : Bool :=
  input.options.adversarialMergeBlocked.any fun evidence =>
    !(evidence.applied && evidence.observedRevisionRef = currentHead input)

def presentHardStopLabels : List String :=
  hardStopLabels.filter fun stop =>
    hasCurrentLabel input.prMetadata.labels stop &&
      !(stop = "adversarial-merge-blocked" && blockEvidenceElsewhere input)

def fastMergeActive : Bool :=
  let labels := currentLabelSet input.prMetadata.labels
  let configured := (input.cfg.fastMergeLabels.map normalizeLogin).filter fun label =>
    label ≠ "fast-merge:docs"
  let state := input.options.fastMergeState
  state.active || configured.any (fun label => label ∈ labels) ||
    ("fast-merge-veto" ∈ labels || state.vetoPresent) ||
    (state.currentHeadAuthorized ||
      (state.authorizedHeadSha ≠ "" && state.authorizedHeadSha = currentHead input))

def gate (passes : Bool) (reason : String) : List String :=
  if passes then [] else [reason]

def labelReason (label : String) : String :=
  if label = "duplicate-family-hold" then "duplicate-family-unresolved" else "label-" ++ label

def mergeabilityReasons : List String :=
  let state := input.prMetadata.mergeableState.toUpper
  gate input.prMetadata.isOpen "pr-not-open" ++ gate (!input.prMetadata.isDraft) "pr-is-draft" ++
    (if state = "UNKNOWN" then ["pr-mergeability-unknown"]
      else gate (state = "MERGEABLE") "pr-not-mergeable")

def remediationReasons : List String :=
  if hasOperatorApprovedOverride input then []
  else
    match input.reviewState.remediationPending with
    | none => ["remediation-state-unknown"]
    | some pending => gate (!pending) "remediation-pending"

def blockingReasons : List String :=
  if hasOperatorApprovedOverride input then []
  else if !(standingBlockingFindings input).known then ["blocking-findings-unknown"]
  else gate (!decide (0 < (standingBlockingFindings input).count)) "blocking-findings-present"

def nonBlockingReasons : List String :=
  if input.cfg.strictNonBlockingRemediation ∧ hasOperatorApprovedOverride input = false ∧
      blockersSettled input = true then
    if !(nonBlockingFindings input).known then ["non-blocking-findings-unknown"]
    else gate (!decide (0 < (nonBlockingFindings input).count)) "non-blocking-findings-present"
  else []

def ciReasons : List String :=
  if ciGreen readers input then []
  else "ci-not-green" ::
    readers.operatorLabelGateFailures input.prMetadata.statusCheckRollup
      input.prMetadata.requiredContexts

/-- Every reason against a closure, before any is waived. -/
def gateReasons : List String :=
  gate input.cfg.enabled "ama-disabled" ++
    mergeabilityReasons input ++
    gate (!currencyRefused input) "review-currency-unproven" ++
    gate (headMatchOk readers input) "stale-review-head" ++
    gate (settledSuccess input || hasOperatorApprovedOverride input)
      "verdict-not-settled-success" ++
    remediationReasons input ++
    blockingReasons input ++
    nonBlockingReasons input ++
    gate (riskPermitted input) "risk-class-not-permitted" ++
    ciReasons readers input ++
    gate (protectionOk input) "branch-protection-missing-gate" ++
    (presentHardStopLabels input).map labelReason ++
    gate (!fastMergeActive input) "fast-merge-state-unsupported"

def identityCoverageOk : Bool :=
  let identities := input.reviewState.nonBlockingFindingIdentities.map fun titles =>
    (titles.map readers.normalizeCoverageTitle).filter fun title => title ≠ ""
  let addressed := (input.options.hamTerminalRemediation.bind HamEvidence.findings).map
    (addressedNonBlockingTitles readers.normalizeCoverageTitle)
  let found := nonBlockingFindings input
  if found.known ∧ found.count = 0 then true
  else
    match identities with
    | none => false
    | some identities =>
      if found.known ∧ (identities.length : Rat) < found.count then false
      else if found.known ∧ identities = [] then false
      else identities.all fun identity => identity ∈ addressed.getD []

def hamWaives (reasons : List String) (reason : String) : Bool :=
  if reason ∈ ["non-blocking-findings-present", "non-blocking-findings-unknown"] then
    identityCoverageOk readers input
  else if reason = "verdict-not-settled-success" then
    -- A verdict that fails for non-blocking findings alone needs them covered.
    if "blocking-findings-present" ∈ reasons ∨ "blocking-findings-unknown" ∈ reasons then true
    else if "non-blocking-findings-present" ∈ reasons ∨
        "non-blocking-findings-unknown" ∈ reasons then
      identityCoverageOk readers input
    else true
  else
    reason ∈ ["stale-review-head", "remediation-pending", "remediation-state-unknown",
      "blocking-findings-present", "blocking-findings-unknown"]

/-- What is waived once the review cycle is exhausted. -/
def finalHammerWaives (reason : String) : Bool :=
  if reason = "risk-class-not-permitted" ∧ riskClassFinalHammerWaivable readers input = true then
    true
  else if reason ∈ ["verdict-not-settled-success", "blocking-findings-present",
      "blocking-findings-unknown", "non-blocking-findings-unknown",
      "non-blocking-findings-present"] then
    hamValidated readers input
  else reason ∈ ["verdict-not-settled-success", "remediation-pending",
    "remediation-state-unknown", "blocking-findings-present", "blocking-findings-unknown"]

def afterHam (reasons : List String) : List String :=
  if hamValidated readers input then
    reasons.filter fun reason => !hamWaives readers input reasons reason
  else reasons

def afterFinalHammer (reasons : List String) : List String :=
  if input.reviewState.reviewCycleExhausted then
    reasons.filter fun reason => !finalHammerWaives readers input reason
  else reasons

def primaryReasons : List String :=
  let active := input.options.hamTerminalRemediation.any HamEvidence.active
  if (primaryEvidence input).isSome || active then
    (readers.checkPrimaryChange (primaryEvidence input) (currentHead input)
      input.cfg.strictNonBlockingRemediation).toList
  else []

def effectiveReasons : List String :=
  afterFinalHammer readers input (afterHam readers input (gateReasons readers input)) ++
    primaryReasons readers input

def isEligibleForAmaClosure : Bool :=
  effectiveReasons readers input = []

end

variable {Rollup Primary : Type} {readers : AmaReaders Rollup Primary}
variable {input : AmaInput Rollup Primary}

/-- The gates that no waiver opens. -/
structure StructurallySound (readers : AmaReaders Rollup Primary)
    (input : AmaInput Rollup Primary) : Prop where
  enabled : input.cfg.enabled = true
  isOpen : input.prMetadata.isOpen = true
  notDraft : input.prMetadata.isDraft = false
  mergeable : input.prMetadata.mergeableState.toUpper = "MERGEABLE"
  green : readers.summarizeChecksConclusion input.prMetadata.statusCheckRollup = some "SUCCESS"
  gated : input.cfg.branchProtectionRequired = true → branchProtectionRequiresGate input = true
  noFastMerge : fastMergeActive input = false
  noHardStop : ∀ label ∈ hardStopLabels, hasCurrentLabel input.prMetadata.labels label = true →
    label = "adversarial-merge-blocked" ∧ blockEvidenceElsewhere input = true
  primary : ∀ evidence, primaryEvidence input = some evidence →
    readers.checkPrimaryChange (some evidence) (currentHead input)
      input.cfg.strictNonBlockingRemediation = none

structure SettledReview (readers : AmaReaders Rollup Primary)
    (input : AmaInput Rollup Primary) : Prop where
  settles : verdictSettles input = true
  notPending : input.reviewState.remediationPending = some false
  noneStanding : standingBlockingFindings input = { known := true, count := 0 }
  carried : reviewCarried readers input = true

structure ClosureAuthorized (readers : AmaReaders Rollup Primary)
    (input : AmaInput Rollup Primary) : Prop where
  sound : StructurallySound readers input
  authority : hasOperatorApprovedOverride input = true ∨ SettledReview readers input ∨
    hamValidated readers input = true

/-- The reasons that some pass may waive. -/
def waivableReasons : List String :=
  ["stale-review-head", "verdict-not-settled-success", "remediation-pending",
    "remediation-state-unknown", "blocking-findings-present", "blocking-findings-unknown",
    "non-blocking-findings-present", "non-blocking-findings-unknown", "risk-class-not-permitted"]

def Unwaivable (reason : String) : Prop := reason ∉ waivableReasons

instance (reason : String) : Decidable (Unwaivable reason) :=
  inferInstanceAs (Decidable (reason ∉ waivableReasons))

section

-- Every proof below unfolds these, so their equations are made before the first one.
attribute [local simp] gateReasons mergeabilityReasons finalHammerWaives hamWaives

end

theorem mem_gate {passes : Bool} {reason found : String} :
    found ∈ gate passes reason ↔ passes = false ∧ found = reason := by
  cases passes <;> simp [gate]

variable {reason : String}

theorem hamWaives_unwaivable {reasons : List String}
    (unwaivable : Unwaivable reason) : hamWaives readers input reasons reason = false := by
  -- None of the names that the pass looks for is this one.
  simp only [Unwaivable, waivableReasons, List.mem_cons, List.not_mem_nil, or_false,
    not_or] at unwaivable
  obtain ⟨stale, verdict, pending, unknown, present, hidden, minor, minorHidden, -⟩ := unwaivable
  simp [hamWaives, stale, verdict, pending, unknown, present, hidden, minor, minorHidden]

theorem finalHammerWaives_unwaivable (unwaivable : Unwaivable reason) :
    finalHammerWaives readers input reason = false := by
  -- None of the names that the pass looks for is this one.
  simp only [Unwaivable, waivableReasons, List.mem_cons, List.not_mem_nil, or_false,
    not_or] at unwaivable
  obtain ⟨-, verdict, pending, unknown, present, hidden, minor, minorHidden, risk⟩ := unwaivable
  simp [finalHammerWaives, verdict, pending, unknown, present, hidden, minor, minorHidden, risk]

section

variable (sound : StructurallySound readers input)

include sound

theorem StructurallySound.clear : presentHardStopLabels input = [] := by
  refine List.filter_eq_nil_iff.mpr ?_
  intro label stop
  cases present : hasCurrentLabel input.prMetadata.labels label with
  | false => simp
  | true =>
    obtain ⟨rfl, elsewhere⟩ := sound.noHardStop label stop present
    simp [elsewhere]

theorem StructurallySound.protection : protectionOk input = true := by
  cases required : input.cfg.branchProtectionRequired with
  | false => simp [protectionOk, required]
  | true => simp [protectionOk, sound.gated required]

theorem StructurallySound.ciGreen : ciGreen readers input = true := by
  simp [Ama.ciGreen, sound.green]

end

theorem eligible_iff : isEligibleForAmaClosure readers input = true ↔
    afterFinalHammer readers input (afterHam readers input (gateReasons readers input)) = [] ∧
      primaryReasons readers input = [] := by
  simp [isEligibleForAmaClosure, effectiveReasons]

theorem waived_of_eligible (eligible : isEligibleForAmaClosure readers input = true)
    (given : reason ∈ gateReasons readers input) :
    (hamValidated readers input = true ∧
      hamWaives readers input (gateReasons readers input) reason = true) ∨
    (input.reviewState.reviewCycleExhausted = true ∧
      finalHammerWaives readers input reason = true) := by
  -- Whatever is given and waived by neither pass would be left at the end.
  have none := (eligible_iff.1 eligible).1
  by_contra kept
  rw [not_or, not_and, not_and] at kept
  -- A reason that neither pass waives is still there after both.
  have first : reason ∈ afterHam readers input (gateReasons readers input) := by
    unfold afterHam
    split
    next validated => exact List.mem_filter.mpr ⟨given, by simpa using kept.1 validated⟩
    · exact given
  have second : reason ∈
      afterFinalHammer readers input (afterHam readers input (gateReasons readers input)) := by
    unfold afterFinalHammer
    split
    next exhausted => exact List.mem_filter.mpr ⟨first, by simpa using kept.2 exhausted⟩
    · exact first
  rw [none] at second
  cases second

theorem not_given (eligible : isEligibleForAmaClosure readers input = true)
    (unwaivable : Unwaivable reason) : reason ∉ gateReasons readers input := by
  -- Neither pass waives it, so it would be left at the end.
  intro given
  rcases waived_of_eligible eligible given with ⟨-, waived⟩ | ⟨-, waived⟩
  · rw [hamWaives_unwaivable unwaivable] at waived
    cases waived
  · rw [finalHammerWaives_unwaivable unwaivable] at waived
    cases waived

section

variable (eligible : isEligibleForAmaClosure readers input = true)

include eligible

theorem passes_of_eligible (passes : Bool) (reason : String) (unwaivable : Unwaivable reason)
    (given : passes = false → reason ∈ gateReasons readers input) : passes = true := by
  -- A gate that does not pass gives its reason.
  cases state : passes with
  | true => rfl
  | false => exact absurd (given state) (not_given eligible unwaivable)

theorem mergeable_of_eligible : input.prMetadata.mergeableState.toUpper = "MERGEABLE" := by
  -- An unknown state and any other state each give a reason.
  have settled : decide (input.prMetadata.mergeableState.toUpper = "UNKNOWN") = false := by
    have passes := passes_of_eligible eligible
      (!decide (input.prMetadata.mergeableState.toUpper = "UNKNOWN")) "pr-mergeability-unknown"
      (by decide) (fun unknown => by simp_all [gateReasons, mergeabilityReasons])
    simpa using passes
  have passes := passes_of_eligible eligible
    (decide (input.prMetadata.mergeableState.toUpper = "MERGEABLE")) "pr-not-mergeable"
    (by decide) (fun other => by simp_all [gateReasons, mergeabilityReasons, mem_gate])
  simpa using passes

theorem noHardStop_of_eligible : ∀ label ∈ hardStopLabels,
    hasCurrentLabel input.prMetadata.labels label = true →
      label = "adversarial-merge-blocked" ∧ blockEvidenceElsewhere input = true := by
  -- A label that stands is listed, and each listed label gives a reason.
  intro label stop present
  by_contra stands
  have hit : label ∈ presentHardStopLabels input := by
    refine List.mem_filter.mpr ⟨stop, ?_⟩
    simpa [present, imp_iff_not_or] using stands
  have named : ∀ label ∈ hardStopLabels, Unwaivable (labelReason label) := by decide
  refine not_given eligible (named label stop) ?_
  simp only [gateReasons, List.mem_append]
  exact .inl (.inr (List.mem_map_of_mem hit))

theorem sound_of_eligible : StructurallySound readers input := by
  -- One gate after the other, each by its own reason.
  refine ⟨?_, ?_, ?_, mergeable_of_eligible eligible, ?_, ?_, ?_,
    noHardStop_of_eligible eligible, ?_⟩
  · exact passes_of_eligible eligible _ "ama-disabled" (by decide)
      (fun closed => by simp [gateReasons, mem_gate, closed])
  · exact passes_of_eligible eligible _ "pr-not-open" (by decide)
      (fun closed => by simp [gateReasons, mergeabilityReasons, mem_gate, closed])
  · have passes := passes_of_eligible eligible (!input.prMetadata.isDraft)
      "pr-is-draft" (by decide)
      (fun draft => by simp_all [gateReasons, mergeabilityReasons, mem_gate])
    simpa using passes
  · have passes := passes_of_eligible eligible (ciGreen readers input)
      "ci-not-green" (by decide) (fun red => by simp [gateReasons, ciReasons, red])
    simpa [ciGreen] using passes
  · intro required
    have passes := passes_of_eligible eligible (protectionOk input)
      "branch-protection-missing-gate" (by decide)
      (fun open_ => by simp [gateReasons, mem_gate, open_])
    simpa [protectionOk, required] using passes
  · have passes := passes_of_eligible eligible (!fastMergeActive input)
      "fast-merge-state-unsupported" (by decide)
      (fun active => by simp_all [gateReasons, mem_gate])
    simpa using passes
  · intro evidence found
    have unrefused := (eligible_iff.1 eligible).2
    simp only [primaryReasons, found, Option.isSome_some, Bool.true_or, if_true] at unrefused
    simpa using unrefused

theorem not_given_unvalidated (unvalidated : hamValidated readers input = false)
    (reason : String) (stays : finalHammerWaives readers input reason = false) :
    reason ∉ gateReasons readers input := by
  intro given
  rcases waived_of_eligible eligible given with ⟨validated, -⟩ | ⟨-, waived⟩
  · rw [unvalidated] at validated
    cases validated
  · rw [stays] at waived
    cases waived

theorem settled_of_eligible (unvalidated : hamValidated readers input = false)
    (unforced : hasOperatorApprovedOverride input = false) :
    settledSuccess input = true ∧ reviewCarried readers input = true := by
  refine ⟨?_, ?_⟩
  · -- An exhausted cycle waives the verdict for a validated hammer only.
    have stays : finalHammerWaives readers input "verdict-not-settled-success" = false := by
      simp [finalHammerWaives, unvalidated]
    have absent := not_given_unvalidated eligible unvalidated _ stays
    by_contra unsettled
    rw [Bool.not_eq_true] at unsettled
    refine absent ?_
    simp [gateReasons, mem_gate, unsettled, unforced]
  · have stays : finalHammerWaives readers input "stale-review-head" = false := by
      simp [finalHammerWaives]
    have absent := not_given_unvalidated eligible unvalidated _ stays
    by_contra stale
    rw [Bool.not_eq_true] at stale
    refine absent ?_
    simp [gateReasons, mem_gate, headMatchOk, stale, unforced, unvalidated]

theorem risk_of_eligible (unvalidated : hamValidated readers input = false) :
    riskPermitted input = true ∨ riskClassFinalHammerWaivable readers input = true := by
  -- Were it neither, its reason would be left.
  by_contra neither
  rw [not_or, Bool.not_eq_true, Bool.not_eq_true] at neither
  refine not_given_unvalidated eligible unvalidated "risk-class-not-permitted" ?_ ?_
  · simp [finalHammerWaives, neither.2]
  · simp [gateReasons, mem_gate, neither.1]

theorem remediation_of_eligible (unvalidated : hamValidated readers input = false)
    (unforced : hasOperatorApprovedOverride input = false) (settled : settledSuccess input = true) :
    input.reviewState.remediationPending = some false ∨
      input.reviewState.remediationPending = none ∧
        input.reviewState.reviewCycleExhausted = true := by
  cases state : input.reviewState.remediationPending with
  | none =>
    -- This is the reason that an exhausted cycle waives for nobody.
    have given : "remediation-state-unknown" ∈ gateReasons readers input := by
      simp [gateReasons, remediationReasons, unforced, state]
    rcases waived_of_eligible eligible given with ⟨validated, -⟩ | ⟨exhausted, -⟩
    · rw [unvalidated] at validated
      cases validated
    · exact .inr ⟨rfl, exhausted⟩
  | some pending =>
    cases pending with
    | false => exact .inl rfl
    | true => simp [settledSuccess, blockersSettled, remediationPending, state] at settled

end

/-- The cases in which a closure is eligible though remediation is not known to be settled. -/
structure RemediationUnproven (readers : AmaReaders Rollup Primary)
    (input : AmaInput Rollup Primary) : Prop where
  exhausted : input.reviewState.reviewCycleExhausted = true
  unknown : input.reviewState.remediationPending = none
  unforced : hasOperatorApprovedOverride input = false
  unvalidated : hamValidated readers input = false
  sound : StructurallySound readers input
  unrefused : primaryReasons readers input = []
  covered : currencyRefused input = false
  carried : reviewCarried readers input = true
  settled : settledSuccess input = true
  risk : riskPermitted input = true ∨ riskClassFinalHammerWaivable readers input = true

theorem noneStanding_of_settled (settled : settledSuccess input = true) :
    verdictSettles input = true ∧
      standingBlockingFindings input = { known := true, count := 0 } := by
  -- These are conjuncts of what settles a review.
  simp only [settledSuccess, blockersSettled, Bool.and_eq_true, decide_eq_true_eq] at settled
  obtain ⟨⟨⟨⟨settles, -⟩, known⟩, zero⟩, -⟩ := settled
  refine ⟨settles, ?_⟩
  cases standing : standingBlockingFindings input with
  | mk isKnown count => simp_all

theorem RemediationUnproven.eligible (unproven : RemediationUnproven readers input) :
    isEligibleForAmaClosure readers input = true := by
  obtain ⟨exhausted, unknown, unforced, unvalidated, sound, unrefused, covered, carried, settled,
    risk⟩ := unproven
  obtain ⟨-, standing⟩ := noneStanding_of_settled settled
  refine eligible_iff.2 ⟨?_, unrefused⟩
  simp only [afterHam, unvalidated, Bool.false_eq_true, if_false, afterFinalHammer, exhausted,
    if_true, List.filter_eq_nil_iff, Bool.not_eq_true, Bool.not_eq_false']
  intro reason given
  have clear := sound.clear
  have protection := sound.protection
  have green := sound.ciGreen
  have matched : headMatchOk readers input = true := by simp [headMatchOk, carried]
  -- In strict mode a settled verdict has no non-blocking finding left either.
  have minor : nonBlockingReasons input = [] := by
    unfold nonBlockingReasons
    split
    next strict =>
      simp only [settledSuccess, strict.1, Bool.not_true, Bool.false_or, nonBlockingClear,
        Bool.and_eq_true, decide_eq_true_eq] at settled
      simp [settled.2.1, settled.2.2, gate]
    · rfl
  -- Every other gate passes, so two reasons are left to look at.
  simp only [gateReasons, List.mem_append, mem_gate, sound.enabled, mergeabilityReasons,
    sound.isOpen, sound.notDraft, sound.mergeable, covered, matched, settled, remediationReasons,
    unforced, unknown, blockingReasons, standing, minor, ciReasons, green, protection, clear,
    sound.noFastMerge] at given
  have own : reason = "remediation-state-unknown" ∨
      riskPermitted input = false ∧ reason = "risk-class-not-permitted" := by
    simpa [gate] using given
  rcases own with rfl | ⟨unpermitted, rfl⟩
  · simp [finalHammerWaives]
  · rcases risk with permitted | waivable
    · rw [permitted] at unpermitted
      cases unpermitted
    · simp [finalHammerWaives, waivable]

def greenReaders : AmaReaders Unit Unit where
  summarizeChecksConclusion _ := some "SUCCESS"
  operatorLabelGateFailures _ _ := []
  checkPrimaryChange _ _ _ := none
  guardRepairReviewCoverage _ _ _ := false
  normalizeCoverageTitle title := title

/-- An approved review of the current head in an exhausted cycle; whether remediation is pending
is not known. -/
def unknownRemediation : AmaInput Unit Unit where
  reviewState :=
    { verdict := "approved"
      headSha := "abc12345"
      riskClass := "low"
      remediationPending := none
      reviewCycleExhausted := true
      blocking := { state := "known", count := some 0 }
      nonBlocking := { state := "known", count := some 0 } }
  prMetadata :=
    { headSha := "abc12345"
      isOpen := true
      isDraft := false
      mergeableState := "MERGEABLE"
      labels := []
      statusCheckRollup := ()
      requiredContexts := ["agent-os/adversarial-gate"] }
  cfg := { enabled := true, riskClasses := ["low"], fastMergeLabels := [] }
  options := { gateContext := some "agent-os/adversarial-gate" }

/-- The review names as many non-blocking findings as it counts, and the hammer has addressed
every one of them by its title. -/
structure NonBlockingCovered (readers : AmaReaders Rollup Primary)
    (input : AmaInput Rollup Primary) (titles : List String) : Prop where
  named : input.reviewState.nonBlockingFindingIdentities = some titles
  enough : (nonBlockingFindings input).count ≤
    (((titles.map readers.normalizeCoverageTitle).filter fun title => title ≠ "").length : Rat)
  addressed : ∀ title ∈ titles, readers.normalizeCoverageTitle title ≠ "" →
    readers.normalizeCoverageTitle title ∈
      ((input.options.hamTerminalRemediation.bind HamEvidence.findings).map
        (addressedNonBlockingTitles readers.normalizeCoverageTitle)).getD []

section

variable (known : (nonBlockingFindings input).known = true)
variable (standing : 0 < (nonBlockingFindings input).count)

include known standing

theorem identityCoverage_iff : identityCoverageOk readers input = true ↔
    ∃ titles, NonBlockingCovered readers input titles := by
  have some_stand : (nonBlockingFindings input).count ≠ 0 := by
    intro zero
    rw [zero] at standing
    exact absurd standing (by decide)
  constructor
  · intro covers
    cases named : input.reviewState.nonBlockingFindingIdentities with
    | none => simp [identityCoverageOk, known, some_stand, named] at covers
    | some titles =>
      refine ⟨titles, named, ?_, ?_⟩
      · -- A list that is too short would have failed the test.
        by_contra short
        rw [not_le] at short
        simp only [identityCoverageOk, known, some_stand, named, Option.map_some] at covers
        rw [if_neg (by simp), if_pos ⟨trivial, short⟩] at covers
        cases covers
      · intro title given titled
        simp only [identityCoverageOk, known, some_stand, named, Option.map_some] at covers
        rw [if_neg (by simp)] at covers
        split at covers
        · cases covers
        · split at covers
          · cases covers
          · have member : readers.normalizeCoverageTitle title ∈
                (titles.map readers.normalizeCoverageTitle).filter fun title => title ≠ "" :=
              List.mem_filter.mpr ⟨List.mem_map_of_mem given, by simpa using titled⟩
            simpa using List.all_eq_true.mp covers _ member
  · rintro ⟨titles, named, enough, addressed⟩
    simp only [identityCoverageOk, known, some_stand, named, Option.map_some]
    rw [if_neg (by simp), if_neg (fun short => absurd short.2 (not_lt.mpr enough))]
    split
    next empty =>
      -- More than none stand, so the list that counts them is not empty.
      rw [empty.2] at enough
      exact absurd (lt_of_lt_of_le standing enough) (by simp)
    · refine List.all_eq_true.mpr ?_
      intro title given
      obtain ⟨mapped, titled⟩ := List.mem_filter.mp given
      obtain ⟨raw, listed, rfl⟩ := List.mem_map.mp mapped
      simpa using addressed raw listed (by simpa using titled)

theorem nonBlocking_given (strict : input.cfg.strictNonBlockingRemediation = true)
    (unforced : hasOperatorApprovedOverride input = false)
    (settled : blockersSettled input = true) :
    "non-blocking-findings-present" ∈ gateReasons readers input := by
  have given : "non-blocking-findings-present" ∈ nonBlockingReasons input := by
    simp [nonBlockingReasons, strict, unforced, settled, known, standing, gate]
  simp [gateReasons, given]

end

/-- The closures that a validated hammer gets past findings it has not addressed: the blockers
are not settled, so that the findings are no reason of their own, and the hammer waives the rest. -/
structure CoverageSkipped (readers : AmaReaders Rollup Primary)
    (input : AmaInput Rollup Primary) : Prop where
  validated : hamValidated readers input = true
  unsettled : blockersSettled input = false
  uncovered : identityCoverageOk readers input = false
  sound : StructurallySound readers input
  unrefused : primaryReasons readers input = []
  current : currencyRefused input = false
  risk : riskPermitted input = true

theorem hamWaived_of_eligible (eligible : isEligibleForAmaClosure readers input = true)
    (unexhausted : input.reviewState.reviewCycleExhausted = false) {reason : String}
    (given : reason ∈ gateReasons readers input) :
    hamValidated readers input = true ∧
      hamWaives readers input (gateReasons readers input) reason = true := by
  rcases waived_of_eligible eligible given with waived | ⟨exhausted, -⟩
  · exact waived
  · rw [unexhausted] at exhausted
    cases exhausted

theorem CoverageSkipped.eligible (skipped : CoverageSkipped readers input)
    (unexhausted : input.reviewState.reviewCycleExhausted = false) :
    isEligibleForAmaClosure readers input = true := by
  obtain ⟨validated, unsettled, -, sound, unrefused, current, risk⟩ := skipped
  have unraised : nonBlockingReasons input = [] := by
    simp [nonBlockingReasons, unsettled]
  have matched : headMatchOk readers input = true := by simp [headMatchOk, validated]
  have remediation : ∀ reason ∈ remediationReasons input,
      reason = "remediation-state-unknown" ∨ reason = "remediation-pending" := by
    intro reason raised
    unfold remediationReasons at raised
    split at raised
    · cases raised
    · split at raised
      · exact .inl (by simpa using raised)
      · exact .inr (mem_gate.1 raised).2
  have blocking : ∀ reason ∈ blockingReasons input,
      reason = "blocking-findings-unknown" ∨ reason = "blocking-findings-present" := by
    intro reason raised
    unfold blockingReasons at raised
    split at raised
    · cases raised
    · split at raised
      · exact .inl (by simpa using raised)
      · exact .inr (mem_gate.1 raised).2
  -- Only the verdict, the remediation and the blocking findings are left to be reasons.
  have own : ∀ reason ∈ gateReasons readers input,
      reason = "verdict-not-settled-success" ∨ reason ∈ remediationReasons input ∨
        reason ∈ blockingReasons input := by
    intro reason given
    simp only [gateReasons, List.mem_append, mem_gate, sound.enabled, mergeabilityReasons,
      sound.isOpen, sound.notDraft, sound.mergeable, current, matched, unraised, ciReasons,
      sound.ciGreen, sound.protection, sound.clear, sound.noFastMerge, risk] at given
    simp [gate] at given
    rcases given with (⟨-, verdict⟩ | pending) | raised
    · exact .inl verdict
    · exact .inr (.inl pending)
    · exact .inr (.inr raised)
  have absent : ∀ reason ∈ ["non-blocking-findings-present", "non-blocking-findings-unknown"],
      reason ∉ gateReasons readers input := by
    intro reason named given
    have named : reason = "non-blocking-findings-present" ∨
        reason = "non-blocking-findings-unknown" := by simpa using named
    rcases own reason given with rfl | raised | raised
    · simp at named
    · rcases remediation reason raised with rfl | rfl <;> simp at named
    · rcases blocking reason raised with rfl | rfl <;> simp at named
  refine eligible_iff.2 ⟨?_, unrefused⟩
  simp only [afterHam, validated, if_true, afterFinalHammer, unexhausted, Bool.false_eq_true,
    if_false, List.filter_eq_nil_iff, Bool.not_eq_true, Bool.not_eq_false']
  intro reason given
  rcases own reason given with rfl | raised | raised
  · -- Neither kind of non-blocking reason is there, so the verdict is waived outright.
    have present := absent "non-blocking-findings-present" (by simp)
    have unknown := absent "non-blocking-findings-unknown" (by simp)
    simp [hamWaives, present, unknown]
  · rcases remediation reason raised with rfl | rfl <;> simp [hamWaives]
  · rcases blocking reason raised with rfl | rfl <;> simp [hamWaives]

/-- An eligible closure in strict mode has its standing non-blocking findings covered by
identity, unless a hammer has closed it over blockers that were not settled. -/
theorem nonBlocking_covered_iff (readers : AmaReaders Rollup Primary)
    (input : AmaInput Rollup Primary) (strict : input.cfg.strictNonBlockingRemediation = true)
    (unforced : hasOperatorApprovedOverride input = false)
    (unexhausted : input.reviewState.reviewCycleExhausted = false)
    (known : (nonBlockingFindings input).known = true)
    (standing : 0 < (nonBlockingFindings input).count) :
    (isEligibleForAmaClosure readers input = true →
      ∃ titles, NonBlockingCovered readers input titles) ↔ ¬ CoverageSkipped readers input := by
  rw [← identityCoverage_iff known standing]
  constructor
  · intro covered skipped
    have covers := covered (skipped.eligible unexhausted)
    rw [skipped.uncovered] at covers
    cases covers
  · intro kept eligible
    by_contra uncovered
    rw [Bool.not_eq_true] at uncovered
    refine kept ⟨?_, ?_, uncovered, sound_of_eligible eligible, (eligible_iff.1 eligible).2,
      ?_, ?_⟩
    · -- Without a hammer the verdict would have to be settled, with no finding standing.
      by_contra unvalidated
      rw [Bool.not_eq_true] at unvalidated
      obtain ⟨settled, -⟩ := settled_of_eligible eligible unvalidated unforced
      simp only [settledSuccess, strict, Bool.not_true, Bool.false_or, nonBlockingClear,
        Bool.and_eq_true, decide_eq_true_eq] at settled
      rw [settled.2.2] at standing
      exact absurd standing (by decide)
    · -- With the blockers settled the findings are a reason, which only coverage waives.
      by_contra settled
      rw [Bool.not_eq_false] at settled
      have waived := (hamWaived_of_eligible eligible unexhausted
        (nonBlocking_given known standing strict unforced settled)).2
      simp [hamWaives, uncovered] at waived
    · have passes := passes_of_eligible eligible (!currencyRefused input)
        "review-currency-unproven" (by decide)
        (fun refused => by simp_all [gateReasons, mem_gate])
      simpa using passes
    · by_contra refused
      rw [Bool.not_eq_true] at refused
      have given : "risk-class-not-permitted" ∈ gateReasons readers input := by
        simp [gateReasons, mem_gate, refused]
      have waived := (hamWaived_of_eligible eligible unexhausted given).2
      simp [hamWaives] at waived

/-- A validated hammer on a review that asks for changes: one blocking finding and a non-blocking
one, which the hammer does not mention. -/
def unmentionedFinding : AmaInput Unit Unit :=
  { unknownRemediation with
    reviewState :=
      { verdict := "request-changes"
        headSha := "abc12345"
        riskClass := "low"
        remediationPending := some false
        blocking := { state := "known", count := some 1 }
        nonBlocking := { state := "known", count := some 1 }
        nonBlockingFindingIdentities := some ["rename the flag"] }
    prMetadata := { unknownRemediation.prMetadata with headSha := "def67890" }
    options :=
      { gateContext := some "agent-os/adversarial-gate"
        hamTerminalRemediation :=
          some
            { active := true
              commitSha := "def67890"
              findings := some [{ title := "lock the row", addressed := true, blocking := true }] }
        groundTruth :=
          { commitSha := "def67890"
            primaryChange := some ()
            auditComment :=
              some { author := "hammer-worker", body := "HAM-Validated-Head: def67890" }
            range :=
              some
                { verified := true, reviewedHead := "abc12345", currentHead := "def67890"
                  baseSha := "b0", commits := some ["def67890"] } } } }

theorem unmentioned_finding_closes :
    ¬ (isEligibleForAmaClosure greenReaders unmentionedFinding = true →
      ∃ titles, NonBlockingCovered greenReaders unmentionedFinding titles) := by
  intro covered
  have eligible : isEligibleForAmaClosure greenReaders unmentionedFinding = true := by
    decide +kernel
  have uncovered : identityCoverageOk greenReaders unmentionedFinding = false := by
    decide +kernel
  have covers :=
    (identityCoverage_iff (by decide +kernel) (by decide +kernel)).mpr (covered eligible)
  rw [uncovered] at covers
  cases covers

theorem unmentioned_finding_covered_iff :
    (isEligibleForAmaClosure greenReaders unmentionedFinding = true →
      ∃ titles, NonBlockingCovered greenReaders unmentionedFinding titles) ↔
      ¬ CoverageSkipped greenReaders unmentionedFinding :=
  nonBlocking_covered_iff greenReaders unmentionedFinding rfl (by decide) rfl
    (by decide +kernel) (by decide +kernel)

end AdversarialReview.Ama
