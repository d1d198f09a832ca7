import AdversarialReview.Pipeline.Domain

/-! Driving a pipeline through one review pass, planning the next from what it leaves, and reading
the active stage and the latest verdict off the record. -/

namespace AdversarialReview.Pipeline

structure PinnedVerdict extends Verdict where
  stageId : Option String := none
  revisionRef : Option String := none
  body : Option String := none

structure StageState where
  stageId : String
  stageIndex : Option Nat := none
  panelVerdicts : List PinnedVerdict := []

def normalizeRiskClass (value : Option String) : String :=
  let normalized := (jsTrim (value.getD "")).toLower
  if normalized ∈ riskClasses then normalized else "medium"

def resolveStageRoundBudget (stage : Stage) (riskClass : Option String) : Nat :=
  let risk := normalizeRiskClass riskClass
  match stage.roundBudgetByRisk.lookup risk with
  | some declared => if 0 < declared then declared else defaultRoundBudget risk
  | none => defaultRoundBudget risk

def defaultRemediationCeilingCap : Nat :=
  2 * (riskClasses.map defaultRoundBudget).foldl max 0

/-- What the remediation rounds of a subject are bounded by. -/
structure RemediationBudgetPlan where
  riskClass : String
  perStage : List (String × Nat)
  ceiling : Nat
  ceilingSource : String

def resolveRemediationBudgetPlan (pipeline : List Stage) (riskClass : Option String)
    (override : Option Nat) : RemediationBudgetPlan :=
  let perStage := pipeline.map fun stage => (stage.id, resolveStageRoundBudget stage riskClass)
  let sum := (perStage.map Prod.snd).sum
  let maxSingleStage := (perStage.map Prod.snd).foldl max 0
  match override.filter (0 < ·) with
  | some ceiling =>
    { riskClass := normalizeRiskClass riskClass, perStage, ceiling, ceilingSource := "override" }
  | none =>
    { riskClass := normalizeRiskClass riskClass
      perStage
      ceiling := max (min sum defaultRemediationCeilingCap) maxSingleStage
      ceilingSource := "sum-capped" }

def stageVerdictAppliesToRevision (revisionRef : String) (verdict : PinnedVerdict) : Bool :=
  let current := jsTrim revisionRef
  let pinned := jsTrim (verdict.revisionRef.getD "")
  current ≠ "" && pinned ≠ "" && pinned = current

def stageVerdictsForRevision (verdicts : List PinnedVerdict) (revisionRef : String) :
    List PinnedVerdict :=
  verdicts.filter (stageVerdictAppliesToRevision revisionRef)

def aggregateAtRevision [JsJson] (stage : Stage) (verdicts : List PinnedVerdict)
    (revisionRef : String) : Except String StageAggregate :=
  aggregateStageVerdict stage
    ((stageVerdictsForRevision verdicts revisionRef).map PinnedVerdict.toVerdict)

def toStageStateMap (stageStates : List (Option StageState)) : String → Option StageState :=
  fun stageId => (stageStates.reduceOption.reverse).find? fun state => state.stageId = stageId

def verdictsOf (stateById : String → Option StageState) (stageId : String) : List PinnedVerdict :=
  (stateById stageId).elim [] StageState.panelVerdicts

/-- What a review of one seat is asked with. -/
structure ReviewCall where
  stageId : String
  stageIndex : Nat
  roleId : Option String
  model : Option String
  revisionRef : String
  round : Nat
  roundBudget : Nat

structure RollupRow where
  stageId : String
  roleId : Option String
  verdict : Option ReviewVerdictKind
  round : Option Nat
  roundBudget : Nat

/-- What one pass is given besides its pipeline and states. A review may answer by everything
that was asked before it, with a verdict, with nothing, or by failing. -/
structure DriverContext where
  revisionRef : String
  riskClass : Option String
  stampAt : String
  runStageReview : List ReviewCall → ReviewCall → Except String (Option PinnedVerdict)

/-- What a pass has come to so far. -/
structure DriverState where
  stateById : String → Option StageState
  calls : List ReviewCall := []
  gateOpen : Bool := true
  disposition : PipelineDisposition := .clean
  blockingStageId : Option String := none
  pendingStageId : Option String := none
  blockingFindingsCount : Nat := 0
  rows : List RollupRow := []
  ranStageIds : List String := []
  carriedForwardStageIds : List String := []
  notRunStageIds : List String := []

def primaryRoleId (stage : Stage) : Option String :=
  stage.panel.head?.map PanelRole.id

def newestVerdict (verdicts : List Verdict) : Option Verdict :=
  verdicts.foldl (fun prev verdict => some (laterVerdict prev verdict)) none

def countBlockingFindings (verdicts : List Verdict) : Nat :=
  let blocking := verdicts.filter fun verdict => classifyVerdictDisposition verdict = .blocking
  let structured := (blocking.map fun verdict => (verdict.blockingFindings.getD []).length).sum
  if 0 < structured then structured else blocking.length

def stampVerdict (verdict : PinnedVerdict) (stageId : String) (roleId : Option String)
    (revisionRef observedAt : String) : PinnedVerdict :=
  { verdict with
    stageId := some stageId
    reviewerRoleId := verdict.reviewerRoleId <|> roleId
    revisionRef := some (verdict.revisionRef.getD revisionRef)
    observedAt := some (verdict.observedAt.getD observedAt) }

def roundsOf (verdicts : List PinnedVerdict) (primary roleId : Option String)
    (revisionRef : String) : Nat :=
  (verdicts.filter fun verdict =>
    (verdict.reviewerRoleId <|> primary) = roleId &&
      verdict.revisionRef = some revisionRef).length

def seatsOf (stage : Stage) : List (Option PanelRole) :=
  if stage.panel = [] then [none] else stage.panel.map some

def runSeats (ctx : DriverContext) (stage : Stage) (stageIndex : Nat) :
    List (Option PanelRole) → List PinnedVerdict → List ReviewCall →
      Except String (List PinnedVerdict × List ReviewCall)
  | [], verdicts, calls => .ok (verdicts, calls)
  | seat :: rest, verdicts, calls => do
    let roleId := primaryRoleId stage
    let seatRoleId := seat.map PanelRole.id <|> roleId
    let call : ReviewCall :=
      { stageId := stage.id
        stageIndex
        roleId := seatRoleId
        model := seat.bind PanelRole.model
        revisionRef := ctx.revisionRef
        round := roundsOf verdicts roleId seatRoleId ctx.revisionRef + 1
        roundBudget := resolveStageRoundBudget stage ctx.riskClass }
    let produced ← ctx.runStageReview calls call
    let kept := produced.elim verdicts fun verdict =>
      verdicts ++ [stampVerdict verdict stage.id seatRoleId ctx.revisionRef ctx.stampAt]
    runSeats ctx stage stageIndex rest kept (calls ++ [call])

def closeGate (s : DriverState) (stageId : String) (decision : PipelineDisposition)
    (current : List Verdict) : DriverState :=
  if decision = .blocking then
    { s with
      gateOpen := false
      disposition := .blocking
      blockingStageId := some stageId
      blockingFindingsCount := countBlockingFindings current }
  else if decision ≠ .clean then
    -- No verdict yet: the gate is withheld, and nothing is routed to remediation.
    { s with
      gateOpen := false
      disposition := if s.disposition = .blocking then s.disposition else .pending
      pendingStageId := s.pendingStageId <|> some stageId }
  else s

section

variable [JsJson] (ctx : DriverContext)

def carryForward (stage : Stage) (current : List Verdict) (s : DriverState) : DriverState :=
  let newest := newestVerdict current
  { s with
    carriedForwardStageIds := s.carriedForwardStageIds ++ [stage.id]
    rows := s.rows ++
      [{ stageId := stage.id
         roleId := newest.bind Verdict.reviewerRoleId <|> primaryRoleId stage
         verdict := newest.map Verdict.kind
         round := some current.length
         roundBudget := resolveStageRoundBudget stage ctx.riskClass }] }

def reviewStage (stageIndex : Nat) (stage : Stage) (verdicts : List PinnedVerdict)
    (s : DriverState) : Except String DriverState := do
  let (kept, calls) ← runSeats ctx stage stageIndex (seatsOf stage) verdicts s.calls
  let aggregatedAfter ← aggregateAtRevision stage kept ctx.revisionRef
  let current := (stageVerdictsForRevision kept ctx.revisionRef).map PinnedVerdict.toVerdict
  let newest := newestVerdict current
  let roleId := primaryRoleId stage
  let row : RollupRow :=
    { stageId := stage.id
      roleId := newest.bind Verdict.reviewerRoleId <|> roleId
      verdict := some (newest.elim .unknown Verdict.kind)
      round := some (roundsOf kept roleId roleId ctx.revisionRef)
      roundBudget := resolveStageRoundBudget stage ctx.riskClass }
  return closeGate
    { s with
      stateById := Function.update s.stateById stage.id
        (some { stageId := stage.id, stageIndex := some stageIndex, panelVerdicts := kept })
      calls
      rows := s.rows ++ [row]
      ranStageIds := s.ranStageIds ++ [stage.id] }
    stage.id aggregatedAfter.decision current

/-- One turn of the pass. -/
def driveStage (stageIndex : Nat) (stage : Stage) (s : DriverState) :
    Except String DriverState := do
  let verdicts := verdictsOf s.stateById stage.id
  let placed : DriverState :=
    { s with
      stateById := Function.update s.stateById stage.id
        (some { stageId := stage.id, stageIndex := some stageIndex, panelVerdicts := verdicts }) }
  if s.gateOpen then
    let aggregatedBefore ← aggregateAtRevision stage verdicts ctx.revisionRef
    if aggregatedBefore.decision = .clean then
      let current :=
        (stageVerdictsForRevision verdicts ctx.revisionRef).map PinnedVerdict.toVerdict
      return carryForward ctx stage current placed
    else reviewStage ctx stageIndex stage verdicts placed
  else
    return { placed with
      notRunStageIds := s.notRunStageIds ++ [stage.id]
      rows := s.rows ++
        [{ stageId := stage.id
           roleId := primaryRoleId stage
           verdict := none
           round := none
           roundBudget := resolveStageRoundBudget stage ctx.riskClass }] }

def driveStages (stageIndex : Nat) : List Stage → DriverState → Except String DriverState
  | [], s => .ok s
  | stage :: rest, s => do
    let next ← driveStage ctx stageIndex stage s
    driveStages (stageIndex + 1) rest next

def dropOldBodies : List PinnedVerdict → List PinnedVerdict
  | [] => []
  | verdict :: rest =>
    let superseded := rest.any fun later =>
      later.reviewerRoleId.getD "" = verdict.reviewerRoleId.getD ""
    (if superseded then { verdict with body := none } else verdict) :: dropOldBodies rest

/-- What a pass returns. -/
structure PipelineRun where
  disposition : PipelineDisposition
  complete : Bool
  blockingStageId : Option String
  pendingStageId : Option String
  blockingFindingsCount : Nat
  rows : List RollupRow
  ranStageIds : List String
  carriedForwardStageIds : List String
  notRunStageIds : List String
  stageStates : List (Option StageState)
  budget : RemediationBudgetPlan
  /-- The reviews that the pass has asked for. -/
  calls : List ReviewCall

def updatedStageStates (pipeline : List Stage) (stateById : String → Option StageState) :
    List (Option StageState) :=
  pipeline.zipIdx.map fun (stage, stageIndex) =>
    some
      { stageId := stage.id
        stageIndex := some stageIndex
        panelVerdicts := dropOldBodies (verdictsOf stateById stage.id) }

/-- What a pass is asked for. -/
structure DriverRequest where
  pipeline : List Stage
  stageStates : List (Option StageState)
  currentRevisionRef : Option String
  riskClass : Option String
  budgetOverride : Option Nat
  observedAt : String
  runStageReview : List ReviewCall → ReviewCall → Except String (Option PinnedVerdict)

def runReviewPipeline (request : DriverRequest) : Except String PipelineRun := do
  if request.pipeline = [] then
    .error "runReviewPipeline requires a resolved, non-empty pipeline"
  else
    let revisionRef := jsTrim (request.currentRevisionRef.getD "")
    if revisionRef = "" then
      .error "runReviewPipeline requires a currentRevisionRef to pin verdicts to"
    else
      let driven ← driveStages
        { revisionRef
          riskClass := request.riskClass
          stampAt := request.observedAt
          runStageReview := request.runStageReview }
        0 request.pipeline { stateById := toStageStateMap request.stageStates }
      return {
        disposition := driven.disposition
        complete := driven.disposition = .clean
        blockingStageId := driven.blockingStageId
        pendingStageId := driven.pendingStageId
        blockingFindingsCount := driven.blockingFindingsCount
        rows := driven.rows
        ranStageIds := driven.ranStageIds
        carriedForwardStageIds := driven.carriedForwardStageIds
        notRunStageIds := driven.notRunStageIds
        stageStates := updatedStageStates request.pipeline driven.stateById
        budget := resolveRemediationBudgetPlan request.pipeline request.riskClass
          request.budgetOverride
        calls := driven.calls }

end

structure PlannedDecision extends StageAggregate where
  stageIndex : Nat
  hadPriorVerdicts : Bool

structure ReReviewPlan where
  riskClass : String
  currentRevisionRef : Option String
  decisions : List PlannedDecision
  complete : Bool
  activeStageIndex : Option Nat
  activeStageId : Option String
  stagesToRun : List String
  invalidatedStageIds : List String
  budget : RemediationBudgetPlan

section

variable [JsJson] (stateById : String → Option StageState) (revisionRef : String)

def planStage (entry : Stage × Nat) : Except String PlannedDecision := do
  let aggregated ← aggregateAtRevision entry.1 (verdictsOf stateById entry.1.id) revisionRef
  return { toStageAggregate := aggregated
           stageIndex := entry.2
           hadPriorVerdicts := decide (0 < (verdictsOf stateById entry.1.id).length) }

def planStages : List (Stage × Nat) → Except String (List PlannedDecision)
  | [] => .ok []
  | entry :: rest => do
    let decision ← planStage stateById revisionRef entry
    let others ← planStages rest
    return decision :: others

def planPipelineReReview (pipeline : List Stage) (stageStates : List (Option StageState))
    (currentRevisionRef : Option String) (riskClass : Option String)
    (budgetOverride : Option Nat) : Except String ReReviewPlan := do
  if pipeline = [] then .error "planPipelineReReview requires a non-empty pipeline"
  else
    let revisionRef := currentRevisionRef.getD ""
    let decisions ← planStages (toStageStateMap stageStates) revisionRef pipeline.zipIdx
    let activeIndex := decisions.findIdx? fun decision => decision.decision ≠ .clean
    let toRun := activeIndex.elim [] decisions.drop
    return {
      riskClass := normalizeRiskClass riskClass
      currentRevisionRef := if revisionRef = "" then none else some revisionRef
      decisions
      complete := activeIndex.isNone
      activeStageIndex := activeIndex
      activeStageId := toRun.head?.map fun decision => decision.stageId
      stagesToRun := toRun.map fun decision => decision.stageId
      invalidatedStageIds :=
        (toRun.drop 1).filterMap fun decision =>
          if decision.hadPriorVerdicts then some decision.stageId else none
      budget := resolveRemediationBudgetPlan pipeline riskClass budgetOverride }

end

/-- What is recorded of a subject under review. -/
structure SubjectState where
  pipeline : List (Option StageState)
  revisionRef : Option String
  latestVerdict : Option PinnedVerdict := none

def newerPinned (best : Option PinnedVerdict) (verdict : PinnedVerdict) : Option PinnedVerdict :=
  if best.all fun best => Utf16.upTo (verdictSortKey best.toVerdict)
      (verdictSortKey verdict.toVerdict) then some verdict
  else best

def newestPinned (verdicts : List PinnedVerdict) : Option PinnedVerdict :=
  verdicts.foldl newerPinned none

def resolveActiveStage (subject : SubjectState) : Option StageState :=
  subject.pipeline.reduceOption.foldl (fun active state =>
    if (stageVerdictsForRevision state.panelVerdicts (subject.revisionRef.getD "")).isEmpty then
      active
    else if active.all fun active => active.stageIndex.getD 0 ≤ state.stageIndex.getD 0 then
      some state
    else active) none

def resolveLatestVerdict (subject : SubjectState) : Option PinnedVerdict :=
  let newest := (resolveActiveStage subject).bind fun active =>
    newestPinned
      (stageVerdictsForRevision active.panelVerdicts (subject.revisionRef.getD ""))
  match newest with
  | some verdict => some verdict
  | none =>
    let hasPipelineHistory := subject.pipeline.reduceOption.any fun state =>
      !state.panelVerdicts.isEmpty
    if hasPipelineHistory then none else subject.latestVerdict

end AdversarialReview.Pipeline
