import AdversarialReview.Library.JsNumber
import AdversarialReview.Library.Utf16

/-! A domain's pipeline block compiled into stages, and a panel's verdicts folded into one. -/

namespace AdversarialReview.Pipeline

def riskClasses : List String := ["low", "medium", "high", "critical"]

def defaultRoundBudget (risk : String) : Nat :=
  if risk = "low" then 1 else 2

def aggregationPolicyKinds : List String :=
  ["unanimous-clean", "any-blocking-blocks", "quorum", "weighted"]

def property (value : Option Json) (key : String) : Option Json :=
  match value with
  | some (.arr items) =>
    if key = "length" then some (.num items.length)
    else (items.zipIdx.find? fun item => toString item.2 = key).map Prod.fst
  | some (.str text) =>
    if key = "length" then some (.num (Utf16.codes text).length) else none
  | some other => other.get? key
  | none => none

def positiveInt? (value : Option Json) : Option Nat :=
  (Json.finite value).bind fun number =>
    if number.den = 1 ∧ 0 < number.num then some number.num.toNat else none

structure PanelRole where
  id : String
  model : Option String

/-- A compiled stage; its policy is carried along as it was written. -/
structure Stage where
  id : String
  panel : List PanelRole
  aggregation : Json
  roundBudgetByRisk : List (String × Nat)

structure DomainPipeline where
  enabled : Bool
  domainId : String
  stages : List (Stage × List (String × Json))

/-- Where a message comes from. -/
structure StageContext where
  stageId : String
  domainId : String

def StageContext.message (ctx : StageContext) (text : String) : String :=
  s!"[domain-pipeline] domain \"{ctx.domainId}\" stage \"{ctx.stageId}\" " ++ text

def domainMessage (domainId text : String) : String :=
  s!"[domain-pipeline] domain \"{domainId}\" " ++ text

section

variable [JsText] [JsJson]

def str (value : Option Json) : Except String String := do
  return jsTrim (← Json.nullishText value)

def isPipelineEnabled (domainConfig : Option Json) : Bool :=
  Json.isBool (property (property domainConfig "pipeline") "enabled") true

def domainRoundBudgetByRisk (domainConfig : Option Json) : List (String × Nat) :=
  riskClasses.map fun risk =>
    let declared := property (property (property domainConfig "riskClasses") risk)
      "maxRemediationRounds"
    (risk, (positiveInt? declared).getD (defaultRoundBudget risk))

def normalizeStageBudget (rawBudget : Option Json) (fallback : List (String × Nat))
    (ctx : StageContext) : Except String (List (String × Nat)) :=
  match rawBudget with
  | none | some .null => .ok fallback
  | some (.obj members) =>
    .ok (fallback.map fun (risk, budget) =>
      (risk, (positiveInt? ((Json.obj members).get? risk)).getD budget))
  | some _ => .error (ctx.message "roundBudgetByRisk must be an object")

def defaultAggregation : Json := .obj [("kind", .str "unanimous-clean")]

def normalizeAggregation (rawAggregation : Option Json) (ctx : StageContext) :
    Except String Json :=
  match rawAggregation with
  | none | some .null => .ok defaultAggregation
  | some (.obj members) => do
    let raw := Json.obj members
    let kind ← str (raw.get? "kind")
    if kind ∈ aggregationPolicyKinds then
      -- The quorum, the weights and the threshold go through as they are written.
      .ok (raw.set "kind" (.str kind))
    else
      .error (ctx.message
        ("aggregation.kind must be one of: " ++ ", ".intercalate aggregationPolicyKinds ++
          "; got " ++
          JsJson.stringify ((Json.orElse (raw.get? "kind") none).getD .null)))
  | some _ => .error (ctx.message "aggregation must be an object")

def seatRoleId (entry : Json) : Except String String :=
  match entry with
  | .str text => str (some (.str text))
  | other =>
    str (Json.orElse (property (some other) "roleId") (property (some other) "id"))

def seatModel (role : Json) : Except String (Option String) := do
  let workerClass ← str (property (some role) "workerClass")
  if workerClass ≠ "" then return some workerClass
  else
    let persona ← str (property (some role) "persona")
    return if persona ≠ "" then some persona else none

def seatRole (roles : Json) (ctx : StageContext) (roleId : String) : Except String Json :=
  match property (some roles) roleId with
  | none =>
    .error (ctx.message
      (s!"panel role \"{roleId}\" is not defined in the role registry (roles.registry)"))
  | some role =>
    if !Json.truthy (some role) then
      .error (ctx.message
        (s!"panel role \"{roleId}\" is not defined in the role registry (roles.registry)"))
    else if !Json.isText (property (some role) "taskKind") "review" then
      .error (ctx.message (s!"panel role \"{roleId}\" has " ++
        "taskKind=" ++ Json.jsonText (property (some role) "taskKind") ++ "; " ++
        "a pipeline panel seat must be a review role"))
    else .ok role

def normalizeSeats (roles : Json) (ctx : StageContext) (seen : List String) :
    List Json → Except String (List (PanelRole × Json))
  | [] => .ok []
  | entry :: rest => do
    let roleId ← seatRoleId entry
    if roleId = "" then .error (ctx.message "has a panel seat with no role id")
    else if roleId ∈ seen then .error (ctx.message s!"repeats panel role \"{roleId}\"")
    else
      let role ← seatRole roles ctx roleId
      let model ← seatModel role
      let others ← normalizeSeats roles ctx (roleId :: seen) rest
      return ({ id := roleId, model }, role) :: others

def normalizePanel (rawPanel : Option Json) (roles : Json) (ctx : StageContext) :
    Except String (List (PanelRole × Json)) :=
  match rawPanel with
  | some (.arr (entry :: rest)) => normalizeSeats roles ctx [] (entry :: rest)
  | _ => .error (ctx.message "must declare a non-empty panel")

def compileStage (roles : Json) (fallback : List (String × Nat)) (ctx : StageContext)
    (rawStage : Json) : Except String (Stage × List (String × Json)) := do
  let seats ← normalizePanel (rawStage.get? "panel") roles ctx
  let aggregation ← normalizeAggregation (rawStage.get? "aggregation") ctx
  let roundBudgetByRisk ← normalizeStageBudget (rawStage.get? "roundBudgetByRisk") fallback ctx
  return ({ id := ctx.stageId, panel := seats.map Prod.fst, aggregation, roundBudgetByRisk },
    seats.map fun seat => (seat.1.id, seat.2))

def compileStages (roles : Json) (fallback : List (String × Nat)) (domainId : String)
    (seen : List String) : List Json → Except String (List (Stage × List (String × Json)))
  | [] => .ok []
  | rawStage :: rest => do
    match rawStage with
    | .obj _ =>
      let stageId ← str (rawStage.get? "id")
      if stageId = "" then
        .error (domainMessage domainId "has a pipeline stage with no id")
      else if stageId ∈ seen then
        .error (domainMessage domainId s!"repeats pipeline stage id \"{stageId}\"")
      else
        let stage ← compileStage roles fallback { stageId, domainId } rawStage
        let others ← compileStages roles fallback domainId (stageId :: seen) rest
        return stage :: others
    | _ => .error (domainMessage domainId "has a pipeline stage that is not an object")

def registryRoles? (roleRegistry : Option Json) : Option Json :=
  match property roleRegistry "roles" with
  | some (.obj members) => some (.obj members)
  | some (.arr items) => some (.arr items)
  | _ => none

def resolveDomainPipeline (domainConfig roleRegistry : Option Json) :
    Except String DomainPipeline := do
  let named ← str (property domainConfig "id")
  let domainId := if named = "" then "unknown" else named
  if !isPipelineEnabled domainConfig then
    return { enabled := false, domainId, stages := [] }
  else
    match property (property domainConfig "pipeline") "stages" with
    | some (.arr (rawStage :: rest)) =>
      match registryRoles? roleRegistry with
      | some roles =>
        let stages ← compileStages roles (domainRoundBudgetByRisk domainConfig) domainId []
          (rawStage :: rest)
        return { enabled := true, domainId, stages }
      | none =>
        .error (domainMessage domainId
          ("enabled a pipeline but no role registry (roles.registry) " ++
            "was provided to resolve its panel roles"))
    | _ => .error (domainMessage domainId "enabled a pipeline but declared no stages")

end

inductive ReviewVerdictKind where
  | requestChanges
  | commentOnly
  | approved
  | unknown
  deriving DecidableEq

structure BlockingFinding where
  title : Option String := none
  file : Option String := none
  lines : Option String := none
  problem : Option String := none
  deriving DecidableEq

/-- A verdict of a panel; absent members are undefined. -/
structure Verdict where
  kind : ReviewVerdictKind
  blockingFindings : Option (List BlockingFinding) := none
  observedAt : Option String := none
  reviewerRoleId : Option String := none
  deriving DecidableEq

/-- What a single verdict, or a whole stage, comes to. -/
inductive PipelineDisposition where
  | clean
  | blocking
  | indeterminate
  | pending
  deriving DecidableEq

def classifyVerdictDisposition (verdict : Verdict) : PipelineDisposition :=
  if verdict.kind = .requestChanges then .blocking
  else if 0 < (verdict.blockingFindings.getD []).length then .blocking
  else if verdict.kind = .approved ∨ verdict.kind = .commentOnly then .clean
  else .indeterminate

def verdictSortKey (verdict : Verdict) : String :=
  verdict.observedAt.getD ""

def panelRoleIds (stage : Stage) : List String :=
  (stage.panel.map PanelRole.id).filter (· ≠ "")

def creditedRole (roleIds : List String) (verdict : Verdict) : Option String :=
  let soleRole := match roleIds with
    | [only] => some only
    | _ => none
  let named := match verdict.reviewerRoleId with
    | some roleId => if roleId ≠ "" then some roleId else soleRole
    | none => soleRole
  named.filter (· ∈ roleIds)

/-- The later of two verdicts of a role, the second where they are equally old. -/
def laterVerdict (prev : Option Verdict) (verdict : Verdict) : Verdict :=
  match prev with
  | none => verdict
  | some prev =>
    if Utf16.upTo (verdictSortKey prev) (verdictSortKey verdict) then verdict else prev

def creditVerdict (roleIds : List String) (byRole : String → Option Verdict) (verdict : Verdict) :
    String → Option Verdict :=
  match creditedRole roleIds verdict with
  | none => byRole
  | some roleId => Function.update byRole roleId (some (laterVerdict (byRole roleId) verdict))

structure RoleVerdict where
  roleId : String
  verdict : Option Verdict

def resolvePanelRoleVerdicts (stage : Stage) (verdicts : List Verdict) : List RoleVerdict :=
  let roleIds := panelRoleIds stage
  let byRole := verdicts.foldl (creditVerdict roleIds) fun _ => none
  roleIds.map fun roleId => { roleId, verdict := byRole roleId }

def roleWeight (policy : Json) (roleId : String) : Rat :=
  (Json.finite (property (policy.get? "weights") roleId)).getD 1

/-- How many roles of a panel came to what. -/
structure DispositionCounts where
  clean : Nat := 0
  blocking : Nat := 0
  indeterminate : Nat := 0
  missing : Nat := 0

def DispositionCounts.record (counts : DispositionCounts) (role : RoleVerdict) :
    DispositionCounts :=
  match role.verdict with
  | none => { counts with missing := counts.missing + 1 }
  | some verdict =>
    match classifyVerdictDisposition verdict with
    | .clean => { counts with clean := counts.clean + 1 }
    | .blocking => { counts with blocking := counts.blocking + 1 }
    | _ => { counts with indeterminate := counts.indeterminate + 1 }

/-- The weights of a panel that came to what. -/
structure DispositionWeights where
  clean : JsDouble := .finite 0
  blocking : JsDouble := .finite 0
  total : JsDouble := .finite 0

def DispositionWeights.record (policy : Json) (weights : DispositionWeights)
    (role : RoleVerdict) : DispositionWeights :=
  let weight := JsDouble.finite (roleWeight policy role.roleId)
  let counted := { weights with total := weights.total.add weight }
  match role.verdict with
  | none => counted
  | some verdict =>
    match classifyVerdictDisposition verdict with
    | .clean => { counted with clean := counted.clean.add weight }
    | .blocking => { counted with blocking := counted.blocking.add weight }
    | _ => counted

def threshold? (policy : Json) : Option Rat :=
  (Json.finite (policy.get? "threshold")).filter fun threshold => decide (0 < threshold)

def decidePanel (policy : Json) (kind : String) (roles : List RoleVerdict)
    (counts : DispositionCounts) : Except String PipelineDisposition :=
  let panelSize := roles.length
  if kind = "unanimous-clean" then
    .ok <|
      if 0 < counts.blocking then .blocking
      else if counts.clean = panelSize then .clean
      else .pending
  else if kind = "any-blocking-blocks" then
    -- A role without a clear answer does not withhold the pass.
    .ok <|
      if 0 < counts.blocking then .blocking
      else if 0 < counts.missing then .pending
      else .clean
  else if kind = "quorum" then
    match positiveInt? (policy.get? "quorum") with
    | none => .error "quorum policy requires a positive integer `quorum`"
    | some need =>
      let reachableClean := panelSize - counts.blocking
      .ok <|
        if need ≤ counts.clean then .clean
        else if reachableClean < need then .blocking
        else .pending
  else
    match threshold? policy with
    | none => .error "weighted policy requires a positive `threshold`"
    | some threshold =>
      let weights := roles.foldl (DispositionWeights.record policy) {}
      let reachableClean := weights.total.sub weights.blocking
      .ok <|
        if weights.clean.atLeast threshold then .clean
        else if reachableClean.below threshold then .blocking
        else .pending

def decideStage (policy : Json) (kind : String) (roles : List RoleVerdict)
    (counts : DispositionCounts) : Except String PipelineDisposition :=
  match roles with
  | [] => .ok .pending
  | _ :: _ => decidePanel policy kind roles counts

structure StageAggregate where
  stageId : String
  decision : PipelineDisposition
  policy : String
  panelSize : Nat
  counts : DispositionCounts

def aggregateStageVerdict [JsJson] (stage : Stage) (panelVerdicts : List Verdict) :
    Except String StageAggregate :=
  match (stage.aggregation.get? "kind").bind Json.text? with
  | some kind =>
    if kind ∈ aggregationPolicyKinds then do
      let roles := resolvePanelRoleVerdicts stage panelVerdicts
      let counts := roles.foldl DispositionCounts.record {}
      let decision ← decideStage stage.aggregation kind roles counts
      return { stageId := stage.id, decision, policy := kind, panelSize := roles.length, counts }
    else .error s!"unknown aggregation policy: {JsJson.stringify (.str kind)}"
  | none =>
    .error ("unknown aggregation policy: " ++ Json.jsonText (stage.aggregation.get? "kind"))

end AdversarialReview.Pipeline
