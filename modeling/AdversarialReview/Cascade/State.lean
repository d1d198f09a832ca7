import AdversarialReview.Library.JsDate
import AdversarialReview.Library.JsNumber
import AdversarialReview.ReviewState.Rereview

/-! The transient failures of a pull request: its backoff, timeout budget, holds and alerts. -/

namespace AdversarialReview.Cascade

open ReviewState

structure ReviewerTimeout where
  headSha : String
  reviewerBuildId : String
  count : Nat
  total : Nat
  limit : Nat
  rearmAt : Option String
  lastTimeoutAt : Option Int

structure TokenRefreshHold where
  reviewerModel : String
  startedAt : Int
  lastRefusalAt : Int
  refusals : Nat
  /-- Absent where the refusal states no finite instant. -/
  expectedRotationAt : Option Int
  holdUntil : Int
  maxHoldUntil : Int
  maxHoldMs : Rat

structure CapExhaustedAlert where
  failureClass : Option String
  attempts : Int
  cap : Int
  reason : Option String

/-- The stored state of a pull request; a missing file reads as the state without fields. -/
structure CascadeState where
  reviewerTimeout : Option ReviewerTimeout := none
  consecutiveTransientFailures : Option Nat := none
  /-- The counter of files that were written when only cascades were counted. -/
  consecutiveCascadeFailures : Option Nat := none
  transientFailureBreakdown : Option (OrderedMap String Nat) := none
  transientFailureBreakdownByModel : OrderedMap String (OrderedMap String Nat) := .empty
  lastFailureModel : Option String := none
  lastFailureClass : Option String := none
  lastFailureReason : Option String := none
  lastFailureAt : Option Int := none
  nextRetryAfter : Option Int := none
  providerRetryAfter : Option String := none
  backoffMinutes : Option Nat := none
  tokenRefreshHold : Option TokenRefreshHold := none
  capExhaustedAlertedAt : Option String := none
  capExhaustedAlert : Option CapExhaustedAlert := none
  /-- Absent before the first alert; the head of an alert may itself be null. -/
  operatorDecisionAlertedHeadSha : Option (Option String) := none
  operatorDecisionAlertedAt : Option String := none
  operatorDecisionAlert : Option (Option String) := none

def given (text : Option String) : Option String :=
  text.filter (· ≠ "")

section

structure ReviewRow where
  reviewerHeadSha : Option String := none
  rereviewReason : Option String := none
  rereviewRequestedAt : Option String := none

structure TimeoutBudget where
  headSha : Option String
  reviewerBuildId : String
  count : Nat
  limit : Nat
  total : Nat
  lastTimeoutAt : Option Int
  rearmAt : Option String
  parked : Bool
  changed : Bool

/-- The limit, from the number that the environment states if it is a safe integer. -/
def resolveReviewerTimeoutSameHeadLimit (configured : Option Int) : Nat :=
  match configured with
  | some value => if 0 < value then value.toNat else 2
  | none => 2

def rearmRequest (row : Option ReviewRow) : Option String :=
  row.bind fun row =>
    if isExplicitOperatorRetriggerReason row.rereviewReason then given row.rereviewRequestedAt
    else none

def countOf (breakdown : Option (OrderedMap String Nat)) (failureClass : String) : Nat :=
  ((breakdown.bind fun breakdown => breakdown.get? failureClass)).getD 0

def previousTimeout (configured : Option Int) (state : CascadeState) (reviewerBuildId : String)
    (row : Option ReviewRow) : Option ReviewerTimeout :=
  state.reviewerTimeout <|> (row.bind fun row => given row.reviewerHeadSha).map fun headSha =>
    { headSha, reviewerBuildId
      count := countOf state.transientFailureBreakdown "reviewer-timeout"
      total := countOf state.transientFailureBreakdown "reviewer-timeout"
      limit := resolveReviewerTimeoutSameHeadLimit configured
      rearmAt := none, lastTimeoutAt := none }

variable [JsDate]

def rearms (previous : ReviewerTimeout) (rearmAt : Option String) (lastTimeoutAt : Option Int) :
    Bool :=
  rearmAt.any fun request => previous.rearmAt ≠ some request &&
    (JsDate.parse request).any fun requested => lastTimeoutAt.all fun last => last < requested

def reviewerTimeoutBudget (configured : Option Int) (state : CascadeState)
    (headSha : Option String) (reviewerBuildId : String) (row : Option ReviewRow) :
    TimeoutBudget :=
  let rearmAt := rearmRequest row
  let head := given headSha
  let allowed := resolveReviewerTimeoutSameHeadLimit configured
  match (previousTimeout configured state reviewerBuildId row).filter
      fun previous => head = some previous.headSha with
  | none =>
    -- Another head than the recorded one, or none.
    { headSha := head, reviewerBuildId, count := 0, limit := allowed, total := 0
      lastTimeoutAt := none, rearmAt, parked := head.isSome && allowed = 0, changed := false }
  | some previous =>
    let buildChanged := decide (previous.reviewerBuildId ≠ reviewerBuildId)
    let lastTimeoutAt := previous.lastTimeoutAt <|>
      if state.lastFailureClass = some "reviewer-timeout" then state.lastFailureAt else none
    let rearmed := rearms previous rearmAt lastTimeoutAt
    let count := if buildChanged || rearmed then 0 else previous.count
    let limit := if buildChanged || rearmed then 1
      else min (if previous.limit = 0 then allowed else previous.limit) allowed
    { headSha := head, reviewerBuildId, count, limit, total := previous.total, lastTimeoutAt
      rearmAt := rearmAt <|> previous.rearmAt, parked := limit ≤ count
      changed := buildChanged || rearmed }

end

section

def cascadeBackoffMinutes : List Nat := [1, 2, 4, 8, 15]

def cascadeFailureCap : Nat := 5

def resolveCascadeBackoffMinutes (failures : Nat) : Nat :=
  cascadeBackoffMinutes.getD (min 4 ((if failures = 0 then 1 else failures) - 1)) 15

def maxRepresentableInstantMs : Nat := 8640000000000000

/-- An instant that a date can hold. -/
def isRepresentableInstant (ms : Int) : Bool :=
  ms.natAbs ≤ maxRepresentableInstantMs

def transientFailureClasses : List String :=
  ["reviewer-model-unresolved", "cascade", "oauth-broken", "reviewer-timeout",
    "launchctl-bootstrap", "quota-exhausted", "broker-unavailable", "reviewer-account-held",
    "github-unavailable", "deploy-wedge", "reviewer-output", "attestation-sign-failed",
    "hcp-unavailable", "reviewer-empty-output", "token-refresh-pending", "provider-overloaded",
    "infra-runtime-missing-library", "agy-identity-unavailable"]

def normalizeTransientFailureClass (failureClass : String) : String :=
  let value := jsTrim failureClass
  if value ∈ transientFailureClasses then value else "cascade"

structure Failure where
  /-- The milliseconds of its time, absent where the time is no number. -/
  failedAt : Option Int
  now : Int
  failureClass : String := "cascade"
  failureReason : Option String := none
  nextRetryAfter : Option String := none
  reviewerModel : Option String := none
  headSha : Option String := none
  reviewerBuildId : String
  row : Option ReviewRow := none

def Failure.countsTimeout (call : Failure) : Bool :=
  normalizeTransientFailureClass call.failureClass = "reviewer-timeout"

/-- The name a model is counted under. -/
def normalizedModel (model : Option String) : String :=
  asciiLower (jsTrim (model.getD ""))

def countFailure (breakdown : OrderedMap String Nat) (failureClass : String) :
    OrderedMap String Nat :=
  breakdown.set failureClass (countOf (some breakdown) failureClass + 1)

def Failure.window (call : Failure) (backoffMinutes : Nat) : Int × Int :=
  let backoff : Int := backoffMinutes * 60000
  let failedAt := (call.failedAt.filter fun ms =>
    isRepresentableInstant ms && isRepresentableInstant (ms + backoff)).getD call.now
  (failedAt, failedAt + backoff)

variable [JsDate]

def nextTimeout (configured : Option Int) (previous : CascadeState) (call : Failure)
    (failedAt : Int) : Option ReviewerTimeout :=
  match given call.headSha with
  | none => previous.reviewerTimeout
  | some headSha =>
    let timeout := reviewerTimeoutBudget configured previous call.headSha call.reviewerBuildId
      call.row
    let increment := if call.countsTimeout then 1 else 0
    some { headSha, reviewerBuildId := call.reviewerBuildId, count := timeout.count + increment
           total := timeout.total + increment, limit := timeout.limit, rearmAt := timeout.rearmAt
           lastTimeoutAt := if call.countsTimeout then some failedAt else timeout.lastTimeoutAt }

/-- The whole next state: what is not listed here is not kept. -/
def recordCascadeFailure (configured : Option Int) (previous : CascadeState) (call : Failure) :
    CascadeState :=
  let previousCount := (previous.consecutiveTransientFailures <|>
    previous.consecutiveCascadeFailures).getD 0
  let failures := min (previousCount + 1) cascadeFailureCap
  let backoffMinutes := resolveCascadeBackoffMinutes failures
  let (failedAt, retryAfter) := call.window backoffMinutes
  let failureClass := normalizeTransientFailureClass call.failureClass
  let legacy := (previous.consecutiveCascadeFailures.filter (0 < ·)).elim OrderedMap.empty
    (OrderedMap.single "cascade")
  let model := normalizedModel call.reviewerModel
  let byModel := previous.transientFailureBreakdownByModel
  { reviewerTimeout := nextTimeout configured previous call failedAt
    consecutiveTransientFailures := some failures
    transientFailureBreakdown := some
      (countFailure (previous.transientFailureBreakdown.getD legacy) failureClass)
    transientFailureBreakdownByModel := if model = "" then byModel
      else byModel.set model (countFailure ((byModel.get? model).getD .empty) failureClass)
    lastFailureModel := given (some model) <|> given previous.lastFailureModel
    lastFailureClass := some failureClass
    lastFailureReason := given (call.failureReason.map jsTrim)
    lastFailureAt := some failedAt
    nextRetryAfter := some retryAfter
    providerRetryAfter := given call.nextRetryAfter
    backoffMinutes := some backoffMinutes
    tokenRefreshHold := previous.tokenRefreshHold }

end

section

/-- What a refusal's text states, by the patterns that read it. -/
structure TokenRefreshRefusal where
  remainingMs : Option Int
  expiresAtMs : Option Int

structure HoldConfig where
  maxHoldMs : Rat
  bridgeRefreshWindowMs : Rat

def tokenRefreshRotationGraceMs : Rat := 60 * 1000

def tokenRefreshHoldStaleSlackMs : Rat := 60 * 60 * 1000

def toIso (ms : Rat) : Except String Int :=
  if |ms| ≤ maxRepresentableInstantMs then .ok (ms.num.tdiv ms.den)
  else .error "Invalid time value"

def continues (config : HoldConfig) (model : String) (failureAtMs : Int)
    (hold : TokenRefreshHold) : Bool :=
  asciiLower hold.reviewerModel = model &&
    ((failureAtMs - hold.lastRefusalAt : Int) : Rat) ≤
      config.maxHoldMs + tokenRefreshHoldStaleSlackMs

def expectedRotation (config : HoldConfig) (failureAtMs : Int) (refusal : TokenRefreshRefusal) :
    Option JsDouble :=
  match refusal.expiresAtMs, refusal.remainingMs with
  | some expires, _ => some ((JsDouble.finite expires).sub (.finite config.bridgeRefreshWindowMs))
  | none, some remaining => some
      (((JsDouble.finite failureAtMs).add (.round remaining)).sub
        (.finite config.bridgeRefreshWindowMs))
  | none, none => none

/-- The later of the backoff's end and a target that the bound cuts. -/
def holdTarget (floorMs maxHoldUntilMs : Rat) : Option JsDouble → Rat
  | some (.finite rotation) => max floorMs (min (rotation + tokenRefreshRotationGraceMs)
      maxHoldUntilMs)
  | some (.infinite false) => max floorMs maxHoldUntilMs
  | _ => floorMs

def rotationText : Option JsDouble → Except String (Option Int)
  | some (.finite rotation) => (toIso rotation).map some
  | _ => .ok none

def computeTokenRefreshHold (config : HoldConfig) (previousHold : Option TokenRefreshHold)
    (failureAtMs floorMs : Int) (refusal : Option TokenRefreshRefusal) (reviewerModel : String) :
    Except String TokenRefreshHold := do
  let model := normalizedModel (if reviewerModel = "" then "claude" else reviewerModel)
  let continuing := previousHold.filter (continues config model failureAtMs)
  let startedAtMs := continuing.elim failureAtMs TokenRefreshHold.startedAt
  let maxHoldUntilMs : Rat := startedAtMs + config.maxHoldMs
  let rotation := refusal.bind (expectedRotation config failureAtMs)
  let holdUntilMs := min maxHoldUntilMs (holdTarget floorMs maxHoldUntilMs rotation)
  let startedAt ← toIso startedAtMs
  let lastRefusalAt ← toIso failureAtMs
  let expectedRotationAt ← rotationText rotation
  let holdUntil ← toIso holdUntilMs
  let maxHoldUntil ← toIso maxHoldUntilMs
  pure { reviewerModel := model, startedAt, lastRefusalAt
         refusals := continuing.elim 0 TokenRefreshHold.refusals + 1
         expectedRotationAt, holdUntil, maxHoldUntil, maxHoldMs := config.maxHoldMs }

def tokenRefreshHoldExhausted (config : HoldConfig) (hold : Option TokenRefreshHold)
    (reviewerModel : String) (nowMs : Int) : Bool :=
  hold.any fun hold =>
    let model := normalizedModel (some reviewerModel)
    model ≠ "" && asciiLower hold.reviewerModel = model &&
      ((nowMs - hold.lastRefusalAt : Int) : Rat) ≤
        config.maxHoldMs + tokenRefreshHoldStaleSlackMs &&
      hold.maxHoldUntil ≤ nowMs

structure Refusal where
  failedAt : Option Int
  now : Int
  failureReason : Option String := none
  refusal : Option TokenRefreshRefusal := none
  reviewerModel : String := "claude"
  reviewerBuildId : String

def Refusal.failure (call : Refusal) : Failure where
  failedAt := call.failedAt
  now := call.now
  failureClass := "token-refresh-pending"
  failureReason := call.failureReason
  reviewerModel := some call.reviewerModel
  reviewerBuildId := call.reviewerBuildId

variable [JsDate]

def recordTokenRefreshHold (configured : Option Int) (config : HoldConfig)
    (previous : CascadeState) (call : Refusal) : Except String Unit × CascadeState :=
  let state := recordCascadeFailure configured previous call.failure
  match computeTokenRefreshHold config previous.tokenRefreshHold (state.lastFailureAt.getD 0)
      (state.nextRetryAfter.getD 0) call.refusal call.reviewerModel with
  | .ok hold =>
    (.ok (), { state with nextRetryAfter := some hold.holdUntil, tokenRefreshHold := some hold })
  | .error message => (.error message, state)

end

section

structure CapMark where
  alertedAt : String
  failureClass : Option String := none
  attempts : Option Int := none
  cap : Option Int := none
  reason : Option String := none

def markCascadeCapExhaustedAlerted (previous : CascadeState) (call : CapMark) :
    Bool × CascadeState :=
  if (given previous.capExhaustedAlertedAt).isSome then (false, previous)
  else (true, { previous with
    capExhaustedAlertedAt := some call.alertedAt
    -- The number of a missing count is zero.
    capExhaustedAlert := some {
      failureClass := given call.failureClass <|> given previous.lastFailureClass
      attempts := call.attempts.getD 0
      cap := call.cap.getD 0
      reason := given call.reason <|> given previous.lastFailureReason } })

structure OperatorMark where
  headSha : Option String
  alertedAt : String
  reason : Option String := none

def markOperatorDecisionRequiredAlerted (previous : CascadeState) (call : OperatorMark) :
    Bool × CascadeState :=
  if previous.operatorDecisionAlertedHeadSha = some (given call.headSha) then (false, previous)
  else (true, { previous with
    operatorDecisionAlertedHeadSha := some (given call.headSha)
    operatorDecisionAlertedAt := some call.alertedAt
    operatorDecisionAlert := some (given call.reason) })

inductive Call where
  | failure (call : Failure)
  | refusal (call : Refusal)
  | cap (call : CapMark)
  | operator (call : OperatorMark)

variable [JsDate]

def perform (configured : Option Int) (config : HoldConfig) (state : CascadeState) :
    Call → Bool × CascadeState
  | .failure call => (false, recordCascadeFailure configured state call)
  | .refusal call => (false, (recordTokenRefreshHold configured config state call).2)
  | .cap call => markCascadeCapExhaustedAlerted state call
  | .operator call => markOperatorDecisionRequiredAlerted state call

end

end AdversarialReview.Cascade
