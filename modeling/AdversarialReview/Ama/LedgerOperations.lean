import Mathlib.Data.List.Infix
import AdversarialReview.Ama.LedgerDocument

/-! The calls that change the series' counts in a ledger document, and how the file keeps it. -/

namespace AdversarialReview.Ama.LedgerDocument

open Json

mutual

def stored : Json → Json
  | .num value =>
    match literal value with
    | .finite _ => .num value
    | _ => .null
  | .arr items => .arr (storedItems items)
  | .obj members => .obj (storedMembers members)
  | other => other

def storedItems : List Json → List Json
  | [] => []
  | item :: rest => stored item :: storedItems rest

def storedMembers : List (String × Json) → List (String × Json)
  | [] => []
  | (key, value) :: rest => (key, stored value) :: storedMembers rest

end

def numberJson : JsDouble → Json
  | .finite value => .num value
  | _ => .null

/-- Write a member of an object literal; what is undefined is not kept. -/
def put (members : List (String × Json)) (field : String × Option Json) : List (String × Json) :=
  match field.2 with
  | some value => OrderedMap.setEntries field.1 value members
  | none => members.filter fun member => member.1 ≠ field.1

def assign (members : List (String × Json)) (fields : List (String × Option Json)) :
    List (String × Json) :=
  fields.foldl put members

def keyJson (key : Option String) : Json :=
  key.elim .null .str

def orNull (value : Option Json) : Option Json :=
  orTruthy value (some .null)

structure Outcome where
  reason : String
  written : Option Json

def refuse (reason : String) : Except String Outcome :=
  .ok { reason, written := none }

def write (reason : String) (members : List (String × Json)) : Except String Outcome :=
  .ok { reason, written := some (stored (.obj members)) }

/-- A count without its fraction, zero where there is none. -/
def wholeCount : JsDouble → JsDouble
  | .finite value => .finite (max 0 (trunc value))
  | .infinite false => .infinite false
  | _ => .finite 0

/-- The comparison of two counts; neither is ever no number. -/
def notBelow : JsDouble → JsDouble → Bool
  | .infinite false, _ => true
  | _, .infinite false => false
  | .finite first, .finite second => second ≤ first
  | _, _ => false

variable [JsText] [JsNumeric] [JsDate]

def countOf (value : Option Json) : Except String JsDouble := do
  return wholeCount (← toNumber value)

/-- The refunds of a series; both are empty until there is one. -/
def retryableFieldsForSeries (ledger : Json) : Except String (JsDouble × List String) := do
  let retryable ← countOf (ledger.get? "retryable")
  let launches ← ((items? (ledger.get? "retryableLaunchRequestIds")).getD []).mapM fun launch =>
    match launch with
    | .null => pure "null"
    | launch => nullishText (some launch)
  return (retryable, launches)

def retryableMembers (fields : JsDouble × List String) : List (String × Option Json) :=
  if fields.1 = .finite 0 && fields.2.isEmpty then []
  else [("retryable", some (numberJson fields.1)),
    ("retryableLaunchRequestIds", some (.arr (fields.2.map .str)))]

def transientRetryHeads (ledger : Json) : Except String (List (String × JsDouble)) := do
  match ledger.get? "transientRetryHeads" with
  | some (.obj heads) =>
    let entries ← heads.mapM fun entry => do
      return (Ama.normalizeKey (some entry.1), ← countOf (some entry.2))
    return entries.filterMap fun entry =>
      match entry.1 with
      | some head => if exceeds entry.2 0 then some (head, entry.2) else none
      | none => none
  | _ => return []

def transientRetryFields (ledger : Json) (heads : List (String × JsDouble)) :
    List (String × Option Json) :=
  if heads.isEmpty then []
  else ("transientRetryHeads", some (.obj (assign [] (heads.map fun entry =>
      (entry.1, some (numberJson entry.2)))))) ::
    (ledger.get? "lastTransientRetryAt").toList.map fun at_ => ("lastTransientRetryAt", some at_)

def lifetimeDeferralRefunds (existing : Json) : Json :=
  let raw := orElse (existing.get? "lifetimeDeferralRefundCount")
    (some (.num (if Json.truthy (some existing) then lifetimeDeferralRefundBudget else 0)))
  if isCount raw then .num (min lifetimeDeferralRefundBudget ((finite raw).getD 0))
  else .num lifetimeDeferralRefundBudget

def deferralFieldsForSeries (existing : Json) (jobKeyChanged : Bool) :
    List (String × Option Json) :=
  [("deferralLaunches", some (.arr
      (if jobKeyChanged then [] else (items? (existing.get? "deferralLaunches")).getD [])))] ++
  (if Json.truthy (existing.get? "laneBusyDeferral") then
    [("laneBusyDeferral", if jobKeyChanged then some .null else existing.get? "laneBusyDeferral")]
  else []) ++
  (if Json.truthy (existing.get? "leaseWaitLaunches") && !jobKeyChanged then
    [("leaseWaitLaunches", existing.get? "leaseWaitLaunches")] else []) ++
  (if isBool (existing.get? "leaseWaitExhausted") true && !jobKeyChanged then
    [("leaseWaitExhausted", some (.bool true))] else []) ++
  [("deferralStartedAt",
      if jobKeyChanged then some .null else orNull (existing.get? "deferralStartedAt")),
    ("deferralNextAt",
      if jobKeyChanged then some .null else orNull (existing.get? "deferralNextAt")),
    ("lifetimeDeferralRefundCount", some (lifetimeDeferralRefunds existing))]

def durableChargeFields (ledger : Json) : List (String × Option Json) :=
  (["dispatchCharges", "noWorkRefunds", "pendingTransientCharge", "targetChargeEpoch",
      "operatorApprovalRearms", "phaseInputsReplacement", "nonCloserHeadResets"].filter
    fun key => (ledger.get? key).isSome).map fun key => (key, ledger.get? key)

def includes (value : Option Json) (key : String) : Except String Bool :=
  match value with
  | none | some .null => .ok false
  | some (.arr items) => .ok (items.any fun item => isText (some item) key)
  | some (.str text) => .ok (decide (key.toList <:+: text.toList))
  | some _ => .error "includes is not a function"

def chargeValues (charges : Option Json) : List Json :=
  (spreadMembers charges).map Prod.snd

def chargeOf (launch : Option Json) : List Json → Except String (Option Json)
  | [] => .ok none
  | .null :: _ => .error "Cannot read properties of null"
  | charge :: rest =>
    if strictEq (charge.get? "launchRequestId") launch then .ok (some charge)
    else chargeOf launch rest

def creditFirst (launch : Option Json) (budgets : List (String × Bool)) :
    List (String × Json) → Except String (List (String × Json))
  | [] => .ok []
  | (_, .null) :: _ => .error "Cannot read properties of null"
  | (key, charge) :: rest => do
    if strictEq (charge.get? "launchRequestId") launch then
      match charge with
      | .obj members =>
        let credited := assign (spreadMembers (charge.get? "refundedBudgets"))
          ((budgets.filter Prod.snd).map fun budget => (budget.1, some (.bool true)))
        return (key, .obj (put members ("refundedBudgets", some (.obj credited)))) :: rest
      | .arr _ => return (key, charge) :: rest
      | _ => throw "Cannot create property 'refundedBudgets'"
    else return (key, charge) :: (← creditFirst launch budgets rest)

def creditHammerDispatchBudgets (charges launch : Option Json) (budgets : List (String × Bool)) :
    Except String (Option Json) := do
  let credited ← creditFirst launch budgets (spreadMembers charges)
  return match charges with
    | some (.obj _) => some (.obj credited)
    | some (.arr _) => some (.arr (credited.map Prod.snd))
    | charges => charges

def anyKey (head : String) : List (Option Json) → Except String Bool
  | [] => .ok false
  | value :: rest => do
    if (← normalizeKey value) = some head then return true else anyKey head rest

def closerWasDispatchedForHead (ledger : Json) (head : String) : Except String Bool := do
  let charged ← anyKey head ((chargeValues (ledger.get? "dispatchCharges")).map fun charge =>
    charge.get? "headSha")
  let recorded ← if charged then pure false else
    anyKey head (((items? (ledger.get? "closerDispatchedHeads")).getD []).map some)
  return charged || recorded

def targetIs (existing : Json) : Option String → Except String Bool
  | some head => (normalizeKey (existing.get? "targetRemediationSha")).map fun target =>
    target = some head
  | none => .ok false

def targetAttempts (existing : Json) (targetMatches : Bool) (edit : JsDouble → JsDouble) :
    Except String (Option Json) :=
  if targetMatches then (countOf (existing.get? "targetAttemptCount")).map fun count =>
    some (numberJson (edit count))
  else .ok (existing.get? "targetAttemptCount")

def alreadyRefunded (existing : Json) (refunded : List String) (launch : String) :
    Except String Bool := do
  if refunded.contains launch then return true
  if ← includes (existing.get? "deferralLaunches") launch then return true
  if ← includes (existing.get? "leaseWaitLaunches") launch then return true
  if ← includes (existing.get? "unexecutedLaunchRequestIds") launch then return true
  return isText (member (existing.get? "phaseInputsReplacement") "launchRequestId") launch

/-- The exit refund: no execution verdict is given. -/
def refundHammerRetryDispatch (existing : Json) (jobKey headSha launchRequestId : Option String)
    (budget : JsDouble) (now : Option Json) : Except String Outcome := do
  let (retryable, refundedLaunches) ← retryableFieldsForSeries existing
  let launch := Ama.normalizeKey launchRequestId
  match existing with
  | .obj members =>
    if Json.truthy (existing.get? "__corrupt") then refuse "no-ledger" else
    if keyChanged (← normalizeKey (existing.get? "jobKey")) (Ama.normalizeKey jobKey) then
      refuse "series-changed" else
    if ← launch.elim (pure false) (alreadyRefunded existing refundedLaunches) then
      refuse "already-refunded" else
    if Json.truthy (existing.get? "suppressed") ||
        Json.truthy (existing.get? "lifetimeSuppressed") ||
        Json.truthy (existing.get? "targetSuppressed") then refuse "suppressed" else
    let attemptCount ← countOf (existing.get? "attemptCount")
    if attemptCount = .finite 0 then refuse "no-charged-attempt" else
    if notBelow retryable (wholeCount budget) then refuse "retry-budget-exhausted" else
    let targetMatches ← targetIs existing (Ama.normalizeKey headSha)
    let targetAttemptCount ← targetAttempts existing targetMatches fun count =>
      atLeastZero (count.sub (.finite 1))
    let charges ← creditHammerDispatchBudgets (existing.get? "dispatchCharges")
      (some (keyJson launch)) [("pr", true), ("head", targetMatches)]
    write "hammer-exited-without-close" (assign members
      [("attemptCount", some (numberJson (attemptCount.sub (.finite 1)))),
        ("targetAttemptCount", targetAttemptCount),
        ("retryable", some (numberJson (plusOne retryable))),
        ("retryableLaunchRequestIds",
          some (.arr ((refundedLaunches ++ launch.toList).filterMap fun launch =>
            if launch = "" then none else some (.str launch)))),
        ("updatedAt", orTruthy now (orNull (existing.get? "updatedAt"))),
        ("dispatchCharges", charges)])
  -- A document without members has no attempt to hand back.
  | existing => refuse (if Json.truthy (some existing) then "no-charged-attempt" else "no-ledger")

def refundMissingPhaseInputsDispatch (ledger : Json) (launchRequestId now : Option Json) :
    Except String Outcome := do
  match ledger with
  | .obj members =>
    if Json.truthy (ledger.get? "__corrupt") then refuse "no-ledger" else
    if Json.truthy (ledger.get? "phaseInputsReplacement") then
      refuse (if strictEq (member (ledger.get? "phaseInputsReplacement") "launchRequestId")
        launchRequestId then "already-refunded" else "phase-inputs-replacement-exhausted") else
    match ← chargeOf launchRequestId (chargeValues (ledger.get? "dispatchCharges")) with
    | none => refuse "charge-unproven"
    | some charge =>
      if !isCount (ledger.get? "attemptCount") || !isCount (ledger.get? "targetAttemptCount") ||
          !isCount (ledger.get? "lifetimeAttemptCount") then refuse "charge-unproven" else
      let credited := charge.get? "refundedBudgets"
      let pr := strictEq (ledger.get? "jobKey") (charge.get? "jobKey") &&
        !Json.truthy (member credited "pr")
      let head := strictEq (ledger.get? "targetRemediationSha") (charge.get? "headSha") &&
        strictEq (ledger.get? "targetChargeEpoch") (charge.get? "targetEpoch") &&
        !Json.truthy (member credited "head")
      let down (count : Option Json) := some (Json.num (max 0 ((finite count).getD 0 - 1)))
      let charges ← creditHammerDispatchBudgets (ledger.get? "dispatchCharges") launchRequestId
        [("pr", pr), ("head", head)]
      write "phase-inputs-replacement" (assign members
        ((if pr then [("attemptCount", down (ledger.get? "attemptCount")),
            ("suppressed", some (.bool false))] else []) ++
          (if head then [("targetAttemptCount", down (ledger.get? "targetAttemptCount")),
            ("targetSuppressed", some (.bool false))] else []) ++
          [("phaseInputsReplacement", some (.obj (assign [] [("launchRequestId", launchRequestId),
              ("refundedAt", now), ("budgets", some (.obj [("pr", .bool pr),
                ("head", .bool head)]))]))),
            ("dispatchCharges", charges)]))
  | ledger => refuse (if Json.truthy (some ledger) then "charge-unproven" else "no-ledger")

def reopened (count : JsDouble) : JsDouble :=
  match count with
  | .finite value => .finite (min value (hammerRetryCapTotalDispatches - 1))
  | .infinite false => .finite (hammerRetryCapTotalDispatches - 1)
  | other => other

def grantTransientHammerRetry (existing : Json) (jobKey headSha : Option String)
    (lifetimeDispatchCeiling perHeadLimit : JsDouble) (now : Option Json) (uuid : String) :
    Except String Outcome := do
  let heads ← transientRetryHeads existing
  match existing, Ama.normalizeKey headSha with
  | .obj members, some head =>
    let headGrants :=
      ((heads.reverse.find? fun entry => entry.1 = head).map Prod.snd).getD (.finite 0)
    if Json.truthy (existing.get? "__corrupt") then refuse "no-ledger" else
    if keyChanged (← normalizeKey (existing.get? "jobKey")) (Ama.normalizeKey jobKey) then
      refuse "series-changed" else
    let decision ← evaluateHammerRetryCap existing jobKey (some head) lifetimeDispatchCeiling
    if decision.lifetimeCapExhausted then refuse "lifetime-ceiling-reached" else
    if !decision.capExhausted then refuse "cap-not-exhausted" else
    if notBelow headGrants (wholeCount perHeadLimit) then
      refuse "transient-retry-head-exhausted" else
    let targetMatches ← targetIs existing (some head)
    let attemptCount ← countOf (existing.get? "attemptCount")
    let targetAttemptCount ← targetAttempts existing targetMatches reopened
    let granted := (heads.filter fun entry => entry.1 ≠ head) ++ [(head, plusOne headGrants)]
    write "closer-authored-stale-transient-retry" (assign members
      [("attemptCount", some (numberJson (reopened attemptCount))),
        ("targetAttemptCount", targetAttemptCount),
        ("suppressed", some (.bool false)), ("targetSuppressed", some (.bool false)),
        ("suppressionState", some .null), ("suppressedJobKey", some .null),
        ("suppressedHeadSha", some .null), ("suppressedAttemptCount", some .null),
        ("transientRetryHeads", some (.obj (assign [] (granted.map fun entry =>
          (entry.1, some (numberJson entry.2)))))),
        ("pendingTransientCharge", some (.obj (assign [] [("id", some (.str uuid)),
          ("headSha", some (.str head)), ("jobKey", existing.get? "jobKey")]))),
        ("lastTransientRetryAt", orNull now),
        ("updatedAt", orTruthy now (orNull (existing.get? "updatedAt")))])
  | existing, none =>
    refuse (if Json.truthy (some existing) && !Json.truthy (existing.get? "__corrupt")
      then "no-head" else "no-ledger")
  | existing, some head =>
    -- A document without members has the ceiling as its only stop.
    if !Json.truthy (some existing) then refuse "no-ledger" else
    let decision ← evaluateHammerRetryCap existing jobKey (some head) lifetimeDispatchCeiling
    refuse (if decision.lifetimeCapExhausted then "lifetime-ceiling-reached"
      else "cap-not-exhausted")

def seriesUnchanged (ledger : Json) (anchor head : String) : Except String (Option String) := do
  if !Json.truthy (some ledger) then return some "no-ledger"
  if Json.truthy (ledger.get? "__corrupt") then return some "corrupt-ledger"
  if (← normalizeKey (ledger.get? "jobKey")) ≠ some anchor then
    return some "series-anchor-mismatch"
  if Json.truthy (ledger.get? "lifetimeSuppressed") then return some "lifetime-suppressed"
  if Json.truthy (entryOf (ledger.get? "nonCloserHeadResets") head) then return some "already-reset"
  if ← closerWasDispatchedForHead ledger head then return some "closer-dispatched-head"
  if !Json.truthy (ledger.get? "suppressed") &&
      !exceeds (← toNumber (ledger.get? "attemptCount")) 0 then return some "series-unspent"
  return none

def authorshipDisproven (headProof : Option Json) (head anchor : String) : Except String Bool := do
  if !Json.truthy headProof || isBool (member headProof "proven") true ||
      !isText (member headProof "reason") "hammer-app-attestation-missing" ||
      !isBool (member headProof "currentHeadHammerAttested") false then return false
  if (← normalizeKey (member headProof "currentHead")) ≠ some head then return false
  return (← normalizeKey (member headProof "reviewedHead")) = some anchor

def resetHammerSeriesForNonCloserHead (ledger : Json) (jobKey headSha : Option String)
    (headProof now : Option Json) (clock : String) : Except String Outcome := do
  match Ama.normalizeKey headSha, Ama.normalizeKey jobKey with
  | some head, some anchor =>
    if !(← authorshipDisproven headProof head anchor) then
      refuse "closer-authorship-not-disproven" else
    match ← seriesUnchanged ledger anchor head with
    | some reason => refuse reason
    | none =>
      let resetAt := orTruthy now (some (.str clock))
      let priorAttemptCount ← toNumber (ledger.get? "attemptCount")
      let priorSuppressedHeadSha ← normalizeKey (ledger.get? "suppressedHeadSha")
      let lifetime ← sanitizeLifetimeCount (lifetimeCount ledger)
        hammerRetryCapLifetimeTotalDispatches
      let receipt := assign [] [("resetAt", resetAt), ("jobKey", some (.str anchor)),
        ("reason", member headProof "reason"),
        ("priorAttemptCount", some (numberJson (match atLeastZero priorAttemptCount with
          | .nan => .finite 0
          | count => count))),
        ("priorSuppressed", some (.bool (Json.truthy (ledger.get? "suppressed")))),
        ("priorSuppressedHeadSha", some (keyJson priorSuppressedHeadSha))]
      write "non-closer-head" (assign (spreadMembers (some ledger))
        [("lifetimeAttemptCount", some (.num lifetime)), ("attemptCount", some (.num 0)),
          ("dispatchHeads", some (.arr [])), ("closerDispatchedHeads", some (.arr [])),
          ("suppressed", some (.bool false)),
          ("suppressionState", if Json.truthy (ledger.get? "targetSuppressed")
            then ledger.get? "suppressionState" else some .null),
          ("suppressedJobKey", some .null), ("suppressedHeadSha", some .null),
          ("suppressedAttemptCount", some .null), ("alertedAt", some .null),
          ("nonCloserHeadResets", some (.obj (assign
            (spreadMembers (ledger.get? "nonCloserHeadResets")) [(head, some (.obj receipt))]))),
          ("updatedAt", resetAt), ("retryable", none), ("retryableLaunchRequestIds", none)])
  | _, _ => refuse "closer-authorship-not-disproven"

def rearmOperatorApprovedCloser (ledger : Json) (jobKey headSha : String) (labelsApplied : Bool)
    (stopKey awaitedInputs now : Option Json) (clock : String)
    (lifetimeDispatchCeiling : JsDouble) : Except String Outcome := do
  if normalizeHammerLifetimeDispatchCeiling lifetimeDispatchCeiling = 0 then refuse "" else
  if !labelsApplied then refuse "" else
  if Json.truthy (entryOf (ledger.get? "operatorApprovalRearms") headSha) then refuse "" else
  match ledger with
  | .obj members =>
    if Json.truthy (ledger.get? "__corrupt") || (Ama.normalizeKey (some jobKey)).isNone ||
        !isText (ledger.get? "jobKey") jobKey ||
        !isText (ledger.get? "lastDispatchedHeadSha") headSha then refuse "" else
    if !isCount (ledger.get? "attemptCount") || !isCount (lifetimeCount ledger) ||
        !isCount (orElse (ledger.get? "targetAttemptCount") (some (.num 0))) then refuse "" else
    let decision ← evaluateHammerRetryCap ledger (some jobKey) (some headSha)
      lifetimeDispatchCeiling
    if !decision.capExhausted then refuse "" else
    let receipt := assign [] [("state", some (.str "pending")),
      ("reason", some (.str "operator-approval-applied")), ("jobKey", some (.str jobKey)),
      ("stopKey", stopKey), ("awaitedInputs", awaitedInputs),
      ("grantedAt", orTruthy now (some (.str clock)))]
    write "operator-approval-applied" (assign members
      [("operatorApprovalRearms", some (.obj (assign
        (spreadMembers (ledger.get? "operatorApprovalRearms")) [(headSha, some (.obj receipt))])))])
  -- A document without members names no job.
  | _ => refuse ""

def hammerRetryCapSuppressionState : String := "hammer-retry-cap-exhausted-needs-operator"

def hammerRetryCapLifetimeSuppressionState : String :=
  "hammer-lifetime-ceiling-reached-needs-operator"

def hammerTargetRedriveCapSuppressionState : String :=
  "hammer-target-redrive-cap-exhausted-needs-operator"

/-- What a stop is recorded with; an attempt count that is not given is no number. -/
structure MarkOptions where
  jobKey : Option String
  headSha : Option String
  attemptCount : JsDouble := .nan
  alertEmitted : Bool := false
  lifetime : Bool := false
  target : Bool := false
  now : Option Json := none
  uuid : String

def carried (existing : Json) (key : String) : List (String × Option Json) :=
  if Json.truthy (existing.get? key) then [(key, existing.get? key)] else []

def stoppedAttempts (existing : Json) (attemptCount : JsDouble) : Except String Json :=
  match attemptCount with
  | .finite value => .ok (.num value)
  | _ => (toNumber (orTruthy (existing.get? "attemptCount") (some (.num 0)))).map fun count =>
    numberJson (atLeastZero count)

def stoppedTargetAttempts (existing : Json) (targetShaChanged : Bool) : Except String Json :=
  if targetShaChanged then .ok (.num 0)
  else (toNumber (orElse (existing.get? "targetAttemptCount")
    (orElse (existing.get? "attemptCount") (some (.num 0))))).map fun count =>
      numberJson (atLeastZero count)

/-- When an alert was first seen, as long as its stop stands. -/
def alertTime (existing : Json) (options : MarkOptions) (lifetimeSuppressed jobKeyChanged : Bool) :
    Option Json :=
  if !options.target && options.alertEmitted then
    if (if lifetimeSuppressed then Json.truthy (existing.get? "lifetimeSuppressed")
        else Json.truthy (existing.get? "suppressed") && !jobKeyChanged) then
      orTruthy (existing.get? "alertedAt") (orNull options.now)
    else orNull options.now
  else orNull (existing.get? "alertedAt")

def targetAlertTime (existing : Json) (options : MarkOptions) (targetShaChanged : Bool) :
    Option Json :=
  if options.target && options.alertEmitted then
    if Json.truthy (existing.get? "targetSuppressed") && !targetShaChanged then
      orTruthy (existing.get? "targetAlertedAt") (orNull options.now)
    else orNull options.now
  else if targetShaChanged then some .null
  else orNull (existing.get? "targetAlertedAt")

def dispatchHeads (existing : Json) (head : Option String) : List Json :=
  let priorHeads := (items? (existing.get? "dispatchHeads")).getD []
  match head with
  | some head =>
    if priorHeads.any fun known => isText (some known) head then priorHeads
    else priorHeads ++ [.str head]
  | none => priorHeads

def closerHeads (existing : Json) (jobKeyChanged : Bool) : List (String × Option Json) :=
  match items? (existing.get? "closerDispatchedHeads") with
  | some heads => if jobKeyChanged then [] else [("closerDispatchedHeads", some (.arr heads))]
  | none => []

def markHammerRetryCapExhausted (existing : Json) (repo : String) (prNumber : Int)
    (options : MarkOptions) : Except String Outcome := do
  let incomingJobKey := Ama.normalizeKey options.jobKey
  let head := Ama.normalizeKey options.headSha
  let existingTargetSha ← normalizeKey (existing.get? "targetRemediationSha")
  let targetShaChanged := keyChanged existingTargetSha head
  let existingJobKey ← normalizeKey (existing.get? "jobKey")
  let jobKeyChanged := keyChanged existingJobKey incomingJobKey
  let lifetimeSuppressed := options.lifetime || Json.truthy (existing.get? "lifetimeSuppressed")
  let targetSuppressed :=
    options.target || (Json.truthy (existing.get? "targetSuppressed") && !targetShaChanged)
  let attempts ← stoppedAttempts existing options.attemptCount
  let lifetime ← sanitizeLifetimeCount (lifetimeCount existing)
    hammerRetryCapLifetimeTotalDispatches
  let targetAttempts ← stoppedTargetAttempts existing targetShaChanged
  let retryable ← retryableFieldsForSeries (if jobKeyChanged then .null else existing)
  let heads ← transientRetryHeads existing
  write "suppressed" (assign [] (durableChargeFields existing ++
    [("schemaVersion", some (.num 3)), ("repo", some (.str repo)),
      ("prNumber", some (.num prNumber)),
      ("jobKey", some (keyJson (incomingJobKey <|> existingJobKey))),
      ("attemptCount", some attempts),
      ("lifetimeAttemptCount", some (.num lifetime)),
      ("targetRemediationSha", some (keyJson (head <|> existingTargetSha))),
      ("targetChargeEpoch",
        if targetShaChanged || !Json.truthy (existing.get? "targetChargeEpoch")
        then some (.str options.uuid) else existing.get? "targetChargeEpoch"),
      ("targetAttemptCount", some targetAttempts),
      ("lifetimeSuppressed", some (.bool lifetimeSuppressed)),
      ("targetSuppressed", some (.bool targetSuppressed))] ++
    retryableMembers retryable ++ deferralFieldsForSeries existing jobKeyChanged ++
    transientRetryFields existing heads ++
    carried existing "unexecutedLaunchRequestIds" ++
    carried existing "operatorHoldRefundStopKeys" ++
    carried existing "operatorHoldRefundedAt" ++
    [("dispatchHeads", some (.arr (dispatchHeads existing head)))] ++
    closerHeads existing jobKeyChanged ++
    [("lastDispatchedHeadSha",
        if head.isSome then some (keyJson head)
        else orNull (existing.get? "lastDispatchedHeadSha")),
      ("suppressed", some (.bool true)),
      ("suppressionState", some (.str (if lifetimeSuppressed
        then hammerRetryCapLifetimeSuppressionState
        else if targetSuppressed then hammerTargetRedriveCapSuppressionState
        else hammerRetryCapSuppressionState))),
      ("suppressedJobKey", some (keyJson (incomingJobKey <|> existingJobKey))),
      ("suppressedHeadSha",
        if head.isSome then some (keyJson head) else orNull (existing.get? "suppressedHeadSha")),
      ("suppressedAttemptCount", some attempts),
      ("alertedAt", alertTime existing options lifetimeSuppressed jobKeyChanged),
      ("targetAlertedAt", targetAlertTime existing options targetShaChanged),
      ("createdAt", orTruthy (existing.get? "createdAt") (orNull options.now)),
      ("updatedAt", orTruthy options.now (orNull (existing.get? "updatedAt")))]))

end AdversarialReview.Ama.LedgerDocument
