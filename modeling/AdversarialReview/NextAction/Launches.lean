import AdversarialReview.Library.JsText

/-! Who owns a launch: reading a launch request and its retries. -/

namespace AdversarialReview

open Json

structure LaunchMeaning where
  status : Option String
  terminal : Bool

/-- The pinned SDK's reading of a launch row, absent where it throws. -/
class LaunchSdk where
  readDispatchStatus : Option Json → Option LaunchMeaning

def quotaKilled (row : Json) : Bool :=
  isText (row.get? "status") "failed" && isText (row.get? "failure_class") "worker_killed" &&
    isText (row.get? "worker_killed_cause") "provider_quota_exhausted" &&
    !(isText (row.get? "last_admit_refusal_reason") "quota_operator_dismissed" ||
      isText (row.get? "last_admit_refusal_reason") "origin_owned_retry_policy")

def launchRequestId (row : Json) : Option Json :=
  row.get? "launch_request_id"

def retryEdgeFrom (row : Json) (rows : List Json) (edge : Json) : Option Bool :=
  match edge with
  | .null => none
  | edge => some (strictEq (edge.get? "parent") (launchRequestId row) &&
      !strictEq (edge.get? "child") (launchRequestId row) &&
      rows.any fun child => strictEq (launchRequestId child) (edge.get? "child"))

/-- The first truth of a list of tests; one that throws before it throws. -/
def anyTest : List (Option Bool) → Option Bool
  | [] => some false
  | none :: _ => none
  | some true :: _ => some true
  | some false :: rest => anyTest rest

def retryPublished (probe : Json) (first : Bool) (row : Json) (rows retries : List Json) :
    Option Bool := do
  let linked ← match probe.get? "retryEdges" with
    | none | some .null => some false
    | some (.arr edges) => anyTest (edges.map (retryEdgeFrom row rows))
    | some _ => none
  pure (linked || first && retries.any fun child =>
    Json.truthy (launchRequestId child) && !strictEq (launchRequestId child) (launchRequestId row))

/-- A quota kill whose recovery has neither published a retry nor declined it. -/
def launchRequestQuotaResumePending (probe : Json) : Option Bool :=
  if !Json.truthy (probe.get? "ok") || Json.truthy (probe.get? "retryChainUnreadable") then
    some false
  else
    let retries := (items? (probe.get? "retryChain")).getD []
    let own := ((probe.get? "row").toList).filter fun row => Json.truthy (some row)
    let rows := own ++ retries.filter fun row => Json.truthy (some row)
    let pending (first : Bool) (row : Json) : Option Bool :=
      if !quotaKilled row then some false
      else (retryPublished probe first row rows retries).map not
    anyTest (own.map (pending true) ++
      (retries.filter fun row => Json.truthy (some row)).map (pending false))

section

variable [JsText] [LaunchSdk]

def launchRequestMeaning (value : Option Json) : Option LaunchMeaning := do
  let row := match value with
    | some (.str status) => some (.obj [("status", .str status)])
    | other => other
  let meaning ← LaunchSdk.readDispatchStatus row
  if meaning.status.isSome || lower (member row "status") ≠ "suspended" then pure meaning
  else pure { status := some "suspended", terminal := (bool? (member row "terminal")).getD false }

def LaunchMeaning.parked (meaning : LaunchMeaning) : Bool :=
  meaning.status.any fun status =>
    "blocked_".toList.isPrefixOf status.toList || "waiting_".toList.isPrefixOf status.toList

def liveRetry (row : Json) : Option Bool := do
  let meaning ← launchRequestMeaning (some row)
  pure (meaning.parked || !meaning.terminal)

def findTest (test : Json → Option Bool) : List Json → Option (Option Json)
  | [] => some none
  | row :: rest =>
    match test row with
    | none => none
    | some true => some (some row)
    | some false => findTest test rest

def withLiveLaunchRetry (probe : Json) : Option Json :=
  if Json.truthy (probe.get? "liveRetryLaunchRequestId") || !Json.truthy (probe.get? "ok") then
    some probe
  else
    match probe.get? "retryChain" with
    | none | some .null => some probe
    | some (.arr rows) => do
      match ← findTest liveRetry rows with
      | some live =>
        if !Json.truthy (some live) then pure probe
        else
          let row := (plain (some live)).getD (.obj [])
          pure ((probe.set "row" row).set "liveRetryLaunchRequestId"
            ((launchRequestId live).getD .null))
      | none => pure probe
    | some _ => none

def launchRequestParked (probe : Json) : Option Bool :=
  if !isBool (probe.get? "ok") true then some false
  else do
    let effective ← withLiveLaunchRetry probe
    let meaning ← launchRequestMeaning (effective.get? "row")
    pure meaning.parked

/-- Whether a launch runs; unknown evidence cannot prove that it has stopped. -/
def launchRequestInFlight (probe : Json) : Option (Option Bool) := do
  let effective ← withLiveLaunchRetry probe
  if !Json.truthy (effective.get? "ok") || !Json.truthy (effective.get? "row") then pure none
  else if ← launchRequestQuotaResumePending probe then pure (some true)
  else
    let meaning ← launchRequestMeaning (effective.get? "row")
    if meaning.parked then pure (some false)
    else if (meaning.status.getD "" = "") &&
        (bool? (member (effective.get? "row") "terminal")).isNone then pure none
    else if !meaning.terminal then pure (some true)
    else pure (if Json.truthy (effective.get? "retryChainUnreadable") then none else some false)

def launchRequestOwned (probe : Json) : Option (Option Bool) := do
  if ← launchRequestParked probe then pure (some true) else launchRequestInFlight probe

end

end AdversarialReview
