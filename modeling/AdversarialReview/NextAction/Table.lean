import Mathlib.Algebra.Order.Ring.Unbundled.Rat
import AdversarialReview.Library.JsDate
import AdversarialReview.NextAction.Launches
import AdversarialReview.Library.JsNumber
import AdversarialReview.Library.Ladder

/-! What a pass snapshot proves, unknown where unreadable, and the shared decision table on it. -/

namespace AdversarialReview.NextAction

open Json

/-- What a pass observes. -/
inductive Source where
  | pr
  | candidate
  | checks
  | reviews
  | remediation
  | launches
  | leases
  | controls
  | policy
  | progress
  | history
  deriving DecidableEq

/-- The member of a snapshot's observations. -/
def Source.key : Source → String
  | pr => "pr"
  | candidate => "candidate"
  | checks => "checks"
  | reviews => "reviews"
  | remediation => "remediation"
  | launches => "launches"
  | leases => "leases"
  | controls => "controls"
  | policy => "policy"
  | progress => "progress"
  | history => "history"

/-- Whether an observation can be used. -/
inductive ObservationState where
  | complete
  | unknown
  | error
  deriving DecidableEq

structure Observation where
  state : ObservationState
  value : Option Json

def declaredState (raw : Option Json) : ObservationState :=
  if isText (member raw "state") "complete" then .complete
  else if isText (member raw "state") "error" then .error
  else .unknown

def observation (snapshot : Json) (source : Source) : Observation :=
  let raw := plain (member (snapshot.get? "observations") source.key)
  match declaredState raw, plain (member raw "value") with
  | .complete, some value => { state := .complete, value := some value }
  | .complete, none => { state := .unknown, value := none }
  | declared, _ => { state := declared, value := none }

def Observation.content (seen : Observation) : Json :=
  seen.value.getD (.obj [])

def Observation.known (seen : Observation) : Bool :=
  seen.state = .complete

/-- The repository's reading of check rollups, absent where it throws. -/
class CheckRollups where
  classifyCheckRollup : (rollup requiredContexts : List Json) →
    (excludeContexts : Option (List Json)) → Option (Option String)
  rollupInfrastructureOnly : (rollup : List Json) → (excludeContexts : Option Json) → Option Bool
  rollupInfrastructureEvidencePending : (rollup : Option (List Json)) →
    (excludeContexts : Option Json) → Option Bool

/-- What the checks say as a whole. -/
inductive CheckState where
  | success
  | failure
  | pending
  | unknown
  deriving DecidableEq

structure ChecksFacts where
  state : CheckState
  runnerless : Bool
  infrastructureOnly : Bool
  infrastructurePending : Bool
  progressMs : Option Rat

inductive Attestation where
  | valid
  | invalid
  | unknown
  deriving DecidableEq

structure ReviewFacts where
  known : Bool
  reviewedHead : Option String
  verdict : Option String
  currentHeadVerdictAbsent : Bool
  clean : Bool
  hasFindings : Bool
  operatorOverride : Bool
  attestation : Option Attestation
  live : Bool
  operatorLabelFindings : Option Json
  suppressedFinalPush : Bool
  postedMs : Option Rat

structure RemediationFacts where
  known : Bool
  roundsLeft : Option Bool
  nextRound : Option Rat
  jobStatus : Option String
  jobLive : Bool
  jobHead : Option String
  jobCreatedMs : Option Rat
  jobDeadlineMs : Option Rat
  -- The head of a suppressed final-round push, if there is one.
  finalPush : Option (Option String)

structure LaunchFacts where
  known : Bool
  present : Bool
  forHead : Bool := false
  -- True: running or parked; false: terminal with readable descendants; absent: unknown.
  owned : Option Bool := none
  retryChainUnreadable : Bool := false
  outcome : Option String := none
  retryable : Option Bool := none
  attempt : Option Rat := none
  terminalMs : Option Rat := none
  deadlineMs : Option Rat := none

structure LeaseFacts where
  known : Bool
  present : Bool
  forHead : Bool := false
  status : Option String := none
  lrqRef : Option String := none
  deadlineMs : Option Rat := none

structure PrFacts where
  known : Bool
  merged : Bool
  closed : Bool
  draft : Bool
  mergeable : Option String
  mergeState : Option String

/-- A label and who applied it. -/
structure Label where
  name : String
  actorKind : Option String

structure Facts where
  head : Option String
  observedMs : Option Rat
  pr : PrFacts
  labels : Option (List Label)
  checks : ChecksFacts
  review : ReviewFacts
  remediation : RemediationFacts
  launch : LaunchFacts
  lease : LeaseFacts
  policy : Option Json
  controls : Option Json
  progress : Option Json
  admissionExpired : Bool := false
  recoveryExpired : Bool := false

def sameHead (left right : Option Json) : Bool :=
  text left ≠ "" && text right ≠ "" && text left = text right

def headJson (head : Option String) : Option Json :=
  head.map Json.str

def settledSuccessVerdicts : List String := ["approved", "comment-only"]

def operatorHoldLabels : List String := ["no-merge-hold", "do-not-merge", "merge-agent-skip"]

def pendingLeaseAgeMs : Rat := 600000 * 3 + ((1000 + 5000) + 3 * (500 + 1000 + 2000 + 5000))

def dispatchedLeaseAgeMs : Rat := 30 * 60 * 1000

section

variable [JsText]

def normalizeLabels : List (Option Json) → Option (List Label)
  | [] => none
  | candidate :: rest =>
    match items? candidate with
    | none => normalizeLabels rest
    | some items => some <| (items.map fun label =>
        match label with
        | .str name => { name := lower (some (.str name)), actorKind := none }
        | other =>
          let entry := (plain (some other)).getD (.obj [])
          { name := lower (entry.get? "name")
            actorKind := lowerOr (orElse (orElse (orElse (entry.get? "actorKind")
              (entry.get? "actor_kind")) (member (entry.get? "appliedBy") "kind"))
              (member (entry.get? "actor") "type")) }).filter fun label => label.name ≠ ""

def normalizeFindingCount (value : Option Json) : Option Rat :=
  match value with
  | some (.num count) => some count
  | some (.str count) => if jsTrim count = "" then none else JsText.number (.str count)
  | _ => none

def isDaemonMergeReviewAllowed (review : Json) (strictMode : Bool) : Option Bool := do
  let blockingState ← looseLower (review.get? "blockingFindingState")
  let nonBlockingState ← looseLower (review.get? "nonBlockingFindingState")
  if blockingState ≠ "known" || nonBlockingState ≠ "known" then pure false
  else match normalizeFindingCount (review.get? "blockingFindingCount"),
      normalizeFindingCount (review.get? "nonBlockingFindingCount") with
    | some blocking, some nonBlocking =>
      pure (blocking = 0 && !(strictMode && nonBlocking ≠ 0))
    | _, _ => pure false

def scopedApproval (evidence : Option Json) (head : Option String) : Option Bool := do
  if !Json.truthy evidence || !isBool (member evidence "applied") true then pure false
  else if !(Json.truthy (member evidence "eventId") ||
        Json.truthy (member evidence "eventNodeId") ||
        Json.truthy (member evidence "labelEventId") ||
        Json.truthy (member evidence "labelEventNodeId")) ||
      !(Json.truthy (member evidence "observedAt") ||
        Json.truthy (member evidence "createdAt")) then
    pure false
  else
    let observed ← stringOr (orTruthy (member evidence "observedRevisionRef")
      (member evidence "headSha"))
    pure (observed = head.getD "")

def operatorHonored (evidence operatorLogins enforcement : Option Json) : Option Bool := do
  let actor ← looseLower (member evidence "actor")
  let logins ← ((items? operatorLogins).getD []).mapM fun login => looseLower (some login)
  let mode ← looseLower (some ((orElse enforcement none).getD (.str "observe")))
  let knownActor := actor ≠ "" && actor ≠ "unknown"
  pure (knownActor && (logins.contains actor || mode ≠ "enforce"))

def hasOperatorApprovedOverride (evidence operatorLogins enforcement : Option Json)
    (head : Option String) (labels : Option (List Label)) : Option Bool := do
  if !(← scopedApproval evidence head) then pure false
  else if !((labels.getD []).any fun label =>
      lower (some (.str label.name)) = "operator-approved") then pure false
  else operatorHonored evidence operatorLogins enforcement

variable [JsDate]

def timeMs (value : Option Json) : Option Rat :=
  match value with
  | some (.num ms) => some ms
  | other => (JsDate.parse (text other)).map fun ms => (ms : Rat)

def maxMs : List Rat → Option Rat
  | [] => none
  | ms :: rest => some (rest.foldl max ms)

variable [CheckRollups]

def checksConclusion (checks : Observation) (rows : Option (List Json)) :
    Option (Option String) :=
  match upperOr (checks.content.get? "conclusion"), checks.known, rows with
  | some conclusion, _, _ => some (some conclusion)
  | none, true, some rollup => do
    let requiredContexts := ((items? (checks.content.get? "requiredContexts")).or
      (items? (member (checks.content.get? "branchProtection") "requiredContexts"))).getD []
    let classified ← CheckRollups.classifyCheckRollup rollup requiredContexts
      (items? (checks.content.get? "excludeContexts"))
    pure (some (match classified with
      | none | some "" => "PENDING"
      | some conclusion => conclusion))
  | none, _, _ => some none

def CheckState.ofConclusion : Option String → CheckState
  | none => .unknown
  | some "SUCCESS" => .success
  | some "PENDING" => .pending
  | some _ => .failure

def infrastructureOnly? (value : Json) (rows : Option (List Json)) : Option Bool :=
  match rows with
  | some rows => CheckRollups.rollupInfrastructureOnly rows (value.get? "excludeContexts")
  | none => some (isBool (value.get? "infrastructureOnly") true)

def checksFacts (checks : Observation) : Option ChecksFacts := do
  let value := checks.content
  let runnerless := ((items? (value.get? "runnerless")).getD []) |>.length |> (0 < ·)
  let rows := (items? (value.get? "rollup")).or (items? (value.get? "statusCheckRollup"))
  let conclusion ← checksConclusion checks rows
  let infrastructurePending ← CheckRollups.rollupInfrastructureEvidencePending rows
    (value.get? "excludeContexts")
  let infrastructureOnly ← infrastructureOnly? value rows
  let state : CheckState :=
    if infrastructureOnly || infrastructurePending then .pending
    else if runnerless then .failure
    else .ofConclusion conclusion
  let transitions := (rows.getD []).flatMap fun row =>
    [timeMs (row.get? "startedAt"), timeMs (row.get? "completedAt")].filterMap id
  pure { state, runnerless, infrastructureOnly, infrastructurePending
         progressMs := maxMs transitions }

def normalizedReview (value : Json) : Bool :=
  match value.get? "verdict" with
  | some (.str _) | some .null => true
  | _ => false

def cleanReview (value : Json) (verdict : Option String) (strictMode : Bool) : Option Bool :=
  if verdict.any fun verdict => settledSuccessVerdicts.contains verdict then
    isDaemonMergeReviewAllowed value strictMode
  else some false

def reviewFacts (reviews : Observation) (head : Option String) (policy : Json)
    (labels : Option (List Label)) : Option ReviewFacts := do
  let value := reviews.content
  let normalized := normalizedReview value
  let reviewedHead := ((textOr (value.get? "headSha")).or
    (textOr (value.get? "reviewedHeadSha"))).or (textOr (value.get? "reviewer_head_sha"))
  let verdict := if normalized then lowerOr (value.get? "verdict") else none
  let strictMode := !isBool (policy.get? "strictMode") false
  let attestation : Option Attestation := match lower (value.get? "attestation") with
    | "valid" => some .valid
    | "invalid" => some .invalid
    | "unknown" => some .unknown
    | _ => none
  let clean ← cleanReview value verdict strictMode
  let operatorOverride ← hasOperatorApprovedOverride (value.get? "operatorApprovedEvidence")
    (policy.get? "operatorLogins")
    (if clean then policy.get? "operatorLabelActorEnforcement" else some (.str "enforce"))
    head labels
  let onHead := sameHead (headJson reviewedHead) (headJson head)
  let counted (state count : String) : Bool := isText (value.get? state) "known" &&
    ((value.get? count).bind JsText.number).any (0 < ·)
  pure { known := reviews.known, reviewedHead, verdict
         currentHeadVerdictAbsent := reviews.known &&
           (if normalized then verdict.isNone || !onHead else !onHead)
         clean
         hasFindings := counted "blockingFindingState" "blockingFindingCount" ||
           counted "nonBlockingFindingState" "nonBlockingFindingCount"
         operatorOverride, attestation
         live := isBool (value.get? "reviewerLive") true
         operatorLabelFindings := value.get? "operatorLabelFindings"
         suppressedFinalPush := isBool (value.get? "commentOnlyFinalRoundPush") true
         postedMs := timeMs (orElse (value.get? "postedAt") (value.get? "posted_at")) }

def remediationFacts (remediation : Observation) : RemediationFacts :=
  let value := remediation.content
  let job := (plain (value.get? "job")).or
    (if (value.get? "status").isSome then some value else none)
  let plan := plain (member job "remediationPlan")
  let completed := (finite (value.get? "completedRounds")).or (finite (member plan "currentRound"))
  let max := (finite (value.get? "maxRounds")).or (finite (member plan "maxRounds"))
  let roundsLeft := match bool? (value.get? "roundsLeft") with
    | some left => some left
    | none => match completed, max with
      | some completed, some max => some (decide (completed < max))
      | _, _ => none
  let finalPush := plain (value.get? "finalPush")
  { known := remediation.known
    roundsLeft := if remediation.known then roundsLeft else none
    nextRound := completed.map (· + 1)
    jobStatus := lowerOr (member job "status")
    -- A head move does not release a live worker's ownership.
    jobLive := remediation.known && isBool (member job "live") true &&
      ["pending", "in_progress"].contains (lower (member job "status"))
    jobHead := textOr (member job "headSha")
    jobCreatedMs := timeMs (member job "createdAt")
    jobDeadlineMs := timeMs (orElse (member job "deadlineAt") (member job "heartbeatDeadlineAt"))
    finalPush := if isBool (member finalPush "suppressed") true then
      some (textOr (member finalPush "headSha")) else none }

def latestTerminal (times : List (Option Json)) : Option Rat :=
  times.foldl (fun latest time => match latest, timeMs time with
    | some latest, some time => some (max latest time)
    | _, _ => none) (some 0)

variable [LaunchSdk]

def closerProbe (closer : Json) : Json :=
  match plain (closer.get? "probe") with
  | some probe => probe
  | none =>
    let row := (plain (closer.get? "row")).getD
      (.obj ((closer.get? "status").toList.map fun status => ("status", status)))
    .obj ([("ok", .bool true), ("row", row)] ++
      ((items? (closer.get? "retryChain")).toList.map fun chain => ("retryChain", .arr chain)) ++
      [("retryChainUnreadable", .bool (isBool (closer.get? "retryChainUnreadable") true))])

def chainTimes (probe : Json) : Option (List (Option Json)) :=
  match probe.get? "retryChain" with
  | some (.arr rows) => rows.mapM fun row => match row with
    | .null => none
    | row => some (row.get? "terminal_at")
  | chain => if Json.truthy chain then none else some []

def launchFacts (launches : Observation) (head : Option String) : Option LaunchFacts := do
  match plain (launches.content.get? "closer") with
  | none => pure { known := launches.known, present := false }
  | some closer =>
    let probe := closerProbe closer
    let effective ← withLiveLaunchRetry probe
    let owned ← launchRequestOwned probe
    let times ← chainTimes probe
    pure { known := launches.known, present := true
           forHead := text (closer.get? "headSha") = "" ||
             sameHead (closer.get? "headSha") (headJson head)
           owned
           retryChainUnreadable := isBool (probe.get? "retryChainUnreadable") true
           outcome := lowerOr (closer.get? "outcome")
           retryable := bool? (closer.get? "retryable")
           attempt := finite (closer.get? "attempt")
           -- Every terminal retry must predate the review.
           terminalMs := latestTerminal (orElse (closer.get? "terminalAt")
             (member (effective.get? "row") "terminal_at") :: times)
           deadlineMs := timeMs (orElse (closer.get? "deadlineAt")
             (closer.get? "heartbeatDeadlineAt")) }

def leaseFacts (leases : Observation) (head : Option String) : LeaseFacts :=
  match plain (leases.content.get? "closer") with
  | none => { known := leases.known, present := false }
  | some lease =>
    let status := lowerOr (lease.get? "status")
    let atMs := (timeMs (lease.get? "updatedAt")).or (timeMs (lease.get? "acquiredAt"))
    let windowMs := match status with
      | some "pending" => some pendingLeaseAgeMs
      | some "dispatched" => some dispatchedLeaseAgeMs
      | _ => none
    { known := leases.known, present := true
      forHead := text (lease.get? "headSha") = "" ||
        sameHead (lease.get? "headSha") (headJson head)
      status
      lrqRef := textOr (lease.get? "lrqId")
      deadlineMs := (timeMs (lease.get? "deadlineAt")).or (do return (← atMs) + (← windowMs)) }

def Observation.complete? (seen : Observation) : Option Json :=
  if seen.known then some seen.content else none

/-- Read a snapshot into facts; absent where a malformed one throws. -/
def snapshotFacts (snapshot : Json) : Option Facts := do
  let pr := (observation snapshot .pr).content
  let head := ((textOr (pr.get? "headRefOid")).or (textOr (pr.get? "headSha"))).or
    (textOr (snapshot.get? "head"))
  let prState := upper (pr.get? "state")
  let policy := (observation snapshot .policy).content
  let controls := (observation snapshot .controls).content
  let labels := normalizeLabels [controls.get? "labels", pr.get? "labels",
    member (observation snapshot .candidate).value "labels"]
  let checks ← checksFacts (observation snapshot .checks)
  let review ← reviewFacts (observation snapshot .reviews) head policy labels
  let launch ← launchFacts (observation snapshot .launches) head
  pure { head
         observedMs := timeMs (snapshot.get? "observedAt")
         pr := { known := (observation snapshot .pr).known &&
                   ["OPEN", "MERGED", "CLOSED"].contains prState
                 merged := prState = "MERGED"
                 closed := prState = "CLOSED"
                 draft := isBool (pr.get? "isDraft") true
                 mergeable := upperOr (pr.get? "mergeable")
                 mergeState := upperOr (pr.get? "mergeStateStatus") }
         labels, checks, review
         remediation := remediationFacts (observation snapshot .remediation)
         launch
         lease := leaseFacts (observation snapshot .leases) head
         policy := (observation snapshot .policy).complete?
         controls := (observation snapshot .controls).complete?
         progress := (observation snapshot .progress).complete? }

end

inductive Action where
  | waitForCI
  | review
  | remediate
  | hammer
  | daemonMerge
  | operatorHold
  | done
  deriving DecidableEq

inductive Actor where
  | ci
  | watcher
  | reviewer
  | remediator
  | hammer
  | daemon
  | closureRecovery
  | operator
  | none
  deriving DecidableEq

/-- What the queue is asked to do with a decision. -/
inductive QueueIntent where
  | none
  | observe
  | owned
  | reconcile
  | dispatch
  | daemon
  deriving DecidableEq

inductive DeadlineKind where
  | refresh
  | admission
  | recovery
  | observer
  | livePending
  | liveDispatched
  deriving DecidableEq

def DeadlineKind.budgetMs : DeadlineKind → Rat
  | refresh => 60000
  | admission => 5 * 60000
  | recovery => 5 * 60000
  | observer => dispatchedLeaseAgeMs
  | livePending => pendingLeaseAgeMs
  | liveDispatched => dispatchedLeaseAgeMs

inductive RowName where
  | terminal
  | hold
  | liveOwner
  | ownership
  | structural
  | mergeReceipt
  | stop
  | approval
  | resume
  | retry
  | ciRed
  | conflict
  | pending
  | finalPush
  | daemonFailedClosed
  | approvedHead
  | review
  | findings
  | daemon
  | refresh
  deriving DecidableEq

/-- A partial decision; its diagnostic references are left out. -/
structure Row where
  row : RowName
  action : Action
  actor : Actor
  reason : Option Json
  deadlineKind : Option DeadlineKind
  queue : QueueIntent
  deadlineAtMs : Option Rat := none
  round : Option Rat := none
  attempt : Option Rat := none
  extraAnchorMs : List (Option Rat) := []

def because (reason : String) : Option Json :=
  some (.str reason)

def refresh (reason : String) : Row :=
  { row := .refresh, action := .waitForCI, actor := .watcher, reason := because reason
    deadlineKind := some .refresh, queue := .observe }

def hammerRow (row : RowName) (reason : String) : Row :=
  { row, action := .hammer, actor := .hammer, reason := because reason
    deadlineKind := some .admission, queue := .dispatch }

def recoveryRow (row : RowName) (reason : String) : Row :=
  { row, action := .hammer, actor := .closureRecovery, reason := because reason
    deadlineKind := some .recovery, queue := .reconcile }

def holdRow (reason : Option Json) : Row :=
  { row := .hold, action := .operatorHold, actor := .operator, reason, deadlineKind := none
    queue := .none }

def daemonRow (row : RowName) (reason : String) : Row :=
  { row, action := .daemonMerge, actor := .daemon, reason := because reason
    deadlineKind := some .admission, queue := .daemon }

def automationActorKinds : List String := ["automation", "bot", "app", "watcher", "hammer"]

def hammerClosableDaemonFailures : List String := ["worker-identity-unresolved"]

/-- Mutation-time refusals that no repair may go around. -/
def safetyReasons : List String :=
  ["branch-protection-missing-gate", "lease-not-held", "builder-token-merge-refused",
    "duplicate-family-unresolved", "operator-approval-no-longer-current",
    "permanent-merge-rejection", "unclassified-merge-failure",
    "protective-predecessor-open", "protective-predecessor-state-unreadable",
    "protective-predecessor-not-found", "protective-predecessor-malformed-trailer"]

def transientReasons : List String :=
  ["lease-contended", "lease-acquire-error", "audit-init-failed", "findings-capture-pending",
    "pending-required-checks", "pending-mergeability", "gate-read-failed",
    "live-head-refresh-failed", "live-head-unresolved"]

def transientDetails : List String :=
  ["ci-not-green", "pr-mergeability-unknown", "labels-unavailable",
    "primary-change-read-failed", "history-read-failed", "ci-cost-read-failed",
    "ci-cost-check-failed", "ci-cost-unauthorized", "head-attestation-chain-read-failed",
    "build-completion-read-failed", "identity-read-transient"]

def isOneOf (texts : List String) (value : Option Json) : Bool :=
  (value.bind text?).any fun value => texts.contains value

def isTransientDaemonDecline (execution : Option Json) : Bool :=
  if !Json.truthy execution || isBool (member execution "permanent") true then false
  else match orTruthy (member execution "reasons") (some (.arr [])) with
    | some (.arr details) =>
      let each (texts : List String) : Bool := details.all fun reason => isOneOf texts (some reason)
      let reason := member execution "reason"
      if isOneOf transientReasons reason then each (transientReasons ++ transientDetails)
      else if isText reason "worker-identity-unresolved" then
        !details.isEmpty && each ["head-attestation-chain-read-failed",
          "build-completion-read-failed", "identity-read-transient"]
      else isOneOf ["not-eligible", "gate-not-eligible"] reason && !details.isEmpty &&
        each transientDetails
    | _ => false

def isHammerOwnedHead (ownership : Option Json) (head : Option String) : Bool :=
  Json.truthy ownership && head.any (· ≠ "") &&
    isOneOf ["hammer-validated-head", "closer-commit-trailer"] (member ownership "reason") &&
    !(Json.truthy (member ownership "headSha") &&
      !strictEq (member ownership "headSha") (headJson head))

namespace Facts

variable (facts : Facts)

def onHead (value : Option Json) : Bool :=
  sameHead value (headJson facts.head)

def forHead (value : Option Json) : Bool :=
  text value = "" || facts.onHead value

def leaseForHead : Bool :=
  facts.lease.present && facts.lease.forHead

def leaseStatusIn (statuses : List String) : Bool :=
  facts.lease.status.any fun status => statuses.contains status

def leaseInFlight : Bool :=
  facts.leaseForHead && facts.leaseStatusIn ["pending", "dispatched"]

def launchForHead : Bool :=
  facts.launch.present && facts.launch.forHead

def launchEnded : Bool :=
  facts.launchForHead && facts.launch.owned = some false

def leaseReferencesLaunch : Bool :=
  facts.leaseForHead && facts.lease.lrqRef.isSome &&
    facts.leaseStatusIn ["pending", "dispatched", "terminal"]

def executionEnabled (wanted : Bool) : Bool :=
  isBool (member facts.policy "autonomousMergeExecutionEnabled") wanted

def execution : Option Json :=
  if facts.onHead (member (member facts.progress "daemonExecution") "headSha") then
    member facts.progress "daemonExecution"
  else none

/-- The reasons the daemon reported, absent where reading them throws. -/
def executionReasons : Option (List (Option Json)) :=
  match facts.execution with
  | none => some []
  | some execution => do
    let details ← spread (execution.get? "reasons")
    pure (execution.get? "reason" :: details.map some)

def reviewedOnHead : Bool :=
  facts.onHead (headJson facts.review.reviewedHead)

def conflicted : Bool :=
  facts.pr.mergeable = some "CONFLICTING" || facts.pr.mergeState = some "DIRTY"

def greenMergeable : Bool :=
  facts.checks.state = .success && facts.pr.mergeable = some "MERGEABLE"

def cleanExactHead : Bool :=
  facts.review.known && facts.review.clean && facts.reviewedOnHead &&
    facts.review.attestation ≠ some .invalid && facts.review.attestation ≠ some .unknown &&
    facts.greenMergeable && facts.pr.mergeState ≠ some "DIRTY"

def daemonFailure : Bool :=
  isOneOf hammerClosableDaemonFailures (member facts.execution "reason") &&
    !isTransientDaemonDecline facts.execution

def safetyRefusal : Option Json :=
  plain (member facts.controls "safetyRefusal")

def primaryChange : Option Json :=
  plain (member facts.progress "primaryChange")

def primaryRefused : Bool :=
  isBool (member facts.primaryChange "ok") false &&
    facts.forHead (member facts.primaryChange "headSha")

def primaryReason : String :=
  (textOr (member facts.primaryChange "reason")).getD "primary-change-unknown"

def stop : Option Json :=
  plain (member facts.controls "stop")

def stopDeterministic : Bool :=
  isBool (member facts.stop "deterministic") true

def hammerCap : Option Json :=
  plain (member facts.policy "hammerCap")

def approvalApplied : Bool :=
  isBool (member facts.hammerCap "operatorApprovalApplied") true &&
    facts.onHead (member facts.hammerCap "headSha")

def lifetimeExhausted : Bool :=
  isBool (member facts.hammerCap "lifetimeExhausted") true

def capExhausted : Bool :=
  facts.lifetimeExhausted ||
    isBool (member facts.hammerCap "retryExhausted") true &&
      facts.forHead (member facts.hammerCap "headSha")

def endedNoMerge (retryable : Bool) : Bool :=
  facts.launchEnded && facts.launch.outcome = some "no-merge" &&
    facts.launch.retryable = some retryable

def holdLabel : Option Label :=
  (facts.labels.getD []).find? fun label => operatorHoldLabels.contains label.name

def handedToReview : Bool :=
  facts.leaseForHead && facts.lease.status = some "handed-to-review"

def headPair (reviewed current : Option Json) : Bool :=
  facts.onHead current && sameHead reviewed (headJson facts.review.reviewedHead)

def terminalHead : Bool :=
  let terminal := member facts.progress "terminalReview"
  isBool (member terminal "validated") true &&
    facts.headPair (member terminal "reviewedHeadSha") (member terminal "headSha") &&
    !facts.handedToReview

def approvedHead : Bool :=
  facts.review.known && facts.review.operatorOverride &&
    facts.review.attestation ≠ some .invalid && facts.greenMergeable

def executionReasonIs (reason : String) : Bool :=
  isText (member facts.execution "reason") reason

def closerCarry : Option Json :=
  plain (member facts.progress "closerAuthoredStale")

def closerPair : Bool :=
  facts.closerCarry.isSome &&
    facts.headPair (member facts.closerCarry "reviewedHead")
      (member facts.closerCarry "currentHead")

def rereviewDecided : Bool :=
  isText (member facts.closerCarry "decision") "rereview-exact-head"

def carryable : Bool :=
  facts.review.currentHeadVerdictAbsent && facts.review.verdict.isSome

def attestedCarry : Bool :=
  facts.carryable && facts.closerPair && isBool (member facts.closerCarry "carryForward") true &&
    !facts.rereviewDecided && !facts.handedToReview

def attested (attestation : Attestation) : Bool :=
  facts.review.attestation = some attestation

section

variable [JsText]

def semanticCarry : Bool :=
  let proof := plain (member facts.progress "contentProof")
  facts.carryable && lower (member proof "kind") = "context-only-rebase" &&
    isBool (member proof "semantic") true &&
    facts.headPair (member proof "fromHead") (member proof "toHead")

def carried : Bool :=
  facts.semanticCarry || facts.attestedCarry || facts.terminalHead

end

/-! The rungs, in the order of the table. -/

def prUnknown : Rung Row :=
  .when (!facts.pr.known || facts.head.isNone) (refresh "pr-unknown")

def terminalRow : Rung Row :=
  .when (facts.pr.merged || facts.pr.closed)
    { row := .terminal, action := .done, actor := .none
      reason := because (if facts.pr.merged then "merged" else "closed")
      deadlineKind := none, queue := .none }

def explicitHold : Rung Row :=
  .when ((facts.labels.getD []).any fun label => operatorHoldLabels.contains label.name &&
      !label.actorKind.any automationActorKinds.contains)
    (holdRow (because "hold-label"))

def draft : Rung Row :=
  .when facts.pr.draft (holdRow (because "draft"))

def executionDisabled : Rung Row :=
  .when (facts.executionEnabled false) (holdRow (because "merge-execution-disabled"))

def ownerRow (action : Action) (actor : Actor) : Row :=
  { row := .liveOwner, action, actor, reason := because "live-owner"
    deadlineKind := some .liveDispatched, queue := .owned }

def liveLaunch : Rung Row :=
  .when (facts.launchForHead && facts.launch.owned = some true)
    { ownerRow .hammer .hammer with
      deadlineAtMs := facts.launch.deadlineMs.or facts.lease.deadlineMs }

def liveJob : Rung Row :=
  .when (facts.remediation.jobLive && facts.remediation.jobStatus = some "in_progress")
    { ownerRow .remediate .remediator with
      deadlineAtMs := facts.remediation.jobDeadlineMs, round := facts.remediation.nextRound }

def liveReviewer : Rung Row :=
  .when facts.review.live (ownerRow .review .reviewer)

def leaseUnreadable : Rung Row :=
  .when (!facts.lease.known) (recoveryRow .ownership "ownership-unreadable")

def launchUnreadable : Rung Row :=
  .when (facts.launchForHead && facts.launch.owned = none ||
      facts.leaseReferencesLaunch && !facts.launch.known)
    (recoveryRow .ownership "ownership-unreadable")

def leaseLive : Bool :=
  match facts.observedMs, facts.lease.deadlineMs with
  | some observed, some deadline => observed < deadline
  | _, _ => false

def leasedRow : Row :=
  if facts.leaseLive then
    { ownerRow .hammer .hammer with
      deadlineKind := some (if facts.lease.status = some "pending" then .livePending
        else .liveDispatched)
      deadlineAtMs := facts.lease.deadlineMs }
  else recoveryRow .ownership "lease-expired"

def leased : Rung Row :=
  .when (facts.leaseInFlight && !facts.launchEnded) facts.leasedRow

def policyUnknown : Rung Row :=
  .when (!facts.executionEnabled true) (refresh "policy-unknown")

def emptyDiff : Rung Row :=
  .when (isBool (member facts.progress "diffEmpty") true)
    (recoveryRow .structural "empty-diff-close")

def refusedSafely : Bool :=
  isBool (member facts.safetyRefusal "deterministic") true

def safety : Rung Row :=
  match facts.executionReasons with
  | none => .throws
  | some reasons =>
    .when (facts.refusedSafely || reasons.any (isOneOf safetyReasons) ||
        facts.daemonFailure && !facts.cleanExactHead)
      (recoveryRow .structural "safety-refusal")

def primaryRow : Row :=
  if ["primary-change-read-failed", "history-read-failed"].contains facts.primaryReason then
    recoveryRow .structural "primary-change-unreadable"
  else if ["primary-change-reverted", "primary-change-unknown"].contains facts.primaryReason then
    hammerRow .structural "primary-change-repair"
  else refresh "structural-restriction-pending"

def primary : Rung Row :=
  .when facts.primaryRefused facts.primaryRow

/-- A stop yields only to a newer review, and then only to the daemon. -/
def stopped (reselected : Option (Rung Row)) (row : Row) (recordedMs : Option Rat)
    (forHead : Bool) : Rung Row :=
  match reselected, recordedMs, facts.review.postedMs with
  | some next, some recorded, some posted =>
    if forHead && facts.review.known && facts.review.clean && facts.reviewedOnHead &&
        recorded < posted then
      match next with
      | .row next => .row (if next.action = .daemonMerge && next.actor = .daemon then next else row)
      | .throws => .throws
      | .pass => .row row
    else .row row
  | _, _, _ => .row row

def infrastructure : Rung Row :=
  .when (facts.checks.infrastructureOnly || facts.checks.infrastructurePending)
    (if facts.conflicted then hammerRow .conflict "conflict-rebase"
    else { row := .pending, action := .waitForCI, actor := .ci
           reason := because (if facts.checks.infrastructureOnly then "ci-infrastructure"
             else "ci-infrastructure-evidence-pending")
           deadlineKind := some .observer, queue := .observe })

def approvalRow (reselecting : Bool) : Rung Row :=
  .when (!reselecting && facts.approvalApplied) (hammerRow .approval "operator-approval-applied")

def pendingRow (reason : String) : Row :=
  { row := .pending, action := .waitForCI, actor := .ci, reason := because reason
    deadlineKind := some .observer, queue := .observe
    extraAnchorMs := [facts.checks.progressMs] }

def resumed : Rung Row :=
  if !facts.onHead (member (plain (member facts.progress "hammerResume")) "headSha") then .pass
  else if facts.conflicted then .row (hammerRow .conflict "conflict-rebase")
  else if facts.checks.state ≠ .failure &&
      (facts.checks.state ≠ .success || facts.pr.mergeable = some "UNKNOWN") then
    .row (facts.pendingRow (if facts.checks.state = .pending then "checks-pending"
      else if facts.checks.state ≠ .success then "checks-unknown" else "mergeability-unknown"))
  else .when (facts.checks.state = .success) (hammerRow .resume "required-checks-resume")

def exhaustedApproved : Rung Row :=
  .when (facts.executionReasonIs "merge-retry-budget-exhausted" && facts.approvedHead)
    (hammerRow .retry "retry-no-merge")

def retryNoMerge (reselecting : Bool) : Rung Row :=
  .when (!reselecting && facts.endedNoMerge true &&
      (!facts.terminalHead || facts.recoveryExpired && facts.leaseForHead &&
        facts.lease.status = some "terminal"))
    { hammerRow .retry "retry-no-merge" with attempt := facts.launch.attempt.map (· + 1) }

/-- The first of the gated label findings; a missing one throws where it is read. -/
def gatedFinding (gated : Json) : Option Json :=
  match gated with
  | .arr items => items.head?
  | .str text => text.toList.head?.map fun char => .str (String.singleton char)
  | gated => gated.get? "0"

/-- Something counts as a non-empty list. -/
def hasLength : Option Json → Bool
  | some (.arr items) => !items.isEmpty
  | some (.str text) => text ≠ ""
  | other => Json.truthy (member other "length")

def labelFindings : Rung Row :=
  let findings := facts.review.operatorLabelFindings
  if facts.review.known && facts.reviewedOnHead && Json.truthy (member findings "allGated") &&
      hasLength (member findings "gated") then
    match (member findings "gated").bind gatedFinding with
    | none | some .null => .throws
    | some finding => .row (holdRow (finding.get? "reason"))
  else .pass

def jobWillBeCreated : Bool :=
  facts.review.known && facts.review.verdict.isSome && facts.review.hasFindings &&
    facts.reviewedOnHead && match facts.review.postedMs with
      | none => false
      | some posted => !facts.onHead (headJson facts.remediation.jobHead) ||
          facts.remediation.jobCreatedMs.any fun created => created < posted

def nonFinalCloseout : Bool :=
  facts.remediation.jobStatus = some "completed" &&
    facts.onHead (headJson facts.remediation.jobHead) && facts.review.known &&
    facts.review.reviewedHead.isSome && !facts.reviewedOnHead

def ciRedRow : Row :=
  if facts.checks.runnerless then hammerRow .ciRed "ci-runnerless"
  else match facts.remediation.roundsLeft with
    | none => refresh "rounds-unknown"
    | some false => hammerRow .ciRed "ci-red-final"
    | some true =>
      if facts.remediation.jobLive || facts.nonFinalCloseout ||
          facts.jobWillBeCreated && !facts.admissionExpired then
        { row := .ciRed, action := .remediate, actor := .remediator, reason := because "ci-red"
          deadlineKind := some .admission, queue := .dispatch
          round := facts.remediation.nextRound }
      else hammerRow .ciRed "ci-red-clean-verdict"

def ciRed : Rung Row :=
  .when (facts.checks.state = .failure) facts.ciRedRow

def conflict : Rung Row :=
  .when facts.conflicted (hammerRow .conflict "conflict-rebase")

def pending : Rung Row :=
  .when (facts.checks.state = .pending || facts.pr.mergeable = some "UNKNOWN")
    (facts.pendingRow (if facts.checks.state = .pending then "checks-pending"
      else "mergeability-unknown"))

def finalPush : Rung Row :=
  .when (facts.review.suppressedFinalPush ||
      facts.remediation.finalPush.any fun head => facts.onHead (headJson head))
    (hammerRow .finalPush "suppressed-final-push")

def reviewsUnknown : Rung Row :=
  .when (!facts.review.known) (refresh "reviews-unknown")

def daemonFailedClosed : Rung Row :=
  .when (facts.daemonFailure && facts.cleanExactHead)
    (hammerRow .daemonFailedClosed "daemon-failed-closed")

def approved : Rung Row :=
  .when facts.approvedHead (daemonRow .approvedHead "clean-exact-head")

def exactHeadReview (reason : String) : Row :=
  if isBool (member facts.policy "reviewCeilingReached") true &&
      !Json.truthy (member facts.policy "exhaustedBuilderHead") then
    hammerRow .review "review-ceiling"
  else { row := .review, action := .review, actor := .reviewer, reason := because reason
         deadlineKind := some .admission, queue := .dispatch }

def attestationInvalid : Rung Row :=
  .when (facts.attested .invalid) (facts.exactHeadReview "attestation-invalid")

def closerRereview : Rung Row :=
  .when (facts.closerPair && facts.rereviewDecided && !facts.terminalHead)
    (facts.exactHeadReview "exact-head-review")

section

variable [JsText]

def receipted : Rung Row :=
  let receipt := plain (member facts.progress "mergeReceipt")
  .when (isBool (member receipt "merged") true && facts.forHead (member receipt "headSha"))
    { recoveryRow .mergeReceipt "merge-receipt-unconfirmed" with
      action := if lower (member receipt "path") = "daemon-merge" then .daemonMerge else .hammer }

def hammerOwned : Rung Row :=
  .when (facts.review.currentHeadVerdictAbsent && !facts.carried && !facts.handedToReview &&
      isHammerOwnedHead (member facts.progress "hammerHead") facts.head)
    { hammerRow .retry "hammer-owned-head" with
      attempt := if facts.launchForHead then facts.launch.attempt.map (· + 1) else none }

def verdictAbsent : Rung Row :=
  .when (facts.review.currentHeadVerdictAbsent && !facts.carried)
    (facts.exactHeadReview (if facts.handedToReview then "handed-to-review"
      else if facts.review.reviewedHead.isSome && facts.review.verdict.isSome then "stale-verdict"
      else "exact-head-review"))

end

def verdictUnknown : Rung Row :=
  .when (facts.review.verdict.isNone && !facts.terminalHead) (refresh "verdict-unknown")

def findingsRow : Row :=
  if facts.handedToReview || facts.attestedCarry then hammerRow .findings "review-findings-final"
  else match facts.remediation.roundsLeft with
    | none => refresh "rounds-unknown"
    | some true =>
      { row := .findings, action := .remediate, actor := .remediator
        reason := because "review-findings", deadlineKind := some .admission, queue := .dispatch
        round := facts.remediation.nextRound }
    | some false => hammerRow .findings "review-findings-final"

/-- R14: findings go to a remaining round or the final hammer. -/
def findings : Rung Row :=
  .when (!facts.review.clean && !facts.terminalHead) facts.findingsRow

def declined : Rung Row :=
  .when facts.execution.isSome
    (if facts.executionReasonIs "merge-retry-budget-exhausted" then
      hammerRow .retry "retry-no-merge"
    else refresh "snapshot-refresh")

section

variable [JsText]

def daemonMerge : Rung Row :=
  .when (facts.greenMergeable && !facts.attested .unknown)
    (daemonRow .daemon (if facts.carried then "carried-clean-head" else "clean-exact-head"))

def otherwise : Rung Row :=
  .row (refresh (if facts.checks.state = .unknown then "checks-unknown"
    else if facts.attested .unknown then "attestation-unknown" else "snapshot-refresh"))

def ownerRungs : List (Rung Row) :=
  [facts.prUnknown, facts.terminalRow, facts.explicitHold, facts.draft, facts.executionDisabled,
    facts.liveLaunch, facts.liveJob, facts.liveReviewer, facts.leaseUnreadable,
    facts.launchUnreadable, facts.leased]

def structuralRungs : List (Rung Row) :=
  [facts.policyUnknown, facts.emptyDiff, facts.safety, facts.primary, facts.receipted]

def workRungs (reselecting : Bool) : List (Rung Row) :=
  [facts.resumed, facts.exhaustedApproved, facts.retryNoMerge reselecting, facts.labelFindings,
    facts.ciRed, facts.conflict, facts.pending, facts.finalPush, facts.reviewsUnknown,
    facts.daemonFailedClosed, facts.approved, facts.attestationInvalid, facts.closerRereview,
    facts.hammerOwned, facts.verdictAbsent, facts.verdictUnknown, facts.findings, facts.declined,
    facts.daemonMerge, facts.otherwise]

variable [JsDate]

def automatedStop (reselected : Option (Rung Row)) : Rung Row :=
  if reselected.isSome && facts.stopDeterministic || facts.holdLabel.isSome then
    facts.stopped reselected (recoveryRow .stop "automated-stop")
      (timeMs (member facts.stop "recordedAt"))
      (facts.holdLabel.isNone && facts.stopDeterministic &&
        facts.forHead (member facts.stop "headSha"))
  else .pass

def capStop (reselected : Option (Rung Row)) : Rung Row :=
  if reselected.isSome && facts.capExhausted then
    facts.stopped reselected
      (recoveryRow .stop (if facts.lifetimeExhausted then "lifetime-exhausted"
        else "retry-exhausted"))
      (timeMs (member facts.hammerCap "recordedAt")) true
  else .pass

def finalStop (reselected : Option (Rung Row)) : Rung Row :=
  if reselected.isSome && facts.endedNoMerge false then
    facts.stopped reselected
      { recoveryRow .stop "hammer-final-no-merge" with attempt := facts.launch.attempt }
      facts.launch.terminalMs true
  else .pass

def stopRungs (reselected : Option (Rung Row)) : List (Rung Row) :=
  [facts.automatedStop reselected, facts.infrastructure, facts.approvalRow reselected.isNone,
    facts.capStop reselected, facts.finalStop reselected]

def ladder (reselected : Option (Rung Row)) : List (Rung Row) :=
  facts.ownerRungs ++ facts.structuralRungs ++ facts.stopRungs reselected ++
    facts.workRungs reselected.isNone

def reselect : Rung Row :=
  Rung.climb (facts.ladder none)

def selectRow : Rung Row :=
  Rung.climb (facts.ladder (some facts.reselect))

end

/-- Readable evidence shows that nobody is at work. -/
def ownerAbsent : Bool :=
  facts.lease.known && facts.launch.known &&
    (!facts.launch.present || facts.launch.owned = some false) &&
    !facts.launch.retryChainUnreadable && !facts.remediation.jobLive && !facts.review.live &&
    !(facts.lease.present && facts.leaseStatusIn ["pending", "dispatched"] &&
      !(facts.launch.forHead && facts.launch.owned = some false) &&
      match facts.lease.deadlineMs with
        | none => true
        | some deadline => facts.observedMs.getD 0 < deadline)

/-- Something needs new evidence or input before a hammer may go. -/
def recoveryBlocked : Bool :=
  !facts.executionEnabled true ||
    isBool (member (member facts.controls "safetyRefusal") "deterministic") true ||
    isBool (member (member facts.controls "stop") "deterministic") true ||
    facts.holdLabel.isSome ||
    isBool (member (member facts.progress "primaryChange") "ok") false ||
    isBool (member facts.progress "diffEmpty") true ||
    facts.launch.forHead && facts.launch.outcome = some "no-merge" &&
      facts.launch.retryable = some false ||
    facts.capExhausted

def recoverLapsedRow (selected : Row) : Row :=
  if !facts.recoveryExpired || selected.actor ≠ .closureRecovery then selected
  else if !facts.ownerAbsent || facts.recoveryBlocked ||
      !isOneOf ["lease-expired", "merge-receipt-unconfirmed"] selected.reason then selected
  else { selected with action := .hammer, actor := .hammer, queue := .dispatch }

end Facts

/-- Why a dispatch is deferred. -/
inductive Deferral where
  | drain
  | capacity
  deriving DecidableEq

def Actor.dispatchKey : Actor → Option String
  | reviewer => some "reviewer"
  | remediator => some "remediator"
  | hammer => some "hammer"
  | _ => Option.none

def constraintFor [JsText] (facts : Facts) (selected : Row) : Option (Option Deferral) :=
  match selected.queue, selected.actor.dispatchKey with
  | .dispatch, some key =>
    let drain := plain (member facts.policy "drain")
    let capacity := plain (member (plain (member facts.policy "capacity")) key)
    if isBool (member drain "active") true then
      match Json.nullishText (member drain "epoch") with
      | .ok _ => some (some .drain)
      | .error _ => none
    else match finite (member capacity "inFlight"), finite (member capacity "cap") with
      | some inFlight, some cap => some (if cap ≤ inFlight then some .capacity else none)
      | _, _ => some none
  | _, _ => some none

inductive AnchorSource where
  | durable
  | observed
  | owner
  | none
  deriving DecidableEq

structure Deadline where
  dueAt : Option String
  anchoredAt : Option String
  anchorSource : AnchorSource
  kind : DeadlineKind

structure Decision where
  action : Action
  actor : Actor
  reason : Option Json
  deadline : Option Deadline
  head : Option String
  round : Option Rat
  attempt : Option Rat
  row : RowName
  intent : QueueIntent
  deferredBy : Option Deferral

section

variable [JsText] [JsDate]

def anchorFor (snapshot : Json) (observedMs : Option Rat) (extraMs : List Rat) :
    Option Rat × AnchorSource :=
  let anchors := match snapshot.get? "anchors" with
    | some (.obj members) => members.filterMap fun anchor => timeMs (some anchor.2)
    | _ => []
  let durable := (anchors ++ extraMs).filter fun ms => observedMs.all (ms ≤ ·)
  match maxMs durable with
  | some ms => (some ms, .durable)
  | none => (observedMs, if observedMs.isNone then .none else .observed)

/-- The canonical text of an instant, absent where it is outside the date range and throws. -/
def iso (ms : Option Rat) : Option (Option String) :=
  match ms with
  | none => some none
  | some ms => (JsDate.toISOString (ms.num.tdiv ms.den)).map some

/-- The deadline of a row, absent where making its texts throws. -/
def deadline (snapshot : Json) (observedMs : Option Rat) (kind : DeadlineKind)
    (atMs : Option Rat) (extraMs : List Rat) : Option Deadline := do
  let (anchorMs, source) := anchorFor snapshot observedMs extraMs
  let dueAt ← iso (atMs.or (anchorMs.map (· + kind.budgetMs)))
  let anchoredAt ← iso anchorMs
  pure { dueAt, anchoredAt, anchorSource := if atMs.isSome then .owner else source, kind }

def expired (snapshot : Json) (observedMs : Option Rat) (kind : DeadlineKind) : Option Bool := do
  let due ← deadline snapshot observedMs kind none []
  pure (match observedMs, due.dueAt with
    | some observed, some dueAt => (timeMs (some (.str dueAt))).getD 0 ≤ observed
    | _, _ => false)

variable [CheckRollups] [LaunchSdk]

def decide? (snapshot : Json) : Option (Facts × Row) := do
  let read ← snapshotFacts snapshot
  let admissionExpired ← expired snapshot read.observedMs .admission
  let recoveryExpired ← expired snapshot read.observedMs .recovery
  let facts := { read with admissionExpired, recoveryExpired }
  match facts.selectRow with
  | .row selected => pure (facts, facts.recoverLapsedRow selected)
  | _ => none

def decided (snapshot : Json) (head : Option String) (observedMs : Option Rat)
    (deferredBy : Option Deferral) (selected : Row) : Option Decision := do
  let due ← match selected.deadlineKind with
    | none => some none
    | some kind => (deadline snapshot observedMs kind selected.deadlineAtMs
        (selected.extraAnchorMs.filterMap id)).map some
  pure { action := selected.action, actor := selected.actor, reason := selected.reason
         deadline := due, head, round := selected.round, attempt := selected.attempt
         row := selected.row, intent := selected.queue, deferredBy }

def nextAction (snapshot : Json) : Option Decision :=
  match decide? snapshot with
  | some (facts, selected) => do
    let deferredBy ← constraintFor facts selected
    decided snapshot facts.head facts.observedMs deferredBy selected
  | none => decided snapshot none none none (refresh "snapshot-malformed")

end

end AdversarialReview.NextAction
