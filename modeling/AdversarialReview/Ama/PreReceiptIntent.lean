import AdversarialReview.Ama.LeaseOwners
import AdversarialReview.Library.JsDate

/-! Settling a closer launch that was interrupted before its receipt was written down. -/

namespace AdversarialReview.Ama

/-- The engine's parser, and its reading of numbers with the infinite ones kept apart. -/
class IntentEngine where
  parse : String → Except String Json
  number : Option Json → JsDouble

structure SubmitterProbe where
  watcher : Json
  submitter : Json
  key : Json

namespace SubmitterProbe

def toJson (probe : SubmitterProbe) : Json :=
  .obj [("watcher", probe.watcher), ("submitter", probe.submitter), ("key", probe.key)]

def anyLive (probe : SubmitterProbe) : Bool :=
  [probe.watcher, probe.submitter, probe.key].any fun part =>
    Json.isText (part.get? "status") "live"

/-- Neither process is left, and nobody has the key. -/
def submitterGone (probe : SubmitterProbe) : Bool :=
  Json.isText (probe.watcher.get? "status") "gone" &&
    Json.isText (probe.submitter.get? "status") "gone" &&
    Json.isText (probe.key.get? "status") "absent"

end SubmitterProbe

/-- What a read of the ledger throws. -/
structure LedgerFault where
  message : String
  code : Option String

structure RetryCharge where
  jobKey : Option Json
  headSha : Option Json
  dispatchKey : Option Json
  launchRequestId : Option Json
  now : String

/-- The steps of a reconciliation. -/
inductive IntentEffect : Type → Type 1 where
  /-- Lock the pull request's intents; refused while another writer has them. -/
  | tryLock : IntentEffect (Except String Bool)
  | unlock : IntentEffect Unit
  | readRecord : IntentEffect (Except String (Option String))
  | readLease (identity : LeaseIdentity) : IntentEffect (Except String (Option CloserLease))
  | clock : IntentEffect String
  | readPullRequest : IntentEffect (Except String (Option Json))
  | aborted : IntentEffect (Option String)
  | pidAlive (pid : Option Json) : IntentEffect (Option Bool)
  | probeSubmitter (record : Json) (lease : CloserLease) : IntentEffect SubmitterProbe
  | lookup (query : Json) : IntentEffect (Except LedgerFault (Option Json))
  | delay (ms : Nat) : IntentEffect (Except String Unit)
  | recordRetry (charge : RetryCharge) : IntentEffect (Except String Unit)
  | beforeSettlement (next : Json) : IntentEffect (Except String Unit)
  /-- A step of a call that changes the lease. -/
  | lease {β : Type} (effect : LeaseEffect β) : IntentEffect β
  | deliverAlert (text : String) (payload : Json) : IntentEffect (Except String Unit)
  | writeRecord (record : Json) : IntentEffect (Except String Unit)

abbrev IntentProg := Prog IntentEffect

def attemptIntent {α : Type} (effect : IntentEffect (Except String α)) : IntentProg α :=
  (Prog.perform effect).bind Prog.raise

def onLease {α : Type} : LeaseProg α → IntentProg α
  | .pure value => .pure value
  | .fail message => .fail message
  | .step effect next => .step (.lease effect) fun answer => onLease (next answer)

def racedMutations : List String :=
  ["closer lease is owned by another mutation", "closer lease changed during evidence lookup"]

/-- A change of a lease, absent where another one was first. -/
def unlessRaced {α : Type} : IntentProg α → IntentProg (Option α)
  | .pure value => .pure (some value)
  | .fail message => if message ∈ racedMutations then .pure none else .fail message
  | .step effect next => .step effect fun answer => unlessRaced (next answer)

def tolerated {α : Type} (effect : IntentEffect (Except String α)) : IntentProg (Option α) :=
  (Prog.perform effect).bind fun answer => .pure answer.toOption

def throwIfAborted : IntentProg Unit :=
  (Prog.perform .aborted).bind fun reason => match reason with
    | none => .pure ()
    | some message => .fail message

structure IntentCall where
  identity : LeaseIdentity
  leaseHeadSha : Option Json := none
  prMetadata : Option Json := none
  now : Option String := none
  operatorSettlement : Bool := false
  dryRun : Bool := false
  hostname : String
  timeoutMs : Rat

inductive Reconciled where
  | unchanged
  | held (reason : String) (evidence : Option Json)
  | settled (status : String) (changed : Bool) (record : Json) (evidence : Option Json)

section

variable [JsText] [JsDate] [JsJson] [IntentEngine]

def isPreReceiptIntent (record : Option Json) : Bool :=
  isOneOf (Json.member record "state") ["dispatching", "dispatch-interrupted"]

/-- Two numbers are strictly equal; what is no number equals nothing. -/
def sameNumber : JsDouble → JsDouble → Bool
  | .finite first, .finite second => first = second
  | .infinite first, .infinite second => first = second
  | _, _ => false

def sameLease (first second : Option CloserLease) : Bool :=
  JsJson.stringify ((first.map CloserLease.toJson).getD .null) =
    JsJson.stringify ((second.map CloserLease.toJson).getD .null)

def prStateText (pr : Option Json) : String :=
  JsText.toUpperCase (shown (Json.orTruthy (Json.member pr "prState")
    (Json.orTruthy (Json.member pr "state") (some (.str "")))))

def isTerminalCloserPullRequest (pr : Option Json) : Bool :=
  Json.isBool (Json.member pr "isOpen") false || Json.isBool (Json.member pr "isMerged") true ||
    Json.isBool (Json.member pr "merged") true || prStateText pr ∈ ["CLOSED", "MERGED"]

def isOpenPullRequest (pr : Option Json) : Bool :=
  Json.isBool (Json.member pr "isOpen") true || prStateText pr = "OPEN"

def dateParse (value : Option Json) : Except String (Option Int) :=
  match value with
  | none => .ok (JsDate.parse "undefined")
  | some value =>
    match JsText.string value with
    | some text => .ok (JsDate.parse text)
    | none => .error conversionError

/-- Until when the submitter of an intent is waited for. -/
structure IntentDeadline where
  firstObservedAt : Option Json
  deadlineAt : Option Json
  passed : Bool

def timedOut (started : Option Int) (timeout : JsDouble) : Option Int :=
  let after (start : Int) (ms : Rat) : Option Int :=
    match JsDouble.add (.finite start) (.finite (min ms (2 ^ 31 - 1))) with
    | .finite value => some (if 0 ≤ value then value.floor else value.ceil)
    | _ => none
  match started, timeout with
  | some start, .finite ms => if 0 < ms then after start ms else none
  | some start, .infinite false => after start (2 ^ 31 - 1)
  | _, _ => none

def intentDeadline (record : Json) (now : String) : Except String IntentDeadline := do
  let prior := record.get? "preReceiptReconciliation"
  let observed ← dateParse (Json.member prior "firstObservedAt")
  let firstObservedAt :=
    if observed.isSome then Json.member prior "firstObservedAt" else some (.str now)
  let started ← dateParse (record.get? "lastAttemptedAt")
  let timeout := IntentEngine.number (record.get? "dispatchTimeoutMs")
  let recorded ← dateParse (Json.member prior "deadlineAt")
  let deadlineAt ←
    if recorded.isSome && Json.truthy (Json.member prior "deadlineAt") then
      pure (Json.member prior "deadlineAt")
    else do
      let observed ← dateParse firstObservedAt
      let due := (timedOut started timeout).or (observed.map fun observed => observed + 30 * 60000)
      match due.bind JsDate.toISOString with
      | some text => pure (some (Json.str text))
      | none => throw "Invalid time value"
  let deadline ← dateParse deadlineAt
  let passed := match JsDate.parse now, deadline with
    | some now, some deadline => decide (deadline ≤ now)
    | _, _ => false
  return ⟨firstObservedAt, deadlineAt, passed⟩

def closerTicket (record : Json) : String :=
  "AMA-PR-" ++ shown (record.get? "prNumber")

def closerHead (record : Json) : Option Json :=
  Json.orTruthy (record.get? "targetRemediationSha") (record.get? "headSha")

def lastSegment (text : String) : String :=
  String.ofList (text.toList.reverse.takeWhile fun char => char ≠ '/').reverse

def closerLaunchMatches (record : Json) (row : Option Json) : Except String Bool := do
  if Json.isBool (Json.member row "identity_ambiguous") true ||
      !Json.isText (Json.member row "ticket_ref") (closerTicket record) then
    return false
  let targeted ← match Json.member row "target_repo" with
    | none | some .null => pure true
    | some (.str target) =>
      match record.get? "repo" with
      | some (.str repo) =>
        pure (JsText.toLowerCase target ∈ [repo, lastSegment repo].map JsText.toLowerCase)
      | _ => throw "record.repo.split is not a function"
    | some _ => pure false
  return targeted && (!Json.truthy (Json.member row "head_sha") ||
    Json.strictEq (Json.member row "head_sha") (closerHead record))

def answeredRows (answer : Option Json) : Option (List Json) :=
  if Json.truthy (Json.member answer "ok") then Json.items? (Json.member answer "rows") else none

def lookedUp (answer : Option Json) : Bool :=
  Json.isBool (Json.member answer "ok") true && (Json.items? (Json.member answer "rows")).isSome

def orNull (value : Option Json) : Json :=
  (Json.orTruthy value (some .null)).getD .null

def attemptEvidence (answer : Option Json) : Json :=
  .obj [("ok", .bool (lookedUp answer)), ("reason", orNull (Json.member answer "reason")),
    ("detail", orNull (Json.member answer "detail"))]

/-- What a lookup's last try answered, and all its tries. -/
structure LedgerProbe where
  answer : Option Json
  attempts : List Json

def transientFaults : List String :=
  ["ETIMEDOUT", "ECONNRESET", "ECONNREFUSED", "EIO"]

def tryLookup (query : Json) : IntentProg (Option Json) := do
  throwIfAborted
  match ← Prog.perform (.lookup query) with
  | .ok answer => return answer
  | .error fault =>
    throwIfAborted
    return some (.obj [("ok", .bool false), ("reason", .str "ledger-read-failed"),
      ("detail", .str fault.message),
      ("transient", .bool (fault.code.any fun code => code ∈ transientFaults))])

def lookupFrom (query : Json) (earlier : List Json) : Nat → IntentProg LedgerProbe
  | 0 => do
    let answer ← tryLookup query
    return ⟨answer, earlier ++ [attemptEvidence answer]⟩
  | left + 1 => do
    let answer ← tryLookup query
    let attempts := earlier ++ [attemptEvidence answer]
    if lookedUp answer || !Json.truthy (Json.member answer "transient") then
      return ⟨answer, attempts⟩
    else
      attemptIntent (.delay (100 * attempts.length))
      lookupFrom query attempts left

def lookupReceipt (query : Json) : IntentProg LedgerProbe :=
  lookupFrom query [] 2

/-- A lookup, as a record keeps it. -/
def queryEvidence (query : Json) (answer : Option Json) (attempts : List Json) : Json :=
  let rows := answeredRows answer
  let target := Json.member answer "target"
  let written := (((((((query.set "ok" (.bool rows.isSome)).set "rowCount"
    ((rows.map fun rows => Json.num rows.length).getD .null)).set "backend"
      (orNull (Json.member target "backend"))).set "source"
        (orNull (Json.member target "source"))).set "reason"
          (if rows.isSome then .null else orNull (Json.orTruthy (Json.member answer "reason")
            (some (.str "ledger-lookup-unreadable"))))).set "detail"
              (if rows.isSome then .null else orNull (Json.member answer "detail"))).set
                "attempts" (.arr attempts))
  let proven := if Json.truthy (Json.member answer "absenceProof") then
      written.set "absenceProof" (orNull (Json.member answer "absenceProof"))
    else written
  proven.set "launchRequestIds" (.arr ((rows.getD []).filterMap fun row =>
    ((row.get? "launch_request_id").bind Json.text?).map Json.str))

end

/-- The evidence that one reconciliation gathered. -/
structure IntentEvidence where
  record : Json
  lease : Option CloserLease
  now : String
  pr : Option Json
  hostname : String
  operatorSettlement : Bool
  /-- The local process of a pending lease is gone. -/
  localDead : Bool
  processes : Option SubmitterProbe
  deadline : IntentDeadline
  started : Option Int
  rows : Option (List Json)
  /-- An operator's lookup of the whole ticket past the deadline found nothing. -/
  operatorAbsence : Bool
  query : Json

def CloserLease.pendingUnlaunched (lease : CloserLease) : Bool :=
  Json.isText lease.status pending && !Json.truthy (lease.get? "lrqId")

def CloserLease.deferredUnlaunched (lease : CloserLease) : Bool :=
  Json.isText lease.status terminal && Json.isText (lease.get? "terminalOutcome") "deferred" &&
    !Json.truthy (lease.get? "lrqId")

def CloserLease.isLocal (hostname : String) (lease : CloserLease) : Bool :=
  !Json.truthy (lease.get? "holderHost") || Json.isText (lease.get? "holderHost") hostname

namespace IntentEvidence

variable (evidence : IntentEvidence)

def legacy : Bool := !Json.truthy (evidence.record.get? "dispatchIdempotencyKey")

def matchingLease : Bool :=
  Json.strictEq (evidence.lease.bind fun lease => lease.get? "acquiredAt")
    (evidence.record.get? "lastAttemptedAt")

def settledNoLaunch : Bool :=
  evidence.matchingLease && evidence.lease.any CloserLease.deferredUnlaunched

def promotedLease : Bool :=
  !evidence.legacy && evidence.matchingLease && evidence.lease.any fun lease =>
    Json.isText lease.status dispatched && Json.truthy (lease.get? "lrqId")

def matchingPendingLease : Bool :=
  (evidence.legacy || evidence.lease.all fun lease => lease.isLocal evidence.hostname) &&
    evidence.matchingLease && evidence.lease.any CloserLease.pendingUnlaunched

def foreignLease : Bool :=
  evidence.lease.isSome && !evidence.matchingPendingLease &&
    !(evidence.matchingLease && evidence.localDead) && !evidence.settledNoLaunch &&
    !evidence.promotedLease

def canProbeSubmitter : Bool :=
  evidence.matchingPendingLease || (evidence.settledNoLaunch &&
    evidence.lease.all fun lease => lease.isLocal evidence.hostname)

def deadSubmitter : Bool := evidence.processes.any SubmitterProbe.submitterGone

def leaseLaunch : Option Json := evidence.lease.bind fun lease => lease.get? "lrqId"

def receipt : Option Json :=
  match evidence.rows with
  | some [row] => some row
  | _ => none

section

variable [JsText]

/-- The scope that both lookups share. -/
def scope (record : Json) : List (String × Json) :=
  let project := Json.orTruthy (record.get? "hqProject")
    (some (.str "adversarial-merge-authority"))
  [("projectRef", project.getD .null), ("repo", (record.get? "repo").getD .null)]

def ticketQuery (record : Json) (timeoutMs : Rat) : Json :=
  .obj (scope record ++ [("kind", .str "launch-requests-for-ticket-since"),
    ("ticketRef", .str (closerTicket record)),
    ("requestedAtOrAfter", (record.get? "lastAttemptedAt").getD .null), ("limit", .num 1),
    ("timeoutMs", .num timeoutMs)])

def keyQuery (record : Json) (timeoutMs : Rat) : Json :=
  .obj (scope record ++ [("kind", .str "launch-request-by-idempotency-key"),
    ("idempotencyKey", (record.get? "dispatchIdempotencyKey").getD .null), ("limit", .num 2),
    ("timeoutMs", .num timeoutMs)])

/-- A launch of another ticket answered the lookup. -/
def foreignReceipt : Bool :=
  let ticket := (Json.member evidence.receipt "ticket_ref").bind Json.text?
  !Json.isBool (Json.member evidence.receipt "identity_ambiguous") true &&
    ticket.any fun ticket => ticket ≠ "" ∧ ticket ≠ closerTicket evidence.record

def matchingReceipt : Except String Bool := do
  let id := (Json.member evidence.receipt "launch_request_id").bind Json.text?
  if !evidence.legacy && Json.truthy evidence.receipt &&
      Json.strictEq (Json.member evidence.receipt "idempotency_key")
        (evidence.record.get? "dispatchIdempotencyKey") &&
      id.any (fun id => "lrq_".toList.isPrefixOf id.toList) then
    closerLaunchMatches evidence.record evidence.receipt
  else return false

def keyedAbsenceAllowed : Bool :=
  !evidence.operatorSettlement || (evidence.deadline.passed && evidence.operatorAbsence &&
    (evidence.rows.all List.isEmpty || evidence.foreignReceipt))

def misattributedLease : Bool :=
  evidence.operatorSettlement && evidence.operatorAbsence && evidence.promotedLease &&
    Json.strictEq (evidence.record.get? "launchRequestId") evidence.leaseLaunch &&
    Json.strictEq (Json.member evidence.receipt "launch_request_id") evidence.leaseLaunch &&
    evidence.foreignReceipt

def noRows : Bool := evidence.rows.any List.isEmpty

/-- The evidence admits that the launch never happened. -/
def provesAbsence : Bool :=
  !evidence.foreignLease && !evidence.processes.any SubmitterProbe.anyLive &&
    ((evidence.legacy && evidence.noRows && evidence.started.isSome) ||
      (!evidence.legacy && evidence.keyedAbsenceAllowed &&
        (!evidence.promotedLease || evidence.misattributedLease) && evidence.deadline.passed &&
        (evidence.noRows || evidence.operatorAbsence)) ||
      (!evidence.legacy && evidence.keyedAbsenceAllowed && evidence.deadSubmitter &&
        evidence.noRows) ||
      (!evidence.legacy && evidence.keyedAbsenceAllowed && evidence.matchingLease &&
        (evidence.localDead || evidence.settledNoLaunch) &&
        Json.isText (evidence.record.get? "dispatchPhase") "prepared" && evidence.noRows))

/-- The row is the launch that the record lost. -/
def recoverable (matching : Bool) : Bool :=
  !evidence.foreignLease && matching &&
    (!Json.truthy evidence.leaseLaunch || Json.strictEq evidence.leaseLaunch
      (Json.member evidence.receipt "launch_request_id")) && !evidence.settledNoLaunch

/-- What the lookups say, with what was wrong about their row. -/
def noted (matching : Bool) : Json :=
  let mismatched :=
    if !evidence.legacy && Json.truthy evidence.receipt && !matching then
      evidence.query.set "receiptIdentityMismatch" (.obj
        [("ticketRef", orNull (Json.member evidence.receipt "ticket_ref")),
          ("targetRepo", orNull (Json.member evidence.receipt "target_repo")),
          ("headSha", orNull (Json.member evidence.receipt "head_sha"))])
    else evidence.query
  if evidence.misattributedLease then
    mismatched.set "misattributedLeaseLaunchRequestId" (evidence.leaseLaunch.getD .null)
  else mismatched

def processMembers : List (String × Json) :=
  evidence.processes.toList.map fun probe => ("processes", probe.toJson)

def recoveredRecord (noted : Json) : Json :=
  let id := (Json.member evidence.receipt "launch_request_id").getD .null
  let dispatchedAt := Json.orTruthy (Json.member evidence.receipt "requested_at")
    (evidence.record.get? "lastAttemptedAt")
  (((((((evidence.record.set "state" (.str dispatched)).set "launchRequestId" id).set "dispatchId"
    id).set "dispatchedAt" (dispatchedAt.getD .null)).set "lastObservedStatus"
      (.str "unknown")).set "lastObservedAt" (.str evidence.now)).set "lastError" .null).set
        "preReceiptReconciliation" (.obj [("status", .str "receipt-recovered"),
          ("observedAt", .str evidence.now), ("query", noted)])

def absenceReason : String :=
  if evidence.legacy then "legacy-no-launch-proven"
  else if evidence.operatorAbsence then "closer-ticket-no-launch-proven"
  else if evidence.deadline.passed then "keyed-no-launch-proven"
  else if evidence.deadSubmitter then "dead-submitter-no-launch-proven"
  else "interrupted-before-submission"

def refundedRetries [IntentEngine] : Json :=
  let spent :=
    IntentEngine.number (Json.orTruthy (evidence.record.get? "retryCount") (some (.num 0)))
  match spent.sub (.finite 1) with
  | .finite value => .num (max 0 value)
  | .infinite true => .num 0
  | _ => .null

def absentRecord [IntentEngine] (noted : Json) : Json :=
  let reason := Json.str evidence.absenceReason
  (((((evidence.record.set "state" (.str "no-dispatch")).set "reason" reason).set "retryCount"
    evidence.refundedRetries).set "launchRequestId" .null).set "dispatchId" .null).set
      "preReceiptReconciliation" (.obj ([("status", .str "no-launch"), ("reason", reason),
        ("observedAt", .str evidence.now), ("query", noted)] ++ evidence.processMembers))

/-- Why the launch is neither recovered nor declared absent. -/
def unknownReason (budgetUnreadable : Bool) : String :=
  if evidence.foreignLease then "lease-ownership-unresolved"
  else if budgetUnreadable then "receipt-budget-unreadable"
  else match evidence.legacy, evidence.rows with
    | true, some (_ :: _) => "legacy-launch-in-range"
    | true, _ => "legacy-intent-without-key"
    | false, none => "receipt-lookup-unreadable"
    | false, some [] => "submission-absence-unproven"
    | false, some (_ :: _) => "receipt-identity-ambiguous"

def diagnosticStatus : String :=
  if evidence.deadline.passed then "inspection-required" else "unknown"

def diagnosedRecord (budgetUnreadable : Bool) (noted : Json) : Json :=
  let prior := evidence.record.get? "preReceiptReconciliation"
  let alerted := Json.member prior "alertedAt"
  evidence.record.set "preReceiptReconciliation" (.obj
    ([("status", .str evidence.diagnosticStatus),
      ("firstObservedAt", evidence.deadline.firstObservedAt.getD .null),
      ("deadlineAt", evidence.deadline.deadlineAt.getD .null), ("observedAt", .str evidence.now),
      ("reason", .str (evidence.unknownReason budgetUnreadable))] ++ evidence.processMembers ++
      [("query", noted)] ++
      if Json.truthy alerted then [("alertedAt", alerted.getD .null)] else []))

/-- The same diagnostics were written less than a minute ago. -/
def alreadyDiagnosed [JsDate] [JsJson] (budgetUnreadable : Bool) (noted : Json) :
    Except String Bool := do
  let prior := evidence.record.get? "preReceiptReconciliation"
  let text (value : Option Json) : Option String := value.map JsJson.stringify
  if Json.isText (Json.member prior "status") evidence.diagnosticStatus &&
      Json.isText (Json.member prior "reason") (evidence.unknownReason budgetUnreadable) &&
      text (Json.member prior "query") = text (some noted) &&
      text (Json.member prior "processes") =
        text (evidence.processes.map SubmitterProbe.toJson) then
    let observed ← dateParse (Json.member prior "observedAt")
    return match JsDate.parse evidence.now, observed with
      | some now, some observed => decide (now - observed < 60000)
      | _, _ => false
  else return false

end

end IntentEvidence

section

variable [JsText] [JsDate] [JsJson] [IntentEngine] [RepositoryNames]

def intentSnapshotMatches (bytes : String) (identity : LeaseIdentity)
    (lease : Option CloserLease) : IntentProg Bool := do
  match ← Prog.perform .readRecord with
  | .error _ => return false
  | .ok current =>
    if current ≠ some bytes then return false
    else match ← Prog.perform (.readLease identity) with
      | .error _ => return false
      | .ok now => return sameLease now lease

def writeSettled (call : IntentCall) (record : Json) (next : Option Json) (status : String)
    (noted : Json) : IntentProg Reconciled := do
  match next with
  | some written =>
    if !call.dryRun then attemptIntent (.writeRecord written)
    return .settled status true written (some noted)
  | none => return .settled status false record (some noted)

/-- The text of the page for an intent that a person has to look at. -/
def inspectionAlert (record : Json) (reason : Option Json) : String :=
  let member (key : String) := shown (record.get? key)
  "Closer intent requires inspection for " ++ member "repo" ++ "#" ++ member "prNumber" ++
    ", head " ++ member "headSha" ++ ": " ++ shown reason ++
    ". This PR/head is held; other closers may proceed."

/-- What the page carries besides its text. -/
def inspectionPayload (record : Json) (reason : Option Json) : Json :=
  .obj [("repo", (record.get? "repo").getD .null),
    ("prNumber", (record.get? "prNumber").getD .null),
    ("headSha", (record.get? "headSha").getD .null), ("reason", reason.getD .null),
    ("dispatchIdempotencyKey", orNull (record.get? "dispatchIdempotencyKey")),
    ("lastAttemptedAt", orNull (record.get? "lastAttemptedAt"))]

def alertAndWrite (call : IntentCall) (evidence : IntentEvidence) (bytes : String)
    (identity : LeaseIdentity) (next : Option Json) (status : String) (noted : Json) :
    IntentProg Reconciled := do
  let current := next.getD evidence.record
  let diagnosed := current.get? "preReceiptReconciliation"
  if !call.dryRun && Json.isText (Json.member diagnosed "status") "inspection-required" &&
      !Json.truthy (Json.member diagnosed "alertedAt") then
    let reason := Json.member diagnosed "reason"
    let alerted ← tolerated (.deliverAlert (inspectionAlert evidence.record reason)
      (inspectionPayload evidence.record reason))
    let paged := alerted.map fun _ => current.set "preReceiptReconciliation"
      ((diagnosed.getD .null).set "alertedAt" (.str evidence.now))
    -- The alert can yield too, and a record that replaced this one stays.
    if ← intentSnapshotMatches bytes identity evidence.lease then
      writeSettled call evidence.record (paged.or next) status noted
    else return .held "intent-or-lease-changed" none
  else writeSettled call evidence.record next status noted

def leaseUpdateOf (evidence : IntentEvidence) (identity : LeaseIdentity) (lease : CloserLease)
    (status : String) (lrqId terminalOutcome : Option Json) : LeaseUpdate where
  repo := identity.repo
  prNumber := identity.prNumber
  headSha := identity.headSha
  status := some (.str status)
  lrqId := lrqId
  workerId := evidence.record.get? "workerId"
  dispatchedAt := evidence.record.get? "dispatchedAt"
  terminalOutcome := terminalOutcome
  now := some (.str evidence.now)
  expectedLease := some lease.toJson

def recoverReceipt (call : IntentCall) (evidence : IntentEvidence) (bytes : String)
    (identity : LeaseIdentity) (noted : Json) : IntentProg Reconciled := do
  let settle := alertAndWrite call evidence bytes identity (some (evidence.recoveredRecord noted))
    "receipt-recovered" noted
  match evidence.lease with
  | some lease =>
    if !call.dryRun && !evidence.promotedLease then
      let update := leaseUpdateOf evidence identity lease dispatched
        (Json.member evidence.receipt "launch_request_id") (evidence.record.get? "terminalOutcome")
      match ← unlessRaced (onLease (updateAmaCloserLease update)) with
      | none => return .held "lease-mutation-raced" none
      | some _ => settle
    else settle
  | none => settle

def settleAbsence (call : IntentCall) (evidence : IntentEvidence) (bytes : String)
    (identity : LeaseIdentity) (noted : Json) : IntentProg Reconciled := do
  let next := evidence.absentRecord noted
  let settle := alertAndWrite call evidence bytes identity (some next) "no-launch" noted
  if call.dryRun then settle
  else
    attemptIntent (.beforeSettlement next)
    match evidence.lease with
    | none => settle
    | some lease =>
      if evidence.misattributedLease then
        -- Only the local attribution is removed; its worker is nobody's here.
        if ← onLease (deleteAmaCloserLeaseIfCurrent lease) then settle
        else return .held "lease-mutation-raced" (some noted)
      else
        let update := leaseUpdateOf evidence identity lease terminal
          (evidence.record.get? "lrqId") (some (.str "deferred"))
        match ← unlessRaced (onLease (updateAmaCloserLease update)) with
        | none => return .held "lease-mutation-raced" (some noted)
        | some _ => settle

def chargeRetry (call : IntentCall) (evidence : IntentEvidence) (recoverable : Bool) :
    IntentProg Bool := do
  if recoverable && !call.dryRun &&
      "hammer".toList.isPrefixOf (shown (evidence.record.get? "workerClass")).toList then
    let reviewed := evidence.record.get? "reviewedSha"
    let charged ← tolerated (.recordRetry
      { jobKey := Json.orTruthy reviewed (evidence.record.get? "headSha")
        headSha := closerHead evidence.record
        dispatchKey := evidence.record.get? "dispatchIdempotencyKey"
        launchRequestId := Json.member evidence.receipt "launch_request_id"
        now := evidence.now })
    return charged.isNone
  else return false

def settleIntent (call : IntentCall) (evidence : IntentEvidence) (bytes : String)
    (identity : LeaseIdentity) : IntentProg Reconciled := do
  let matching ← Prog.raise evidence.matchingReceipt
  let noted := evidence.noted matching
  let recoverable := evidence.recoverable matching
  if call.operatorSettlement && recoverable then
    return .held "closer-receipt-exists" (some noted)
  else
    let budgetUnreadable ← chargeRetry call evidence recoverable
    if (!recoverable || budgetUnreadable) && !isOpenPullRequest evidence.pr then
      return .held "pr-state-unreadable" none
    else if recoverable && !budgetUnreadable then
      recoverReceipt call evidence bytes identity noted
    else if evidence.provesAbsence then
      settleAbsence call evidence bytes identity noted
    else
      let repeated ← Prog.raise (evidence.alreadyDiagnosed budgetUnreadable noted)
      let next := evidence.diagnosedRecord budgetUnreadable noted
      alertAndWrite call evidence bytes identity (if repeated then none else some next)
        "unknown" noted

def lookUpEvidence (call : IntentCall) (found : IntentEvidence) : IntentProg IntentEvidence := do
  let ticket := IntentEvidence.ticketQuery found.record call.timeoutMs
  let query :=
    if found.legacy then ticket else IntentEvidence.keyQuery found.record call.timeoutMs
  if found.foreignLease then
    let skipped := Json.obj [("reason", .str "lookup-skipped-foreign-lease")]
    return { found with query := queryEvidence query (some skipped) [] }
  else
    let probe ← lookupReceipt query
    let evidence := { found with
      rows := answeredRows probe.answer
      query := queryEvidence query probe.answer probe.attempts }
    if !found.legacy && call.operatorSettlement && found.deadline.passed then
      let ticketProbe ← lookupReceipt ticket
      let launch := orNull (found.record.get? "launchRequestId")
      return { evidence with
        operatorAbsence := (answeredRows ticketProbe.answer).any List.isEmpty
        query := (evidence.query.set "ticketQuery" (queryEvidence ticket ticketProbe.answer
          ticketProbe.attempts)).set "recordedLaunchRequestId" launch }
    else return evidence

def holderGone (call : IntentCall) : Option CloserLease → IntentProg Bool
  | none => .pure false
  | some lease =>
    if lease.pendingUnlaunched && lease.isLocal call.hostname then
      (Prog.perform (.pidAlive (lease.get? "watcherPid"))).bind fun alive =>
        .pure (alive = some false)
    else .pure false

def submitterProcesses (found : IntentEvidence) : IntentProg (Option SubmitterProbe) :=
  match found.lease with
  | none => .pure none
  | some lease =>
    if !found.legacy && found.canProbeSubmitter then
      (Prog.perform (.probeSubmitter found.record lease)).bind fun probe => .pure (some probe)
    else .pure none

def knownEvidence (call : IntentCall) (record : Json) (lease : Option CloserLease) (now : String)
    (pr : Option Json) (localDead : Bool) (deadline : IntentDeadline) (started : Option Int) :
    IntentEvidence where
  record := record
  lease := lease
  now := now
  pr := pr
  hostname := call.hostname
  operatorSettlement := call.operatorSettlement
  localDead := localDead
  processes := none
  deadline := deadline
  started := started
  rows := none
  operatorAbsence := false
  query := .null

def gatherEvidence (call : IntentCall) (record : Json) (lease : Option CloserLease)
    (now : String) (pr : Option Json) : IntentProg IntentEvidence := do
  let localDead ← holderGone call lease
  let deadline ← Prog.raise (intentDeadline record now)
  let started ← Prog.raise (dateParse (record.get? "lastAttemptedAt"))
  let found := knownEvidence call record lease now pr localDead deadline started
  let processes ← submitterProcesses found
  lookUpEvidence call { found with processes := processes }

def retiredRecord (record : Json) (now : String) : Json :=
  ((record.set "state" (.str "completed")).set "reason" (.str "pr-terminal")).set
    "preReceiptReconciliation" (.obj [("status", .str "pr-terminal"), ("observedAt", .str now)])

def nowOf (call : IntentCall) : IntentProg String :=
  match call.now with
  | some now => .pure now
  | none => Prog.perform .clock

def pullRequestOf (call : IntentCall) : IntentProg (Option Json) := do
  if Json.truthy call.prMetadata then return call.prMetadata
  else return (← tolerated .readPullRequest).join

def reconcileIntent (call : IntentCall) (bytes : String) (record : Json)
    (identity : LeaseIdentity) (lease : Option CloserLease) : IntentProg Reconciled := do
  let now ← nowOf call
  let pr ← pullRequestOf call
  throwIfAborted
  if ← intentSnapshotMatches bytes identity lease then
    if isTerminalCloserPullRequest pr then
      if call.operatorSettlement then return .held "pr-terminal" none
      else
        -- Retirement says nothing about submission, so the lease stays.
        let next := retiredRecord record now
        if !call.dryRun then attemptIntent (.writeRecord next)
        return .settled "pr-terminal" true next none
    else
      let evidence ← gatherEvidence call record lease now pr
      if ← intentSnapshotMatches bytes identity lease then
        throwIfAborted
        settleIntent call evidence bytes identity
      else return .held "intent-or-lease-changed" none
  else return .held "intent-or-lease-changed" none

def leaseIdentityOf (call : IntentCall) (record : Json) : LeaseIdentity where
  repo := record.get? "repo"
  prNumber := record.get? "prNumber"
  headSha := Json.orTruthy call.leaseHeadSha (closerHead record)

def sameIntent (call : IntentCall) (record : Json) : Bool :=
  Json.strictEq (record.get? "repo") call.identity.repo &&
    sameNumber (IntentEngine.number (record.get? "prNumber"))
      (IntentEngine.number call.identity.prNumber) &&
    Json.strictEq (record.get? "headSha") call.identity.headSha

def leaseOfIntent (call : IntentCall) (record : Json) (lease : Option CloserLease) : Bool :=
  !Json.truthy call.leaseHeadSha || Json.strictEq call.leaseHeadSha (closerHead record) ||
    lease.any fun lease => Json.strictEq (lease.get? "rekeyedFromHeadSha") (record.get? "headSha")

def reconcileLocked (call : IntentCall) : IntentProg Reconciled := do
  match ← attemptIntent .readRecord with
  | none => return .unchanged
  | some bytes =>
    if bytes = "" then return .unchanged
    else
      let record ← Prog.raise (IntentEngine.parse bytes)
      if !isPreReceiptIntent (some record) then return .unchanged
      else if !sameIntent call record then return .held "intent-identity-mismatch" none
      else
        let identity := leaseIdentityOf call record
        match ← Prog.perform (.readLease identity) with
        | .error _ => return .held "lease-unreadable" none
        | .ok lease =>
          if leaseOfIntent call record lease then
            reconcileIntent call bytes record identity lease
          else return .held "lease-identity-mismatch" none

def reconcilePreReceiptIntent (call : IntentCall) : IntentProg Reconciled := do
  if ← attemptIntent .tryLock then
    (reconcileLocked call).finally_ (.perform .unlock)
  else return .held "intent-lock-held" none

end

end AdversarialReview.Ama
