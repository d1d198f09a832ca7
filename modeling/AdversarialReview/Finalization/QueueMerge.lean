import AdversarialReview.Finalization.QueueChecks

/-! The merge slice: decide a candidate's merge, journal it, make it once and record its receipt. -/

namespace AdversarialReview

namespace QueueMerge

open Json Slices

/-- Who may be credited with a merge. -/
def producers : List String := ["closer-hammer", "ama-daemon"]

def releasing (phase : QueuePhase) : Bool :=
  phase ∉ [QueuePhase.rebasing, .waitingChecks, .finalizing]

/-- What an evaluation comes to: another phase, or a decision to merge. -/
inductive Verdict where
  | disposed (disposition : SliceDisposition) (checks : Option Json := none)
  | waitingChecks (reason : Option Json) (checks : Json)
  | eligible (decision checks : Json) (receipt : AdmissionReceipt) (ledgerCount : Nat)

/-- A merge that was not made, with where its entry goes if that is known. -/
def mergeNotInvoked (reason : String) (disposition : Option SliceDisposition := none)
    (observation : Option Json := none) : Json :=
  .obj [("outcome", .str "not-applied"), ("sourceRef", .str "queue:merge-not-invoked"),
    ("reason", .str reason), ("disposition", (disposition.map SliceDisposition.json).getD .null),
    ("observation", observation.getD .null)]

structure SettledMerge where
  id : String
  result : Json

def settledMerges (entry : QueueEntry) (db : QueueDb) : List SettledMerge :=
  (db.operations.filter fun row => row.entryId = entry.entryId && row.kind = .merge &&
      strictEq row.intent.candidate (entry.field? "candidate")).reverse.filterMap fun row =>
    row.result.map fun result => ⟨row.operationId, result⟩

def attributedBot (decision : Option Json) : Option Json :=
  member (member decision "attribution") "bot"

variable [JsDate] [JsText] [HandoffDigest] [SlicePolicies]

def service : Service :=
  { superseded := "merge observation superseded"
    undrained := "merge requires drained operation reconciliation"
    stamp := queueTime }

def mergeOperationId (entry : QueueEntry) : String :=
  "merge:" ++ HandoffDigest.handoffDigest (.arr [.str entry.entryId,
    (entry.field? "candidate").getD .null, (entry.field? "exactBase").getD .null,
    .num (entry.progressVersion.getD 0)])

def settledMerge (entry : QueueEntry) (db : QueueDb) : Option SettledMerge :=
  ((settledMerges entry db).find? fun op => isText (op.result.get? "outcome") "succeeded").or
    ((settledMerges entry db).find? fun op => op.id = mergeOperationId entry &&
      !oneOf ["superseded", "merge-already-settled"] (op.result.get? "reason"))

/-- What an observation proves of a merge; nothing while it is still open what happened. -/
def reconcileQueueMergeObservation (entry : QueueEntry) (observation bot : Option Json)
    (reportedSha : Option Json) (drained : Bool) : Option Json :=
  let subject := subjectOf observation
  let state := member subject "state"
  let head := member subject "head"
  let candidate := entry.field? "candidate"
  let notApplied (reason : String) (disposition : Json) : Option Json :=
    some (.obj [("outcome", .str "not-applied"),
      ("sourceRef", (member subject "sourceRef").getD .null), ("reason", .str reason),
      ("disposition", disposition)])
  let sent (target : SliceTarget) (reason : String) : Option Json :=
    notApplied reason (SliceDisposition.json ⟨target, reason⟩)
  if !hasText (member subject "sourceRef") || !observes entry observation then none
  else if isText state "merged" then
    let mergeSha := member subject "mergeCommitSha"
    let mergedBy := member subject "mergedBy"
    match (member subject "mergedAt").bind fun mergedAt => mergedAt.text?.bind JsDate.parse with
    | none =>
      if !sameSha head candidate then sent .closedObserved "merged-head-mismatch" else none
    | some mergedAt =>
      if !sameSha head candidate then sent .closedObserved "merged-head-mismatch"
      else if !isSha mergeSha || (reportedSha.isSome && !sameSha reportedSha mergeSha) then none
      else if !hasText mergedBy || !hasText (member bot "login") ||
          !strictEq mergedBy (member bot "login") then
        sent .closedObserved "merged-by-other-actor"
      else
        some (.obj [("outcome", .str "succeeded"),
          ("sourceRef", (member subject "sourceRef").getD .null),
          ("mergeSha", .str (((mergeSha.bind text?).getD "").toLower)),
          ("mergedAt", ((JsDate.toISOString mergedAt).map Json.str).getD .null),
          ("mergedBy", mergedBy.getD .null)])
  else if isText state "closed" then sent .closedObserved "live-closed"
  else if !isText state "open" then none
  else if !sameSha head candidate then sent .returnedToCloser "external-head-change"
  else if drained then notApplied "merge-refused" .null
  else none

/-- What the live state of a pull request holds against its merge. -/
def lifecycle (entry : QueueEntry) (receipt : AdmissionReceipt) (live : Option Json) :
    Option SliceDisposition :=
  let subject := subjectOf live
  let state := member subject "state"
  let candidate := entry.field? "candidate"
  if !hasText (member subject "sourceRef") || !observes entry live then
    some ⟨.parkedInfrastructure, "final-observation-unavailable"⟩
  else if oneOf ["closed", "merged"] state then some ⟨.closedObserved, "live-" ++ text state⟩
  else if !isText state "open" then some ⟨.parkedInfrastructure, "final-observation-unavailable"⟩
  else if !sameSha (member subject "head") candidate then
    some ⟨.returnedToCloser, "external-head-change"⟩
  -- A branch that is behind goes back to be rebased, also onto the base it was rebased on.
  else if !sameSha (member subject "baseSha") (entry.field? "exactBase") ||
      isText (member (member live "eligibility") "mergeStateStatus") "BEHIND" then
    some ⟨.rebasing, "external-base-change"⟩
  else
    match classifyQueueAdmission entry (some receipt) live
        (if sameSha candidate (textOf entry.head) then none else some (candidate.getD .null)) with
    | .ready => none
    | .disposed disposition => some disposition

/-- The part of the infrastructure that a reason is about. -/
def dependencyOf (reason : String) : String :=
  if occursIn "identity".toList reason.toList then "identity"
  else if occursIn "git".toList reason.toList then "git"
  else "merge"

def readWithin (timeoutMs : Int)
    (effect : Int → SliceEffect (Except ReadFailure (Option Json))) :
    Prog SliceEffect (Option Json) :=
  if timeoutMs = 0 then pure none
  else do
    match ← Prog.perform (effect timeoutMs) with
    | .error _ => pure none
    | .ok answer => pure answer

def readUntil (deadline : String) (effect : Int → SliceEffect (Except ReadFailure (Option Json))) :
    Prog SliceEffect (Option Json) := do
  let timeoutMs ← waitUntil 5000 30000 (some deadline)
  readWithin timeoutMs effect

def park (entry : QueueEntry) (fence : QueueFence) (reason : String) :
    Prog SliceEffect (Option QueueEntry) := do
  let now ← Prog.perform .now
  let nextProbeAt ← Prog.raise (after now 60000)
  let parked ← request service entry fence .parkedInfrastructure (textOf reason)
    [("decision", some .null), ("infrastructure", some (QueueChecks.parkedInfrastructure entry
      (dependencyOf reason) (textOf reason) now nextProbeAt))]
  release fence "merge-lane-release-deferred"
  Prog.perform (.flushPages entry.entryId)
  pure (some parked)

def releaseAfter (fence : QueueFence) (phase : QueuePhase) : Prog SliceEffect Unit :=
  if releasing phase then release fence "merge-lane-release-deferred" else pure ()

/-- Move an entry where an evaluation sends it; a base that moved discards what was read. -/
def dispose (entry : QueueEntry) (fence : QueueFence) (disposition : SliceDisposition)
    (checks : Option Json := none) : Prog SliceEffect (Option QueueEntry) := do
  if disposition.target = .parkedInfrastructure then park entry fence disposition.reason
  else do
    let patch := if disposition.target = .rebasing then
        [("checks", some .null), ("decision", some .null)]
      else ("decision", some .null) :: (checks.map fun checks => ("checks", some checks)).toList
    let moved ← request service entry fence disposition.target.phase (textOf disposition.reason)
      patch
    releaseAfter fence disposition.target.phase
    pure (some moved)

def awaitAgain (entry : QueueEntry) (fence : QueueFence) (reason : Option Json) (checks : Json) :
    Prog SliceEffect (Option QueueEntry) :=
  conclude service entry fence .waitingChecks reason
    [("decision", some .null), ("checks", some checks)]

def labelsOf (subject : Option Json) : Json :=
  .arr (((items? (member subject "labels")).getD []).map fun label =>
    (labelName label).getD .null)

/-- The decision to merge, with the evidence it rests on. -/
def decisionOf (entry : QueueEntry) (receipt : AdmissionReceipt)
    (live checks identity : Option Json) (checksReason decidedAt : String) (ledgerCount : Nat) :
    Json :=
  let subject := subjectOf live
  let decision : Json := .obj [("kind", .str "eligible"), ("at", .str decidedAt),
    ("head", (entry.field? "candidate").getD .null),
    ("base", (entry.field? "exactBase").getD .null),
    ("liveSourceRef", (member subject "sourceRef").getD .null), ("labels", labelsOf subject),
    ("holds", .str "none"), ("checksReason", .str checksReason),
    ("requiredSetVersion", (member (member checks "requiredSet") "version").getD .null),
    ("structuralSourceRef", (member live "structuralSourceRef").getD .null),
    ("primaryChange", (member (member live "eligibility") "primaryChange").getD .null),
    ("proofDigest", (member (entry.field? "proof") "digest").getD .null),
    ("receiptDigest", .str receipt.handoff.digest),
    ("admissionKind", .str (if receipt.clean then "clean" else "remediated")),
    ("subjectLedgerEventCount", .num ledgerCount),
    ("executionOwnership", .str "lane-fence-replaces-merge-lease"),
    ("attribution", .obj [
      ("bot", .obj [("login", (member identity "login").getD .null),
        ("producerClass", (member identity "producerClass").getD .null),
        ("sourceRef", (member identity "sourceRef").getD .null)]),
      ("closer", if receipt.clean then .null else (receipt.handoff.body.get? "closer").getD .null),
      ("worker", (receipt.handoff.body.get? "worker").getD .null)])]
  decision.set "id" (.str ("decision:" ++ HandoffDigest.handoffDigest decision))

def attests (identity : Option Json) : Bool :=
  isBool (member identity "ok") true && hasText (member identity "login") &&
    oneOf producers (member identity "producerClass") && hasText (member identity "sourceRef")

def evaluateChecks (entry : QueueEntry) (receipt : AdmissionReceipt) (live : Option Json)
    (deadline : String) (ledgerCount : Nat) : Prog SliceEffect Verdict := do
  let checks ← readUntil deadline (.readChecks entry deadline)
  let complete := strictEq (member checks "head") (entry.field? "candidate") &&
    strictEq (member checks "base") (entry.field? "exactBase") &&
    isBool (member checks "complete") true
  let classified := SlicePolicies.classifyQueueChecks (checks.getD .null)
  match complete, classified.1 with
  | false, _ =>
    pure (.waitingChecks (orElse (member checks "reason") (textOf "checks-unreadable"))
      (checks.getD .null))
  | true, .red => pure (.disposed ⟨.returnedToCloser, classified.2⟩ checks)
  | true, .wait => pure (.waitingChecks (textOf classified.2) (checks.getD .null))
  | true, .green =>
    let identity ← readUntil deadline (.identity entry)
    if !attests identity then
      pure (.disposed ⟨.parkedInfrastructure, "merge-identity-unavailable"⟩)
    else do
      let decidedAt ← Prog.perform .now
      pure (.eligible (decisionOf entry receipt live checks identity classified.2 decidedAt
        ledgerCount) (checks.getD .null) receipt ledgerCount)

/-- Read everything a merge depends on. -/
def evaluate (entry : QueueEntry) (deadline : String) : Prog SliceEffect Verdict := do
  let braked ← Prog.perform .brake
  if braked then pure (.disposed ⟨.parkedHold, "autonomous-execution-disabled"⟩)
  else do
    let (terminal, ledgerCount) ← Prog.perform (.ledger entry)
    if terminal then pure (.disposed ⟨.parkedHold, "subject-ledger-terminal"⟩)
    else
      match ← Prog.perform (.receipt entry) with
      | none => pure (.disposed ⟨.parkedInfrastructure, "admission-receipt-unavailable"⟩)
      | some receipt =>
        let rebase := entry.field? "rebase"
        let publication := member rebase "publication"
        if !Json.truthy publication ||
            !strictEq (member publication "head") (entry.field? "candidate") ||
            !strictEq (member publication "base") (entry.field? "exactBase") ||
            !isText (member rebase "sourceReceiptDigest") receipt.handoff.digest then
          pure (.disposed ⟨.returnedToCloser, "disposition-currency-changed"⟩)
        else do
          let live ← readUntil deadline (.observe entry .finalMerge)
          match lifecycle entry receipt live with
          | some changed => pure (.disposed changed)
          | none =>
            match ← Prog.perform (.verify entry deadline) with
            | .error _ => pure (.disposed ⟨.parkedInfrastructure, "rebase-git-unavailable"⟩)
            | .ok false =>
              pure (.disposed ⟨.returnedToCloser, "persisted-rebase-proof-unavailable"⟩)
            | .ok true => evaluateChecks entry receipt live deadline ledgerCount

def brakeHold : SliceDisposition := ⟨.parkedHold, "autonomous-execution-disabled"⟩

def reportedSha (response : Option Json) : Option Json :=
  if isBool (member response "ok") true then
    let payload := orElse (member response "payload") (some (.obj []))
    [member payload "sha", member payload "mergeCommitSha",
      member (member payload "data") "sha"].findSome? fun sha => if isSha sha then sha else none
  else none

/-- Merge once everything was read again, and reconcile what was observed of it. -/
def callMerge (entry : QueueEntry) (decision : Json) (timeoutMs : Int) (last : Option Json) :
    Prog SliceEffect Json := do
  let response ← Prog.perform (.merge entry timeoutMs)
  if isBool (member response "ok") false && oneOf ["adapter-unavailable", "unsupported-subject",
      "no-revision"] (member response "reason") then
    pure (mergeNotInvoked "merge-surface-unavailable"
      (some ⟨.parkedInfrastructure, "merge-surface-unavailable"⟩) last)
  else do
    let refused := isBool (member response "ok") false &&
      isText (member response "reason") "merge-refused"
    let window ← waitUntil 5000 30000 none
    let observed ← readWithin window (.observe entry .mergeReconcile)
    match reconcileQueueMergeObservation entry observed (attributedBot (some decision))
        (reportedSha response) refused with
    | none => Prog.fail "merge-requires-drain-reconciliation"
    | some result =>
      pure ((result.set "observation" (observed.getD .null)).set "response"
        (.obj [("ok", .bool (isBool (member response "ok") true)),
          ("reason", if response.isNone then .str "surface-threw"
            else (member response "reason").getD .null)]))

def stillDecided (fence : QueueFence) (entry : QueueEntry) : Prog SliceEffect Bool := do
  let now ← Prog.perform .now
  match queueTime now with
  | .error _ => pure false
  | .ok checkedAt =>
    match ← Prog.perform (.tx (currentTx service entry fence checkedAt)) with
    | .ok () => pure true
    | .error message =>
      if message ≠ service.undrained then pure false
      else do
        let again ← stampNow service
        let _ ← commit (assertFence fence again)
        let stored ← readStored entry.entryId
        pure (stored.any fun stored => stored.deepEq entry)

def invokeMerge (entry : QueueEntry) (fence : QueueFence) (decision : Json)
    (receipt : AdmissionReceipt) (ledgerCount : Nat) (intent : OperationIntent) :
    Prog SliceEffect Json := do
  let braked ← Prog.perform .brake
  if braked then pure (mergeNotInvoked brakeHold.reason (some brakeHold))
  else do
    let decided ← stillDecided fence entry
    if !decided then pure (mergeNotInvoked "superseded")
    else do
      let settled ← commit (.read (settledMerge entry))
      if settled.any fun op => isText (op.result.get? "outcome") "succeeded" then
        pure (mergeNotInvoked "merge-already-settled")
      else do
        let (terminal, count) ← Prog.perform (.ledger entry)
        if terminal || count ≠ ledgerCount then
          pure (mergeNotInvoked "subject-ledger-moved" (some ⟨.parkedHold, "subject-ledger-moved"⟩))
        else do
          let last ← readUntil entry.patience.deadline (.observe entry .mergePreflight)
          match lifecycle entry receipt last with
          | some changed => pure (mergeNotInvoked changed.reason (some changed) last)
          | none =>
            let braked ← Prog.perform .brake
            if braked then pure (mergeNotInvoked brakeHold.reason (some brakeHold) last)
            else do
              let left ← waitUntil 30000 60000 (some entry.patience.deadline)
              let timeoutMs := min intent.timeoutMs left
              if timeoutMs = 0 then
                pure (mergeNotInvoked "merge-deadline-expired"
                  (some ⟨.parkedInfrastructure, "merge-deadline-expired"⟩) last)
              else callMerge entry decision timeoutMs last

def receiptOf (entry : QueueEntry) (fence : QueueFence) (operationId : String) (result : Json) :
    Json :=
  let decision := entry.field? "decision"
  let rebase := entry.field? "rebase"
  let proof := entry.field? "proof"
  let field (key : String) : Json := (entry.field? key).getD .null
  let hops := ((items? (member rebase "priorDerivations")).getD []).length + 1
  let body : Json := .obj [("schemaVersion", .num 1), ("entryId", .str entry.entryId),
    ("lane", entry.lane.json), ("prNumber", .num entry.prNumber),
    ("handoffId", .str entry.handoffId), ("ackId", .str entry.ackId),
    ("admissionKind", (member decision "admissionKind").getD .null), ("oldHead", .str entry.head),
    ("expectedOldHead", field "expectedOldHead"), ("newHead", field "candidate"),
    ("base", field "exactBase"),
    ("rebase", .obj [
      ("sourceReceiptDigest", (member rebase "sourceReceiptDigest").getD .null),
      ("publication", (member rebase "publication").getD .null),
      ("proof", .obj [("kind", (member proof "kind").getD .null),
        ("noop", (member proof "noop").getD .null), ("digest", (member proof "digest").getD .null),
        ("fork", (member proof "fork").getD .null),
        ("replayedCommits", (member proof "replayedCommits").getD (.arr []))]),
      ("derivationHops", .num hops)]),
    ("checks", field "checks"), ("decision", decision.getD .null),
    ("merge", .obj [("operationId", .str operationId), ("method", .str "squash"),
      ("mergeSha", (result.get? "mergeSha").getD .null),
      ("mergedAt", (result.get? "mergedAt").getD .null),
      ("mergedBy", (result.get? "mergedBy").getD .null),
      ("sourceRef", (result.get? "sourceRef").getD .null),
      ("via", (member (result.get? "response") "via").getD .null)]),
    ("attribution", (member decision "attribution").getD .null),
    ("owner", .obj [("ownerId", .str fence.ownerId), ("generation", .num fence.generation),
      ("routeGeneration", .num fence.routeGeneration)])]
  body.set "digest" (.str (HandoffDigest.handoffDigest body))

def recordTx (entry : QueueEntry) (fence : QueueFence) (operationId : String) (result : Json)
    (recordedAt : String) : Tx QueueEntry := do
  currentTx service entry fence recordedAt
  let receipt := receiptOf entry fence operationId result
  let digest := ((receipt.get? "digest").bind text?).getD ""
  let merged ← progress (requestArgs entry fence .merged (textOf "squash-merge-reconciled")
    [("merge", receipt.get? "merge"), ("delivery", some (.obj [("receiptDigest", .str digest),
      ("keys", .arr ((SlicePolicies.deliveryKeys receipt).map Json.str))]))] false recordedAt)
  let rows ← .read QueueDb.receipts
  .refuse (rows.any fun row => row.entryId = entry.entryId)
    "UNIQUE constraint failed: finalization_queue_merge_receipt.entry_id"
  .modify fun db => { db with receipts := db.receipts ++
    [{ entryId := entry.entryId, candidate := ((entry.field? "candidate").bind text?).getD ""
       mergeSha := ((result.get? "mergeSha").bind text?).getD "", operationId
       receiptDigest := digest, receipt }] }
  pure merged

/-- Record a merge that succeeded, release the lane and deliver what is owed. -/
def record (entry : QueueEntry) (fence : QueueFence) (operationId : String) (result : Json) :
    Prog SliceEffect (Option QueueEntry) := do
  let decision := entry.field? "decision"
  if !isText (member decision "kind") "eligible" ||
      !strictEq (member decision "head") (entry.field? "candidate") then
    Prog.fail "merge receipt requires the persisted final decision"
  else do
    let recordedAt ← stampNow service
    let _ ← waitUntil 5000 30000 (some entry.patience.deadline)
    let merged ← commit (recordTx entry fence operationId result recordedAt)
    release fence "merge-lane-release-deferred"
    Prog.perform (.deliver entry.entryId)
    pure (some merged)

def apply (entry : QueueEntry) (fence : QueueFence) (operationId : String) (result : Json) :
    Prog SliceEffect (Option QueueEntry) :=
  if isText (result.get? "outcome") "succeeded" then record entry fence operationId result
  else if oneOf ["superseded", "merge-already-settled"] (result.get? "reason") then
    readStored entry.entryId
  else
    match readDisposition (result.get? "disposition") with
    | some (.ok disposition) => dispose entry fence disposition
    | some (.error message) => Prog.fail message
    | none =>
      park entry fence (((result.get? "reason").bind text?).getD "merge-not-applied")

def issueMerge (entry : QueueEntry) (fence : QueueFence) (decision checks : Json)
    (receipt : AdmissionReceipt) (ledgerCount : Nat) : Prog SliceEffect (Option QueueEntry) := do
  let entry ← request service entry fence .finalizing (textOf "final-eligibility-validated")
    [("decision", some decision), ("checks", some checks)]
  let operationId := mergeOperationId entry
  let issued ← issue { fence, entryId := entry.entryId, operationId, kind := .merge }
    (invokeMerge entry fence decision receipt ledgerCount)
  match issued.ok, issued.result with
  | true, some result => apply entry fence operationId result
  | _, _ => readStored entry.entryId

/-- Follow an evaluation, unless the time is up. -/
def conclude (entry : QueueEntry) (fence : QueueFence) (verdict : Verdict) (late : Bool) :
    Prog SliceEffect (Option QueueEntry) :=
  match verdict with
  | .disposed disposition checks => dispose entry fence disposition checks
  | .waitingChecks reason checks =>
    if late then park entry fence "merge-deadline-expired"
    else awaitAgain entry fence reason checks
  | .eligible decision checks receipt ledgerCount =>
    if late then park entry fence "merge-deadline-expired"
    else issueMerge entry fence decision checks receipt ledgerCount

def finalize (fence : QueueFence) (entryId : String) : Prog SliceEffect (Option QueueEntry) := do
  let entry ← subject fence entryId "foreign merge entry"
  if entry.phase = .merged then do
    Prog.perform (.deliver entryId)
    readStored entryId
  else do
    let checkedAt ← stampNow service
    let _ ← commit (assertFence fence checkedAt)
    if entry.phase ≠ .finalizing then Prog.fail "merge requires a finalizing candidate"
    else do
      -- An open intent belongs to the owner's reconciliation, never to a retry.
      let pending ← commit (.read (unresolvedOperations entry.lane))
      if !pending.isEmpty then pure (some entry)
      else
        match ← commit (.read (settledMerge entry)) with
        | some settled => apply entry fence settled.id settled.result
        | none =>
          let expiredBefore ← expired entry.patience.deadline
          if expiredBefore then park entry fence "merge-deadline-expired"
          else do
            let verdict ← evaluate entry entry.patience.deadline
            current service entry fence
            let late ← expired entry.patience.deadline
            conclude entry fence verdict late

end QueueMerge

end AdversarialReview
