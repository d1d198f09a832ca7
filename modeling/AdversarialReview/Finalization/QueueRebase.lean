import AdversarialReview.Finalization.QueueSlices

/-! The rebase slice: prove, place, prepare and publish a candidate, up to waiting for checks. -/

namespace AdversarialReview

namespace QueueRebase

open Json Slices

def rebaseDivergenceWarning : String :=
  "The queue rewrote branch history. Fetch and rebase local work onto the published head " ++
    "before pushing."

def candidateLive (sourced : Option Json → Bool) (entry : QueueEntry) (live : Option Json) : Bool :=
  let subject := subjectOf live
  strictEq (member subject "head") (entry.field? "candidate") &&
    strictEq (member subject "baseSha") (entry.field? "exactBase") &&
    isText (member subject "state") "open" && sourced (member subject "sourceRef") &&
    observes entry live

/-- An observation with a source is about another branch than the one that was prepared. -/
def branchMoved (entry : QueueEntry) (live : Option Json) : Bool :=
  let rebase := entry.field? "rebase"
  !(strictEq (member (subjectOf live) "headRepository") (member rebase "headRepository") &&
    strictEq (member (subjectOf live) "headRef") (member rebase "headRef"))

def recordedPush (entry : QueueEntry) (db : QueueDb) : Option OperationRow :=
  (db.operations.filter fun row => row.entryId = entry.entryId && row.kind = .push).reverse.find?
    fun row => strictEq row.intent.candidate (entry.field? "candidate")

def observedRebase (entry : QueueEntry) (live : Option Json) : Json :=
  (spreadMembers (entry.field? "rebase")).set "lastObservation" (live.getD .null)

def permissionNotice (entry : QueueEntry) (disposition : SliceDisposition) : Option Json :=
  if disposition.target = .parkedPermission then
    some (.obj [("key", .str ("rebase-permission:" ++ entry.entryId ++ ":" ++ disposition.reason)),
      ("audience", .str "author-and-operator"), ("reason", .str disposition.reason)])
  else none

def publication (head base sourceRef : Option Json) (observedAt : String) : Json :=
  .obj [("head", head.getD .null), ("base", base.getD .null), ("sourceRef", sourceRef.getD .null),
    ("observedAt", .str observedAt)]

/-- Why an entry whose candidate is on its branch waits for checks. -/
def publishedReason (entry : QueueEntry) : Except String String :=
  match entry.field? "proof" with
  | none | some .null => .error "Cannot read properties of null (reading 'noop')"
  | some proof =>
    if Json.truthy (proof.get? "noop") then .ok "no-op-rebase"
    else .ok "candidate-already-published"

variable [JsDate] [JsText] [HandoffDigest] [SlicePolicies]

def service : Service :=
  { superseded := "rebase observation superseded"
    undrained := "publication requires drained operation reconciliation"
    stamp := queueTime }

/-- The policy of admission, and the rights a force push needs. -/
def preflight (disabled : Bool) (entry : QueueEntry) (receipt : AdmissionReceipt)
    (live : Option Json) (head : Option Json) (derived : Bool) : Admission :=
  if disabled then .disposed ⟨.parkedHold, "autonomous-execution-disabled"⟩
  else
    match classifyQueueAdmission entry (some receipt) live
        (if derived then some (head.getD .null) else none) with
    | .disposed disposition => .disposed disposition
    | .ready =>
      let permission := member live "permission"
      let target := subjectOf live
      let right (key : String) : Option Bool := bool? (member permission key)
      if !nonempty (member permission "rulesSourceRef") || (right "canForcePush").isNone ||
          (right "fork").isNone || (right "canWriteHeadRepository").isNone ||
          (right "maintainerCanModify").isNone ||
          !strictEq (member permission "headRepository") (member target "headRepository") ||
          !strictEq (member permission "headRef") (member target "headRef") then
        .disposed ⟨.parkedPermission, "rebase-rights-unavailable"⟩
      else if right "canForcePush" = some false || right "canWriteHeadRepository" = some false ||
          (right "fork" = some true && right "maintainerCanModify" = some false) then
        .disposed ⟨.parkedPermission, if right "fork" = some true then
          "fork-rebase-permission-denied" else "force-push-permission-denied"⟩
      else
        match (member target "headRepository").bind text?, (member target "headRef").bind text? with
        | some repository, some base =>
          if (resolveLaneKey { repository, base }).isOk then .ready
          else .disposed ⟨.parkedPermission, "head-branch-unavailable"⟩
        | _, _ => .disposed ⟨.parkedPermission, "head-branch-unavailable"⟩

def readLive (entry : QueueEntry) (reading : Reading) : Prog SliceEffect (Option Json) := do
  let timeoutMs ← waitUntil 5000 30000 (some entry.patience.deadline)
  if timeoutMs = 0 then pure none
  else
    match ← Prog.perform (.observe entry reading timeoutMs) with
    | .error _ => pure none
    | .ok live => pure live

/-- Prove a stored candidate again; one without a record is not proved. -/
def verify (entry : QueueEntry) : Prog SliceEffect (Except String Bool) :=
  if Json.truthy (entry.field? "candidate") && Json.truthy (entry.field? "rebase") then
    Prog.perform (.verify entry entry.patience.deadline)
  else pure (.ok false)

def parkOrReturn (entry : QueueEntry) (fence : QueueFence) (disposition : SliceDisposition)
    (live : Option Json) : Prog SliceEffect (Option QueueEntry) :=
  let rebase := observedRebase entry live
  conclude service entry fence disposition.target.phase (textOf disposition.reason)
    [("rebase", some (match permissionNotice entry disposition with
      | some notice => rebase.set "notice" notice
      | none => rebase))]

def awaitChecks (entry : QueueEntry) (fence : QueueFence) (live : Option Json) :
    Prog SliceEffect (Option QueueEntry) := do
  let reason ← Prog.raise (publishedReason entry)
  let subject := subjectOf live
  let observedAt ← Prog.perform .now
  conclude service entry fence .waitingChecks (textOf reason)
    [("rebase", some ((observedRebase entry live).set "publication"
      (publication (member subject "head") (member subject "baseSha") (member subject "sourceRef")
        observedAt)))]

def pushResult (result : Json) (observation : Option Json) : Json :=
  (spreadMembers (some result)).set "observation" (observation.getD .null)

def pushNotInvoked (disposition : SliceDisposition) (observation : Option Json) : Json :=
  .obj [("outcome", .str "not-applied"), ("sourceRef", .str "queue:push-not-invoked"),
    ("disposition", disposition.json), ("observation", observation.getD .null)]

/-- What stands against a push at the last moment. -/
def lastRefusal (disabled late : Bool) (entry : QueueEntry) (receipt : AdmissionReceipt)
    (live : Option Json) : Admission :=
  if late then .disposed ⟨.parkedInfrastructure, "rebase-deadline-expired"⟩
  else
    match preflight disabled entry receipt live (entry.field? "expectedOldHead")
        (!strictEq (entry.field? "expectedOldHead") (textOf entry.head)) with
    | .disposed disposition => .disposed disposition
    | .ready =>
      if !strictEq (member (subjectOf live) "baseSha") (entry.field? "exactBase") then
        .disposed ⟨.rebasing, "external-base-change"⟩
      else if branchMoved entry live then .disposed ⟨.returnedToCloser, "head-branch-changed"⟩
      else .ready

/-- Push the candidate under the issuance lock, once everything was read again. -/
def invokePush (fence : QueueFence) (entry : QueueEntry) (receipt : AdmissionReceipt)
    (intent : OperationIntent) : Prog SliceEffect Json := do
  let lastLive ← readLive entry .lastCall
  let disabled ← Prog.perform .brake
  let late ← expired entry.patience.deadline
  match lastRefusal disabled late entry receipt lastLive with
  | .disposed disposition => pure (pushNotInvoked disposition lastLive)
  | .ready =>
    let checkedAt ← stampNow service
    let _ ← commit (assertFence fence checkedAt)
    let stored ← readStored entry.entryId
    if !stored.any fun stored => stored.deepEq entry then
      Prog.fail "publication observation superseded"
    else do
      let result ← Prog.perform (.push entry intent)
      let observed ← readLive entry .pushed
      let subject := subjectOf observed
      if oneOf ["succeeded", "not-applied"] (member result "outcome") &&
          Json.truthy (member result "sourceRef") then
        pure (pushResult (result.getD .null) observed)
      else if !Json.truthy (member subject "sourceRef") || !observes entry observed then
        Prog.fail "publication-outcome-unavailable"
      -- The old head alone does not prove that a request that timed out was drained.
      else if !strictEq (member subject "head") (entry.field? "candidate") then
        Prog.fail "publication-requires-drain-reconciliation"
      else
        pure (pushResult (.obj [("outcome", .str "succeeded"),
          ("sourceRef", (member subject "sourceRef").getD .null)]) observed)

def applyPush (fence : QueueFence) (entry : QueueEntry) (result : Json) :
    Prog SliceEffect (Option QueueEntry) := do
  current service entry fence
  let observation := result.get? "observation"
  let subject := subjectOf observation
  let observed := Json.truthy (member subject "sourceRef") && observes entry observation
  let seen := [("rebase", some (observedRebase entry observation))]
  let head := member subject "head"
  let state := member subject "state"
  match readDisposition (result.get? "disposition") with
  | some (.ok disposition) => parkOrReturn entry fence disposition observation
  | some (.error message) => Prog.fail message
  | none =>
    if isText (result.get? "outcome") "not-applied" then
      if !observed then
        conclude service entry fence .parkedInfrastructure
          (textOf "publication-observation-unavailable")
      else if !strictEq head (entry.field? "expectedOldHead") then
        conclude service entry fence .returnedToCloser (textOf "external-head-change") seen
      else
        conclude service entry fence .parkedInfrastructure (textOf "publication-not-applied") seen
    else if observed && oneOf ["closed", "merged"] state then
      conclude service entry fence .closedObserved (textOf ("live-" ++ text state)) seen
    else if !(observed && isText state "open") then
      conclude service entry fence .parkedInfrastructure
        (textOf "publication-lifecycle-unavailable")
    else if !strictEq head (entry.field? "candidate") &&
        !strictEq head (entry.field? "expectedOldHead") then
      conclude service entry fence .returnedToCloser (textOf "external-head-change") seen
    else if !strictEq (member subject "baseSha") (entry.field? "exactBase") then
      conclude service entry fence .rebasing (textOf "external-base-change")
        [("checks", some .null)]
    else do
      let observedAt ← Prog.perform .now
      conclude service entry fence .waitingChecks (textOf "candidate-published")
        [("rebase", some (((spreadMembers (entry.field? "rebase")).set "publication"
          (publication (entry.field? "candidate") (entry.field? "exactBase")
            (result.get? "sourceRef") observedAt)).set "lastObservation"
            (observation.getD .null)))]

def issuePush (fence : QueueFence) (entry : QueueEntry) (receipt : AdmissionReceipt)
    (live : Option Json) : Prog SliceEffect (Option QueueEntry) := do
  let entry ← request service entry fence .publishing (textOf "publication-preflight-validated")
    [("rebase", some (observedRebase entry live))]
  match ← verify entry with
  | .error _ =>
    conclude service entry fence .parkedInfrastructure (textOf "rebase-git-unavailable")
  | .ok proved =>
    current service entry fence
    if !proved then
      conclude service entry fence .returnedToCloser (textOf "persisted-rebase-proof-unavailable")
    else do
      let operationId := "push:" ++ HandoffDigest.handoffDigest
        (.arr [.str entry.entryId, .num (entry.progressVersion.getD 0)])
      let issued ← issue { fence, entryId := entry.entryId, operationId, kind := .push }
        (invokePush fence entry receipt)
      match issued.ok, issued.result with
      | true, some result => applyPush fence entry result
      | _, _ => readStored entry.entryId

/-- Publish a prepared candidate, unless it is there already or something stands against it. -/
def publish (fence : QueueFence) (entry : QueueEntry) (receipt : AdmissionReceipt) :
    Prog SliceEffect (Option QueueEntry) := do
  let live ← readLive entry .publication
  current service entry fence
  let late ← expired entry.patience.deadline
  let disabled ← Prog.perform .brake
  if late then
    conclude service entry fence .parkedInfrastructure (textOf "rebase-deadline-expired")
  else if candidateLive Json.truthy entry live then
    match preflight disabled entry receipt live (entry.field? "candidate")
        (!strictEq (entry.field? "candidate") (textOf entry.head)) with
    | .disposed disposition => parkOrReturn entry fence disposition live
    | .ready => awaitChecks entry fence live
  else
    match preflight disabled entry receipt live (entry.field? "expectedOldHead")
        (!strictEq (entry.field? "expectedOldHead") (textOf entry.head)) with
    | .disposed disposition => parkOrReturn entry fence disposition live
    | .ready =>
      if !strictEq (member (subjectOf live) "baseSha") (entry.field? "exactBase") then
        conclude service entry fence .rebasing (textOf "external-base-change")
          [("checks", some .null)]
      else if branchMoved entry live then
        conclude service entry fence .returnedToCloser (textOf "head-branch-changed")
      else issuePush fence entry receipt live

def preparedRebase (entry : QueueEntry) (receipt : AdmissionReceipt) (live : Option Json)
    (prepared : Prepared) : Json :=
  let subject := subjectOf live
  let prior := spreadMembers (entry.field? "rebase")
  let derivations := (items? (prior.get? "priorDerivations")).getD []
  let own := if Json.truthy (entry.field? "candidate") then
    [.obj [("candidate", (entry.field? "candidate").getD .null),
      ("expectedOldHead", (entry.field? "expectedOldHead").getD .null),
      ("exactBase", (entry.field? "exactBase").getD .null),
      ("proof", (entry.field? "proof").getD .null), ("rebase", prior.erase "priorDerivations")]]
    else []
  .obj [("workspace", prepared.workspace),
    ("headRepository", (member subject "headRepository").getD .null),
    ("headRef", (member subject "headRef").getD .null),
    ("sourceReceiptDigest", .str receipt.handoff.digest), ("sourceEntryHead", .str entry.head),
    ("preflight", live.getD .null), ("warning", .str rebaseDivergenceWarning),
    ("authorNotice", .obj [("key", .str ("rebase-warning:" ++ entry.entryId ++ ":" ++
        prepared.candidate)), ("audience", .str "author"), ("body", .str rebaseDivergenceWarning)]),
    ("priorDerivations", .arr (derivations ++ own))]

def failedProofs : List String :=
  ["unsupported-rebase-history", "rebase-conflict-or-unsupported", "rebase-preservation-unproven"]

def rebuild (fence : QueueFence) (entry : QueueEntry) (receipt : AdmissionReceipt)
    (live : Option Json) : Prog SliceEffect (Option QueueEntry) := do
  let entry ← request service entry fence .rebasing (textOf "mechanical-rebase-started")
  let subject := subjectOf live
  match ← Prog.perform (.prepare entry (member subject "head") (member subject "baseSha")
      (member subject "headRepository") (member subject "headRef")) with
  | .error failure =>
    current service entry fence
    match failure.filter (failedProofs.contains ·) with
    | some reason => conclude service entry fence .returnedToCloser (textOf reason)
    | none => conclude service entry fence .parkedInfrastructure (textOf "rebase-git-unavailable")
  | .ok prepared =>
    current service entry fence
    let entry ← request service entry fence .publishing (textOf "candidate-preservation-proven")
      [("candidate", some (.str prepared.candidate)),
        ("expectedOldHead", some (.str prepared.expectedOldHead)),
        ("exactBase", some (.str prepared.exactBase)), ("proof", some prepared.proof),
        ("rebase", some (preparedRebase entry receipt live prepared)), ("checks", some .null)]
    publish fence entry receipt

def pushOnRecord (entry : QueueEntry) (live : Option Json) :
    Prog SliceEffect (Option OperationRow) :=
  if Json.truthy (entry.field? "candidate") &&
      strictEq (member (subjectOf live) "head") (entry.field? "expectedOldHead") then
    commit (.read (recordedPush entry))
  else pure none

/-- Rebuild a candidate whose base moved, or publish the one there is. -/
def advance (fence : QueueFence) (entry : QueueEntry) (receipt : AdmissionReceipt)
    (live : Option Json) : Prog SliceEffect (Option QueueEntry) := do
  let subject := subjectOf live
  let candidate := entry.field? "candidate"
  let head := member subject "head"
  let recorded ← pushOnRecord entry live
  if recorded.any fun row => !isText (member row.result "outcome") "not-applied" then
    conclude service entry fence .parkedInfrastructure (textOf "publication-success-not-visible")
      [("rebase", some (observedRebase entry live))]
  else if !Json.truthy candidate ||
      !strictEq (member subject "baseSha") (entry.field? "exactBase") ||
      strictEq head candidate then
    rebuild fence entry receipt live
  else publish fence entry receipt

def place (fence : QueueFence) (entry : QueueEntry) (receipt : AdmissionReceipt)
    (live : Option Json) (verified : Bool) : Prog SliceEffect (Option QueueEntry) := do
  let subject := subjectOf live
  let candidate := entry.field? "candidate"
  let disabled ← Prog.perform .brake
  if Json.truthy (member (entry.field? "rebase") "workspace") &&
      Json.truthy (member subject "sourceRef") && observes entry live &&
      branchMoved entry live then
    conclude service entry fence .returnedToCloser (textOf "head-branch-changed")
  else if Json.truthy candidate && candidateLive nonempty entry live then
    match preflight disabled entry receipt live candidate
        (verified && !strictEq candidate (textOf entry.head)) with
    | .disposed disposition => parkOrReturn entry fence disposition live
    | .ready => awaitChecks entry fence live
  else
    let expected := if Json.truthy candidate && strictEq (member subject "head") candidate then
      candidate else entry.field? "expectedOldHead"
    match preflight disabled entry receipt live expected
        (!strictEq expected (textOf entry.head) && verified) with
    | .disposed disposition => parkOrReturn entry fence disposition live
    | .ready => advance fence entry receipt live

/-- Bring an entry that rejoined the tail with its candidate back through the legal phases. -/
def resume (fence : QueueFence) (entry : QueueEntry) (receipt : AdmissionReceipt)
    (live : Option Json) (verified : Bool) : Prog SliceEffect (Option QueueEntry) := do
  let late ← expired entry.patience.deadline
  if late then
    conclude service entry fence .parkedInfrastructure (textOf "rebase-deadline-expired")
  else if entry.phase = .ready && verified then do
    let entry ← request service entry fence .rebasing (textOf "persisted-candidate-resumed")
    let entry ← request service entry fence .publishing (textOf "candidate-preservation-proven")
    place fence entry receipt live verified
  else place fence entry receipt live verified

/-- Prove a stored candidate again, also after a restart. -/
def reprove (fence : QueueFence) (entry : QueueEntry) (receipt : AdmissionReceipt)
    (live : Option Json) : Prog SliceEffect (Option QueueEntry) := do
  if Json.truthy (entry.field? "candidate") then
    match ← verify entry with
    | .error _ =>
      conclude service entry fence .parkedInfrastructure (textOf "rebase-git-unavailable")
    | .ok verified =>
      current service entry fence
      if !verified || !isText (member (entry.field? "rebase") "sourceReceiptDigest")
          receipt.handoff.digest then
        conclude service entry fence .returnedToCloser
          (textOf "persisted-rebase-proof-unavailable")
      else resume fence entry receipt live verified
  else resume fence entry receipt live false

def run (fence : QueueFence) (entryId : String) : Prog SliceEffect (Option QueueEntry) := do
  let entry ← subject fence entryId "foreign rebase entry"
  current service entry fence
  if entry.phase.terminal || entry.phase.parked then pure (some entry)
  else if entry.phase ∉ [QueuePhase.ready, .rebasing, .publishing, .waitingChecks] then
    Prog.fail "invalid rebase phase"
  else do
    let disabled ← Prog.perform .brake
    if disabled then
      conclude service entry fence .parkedHold (textOf "autonomous-execution-disabled")
    else do
      let live ← readLive entry .placement
      current service entry fence
      let subject := subjectOf live
      -- That the pull request has ended outranks a receipt or a workspace that is gone.
      if nonempty (member subject "sourceRef") && observes entry live &&
          oneOf ["closed", "merged"] (member subject "state") then
        conclude service entry fence .closedObserved
          (textOf ("live-" ++ text (member subject "state")))
          [("rebase", some (observedRebase entry live))]
      else
        match ← Prog.perform (.receipt entry) with
        | none =>
          conclude service entry fence .parkedInfrastructure
            (textOf "admission-receipt-unavailable")
        | some receipt =>
          let late ← expired entry.patience.deadline
          if late then
            conclude service entry fence .parkedInfrastructure (textOf "rebase-deadline-expired")
          else reprove fence entry receipt live

end QueueRebase

end AdversarialReview
