import AdversarialReview.Library.Interleaving
import AdversarialReview.Finalization.QueueStore

/-! Lane ownership under the issuance lock: claiming, renewing, releasing and issuing mutations. -/

namespace AdversarialReview

/-- What a queue program asks of the store, the lock, the clock and the adapters. -/
inductive QueueEffect : Type → Type 1 where
  /-- One transaction, or one statement that commits by itself. -/
  | tx {α : Type} (body : Tx α) : QueueEffect (Except String α)
  | now : QueueEffect String
  | loadAware : QueueEffect (Int → Int → Int)
  /-- Enter the repository-state cycle, which is refused while a rename is pending. -/
  | enterCycle : QueueEffect (Except String Unit)
  | tryLock (lane : LaneKey) : QueueEffect (Except String Bool)
  | waitForLock (lane : LaneKey) (deadline : String) : QueueEffect (Except String Bool)
  | unlock (lane : LaneKey) : QueueEffect Unit
  /-- Stop, drain and reconcile what an earlier owner left behind. -/
  | recover (lane : LaneKey) (prior : LaneRow) (pending : List OperationRow) :
      QueueEffect (Option Json)
  /-- Drain both executors before a transfer. -/
  | drain (lane : LaneKey) (prior : RouteRow) (writers : List LegacyWriterRow)
      (pending : List OperationRow) (timeoutMs : Int) : QueueEffect (Option Json)
  /-- Hand an entry back to the legacy path. -/
  | deliverReturn (row : ReturnRow) (timeoutMs : Int) : QueueEffect (Option Json)
  /-- Call a mutation adapter. -/
  | invoke (lane : LaneKey) (intent : OperationIntent) : QueueEffect Unit
  /-- The mutation adapter's answer. -/
  | invoked : QueueEffect (Except String Json)
  /-- Call a legacy writer. -/
  | callLegacy (lane : LaneKey) : QueueEffect Unit
  /-- The legacy writer's answer, absent where it answers undefined. -/
  | legacyEnded : QueueEffect (Except String (Option Json))

def transact {α : Type} (body : Tx α) : Prog QueueEffect α :=
  (Prog.perform (.tx body)).bind Prog.raise

/-- What a queue call answers. -/
structure QueueReply where
  ok : Bool
  reason : Option String := none
  replay : Bool := false
  fence : Option QueueFence := none
  result : Option Json := none

def refused (reason : String) : QueueReply :=
  { ok := false, reason := some reason }

/-- Whether a result proves how a mutation ended. -/
def validResult (result : Option Json) : Bool :=
  match result with
  | none => false
  | some result =>
    (Json.strictEq (result.get? "outcome") (some (.str "succeeded")) ||
      Json.strictEq (result.get? "outcome") (some (.str "not-applied"))) &&
    ((result.get? "sourceRef").bind Json.text?).any (· ≠ "")

def resultOf (evidence : Json) (key : String) : Option Json :=
  (evidence.get? "results").bind (·.get? key)

def quiescent (evidence : Json) : Bool :=
  Json.strictEq (evidence.get? "quiescent") (some (.bool true)) &&
    Json.truthy (evidence.get? "sourceRef")

namespace QueueOwner

def lockedWithinRepositoryCycle (lane : LaneKey)
    (action : LaneKey → Prog QueueEffect QueueReply) : Prog QueueEffect QueueReply := do
  let lane ← Prog.raise (resolveLaneKey lane)
  let acquired ← (Prog.perform (.tryLock lane)).bind Prog.raise
  if acquired then (action lane).finally_ (.perform (.unlock lane))
  else pure (refused "owner-operation-in-flight")

def locked (lane : LaneKey) (action : LaneKey → Prog QueueEffect QueueReply) :
    Prog QueueEffect QueueReply := do
  (Prog.perform .enterCycle).bind Prog.raise
  lockedWithinRepositoryCycle lane action

section

variable [JsDate]

/-- Read the clock. -/
def timeNow : Prog QueueEffect String := do
  let now ← Prog.perform .now
  Prog.raise (queueTime now)

def timeInside (reading : Nat) : Tx String := do
  let now ← .ask fun host => host.clock reading
  .raise (queueTime now)

/-- Take a lane out of service until somebody proves what its operations did. -/
def park (lane : LaneKey) (parkedAt reason : String) : Tx QueueReply := do
  match ← .read (readOwner lane) with
  | none => .throw "Cannot read properties of null (reading 'owner_state')"
  | some prior =>
    if prior.ownerState = .parked ∧ prior.reason = some reason then pure (refused reason)
    else do
      .modify fun db => db.updateLane lane fun row =>
        { row with ownerState := .parked, reason := some reason }
      let owner ← .read (readOwner lane)
      QueueStore.append lane parkedAt (.owner .parked owner)
      pure (refused reason)

def settle (lane : LaneKey) (operationId : String) (result : Json) (settledAt : String) :
    Tx Unit := do
  .refuse (!validResult (some result)) "unproven queue operation outcome"
  .modify fun db => { db with operations := db.operations.map fun row =>
    if row.operationId = operationId ∧ row.result.isNone then { row with result := some result }
    else row }
  QueueStore.append lane settledAt (.operationResult operationId result)

structure ClaimArgs where
  lane : LaneKey
  ownerId : String
  expiresAt : String
  routeGeneration : Nat := 0

def recoveredResult (evidence : Json) (operationId : String) : Json :=
  ((resultOf evidence operationId).getD .null).set "drainSourceRef"
    ((evidence.get? "sourceRef").getD .null)

def takeOver (args : ClaimArgs) (lane : LaneKey) (prior : LaneRow) (pending : List OperationRow)
    (evidence : Json) (claimedAt expiresAt : String) : Tx QueueReply := do
  match ← .read (readOwner lane) with
  | none => .throw "Cannot read properties of null (reading 'generation')"
  | some row =>
    .refuse (row.generation ≠ prior.generation || row.routeGeneration ≠ args.routeGeneration)
      "queue ownership moved"
    .refuse (maxSafeInteger < row.generation + 1) "queue generation exhausted"
    Transaction.each (fun op : OperationRow =>
      settle lane op.operationId (recoveredResult evidence op.operationId) claimedAt) pending
    .modify fun db => db.updateLane lane fun row =>
      { row with
        generation := row.generation + 1, ownerId := some args.ownerId, ownerState := .active
        acquiredAt := some claimedAt, heartbeatAt := some claimedAt, expiresAt := some expiresAt
        reason := none }
    match ← .read (readOwner lane) with
    | none => .throw "Cannot read properties of null (reading 'generation')"
    | some owner =>
      QueueStore.append lane claimedAt (.owner .claimed (some owner))
      pure { ok := true
             fence := some { lane, ownerId := args.ownerId, generation := owner.generation
                             routeGeneration := args.routeGeneration } }

def finishClaim (args : ClaimArgs) (lane : LaneKey) (prior : LaneRow)
    (pending : List OperationRow) (evidence : Json) (claimedAt expiresAt : String) :
    Prog QueueEffect QueueReply :=
  if JsDate.reached claimedAt expiresAt then pure (refused "claim-deadline-expired")
  else transact (takeOver args lane prior pending evidence claimedAt expiresAt)

def claimAfterRecovery (args : ClaimArgs) (lane : LaneKey) (prior : LaneRow)
    (pending : List OperationRow) (expiresAt : String) : Prog QueueEffect QueueReply := do
  let evidence ← Prog.perform (.recover lane prior pending)
  let claimedAt ← timeNow
  match evidence with
  | none => transact (park lane claimedAt "prior-operation-quiescence-unproven")
  | some evidence =>
    if !quiescent evidence ||
        pending.any fun op => !validResult (resultOf evidence op.operationId) then
      transact (park lane claimedAt "prior-operation-quiescence-unproven")
    else finishClaim args lane prior pending evidence claimedAt expiresAt

def claimFrom (args : ClaimArgs) (lane : LaneKey) (prior : LaneRow) (claimedAt expiresAt : String) :
    Prog QueueEffect QueueReply :=
  if prior.routeGeneration ≠ args.routeGeneration then
    pure (refused "route-generation-mismatch")
  else if prior.ownerState = .active ∧
      prior.expiresAt.any (fun expires => (JsDate.parse expires).isSome &&
        (JsDate.parse claimedAt).isSome && !JsDate.reached claimedAt expires) then
    pure (refused "held")
  else do
    let pending ← transact (.read (unresolvedOperations lane))
    if !pending.isEmpty then claimAfterRecovery args lane prior pending expiresAt
    else if prior.ownerState = .parked then pure { ok := false, reason := prior.reason }
    else finishClaim args lane prior pending (.obj []) claimedAt expiresAt

def claim (args : ClaimArgs) : Prog QueueEffect QueueReply := do
  let _ ← Prog.raise (queueId args.ownerId)
  let expiresAt ← Prog.raise (queueTime args.expiresAt)
  if maxSafeInteger < args.routeGeneration then Prog.fail "invalid route generation"
  else locked args.lane fun lane => do
    let claimedAt ← timeNow
    if JsDate.reached claimedAt expiresAt then Prog.fail "owner expiry must be in the future"
    else do
      transact (.modify fun db => db.ensureLane lane)
      let route ← transact (.read (routeOf lane))
      if !queueRouted route then pure (refused "queue-route-not-owned")
      else
        match ← transact (.read (readOwner lane)) with
        | none => Prog.fail "Cannot read properties of null (reading 'route_generation')"
        | some prior => claimFrom args lane prior claimedAt expiresAt

def renewTx (fence : QueueFence) (lane : LaneKey) (expiresAt : String) : Tx QueueReply := do
  let renewedAt ← timeInside 0
  let _ ← assertFence fence renewedAt
  .refuse (JsDate.reached renewedAt expiresAt) "invalid owner expiry"
  .modify fun db => db.updateLane lane fun row =>
    { row with heartbeatAt := some renewedAt, expiresAt := some expiresAt }
  let owner ← .read (readOwner lane)
  QueueStore.append lane renewedAt (.owner .renewed owner)
  pure { ok := true }

def renew (fence : QueueFence) (expiresAt : String) : Prog QueueEffect QueueReply := do
  let expiresAt ← Prog.raise (queueTime expiresAt)
  locked fence.lane fun lane => transact (renewTx fence lane expiresAt)

def releaseTx (fence : QueueFence) (lane : LaneKey) : Tx QueueReply := do
  let releasedAt ← timeInside 0
  let _ ← assertFence fence releasedAt
  let pending ← .read (unresolvedOperations lane)
  .refuse (!pending.isEmpty) "unreconciled queue operation"
  .modify fun db => db.updateLane lane fun row => { row with ownerState := .idle, ownerId := none }
  let owner ← .read (readOwner lane)
  QueueStore.append lane releasedAt (.owner .released owner)
  pure { ok := true }

/-- Give up ownership of a lane. -/
def release (fence : QueueFence) : Prog QueueEffect QueueReply :=
  locked fence.lane fun lane => transact (releaseTx fence lane)

structure IssueArgs where
  fence : QueueFence
  entryId : String
  operationId : String
  kind : OperationKind

def OperationKind.phase : OperationKind → QueuePhase
  | .push => .publishing
  | .merge => .finalizing

def intentCurrent (intent : OperationIntent) (entry : QueueEntry) (fence : QueueFence) : Bool :=
  Json.strictEq intent.candidate (entry.field? "candidate") &&
    Json.strictEq intent.exactBase (entry.field? "exactBase") &&
    Json.strictEq intent.expectedOldHead (entry.field? "expectedOldHead") &&
    intent.fence.routeGeneration = fence.routeGeneration

def IssueArgs.intent (args : IssueArgs) (entry : QueueEntry) (issuedAt : String) (timeoutMs : Int) :
    OperationIntent :=
  { operationId := args.operationId, kind := args.kind, entryId := args.entryId
    fence := args.fence, issuedAt, candidate := entry.field? "candidate"
    expectedOldHead := entry.field? "expectedOldHead", exactBase := entry.field? "exactBase"
    deadline := entry.patience.deadline, timeoutMs }

def readOperation (operationId : String) (db : QueueDb) : Option OperationRow :=
  db.operations.find? fun row => row.operationId = operationId

def issuable (args : IssueArgs) (entry : QueueEntry) (turn : Option QueueEntry) : Bool :=
  turn.map QueueEntry.entryId = some args.entryId &&
    entry.phase = OperationKind.phase args.kind &&
    Json.truthy (entry.field? "candidate") && Json.truthy (entry.field? "exactBase") &&
    Json.truthy (entry.field? "expectedOldHead")

/-- Check an intent that was recorded earlier. -/
def replayIntent (args : IssueArgs) (lane : LaneKey) (existing : OperationRow) :
    Tx (OperationRow × Bool) := do
  .refuse (existing.entryId ≠ args.entryId || existing.kind ≠ args.kind || existing.lane ≠ lane)
    "conflicting operation identity"
  let entry ← .read (readEntry args.entryId)
  .refuse (!entry.any fun entry => intentCurrent existing.intent entry args.fence)
    "operation intent currency changed"
  pure (existing, false)

/-- Record the intent of a mutation, or find the one recorded earlier. -/
def prepare (args : IssueArgs) (lane : LaneKey) (issuedAt : String) :
    Tx (OperationRow × Bool) := do
  let _ ← assertFence args.fence issuedAt
  match ← .read (readOperation args.operationId) with
  | some existing => replayIntent args lane existing
  | none =>
    let pending ← .read (unresolvedOperations lane)
    .refuse (!pending.isEmpty) "unreconciled queue operation"
    let _ ← .raise (queueId args.entryId)
    let turn ← .read (firstActionable lane)
    match ← .read (readEntry args.entryId) with
    | none => .throw "invalid mutation phase/candidate"
    | some entry =>
      .refuse (!issuable args entry turn) "invalid mutation phase/candidate"
      let loadAware ← .ask Host.loadAwareTimeoutMs
      let timeoutMs ← .raise
        (queueWaitMs loadAware 30000 60000 (some (entry.patience.deadline, issuedAt)))
      .refuse (timeoutMs = 0) "queue infrastructure deadline expired"
      let intent := args.intent entry issuedAt timeoutMs
      let row : OperationRow :=
        { operationId := args.operationId, lane, entryId := args.entryId
          generation := args.fence.generation, routeGeneration := args.fence.routeGeneration
          kind := args.kind, intent }
      .modify fun db => { db with operations := db.operations ++ [row] }
      QueueStore.append lane issuedAt (.operationIntent intent)
      pure (row, true)

def settleIssued (fence : QueueFence) (lane : LaneKey) (operationId : String) (result : Json) :
    Tx Unit := do
  let now ← timeInside 0
  let _ ← assertFence fence now
  let settledAt ← timeInside 1
  settle lane operationId result settledAt

/-- Issue a mutation at most once: only a freshly recorded intent calls its adapter. -/
def issue (args : IssueArgs) : Prog QueueEffect QueueReply := do
  let _ ← Prog.raise (queueId args.operationId)
  locked args.fence.lane fun lane => do
    let issuedAt ← timeNow
    let (operation, fresh) ← transact (prepare args lane issuedAt)
    match operation.result with
    | some result => pure { ok := true, replay := true, result := some result }
    | none =>
      -- An intent found here may already have reached the remote.
      if !fresh then Prog.fail "operation requires reconciliation"
      else do
        Prog.perform (.invoke lane operation.intent)
        let result ← (Prog.perform .invoked).bind Prog.raise
        transact (settleIssued args.fence lane operation.operationId result)
        pure { ok := true, result := some result }

end

end QueueOwner

end AdversarialReview
