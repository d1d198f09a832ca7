import AdversarialReview.Finalization.QueueOwner

/-! Whole-lane routing: which executor writes, and the transfer of a lane between the two. -/

namespace AdversarialReview

structure LaneRoute where
  lane : LaneKey
  executor : LaneExecutor
  configGeneration : String
  autonomousExecutionEnabled : Bool := true

structure RoutingState where
  -- The route row joined with its lane row.
  route : Option (RouteRow × LaneRow)
  legacyWriters : List LegacyWriterRow
  pendingReturns : List ReturnRow

/-- The digest of a handoff's canonical JSON. -/
class HandoffDigest where
  handoffDigest : Json → String

def LegacyWriterRow.before (first second : LegacyWriterRow) : Prop :=
  first.writerId ≤ second.writerId

instance : DecidableRel LegacyWriterRow.before := fun first second => by
  unfold LegacyWriterRow.before; infer_instance

def ReturnRow.before (first second : ReturnRow) : Prop :=
  first.entryId ≤ second.entryId

instance : DecidableRel ReturnRow.before := fun first second => by
  unfold ReturnRow.before; infer_instance

def routedLane (lane : LaneKey) (db : QueueDb) : Option (RouteRow × LaneRow) := do
  let route ← routeOf lane db
  let row ← readOwner lane db
  pure (route, row)

def unresolvedWriters (lane : LaneKey) (db : QueueDb) : List LegacyWriterRow :=
  (db.writers.filter fun row => row.lane = lane && row.result.isNone).insertionSort
    LegacyWriterRow.before

def pendingReturns (lane : LaneKey) (db : QueueDb) : List ReturnRow :=
  (db.returns.filter fun row => row.receipt.isNone &&
    db.entries.any fun entry => entry.entryId = row.entryId && entry.lane = lane).insertionSort
    ReturnRow.before

def readReceipt (entryId : String) (db : QueueDb) : Option MergeReceiptRow :=
  db.receipts.find? fun row => row.entryId = entryId

def QueueDb.updateRoute (db : QueueDb) (lane : LaneKey) (change : RouteRow → RouteRow) : QueueDb :=
  { db with routes := db.routes.map fun row => if row.lane = lane then change row else row }

def QueueDb.settleWriter (db : QueueDb) (writerId : String) (result : Json) : QueueDb :=
  { db with writers := db.writers.map fun row =>
      if row.writerId = writerId then { row with result := some result } else row }

def QueueDb.settleOperation (db : QueueDb) (operationId : String) (result : Json) : QueueDb :=
  { db with operations := db.operations.map fun row =>
      if row.operationId = operationId then { row with result := some result } else row }

def QueueDb.ensureRoute (db : QueueDb) (route : LaneRoute) (updatedAt : String) : QueueDb :=
  if db.routes.any fun row => row.lane = route.lane then db
  else { db with routes := db.routes ++ [{ lane := route.lane, executor := .legacy
                                           configGeneration := route.configGeneration
                                           updatedAt }] }

def returnKey (entryId : String) : String :=
  "route-return:" ++ entryId

def QueueDb.listReturn (db : QueueDb) (lane : LaneKey) (entry : QueueEntry) : QueueDb :=
  let row : ReturnRow :=
    { entryId := entry.entryId, deliveryKey := returnKey entry.entryId, lane, entry }
  if db.returns.any fun other =>
      other.entryId = row.entryId || other.deliveryKey = row.deliveryKey then db
  else { db with returns := db.returns ++ [row] }

def QueueDb.acknowledgeReturn (db : QueueDb) (entryId : String) (receipt : Json) : QueueDb :=
  { db with returns := db.returns.map fun row =>
      if row.entryId = entryId then { row with receipt := some receipt } else row }

def acknowledges (receipt : Json) (deliveryKey : String) : Bool :=
  Json.strictEq (receipt.get? "acknowledged") (some (.bool true)) &&
    Json.strictEq (receipt.get? "deliveryKey") (some (.str deliveryKey)) &&
    Json.truthy (receipt.get? "sourceRef")

def triedInVain (result : Option Json) : Bool :=
  match result.bind (·.get? "attempts") with
  | some (.num attempts) =>
    0 < attempts && !Json.truthy (result.bind (·.get? "merged")) &&
      !Json.truthy (result.bind (·.get? "permanent"))
  | _ => false

namespace LaneRouting

def read (lane : LaneKey) : Prog QueueEffect RoutingState := do
  let route ← transact (.read (routedLane lane))
  let legacyWriters ← transact (.read (unresolvedWriters lane))
  let pendingReturns ← transact (.read (pendingReturns lane))
  pure { route, legacyWriters, pendingReturns }

def acquireLock (lane : LaneKey) (legacyDeadline : Option String) : Prog QueueEffect Bool := do
  let acquired ← (Prog.perform (.tryLock lane)).bind Prog.raise
  match acquired, legacyDeadline with
  | false, some deadline => (Prog.perform (.waitForLock lane deadline)).bind Prog.raise
  | _, _ => pure acquired

def locked (lane : LaneKey) (legacyDeadline : Option String)
    (action : LaneKey → Prog QueueEffect QueueReply) : Prog QueueEffect QueueReply := do
  let lane ← Prog.raise (resolveLaneKey lane)
  let acquired ← acquireLock lane legacyDeadline
  if acquired then (action lane).finally_ (.perform (.unlock lane))
  else pure (refused "owner-operation-in-flight")

section

variable [JsDate] [HandoffDigest]

def initialize_ (route : LaneRoute) (lane : LaneKey) : Tx Unit := do
  .modify fun db => db.ensureLane lane
  let updatedAt ← QueueOwner.timeInside 0
  .modify fun db => db.ensureRoute { route with lane } updatedAt

/-- What a run asks for: the configured route, and what each executor would do. -/
structure RunArgs where
  desired : LaneRoute
  kind : LegacyWriterKind
  runtime : Option Json := none
  /-- Whether the caller composed a legacy writer. -/
  legacy : Bool := true
  /-- The admissions the queue callback makes in its lane, if the caller composed one. -/
  queue : Option (List AcknowledgeArgs) := none
  legacyDeadline : Option String := none

def refreshRoute (lane : LaneKey) (configGeneration : String) (runtime : Option Json) :
    Tx Unit := do
  let updatedAt ← QueueOwner.timeInside 0
  .modify fun db => db.updateRoute lane fun row => { row with configGeneration, runtime, updatedAt }

def startWriter (lane : LaneKey) (routeGeneration : Nat) (kind : LegacyWriterKind) :
    Tx String := do
  let writerId ← .ask Host.uuid
  let _ ← QueueOwner.timeInside 0
  let taken ← .read QueueDb.writers
  .refuse (taken.any fun row => row.writerId = writerId)
    "UNIQUE constraint failed: finalization_queue_legacy_writer.writer_id"
  .modify fun db => { db with
    writers := db.writers ++ [{ writerId, lane, routeGeneration, kind }] }
  pure writerId

def localReturn (writerId : String) : Json :=
  .obj [("outcome", .str "succeeded"), ("sourceRef", .str ("local-return:" ++ writerId))]

def admitAll (lane : LaneKey) : List AcknowledgeArgs → Prog QueueEffect QueueReply
  | [] => pure { ok := true }
  | admission :: rest => do
    let _ ← transact (acknowledge { admission with lane })
    admitAll lane rest

def runLegacy (args : RunArgs) (lane : LaneKey) (routeGeneration : Nat) :
    Prog QueueEffect QueueReply := do
  let writerId ← transact (startWriter lane routeGeneration args.kind)
  Prog.perform (.callLegacy lane)
  let result ← (Prog.perform .legacyEnded).bind Prog.raise
  -- A writer that tried in vain may still be at work, so its record stays open.
  if triedInVain result then pure { ok := true, result }
  else do
    transact (.modify fun db => db.settleWriter writerId (localReturn writerId))
    pure { ok := true, result }

def run (args : RunArgs) : Prog QueueEffect QueueReply := do
  if !args.desired.autonomousExecutionEnabled then
    pure (refused "autonomous-merge-execution-disabled")
  else
    let deadline := if args.desired.executor = .legacy then args.legacyDeadline else none
    locked args.desired.lane deadline fun lane => do
      transact (initialize_ args.desired lane)
      let state ← read lane
      match state.route with
      | none => Prog.fail "Cannot read properties of null (reading 'transition')"
      | some (route, row) =>
        if route.transition.isSome || route.executor ≠ args.desired.executor then
          pure (refused "lane-transfer-required")
        else do
          let pending ← transact (.read (unresolvedOperations lane))
          if (route.executor = .queueV2 && !state.legacyWriters.isEmpty) || !pending.isEmpty then
            pure (refused "lane-reconciliation-required")
          else do
            transact (refreshRoute lane args.desired.configGeneration args.runtime)
            match route.executor, args.legacy, args.queue with
            | .queueV2, _, some admissions => admitAll lane admissions
            | .legacy, true, _ => runLegacy args lane row.routeGeneration
            | _, _, _ => pure (refused "queue-composition-unavailable")

structure TransferArgs where
  desired : LaneRoute
  expectedGeneration : Nat
  deadline : Option String := none

def beginTransfer (args : TransferArgs) (lane : LaneKey) (source : LaneExecutor) : Tx Unit := do
  let startedAt ← QueueOwner.timeInside 0
  let updatedAt ← QueueOwner.timeInside 1
  .modify fun db => db.updateRoute lane fun row =>
    { row with transition := some { source, target := args.desired.executor, startedAt }
               updatedAt }
  .modify fun db => db.updateLane lane fun row =>
    { row with routeGeneration := row.routeGeneration + 1, ownerState := .parked
               reason := some "route-transfer" }
  let parkedAt ← QueueOwner.timeInside 2
  let owner ← .read (readOwner lane)
  QueueStore.append lane parkedAt (.owner .parked owner)

def wait (deadline : String) : Prog QueueEffect Int := do
  let loadAware ← Prog.perform .loadAware
  let now ← QueueOwner.timeNow
  Prog.raise (queueWaitMs loadAware 30000 60000 (some (deadline, now)))

def readQueueEvidence (deadline : String) (request : Int → QueueEffect (Option Json)) :
    Prog QueueEffect (Option Json) := do
  let loadAware ← Prog.perform .loadAware
  let now ← Prog.perform .now
  match (queueTime now).bind fun now =>
      queueWaitMs loadAware 30000 60000 (some (deadline, now)) with
  | .error _ => pure none
  | .ok timeoutMs => if timeoutMs ≤ 0 then pure none else Prog.perform (request timeoutMs)

def receiptValid (row : MergeReceiptRow) (op : OperationRow) (entry : QueueEntry) : Bool :=
  let digest := row.receipt.get? "digest"
  let merge := row.receipt.get? "merge"
  let mergeSha := merge.bind (·.get? "mergeSha")
  Json.strictEq digest (some (.str (HandoffDigest.handoffDigest (row.receipt.erase "digest")))) &&
    Json.strictEq digest (some (.str row.receiptDigest)) &&
    Json.strictEq (row.receipt.get? "entryId") (some (.str op.entryId)) &&
    Json.strictEq (row.receipt.get? "newHead") op.intent.candidate &&
    Json.strictEq (row.receipt.get? "base") op.intent.exactBase &&
    Json.strictEq (merge.bind (·.get? "operationId")) (some (.str op.operationId)) &&
    Json.strictEq mergeSha (some (.str row.mergeSha)) &&
    Json.strictEq (some (.str row.candidate)) op.intent.candidate &&
    row.operationId = op.operationId &&
    Json.strictEq ((entry.field? "merge").bind (·.get? "mergeSha")) mergeSha

def reconciled (op : OperationRow) (entry : Option QueueEntry) (receipt : Option MergeReceiptRow) :
    Bool :=
  match entry with
  | none => false
  | some entry =>
    let publication := (entry.field? "rebase").bind (·.get? "publication")
    Json.strictEq (entry.field? "candidate") op.intent.candidate &&
      Json.strictEq (entry.field? "exactBase") op.intent.exactBase &&
      match op.kind with
      | .merge => entry.phase = .merged && receipt.any fun row => receiptValid row op entry
      | .push =>
        Json.strictEq (publication.bind (·.get? "head")) op.intent.candidate &&
          Json.strictEq (publication.bind (·.get? "base")) op.intent.exactBase &&
          Json.truthy (publication.bind (·.get? "sourceRef"))

def allReconciled (evidence : Json) : List OperationRow → Prog QueueEffect Bool
  | [] => pure true
  | op :: rest =>
    if !Json.strictEq ((resultOf evidence op.operationId).bind (·.get? "outcome"))
        (some (.str "succeeded")) then
      allReconciled evidence rest
    else do
      let entry ← transact (.read (readEntry op.entryId))
      let receipt ← transact (.read (readReceipt op.entryId))
      if reconciled op entry receipt then allReconciled evidence rest else pure false

def drainedResult (evidence : Json) (key : String) : Json :=
  (resultOf evidence key).getD .null

def settleDrained (lane : LaneKey) (evidence : Json) (reading : Nat) :
    List OperationRow → Tx Unit
  | [] => pure ()
  | op :: rest => do
    let result := drainedResult evidence op.operationId
    .modify fun db => db.settleOperation op.operationId result
    let settledAt ← QueueOwner.timeInside reading
    QueueStore.append lane settledAt (.operationResult op.operationId result)
    settleDrained lane evidence (reading + 1) rest

def settleTransfer (args : TransferArgs) (lane : LaneKey) (writers : List LegacyWriterRow)
    (pending : List OperationRow) (evidence : Json) : Tx Unit := do
  Transaction.each (fun writer : LegacyWriterRow =>
    .modify fun db => db.settleWriter writer.writerId (drainedResult evidence writer.writerId))
    writers
  settleDrained lane evidence 0 pending
  if args.desired.executor = .legacy then do
    let entries ← .read (laneEntries lane)
    Transaction.each (fun entry : QueueEntry => .modify fun db => db.listReturn lane entry)
      (entries.filter fun entry => !entry.phase.terminal)
  else pure ()

def returnEntry (lane : LaneKey) (row : ReturnRow) (receipt : Json) : Tx Unit := do
  .modify fun db => db.acknowledgeReturn row.entryId receipt
  match ← .read (readEntry row.entryId) with
  | none => .throw "Cannot read properties of null (reading 'phase')"
  | some entry =>
    if entry.phase.terminal then pure ()
    else do
      let returnedAt ← QueueOwner.timeInside 0
      let progressVersion := entry.progressVersion.getD 0 + 1
      .refuse (maxSafeInteger < progressVersion) "queue progress version exhausted"
      let update : ProgressUpdate :=
        { patch := [("reason", .str "route-rollback")], phase := .returnedToCloser
          updatedAt := returnedAt, progressVersion, readinessSeq := none }
      .modify fun db => db.updateEntry (entry.assign update)
      match ← .read (readOwner lane) with
      | none => .throw "Cannot read properties of null (reading 'generation')"
      | some owner =>
        QueueStore.append lane returnedAt (.progress entry.entryId update owner.generation
          owner.routeGeneration entry.phase none)

def returnEntries (lane : LaneKey) (deadline : String) : List ReturnRow → Prog QueueEffect Bool
  | [] => pure true
  | row :: rest => do
    match ← readQueueEvidence deadline (.deliverReturn row) with
    | none => pure false
    | some receipt =>
      if !acknowledges receipt row.deliveryKey then pure false
      else do
        let left ← wait deadline
        if left = 0 then pure false
        else do
          transact (returnEntry lane row receipt)
          returnEntries lane deadline rest

def completeTransfer (args : TransferArgs) (lane : LaneKey) : Tx Unit := do
  let updatedAt ← QueueOwner.timeInside 0
  .modify fun db => db.updateRoute lane fun row =>
    { row with executor := args.desired.executor, configGeneration := args.desired.configGeneration
               runtime := none, transition := none, updatedAt }
  .modify fun db => db.updateLane lane fun row =>
    { row with ownerId := none, ownerState := .idle, reason := none }
  let releasedAt ← QueueOwner.timeInside 1
  let owner ← .read (readOwner lane)
  QueueStore.append lane releasedAt (.owner .released owner)

def finishTransfer (args : TransferArgs) (lane : LaneKey) (deadline : String) :
    Prog QueueEffect QueueReply := do
  let state ← read lane
  let returned ← returnEntries lane deadline state.pendingReturns
  if !returned then pure (refused "legacy-return-unacknowledged")
  else do
    transact (completeTransfer args lane)
    let _ ← read lane
    pure { ok := true }

def drainProven (evidence : Json) (writers : List LegacyWriterRow) (pending : List OperationRow) :
    Bool :=
  quiescent evidence && writers.all (fun writer => validResult (resultOf evidence writer.writerId))
    && pending.all fun op => validResult (resultOf evidence op.operationId)

/-- Drain both executors, settle what the drain proves, and go on to the returns. -/
def drainTransfer (args : TransferArgs) (lane : LaneKey) : Prog QueueEffect QueueReply := do
  let state ← read lane
  match state.route with
  | none => Prog.fail "Cannot read properties of null (reading 'route')"
  | some (route, _) =>
    let started ← QueueOwner.timeNow
    let deadline ← Prog.raise <| match args.deadline with
      | some deadline => .ok deadline
      | none => match JsDate.parse started with
        | none => .error "Invalid time value"
        | some start => JsDate.shift start 60000
    let pending ← transact (.read (unresolvedOperations lane))
    match ← readQueueEvidence deadline (.drain lane route state.legacyWriters pending) with
    | none => pure (refused "route-drain-unproven")
    | some evidence =>
      if !quiescent evidence then pure (refused "route-drain-unproven")
      else do
        let left ← wait deadline
        if left = 0 || !drainProven evidence state.legacyWriters pending then
          pure (refused "route-drain-unproven")
        else do
          let materialized ← allReconciled evidence pending
          if !materialized then pure (refused "operation-receipt-reconciliation-required")
          else do
            transact (settleTransfer args lane state.legacyWriters pending evidence)
            finishTransfer args lane deadline

/-- Move a whole lane to the configured executor, or go on with a transfer that was cut short. -/
def transfer (args : TransferArgs) : Prog QueueEffect QueueReply :=
  locked args.desired.lane none fun lane => do
    transact (initialize_ args.desired lane)
    let state ← read lane
    match state.route with
    | none => Prog.fail "Cannot read properties of null (reading 'route_generation')"
    | some (prior, row) =>
      if row.routeGeneration ≠ args.expectedGeneration then
        pure (refused "route-generation-mismatch")
      else match prior.transition with
        | none =>
          if prior.executor = args.desired.executor then pure { ok := true, replay := true }
          else if maxSafeInteger < row.routeGeneration + 1 then
            Prog.fail "route generation exhausted"
          else do
            transact (beginTransfer args lane prior.executor)
            drainTransfer args lane
        | some transition =>
          if transition.target ≠ args.desired.executor then
            pure (refused "different-transfer-pending")
          else drainTransfer args lane

end

end LaneRouting

end AdversarialReview
