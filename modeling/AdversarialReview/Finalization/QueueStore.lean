import Mathlib.Data.List.Sort
import AdversarialReview.Library.JsText
import AdversarialReview.Library.JsDate
import AdversarialReview.Library.Transaction

/-! The queue store: the vocabulary of a lane, replaying its log, the tables, the owner fence,
admission and progress. -/

namespace AdversarialReview

structure LaneKey where
  repository : String
  base : String
  deriving DecidableEq

/-- Where an entry stands. -/
inductive QueuePhase where
  | acknowledged
  | ready
  | rebasing
  | publishing
  | waitingChecks
  | finalizing
  | merged
  | parkedHold
  | parkedPermission
  | parkedInfrastructure
  | returnedToCloser
  | closedObserved
  deriving DecidableEq

def queuePhases : List QueuePhase :=
  [.acknowledged, .ready, .rebasing, .publishing, .waitingChecks, .finalizing, .merged,
    .parkedHold, .parkedPermission, .parkedInfrastructure, .returnedToCloser, .closedObserved]

def queueActionablePhases : List QueuePhase :=
  queuePhases.take 6

def QueuePhase.actionable (phase : QueuePhase) : Bool :=
  phase ∈ queueActionablePhases

/-- Nothing happens to an entry after this phase. -/
def QueuePhase.terminal (phase : QueuePhase) : Bool :=
  phase ∈ [QueuePhase.merged, .closedObserved, .returnedToCloser]

def repositoryChar (char : Char) : Bool :=
  char.isAlphanum || char ∈ ['_', '.', '-']

def repositoryName (repository : String) : Bool :=
  match repository.toList.splitOn '/' with
  | [owner, name] =>
    owner ≠ [] && name ≠ [] && owner.all repositoryChar && name.all repositoryChar
  | _ => false

/-- A character that no branch name may have. -/
def forbiddenRefChar (char : Char) : Bool :=
  jsSpace char || char ∈ ['~', '^', ':', '?', '*', '[', '\\'] ||
    char.toNat < 0x20 || char.toNat = 0x7f

/-- One text stands somewhere in another. -/
def occursIn (part chars : List Char) : Bool :=
  chars.tails.any part.isPrefixOf

/-- A short branch name, never a full ref and never one Git would refuse. -/
def shortBranchRef (base : String) : Bool :=
  let chars := base.toList
  !(chars = [] || "refs/".toList.isPrefixOf chars || ['/'].isPrefixOf chars ||
    ['/'].isSuffixOf chars || ['.'].isSuffixOf chars || occursIn ['.', '.'] chars ||
    occursIn ['@', '\x7b'] chars || base = "@" || chars.any forbiddenRefChar ||
    (chars.splitOn '/').any fun part =>
      part = [] || ['.'].isPrefixOf part || ".lock".toList.isSuffixOf part)

def resolveLaneKey (lane : LaneKey) : Except String LaneKey :=
  if !repositoryName lane.repository then .error "lane requires repository full name"
  else if !shortBranchRef lane.base then .error "lane requires a short, valid base branch ref"
  else .ok { lane with repository := lane.repository.toLower }

/-- How long an entry may wait, fixed when it is acknowledged. -/
structure QueuePatience where
  startedAt : String
  nominalMs : Int
  effectiveMs : Int
  ceilingMs : Int
  deadline : String
  deriving DecidableEq

/--
One admitted pull request, as its stored payload has it.

The fields a progress patch may name stand in `fields`, absent where the payload has no such key.
-/
@[ext] structure QueueEntry where
  lane : LaneKey
  entryId : String
  prNumber : Int
  head : String
  admissionGeneration : Int
  handoffId : String
  ackId : String
  handoffDigest : Option String
  readinessSeq : Nat
  phase : QueuePhase
  acknowledgedAt : String
  updatedAt : String
  patience : QueuePatience
  progressVersion : Option Nat := none
  fields : OrderedMap String Json

def QueueEntry.field? (entry : QueueEntry) (key : String) : Option Json :=
  entry.fields.get? key

abbrev QueuePatch := OrderedMap String (Option Json)

/-- Whether somebody owns a lane. -/
inductive OwnerState where
  | idle
  | active
  | parked
  deriving DecidableEq

structure LaneRow where
  lane : LaneKey
  generation : Nat := 0
  routeGeneration : Nat := 0
  ownerId : Option String := none
  ownerState : OwnerState := .idle
  acquiredAt : Option String := none
  heartbeatAt : Option String := none
  expiresAt : Option String := none
  reason : Option String := none
  readinessSeq : Nat := 0

/-- The token an owner presents with every call. -/
structure QueueFence where
  lane : LaneKey
  ownerId : String
  generation : Nat
  routeGeneration : Nat

/-- What a mutation does to the remote. -/
inductive OperationKind where
  | push
  | merge
  deriving DecidableEq

/-- What is recorded before a mutation is issued. -/
structure OperationIntent where
  operationId : String
  kind : OperationKind
  entryId : String
  fence : QueueFence
  issuedAt : String
  candidate : Option Json
  expectedOldHead : Option Json
  exactBase : Option Json
  deadline : String
  timeoutMs : Int

/-- The part of a progress event that replaying assigns to the entry. -/
structure ProgressUpdate where
  -- What JSON keeps of the caller's patch.
  patch : List (String × Json)
  phase : QueuePhase
  updatedAt : String
  progressVersion : Nat
  readinessSeq : Option Nat

inductive OwnerChange where
  | claimed
  | renewed
  | released
  | parked
  deriving DecidableEq

inductive QueueEventBody where
  | acknowledged (entry : QueueEntry)
  | progress (entryId : String) (patch : ProgressUpdate) (generation routeGeneration : Nat)
      (priorPhase : QueuePhase) (observation : Option Json)
  | operationIntent (operation : OperationIntent)
  | operationResult (operationId : String) (result : Json)
  | owner (change : OwnerChange) (owner : Option LaneRow)

structure QueueEvent where
  lane : LaneKey
  recordedAt : String
  body : QueueEventBody

def QueueEntry.assign (entry : QueueEntry) (update : ProgressUpdate) : QueueEntry :=
  { entry with
    fields := update.patch.foldl (fun fields member => fields.set member.1 member.2) entry.fields
    phase := update.phase
    updatedAt := update.updatedAt
    progressVersion := some update.progressVersion
    readinessSeq := update.readinessSeq.getD entry.readinessSeq }

def patchText (text : String) : Option Json :=
  some (.str text)

/-- Where an interrupted publication resumes, judged from what is live now. -/
def reconcileQueuePublication (entry : QueueEntry) (observation : Json) :
    QueuePhase × QueuePatch :=
  let head := observation.get? "head"
  let base := observation.get? "base"
  let state := observation.get? "state"
  let because (reason : String) : QueuePatch := .single "reason" (patchText reason)
  if !Json.truthy (observation.get? "sourceRef") || !Json.truthy head || !Json.truthy base then
    (.parkedInfrastructure, because "publication-observation-unavailable")
  else if Json.strictEq state (some (.str "closed")) then
    (.closedObserved, because "live-closed")
  else if !Json.strictEq state (some (.str "open")) then
    -- A live merge alone proves neither the candidate nor its merge commit.
    (.parkedInfrastructure, because "terminal-state-requires-reconciliation")
  else if !Json.strictEq (entry.field? "candidate") head &&
      !Json.strictEq (entry.field? "expectedOldHead") head then
    (.returnedToCloser, because "external-head-change")
  else if !Json.strictEq base (entry.field? "exactBase") then
    (.rebasing, (because "external-base-change").set "checks" (some .null))
  else if Json.strictEq head (entry.field? "candidate") then
    (.waitingChecks, because "candidate-already-published")
  else (.publishing, because "expected-old-head-observed")

/-- A recorded mutation; its result is absent until it is settled. -/
structure OperationRow where
  operationId : String
  lane : LaneKey
  entryId : String
  generation : Nat
  routeGeneration : Nat
  kind : OperationKind
  intent : OperationIntent
  result : Option Json := none

inductive LaneExecutor where
  | legacy
  | queueV2
  deriving DecidableEq

/-- A change of executor that has begun and not completed. -/
structure RouteTransition where
  source : LaneExecutor
  target : LaneExecutor
  startedAt : String

structure RouteRow where
  lane : LaneKey
  executor : LaneExecutor
  configGeneration : String
  runtime : Option Json := none
  transition : Option RouteTransition := none
  updatedAt : String

inductive LegacyWriterKind where
  | daemon
  | closer
  deriving DecidableEq

/-- A legacy writer that began; its result is absent until it is known to have ended. -/
structure LegacyWriterRow where
  writerId : String
  lane : LaneKey
  routeGeneration : Nat
  kind : LegacyWriterKind
  result : Option Json := none

/-- An entry that goes back to the legacy path; its receipt is absent until it is acknowledged. -/
structure ReturnRow where
  entryId : String
  deliveryKey : String
  -- The payload handed to the return adapter, with the delivery key.
  lane : LaneKey
  entry : QueueEntry
  receipt : Option Json := none

structure MergeReceiptRow where
  entryId : String
  candidate : String
  mergeSha : String
  operationId : String
  receiptDigest : String
  receipt : Json

/--
The tables of the queue.

An entry's columns repeat fields of its payload, so its row is the payload.
-/
structure QueueDb where
  lanes : List LaneRow := []
  entries : List QueueEntry := []
  events : List QueueEvent := []
  operations : List OperationRow := []
  routes : List RouteRow := []
  writers : List LegacyWriterRow := []
  returns : List ReturnRow := []
  receipts : List MergeReceiptRow := []

/-- What the machine a call runs on answers while it runs. -/
structure Host where
  /-- The readings of the clock, in order. -/
  clock : Nat → String
  /-- A nominal wait under a ceiling, scaled by the machine's load. -/
  loadAwareTimeoutMs : Int → Int → Int
  /-- A fresh identity. -/
  uuid : String

abbrev Tx (α : Type) := Transaction Host QueueDb α

def maxSafeInteger : Nat := 9007199254740991

def maxTimerDelayMs : Int := 2147483647

/-- A character of an identity after its first one. -/
def queueIdChar (char : Char) : Bool :=
  char.isAlphanum || char ∈ [':', '_', '-']

def queueId (value : String) : Except String String :=
  let accepted := match value.toList with
    | [] => false
    | first :: rest => first.isAlphanum && rest.all queueIdChar && rest.length ≤ 159
  if !accepted || value ∈ ["constructor", "prototype", "__proto__"] then
    .error "invalid queue identity"
  else .ok value

def readOwner (lane : LaneKey) (db : QueueDb) : Option LaneRow :=
  db.lanes.find? fun row => row.lane = lane

def routeOf (lane : LaneKey) (db : QueueDb) : Option RouteRow :=
  db.routes.find? fun row => row.lane = lane

def queueRouted (route : Option RouteRow) : Bool :=
  match route with
  | some row => row.executor = .queueV2 && row.transition.isNone
  | none => false

def legacyRouted (route : Option RouteRow) : Bool :=
  match route with
  | some row => row.executor = .legacy && row.transition.isNone
  | none => false

def readEntry (entryId : String) (db : QueueDb) : Option QueueEntry :=
  db.entries.find? fun entry => entry.entryId = entryId

def QueueEntry.before (first second : QueueEntry) : Prop :=
  first.readinessSeq < second.readinessSeq ∨
    first.readinessSeq = second.readinessSeq ∧ first.entryId ≤ second.entryId

instance : DecidableRel QueueEntry.before := fun first second => by
  unfold QueueEntry.before; infer_instance

def laneEntries (lane : LaneKey) (db : QueueDb) : List QueueEntry :=
  (db.entries.filter fun entry => entry.lane = lane).insertionSort QueueEntry.before

def firstActionable (lane : LaneKey) (db : QueueDb) : Option QueueEntry :=
  (laneEntries lane db).find? fun entry => entry.phase.actionable

def unresolvedOperations (lane : LaneKey) (db : QueueDb) : List OperationRow :=
  db.operations.filter fun row => row.lane = lane && row.result.isNone

def QueueDb.updateLane (db : QueueDb) (lane : LaneKey) (change : LaneRow → LaneRow) : QueueDb :=
  { db with lanes := db.lanes.map fun row => if row.lane = lane then change row else row }

def QueueDb.ensureLane (db : QueueDb) (lane : LaneKey) : QueueDb :=
  if db.lanes.any fun row => row.lane = lane then db
  else { db with lanes := db.lanes ++ [{ lane }] }

def QueueDb.log (db : QueueDb) (lane : LaneKey) (recordedAt : String) (body : QueueEventBody) :
    QueueDb :=
  { db with events := db.events ++ [{ lane, recordedAt, body }] }

def QueueDb.updateEntry (db : QueueDb) (entry : QueueEntry) : QueueDb :=
  { db with entries := db.entries.map fun row =>
      if row.entryId = entry.entryId then entry else row }

/-- Two entries that a uniqueness constraint keeps apart. -/
def QueueEntry.conflicts (first second : QueueEntry) : Bool :=
  first.entryId = second.entryId || first.lane = second.lane &&
    (first.prNumber = second.prNumber && first.head = second.head &&
        first.admissionGeneration = second.admissionGeneration ||
      first.handoffId = second.handoffId || first.ackId = second.ackId ||
      first.readinessSeq = second.readinessSeq)

def insertEntry (entry : QueueEntry) : Tx Unit := do
  let rows ← .read QueueDb.entries
  .refuse (rows.any entry.conflicts) "UNIQUE constraint failed: finalization_queue_entry"
  .modify fun db => { db with entries := db.entries ++ [entry] }

def writeEntry (entry : QueueEntry) : Tx Unit := do
  let rows ← .read QueueDb.entries
  .refuse (rows.any fun row => row.entryId ≠ entry.entryId && row.lane = entry.lane &&
      row.readinessSeq = entry.readinessSeq)
    "UNIQUE constraint failed: finalization_queue_entry.readiness_seq"
  .modify fun db => db.updateEntry entry

def QueueDb.bumpReadiness (db : QueueDb) (lane : LaneKey) : QueueDb :=
  db.updateLane lane fun row => { row with readinessSeq := row.readinessSeq + 1 }

def nextReadiness (lane : LaneKey) : Tx Nat := do
  .modify fun db => db.bumpReadiness lane
  match ← .read (readOwner lane) with
  | some row => pure row.readinessSeq
  | none => .throw "Cannot read properties of undefined (reading 'readiness_seq')"

def readmission (readmits : Bool) (lane : LaneKey) : Tx (Option Nat) :=
  if readmits then do
    let readinessSeq ← nextReadiness lane
    pure (some readinessSeq)
  else pure none

structure AcknowledgeArgs where
  lane : LaneKey
  entryId : String
  prNumber : Int
  head : String
  admissionGeneration : Int
  handoffId : String
  ackId : String
  acknowledgedAt : String
  handoffDigest : Option String := none

def safePositive (value : Int) : Bool :=
  0 < value && value ≤ maxSafeInteger

def AcknowledgeArgs.names (args : AcknowledgeArgs) (lane : LaneKey) (entry : QueueEntry) : Bool :=
  entry.lane = lane && (entry.prNumber = args.prNumber && entry.head = args.head &&
      entry.admissionGeneration = args.admissionGeneration ||
    entry.handoffId = args.handoffId || entry.ackId = args.ackId)

def AcknowledgeArgs.repeats (args : AcknowledgeArgs) (entry : QueueEntry) : Bool :=
  entry.prNumber = args.prNumber && entry.head = args.head &&
    entry.admissionGeneration = args.admissionGeneration && entry.handoffId = args.handoffId &&
    entry.ackId = args.ackId && entry.handoffDigest = args.handoffDigest

def freshFields (head : String) : OrderedMap String Json :=
  (((((((OrderedMap.single "candidate" .null).set "expectedOldHead" (.str head)).set
    "exactBase" .null).set "reason" .null).set "proof" .null).set "checks" .null).set
    "decision" .null).set "delivery" .null

def patchKeys : List String :=
  ["candidate", "expectedOldHead", "exactBase", "reason", "proof", "checks", "decision",
    "delivery", "admission", "rebase", "infrastructure", "merge"]

/-- What a progress call asks for. -/
structure ProgressArgs where
  fence : QueueFence
  entryId : String
  phase : QueuePhase
  patch : QueuePatch := .empty
  progressedAt : String
  readmits : Bool := false
  recoveryObservation : Option Json := none
  expectedEntry : Option QueueEntry := none

/-- Two entries with the same fields, the order of members aside. -/
def QueueEntry.deepEq (first second : QueueEntry) : Bool :=
  first.lane = second.lane && first.entryId = second.entryId &&
    first.prNumber = second.prNumber && first.head = second.head &&
    first.admissionGeneration = second.admissionGeneration &&
    first.handoffId = second.handoffId && first.ackId = second.ackId &&
    first.handoffDigest = second.handoffDigest && first.readinessSeq = second.readinessSeq &&
    first.phase = second.phase && first.acknowledgedAt = second.acknowledgedAt &&
    first.updatedAt = second.updatedAt && first.patience = second.patience &&
    first.progressVersion = second.progressVersion &&
    Json.deepEq (.obj first.fields.entries) (.obj second.fields.entries)

def QueuePhase.rank (phase : QueuePhase) : Int :=
  if phase.actionable then queueActionablePhases.idxOf phase else -1

def progressRefusal (entry : QueueEntry) (phase : QueuePhase) (readmits recovering : Bool)
    (turn : Option String) : Option String :=
  let wasActive := entry.phase.actionable
  let becomesActive := phase.actionable
  if !wasActive && becomesActive && !(readmits && phase = .ready) then
    some "recovery requires readmission"
  else if becomesActive && wasActive && turn ≠ some entry.entryId then
    some "queue predecessor active"
  else if readmits && (wasActive || phase ≠ .ready) then some "invalid readmission"
  -- A final read that no longer sees green checks goes back to the same bounded wait.
  else if wasActive && becomesActive && phase.rank ≠ entry.phase.rank + 1 &&
      phase ≠ entry.phase && phase ≠ .rebasing && !recovering &&
      !(entry.phase = .finalizing && phase = .waitingChecks) then
    some "invalid queue transition"
  else if phase = .merged && entry.phase ≠ .finalizing then some "invalid merged transition"
  else none

def patchedFields (fields : OrderedMap String Json) (patch : QueuePatch) :
    OrderedMap String Json :=
  patch.entries.foldl (fun fields member =>
    match member.2 with
    | some value => fields.set member.1 value
    | none => fields.erase member.1) fields

def loggedPatch (patch : QueuePatch) : List (String × Json) :=
  patch.entries.filterMap fun member => member.2.map fun value => (member.1, value)

def QueueEntry.moved (entry : QueueEntry) (patch : QueuePatch) (phase : QueuePhase)
    (updatedAt : String) (progressVersion : Nat) (readinessSeq : Option Nat) : QueueEntry :=
  { entry with
    fields := patchedFields entry.fields patch, phase, updatedAt
    progressVersion := some progressVersion
    readinessSeq := readinessSeq.getD entry.readinessSeq }

section

variable [JsDate]

def queueTime (value : String) : Except String String :=
  match JsDate.parse value with
  | none => .error "invalid queue timestamp"
  | some ms => JsDate.shift ms 0

def queueWaitMs (loadAware : Int → Int → Int) (nominalMs ceilingMs : Int)
    (until_ : Option (String × String) := none) : Except String Int :=
  let scaled := min (min ceilingMs maxTimerDelayMs) (loadAware nominalMs ceilingMs)
  match until_ with
  | none => .ok (max 0 scaled)
  | some (deadline, now) =>
    match JsDate.parse deadline, JsDate.parse now with
    | some deadline, some now => .ok (max 0 (min (deadline - now) scaled))
    | _, _ => .error "invalid wait deadline"

def queuePatience (loadAware : Int → Int → Int) (startedAt : String) :
    Except String QueuePatience := do
  let effectiveMs ← queueWaitMs loadAware 1800000 3600000
  match JsDate.parse startedAt with
  | none => .error "Invalid time value"
  | some start =>
    let deadline ← JsDate.shift start effectiveMs
    pure { startedAt, nominalMs := 1800000, effectiveMs, ceilingMs := 3600000, deadline }

def QueueStore.append (lane : LaneKey) (recordedAt : String) (body : QueueEventBody) : Tx Unit := do
  .refuse (JsDate.parse recordedAt).isNone "queue event requires at"
  .modify fun db => db.log lane recordedAt body

def fenceHolds (row : LaneRow) (fence : QueueFence) : Bool :=
  row.ownerState = .active && row.ownerId = some fence.ownerId &&
    row.generation = fence.generation && row.routeGeneration = fence.routeGeneration

def assertFence (fence : QueueFence) (now : String) : Tx LaneRow := do
  let lane ← .raise (resolveLaneKey fence.lane)
  let route ← .read (routeOf lane)
  .refuse (!queueRouted route) "queue route is not owned"
  match ← .read (readOwner lane) with
  | none => .throw "stale queue owner fence"
  | some row =>
    .refuse (!fenceHolds row fence) "stale queue owner fence"
    match row.expiresAt.bind JsDate.parse with
    | none => .throw "stale queue owner fence"
    | some expires =>
      let now ← .raise (queueTime now)
      .refuse ((JsDate.parse now).any fun now => expires ≤ now) "stale queue owner fence"
      pure row

def freshEntry (args : AcknowledgeArgs) (lane : LaneKey) (acknowledgedAt : String)
    (readinessSeq : Nat) (patience : QueuePatience) : QueueEntry :=
  { lane, entryId := args.entryId, prNumber := args.prNumber, head := args.head
    admissionGeneration := args.admissionGeneration, handoffId := args.handoffId
    ackId := args.ackId, handoffDigest := args.handoffDigest, readinessSeq
    phase := .acknowledged, acknowledgedAt, updatedAt := acknowledgedAt, patience
    fields := freshFields args.head }

/-- Admit a pull request at the tail of its lane, or repeat the entry it already has. -/
def acknowledge (args : AcknowledgeArgs) : Tx QueueEntry := do
  let lane ← .raise (resolveLaneKey args.lane)
  let acknowledgedAt ← .raise (queueTime args.acknowledgedAt)
  let _ ← .raise (queueId args.entryId)
  let _ ← .raise (queueId args.handoffId)
  let _ ← .raise (queueId args.ackId)
  .refuse (!safePositive args.prNumber || args.head = "" ||
    !safePositive args.admissionGeneration) "invalid queue admission"
  .modify fun db => db.ensureLane lane
  let rows ← .read QueueDb.entries
  match rows.filter (args.names lane) with
  | [] =>
    let readinessSeq ← nextReadiness lane
    let loadAware ← .ask Host.loadAwareTimeoutMs
    let patience ← .raise (queuePatience loadAware acknowledgedAt)
    let entry := freshEntry args lane acknowledgedAt readinessSeq patience
    insertEntry entry
    QueueStore.append lane acknowledgedAt (.acknowledged entry)
    pure entry
  | [entry] =>
    .refuse (!args.repeats entry) "conflicting queue acknowledgement"
    pure entry
  | _ => .throw "conflicting queue acknowledgement"

def ProgressArgs.resolve (args : ProgressArgs) (entry : QueueEntry) :
    Except String (QueuePhase × QueuePatch) :=
  match args.recoveryObservation with
  | none => .ok (args.phase, args.patch)
  | some observation =>
    if !Json.truthy (some observation) then .ok (args.phase, args.patch)
    else if entry.phase ∉ [QueuePhase.publishing, .waitingChecks, .finalizing] then
      .error "invalid publication recovery phase"
    else .ok (reconcileQueuePublication entry observation)

def ProgressArgs.recovering (args : ProgressArgs) : Bool :=
  Json.truthy args.recoveryObservation

def progressSubject (args : ProgressArgs) (lane : LaneKey) : Tx QueueEntry := do
  let _ ← .raise (queueId args.entryId)
  match ← .read (readEntry args.entryId) with
  | none => .throw "foreign queue entry"
  | some entry =>
    .refuse (entry.lane ≠ lane) "foreign queue entry"
    .refuse (args.expectedEntry.any fun expected => !entry.deepEq expected)
      "queue admission observation superseded"
    let pending ← .read (unresolvedOperations lane)
    .refuse (!pending.isEmpty) "unreconciled queue operation"
    .refuse entry.phase.terminal "terminal queue entry"
    pure entry

def progress (args : ProgressArgs) : Tx QueueEntry := do
  let updatedAt ← .raise (queueTime args.progressedAt)
  .refuse (args.patch.entries.any fun member => member.1 ∉ patchKeys)
    "immutable queue entry field"
  let _ ← assertFence args.fence updatedAt
  let lane ← .raise (resolveLaneKey args.fence.lane)
  let entry ← progressSubject args lane
  let (phase, patch) ← .raise (args.resolve entry)
  let turn ← .read (firstActionable lane)
  match progressRefusal entry phase args.readmits args.recovering (turn.map QueueEntry.entryId) with
  | some refusal => .throw refusal
  | none =>
    let progressVersion := entry.progressVersion.getD 0 + 1
    .refuse (maxSafeInteger < progressVersion) "queue progress version exhausted"
    let readinessSeq ← readmission args.readmits lane
    let moved := entry.moved patch phase updatedAt progressVersion readinessSeq
    writeEntry moved
    let update : ProgressUpdate :=
      { patch := loggedPatch patch, phase, updatedAt, progressVersion, readinessSeq }
    QueueStore.append lane updatedAt (.progress args.entryId update args.fence.generation
      args.fence.routeGeneration entry.phase
      (if args.recovering then args.recoveryObservation else none))
    pure moved

end

end AdversarialReview
