import AdversarialReview.Argus.Claim
import AdversarialReview.Library.JsDate

/-! Every call on the queue of security reviews, run by any number of processes at once. -/

namespace AdversarialReview.Argus

/-- The steps of a call; the last one only marks its end. -/
inductive StoreEffect : Type → Type 1 where
  | queue {β : Type} (effect : QueueEffect β) : StoreEffect β
  | exists_ (bucket : JobBucket) (name : String) : StoreEffect Bool
  /-- A new pending file, where there is none. -/
  | create (name : String) (record : Json) : StoreEffect (Except DiskError Unit)
  /-- Remove a pending name, if it is there. -/
  | remove (name : String) : StoreEffect (Except String Unit)
  | ended : StoreEffect Unit

/-- A program on the queue as one among all calls. -/
def onQueue {α : Type} : Prog QueueEffect α → Prog StoreEffect α
  | .pure value => .pure value
  | .fail message => .fail message
  | .step effect next => .step (.queue effect) fun answer => onQueue (next answer)

def readArgusJob (bucket : JobBucket) (name : String) : Prog StoreEffect (Except String Json) :=
  .perform (.queue (.read bucket name))

structure EnqueueRequest where
  identity : JobIdentity
  reasons : Option Json
  enqueuedAt : Option Json := none
  source : Option Json := none
  /-- The clock, where no time is handed over. -/
  now : String

structure BuiltJob where
  name : String
  record : Json

structure EnqueueResult where
  enqueued : Bool
  name : String
  bucket : JobBucket
  job : Option Json

section

variable [JsText]

/-- A trigger of a review, by its place in the list. -/
def normalizeReason (reason : Json) (index : Nat) : Except String Json :=
  match reason with
  | .obj _ =>
    match reason.get? "trigger" with
    | some (.str trigger) =>
      if jsTrim trigger = "" then
        .error s!"argus-security-queue: reasons[{index}].trigger must be a non-empty string"
      else .ok reason
    | _ => .error s!"argus-security-queue: reasons[{index}].trigger must be a non-empty string"
  | _ => .error s!"argus-security-queue: reasons[{index}] must be an object"

def normalizeReasons (reasons : Option Json) : Except String (List Json) :=
  match reasons with
  | some (.arr (first :: rest)) =>
    (first :: rest).zipIdx.mapM fun reason => normalizeReason reason.1 reason.2
  | _ =>
    .error "argus-security-queue: reasons must be a non-empty array of ASR-02 trigger reasons"

def sourceText (source : Option Json) : Except String Json :=
  if Json.truthy source then do return .str (← Json.nullishText source) else .ok .null

variable [JsJson] [JsDate]

def normalizeIsoTimestamp (value : Option Json) (fallback : String) : Except String String := do
  let normalized := jsTrim (← Json.nullishText value)
  if normalized = "" then .ok fallback
  else
    match JsDate.parse normalized with
    | some _ => .ok normalized
    | none => .error s!"argus-security-queue: invalid ISO timestamp {Json.jsonText value}"

variable [JsNumber]

def buildArgusJob (request : EnqueueRequest) : Except String BuiltJob := do
  let repo ← normalizeRepo request.identity.repo
  let prNumber ← normalizePrNumber request.identity.prNumber
  let headSha ← normalizeHeadSha request.identity.headSha
  let reasons ← normalizeReasons request.reasons
  let enqueuedAt ← normalizeIsoTimestamp request.enqueuedAt request.now
  let jobId ← buildArgusJobId
    { repo := some (.str repo), prNumber := some (.num prNumber), headSha := some (.str headSha) }
  let source ← sourceText request.source
  return {
    name := jobId ++ ".json"
    record := .obj [("schemaVersion", .num 1), ("kind", .str "argus-security-review"),
      ("status", .str "pending"), ("jobId", .str jobId), ("repo", .str repo),
      ("prNumber", .num prNumber), ("headSha", .str headSha), ("reasons", .arr reasons),
      ("enqueuedAt", .str enqueuedAt), ("source", source), ("claimedAt", .null),
      ("completedAt", .null), ("failedAt", .null)] }

def templateText : Option Json → Except String String
  | none => .ok "undefined"
  | some (.str text) => .ok text
  | some value =>
    match JsText.string value with
    | some text => .ok text
    | none => .error conversionError

def argusJobIdentityKey (job : Json) : Except String String := do
  let repo ← Json.nullishLower (job.get? "repo")
  let prNumber ← templateText (job.get? "prNumber")
  let headSha ← Json.nullishLower (job.get? "headSha")
  return repo ++ "#" ++ prNumber ++ "@" ++ headSha

def isSubjectless (job : Json) : Bool :=
  Json.isText (job.get? "status") "failed" &&
    ["repo", "prNumber", "headSha"].all fun key => Json.strictEq (job.get? key) (some .null)

def assertSameSubject (existing : LocatedJob) (built : BuiltJob) : Except String Unit :=
  match existing.job with
  | none => .ok ()
  | some job =>
    if !Json.truthy (some job) || isSubjectless job then .ok ()
    else do
      let wanted ← argusJobIdentityKey built.record
      let found ← argusJobIdentityKey job
      if wanted = found then .ok ()
      else .error (s!"argus-security-queue: job id collision at {existing.jobPath} — " ++
        s!"record is {found}, enqueue is {wanted}")

end

/-- The first bucket with a file of this name, each of them looked up on its own. -/
def findJob (name : String) : List JobBucket → Prog StoreEffect (Option LocatedJob)
  | [] => pure none
  | bucket :: rest => do
    if !(← .perform (.exists_ bucket name)) then findJob name rest
    else
      let jobPath := getArgusJobDir bucket ++ "/" ++ name
      match (← readArgusJob bucket name) with
      | .error _ => pure (some { bucket, jobPath, job := none })
      | .ok job => pure (some { bucket, jobPath, job := some job })

def resolveEnqueueRace (name : String) : List JobBucket → Prog StoreEffect (Option EnqueueResult)
  | [] => pure none
  | bucket :: rest => do
    if !(← .perform (.exists_ bucket name)) then resolveEnqueueRace name rest
    else
      .raise (← .perform (.remove name))
      let job := (← readArgusJob bucket name).toOption
      pure (some { enqueued := false, name, bucket, job })

def racedBuckets : List JobBucket := argusJobBuckets.filter (· ≠ .pending)

def enqueueBuilt [JsText] (built : BuiltJob) : Prog StoreEffect EnqueueResult := do
  let name := built.name
  match (← findJob name argusJobBuckets) with
  | some existing =>
    .raise (assertSameSubject existing built)
    pure { enqueued := false, name, bucket := existing.bucket, job := existing.job }
  | none =>
    .raise (← .perform (.queue (.mkdir .pending)))
    match (← .perform (.create name built.record)) with
    | .error .eexist =>
      -- Somebody else created it meanwhile.
      match (← findJob name argusJobBuckets) with
      | some raced => pure { enqueued := false, name, bucket := raced.bucket, job := raced.job }
      | none => pure { enqueued := false, name, bucket := .pending, job := none }
    | .error failure => .fail failure.message
    | .ok _ =>
      match (← resolveEnqueueRace name racedBuckets) with
      | some duplicate => pure duplicate
      | none => pure { enqueued := true, name, bucket := .pending, job := some built.record }

def enqueueArgusSecurityReview [JsText] [JsJson] [JsDate] [JsNumber] (request : EnqueueRequest) :
    Prog StoreEffect EnqueueResult := do
  enqueueBuilt (← .raise (buildArgusJob request))

def patched (job : Json) (patch : List (String × Json)) : Json :=
  patch.foldl (fun record member => record.set member.1 member.2) (.obj (spreadMembers job))

/-- The record a call works on: the caller's, or the one on the disk. -/
def currentJob (bucket : JobBucket) (name : String) (job : Option Json) :
    Prog StoreEffect Json := do
  match job with
  | some job => pure job
  | none => .raise (← readArgusJob bucket name)

def moveArgusJobToTerminalBucket (source target : JobBucket) (name : String)
    (patch : List (String × Json)) (job : Option Json) : Prog StoreEffect Json := do
  let current ← currentJob source name job
  .raise (← .perform (.queue (.mkdir target)))
  match (← .perform (.queue (.rename source target name))) with
  | .error failure => .fail failure.message
  | .ok _ =>
    let terminal := patched current patch
    .raise (← .perform (.queue (.write target name terminal)))
    pure terminal

def completeArgusJob (source : JobBucket) (name completedAt : String) (result job : Option Json) :
    Prog StoreEffect Json :=
  moveArgusJobToTerminalBucket source .completed name
    [("status", .str "completed"), ("completedAt", .str completedAt),
      ("result", result.getD .null)] job

def failArgusJob (source : JobBucket) (name failedAt error : String) (job : Option Json) :
    Prog StoreEffect Json :=
  moveArgusJobToTerminalBucket source .failed name
    [("status", .str "failed"), ("failedAt", .str failedAt),
      ("error", if error = "" then .null else .str error)] job

/-- Rewrite a record as pending where it is, then move it. -/
def requeue (bucket : JobBucket) (name : String) (pending : Json) :
    Prog StoreEffect (Except DiskError Unit) := do
  match (← .perform (.queue (.mkdir .pending))) with
  | .error message => pure (.error (.other message))
  | .ok _ =>
    match (← .perform (.queue (.write bucket name pending))) with
    | .error message => pure (.error (.other message))
    | .ok _ =>
      if bucket = .pending then pure (.ok ())
      else .perform (.queue (.rename bucket .pending name))

def pendingRecord (job : Json) (patch : List (String × Json)) : Json :=
  patched job ([("status", .str "pending"), ("claimedAt", .null), ("completedAt", .null),
    ("failedAt", .null), ("result", .null)] ++ patch)

def returnArgusJobToPending (bucket : JobBucket) (name : String) (patch : List (String × Json))
    (job : Option Json) : Prog StoreEffect Json := do
  let pending := pendingRecord (← currentJob bucket name job) patch
  match (← requeue bucket name pending) with
  | .error failure => .fail failure.message
  | .ok _ => pure pending

def readJobs (bucket : JobBucket) : Option Nat → List String →
    Prog StoreEffect (List (String × Json))
  | _, [] => pure []
  | some 0, _ => pure []
  | limit, name :: rest => do
    match (← readArgusJob bucket name) with
    | .error _ => readJobs bucket limit rest
    | .ok job => return (name, job) :: (← readJobs bucket (limit.map (· - 1)) rest)

def listArgusJobs (bucket : JobBucket) (limit : Option Nat) :
    Prog StoreEffect (List (String × Json)) := do
  let entries ← .raise (← .perform (.queue (.list bucket)))
  readJobs bucket limit (entries.filter isJobFile)

def isInterruptedArgusRequeue (bucket : JobBucket) (job : Json) : Bool :=
  Json.truthy (some job) && bucket ≠ .pending && Json.isText (job.get? "status") "pending"

def resumeEntries (skipJobIds : List String) (bucket : JobBucket) :
    List (String × Json) → Prog StoreEffect Unit
  | [] => pure ()
  | (name, job) :: rest => do
    if !isInterruptedArgusRequeue bucket job ||
        ((job.get? "jobId").bind Json.text?).any (· ∈ skipJobIds) then
      resumeEntries skipJobIds bucket rest
    else
      match (← requeue bucket name (pendingRecord job [])) with
      | .error .enoent => resumeEntries skipJobIds bucket rest
      | .error failure => .fail failure.message
      | .ok _ => resumeEntries skipJobIds bucket rest

def resumeBuckets (skipJobIds : List String) (completedLimit : Nat) :
    List JobBucket → Prog StoreEffect Unit
  | [] => pure ()
  | bucket :: rest => do
    let limit := if bucket = .completed then some completedLimit else none
    resumeEntries skipJobIds bucket (← listArgusJobs bucket limit)
    resumeBuckets skipJobIds completedLimit rest

def resumeInterruptedArgusRequeues (skipJobIds : List String) (completedLimit : Nat) :
    Prog StoreEffect Unit :=
  resumeBuckets skipJobIds completedLimit racedBuckets

inductive QueueCall where
  | enqueue (request : EnqueueRequest)
  | claim (options : ClaimOptions)
  | complete (source : JobBucket) (name completedAt : String) (result job : Option Json)
  | fail (source : JobBucket) (name failedAt error : String) (job : Option Json)
  | return_ (bucket : JobBucket) (name : String) (patch : List (String × Json))
      (job : Option Json)
  | resume (skipJobIds : List String) (completedLimit : Nat)

def QueueCall.requeues : QueueCall → Bool
  | .return_ .. | .resume .. => true
  | _ => false

section

variable [JsText] [JsJson] [JsDate] [JsNumber]

def QueueCall.body : QueueCall → Prog StoreEffect Unit
  | .enqueue request => do let _ ← enqueueArgusSecurityReview request
  | .claim options => do let _ ← onQueue (claimNextArgusJob options)
  | .complete source name completedAt result job => do
    let _ ← completeArgusJob source name completedAt result job
  | .fail source name failedAt error job => do let _ ← failArgusJob source name failedAt error job
  | .return_ bucket name patch job => do let _ ← returnArgusJobToPending bucket name patch job
  | .resume skipJobIds completedLimit => resumeInterruptedArgusRequeues skipJobIds completedLimit

def QueueCall.program (call : QueueCall) : Prog StoreEffect Unit :=
  call.body.bind fun _ => .perform .ended

end

/-- How far an enqueue has come with a record it created; an enqueue that dies stays there. -/
inductive CallStage where
  | idle
  /-- The record is created, and these buckets are still to be looked at. -/
  | checking (name : String) (buckets : List JobBucket)
  /-- Another bucket has the record, and the pending name is to be removed. -/
  | removing (name : String)
  | returned
  deriving DecidableEq

structure StoreWorld where
  disk : Disk := {}
  stages : Nat → CallStage := fun _ => .idle

def performFiles (answers : DiskAnswers) : {β : Type} → StoreEffect β → Disk → β × Disk
  | _, .queue effect, disk => performDisk answers effect disk
  -- A look that fails says that nothing is there.
  | _, .exists_ bucket name, disk =>
    (answers.failure.isNone && (disk.names bucket name).isSome, disk)
  | _, .create name record, disk =>
    match answers.failure with
    | some message => (.error (.other message), disk)
    | none =>
      if disk.names .pending name ≠ none then (.error .eexist, disk)
      else (.ok (), disk.write .pending name record)
  | _, .remove name, disk =>
    match answers.failure with
    | some message => (.error message, disk)
    | none => (.ok (), (disk.unlink .pending name).2)
  | _, .ended, disk => ((), disk)

/-- How far a call has come after a step, by how it was answered. -/
def CallStage.next (stage : CallStage) : {β : Type} → StoreEffect β → β → CallStage
  | _, .create name _, .ok _ => .checking name racedBuckets
  | _, .exists_ bucket name, found =>
    match stage with
    | .checking created (next :: rest) =>
      if created = name ∧ next = bucket then
        if found then .removing name else .checking name rest
      else stage
    | stage => stage
  | _, .remove _, .ok _ => .idle
  | _, .ended, _ => .returned
  | _, _, _ => stage

def performStore (answers : DiskAnswers) (caller : Nat) {β : Type} (effect : StoreEffect β)
    (world : StoreWorld) : β × StoreWorld :=
  let answered := performFiles answers effect world.disk
  (answered.1, {
    disk := answered.2
    stages := Function.update world.stages caller
      ((world.stages caller).next effect answered.1) })

/-- All calls, with nobody else at the files; a call that dies leaves them as they are. -/
def storeSystem : Interleaved Nat DiskAnswers Empty StoreWorld StoreEffect where
  perform := performStore
  external := fun change _ => change.elim
  crash := fun _ world => world

def startStore [JsText] [JsJson] [JsDate] [JsNumber] (calls : Nat → QueueCall) :
    Interleaved.Config Nat StoreWorld StoreEffect where
  shared := {}
  threads := fun caller => (calls caller).program

end AdversarialReview.Argus
