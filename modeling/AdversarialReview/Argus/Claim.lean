import AdversarialReview.Library.JsNumber
import AdversarialReview.Library.Interleaving

/-! The queue of security reviews: how a review is named, where its record may lie, step by step, and
claiming the oldest: a link to it is the claim. -/

namespace AdversarialReview.Argus

/-- The directories a record moves through. -/
inductive JobBucket where
  | pending
  | inProgress
  | completed
  | failed
  deriving DecidableEq

def argusQueueRootDirName : String := "argus-security-jobs"

def JobBucket.dirName : JobBucket → String
  | .pending => "pending"
  | .inProgress => "in-progress"
  | .completed => "completed"
  | .failed => "failed"

def argusJobBuckets : List JobBucket := [.pending, .inProgress, .completed, .failed]

def getArgusJobDir (bucket : JobBucket) : String :=
  "data/" ++ argusQueueRootDirName ++ "/" ++ bucket.dirName

/-- What a review is asked for, with its members as a caller hands them over. -/
structure JobIdentity where
  repo : Option Json
  prNumber : Option Json
  headSha : Option Json

def fileChar (char : Char) : Bool :=
  char.isAlphanum || char ∈ ['_', '.', '-']

/-- What a character of a slug becomes in a file name. -/
def sanitizeChar (char : Char) : List Char :=
  if char = '/' then ['_', '_']
  else if fileChar char then [char]
  else ['-']

def sanitizeRepo (repo : String) : String :=
  String.ofList (repo.toList.flatMap sanitizeChar)

def hexChar (char : Char) : Bool :=
  char.isDigit || ('a' ≤ char && char ≤ 'f')

/-- A full object name in lower case. -/
def isHeadSha (text : String) : Bool :=
  (text.length = 40 || text.length = 64) && text.toList.all hexChar

section

variable [JsText] [JsJson]

def normalizeRepo (repo : Option Json) : Except String String := do
  let normalized := jsTrim (← Json.nullishText repo)
  if normalized = "" then .error "argus-security-queue: repo is required"
  else .ok normalized

def normalizePrNumber (prNumber : Option Json) : Except String Nat :=
  let refused : Except String Nat := .error
    s!"argus-security-queue: prNumber must be a positive integer (got {Json.jsonText prNumber})"
  match prNumber.bind JsText.number with
  | some normalized =>
    if normalized.den = 1 ∧ 0 < normalized.num then .ok normalized.num.toNat else refused
  | none => refused

def normalizeHeadSha (headSha : Option Json) : Except String String := do
  let normalized ← Json.nullishLower headSha
  if isHeadSha normalized then .ok normalized
  else .error ("argus-security-queue: headSha must be a full 40- or 64-character hex commit SHA "
    ++ s!"(got {Json.jsonText headSha})")

/-- The subject of a review: the normalised repository in lower case, its request and its head. -/
structure JobSubject where
  repo : String
  prNumber : Nat
  headSha : String

/-- What an identity is reduced to before it is named. -/
def jobSubject (identity : JobIdentity) : Except String JobSubject := do
  let repo ← normalizeRepo identity.repo
  let prNumber ← normalizePrNumber identity.prNumber
  let headSha ← normalizeHeadSha identity.headSha
  return { repo := JsText.toLowerCase repo, prNumber, headSha }

variable [JsNumber]

def JobSubject.jobId (subject : JobSubject) : String :=
  sanitizeRepo subject.repo ++ "-pr-" ++ JsNumber.countText subject.prNumber ++ "-" ++
    subject.headSha

def buildArgusJobId (identity : JobIdentity) : Except String String := do
  return (← jobSubject identity).jobId

end

inductive JobFile where
  /-- The bytes are no JSON, or cannot be read at all. -/
  | unreadable
  | record (value : Json)

abbrev QueueFiles := JobBucket → String → Option JobFile

/-- A record that was found; one that cannot be read still occupies its name. -/
structure LocatedJob where
  bucket : JobBucket
  jobPath : String
  job : Option Json

def locateJob (files : QueueFiles) (fileName : String) : List JobBucket → Option LocatedJob
  | [] => none
  | bucket :: rest =>
    let jobPath := getArgusJobDir bucket ++ "/" ++ fileName
    match files bucket fileName with
    | none => locateJob files fileName rest
    | some .unreadable => some { bucket, jobPath, job := none }
    | some (.record value) => some { bucket, jobPath, job := some value }

def findArgusJob [JsText] [JsJson] [JsNumber] (files : QueueFiles) (identity : JobIdentity) :
    Except String (Option LocatedJob) := do
  let jobId ← buildArgusJobId identity
  return locateJob files (jobId ++ ".json") argusJobBuckets

/-- Why a step of the file system fails. -/
inductive DiskError where
  | enoent
  | eexist
  | other (message : String)

/-- What the error of a failed step says. -/
def DiskError.message : DiskError → String
  | .enoent => "ENOENT: no such file or directory"
  | .eexist => "EEXIST: file already exists"
  | .other message => message

structure Disk where
  names : JobBucket → String → Option Nat := fun _ _ => none
  files : Nat → JobFile := fun _ => .unreadable
  /-- No file from here on has ever been named. -/
  fresh : Nat := 0

namespace Disk

def setName (disk : Disk) (bucket : JobBucket) (name : String) (file : Option Nat) : Disk :=
  { disk with
    names := Function.update disk.names bucket (Function.update (disk.names bucket) name file) }

def write (disk : Disk) (bucket : JobBucket) (name : String) (record : Json) : Disk :=
  { disk.setName bucket name (some disk.fresh) with
    files := Function.update disk.files disk.fresh (.record record)
    fresh := disk.fresh + 1 }

def link (disk : Disk) (source target : JobBucket) (name : String) : Except DiskError Unit × Disk :=
  match disk.names source name with
  | none => (.error .enoent, disk)
  | some file =>
    if disk.names target name ≠ none then (.error .eexist, disk)
    else (.ok (), disk.setName target name (some file))

def unlink (disk : Disk) (bucket : JobBucket) (name : String) : Except DiskError Unit × Disk :=
  match disk.names bucket name with
  | none => (.error .enoent, disk)
  | some _ => (.ok (), disk.setName bucket name none)

def rename (disk : Disk) (source target : JobBucket) (name : String) :
    Except DiskError Unit × Disk :=
  match disk.names source name with
  | none => (.error .enoent, disk)
  | some file =>
    if disk.names target name = some file then (.ok (), disk)
    else (.ok (), (disk.setName target name (some file)).setName source name none)

def stat (disk : Disk) (bucket : JobBucket) (name : String) : Except DiskError Nat :=
  match disk.names bucket name with
  | none => .error .enoent
  | some file => .ok file

def read (disk : Disk) (bucket : JobBucket) (name : String) : Except String Json :=
  match disk.names bucket name with
  | none => .error DiskError.enoent.message
  | some file =>
    match disk.files file with
    | .unreadable => .error "Unexpected token in JSON"
    | .record value => .ok value

@[simp] theorem setName_same (disk : Disk) (bucket : JobBucket) (name : String)
    (file : Option Nat) : (disk.setName bucket name file).names bucket name = file := by
  simp [setName]

theorem setName_other_name {disk : Disk} {bucket other : JobBucket} {name wanted : String}
    {file : Option Nat} (apart : wanted ≠ name) :
    (disk.setName bucket name file).names other wanted = disk.names other wanted := by
  by_cases same : other = bucket
  · subst same
    simp [setName, apart]
  · simp [setName, same]

end Disk

/-- The steps of a call on the queue, each of them atomic; the last one only marks its end. -/
inductive QueueEffect : Type → Type where
  | list (bucket : JobBucket) : QueueEffect (Except String (List String))
  | read (bucket : JobBucket) (name : String) : QueueEffect (Except String Json)
  | shouldClaim (job : Json) : QueueEffect (Except String Bool)
  | mkdir (bucket : JobBucket) : QueueEffect (Except String Unit)
  | link (source target : JobBucket) (name : String) : QueueEffect (Except DiskError Unit)
  | stat (bucket : JobBucket) (name : String) : QueueEffect (Except DiskError Nat)
  | unlink (bucket : JobBucket) (name : String) : QueueEffect (Except DiskError Unit)
  | rename (source target : JobBucket) (name : String) : QueueEffect (Except DiskError Unit)
  | write (bucket : JobBucket) (name : String) (record : Json) : QueueEffect (Except String Unit)
  | returned (name : String) : QueueEffect Unit

structure DiskAnswers where
  /-- The step fails for a reason the disk does not show. -/
  failure : Option String := none
  /-- The names a directory may list, from the oldest file to the newest. -/
  listing : List String := []
  wanted : Bool := true

def performDisk (answers : DiskAnswers) : {β : Type} → QueueEffect β → Disk → β × Disk
  | _, .list bucket, disk =>
    match answers.failure with
    | some message => (.error message, disk)
    | none => (.ok (answers.listing.filter fun name => (disk.names bucket name).isSome), disk)
  | _, .read bucket name, disk =>
    match answers.failure with
    | some message => (.error message, disk)
    | none => (disk.read bucket name, disk)
  | _, .shouldClaim _, disk =>
    match answers.failure with
    | some message => (.error message, disk)
    | none => (.ok answers.wanted, disk)
  | _, .mkdir _, disk =>
    match answers.failure with
    | some message => (.error message, disk)
    | none => (.ok (), disk)
  | _, .link source target name, disk =>
    match answers.failure with
    | some message => (.error (.other message), disk)
    | none => disk.link source target name
  | _, .stat bucket name, disk =>
    match answers.failure with
    | some message => (.error (.other message), disk)
    | none => (disk.stat bucket name, disk)
  | _, .unlink bucket name, disk =>
    match answers.failure with
    | some message => (.error (.other message), disk)
    | none => disk.unlink bucket name
  | _, .rename source target name, disk =>
    match answers.failure with
    | some message => (.error (.other message), disk)
    | none => disk.rename source target name
  | _, .write bucket name record, disk =>
    match answers.failure with
    | some message => (.error message, disk)
    | none => (.ok (), disk.write bucket name record)
  | _, .returned _, disk => ((), disk)

structure ClaimOptions where
  claimedAt : String
  /-- The caller decides which records it may take. -/
  asks : Bool := false

structure ClaimedJob where
  job : Json
  name : String

def spreadMembers : Json → List (String × Json)
  | .obj members => members
  | .arr items => items.zipIdx.map fun item => (toString item.2, item.1)
  | .str text =>
    text.toList.zipIdx.map fun item => (toString item.2, .str (String.singleton item.1))
  | _ => []

def claimedRecord (job : Json) (claimedAt : String) : Json :=
  ((Json.obj (spreadMembers job)).set "status" (.str "in_progress")).set "claimedAt"
    (.str claimedAt)

def isJobFile (name : String) : Bool :=
  ".json".toList.isSuffixOf name.toList

def jobIdOf (name : String) : String :=
  String.ofList (name.toList.take (name.length - ".json".length))

/-- The record of a pending file that cannot be read. -/
def corruptRecord (name failedAt error : String) : Json :=
  .obj [("schemaVersion", .num 1), ("kind", .str "argus-security-review"),
    ("status", .str "failed"), ("jobId", .str (jobIdOf name)), ("repo", .null), ("prNumber", .null),
    ("headSha", .null), ("reasons", .arr []), ("enqueuedAt", .null), ("source", .null),
    ("claimedAt", .null), ("completedAt", .null), ("failedAt", .str failedAt),
    ("error", .str ("corrupt pending argus job: " ++ error))]

def moveCorruptPendingArgusJob (name failedAt error : String) : Prog QueueEffect Unit := do
  .raise (← .perform (.mkdir .failed))
  match (← .perform (.rename .pending .failed name)) with
  | .error .enoent => pure ()
  | .error failure => .fail failure.message
  | .ok _ => .raise (← .perform (.write .failed name (corruptRecord name failedAt error)))

def statOrMissing (bucket : JobBucket) (name : String) : Prog QueueEffect (Option Nat) := do
  match (← .perform (.stat bucket name)) with
  | .ok file => pure (some file)
  | .error .enoent => pure none
  | .error failure => .fail failure.message

def pathsShareInode (name : String) : Prog QueueEffect Bool := do
  match (← statOrMissing .pending name) with
  | none => pure false
  | some left =>
    match (← statOrMissing .inProgress name) with
    | none => pure false
    | some right => pure (left = right)

/-- Whether a claim may go on: it made the link, or finds that somebody made it before. -/
def acquireLink (name : String) : Prog QueueEffect Bool := do
  match (← .perform (.link .pending .inProgress name)) with
  | .ok _ => pure true
  | .error .enoent => pure false
  | .error .eexist => pathsShareInode name
  | .error failure => .fail failure.message

def dropPending (name : String) : Prog QueueEffect Unit := do
  match (← .perform (.unlink .pending name)) with
  | .ok _ => pure ()
  | .error .enoent => pure ()
  | .error failure =>
    -- Taking the link back may fail without notice.
    let _ ← .perform (.unlink .inProgress name)
    .fail failure.message

def writeClaim (name : String) (record : Json) : Prog QueueEffect Unit := do
  match (← .perform (.write .inProgress name record)) with
  | .ok _ => pure ()
  | .error message =>
    let _ ← .perform (.rename .inProgress .pending name)
    .fail message

def mayClaim (options : ClaimOptions) (job : Json) : Prog QueueEffect Bool := do
  if options.asks then .raise (← .perform (.shouldClaim job)) else pure true

def claimEntries (options : ClaimOptions) : List String → Prog QueueEffect (Option ClaimedJob)
  | [] => pure none
  | name :: rest => do
    match (← .perform (.read .pending name)) with
    | .error message =>
      moveCorruptPendingArgusJob name options.claimedAt message
      claimEntries options rest
    | .ok job =>
      if !(← mayClaim options job) then claimEntries options rest
      else
        .raise (← .perform (.mkdir .inProgress))
        if !(← acquireLink name) then claimEntries options rest
        else
          dropPending name
          let claimed := claimedRecord job options.claimedAt
          writeClaim name claimed
          pure (some { job := claimed, name })

def claimNextArgusJob (options : ClaimOptions) : Prog QueueEffect (Option ClaimedJob) := do
  let entries ← .raise (← .perform (.list .pending))
  claimEntries options (entries.filter isJobFile)

def claimCall (options : ClaimOptions) : Prog QueueEffect Unit := do
  match (← claimNextArgusJob options) with
  | none => pure ()
  | some claimed => .perform (.returned claimed.name)

/-! Calls at work: any number of callers over one queue. -/

structure ClaimWorld where
  disk : Disk
  /-- The live caller that made the link of a record, or took it over, and has not let it go. -/
  holder : String → Option Nat := fun _ => none
  /-- The live callers that a record was returned to since it was last pending. -/
  claims : String → List Nat := fun _ => []

namespace ClaimWorld

def hold (world : ClaimWorld) (name : String) (caller : Nat) : ClaimWorld :=
  { world with holder := Function.update world.holder name (some caller) }

def letGo (world : ClaimWorld) (name : String) (caller : Nat) : ClaimWorld :=
  if world.holder name = some caller then
    { world with holder := Function.update world.holder name none }
  else world

def return_ (world : ClaimWorld) (name : String) (caller : Nat) : ClaimWorld :=
  { world with claims := Function.update world.claims name (world.claims name ++ [caller]) }

def giveBack (world : ClaimWorld) (name : String) : ClaimWorld :=
  if world.claims name = [] then world
  else
    { disk := (world.disk.rename .inProgress .pending name).2
      holder := Function.update world.holder name none
      claims := Function.update world.claims name [] }

def bury (world : ClaimWorld) (caller : Nat) : ClaimWorld :=
  { world with
    holder := fun name => (world.holder name).filter (· ≠ caller)
    claims := fun name => (world.claims name).filter (· ≠ caller) }

end ClaimWorld

/-- What a step changes in who holds a record, by how it was answered. -/
def trackClaim (caller : Nat) (world : ClaimWorld) :
    {β : Type} → QueueEffect β → β → ClaimWorld
  | _, .link .pending .inProgress name, .ok _ => world.hold name caller
  | _, .unlink .pending name, .ok _ => world.hold name caller
  | _, .unlink .pending name, .error .enoent => world.hold name caller
  | _, .unlink .inProgress name, _ => world.letGo name caller
  | _, .rename .inProgress .pending name, _ => world.letGo name caller
  | _, .returned name, _ => world.return_ name caller
  | _, _, _ => world

def performClaim (answers : DiskAnswers) (caller : Nat) {β : Type} (effect : QueueEffect β)
    (world : ClaimWorld) : β × ClaimWorld :=
  let answered := performDisk answers effect world.disk
  (answered.1, trackClaim caller { world with disk := answered.2 } effect answered.1)

/-- The callers; whoever has a record may put it back meanwhile. -/
def claimSystem : Interleaved Nat DiskAnswers String ClaimWorld QueueEffect where
  perform := performClaim
  external := fun name world => world.giveBack name
  crash := fun caller world => world.bury caller

def startClaiming (disk : Disk) (calls : Nat → ClaimOptions) :
    Interleaved.Config Nat ClaimWorld QueueEffect where
  shared := { disk }
  threads := fun caller => claimCall (calls caller)

end AdversarialReview.Argus
