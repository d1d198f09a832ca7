import AdversarialReview.Finalization.QueueRouting

/-! Handoffs to the queue, their canonical JSON and evidence, and admission: handoffs and clean
reviews, each committed once or refused. -/

namespace AdversarialReview

open Json

/-- Whether an evidence text holds a filled fenced block, as the engine's pattern finds one. -/
class FencedEvidence where
  hasConcreteExactHeadEvidence : Option Json → Bool

mutual

/-- The canonical form of a value: members in order, items as they stand. -/
def handoffJson : Json → Json
  | .arr items => .arr (handoffItems items)
  | .obj members => .obj ((handoffMembers members).insertionSort fun first second =>
      first.1 ≤ second.1)
  | other => other

def handoffItems : List Json → List Json
  | [] => []
  | item :: rest => handoffJson item :: handoffItems rest

def handoffMembers : List (String × Json) → List (String × Json)
  | [] => []
  | (key, value) :: rest => (key, handoffJson value) :: handoffMembers rest

end

def hasText (value : Option Json) : Bool :=
  text value ≠ ""

def isSha (value : Option Json) : Bool :=
  match value with
  | some (.str head) => head.length = 40 && head.toList.all fun char =>
      char.isDigit || char.toLower ∈ ['a', 'b', 'c', 'd', 'e', 'f']
  | _ => false

/-- A positive integer that JavaScript counts exactly. -/
def safeNumber (value : Option Json) : Option Int :=
  match value with
  | some (.num number) =>
    if number.den = 1 ∧ safePositive number.num then some number.num else none
  | _ => none

def requireFact (condition : Bool) (reason : String) : Except String Unit :=
  if condition then .ok () else .error ("handoff: " ++ reason)

def handoffLane (body : Json) : Except String LaneKey :=
  match member (body.get? "lane") "repository", member (body.get? "lane") "base" with
  | some (.str repository), some (.str base) => resolveLaneKey { repository, base }
  | some (.str _), _ => .error "lane requires a short, valid base branch ref"
  | _, _ => .error "lane requires repository full name"

def LaneKey.json (lane : LaneKey) : Json :=
  .obj [("base", .str lane.base), ("repository", .str lane.repository)]

structure AdmissionKey where
  lane : LaneKey
  prNumber : Int
  head : String
  admissionGeneration : Int
  deriving DecidableEq

/-- The value whose digest names an admission's entry and acknowledgement. -/
def AdmissionKey.json (key : AdmissionKey) : Json :=
  .arr [key.lane.json, .num key.prNumber, .str key.head, .num key.admissionGeneration]

def readHandoffId (body : Json) : Except String String :=
  match body.get? "handoffId" with
  | some (.str value) => queueId value
  | _ => .error "invalid queue identity"

def readSubject (body : Json) : Except String (Int × Int × String) :=
  match safeNumber (body.get? "prNumber"), safeNumber (body.get? "admissionGeneration"),
      body.get? "head" with
  | some prNumber, some admissionGeneration, some (.str head) =>
    if isSha (some (.str head)) then .ok (prNumber, admissionGeneration, head)
    else .error "handoff: invalid admission"
  | _, _, _ => .error "handoff: invalid admission"

def readAdmission (body : Json) : Except String (AdmissionKey × String) := do
  let lane ← handoffLane body
  let handoffId ← readHandoffId body
  let (prNumber, admissionGeneration, head) ← readSubject body
  pure ({ lane, prNumber, head, admissionGeneration }, handoffId)

structure Handoff where
  body : Json
  key : AdmissionKey
  handoffId : String
  states : readAdmission body = .ok (key, handoffId)

def statesIdentity (identity : Option Json) : Bool :=
  ["workerId", "workerClass", "launchRequestId"].all fun key => hasText (member identity key)

/-- Everything else a payload has to state. -/
def checkHandoff (body : Json) : Except String Unit := do
  let head := body.get? "head"
  requireFact (statesIdentity (body.get? "worker") && statesIdentity (body.get? "closer"))
    "invalid identity"
  requireFact (hasText (member (body.get? "sourceReview") "id") &&
    isSha (member (body.get? "sourceReview") "commitId")) "invalid source review"
  requireFact (hasText (member (body.get? "attestations") "produced") &&
    hasText (member (body.get? "attestations") "reviewed")) "missing attestation references"
  requireFact (hasText (member (body.get? "primaryChange") "intent") &&
    hasText (member (body.get? "primaryChange") "sourceRef")) "missing primary-change provenance"
  requireFact (strictEq (member (body.get? "localValidation") "head") head &&
    hasText (member (body.get? "localValidation") "sourceRef")) "missing local validation"
  requireFact (strictEq (member (body.get? "publication") "head") head &&
    hasText (member (body.get? "publication") "sourceRef")) "missing publication"
  requireFact (items? (body.get? "dispositions")).isSome "missing finding dispositions"

def Handoff.of (body : Json) : Except String Handoff :=
  match states : readAdmission body with
  | .ok (key, handoffId) => .ok { body, key, handoffId, states }
  | .error message => .error message

def normalizedBody (input : Json) : Except String Json := do
  let body := handoffJson input
  requireFact (strictEq (body.get? "schemaVersion") (some (.num 1))) "unsupported schema"
  let lane ← handoffLane body
  pure (body.set "lane" lane.json)

def normalizeQueueHandoff (input : Json) : Except String Handoff := do
  let body ← normalizedBody input
  let handoff ← Handoff.of body
  checkHandoff body
  pure handoff

def reviewCurrencyCovers (currency reviewedHead currentHead : Option Json) : Bool :=
  isBool (member currency "current") true &&
    strictEq (member currency "reviewedHead") reviewedHead &&
    strictEq (member currency "currentHead") currentHead

def sameValue : Option Json → Option Json → Bool
  | none, none => true
  | some first, some second => deepEq first second
  | _, _ => false

def oneOf (texts : List String) (value : Option Json) : Bool :=
  (value.bind text?).any fun value => texts.contains value

def currentAt (handoff : Json) (currency reviewedHead : Option Json) : Bool :=
  reviewCurrencyCovers currency reviewedHead (handoff.get? "head") &&
    oneOf ["exact-head", "ancestry", "closer-rebase-provenance", "reviewed-rebase-patch-id"]
      (member currency "proof") &&
    (!isText (member currency "proof") "exact-head" ||
      strictEq reviewedHead (handoff.get? "head")) &&
    hasText (member currency "sourceRef")

def attests (handoff evidence : Json) (kind : String) (head : Option Json) : Bool :=
  let attestation := member (evidence.get? "attestations") kind
  let record := member attestation "record"
  let signature := member record "signature"
  isBool (member attestation "valid") true &&
    strictEq (member attestation "ref") (member (handoff.get? "attestations") kind) &&
    hasText (member attestation "sourceRef") &&
    strictEq (member record "repo") (member (handoff.get? "lane") "repository") &&
    strictEq (member record "pr_number") (handoff.get? "prNumber") &&
    isText (member record "kind") kind && strictEq (member record "head_sha") head &&
    hasText (member signature "algorithm") && hasText (member signature "digest") &&
    hasText (member signature "subject") && hasText (member record "producer_identity")

def findingKey (finding : Json) : Option Json × Option Json × Option Json :=
  (finding.get? "reviewId", finding.get? "reviewCommitId", finding.get? "findingId")

/-- Two findings are known by deeply equal keys. -/
def sameFinding (first second : Json) : Bool :=
  sameValue (findingKey first).1 (findingKey second).1 &&
    sameValue (findingKey first).2.1 (findingKey second).2.1 &&
    sameValue (findingKey first).2.2 (findingKey second).2.2

def checkInventory (handoff : Json) : List Json → List Json → Except String Unit
  | _, [] => .ok ()
  | listed, finding :: rest => do
    requireFact (hasText (finding.get? "findingId") && hasText (finding.get? "reviewId") &&
      isSha (finding.get? "reviewCommitId") &&
      oneOf ["blocking", "non-blocking"] (finding.get? "severity") &&
      hasText (finding.get? "sourceRef") &&
      currentAt handoff (finding.get? "currency") (finding.get? "reviewCommitId"))
      "invalid finding inventory"
    requireFact (!listed.any (sameFinding finding)) "duplicate source finding"
    checkInventory handoff (finding :: listed) rest

def pointsAtSource (location : Json) : Bool :=
  hasText (location.get? "path") && (safeNumber (location.get? "line")).isSome

section

variable [FencedEvidence]

def checkDispositions (handoff : Json) (inventory : List Json) :
    List Json → List Json → Except String Unit
  | seen, [] => requireFact (seen.length = inventory.length) "incomplete finding coverage"
  | seen, disposition :: rest => do
    let finding := inventory.find? (sameFinding disposition)
    requireFact (finding.isSome && !seen.any (sameFinding disposition) &&
      strictEq (disposition.get? "severity") (member finding "severity"))
      "foreign or duplicate finding disposition"
    requireFact (strictEq (disposition.get? "head") (handoff.get? "head") &&
      hasText (disposition.get? "sourceRef") &&
      FencedEvidence.hasConcreteExactHeadEvidence (disposition.get? "evidence"))
      "missing exact-head finding evidence"
    requireFact (oneOf ["fixed", "withdrawn"] (disposition.get? "resolution"))
      "unsupported finding disposition"
    let paths := (items? (disposition.get? "paths")).getD []
    let locations := (items? (disposition.get? "sourceLocations")).getD []
    if isText (disposition.get? "resolution") "fixed" then
      requireFact (!paths.isEmpty && paths.all fun path => hasText (some path)) "fix paths missing"
    else
      requireFact (hasText (disposition.get? "explanation") && !locations.isEmpty &&
        locations.all pointsAtSource) "unsupported withdrawal"
    checkDispositions handoff inventory (disposition :: seen) rest

def validateQueueHandoff (handoff evidence : Json) : Except String Unit := do
  let head := handoff.get? "head"
  let subject := evidence.get? "subject"
  let review := evidence.get? "review"
  let reviewed := member (handoff.get? "sourceReview") "commitId"
  requireFact (isText (member subject "state") "open" &&
    sameValue (member subject "lane") (handoff.get? "lane") &&
    strictEq (member subject "prNumber") (handoff.get? "prNumber") &&
    strictEq (member subject "head") head && hasText (member subject "sourceRef"))
    "subject currency"
  requireFact (isBool (member review "complete") true &&
    strictEq (member review "id") (member (handoff.get? "sourceReview") "id") &&
    strictEq (member review "commitId") reviewed && hasText (member review "reviewerIdentity") &&
    hasText (member review "sourceRef")) "source review currency"
  requireFact (currentAt handoff (evidence.get? "currency") reviewed) "stale review commit"
  let identities := evidence.get? "identities"
  requireFact (isBool (member identities "ok") true && hasText (member identities "sourceRef") &&
    sameValue (member identities "worker") (handoff.get? "worker") &&
    sameValue (member identities "closer") (handoff.get? "closer")) "unverified identity"
  let produced := member (member (evidence.get? "attestations") "produced") "record"
  requireFact (attests handoff evidence "produced" head) "invalid produced attestation"
  requireFact (strictEq (member (member produced "payload") "launch_request_id")
      (member (handoff.get? "closer") "launchRequestId") &&
    strictEq (member (member produced "payload") "worker_class")
      (member (handoff.get? "closer") "workerClass")) "produced identity mismatch"
  requireFact (attests handoff evidence "reviewed" reviewed) "invalid reviewed attestation"
  requireFact (strictEq (member (member (member (evidence.get? "attestations") "reviewed")
      "record") "producer_identity") (member review "reviewerIdentity"))
    "reviewed identity mismatch"
  let primary := evidence.get? "primaryChange"
  requireFact (isBool (member primary "ok") true && strictEq (member primary "head") head &&
    strictEq (member primary "sourceRef") (member (handoff.get? "primaryChange") "sourceRef") &&
    strictEq (member primary "intent") (member (handoff.get? "primaryChange") "intent"))
    "primary-change provenance"
  let shown (kind : String) : Bool := isBool (member (evidence.get? kind) "ok") true &&
    strictEq (member (evidence.get? kind) "head") head &&
    strictEq (member (evidence.get? kind) "sourceRef") (member (handoff.get? kind) "sourceRef")
  requireFact (shown "localValidation") "failed localValidation"
  requireFact (shown "publication") "failed publication"
  match items? (member review "findings") with
  | none => .error "handoff: unknown finding inventory"
  | some findings => do
    checkInventory handoff [] findings
    checkDispositions handoff findings [] ((items? (handoff.get? "dispositions")).getD [])

def asHandoff (input : Json) : Json :=
  (input.set "closer" ((input.get? "worker").getD .null)).set "dispositions" (.arr [])

def normalizeCleanReview (input : Json) : Except String Handoff := do
  if (input.get? "closer").isSome || (input.get? "dispositions").isSome then
    .error "clean review cannot carry closer adjudication"
  else
    let body ← normalizedBody (asHandoff input)
    let _ ← Handoff.of body
    checkHandoff body
    if !strictEq (member (body.get? "sourceReview") "commitId") (body.get? "head") then
      .error "clean review requires exact head"
    else Handoff.of ((body.erase "closer").erase "dispositions")

def emptyLength : Option Json → Bool
  | some (.arr items) => items.isEmpty
  | some (.str text) => text = ""
  | other => strictEq (member other "length") (some (.num 0))

def validateCleanReview (review evidence : Json) : Except String Unit := do
  let input ← normalizeCleanReview review
  if !isText (member (evidence.get? "review") "verdict") "settled-success" ||
      !emptyLength (member (evidence.get? "review") "findings") ||
      !isText (member (evidence.get? "currency") "proof") "exact-head" then
    .error "clean review is not current and zero-finding"
  else
    let identities := (evidence.get? "identities").getD (.obj [])
    validateQueueHandoff (asHandoff input.body) (evidence.set "identities"
      (identities.set "closer" ((identities.get? "worker").getD .null)))

end

/-- What a submitter of a handoff gets to keep. -/
structure HandoffAck where
  key : AdmissionKey
  handoffId : String
  entryId : String
  ackId : String
  payloadDigest : String
  readinessSeq : Nat
  acknowledgedAt : String

structure HandoffRow where
  handoffId : String
  entryId : String
  key : AdmissionKey
  payloadDigest : String
  handoff : Handoff
  evidence : Json
  ack : HandoffAck

structure CleanReviewRow where
  entryId : String
  input : Handoff
  evidence : Json

/-- The tables an admission reads and writes. -/
structure AdmissionDb where
  queue : QueueDb := {}
  handoffs : List HandoffRow := []
  cleanReviews : List CleanReviewRow := []

abbrev AdmissionTx (α : Type) := Transaction Host AdmissionDb α

/-- A transaction of the queue store, inside a larger one. -/
def onQueue {α : Type} (tx : Tx α) : AdmissionTx α := fun host db =>
  match tx host db.queue with
  | .ok (value, queue) => .ok (value, { db with queue })
  | .error message => .error message

def QueueEntry.key (entry : QueueEntry) : AdmissionKey :=
  { lane := entry.lane, prNumber := entry.prNumber, head := entry.head
    admissionGeneration := entry.admissionGeneration }

section

variable [HandoffDigest]

def Handoff.digest (handoff : Handoff) : String :=
  HandoffDigest.handoffDigest handoff.body

def AdmissionKey.digest (key : AdmissionKey) : String :=
  HandoffDigest.handoffDigest key.json

def HandoffRow.consistent (row : HandoffRow) (entry : QueueEntry) : Bool :=
  row.ack.entryId = row.entryId && row.ack.handoffId = row.handoffId &&
    row.ack.ackId = entry.ackId && row.ack.payloadDigest = row.payloadDigest &&
    entry.handoffDigest = some row.payloadDigest && row.handoff.digest = row.payloadDigest &&
    row.handoff.key = row.key

def parseHandoff (row : Option HandoffRow) : AdmissionTx (Option HandoffRow) := do
  match row with
  | none => pure none
  | some row =>
    match ← .read fun db => readEntry row.entryId db.queue with
    | none => .throw "inconsistent durable handoff acknowledgement"
    | some entry =>
      .refuse (!row.consistent entry) "inconsistent durable handoff acknowledgement"
      pure (some row)

def handoffOf (key : AdmissionKey) (db : AdmissionDb) : Option HandoffRow :=
  db.handoffs.find? fun row => row.key = key

def handoffNamed (handoffId : String) (db : AdmissionDb) : Option HandoffRow :=
  db.handoffs.find? fun row => row.handoffId = handoffId

def replay (handoff : Handoff) : AdmissionTx (Option HandoffAck) := do
  let prior ← parseHandoff (← .read (handoffOf handoff.key))
  let named ← parseHandoff (← .read (handoffNamed handoff.handoffId))
  match prior, named with
  | none, none => pure none
  | some prior, some named =>
    .refuse (prior.ack.ackId ≠ named.ack.ackId || prior.ack.payloadDigest ≠ handoff.digest)
      "conflicting handoff acknowledgement"
    pure (some prior.ack)
  | _, _ => .throw "conflicting handoff acknowledgement"

def admissionArgs (handoff : Handoff) (acknowledgedAt : String) : AcknowledgeArgs :=
  { lane := handoff.key.lane, entryId := "q:" ++ handoff.key.digest
    prNumber := handoff.key.prNumber, head := handoff.key.head
    admissionGeneration := handoff.key.admissionGeneration, handoffId := handoff.handoffId
    ackId := "ack:" ++ handoff.key.digest, acknowledgedAt, handoffDigest := some handoff.digest }

def insertHandoff (row : HandoffRow) : AdmissionTx Unit := do
  let rows ← .read AdmissionDb.handoffs
  .refuse (rows.any fun other => other.handoffId = row.handoffId ||
      other.entryId = row.entryId || other.key = row.key)
    "UNIQUE constraint failed: finalization_queue_handoff"
  .modify fun db => { db with handoffs := db.handoffs ++ [row] }

def handoffRow (handoff : Handoff) (evidence : Json) (entry : QueueEntry) : HandoffRow :=
  { handoffId := handoff.handoffId, entryId := entry.entryId, key := handoff.key
    payloadDigest := handoff.digest, handoff, evidence
    ack := { key := handoff.key, handoffId := handoff.handoffId, entryId := entry.entryId
             ackId := entry.ackId, payloadDigest := handoff.digest
             readinessSeq := entry.readinessSeq, acknowledgedAt := entry.acknowledgedAt } }

def insertCleanReview (row : CleanReviewRow) : AdmissionTx Unit := do
  let rows ← .read AdmissionDb.cleanReviews
  .refuse (rows.any fun other => other.entryId = row.entryId)
    "UNIQUE constraint failed: finalization_queue_clean_review"
  .modify fun db => { db with cleanReviews := db.cleanReviews ++ [row] }

variable [JsDate] [FencedEvidence]

structure HandoffInput where
  input : Json
  evidence : Json
  deadline : Option String := none

structure CleanReviewInput where
  input : Json
  evidence : Json
  acknowledgedAt : String

/-- Everything that is checked of a handoff before the tables are read. -/
def prepareHandoff (args : HandoffInput) (host : Host) : Except String Handoff := do
  let handoff ← normalizeQueueHandoff args.input
  validateQueueHandoff handoff.body (handoffJson args.evidence)
  let now ← queueTime (host.clock 0)
  let waitMs ← queueWaitMs host.loadAwareTimeoutMs 5000 30000
    (args.deadline.map fun deadline => (deadline, now))
  if waitMs = 0 then .error "handoff commit deadline expired"
  else pure handoff

def deadlineReached (deadline : Option String) (time : String) : Bool :=
  match deadline.bind JsDate.parse, JsDate.parse time with
  | some deadline, some time => deadline ≤ time
  | _, _ => false

def commitHandoff (args : HandoffInput) : AdmissionTx HandoffAck := do
  let handoff ← .raise (prepareHandoff args (← .ask id))
  match ← replay handoff with
  | some existing => pure existing
  | none =>
    let acknowledgedAt ← .raise (queueTime ((← .ask Host.clock) 1))
    .refuse (deadlineReached args.deadline acknowledgedAt) "handoff commit deadline expired"
    let entry ← onQueue (acknowledge (admissionArgs handoff acknowledgedAt))
    let row := handoffRow handoff (handoffJson args.evidence) entry
    insertHandoff row
    pure row.ack

def CleanReviewRow.consistent (row : CleanReviewRow) (entry : QueueEntry) : Bool :=
  entry.handoffDigest = some row.input.digest && entry.key = row.input.key

def readCleanReview (entryId : String) : AdmissionTx (Option CleanReviewRow) := do
  let row ← .read fun db => db.cleanReviews.find? fun row => row.entryId = entryId
  let entry ← .read fun db => readEntry entryId db.queue
  match row, entry with
  | some row, some entry =>
    .refuse (!row.consistent entry) "inconsistent clean review receipt"
    .raise (validateCleanReview row.input.body row.evidence)
    pure (some row)
  | _, _ => pure none

/-- Everything that is checked of a clean review before the tables are read. -/
def prepareCleanReview (args : CleanReviewInput) : Except String Handoff := do
  let review ← normalizeCleanReview args.input
  validateCleanReview review.body (handoffJson args.evidence)
  pure review

def commitCleanReview (args : CleanReviewInput) : AdmissionTx QueueEntry := do
  let review ← .raise (prepareCleanReview args)
  let entry ← onQueue (acknowledge (admissionArgs review args.acknowledgedAt))
  match ← readCleanReview entry.entryId with
  | some _ => pure entry
  | none =>
    insertCleanReview
      { entryId := entry.entryId, input := review, evidence := handoffJson args.evidence }
    pure entry

/-- Either way into the queue. -/
inductive Submission where
  | handoff (args : HandoffInput)
  | cleanReview (args : CleanReviewInput)

/-- What a submission is answered. -/
inductive Acknowledgement where
  | handoff (ack : HandoffAck)
  | cleanReview (entry : QueueEntry)

def Submission.commit : Submission → AdmissionTx Acknowledgement
  | handoff args => do
    let ack ← commitHandoff args
    pure (.handoff ack)
  | cleanReview args => do
    let entry ← commitCleanReview args
    pure (.cleanReview entry)

def Submission.payload : Submission → Except String Handoff
  | handoff args => normalizeQueueHandoff args.input
  | cleanReview args => normalizeCleanReview args.input

/-- The tables after a submission; one that throws leaves them as they were. -/
def submit (db : AdmissionDb) (submitted : Submission × Host) : AdmissionDb :=
  match submitted.1.commit submitted.2 db with
  | .ok (_, later) => later
  | .error _ => db

/-- The tables after a sequence of submissions to an empty store. -/
def submitAll (log : List (Submission × Host)) : AdmissionDb :=
  log.foldl submit {}

end

end AdversarialReview
