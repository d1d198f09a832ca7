import AdversarialReview.Finalization.QueueAdmission

/-! What the execution slices share: their effects, the admission policy, fenced requests. -/

namespace AdversarialReview

open Json

/-- Where an observation may send an entry. -/
inductive SliceTarget where
  | rebasing
  | parkedHold
  | parkedPermission
  | parkedInfrastructure
  | returnedToCloser
  | closedObserved
  deriving DecidableEq

def SliceTarget.phase : SliceTarget → QueuePhase
  | rebasing => .rebasing
  | parkedHold => .parkedHold
  | parkedPermission => .parkedPermission
  | parkedInfrastructure => .parkedInfrastructure
  | returnedToCloser => .returnedToCloser
  | closedObserved => .closedObserved

structure SliceDisposition where
  target : SliceTarget
  reason : String
  deriving DecidableEq

def QueuePhase.name : QueuePhase → String
  | acknowledged => "acknowledged"
  | ready => "ready"
  | rebasing => "rebasing"
  | publishing => "publishing"
  | waitingChecks => "waiting-checks"
  | finalizing => "finalizing"
  | merged => "merged"
  | parkedHold => "parked-hold"
  | parkedPermission => "parked-permission"
  | parkedInfrastructure => "parked-infrastructure"
  | returnedToCloser => "returned-to-closer"
  | closedObserved => "closed-observed"

def QueuePhase.parked (phase : QueuePhase) : Bool :=
  phase ∈ [QueuePhase.parkedHold, .parkedPermission, .parkedInfrastructure]

def SliceTarget.all : List SliceTarget :=
  [.rebasing, .parkedHold, .parkedPermission, .parkedInfrastructure, .returnedToCloser,
    .closedObserved]

/-- A disposition, as a result of a mutation records it. -/
def SliceDisposition.json (disposition : SliceDisposition) : Json :=
  .obj [("phase", .str disposition.target.phase.name), ("reason", .str disposition.reason)]

/-- What a recorded result says of where its entry goes; the store refuses an unknown phase. -/
def readDisposition (disposition : Option Json) : Option (Except String SliceDisposition) :=
  if !Json.truthy disposition then none
  else
    match SliceTarget.all.find? fun target =>
        isText (member disposition "phase") target.phase.name with
    | some target => some (.ok ⟨target, text (member disposition "reason")⟩)
    | none => some (.error "invalid queue phase")

/-- What the shared admission policy says of an entry. -/
inductive Admission where
  | ready
  | disposed (disposition : SliceDisposition)
  deriving DecidableEq

structure AdmissionReceipt where
  clean : Bool
  handoff : Handoff

/-- How the checks of a candidate stand. -/
inductive CheckKind where
  | green
  | red
  | wait
  deriving DecidableEq

/-- The policies of merging and of checks, which other modules of the repository own. -/
class SlicePolicies where
  /-- The reasons against a merge, given the evidence, the labels, the head and the verdict. -/
  mergeReasons : Json → List String → Option Json → String → List String
  classifyQueueChecks : Json → CheckKind × String
  /-- The keys of what a merge receipt owes its readers. -/
  deliveryKeys : Json → List String

/-- Two values are the same commit, however it is spelled. -/
def sameSha (first second : Option Json) : Bool :=
  match first, second with
  | some (.str first), some (.str second) =>
    isSha (some (.str first)) && isSha (some (.str second)) &&
      first.toList.map Char.toLower = second.toList.map Char.toLower
  | _, _ => false

def subjectOf (live : Option Json) : Option Json :=
  member live "subject"

def observes (entry : QueueEntry) (live : Option Json) : Bool :=
  sameValue (member (subjectOf live) "lane") (some entry.lane.json) &&
    strictEq (member (subjectOf live) "prNumber") (some (.num entry.prNumber))

def labelName (label : Json) : Option Json :=
  match label with
  | .str name => some (.str name)
  | other => other.get? "name"

def labelNames (subject : Option Json) : Option (List String) :=
  match items? (member subject "labels") with
  | none => none
  | some labels =>
    if labels.all fun label => hasText (labelName label) then
      some (labels.filterMap fun label => (labelName label).bind text?)
    else none

def operatorHoldLabels : List String := ["no-merge-hold", "do-not-merge", "merge-agent-skip"]

section

variable [JsText] [SlicePolicies]

open SlicePolicies

def currentReviewRefusal (receipt : AdmissionReceipt) (live subject : Option Json) :
    Option SliceDisposition :=
  let review := member live "currentReview"
  if !isBool (member review "complete") true || !hasText (member review "sourceRef") then
    some ⟨.parkedInfrastructure, "current-head-review-unavailable"⟩
  else if (member review "id").map JsText.string ≠
        (member (receipt.handoff.body.get? "sourceReview") "id").map JsText.string ||
      !sameSha (member review "commitId") (member subject "head") ||
      !isText (member review "verdict") "settled-success" ||
      (items? (member review "findings")).map List.isEmpty ≠ some true then
    some ⟨.returnedToCloser, "current-head-review-not-clean"⟩
  else none

/-- The structural policy, with the checks and a base that moved left to execution. -/
def structuralRefusal (receipt : AdmissionReceipt) (live : Option Json) (labels : List String) :
    Option SliceDisposition :=
  match member live "eligibility" with
  | none => some ⟨.parkedInfrastructure, "structural-eligibility-unavailable"⟩
  | some eligibility =>
    let head := member (subjectOf live) "head"
    let primaryHead := member (eligibility.get? "primaryChange") "headSha"
    let candidateHead := if sameSha primaryHead head then primaryHead else head
    let behind := isText (eligibility.get? "mergeable") "MERGEABLE" &&
      isText (eligibility.get? "mergeStateStatus") "BEHIND"
    let verdict := if receipt.clean then "settled-success" else "ham_terminal_remediation_validated"
    let reasons := (mergeReasons eligibility labels candidateHead verdict).filter fun reason =>
      reason ≠ "ci-not-green" && !(reason = "pr-not-mergeable" && behind)
    let forCloser := reasons.find? fun reason => reason = "primary-change-reverted" ||
      reason = "pr-not-mergeable" && isText (eligibility.get? "mergeable") "CONFLICTING"
    match forCloser, reasons with
    | some reason, _ => some ⟨.returnedToCloser, reason⟩
    | none, reason :: _ => some ⟨.parkedInfrastructure, reason⟩
    | none, [] => none

/-- The shared policy of holds, identity, permission and structure. -/
def classifyQueueAdmission (entry : QueueEntry) (receipt : Option AdmissionReceipt)
    (live : Option Json) (derived : Option Json) : Admission :=
  let subject := subjectOf live
  let park (reason : String) : Admission := .disposed ⟨.parkedInfrastructure, reason⟩
  if !hasText (member subject "sourceRef") || !observes entry live then park "subject-unavailable"
  else if isText (member subject "state") "closed" then .disposed ⟨.closedObserved, "live-closed"⟩
  else if isText (member subject "state") "merged" then .disposed ⟨.closedObserved, "live-merged"⟩
  else if !isText (member subject "state") "open" || !isSha (member subject "head") ||
      !isSha (member subject "baseSha") then park "subject-unavailable"
  else if !sameSha (member subject "head") (orElse derived (some (.str entry.head))) then
    .disposed ⟨.returnedToCloser, "external-head-change"⟩
  else match labelNames subject with
    | none => .disposed ⟨.parkedHold, "labels-unavailable"⟩
    | some labels =>
      if labels.any fun label => operatorHoldLabels.contains label then
        .disposed ⟨.parkedHold, "operator-hold"⟩
      else match receipt with
        | none => park "admission-receipt-unavailable"
        | some receipt =>
          let undisposed := receipt.clean ||
            ((items? (receipt.handoff.body.get? "dispositions")).map List.isEmpty = some true)
          match if derived.isNone && undisposed then currentReviewRefusal receipt live subject
              else none with
          | some disposition => .disposed disposition
          | none =>
            if !isBool (member (member live "identity") "ok") true ||
                !hasText (member (member live "identity") "sourceRef") then
              park "identity-unavailable"
            else if !hasText (member (member live "permission") "sourceRef") ||
                (bool? (member (member live "permission") "canPush")).isNone then
              .disposed ⟨.parkedPermission, "write-permission-unavailable"⟩
            else if !isBool (member (member live "permission") "canPush") true then
              .disposed ⟨.parkedPermission, "write-permission-denied"⟩
            else if !hasText (member live "structuralSourceRef") then
              park "structural-eligibility-unavailable"
            else match structuralRefusal receipt live labels with
              | some disposition => .disposed disposition
              | none => .ready

end

/-- Why an adapter could not be read. -/
structure ReadFailure where
  authOutage : Bool := false
  message : String

/-- What the rebase reads an observation for. -/
inductive Reading where
  /-- Where the candidate stands, before anything is prepared. -/
  | placement
  /-- Whether it may be published, once it is prepared. -/
  | publication
  /-- Once more under the issuance lock, before the push. -/
  | lastCall
  /-- What the push came to. -/
  | pushed
  | checks
  | finalMerge
  | mergePreflight
  | mergeReconcile
  deriving DecidableEq

structure Prepared where
  workspace : Json
  candidate : String
  expectedOldHead : String
  exactBase : String
  proof : Json

/-- What the slices ask of the store, the clock, the lock, the adapters and git. -/
inductive SliceEffect : Type → Type 1 where
  /-- One transaction, or one statement that commits by itself. -/
  | tx {α : Type} (body : Tx α) : SliceEffect (Except String α)
  | now : SliceEffect String
  | loadAware : SliceEffect (Int → Int → Int)
  | enterCycle : SliceEffect (Except String Unit)
  | tryLock (lane : LaneKey) : SliceEffect (Except String Bool)
  | unlock (lane : LaneKey) : SliceEffect Unit
  /-- The emergency brake on autonomous execution. -/
  | brake : SliceEffect Bool
  /-- The immutable receipt of the entry's admission, absent where it is unreadable. -/
  | receipt (entry : QueueEntry) : SliceEffect (Option AdmissionReceipt)
  /-- Whether the subject's ledger is terminal, and how many events it has. -/
  | ledger (entry : QueueEntry) : SliceEffect (Bool × Nat)
  | observe (entry : QueueEntry) (reading : Reading) (timeoutMs : Int) :
      SliceEffect (Except ReadFailure (Option Json))
  | readChecks (entry : QueueEntry) (deadline : String) (timeoutMs : Int) :
      SliceEffect (Except ReadFailure (Option Json))
  | identity (entry : QueueEntry) (timeoutMs : Int) :
      SliceEffect (Except ReadFailure (Option Json))
  /-- Prove again that the stored candidate preserves what was admitted. -/
  | verify (entry : QueueEntry) (deadline : String) : SliceEffect (Except String Bool)
  /-- Rebase the old head; a failure may name the reason. -/
  | prepare (entry : QueueEntry) (oldHead exactBase headRepository headRef : Option Json) :
      SliceEffect (Except (Option String) Prepared)
  /-- Push the candidate; a lost answer is absent. -/
  | push (entry : QueueEntry) (intent : OperationIntent) : SliceEffect (Option Json)
  /-- Merge the candidate; a lost answer is absent. -/
  | merge (entry : QueueEntry) (timeoutMs : Int) : SliceEffect (Option Json)
  /-- Enqueue the pages of an entry whose infrastructure failed. -/
  | flushPages (entryId : String) : SliceEffect Unit
  /-- Deliver what a merge owes. -/
  | deliver (entryId : String) : SliceEffect Unit

def textOf (value : String) : Option Json := some (.str value)

def spreadMembers : Option Json → Json
  | some (.obj members) => .obj members
  | _ => .obj []

def patchOf (members : List (String × Option Json)) : QueuePatch :=
  members.foldl (fun patch member => patch.set member.1 member.2) .empty

def nonempty (value : Option Json) : Bool :=
  (value.bind text?).any (· ≠ "")

namespace Slices

/-- Run a transaction and throw what it throws. -/
def commit {α : Type} (body : Tx α) : Prog SliceEffect α :=
  (Prog.perform (.tx body)).bind Prog.raise

def readStored (entryId : String) : Prog SliceEffect (Option QueueEntry) := do
  let _ ← Prog.raise (queueId entryId)
  commit (.read (readEntry entryId))

/-- What a slice calls its refusals, and how it writes the clock's readings. -/
structure Service where
  superseded : String
  undrained : String
  stamp : String → Except String String

section

variable [JsDate]

def stampNow (service : Service) : Prog SliceEffect String := do
  let now ← Prog.perform .now
  Prog.raise (service.stamp now)

def waitUntil (nominalMs ceilingMs : Int) (deadline : Option String) : Prog SliceEffect Int := do
  let now ← Prog.perform .now
  let loadAware ← Prog.perform .loadAware
  Prog.raise (queueWaitMs loadAware nominalMs ceilingMs (deadline.map fun due => (due, now)))

def after (now : String) (ms : Int) : Except String String :=
  match JsDate.parse now with
  | none => .error "Invalid time value"
  | some now => JsDate.shift now ms

/-- Both texts parse and the first instant is ahead of the second. -/
def before (now due : String) : Bool :=
  match JsDate.parse now, JsDate.parse due with
  | some now, some due => now < due
  | _, _ => false

def expired (deadline : String) : Prog SliceEffect Bool := do
  let now ← Prog.perform .now
  pure (JsDate.reached now deadline)

def currentTx (service : Service) (entry : QueueEntry) (fence : QueueFence) (checkedAt : String) :
    Tx Unit := do
  let _ ← assertFence fence checkedAt
  let _ ← .raise (queueId entry.entryId)
  let stored ← .read (readEntry entry.entryId)
  .refuse (!stored.any fun stored => stored.deepEq entry) service.superseded
  let pending ← .read (unresolvedOperations entry.lane)
  .refuse (!pending.isEmpty) service.undrained

def current (service : Service) (entry : QueueEntry) (fence : QueueFence) :
    Prog SliceEffect Unit := do
  let checkedAt ← stampNow service
  commit (currentTx service entry fence checkedAt)

/-- The step a slice asks the store for, bound to the entry it saw. -/
def requestArgs (entry : QueueEntry) (fence : QueueFence) (phase : QueuePhase)
    (reason : Option Json) (patch : List (String × Option Json)) (readmits : Bool)
    (progressedAt : String) : ProgressArgs :=
  { fence, entryId := entry.entryId, phase, progressedAt, readmits, expectedEntry := some entry
    patch := (patchOf patch).set "reason" reason }

/-- Ask the store to move an entry on. -/
def request (service : Service) (entry : QueueEntry) (fence : QueueFence) (phase : QueuePhase)
    (reason : Option Json) (patch : List (String × Option Json) := []) (readmits : Bool := false) :
    Prog SliceEffect QueueEntry := do
  current service entry fence
  let _ ← waitUntil 5000 30000 (some entry.patience.deadline)
  let progressedAt ← stampNow service
  commit (progress (requestArgs entry fence phase reason patch readmits progressedAt))

def conclude (service : Service) (entry : QueueEntry) (fence : QueueFence) (phase : QueuePhase)
    (reason : Option Json) (patch : List (String × Option Json) := []) (readmits : Bool := false) :
    Prog SliceEffect (Option QueueEntry) := do
  let moved ← request service entry fence phase reason patch readmits
  pure (some moved)

def subject (fence : QueueFence) (entryId foreign : String) : Prog SliceEffect QueueEntry := do
  match ← readStored entryId with
  | none => Prog.fail foreign
  | some entry =>
    let lane ← Prog.raise (resolveLaneKey fence.lane)
    if entry.lane ≠ lane then Prog.fail foreign else pure entry

def locked (lane : LaneKey) (action : LaneKey → Prog SliceEffect QueueReply) :
    Prog SliceEffect QueueReply := do
  (Prog.perform .enterCycle).bind Prog.raise
  let lane ← Prog.raise (resolveLaneKey lane)
  let acquired ← (Prog.perform (.tryLock lane)).bind Prog.raise
  if acquired then (action lane).finally_ (.perform (.unlock lane))
  else pure (refused "owner-operation-in-flight")

/-- Give up the lane, which a slice does once an entry has left it. -/
def release (fence : QueueFence) (deferred : String) : Prog SliceEffect Unit := do
  let reply ← locked fence.lane fun lane => commit (QueueOwner.releaseTx fence lane)
  if !reply.ok then Prog.fail deferred else pure ()

def issue (args : QueueOwner.IssueArgs) (invoke : OperationIntent → Prog SliceEffect Json) :
    Prog SliceEffect QueueReply := do
  let _ ← Prog.raise (queueId args.operationId)
  locked args.fence.lane fun lane => do
    let now ← Prog.perform .now
    let issuedAt ← Prog.raise (queueTime now)
    let (operation, fresh) ← commit (QueueOwner.prepare args lane issuedAt)
    match operation.result with
    | some result => pure { ok := true, replay := true, result := some result }
    | none =>
      if !fresh then Prog.fail "operation requires reconciliation"
      else do
        let result ← invoke operation.intent
        commit (QueueOwner.settleIssued args.fence lane operation.operationId result)
        pure { ok := true, result := some result }

end

end Slices

end AdversarialReview
