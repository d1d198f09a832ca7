import AdversarialReview.Library.Interleaving
import AdversarialReview.Library.JsNumber

/-! The lease of a closer on one head: its file, and the calls that move its status. -/

namespace AdversarialReview.Ama

structure CloserLease where
  members : List (String × Json)

namespace CloserLease

def toJson (lease : CloserLease) : Json := .obj lease.members

def get? (lease : CloserLease) (key : String) : Option Json := lease.toJson.get? key

def set (lease : CloserLease) (key : String) (value : Json) : CloserLease :=
  ⟨OrderedMap.setEntries key value lease.members⟩

def status (lease : CloserLease) : Option Json := lease.get? "status"

end CloserLease

inductive LeaseEffect : Type → Type where
  /-- Enter the repository's state; absent where a rename of a repository keeps it. -/
  | enter : LeaseEffect (Except String Unit)
  /-- Open a lock file and try to lock it. -/
  | tryLock (file : String) : LeaseEffect (Except String Bool)
  | unlock (file : String) : LeaseEffect Unit
  | read (file : String) : LeaseEffect (Except String (Option CloserLease))
  /-- Replace a file, whatever it held. -/
  | write (file : String) (lease : CloserLease) : LeaseEffect (Except String Unit)
  /-- A new file; refused where there is one. -/
  | create (file : String) (lease : CloserLease) : LeaseEffect (Except String Bool)
  | remove (file : String) : LeaseEffect (Except String Unit)
  /-- The names in the directory of the leases. -/
  | names : LeaseEffect (List String)
  | clock : LeaseEffect String

abbrev LeaseProg := Prog LeaseEffect

def attempt {α : Type} (effect : LeaseEffect (Except String α)) : LeaseProg α :=
  (Prog.perform effect).bind Prog.raise

/-- A program that reads a throw as a value. -/
def catching {α : Type} (fallback : α) : LeaseProg α → LeaseProg α
  | .pure value => .pure value
  | .fail _ => .pure fallback
  | .step effect next => .step effect fun answer => catching fallback (next answer)

/-- Which lease a caller means; the texts are still untyped. -/
structure LeaseIdentity where
  repo : Option Json
  prNumber : Option Json
  headSha : Option Json

/-- How a repository's name is resolved to its current one. -/
class RepositoryNames where
  resolve : Json → Json

def pending : String := "pending"

def dispatched : String := "dispatched"

def handedToReview : String := "handed-to-review"

def terminal : String := "terminal"

def validStatuses : List String := [pending, dispatched, handedToReview, terminal]

def hammerRetryableReadOutcomes : List String :=
  ["git-credential-refresh-failed", "launch-environment-read-unavailable",
    "launch-environment-read-unavailable-at-closure", "launch-environment-missing-legacy-dispatch",
    "merge-lease-base-read-failed", "verify-head-pr-read-failed", "missing-pr-state",
    "published-head-timeout", "published-head-probe-failed", "published-head-probe-invalid",
    "controller-observation-unavailable", "ci-infrastructure-evidence-unavailable",
    "merge-lease-probe-failed", "merge-lease-response-invalid", "pr-refresh-failed",
    "produced-head-read-failed", "rebase-head-timeout", "rebase-base-unavailable",
    "history-read-failed", "predicate-verdict-unavailable", "github-gate-read-failed",
    "protective-predecessor-read-failed", "commit-title-read-failed", "stacked-base-read-failed",
    "ci-wait-pr-refresh-failed", "merge-confirmation-read-failed",
    "merge-confirmation-read-failed-after-merge-accepted", "publish-head-read-failed",
    "publish-identity-read-failed"]

def amaCloserRetryableDeferralReasons : List String :=
  ["lane-busy", "merge-lease-timeout", "required-checks-pending", "pr-mergeability-unknown"] ++
    hammerRetryableReadOutcomes

def retryableDeferralOutcomes : List String :=
  amaCloserRetryableDeferralReasons.map fun reason => "retryable-" ++ reason

def validTerminalOutcomes : List String :=
  retryableDeferralOutcomes ++
    ["succeeded", "failed-without-merge", "deferred", "superseded", "pr-merged-externally",
      "pr-closed-externally", "no-merge:concurrent-writer", "no-merge:pr-merged-externally",
      "abandoned-holder-dead", "abandoned-timeout"]

def lateWorkerOutcomes : List String :=
  retryableDeferralOutcomes ++ ["failed-without-merge", "deferred", "superseded"]

def isOneOf (value : Option Json) (texts : List String) : Bool :=
  texts.any fun text => Json.isText value text

def retryableAmaCloserDeferralOutcome (attempt : Option Json) : Option String :=
  if Json.isText (Json.member attempt "outcome") "deferred" &&
      !Json.isBool (Json.member attempt "inRunRetry") true &&
      isOneOf (Json.member attempt "reason") amaCloserRetryableDeferralReasons then
    ((Json.member attempt "reason").bind Json.text?).map fun reason => "retryable-" ++ reason
  else none

section

variable [JsText]

def shown : Option Json → String
  | none => "undefined"
  | some .null => "null"
  | some (.str text) => text
  | some value => (JsText.string value).getD ""

def textOrEmpty (value : Option Json) : Except String String :=
  if Json.truthy value then Json.nullishText value else .ok ""

def sanitizeSegment (text : String) : String :=
  String.ofList (text.toList.map fun char =>
    if char.isAlphanum || char = '.' || char = '_' || char = '-' then char else '-')

def flatName (text : String) : String :=
  String.ofList (text.toList.flatMap fun char => if char = '/' then ['_', '_'] else [char])

def leasePrefix [RepositoryNames] (repo prNumber : Option Json) : Except String String := do
  if !Json.truthy repo then throw "amaCloserLeaseFilePath: identity.repo is required"
  match prNumber.bind JsText.number with
  | none => throw "amaCloserLeaseFilePath: identity.prNumber must be numeric"
  | some number =>
    let named ← Json.nullishText (repo.map RepositoryNames.resolve)
    return sanitizeSegment (flatName named) ++ "-pr-" ++ shown (some (.num number)) ++ "-"

def amaCloserLeaseFilePath [RepositoryNames] (identity : LeaseIdentity) :
    Except String String := do
  let first ← leasePrefix identity.repo identity.prNumber
  if !Json.truthy identity.headSha then throw "amaCloserLeaseFilePath: identity.headSha is required"
  return first ++ sanitizeSegment (← Json.nullishText identity.headSha) ++ ".json"

def supersededHeadsFor (lease : CloserLease) : List String :=
  let listed := ((Json.items? (lease.get? "supersededHeads")).getD []).filter fun head =>
    Json.truthy (some head)
  let rekeyed := (lease.get? "rekeyedFromHeadSha").toList.filter fun head => Json.truthy (some head)
  ((listed ++ rekeyed).map fun head => shown (some head)).eraseDups

def leaseSupersedesHead (lease : CloserLease) (headSha : Option Json) : Bool :=
  Json.truthy headSha && (supersededHeadsFor lease).contains (shown headSha)

end

structure LeaseUpdate extends LeaseIdentity where
  status : Option Json
  lrqId : Option Json := none
  workerId : Option Json := none
  dispatchedAt : Option Json := none
  terminalOutcome : Option Json := none
  now : Option Json := none
  /-- The whole lease that the caller saw. -/
  expectedLease : Option Json := none

/-- What an update decides on the lease that it read. -/
inductive LeaseChange where
  | keep (lease : CloserLease)
  | replace (lease : CloserLease)

section

variable [JsText]

def checkLeaseUpdate (update : LeaseUpdate) : Except String Unit := do
  let named ← textOrEmpty update.status
  if named ∉ validStatuses then
    throw (s!"updateAmaCloserLease: status '{shown update.status}' is not in " ++
      "|".intercalate validStatuses)
  if Json.isText update.status dispatched && !Json.truthy update.lrqId then
    throw "updateAmaCloserLease: status='dispatched' requires lrqId"
  if Json.isText update.status terminal then
    let outcome ← textOrEmpty update.terminalOutcome
    if outcome ∉ validTerminalOutcomes then
      throw ("updateAmaCloserLease: status='terminal' requires terminalOutcome in (" ++
        "|".intercalate validTerminalOutcomes ++ s!"); got '{shown update.terminalOutcome}'")

def expectedLeaseHolds (update : LeaseUpdate) (existing : Option CloserLease) : Bool :=
  update.expectedLease.all fun expected =>
    ((existing.map CloserLease.toJson).getD .null).deepEq expected

def withDispatch (update : LeaseUpdate) (existing : CloserLease) (updatedAt : Json)
    (lrqId workerId : String) (next : CloserLease) : CloserLease :=
  let identified := next.set "lrqId" (.str lrqId)
  let worked :=
    if Json.truthy update.workerId then identified.set "workerId" (.str workerId) else identified
  let before := existing.get? "dispatchedAt"
  if Json.truthy update.dispatchedAt || Json.truthy before then
    let at_ := if Json.isText (existing.get? "lrqId") lrqId then
        Json.orTruthy before update.dispatchedAt
      else Json.orTruthy update.dispatchedAt (some updatedAt)
    worked.set "dispatchedAt" (at_.getD .null)
  else worked

def nextLease (update : LeaseUpdate) (existing : CloserLease) (clock : String) :
    Except String CloserLease := do
  let updatedAt := (Json.orTruthy update.now (some (.str clock))).getD .null
  let moved := (existing.set "status" (update.status.getD .null)).set "updatedAt" updatedAt
  if Json.isText update.status dispatched then
    let lrqId ← Json.nullishText update.lrqId
    let workerId ← Json.nullishText update.workerId
    return withDispatch update existing updatedAt lrqId workerId moved
  if Json.isText update.status terminal then
    return moved.set "terminalOutcome" (.str (← Json.nullishText update.terminalOutcome))
  return moved

def LeaseUpdate.named (update : LeaseUpdate) : String :=
  s!"{shown update.repo} pr#{shown update.prNumber} head={shown update.headSha}"

def decideLeaseUpdate (update : LeaseUpdate) (file clock : String)
    (found : Option CloserLease) : Except String LeaseChange := do
  if !expectedLeaseHolds update found then throw "closer lease changed during evidence lookup"
  match found with
  | none =>
    throw s!"updateAmaCloserLease: no lease at {file} — call acquireAmaCloserLease first"
  | some existing =>
    -- The completed worker cannot take ownership back from its review handoff.
    if Json.isText existing.status handedToReview && Json.isText update.status terminal &&
        isOneOf update.terminalOutcome lateWorkerOutcomes then
      return .keep existing
    if Json.isText existing.status terminal then
      if Json.isText update.status terminal &&
          Json.strictEq (existing.get? "terminalOutcome") update.terminalOutcome then
        return .keep existing
      throw ("updateAmaCloserLease: refusing to demote terminal lease for " ++ update.named ++
        ". Existing terminalOutcome='" ++ shown (existing.get? "terminalOutcome") ++
        s!"', attempted status='{shown update.status}'.")
    if Json.isText existing.status dispatched && Json.isText update.status pending then
      throw ("updateAmaCloserLease: refusing to revert dispatched lease back to pending for " ++
        update.named)
    return .replace (← nextLease update existing clock)

variable [RepositoryNames]

def updateLocked (update : LeaseUpdate) (file : String) : LeaseProg CloserLease := do
  let existing ← attempt (.read file)
  let clock ← Prog.perform .clock
  match ← Prog.raise (decideLeaseUpdate update file clock existing) with
  | .keep lease => return lease
  | .replace next =>
    attempt (.write file next)
    return next

def underLock {α : Type} (file : String) (refused body : LeaseProg α) : LeaseProg α := do
  if ← attempt (.tryLock file) then body.finally_ (.perform (.unlock file)) else refused

def updateAmaCloserLeaseWithinRepositoryState (update : LeaseUpdate) : LeaseProg CloserLease := do
  Prog.raise (checkLeaseUpdate update)
  let file ← Prog.raise (amaCloserLeaseFilePath update.toLeaseIdentity)
  underLock (file ++ ".reclaim.lock") (.fail "closer lease is owned by another mutation")
    (updateLocked update file)

def updateAmaCloserLease (update : LeaseUpdate) : LeaseProg CloserLease := do
  attempt .enter
  updateAmaCloserLeaseWithinRepositoryState update

def scanLeases (start : String) (launchRequestId headSha : Option Json) :
    List String → LeaseProg (Option CloserLease)
  | [] => return none
  | name :: rest => do
    if !(start.toList.isPrefixOf name.toList && ".json".toList.isSuffixOf name.toList) then
      scanLeases start launchRequestId headSha rest
    else
      match ← attempt (.read name) with
      | none => scanLeases start launchRequestId headSha rest
      | some lease =>
        if Json.strictEq (lease.get? "lrqId") launchRequestId && leaseSupersedesHead lease headSha
        then return some lease
        else scanLeases start launchRequestId headSha rest

def readAmaCloserDispatchLease (identity : LeaseIdentity) (launchRequestId : Option Json) :
    LeaseProg (Option CloserLease) := do
  if !Json.truthy identity.repo || !Json.truthy identity.headSha then return none
  let file ← Prog.raise (amaCloserLeaseFilePath identity)
  match ← attempt (.read file) with
  | some exact => return some exact
  | none =>
    if !Json.truthy launchRequestId then return none
    let names ← Prog.perform .names
    let start ← Prog.raise (leasePrefix identity.repo identity.prNumber)
    scanLeases start launchRequestId identity.headSha names

structure LeaseRelease extends LeaseIdentity where
  launchRequestId : Option Json
  sourceHeadSha : Option Json := none
  attempt : Option Json
  now : Option Json := none

def LeaseRelease.update (release : LeaseRelease) (lease : CloserLease) (outcome : String) :
    LeaseUpdate where
  repo := lease.get? "repo"
  prNumber := lease.get? "prNumber"
  headSha := lease.get? "headSha"
  status := some (.str terminal)
  lrqId := lease.get? "lrqId"
  workerId := lease.get? "workerId"
  dispatchedAt := lease.get? "dispatchedAt"
  terminalOutcome := some (.str outcome)
  now := release.now
  expectedLease := some lease.toJson

def LeaseRelease.source (release : LeaseRelease) : Option Json :=
  match release.sourceHeadSha with
  | none => release.headSha
  | some head => some head

def releaseFound (release : LeaseRelease) (outcome : String) (found : Option CloserLease) :
    LeaseProg Bool := do
  match found with
  | none => return false
  | some lease =>
    if !Json.strictEq (lease.get? "lrqId") release.launchRequestId ||
        Json.isText lease.status handedToReview then
      return false
    if Json.isText lease.status terminal then
      return Json.isText (lease.get? "terminalOutcome") outcome
    let _ ← updateAmaCloserLeaseWithinRepositoryState (release.update lease outcome)
    return true

def releaseRetryableWithinRepositoryState (release : LeaseRelease) : LeaseProg Bool := do
  match retryableAmaCloserDeferralOutcome release.attempt with
  | none => return false
  | some outcome =>
    if !Json.truthy release.launchRequestId then return false
    let first ← readAmaCloserDispatchLease release.toLeaseIdentity release.launchRequestId
    let mine := Json.strictEq (first.bind fun lease => lease.get? "lrqId") release.launchRequestId
    if !mine && !Json.strictEq release.source release.headSha then
      let second ← readAmaCloserDispatchLease
        { release.toLeaseIdentity with headSha := release.source } release.launchRequestId
      releaseFound release outcome second
    else releaseFound release outcome first

/-- Release the lease of a launch that may be tried again; whatever it throws is only logged. -/
def releaseRetryableAmaCloserLease (release : LeaseRelease) : LeaseProg Bool :=
  catching false do
    attempt .enter
    releaseRetryableWithinRepositoryState release

end

/-- What the machine answers during one call. -/
structure LeaseHost where
  entered : Except String Unit := .ok ()
  locked : Except String Bool := .ok true
  readFault : String → Option String := fun _ => none
  writeFault : Option String := none
  names : List String := []
  clock : String

abbrev LeaseFiles := String → Option CloserLease

/-- Answer one step of a call that nobody interrupts. -/
def LeaseHost.answer (host : LeaseHost) : {β : Type} → LeaseEffect β → LeaseFiles → β × LeaseFiles
  | _, .enter, files => (host.entered, files)
  | _, .tryLock _, files => (host.locked, files)
  | _, .unlock _, files => ((), files)
  | _, .read file, files =>
    match host.readFault file with
    | some message => (.error message, files)
    | none => (.ok (files file), files)
  | _, .write file lease, files =>
    match host.writeFault with
    | some message => (.error message, files)
    | none => (.ok (), Function.update files file (some lease))
  | _, .create file lease, files =>
    match host.writeFault with
    | some message => (.error message, files)
    | none =>
      match files file with
      | some _ => (.ok false, files)
      | none => (.ok true, Function.update files file (some lease))
  | _, .remove file, files =>
    match host.writeFault with
    | some message => (.error message, files)
    | none => (.ok (), Function.update files file none)
  | _, .names, files => (host.names, files)
  | _, .clock, files => (host.clock, files)

inductive LeaseCall where
  | update (call : LeaseUpdate)
  | release (call : LeaseRelease)

section

variable [JsText] [RepositoryNames]

def LeaseCall.perform (host : LeaseHost) (files : LeaseFiles) :
    LeaseCall → Except String Unit × LeaseFiles
  | .update call =>
    (((updateAmaCloserLease call).bind fun _ => .pure ()) : LeaseProg Unit).run host.answer files
  | .release call =>
    (((releaseRetryableAmaCloserLease call).bind fun _ => .pure ()) : LeaseProg Unit).run
      host.answer files

/-- Carry out calls one after another. -/
def runLeaseCalls (files : LeaseFiles) (calls : List (LeaseHost × LeaseCall)) : LeaseFiles :=
  calls.foldl (fun files call => (call.2.perform call.1 files).2) files

end

end AdversarialReview.Ama
