import Mathlib.Data.List.Sort
import AdversarialReview.Ama.CloserLease

/-! The calls that give a closer lease a new owner, file or head, their steps interleaved, and how a
lease is carried from head to head and found. -/

namespace AdversarialReview.Ama

section

variable [JsText] [RepositoryNames]

def CloserLease.identity (lease : CloserLease) : LeaseIdentity where
  repo := lease.get? "repo"
  prNumber := lease.get? "prNumber"
  headSha := lease.get? "headSha"

def currentMembers : List String :=
  ["status", "lrqId", "updatedAt", "acquiredAt", "watcherPid", "holderHost", "dispatchTimeoutMs",
    "terminalOutcome"]

def sameCurrent (current : Option CloserLease) (lease : CloserLease) : Bool :=
  currentMembers.all fun key =>
    Json.strictEq (current.bind fun current => current.get? key) (lease.get? key)

def isCurrentAmaCloserLease (lease : CloserLease) : LeaseProg Bool :=
  catching false do
    attempt .enter
    let file ← Prog.raise (amaCloserLeaseFilePath lease.identity)
    let current ← attempt (.read file)
    return sameCurrent current lease

def deleteAmaCloserLease (identity : LeaseIdentity) : LeaseProg Unit := do
  attempt .enter
  let file ← Prog.raise (amaCloserLeaseFilePath identity)
  attempt (.remove file)

def deleteAmaCloserLeaseIfCurrent (lease : CloserLease) : LeaseProg Bool := do
  attempt .enter
  let file ← Prog.raise (amaCloserLeaseFilePath lease.identity)
  underLock (file ++ ".reclaim.lock") (return false) do
    if ← isCurrentAmaCloserLease lease then
      deleteAmaCloserLease lease.identity
      return true
    else return false

/-- Put a retired owner's lease back over the one that took its place. -/
def restoreAmaCloserLeaseIfCurrent (lease expectedLease : CloserLease) : LeaseProg Bool := do
  let file ← Prog.raise (amaCloserLeaseFilePath expectedLease.identity)
  let own ← Prog.raise (amaCloserLeaseFilePath lease.identity)
  if file ≠ own then return false
  underLock (file ++ ".reclaim.lock") (return false) do
    if ← isCurrentAmaCloserLease expectedLease then
      attempt (.write file lease)
      return true
    else return false

structure LeaseAcquire extends LeaseIdentity where
  watcherPid : Option Json := none
  dispatchTimeoutMs : Option Json := none
  host : Option Json := none
  hostname : String := ""
  now : Option Json := none

def LeaseAcquire.lease (call : LeaseAcquire) (acquired updated : String) : CloserLease :=
  let number (value : Option Json) (fits : Rat → Bool) : Json :=
    ((((value.bind JsText.number).filter fits).map Json.num)).getD .null
  let given (key : String) (value : Option Json) : List (String × Json) :=
    value.toList.map fun value => (key, value)
  ⟨[("schemaVersion", .num 1)] ++ given "repo" call.repo ++
    [("prNumber", number call.prNumber fun _ => true)] ++ given "headSha" call.headSha ++
    [("acquiredAt", (Json.orTruthy call.now (some (.str acquired))).getD .null),
      ("watcherPid", number call.watcherPid fun _ => true),
      ("dispatchTimeoutMs", number call.dispatchTimeoutMs fun value => 0 < value),
      ("holderHost", (Json.orTruthy call.host (some (.str call.hostname))).getD .null),
      ("lrqId", .null), ("status", .str pending), ("terminalOutcome", .null),
      ("updatedAt", (Json.orTruthy call.now (some (.str updated))).getD .null)]⟩

def acquirePlain (call : LeaseAcquire) : LeaseProg Bool := do
  attempt .enter
  let file ← Prog.raise (amaCloserLeaseFilePath call.toLeaseIdentity)
  match ← attempt (.read file) with
  | some _ => return false
  | none =>
    let acquired ← Prog.perform .clock
    let updated ← Prog.perform .clock
    if ← attempt (.create file (call.lease acquired updated)) then return true
    else
      -- Another acquisition was first; its lease is answered.
      let _ ← attempt (.read file)
      return false

def acquireFromReviewHandoff (call : LeaseAcquire) : LeaseProg Bool := do
  attempt .enter
  let file ← Prog.raise (amaCloserLeaseFilePath call.toLeaseIdentity)
  let refused : LeaseProg Bool := do
    let _ ← attempt (.read file)
    return false
  underLock (file ++ ".handoff.lock") refused do
    let handed ← attempt (.read file)
    if Json.isText (handed.bind CloserLease.status) handedToReview then attempt (.remove file)
    acquirePlain call

structure LeaseRekey where
  repo : Option Json
  prNumber : Option Json
  fromHeadSha : Option Json
  toHeadSha : Option Json
  now : Option Json := none

def LeaseRekey.carried (rekey : LeaseRekey) (existing : CloserLease) (clock : String) :
    CloserLease :=
  (((existing.set "headSha" (.str (shown rekey.toHeadSha))).set "rekeyedFromHeadSha"
    (.str (shown rekey.fromHeadSha))).set "supersededHeads"
      (.arr ((supersededHeadsFor existing ++ [shown rekey.fromHeadSha]).map Json.str))).set
        "updatedAt" ((Json.orTruthy rekey.now (some (.str clock))).getD .null)

def LeaseRekey.resumes (rekey : LeaseRekey) (destination : CloserLease) : Bool :=
  shown (Json.orTruthy (destination.get? "headSha") (some (.str ""))) = shown rekey.toHeadSha &&
    leaseSupersedesHead destination rekey.fromHeadSha

def rekeyAmaCloserLease (rekey : LeaseRekey) : LeaseProg Bool := do
  attempt .enter
  if !Json.truthy rekey.fromHeadSha || !Json.truthy rekey.toHeadSha then
    Prog.fail "rekeyAmaCloserLease: fromHeadSha and toHeadSha are required"
  else if shown rekey.fromHeadSha = shown rekey.toHeadSha then return false
  else
    let fromFile ← Prog.raise
      (amaCloserLeaseFilePath ⟨rekey.repo, rekey.prNumber, rekey.fromHeadSha⟩)
    match ← attempt (.read fromFile) with
    | none => return false
    | some existing =>
      -- A finished lease must not be resurrected onto a new head.
      if shown existing.status = terminal then return false
      else
        let toFile ← Prog.raise
          (amaCloserLeaseFilePath ⟨rekey.repo, rekey.prNumber, rekey.toHeadSha⟩)
        match ← attempt (.read toFile) with
        | some destination =>
          if rekey.resumes destination then
            attempt (.remove fromFile)
            return shown destination.status ≠ terminal
          else return false
        | none =>
          let clock ← Prog.perform .clock
          if ← attempt (.create toFile (rekey.carried existing clock)) then
            attempt (.remove fromFile)
            return true
          else return false

inductive OwnerCall where
  | acquire (call : LeaseAcquire) (fromReviewHandoff : Bool)
  | update (call : LeaseUpdate)
  | deleteIfCurrent (lease : CloserLease)
  | restoreIfCurrent (lease expectedLease : CloserLease)
  | rekey (call : LeaseRekey)

/-- What a call does, its answer forgotten. -/
def OwnerCall.prog : OwnerCall → LeaseProg Unit
  | .acquire call true => (acquireFromReviewHandoff call).bind fun _ => .pure ()
  | .acquire call false => (acquirePlain call).bind fun _ => .pure ()
  | .update call => (updateAmaCloserLease call).bind fun _ => .pure ()
  | .deleteIfCurrent lease => (deleteAmaCloserLeaseIfCurrent lease).bind fun _ => .pure ()
  | .restoreIfCurrent lease expectedLease =>
    (restoreAmaCloserLeaseIfCurrent lease expectedLease).bind fun _ => .pure ()
  | .rekey call => (rekeyAmaCloserLease call).bind fun _ => .pure ()

/-- The ending of the lock that a call takes on a lease file before it changes it, if it does. -/
def OwnerCall.lock : OwnerCall → Option String
  | .acquire _ true => some ".handoff.lock"
  | .update _ | .deleteIfCurrent _ | .restoreIfCurrent .. => some ".reclaim.lock"
  | .acquire _ false | .rekey _ => none

end

section

variable {ι : Type} [DecidableEq ι]

/-- What a call knows: the files as it last saw them under its present locks, and those locks. -/
structure LeaseView where
  known : String → Option (Option CloserLease)
  held : String → Prop

def LeaseView.learn : {β : Type} → LeaseEffect β → β → LeaseView → LeaseView
  | _, .tryLock file, .ok true, view => ⟨fun _ => none, Function.update view.held file True⟩
  | _, .unlock file, _, view => ⟨fun _ => none, Function.update view.held file False⟩
  | _, .read file, .ok found, view =>
    { view with known := Function.update view.known file (some found) }
  | _, .write file lease, .ok _, view =>
    { view with known := Function.update view.known file (some (some lease)) }
  | _, .create file lease, .ok true, view =>
    { view with known := Function.update view.known file (some (some lease)) }
  | _, .remove file, .ok _, view =>
    { view with known := Function.update view.known file (some none) }
  | _, _, _, view => view

/-- The lease files, who holds which lock, and what each call last saw. -/
structure LeaseWorld (ι : Type) where
  files : LeaseFiles
  locks : String → Option ι
  seen : ι → String → Option (Option CloserLease)

/-- What the machine answers to one step. -/
structure LeaseEnv where
  fault : Option String := none
  names : List String := []
  clock : String := ""

def LeaseEnv.ok {β : Type} (env : LeaseEnv) (value : β) : Except String β :=
  match env.fault with
  | some message => .error message
  | none => .ok value

def leaseAnswer (env : LeaseEnv) (world : LeaseWorld ι) : {β : Type} → LeaseEffect β → β
  | _, .enter => env.ok ()
  | _, .tryLock file => env.ok (world.locks file).isNone
  | _, .unlock _ => ()
  | _, .read file => env.ok (world.files file)
  | _, .write _ _ => env.ok ()
  | _, .create file _ => env.ok (world.files file).isNone
  | _, .remove _ => env.ok ()
  | _, .names => env.names
  | _, .clock => env.clock

def filesAfter : {β : Type} → LeaseEffect β → β → LeaseFiles → LeaseFiles
  | _, .write file lease, .ok _, files => Function.update files file (some lease)
  | _, .create file lease, .ok true, files => Function.update files file (some lease)
  | _, .remove file, .ok _, files => Function.update files file none
  | _, _, _, files => files

def locksAfter (thread : ι) :
    {β : Type} → LeaseEffect β → β → (String → Option ι) → String → Option ι
  | _, .tryLock file, .ok true, locks => Function.update locks file (some thread)
  | _, .unlock file, _, locks =>
    if locks file = some thread then Function.update locks file none else locks
  | _, _, _, locks => locks

def LeaseWorld.view (world : LeaseWorld ι) (thread : ι) : LeaseView where
  known := world.seen thread
  held file := world.locks file = some thread

def leasePerform (env : LeaseEnv) (thread : ι) {β : Type} (effect : LeaseEffect β)
    (world : LeaseWorld ι) : β × LeaseWorld ι :=
  let answer := leaseAnswer env world effect
  (answer, {
    files := filesAfter effect answer world.files
    locks := locksAfter thread effect answer world.locks
    seen := Function.update world.seen thread ((world.view thread).learn effect answer).known })

def leaseCalls : Interleaved ι LeaseEnv Empty (LeaseWorld ι) LeaseEffect where
  perform env thread := leasePerform env thread
  external change _ := nomatch change
  crash thread world :=
    { world with locks := fun file =>
        if world.locks file = some thread then none else world.locks file }

def leaseStart [JsText] [RepositoryNames] (files : LeaseFiles) (calls : ι → OwnerCall) :
    Interleaved.Config ι (LeaseWorld ι) LeaseEffect where
  shared := ⟨files, fun _ => none, fun _ _ => none⟩
  threads thread := (calls thread).prog

end

/-- The lease files by their names. -/
abbrev LeaseDirectory := OrderedMap String CloserLease

/-- How the engine orders two texts. -/
class LocaleOrder where
  localeCompare : String → String → Int

section

variable [JsText] [RepositoryNames]

def leaseNamed (start name : String) : Bool :=
  start.toList.isPrefixOf name.toList && ".json".toList.isSuffixOf name.toList

/-- The leases among some files, each with its file. -/
def leaseCandidates (start : String) : List String → LeaseProg (List (String × CloserLease))
  | [] => return []
  | name :: rest => do
    if !leaseNamed start name then leaseCandidates start rest
    else
      match ← attempt (.read name) with
      | none => leaseCandidates start rest
      | some lease =>
        let candidates ← leaseCandidates start rest
        return (name, lease) :: candidates

def updatedText (entry : String × CloserLease) : String :=
  shown (Json.orTruthy (entry.2.get? "updatedAt") (some (.str "")))

def pickLiveLease [LocaleOrder] (candidates : List (String × CloserLease)) :
    Option (String × CloserLease) :=
  let supersededHeads := candidates.flatMap fun entry => supersededHeadsFor entry.2
  let sorted := candidates.mergeSort fun first second =>
    LocaleOrder.localeCompare (updatedText second) (updatedText first) ≤ 0
  sorted.find? fun entry =>
    !supersededHeads.contains (shown (Json.orTruthy (entry.2.get? "headSha") (some (.str "")))) &&
      !List.contains [terminal, handedToReview] (shown entry.2.status)

/-- The live lease of a pull request, whatever head it is keyed to. -/
def findLiveAmaCloserLease [LocaleOrder] (repo prNumber : Option Json) :
    LeaseProg (Option (String × CloserLease)) := do
  attempt .enter
  if !Json.truthy repo then Prog.fail "findLiveAmaCloserLease: identity.repo is required"
  else if (prNumber.bind JsText.number).isNone then
    Prog.fail "findLiveAmaCloserLease: identity.prNumber must be numeric"
  else
    let names ← Prog.perform .names
    let start ← Prog.raise (leasePrefix repo prNumber)
    let candidates ← leaseCandidates start names
    return pickLiveLease candidates

end

section

def directoryStep (clock : String) : {β : Type} → LeaseEffect β → LeaseDirectory →
    β × LeaseDirectory
  | _, .enter, files => (.ok (), files)
  | _, .tryLock _, files => (.ok true, files)
  | _, .unlock _, files => ((), files)
  | _, .read file, files => (.ok (files.get? file), files)
  | _, .write file lease, files => (.ok (), files.set file lease)
  | _, .create file lease, files =>
    if (files.get? file).isSome then (.ok false, files) else (.ok true, files.set file lease)
  | _, .remove file, files => (.ok (), files.erase file)
  | _, .names, files => (files.entries.map Prod.fst, files)
  | _, .clock, files => (clock, files)

def beforeRemoval {α : Type} (clock : String) : LeaseProg α → LeaseDirectory → LeaseDirectory
  | .pure _, files => files
  | .fail _, files => files
  | .step (.remove _) _, files => files
  | .step effect next, files =>
    beforeRemoval clock (next (directoryStep clock effect files).1)
      (directoryStep clock effect files).2

/-- A move of the branch, carried at once or after a call that died half-way. -/
structure Carry where
  toHead : String
  crashed : Bool := false
  now : Option Json := none
  clock : String := ""
  retryClock : String := ""

variable [JsText] [RepositoryNames]

def Carry.after (carry : Carry) (repo prNumber : Option Json) (fromHead : String)
    (files : LeaseDirectory) : LeaseDirectory :=
  let call := rekeyAmaCloserLease
    { repo, prNumber, fromHeadSha := some (.str fromHead), toHeadSha := some (.str carry.toHead),
      now := carry.now }
  if carry.crashed then
    (call.run (directoryStep carry.retryClock) (beforeRemoval carry.clock call files)).2
  else (call.run (directoryStep carry.clock) files).2

/-- The lease is carried along with every move. -/
def carryAll (repo prNumber : Option Json) :
    String → List Carry → LeaseDirectory → LeaseDirectory
  | _, [], files => files
  | fromHead, carry :: rest, files =>
    carryAll repo prNumber carry.toHead rest (carry.after repo prNumber fromHead files)

end

end AdversarialReview.Ama
