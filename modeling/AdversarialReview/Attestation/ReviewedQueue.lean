import Mathlib.Logic.Function.Basic

/-! The queue of reviewed attestations: its lock, its two files, and their retries. -/

namespace AdversarialReview.Attestation

inductive FailureClass where
  | attestationSignFailed
  | hcpUnavailable
  deriving DecidableEq

/-- An error of a sign or a record; its other texts are its streams and its cause. -/
structure Failure where
  message : String := ""
  code : String := ""
  killed : Bool := false
  details : List String := []

def mentions (text : List Char) (words : String) : Bool :=
  (List.range (text.length + 1)).any fun start => words.toList.isPrefixOf (text.drop start)

def isWordChar (char : Char) : Bool :=
  char.isAlphanum || char = '_'

def namesHcp (before : Bool) : List Char → Bool
  | [] => false
  | char :: chars =>
    (!before && "hcp".toList.isPrefixOf (char :: chars) &&
      !(chars.drop 2).head?.any isWordChar) || namesHcp (isWordChar char) chars

def isTransientSignError (failure : Failure) : Bool :=
  failure.killed ||
    ["EAGAIN", "EBUSY", "ECONNRESET", "EIO", "EMFILE", "ENFILE", "ETIMEDOUT"].contains
      failure.code.toUpper ||
    ["resource temporarily unavailable", "timed out", "time out", "timeout", "tls handshake",
      "socket hang up"].any (mentions failure.message.toLower.toList)

def classifyReviewedAttestationFailure (failure : Failure) : FailureClass :=
  let text := (("\n".intercalate
    ((failure.message :: failure.details).filter fun part => part ≠ "")).toLower).toList
  if ["ECONNREFUSED", "ECONNRESET", "EHOSTUNREACH", "ENETUNREACH", "ETIMEDOUT"].contains
        failure.code.toUpper ||
      ["127.0.0.1:8002", "localhost:8002", "[::1]:8002"].any (mentions text) ||
      (namesHcp false text &&
        ["unavailable", "connection refused", "timed out", "time out", "timeout", "no answer",
          "refused", "unreachable"].any (mentions text)) then
    .hcpUnavailable
  else .attestationSignFailed

def isRetryableReviewedAttestationFailure (failureClass : FailureClass) (failure : Failure) :
    Bool :=
  failureClass = .hcpUnavailable || isTransientSignError failure

def Failure.permanent (failure : Failure) : Bool :=
  !isRetryableReviewedAttestationFailure (classifyReviewedAttestationFailure failure) failure

structure QueueId where
  caller : Nat
  count : Nat
  deriving DecidableEq

structure Entry where
  queueId : QueueId
  failureClass : FailureClass
  lastError : String
  lastErrorCode : String
  lastErrorKilled : Bool
  retryAttempts : Nat := 0
  deriving DecidableEq

def Entry.failed (entry : Entry) (failure : Failure) : Entry :=
  { entry with
    failureClass := classifyReviewedAttestationFailure failure
    lastError := failure.message
    lastErrorCode := failure.code
    lastErrorKilled := failure.killed }

def pendingReviewedAttestationEntry (queueId : QueueId) (failure : Failure) : Entry where
  queueId := queueId
  failureClass := classifyReviewedAttestationFailure failure
  lastError := failure.message
  lastErrorCode := failure.code
  lastErrorKilled := failure.killed

def Entry.queuedError (entry : Entry) : Failure where
  message := entry.lastError
  code := entry.lastErrorCode
  killed := entry.lastErrorKilled

def Entry.effectiveQueuedFailureClass (entry : Entry) : FailureClass :=
  if entry.failureClass = .hcpUnavailable then entry.failureClass
  else classifyReviewedAttestationFailure entry.queuedError

def Entry.settledFailure (entry : Entry) : Bool :=
  !isRetryableReviewedAttestationFailure entry.effectiveQueuedFailureClass entry.queuedError

/-- What a retry made of an entry of its snapshot. -/
structure Processed where
  original : Entry
  remaining : Option Entry := none
  terminal : Option Entry := none

def terminalizeQueued (entry : Entry) : Processed where
  original := entry
  terminal := some
    { entry with
      failureClass := entry.effectiveQueuedFailureClass
      lastError :=
        if entry.lastError = "" then "non-transient reviewed attestation failure"
        else entry.lastError }

def attemptEntry (entry : Entry) : Option Failure → Processed
  | none => { original := entry }
  | some failure =>
    let failedEntry :=
      { entry.failed failure with retryAttempts := entry.retryAttempts + 1 }
    if isRetryableReviewedAttestationFailure (classifyReviewedAttestationFailure failure) failure
    then { original := entry, remaining := some failedEntry }
    else { original := failedEntry, terminal := some failedEntry }

/-- A file of lines. A line that no entry can be parsed from is `none`; a crash inside an append
leaves a last line without its newline. -/
structure QueueFile where
  lines : List (Option Entry) := []
  tail : Option (Option Entry) := none

/-- How far an append got with the line that it broke off in. -/
inductive Torn where
  | nothing
  | part
  | allButNewline
  deriving DecidableEq

namespace QueueFile

def entries (file : QueueFile) : List Entry :=
  file.lines.filterMap id ++ (file.tail.bind id).toList

def changed (file : QueueFile) : Bool :=
  file.lines.contains none || file.tail = some none

/-- A file that an append can go on with. -/
def ended (file : QueueFile) : Bool :=
  file.tail.isNone

def appendLine (file : QueueFile) (entry : Entry) : QueueFile where
  lines := file.lines ++ [if file.ended then some entry else none]

def append (file : QueueFile) (entries : List Entry) : QueueFile :=
  entries.foldl appendLine file

def tearLine (file : QueueFile) (entry : Entry) : Torn → QueueFile
  | .nothing => file
  | .part => { file with tail := some none }
  | .allButNewline => { file with tail := some (if file.ended then some entry else none) }

def tear (file : QueueFile) (entries : List Entry) (whole : Nat) (torn : Torn) : QueueFile :=
  match entries[whole]? with
  | some entry => (file.append (entries.take whole)).tearLine entry torn
  | none => file.append entries

def rewritten (entries : List Entry) : QueueFile where
  lines := entries.map some

end QueueFile

structure Replacement where
  next : List Entry := []
  terminalToArchive : List Entry := []
  /-- The entries that are in neither. -/
  gone : List Entry := []

def bucketOf (pick : Processed → Option Entry) (processed : List Processed) (key : QueueId) :
    List Entry :=
  (processed.filter fun entry => entry.original.queueId = key).filterMap pick

def consumedBy (processed : List Processed) (key : QueueId) : Bool :=
  processed.any fun entry => entry.original.queueId = key && entry.remaining.isNone

def replaceFrom (consumed : QueueId → Bool) (replacements terminalArchives : QueueId → List Entry) :
    List Entry → Replacement
  | [] => {}
  | entry :: entries =>
    let key := entry.queueId
    match replacements key with
    | replacement :: bucket =>
      let rest := replaceFrom consumed (Function.update replacements key bucket) terminalArchives
        entries
      { rest with next := replacement :: rest.next }
    | [] =>
      if consumed key then
        match terminalArchives key with
        | terminal :: bucket =>
          let rest := replaceFrom consumed replacements
            (Function.update terminalArchives key bucket) entries
          { rest with terminalToArchive := terminal :: rest.terminalToArchive }
        | [] =>
          let rest := replaceFrom consumed replacements terminalArchives entries
          { rest with gone := entry :: rest.gone }
      else
        let rest := replaceFrom consumed replacements terminalArchives entries
        { rest with next := entry :: rest.next }

def replaceProcessed (processed : List Processed) (current : List Entry) : Replacement :=
  replaceFrom (consumedBy processed)
    (bucketOf Processed.remaining processed)
    (bucketOf (fun entry => if entry.remaining.isNone then entry.terminal else none) processed)
    current

/-- The lock directory: the caller that made it, and whether its owner file stands in it. -/
structure QueueLock where
  creator : Nat
  owner : Bool := false
  deriving DecidableEq

inductive QueueCall where
  | enqueue (failure : Failure)
  | read
  /-- With `maxEntriesPerRun`, none being without a limit. -/
  | retry (entryLimit : Option Nat)

/-- What a call does once it has the lock. -/
inductive Job where
  | enqueue (entry : Entry)
  | read (retrying : Option (Option Nat))
  | replace (processed : List Processed)

/-- What is left of a call when it has released the lock. -/
inductive Rest where
  | enqueued (queueId : QueueId)
  | read (entries : List Entry) (retrying : Option (Option Nat))
  | replaced

/-- Where a caller stands. -/
inductive QueueStage where
  | idle
  /-- `acquireReviewedAttestationQueueLock`: before the lock directory is made, before its owner
  file is written, after it was there already, and before its owner file and it are removed. -/
  | acquiring (job : Job)
  | made (job : Job)
  | waiting (job : Job)
  | breaking (job : Job)
  | clearing (job : Job)
  /-- With the lock, before its first look at a file, and before the effects that follow it. -/
  | inside (job : Job)
  | rewriting (next : List Entry) (rest : Rest)
  | archiving (replacement : Replacement)
  | replacing (replacement : Replacement)
  /-- Before the owner file is read, before it is removed, and before the directory is. -/
  | releasing (rest : Rest)
  | removing (rest : Rest)
  | removed (rest : Rest)
  /-- Between two attempts of a retry. -/
  | attempting (entries : List Entry) (attempted : Bool) (processed : List Processed)

structure QueueWorld where
  pending : QueueFile
  archive : QueueFile
  lock : Option QueueLock
  alive : Nat → Bool
  stages : Nat → QueueStage
  /-- The entries that each caller has made. -/
  counts : Nat → Nat
  /-- The entries whose enqueue returned. -/
  returned : List QueueId
  /-- The attempts that were recorded, and the failures of the others and before an enqueue. -/
  recorded : List QueueId
  failures : List (QueueId × Failure)
  /-- The entries that a rewrite took out for a record. -/
  taken : List QueueId

/-- A turn of a caller, with what it is answered. -/
structure QueueMove where
  caller : Nat
  call : QueueCall := .read
  dies : Bool := false
  /-- How far an append gets that the caller dies in. -/
  whole : Nat := 0
  torn : Torn := .nothing
  /-- The lock directory is older than the stale age. -/
  stale : Bool := false
  givesUp : Bool := false
  outOfTime : Bool := false
  /-- The failure of an attempt. -/
  failure : Option Failure := none

def startQueue : QueueWorld where
  pending := {}
  archive := {}
  lock := none
  alive := fun _ => true
  stages := fun _ => .idle
  counts := fun _ => 0
  returned := []
  recorded := []
  failures := []
  taken := []

def queueIds (entries : List Entry) : List QueueId :=
  entries.map Entry.queueId

namespace QueueWorld

def marks (world : QueueWorld) (owner : Bool) : QueueWorld :=
  { world with lock := world.lock.map fun lock => { lock with owner } }

def goesOn (world : QueueWorld) (caller : Nat) (stage : QueueStage) : QueueWorld :=
  { world with stages := Function.update world.stages caller stage }

def lockDead (world : QueueWorld) : Bool :=
  world.lock.all fun lock => !world.alive lock.creator

def starts (world : QueueWorld) (caller : Nat) : QueueCall → QueueWorld
  | .enqueue failure =>
    let queueId := ⟨caller, world.counts caller⟩
    { world with
      counts := Function.update world.counts caller (world.counts caller + 1)
      failures := world.failures ++ [(queueId, failure)] }.goesOn caller
        (.acquiring (.enqueue (pendingReviewedAttestationEntry queueId failure)))
  | .read => world.goesOn caller (.acquiring (.read none))
  | .retry entryLimit => world.goesOn caller (.acquiring (.read (some entryLimit)))

/-- The first step of a job that has the lock. -/
def enters (world : QueueWorld) (caller : Nat) : Job → QueueWorld
  | .enqueue entry =>
    { world with pending := world.pending.append [entry] }.goesOn caller
      (.releasing (.enqueued entry.queueId))
  | .read retrying =>
    let entries := world.pending.entries
    let rest := .read entries retrying
    world.goesOn caller
      (if world.pending.changed then .rewriting entries rest else .releasing rest)
  | .replace processed =>
    world.goesOn caller (.archiving (replaceProcessed processed world.pending.entries))

def ends (world : QueueWorld) (caller : Nat) : Rest → QueueWorld
  | .enqueued queueId =>
    { world with returned := world.returned ++ [queueId] }.goesOn caller .idle
  | .read entries (some entryLimit) =>
    if entries.isEmpty then world.goesOn caller .idle
    else
      let attemptable := entries.filter fun entry => !entry.settledFailure
      world.goesOn caller (.attempting (attemptable.take (entryLimit.getD entries.length)) false
        ((entries.filter Entry.settledFailure).map terminalizeQueued))
  | .read _ none | .replaced => world.goesOn caller .idle

def attempts (world : QueueWorld) (caller : Nat) (failure : Option Failure) (entry : Entry)
    (entries : List Entry) (processed : List Processed) : QueueWorld :=
  let next := .attempting entries true (processed ++ [attemptEntry entry failure])
  match failure with
  | none => { world with recorded := world.recorded ++ [entry.queueId] }.goesOn caller next
  | some failure =>
    { world with failures := world.failures ++ [(entry.queueId, failure)] }.goesOn caller next

def act (world : QueueWorld) (move : QueueMove) : QueueWorld :=
  match world.stages move.caller with
  | .idle => world.starts move.caller move.call
  | .acquiring job =>
    match world.lock with
    | none => { world with lock := some { creator := move.caller } }.goesOn move.caller (.made job)
    | some _ => world.goesOn move.caller (.waiting job)
  | .made job =>
    (world.marks true).goesOn move.caller (.inside job)
  | .waiting job =>
    -- No live holder's directory reaches the stale age; one that is gone is made anew.
    if world.lock.isSome && move.stale && world.lockDead then
      world.goesOn move.caller (.breaking job)
    else world.goesOn move.caller
      (if world.lock.isSome && move.givesUp then .idle else .acquiring job)
  | .breaking job =>
    (world.marks false).goesOn move.caller (.clearing job)
  | .clearing job => { world with lock := none }.goesOn move.caller (.acquiring job)
  | .inside job => world.enters move.caller job
  | .rewriting next rest =>
    { world with pending := .rewritten next }.goesOn move.caller (.releasing rest)
  | .archiving replacement =>
    { world with archive := world.archive.append replacement.terminalToArchive }.goesOn
      move.caller (.replacing replacement)
  | .replacing replacement =>
    { world with
      pending := .rewritten replacement.next
      taken := world.taken ++ queueIds replacement.gone }.goesOn move.caller (.releasing .replaced)
  | .releasing rest =>
    if world.lock = some ⟨move.caller, true⟩ then world.goesOn move.caller (.removing rest)
    else world.ends move.caller rest
  | .removing rest =>
    (world.marks false).goesOn move.caller (.removed rest)
  | .removed rest => { world with lock := none }.ends move.caller rest
  | .attempting [] _ processed => world.goesOn move.caller (.acquiring (.replace processed))
  | .attempting (entry :: entries) attempted processed =>
    if attempted && move.outOfTime then
      world.goesOn move.caller (.acquiring (.replace processed))
    else world.attempts move.caller move.failure entry entries processed

/-- What a crash leaves of the append that it is inside of. -/
def tears (world : QueueWorld) (move : QueueMove) : QueueWorld :=
  match world.stages move.caller with
  | .inside (.enqueue entry) =>
    { world with pending := world.pending.tear [entry] move.whole move.torn }
  | .archiving replacement =>
    { world with
      archive := world.archive.tear replacement.terminalToArchive move.whole move.torn }
  | _ => world

def step (world : QueueWorld) (move : QueueMove) : QueueWorld :=
  if world.alive move.caller then
    if move.dies then
      { world.tears move with alive := Function.update world.alive move.caller false }
    else world.act move
  else world

def run (world : QueueWorld) (moves : List QueueMove) : QueueWorld :=
  moves.foldl step world

def carefulStep (world : QueueWorld) (move : QueueMove) : Bool :=
  match world.stages move.caller with
  | .breaking _ | .clearing _ => world.lockDead
  | .inside (.enqueue _) => move.dies || world.pending.ended
  | .archiving replacement =>
    move.dies || world.archive.ended || replacement.terminalToArchive.isEmpty
  | _ => true

def careful (world : QueueWorld) : List QueueMove → Bool
  | [] => true
  | move :: moves => world.carefulStep move && (world.step move).careful moves

end QueueWorld

end AdversarialReview.Attestation
