import Mathlib.Algebra.Ring.Int.Defs
import Mathlib.Data.List.Sort

/-! The files of one merge lane: its lease, its waiters, the attempts of its heads, the
sections that a mutation lock makes atomic, and the calls of any number of closers. -/

namespace AdversarialReview.MergeLease

structure Waiter where
  pr : Nat
  head : String
  waiterId : String
  /-- `priority` is `daemon`. -/
  daemon : Bool := false
  deployIncident : Bool := false
  notBefore : Option Int := none
  arrivedAt : Int
  registeredAt : Option Int := none
  updatedAt : Int
  attempt : Int := 1
  holderPid : Nat
  holderHost : String
  acquisitionPid : Option Nat := none
  deadlineSeconds : Int
  deriving DecidableEq

structure LeaseRecord where
  leaseId : String
  holderPr : Nat
  holderHead : String
  /-- `holderRole` is `daemon`. -/
  daemon : Bool := false
  waiter : Option Waiter := none
  holderPid : Nat
  holderHost : String
  acquiredAt : Int
  deadlineSeconds : Int
  updatedAt : Int
  previousAcquiredAt : Option Int := none
  grantedAt : Option Int := none
  deriving DecidableEq

structure AttemptRecord where
  pr : Nat
  head : String
  attempts : Nat := 0
  retryable : Nat := 0
  firstAttemptAt : Int
  lastAttemptAt : Int
  baseSha : Option String := none
  noMergeLeaseId : Option String := none
  noMergeReleases : Nat := 0
  consecutiveNoMergeReleases : Nat := 0
  noMergeReason : Option String := none
  parkedReason : Option String := none
  reenteredAt : Option Int := none
  nextEligibleAt : Option Int := none
  queueArrivedAt : Option Int := none
  queueArrivalExpiresAt : Option Int := none
  deriving DecidableEq

/-- The three files of a lane; their times are the milliseconds of the texts they hold. -/
structure Lane where
  lease : Option LeaseRecord := none
  waiters : List Waiter := []
  attempts : List AttemptRecord := []

structure LaneConfig where
  pollIntervalMs : Int
  maxGateAttempts : Nat
  positive : 0 < maxGateAttempts
  /-- Whether a head does not come after another one in the order of the locale. -/
  headLe : String → String → Bool

/-- Where and when a section runs, and what its machine answers. -/
structure LaneHost where
  now : Int
  host : String
  pidAlive : Nat → Bool
  /-- A waiting time, as the load of the machine scales it. -/
  loadAware : Int → Int := id

def defaultDeadlineSeconds : Int := 900

def parseDeadlineSeconds (seconds : Int) : Int :=
  if 0 < seconds then seconds else defaultDeadlineSeconds

def ageSecondsFrom (start now : Int) : Int :=
  max 0 ((now - start) / 1000)

def waiterLe (first second : Waiter) : Bool :=
  if first.deployIncident = second.deployIncident then first.arrivedAt ≤ second.arrivedAt
  else first.deployIncident

def sortWaiters (waiters : List Waiter) : List Waiter :=
  waiters.insertionSort fun first second => waiterLe first second = true

def waiterReady (waiter : Waiter) (now : Int) : Bool :=
  waiter.notBefore.all (· ≤ now)

def waiterExpired (waiter : Waiter) (now : Int) : Bool :=
  let start := if waiter.daemon then waiter.updatedAt
    else waiter.registeredAt.getD waiter.arrivedAt
  parseDeadlineSeconds waiter.deadlineSeconds ≤ ageSecondsFrom start now

def waiterProcessDead (waiter : Waiter) (host : LaneHost) : Bool :=
  waiter.holderHost ≠ "" && waiter.holderHost = host.host &&
    0 < waiter.acquisitionPid.getD waiter.holderPid &&
    !host.pidAlive (waiter.acquisitionPid.getD waiter.holderPid)

def pruneMergeLeaseWaiters (waiters : List Waiter) (host : LaneHost) : List Waiter :=
  (sortWaiters waiters).filter fun waiter =>
    !(waiterExpired waiter host.now || waiterProcessDead waiter host)

def defaultAttemptTtlSeconds : Int := 30 * 24 * 60 * 60

def attemptExpired (attempt : AttemptRecord) (now : Int) : Bool :=
  defaultAttemptTtlSeconds ≤ ageSecondsFrom attempt.lastAttemptAt now

def sortedAttempts (config : LaneConfig) (attempts : List AttemptRecord) : List AttemptRecord :=
  attempts.insertionSort fun first second =>
    (if first.pr = second.pr then config.headLe first.head second.head
      else first.pr < second.pr) = true

def readMergeLeaseAttempts (config : LaneConfig) (lane : Lane) : List AttemptRecord :=
  sortedAttempts config lane.attempts

def AttemptRecord.isOf (attempt : AttemptRecord) (pr : Nat) (head : String) : Bool :=
  attempt.pr = pr && attempt.head = head

def activeAttempt (attempts : List AttemptRecord) (pr : Nat) (head : String) (now : Int) :
    Option AttemptRecord :=
  attempts.find? fun attempt => attempt.isOf pr head && !attemptExpired attempt now

def closerArrivalExpiry (config : LaneConfig) (attempt : AttemptRecord) : Option Int :=
  attempt.queueArrivalExpiresAt.or (attempt.nextEligibleAt.map (· + config.pollIntervalMs))

def closerArrival (config : LaneConfig) (attempts : List AttemptRecord) (pr : Nat) (now : Int) :
    Option AttemptRecord :=
  attempts.find? fun attempt => attempt.pr = pr && attempt.queueArrivedAt.isSome &&
    (closerArrivalExpiry config attempt).any (now < ·) && !attemptExpired attempt now

def withoutCloserArrival (attempt : AttemptRecord) : AttemptRecord :=
  { attempt with queueArrivedAt := none, queueArrivalExpiresAt := none }

def clearCloserArrivals (attempts : List AttemptRecord) (pr : Nat) : List AttemptRecord :=
  attempts.map fun attempt => if attempt.pr = pr then withoutCloserArrival attempt else attempt

inductive LaneWrite where
  | lease (lease : Option LeaseRecord)
  | waiters (waiters : List Waiter)
  | attempts (attempts : List AttemptRecord)
  deriving DecidableEq

def Lane.write (lane : Lane) : LaneWrite → Lane
  | .lease lease => { lane with lease := lease }
  | .waiters waiters => { lane with waiters := waiters }
  | .attempts attempts => { lane with attempts := attempts }

def Lane.writeAll (lane : Lane) (writes : List LaneWrite) : Lane :=
  writes.foldl Lane.write lane

structure GateAttempt where
  pr : Nat
  head : String
  baseSha : Option String := none
  now : Int

def attemptAtBase (attempts : List AttemptRecord) (call : GateAttempt) : Option AttemptRecord :=
  (activeAttempt attempts call.pr call.head call.now).map fun existing =>
    if call.baseSha.any (· ≠ "") && existing.baseSha ≠ call.baseSha then
      { existing with
        attempts := 0
        consecutiveNoMergeReleases := 0
        parkedReason := none
        noMergeReason := none
        nextEligibleAt := none }
    else existing

def attemptBase (call : GateAttempt) (lane : Lane) : AttemptRecord :=
  (attemptAtBase lane.attempts call).getD
    { pr := call.pr, head := call.head, firstAttemptAt := call.now, lastAttemptAt := call.now }

def recordMergeLeaseGateAttempt (config : LaneConfig) (call : GateAttempt) (lane : Lane) :
    List LaneWrite :=
  let active := lane.attempts.filter fun attempt => !attemptExpired attempt call.now
  let others := active.filter fun attempt => !attempt.isOf call.pr call.head
  let base := attemptBase call lane
  if base.parkedReason.isSome then []
  else if config.maxGateAttempts ≤ base.attempts then
    let capped := withoutCloserArrival { base with parkedReason := some "max-gate-attempts" }
    [.attempts (sortedAttempts config (clearCloserArrivals (others ++ [capped]) call.pr))]
  else
    let next := { base with
      baseSha := (call.baseSha.filter (· ≠ "")).or base.baseSha
      attempts := base.attempts + 1
      lastAttemptAt := call.now }
    [.attempts (sortedAttempts config (others ++ [next]))]

def AttemptRecord.refunded (attempt : AttemptRecord) : AttemptRecord :=
  { attempt with
    attempts := attempt.attempts - 1
    retryable := attempt.retryable + 1 }

def refundMergeLeaseGateAttempt (config : LaneConfig) (pr : Nat) (head : String) (now : Int)
    (lane : Lane) : List LaneWrite :=
  if lane.attempts.any (·.isOf pr head) then
    [.attempts (sortedAttempts config (lane.attempts.map fun attempt =>
      if attempt.isOf pr head then { attempt.refunded with lastAttemptAt := now } else attempt))]
  else []

def removeAttemptRecords (config : LaneConfig) (pr : Nat) (head : String) (lane : Lane) :
    List LaneWrite :=
  if lane.attempts = [] then []
  else [.attempts (sortedAttempts config (lane.attempts.filter fun attempt =>
    !attempt.isOf pr head))]

def resetMergeLeaseGateAttempts (config : LaneConfig) (pr : Nat) (head : String) (lane : Lane) :
    List LaneWrite :=
  if lane.lease.any fun lease => lease.holderPr = pr && lease.holderHead = head then []
  else
    let removed := lane.attempts.any (·.isOf pr head)
    let ready := lane.waiters.map fun waiter =>
      if waiter.pr = pr && waiter.head = head then { waiter with notBefore := none } else waiter
    removeAttemptRecords config pr head lane ++
      if removed && !ready.isEmpty then [.waiters (sortWaiters ready)] else []

structure WaiterCall where
  pr : Nat
  head : String
  waiterId : String
  daemon : Bool := false
  /-- Whether the body of the pull request marks an incident, where it is given. -/
  incident : Option Bool := none
  attempt : Int := 1
  holderPid : Nat
  acquisitionPid : Option Nat := none
  deadlineSeconds : Int

def laterOf : Option Int → Option Int → Option Int
  | some first, some second => some (max first second)
  | first, second => first.or second

def nextWaiter (config : LaneConfig) (call : WaiterCall) (host : LaneHost) (lane : Lane)
    (existing : Option Waiter) : Waiter :=
  let attempts := readMergeLeaseAttempts config lane
  let arrival := if call.daemon then none else closerArrival config attempts call.pr host.now
  let retry := activeAttempt attempts call.pr call.head host.now
  let eligible := retry.bind AttemptRecord.nextEligibleAt
  let before := existing.bind Waiter.notBefore
  { pr := call.pr
    head := call.head
    waiterId := call.waiterId
    daemon := call.daemon
    deployIncident := call.incident.getD (existing.any Waiter.deployIncident)
    notBefore := if call.daemon then eligible.or before
      else laterOf (laterOf eligible (arrival.bind AttemptRecord.nextEligibleAt)) before
    arrivedAt := ((arrival.bind AttemptRecord.queueArrivedAt).or
      (existing.map Waiter.arrivedAt)).getD host.now
    -- A restored arrival does not use up the waiting time of the new call.
    registeredAt := (existing.bind Waiter.registeredAt).or
      (if arrival.isSome then some host.now else none)
    updatedAt := host.now
    attempt := call.attempt
    holderPid := call.holderPid
    holderHost := host.host
    acquisitionPid := call.acquisitionPid
    deadlineSeconds := call.deadlineSeconds }

def existingWaiter (call : WaiterCall) (host : LaneHost) (lane : Lane) : Option Waiter :=
  (sortWaiters lane.waiters).find? fun waiter => waiter.waiterId = call.waiterId &&
    !waiterExpired waiter host.now && !waiterProcessDead waiter host

def registeredWaiter (config : LaneConfig) (call : WaiterCall) (host : LaneHost) (lane : Lane) :
    Waiter :=
  nextWaiter config call host lane (existingWaiter call host lane)

def upsertMergeLeaseWaiter (config : LaneConfig) (call : WaiterCall) (host : LaneHost)
    (lane : Lane) : List LaneWrite :=
  let waiters := sortWaiters lane.waiters
  let others := waiters.filter fun waiter => waiter.waiterId ≠ call.waiterId
  let next := registeredWaiter config call host lane
  let parked := (activeAttempt (readMergeLeaseAttempts config lane) call.pr call.head host.now).any
    fun retry => retry.parkedReason.isSome
  [.waiters (sortWaiters (
    if parked then others
    else if (existingWaiter call host lane).isSome then
      waiters.map fun waiter => if waiter.waiterId = call.waiterId then next else waiter
    else others ++ [next]))]

structure AcquireCall where
  holderPr : Nat
  holderHead : String
  leaseId : String
  daemon : Bool := false
  waiter : Option Waiter := none
  holderPid : Nat
  deadlineSeconds : Int
  /-- A write fails after the lease file was created. -/
  writesFail : Bool := false

def heldBack (config : LaneConfig) (call : AcquireCall) (host : LaneHost) (lane : Lane) : Bool :=
  let attempts := readMergeLeaseAttempts config lane
  let arrival := if call.daemon then none else closerArrival config attempts call.holderPr host.now
  let retry := activeAttempt attempts call.holderPr call.holderHead host.now
  retry.any (fun retry => retry.parkedReason.isSome) ||
    (retry.bind AttemptRecord.nextEligibleAt).any (host.now < ·) ||
    (arrival.bind AttemptRecord.nextEligibleAt).any (host.now < ·)

def readyWaiters (host : LaneHost) (lane : Lane) : List Waiter :=
  (pruneMergeLeaseWaiters lane.waiters host).filter fun waiter => waiterReady waiter host.now

def itsTurn (call : AcquireCall) (host : LaneHost) (lane : Lane) : Bool :=
  match readyWaiters host lane with
  | [] => true
  | first :: _ => call.waiter.any fun waiter => first.waiterId = waiter.waiterId

def AcquireCall.lease (call : AcquireCall) (host : LaneHost) : LeaseRecord where
  leaseId := call.leaseId
  holderPr := call.holderPr
  holderHead := call.holderHead
  daemon := call.daemon
  waiter := call.waiter
  holderPid := call.holderPid
  holderHost := host.host
  acquiredAt := host.now
  deadlineSeconds := call.deadlineSeconds
  updatedAt := host.now

def grants (config : LaneConfig) (call : AcquireCall) (host : LaneHost) (lane : Lane) : Bool :=
  !heldBack config call host lane && itsTurn call host lane && lane.lease.isNone

def prunedWrites (host : LaneHost) (lane : Lane) : List LaneWrite :=
  let waiters := pruneMergeLeaseWaiters lane.waiters host
  if waiters.length < lane.waiters.length then [.waiters (sortWaiters waiters)] else []

/-- The section of an acquisition, after its registration and after a stale lease was reclaimed. -/
def acquireMergeLease (config : LaneConfig) (call : AcquireCall) (host : LaneHost) (lane : Lane) :
    List LaneWrite :=
  prunedWrites host lane ++
    if grants config call host lane then
      [.lease (some (call.lease host))] ++
        if call.writesFail then [.lease none]
        else call.waiter.toList.map fun waiter => .waiters (sortWaiters
          ((pruneMergeLeaseWaiters lane.waiters host).filter fun other =>
            other.waiterId ≠ waiter.waiterId))
    else []

structure Fence where
  leaseId : String
  holderPr : Nat
  holderHead : String
  acquiredAt : Int
  deriving DecidableEq

def LeaseRecord.fence (lease : LeaseRecord) : Fence where
  leaseId := lease.leaseId
  holderPr := lease.holderPr
  holderHead := lease.holderHead
  acquiredAt := lease.acquiredAt

def holderMatches (lease : LeaseRecord) (fence : Fence) : Bool :=
  lease.fence = fence

def retryableMergeOutcomes : List String :=
  ["base-advanced", "base-advanced-during-server-rebase", "server-rebase-conflict",
    "rebase-conflict", "retry-base-not-contained", "lane-busy", "lease-contention",
    "merge-lease-timeout"]

/-- How a release without a merge is recorded. -/
structure NoMerge where
  reason : String
  chargeable : Bool
  refund : Bool

def NoMerge.retryableAbort (reason : String) : NoMerge where
  reason := reason
  chargeable := false
  refund := true

def noMergeBackoff (config : LaneConfig) (host : LaneHost) (releases : Nat) : Int :=
  host.loadAware (min config.pollIntervalMs (1000 * 2 ^ min (releases - 1) 20))

def parkedAfter (config : LaneConfig) (previous : Option AttemptRecord) (consecutive : Nat) :
    Option String :=
  (previous.bind AttemptRecord.parkedReason).or
    (if config.maxGateAttempts ≤ consecutive then some "repeated-no-merge-release" else none)

def LeaseRecord.isCloser (lease : LeaseRecord) : Bool :=
  !lease.daemon && !lease.waiter.any Waiter.daemon

def noMergeBase (config : LaneConfig) (host : LaneHost) (lease : LeaseRecord) (how : NoMerge)
    (previous : Option AttemptRecord) : AttemptRecord :=
  let releases := (previous.map AttemptRecord.noMergeReleases).getD 0 + 1
  let consecutive :=
    if how.chargeable then (previous.map AttemptRecord.consecutiveNoMergeReleases).getD 0 + 1 else 0
  let base := match previous with
    | some previous => if how.refund then previous.refunded else previous
    | none => { pr := lease.holderPr, head := lease.holderHead, firstAttemptAt := host.now,
                lastAttemptAt := host.now }
  { base with
    pr := lease.holderPr
    head := lease.holderHead
    noMergeLeaseId := some lease.leaseId
    noMergeReleases := releases
    consecutiveNoMergeReleases := consecutive
    noMergeReason := some how.reason
    parkedReason := parkedAfter config previous consecutive
    reenteredAt := some host.now
    nextEligibleAt := some (host.now + noMergeBackoff config host releases)
    lastAttemptAt := host.now }

def noMergeRecord (config : LaneConfig) (host : LaneHost) (lease : LeaseRecord) (how : NoMerge)
    (attempts : List AttemptRecord) (previous : Option AttemptRecord) : AttemptRecord :=
  let arrival := closerArrival config attempts lease.holderPr host.now
  let next := noMergeBase config host lease how previous
  if lease.isCloser && next.parkedReason.isNone then
    { next with
      queueArrivedAt := some (((lease.waiter.map Waiter.arrivedAt).or
        (arrival.bind AttemptRecord.queueArrivedAt)).getD lease.acquiredAt)
      queueArrivalExpiresAt := next.nextEligibleAt.map (· + config.pollIntervalMs) }
  else if next.parkedReason.isNone && arrival.isSome && arrival = previous then
    -- A daemon keeps the memory of a closer without renewing it.
    { next with queueArrivalExpiresAt := previous.bind (closerArrivalExpiry config) }
  else withoutCloserArrival next

def recordNoMergeRelease (config : LaneConfig) (host : LaneHost) (lease : LeaseRecord)
    (how : NoMerge) (lane : Lane) : AttemptRecord × List LaneWrite :=
  let previous := activeAttempt lane.attempts lease.holderPr lease.holderHead host.now
  let waiting (retry : AttemptRecord) : LaneWrite :=
    .waiters (sortWaiters ((sortWaiters lane.waiters).filter (fun waiter =>
        !(waiter.pr = lease.holderPr && waiter.head = lease.holderHead)) ++
      (if retry.parkedReason.isNone then lease.waiter.toList.filter Waiter.daemon else []).map
        fun waiter => { waiter with arrivedAt := host.now, updatedAt := host.now, attempt := 1,
                                    notBefore := retry.nextEligibleAt }))
  match previous.filter fun attempt => attempt.noMergeLeaseId = some lease.leaseId with
  -- The release was recorded before.
  | some recorded => (recorded, [waiting recorded])
  | none =>
    let next := noMergeRecord config host lease how lane.attempts previous
    let kept := if lease.isCloser || next.parkedReason.isSome then
      clearCloserArrivals lane.attempts lease.holderPr else lane.attempts
    (next, [.attempts (sortedAttempts config (kept.filter (fun attempt =>
      !attempt.isOf lease.holderPr lease.holderHead) ++ [next])), waiting next])

structure ReleaseCall where
  reason : String := "holder-release"
  /-- `historyEvent` is `release`. -/
  isRelease : Bool := true
  /-- The pull request merged or closed, or the closer ended for good. -/
  terminal : Bool := false
  yielded : Bool := false

def ReleaseCall.ends (call : ReleaseCall) : Bool :=
  call.terminal || call.reason = "holder-pr-merged" || call.reason = "holder-pr-closed"

def wakeDaemonWaiter (host : LaneHost) (lane : Lane) : List LaneWrite :=
  prunedWrites host lane

def releaseMergeLease (config : LaneConfig) (fence : Fence) (call : ReleaseCall) (host : LaneHost)
    (lane : Lane) : List LaneWrite :=
  match lane.lease.filter fun lease => holderMatches lease fence with
  | none => []
  | some lease =>
    let retryable := call.yielded || retryableMergeOutcomes.contains call.reason
    let accounts :=
      if call.ends then
        if lane.attempts.any fun attempt =>
            attempt.pr = lease.holderPr && attempt.queueArrivedAt.isSome then
          [.attempts (clearCloserArrivals lane.attempts lease.holderPr)]
        else []
      else if call.isRelease then
        (recordNoMergeRelease config host lease
          { reason := call.reason, chargeable := !retryable, refund := retryable } lane).2
      else []
    let released := accounts ++ [.lease none]
    released ++ wakeDaemonWaiter host (lane.writeAll released)

def releaseMergeLeaseForRetryableAbort (config : LaneConfig) (fence : Fence) (reason : String)
    (host : LaneHost) (lane : Lane) : List LaneWrite :=
  match lane.lease.filter fun lease => holderMatches lease fence with
  | none => []
  | some lease =>
    let released := (recordNoMergeRelease config host lease (.retryableAbort reason) lane).2 ++
      [.lease none]
    released ++ wakeDaemonWaiter host (lane.writeAll released)

def renewMergeLease (fence : Fence) (now : Int) (lane : Lane) : List LaneWrite :=
  match lane.lease.filter fun lease => holderMatches lease fence with
  | none => []
  | some lease => [.lease (some { lease with
      acquiredAt := now
      updatedAt := now
      previousAcquiredAt := some lease.acquiredAt
      grantedAt := lease.grantedAt.or (some lease.acquiredAt) })]

def removeMergeLeaseWaiter (waiterId : String) (expected : Option (Option Nat × String))
    (lane : Lane) : List LaneWrite :=
  if lane.waiters = [] then []
  else [.waiters (sortWaiters (lane.waiters.filter fun waiter => waiter.waiterId ≠ waiterId ||
    expected.any fun acquisition =>
      waiter.acquisitionPid ≠ acquisition.1 || waiter.holderHost ≠ acquisition.2))]

def pruneObsoleteHeads (pr : Nat) (keepHead : Option String) (lane : Lane) : List LaneWrite :=
  let obsolete (waiter : Waiter) : Bool :=
    waiter.daemon && waiter.pr = pr && some waiter.head ≠ keepHead
  if lane.waiters.any obsolete then
    [.waiters (sortWaiters (lane.waiters.filter fun waiter => !obsolete waiter))]
  else []

/-- The sections that run under the mutation lock of a lane. -/
inductive LaneStep where
  | register (call : WaiterCall) (host : LaneHost)
  | unregister (waiterId : String) (expected : Option (Option Nat × String))
  | prune (host : LaneHost)
  | pruneObsoleteHeads (pr : Nat) (keepHead : Option String)
  | acquire (call : AcquireCall) (host : LaneHost)
  | release (fence : Fence) (call : ReleaseCall) (host : LaneHost)
  | retryableAbort (fence : Fence) (reason : String) (host : LaneHost)
  | renew (fence : Fence) (now : Int)
  | gateAttempt (call : GateAttempt)
  | refund (pr : Nat) (head : String) (now : Int)
  | reset (pr : Nat) (head : String)
  /-- What a reconciliation forgets of a merged or closed pull request. -/
  | forget (pr : Nat) (head : String)

def LaneStep.writes (config : LaneConfig) (lane : Lane) : LaneStep → List LaneWrite
  | .register call host => upsertMergeLeaseWaiter config call host lane
  | .unregister waiterId expected => removeMergeLeaseWaiter waiterId expected lane
  | .prune host => prunedWrites host lane
  | .pruneObsoleteHeads pr keepHead => MergeLease.pruneObsoleteHeads pr keepHead lane
  | .acquire call host => acquireMergeLease config call host lane
  | .release fence call host => releaseMergeLease config fence call host lane
  | .retryableAbort fence reason host =>
    releaseMergeLeaseForRetryableAbort config fence reason host lane
  | .renew fence now => renewMergeLease fence now lane
  | .gateAttempt call => recordMergeLeaseGateAttempt config call lane
  | .refund pr head now => refundMergeLeaseGateAttempt config pr head now lane
  | .reset pr head => resetMergeLeaseGateAttempts config pr head lane
  | .forget pr head => removeAttemptRecords config pr head lane

/-- A section that may stop after some of its writes. -/
structure LaneMove where
  step : LaneStep
  stop : Option Nat := none

def LaneMove.done (config : LaneConfig) (lane : Lane) (move : LaneMove) : List LaneWrite :=
  match move.stop with
  | none => move.step.writes config lane
  | some count => (move.step.writes config lane).take count

def Lane.move (config : LaneConfig) (lane : Lane) (move : LaneMove) : Lane :=
  lane.writeAll (move.done config lane)

/-- Carry out sections one after another, each perhaps cut short. -/
def runLane (config : LaneConfig) (lane : Lane) (moves : List LaneMove) : Lane :=
  moves.foldl (Lane.move config) lane

/-- Why a lease may be taken from its holder. -/
inductive Staleness where
  | deadPid
  | pastDeadline
  | holderPrGone
  deriving DecidableEq

/-- What an inspection of a lease found, and where and when it looked. -/
structure Sighting where
  lease : LeaseRecord
  host : String
  now : Int
  /-- Nothing as long as the lease may stay. -/
  stale : Option Staleness
  deriving DecidableEq

/-- A lane, what its inspections found so far, and the truth about processes and pull requests. -/
structure FenceWorld where
  lane : Lane
  used : List String := []
  seen : List Sighting := []
  /-- The reconciliations that released a lease and have not pruned its attempts yet. -/
  reconciled : List LeaseRecord := []
  dead : String → Nat → Bool := fun _ _ => false
  prGone : Nat → Bool := fun _ => false

/-- What a closer or a watcher does next. -/
inductive FenceMove where
  /-- A section of a closer; acquisitions, releases, aborts and renewals are among them. -/
  | call (move : LaneMove)
  /-- An inspection; a pid that was reused is found alive. -/
  | inspect (host : String) (now : Int) (reused : Nat → Bool)
  /-- A reconciliation reads the state of the holder's pull request. -/
  | readPr (sighting : Sighting)
  /-- The release of a stale lease, by the fence that was seen. -/
  | reclaim (sighting : Sighting) (host : LaneHost)
  /-- A reconciliation prunes the attempts of the lease that it released. -/
  | prune (lease : LeaseRecord)
  | die (host : String) (pid : Nat)
  | prGone (pr : Nat)
  | reopen (pr : Nat)

def reclaimReason (lease : LeaseRecord) (host : String) (now : Int) (alive : Nat → Bool) :
    Option Staleness :=
  if lease.holderHost = host && !alive lease.holderPid then some .deadPid
  else if lease.holderHost ≠ host && lease.deadlineSeconds ≤ ageSecondsFrom lease.acquiredAt now
    then some .pastDeadline
  else none

def reclaimCall : Staleness → ReleaseCall
  | .deadPid => { reason := "dead-holder-pid", isRelease := false }
  | .pastDeadline => { reason := "past-deadline", isRelease := false }
  -- A pull request that is gone was merged or closed; both end its closers alike.
  | .holderPrGone => { reason := "holder-pr-closed" }

def isCloserStep : LaneStep → Bool
  | .forget .. => false
  | _ => true

def newLeaseId : LaneStep → Option String
  | .acquire call _ => some call.leaseId
  | _ => none

def FenceWorld.step (config : LaneConfig) (world : FenceWorld) : FenceMove → FenceWorld
  | .call move =>
    if isCloserStep move.step then
      { world with
        lane := world.lane.move config move
        used := (newLeaseId move.step).toList ++ world.used }
    else world
  | .inspect host now reused =>
    match world.lane.lease with
    | none => world
    | some lease =>
      let stale := reclaimReason lease host now fun pid => !world.dead host pid || reused pid
      { world with seen := ⟨lease, host, now, stale⟩ :: world.seen }
  | .readPr sighting =>
    if sighting ∈ world.seen ∧ sighting.stale = none ∧ world.prGone sighting.lease.holderPr then
      { world with seen := { sighting with stale := some .holderPrGone } :: world.seen }
    else world
  | .reclaim sighting host =>
    match sighting.stale with
    | none => world
    | some stale =>
      if sighting ∈ world.seen then
        { world with
          lane := world.lane.move config
            ⟨.release sighting.lease.fence (reclaimCall stale) host, none⟩
          reconciled := if stale = .holderPrGone ∧
              world.lane.lease.map LeaseRecord.fence = some sighting.lease.fence then
            sighting.lease :: world.reconciled else world.reconciled }
      else world
  | .prune lease =>
    if lease ∈ world.reconciled then
      { world with
        lane := world.lane.move config ⟨.forget lease.holderPr lease.holderHead, none⟩ }
    else world
  | .die host pid =>
    { world with dead := fun other otherPid => (other = host && otherPid = pid) ||
                                               world.dead other otherPid }
  | .prGone pr => { world with prGone := Function.update world.prGone pr true }
  | .reopen pr => { world with prGone := Function.update world.prGone pr false }

end AdversarialReview.MergeLease
