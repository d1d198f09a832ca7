import Mathlib.Logic.Function.Basic

/-! The folders that one follow-up job passes through, under the calls that move it. -/

namespace AdversarialReview.FollowUp

inductive JobStatus where
  | pending | inProgress | completed | failed | stopped
  deriving DecidableEq

inductive JobBucket where
  | pending | inProgress | completed | failed | stopped
  | stoppedArchived (month : String)
  deriving DecidableEq

def JobBucket.status : JobBucket → JobStatus
  | .pending => .pending
  | .inProgress => .inProgress
  | .completed => .completed
  | .failed => .failed
  | .stopped | .stoppedArchived _ => .stopped

structure JobRecord where
  status : JobStatus
  writtenAt : Nat

/-- For whom `moveTerminalJobRecord` moves a job: a stop call keeps the moment of its read. -/
inductive MoveFor where
  | mark | stop (readAt : Nat) | claim
  deriving DecidableEq

inductive JobOutcome where
  | claimed (renamedAt : Nat)
  | stopped (readAt : Nat)
  /-- It returned without either, or threw. -/
  | other

/-- Where a call stands between two of its looks at the files, with what it last saw there. -/
inductive JobCall where
  /-- `claimNextFollowUpJob`, before its read, its rename and its write. -/
  | claim
  | claimRead (seen : JobRecord)
  | claimRenamed (seen : JobRecord) (renamedAt : Nat)
  /-- `handleClaimedStopFailure`, before its look and its rename. -/
  | restoring (seen : JobRecord)
  | renamingBack (seen : JobRecord)
  /-- `stopFollowUpJob`, before its own read. -/
  | stop (path : JobBucket)
  /-- `moveTerminalJobRecord`, before its read, its write and its removals. -/
  | move (path target : JobBucket) (mover : MoveFor) (seen : Option JobRecord)
  | creating (path target : JobBucket) (mover : MoveFor) (seen : JobRecord)
  | dropping (path target : JobBucket) (mover : MoveFor) (seen : JobRecord)
  | removing (path : JobBucket) (mover : MoveFor)
  /-- `requeueInProgressFollowUpJobForRetry`. -/
  | retry (path : JobBucket)
  | retryRead (path : JobBucket) (seen : JobRecord)
  /-- `requeueFollowUpJobForNextRound`, before it has the lock and then with it. -/
  | requeue (path : JobBucket)
  | requeueLocked (path : JobBucket)
  | requeueRead (path : JobBucket) (seen : JobRecord)
  /-- `moveFollowUpJob` of either requeue, between its write and its rename. -/
  | requeueWritten (path : JobBucket) (seen : JobRecord)
  /-- `archiveStoppedFollowUpJobs`, before it has the lock and then with it. -/
  | archive (month : String)
  | archiveLocked (month : String)
  | archiveRead (month : String) (seen : JobRecord)
  | archiving (month : String) (seen : JobRecord)
  | archiveDropping
  | done (outcome : JobOutcome)

def JobCall.fresh : JobCall → Bool
  | .claim | .stop _ | .retry _ | .requeue _ | .archive _ => true
  | .move _ target mover seen =>
    (target = .completed || target = .failed || target = .stopped) && mover = .mark && seen.isNone
  | _ => false

def JobCall.over : JobCall → Bool
  | .done _ => true
  | _ => false

def MoveFor.reported : MoveFor → JobCall
  | .stop readAt => .done (.stopped readAt)
  | .mark | .claim => .done .other

section

structure JobWorld where
  record : JobBucket → Option JobRecord
  /-- The call that holds the writer lock over several steps. -/
  locked : Option Nat := none
  calls : Nat → JobCall
  clock : Nat

inductive ClaimPlan where
  | putBack | resolveBranch | stop | take
  deriving DecidableEq

/-- What a requeue decides on a job that ended; a recovered publication may complete it, or is
written where it stands. -/
inductive RequeuePlan where
  | again | stop | complete | inPlace
  deriving DecidableEq

/-- What a call meets in a step: whether a call of another job has the writer lock, and what
the rest of the record decides. -/
structure StepAnswer where
  refused : Bool := false
  gives : Bool := false
  plan : ClaimPlan := .take
  requeue : RequeuePlan := .again
  sameBytes : Bool := false

variable (world : JobWorld) (call : Nat)

def JobWorld.admits (answer : StepAnswer) : Bool :=
  !answer.refused && (world.locked = none || world.locked = some call)

def JobWorld.put (path : JobBucket) (status : JobStatus) : JobWorld :=
  { world with record := Function.update world.record path (some ⟨status, world.clock⟩) }

def JobWorld.remove (path : JobBucket) : JobWorld :=
  { world with record := Function.update world.record path none }

def JobWorld.rename (path target : JobBucket) : JobWorld :=
  { world with
    record := Function.update (Function.update world.record path none) target
      (world.record path) }

def JobWorld.goesOn (next : JobCall) : JobWorld :=
  { world with
    calls := Function.update world.calls call next
    locked := if next.over && world.locked = some call then none else world.locked
    clock := world.clock + 1 }

/-- A failed terminal move throws, which a claim answers with its rename back. -/
def MoveFor.threw (seen : Option JobRecord) : MoveFor → JobCall
  | .claim => match seen with
    | some seen => .restoring seen
    | none => .done .other
  | .mark | .stop _ => .done .other

def JobWorld.claimStep (seen : JobRecord) (renamedAt : Nat) (answer : StepAnswer) : JobWorld :=
  match answer.plan with
  -- The closer has the job, or its branch stays unresolved.
  | .putBack =>
    if (world.record .inProgress).isNone then world.goesOn call (.done .other)
    else (world.rename .inProgress .pending).goesOn call (.done .other)
  | .resolveBranch =>
    if world.admits call answer then
      (world.put .inProgress seen.status).goesOn call
        (.claimRenamed ⟨seen.status, world.clock⟩ renamedAt)
    else world.goesOn call (.done .other)
  | .stop => world.goesOn call (.move .inProgress .stopped .claim (some seen))
  | .take =>
    if world.admits call answer then
      (world.put .inProgress .inProgress).goesOn call (.done (.claimed renamedAt))
    else world.goesOn call (.done .other)

def JobWorld.moveStep (path target : JobBucket) (mover : MoveFor) (last : Option JobRecord)
    (answer : StepAnswer) : JobWorld :=
  match world.record path with
  | none =>
    if (world.record target).isSome then world.goesOn call mover.reported
    else world.goesOn call (mover.threw last)
  | some seen =>
    if path = target then world.goesOn call mover.reported
    else if (world.record target).isSome then world.goesOn call (.dropping path target mover seen)
    else if answer.gives then world.goesOn call (mover.threw last)
    else world.goesOn call (.creating path target mover seen)

/-- The next look of a call at the files, and what it does there. -/
def JobWorld.advance (answer : StepAnswer) : JobWorld :=
  match world.calls call with
  | .claim =>
    match world.record .pending with
    | none => world.goesOn call (.done .other)
    | some seen => world.goesOn call (if answer.gives then .done .other else .claimRead seen)
  | .claimRead seen =>
    if (world.record .pending).isNone then world.goesOn call (.done .other)
    else
      (world.rename .pending .inProgress).goesOn call (.claimRenamed seen world.clock)
  | .claimRenamed seen renamedAt => world.claimStep call seen renamedAt answer
  | .restoring seen =>
    if (world.record .inProgress).isNone || (world.record .pending).isSome then
      world.goesOn call (.done .other)
    else world.goesOn call (.renamingBack seen)
  | .renamingBack _ =>
    if (world.record .inProgress).isNone then world.goesOn call (.done .other)
    else (world.rename .inProgress .pending).goesOn call (.done .other)
  | .stop path =>
    match world.record path with
    | none => world.goesOn call (.done .other)
    | some seen =>
      if seen.status = .stopped then world.goesOn call (.done (.stopped world.clock))
      else world.goesOn call (.move path .stopped (.stop world.clock) (some seen))
  | .move path target mover seen => world.moveStep call path target mover seen answer
  | .creating path target mover seen =>
    if (world.record target).isSome then world.goesOn call (.dropping path target mover seen)
    else (world.put target target.status).goesOn call (.removing path mover)
  | .dropping path target mover _ =>
    -- It reads the record that it leaves to stand, and throws where that is gone.
    (world.remove path).goesOn call
      (if (world.record target).isSome then mover.reported else .done .other)
  | .removing path mover => (world.remove path).goesOn call mover.reported
  | .retry path =>
    match world.record path with
    | none => world.goesOn call (.done .other)
    | some seen =>
      if seen.status = .inProgress && !answer.gives then
        world.goesOn call (.retryRead path seen)
      else world.goesOn call (.done .other)
  | .retryRead path _ =>
    if world.admits call answer then
      (world.put path .pending).goesOn call (.requeueWritten path ⟨.pending, world.clock⟩)
    else world.goesOn call (.done .other)
  | .requeue path =>
    if world.admits call answer then
      { world with locked := some call }.goesOn call (.requeueLocked path)
    else world.goesOn call (.done .other)
  | .requeueLocked path =>
    match world.record path with
    | none => world.goesOn call (.done .other)
    | some seen =>
      if answer.gives || seen.status = .pending || seen.status = .inProgress then
        world.goesOn call (.done .other)
      else if answer.requeue = .stop then
        world.goesOn call (.move path .stopped .mark (some seen))
      else if answer.requeue = .complete && seen.status = .stopped then
        world.goesOn call (.move path .completed .mark (some seen))
      else world.goesOn call (.requeueRead path seen)
  | .requeueRead path seen =>
    if answer.requeue = .inPlace && seen.status = .stopped then
      (world.put path .stopped).goesOn call (.done .other)
    else (world.put path .pending).goesOn call (.requeueWritten path ⟨.pending, world.clock⟩)
  | .requeueWritten path _ =>
    if (world.record path).isNone then world.goesOn call (.done .other)
    else (world.rename path .pending).goesOn call (.done .other)
  | .archive month =>
    if world.admits call answer then
      { world with locked := some call }.goesOn call (.archiveLocked month)
    else world.goesOn call (.done .other)
  | .archiveLocked month =>
    match world.record .stopped with
    | none => world.goesOn call (.done .other)
    | some seen =>
      world.goesOn call (if answer.gives then .done .other else .archiveRead month seen)
  | .archiveRead month seen =>
    if (world.record (.stoppedArchived month)).isSome then
      world.goesOn call (if answer.sameBytes then .archiveDropping else .done .other)
    else world.goesOn call (.archiving month seen)
  | .archiving month _ =>
    if (world.record .stopped).isNone then world.goesOn call (.done .other)
    else (world.rename .stopped (.stoppedArchived month)).goesOn call (.done .other)
  | .archiveDropping => (world.remove .stopped).goesOn call (.done .other)
  | .done _ => world

end

end AdversarialReview.FollowUp
