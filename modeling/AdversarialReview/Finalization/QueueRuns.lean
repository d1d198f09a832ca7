import AdversarialReview.Finalization.QueueRouting

/-! Queue calls interleaved over the tables, the locks and the callbacks, and their transactions. -/

namespace AdversarialReview

/-- A legacy writer or a mutation adapter that has been called and has not answered. -/
structure Callout where
  caller : Nat
  lane : LaneKey

/-- The tables, the locks, and what an observer has seen of the callbacks. -/
structure QueueWorld where
  db : QueueDb := {}
  locks : LaneKey → Option Nat := fun _ => none
  /-- The operations whose adapter was called, oldest first. -/
  invocations : List String := []
  issuing : List Callout := []
  writing : List Callout := []

/-- What everything outside the model answers one effect. -/
structure QueueAnswers where
  host : Host
  cycle : Except String Unit := .ok ()
  /-- Why the lock could not be tried at all. -/
  lockFault : Option String := none
  /-- Whether a waiting caller gets a free lock before its deadline. -/
  waits : Bool := true
  evidence : Option Json := none
  invoked : Except String Json := .error "unanswered"
  legacy : Except String (Option Json) := .error "unanswered"

def QueueWorld.tryLock (world : QueueWorld) (caller : Nat) (lane : LaneKey) :
    Bool × QueueWorld :=
  match world.locks lane with
  | some _ => (false, world)
  | none => (true, { world with locks := Function.update world.locks lane (some caller) })

def QueueWorld.unlock (world : QueueWorld) (caller : Nat) (selected : LaneKey → Bool) :
    QueueWorld :=
  { world with locks := fun lane =>
      if selected lane ∧ world.locks lane = some caller then none else world.locks lane }

def ofOthers (caller : Nat) (callouts : List Callout) : List Callout :=
  callouts.filter fun callout => callout.caller ≠ caller

def performQueue (answers : QueueAnswers) (caller : Nat) :
    {β : Type} → QueueEffect β → QueueWorld → β × QueueWorld
  | _, .tx body, world =>
    match body answers.host world.db with
    | .ok (value, db) => (.ok value, { world with db })
    | .error message => (.error message, world)
  | _, .now, world => (answers.host.clock 0, world)
  | _, .loadAware, world => (answers.host.loadAwareTimeoutMs, world)
  | _, .enterCycle, world => (answers.cycle, world)
  | _, .tryLock lane, world =>
    match answers.lockFault with
    | some fault => (.error fault, world)
    | none => (.ok (world.tryLock caller lane).1, (world.tryLock caller lane).2)
  | _, .waitForLock lane _, world =>
    match answers.lockFault, answers.waits with
    | some fault, _ => (.error fault, world)
    | none, true => (.ok (world.tryLock caller lane).1, (world.tryLock caller lane).2)
    | none, false => (.ok false, world)
  | _, .unlock lane, world => ((), world.unlock caller (· = lane))
  | _, .recover _ _ _, world => (answers.evidence, world)
  | _, .drain _ _ _ _ _, world => (answers.evidence, world)
  | _, .deliverReturn _ _, world => (answers.evidence, world)
  | _, .invoke lane intent, world =>
    ((), { world with
      invocations := world.invocations ++ [intent.operationId]
      issuing := { caller, lane } :: world.issuing })
  | _, .invoked, world =>
    (answers.invoked, { world with issuing := ofOthers caller world.issuing })
  | _, .callLegacy lane, world =>
    ((), { world with writing := { caller, lane } :: world.writing })
  | _, .legacyEnded, world =>
    (answers.legacy, { world with writing := ofOthers caller world.writing })

inductive LaneCall where
  | claim (args : QueueOwner.ClaimArgs)
  | renew (fence : QueueFence) (expiresAt : String)
  | release (fence : QueueFence)
  | issue (args : QueueOwner.IssueArgs)
  | progress (args : ProgressArgs)
  | run (args : LaneRouting.RunArgs)
  | transfer (args : LaneRouting.TransferArgs)

/-- Any call on the queue; an admission may also come on its own. -/
inductive QueueCall where
  | acknowledge (args : AcknowledgeArgs)
  | lane (call : LaneCall)

section

variable [JsDate] [HandoffDigest]

def LaneCall.program : LaneCall → Prog QueueEffect Unit
  | claim args => (QueueOwner.claim args).bind fun _ => .pure ()
  | renew fence expiresAt => (QueueOwner.renew fence expiresAt).bind fun _ => .pure ()
  | release fence => (QueueOwner.release fence).bind fun _ => .pure ()
  | issue args => (QueueOwner.issue args).bind fun _ => .pure ()
  | progress args => (transact (AdversarialReview.progress args)).bind fun _ => .pure ()
  | run args => (LaneRouting.run args).bind fun _ => .pure ()
  | transfer args => (LaneRouting.transfer args).bind fun _ => .pure ()

def QueueCall.program : QueueCall → Prog QueueEffect Unit
  | acknowledge args => (transact (AdversarialReview.acknowledge args)).bind fun _ => .pure ()
  | lane call => call.program

def queueSystem : Interleaved Nat QueueAnswers MergeReceiptRow QueueWorld QueueEffect where
  perform := performQueue
  external := fun receipt world =>
    { world with db := { world.db with receipts := world.db.receipts ++ [receipt] } }
  -- A dead process loses its locks and takes its callbacks with it.
  crash := fun caller world =>
    { world.unlock caller (fun _ => true) with
      issuing := ofOthers caller world.issuing, writing := ofOthers caller world.writing }

def startCalls (calls : Nat → QueueCall) : Interleaved.Config Nat QueueWorld QueueEffect where
  shared := {}
  threads := fun caller => (calls caller).program

def runCalls (calls : Nat → QueueCall)
    (moves : List (Interleaved.Move Nat QueueAnswers MergeReceiptRow)) :
    Interleaved.Config Nat QueueWorld QueueEffect :=
  queueSystem.runMoves (startCalls calls) moves

end

theorem runCalls_snoc [JsDate] [HandoffDigest] (calls : Nat → QueueCall)
    (moves : List (Interleaved.Move Nat QueueAnswers MergeReceiptRow))
    (next : Interleaved.Move Nat QueueAnswers MergeReceiptRow) :
    runCalls calls (moves ++ [next]) = queueSystem.move (runCalls calls moves) next :=
  Interleaved.runMoves_append _ _ _ _

variable {α β : Type} {good : {α : Type} → Tx α → Prop}

def OnTx (good : {α : Type} → Tx α → Prop) : {β : Type} → QueueEffect β → Prop
  | _, .tx body => good body
  | _, _ => True

abbrev Transacts (good : {α : Type} → Tx α → Prop) (prog : Prog QueueEffect α) : Prop :=
  prog.Uses (OnTx good)

theorem performQueue_onTx {effect : QueueEffect β} (meets : OnTx good effect)
    {answers : QueueAnswers} {caller : Nat} {world : QueueWorld}
    {relates : QueueDb → QueueDb → Prop} (idle : relates world.db world.db)
    (effective : ∀ {α : Type} (body : Tx α), good body →
      body.Commits answers.host world.db fun _ later => relates world.db later) :
    relates world.db (performQueue answers caller effect world).2.db := by
  cases effect with
  | tx body =>
    simp only [performQueue]
    cases done : body answers.host world.db with
    | error message => exact idle
    | ok pair => exact effective body meets pair.1 pair.2 done
  | tryLock lane =>
    simp only [performQueue]
    split
    · exact idle
    · unfold QueueWorld.tryLock
      split <;> exact idle
  | waitForLock lane deadline =>
    simp only [performQueue]
    split
    · exact idle
    · unfold QueueWorld.tryLock
      split <;> exact idle
    · exact idle
  | _ => exact idle

theorem transacts_transact {body : Tx α} (fine : good body) : Transacts good (transact body) :=
  ⟨fine, fun answer => Prog.uses_raise answer⟩

theorem transacts_perform {effect : QueueEffect α} (quiet : OnTx good effect) :
    Transacts good (Prog.perform effect) :=
  ⟨quiet, fun _ => trivial⟩

theorem transacts_attempt {effect : QueueEffect (Except String α)} (quiet : OnTx good effect) :
    Transacts good ((Prog.perform effect).bind Prog.raise) :=
  ⟨quiet, fun answer => Prog.uses_raise answer⟩

namespace QueueOwner

theorem transacts_locked {lane : LaneKey} {action : LaneKey → Prog QueueEffect QueueReply}
    (inside : ∀ lane, Transacts good (action lane)) : Transacts good (locked lane action) := by
  unfold locked lockedWithinRepositoryCycle
  refine (transacts_attempt (by trivial)).bind fun _ => ?_
  refine (Prog.uses_raise _).bind fun lane => ?_
  refine (transacts_attempt (by trivial)).bind fun acquired => ?_
  split
  · exact (inside lane).finally_ (transacts_perform (by trivial))
  · trivial

variable [JsDate]

theorem transacts_timeNow : Transacts good timeNow :=
  ⟨trivial, fun _ => Prog.uses_raise _⟩

theorem transacts_finishClaim {args : ClaimArgs} {lane : LaneKey} {prior : LaneRow}
    {pending : List OperationRow} {evidence : Json} {claimedAt expiresAt : String}
    (taken : good (takeOver args lane prior pending evidence claimedAt expiresAt)) :
    Transacts good (finishClaim args lane prior pending evidence claimedAt expiresAt) := by
  unfold finishClaim
  split
  · trivial
  · exact transacts_transact taken

theorem transacts_claim {args : ClaimArgs} (reads : ∀ {α : Type} (reader : QueueDb → α),
      good (Transaction.read reader))
    (ensured : ∀ lane, good (Transaction.modify fun db => db.ensureLane lane))
    (parked : ∀ lane parkedAt reason, good (park lane parkedAt reason))
    (taken : ∀ lane prior pending evidence claimedAt expiresAt,
      good (takeOver args lane prior pending evidence claimedAt expiresAt)) :
    Transacts good (claim args) := by
  unfold claim
  refine (Prog.uses_raise _).bind fun _ => ?_
  refine (Prog.uses_raise _).bind fun expiresAt => ?_
  split
  · trivial
  · refine transacts_locked fun lane => transacts_timeNow.bind fun claimedAt => ?_
    split
    · trivial
    · refine (transacts_transact (ensured lane)).bind fun _ => ?_
      refine (transacts_transact (reads _)).bind fun route => ?_
      split
      · trivial
      · refine (transacts_transact (reads _)).bind fun found => ?_
        split
        · trivial
        · next prior =>
          unfold claimFrom
          split
          · trivial
          · split
            · trivial
            · refine (transacts_transact (reads _)).bind fun pending => ?_
              split
              · -- The last owner left something behind.
                unfold claimAfterRecovery
                refine (transacts_perform (by trivial)).bind fun evidence => ?_
                refine transacts_timeNow.bind fun later => ?_
                split
                · exact transacts_transact (parked _ _ _)
                · split
                  · exact transacts_transact (parked _ _ _)
                  · exact transacts_finishClaim (taken _ _ _ _ _ _)
              · split
                · trivial
                · exact transacts_finishClaim (taken _ _ _ _ _ _)

theorem transacts_renew {fence : QueueFence} {expiresAt : String}
    (renewed : ∀ lane expiresAt, good (renewTx fence lane expiresAt)) :
    Transacts good (renew fence expiresAt) :=
  (Prog.uses_raise _).bind fun _ => transacts_locked fun _ => transacts_transact (renewed _ _)

theorem transacts_release {fence : QueueFence} (released : ∀ lane, good (releaseTx fence lane)) :
    Transacts good (release fence) :=
  transacts_locked fun _ => transacts_transact (released _)

theorem transacts_issue {args : IssueArgs}
    (prepared : ∀ lane issuedAt, good (prepare args lane issuedAt))
    (settled : ∀ lane operationId result,
      good (settleIssued args.fence lane operationId result)) :
    Transacts good (issue args) := by
  unfold issue
  refine (Prog.uses_raise _).bind fun _ => transacts_locked fun lane => ?_
  refine transacts_timeNow.bind fun issuedAt => ?_
  refine (transacts_transact (prepared _ _)).bind fun ⟨operation, fresh⟩ => ?_
  simp only
  split
  · trivial
  · split
    · trivial
    · refine (transacts_perform (by trivial)).bind fun _ => ?_
      refine (transacts_attempt (by trivial)).bind fun result => ?_
      exact (transacts_transact (settled _ _ _)).bind fun _ => trivial

end QueueOwner

namespace LaneRouting

variable {lane : LaneKey}

theorem transacts_locked {deadline : Option String} {action : LaneKey → Prog QueueEffect QueueReply}
    (inside : ∀ lane, Transacts good (action lane)) :
    Transacts good (locked lane deadline action) := by
  unfold locked acquireLock
  refine (Prog.uses_raise _).bind fun lane => ?_
  refine Prog.Uses.bind ?_ fun acquired => ?_
  · refine (transacts_attempt (by trivial)).bind fun acquired => ?_
    split
    · exact transacts_attempt (by trivial)
    · trivial
  · split
    · exact (inside lane).finally_ (transacts_perform (by trivial))
    · trivial

theorem transacts_read
    (reads : ∀ {α : Type} (reader : QueueDb → α), good (Transaction.read reader)) :
    Transacts good (read lane) :=
  (transacts_transact (reads _)).bind fun _ => (transacts_transact (reads _)).bind fun _ =>
    (transacts_transact (reads _)).bind fun _ => trivial

theorem transacts_allReconciled [HandoffDigest] (reads : ∀ {α : Type} (reader : QueueDb → α),
      good (Transaction.read reader)) {evidence : Json} (pending : List OperationRow) :
    Transacts good (allReconciled evidence pending) := by
  induction pending with
  | nil => trivial
  | cons op rest ih =>
    unfold allReconciled
    split
    · exact ih
    · refine (transacts_transact (reads _)).bind fun entry => ?_
      refine (transacts_transact (reads _)).bind fun receipt => ?_
      split
      · exact ih
      · trivial

variable [JsDate]

theorem transacts_admitAll
    (admitted : ∀ args : AcknowledgeArgs, good (acknowledge { args with lane }))
    (admissions : List AcknowledgeArgs) : Transacts good (admitAll lane admissions) := by
  induction admissions with
  | nil => trivial
  | cons args rest ih => exact (transacts_transact (admitted args)).bind fun _ => ih

theorem transacts_run {args : RunArgs} (reads : ∀ {α : Type} (reader : QueueDb → α),
      good (Transaction.read reader))
    (initialized : ∀ lane, good (initialize_ args.desired lane))
    (refreshed : ∀ lane configGeneration runtime,
      good (refreshRoute lane configGeneration runtime))
    (admitted : ∀ args : AcknowledgeArgs, good (acknowledge args))
    (started : ∀ lane routeGeneration kind, good (startWriter lane routeGeneration kind))
    (ended : ∀ writerId result, good (Transaction.modify fun db => db.settleWriter writerId result)) :
    Transacts good (run args) := by
  unfold run
  split
  · trivial
  · refine transacts_locked fun lane => ?_
    refine (transacts_transact (initialized lane)).bind fun _ => ?_
    refine (transacts_read reads).bind fun state => ?_
    split
    · trivial
    · split
      · trivial
      · refine (transacts_transact (reads _)).bind fun pending => ?_
        split
        · trivial
        · refine (transacts_transact (refreshed _ _ _)).bind fun _ => ?_
          split
          · exact transacts_admitAll (fun _ => admitted _) _
          · -- The legacy writer runs between two statements.
            unfold runLegacy
            refine (transacts_transact (started _ _ _)).bind fun writerId => ?_
            refine (transacts_perform (by trivial)).bind fun _ => ?_
            refine (transacts_attempt (by trivial)).bind fun result => ?_
            split
            · trivial
            · exact (transacts_transact (ended _ _)).bind fun _ => trivial
          · trivial

variable {deadline : String}

theorem transacts_readQueueEvidence
    {request : Int → QueueEffect (Option Json)} (quiet : ∀ timeoutMs, OnTx good (request timeoutMs)) :
    Transacts good (readQueueEvidence deadline request) := by
  unfold readQueueEvidence
  refine (transacts_perform (by trivial)).bind fun _ => (transacts_perform (by trivial)).bind fun _ => ?_
  split
  · trivial
  · split
    · trivial
    · exact transacts_perform (quiet _)

theorem transacts_wait : Transacts good (wait deadline) :=
  (transacts_perform (by trivial)).bind fun _ => QueueOwner.transacts_timeNow.bind fun _ =>
    Prog.uses_raise _

theorem transacts_returnEntries
    (returned : ∀ row receipt, good (returnEntry lane row receipt)) (rows : List ReturnRow) :
    Transacts good (returnEntries lane deadline rows) := by
  induction rows with
  | nil => trivial
  | cons row rest ih =>
    unfold returnEntries
    refine (transacts_readQueueEvidence fun _ => by trivial).bind fun receipt => ?_
    split
    · trivial
    · split
      · trivial
      · refine transacts_wait.bind fun left => ?_
        split
        · trivial
        · exact (transacts_transact (returned _ _)).bind fun _ => ih

theorem transacts_transfer [HandoffDigest] {args : TransferArgs} (reads : ∀ {α : Type} (reader : QueueDb → α),
      good (Transaction.read reader))
    (initialized : ∀ lane, good (initialize_ args.desired lane))
    (begun : ∀ lane source, good (beginTransfer args lane source))
    (settled : ∀ lane writers pending evidence,
      good (settleTransfer args lane writers pending evidence))
    (returned : ∀ lane row receipt, good (returnEntry lane row receipt))
    (completed : ∀ lane, good (completeTransfer args lane)) :
    Transacts good (transfer args) := by
  -- Both ways into the drain end alike.
  have drains : ∀ lane, Transacts good (drainTransfer args lane) := by
    intro lane
    unfold drainTransfer
    refine (transacts_read reads).bind fun state => ?_
    split
    · trivial
    · refine QueueOwner.transacts_timeNow.bind fun _ => (Prog.uses_raise _).bind fun deadline => ?_
      refine (transacts_transact (reads _)).bind fun pending => ?_
      refine (transacts_readQueueEvidence fun _ => by trivial).bind fun evidence => ?_
      split
      · trivial
      · split
        · trivial
        · refine transacts_wait.bind fun left => ?_
          split
          · trivial
          · refine (transacts_allReconciled reads _).bind fun materialized => ?_
            split
            · trivial
            · refine (transacts_transact (settled _ _ _ _)).bind fun _ => ?_
              unfold finishTransfer
              refine (transacts_read reads).bind fun state => ?_
              refine (transacts_returnEntries (returned _) _).bind fun done => ?_
              split
              · trivial
              · refine (transacts_transact (completed _)).bind fun _ => ?_
                exact (transacts_read reads).bind fun _ => trivial
  unfold transfer
  refine transacts_locked fun lane => ?_
  refine (transacts_transact (initialized lane)).bind fun _ => ?_
  refine (transacts_read reads).bind fun state => ?_
  split
  · trivial
  · split
    · trivial
    · split
      · split
        · trivial
        · split
          · trivial
          · exact (transacts_transact (begun _ _)).bind fun _ => drains _
      · split
        · trivial
        · exact drains _

end LaneRouting

end AdversarialReview
