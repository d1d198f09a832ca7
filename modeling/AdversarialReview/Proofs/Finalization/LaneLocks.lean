import AdversarialReview.Library.Protocol
import AdversarialReview.Finalization.QueueRuns

/-! Callbacks on a lane exclude each other: each of them runs under the lane's lock. -/

namespace AdversarialReview

/-- How far a caller is in the protocol of the lane locks. -/
inductive LockStage where
  | outside
  | inside (lane : LaneKey)
  | issuing (lane : LaneKey)
  | writing (lane : LaneKey)

namespace LockStage

def lane? : LockStage → Option LaneKey
  | outside => none
  | inside lane | issuing lane | writing lane => some lane

def took (stage : LockStage) (lane : LaneKey) : Except String Bool → LockStage
  | .ok true => inside lane
  | _ => stage

def answered : LockStage → LockStage
  | issuing lane | writing lane => inside lane
  | stage => stage

def next : {β : Type} → QueueEffect β → β → LockStage → LockStage
  | _, .tryLock lane, answer, stage => stage.took lane answer
  | _, .waitForLock lane _, answer, stage => stage.took lane answer
  | _, .unlock _, _, _ => outside
  | _, .invoke lane _, _, _ => issuing lane
  | _, .callLegacy lane, _, _ => writing lane
  | _, .invoked, _, stage => stage.answered
  | _, .legacyEnded, _, stage => stage.answered
  | _, _, _, stage => stage

/-- A callback starts under its lane's lock, which is given back after it answered. -/
def Allows : {β : Type} → QueueEffect β → LockStage → Prop
  | _, .tryLock _, stage | _, .waitForLock _ _, stage => stage = outside
  | _, .unlock lane, stage | _, .invoke lane _, stage | _, .callLegacy lane, stage =>
    stage = inside lane
  | _, .invoked, stage => ∃ lane, stage = issuing lane
  | _, .legacyEnded, stage => ∃ lane, stage = writing lane
  | _, _, _ => True

end LockStage

open LockStage

variable {α β : Type} {stage : LockStage} {lane : LaneKey}

/-- A program that keeps to the protocol and ends where it began. -/
abbrev Orderly (prog : Prog QueueEffect α) (stage : LockStage) : Prop :=
  prog.Guarded Allows next (fun _ after => after = stage) stage

theorem Orderly.bind {prog : Prog QueueEffect β} {rest : β → Prog QueueEffect α}
    (first : Orderly prog stage) (then_ : ∀ value, Orderly (rest value) stage) :
    Orderly (prog.bind rest) stage :=
  Prog.Guarded.bind first (fun _ _ same => same) fun value _ same => same ▸ then_ value

theorem orderly_raise (result : Except String α) :
    Orderly (Prog.raise result : Prog QueueEffect α) stage := by
  cases result <;> rfl

theorem orderly_transact {body : Tx α} : Orderly (transact body) stage :=
  ⟨trivial, fun answer => orderly_raise answer⟩

theorem Orderly.unlocks {prog : Prog QueueEffect α}
    (orderly : prog.Guarded Allows next (fun _ after => after = .inside lane) stage) :
    (prog.finally_ (.perform (.unlock lane))).Guarded Allows next
      (fun _ after => after = .outside) stage := by
  induction prog generalizing stage with
  | pure value => exact ⟨orderly, fun _ => rfl⟩
  | fail message => exact ⟨orderly, fun _ => rfl⟩
  | step effect rest ih => exact ⟨orderly.1, fun answer => ih answer (orderly.2 answer)⟩

theorem QueueOwner.orderly_locked {action : LaneKey → Prog QueueEffect QueueReply}
    (inside : ∀ lane, Orderly (action lane) (.inside lane)) :
    Orderly (locked lane action) .outside := by
  unfold locked lockedWithinRepositoryCycle
  refine Orderly.bind ⟨trivial, orderly_raise⟩ fun _ => (orderly_raise _).bind fun lane => ?_
  refine ⟨rfl, fun answer => ?_⟩
  match answer with
  | .ok true => exact Orderly.unlocks (inside lane)
  | .ok false | .error _ => exact rfl

theorem LaneRouting.orderly_locked {deadline : Option String}
    {action : LaneKey → Prog QueueEffect QueueReply}
    (inside : ∀ lane, Orderly (action lane) (.inside lane)) :
    Orderly (locked lane deadline action) .outside := by
  unfold locked acquireLock
  refine (orderly_raise _).bind fun lane => ⟨rfl, fun answer => ?_⟩
  match answer, deadline with
  | .ok true, _ => exact Orderly.unlocks (inside lane)
  | .error _, _ | .ok false, none => exact rfl
  | .ok false, some deadline =>
    refine ⟨rfl, fun again => ?_⟩
    match again with
    | .ok true => exact Orderly.unlocks (inside lane)
    | .ok false | .error _ => exact rfl

theorem orderly_read : Orderly (LaneRouting.read lane) stage :=
  orderly_transact.bind fun _ => orderly_transact.bind fun _ => orderly_transact.bind fun _ => rfl

theorem orderly_allReconciled [HandoffDigest] {evidence : Json} (pending : List OperationRow) :
    Orderly (LaneRouting.allReconciled evidence pending) stage := by
  induction pending with
  | nil => rfl
  | cons op rest ih =>
    unfold LaneRouting.allReconciled
    split
    · exact ih
    · refine orderly_transact.bind fun _ => orderly_transact.bind fun _ => ?_
      split
      · exact ih
      · rfl

/-- The lock that a caller is inside of is its own, and its stage tells of its callbacks. -/
structure LockStage.Fits (world : QueueWorld) (caller : Nat) (stage : LockStage) : Prop where
  locked : ∀ lane, stage.lane? = some lane → world.locks lane = some caller
  issuing : ∀ callout ∈ world.issuing, callout.caller = caller → stage = .issuing callout.lane
  writing : ∀ callout ∈ world.writing, callout.caller = caller → stage = .writing callout.lane

def lockProtocol : Interleaved.Protocol queueSystem LockStage where
  allowed := Allows
  next := LockStage.next
  fits := Fits
  own := by
    rintro β effect answers caller world stage allowed ⟨locked, issuing, writing⟩
    cases effect with
    | tx body =>
      simp only [queueSystem, performQueue]
      split <;> exact ⟨locked, issuing, writing⟩
    | tryLock lane | waitForLock lane deadline =>
      -- A lock that is taken was free, and its taker had none.
      obtain rfl : stage = .outside := allowed
      cases free : world.locks lane <;>
        simp only [queueSystem, performQueue, QueueWorld.tryLock, LockStage.next, free] <;>
        split <;> constructor <;> grind [took, lane?]
    | unlock lane | invoke lane intent | callLegacy lane | invoked | legacyEnded =>
      simp only [queueSystem, performQueue, QueueWorld.unlock, ofOthers, LockStage.next]
      constructor <;> grind [Allows, answered, lane?]
    | _ => exact ⟨locked, issuing, writing⟩
  others := by
    rintro β effect answers caller other world stage apart ⟨locked, issuing, writing⟩
    cases effect with
    | tx body =>
      simp only [queueSystem, performQueue]
      split <;> exact ⟨locked, issuing, writing⟩
    | tryLock lane | waitForLock lane deadline =>
      cases free : world.locks lane <;>
        simp only [queueSystem, performQueue, QueueWorld.tryLock, free] <;>
        split <;> constructor <;> grind
    | unlock lane | invoke lane intent | callLegacy lane | invoked | legacyEnded =>
      simp only [queueSystem, performQueue, QueueWorld.unlock, ofOthers]
      constructor <;> grind
    | _ => exact ⟨locked, issuing, writing⟩
  external := fun fits => ⟨fits.locked, fits.issuing, fits.writing⟩
  dead := fun caller world => ⟨.outside, by constructor <;> grind [queueSystem, ofOthers, lane?]⟩
  bereft := by
    rintro caller other world stage apart ⟨locked, issuing, writing⟩
    simp only [queueSystem, QueueWorld.unlock, ofOthers]
    constructor <;> grind

variable [JsDate]

theorem orderly_timeNow : Orderly QueueOwner.timeNow stage :=
  ⟨trivial, fun _ => orderly_raise _⟩

theorem orderly_claim (args : QueueOwner.ClaimArgs) : Orderly (QueueOwner.claim args) .outside := by
  unfold QueueOwner.claim QueueOwner.claimFrom QueueOwner.claimAfterRecovery QueueOwner.finishClaim
  refine (orderly_raise _).bind fun _ => (orderly_raise _).bind fun expiresAt => ?_
  split
  · rfl
  · refine QueueOwner.orderly_locked fun lane => orderly_timeNow.bind fun claimedAt => ?_
    -- What a claim does under the lock is to read, to write, and to ask for the recovery.
    repeat' first
      | rfl
      | exact orderly_transact
      | refine orderly_transact.bind fun _ => ?_
      | refine orderly_timeNow.bind fun _ => ?_
      | refine ⟨trivial, fun _ => ?_⟩
      | split

theorem orderly_issue (args : QueueOwner.IssueArgs) : Orderly (QueueOwner.issue args) .outside := by
  unfold QueueOwner.issue
  refine (orderly_raise _).bind fun _ => QueueOwner.orderly_locked fun lane => ?_
  refine orderly_timeNow.bind fun issuedAt => orderly_transact.bind fun ⟨operation, fresh⟩ => ?_
  dsimp only
  split
  · rfl
  · split
    · rfl
    · -- The adapter has answered before its result is settled.
      refine ⟨rfl, fun _ => ⟨⟨lane, rfl⟩, fun answer => ?_⟩⟩
      exact (orderly_raise answer).bind fun _ => orderly_transact.bind fun _ => rfl

theorem orderly_admitAll (admissions : List AcknowledgeArgs) :
    Orderly (LaneRouting.admitAll lane admissions) stage := by
  induction admissions with
  | nil => rfl
  | cons admission rest ih => exact orderly_transact.bind fun _ => ih

theorem orderly_run (args : LaneRouting.RunArgs) : Orderly (LaneRouting.run args) .outside := by
  unfold LaneRouting.run LaneRouting.runLegacy
  split
  · rfl
  · refine LaneRouting.orderly_locked fun lane => ?_
    refine orderly_transact.bind fun _ => orderly_read.bind fun state => ?_
    repeat' first
      | rfl
      | exact orderly_admitAll _
      | refine orderly_transact.bind fun _ => ?_
      | refine ⟨rfl, fun _ => ⟨⟨lane, rfl⟩, fun answer => (orderly_raise answer).bind fun _ => ?_⟩⟩
      | split

theorem orderly_readQueueEvidence {deadline : String} {request : Int → QueueEffect (Option Json)}
    (asks : ∀ timeoutMs, Orderly (Prog.perform (request timeoutMs)) stage) :
    Orderly (LaneRouting.readQueueEvidence deadline request) stage := by
  refine ⟨trivial, fun _ => ⟨trivial, fun now => ?_⟩⟩
  dsimp only [Prog.bind]
  split
  · rfl
  · split
    · rfl
    · exact asks _

theorem orderly_wait {deadline : String} : Orderly (LaneRouting.wait deadline) stage :=
  ⟨trivial, fun _ => orderly_timeNow.bind fun _ => orderly_raise _⟩

theorem orderly_returnEntries {deadline : String} (rows : List ReturnRow) :
    Orderly (LaneRouting.returnEntries lane deadline rows) stage := by
  induction rows with
  | nil => rfl
  | cons row rest ih =>
    unfold LaneRouting.returnEntries
    refine (orderly_readQueueEvidence fun _ => by exact ⟨trivial, fun _ => rfl⟩).bind
      fun receipt => ?_
    repeat' first
      | rfl
      | refine orderly_wait.bind fun _ => ?_
      | exact orderly_transact.bind fun _ => ih
      | split

variable [HandoffDigest]

theorem orderly_transfer (args : LaneRouting.TransferArgs) :
    Orderly (LaneRouting.transfer args) .outside := by
  have drains : ∀ lane, Orderly (LaneRouting.drainTransfer args lane) (.inside lane) := by
    intro lane
    unfold LaneRouting.drainTransfer LaneRouting.finishTransfer
    refine orderly_read.bind fun state => ?_
    split
    · rfl
    · refine orderly_timeNow.bind fun _ => (orderly_raise _).bind fun deadline => ?_
      refine orderly_transact.bind fun pending => ?_
      refine (orderly_readQueueEvidence fun _ => by exact ⟨trivial, fun _ => rfl⟩).bind
        fun evidence => ?_
      repeat' first
        | rfl
        | refine orderly_wait.bind fun _ => ?_
        | refine (orderly_allReconciled _).bind fun _ => ?_
        | refine orderly_read.bind fun _ => ?_
        | refine (orderly_returnEntries _).bind fun _ => ?_
        | refine orderly_transact.bind fun _ => ?_
        | split
  unfold LaneRouting.transfer
  refine LaneRouting.orderly_locked fun lane => orderly_transact.bind fun _ => ?_
  refine orderly_read.bind fun state => ?_
  repeat' first
    | rfl
    | exact drains lane
    | refine orderly_transact.bind fun _ => ?_
    | split

theorem QueueCall.orderly (call : QueueCall) : Orderly call.program .outside := by
  match call with
  | .acknowledge _ | .lane (.progress _) => exact orderly_transact.bind fun _ => rfl
  | .lane (.claim args) => exact (orderly_claim args).bind fun _ => rfl
  | .lane (.issue args) => exact (orderly_issue args).bind fun _ => rfl
  | .lane (.run args) => exact (orderly_run args).bind fun _ => rfl
  | .lane (.transfer args) => exact (orderly_transfer args).bind fun _ => rfl
  | .lane (.release _) =>
    exact (QueueOwner.orderly_locked fun _ => orderly_transact).bind fun _ => rfl
  | .lane (.renew _ _) =>
    refine Orderly.bind ((orderly_raise _).bind fun _ => ?_) fun _ => rfl
    exact QueueOwner.orderly_locked fun _ => orderly_transact

/-- A lane's mutation adapters and legacy writers never run beside each other: in every run of
claims, renewals, releases, issues, admissions, progress, legacy runs and transfers, with crashes
anywhere, whoever is being called back on a lane holds its lock, alone, and for one thing only. -/
theorem lane_callbacks_exclude (calls : Nat → QueueCall)
    (moves : List (Interleaved.Move Nat QueueAnswers MergeReceiptRow)) :
    let world := (runCalls calls moves).shared
    (∀ callout ∈ world.issuing ++ world.writing,
      world.locks callout.lane = some callout.caller) ∧
    ∀ issued ∈ world.issuing, ∀ writer ∈ world.writing, issued.lane ≠ writer.lane := by
  intro world
  have start : Interleaved.Follows lockProtocol (startCalls calls) := by
    intro caller
    refine ⟨.outside, ⟨?_, ?_, ?_⟩, (calls caller).orderly.mono fun _ _ _ => trivial⟩
    · rintro _ ⟨⟩
    · rintro _ ⟨⟩
    · rintro _ ⟨⟩
  have follows : ∀ caller, ∃ stage, Fits world caller stage := fun caller =>
    (start.runMoves moves caller).imp fun _ fits => fits.1
  have holds : ∀ callout ∈ world.issuing ++ world.writing,
      world.locks callout.lane = some callout.caller := by
    intro callout listed
    obtain ⟨stage, fits⟩ := follows callout.caller
    refine fits.locked callout.lane ?_
    rcases List.mem_append.mp listed with listed | listed
    · rw [fits.issuing callout listed rfl]
      rfl
    · rw [fits.writing callout listed rfl]
      rfl
  refine ⟨holds, fun issued listed writer listedToo same => ?_⟩
  -- Both would be callbacks of the one holder of the lock.
  have first := holds issued (List.mem_append_left _ listed)
  have second := holds writer (List.mem_append_right _ listedToo)
  rw [same, second, Option.some.injEq] at first
  obtain ⟨stage, fits⟩ := follows issued.caller
  cases (fits.issuing issued listed rfl).symm.trans (fits.writing writer listedToo first)

end AdversarialReview
