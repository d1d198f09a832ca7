import AdversarialReview.FollowUp.JobBuckets

/-! The one record of a job, and what a step of a call shows to keep it. -/

namespace AdversarialReview.FollowUp

def JobBucket.terminal : JobBucket → Bool
  | .pending | .inProgress => false
  | _ => true

/-- The folder that a terminal move still has to clear. -/
def JobCall.leaves (path : JobBucket) : JobCall → Prop
  | .removing source _ => source = path
  | _ => False

/-- The folders that the next step of a call depends on. -/
def JobCall.touches (world : JobWorld) : JobCall → List JobBucket
  | .claimRead _ | .claimRenamed _ _ | .restoring _ | .renamingBack _ => [.pending, .inProgress]
  | .stop path | .retryRead path _ | .requeueRead path _ => [path]
  | .move path target _ _ => if path = target then [path] else [target]
  | .creating path target _ _ => if (world.record target).isSome then [target] else [path, target]
  | .requeueWritten path _ => [path, .pending]
  | .archiveRead month _ | .archiving month _ => [.stopped, .stoppedArchived month]
  | _ => []

def JobCall.saw : JobCall → Option (JobBucket × JobRecord)
  | .claimRead seen => some (.pending, seen)
  | .claimRenamed seen _ | .restoring seen | .renamingBack seen => some (.inProgress, seen)
  | .move path _ _ (some seen) | .creating path _ _ seen | .dropping path _ _ seen =>
    some (path, seen)
  | .retryRead path seen | .requeueRead path seen | .requeueWritten path seen => some (path, seen)
  | .archiveRead _ seen | .archiving _ seen => some (.stopped, seen)
  | _ => none

def JobCall.mayMiss : JobCall → Bool
  | .claimRead _ | .dropping _ _ _ _ => true
  | _ => false

def JobCall.stopsAt (path target : JobBucket) (readAt : Nat) : JobCall → Prop
  | .move source end' mover _ | .creating source end' mover _ =>
    source = path ∧ end' = target ∧ mover = .stop readAt
  | _ => False

def JobCall.stoppedSince (readAt : Nat) : JobCall → Prop
  | .removing _ (.stop moment) | .dropping _ _ (.stop moment) _ => moment = readAt
  | .done (.stopped moment) => moment = readAt
  | _ => False

structure CarefulStep (world : JobWorld) (call : Nat) (answer : StepAnswer) : Prop where
  /-- No other call has still to clear a folder that the step depends on. -/
  apart : ∀ other, other ≠ call → ∀ path ∈ (world.calls call).touches world,
    ¬ (world.calls other).leaves path
  /-- What the call last saw is there; a claim may also find its job gone. -/
  same : ∀ path seen, (world.calls call).saw = some (path, seen) →
    world.record path = some seen ∨ world.record path = none ∧ (world.calls call).mayMiss = true
  /-- A move that finds its record there already drops a source that another has to clear. -/
  spare : ∀ path target mover seen, world.calls call = .dropping path target mover seen →
    world.record path = none ∨ ∃ other, (world.calls other).leaves path
  /-- A stop call of a job that ended does not find its record there already. -/
  meets : ∀ path target readAt, (world.calls call).stopsAt path target readAt →
    path ≠ target → (world.record target).isSome = true → path.terminal = false
  /-- A claim is not refused the writes after its rename. -/
  admitted : ∀ seen renamedAt, world.calls call = .claimRenamed seen renamedAt →
    answer.plan = .take ∨ answer.plan = .resolveBranch → world.admits call answer = true
  /-- No requeue takes up a job again that a stop call has stopped. -/
  standing : ∀ path seen, world.calls call = .requeueWritten path seen →
    ∀ other readAt, ¬ (world.calls other).stoppedSince readAt

def CarefulRun (world : JobWorld) : List (Nat × StepAnswer) → Prop
  | [] => True
  | (call, answer) :: rest =>
    CarefulStep world call answer ∧ CarefulRun (world.advance call answer) rest

def JobWorld.run (world : JobWorld) (steps : List (Nat × StepAnswer)) : JobWorld :=
  steps.foldl (fun world step => world.advance step.1 step.2) world

def startWorld (bucket : JobBucket) (calls : Nat → JobCall) : JobWorld where
  record := Function.update (fun _ => none) bucket (some ⟨bucket.status, 0⟩)
  calls
  clock := 1

/-- Every call has returned or thrown, or was not begun. -/
def JobWorld.Quiet (world : JobWorld) : Prop :=
  ∀ call, (world.calls call).over = true ∨ (world.calls call).fresh = true

structure InOneBucket (world : JobWorld) : Prop where
  one : ∃ bucket record, world.record bucket = some record ∧ record.status = bucket.status ∧
    ∀ other, other ≠ bucket → world.record other = none
  apart : ∀ stop claim readAt renamedAt, world.calls stop = .done (.stopped readAt) →
    world.calls claim = .done (.claimed renamedAt) → renamedAt ≤ readAt

section

/-- A call that holds a record whose status is pending outside the pending folder. -/
def JobCall.unsettled : JobCall → Prop
  | .claimRenamed _ _ | .restoring _ | .renamingBack _ | .requeueWritten _ _ => True
  | .move _ _ mover _ | .creating _ _ mover _ | .dropping _ _ mover _ => mover = .claim
  | _ => False

def JobCall.settles (bucket : JobBucket) (record : JobRecord) (call : JobCall) : Prop :=
  call.unsettled ∧ call.saw = some (bucket, record)

def MoverFits (path : JobBucket) (seen : Option JobRecord) : MoveFor → Prop
  | .mark => True
  | .claim => path = .inProgress ∧ ∃ record, seen = some record ∧ record.status = .pending
  | .stop readAt => ∃ record, seen = some record ∧ record.writtenAt < readAt

/-- What a call knows of itself at each of its steps. -/
def JobFits (locked : Option Nat) (call : Nat) : JobCall → Prop
  | .claimRenamed seen _ | .restoring seen | .renamingBack seen => seen.status = .pending
  | .move path target mover seen => target.terminal = true ∧ MoverFits path seen mover
  | .creating path target mover seen =>
    target.terminal = true ∧ path ≠ target ∧ MoverFits path (some seen) mover
  | .dropping path target mover seen =>
    target.terminal = true ∧ MoverFits path (some seen) mover
  | .archiveDropping => False
  | .retryRead _ seen => seen.status = .inProgress
  | .requeueLocked _ | .requeueRead _ _ => locked = some call
  | .requeueWritten path seen =>
    seen.status = .pending ∧ (path = .inProgress ∨ locked = some call)
  | .archiveLocked _ | .archiveRead _ _ | .archiving _ _ => locked = some call
  | _ => True

structure BucketInv (world : JobWorld) (bucket : JobBucket) (record : JobRecord) : Prop where
  here : world.record bucket = some record
  only : ∀ path, world.record path ≠ none →
    path = bucket ∨ ∃ call, (world.calls call).leaves path
  kept : ∀ call, ¬ (world.calls call).leaves bucket
  agrees : record.status = bucket.status ∨
    record.status = .pending ∧ ∃ call, (world.calls call).settles bucket record
  fits : ∀ call, JobFits world.locked call (world.calls call)
  past : record.writtenAt < world.clock
  claims : ∀ call renamedAt, world.calls call = .done (.claimed renamedAt) →
    renamedAt < record.writtenAt
  renames : ∀ call seen renamedAt, world.calls call = .claimRenamed seen renamedAt →
    renamedAt < world.clock
  /-- What a move has still to clear of the open folders is older than no claim. -/
  residue : ∀ path seen, path ≠ bucket → path.terminal = false → world.record path = some seen →
    (path = .pending → bucket.terminal = true) ∧
      ∀ claim renamedAt, world.calls claim = .done (.claimed renamedAt) →
        renamedAt < seen.writtenAt
  stops : ∀ call readAt, (world.calls call).stoppedSince readAt → bucket.terminal = true ∧
    ∀ claim renamedAt, world.calls claim = .done (.claimed renamedAt) → renamedAt < readAt

variable {world : JobWorld} {bucket : JobBucket} {record : JobRecord} {call : Nat}

variable {state : JobCall}

theorem JobFits.other {locked later : Option Nat} {other : Nat}
    (fits : JobFits locked other state) (distinct : other ≠ call)
    (keeps : later = locked ∨ locked = none ∨ locked = some call) : JobFits later other state := by
  have lock : locked = some other → later = some other := by
    intro held
    rcases keeps with same | free | own
    · exact same.trans held
    · rw [free] at held
      cases held
    · rw [own] at held
      exact absurd (Option.some.inj held).symm distinct
  cases state <;> first
    | exact fits
    | exact lock fits
    | exact ⟨fits.1, fits.2.imp_right lock⟩

variable {next : JobCall} {target : JobBucket}

/-- A step of one call: what it has to show for the invariant to go on. -/
theorem BucketInv.goesOn (inv : BucketInv world bucket record) {files : JobWorld}
    (calls : files.calls = world.calls) (clock : files.clock = world.clock)
    (lock : files.locked = world.locked ∨ world.locked = none ∧ files.locked = some call)
    {written : JobRecord} (here : files.record target = some written)
    (only : ∀ path, files.record path ≠ none → path = target ∨ next.leaves path ∨
      ∃ other, other ≠ call ∧ (world.calls other).leaves path)
    (kept : ¬ next.leaves target)
    (keptOthers : ∀ other, other ≠ call → ¬ (world.calls other).leaves target)
    (agrees : written.status = target.status ∨ written.status = .pending ∧
      (next.settles target written ∨
        ∃ other, other ≠ call ∧ (world.calls other).settles target written))
    (fits : JobFits files.locked call next) (past : written.writtenAt ≤ world.clock)
    (later : record.writtenAt ≤ written.writtenAt)
    (claims : ∀ renamedAt, next = .done (.claimed renamedAt) →
      renamedAt < written.writtenAt ∧ ∀ other readAt, ¬ (world.calls other).stoppedSince readAt)
    (renames : ∀ seen renamedAt, next = .claimRenamed seen renamedAt → renamedAt ≤ world.clock)
    (residue : ∀ path seen, path ≠ target → path.terminal = false →
      files.record path = some seen → (path = .pending → target.terminal = true) ∧
        (∀ renamedAt, next ≠ .done (.claimed renamedAt)) ∧
        ∀ claim renamedAt, world.calls claim = .done (.claimed renamedAt) →
          renamedAt < seen.writtenAt)
    (stops : ∀ readAt, next.stoppedSince readAt → target.terminal = true ∧
      ∀ claim renamedAt, world.calls claim = .done (.claimed renamedAt) → renamedAt < readAt)
    (stays : ∀ other readAt, (world.calls other).stoppedSince readAt → target.terminal = true) :
    BucketInv (files.goesOn call next) target written := by
  have atCall : (files.goesOn call next).calls call = next := by
    simp [JobWorld.goesOn]
  have atOther : ∀ other, other ≠ call →
      (files.goesOn call next).calls other = world.calls other := by
    intro other distinct
    simp [JobWorld.goesOn, calls, Function.update_of_ne distinct]
  have keeps : (files.goesOn call next).locked = world.locked ∨ world.locked = none ∨
      world.locked = some call := by
    simp only [JobWorld.goesOn]
    split
    · rename_i ends
      simp only [Bool.and_eq_true, decide_eq_true_eq] at ends
      rcases lock with same | ⟨free, -⟩
      · exact .inr (.inr (same ▸ ends.2))
      · exact .inr (.inl free)
    · exact lock.imp_right fun free => .inl free.1
  refine ⟨here, fun path there => ?_, fun other => ?_, ?_, fun other => ?_, ?_,
    fun other renamedAt => ?_, fun other seen renamedAt => ?_,
    fun path seen distinct opened there => ?_, fun other readAt => ?_⟩
  · rcases only path there with rfl | own | ⟨other, distinct, left⟩
    · exact .inl rfl
    · exact .inr ⟨call, by rwa [atCall]⟩
    · exact .inr ⟨other, by rwa [atOther other distinct]⟩
  · by_cases same : other = call
    · rw [same, atCall]
      exact kept
    · rw [atOther other same]
      exact keptOthers other same
  · rcases agrees with agrees | ⟨pending, own | ⟨other, distinct, settles⟩⟩
    · exact .inl agrees
    · exact .inr ⟨pending, call, by rwa [atCall]⟩
    · exact .inr ⟨pending, other, by rwa [atOther other distinct]⟩
  · by_cases same : other = call
    · rw [same, atCall]
      -- A call that is over knows nothing of itself, so the lock may go.
      cases isOver : next.over with
      | true =>
        cases next with
        | done => trivial
        | _ => cases isOver
      | false => simpa [JobWorld.goesOn, isOver] using fits
    · rw [atOther other same]
      exact (inv.fits other).other same keeps
  · simp only [JobWorld.goesOn, clock]
    omega
  · by_cases same : other = call
    · rw [same, atCall]
      exact fun claimed => (claims renamedAt claimed).1
    · rw [atOther other same]
      exact fun claimed => Nat.lt_of_lt_of_le (inv.claims other renamedAt claimed) later
  · have moment : (files.goesOn call next).clock = world.clock + 1 := by
      simp [JobWorld.goesOn, clock]
    rw [moment]
    by_cases same : other = call
    · rw [same, atCall]
      exact fun renamed => Nat.lt_succ_of_le (renames seen renamedAt renamed)
    · rw [atOther other same]
      exact fun renamed => Nat.lt_succ_of_lt (inv.renames other seen renamedAt renamed)
  · obtain ⟨ends, unclaimed, before⟩ := residue path seen distinct opened there
    refine ⟨ends, fun claim renamedAt claimed => ?_⟩
    by_cases same : claim = call
    · rw [same, atCall] at claimed
      exact absurd claimed (unclaimed renamedAt)
    · rw [atOther claim same] at claimed
      exact before claim renamedAt claimed
  · have claimedBefore : (∀ claim moment, world.calls claim = .done (.claimed moment) →
        moment < readAt) → (∀ moment, next = .done (.claimed moment) → moment < readAt) →
        ∀ claim moment, (files.goesOn call next).calls claim = .done (.claimed moment) →
          moment < readAt := by
      intro before own claim moment
      by_cases same : claim = call
      · rw [same, atCall]
        exact own moment
      · rw [atOther claim same]
        exact before claim moment
    by_cases same : other = call
    · rw [same, atCall]
      intro stopped
      obtain ⟨terminal, before⟩ := stops readAt stopped
      refine ⟨terminal, claimedBefore before fun moment claimed => ?_⟩
      rw [claimed] at stopped
      exact stopped.elim
    · rw [atOther other same]
      intro stopped
      exact ⟨stays other readAt stopped, claimedBefore (inv.stops other readAt stopped).2
        fun moment claimed => absurd stopped ((claims moment claimed).2 other readAt)⟩

variable {path : JobBucket}

theorem BucketInv.real (inv : BucketInv world bucket record) {seen : JobRecord}
    (there : world.record path = some seen) (free : ∀ other, ¬ (world.calls other).leaves path) :
    path = bucket ∧ seen = record := by
  have inBucket : path = bucket := by
    rcases inv.only path (by simp [there]) with same | ⟨other, left⟩
    · exact same
    · exact absurd left (free other)
  have found := inv.here
  rw [← inBucket, there] at found
  exact ⟨inBucket, Option.some.inj found⟩

def JobCall.plain : JobCall → Prop
  | .removing _ _ | .dropping _ _ _ _ | .claimRenamed _ _ | .done (.claimed _)
  | .done (.stopped _) => False
  | _ => True

theorem plain_leaves (plain : state.plain) (path : JobBucket) :
    ¬ state.leaves path := by
  cases state <;> first | exact plain.elim | exact id

theorem plain_stopped (plain : state.plain) (readAt : Nat) :
    ¬ state.stoppedSince readAt := by
  intro stopped
  cases state with
  | removing | dropping => exact plain
  | done outcome => cases outcome <;> first | exact plain | exact stopped
  | _ => exact stopped

theorem plain_claimed (plain : state.plain) (renamedAt : Nat) :
    state ≠ .done (.claimed renamedAt) := by
  rintro rfl
  exact plain

theorem plain_renamed (plain : state.plain) (seen : JobRecord)
    (renamedAt : Nat) : state ≠ .claimRenamed seen renamedAt := by
  rintro rfl
  exact plain

section

variable (inv : BucketInv world bucket record)
include inv

theorem BucketInv.look {files : JobWorld}
    (records : files.record = world.record) (calls : files.calls = world.calls)
    (clock : files.clock = world.clock)
    (lock : files.locked = world.locked ∨ world.locked = none ∧ files.locked = some call)
    (leaves : ∀ path, ¬ (world.calls call).leaves path)
    (agrees : (world.calls call).settles bucket record →
      record.status = bucket.status ∨ next.settles bucket record)
    (fits : JobFits files.locked call next) (nextLeaves : ∀ path, ¬ next.leaves path)
    (claims : ∀ renamedAt, next ≠ .done (.claimed renamedAt))
    (renames : ∀ seen renamedAt, next ≠ .claimRenamed seen renamedAt)
    (stops : ∀ readAt, next.stoppedSince readAt → bucket.terminal = true ∧
      ∀ claim renamedAt, world.calls claim = .done (.claimed renamedAt) → renamedAt < readAt) :
    BucketInv (files.goesOn call next) bucket record := by
  refine inv.goesOn calls clock lock (by rw [records]; exact inv.here) (fun path there => ?_)
    (nextLeaves bucket) (fun other _ => inv.kept other) ?_ fits (Nat.le_of_lt inv.past)
    (Nat.le_refl _) (fun renamedAt claimed => absurd claimed (claims renamedAt))
    (fun seen renamedAt renamed => absurd renamed (renames seen renamedAt))
    (fun path seen distinct opened there => ?_) stops
    (fun other readAt stopped => (inv.stops other readAt stopped).1)
  · rw [records] at there
    rcases inv.only path there with same | ⟨other, left⟩
    · exact .inl same
    · refine .inr (.inr ⟨other, ?_, left⟩)
      rintro rfl
      exact leaves path left
  · rcases inv.agrees with agree | ⟨pending, other, settles⟩
    · exact .inl agree
    · by_cases same : other = call
      · rw [same] at settles
        exact (agrees settles).imp_right fun settled => ⟨pending, .inl settled⟩
      · exact .inr ⟨pending, .inr ⟨other, same, settles⟩⟩
  · rw [records] at there
    obtain ⟨ends, before⟩ := inv.residue path seen distinct opened there
    exact ⟨ends, claims, before⟩

section

variable (leaves : ∀ path, ¬ (world.calls call).leaves path)
include leaves

theorem BucketInv.pass (agrees : (world.calls call).settles bucket record →
      record.status = bucket.status ∨ next.settles bucket record)
    (fits : JobFits world.locked call next) (plain : next.plain) :
    BucketInv (world.goesOn call next) bucket record :=
  inv.look rfl rfl rfl (.inl rfl) leaves agrees fits (plain_leaves plain) (plain_claimed plain)
    (plain_renamed plain) fun readAt stopped => absurd stopped (plain_stopped plain readAt)

theorem BucketInv.put {status : JobStatus} (agrees : status = bucket.status ∨
      status = .pending ∧ next.settles bucket ⟨status, world.clock⟩)
    (fits : JobFits world.locked call next) (nextLeaves : ∀ path, ¬ next.leaves path)
    (claims : ∀ renamedAt, next = .done (.claimed renamedAt) →
      renamedAt < world.clock ∧ bucket = .inProgress)
    (renames : ∀ seen renamedAt, next = .claimRenamed seen renamedAt → renamedAt ≤ world.clock)
    (stops : ∀ readAt, ¬ next.stoppedSince readAt) :
    BucketInv ((world.put bucket status).goesOn call next) bucket ⟨status, world.clock⟩ := by
  have here : (world.put bucket status).record bucket = some ⟨status, world.clock⟩ := by
    simp [JobWorld.put]
  have sameCalls : (world.put bucket status).calls = world.calls := rfl
  refine inv.goesOn sameCalls rfl (.inl rfl) here (fun path there => ?_)
    (nextLeaves bucket) (fun other _ => inv.kept other)
    (agrees.imp_right fun pending => ⟨pending.1, .inl pending.2⟩) fits (Nat.le_refl _)
    (Nat.le_of_lt inv.past) (fun renamedAt claimed => ?_) renames
    (fun path seen distinct opened there => ?_)
    (fun readAt stopped => absurd stopped (stops readAt))
    (fun other readAt stopped => (inv.stops other readAt stopped).1)
  · by_cases same : path = bucket
    · exact .inl same
    · simp only [JobWorld.put, Function.update_of_ne same] at there
      obtain same | ⟨other, left⟩ := inv.only path there
      · exact .inl same
      · refine .inr (.inr ⟨other, ?_, left⟩)
        rintro rfl
        exact leaves path left
  · obtain ⟨before, running⟩ := claims renamedAt claimed
    refine ⟨before, fun other readAt stopped => ?_⟩
    have terminal := (inv.stops other readAt stopped).1
    rw [running] at terminal
    cases terminal
  · simp only [JobWorld.put, Function.update_of_ne distinct] at there
    obtain ⟨ends, before⟩ := inv.residue path seen distinct opened there
    refine ⟨ends, fun renamedAt claimed => ?_, before⟩
    -- A claim ends in progress, so that the other open folder is the pending one.
    have running := (claims renamedAt claimed).2
    cases path with
    | pending =>
      have terminal := ends rfl
      rw [running] at terminal
      cases terminal
    | inProgress => exact distinct running.symm
    | _ => cases opened

theorem BucketInv.rename
    (free : ∀ other, ¬ (world.calls other).leaves target) (agrees : record.status = target.status ∨
      record.status = .pending ∧ next.settles target record)
    (fits : JobFits world.locked call next) (nextLeaves : ∀ path, ¬ next.leaves path)
    (claims : ∀ renamedAt, next ≠ .done (.claimed renamedAt))
    (renames : ∀ seen renamedAt, next = .claimRenamed seen renamedAt → renamedAt ≤ world.clock)
    (stops : ∀ readAt, ¬ next.stoppedSince readAt)
    (ends : target = .pending ∨ target.terminal = true ∨ bucket = .pending)
    (stays : ∀ other readAt, (world.calls other).stoppedSince readAt → target.terminal = true) :
    BucketInv ((world.rename bucket target).goesOn call next) target record := by
  have here : (world.rename bucket target).record target = some record := by
    simp [JobWorld.rename, inv.here]
  have sameCalls : (world.rename bucket target).calls = world.calls := rfl
  refine inv.goesOn sameCalls rfl (.inl rfl) here (fun path there => ?_) (nextLeaves target)
    (fun other _ => free other) (agrees.imp_right fun pending => ⟨pending.1, .inl pending.2⟩) fits
    (Nat.le_of_lt inv.past) (Nat.le_refl _)
    (fun renamedAt claimed => absurd claimed (claims renamedAt)) renames
    (fun path seen distinct opened there => ?_)
    (fun readAt stopped => absurd stopped (stops readAt))
    stays
  · by_cases same : path = target
    · exact .inl same
    · by_cases source : path = bucket
      · subst source
        simp [JobWorld.rename, Function.update_of_ne same] at there
      · simp only [JobWorld.rename, Function.update_of_ne same, Function.update_of_ne source]
          at there
        obtain same | ⟨other, left⟩ := inv.only path there
        · exact absurd same source
        · refine .inr (.inr ⟨other, ?_, left⟩)
          rintro rfl
          exact leaves path left
  · by_cases source : path = bucket
    · subst source
      simp [JobWorld.rename, Function.update_of_ne distinct] at there
    · simp only [JobWorld.rename, Function.update_of_ne distinct, Function.update_of_ne source]
        at there
      refine ⟨fun isPending => ?_, claims, (inv.residue path seen source opened there).2⟩
      rcases ends with inPending | terminal | wasPending
      · exact absurd (isPending.trans inPending.symm) distinct
      · exact terminal
      · exact absurd (isPending.trans wasPending.symm) source

theorem BucketInv.create {mover : MoveFor}
    (free : ∀ other, ¬ (world.calls other).leaves target) (distinct : bucket ≠ target)
    (terminal : target.terminal = true)
    (before : ∀ readAt, mover = .stop readAt → record.writtenAt < readAt) :
    BucketInv ((world.put target target.status).goesOn call (.removing bucket mover)) target
      ⟨target.status, world.clock⟩ := by
  have here : (world.put target target.status).record target =
      some ⟨target.status, world.clock⟩ := by
    simp [JobWorld.put]
  have sameCalls : (world.put target target.status).calls = world.calls := rfl
  refine inv.goesOn sameCalls rfl (.inl rfl) here (fun path there => ?_) distinct
    (fun other _ => free other) (.inl rfl) trivial (Nat.le_refl _) (Nat.le_of_lt inv.past)
    (fun renamedAt claimed => (by cases claimed)) (fun seen renamedAt renamed => (by cases renamed))
    (fun path seen notTarget opened there => ?_)
    (fun readAt stopped => ⟨terminal, fun claim renamedAt claimed => ?_⟩) fun _ _ _ => terminal
  · by_cases same : path = target
    · exact .inl same
    · simp only [JobWorld.put, Function.update_of_ne same] at there
      rcases inv.only path there with same | ⟨other, left⟩
      · exact .inr (.inl same.symm)
      · refine .inr (.inr ⟨other, ?_, left⟩)
        rintro rfl
        exact leaves path left
  · simp only [JobWorld.put, Function.update_of_ne notTarget] at there
    refine ⟨fun _ => terminal, fun _ claimed => (by cases claimed), ?_⟩
    by_cases source : path = bucket
    · -- The source is left with the record that the move has read.
      rw [source, inv.here] at there
      cases there
      exact inv.claims
    · exact (inv.residue path seen source opened there).2
  · cases mover with
    | stop moment =>
      cases stopped
      exact Nat.lt_trans (inv.claims claim renamedAt claimed) (before _ rfl)
    | _ => exact stopped.elim

end

theorem BucketInv.drop
    (other : path ≠ bucket) (leaves : ∀ source, (world.calls call).leaves source → source = path)
    (holds : ¬ (world.calls call).settles bucket record) (fits : JobFits world.locked call next)
    (nextLeaves : ∀ path, ¬ next.leaves path)
    (claims : ∀ renamedAt, next ≠ .done (.claimed renamedAt))
    (renames : ∀ seen renamedAt, next ≠ .claimRenamed seen renamedAt)
    (stops : ∀ readAt, next.stoppedSince readAt → bucket.terminal = true ∧
      ∀ claim renamedAt, world.calls claim = .done (.claimed renamedAt) → renamedAt < readAt) :
    BucketInv ((world.remove path).goesOn call next) bucket record := by
  have here : (world.remove path).record bucket = some record := by
    simp [JobWorld.remove, Function.update_of_ne (Ne.symm other), inv.here]
  have sameCalls : (world.remove path).calls = world.calls := rfl
  refine inv.goesOn sameCalls rfl (.inl rfl) here (fun source there => ?_) (nextLeaves bucket)
    (fun other _ => inv.kept other) ?_ fits (Nat.le_of_lt inv.past) (Nat.le_refl _)
    (fun renamedAt claimed => absurd claimed (claims renamedAt))
    (fun seen renamedAt renamed => absurd renamed (renames seen renamedAt))
    (fun source seen distinct opened there => ?_) stops
    fun other readAt stopped => (inv.stops other readAt stopped).1
  · by_cases same : source = path
    · subst same
      simp [JobWorld.remove] at there
    · simp only [JobWorld.remove, Function.update_of_ne same] at there
      rcases inv.only source there with same' | ⟨mover, left⟩
      · exact .inl same'
      · refine .inr (.inr ⟨mover, ?_, left⟩)
        rintro rfl
        exact same (leaves source left)
  · refine inv.agrees.imp_right fun pending => ⟨pending.1, ?_⟩
    obtain ⟨holder, settles⟩ := pending.2
    refine .inr ⟨holder, ?_, settles⟩
    rintro rfl
    exact holds settles
  · by_cases same : source = path
    · subst same
      simp [JobWorld.remove] at there
    · simp only [JobWorld.remove, Function.update_of_ne same] at there
      obtain ⟨ends, before⟩ := inv.residue source seen distinct opened there
      exact ⟨ends, claims, before⟩

end

theorem reported_leaves (mover : MoveFor) (path : JobBucket) : ¬ mover.reported.leaves path := by
  cases mover <;> exact id

theorem reported_fits (mover : MoveFor) (locked : Option Nat) :
    JobFits locked call mover.reported := by
  cases mover <;> trivial

theorem reported_claimed (mover : MoveFor) (renamedAt : Nat) :
    mover.reported ≠ .done (.claimed renamedAt) := by
  cases mover <;> simp [MoveFor.reported]

theorem reported_renamed (mover : MoveFor) (seen : JobRecord) (renamedAt : Nat) :
    mover.reported ≠ .claimRenamed seen renamedAt := by
  cases mover <;> simp [MoveFor.reported]

theorem BucketInv.clear (inv : BucketInv world bucket record)
    {mover : MoveFor} (at' : world.calls call = .removing path mover) :
    BucketInv ((world.remove path).goesOn call mover.reported) bucket record := by
  have other : path ≠ bucket := by
    intro same
    apply inv.kept call
    rw [at']
    exact same
  have leaves : ∀ source, (world.calls call).leaves source → source = path := by
    rw [at']
    exact fun source left => Eq.symm left
  have holds : ¬ (world.calls call).settles bucket record := by
    simp [at', JobCall.settles, JobCall.unsettled]
  refine inv.drop other leaves holds (reported_fits mover _) (reported_leaves mover)
    (reported_claimed mover) (reported_renamed mover) fun readAt stopped => ?_
  apply inv.stops call readAt
  rw [at']
  cases mover with
  | stop moment => exact stopped
  | _ => exact stopped.elim

end

end AdversarialReview.FollowUp
