import AdversarialReview.Proofs.FollowUp.BucketInvariant

/-! A job has one record, while no call acts on files that changed since it looked. -/

namespace AdversarialReview.FollowUp

section

-- Every proof below unfolds these, so their equations are made before the first one.
attribute [local simp] JobWorld.advance JobCall.leaves JobCall.touches JobCall.unsettled

end

section

abbrev Bucketed (world : JobWorld) : Prop :=
  ∃ bucket record, BucketInv world bucket record

variable {world : JobWorld} {bucket : JobBucket} {record : JobRecord} {call : Nat}
  {answer : StepAnswer}

variable {path : JobBucket} {seen : JobRecord}

theorem BucketInv.saw (inv : BucketInv world bucket record)
    (careful : CarefulStep world call answer) (touches : path ∈ (world.calls call).touches world)
    (leaves : ∀ path, ¬ (world.calls call).leaves path)
    (saw : (world.calls call).saw = some (path, seen))
    (finds : (world.calls call).mayMiss = false) : path = bucket ∧ seen = record := by
  have there := (careful.same path seen saw).resolve_right fun gone => by
    rw [gone.2] at finds
    cases finds
  refine inv.real there fun other left => ?_
  by_cases same : other = call
  · rw [same] at left
    exact leaves path left
  · exact careful.apart other same path touches left

theorem CarefulStep.free (careful : CarefulStep world call answer)
    (touches : path ∈ (world.calls call).touches world)
    (leaves : ∀ path, ¬ (world.calls call).leaves path) :
    ∀ other, ¬ (world.calls other).leaves path := by
  intro other left
  by_cases same : other = call
  · rw [same] at left
    exact leaves path left
  · exact careful.apart other same path touches left

theorem BucketInv.empty (inv : BucketInv world bucket record)
    (free : ∀ other, ¬ (world.calls other).leaves path) (distinct : path ≠ bucket) :
    world.record path = none := by
  by_contra there
  rcases inv.only path there with same | ⟨other, left⟩
  · exact distinct same
  · exact free other left

theorem status_inProgress {bucket : JobBucket} (status : bucket.status = .inProgress) :
    bucket = .inProgress := by
  cases bucket <;> cases status
  rfl

theorem status_stopped {bucket : JobBucket} (status : bucket.status = .stopped) :
    bucket.terminal = true := by
  cases bucket <;> cases status <;> rfl

section

variable (inv : BucketInv world bucket record)
include inv

theorem BucketInv.idle {next : JobCall} (leaves : ∀ path, ¬ (world.calls call).leaves path)
    (holds : ¬ (world.calls call).unsettled) (fits : JobFits world.locked call next)
    (plain : next.plain) : BucketInv (world.goesOn call next) bucket record :=
  inv.pass leaves (fun settles => absurd settles.1 holds) fits plain

theorem BucketInv.status_of
    (notPending : record.status ≠ .pending) : record.status = bucket.status :=
  inv.agrees.resolve_right fun pending => notPending pending.1

theorem BucketInv.pending (inPending : bucket = .pending) :
    record.status = .pending := by
  rcases inv.agrees with agrees | pending
  · rw [agrees, inPending]
    rfl
  · exact pending.1

theorem step_claim (at' : world.calls call = .claim) :
    Bucketed (world.advance call answer) := by
  have leaves : ∀ path, ¬ (world.calls call).leaves path := by simp [at', JobCall.leaves]
  have holds : ¬ (world.calls call).unsettled := by simp [at', JobCall.unsettled]
  refine ⟨bucket, record, ?_⟩
  simp only [JobWorld.advance, at']
  cases world.record .pending with
  | none => exact inv.idle leaves holds trivial trivial
  | some seen => cases answer.gives <;> exact inv.idle leaves holds trivial trivial

theorem step_claimRead
    (careful : CarefulStep world call answer) (at' : world.calls call = .claimRead seen) :
    Bucketed (world.advance call answer) := by
  have leaves : ∀ path, ¬ (world.calls call).leaves path := by simp [at', JobCall.leaves]
  have holds : ¬ (world.calls call).unsettled := by simp [at', JobCall.unsettled]
  have touches : ∀ path ∈ [JobBucket.pending, .inProgress],
      path ∈ (world.calls call).touches world := by
    simp [at', JobCall.touches]
  simp only [JobWorld.advance, at']
  rcases careful.same .pending seen (by rw [at']; rfl) with there | ⟨gone, -⟩
  · -- The renamed record is pending still; the claim is the one that holds it.
    obtain ⟨same, rfl⟩ := inv.real there (careful.free (touches _ (by simp)) leaves)
    have pending := inv.pending same.symm
    rw [there]
    refine ⟨.inProgress, seen, ?_⟩
    have held : (JobCall.claimRenamed seen world.clock).settles .inProgress seen := ⟨trivial, rfl⟩
    have moved := inv.rename leaves (careful.free (touches .inProgress (by simp)) leaves)
      (.inr ⟨pending, held⟩) (show JobFits world.locked call (.claimRenamed seen world.clock)
        from pending) (fun path => id) (fun _ claimed => by cases claimed)
      (fun _ _ renamed => by cases renamed; exact Nat.le_refl _) (fun _ => id)
      (.inr (.inr same.symm)) (fun other readAt stopped => by
        have terminal := (inv.stops other readAt stopped).1
        rw [← same] at terminal
        cases terminal)
    rw [← same] at moved
    exact moved
  · rw [gone]
    exact ⟨bucket, record, inv.idle leaves holds trivial trivial⟩

theorem rename_back (leaves : ∀ path, ¬ (world.calls call).leaves path)
    (free : ∀ other, ¬ (world.calls other).leaves .pending)
    (here : path = bucket ∧ seen = record) (pending : seen.status = .pending)
    (standing : ∀ other readAt, ¬ (world.calls other).stoppedSince readAt) :
    ∃ bucket record, BucketInv (if (world.record path).isNone then
        world.goesOn call (.done .other)
      else (world.rename path .pending).goesOn call (.done .other)) bucket record := by
  obtain ⟨rfl, rfl⟩ := here
  rw [inv.here]
  exact ⟨.pending, seen, inv.rename leaves free (.inl pending) trivial (fun _ => id)
    (fun _ claimed => by cases claimed) (fun _ _ renamed => by cases renamed) (fun _ => id)
    (.inl rfl) fun other readAt stopped => absurd stopped (standing other readAt)⟩

theorem BucketInv.standing (running : .inProgress = bucket) (other readAt : Nat) :
    ¬ (world.calls other).stoppedSince readAt := by
  intro stopped
  have terminal := (inv.stops other readAt stopped).1
  rw [← running] at terminal
  cases terminal

section

variable (careful : CarefulStep world call answer)
include careful

theorem step_claimRenamed {renamedAt : Nat}
    (at' : world.calls call = .claimRenamed seen renamedAt) :
    Bucketed (world.advance call answer) := by
  have leaves : ∀ path, ¬ (world.calls call).leaves path := by simp [at', JobCall.leaves]
  have touches : ∀ path ∈ [JobBucket.pending, .inProgress],
      path ∈ (world.calls call).touches world := by
    simp [at', JobCall.touches]
  have pending : seen.status = .pending := by
    have fits := inv.fits call
    rwa [at'] at fits
  have before := inv.renames call seen renamedAt at'
  have admitted := careful.admitted seen renamedAt at'
  obtain ⟨running, rfl⟩ := inv.saw careful (touches .inProgress (by simp)) leaves
    (by rw [at']; rfl) (by rw [at']; rfl)
  simp only [JobWorld.advance, at', JobWorld.claimStep]
  cases plan : answer.plan with
  | putBack =>
    -- No stop call has the job, which is in progress.
    exact rename_back inv leaves (careful.free (touches .pending (by simp)) leaves)
      ⟨running, rfl⟩ pending (inv.standing running)
  | resolveBranch =>
    simp only [admitted (.inr plan), if_true]
    have held : (JobCall.claimRenamed ⟨seen.status, world.clock⟩ renamedAt).settles bucket
        ⟨seen.status, world.clock⟩ := ⟨trivial, by rw [← running]; rfl⟩
    have written := inv.put leaves (.inr ⟨pending, held⟩)
      (show JobFits world.locked call (.claimRenamed ⟨seen.status, world.clock⟩ renamedAt)
        from pending) (fun path => id) (fun _ claimed => by cases claimed)
      (fun _ _ renamed => by cases renamed; exact Nat.le_of_lt before) (fun _ => id)
    rw [← running] at written
    exact ⟨_, _, written⟩
  | stop =>
    refine ⟨bucket, seen, inv.pass leaves (fun _ => .inr ⟨rfl, by rw [← running]; rfl⟩) ?_ trivial⟩
    exact ⟨rfl, rfl, seen, rfl, pending⟩
  | take =>
    -- Its rename came before this write, whose moment the record now bears.
    simp only [admitted (.inl plan), if_true]
    subst running
    exact ⟨_, _, inv.put leaves (.inl rfl) trivial (fun path => id)
      (fun _ claimed => by cases claimed; exact ⟨before, rfl⟩)
      (fun _ _ renamed => by cases renamed) (fun _ => id)⟩

theorem step_restoring (at' : world.calls call = .restoring seen) :
    Bucketed (world.advance call answer) := by
  have leaves : ∀ path, ¬ (world.calls call).leaves path := by simp [at', JobCall.leaves]
  have touches : ∀ path ∈ [JobBucket.pending, .inProgress],
      path ∈ (world.calls call).touches world := by
    simp [at', JobCall.touches]
  have pending : seen.status = .pending := by
    have fits := inv.fits call
    rwa [at'] at fits
  obtain ⟨running, rfl⟩ := inv.saw careful (touches .inProgress (by simp)) leaves
    (by rw [at']; rfl) (by rw [at']; rfl)
  have emptied := inv.empty (careful.free (touches .pending (by simp)) leaves)
    (by rw [← running]; simp)
  have here : world.record .inProgress = some seen := running ▸ inv.here
  simp only [JobWorld.advance, at', emptied, here]
  have held : (JobCall.renamingBack seen).settles bucket seen :=
    ⟨trivial, by rw [← running]; rfl⟩
  exact ⟨bucket, seen, inv.pass leaves (fun _ => .inr held) pending trivial⟩

theorem step_renamingBack (at' : world.calls call = .renamingBack seen) :
    Bucketed (world.advance call answer) := by
  have leaves : ∀ path, ¬ (world.calls call).leaves path := by simp [at', JobCall.leaves]
  have touches : ∀ path ∈ [JobBucket.pending, .inProgress],
      path ∈ (world.calls call).touches world := by
    simp [at', JobCall.touches]
  have pending : seen.status = .pending := by
    have fits := inv.fits call
    rwa [at'] at fits
  have here := inv.saw careful (touches .inProgress (by simp)) leaves
    (by rw [at']; rfl) (by rw [at']; rfl)
  simp only [JobWorld.advance, at']
  exact rename_back inv leaves (careful.free (touches .pending (by simp)) leaves) here pending
    (inv.standing here.1)

theorem step_stop (at' : world.calls call = .stop path) :
    Bucketed (world.advance call answer) := by
  have leaves : ∀ path, ¬ (world.calls call).leaves path := by simp [at', JobCall.leaves]
  have holds : ¬ (world.calls call).unsettled := by simp [at', JobCall.unsettled]
  have touches : path ∈ (world.calls call).touches world := by simp [at', JobCall.touches]
  refine ⟨bucket, record, ?_⟩
  simp only [JobWorld.advance, at']
  cases there : world.record path with
  | none => exact inv.idle leaves holds trivial trivial
  | some seen =>
    obtain ⟨rfl, rfl⟩ := inv.real there (careful.free touches leaves)
    by_cases status : seen.status = .stopped
    · simp only [status, if_true]
      refine inv.look rfl rfl rfl (.inl rfl) leaves (fun settles => absurd settles.1 holds) trivial
        (fun _ => id) (fun _ claimed => by cases claimed) (fun _ _ renamed => by cases renamed)
        fun readAt now => ⟨status_stopped ?_, fun claim renamedAt claimed => ?_⟩
      · rw [← inv.status_of (by rw [status]; simp), status]
      · cases now
        exact Nat.lt_trans (inv.claims claim renamedAt claimed) inv.past
    · simp only [status, if_false]
      exact inv.idle leaves holds ⟨rfl, seen, rfl, inv.past⟩ trivial

end

end

variable {mover : MoveFor}

theorem reported_stops (inv : BucketInv world path record)
    (terminal : path.terminal = true) (fits : MoverFits path (some record) mover) (readAt : Nat)
    (stopped : mover.reported.stoppedSince readAt) : path.terminal = true ∧
      ∀ claim renamedAt, world.calls claim = .done (.claimed renamedAt) → renamedAt < readAt := by
  refine ⟨terminal, fun claim renamedAt claimed => ?_⟩
  cases mover with
  | stop moment =>
    cases stopped
    obtain ⟨seen, same, before⟩ := fits
    cases same
    exact Nat.lt_trans (inv.claims claim renamedAt claimed) before
  | _ => exact stopped.elim

section

variable (inv : BucketInv world bucket record)
include inv

section

variable (careful : CarefulStep world call answer)
include careful

theorem dropping_stops {path target : JobBucket}
    (free : ∀ other, ¬ (world.calls other).leaves target)
    (ended : (world.record target).isSome = true) (distinct : path ≠ target)
    (terminal : target.terminal = true) (there : world.record path = some seen)
    (fits : MoverFits path (some seen) mover)
    (stops : ∀ readAt, mover = .stop readAt → (world.calls call).stopsAt path target readAt)
    (readAt : Nat) (stopped : (JobCall.dropping path target mover seen).stoppedSince readAt) :
    bucket.terminal = true ∧ ∀ claim renamedAt,
      world.calls claim = .done (.claimed renamedAt) → renamedAt < readAt := by
  have inTarget : target = bucket := by
    by_contra other
    rw [inv.empty free other] at ended
    cases ended
  refine ⟨inTarget ▸ terminal, fun claim renamedAt claimed => ?_⟩
  cases mover with
  | stop moment =>
    cases stopped
    obtain ⟨first, same, before⟩ := fits
    cases same
    have opened := careful.meets path target _ (stops _ rfl) distinct ended
    have residue := inv.residue path seen (inTarget ▸ distinct) opened there
    exact Nat.lt_trans (residue.2 claim renamedAt claimed) before
  | _ => exact stopped.elim

theorem step_move {path target : JobBucket}
    {last : Option JobRecord} (at' : world.calls call = .move path target mover last) :
    Bucketed (world.advance call answer) := by
  have leaves : ∀ path, ¬ (world.calls call).leaves path := by simp [at', JobCall.leaves]
  obtain ⟨terminal, fits⟩ : target.terminal = true ∧ MoverFits path last mover := by
    have fits := inv.fits call
    rwa [at'] at fits
  refine ⟨bucket, record, ?_⟩
  simp only [JobWorld.advance, at', JobWorld.moveStep]
  -- A mover that has seen its job finds it where it saw it.
  have found : ∀ seen, last = some seen → world.record path = some seen := by
    rintro seen rfl
    exact (careful.same path seen (by rw [at']; rfl)).resolve_right (by simp [at', JobCall.mayMiss])
  cases there : world.record path with
  | none =>
    have mark : mover = .mark := by
      cases last with
      | some seen => exact absurd (found seen rfl) (by simp [there])
      | none =>
        cases mover with
        | mark => rfl
        | _ => simp [MoverFits] at fits
    have holds : ¬ (world.calls call).unsettled := by simp [at', JobCall.unsettled, mark]
    rw [mark]
    by_cases ended : (world.record target).isSome = true <;> simp only [ended, if_true] <;>
      exact inv.idle leaves holds trivial trivial
  | some seen =>
    -- A stop and a claim have seen the record that they now read.
    have again : mover = .mark ∨ last = some seen := by
      cases last with
      | some first => exact .inr ((found first rfl).symm.trans there)
      | none =>
        refine .inl ?_
        cases mover with
        | mark => rfl
        | _ => simp [MoverFits] at fits
    have seenFits : MoverFits path (some seen) mover := by
      rcases again with rfl | rfl
      · trivial
      · exact fits
    have keepsHold : ∀ next : JobCall, (mover = .claim → next.unsettled) →
        next.saw = some (path, seen) → (world.calls call).settles bucket record →
          record.status = bucket.status ∨ next.settles bucket record := by
      rintro next unsettled saw ⟨holds, held⟩
      rw [at'] at holds held
      rcases again with rfl | rfl
      · cases holds
      · exact .inr ⟨unsettled holds, saw.trans held⟩
    by_cases same : path = target
    · simp only [if_pos same]
      have touches : path ∈ (world.calls call).touches world := by
        simp [at', JobCall.touches, same]
      obtain ⟨rfl, rfl⟩ := inv.real there (careful.free touches leaves)
      have notClaim : mover ≠ .claim := by
        rintro rfl
        rw [← same, seenFits.1] at terminal
        cases terminal
      exact inv.look rfl rfl rfl (.inl rfl) leaves
        (fun settles => absurd settles.1 (by simpa [at', JobCall.unsettled] using notClaim))
        (reported_fits mover _) (reported_leaves mover) (reported_claimed mover)
        (reported_renamed mover) (reported_stops inv (same ▸ terminal) seenFits)
    · simp only [if_neg same]
      by_cases ended : (world.record target).isSome = true
      · have free := careful.free
          (show target ∈ (world.calls call).touches world by simp [at', JobCall.touches, same])
          leaves
        simp only [ended, if_true]
        refine inv.look rfl rfl rfl (.inl rfl) leaves (keepsHold _ (fun claim => claim) rfl)
          ⟨terminal, seenFits⟩ (fun _ => id) (fun _ claimed => by cases claimed)
          (fun _ _ renamed => by cases renamed)
          (dropping_stops inv careful free ended same terminal there seenFits
            fun readAt isStop => ?_)
        rw [at']
        exact ⟨rfl, rfl, isStop⟩
      by_cases gives : answer.gives = true
      · -- The next record cannot be built: a claim tries to put its job back.
        simp only [ended, gives, if_true]
        cases mover with
        | claim =>
          obtain ⟨running, held, isSeen, pending⟩ := seenFits
          cases isSeen
          have last' : last = some seen := again.resolve_left (by simp)
          rw [last']
          refine inv.pass leaves (keepsHold (.restoring seen) (fun _ => trivial) ?_) pending trivial
          rw [running]
          rfl
        | _ => exact inv.idle leaves (by simp [at', JobCall.unsettled]) trivial trivial
      · simp only [ended, gives]
        exact inv.pass leaves (keepsHold _ (fun claim => claim) rfl) ⟨terminal, same, seenFits⟩
          trivial

theorem step_creating {path target : JobBucket}
    (at' : world.calls call = .creating path target mover seen) :
    Bucketed (world.advance call answer) := by
  have leaves : ∀ path, ¬ (world.calls call).leaves path := by simp [at', JobCall.leaves]
  obtain ⟨terminal, distinct, fits⟩ :
      target.terminal = true ∧ path ≠ target ∧ MoverFits path (some seen) mover := by
    have fits := inv.fits call
    rwa [at'] at fits
  simp only [JobWorld.advance, at']
  by_cases ended : (world.record target).isSome = true
  · have free := careful.free
      (show target ∈ (world.calls call).touches world by simp [at', JobCall.touches, ended]) leaves
    have there := (careful.same path seen (by rw [at']; rfl)).resolve_right
      (by simp [at', JobCall.mayMiss])
    simp only [ended, if_true]
    refine ⟨bucket, record, inv.look rfl rfl rfl (.inl rfl) leaves (fun settles => ?_)
      ⟨terminal, fits⟩ (fun _ => id) (fun _ claimed => by cases claimed)
      (fun _ _ renamed => by cases renamed)
      (dropping_stops inv careful free ended distinct terminal there fits fun readAt isStop => ?_)⟩
    · rw [at'] at settles
      exact .inr settles
    · rw [at']
      exact ⟨rfl, rfl, isStop⟩
  · have touches : ∀ folder ∈ [path, target], folder ∈ (world.calls call).touches world := by
      simp [at', JobCall.touches, ended]
    obtain ⟨rfl, rfl⟩ := inv.saw careful (touches path (by simp)) leaves (by rw [at']; rfl)
      (by rw [at']; rfl)
    have free := careful.free (touches target (by simp)) leaves
    simp only [ended]
    refine ⟨_, _, inv.create leaves free distinct terminal fun readAt moved => ?_⟩
    rw [moved] at fits
    obtain ⟨first, same, before⟩ := fits
    cases same
    exact before

theorem step_dropping {path target : JobBucket}
    (at' : world.calls call = .dropping path target mover seen) :
    Bucketed (world.advance call answer) := by
  have leaves : ∀ path, ¬ (world.calls call).leaves path := by simp [at', JobCall.leaves]
  have spare := careful.spare path target mover seen at'
  have other : path ≠ bucket := by
    rintro rfl
    rcases spare with gone | ⟨left, clears⟩
    · rw [inv.here] at gone
      cases gone
    · exact inv.kept left clears
  have holds : ¬ (world.calls call).settles bucket record := by
    rintro ⟨-, held⟩
    rw [at'] at held
    exact other (congrArg Prod.fst (Option.some.inj held))
  have none' : ∀ source, (world.calls call).leaves source → source = path :=
    fun source left => absurd left (leaves source)
  simp only [JobWorld.advance, at']
  refine ⟨bucket, record, ?_⟩
  by_cases stands : (world.record target).isSome = true
  · simp only [stands, if_true]
    refine inv.drop other none' holds (reported_fits mover _) (reported_leaves mover)
      (reported_claimed mover) (reported_renamed mover) fun readAt stopped => ?_
    apply inv.stops call readAt
    rw [at']
    cases mover with
    | stop moment => exact stopped
    | _ => exact stopped.elim
  · simp only [stands]
    exact inv.drop other none' holds trivial (fun _ => id) (fun _ claimed => by cases claimed)
      (fun _ _ renamed => by cases renamed) fun _ stopped => stopped.elim

theorem step_retryRead (at' : world.calls call = .retryRead path seen) :
    Bucketed (world.advance call answer) := by
  have leaves : ∀ path, ¬ (world.calls call).leaves path := by simp [at', JobCall.leaves]
  have holds : ¬ (world.calls call).unsettled := by simp [at', JobCall.unsettled]
  have status : seen.status = .inProgress := by
    have fits := inv.fits call
    rwa [at'] at fits
  have touches : path ∈ (world.calls call).touches world := by simp [at', JobCall.touches]
  obtain ⟨rfl, rfl⟩ := inv.saw careful touches leaves (by rw [at']; rfl)
    (by rw [at']; rfl)
  -- Only the folder of the jobs in progress has records of this status.
  have running : path = .inProgress :=
    status_inProgress (by rw [← inv.status_of (by rw [status]; simp), status])
  simp only [JobWorld.advance, at']
  by_cases admits : world.admits call answer = true
  · simp only [admits, if_true]
    have held : (JobCall.requeueWritten path ⟨.pending, world.clock⟩).settles path
        ⟨.pending, world.clock⟩ := ⟨trivial, rfl⟩
    exact ⟨_, _, inv.put leaves (.inr ⟨rfl, held⟩) ⟨rfl, .inl running⟩ (fun path => id)
      (fun _ claimed => by cases claimed) (fun _ _ renamed => by cases renamed) (fun _ => id)⟩
  · simp only [admits]
    exact ⟨_, _, inv.idle leaves holds trivial trivial⟩

theorem step_requeueRead (at' : world.calls call = .requeueRead path seen) :
    Bucketed (world.advance call answer) := by
  have leaves : ∀ path, ¬ (world.calls call).leaves path := by simp [at', JobCall.leaves]
  have locked : world.locked = some call := by
    have fits := inv.fits call
    rwa [at'] at fits
  have touches : path ∈ (world.calls call).touches world := by simp [at', JobCall.touches]
  obtain ⟨rfl, rfl⟩ := inv.saw careful touches leaves (by rw [at']; rfl)
    (by rw [at']; rfl)
  simp only [JobWorld.advance, at']
  by_cases inPlace : (answer.requeue = .inPlace && seen.status = .stopped) = true
  · simp only [inPlace, if_true]
    have stopped : seen.status = .stopped := by simp at inPlace; exact inPlace.2
    have same : JobStatus.stopped = path.status := by
      rw [← inv.status_of (by rw [stopped]; simp), stopped]
    exact ⟨_, _, inv.put leaves (.inl same) trivial (fun path => id)
      (fun _ claimed => by cases claimed) (fun _ _ renamed => by cases renamed) (fun _ => id)⟩
  · simp only [inPlace]
    have held : (JobCall.requeueWritten path ⟨.pending, world.clock⟩).settles path
        ⟨.pending, world.clock⟩ := ⟨trivial, rfl⟩
    exact ⟨_, _, inv.put leaves (.inr ⟨rfl, held⟩) ⟨rfl, .inr locked⟩ (fun path => id)
      (fun _ claimed => by cases claimed) (fun _ _ renamed => by cases renamed) (fun _ => id)⟩

theorem step_requeueWritten (at' : world.calls call = .requeueWritten path seen) :
    Bucketed (world.advance call answer) := by
  have leaves : ∀ path, ¬ (world.calls call).leaves path := by simp [at', JobCall.leaves]
  have touches : ∀ folder ∈ [path, .pending], folder ∈ (world.calls call).touches world := by
    simp [at', JobCall.touches]
  have pending : seen.status = .pending := by
    have fits := inv.fits call
    rw [at'] at fits
    exact fits.1
  have here := inv.saw careful (touches path (by simp)) leaves (by rw [at']; rfl) (by rw [at']; rfl)
  simp only [JobWorld.advance, at']
  exact rename_back inv leaves (careful.free (touches .pending (by simp)) leaves) here pending
    (careful.standing path seen at')

end

end

theorem BucketInv.archived_status (inv : BucketInv world .stopped record)
    (locked : world.locked = some call) (archives : ¬ (world.calls call).unsettled) :
    record.status = .stopped := by
  rcases inv.agrees with agrees | ⟨-, holder, unsettled, saw⟩
  · exact agrees
  · -- Only a requeue holds a pending record there, and it has the lock.
    have fits := inv.fits holder
    cases state : world.calls holder with
    | requeueWritten path seen =>
      rw [state] at fits saw
      have path' : path = .stopped := by
        have pair := Option.some.inj saw
        exact congrArg Prod.fst pair
      rcases fits.2 with running | holds
      · rw [path'] at running
        cases running
      · rw [locked] at holds
        cases holds
        exact absurd unsettled archives
    | move path target mover seen =>
      rw [state] at fits saw unsettled
      have isClaim : mover = .claim := unsettled
      rw [isClaim] at fits
      obtain ⟨-, running, first, rfl, -⟩ := fits
      rw [running] at saw
      cases saw
    | creating path target mover seen =>
      rw [state] at fits saw unsettled
      have isClaim : mover = .claim := unsettled
      rw [isClaim] at fits
      obtain ⟨-, -, running, -⟩ := fits
      rw [running] at saw
      cases saw
    | dropping path target mover seen =>
      rw [state] at fits saw unsettled
      have isClaim : mover = .claim := unsettled
      rw [isClaim] at fits
      obtain ⟨-, running, -⟩ := fits
      rw [running] at saw
      cases saw
    | claimRenamed | restoring | renamingBack =>
      rw [state] at saw
      cases saw
    | _ =>
      rw [state] at unsettled
      exact unsettled.elim

variable {month : String}

section

variable (inv : BucketInv world bucket record)
include inv

theorem step_archiveRead
    (careful : CarefulStep world call answer) (at' : world.calls call = .archiveRead month seen) :
    Bucketed (world.advance call answer) := by
  have leaves : ∀ path, ¬ (world.calls call).leaves path := by simp [at', JobCall.leaves]
  have holds : ¬ (world.calls call).unsettled := by simp [at', JobCall.unsettled]
  have touches : ∀ folder ∈ [JobBucket.stopped, .stoppedArchived month],
      folder ∈ (world.calls call).touches world := by
    simp [at', JobCall.touches]
  have locked : world.locked = some call := by
    have fits := inv.fits call
    rwa [at'] at fits
  obtain ⟨stopped, rfl⟩ := inv.saw careful (touches .stopped (by simp)) leaves
    (by rw [at']; rfl) (by rw [at']; rfl)
  have emptied := inv.empty (careful.free (touches (.stoppedArchived month) (by simp)) leaves)
    (by rw [← stopped]; simp)
  simp only [JobWorld.advance, at', emptied]
  exact ⟨_, _, inv.idle leaves holds locked trivial⟩

theorem step_archiving
    (careful : CarefulStep world call answer) (at' : world.calls call = .archiving month seen) :
    Bucketed (world.advance call answer) := by
  have leaves : ∀ path, ¬ (world.calls call).leaves path := by simp [at', JobCall.leaves]
  have holds : ¬ (world.calls call).unsettled := by simp [at', JobCall.unsettled]
  have touches : ∀ folder ∈ [JobBucket.stopped, .stoppedArchived month],
      folder ∈ (world.calls call).touches world := by
    simp [at', JobCall.touches]
  have locked : world.locked = some call := by
    have fits := inv.fits call
    rwa [at'] at fits
  obtain ⟨rfl, rfl⟩ := inv.saw careful (touches .stopped (by simp)) leaves
    (by rw [at']; rfl) (by rw [at']; rfl)
  simp only [JobWorld.advance, at', inv.here]
  exact ⟨_, _, inv.rename leaves
    (careful.free (touches (.stoppedArchived month) (by simp)) leaves)
    (.inl (inv.archived_status locked holds)) trivial (fun _ => id)
    (fun _ claimed => by cases claimed) (fun _ _ renamed => by cases renamed) (fun _ => id)
    (.inr (.inl rfl)) fun _ _ _ => rfl⟩

theorem step_lock {next : JobCall} (leaves : ∀ path, ¬ (world.calls call).leaves path)
    (holds : ¬ (world.calls call).unsettled) (fits : JobFits (some call) call next)
    (plain : next.plain) : ∃ bucket record, BucketInv (if world.admits call answer then
        { world with locked := some call }.goesOn call next
      else world.goesOn call (.done .other)) bucket record := by
  refine ⟨bucket, record, ?_⟩
  by_cases admits : world.admits call answer = true
  · have lock : some call = world.locked ∨ world.locked = none ∧ some call = some call := by
      simp only [JobWorld.admits, Bool.and_eq_true, Bool.or_eq_true, decide_eq_true_eq] at admits
      exact admits.2.symm.imp Eq.symm fun free => ⟨free, rfl⟩
    have sameRecords : { world with locked := some call }.record = world.record := rfl
    rw [if_pos admits]
    exact inv.look sameRecords rfl rfl lock leaves (fun settles => absurd settles.1 holds) fits
      (plain_leaves plain) (plain_claimed plain) (plain_renamed plain)
      fun readAt stopped => absurd stopped (plain_stopped plain readAt)
  · rw [if_neg admits]
    exact inv.idle leaves holds trivial trivial

theorem step_retry (at' : world.calls call = .retry path) :
    Bucketed (world.advance call answer) := by
  have leaves : ∀ path, ¬ (world.calls call).leaves path := by simp [at', JobCall.leaves]
  have holds : ¬ (world.calls call).unsettled := by simp [at', JobCall.unsettled]
  refine ⟨bucket, record, ?_⟩
  simp only [JobWorld.advance, at']
  cases world.record path with
  | none => exact inv.idle leaves holds trivial trivial
  | some seen =>
    by_cases running : (seen.status = .inProgress && !answer.gives) = true
    · have status : seen.status = .inProgress := by
        simp only [Bool.and_eq_true, decide_eq_true_eq] at running
        exact running.1
      simp only [running, if_true]
      exact inv.idle leaves holds status trivial
    · simp only [running]
      exact inv.idle leaves holds trivial trivial

theorem step_requeueLocked (at' : world.calls call = .requeueLocked path) :
    Bucketed (world.advance call answer) := by
  have leaves : ∀ path, ¬ (world.calls call).leaves path := by simp [at', JobCall.leaves]
  have holds : ¬ (world.calls call).unsettled := by simp [at', JobCall.unsettled]
  have locked : world.locked = some call := by
    have fits := inv.fits call
    rwa [at'] at fits
  refine ⟨bucket, record, ?_⟩
  simp only [JobWorld.advance, at']
  cases world.record path with
  | none => exact inv.idle leaves holds trivial trivial
  | some seen =>
    dsimp only
    split
    · exact inv.idle leaves holds trivial trivial
    · split
      · exact inv.idle leaves holds ⟨rfl, trivial⟩ trivial
      · split
        · exact inv.idle leaves holds ⟨rfl, trivial⟩ trivial
        · exact inv.idle leaves holds locked trivial

theorem step_archiveLocked (at' : world.calls call = .archiveLocked month) :
    Bucketed (world.advance call answer) := by
  have leaves : ∀ path, ¬ (world.calls call).leaves path := by simp [at', JobCall.leaves]
  have holds : ¬ (world.calls call).unsettled := by simp [at', JobCall.unsettled]
  have locked : world.locked = some call := by
    have fits := inv.fits call
    rwa [at'] at fits
  refine ⟨bucket, record, ?_⟩
  simp only [JobWorld.advance, at']
  cases world.record .stopped with
  | none => exact inv.idle leaves holds trivial trivial
  | some seen =>
    cases answer.gives with
    | true => exact inv.idle leaves holds trivial trivial
    | false => exact inv.idle leaves holds locked trivial

theorem bucket_advance (careful : CarefulStep world call answer) :
    Bucketed (world.advance call answer) := by
  have fits := inv.fits call
  cases at' : world.calls call with
  | claim => exact step_claim inv at'
  | claimRead => exact step_claimRead inv careful at'
  | claimRenamed => exact step_claimRenamed inv careful at'
  | restoring => exact step_restoring inv careful at'
  | renamingBack => exact step_renamingBack inv careful at'
  | stop => exact step_stop inv careful at'
  | move => exact step_move inv careful at'
  | creating => exact step_creating inv careful at'
  | dropping => exact step_dropping inv careful at'
  | archiveDropping =>
    rw [at'] at fits
    exact fits.elim
  | removing path mover =>
    simp only [JobWorld.advance, at']
    exact ⟨bucket, record, inv.clear at'⟩
  | retryRead => exact step_retryRead inv careful at'
  | requeueRead => exact step_requeueRead inv careful at'
  | requeueWritten => exact step_requeueWritten inv careful at'
  | archiveRead => exact step_archiveRead inv careful at'
  | archiving => exact step_archiving inv careful at'
  | done =>
    simp only [JobWorld.advance, at']
    exact ⟨bucket, record, inv⟩
  | retry => exact step_retry inv at'
  | requeue | archive =>
    simp only [JobWorld.advance, at']
    exact step_lock inv (by simp [at', JobCall.leaves]) (by simp [at', JobCall.unsettled]) rfl
      trivial
  | requeueLocked => exact step_requeueLocked inv at'
  | archiveLocked => exact step_archiveLocked inv at'

theorem bucket_run {steps : List (Nat × StepAnswer)} (careful : CarefulRun world steps) :
    ∃ bucket record, BucketInv (world.run steps) bucket record := by
  induction steps generalizing world bucket record with
  | nil => exact ⟨bucket, record, inv⟩
  | cons step rest ih =>
    obtain ⟨now, later⟩ := careful
    obtain ⟨_, _, next⟩ := bucket_advance inv now
    exact ih next later

end

theorem fresh_plain {state : JobCall} (fresh : state.fresh = true) :
    state.plain ∧ ¬ state.unsettled ∧ ∀ locked call, JobFits locked call state := by
  cases state with
  | move path target mover seen =>
    simp only [JobCall.fresh, Bool.and_eq_true, Bool.or_eq_true, decide_eq_true_eq] at fresh
    obtain ⟨⟨ends, rfl⟩, -⟩ := fresh
    refine ⟨trivial, by simp [JobCall.unsettled], fun _ _ => ⟨?_, trivial⟩⟩
    rcases ends with (rfl | rfl) | rfl <;> rfl
  | claim | stop | retry | requeue | archive => exact ⟨trivial, id, fun _ _ => trivial⟩
  | _ => cases fresh

theorem bucket_start {calls : Nat → JobCall} (fresh : ∀ call, (calls call).fresh = true) :
    BucketInv (startWorld bucket calls) bucket ⟨bucket.status, 0⟩ where
  here := by simp [startWorld]
  only := by
    intro path there
    by_cases same : path = bucket
    · exact .inl same
    · exact absurd (by simp [startWorld, Function.update_of_ne same]) there
  kept call := plain_leaves (fresh_plain (fresh call)).1 bucket
  agrees := .inl rfl
  fits call := (fresh_plain (fresh call)).2.2 none call
  past := Nat.zero_lt_one
  claims call renamedAt claimed := absurd claimed (plain_claimed (fresh_plain (fresh call)).1 _)
  renames call seen renamedAt renamed :=
    absurd renamed (plain_renamed (fresh_plain (fresh call)).1 seen renamedAt)
  residue path seen distinct _ there := by
    simp [startWorld, Function.update_of_ne distinct] at there
  stops call readAt stopped := absurd stopped (plain_stopped (fresh_plain (fresh call)).1 readAt)

theorem BucketInv.inOneBucket (inv : BucketInv world bucket record) (quiet : world.Quiet) :
    InOneBucket world := by
  have still : ∀ call, (∀ path, ¬ (world.calls call).leaves path) ∧
      ¬ (world.calls call).unsettled := by
    intro call
    rcases quiet call with ends | fresh
    · cases state : world.calls call with
      | done => exact ⟨fun _ => id, id⟩
      | _ =>
        rw [state] at ends
        cases ends
    · obtain ⟨plain, holds, -⟩ := fresh_plain fresh
      exact ⟨plain_leaves plain, holds⟩
  refine ⟨⟨bucket, record, inv.here, ?_, fun other distinct => ?_⟩, ?_⟩
  · rcases inv.agrees with agrees | ⟨-, holder, settles⟩
    · exact agrees
    · exact absurd settles.1 (still holder).2
  · exact inv.empty (fun mover => (still mover).1 other) distinct
  · intro stop claim readAt renamedAt stopped claimed
    have since : (world.calls stop).stoppedSince readAt := by
      rw [stopped]
      rfl
    exact Nat.le_of_lt ((inv.stops stop readAt since).2 claim renamedAt claimed)

end

/-- A job stays in one folder while no call acts on files that changed since it looked. -/
theorem one_bucket (bucket : JobBucket) (calls : Nat → JobCall) (steps : List (Nat × StepAnswer))
    (fresh : ∀ call, (calls call).fresh = true)
    (careful : CarefulRun (startWorld bucket calls) steps)
    (quiet : ((startWorld bucket calls).run steps).Quiet) :
    InOneBucket ((startWorld bucket calls).run steps) := by
  obtain ⟨_, _, inv⟩ := bucket_run (bucket_start fresh) careful
  exact inv.inOneBucket quiet

theorem advance_other {world : JobWorld} {call other : Nat} {answer : StepAnswer}
    (distinct : other ≠ call) : (world.advance call answer).calls other = world.calls other := by
  have gone : ∀ (files : JobWorld) next, files.calls = world.calls →
      (files.goesOn call next).calls other = world.calls other := by
    intro files next same
    simp [JobWorld.goesOn, Function.update_of_ne distinct, same]
  unfold JobWorld.advance JobWorld.claimStep JobWorld.moveStep
  repeat' split
  all_goals first
    | rfl
    | exact gone _ _ rfl

theorem run_other {world : JobWorld} {other : Nat} {steps : List (Nat × StepAnswer)}
    (absent : ∀ step ∈ steps, step.1 ≠ other) :
    (world.run steps).calls other = world.calls other := by
  induction steps generalizing world with
  | nil => rfl
  | cons step rest ih =>
    change ((world.advance step.1 step.2).run rest).calls other = _
    rw [ih fun next listed => absent next (List.mem_cons_of_mem _ listed)]
    exact advance_other (Ne.symm (absent step (List.mem_cons_self ..)))

def claimThenStop : List (Nat × StepAnswer) :=
  [(0, {}), (0, {}), (0, {}), (1, {}), (1, {}), (1, {}), (1, {})]

def claimOrStop (call : Nat) : JobCall :=
  if call = 0 then .claim else .stop .inProgress

theorem one_bucket_claim_then_stop :
    InOneBucket ((startWorld .pending claimOrStop).run claimThenStop) := by
  have fresh : ∀ call, (claimOrStop call).fresh = true := by
    intro call
    unfold claimOrStop
    split <;> rfl
  have others : ∀ steps : List (Nat × StepAnswer), (∀ step ∈ steps, step.1 < 2) → ∀ other,
      2 ≤ other → ((startWorld .pending claimOrStop).run steps).calls other =
        .stop .inProgress := by
    intro steps few other many
    rw [run_other fun step listed => by have := few step listed; omega]
    simp only [startWorld, claimOrStop]
    rw [if_neg (by omega)]
  have step : ∀ steps call answer, call < 2 → (∀ step ∈ steps, step.1 < 2) →
      (∀ mate, mate < 2 → mate ≠ call → ∀ path,
        ¬ (((startWorld .pending claimOrStop).run steps).calls mate).leaves path) →
      (∀ path seen, (((startWorld .pending claimOrStop).run steps).calls call).saw =
        some (path, seen) → ((startWorld .pending claimOrStop).run steps).record path =
          some seen) →
      ((startWorld .pending claimOrStop).run steps).admits call answer = true →
      (∀ path seen, ((startWorld .pending claimOrStop).run steps).calls call ≠
        .requeueWritten path seen) →
      (∀ path target mover seen, ((startWorld .pending claimOrStop).run steps).calls call ≠
        .dropping path target mover seen) →
      (∀ path target readAt, (((startWorld .pending claimOrStop).run steps).calls call).stopsAt
        path target readAt → path.terminal = false) →
      CarefulStep ((startWorld .pending claimOrStop).run steps) call answer := by
    intro steps call answer own few mates same admits written drops opened
    refine ⟨fun other distinct path _ => ?_, fun path seen saw => .inl (same path seen saw),
      fun _ _ _ _ at' => absurd at' (drops _ _ _ _),
      fun path target readAt isStop _ _ => opened path target readAt isStop, fun _ _ _ _ => admits,
      fun path seen at' => absurd at' (written path seen)⟩
    by_cases mate : other < 2
    · exact mates other mate distinct path
    · rw [others steps few other (by omega)]
      exact id
  refine one_bucket .pending claimOrStop claimThenStop fresh ?_ fun call => ?_
  · refine ⟨?_, ?_, ?_, ?_, ?_, ?_, ?_, trivial⟩
    · exact step (claimThenStop.take 0) 0 {} (by decide) (by decide)
        (fun mate few distinct _ => by
          obtain rfl : mate = 1 := by omega
          exact id)
        (fun _ _ saw => by cases saw) rfl (fun _ _ at' => by cases at')
        (fun _ _ _ _ at' => by cases at')
        fun _ _ _ isStop => isStop.elim
    · exact step (claimThenStop.take 1) 0 {} (by decide) (by decide)
        (fun mate few distinct _ => by
          obtain rfl : mate = 1 := by omega
          exact id)
        (fun _ _ saw => by cases saw; rfl) rfl (fun _ _ at' => by cases at')
        (fun _ _ _ _ at' => by cases at')
        fun _ _ _ isStop => isStop.elim
    · exact step (claimThenStop.take 2) 0 {} (by decide) (by decide)
        (fun mate few distinct _ => by
          obtain rfl : mate = 1 := by omega
          exact id)
        (fun _ _ saw => by cases saw; rfl) rfl (fun _ _ at' => by cases at')
        (fun _ _ _ _ at' => by cases at')
        fun _ _ _ isStop => isStop.elim
    · exact step (claimThenStop.take 3) 1 {} (by decide) (by decide)
        (fun mate few distinct _ => by
          obtain rfl : mate = 0 := by omega
          exact id)
        (fun _ _ saw => by cases saw) rfl (fun _ _ at' => by cases at')
        (fun _ _ _ _ at' => by cases at')
        fun _ _ _ isStop => isStop.elim
    · exact step (claimThenStop.take 4) 1 {} (by decide) (by decide)
        (fun mate few distinct _ => by
          obtain rfl : mate = 0 := by omega
          exact id)
        (fun _ _ saw => by cases saw; rfl) rfl (fun _ _ at' => by cases at')
        (fun _ _ _ _ at' => by cases at')
        fun _ _ _ isStop => by obtain ⟨rfl, -⟩ := isStop; rfl
    · exact step (claimThenStop.take 5) 1 {} (by decide) (by decide)
        (fun mate few distinct _ => by
          obtain rfl : mate = 0 := by omega
          exact id)
        (fun _ _ saw => by cases saw; rfl) rfl (fun _ _ at' => by cases at')
        (fun _ _ _ _ at' => by cases at')
        fun _ _ _ isStop => by obtain ⟨rfl, -⟩ := isStop; rfl
    · exact step (claimThenStop.take 6) 1 {} (by decide) (by decide)
        (fun mate few distinct _ => by
          obtain rfl : mate = 0 := by omega
          exact id)
        (fun _ _ saw => by cases saw) rfl (fun _ _ at' => by cases at')
        (fun _ _ _ _ at' => by cases at')
        fun _ _ _ isStop => isStop.elim
  · by_cases own : call < 2
    · have pair : call = 0 ∨ call = 1 := by omega
      rcases pair with rfl | rfl <;> exact .inl rfl
    · rw [others claimThenStop (by decide) call (by omega)]
      exact .inr rfl

def refusedClaim : List (Nat × StepAnswer) :=
  [(0, {}), (0, {}), (0, { refused := true })]

theorem refused_claim_mislabels : ¬ ∀ bucket calls steps, (∀ call, (calls call).fresh = true) →
    ((startWorld bucket calls).run steps).Quiet →
      InOneBucket ((startWorld bucket calls).run steps) := by
  intro holds
  have left : ((startWorld .pending fun _ => .claim).run refusedClaim).record .inProgress =
      some ⟨.pending, 0⟩ := by
    rfl
  have quiet : ((startWorld .pending fun _ => .claim).run refusedClaim).Quiet := by
    intro call
    by_cases same : call = 0
    · rw [same]
      exact .inl rfl
    · rw [run_other (by simpa [refusedClaim] using Ne.symm same)]
      exact .inr rfl
  obtain ⟨bucket, record, here, status, only⟩ :=
    (holds .pending (fun _ => .claim) refusedClaim (fun _ => rfl) quiet).one
  by_cases same : bucket = .inProgress
  · rw [same, left] at here
    cases here
    rw [same] at status
    cases status
  · rw [only .inProgress (Ne.symm same)] at left
    cases left

end AdversarialReview.FollowUp
