import AdversarialReview.Proofs.Argus.Tidy

/-! No review is lost, doubled or reopened by calls that overlap in an orderly way. -/

namespace AdversarialReview.Argus

open Interleaved

/-- A call that is about to settle what its new record stands beside. -/
def CallStage.Settles : CallStage → String → JobBucket → Prop
  | .checking created buckets, name, bucket => created = name ∧ bucket ∈ buckets
  | .removing created, name, _ => created = name
  | _, _, _ => False

def CallStage.LooksForward : CallStage → Prop
  | .checking _ buckets => buckets <:+ racedBuckets
  | _ => True

theorem terminal_after_inProgress {buckets : List JobBucket} (forward : buckets <:+ racedBuckets)
    (looked : .inProgress ∈ buckets) : .completed ∈ buckets ∧ .failed ∈ buckets := by
  rcases List.suffix_cons_iff.mp forward with whole | rest
  · subst whole
    decide
  · exact absurd (rest.subset looked) (by decide)

def StoreWorld.Settling (world : StoreWorld) (name : String) (bucket : JobBucket) : Prop :=
  ∃ caller, (world.stages caller).Settles name bucket

structure StoreInv (enqueues : Nat → Option String) (world : StoreWorld) : Prop where
  tidy : Tidy world.Settling world.disk
  forward : ∀ caller, (world.stages caller).LooksForward
  kept : ∀ caller, world.stages caller = .returned → ∀ name, enqueues caller = some name →
    world.disk.Present name

/-- Others neither move a call on nor lose a record. -/
structure StoreRely (caller : Nat) (world later : StoreWorld) : Prop where
  stage : later.stages caller = world.stages caller
  present : ∀ name, world.disk.Present name → later.disk.Present name

theorem StoreRely.refl (caller : Nat) (world : StoreWorld) : StoreRely caller world world :=
  ⟨rfl, fun _ present => present⟩

theorem StoreRely.trans {caller : Nat} {first second third : StoreWorld}
    (one : StoreRely caller first second) (two : StoreRely caller second third) :
    StoreRely caller first third :=
  ⟨two.stage.trans one.stage, fun name present => two.present name (one.present name present)⟩

/-- Calls whose steps are all orderly. -/
def storeDiscipline (enqueues : Nat → Option String) : Discipline storeSystem where
  allowed := fun answers _ {_} effect world => orderly answers effect world.disk = true
  inv := StoreInv enqueues
  rely := StoreRely
  rely_refl := StoreRely.refl
  rely_trans := StoreRely.trans
  external_ok := fun change => change.elim
  crash_ok := fun _ world inv => ⟨inv, fun other _ => .refl other world⟩

section

variable {enqueues : Nat → Option String} {world : StoreWorld} {caller : Nat} {name : String}

theorem StoreInv.forward_settling (inv : StoreInv enqueues world) (wanted : String)
    (settling : world.Settling wanted .inProgress) :
    world.Settling wanted .completed ∧ world.Settling wanted .failed := by
  obtain ⟨other, settles⟩ := settling
  have forward := inv.forward other
  cases stage : world.stages other with
  | checking created buckets =>
    rw [stage] at settles forward
    obtain ⟨completed, failed⟩ := terminal_after_inProgress forward settles.2
    exact ⟨⟨other, by rw [stage]; exact ⟨settles.1, completed⟩⟩,
      ⟨other, by rw [stage]; exact ⟨settles.1, failed⟩⟩⟩
  | removing created =>
    rw [stage] at settles
    exact ⟨⟨other, by rw [stage]; exact settles⟩, ⟨other, by rw [stage]; exact settles⟩⟩
  | _ =>
    rw [stage] at settles
    exact settles.elim

def StoreWorld.moveOn (world : StoreWorld) (caller : Nat) (stage : CallStage) (disk : Disk) :
    StoreWorld :=
  { disk, stages := Function.update world.stages caller stage }

theorem settling_moveOn {stage : CallStage} {disk : Disk} {wanted : String} {bucket : JobBucket}
    (settling : world.Settling wanted bucket)
    (own : (world.stages caller).Settles wanted bucket → stage.Settles wanted bucket) :
    (world.moveOn caller stage disk).Settling wanted bucket := by
  obtain ⟨other, settles⟩ := settling
  by_cases same : other = caller
  · subst same
    exact ⟨other, by simpa [StoreWorld.moveOn] using own settles⟩
  · exact ⟨other, by simpa [StoreWorld.moveOn, same] using settles⟩

theorem StoreInv.moveOn (inv : StoreInv enqueues world) {stage : CallStage} {disk : Disk}
    (tidy : Tidy (world.moveOn caller stage disk).Settling disk) (forward : stage.LooksForward)
    (present : ∀ wanted, world.disk.Present wanted → disk.Present wanted)
    (kept : stage = .returned → ∀ name, enqueues caller = some name → disk.Present name) :
    StoreInv enqueues (world.moveOn caller stage disk) ∧
      ∀ other, other ≠ caller → StoreRely other world (world.moveOn caller stage disk) := by
  refine ⟨⟨tidy, fun other => ?_, fun other returned => ?_⟩, fun other apart => ⟨?_, present⟩⟩
  · by_cases same : other = caller
    · simpa [StoreWorld.moveOn, same] using forward
    · simpa [StoreWorld.moveOn, same] using inv.forward other
  · by_cases same : other = caller
    · subst same
      exact kept (by simpa [StoreWorld.moveOn] using returned)
    · have before : world.stages other = .returned := by
        simpa [StoreWorld.moveOn, same] using returned
      exact fun wanted enqueued => present wanted (inv.kept other before wanted enqueued)
  · simp [StoreWorld.moveOn, apart]

theorem performStore_eq (answers : DiskAnswers) (caller : Nat) {β : Type} (effect : StoreEffect β)
    (world : StoreWorld) :
    performStore answers caller effect world =
      ((performFiles answers effect world.disk).1,
        world.moveOn caller ((world.stages caller).next effect
          (performFiles answers effect world.disk).1)
          (performFiles answers effect world.disk).2) := rfl

theorem moveOn_self (disk : Disk) :
    world.moveOn caller (world.stages caller) disk = { world with disk } := by
  simp [StoreWorld.moveOn]

end

def MovesOnly (moves : JobBucket → JobBucket → Prop) {β : Type} (effect : QueueEffect β) : Prop :=
  match effect with
  | .rename source target _ => moves source target
  | _ => True

/-- Such a step among the steps of all calls. -/
def QueueOnly (moves : JobBucket → JobBucket → Prop) {β : Type} (effect : StoreEffect β) : Prop :=
  match effect with
  | .queue effect => MovesOnly moves effect
  | _ => False

def anyMove (_ _ : JobBucket) : Prop := True

section

variable {enqueues : Nat → Option String} {world : StoreWorld} {caller : Nat} {name : String}
  {α β : Type} {ends : Except String α → StoreWorld → Prop}

theorem safe_step {effect : StoreEffect β} {next : β → Prog StoreEffect α}
    (effective : ∀ later, StoreRely caller world later → StoreInv enqueues later →
      ∀ answers, orderly answers effect later.disk = true →
        ∃ answer after, performStore answers caller effect later = (answer, after) ∧
          (StoreInv enqueues after ∧ ∀ other, other ≠ caller → StoreRely other later after) ∧
          Safe (storeDiscipline enqueues) caller (next answer) ends after) :
    Safe (storeDiscipline enqueues) caller (.step effect next) ends world := by
  intro later meanwhile inv answers ok
  obtain ⟨answer, after, same, ⟨kept, others⟩, safe⟩ := effective later meanwhile inv answers ok
  show StoreInv enqueues (performStore answers caller effect later).2 ∧
    (∀ other, other ≠ caller → StoreRely other later
      (performStore answers caller effect later).2) ∧
    Safe (storeDiscipline enqueues) caller (next (performStore answers caller effect later).1) ends
      (performStore answers caller effect later).2
  rw [same]
  exact ⟨kept, others, safe⟩

theorem safe_queue {effect : QueueEffect β} {next : β → Prog StoreEffect α}
    (then_ : ∀ answer later, StoreRely caller world later →
      Safe (storeDiscipline enqueues) caller (next answer) ends later) :
    Safe (storeDiscipline enqueues) caller (.step (.queue effect) next) ends world := by
  refine safe_step fun later meanwhile inv answers ok => ?_
  have tidy := inv.tidy.performDisk inv.forward_settling answers effect ok
  have present : ∀ wanted, later.disk.Present wanted →
      (performDisk answers effect later.disk).2.Present wanted :=
    fun wanted present => present.performDisk answers effect ok
  refine ⟨(performDisk answers effect later.disk).1,
    { later with disk := (performDisk answers effect later.disk).2 }, ?_,
    ⟨⟨tidy, inv.forward, fun other returned wanted enqueued => ?_⟩,
      fun other _ => ⟨rfl, present⟩⟩, then_ _ _ (meanwhile.trans ⟨rfl, present⟩)⟩
  · exact congrArg (Prod.mk _) (moveOn_self _)
  · exact present wanted (inv.kept other returned wanted enqueued)

theorem safe_onQueue (prog : Prog StoreEffect α) (uses : prog.Uses (QueueOnly anyMove)) :
    Safe (storeDiscipline enqueues) caller prog (fun _ last => StoreRely caller world last)
      world := by
  suffices given : ∀ start, StoreRely caller start world → Safe (storeDiscipline enqueues) caller
      prog (fun _ last => StoreRely caller start last) world from given world (.refl caller world)
  intro start
  induction prog generalizing world with
  | pure value => exact fun before later meanwhile => before.trans meanwhile
  | fail message => exact fun before later meanwhile => before.trans meanwhile
  | step effect next ih =>
    intro before
    obtain ⟨own, rest⟩ := uses
    cases effect with
    | queue effect =>
      exact safe_queue fun answer later meanwhile =>
        ih answer (rest answer) (before.trans meanwhile)
    | _ => exact own.elim

theorem safe_look {bucket : JobBucket} {next : Bool → Prog StoreEffect α}
    (idle : world.stages caller = .idle) (then_ : ∀ found later, StoreRely caller world later →
      (found = true → later.disk.Present name) →
      Safe (storeDiscipline enqueues) caller (next found) ends later) :
    Safe (storeDiscipline enqueues) caller (.step (.exists_ bucket name) next) ends world := by
  refine safe_step fun later meanwhile inv answers _ => ?_
  have stage : later.stages caller = .idle := meanwhile.stage.trans idle
  refine ⟨answers.failure.isNone && (later.disk.names bucket name).isSome, later, ?_,
    ⟨inv, fun other _ => .refl other later⟩, then_ _ later meanwhile fun found => ⟨bucket, ?_⟩⟩
  · rw [performStore_eq, stage]
    simp [StoreWorld.moveOn, CallStage.next, performFiles, ← stage]
  · simp only [Bool.and_eq_true] at found
    exact Option.isSome_iff_ne_none.mp found.2

theorem safe_findJob (idle : world.stages caller = .idle) (buckets : List JobBucket) :
    Safe (storeDiscipline enqueues) caller (findJob name buckets)
      (fun result last => StoreRely caller world last ∧
        ∀ located, result = .ok (some located) → last.disk.Present name) world := by
  suffices given : ∀ start, StoreRely caller start world → Safe (storeDiscipline enqueues) caller
      (findJob name buckets) (fun result last => StoreRely caller start last ∧
        ∀ located, result = .ok (some located) → last.disk.Present name) world from
    given world (.refl caller world)
  intro start
  induction buckets generalizing world with
  | nil =>
    exact fun before later meanwhile =>
      ⟨before.trans meanwhile, fun located found => by cases found⟩
  | cons bucket rest ih =>
    intro before
    simp only [findJob, Prog.bind_eq, Prog.perform_bind]
    refine safe_look idle fun found later meanwhile present => ?_
    have idle := meanwhile.stage.trans idle
    have before := before.trans meanwhile
    cases found with
    | false => simpa using ih idle before
    | true =>
      simp only [Bool.not_true, Bool.false_eq_true, if_false, readArgusJob, Prog.perform_bind]
      refine safe_queue fun answer last rest => ?_
      have there := rest.present name (present rfl)
      cases answer <;> exact fun final more =>
        ⟨(before.trans rest).trans more, fun _ _ => more.present name there⟩

/-- Where an enqueue ends well, nothing is left to settle and its record is there. -/
def Quiet (caller : Nat) (name : String) (result : Except String α) (world : StoreWorld) : Prop :=
  ∀ value, result = .ok value → world.disk.Present name ∧
    ∀ wanted bucket, ¬ (world.stages caller).Settles wanted bucket

theorem Quiet.of_idle {result : Except String α} (idle : world.stages caller = .idle)
    (present : world.disk.Present name) : Quiet caller name result world := by
  refine fun _ _ => ⟨present, fun wanted bucket settles => ?_⟩
  rw [idle] at settles
  exact settles

end

section

variable {enqueues : Nat → Option String} {world : StoreWorld} {caller : Nat} {name : String}
  {α : Type} {ends : Except String α → StoreWorld → Prop}

theorem safe_check {bucket : JobBucket} {rest : List JobBucket} {next : Bool → Prog StoreEffect α}
    (stage : world.stages caller = .checking name (bucket :: rest))
    (present : world.disk.Present name)
    (absent : ∀ later, later.stages caller = .checking name rest → later.disk.Present name →
      Safe (storeDiscipline enqueues) caller (next false) ends later)
    (found : ∀ later, later.stages caller = .removing name → later.disk.Present name →
      Safe (storeDiscipline enqueues) caller (next true) ends later) :
    Safe (storeDiscipline enqueues) caller (.step (.exists_ bucket name) next) ends world := by
  refine safe_step fun later meanwhile inv answers ok => ?_
  have checking := meanwhile.stage.trans stage
  have still := meanwhile.present name present
  have forward : (bucket :: rest) <:+ racedBuckets := by
    have := inv.forward caller
    rwa [checking] at this
  by_cases there : (answers.failure.isNone && (later.disk.names bucket name).isSome) = true
  · refine ⟨true, later.moveOn caller (.removing name) later.disk, ?_, ?_,
      found _ (by simp [StoreWorld.moveOn]) still⟩
    · simp [performStore_eq, performFiles, CallStage.next, checking, there]
    · refine inv.moveOn (inv.tidy.mono fun wanted other apart pending held settling => ?_) trivial
        (fun _ present => present) (fun returned => by cases returned)
      refine settling_moveOn settling fun own => ?_
      rw [checking] at own
      exact own.1
  · have none : later.disk.names bucket name = none := by
      have ok : (answers.failure.isNone || !later.disk.holds bucket name) = true := ok
      cases held : later.disk.names bucket name with
      | none => rfl
      | some file => simp_all [Disk.holds]
    refine ⟨false, later.moveOn caller (.checking name rest) later.disk, ?_, ?_,
      absent _ (by simp [StoreWorld.moveOn]) still⟩
    · simp [performStore_eq, performFiles, CallStage.next, checking, there]
    · refine inv.moveOn (inv.tidy.mono fun wanted other apart pending held settling => ?_)
        ((List.suffix_cons bucket rest).trans forward) (fun _ present => present)
        (fun returned => by cases returned)
      refine settling_moveOn settling fun own => ?_
      rw [checking] at own
      obtain ⟨rfl, listed⟩ := own
      -- The bucket that was looked at has no record, so it is another one.
      refine ⟨rfl, (List.mem_cons.mp listed).resolve_left ?_⟩
      rintro rfl
      exact held none

theorem safe_remove {next : Except String Unit → Prog StoreEffect α}
    (stage : world.stages caller = .removing name) (present : world.disk.Present name)
    (removed : ∀ later, later.stages caller = .idle → later.disk.Present name →
      Safe (storeDiscipline enqueues) caller (next (.ok ())) ends later)
    (failed : ∀ message later,
      Safe (storeDiscipline enqueues) caller (next (.error message)) ends later) :
    Safe (storeDiscipline enqueues) caller (.step (.remove name) next) ends world := by
  refine safe_step fun later meanwhile inv answers ok => ?_
  have removing := meanwhile.stage.trans stage
  have still := meanwhile.present name present
  cases failing : answers.failure with
  | some message =>
    refine ⟨.error message, later, ?_, ⟨inv, fun other _ => .refl other later⟩, failed _ _⟩
    have self : later.moveOn caller (later.stages caller) later.disk = later :=
      moveOn_self later.disk
    rw [removing] at self
    simp [performStore_eq, performFiles, CallStage.next, removing, failing, self]
  | none =>
    have may : (!later.disk.holds .pending name || later.disk.elsewhere .pending name) = true := by
      simpa [orderly, failing] using ok
    have kept : ∀ wanted, later.disk.Present wanted →
        (later.disk.unlink .pending name).2.Present wanted := fun _ present => present.unlink may
    refine ⟨.ok (), later.moveOn caller .idle (later.disk.unlink .pending name).2, ?_, ?_,
      removed _ (by simp [StoreWorld.moveOn]) (kept name still)⟩
    · simp [performStore_eq, performFiles, CallStage.next, failing]
    · have tidy : Tidy later.Settling (later.disk.unlink .pending name).2 := by
        unfold Disk.unlink
        split
        · exact inv.tidy
        · exact inv.tidy.drop .pending
      have gone : (later.disk.unlink .pending name).2.names .pending name = none := by
        unfold Disk.unlink
        split
        next none => exact none
        · simp
      refine inv.moveOn (tidy.mono fun wanted other apart pending held settling => ?_) trivial kept
        (fun returned => by cases returned)
      refine settling_moveOn settling fun own => ?_
      rw [removing] at own
      exact absurd (own ▸ gone) pending

theorem safe_resolve (buckets : List JobBucket)
    (stage : world.stages caller = .checking name buckets) (present : world.disk.Present name) :
    Safe (storeDiscipline enqueues) caller (resolveEnqueueRace name buckets) (Quiet caller name)
      world := by
  induction buckets generalizing world with
  | nil =>
    intro later meanwhile _ _
    refine ⟨meanwhile.present name present, fun wanted bucket settles => ?_⟩
    rw [meanwhile.stage.trans stage] at settles
    exact absurd settles.2 List.not_mem_nil
  | cons bucket rest ih =>
    simp only [resolveEnqueueRace, Prog.bind_eq, Prog.perform_bind]
    refine safe_check stage present (fun later stage present => ?_) fun later stage present => ?_
    · simpa using ih stage present
    · simp only [Bool.not_true, Bool.false_eq_true, if_false]
      refine safe_remove stage present (fun later idle present => ?_) fun message later => ?_
      · simp only [Prog.raise_ok, Prog.pure_bind, readArgusJob, Prog.perform_bind]
        refine safe_queue fun answer last rest => ?_
        exact fun final more => .of_idle (more.stage.trans (rest.stage.trans idle))
          (more.present name (rest.present name present))
      · exact fun _ _ _ failed => by cases failed

theorem safe_create {record : Json} {next : Except DiskError Unit → Prog StoreEffect α}
    (idle : world.stages caller = .idle)
    (created : ∀ later, later.stages caller = .checking name racedBuckets →
      later.disk.Present name → Safe (storeDiscipline enqueues) caller (next (.ok ())) ends later)
    (raced : ∀ later, later.stages caller = .idle → later.disk.Present name →
      Safe (storeDiscipline enqueues) caller (next (.error .eexist)) ends later)
    (failed : ∀ message later,
      Safe (storeDiscipline enqueues) caller (next (.error (.other message))) ends later) :
    Safe (storeDiscipline enqueues) caller (.step (.create name record) next) ends world := by
  refine safe_step fun later meanwhile inv answers _ => ?_
  have stage := meanwhile.stage.trans idle
  have self : later.moveOn caller (later.stages caller) later.disk = later :=
    moveOn_self later.disk
  rw [stage] at self
  cases failing : answers.failure with
  | some message =>
    refine ⟨.error (.other message), later, ?_, ⟨inv, fun other _ => .refl other later⟩,
      failed _ _⟩
    simp [performStore_eq, performFiles, CallStage.next, stage, failing, self]
  | none =>
    by_cases taken : later.disk.names .pending name ≠ none
    · refine ⟨.error .eexist, later, ?_, ⟨inv, fun other _ => .refl other later⟩,
        raced later stage ⟨.pending, taken⟩⟩
      simp [performStore_eq, performFiles, CallStage.next, stage, failing, taken, self]
    · refine ⟨.ok (), later.moveOn caller (.checking name racedBuckets)
        (later.disk.write .pending name record), ?_, ?_,
        created _ (by simp [StoreWorld.moveOn])
          ⟨.pending, by simp [StoreWorld.moveOn, Disk.write, Disk.setName]⟩⟩
      · simp [performStore_eq, performFiles, CallStage.next, failing, taken]
      · refine inv.moveOn ?_ List.suffix_rfl
          (fun _ present => present.setName_some .pending later.disk.fresh)
          (fun returned => by cases returned)
        refine inv.tidy.create record (fun wanted bucket settling => ?_) fun bucket apart => ?_
        · refine settling_moveOn settling fun own => ?_
          rw [stage] at own
          exact own.elim
        · refine ⟨caller, ?_⟩
          simp only [StoreWorld.moveOn, Function.update_self]
          exact ⟨rfl, by cases bucket <;> simp_all [racedBuckets, argusJobBuckets]⟩

theorem safe_enqueueBuilt [JsText] (built : BuiltJob) (idle : world.stages caller = .idle) :
    Safe (storeDiscipline enqueues) caller (enqueueBuilt built) (Quiet caller built.name)
      world := by
  simp only [enqueueBuilt, Prog.bind_eq]
  refine Safe.bind ((safe_findJob idle argusJobBuckets).mono ?_)
  intro result last found
  obtain ⟨before, present⟩ := found last (.refl caller last)
  have idle := before.stage.trans idle
  match result with
  | .error message => exact fun _ failed => by cases failed
  | .ok (some existing) =>
    dsimp only
    cases assertSameSubject existing built with
    | error message => exact fun _ _ _ failed => by cases failed
    | ok _ =>
      exact fun final more => .of_idle (more.stage.trans idle)
        (more.present _ (present existing rfl))
  | .ok none =>
    simp only [Prog.perform_bind]
    refine safe_queue fun answer later meanwhile => ?_
    have idle := meanwhile.stage.trans idle
    cases answer with
    | error message => exact fun _ _ _ failed => by cases failed
    | ok _ =>
      simp only [Prog.raise_ok, Prog.pure_bind]
      refine safe_create idle (fun created stage present => ?_) (fun raced idle present => ?_)
        fun message later => ?_
      · refine Safe.bind ((safe_resolve racedBuckets stage present).mono ?_)
        intro result last ended
        match result with
        | .error message => exact fun _ failed => by cases failed
        | .ok (some duplicate) =>
          exact fun final more _ _ => ended final more (some duplicate) rfl
        | .ok none => exact fun final more _ _ => ended final more none rfl
      · refine Safe.bind ((safe_findJob idle argusJobBuckets).mono ?_)
        intro result last found
        obtain ⟨before, -⟩ := found last (.refl caller last)
        have idle := before.stage.trans idle
        have present := before.present _ present
        match result with
        | .error message => exact fun _ failed => by cases failed
        | .ok none =>
          exact fun final more => .of_idle (more.stage.trans idle) (more.present _ present)
        | .ok (some found) =>
          exact fun final more => .of_idle (more.stage.trans idle) (more.present _ present)
      · exact fun _ _ _ failed => by cases failed

end

theorem uses_mono {E : Type → Type 1} {α : Type} {meets weaker : {β : Type} → E β → Prop}
    (implies : ∀ {β : Type} (effect : E β), meets effect → weaker effect) {prog : Prog E α}
    (uses : prog.Uses meets) : prog.Uses weaker := by
  induction prog with
  | pure value => trivial
  | fail message => trivial
  | step effect next ih => exact ⟨implies effect uses.1, fun answer => ih answer (uses.2 answer)⟩

theorem uses_of_forall {E : Type → Type 1} {α : Type} {meets : {β : Type} → E β → Prop}
    (all : ∀ {β : Type} (effect : E β), meets effect) (prog : Prog E α) : prog.Uses meets := by
  induction prog with
  | pure value => trivial
  | fail message => trivial
  | step effect next ih => exact ⟨all effect, ih⟩

section

variable {moves : JobBucket → JobBucket → Prop} {α : Type}

theorem uses_onQueue {prog : Prog QueueEffect α} (uses : prog.Uses (MovesOnly moves)) :
    (onQueue prog).Uses (QueueOnly moves) := by
  induction prog with
  | pure value => trivial
  | fail message => trivial
  | step effect next ih => exact ⟨uses.1, fun answer => ih answer (uses.2 answer)⟩

def claimMoves (source target : JobBucket) : Prop :=
  target = .pending → source = .inProgress

theorem uses_moveCorrupt (name failedAt error : String) :
    (moveCorruptPendingArgusJob name failedAt error).Uses (MovesOnly claimMoves) := by
  refine ⟨trivial, fun made => (Prog.uses_raise made).bind fun _ => ?_⟩
  simp only [Prog.bind_eq, Prog.perform_bind]
  refine ⟨fun back => (by cases back), fun moved => ?_⟩
  match moved with
  | .error .enoent => trivial
  | .error .eexist => trivial
  | .error (.other _) => trivial
  | .ok _ => exact ⟨trivial, fun written => Prog.uses_raise written⟩

theorem uses_statOrMissing (bucket : JobBucket) (name : String) :
    (statOrMissing bucket name).Uses (MovesOnly moves) := by
  refine ⟨trivial, fun stat => ?_⟩
  match stat with
  | .ok _ => trivial
  | .error .enoent => trivial
  | .error .eexist => trivial
  | .error (.other _) => trivial

theorem uses_acquireLink (name : String) : (acquireLink name).Uses (MovesOnly moves) := by
  refine ⟨trivial, fun linked => ?_⟩
  match linked with
  | .ok _ => trivial
  | .error .enoent => trivial
  | .error (.other _) => trivial
  | .error .eexist =>
    refine (uses_statOrMissing .pending name).bind fun left => ?_
    cases left with
    | none => trivial
    | some left =>
      refine (uses_statOrMissing .inProgress name).bind fun right => ?_
      cases right <;> trivial

theorem uses_dropPending (name : String) : (dropPending name).Uses (MovesOnly moves) := by
  refine ⟨trivial, fun removed => ?_⟩
  match removed with
  | .ok _ => trivial
  | .error .enoent => trivial
  | .error .eexist => exact ⟨trivial, fun _ => trivial⟩
  | .error (.other _) => exact ⟨trivial, fun _ => trivial⟩

theorem uses_writeClaim (name : String) (record : Json) :
    (writeClaim name record).Uses (MovesOnly claimMoves) := by
  refine ⟨trivial, fun written => ?_⟩
  cases written with
  | ok _ => trivial
  | error message => exact ⟨fun _ => rfl, fun _ => trivial⟩

theorem uses_claimEntries (options : ClaimOptions) (entries : List String) :
    (claimEntries options entries).Uses (MovesOnly claimMoves) := by
  induction entries with
  | nil => trivial
  | cons name rest ih =>
    refine ⟨trivial, fun read => ?_⟩
    cases read with
    | error message => exact (uses_moveCorrupt name options.claimedAt message).bind fun _ => ih
    | ok job =>
      have asks : (mayClaim options job).Uses (MovesOnly claimMoves) := by
        unfold mayClaim
        split
        · exact ⟨trivial, fun wanted => Prog.uses_raise wanted⟩
        · trivial
      refine asks.bind fun wanted => ?_
      cases wanted with
      | false => exact ih
      | true =>
        refine ⟨trivial, fun made => (Prog.uses_raise made).bind fun _ => ?_⟩
        refine (uses_acquireLink name).bind fun acquired => ?_
        cases acquired with
        | false => exact ih
        | true =>
          exact (uses_dropPending name).bind fun _ => (uses_writeClaim name _).bind fun _ => trivial

theorem uses_claimNextArgusJob (options : ClaimOptions) :
    (claimNextArgusJob options).Uses (MovesOnly claimMoves) :=
  ⟨trivial, fun listed => (Prog.uses_raise listed).bind fun _ => uses_claimEntries options _⟩

theorem uses_currentJob (bucket : JobBucket) (name : String) (job : Option Json) :
    (currentJob bucket name job).Uses (QueueOnly moves) := by
  cases job with
  | some job => trivial
  | none => exact ⟨trivial, fun read => Prog.uses_raise read⟩

theorem uses_moveToTerminal {source target : JobBucket} (allowed : moves source target)
    (name : String) (patch : List (String × Json)) (job : Option Json) :
    (moveArgusJobToTerminalBucket source target name patch job).Uses (QueueOnly moves) := by
  refine (uses_currentJob source name job).bind fun current => ?_
  refine ⟨trivial, fun made => (Prog.uses_raise made).bind fun _ => ⟨allowed, fun moved => ?_⟩⟩
  cases moved with
  | error failure => trivial
  | ok _ => exact ⟨trivial, fun written => (Prog.uses_raise written).bind fun _ => trivial⟩

theorem uses_requeue (bucket : JobBucket) (name : String) (pending : Json) :
    (requeue bucket name pending).Uses (QueueOnly anyMove) := by
  refine ⟨trivial, fun made => ?_⟩
  cases made with
  | error message => trivial
  | ok _ =>
    refine ⟨trivial, fun written => ?_⟩
    cases written with
    | error message => trivial
    | ok _ =>
      dsimp only
      split
      · trivial
      · exact ⟨trivial, fun _ => trivial⟩

theorem uses_returnToPending (bucket : JobBucket) (name : String) (patch : List (String × Json))
    (job : Option Json) :
    (returnArgusJobToPending bucket name patch job).Uses (QueueOnly anyMove) := by
  refine (uses_currentJob bucket name job).bind fun current => ?_
  refine (uses_requeue bucket name _).bind fun moved => ?_
  cases moved <;> trivial

theorem uses_readJobs (bucket : JobBucket) (limit : Option Nat) (entries : List String) :
    (readJobs bucket limit entries).Uses (QueueOnly moves) := by
  induction entries generalizing limit with
  | nil => trivial
  | cons name rest ih =>
    -- A limit that is used up ends the reading.
    rcases limit with _ | _ | limit
    · refine ⟨trivial, fun read => ?_⟩
      cases read with
      | error message => exact ih none
      | ok job => exact (ih none).bind fun _ => trivial
    · trivial
    · refine ⟨trivial, fun read => ?_⟩
      cases read with
      | error message => exact ih (some (limit + 1))
      | ok job => exact (ih (some limit)).bind fun _ => trivial

theorem uses_listArgusJobs (bucket : JobBucket) (limit : Option Nat) :
    (listArgusJobs bucket limit).Uses (QueueOnly moves) :=
  ⟨trivial, fun listed => (Prog.uses_raise listed).bind fun _ => uses_readJobs bucket limit _⟩

theorem uses_resumeEntries (skipJobIds : List String) (bucket : JobBucket)
    (entries : List (String × Json)) :
    (resumeEntries skipJobIds bucket entries).Uses (QueueOnly anyMove) := by
  induction entries with
  | nil => trivial
  | cons entry rest ih =>
    obtain ⟨name, job⟩ := entry
    unfold resumeEntries
    split
    · exact ih
    · refine (uses_requeue bucket name _).bind fun moved => ?_
      match moved with
      | .error .enoent => exact ih
      | .error .eexist => trivial
      | .error (.other _) => trivial
      | .ok _ => exact ih

theorem uses_resumeBuckets (skipJobIds : List String) (completedLimit : Nat)
    (buckets : List JobBucket) :
    (resumeBuckets skipJobIds completedLimit buckets).Uses (QueueOnly anyMove) := by
  induction buckets with
  | nil => trivial
  | cons bucket rest ih =>
    exact (uses_listArgusJobs bucket _).bind fun _ => (uses_resumeEntries skipJobIds bucket _).bind
      fun _ => ih

end

section

/-- A step that moves no terminal record to pending. -/
def ReopensNone {β : Type} (effect : StoreEffect β) : Prop :=
  match effect with
  | .queue effect => MovesOnly claimMoves effect
  | _ => True

theorem uses_findJob (name : String) (buckets : List JobBucket) :
    (findJob name buckets).Uses ReopensNone := by
  induction buckets with
  | nil => trivial
  | cons bucket rest ih =>
    refine ⟨trivial, fun found => ?_⟩
    cases found with
    | false => exact ih
    | true =>
      refine ⟨trivial, fun read => ?_⟩
      cases read <;> trivial

theorem uses_resolveEnqueueRace (name : String) (buckets : List JobBucket) :
    (resolveEnqueueRace name buckets).Uses ReopensNone := by
  induction buckets with
  | nil => trivial
  | cons bucket rest ih =>
    refine ⟨trivial, fun found => ?_⟩
    cases found with
    | false => exact ih
    | true =>
      exact ⟨trivial, fun removed => (Prog.uses_raise removed).bind fun _ =>
        ⟨trivial, fun _ => trivial⟩⟩

theorem uses_enqueueBuilt [JsText] (built : BuiltJob) :
    (enqueueBuilt built).Uses ReopensNone := by
  refine (uses_findJob built.name argusJobBuckets).bind fun found => ?_
  cases found with
  | some existing => exact (Prog.uses_raise _).bind fun _ => trivial
  | none =>
    refine ⟨trivial, fun made => (Prog.uses_raise made).bind fun _ => ⟨trivial, fun created => ?_⟩⟩
    match created with
    | .error .enoent => trivial
    | .error (.other _) => trivial
    | .error .eexist =>
      refine (uses_findJob built.name argusJobBuckets).bind fun raced => ?_
      cases raced <;> trivial
    | .ok _ =>
      refine (uses_resolveEnqueueRace built.name racedBuckets).bind fun duplicate => ?_
      cases duplicate <;> trivial

variable [JsText] [JsJson] [JsDate] [JsNumber]

theorem uses_program {call : QueueCall} (keeps : call.requeues = false) :
    call.program.Uses ReopensNone := by
  have plain : ∀ {moves : JobBucket → JobBucket → Prop},
      (∀ source target, moves source target → claimMoves source target) →
      ∀ {α : Type} {prog : Prog StoreEffect α}, prog.Uses (QueueOnly moves) →
        prog.Uses ReopensNone := by
    intro moves implies α prog uses
    refine uses_mono (fun effect meets => ?_) uses
    cases effect with
    | queue effect =>
      cases effect with
      | rename source target name => exact implies source target meets
      | _ => trivial
    | _ => exact meets.elim
  refine Prog.Uses.bind ?_ fun _ => ⟨trivial, fun _ => trivial⟩
  cases call with
  | enqueue request =>
    exact ((Prog.uses_raise _).bind fun built => uses_enqueueBuilt built).bind fun _ => trivial
  | claim options =>
    exact (plain (fun _ _ allowed => allowed)
      (uses_onQueue (uses_claimNextArgusJob options))).bind fun _ => trivial
  | complete source name completedAt result job =>
    exact (@plain claimMoves (fun _ _ allowed => allowed) _ _
      (uses_moveToTerminal (fun back => by cases back) name _ job)).bind fun _ => trivial
  | fail source name failedAt error job =>
    exact (@plain claimMoves (fun _ _ allowed => allowed) _ _
      (uses_moveToTerminal (fun back => by cases back) name _ job)).bind fun _ => trivial
  | return_ bucket name patch job => cases keeps
  | resume skipJobIds completedLimit => cases keeps

end

def BecomesPending (before after : Disk) (name : String) : Prop :=
  ∃ bucket file, (bucket = .completed ∨ bucket = .failed) ∧ before.names bucket name = some file ∧
    after.names bucket name ≠ some file ∧ before.names .pending name ≠ some file ∧
    after.names .pending name = some file

/-- A step that moves no terminal record to pending makes none pending. -/
theorem not_becomesPending {β : Type} {effect : StoreEffect β} (keeps : ReopensNone effect)
    (answers : DiskAnswers) (disk : Disk) (name : String) :
    ¬ BecomesPending disk (performFiles answers effect disk).2 name := by
  rintro ⟨bucket, file, terminal, found, left, apart, pending⟩
  have away : bucket ≠ .pending ∧ bucket ≠ .inProgress := by
    rcases terminal with rfl | rfl <;> decide
  -- Changing one name leaves the terminal name or the pending one as it is.
  have one : ∀ other wanted value, (disk.setName other wanted value).names bucket name ≠ some file →
      (disk.setName other wanted value).names .pending name ≠ some file := by
    intro other wanted value left pending
    simp only [Disk.setName_names] at left pending
    by_cases own : JobBucket.pending = other ∧ name = wanted
    · have other : ¬(bucket = other ∧ name = wanted) := fun same =>
        away.1 (same.1.trans own.1.symm)
      rw [if_neg other] at left
      exact left found
    · rw [if_neg own] at pending
      exact apart pending
  have unlinked : ∀ other wanted, (disk.unlink other wanted).2.names bucket name ≠ some file →
      (disk.unlink other wanted).2.names .pending name ≠ some file := by
    intro other wanted
    unfold Disk.unlink
    split
    · exact fun left => absurd found left
    · exact one other wanted none
  cases failing : answers.failure with
  | some message =>
    cases effect with
    | queue effect => cases effect <;> simp_all [performFiles, performDisk]
    | _ => simp_all [performFiles]
  | none =>
    cases effect with
    | queue effect =>
      cases effect with
      | unlink other wanted =>
        simp only [performFiles, performDisk, failing] at left pending
        exact unlinked other wanted left pending
      | link source target wanted =>
        simp only [performFiles, performDisk, failing] at left pending
        revert left pending
        unfold Disk.link
        split
        · exact fun left _ => left found
        · split
          · exact fun left _ => left found
          · exact one target wanted _
      | rename source target wanted =>
        simp only [performFiles, performDisk, failing] at left pending
        revert left pending
        unfold Disk.rename
        split
        · exact fun left _ => left found
        · split
          · exact fun left _ => left found
          · intro left pending
            simp only [Disk.setName_names] at left pending
            by_cases back : target = .pending
            · -- Only a record in progress is moved back, which no terminal one is.
              have origin : source = .inProgress := keeps back
              rw [origin, back, if_neg fun same => away.2 same.1, if_neg fun same => away.1 same.1]
                at left
              exact left found
            · rw [if_neg (c := JobBucket.pending = target ∧ name = wanted) fun same =>
                back same.1.symm] at pending
              split at pending
              · cases pending
              · exact apart pending
      | write other wanted record =>
        simp only [performFiles, performDisk, failing] at left pending
        exact one other wanted _ left pending
      | _ => simp_all [performFiles, performDisk]
    | create wanted record =>
      simp only [performFiles, failing] at left pending
      revert left pending
      split
      · exact fun left _ => left found
      · exact one .pending wanted _
    | remove wanted =>
      simp only [performFiles, failing] at left pending
      exact unlinked .pending wanted left pending
    | _ => simp_all [performFiles]

section

variable {enqueues : Nat → Option String} {world : StoreWorld} {caller : Nat}

theorem safe_ended (present : ∀ name, enqueues caller = some name → world.disk.Present name)
    (settled : ∀ wanted bucket, ¬ (world.stages caller).Settles wanted bucket) :
    Safe (storeDiscipline enqueues) caller (.perform .ended) (fun _ _ => True) world := by
  refine safe_step fun later meanwhile inv answers _ => ?_
  refine ⟨(), later.moveOn caller .returned later.disk, rfl, ?_, fun _ _ => trivial⟩
  refine inv.moveOn (inv.tidy.mono fun wanted other apart pending held settling => ?_) trivial
    (fun _ present => present)
    (fun _ name enqueued => meanwhile.present name (present name enqueued))
  refine settling_moveOn settling fun own => ?_
  rw [meanwhile.stage] at own
  exact absurd own (settled wanted other)

variable [JsText] [JsJson] [JsDate] [JsNumber]

def QueueCall.enqueuedName : QueueCall → Option String
  | .enqueue request => (buildArgusJob request).toOption.map (·.name)
  | _ => none

theorem safe_program (call : QueueCall) (idle : world.stages caller = .idle)
    (own : enqueues caller = call.enqueuedName) :
    Safe (storeDiscipline enqueues) caller call.program (fun _ _ => True) world := by
  -- A call of steps on the queue alone has nothing to settle, and enqueues nothing.
  have plain : ∀ {α : Type} (prog : Prog StoreEffect α), call.enqueuedName = none →
      prog.Uses (QueueOnly anyMove) → Safe (storeDiscipline enqueues) caller
        ((prog.bind fun _ => .pure ()).bind fun _ => .perform .ended) (fun _ _ => True) world := by
    intro α prog none uses
    refine Safe.bind (Safe.bind ((safe_onQueue prog uses).mono fun result last ended => ?_))
    cases result with
    | error message => trivial
    | ok value =>
      intro final more
      have stage := (ended final more).stage.trans idle
      refine safe_ended (fun name enqueued => ?_) fun wanted bucket settles => ?_
      · rw [own, none] at enqueued
        cases enqueued
      · rw [stage] at settles
        exact settles
  have widen : ∀ {moves : JobBucket → JobBucket → Prop} {α : Type} {prog : Prog StoreEffect α},
      prog.Uses (QueueOnly moves) → prog.Uses (QueueOnly anyMove) := by
    intro moves α prog uses
    refine uses_mono (fun effect meets => ?_) uses
    cases effect with
    | queue effect => cases effect <;> trivial
    | _ => exact meets.elim
  cases call with
  | enqueue request =>
    simp only [QueueCall.program, QueueCall.body, enqueueArgusSecurityReview, Prog.bind_eq]
    cases built : buildArgusJob request with
    | error message => exact fun _ _ => trivial
    | ok job =>
      simp only [Prog.raise_ok, Prog.pure_bind]
      refine Safe.bind (Safe.bind ((safe_enqueueBuilt job idle).mono fun result last ended => ?_))
      cases result with
      | error message => trivial
      | ok value =>
        intro final more
        obtain ⟨present, settled⟩ := ended final more value rfl
        refine safe_ended (fun name enqueued => ?_) settled
        have same : job.name = name := by
          simpa [own, QueueCall.enqueuedName, built, Except.toOption] using enqueued
        exact same ▸ present
  | claim options =>
    exact plain (onQueue (claimNextArgusJob options)) rfl
      (widen (uses_onQueue (uses_claimNextArgusJob options)))
  | complete source name completedAt result job =>
    exact plain (completeArgusJob source name completedAt result job) rfl
      (uses_moveToTerminal trivial name _ job)
  | fail source name failedAt error job =>
    exact plain (failArgusJob source name failedAt error job) rfl
      (uses_moveToTerminal trivial name _ job)
  | return_ bucket name patch job =>
    exact plain (returnArgusJobToPending bucket name patch job) rfl
      (uses_returnToPending bucket name patch job)
  | resume skipJobIds completedLimit =>
    refine Safe.bind ((safe_onQueue _ (uses_resumeBuckets skipJobIds completedLimit
      racedBuckets)).mono fun result last ended => ?_)
    cases result with
    | error message => trivial
    | ok value =>
      have stage := (ended last (.refl caller last)).stage.trans idle
      refine safe_ended (fun name enqueued => ?_) fun wanted bucket settles => ?_
      · rw [own] at enqueued
        cases enqueued
      · rw [stage] at settles
        exact settles

end

def Orderly (config : Config Nat StoreWorld StoreEffect)
    (moves : List (Move Nat DiskAnswers Empty)) : Prop :=
  storeSystem.Meets
    (fun answers _ {_} effect world => orderly answers effect world.disk = true) config moves

instance (config : Config Nat StoreWorld StoreEffect) (moves : List (Move Nat DiskAnswers Empty)) :
    Decidable (Orderly config moves) :=
  inferInstanceAs (Decidable (storeSystem.Meets _ config moves))

theorem Orderly.append {config : Config Nat StoreWorld StoreEffect}
    {moves more : List (Move Nat DiskAnswers Empty)} (whole : Orderly config (moves ++ more)) :
    Orderly config moves ∧ Orderly (storeSystem.runMoves config moves) more := by
  induction moves generalizing config with
  | nil => exact ⟨trivial, whole⟩
  | cons first moves ih =>
    obtain ⟨one, rest⟩ := whole
    obtain ⟨front, back⟩ := ih rest
    exact ⟨⟨one, front⟩, back⟩

section

variable [JsText] [JsJson] [JsDate] [JsNumber]

def LosesNone (state later : StoreWorld) : Prop :=
  ∀ name, state.disk.Present name → later.disk.Present name

theorem start_safe (calls : Nat → QueueCall) :
    AllSafe (storeDiscipline fun caller => (calls caller).enqueuedName) (startStore calls) := by
  refine ⟨⟨⟨fun _ _ _ held => (by cases held), fun _ _ _ _ _ held => absurd rfl held,
    fun _ _ _ held => absurd rfl held⟩, fun _ => trivial, fun _ returned => by cases returned⟩,
    fun caller => safe_program (calls caller) rfl rfl⟩

theorem requeues_of_becomesPending (calls : Nat → QueueCall)
    (moves : List (Move Nat DiskAnswers Empty)) (next : Move Nat DiskAnswers Empty) {name : String}
    (becomes : BecomesPending (storeSystem.runMoves (startStore calls) moves).shared.disk
      (storeSystem.move (storeSystem.runMoves (startStore calls) moves) next).shared.disk name) :
    ∃ caller answers, next = .run caller answers ∧ (calls caller).requeues = true := by
  have uses : AllUse (fun caller {_} effect => (calls caller).requeues = false →
      ReopensNone effect) (storeSystem.runMoves (startStore calls) moves) := by
    refine AllUse.runMoves (fun caller => ?_) _
    cases keeps : (calls caller).requeues with
    | true => exact uses_of_forall (fun _ kept => by simp at kept) _
    | false => exact uses_mono (fun _ meets _ => meets) (uses_program keeps)
  cases next with
  | external change => exact change.elim
  | crash thread =>
    obtain ⟨bucket, file, -, found, left, -⟩ := becomes
    exact absurd found left
  | run caller answers =>
    refine ⟨caller, answers, rfl, ?_⟩
    by_contra keeps
    refine absurd becomes ?_
    refine uses.run_related (fun state later => ¬ BecomesPending state.disk later.disk name) ?_ ?_
    · rintro ⟨bucket, file, -, found, left, -⟩
      exact left found
    · intro β effect meets
      exact not_becomesPending (meets (by simpa using keeps)) answers _ name

/--
In an orderly run a review that was enqueued is there from then on, its records agree once every
enqueue has returned, and only a call that puts records back makes a terminal one pending.
-/
theorem reviews_kept (calls : Nat → QueueCall) (moves more : List (Move Nat DiskAnswers Empty))
    (whole : Orderly (startStore calls) (moves ++ more)) :
    let during := storeSystem.runMoves (startStore calls) moves
    let after := storeSystem.runMoves (startStore calls) (moves ++ more)
    (∀ caller request built, calls caller = .enqueue request →
      buildArgusJob request = .ok built → during.shared.stages caller = .returned →
      ∃ bucket, after.shared.disk.names bucket built.name ≠ none) ∧
    ((∀ caller, after.shared.stages caller = .idle ∨ after.shared.stages caller = .returned) →
      ∀ name first second one two, after.shared.disk.names first name = some one →
        after.shared.disk.names second name = some two →
        after.shared.disk.files one = after.shared.disk.files two) ∧
    ∀ next name, BecomesPending after.shared.disk (storeSystem.move after next).shared.disk name →
      ∃ caller answers, next = .run caller answers ∧ (calls caller).requeues = true := by
  intro during after
  obtain ⟨front, back⟩ := whole.append
  have middle : AllSafe _ during := (start_safe calls).runMoves front
  have last : AllSafe _ after := (start_safe calls).runMoves whole
  have same : after = storeSystem.runMoves during more := runMoves_append storeSystem _ moves more
  refine ⟨?_, ?_, ?_⟩
  · intro caller request built enqueue named returned
    have present : during.shared.disk.Present built.name :=
      middle.inv.kept caller returned built.name
        (by simp [enqueue, QueueCall.enqueuedName, named, Except.toOption])
    rw [same]
    have kept : LosesNone during.shared (storeSystem.runMoves during more).shared :=
      middle.runMoves_related (fun _ _ present => present)
        (fun one two name present => two name (one name present))
        (fun _ _ _ rely => rely.present) back
    exact kept built.name present
  · intro settled name first second one two heldFirst heldSecond
    have tidy := last.inv.tidy
    have nobody : ∀ bucket, ¬ after.shared.Settling name bucket := by
      rintro bucket ⟨caller, settles⟩
      rcases settled caller with idle | returned
      · rw [idle] at settles
        exact settles
      · rw [returned] at settles
        exact settles
    have beside : ∀ bucket, bucket ≠ JobBucket.pending → ∀ file other,
        after.shared.disk.names .pending name = some file →
        after.shared.disk.names bucket name = some other → other = file := by
      intro bucket apart file other pending held
      have equal := (tidy.same name bucket apart (by simp [pending]) (by simp [held])).resolve_right
        (nobody bucket)
      rw [pending, held] at equal
      exact Option.some.inj equal
    have files : one = two := by
      by_cases firstPending : first = .pending
      · by_cases secondPending : second = .pending
        · subst firstPending secondPending
          exact Option.some.inj (heldFirst.symm.trans heldSecond)
        · subst firstPending
          exact (beside second secondPending one two heldFirst heldSecond).symm
      · by_cases secondPending : second = .pending
        · subst secondPending
          exact beside first firstPending two one heldSecond heldFirst
        · obtain rfl := tidy.single name first second firstPending secondPending
            (by simp [heldFirst]) (by simp [heldSecond])
          exact Option.some.inj (heldFirst.symm.trans heldSecond)
    rw [files]
  · exact fun next name becomes => requeues_of_becomesPending calls _ next becomes

end

/-- An engine for texts of ASCII characters. -/
@[reducible] def sampleJson : JsJson := ⟨fun _ => "null"⟩

def sampleRequest : EnqueueRequest where
  identity :=
    { repo := some (.str "acme/site")
      prNumber := some (.num 7)
      headSha := some (.str "0123456789abcdef0123456789abcdef01234567") }
  reasons := some (.arr [.obj [("trigger", .str "bot-author")]])
  now := "2026-01-01T00:00:00.000Z"

def sampleName : String :=
  "acme__site-pr-7-0123456789abcdef0123456789abcdef01234567.json"

def racingCalls : Nat → QueueCall
  | 0 => .enqueue sampleRequest
  | 1 => .enqueue sampleRequest
  | 2 => .claim { claimedAt := "2026-01-01T00:00:01.000Z" }
  | _ => .return_ .inProgress sampleName [] (some (.obj [("status", .str "in_progress")]))

def sampleStore (calls : Nat → QueueCall) : Config Nat StoreWorld StoreEffect :=
  @startStore JsText.ascii sampleJson JsDate.isoDates JsNumber.unshortened calls

def storeSteps (caller count : Nat) : List (Move Nat DiskAnswers Empty) :=
  List.replicate count (.run caller { listing := [sampleName] })

/-- The second enqueue stands between its last look and its create while the first one ends. -/
def enqueuedFirst : List (Move Nat DiskAnswers Empty) :=
  storeSteps 1 5 ++ storeSteps 0 10

def handedBackBeforeRemoval : List (Move Nat DiskAnswers Empty) :=
  storeSteps 2 10 ++ storeSteps 1 2 ++ storeSteps 3 5 ++ storeSteps 1 1

/-- A review whose enqueue has returned is in no bucket any more. -/
theorem enqueued_review_lost :
    @QueueCall.enqueuedName JsText.ascii sampleJson JsDate.isoDates JsNumber.unshortened
        (racingCalls 0) = some sampleName ∧
      (storeSystem.runMoves (sampleStore racingCalls) enqueuedFirst).shared.stages 0 =
        .returned ∧
      ∀ bucket ∈ argusJobBuckets, (storeSystem.runMoves (sampleStore racingCalls)
        (enqueuedFirst ++ handedBackBeforeRemoval)).shared.disk.names bucket sampleName = none := by
  decide

/-- The record is claimed before the second enqueue creates its own, removes it and returns. -/
def settledRace : List (Move Nat DiskAnswers Empty) :=
  storeSteps 2 10 ++ storeSteps 1 10 ++ [.crash 2] ++ storeSteps 3 5

theorem reviews_kept_sample :
    ∃ bucket, (storeSystem.runMoves (sampleStore racingCalls)
      (enqueuedFirst ++ settledRace)).shared.disk.names bucket sampleName ≠ none := by
  let _ := JsText.ascii
  let _ := sampleJson
  let _ := JsDate.isoDates
  let _ := JsNumber.unshortened
  have whole : Orderly (sampleStore racingCalls) (enqueuedFirst ++ settledRace) := by
    decide
  have returned : (storeSystem.runMoves (sampleStore racingCalls) enqueuedFirst).shared.stages 0 =
      .returned := by decide
  have name : (buildArgusJob sampleRequest).toOption.map (·.name) = some sampleName := by
    decide
  obtain ⟨built, named, same⟩ : ∃ built, buildArgusJob sampleRequest = .ok built ∧
      built.name = sampleName := by
    generalize buildArgusJob sampleRequest = result at name
    cases result with
    | error message => cases name
    | ok built => exact ⟨built, rfl, Option.some.inj name⟩
  have kept := (reviews_kept racingCalls enqueuedFirst settledRace whole).1 0 sampleRequest built
    rfl named returned
  rw [same] at kept
  unfold sampleStore
  exact kept

end AdversarialReview.Argus
