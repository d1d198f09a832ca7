import AdversarialReview.Argus.Claim

/-! When a record has one claimant: nobody removes a name of a record that a live caller holds. -/

namespace AdversarialReview.Argus

section

-- Every proof below unfolds these, so their equations are made before the first one.
attribute [local simp] performDisk performClaim claimSystem trackClaim ClaimWorld.bury

end

open Interleaved

def mayRemove (caller : Nat) {β : Type} (effect : QueueEffect β) (world : ClaimWorld) : Bool :=
  match effect with
  | .unlink _ name => (world.holder name).all fun holder => holder = caller
  | _ => true

/-- A record is returned to its holder only, and nobody can link a record that is held. -/
structure ClaimInv (world : ClaimWorld) : Prop where
  one : ∀ name, world.claims name = [] ∨
    ∃ caller, world.claims name = [caller] ∧ world.holder name = some caller
  guarded : ∀ name, world.holder name ≠ none →
    world.disk.names .pending name = none ∨ world.disk.names .inProgress name ≠ none

/-- Others neither take over what a caller holds nor make it hold or have anything. -/
structure ClaimRely (caller : Nat) (world later : ClaimWorld) : Prop where
  held : ∀ name, world.holder name = some caller → caller ∉ world.claims name →
    later.holder name = some caller
  idle : ∀ name, world.holder name ≠ some caller → later.holder name ≠ some caller
  unreturned : ∀ name, caller ∉ world.claims name → caller ∉ later.claims name

theorem ClaimRely.refl (caller : Nat) (world : ClaimWorld) : ClaimRely caller world world :=
  ⟨fun _ held _ => held, fun _ idle => idle, fun _ unreturned => unreturned⟩

theorem ClaimRely.trans {caller : Nat} {first second third : ClaimWorld}
    (one : ClaimRely caller first second) (two : ClaimRely caller second third) :
    ClaimRely caller first third := by
  refine ⟨?_, fun name idle => two.idle name (one.idle name idle),
    fun name unreturned => two.unreturned name (one.unreturned name unreturned)⟩
  intro name held unreturned
  exact two.held name (one.held name held unreturned) (one.unreturned name unreturned)

theorem ClaimRely.of_eq {caller : Nat} {world later : ClaimWorld}
    (holder : later.holder = world.holder) (claims : later.claims = world.claims) :
    ClaimRely caller world later :=
  ⟨fun _ held _ => holder ▸ held, fun _ idle => holder ▸ idle,
    fun _ unreturned => claims ▸ unreturned⟩

section

variable {caller other : Nat} {world : ClaimWorld} {name : String}

theorem ClaimRely.hold (apart : other ≠ caller)
    (free : (world.holder name).all (fun holder => holder = caller) = true) (disk : Disk) :
    ClaimRely other world (ClaimWorld.hold { world with disk } name caller) := by
  refine ⟨?_, ?_, fun _ unreturned => unreturned⟩
  · intro wanted held _
    by_cases same : wanted = name
    · subst same
      rw [held] at free
      exact absurd (by simpa using free) apart
    · simpa [ClaimWorld.hold, same] using held
  · intro wanted idle
    by_cases same : wanted = name
    · subst same
      simpa [ClaimWorld.hold] using apart.symm
    · simpa [ClaimWorld.hold, same] using idle

theorem ClaimRely.letGo (apart : other ≠ caller) (disk : Disk) :
    ClaimRely other world (ClaimWorld.letGo { world with disk } name caller) := by
  unfold ClaimWorld.letGo
  split
  next mine =>
    refine ⟨?_, ?_, fun _ unreturned => unreturned⟩
    · intro wanted held _
      by_cases same : wanted = name
      · subst same
        exact absurd (Option.some.inj (held.symm.trans mine)) apart
      · simpa [same] using held
    · intro wanted idle
      by_cases same : wanted = name
      · subst same
        simp
      · simpa [same] using idle
  next => exact .of_eq rfl rfl

theorem ClaimRely.return_ (apart : other ≠ caller) (disk : Disk) :
    ClaimRely other world (ClaimWorld.return_ { world with disk } name caller) := by
  refine ⟨fun _ held _ => held, fun _ idle => idle, ?_⟩
  intro wanted unreturned
  by_cases same : wanted = name
  · subst same
    simpa [ClaimWorld.return_, apart] using unreturned
  · simpa [ClaimWorld.return_, same] using unreturned

end

structure Standing (caller : Nat) (held : Option String) (world : ClaimWorld) : Prop where
  holds : ∀ name, world.holder name = some caller ↔ held = some name
  unreturned : ∀ name, caller ∉ world.claims name

theorem Standing.later {caller : Nat} {held : Option String} {world later : ClaimWorld}
    (standing : Standing caller held world) (meanwhile : ClaimRely caller world later) :
    Standing caller held later := by
  refine ⟨?_, fun name => meanwhile.unreturned name (standing.unreturned name)⟩
  intro name
  by_cases mine : world.holder name = some caller
  · exact ⟨fun _ => (standing.holds name).mp mine,
      fun _ => meanwhile.held name mine (standing.unreturned name)⟩
  · exact ⟨fun held => absurd held (meanwhile.idle name mine),
      fun held => absurd ((standing.holds name).mpr held) mine⟩

section

variable {caller : Nat} {held : Option String} {world : ClaimWorld} {name : String}

def ChangedAt (name : String) (disk later : Disk) : Prop :=
  ∀ bucket wanted, wanted ≠ name → later.names bucket wanted = disk.names bucket wanted

theorem changedAt_setName (disk : Disk) (bucket : JobBucket) (name : String) (file : Option Nat) :
    ChangedAt name disk (disk.setName bucket name file) :=
  fun _ _ apart => Disk.setName_other_name apart

theorem changedAt_write (disk : Disk) (bucket : JobBucket) (name : String) (record : Json) :
    ChangedAt name disk (disk.write bucket name record) :=
  changedAt_setName disk bucket name _

theorem changedAt_link (disk : Disk) (source target : JobBucket) (name : String) :
    ChangedAt name disk (disk.link source target name).2 := by
  intro bucket wanted apart
  unfold Disk.link
  split
  · rfl
  · split
    · rfl
    · exact Disk.setName_other_name apart

theorem changedAt_unlink (disk : Disk) (bucket : JobBucket) (name : String) :
    ChangedAt name disk (disk.unlink bucket name).2 := by
  intro other wanted apart
  unfold Disk.unlink
  split
  · rfl
  · exact Disk.setName_other_name apart

theorem changedAt_rename (disk : Disk) (source target : JobBucket) (name : String) :
    ChangedAt name disk (disk.rename source target name).2 := by
  intro bucket wanted apart
  unfold Disk.rename
  split
  · rfl
  · split
    · rfl
    · simp only [Disk.setName_other_name apart]

theorem ClaimInv.hold (inv : ClaimInv world)
    (free : (world.holder name).all (fun holder => holder = caller) = true) {disk : Disk}
    (changed : ChangedAt name world.disk disk)
    (guarded : disk.names .pending name = none ∨ disk.names .inProgress name ≠ none) :
    ClaimInv (ClaimWorld.hold { world with disk } name caller) := by
  constructor
  · intro wanted
    by_cases same : wanted = name
    · subst same
      rcases inv.one wanted with none | ⟨owner, returned, holds⟩
      · exact .inl none
      · rw [holds] at free
        have mine : owner = caller := by simpa using free
        exact .inr ⟨caller, mine ▸ returned, by simp [ClaimWorld.hold]⟩
    · simpa [ClaimWorld.hold, same] using inv.one wanted
  · intro wanted holds
    by_cases same : wanted = name
    · subst same
      exact guarded
    · have before := inv.guarded wanted (by simpa [ClaimWorld.hold, same] using holds)
      simpa [ClaimWorld.hold, changed _ _ same] using before

theorem ClaimInv.letGo (inv : ClaimInv world) (unreturned : caller ∉ world.claims name)
    (free : (world.holder name).all (fun holder => holder = caller) = true) {disk : Disk}
    (changed : ChangedAt name world.disk disk) :
    ClaimInv (ClaimWorld.letGo { world with disk } name caller) := by
  have nobody : (ClaimWorld.letGo { world with disk } name caller).holder name = none := by
    unfold ClaimWorld.letGo
    split
    · simp
    next other =>
      cases owner : world.holder name with
      | none => rfl
      | some holder =>
        rw [owner] at free
        have mine : holder = caller := by simpa using free
        exact absurd (mine ▸ owner) other
  have rest : ∀ wanted, wanted ≠ name →
      (ClaimWorld.letGo { world with disk } name caller).holder wanted = world.holder wanted := by
    intro wanted apart
    unfold ClaimWorld.letGo
    split
    · simp [apart]
    · rfl
  have kept : (ClaimWorld.letGo { world with disk } name caller).claims = world.claims ∧
      (ClaimWorld.letGo { world with disk } name caller).disk = disk := by
    unfold ClaimWorld.letGo
    split <;> exact ⟨rfl, rfl⟩
  constructor
  · intro wanted
    rw [kept.1]
    by_cases same : wanted = name
    · subst same
      rcases inv.one wanted with none | ⟨owner, returned, holds⟩
      · exact .inl none
      · rw [holds] at free
        have mine : owner = caller := by simpa using free
        exact absurd (by simp [returned, mine]) unreturned
    · rw [rest wanted same]
      exact inv.one wanted
  · intro wanted holds
    by_cases same : wanted = name
    · subst same
      exact absurd nobody holds
    · rw [rest wanted same] at holds
      rw [kept.2, changed _ _ same, changed _ _ same]
      exact inv.guarded wanted holds

theorem ClaimInv.disk (inv : ClaimInv world) {disk : Disk}
    (changed : ChangedAt name world.disk disk)
    (guarded : world.disk.names .pending name = none ∨ world.disk.names .inProgress name ≠ none →
      disk.names .pending name = none ∨ disk.names .inProgress name ≠ none) :
    ClaimInv { world with disk } := by
  refine ⟨inv.one, ?_⟩
  intro wanted holds
  by_cases same : wanted = name
  · subst same
    exact guarded (inv.guarded wanted holds)
  · show disk.names _ wanted = none ∨ disk.names _ wanted ≠ none
    rw [changed _ _ same, changed _ _ same]
    exact inv.guarded wanted holds

theorem Standing.hold (standing : Standing caller none world) (disk : Disk) :
    Standing caller (some name) (ClaimWorld.hold { world with disk } name caller) := by
  refine ⟨?_, standing.unreturned⟩
  intro wanted
  by_cases same : wanted = name
  · subst same
    simp [ClaimWorld.hold]
  · have idle : world.holder wanted ≠ some caller := fun mine => by
      cases (standing.holds wanted).mp mine
    have apart : name ≠ wanted := fun other => same other.symm
    simp [ClaimWorld.hold, same, idle, apart]

theorem Standing.letGo (standing : Standing caller held world)
    (own : held = none ∨ held = some name) (disk : Disk) :
    Standing caller none (ClaimWorld.letGo { world with disk } name caller) := by
  unfold ClaimWorld.letGo
  split
  next mine =>
    refine ⟨?_, standing.unreturned⟩
    intro wanted
    by_cases same : wanted = name
    · subst same
      simp
    · have idle : world.holder wanted ≠ some caller := by
        intro holds
        have claimed := (standing.holds wanted).mp holds
        rw [(standing.holds name).mp mine] at claimed
        exact same (Option.some.inj claimed).symm
      simp [same, idle]
  next other =>
    have idle : held = none :=
      own.resolve_right fun holds => other ((standing.holds name).mpr holds)
    subst idle
    exact ⟨standing.holds, standing.unreturned⟩

end

theorem ClaimInv.bury {world : ClaimWorld} (inv : ClaimInv world) (caller : Nat) :
    ClaimInv (world.bury caller) := by
  constructor
  · intro name
    rcases inv.one name with none | ⟨owner, returned, holds⟩
    · exact .inl (by simp [ClaimWorld.bury, none])
    · by_cases same : owner = caller
      · exact .inl (by simp [ClaimWorld.bury, returned, same])
      · exact .inr ⟨owner, by simp [ClaimWorld.bury, returned, same],
          by simp [ClaimWorld.bury, holds, same]⟩
  · intro name holds
    refine inv.guarded name ?_
    intro nobody
    simp [ClaimWorld.bury, nobody] at holds

theorem ClaimRely.bury {caller other : Nat} (apart : other ≠ caller) (world : ClaimWorld) :
    ClaimRely other world (world.bury caller) := by
  refine ⟨?_, ?_, ?_⟩
  · intro name held _
    simp [ClaimWorld.bury, held, apart]
  · intro name idle held
    simp only [ClaimWorld.bury, Option.filter_eq_some_iff] at held
    exact idle held.1
  · intro name unreturned
    simp only [ClaimWorld.bury, List.mem_filter, not_and]
    exact fun returned => absurd returned unreturned

theorem ClaimInv.giveBack {world : ClaimWorld} (inv : ClaimInv world) (name : String) :
    ClaimInv (world.giveBack name) := by
  unfold ClaimWorld.giveBack
  split
  · exact inv
  · constructor
    · intro wanted
      by_cases same : wanted = name
      · subst same
        exact .inl (by simp)
      · simpa [same] using inv.one wanted
    · intro wanted holds
      by_cases same : wanted = name
      · subst same
        simp at holds
      · have before := inv.guarded wanted (by simpa [same] using holds)
        have changed := changedAt_rename world.disk .inProgress .pending name
        simpa [changed _ _ same] using before

theorem ClaimRely.giveBack {world : ClaimWorld} (inv : ClaimInv world) (name : String)
    (caller : Nat) : ClaimRely caller world (world.giveBack name) := by
  unfold ClaimWorld.giveBack
  split
  · exact .refl caller world
  next some =>
    refine ⟨?_, ?_, ?_⟩
    · intro wanted held unreturned
      by_cases same : wanted = name
      · subst same
        -- A record that has been returned is held by whom it was returned to.
        rcases inv.one wanted with none | ⟨owner, returned, holds⟩
        · exact absurd none some
        · obtain rfl := Option.some.inj (held.symm.trans holds)
          exact absurd (by simp [returned]) unreturned
      · simpa [same] using held
    · intro wanted idle
      by_cases same : wanted = name
      · subst same
        simp
      · simpa [same] using idle
    · intro wanted unreturned
      by_cases same : wanted = name
      · subst same
        simp
      · simpa [same] using unreturned

def claimDiscipline : Discipline claimSystem where
  allowed := fun _ caller {_} effect world => mayRemove caller effect world = true
  inv := ClaimInv
  rely := ClaimRely
  rely_refl := ClaimRely.refl
  rely_trans := ClaimRely.trans
  external_ok := fun name _ inv => ⟨inv.giveBack name, fun caller => .giveBack inv name caller⟩
  crash_ok := fun caller world inv => ⟨inv.bury caller, fun _ apart => .bury apart world⟩

section

variable {α β : Type} {caller : Nat} {held : Option String} {world : ClaimWorld} {name : String}
  {ends : Except String α → ClaimWorld → Prop}

theorem Standing.safe_ask {effect : QueueEffect β} {next : β → Prog QueueEffect α}
    (asks : ∀ answers state, (performClaim answers caller effect state).2 = state)
    (standing : Standing caller held world) (then_ : ∀ answer later, Standing caller held later →
      Safe claimDiscipline caller (next answer) ends later) :
    Safe claimDiscipline caller (.step effect next) ends world := by
  intro later meanwhile inv answers _
  have same := asks answers later
  simp only [claimSystem]
  rw [same]
  exact ⟨inv, fun other _ => .refl other later, then_ _ later (standing.later meanwhile)⟩

theorem Standing.safe_write {bucket : JobBucket} {record : Json}
    {next : Except String Unit → Prog QueueEffect α} (apart : bucket ≠ .pending)
    (standing : Standing caller held world) (then_ : ∀ answer later, Standing caller held later →
      Safe claimDiscipline caller (next answer) ends later) :
    Safe claimDiscipline caller (.step (.write bucket name record) next) ends world := by
  intro later meanwhile inv answers _
  have still := standing.later meanwhile
  simp only [claimSystem, performClaim, performDisk]
  cases answers.failure with
  | some message => exact ⟨inv, fun other _ => .refl other later, then_ _ later still⟩
  | none =>
    refine ⟨?_, fun other _ => .of_eq rfl rfl, then_ _ _ ⟨still.holds, still.unreturned⟩⟩
    refine inv.disk (changedAt_write later.disk bucket name record) ?_
    rintro (gone | linked)
    · exact .inl (by simpa [Disk.write, Disk.setName, apart.symm] using gone)
    · refine .inr ?_
      by_cases same : bucket = .inProgress
      · subst same
        simp [Disk.write, Disk.setName]
      · have other : JobBucket.inProgress ≠ bucket := fun reversed => same reversed.symm
        simpa [Disk.write, Disk.setName, other] using linked

variable {next : Except DiskError Unit → Prog QueueEffect α}

theorem safe_link (standing : Standing caller none world)
    (made : ∀ later, Standing caller (some name) later →
      Safe claimDiscipline caller (next (.ok ())) ends later)
    (failed : ∀ failure later, Standing caller none later →
      Safe claimDiscipline caller (next (.error failure)) ends later) :
    Safe claimDiscipline caller (.step (.link .pending .inProgress name) next) ends world := by
  intro later meanwhile inv answers _
  have still := standing.later meanwhile
  simp only [claimSystem, performClaim, performDisk]
  cases answers.failure with
  | some message => exact ⟨inv, fun other _ => .refl other later, failed _ later still⟩
  | none =>
    have changed := changedAt_link later.disk .pending .inProgress name
    unfold Disk.link at changed ⊢
    cases pending : later.disk.names .pending name with
    | none => exact ⟨inv, fun other _ => .refl other later, failed _ later still⟩
    | some file =>
      simp only [pending] at changed ⊢
      split at changed
      next linked =>
        rw [if_pos linked]
        exact ⟨inv, fun other _ => .refl other later, failed _ later still⟩
      next free =>
        rw [if_neg free]
        -- The name in progress is free and the pending one is there, so nobody holds the record.
        have nobody : later.holder name = none := by
          by_contra holds
          rcases inv.guarded name holds with gone | linked
          · rw [pending] at gone
            cases gone
          · exact free linked
        have all : (later.holder name).all (fun holder => holder = caller) = true := by
          simp [nobody]
        refine ⟨inv.hold all changed (.inr ?_), fun other apart => .hold apart all _,
          made _ (still.hold _)⟩
        simp

theorem safe_unlinkPending
    (own : held = none ∨ held = some name) (standing : Standing caller held world)
    (gone : ∀ answer later, answer = .ok () ∨ answer = .error .enoent →
      Standing caller (some name) later → Safe claimDiscipline caller (next answer) ends later)
    (failed : ∀ message later, Standing caller held later →
      Safe claimDiscipline caller (next (.error (.other message))) ends later) :
    Safe claimDiscipline caller (.step (.unlink .pending name) next) ends world := by
  intro later meanwhile inv answers allowed
  have still := standing.later meanwhile
  have free : (later.holder name).all (fun holder => holder = caller) = true := allowed
  simp only [claimSystem, performClaim, performDisk]
  cases answers.failure with
  | some message => exact ⟨inv, fun other _ => .refl other later, failed _ later still⟩
  | none =>
    have standingAfter : ∀ disk : Disk,
        Standing caller (some name) (ClaimWorld.hold { later with disk } name caller) := by
      intro disk
      rcases own with rfl | rfl
      · exact still.hold disk
      · -- Taking hold of what one holds changes nothing.
        have mine : later.holder name = some caller := (still.holds name).mpr rfl
        have same : Function.update later.holder name (some caller) = later.holder :=
          Function.update_eq_self_iff.mpr mine.symm
        refine ⟨?_, still.unreturned⟩
        simpa [ClaimWorld.hold, same] using still.holds
    have changed := changedAt_unlink later.disk .pending name
    unfold Disk.unlink at changed ⊢
    cases pending : later.disk.names .pending name with
    | none =>
      exact ⟨inv.hold free (fun _ _ _ => rfl) (.inl pending),
        fun other apart => .hold apart free _, gone _ _ (.inr rfl) (standingAfter _)⟩
    | some file =>
      simp only [pending] at changed ⊢
      exact ⟨inv.hold free changed (.inl (by simp)), fun other apart => .hold apart free _,
        gone _ _ (.inl rfl) (standingAfter _)⟩

theorem safe_unlinkLink
    (own : held = none ∨ held = some name) (standing : Standing caller held world)
    (then_ : ∀ answer later, Standing caller none later →
      Safe claimDiscipline caller (next answer) ends later) :
    Safe claimDiscipline caller (.step (.unlink .inProgress name) next) ends world := by
  intro later meanwhile inv answers allowed
  have still := standing.later meanwhile
  have free : (later.holder name).all (fun holder => holder = caller) = true := allowed
  simp only [claimSystem, performClaim, performDisk]
  cases answers.failure with
  | some message =>
    exact ⟨inv.letGo (still.unreturned name) free fun _ _ _ => rfl,
      fun other apart => .letGo apart _, then_ _ _ (still.letGo own _)⟩
  | none =>
    have changed := changedAt_unlink later.disk .inProgress name
    exact ⟨inv.letGo (still.unreturned name) free changed,
      fun other apart => .letGo apart _, then_ _ _ (still.letGo own _)⟩

theorem safe_handBack (standing : Standing caller (some name) world)
    (then_ : ∀ answer later, Standing caller none later →
      Safe claimDiscipline caller (next answer) ends later) :
    Safe claimDiscipline caller (.step (.rename .inProgress .pending name) next) ends world := by
  intro later meanwhile inv answers _
  have still := standing.later meanwhile
  have mine : later.holder name = some caller := (still.holds name).mpr rfl
  have free : (later.holder name).all (fun holder => holder = caller) = true := by simp [mine]
  simp only [claimSystem, performClaim, performDisk]
  cases answers.failure with
  | some message =>
    exact ⟨inv.letGo (still.unreturned name) free fun _ _ _ => rfl,
      fun other apart => .letGo apart _, then_ _ _ (still.letGo (.inr rfl) _)⟩
  | none =>
    have changed := changedAt_rename later.disk .inProgress .pending name
    exact ⟨inv.letGo (still.unreturned name) free changed,
      fun other apart => .letGo apart _, then_ _ _ (still.letGo (.inr rfl) _)⟩

theorem safe_moveCorrupt (standing : Standing caller held world)
    (then_ : ∀ answer later, Standing caller held later →
      Safe claimDiscipline caller (next answer) ends later) :
    Safe claimDiscipline caller (.step (.rename .pending .failed name) next) ends world := by
  intro later meanwhile inv answers _
  have still := standing.later meanwhile
  simp only [claimSystem, performClaim, performDisk]
  cases answers.failure with
  | some message => exact ⟨inv, fun other _ => .refl other later, then_ _ later still⟩
  | none =>
    refine ⟨inv.disk (changedAt_rename later.disk .pending .failed name) ?_,
      fun other _ => .of_eq rfl rfl, then_ _ _ ⟨still.holds, still.unreturned⟩⟩
    intro before
    unfold Disk.rename
    cases later.disk.names .pending name with
    | none => exact before
    | some file =>
      by_cases same : later.disk.names .failed name = some file
      · simpa [same] using before
      · exact .inl (by simp [same])

theorem safe_returned (standing : Standing caller (some name) world) :
    Safe claimDiscipline caller (.perform (.returned name)) (fun _ _ => True) world := by
  intro later meanwhile inv answers _
  have still := standing.later meanwhile
  have mine : later.holder name = some caller := (still.holds name).mpr rfl
  refine ⟨?_, fun other apart => .return_ apart _, fun _ _ => trivial⟩
  constructor
  · intro wanted
    by_cases same : wanted = name
    · subst same
      -- Whoever it was returned to before would hold it, and that is this caller.
      rcases inv.one wanted with none | ⟨owner, returned, holds⟩
      · exact .inr ⟨caller, by simp [claimSystem, performClaim, trackClaim, ClaimWorld.return_, none,
          performDisk], mine⟩
      · obtain rfl := Option.some.inj (mine.symm.trans holds)
        exact absurd (by simp [returned]) (still.unreturned wanted)
    · simpa [claimSystem, performClaim, trackClaim, ClaimWorld.return_, performDisk, same]
        using inv.one wanted
  · exact inv.guarded

theorem safe_statOrMissing (standing : Standing caller held world) (bucket : JobBucket) :
    Safe claimDiscipline caller (statOrMissing bucket name)
      (fun _ last => Standing caller held last) world := by
  simp only [statOrMissing, Prog.bind_eq, Prog.perform_bind]
  refine standing.safe_ask (fun answers _ => ?_) fun answer later standing => ?_
  · cases failing : answers.failure <;> simp [performClaim, performDisk, trackClaim, failing]
  · split
    · exact fun _ rest => standing.later rest
    · exact fun _ rest => standing.later rest
    · exact fun _ rest => standing.later rest

theorem safe_pathsShareInode (standing : Standing caller held world) :
    Safe claimDiscipline caller (pathsShareInode name)
      (fun _ last => Standing caller held last) world := by
  refine Safe.bind ((safe_statOrMissing standing .pending).mono ?_)
  intro result last ended
  have standing := ended last (ClaimRely.refl caller last)
  cases result with
  | error message => exact standing
  | ok left =>
    cases left with
    | none => exact fun _ rest => standing.later rest
    | some file =>
      refine Safe.bind ((safe_statOrMissing standing .inProgress).mono ?_)
      intro result last ended
      have standing := ended last (ClaimRely.refl caller last)
      cases result with
      | error message => exact standing
      | ok right => cases right <;> exact fun _ rest => standing.later rest

/-- Where a caller may go on, it holds nothing but perhaps the record. -/
def Acquired (caller : Nat) (name : String) (result : Except String Bool) (world : ClaimWorld) :
    Prop :=
  match result with
  | .ok true => ∃ held, (held = none ∨ held = some name) ∧ Standing caller held world
  | .ok false => Standing caller none world
  | .error _ => True

theorem safe_acquireLink (standing : Standing caller none world) :
    Safe claimDiscipline caller (acquireLink name) (Acquired caller name) world := by
  refine safe_link standing ?_ ?_
  · intro later standing last rest
    exact ⟨some name, .inr rfl, standing.later rest⟩
  · intro failure later standing
    cases failure with
    | enoent => exact fun _ rest => standing.later rest
    | other message => exact fun _ _ => trivial
    | eexist =>
      -- Whoever finds the same file behind both names goes on without holding it.
      refine (safe_pathsShareInode standing).mono ?_
      intro result last ended
      have standing := ended last (ClaimRely.refl caller last)
      match result with
      | .ok true => exact ⟨none, .inl rfl, standing⟩
      | .ok false => exact standing
      | .error _ => trivial

def Secured (caller : Nat) (name : String) (result : Except String Unit) (world : ClaimWorld) :
    Prop :=
  result = .ok () → Standing caller (some name) world

theorem safe_dropPending (own : held = none ∨ held = some name)
    (standing : Standing caller held world) :
    Safe claimDiscipline caller (dropPending name) (Secured caller name) world := by
  refine safe_unlinkPending own standing ?_ ?_
  · rintro answer later (rfl | rfl) standing <;> exact fun _ rest _ => standing.later rest
  · intro message later standing
    refine safe_unlinkLink own standing ?_
    intro answer last standing final rest failed
    cases failed

theorem safe_writeClaim (standing : Standing caller (some name) world) (record : Json) :
    Safe claimDiscipline caller (writeClaim name record) (Secured caller name) world := by
  refine standing.safe_write (by decide) ?_
  intro answer later standing
  cases answer with
  | ok _ => exact fun _ rest _ => standing.later rest
  | error message =>
    refine safe_handBack standing ?_
    intro answer last standing final rest failed
    cases failed

theorem safe_moveCorruptPending (standing : Standing caller none world) (failedAt error : String) :
    Safe claimDiscipline caller (moveCorruptPendingArgusJob name failedAt error)
      (fun _ last => Standing caller none last) world := by
  refine standing.safe_ask (fun answers _ => ?_) fun made later standing => ?_
  · cases failing : answers.failure <;> simp [performClaim, performDisk, trackClaim, failing]
  cases made with
  | error message => exact fun _ rest => standing.later rest
  | ok _ =>
    refine safe_moveCorrupt standing ?_
    intro answer later standing
    match answer with
    | .error .enoent => exact fun _ rest => standing.later rest
    | .error .eexist => exact fun _ rest => standing.later rest
    | .error (.other _) => exact fun _ rest => standing.later rest
    | .ok _ =>
      refine standing.safe_write (by decide) ?_
      intro answer last standing
      cases answer <;> exact fun _ rest => standing.later rest

def Claimed (caller : Nat) (result : Except String (Option ClaimedJob)) (world : ClaimWorld) :
    Prop :=
  ∀ claimed, result = .ok (some claimed) → Standing caller (some claimed.name) world

theorem safe_mayClaim (standing : Standing caller held world) (options : ClaimOptions)
    (job : Json) :
    Safe claimDiscipline caller (mayClaim options job)
      (fun _ last => Standing caller held last) world := by
  simp only [mayClaim, Prog.bind_eq, Prog.perform_bind]
  split
  · refine standing.safe_ask (fun answers _ => ?_) fun answer later standing => ?_
    · cases failing : answers.failure <;> simp [performClaim, performDisk, trackClaim, failing]
    · cases answer <;> exact fun _ rest => standing.later rest
  · exact fun _ rest => standing.later rest

theorem safe_claimEntries (options : ClaimOptions) (entries : List String)
    (standing : Standing caller none world) :
    Safe claimDiscipline caller (claimEntries options entries) (Claimed caller) world := by
  induction entries generalizing world with
  | nil =>
    intro later rest claimed returned
    cases returned
  | cons name rest ih =>
    simp only [claimEntries, Prog.bind_eq, Prog.perform_bind]
    refine standing.safe_ask (fun answers _ => ?_) fun job later standing => ?_
    · cases failing : answers.failure <;> simp [performClaim, performDisk, trackClaim, failing]
    cases job with
    | error message =>
      refine Safe.bind ((safe_moveCorruptPending standing _ message).mono ?_)
      intro result last ended
      have standing := ended last (ClaimRely.refl caller last)
      cases result with
      | error message => exact fun _ returned => by cases returned
      | ok _ => exact ih standing
    | ok job =>
      refine Safe.bind ((safe_mayClaim standing options job).mono ?_)
      intro result last ended
      have standing := ended last (ClaimRely.refl caller last)
      match result with
      | .error message => exact fun _ returned => by cases returned
      | .ok false => exact ih standing
      | .ok true =>
        refine standing.safe_ask (fun answers _ => ?_) fun made later standing => ?_
        · cases failing : answers.failure <;> simp [performClaim, performDisk, trackClaim, failing]
        cases made with
        | error message => exact fun _ _ _ returned => by cases returned
        | ok _ =>
          simp only [Prog.raise_ok, Prog.pure_bind]
          refine Safe.bind ((safe_acquireLink standing).mono ?_)
          intro result last ended
          have acquired := ended last (ClaimRely.refl caller last)
          match result with
          | .error message => exact fun _ returned => by cases returned
          | .ok false => exact ih acquired
          | .ok true =>
            obtain ⟨held, own, standing⟩ := acquired
            refine Safe.bind ((safe_dropPending own standing).mono ?_)
            intro result last ended
            have secured := ended last (ClaimRely.refl caller last)
            cases result with
            | error message => exact fun _ returned => by cases returned
            | ok _ =>
              refine Safe.bind ((safe_writeClaim (secured rfl) _).mono ?_)
              intro result last ended
              have secured := ended last (ClaimRely.refl caller last)
              cases result with
              | error message => exact fun _ returned => by cases returned
              | ok _ =>
                intro final rest claimed returned
                cases returned
                exact (secured rfl).later rest

theorem safe_claimCall (options : ClaimOptions) (standing : Standing caller none world) :
    Safe claimDiscipline caller (claimCall options) (fun _ _ => True) world := by
  have whole : Safe claimDiscipline caller (claimNextArgusJob options) (Claimed caller) world := by
    simp only [claimNextArgusJob, Prog.bind_eq, Prog.perform_bind]
    refine standing.safe_ask (fun answers _ => ?_) fun listed later standing => ?_
    · cases failing : answers.failure <;> simp [performClaim, performDisk, trackClaim, failing]
    cases listed with
    | error message => exact fun _ _ _ returned => by cases returned
    | ok entries => exact safe_claimEntries options _ standing
  refine Safe.bind (whole.mono ?_)
  intro result last ended
  have claimed := ended last (ClaimRely.refl caller last)
  match result with
  | .error message => trivial
  | .ok none => exact fun _ _ => trivial
  | .ok (some job) => exact safe_returned (claimed job rfl)

end

def NoTakeover (config : Config Nat ClaimWorld QueueEffect)
    (moves : List (Move Nat DiskAnswers String)) : Prop :=
  claimSystem.Meets (fun _ caller {_} effect world => mayRemove caller effect world = true)
    config moves

instance (config : Config Nat ClaimWorld QueueEffect) (moves : List (Move Nat DiskAnswers String)) :
    Decidable (NoTakeover config moves) :=
  inferInstanceAs (Decidable (claimSystem.Meets _ config moves))

/-- Without a takeover from a live caller, every record is returned to one live caller at most. -/
theorem one_claimant (disk : Disk) (calls : Nat → ClaimOptions)
    (moves : List (Move Nat DiskAnswers String))
    (alone : NoTakeover (startClaiming disk calls) moves) (name : String) :
    ((claimSystem.runMoves (startClaiming disk calls) moves).shared.claims name).length ≤ 1 := by
  have start : AllSafe claimDiscipline (startClaiming disk calls) := by
    refine ⟨⟨fun _ => .inl rfl, fun _ holds => absurd rfl holds⟩, fun caller => ?_⟩
    exact safe_claimCall (calls caller) ⟨by simp [startClaiming], by simp [startClaiming]⟩
  rcases (start.runMoves alone).inv.one name with none | ⟨caller, returned, -⟩
  · simp [none]
  · simp [returned]

def samplePending : Disk :=
  { names := fun bucket name => if bucket = .pending ∧ name = "job.json" then some 0 else none
    files := fun _ => .record (.obj [("status", .str "pending")])
    fresh := 1 }

def sampleCalls : Nat → ClaimOptions := fun _ => { claimedAt := "2026-01-01T00:00:00.000Z" }

def claimSteps (caller count : Nat) : List (Move Nat DiskAnswers String) :=
  List.replicate count (.run caller { listing := ["job.json"] })

/-- A second caller between the link and the unlink of a first one takes the record as well. -/
theorem two_claimants :
    (claimSystem.runMoves (startClaiming samplePending sampleCalls)
      (claimSteps 1 4 ++ claimSteps 2 9 ++ claimSteps 1 4)).shared.claims "job.json" = [2, 1] := by
  decide

theorem one_claimant_sample :
    ((claimSystem.runMoves (startClaiming samplePending sampleCalls)
      (claimSteps 1 4 ++ [.crash 1] ++ claimSteps 2 9)).shared.claims "job.json").length ≤ 1 :=
  one_claimant samplePending sampleCalls _ (by decide) "job.json"

end AdversarialReview.Argus
