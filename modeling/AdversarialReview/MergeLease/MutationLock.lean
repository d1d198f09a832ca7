import Mathlib.Data.Int.Order.Basic
import AdversarialReview.Library.Interleaving

/-! The mutation lock of a merge lease, any number of processes that take it, and who can be inside. -/

namespace AdversarialReview.MergeLease

structure MutationLock where
  holderPid : Nat
  acquiredAt : Int
  file : Nat

/-- The steps of a process; a protected body does steps of its own. -/
inductive LockEffect : Type → Type where
  | now : LockEffect Int
  /-- A new lock file with the process as its holder; refused where there is one. -/
  | create (acquiredAt : Int) : LockEffect Bool
  | read : LockEffect (Option MutationLock)
  | pidAlive (pid : Nat) : LockEffect Bool
  /-- The stale age, as the load of the machine scales it, to judge a lock by. -/
  | staleAge (judged : Option MutationLock) : LockEffect Int
  /-- Remove the lock file, after it was read and found stale. -/
  | breakLock (found : Option MutationLock) : LockEffect Unit
  | sleep : LockEffect Unit
  | work : LockEffect Unit
  /-- Remove the lock file at the end of a protected body. -/
  | cleanup : LockEffect Unit

abbrev LockProg := Prog LockEffect

def mutationLockRetryAttempts : Nat := 50

def holderFoundDead (held : MutationLock) : LockProg Bool :=
  if 0 < held.holderPid then do return !(← Prog.perform (.pidAlive held.holderPid))
  else return false

def mutationLockIsStale (lock : Option MutationLock) (nowMs : Int) : LockProg Bool :=
  match lock with
  | none => return true
  | some held => do
    if ← holderFoundDead held then return true
    return (← Prog.perform (.staleAge lock)) ≤ nowMs - held.acquiredAt

def breakStaleMutationLock (nowMs : Int) : LockProg Bool := do
  let existing ← Prog.perform .read
  if !(← mutationLockIsStale existing nowMs) then return false
  Prog.perform (.breakLock existing)
  return true

def acquireAttempts (nowMs : Int) : Nat → LockProg Bool
  | 0 => return false
  | attempts + 1 => do
    if ← Prog.perform (.create nowMs) then return true
    if !(← breakStaleMutationLock nowMs) then Prog.perform .sleep
    acquireAttempts nowMs attempts

def acquireMutationLock (nowMs : Int) : LockProg Bool :=
  acquireAttempts nowMs mutationLockRetryAttempts

structure LockedBody where
  steps : Nat
  throws : Bool := false

def LockedBody.run (throws : Bool) : Nat → LockProg Unit
  | 0 => if throws then .fail "thrown by the protected body" else return ()
  | steps + 1 => do
    Prog.perform .work
    LockedBody.run throws steps

def withMutationLock (body : LockedBody) : LockProg Bool := do
  let nowMs ← Prog.perform .now
  if ← acquireMutationLock nowMs then
    (LockedBody.run body.throws body.steps).finally_ (Prog.perform .cleanup)
    return true
  else return false

def lockProcess : List LockedBody → LockProg Unit
  | [] => return ()
  | body :: rest => goOn (lockProcess rest) (withMutationLock body)
where
  /-- What follows a call, however the call ends. -/
  goOn (next : LockProg Unit) : LockProg Bool → LockProg Unit
    | .pure _ => next
    | .fail _ => next
    | .step effect answered => .step effect fun answer => goOn next (answered answer)

/-! Processes at work on one host. -/

structure LockWorld where
  time : Int := 0
  lock : Option MutationLock := none
  alive : Nat → Bool := fun _ => true
  /-- How many lock files were created. -/
  created : Nat := 0
  /-- The processes that took the lock and have not removed it since. -/
  inside : Nat → Bool := fun _ => false
  /-- A process removed a lock file of another one that lives. -/
  robbed : Bool := false

def pidOf (process : Nat) : Nat := process + 1

namespace LockWorld

def holderLives (world : LockWorld) (lock : MutationLock) : Bool :=
  world.alive (lock.holderPid - 1)

def remove (world : LockWorld) (process : Nat) : LockWorld :=
  { world with
    lock := none
    robbed := world.robbed || world.lock.any fun lock =>
      lock.holderPid ≠ pidOf process && world.holderLives lock }

/-- One step of a process; the environment says how the load scales the stale age. -/
def perform (scaled : Int) (process : Nat) :
    {β : Type} → LockEffect β → LockWorld → β × LockWorld
  | _, .now, world => (world.time, world)
  | _, .create acquiredAt, world =>
    match world.lock with
    | some _ => (false, world)
    | none =>
      (true, { world with
        lock := some { holderPid := pidOf process, acquiredAt, file := world.created }
        created := world.created + 1
        inside := Function.update world.inside process true })
  | _, .read, world => (world.lock, world)
  | _, .pidAlive pid, world => (world.alive (pid - 1), world)
  | _, .staleAge _, world => (scaled, world)
  | _, .breakLock _, world => ((), world.remove process)
  | _, .sleep, world => ((), world)
  | _, .work, world => ((), world)
  | _, .cleanup, world =>
    ((), { world.remove process with inside := Function.update world.inside process false })

def system : Interleaved Nat Int Nat LockWorld LockEffect where
  perform := perform
  external passed world := { world with time := world.time + (passed : Int) }
  crash process world := { world with
    alive := Function.update world.alive process false
    inside := Function.update world.inside process false }

end LockWorld

def OwnersBrisk (scaled : Int) (world : LockWorld) : {β : Type} → LockEffect β → Prop
  | _, .staleAge judged => ∀ lock, judged = some lock → world.lock = some lock →
      world.holderLives lock = true → world.time - lock.acquiredAt < scaled
  | _, _ => True

def BreaksWhatItRead (world : LockWorld) : {β : Type} → LockEffect β → Prop
  | _, .breakLock found => ∀ lock, world.lock = some lock →
      found = some lock ∨ world.holderLives lock = false
  | _, _ => True

/-- What a schedule may do in one step. -/
def LockAllowed (scaled : Int) (_process : Nat) {β : Type} (effect : LockEffect β)
    (world : LockWorld) : Prop :=
  OwnersBrisk scaled world effect ∧ BreaksWhatItRead world effect

structure Exclusive (world : LockWorld) : Prop where
  single : ∀ first second, world.alive first = true → world.alive second = true →
    world.inside first = true → world.inside second = true → first = second
  unrobbed : world.robbed = false

structure LockInv (world : LockWorld) : Prop where
  holds : ∀ process, world.inside process = true → world.alive process = true ∧
    ∃ lock, world.lock = some lock ∧ lock.holderPid = pidOf process
  unrobbed : world.robbed = false
  numbered : ∀ lock, world.lock = some lock → lock.file < world.created

structure LockRely (process : Nat) (before after : LockWorld) : Prop where
  inside : after.inside process = before.inside process
  living : after.alive process = before.alive process
  time : before.time ≤ after.time
  created : before.created ≤ after.created
  dead : ∀ other, before.alive other = false → after.alive other = false
  -- A lock file that was removed does not come back.
  placed : ∀ lock, after.lock = some lock → before.lock = some lock ∨ before.created ≤ lock.file

def Gone (found : Option MutationLock) (world : LockWorld) : Prop :=
  ∀ lock, found = some lock → lock.file < world.created ∧
    (world.lock = some lock → world.holderLives lock = false)

theorem pidOf_injective {first second : Nat} (same : pidOf first = pidOf second) :
    first = second := by
  unfold pidOf at same
  omega

theorem LockInv.exclusive {world : LockWorld} (inv : LockInv world) : Exclusive world where
  single first second _ _ one two := by
    -- The one lock file names one holder.
    obtain ⟨-, lock, placed, mine⟩ := inv.holds first one
    obtain ⟨-, other, there, theirs⟩ := inv.holds second two
    rw [placed] at there
    cases there
    exact pidOf_injective (mine.symm.trans theirs)
  unrobbed := inv.unrobbed

theorem LockRely.refl (process : Nat) (world : LockWorld) : LockRely process world world :=
  ⟨rfl, rfl, Int.le_refl _, Nat.le_refl _, fun _ dead => dead, fun _ placed => .inl placed⟩

theorem LockRely.trans {process : Nat} {first second third : LockWorld}
    (one : LockRely process first second) (two : LockRely process second third) :
    LockRely process first third where
  inside := two.inside.trans one.inside
  living := two.living.trans one.living
  time := Int.le_trans one.time two.time
  created := Nat.le_trans one.created two.created
  dead other dead := two.dead other (one.dead other dead)
  placed lock placed := by
    rcases two.placed lock placed with between | fresh
    · exact one.placed lock between
    · exact .inr (Nat.le_trans one.created fresh)

theorem Gone.later {found : Option MutationLock} {process : Nat} {before after : LockWorld}
    (gone : Gone found before) (rely : LockRely process before after) : Gone found after := by
  intro lock named
  obtain ⟨old, dead⟩ := gone lock named
  refine ⟨Nat.lt_of_lt_of_le old rely.created, fun placed => ?_⟩
  rcases rely.placed lock placed with before | fresh
  · exact rely.dead _ (dead before)
  · omega

theorem LockInv.lives {world : LockWorld} (inv : LockInv world) {process : Nat}
    (inside : world.inside process = true) :
    ∃ lock, world.lock = some lock ∧ lock.holderPid = pidOf process ∧
      world.holderLives lock = true := by
  obtain ⟨alive, lock, placed, mine⟩ := inv.holds process inside
  refine ⟨lock, placed, mine, ?_⟩
  simpa [LockWorld.holderLives, mine, pidOf] using alive

def lockDiscipline : Interleaved.Discipline LockWorld.system where
  allowed := LockAllowed
  inv := LockInv
  rely := LockRely
  rely_refl := LockRely.refl
  rely_trans := LockRely.trans
  external_ok passed world inv := by
    refine ⟨⟨inv.holds, inv.unrobbed, inv.numbered⟩, fun process => ?_⟩
    exact ⟨rfl, rfl, Int.le_add_of_nonneg_right (Int.natCast_nonneg passed), Nat.le_refl _,
      fun _ dead => dead, fun _ placed => .inl placed⟩
  crash_ok process world inv := by
    refine ⟨⟨fun other inside => ?_, inv.unrobbed, inv.numbered⟩, fun other apart => ?_⟩
    · by_cases same : other = process
      · subst same
        simp [LockWorld.system] at inside
      · simp only [LockWorld.system, Function.update_of_ne same] at inside ⊢
        exact inv.holds other inside
    · refine ⟨by simp [LockWorld.system, Function.update_of_ne apart],
        by simp [LockWorld.system, Function.update_of_ne apart], Int.le_refl _, Nat.le_refl _,
        fun third dead => ?_, fun _ placed => .inl placed⟩
      by_cases same : third = process
      · simp [LockWorld.system, same]
      · simpa [LockWorld.system, Function.update_of_ne same] using dead

theorem remove_ok {world : LockWorld} (inv : LockInv world) {process : Nat}
    (free : ∀ lock, world.lock = some lock →
      lock.holderPid = pidOf process ∨ world.holderLives lock = false)
    (outside : ∀ other, other ≠ process → world.inside other = false) :
    (world.remove process).robbed = false ∧ (world.remove process).lock = none ∧
      ∀ other, other ≠ process → LockRely other world (world.remove process) ∧
        (world.remove process).inside other = false := by
  refine ⟨?_, rfl, fun other apart => ⟨⟨rfl, rfl, Int.le_refl _, Nat.le_refl _, fun _ dead => dead,
    fun lock placed => ?_⟩, outside other apart⟩⟩
  · cases placed : world.lock with
    | none => simp [LockWorld.remove, inv.unrobbed, placed]
    | some lock =>
      rcases free lock placed with mine | dead
      · simp [LockWorld.remove, inv.unrobbed, placed, mine]
      · simp [LockWorld.remove, inv.unrobbed, placed, dead]
  · cases placed

open Interleaved

theorem safe_look {α β : Type} {process : Nat} {effect : LockEffect β} {next : β → LockProg α}
    {ends : Except String α → LockWorld → Prop} {world : LockWorld}
    (silent : ∀ scaled world, (LockWorld.perform scaled process effect world).2 = world)
    (safe : ∀ scaled later, LockRely process world later → LockInv later →
      LockAllowed scaled process effect later →
      Safe lockDiscipline process (next (LockWorld.perform scaled process effect later).1) ends
        later) :
    Safe lockDiscipline process (.step effect next) ends world := by
  intro later meanwhile inv scaled allowed
  have same : (LockWorld.system.perform scaled process effect later).2 = later :=
    silent scaled later
  rw [same]
  exact ⟨inv, fun other _ => LockRely.refl other later, safe scaled later meanwhile inv allowed⟩

theorem safe_pure {α : Type} {process : Nat} {value : α}
    {ends : Except String α → LockWorld → Prop} {world : LockWorld}
    (ended : ∀ later, LockRely process world later → ends (.ok value) later) :
    Safe lockDiscipline process (Prog.pure value) ends world :=
  ended

structure Running (process : Nat) (nowMs : Int) (world : LockWorld) : Prop where
  alive : world.alive process = true
  past : nowMs ≤ world.time

theorem Running.later {process : Nat} {nowMs : Int} {before after : LockWorld}
    (running : Running process nowMs before) (rely : LockRely process before after) :
    Running process nowMs after :=
  ⟨rely.living.trans running.alive, Int.le_trans running.past rely.time⟩

section

variable {process : Nat} {nowMs : Int} {world : LockWorld}

theorem safe_stale {found : Option MutationLock} (running : Running process nowMs world)
    (old : ∀ lock, found = some lock → lock.file < world.created) :
    Safe lockDiscipline process (mutationLockIsStale found nowMs)
      (fun result last => Running process nowMs last ∧ (result = .ok true → Gone found last))
      world := by
  unfold mutationLockIsStale
  cases found with
  | none => exact fun later rely => ⟨running.later rely, fun _ lock named => by cases named⟩
  | some held =>
    -- A file that was there before has its number whatever happens.
    have number : ∀ {later}, LockRely process world later → held.file < later.created :=
      fun rely => Nat.lt_of_lt_of_le (old held rfl) rely.created
    -- The second half: the age, by the clock that the call read when it began.
    have aged : ∀ first, LockRely process world first → Safe lockDiscipline process
        ((Prog.perform (.staleAge (some held)) : LockProg Int).bind fun age =>
          Prog.pure (decide (age ≤ nowMs - held.acquiredAt)))
        (fun result last => Running process nowMs last ∧
          (result = .ok true → Gone (some held) last)) first := by
      intro first before
      refine safe_look (fun _ _ => rfl) fun scaled later meanwhile inv allowed => ?_
      have since := before.trans meanwhile
      refine safe_pure fun last rest => ⟨running.later (since.trans rest), fun judged => ?_⟩
      have gone : Gone (some held) later := by
        rintro lock ⟨⟩
        refine ⟨number since, fun placed => ?_⟩
        by_contra lives
        have young := allowed.1 held rfl placed (by simpa using lives)
        have stale : scaled ≤ nowMs - held.acquiredAt := by
          simpa [LockWorld.perform] using of_decide_eq_true (Except.ok.inj judged)
        have time := (running.later since).past
        omega
      exact gone.later rest
    refine Safe.bind ?_
    unfold holderFoundDead
    split
    · refine safe_look (fun _ _ => rfl) fun scaled later meanwhile inv _ => ?_
      refine safe_pure fun last rest => ?_
      cases alive : later.alive (held.holderPid - 1) with
      | true =>
        simpa [LockWorld.perform, alive] using aged last (meanwhile.trans rest)
      | false =>
        have dead : Gone (some held) later := by
          rintro lock ⟨⟩
          exact ⟨number meanwhile, fun _ => alive⟩
        simp only [LockWorld.perform, alive, Bool.not_false, if_true]
        exact safe_pure fun final more => ⟨running.later ((meanwhile.trans rest).trans more),
          fun _ => (dead.later rest).later more⟩
    · exact safe_pure fun last rest => aged last rest

theorem safe_break (running : Running process nowMs world) :
    Safe lockDiscipline process (breakStaleMutationLock nowMs)
      (fun _ last => Running process nowMs last) world := by
  unfold breakStaleMutationLock
  refine safe_look (fun _ _ => rfl) fun scaled later meanwhile inv _ => ?_
  have old : ∀ lock, later.lock = some lock → lock.file < later.created := inv.numbered
  change Safe lockDiscipline process ((mutationLockIsStale later.lock nowMs).bind _) _ _
  refine Safe.bind ((safe_stale (running.later meanwhile) old).mono fun result last judged => ?_)
  have here := (judged last (LockRely.refl process last)).1
  cases result with
  | error message => exact here
  | ok stale =>
    cases stale with
    | false => exact safe_pure fun _ rest => here.later rest
    | true =>
      intro now rest inv scaled allowed
      have gone : Gone later.lock now := (judged now rest).2 rfl
      -- The file is the one that was read, whose owner is dead, or one whose owner died.
      have dead : ∀ lock, now.lock = some lock → now.holderLives lock = false := by
        intro lock placed
        rcases allowed.2 lock placed with read | dead
        · exact (gone lock read).2 placed
        · exact dead
      have outside : ∀ other, now.inside other = false := by
        intro other
        by_contra inside
        obtain ⟨lock, placed, -, lives⟩ := inv.lives (by simpa using inside)
        rw [dead lock placed] at lives
        cases lives
      obtain ⟨unrobbed, removed, others⟩ := @remove_ok _ inv process
        (fun lock placed => .inr (dead lock placed)) (fun other _ => outside other)
      refine ⟨⟨fun other inside => ?_, unrobbed, fun lock placed => by cases placed⟩,
        fun other apart => (others other apart).1, safe_pure fun final more => ?_⟩
      · have out : now.inside other = true := inside
        rw [outside other] at out
        cases out
      · exact @Running.later _ _ (now.remove process) _
          ⟨(here.later rest).alive, (here.later rest).past⟩ more

theorem safe_acquire (attempts : Nat) (running : Running process nowMs world) :
    Safe lockDiscipline process (acquireAttempts nowMs attempts)
      (fun result last => Running process nowMs last ∧
        (result = .ok true → last.inside process = true)) world := by
  induction attempts generalizing world with
  | zero => exact safe_pure fun _ rest => ⟨running.later rest, fun wrong => by cases wrong⟩
  | succ attempts ih =>
    intro later meanwhile inv scaled _
    have here := running.later meanwhile
    cases placed : later.lock with
    | some lock =>
      simp only [LockWorld.system, LockWorld.perform, placed]
      refine ⟨inv, fun other _ => LockRely.refl other later, ?_⟩
      change Safe lockDiscipline process ((breakStaleMutationLock nowMs).bind _) _ _
      refine Safe.bind ((safe_break here).mono fun result last ended => ?_)
      have now := ended last (LockRely.refl process last)
      cases result with
      | error message => exact ⟨now, fun wrong => by cases wrong⟩
      | ok broken =>
        cases broken with
        | true => exact ih now
        | false =>
          exact safe_look (fun _ _ => rfl) fun scaled after rest _ _ => ih (now.later rest)
    | none =>
      simp only [LockWorld.system, LockWorld.perform, placed]
      -- With no lock file in place nobody is inside.
      have outside : ∀ other, later.inside other = false := by
        intro other
        by_contra inside
        obtain ⟨lock, there, -⟩ := inv.lives (by simpa using inside)
        rw [placed] at there
        cases there
      refine ⟨⟨fun other inside => ?_, inv.unrobbed, ?_⟩, fun other apart => ?_, ?_⟩
      · by_cases same : other = process
        · subst same
          exact ⟨here.alive, _, rfl, rfl⟩
        · simp only [Function.update_of_ne same, outside other] at inside
          cases inside
      · rintro lock ⟨⟩
        exact Nat.lt_succ_self _
      · refine ⟨by simp [Function.update_of_ne apart], rfl, Int.le_refl _, Nat.le_succ _,
          fun _ dead => dead, ?_⟩
        rintro lock ⟨⟩
        exact .inr (Nat.le_refl _)
      · refine safe_pure fun last rest => ⟨⟨rest.living.trans here.alive,
          Int.le_trans here.past rest.time⟩, fun _ => ?_⟩
        rw [rest.inside]
        simp

theorem safe_body (throws : Bool) (steps : Nat) (alive : world.alive process = true)
    (inside : world.inside process = true) :
    Safe lockDiscipline process (LockedBody.run throws steps)
      (fun _ last => last.alive process = true ∧ last.inside process = true) world := by
  induction steps generalizing world with
  | zero =>
    unfold LockedBody.run
    cases throws <;>
      exact fun last rest => ⟨rest.living.trans alive, rest.inside.trans inside⟩
  | succ steps ih =>
    exact safe_look (fun _ _ => rfl) fun scaled later rest _ _ =>
      ih (rest.living.trans alive) (rest.inside.trans inside)

theorem safe_cleanup {ends : Except String Unit → LockWorld → Prop}
    (inside : world.inside process = true) (alive : world.alive process = true)
    (ended : ∀ later, later.alive process = true → ends (.ok ()) later) :
    Safe lockDiscipline process (Prog.perform .cleanup : LockProg Unit) ends world := by
  intro later meanwhile inv scaled _
  obtain ⟨lock, placed, mine, -⟩ := inv.lives (meanwhile.inside.trans inside)
  -- The lock file is its own, so nobody else is inside.
  have outside : ∀ other, other ≠ process → later.inside other = false := by
    intro other apart
    by_contra within
    obtain ⟨held, there, theirs, -⟩ := inv.lives (by simpa using within)
    rw [placed] at there
    cases there
    exact apart (pidOf_injective (theirs.symm.trans mine))
  obtain ⟨unrobbed, removed, others⟩ := @remove_ok _ inv process
    (fun held there => .inl (by rw [placed] at there; cases there; exact mine)) outside
  refine ⟨⟨fun other within => ?_, unrobbed, fun held there => by cases there⟩,
    fun other apart => ?_, safe_pure fun last rest => ended last ?_⟩
  · by_cases same : other = process
    · subst same
      simp [LockWorld.system, LockWorld.perform] at within
    · simp only [LockWorld.system, LockWorld.perform, Function.update_of_ne same,
        outside other same] at within
      cases within
  · obtain ⟨rely, -⟩ := others other apart
    exact ⟨by simp [LockWorld.system, LockWorld.perform, Function.update_of_ne apart], rely.living,
      rely.time, rely.created, rely.dead, rely.placed⟩
  · exact rest.living.trans (meanwhile.living.trans alive)

theorem safe_withMutationLock (body : LockedBody) (alive : world.alive process = true) :
    Safe lockDiscipline process (withMutationLock body)
      (fun _ last => last.alive process = true) world := by
  unfold withMutationLock
  refine safe_look (fun _ _ => rfl) fun scaled later meanwhile inv _ => ?_
  have running : Running process later.time later :=
    ⟨meanwhile.living.trans alive, Int.le_refl _⟩
  change Safe lockDiscipline process ((acquireMutationLock later.time).bind _) _ _
  refine Safe.bind ((safe_acquire mutationLockRetryAttempts running).mono
    fun result last acquired => ?_)
  obtain ⟨here, inside⟩ := acquired last (LockRely.refl process last)
  cases result with
  | error message => exact here.alive
  | ok taken =>
    cases taken with
    | false => exact safe_pure fun _ rest => rest.living.trans here.alive
    | true =>
      refine Safe.bind (Safe.finally_ ((safe_body body.throws body.steps here.alive
        (inside rfl)).mono fun result after ended => ?_))
      obtain ⟨lives, within⟩ := ended after (LockRely.refl process after)
      refine safe_cleanup within lives fun final alive => ?_
      cases result with
      | ok _ => exact safe_pure fun _ rest => rest.living.trans alive
      | error message => exact alive

theorem safe_goOn {next : LockProg Unit} {prog : LockProg Bool}
    {ends : Except String Unit → LockWorld → Prop} (safe : Safe lockDiscipline process prog
      (fun _ last => Safe lockDiscipline process next ends last) world) :
    Safe lockDiscipline process (lockProcess.goOn next prog) ends world := by
  induction prog generalizing world with
  | pure value => exact safe world (LockRely.refl process world)
  | fail message => exact safe world (LockRely.refl process world)
  | step effect rest ih =>
    intro later meanwhile inv env allowed
    obtain ⟨kept, others, safe⟩ := safe later meanwhile inv env allowed
    exact ⟨kept, others, ih _ safe⟩

theorem safe_lockProcess (bodies : List LockedBody) (alive : world.alive process = true) :
    Safe lockDiscipline process (lockProcess bodies) (fun _ _ => True) world := by
  induction bodies generalizing world with
  | nil => exact safe_pure fun _ _ => trivial
  | cons body rest ih =>
    refine safe_goOn ((safe_withMutationLock body alive).mono fun result last ended => ?_)
    exact ih (ended last (LockRely.refl process last))

end

def startLock (time : Int) (bodies : Nat → List LockedBody) : Config Nat LockWorld LockEffect where
  shared := { time }
  threads process := lockProcess (bodies process)

/--
Where no lock file is exchanged between a break's read and its removal, at most one live process
is inside, and nobody removes a lock file of a process that lives.
-/
theorem mutation_lock_exclusive (time : Int) (bodies : Nat → List LockedBody)
    (moves : List (Move Nat Int Nat))
    (allowed : Meets LockWorld.system LockAllowed (startLock time bodies) moves) :
    Exclusive (LockWorld.system.runMoves (startLock time bodies) moves).shared := by
  have start : AllSafe lockDiscipline (startLock time bodies) := by
    refine ⟨⟨fun process inside => ?_, rfl, fun lock placed => ?_⟩, fun process => ?_⟩
    · cases inside
    · cases placed
    · exact safe_lockProcess (bodies process) rfl
  exact (start.runMoves allowed).inv.exclusive

def threeCallers : Config Nat LockWorld LockEffect :=
  startLock 0 fun process => if process < 3 then [{ steps := 1 }] else []

def stepsOf (process count : Nat) : List (Move Nat Int Nat) :=
  List.replicate count (.run process 5000)

/-- The first process dies inside, and both others find its lock stale before either removes it. -/
def bothBreak : List (Move Nat Int Nat) :=
  stepsOf 0 2 ++ [.crash 0] ++ stepsOf 1 4 ++ stepsOf 2 4 ++ stepsOf 1 2 ++ stepsOf 2 2

/-- The second one to remove it removes the first one's new lock, and both are inside. -/
theorem two_inside :
    Meets LockWorld.system (fun scaled _ _ effect world => OwnersBrisk scaled world effect)
      threeCallers bothBreak ∧
    ¬Exclusive (LockWorld.system.runMoves threeCallers bothBreak).shared := by
  refine ⟨?_, fun exclusive => ?_⟩
  · exact ⟨trivial, trivial, trivial, trivial, trivial, trivial, trivial, trivial, trivial,
      trivial, trivial, trivial, trivial, trivial, trivial, trivial⟩
  · have same := exclusive.single 1 2 (by decide) (by decide) (by decide) (by decide)
    cases same

/-- The first process dies inside, and one other breaks its lock and works in its place. -/
def oneBreaks : List (Move Nat Int Nat) :=
  stepsOf 0 2 ++ [.crash 0] ++ stepsOf 1 6

/-- A lock that one process leaves behind and another one breaks. -/
theorem mutation_lock_exclusive_sample :
    Exclusive (LockWorld.system.runMoves threeCallers oneBreaks).shared ∧
    (LockWorld.system.runMoves threeCallers oneBreaks).shared.inside 1 = true := by
  refine ⟨mutation_lock_exclusive 0 _ oneBreaks ?_, by decide⟩
  exact ⟨⟨trivial, trivial⟩, ⟨trivial, trivial⟩, trivial, ⟨trivial, trivial⟩, ⟨trivial, trivial⟩,
    ⟨trivial, trivial⟩, ⟨trivial, trivial⟩, ⟨trivial, fun lock placed => .inl placed⟩,
    ⟨trivial, trivial⟩, trivial⟩

end AdversarialReview.MergeLease
