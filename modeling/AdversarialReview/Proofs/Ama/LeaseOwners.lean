import AdversarialReview.Ama.LeaseOwners
import AdversarialReview.Proofs.Ama.CloserLease

/-! Each call on a closer lease changes what it read, under its lock if it has one, and what its
steps, interleaved, owe to the other owners. -/

namespace AdversarialReview.Ama

section

def SameAcquisition (first second : CloserLease) : Prop :=
  Json.strictEq (first.get? "acquiredAt") (second.get? "acquiredAt") = true

def isTerminal (lease : CloserLease) : Bool :=
  Json.isText lease.status terminal

def KeepsOutcome (old next : CloserLease) : Prop :=
  isTerminal old = true → SameAcquisition old next → isTerminal next = true

def Holds (ending : Option String) (view : LeaseView) (file : String) : Prop :=
  ∀ suffix, ending = some suffix → view.held (file ++ suffix)

/-- A call changes a file that it read, under its lock, and puts back no lease that has ended. -/
def Careful (ending : Option String) : {β : Type} → LeaseEffect β → LeaseView → Prop
  | _, .write file lease, view => Holds ending view file ∧ ∃ found, view.known file = some found ∧
      ∀ old, found = some old → KeepsOutcome old lease
  | _, .create file _, view => Holds ending view file
  | _, .remove file, view => Holds ending view file ∧ ∃ found, view.known file = some found
  | _, _, _ => True

abbrev CarefulRest {α : Type} (ending : Option String)
    (ends : Except String α → LeaseView → Prop) (prog : LeaseProg α) (view : LeaseView) : Prop :=
  prog.Guarded (Careful ending) LeaseView.learn ends view

variable {α β : Type} {ending : Option String} {view : LeaseView}

theorem careful_attempt_bind {effect : LeaseEffect (Except String α)} {next : α → LeaseProg β}
    {ends : Except String β → LeaseView → Prop} (allowed : Careful ending effect view)
    (thrown : ∀ message, ends (.error message) (view.learn effect (.error message)))
    (then_ : ∀ value, CarefulRest ending ends (next value) (view.learn effect (.ok value))) :
    CarefulRest ending ends ((attempt effect).bind next) view := by
  refine ⟨allowed, fun answer => ?_⟩
  cases answer with
  | error message => exact thrown message
  | ok value => exact then_ value

theorem careful_raise_bind {result : Except String α} {next : α → LeaseProg β}
    {ends : Except String β → LeaseView → Prop}
    (thrown : ∀ message, result = .error message → ends (.error message) view)
    (then_ : ∀ value, result = .ok value → CarefulRest ending ends (next value) view) :
    CarefulRest ending ends ((Prog.raise result).bind next) view := by
  cases result with
  | error message => exact thrown message rfl
  | ok value => exact then_ value rfl

abbrev CarefulCall (ending : Option String) (prog : LeaseProg α) (view : LeaseView) : Prop :=
  CarefulRest ending (fun _ _ => True) prog view

theorem careful_underLock {file : String} {refused body : LeaseProg α}
    (without : CarefulCall ending refused view)
    (within : CarefulCall ending body ⟨fun _ => none, Function.update view.held file True⟩) :
    CarefulCall ending (underLock file refused body) view := by
  unfold underLock
  refine careful_attempt_bind trivial (fun _ => trivial) fun locked => ?_
  cases locked with
  | true => exact within.finally_ fun view => ⟨trivial, fun _ => trivial⟩
  | false => exact without

theorem careful_catching {fallback : α} {prog : LeaseProg α}
    {ends : Except String α → LeaseView → Prop}
    (careful : CarefulRest ending (fun result view => match result with
      | .ok value => ends (.ok value) view
      | .error _ => ends (.ok fallback) view) prog view) :
    CarefulRest ending ends (catching fallback prog) view := by
  induction prog generalizing view with
  | pure value => exact careful
  | fail message => exact careful
  | step effect next ih => exact ⟨careful.1, fun answer => ih answer (careful.2 answer)⟩

theorem eq_of_strictEq {first second : Option Json} (same : Json.strictEq first second = true) :
    first = second := by
  unfold Json.strictEq at same
  split at same <;> simp_all

theorem known_read {file : String} {found : Option CloserLease} :
    (view.learn (.read file) (.ok found)).known file = some found := by
  simp only [LeaseView.learn, Function.update_self]

end

section

variable [JsText] [RepositoryNames] {ending : Option String} {view : LeaseView}

theorem careful_update (call : LeaseUpdate) :
    CarefulCall (some ".reclaim.lock") (updateAmaCloserLease call) view := by
  unfold updateAmaCloserLease updateAmaCloserLeaseWithinRepositoryState
  refine careful_attempt_bind trivial (fun _ => trivial) fun _ => ?_
  refine careful_raise_bind (fun _ _ => trivial) fun _ _ => ?_
  refine careful_raise_bind (fun _ _ => trivial) fun file _ => ?_
  refine careful_underLock trivial ?_
  unfold updateLocked
  refine careful_attempt_bind trivial (fun _ => trivial) fun found => ?_
  refine ⟨trivial, fun clock => ?_⟩
  refine careful_raise_bind (fun _ _ => trivial) fun change decided => ?_
  cases change with
  | keep lease => trivial
  | replace next =>
    obtain ⟨existing, same, -, notEnded, -⟩ := replace_cases decided
    refine careful_attempt_bind ⟨?_, found, ?_, fun old is ended => ?_⟩ (fun _ => trivial)
      fun _ => trivial
    · rintro suffix ⟨⟩
      exact of_eq_true (Function.update_self ..)
    · simp only [LeaseView.learn, Function.update_self]
    · -- An update that replaces a lease found one that did not end.
      cases same.symm.trans is
      rw [isTerminal, notEnded] at ended
      cases ended

theorem careful_isCurrent (lease : CloserLease) {file : String}
    (named : amaCloserLeaseFilePath lease.identity = .ok file) :
    CarefulRest ending (fun result after => after.held = view.held ∧ (result = .ok true →
      ∃ found, after.known file = some found ∧ sameCurrent found lease = true))
      (isCurrentAmaCloserLease lease) view := by
  unfold isCurrentAmaCloserLease
  refine careful_catching (careful_attempt_bind trivial (fun _ => ⟨rfl, nofun⟩) fun _ => ?_)
  rw [named]
  refine careful_raise_bind (fun _ _ => ⟨rfl, nofun⟩) fun _ same => ?_
  cases same
  refine careful_attempt_bind trivial (fun _ => ⟨rfl, nofun⟩) fun found => ⟨rfl, fun current => ?_⟩
  exact ⟨found, known_read, by injection current⟩

theorem careful_delete (lease : CloserLease) :
    CarefulCall (some ".reclaim.lock") (deleteAmaCloserLeaseIfCurrent lease) view := by
  unfold deleteAmaCloserLeaseIfCurrent
  refine careful_attempt_bind trivial (fun _ => trivial) fun _ => ?_
  refine careful_raise_bind (fun _ _ => trivial) fun file named => ?_
  refine careful_underLock trivial ?_
  refine (careful_isCurrent lease named).bind (fun _ _ _ => trivial) fun current after ended => ?_
  cases current with
  | false => trivial
  | true =>
    obtain ⟨sameLocks, found⟩ := ended
    obtain ⟨found, known, -⟩ := found rfl
    have deleted : CarefulCall (some ".reclaim.lock") (deleteAmaCloserLease lease.identity)
        after := by
      unfold deleteAmaCloserLease
      refine careful_attempt_bind trivial (fun _ => trivial) fun _ => ?_
      refine careful_raise_bind (fun _ _ => trivial) fun other also => ?_
      cases named.symm.trans also
      refine ⟨⟨?_, found, known⟩, fun answer => ?_⟩
      · rintro suffix ⟨⟩
        change after.held _
        rw [sameLocks]
        exact of_eq_true (Function.update_self ..)
      · cases answer <;> trivial
    exact deleted.bind (fun _ _ _ => trivial) fun _ _ _ => trivial

def RestoresOther (lease expectedLease : CloserLease) : Prop :=
  KeepsOutcome expectedLease lease

theorem careful_restore {lease expectedLease : CloserLease}
    (other : RestoresOther lease expectedLease) :
    CarefulCall (some ".reclaim.lock") (restoreAmaCloserLeaseIfCurrent lease expectedLease)
      view := by
  unfold restoreAmaCloserLeaseIfCurrent
  refine careful_raise_bind (fun _ _ => trivial) fun file named => ?_
  refine careful_raise_bind (fun _ _ => trivial) fun own _ => ?_
  split
  · trivial
  refine careful_underLock trivial ?_
  refine (careful_isCurrent expectedLease named).bind (fun _ _ _ => trivial)
    fun current after ended => ?_
  cases current with
  | false => trivial
  | true =>
    obtain ⟨sameLocks, found⟩ := ended
    obtain ⟨found, known, matches_⟩ := found rfl
    simp only [↓reduceIte]
    refine careful_attempt_bind ⟨?_, found, known, fun old is ended sameOld => ?_⟩
      (fun _ => trivial) fun _ => trivial
    · rintro suffix ⟨⟩
      rw [sameLocks]
      exact of_eq_true (Function.update_self ..)
    · -- The lease that is there has the status and the acquisition of the expected one.
      subst is
      simp only [sameCurrent, currentMembers, List.all_cons, List.all_nil, Bool.and_true,
        Bool.and_eq_true, Option.bind_some] at matches_
      have status : old.status = expectedLease.status := eq_of_strictEq matches_.1
      have acquired := eq_of_strictEq matches_.2.2.2.1
      refine other ?_ ?_
      · rw [isTerminal, ← status]
        exact ended
      · rw [SameAcquisition, ← acquired]
        exact sameOld

theorem careful_acquire (call : LeaseAcquire) (holds : ∀ file,
      amaCloserLeaseFilePath call.toLeaseIdentity = .ok file → Holds ending view file) :
    CarefulCall ending (acquirePlain call) view := by
  unfold acquirePlain
  refine careful_attempt_bind trivial (fun _ => trivial) fun _ => ?_
  refine careful_raise_bind (fun _ _ => trivial) fun file named => ?_
  refine careful_attempt_bind trivial (fun _ => trivial) fun found => ?_
  cases found with
  | some existing => trivial
  | none =>
    refine ⟨trivial, fun acquired => ⟨trivial, fun updated => ?_⟩⟩
    refine careful_attempt_bind (holds file named) (fun _ => trivial) fun created => ?_
    cases created with
    | true => trivial
    | false => exact careful_attempt_bind trivial (fun _ => trivial) fun _ => trivial

theorem careful_handoff (call : LeaseAcquire) :
    CarefulCall (some ".handoff.lock") (acquireFromReviewHandoff call) view := by
  unfold acquireFromReviewHandoff
  refine careful_attempt_bind trivial (fun _ => trivial) fun _ => ?_
  refine careful_raise_bind (fun _ _ => trivial) fun file named => ?_
  refine careful_underLock (careful_attempt_bind trivial (fun _ => trivial) fun _ => trivial) ?_
  refine careful_attempt_bind trivial (fun _ => trivial) fun handed => ?_
  have holds : ∀ known, Holds (some ".handoff.lock")
      ⟨known, Function.update view.held (file ++ ".handoff.lock") True⟩ file := by
    rintro known suffix ⟨⟩
    exact of_eq_true (Function.update_self ..)
  have same : ∀ other, amaCloserLeaseFilePath call.toLeaseIdentity = .ok other → file = other :=
    fun other also => Except.ok.inj (named.symm.trans also)
  split
  · -- The lease that was handed to review is removed under the handoff lock.
    refine careful_attempt_bind ⟨holds _, handed, known_read⟩ (fun _ => trivial)
      fun _ => careful_acquire call fun other also => same other also ▸ holds _
  · exact careful_acquire call fun other also => same other also ▸ holds _

theorem careful_rekey (call : LeaseRekey) : CarefulCall none (rekeyAmaCloserLease call) view := by
  have free : ∀ view file, Holds none view file := fun _ _ => nofun
  unfold rekeyAmaCloserLease
  refine careful_attempt_bind trivial (fun _ => trivial) fun _ => ?_
  split
  · trivial
  split
  · trivial
  refine careful_raise_bind (fun _ _ => trivial) fun fromFile _ => ?_
  refine careful_attempt_bind trivial (fun _ => trivial) fun found => ?_
  cases found with
  | none => trivial
  | some existing =>
    dsimp only
    split
    · trivial
    refine careful_raise_bind (fun _ _ => trivial) fun toFile _ => ?_
    refine careful_attempt_bind trivial (fun _ => trivial) fun destination => ?_
    -- The file of the old head stays known, whatever is learned of the new one.
    have stays : ∀ (known : String → Option (Option CloserLease)) value,
        (∃ found, known fromFile = some found) →
        ∃ found, Function.update known toFile (some value) fromFile = some found := by
      rintro known value ⟨found, given⟩
      by_cases same : fromFile = toFile
      · exact ⟨value, by rw [same, Function.update_self]⟩
      · exact ⟨found, by rw [Function.update_of_ne same, given]⟩
    have known : ∃ found, ((view.learn (.read fromFile) (.ok (some existing))).learn
        (.read toFile) (.ok destination)).known fromFile = some found :=
      stays _ destination ⟨_, known_read⟩
    cases destination with
    | some destination =>
      dsimp only
      split
      · exact careful_attempt_bind ⟨free _ _, known⟩ (fun _ => trivial) fun _ => trivial
      · trivial
    | none =>
      refine ⟨trivial, fun clock => ?_⟩
      refine careful_attempt_bind (free _ _) (fun _ => trivial) fun created => ?_
      cases created with
      | false => trivial
      | true =>
        exact careful_attempt_bind ⟨free _ _, stays _ (some _) known⟩ (fun _ => trivial)
          fun _ => trivial

end

section

def Leaves (file : String) : {β : Type} → LeaseEffect β → Prop
  | _, .write other _ => other ≠ file
  | _, .remove other => other ≠ file
  | _, _ => True

variable {ι : Type} [DecidableEq ι]

/-- While a step changes a file, no call with another lock, or without one, has read that file and
is still to replace or remove it. -/
def Apart (calls : ι → OwnerCall) (config : Interleaved.Config ι (LeaseWorld ι) LeaseEffect) :
    Interleaved.Move ι LeaseEnv Empty → Prop
  | .run thread env => ∀ file other, other ≠ thread →
      ((calls other).lock = none ∨ (calls other).lock ≠ (calls thread).lock) →
      (leaseCalls.move config (.run thread env)).shared.files file ≠ config.shared.files file →
      (config.shared.seen other file).isSome = true →
      (config.threads other).Uses (Leaves file)
  | _ => True

/-- What a step of a call owes the other owners. -/
structure Respects (before after : LeaseWorld ι) (thread : ι) : Prop where
  /-- A file that it replaces or removes holds what the call saw there. -/
  observed : ∀ file, after.files file ≠ before.files file →
    before.files file = none ∨ before.seen thread file = some (before.files file)
  /-- No lease that ended is replaced by one of its acquisition that did not. -/
  outcome : ∀ file old next, before.files file = some old → after.files file = some next →
    KeepsOutcome old next

def RespectsMove (config : Interleaved.Config ι (LeaseWorld ι) LeaseEffect) :
    Interleaved.Move ι LeaseEnv Empty → Prop
  | .run thread env =>
    Respects config.shared (leaseCalls.move config (.run thread env)).shared thread
  | .external _ => True
  | .crash thread =>
    (leaseCalls.move config (.crash thread)).shared.files = config.shared.files

/-- A condition on every choice of a schedule, asked before it. -/
def EachTurn (holds : Interleaved.Config ι (LeaseWorld ι) LeaseEffect →
      Interleaved.Move ι LeaseEnv Empty → Prop) :
    Interleaved.Config ι (LeaseWorld ι) LeaseEffect →
      List (Interleaved.Move ι LeaseEnv Empty) → Prop
  | _, [] => True
  | config, move :: moves => holds config move ∧ EachTurn holds (leaseCalls.move config move) moves

/-- A restore is called with a lease that has not ended only for another acquisition than one
that has. -/
def RestoresOthers (calls : ι → OwnerCall) : Prop :=
  ∀ thread lease expectedLease, calls thread = .restoreIfCurrent lease expectedLease →
    RestoresOther lease expectedLease

/-- Each call is careful from where it is, and what it knows and may still use is true. -/
structure OwnersInv (calls : ι → OwnerCall)
    (config : Interleaved.Config ι (LeaseWorld ι) LeaseEffect) : Prop where
  careful : ∀ thread, CarefulCall (calls thread).lock (config.threads thread)
    (config.shared.view thread)
  fresh : ∀ thread file found, config.shared.seen thread file = some found →
    Holds (calls thread).lock (config.shared.view thread) file →
    ¬(config.threads thread).Uses (Leaves file) → config.shared.files file = found

variable {calls : ι → OwnerCall} {world : LeaseWorld ι} {thread other : ι} {env : LeaseEnv}
  {α β : Type}

theorem LeaseEnv.ok_cases (env : LeaseEnv) (value : α) :
    env.ok value = .ok value ∨ ∃ message, env.ok value = .error message := by
  unfold LeaseEnv.ok
  cases env.fault with
  | none => exact .inl rfl
  | some message => exact .inr ⟨message, rfl⟩

/-- What a step does to the files and the locks, and what its call knows then. -/
inductive Happens (world : LeaseWorld ι) (thread : ι) :
    {β : Type} → LeaseEffect β → LeaseFiles → (String → Option ι) → LeaseView → Prop
  | idle {β : Type} (effect : LeaseEffect β) :
      Happens world thread effect world.files world.locks (world.view thread)
  | locked (file : String) (free : world.locks file = none) :
      Happens world thread (.tryLock file) world.files
        (Function.update world.locks file (some thread))
        ⟨fun _ => none, Function.update (world.view thread).held file True⟩
  | unlocked (file : String) :
      Happens world thread (.unlock file) world.files
        (if world.locks file = some thread then Function.update world.locks file none
          else world.locks)
        ⟨fun _ => none, Function.update (world.view thread).held file False⟩
  | read (file : String) :
      Happens world thread (.read file) world.files world.locks
        ⟨Function.update (world.seen thread) file (some (world.files file)),
          (world.view thread).held⟩
  | wrote (file : String) (lease : CloserLease) :
      Happens world thread (.write file lease) (Function.update world.files file (some lease))
        world.locks ⟨Function.update (world.seen thread) file (some (some lease)),
          (world.view thread).held⟩
  | created (file : String) (lease : CloserLease) (absent : world.files file = none) :
      Happens world thread (.create file lease) (Function.update world.files file (some lease))
        world.locks ⟨Function.update (world.seen thread) file (some (some lease)),
          (world.view thread).held⟩
  | removed (file : String) :
      Happens world thread (.remove file) (Function.update world.files file none) world.locks
        ⟨Function.update (world.seen thread) file (some none), (world.view thread).held⟩

theorem happens (effect : LeaseEffect β) :
    Happens world thread effect (leasePerform env thread effect world).2.files
      (leasePerform env thread effect world).2.locks
      ((world.view thread).learn effect (leaseAnswer env world effect)) := by
  simp only [leasePerform]
  cases effect with
  | tryLock file =>
    simp only [leaseAnswer]
    rcases env.ok_cases (world.locks file).isNone with answered | ⟨message, answered⟩
    · rw [answered]
      cases free : (world.locks file).isNone with
      | true => exact .locked file (Option.isNone_iff_eq_none.mp free)
      | false => exact .idle _
    · rw [answered]
      exact .idle _
  | unlock file => exact .unlocked file
  | read file =>
    simp only [leaseAnswer]
    rcases env.ok_cases (world.files file) with answered | ⟨message, answered⟩
    · rw [answered]
      exact .read file
    · rw [answered]
      exact .idle _
  | write file lease =>
    simp only [leaseAnswer]
    rcases env.ok_cases () with answered | ⟨message, answered⟩
    · rw [answered]
      exact .wrote file lease
    · rw [answered]
      exact .idle _
  | create file lease =>
    simp only [leaseAnswer]
    rcases env.ok_cases (world.files file).isNone with answered | ⟨message, answered⟩
    · rw [answered]
      cases absent : (world.files file).isNone with
      | true => exact .created file lease (Option.isNone_iff_eq_none.mp absent)
      | false => exact .idle _
    · rw [answered]
      exact .idle _
  | remove file =>
    simp only [leaseAnswer]
    rcases env.ok_cases () with answered | ⟨message, answered⟩
    · rw [answered]
      exact .removed file
    · rw [answered]
      exact .idle _
  | enter => exact .idle _
  | names => exact .idle _
  | clock => exact .idle _

section

variable {effect : LeaseEffect β} {files : LeaseFiles} {locks : String → Option ι}
  {view : LeaseView}

theorem Happens.own (happened : Happens world thread effect files locks view) :
    (fun name => locks name = some thread) = view.held := by
  funext name
  cases happened with
  | locked file =>
    simp only [Function.update_apply]
    split <;> simp [LeaseWorld.view]
  | unlocked file =>
    simp only [Function.update_apply]
    split
    · rw [Function.update_apply]
      split <;> simp [LeaseWorld.view]
    · rename_i notMine
      split
      · rename_i same
        simp [same, notMine]
      · rfl
  | _ => rfl

theorem Happens.others (happened : Happens world thread effect files locks view)
    (apart : other ≠ thread) :
    (fun name => locks name = some other) = (world.view other).held := by
  funext name
  cases happened with
  | locked file free =>
    simp only [Function.update_apply, LeaseWorld.view]
    split
    · rename_i same
      simp [same, free, apart.symm]
    · rfl
  | unlocked file =>
    simp only [LeaseWorld.view]
    split
    · rename_i mine
      rw [Function.update_apply]
      split
      · rename_i same
        simp [same, mine, apart.symm]
      · rfl
    · rfl
  | _ => rfl

theorem Happens.changes (happened : Happens world thread effect files locks view)
    {ending : Option String} (careful : Careful ending effect (world.view thread)) {file : String}
    (changed : files file ≠ world.files file) :
    Holds ending (world.view thread) file ∧ (world.files file = none ∨
      ((∃ found, world.seen thread file = some found) ∧ ¬Leaves file effect)) := by
  have elsewhere : ∀ {name : String} {value : Option CloserLease},
      Function.update world.files name value file ≠ world.files file → file = name :=
    fun differs => not_ne_iff.mp fun apart => differs (Function.update_of_ne apart ..)
  cases happened with
  | wrote name lease =>
    cases elsewhere changed
    obtain ⟨holds, found, known, -⟩ := careful
    exact ⟨holds, .inr ⟨⟨found, known⟩, fun leaves => leaves rfl⟩⟩
  | created name lease absent =>
    cases elsewhere changed
    exact ⟨careful, .inl absent⟩
  | removed name =>
    cases elsewhere changed
    obtain ⟨holds, found, known⟩ := careful
    exact ⟨holds, .inr ⟨⟨found, known⟩, fun leaves => leaves rfl⟩⟩
  | _ => exact absurd rfl changed

theorem Happens.learned (happened : Happens world thread effect files locks view) {file : String}
    {found : Option CloserLease} (known : view.known file = some found) :
    files file = found ∨ (world.seen thread file = some found ∧
      view.held = (world.view thread).held ∧ files file = world.files file) := by
  -- Of the file of the step it knows what is there now; of another one what it knew.
  have either : ∀ {name : String} {after : Option CloserLease},
      Function.update (world.seen thread) name (some after) file = some found →
      file = name ∧ found = after ∨ file ≠ name ∧ world.seen thread file = some found := by
    intro name after told
    rw [Function.update_apply] at told
    split at told
    · rename_i same
      exact .inl ⟨same, (Option.some.inj told).symm⟩
    · rename_i apart
      exact .inr ⟨apart, told⟩
  cases happened with
  | idle => exact .inr ⟨known, rfl, rfl⟩
  | locked => cases known
  | unlocked => cases known
  | read name =>
    rcases either known with ⟨rfl, rfl⟩ | ⟨-, before⟩
    · exact .inl rfl
    · exact .inr ⟨before, rfl, rfl⟩
  | wrote name lease =>
    rcases either known with ⟨rfl, rfl⟩ | ⟨apart, before⟩
    · exact .inl (Function.update_self ..)
    · exact .inr ⟨before, rfl, Function.update_of_ne apart ..⟩
  | created name lease =>
    rcases either known with ⟨rfl, rfl⟩ | ⟨apart, before⟩
    · exact .inl (Function.update_self ..)
    · exact .inr ⟨before, rfl, Function.update_of_ne apart ..⟩
  | removed name =>
    rcases either known with ⟨rfl, rfl⟩ | ⟨apart, before⟩
    · exact .inl (Function.update_self ..)
    · exact .inr ⟨before, rfl, Function.update_of_ne apart ..⟩

theorem Happens.outcome (happened : Happens world thread effect files locks view)
    {ending : Option String} (careful : Careful ending effect (world.view thread)) {file : String}
    {old next : CloserLease} (held : world.files file = some old)
    (saw : files file ≠ world.files file → world.seen thread file = some (some old))
    (after : files file = some next) : KeepsOutcome old next := by
  by_cases changed : files file = world.files file
  · rw [changed, held] at after
    cases after
    exact fun ended _ => ended
  have elsewhere : ∀ {name : String} {value : Option CloserLease},
      Function.update world.files name value file ≠ world.files file → file = name :=
    fun differs => not_ne_iff.mp fun apart => differs (Function.update_of_ne apart ..)
  cases happened with
  | wrote name lease =>
    cases elsewhere changed
    rw [Function.update_self] at after
    cases after
    obtain ⟨-, found, known, keeps⟩ := careful
    exact keeps old (Option.some.inj (known.symm.trans (saw changed)))
  | created name lease absent =>
    cases elsewhere changed
    cases held.symm.trans absent
  | removed name =>
    cases elsewhere changed
    rw [Function.update_self] at after
    cases after
  | _ => exact absurd rfl changed

end

theorem view_own (effect : LeaseEffect β) :
    (leasePerform env thread effect world).2.view thread =
      (world.view thread).learn effect (leaseAnswer env world effect) :=
  congrArg₂ LeaseView.mk (Function.update_self ..) (happens effect).own

theorem view_other (apart : other ≠ thread) (effect : LeaseEffect β) :
    (leasePerform env thread effect world).2.view other = world.view other :=
  congrArg₂ LeaseView.mk (Function.update_of_ne apart ..) ((happens effect).others apart)

end

section

variable {ι : Type} [DecidableEq ι] {calls : ι → OwnerCall} {world : LeaseWorld ι}
  {thread : ι} {env : LeaseEnv} {α β : Type}

variable {config : Interleaved.Config ι (LeaseWorld ι) LeaseEffect}

theorem move_step {effect : LeaseEffect β} {next : β → LeaseProg Unit}
    (running : config.threads thread = .step effect next) :
    leaseCalls.move config (.run thread env) =
      ⟨(leasePerform env thread effect config.shared).2, Function.update config.threads thread
        (next (leaseAnswer env config.shared effect))⟩ := by
  simp only [Interleaved.move, running]
  rfl

theorem move_idle (ended : ∀ {β : Type} (effect : LeaseEffect β) next,
    config.threads thread ≠ .step effect next) :
    leaseCalls.move config (.run thread env) = config := by
  cases running : config.threads thread with
  | pure value => simp only [Interleaved.move, running]
  | fail message => simp only [Interleaved.move, running]
  | step effect next => exact absurd running (ended effect next)

theorem OwnersInv.step (inv : OwnersInv calls config) {effect : LeaseEffect β}
    {next : β → LeaseProg Unit} (running : config.threads thread = .step effect next)
    (apart : Apart calls config (.run thread env)) :
    OwnersInv calls (leaseCalls.move config (.run thread env)) := by
  have moved := @move_step ι _ thread env β config effect next running
  have careful := inv.careful thread
  rw [running] at careful
  have happened := @happens ι _ config.shared thread env β effect
  simp only [Apart] at apart
  rw [moved] at apart ⊢
  refine ⟨fun other => ?_, fun other file found known holds still => ?_⟩
  · by_cases same : other = thread
    · subst same
      simp only [Function.update_self, view_own]
      exact careful.2 _
    · simp only [Function.update_of_ne same, view_other same]
      exact inv.careful other
  · by_cases same : other = thread
    · -- What the call knew of other files was true before its step.
      subst same
      simp only [Function.update_self, view_own] at holds still
      have now : ((config.shared.view other).learn effect
          (leaseAnswer env config.shared effect)).known file = some found := by
        rw [← view_own]
        exact known
      rcases happened.learned now with true_ | ⟨before, sameLocks, kept⟩
      · exact true_
      · refine kept.trans (inv.fresh other file found before ?_ fun leaves => still ?_)
        · intro suffix is
          have locked := holds suffix is
          rw [sameLocks] at locked
          exact locked
        · rw [running] at leaves
          exact leaves.2 _
    · simp only [Function.update_of_ne same, view_other same] at holds still
      have before : config.shared.seen other file = some found := by
        have sameView := congrArg LeaseView.known
          (@view_other ι _ config.shared thread other env β same effect)
        exact (congrFun sameView file).symm.trans known
      have true_ := inv.fresh other file found before holds still
      -- A change would be of a file that the other call is still to replace.
      by_cases changed : (leasePerform env thread effect config.shared).2.files file =
          config.shared.files file
      · exact changed.trans true_
      exfalso
      obtain ⟨mine, -⟩ := happened.changes careful.1 changed
      -- Calls with other locks are kept apart by the condition.
      by_cases differs : (calls other).lock = none ∨ (calls other).lock ≠ (calls thread).lock
      · exact still (apart file other same differs changed (by rw [before]; rfl))
      · -- Both calls would hold the one lock of the file.
        rw [not_or, not_ne_iff] at differs
        obtain ⟨suffix, locked⟩ := Option.ne_none_iff_exists'.mp differs.1
        have theirs : config.shared.locks (file ++ suffix) = some other := holds suffix locked
        have own : config.shared.locks (file ++ suffix) = some thread :=
          mine suffix (differs.2.symm.trans locked)
        exact same (Option.some.inj (theirs.symm.trans own))

theorem OwnersInv.respects (inv : OwnersInv calls config) {effect : LeaseEffect β}
    {next : β → LeaseProg Unit} (running : config.threads thread = .step effect next) :
    Respects config.shared (leasePerform env thread effect config.shared).2 thread := by
  have careful := (inv.careful thread)
  rw [running] at careful
  have happened := @happens ι _ config.shared thread env β effect
  have seen : ∀ file, (leasePerform env thread effect config.shared).2.files file ≠
      config.shared.files file → config.shared.files file = none ∨
        config.shared.seen thread file = some (config.shared.files file) := by
    intro file changed
    obtain ⟨holds, absent | ⟨⟨found, known⟩, touches⟩⟩ := happened.changes careful.1 changed
    · exact .inl absent
    · -- The effect at hand still replaces or removes the file, so its knowledge is true.
      refine .inr ?_
      rw [inv.fresh thread file found known holds fun leaves => touches ?_, known]
      rw [running] at leaves
      exact leaves.1
  refine ⟨seen, fun file old next held => happened.outcome careful.1 held fun changed => ?_⟩
  rw [← held]
  exact (seen file changed).resolve_left (by rw [held]; exact nofun)

theorem OwnersInv.crash (inv : OwnersInv calls config) (thread : ι) :
    OwnersInv calls (leaseCalls.move config (.crash thread)) := by
  have views : ∀ other, other ≠ thread →
      (leaseCalls.move config (.crash thread)).shared.view other = config.shared.view other := by
    intro other apart
    refine congrArg₂ LeaseView.mk rfl (funext fun name => propext ?_)
    change (if config.shared.locks name = some thread then none else config.shared.locks name) =
      some other ↔ config.shared.locks name = some other
    split
    · rename_i mine
      rw [mine]
      simp [apart.symm]
    · rfl
  have ended : (leaseCalls.move config (.crash thread)).threads thread = .pure () :=
    Function.update_self ..
  have others : ∀ other, other ≠ thread →
      (leaseCalls.move config (.crash thread)).threads other = config.threads other :=
    fun other apart => Function.update_of_ne apart ..
  refine ⟨fun other => ?_, fun other file found known holds still => ?_⟩
  · by_cases same : other = thread
    · subst same
      rw [ended]
      trivial
    · rw [others other same, views other same]
      exact inv.careful other
  · by_cases same : other = thread
    · -- A dead call is to replace nothing.
      subst same
      rw [ended] at still
      exact absurd trivial still
    · rw [others other same] at still
      rw [views other same] at holds
      exact inv.fresh other file found known holds still

theorem respects_turn (inv : OwnersInv calls config) {move : Interleaved.Move ι LeaseEnv Empty}
    (apart : Apart calls config move) :
    RespectsMove config move ∧ OwnersInv calls (leaseCalls.move config move) := by
  cases move with
  | run thread env =>
    cases running : config.threads thread with
    | step effect next =>
      refine ⟨?_, inv.step running apart⟩
      rw [RespectsMove, move_step running]
      exact inv.respects running
    | _ =>
      have idle : leaseCalls.move config (.run thread env) = config :=
        move_idle fun effect next also => by
          rw [running] at also
          cases also
      rw [RespectsMove, idle]
      refine ⟨⟨fun file changed => absurd rfl changed, fun file old next held after => ?_⟩, inv⟩
      cases held.symm.trans after
      exact fun ended _ => ended
  | external change => exact nomatch change
  | crash thread => exact ⟨rfl, inv.crash thread⟩

theorem respects_run (inv : OwnersInv calls config)
    {moves : List (Interleaved.Move ι LeaseEnv Empty)}
    (apart : EachTurn (Apart calls) config moves) : EachTurn RespectsMove config moves := by
  induction moves generalizing config with
  | nil => trivial
  | cons move moves ih =>
    obtain ⟨respects, after⟩ := respects_turn inv apart.1
    exact ⟨respects, ih after apart.2⟩

theorem careful_call [JsText] [RepositoryNames] {call : OwnerCall} (restores : ∀ lease
      expectedLease, call = .restoreIfCurrent lease expectedLease →
      RestoresOther lease expectedLease) {view : LeaseView} :
    CarefulCall call.lock call.prog view := by
  have dropped : ∀ {α : Type} {ending : Option String} {prog : LeaseProg α},
      CarefulCall ending prog view → CarefulCall ending (prog.bind fun _ => .pure ()) view :=
    fun careful => careful.bind (fun _ _ _ => trivial) fun _ _ _ => trivial
  cases call with
  | acquire call fromReviewHandoff =>
    cases fromReviewHandoff with
    | true => exact dropped (careful_handoff call)
    | false => exact dropped (careful_acquire call fun _ _ => nofun)
  | update call => exact dropped (careful_update call)
  | deleteIfCurrent lease => exact dropped (careful_delete lease)
  | restoreIfCurrent lease expectedLease =>
    exact dropped (careful_restore (restores lease expectedLease rfl))
  | rekey call => exact dropped (careful_rekey call)

end

section

variable {ι : Type} [DecidableEq ι] {calls : ι → OwnerCall}
  {config : Interleaved.Config ι (LeaseWorld ι) LeaseEffect}

theorem EachTurn.at_ {holds : Interleaved.Config ι (LeaseWorld ι) LeaseEffect →
      Interleaved.Move ι LeaseEnv Empty → Prop}
    {first rest : List (Interleaved.Move ι LeaseEnv Empty)}
    {move : Interleaved.Move ι LeaseEnv Empty}
    (each : EachTurn holds config (first ++ move :: rest)) :
    holds (leaseCalls.runMoves config first) move := by
  induction first generalizing config with
  | nil => exact each.1
  | cons before first ih => exact ih each.2

omit [DecidableEq ι] in
theorem not_respects {before after : LeaseWorld ι} {thread : ι} {file : String}
    (ended : (before.files file).map isTerminal = some true)
    (seen : (before.seen thread file).map (Option.map isTerminal) = some (some false))
    (gone : (after.files file).map isTerminal = none) : ¬Respects before after thread := by
  intro respects
  have changed : after.files file ≠ before.files file := by
    intro same
    rw [same, ended] at gone
    cases gone
  rcases respects.observed file changed with absent | saw
  · rw [absent] at ended
    cases ended
  · rw [saw, Option.map_some, ended] at seen
    cases seen

theorem apart_alone {thread : ι} (unread : ∀ other, other ≠ thread → ∀ file,
      config.shared.seen other file = none) (envs : List LeaseEnv) :
    EachTurn (Apart calls) config (envs.map (.run thread)) := by
  induction envs generalizing config with
  | nil => trivial
  | cons env envs ih =>
    refine ⟨fun file other apart _ _ seen => ?_, ih fun other apart file => ?_⟩
    · rw [unread other apart file] at seen
      cases seen
    · rw [← unread other apart file]
      cases running : config.threads thread with
      | step effect next =>
        rw [move_step running]
        exact congrFun (congrArg LeaseView.known (view_other apart effect)) file
      | _ => simp only [Interleaved.move, running]

def overlapCalls : Bool → OwnerCall
  | true => .rekey {
      repo := some (.str "o/r")
      prNumber := some (.num 7)
      fromHeadSha := some (.str "h")
      toHeadSha := some (.str "k") }
  | false => .update {
      repo := some (.str "o/r")
      prNumber := some (.num 7)
      headSha := some (.str "h")
      status := some (.str terminal)
      terminalOutcome := some (.str "succeeded") }

def overlapMoves : List (Interleaved.Move Bool LeaseEnv Empty) :=
  List.replicate 4 (.run true {}) ++ List.replicate 6 (.run false {}) ++ [.run true {}]

end

end AdversarialReview.Ama
