import Mathlib.Logic.Function.Basic

/-! Programs as trees of effects, run alone or interleaved, and a rely rule for interleaving. -/

universe u

/-- A program: a result, a thrown message, or one effect and what follows its answer. -/
inductive Prog (E : Type → Type u) (α : Type) : Type (max 1 u) where
  | pure (value : α)
  | fail (message : String)
  | step {β : Type} (effect : E β) (next : β → Prog E α)

namespace Prog

variable {E : Type → Type u} {α β σ : Type}

/-- Continue a program with its result; a throw skips what follows. -/
def bind : Prog E α → (α → Prog E β) → Prog E β
  | pure value, next => next value
  | fail message, _ => fail message
  | step effect rest, next => step effect fun answer => (rest answer).bind next

instance : Monad (Prog E) where
  pure := pure
  bind := bind

def perform (effect : E α) : Prog E α :=
  step effect pure

/-- The program of a computation that may throw. -/
def raise : Except String α → Prog E α
  | .ok value => pure value
  | .error message => fail message

def finally_ (body : Prog E α) (last : Prog E Unit) : Prog E α :=
  match body with
  | pure value => last.bind fun _ => pure value
  | fail message => last.bind fun _ => fail message
  | step effect rest => step effect fun answer => (rest answer).finally_ last

def run (handle : {β : Type} → E β → σ → β × σ) : Prog E α → σ → Except String α × σ
  | pure value, state => (.ok value, state)
  | fail message, state => (.error message, state)
  | step effect next, state =>
    (next (handle effect state).1).run handle (handle effect state).2

@[simp] theorem bind_eq (prog : Prog E α) (next : α → Prog E β) :
    prog >>= next = prog.bind next := rfl

@[simp] theorem pure_eq (value : α) : (Pure.pure value : Prog E α) = pure value := rfl

@[simp] theorem pure_bind (value : α) (next : α → Prog E β) :
    (pure value : Prog E α).bind next = next value := rfl

@[simp] theorem fail_bind (message : String) (next : α → Prog E β) :
    (fail message : Prog E α).bind next = fail message := rfl

@[simp] theorem perform_bind (effect : E α) (next : α → Prog E β) :
    (perform effect).bind next = step effect next := rfl

@[simp] theorem raise_ok (value : α) : (raise (.ok value) : Prog E α) = pure value := rfl

@[simp] theorem raise_error (message : String) :
    (raise (.error message) : Prog E α) = fail message := rfl

@[simp] theorem run_pure (handle : {β : Type} → E β → σ → β × σ) (value : α) (state : σ) :
    (pure value : Prog E α).run handle state = (.ok value, state) := rfl

@[simp] theorem run_fail (handle : {β : Type} → E β → σ → β × σ) (message : String) (state : σ) :
    (fail message : Prog E α).run handle state = (.error message, state) := rfl

@[simp] theorem run_step (handle : {β : Type} → E β → σ → β × σ) (effect : E β)
    (next : β → Prog E α) (state : σ) :
    (step effect next).run handle state =
      (next (handle effect state).1).run handle (handle effect state).2 := rfl

theorem run_bind (handle : {β : Type} → E β → σ → β × σ) (prog : Prog E α)
    (next : α → Prog E β) (state : σ) :
    (prog.bind next).run handle state =
      match prog.run handle state with
      | (.ok value, after) => (next value).run handle after
      | (.error message, after) => (.error message, after) := by
  induction prog generalizing state with
  | pure value => rfl
  | fail message => rfl
  | step effect rest ih => exact ih _ _

theorem run_finally (handle : {β : Type} → E β → σ → β × σ) (body : Prog E α)
    (last : Prog E Unit) (state : σ) :
    (body.finally_ last).run handle state =
      match last.run handle (body.run handle state).2 with
      | (.ok _, after) => ((body.run handle state).1, after)
      | (.error message, after) => (.error message, after) := by
  induction body generalizing state with
  | pure value =>
    simp only [finally_, run_bind, run]
    rcases last.run handle state with ⟨_ | _, after⟩ <;> rfl
  | fail message =>
    simp only [finally_, run_bind, run]
    rcases last.run handle state with ⟨_ | _, after⟩ <;> rfl
  | step effect rest ih => exact ih _ _

def Uses (meets : {β : Type} → E β → Prop) : Prog E α → Prop
  | pure _ => True
  | fail _ => True
  | step effect next => meets effect ∧ ∀ answer, (next answer).Uses meets

theorem Uses.bind {meets : {β : Type} → E β → Prop} {prog : Prog E α} {next : α → Prog E β}
    (first : prog.Uses meets) (second : ∀ value, (next value).Uses meets) :
    (prog.bind next).Uses meets := by
  induction prog with
  | pure value => exact second value
  | fail message => trivial
  | step effect rest ih => exact ⟨first.1, fun answer => ih answer (first.2 answer)⟩

theorem Uses.finally_ {meets : {β : Type} → E β → Prop} {body : Prog E α} {last : Prog E Unit}
    (first : body.Uses meets) (second : last.Uses meets) : (body.finally_ last).Uses meets := by
  induction body with
  | pure value => exact second.bind fun _ => trivial
  | fail message => exact second.bind fun _ => trivial
  | step effect rest ih => exact ⟨first.1, fun answer => ih answer (first.2 answer)⟩

theorem uses_raise {meets : {β : Type} → E β → Prop} (result : Except String α) :
    (raise result : Prog E α).Uses meets := by
  cases result <;> trivial

/-- Whatever its effects are answered, within what they may be answered, what a program throws
meets one condition and what it ends with another one. -/
def Plays (answers : {β : Type} → E β → β → Prop) (throws : String → Prop) (ends : α → Prop) :
    Prog E α → Prop
  | pure value => ends value
  | fail message => throws message
  | step effect next => ∀ answer, answers effect answer → (next answer).Plays answers throws ends

section

variable {answers : {β : Type} → E β → β → Prop} {throws : String → Prop}

@[simp] theorem plays_pure {ends : α → Prop} (value : α) :
    (pure value : Prog E α).Plays answers throws ends ↔ ends value := Iff.rfl

@[simp] theorem plays_fail {ends : α → Prop} (message : String) :
    (fail message : Prog E α).Plays answers throws ends ↔ throws message := Iff.rfl

theorem Plays.bind {prog : Prog E α} {next : α → Prog E β} {ends : α → Prop} {last : β → Prop}
    (first : prog.Plays answers throws ends)
    (second : ∀ value, ends value → (next value).Plays answers throws last) :
    (prog.bind next).Plays answers throws last := by
  induction prog with
  | pure value => exact second value first
  | fail message => exact first
  | step effect rest ih => exact fun answer given => ih answer (first answer given)

theorem plays_raise {result : Except String α} {ends : α → Prop}
    (failed : ∀ message, result = .error message → throws message)
    (given : ∀ value, result = .ok value → ends value) :
    (raise result : Prog E α).Plays answers throws ends := by
  cases result with
  | error message => exact failed message rfl
  | ok value => exact given value rfl

theorem Plays.finally_ {body : Prog E α} {last : Prog E Unit} {ends : α → Prop}
    (first : body.Plays answers throws ends) (second : last.Plays answers throws fun _ => True) :
    (body.finally_ last).Plays answers throws ends := by
  induction body with
  | pure value => exact second.bind fun _ _ => first
  | fail message => exact second.bind fun _ _ => first
  | step effect rest ih => exact fun answer given => ih answer (first answer given)

def Answered (handle : {β : Type} → E β → σ → β × σ) (answers : {β : Type} → E β → β → Prop) :
    Prog E α → σ → Prop
  | pure _, _ => True
  | fail _, _ => True
  | step effect next, state => answers effect (handle effect state).1 ∧
      (next (handle effect state).1).Answered handle answers (handle effect state).2

theorem answered_of_forall {handle : {β : Type} → E β → σ → β × σ}
    (given : ∀ {β : Type} (effect : E β) (state : σ), answers effect (handle effect state).1)
    (prog : Prog E α) (state : σ) : prog.Answered handle answers state := by
  induction prog generalizing state with
  | pure value => trivial
  | fail message => trivial
  | step effect rest ih => exact ⟨given effect state, ih _ _⟩

theorem Plays.run {prog : Prog E α} {ends : α → Prop} (plays : prog.Plays answers throws ends)
    {handle : {β : Type} → E β → σ → β × σ} {state : σ}
    (answered : prog.Answered handle answers state) {message : String}
    (failed : (prog.run handle state).1 = .error message) : throws message := by
  induction prog generalizing state with
  | pure value => cases failed
  | fail thrown =>
    cases failed
    exact plays
  | step effect rest ih => exact ih _ (plays _ answered.1) answered.2 failed

end

theorem Uses.run {meets : {β : Type} → E β → Prop} {prog : Prog E α} (uses : prog.Uses meets)
    {handle : {β : Type} → E β → σ → β × σ} (keeps : σ → σ → Prop)
    (refl : ∀ state, keeps state state)
    (trans : ∀ {first second third}, keeps first second → keeps second third →
      keeps first third)
    (effective : ∀ {β : Type} (effect : E β) (state : σ), meets effect →
      keeps state (handle effect state).2) (state : σ) :
    keeps state (prog.run handle state).2 := by
  induction prog generalizing state with
  | pure value => exact refl state
  | fail message => exact refl state
  | step effect next ih =>
    exact trans (effective effect state uses.1) (ih _ (uses.2 _) _)

section

variable {V : Type}

/-- Whatever its effects are answered, each is allowed by what the answers before it taught, and the
program ends as specified. -/
def Guarded (allowed : {β : Type} → E β → V → Prop) (learn : {β : Type} → E β → β → V → V)
    (ends : Except String α → V → Prop) : Prog E α → V → Prop
  | pure value, view => ends (.ok value) view
  | fail message, view => ends (.error message) view
  | step effect next, view => allowed effect view ∧
      ∀ answer, (next answer).Guarded allowed learn ends (learn effect answer view)

variable {allowed : {β : Type} → E β → V → Prop} {learn : {β : Type} → E β → β → V → V}

theorem Guarded.bind {prog : Prog E α} {next : α → Prog E β} {first : Except String α → V → Prop}
    {ends : Except String β → V → Prop} {view : V} (guarded : prog.Guarded allowed learn first view)
    (thrown : ∀ message view, first (.error message) view → ends (.error message) view)
    (then_ : ∀ value view, first (.ok value) view →
      (next value).Guarded allowed learn ends view) :
    (prog.bind next).Guarded allowed learn ends view := by
  induction prog generalizing view with
  | pure value => exact then_ value view guarded
  | fail message => exact thrown message view guarded
  | step effect rest ih => exact ⟨guarded.1, fun answer => ih answer (guarded.2 answer)⟩

theorem Guarded.mono {prog : Prog E α} {ends weaker : Except String α → V → Prop} {view : V}
    (guarded : prog.Guarded allowed learn ends view)
    (implies : ∀ result view, ends result view → weaker result view) :
    prog.Guarded allowed learn weaker view := by
  induction prog generalizing view with
  | pure value => exact implies _ _ guarded
  | fail message => exact implies _ _ guarded
  | step effect rest ih => exact ⟨guarded.1, fun answer => ih answer (guarded.2 answer)⟩

theorem Guarded.finally_ {body : Prog E α} {last : Prog E Unit} {view : V}
    (guarded : body.Guarded allowed learn (fun _ _ => True) view)
    (second : ∀ view, last.Guarded allowed learn (fun _ _ => True) view) :
    (body.finally_ last).Guarded allowed learn (fun _ _ => True) view := by
  induction body generalizing view with
  | pure value => exact (second view).bind (fun _ _ _ => trivial) fun _ _ _ => trivial
  | fail message => exact (second view).bind (fun _ _ _ => trivial) fun _ _ _ => trivial
  | step effect rest ih => exact ⟨guarded.1, fun answer => ih answer (guarded.2 answer)⟩

end

end Prog

structure Interleaved (ι Env Ext σ : Type) (E : Type → Type u) where
  /-- One atomic effect of a thread; the environment supplies what the state does not decide. -/
  perform : Env → ι → {β : Type} → E β → σ → β × σ
  /-- A change made by nobody who is modelled. -/
  external : Ext → σ → σ
  /-- What dies with a thread. -/
  crash : ι → σ → σ

namespace Interleaved

variable {ι Env Ext σ : Type} {E : Type → Type u}

structure Config (ι σ : Type) (E : Type → Type u) where
  shared : σ
  threads : ι → Prog E Unit

/-- One scheduling choice. -/
inductive Move (ι Env Ext : Type) where
  | run (thread : ι) (env : Env)
  | external (change : Ext)
  | crash (thread : ι)

section

variable [DecidableEq ι]

/-- Carry out one scheduling choice; a thread that has ended does nothing more. -/
def move (sys : Interleaved ι Env Ext σ E) (config : Config ι σ E) :
    Move ι Env Ext → Config ι σ E
  | .run thread env =>
    match config.threads thread with
    | .step effect next =>
      let answered := sys.perform env thread effect config.shared
      ⟨answered.2, Function.update config.threads thread (next answered.1)⟩
    | _ => config
  | .external change => ⟨sys.external change config.shared, config.threads⟩
  | .crash thread =>
    ⟨sys.crash thread config.shared, Function.update config.threads thread (.pure ())⟩

/-- Carry out a schedule. -/
def runMoves (sys : Interleaved ι Env Ext σ E) (config : Config ι σ E)
    (moves : List (Move ι Env Ext)) : Config ι σ E :=
  moves.foldl sys.move config

@[simp] theorem runMoves_nil (sys : Interleaved ι Env Ext σ E) (config : Config ι σ E) :
    sys.runMoves config [] = config := rfl

@[simp] theorem runMoves_cons (sys : Interleaved ι Env Ext σ E) (config : Config ι σ E)
    (first : Move ι Env Ext) (moves : List (Move ι Env Ext)) :
    sys.runMoves config (first :: moves) = sys.runMoves (sys.move config first) moves := rfl

theorem runMoves_append (sys : Interleaved ι Env Ext σ E) (config : Config ι σ E)
    (moves more : List (Move ι Env Ext)) :
    sys.runMoves config (moves ++ more) = sys.runMoves (sys.runMoves config moves) more :=
  List.foldl_append

def AllUse (meets : ι → {β : Type} → E β → Prop) (config : Config ι σ E) : Prop :=
  ∀ thread, (config.threads thread).Uses (meets thread)

variable {sys : Interleaved ι Env Ext σ E} {config : Config ι σ E}
  {meets : ι → {β : Type} → E β → Prop}

theorem AllUse.move (uses : AllUse meets config) (next : Move ι Env Ext) :
    AllUse meets (sys.move config next) := by
  intro other
  cases next with
  | external change => exact uses other
  | crash thread =>
    -- A dead thread reaches nothing.
    by_cases same : other = thread
    · subst same
      simp only [Interleaved.move, Function.update_self]
      trivial
    · simpa only [Interleaved.move, Function.update_of_ne same] using uses other
  | run thread env =>
    cases running : config.threads thread with
    | step effect rest =>
      have own := uses thread
      rw [running] at own
      simp only [Interleaved.move, running]
      by_cases same : other = thread
      · subst same
        simpa only [Function.update_self] using own.2 _
      · simpa only [Function.update_of_ne same] using uses other
    | _ => simpa only [Interleaved.move, running] using uses other

theorem AllUse.runMoves (uses : AllUse meets config) (moves : List (Move ι Env Ext)) :
    AllUse meets (sys.runMoves config moves) := by
  induction moves generalizing config with
  | nil => exact uses
  | cons first moves ih => exact ih (uses.move first)

theorem AllUse.run_related (uses : AllUse meets config) (relates : σ → σ → Prop) {thread : ι}
    {env : Env} (idle : relates config.shared config.shared)
    (effective : ∀ {β : Type} (effect : E β), meets thread effect →
      relates config.shared (sys.perform env thread effect config.shared).2) :
    relates config.shared (sys.move config (.run thread env)).shared := by
  cases running : config.threads thread with
  | step effect rest =>
    have own := uses thread
    rw [running] at own
    simpa only [Interleaved.move, running] using effective effect own.1
  | _ => simpa only [Interleaved.move, running] using idle

def MeetsNext (allowed : {β : Type} → E β → Prop) : Prog E Unit → Prop
  | .step effect _ => allowed effect
  | _ => True

/-- An effect condition, asked of the effect that a scheduling choice carries out. -/
def MeetsMove (allowed : Env → ι → {β : Type} → E β → σ → Prop) (config : Config ι σ E) :
    Move ι Env Ext → Prop
  | .run thread env =>
    MeetsNext (fun effect => allowed env thread effect config.shared) (config.threads thread)
  | _ => True

/-- An effect condition, asked of every effect a schedule carries out. -/
def Meets (sys : Interleaved ι Env Ext σ E)
    (allowed : Env → ι → {β : Type} → E β → σ → Prop) :
    Config ι σ E → List (Move ι Env Ext) → Prop
  | _, [] => True
  | config, next :: moves =>
    MeetsMove allowed config next ∧ Meets sys allowed (sys.move config next) moves

end

section

variable [DecidableEq ι]

instance decidableMeetsNext (allowed : {β : Type} → E β → Prop)
    [∀ {β : Type} (effect : E β), Decidable (allowed effect)] :
    (prog : Prog E Unit) → Decidable (MeetsNext allowed prog)
  | .step effect _ => inferInstanceAs (Decidable (allowed effect))
  | .pure _ => inferInstanceAs (Decidable True)
  | .fail _ => inferInstanceAs (Decidable True)

instance decidableMeetsMove (allowed : Env → ι → {β : Type} → E β → σ → Prop)
    [∀ env thread {β : Type} (effect : E β) state, Decidable (allowed env thread effect state)]
    (config : Config ι σ E) : (next : Move ι Env Ext) → Decidable (MeetsMove allowed config next)
  | .run thread env =>
    decidableMeetsNext (fun effect => allowed env thread effect config.shared)
      (config.threads thread)
  | .external _ => inferInstanceAs (Decidable True)
  | .crash _ => inferInstanceAs (Decidable True)

instance decidableMeets (sys : Interleaved ι Env Ext σ E)
    (allowed : Env → ι → {β : Type} → E β → σ → Prop)
    [∀ env thread {β : Type} (effect : E β) state, Decidable (allowed env thread effect state)]
    (config : Config ι σ E) (moves : List (Move ι Env Ext)) :
    Decidable (sys.Meets allowed config moves) :=
  match moves with
  | [] => inferInstanceAs (Decidable True)
  | next :: moves =>
    have := decidableMeets sys allowed (sys.move config next) moves
    inferInstanceAs (Decidable (MeetsMove allowed config next ∧ _))

end

/-- An invariant of the shared state, and what each thread relies on the others to keep. -/
structure Discipline (sys : Interleaved ι Env Ext σ E) where
  allowed : Env → ι → {β : Type} → E β → σ → Prop
  inv : σ → Prop
  rely : ι → σ → σ → Prop
  rely_refl : ∀ thread state, rely thread state state
  rely_trans : ∀ {thread first second third}, rely thread first second →
    rely thread second third → rely thread first third
  external_ok : ∀ change state, inv state → inv (sys.external change state) ∧
    ∀ thread, rely thread state (sys.external change state)
  crash_ok : ∀ thread state, inv state → inv (sys.crash thread state) ∧
    ∀ other, other ≠ thread → rely other state (sys.crash thread state)

variable {sys : Interleaved ι Env Ext σ E} (d : Discipline sys) {α β : Type}

/--
A thread's remaining program is safe from a state: whatever the others do meanwhile, each of
its effects keeps the invariant and what the others rely on, and it ends as specified.
-/
def Safe (thread : ι) : Prog E α → (Except String α → σ → Prop) → σ → Prop
  | .pure value, ends, state => ∀ later, d.rely thread state later → ends (.ok value) later
  | .fail message, ends, state => ∀ later, d.rely thread state later → ends (.error message) later
  | .step effect next, ends, state => ∀ later, d.rely thread state later → d.inv later →
      ∀ env, d.allowed env thread effect later →
        d.inv (sys.perform env thread effect later).2 ∧
        (∀ other, other ≠ thread → d.rely other later (sys.perform env thread effect later).2) ∧
        Safe thread (next (sys.perform env thread effect later).1) ends
          (sys.perform env thread effect later).2

variable {d} {thread : ι} {ends : Except String α → σ → Prop} {state : σ}

variable {prog : Prog E α}

theorem Safe.later (safe : Safe d thread prog ends state) {later : σ}
    (meanwhile : d.rely thread state later) : Safe d thread prog ends later := by
  cases prog with
  | pure value => exact fun last rest => safe last (d.rely_trans meanwhile rest)
  | fail message => exact fun last rest => safe last (d.rely_trans meanwhile rest)
  | step effect next => exact fun last rest => safe last (d.rely_trans meanwhile rest)

theorem Safe.bind {prog : Prog E β} {next : β → Prog E α}
    (safe : Safe d thread prog (fun result last => match result with
      | .ok value => Safe d thread (next value) ends last
      | .error message => ends (.error message) last) state) :
    Safe d thread (prog.bind next) ends state := by
  induction prog generalizing state with
  | pure value => exact safe state (d.rely_refl thread state)
  | fail message => exact safe
  | step effect rest ih =>
    intro later meanwhile holds env allowed
    obtain ⟨kept, others, safe⟩ := safe later meanwhile holds env allowed
    exact ⟨kept, others, ih _ safe⟩

theorem Safe.mono {weaker : Except String α → σ → Prop} (safe : Safe d thread prog ends state)
    (implies : ∀ result last, (∀ later, d.rely thread last later → ends result later) →
      weaker result last) :
    Safe d thread prog weaker state := by
  induction prog generalizing state with
  | pure value =>
    exact fun later meanwhile => implies _ _ fun last rest =>
      safe last (d.rely_trans meanwhile rest)
  | fail message =>
    exact fun later meanwhile => implies _ _ fun last rest =>
      safe last (d.rely_trans meanwhile rest)
  | step effect rest ih =>
    intro later meanwhile holds env allowed
    obtain ⟨kept, others, safe⟩ := safe later meanwhile holds env allowed
    exact ⟨kept, others, ih _ safe⟩

theorem Safe.finally_ {last : Prog E Unit}
    (safe : Safe d thread prog (fun result after => Safe d thread last
      (fun ended final => match ended with
        | .ok _ => ends result final
        | .error message => ends (.error message) final) after) state) :
    Safe d thread (prog.finally_ last) ends state := by
  induction prog generalizing state with
  | pure value =>
    refine Safe.bind ((safe state (d.rely_refl thread state)).mono fun result after ended => ?_)
    cases result with
    | ok _ => exact ended
    | error message => exact ended after (d.rely_refl thread after)
  | fail message =>
    refine Safe.bind ((safe state (d.rely_refl thread state)).mono fun result after ended => ?_)
    cases result with
    | ok _ => exact ended
    | error message => exact ended after (d.rely_refl thread after)
  | step effect rest ih =>
    intro later meanwhile holds env allowed
    obtain ⟨kept, others, safe⟩ := safe later meanwhile holds env allowed
    exact ⟨kept, others, ih _ safe⟩

variable [DecidableEq ι]

structure AllSafe (d : Discipline sys) (config : Config ι σ E) : Prop where
  inv : d.inv config.shared
  safe : ∀ thread, Safe d thread (config.threads thread) (fun _ _ => True) config.shared

theorem AllSafe.move {config : Config ι σ E} (all : AllSafe d config) {next : Move ι Env Ext}
    (meets : Meets sys d.allowed config [next]) : AllSafe d (sys.move config next) := by
  cases next with
  | run thread env =>
    cases running : config.threads thread with
    | step effect rest =>
      have permitted : d.allowed env thread effect config.shared := by
        simpa [Meets, MeetsMove, MeetsNext, running] using meets
      have own := all.safe thread
      rw [running] at own
      obtain ⟨kept, others, safe⟩ :=
        own config.shared (d.rely_refl thread _) all.inv env permitted
      simp only [Interleaved.move, running]
      refine ⟨kept, fun other => ?_⟩
      by_cases same : other = thread
      · simpa only [same, Function.update_self] using safe
      · simpa only [Function.update_of_ne same] using (all.safe other).later (others other same)
    | _ => simpa only [Interleaved.move, running] using all
  | external change =>
    obtain ⟨kept, others⟩ := d.external_ok change config.shared all.inv
    exact ⟨kept, fun thread => (all.safe thread).later (others thread)⟩
  | crash thread =>
    obtain ⟨kept, others⟩ := d.crash_ok thread config.shared all.inv
    refine ⟨kept, fun other => ?_⟩
    by_cases same : other = thread
    · simp only [Interleaved.move, same, Function.update_self]
      exact fun _ _ => trivial
    · simp only [Interleaved.move, Function.update_of_ne same]
      exact (all.safe other).later (others other same)

theorem AllSafe.runMoves {config : Config ι σ E} (all : AllSafe d config)
    {moves : List (Move ι Env Ext)} (meets : Meets sys d.allowed config moves) :
    AllSafe d (sys.runMoves config moves) := by
  induction moves generalizing config with
  | nil => exact all
  | cons first moves ih => exact ih (all.move ⟨meets.1, trivial⟩) meets.2

theorem AllSafe.move_related [Nontrivial ι] {config : Config ι σ E} (all : AllSafe d config)
    {relates : σ → σ → Prop}
    (implied : ∀ thread state later, d.rely thread state later → relates state later)
    {next : Move ι Env Ext} (meets : Meets sys d.allowed config [next]) :
    relates config.shared (sys.move config next).shared := by
  cases next with
  | run thread env =>
    -- Somebody else watches the thread that moves.
    obtain ⟨other, apart⟩ := exists_ne thread
    cases running : config.threads thread with
    | step effect rest =>
      have permitted : d.allowed env thread effect config.shared := by
        simpa [Meets, MeetsMove, MeetsNext, running] using meets
      have own := all.safe thread
      rw [running] at own
      obtain ⟨-, others, -⟩ := own config.shared (d.rely_refl thread _) all.inv env permitted
      simp only [Interleaved.move, running]
      exact implied other _ _ (others other apart)
    | _ =>
      simp only [Interleaved.move, running]
      exact implied other _ _ (d.rely_refl other _)
  | external change =>
    obtain ⟨thread, -⟩ := exists_pair_ne ι
    exact implied thread _ _ ((d.external_ok change config.shared all.inv).2 thread)
  | crash thread =>
    obtain ⟨other, apart⟩ := exists_ne thread
    exact implied other _ _ ((d.crash_ok thread config.shared all.inv).2 other apart)

theorem AllSafe.runMoves_related [Nontrivial ι] {config : Config ι σ E} (all : AllSafe d config)
    {relates : σ → σ → Prop} (refl : ∀ state, relates state state)
    (trans : ∀ {first second third}, relates first second → relates second third →
      relates first third)
    (implied : ∀ thread state later, d.rely thread state later → relates state later)
    {moves : List (Move ι Env Ext)} (meets : Meets sys d.allowed config moves) :
    relates config.shared (sys.runMoves config moves).shared := by
  induction moves generalizing config with
  | nil => exact refl _
  | cons first moves ih =>
    have one : Meets sys d.allowed config [first] := ⟨meets.1, trivial⟩
    exact trans (all.move_related implied one) (ih (all.move one) meets.2)

end Interleaved

/-! ### Locks that name their holder: who has one while the holder lives, and after it died. -/

section

variable {Process : Type} {owner : Option Process} {alive holds : Process → Bool}
  {process other : Process}

def OwnedLock (owner : Option Process) (alive holds : Process → Bool) : Prop :=
  ∀ process, alive process = true → holds process = true → owner = some process

theorem OwnedLock.others (owned : OwnedLock owner alive holds) (lives : alive process = true)
    (held : holds process = true) (distinct : other ≠ process) (living : alive other = true) :
    holds other = false := by
  cases has : holds other with
  | false => rfl
  | true =>
    -- The lock would name both of them.
    have own := owned process lives held
    rw [owned other living has, Option.some.injEq] at own
    exact absurd own distinct

theorem OwnedLock.nobody (owned : OwnedLock owner alive holds)
    (dead : (owner.all fun named => !alive named) = true) (living : alive other = true) :
    holds other = false := by
  cases has : holds other with
  | false => rfl
  | true =>
    simp [owned other living has, living] at dead

end
