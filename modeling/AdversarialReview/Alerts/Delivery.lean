import Mathlib.Logic.Function.Basic

/-! The alert sink: one queued alert among its five directories, the drains that move it, and when it
is neither lost nor posted again. -/

namespace AdversarialReview.Alerts

inductive AlertState where
  | pending
  | inflight
  | delivered
  | deadLetter
  deriving DecidableEq

structure AlertDoc where
  state : AlertState := .pending
  attemptCount : Nat := 0

/-- The directories that a file of an alert is moved between under its own name. -/
inductive SinkDir where
  | pending
  | inflight
  | delivered
  | deadLetter
  deriving DecidableEq

inductive PostAnswer where
  | delivered
  | failed (permanent : Bool)

/-- Where a caller stands, before its next step on the files. -/
inductive AlertStage where
  | idle
  /-- `queueAlertDoc`, before its write. -/
  | queueing
  /-- `recoverStaleInflightAlerts`: before the inflight file is read, before the other directories
  are looked at, and before what then follows. -/
  | recovering
  | seekDelivered (doc : AlertDoc)
  | seekDeadLetter (doc : AlertDoc)
  | finalizing (dir : SinkDir)
  | seekPending (doc : AlertDoc)
  /-- Before `rmSync` of the inflight file, with the directory that has another one. -/
  | removing (seen : SinkDir)
  | rewriting (doc : AlertDoc)
  | restoring
  /-- `drainSingleAlert`: before the pending file is read, before its move, before the attempt is
  written, and before the post. -/
  | draining
  | moving (doc : AlertDoc)
  | attempting (doc : AlertDoc)
  | posting (doc : AlertDoc)
  /-- After the post: before the file is written, before its move, and before the receipt. -/
  | writing (doc : AlertDoc) (dir : SinkDir)
  | settling (doc : AlertDoc) (dir : SinkDir)
  | receipting (doc : AlertDoc)
  /-- `quarantineAlertFile` of the file in a directory, and whether a drain still follows. -/
  | quarantining (dir : SinkDir) (recovery : Bool)

structure AlertWorld where
  maxAttempts : Nat
  files : SinkDir → Option AlertDoc
  quarantined : Bool
  alive : Nat → Bool
  stages : Nat → AlertStage
  /-- An enqueue of the alert has returned. -/
  queued : Bool
  failedPosts : Nat
  permanentErrors : Bool

structure AlertMove where
  caller : Nat
  /-- An idle caller queues the alert, or drains. -/
  queues : Bool := false
  dies : Bool := false
  /-- The document is not read, or not accepted. -/
  refused : Bool := false
  /-- The inflight file is older than the stale age. -/
  stale : Bool := false
  due : Bool := true
  post : PostAnswer := .delivered
  /-- What follows the move of a settled alert throws. -/
  throws : Bool := false

def startAlerts (maxAttempts : Nat) : AlertWorld where
  maxAttempts := maxAttempts
  files := fun _ => none
  quarantined := false
  alive := fun _ => true
  stages := fun _ => .idle
  queued := false
  failedPosts := 0
  permanentErrors := false

namespace AlertWorld

def goesOn (world : AlertWorld) (caller : Nat) (stage : AlertStage) : AlertWorld :=
  { world with stages := Function.update world.stages caller stage }

def put (world : AlertWorld) (dir : SinkDir) (doc : Option AlertDoc) : AlertWorld :=
  { world with files := Function.update world.files dir doc }

def rename (world : AlertWorld) (source target : SinkDir) (doc : AlertDoc) : AlertWorld :=
  (world.put source none).put target (some doc)

def fails (world : AlertWorld) (doc : AlertDoc) (permanent : Bool) : AlertStage :=
  if permanent || decide (world.maxAttempts ≤ doc.attemptCount) then
    .writing { doc with state := .deadLetter } .deadLetter
  else .writing { doc with state := .pending } .pending

def act (world : AlertWorld) (move : AlertMove) : AlertWorld :=
  match world.stages move.caller with
  | .idle => world.goesOn move.caller (if move.queues then .queueing else .recovering)
  | .queueing =>
    -- The write does not replace a file; it throws where there is one.
    match world.files .pending with
    | none => { world.put .pending (some {}) with queued := true }.goesOn move.caller .idle
    | some _ => world.goesOn move.caller .idle
  | .recovering =>
    match world.files .inflight with
    | none =>
      -- A file that was listed may be gone when it is read.
      world.goesOn move.caller (if move.refused then .quarantining .inflight true else .draining)
    | some doc => world.goesOn move.caller
      (if move.refused then .quarantining .inflight true
      else if move.stale then .seekDelivered doc else .draining)
  | .seekDelivered doc => world.goesOn move.caller
    (if (world.files .delivered).isSome then .removing .delivered else .seekDeadLetter doc)
  | .seekDeadLetter doc => world.goesOn move.caller
    (if (world.files .deadLetter).isSome then .removing .deadLetter
    else match doc.state with
      | .delivered => .finalizing .delivered
      | .deadLetter => .finalizing .deadLetter
      | _ => .seekPending doc)
  | .finalizing dir =>
    match world.files .inflight with
    | none => world.goesOn move.caller .draining
    | some doc => (world.rename .inflight dir doc).goesOn move.caller .draining
  | .seekPending doc => world.goesOn move.caller
    (if (world.files .pending).isSome then .removing .pending else .rewriting doc)
  | .removing _ => (world.put .inflight none).goesOn move.caller .draining
  | .rewriting doc =>
    (world.put .inflight (some { doc with state := .pending })).goesOn move.caller .restoring
  | .restoring =>
    match world.files .inflight with
    | none => world.goesOn move.caller .draining
    | some doc => (world.rename .inflight .pending doc).goesOn move.caller .draining
  | .draining =>
    match world.files .pending with
    | none =>
      world.goesOn move.caller (if move.refused then .quarantining .pending false else .idle)
    | some doc => world.goesOn move.caller
      (if move.refused then .quarantining .pending false
      else if move.due then .moving doc else .idle)
  | .moving doc =>
    match world.files .pending with
    | none => world.goesOn move.caller (.quarantining .pending false)
    | some found => (world.rename .pending .inflight found).goesOn move.caller (.attempting doc)
  | .attempting doc =>
    let counted : AlertDoc := { state := .inflight, attemptCount := doc.attemptCount + 1 }
    (world.put .inflight (some counted)).goesOn move.caller (.posting counted)
  | .posting doc =>
    match move.post with
    | .delivered =>
      world.goesOn move.caller (.writing { doc with state := .delivered } .delivered)
    | .failed permanent =>
      { world with
        failedPosts := world.failedPosts + 1
        permanentErrors := world.permanentErrors || permanent }.goesOn move.caller
          (world.fails doc permanent)
  | .writing doc dir =>
    (world.put .inflight (some doc)).goesOn move.caller (.settling doc dir)
  | .settling doc dir =>
    match world.files .inflight, dir with
    | some found, .delivered =>
      (world.rename .inflight .delivered found).goesOn move.caller (.receipting doc)
    | some found, dir => (world.rename .inflight dir found).goesOn move.caller
      (if move.throws then .quarantining .pending false else .idle)
    -- The error is one of the attempt, or one of its settlement.
    | none, .delivered => world.goesOn move.caller (world.fails doc false)
    | none, _ => world.goesOn move.caller (.quarantining .pending false)
  | .receipting doc =>
    world.goesOn move.caller (if move.throws then world.fails doc false else .idle)
  | .quarantining dir recovery =>
    match world.files dir with
    | none => world.goesOn move.caller (if recovery then .draining else .idle)
    | some _ => { world.put dir none with quarantined := true }.goesOn move.caller
      (if recovery then .draining else .idle)

def step (world : AlertWorld) (move : AlertMove) : AlertWorld :=
  if world.alive move.caller then
    if move.dies then { world with alive := Function.update world.alive move.caller false }
    else world.act move
  else world

def run (world : AlertWorld) (moves : List AlertMove) : AlertWorld :=
  moves.foldl step world

def present (world : AlertWorld) : Prop :=
  (∃ dir, (world.files dir).isSome = true) ∨ world.quarantined = true

def carefulStep (world : AlertWorld) (move : AlertMove) : Bool :=
  match world.stages move.caller with
  | .removing seen => (world.files seen).isSome
  | .attempting doc => decide (doc.attemptCount ≤ world.failedPosts)
  | .settling _ .delivered => (world.files .inflight).isSome
  | .receipting _ => !move.throws
  | _ => true

def careful (world : AlertWorld) : List AlertMove → Bool
  | [] => true
  | move :: moves => world.carefulStep move && (world.step move).careful moves

end AlertWorld

section

def AlertWorld.spent (world : AlertWorld) : Prop :=
  world.permanentErrors = true ∨ world.maxAttempts ≤ world.failedPosts

def AlertStage.Stands (world : AlertWorld) : AlertStage → Prop
  | .removing seen => seen ≠ .inflight
  | .posting doc => doc.attemptCount ≤ world.failedPosts + 1 ∧ doc.state = .inflight
  | .writing doc dir | .settling doc dir =>
    (doc.state = .deadLetter → world.spent) ∧ (dir = .deadLetter → world.spent)
  | .seekDelivered doc | .seekDeadLetter doc => doc.state = .deadLetter → world.spent
  | .finalizing dir => dir = .deadLetter → world.spent
  | _ => True

structure AlertInv (world : AlertWorld) : Prop where
  shown : world.queued = true → world.present
  stands : ∀ caller, (world.stages caller).Stands world
  docs : ∀ dir doc, world.files dir = some doc → doc.state = .deadLetter → world.spent
  dead : (world.files .deadLetter).isSome = true → world.spent

structure Later (world after : AlertWorld) : Prop where
  attempts : after.maxAttempts = world.maxAttempts
  failed : world.failedPosts ≤ after.failedPosts
  permanent : world.permanentErrors = true → after.permanentErrors = true

variable {world after : AlertWorld} {move : AlertMove} {caller : Nat} {stage : AlertStage}

theorem Later.refl (world : AlertWorld) : Later world world :=
  ⟨rfl, Nat.le_refl _, id⟩

theorem Later.spent (grows : Later world after) (spent : world.spent) : after.spent := by
  rcases spent with permanent | failed
  · exact Or.inl (grows.permanent permanent)
  · apply Or.inr
    rw [grows.attempts]
    exact Nat.le_trans failed grows.failed

theorem AlertStage.Stands.later (stands : stage.Stands world) (grows : Later world after) :
    stage.Stands after := by
  cases stage with
  | removing seen => exact stands
  | posting doc =>
    have failed := grows.failed
    obtain ⟨counted, state⟩ := stands
    exact ⟨by omega, state⟩
  | writing doc dir => exact ⟨fun dead => grows.spent (stands.1 dead),
      fun dead => grows.spent (stands.2 dead)⟩
  | settling doc dir => exact ⟨fun dead => grows.spent (stands.1 dead),
      fun dead => grows.spent (stands.2 dead)⟩
  | seekDelivered doc => exact fun dead => grows.spent (stands dead)
  | seekDeadLetter doc => exact fun dead => grows.spent (stands dead)
  | finalizing dir => exact fun dead => grows.spent (stands dead)
  | _ => trivial

theorem alertInv_start (maxAttempts : Nat) : AlertInv (startAlerts maxAttempts) where
  shown := by
    intro queued
    cases queued
  stands := fun caller => trivial
  docs := by
    intro dir doc found
    cases found
  dead := by
    intro found
    cases found

section

variable {dir source target : SinkDir} {doc : AlertDoc}

theorem present_put : (world.put dir (some doc)).present :=
  Or.inl ⟨dir, by simp [AlertWorld.put]⟩

theorem present_rename : (world.rename source target doc).present :=
  present_put

theorem present_remove (distinct : target ≠ source)
    (there : (world.files target).isSome = true) : (world.put source none).present :=
  Or.inl ⟨target, by simpa [AlertWorld.put, Function.update_of_ne distinct] using there⟩

end

namespace AlertInv

theorem advance (inv : AlertInv world) (caller : Nat) (stage : AlertStage)
    (stages : after.stages = Function.update world.stages caller stage)
    (grows : Later world after) (shown : after.queued = true → after.present)
    (stands : stage.Stands after)
    (docs : ∀ dir doc, after.files dir = some doc → world.files dir = some doc ∨
      (doc.state = .deadLetter → after.spent))
    (dead : (after.files .deadLetter).isSome = true →
      (world.files .deadLetter).isSome = true ∨ after.spent) : AlertInv after := by
  refine ⟨shown, ?_, ?_, ?_⟩
  · intro other
    rw [stages]
    by_cases same : other = caller
    · rw [same, Function.update_self]
      exact stands
    · rw [Function.update_of_ne same]
      exact (inv.stands other).later grows
  · intro dir doc found state
    rcases docs dir doc found with before | spent
    · exact grows.spent (inv.docs dir doc before state)
    · exact spent state
  · intro found
    rcases dead found with before | spent
    · exact grows.spent (inv.dead before)
    · exact spent

theorem moves (inv : AlertInv world) (caller : Nat) (stage : AlertStage)
    (stands : stage.Stands world) : AlertInv (world.goesOn caller stage) := by
  have grows : Later world (world.goesOn caller stage) := ⟨rfl, Nat.le_refl _, id⟩
  exact inv.advance caller stage rfl grows inv.shown (stands.later grows)
    (fun _ _ found => Or.inl found) Or.inl

theorem writes (inv : AlertInv world) (caller : Nat) (stage : AlertStage) {doc : AlertDoc}
    {dir : SinkDir} (alive : doc.state = .deadLetter → world.spent)
    (undead : dir = .deadLetter → world.spent) (stands : stage.Stands world) :
    AlertInv ((world.put dir (some doc)).goesOn caller stage) := by
  have grows : Later world ((world.put dir (some doc)).goesOn caller stage) :=
    ⟨rfl, Nat.le_refl _, id⟩
  refine inv.advance caller stage rfl grows ?_ (stands.later grows) ?_ ?_
  · exact fun _ => present_put
  · intro other found there
    change Function.update world.files dir (some doc) other = some found at there
    by_cases same : other = dir
    · rw [same, Function.update_self] at there
      cases there
      exact Or.inr fun state => grows.spent (alive state)
    · rw [Function.update_of_ne same] at there
      exact Or.inl there
  · intro there
    change (Function.update world.files dir (some doc) .deadLetter).isSome = true at there
    by_cases same : SinkDir.deadLetter = dir
    · exact Or.inr (grows.spent (undead same.symm))
    · rw [Function.update_of_ne same] at there
      exact Or.inl there

theorem removes (inv : AlertInv world) (caller : Nat) (stage : AlertStage) {dir : SinkDir}
    (shown : (world.put dir none).present) (stands : stage.Stands world) :
    AlertInv ((world.put dir none).goesOn caller stage) := by
  have grows : Later world ((world.put dir none).goesOn caller stage) := ⟨rfl, Nat.le_refl _, id⟩
  have kept {other : SinkDir} {found : AlertDoc}
      (there : Function.update world.files dir none other = some found) :
      world.files other = some found := by
    by_cases same : other = dir
    · rw [same, Function.update_self] at there
      cases there
    · rwa [Function.update_of_ne same] at there
  refine inv.advance caller stage rfl grows (fun _ => shown) (stands.later grows) ?_ ?_
  · exact fun _ _ there => Or.inl (kept there)
  · intro there
    obtain ⟨found, there⟩ := Option.isSome_iff_exists.mp there
    exact Or.inl (by rw [kept there]; rfl)

theorem renames (inv : AlertInv world) (caller : Nat) (stage : AlertStage) {doc : AlertDoc}
    {source target : SinkDir} (found : world.files source = some doc)
    (undead : target = .deadLetter → world.spent) (stands : stage.Stands world) :
    AlertInv ((world.rename source target doc).goesOn caller stage) := by
  have grows : Later world ((world.rename source target doc).goesOn caller stage) :=
    ⟨rfl, Nat.le_refl _, id⟩
  have state := inv.docs source doc found
  refine inv.advance caller stage rfl grows (fun _ => present_rename) (stands.later grows) ?_ ?_
  · intro other written there
    change Function.update (Function.update world.files source none) target (some doc) other =
      some written at there
    by_cases same : other = target
    · rw [same, Function.update_self] at there
      cases there
      exact Or.inr fun dead => grows.spent (state dead)
    · rw [Function.update_of_ne same] at there
      by_cases moved : other = source
      · rw [moved, Function.update_self] at there
        cases there
      · rw [Function.update_of_ne moved] at there
        exact Or.inl there
  · intro there
    change (Function.update (Function.update world.files source none) target (some doc)
      .deadLetter).isSome = true at there
    by_cases same : SinkDir.deadLetter = target
    · exact Or.inr (grows.spent (undead same.symm))
    · rw [Function.update_of_ne same] at there
      by_cases moved : SinkDir.deadLetter = source
      · rw [moved, Function.update_self] at there
        cases there
      · rw [Function.update_of_ne moved] at there
        exact Or.inl there

theorem quarantines (inv : AlertInv world) (caller : Nat) (stage : AlertStage) {dir : SinkDir}
    (stands : stage.Stands world) :
    AlertInv ({ world.put dir none with quarantined := true }.goesOn caller stage) := by
  have grows : Later world ({ world.put dir none with quarantined := true }.goesOn caller stage) :=
    ⟨rfl, Nat.le_refl _, id⟩
  have kept {other : SinkDir} {found : AlertDoc}
      (there : Function.update world.files dir none other = some found) :
      world.files other = some found := by
    by_cases same : other = dir
    · rw [same, Function.update_self] at there
      cases there
    · rwa [Function.update_of_ne same] at there
  refine inv.advance caller stage rfl grows (fun _ => Or.inr rfl) (stands.later grows) ?_ ?_
  · exact fun _ _ there => Or.inl (kept there)
  · intro there
    obtain ⟨found, there⟩ := Option.isSome_iff_exists.mp there
    exact Or.inl (by rw [kept there]; rfl)

theorem fails (inv : AlertInv world) {doc : AlertDoc}
    (at' : world.stages caller = .posting doc) (permanent : Bool) :
    AlertInv ({ world with
      failedPosts := world.failedPosts + 1
      permanentErrors := world.permanentErrors || permanent }.goesOn caller
        (world.fails doc permanent)) := by
  have stands := inv.stands caller
  rw [at'] at stands
  obtain ⟨counted, state⟩ := stands
  have grows : Later world ({ world with
      failedPosts := world.failedPosts + 1
      permanentErrors := world.permanentErrors || permanent }.goesOn caller
        (world.fails doc permanent)) := by
    refine ⟨rfl, Nat.le_succ _, ?_⟩
    intro before
    change (world.permanentErrors || permanent) = true
    rw [before, Bool.true_or]
  refine inv.advance caller _ rfl grows inv.shown ?_ (fun _ _ found => Or.inl found) Or.inl
  unfold AlertWorld.fails
  split
  · rename_i ended
    have spent : AlertWorld.spent ({ world with
        failedPosts := world.failedPosts + 1
        permanentErrors := world.permanentErrors || permanent }.goesOn caller
          (.writing { doc with state := .deadLetter } .deadLetter)) := by
      rw [Bool.or_eq_true, decide_eq_true_eq] at ended
      rcases ended with refused | many
      · apply Or.inl
        change (world.permanentErrors || permanent) = true
        rw [refused, Bool.or_true]
      · apply Or.inr
        change world.maxAttempts ≤ world.failedPosts + 1
        omega
    exact ⟨fun _ => spent, fun _ => spent⟩
  · refine ⟨?_, ?_⟩
    · intro dead
      cases dead
    · intro dead
      cases dead

end AlertInv

end

section

variable {world : AlertWorld} {move : AlertMove}

namespace AlertInv

/-- A careful step keeps the invariant; the cases are the stages of its caller. -/
theorem act (inv : AlertInv world) (careful : world.carefulStep move = true) :
    AlertInv (world.act move) := by
  have stands := inv.stands move.caller
  cases at' : world.stages move.caller with
  | idle =>
    simp only [AlertWorld.act, at']
    split
    · exact inv.moves _ _ trivial
    · exact inv.moves _ _ trivial
  | queueing =>
    simp only [AlertWorld.act, at']
    split
    · have queued : AlertInv ((world.put .pending (some {})).goesOn move.caller .idle) :=
        inv.writes _ _ (fun dead => by cases dead) (fun same => by cases same) trivial
      exact ⟨fun _ => present_put, queued.stands, queued.docs, queued.dead⟩
    · exact inv.moves _ _ trivial
  | recovering =>
    simp only [AlertWorld.act, at']
    cases found : world.files .inflight with
    | none =>
      simp only
      split
      · exact inv.moves _ _ trivial
      · exact inv.moves _ _ trivial
    | some doc =>
      simp only
      split
      · exact inv.moves _ _ trivial
      · split
        · exact inv.moves _ _ (inv.docs _ doc found)
        · exact inv.moves _ _ trivial
  | seekDelivered doc =>
    rw [at'] at stands
    simp only [AlertWorld.act, at']
    split
    · exact inv.moves _ _ (fun same => by cases same)
    · exact inv.moves _ _ stands
  | seekDeadLetter doc =>
    rw [at'] at stands
    simp only [AlertWorld.act, at']
    split
    · exact inv.moves _ _ (fun same => by cases same)
    · split
      · exact inv.moves _ _ (fun same => by cases same)
      · rename_i dead
        exact inv.moves _ _ (fun _ => stands dead)
      · exact inv.moves _ _ trivial
  | finalizing dir =>
    rw [at'] at stands
    simp only [AlertWorld.act, at']
    cases found : world.files .inflight with
    | none => exact inv.moves _ _ trivial
    | some doc => exact inv.renames _ _ found stands trivial
  | seekPending doc =>
    simp only [AlertWorld.act, at']
    split
    · exact inv.moves _ _ (fun same => by cases same)
    · exact inv.moves _ _ trivial
  | removing seen =>
    rw [at'] at stands
    simp only [AlertWorld.carefulStep, at'] at careful
    simp only [AlertWorld.act, at']
    exact inv.removes _ _ (present_remove stands careful) trivial
  | rewriting doc =>
    simp only [AlertWorld.act, at']
    exact inv.writes _ _ (fun dead => by cases dead) (fun same => by cases same) trivial
  | restoring =>
    simp only [AlertWorld.act, at']
    cases found : world.files .inflight with
    | none => exact inv.moves _ _ trivial
    | some doc => exact inv.renames _ _ found (fun same => by cases same) trivial
  | draining =>
    simp only [AlertWorld.act, at']
    cases found : world.files .pending with
    | none =>
      simp only
      split
      · exact inv.moves _ _ trivial
      · exact inv.moves _ _ trivial
    | some doc =>
      simp only
      split
      · exact inv.moves _ _ trivial
      · split
        · exact inv.moves _ _ trivial
        · exact inv.moves _ _ trivial
  | moving doc =>
    simp only [AlertWorld.act, at']
    cases found : world.files .pending with
    | none => exact inv.moves _ _ trivial
    | some other => exact inv.renames _ _ found (fun same => by cases same) trivial
  | attempting doc =>
    simp only [AlertWorld.carefulStep, at', decide_eq_true_eq] at careful
    simp only [AlertWorld.act, at']
    -- The attempts that the document counts have failed, all but the new one.
    refine inv.writes _ _ (fun dead => by cases dead) (fun same => by cases same) ?_
    exact ⟨Nat.succ_le_succ careful, rfl⟩
  | posting doc =>
    simp only [AlertWorld.act, at']
    cases posted : move.post with
    | delivered =>
      exact inv.moves _ _ ⟨fun dead => (by cases dead), fun same => (by cases same)⟩
    | failed permanent => exact inv.fails at' permanent
  | writing doc dir =>
    rw [at'] at stands
    simp only [AlertWorld.act, at']
    exact inv.writes _ _ stands.1 (fun same => by cases same) stands
  | settling doc dir =>
    rw [at'] at stands
    simp only [AlertWorld.act, at']
    cases found : world.files .inflight with
    | none =>
      cases dir with
      | delivered =>
        simp only [AlertWorld.carefulStep, at', found] at careful
        cases careful
      | pending => exact inv.moves _ _ trivial
      | inflight => exact inv.moves _ _ trivial
      | deadLetter => exact inv.moves _ _ trivial
    | some other =>
      have after : (if move.throws then AlertStage.quarantining .pending false
          else .idle).Stands world := by
        cases move.throws <;> trivial
      cases dir with
      | delivered => exact inv.renames _ _ found (fun same => by cases same) trivial
      | pending => exact inv.renames _ _ found (fun same => by cases same) after
      | inflight => exact inv.renames _ _ found (fun same => by cases same) after
      | deadLetter => exact inv.renames _ _ found stands.2 after
  | receipting doc =>
    simp only [AlertWorld.carefulStep, at', Bool.not_eq_true'] at careful
    simp only [AlertWorld.act, at', careful, Bool.false_eq_true, if_false]
    exact inv.moves _ _ trivial
  | quarantining dir recovery =>
    simp only [AlertWorld.act, at']
    have after : (if recovery then AlertStage.draining else .idle).Stands world := by
      cases recovery <;> trivial
    split
    · exact inv.moves _ _ after
    · exact inv.quarantines _ _ after

theorem step (inv : AlertInv world) (careful : world.carefulStep move = true) :
    AlertInv (world.step move) := by
  unfold AlertWorld.step
  split
  · split
    · exact ⟨inv.shown, inv.stands, inv.docs, inv.dead⟩
    · exact inv.act careful
  · exact inv

theorem run (inv : AlertInv world) {moves : List AlertMove}
    (careful : world.careful moves = true) : AlertInv (world.run moves) := by
  induction moves generalizing world with
  | nil => exact inv
  | cons move moves ih =>
    simp only [AlertWorld.careful, Bool.and_eq_true] at careful
    exact ih (inv.step careful.1) careful.2

end AlertInv

/-- An alert whose enqueue returned is in the sink, and it is dead only after a permanent error or
as many failed posts as it has attempts. -/
structure AlertKept (world : AlertWorld) : Prop where
  shown : world.queued = true → world.present
  dead : (world.files .deadLetter).isSome = true → world.spent

/-- Any number of callers, dying at any step, lose no alert where every step is careful. -/
theorem alert_never_lost (maxAttempts : Nat) (moves : List AlertMove)
    (careful : (startAlerts maxAttempts).careful moves = true) :
    AlertKept ((startAlerts maxAttempts).run moves) := by
  have inv := (alertInv_start maxAttempts).run careful
  exact ⟨inv.shown, inv.dead⟩

def returnedOnce : List AlertMove :=
  List.replicate 2 { caller := 0, queues := true } ++
    List.replicate 8 { caller := 1, post := .failed false }

theorem alert_never_lost_returned : AlertKept ((startAlerts 3).run returnedOnce) :=
  alert_never_lost 3 returnedOnce (by decide)

/-- A drain posts for longer than the stale age, and another one recovers its file. The slow drain
writes its inflight file again, which a third one sees next to the pending file; by the time that it
removes the inflight file, that is the only one. -/
def slowDrain : List AlertMove :=
  List.replicate 2 { caller := 0, queues := true } ++
    List.replicate 6 { caller := 1, post := .failed false } ++
    List.replicate 7 { caller := 2, stale := true } ++
    List.replicate 1 { caller := 1 } ++
    List.replicate 5 { caller := 3, stale := true } ++
    List.replicate 1 { caller := 1 } ++
    List.replicate 4 { caller := 4 } ++
    List.replicate 1 { caller := 3 }

theorem recovery_loses_alert :
    ¬ ∀ maxAttempts moves, AlertKept ((startAlerts maxAttempts).run moves) := by
  intro holds
  have shown := (holds 3 slowDrain).shown (by decide)
  rcases shown with ⟨dir, there⟩ | quarantined
  · cases dir <;> revert there <;> decide
  · revert quarantined
    decide

end

section

/-- A move of the only drainer. -/
structure Drains (caller : Nat) (move : AlertMove) : Prop where
  own : move.caller = caller
  drains : move.queues = false
  lives : move.dies = false

def AlertWorld.waiting (maxAttempts : Nat) (doc : AlertDoc) : AlertWorld :=
  (startAlerts maxAttempts).put .pending (some doc)

def AlertWorld.quiet (world : AlertWorld) : List AlertMove → Bool
  | [] => true
  | move :: moves =>
    (match world.stages move.caller with
      | .receipting _ => !move.throws
      | _ => true) && (world.step move).quiet moves

def AlertStage.posts : AlertStage → Nat
  | .posting _ => 1
  | _ => 0

def AlertWorld.posts (world : AlertWorld) : List AlertMove → Nat
  | [] => 0
  | move :: moves => (world.stages move.caller).posts + (world.step move).posts moves

/-- One directory has the file of the alert, and no other one has any. -/
structure Lies (files : SinkDir → Option AlertDoc) (dir : SinkDir) (doc : AlertDoc) : Prop where
  here : files dir = some doc
  only : ∀ other, other ≠ dir → files other = none

def Resting (files : SinkDir → Option AlertDoc) (count : Nat) : Prop :=
  (∃ doc, Lies files .pending doc ∧ doc.attemptCount = count) ∨
    (∃ doc, Lies files .delivered doc) ∨ (∃ doc, Lies files .deadLetter doc) ∨
      ∀ dir, files dir = none

def Placed (files : SinkDir → Option AlertDoc) (count : Nat) : AlertStage → Prop
  | .idle | .recovering | .draining => Resting files count
  | .quarantining dir _ => Resting files count ∧ (dir = .pending ∨ dir = .inflight)
  | .moving doc => Lies files .pending doc ∧ doc.attemptCount = count
  | .attempting doc => Lies files .inflight doc ∧ doc.attemptCount = count
  | .posting doc => Lies files .inflight doc ∧ doc.attemptCount = count + 1
  | .writing doc dir => (∃ old, Lies files .inflight old) ∧ doc.attemptCount = count ∧ dir ≠ .inflight
  | .settling doc dir => Lies files .inflight doc ∧ doc.attemptCount = count ∧ dir ≠ .inflight
  | .receipting _ => ∃ doc, Lies files .delivered doc
  | _ => False

variable {world : AlertWorld} {count : Nat} {doc : AlertDoc} {dir : SinkDir}
  {files : SinkDir → Option AlertDoc} {move : AlertMove} {caller : Nat}

theorem Lies.put (lies : Lies world.files dir doc) (other : AlertDoc) :
    Lies (world.put dir (some other)).files dir other where
  here := by simp [AlertWorld.put]
  only := fun one apart => by simpa [AlertWorld.put, apart] using lies.only one apart

theorem Lies.rename (lies : Lies world.files dir doc) (target : SinkDir) :
    Lies (world.rename dir target doc).files target doc where
  here := by simp [AlertWorld.rename, AlertWorld.put]
  only := fun one apart => by
    by_cases source : one = dir
    · subst source
      simp [AlertWorld.rename, AlertWorld.put, apart]
    · simpa [AlertWorld.rename, AlertWorld.put, apart, source] using lies.only one source

theorem Lies.elsewhere (lies : Lies files dir doc) {other : SinkDir} (apart : other ≠ dir)
    {found : AlertDoc} : files other ≠ some found := by
  rw [lies.only other apart]
  simp

theorem Resting.no_inflight (rests : Resting files count) : files .inflight = none := by
  rcases rests with ⟨_, lies, -⟩ | ⟨_, lies⟩ | ⟨_, lies⟩ | none_
  · exact lies.only _ (by decide)
  · exact lies.only _ (by decide)
  · exact lies.only _ (by decide)
  · exact none_ _

theorem Resting.pending (rests : Resting files count) (there : files .pending = some doc) :
    Lies files .pending doc ∧ doc.attemptCount = count := by
  rcases rests with ⟨own, lies, counted⟩ | ⟨_, lies⟩ | ⟨_, lies⟩ | none_
  · obtain rfl := Option.some.inj (lies.here.symm.trans there)
    exact ⟨lies, counted⟩
  · exact absurd there (lies.elsewhere (by decide))
  · exact absurd there (lies.elsewhere (by decide))
  · rw [none_] at there
    cases there

theorem Resting.quarantined (rests : Resting world.files count)
    (dirs : dir = .pending ∨ dir = .inflight) (there : world.files dir = some doc) :
    Resting (world.put dir none).files count := by
  rcases dirs with rfl | rfl
  · have lies := (rests.pending there).1
    refine .inr (.inr (.inr fun other => ?_))
    by_cases same : other = .pending
    · simp [AlertWorld.put, same]
    · simpa [AlertWorld.put, same] using lies.only other same
  · rw [rests.no_inflight] at there
    cases there

theorem Placed.fails (lies : ∃ old, Lies files .inflight old) (counted : doc.attemptCount = count)
    (permanent : Bool) : Placed files count (world.fails doc permanent) := by
  unfold AlertWorld.fails
  split
  · exact ⟨lies, counted, by decide⟩
  · exact ⟨lies, counted, by decide⟩

theorem Placed.act (placed : Placed world.files count (world.stages caller))
    (drains : Drains caller move) (settles : world.quiet [move] = true) :
    Placed (world.act move).files (count + (world.stages caller).posts)
      ((world.act move).stages caller) := by
  obtain ⟨rfl, drained, -⟩ := drains
  simp only [AlertWorld.quiet, Bool.and_true] at settles
  unfold AlertWorld.act
  cases stage : world.stages move.caller with
  | idle =>
    rw [stage] at placed
    simp only [drained, AlertStage.posts, AlertWorld.goesOn, Function.update_self]
    exact placed
  | recovering =>
    rw [stage] at placed
    simp only [Resting.no_inflight placed, AlertStage.posts, AlertWorld.goesOn, Function.update_self]
    split
    · exact ⟨placed, .inr rfl⟩
    · exact placed
  | draining =>
    rw [stage] at placed
    simp only [AlertStage.posts]
    cases there : world.files .pending with
    | none =>
      simp only [AlertWorld.goesOn, Function.update_self]
      split
      · exact ⟨placed, .inl rfl⟩
      · exact placed
    | some doc =>
      simp only [AlertWorld.goesOn, Function.update_self]
      split
      · exact ⟨placed, .inl rfl⟩
      · split
        · exact placed.pending there
        · exact placed
  | moving doc =>
    rw [stage] at placed
    simp only [placed.1.here, AlertStage.posts, AlertWorld.goesOn, Function.update_self]
    exact ⟨placed.1.rename .inflight, placed.2⟩
  | attempting doc =>
    rw [stage] at placed
    simp only [AlertStage.posts, AlertWorld.goesOn, Function.update_self]
    exact ⟨placed.1.put _, congrArg (· + 1) placed.2⟩
  | posting doc =>
    rw [stage] at placed
    cases move.post with
    | delivered =>
      simp only [AlertWorld.goesOn, Function.update_self]
      exact ⟨⟨_, placed.1⟩, placed.2, by decide⟩
    | failed permanent =>
      simp only [AlertWorld.goesOn, Function.update_self]
      exact Placed.fails ⟨_, placed.1⟩ placed.2 permanent
  | writing doc dir =>
    rw [stage] at placed
    obtain ⟨⟨old, lies⟩, counted, apart⟩ := placed
    simp only [AlertStage.posts, AlertWorld.goesOn, Function.update_self]
    exact ⟨lies.put _, counted, apart⟩
  | settling doc dir =>
    rw [stage] at placed
    obtain ⟨lies, counted, apart⟩ := placed
    simp only [AlertStage.posts, lies.here]
    cases dir with
    | delivered =>
      simp only [AlertWorld.goesOn, Function.update_self]
      exact ⟨_, lies.rename .delivered⟩
    | inflight => exact absurd rfl apart
    | pending =>
      have rests : Resting (world.rename .inflight .pending doc).files count :=
        .inl ⟨_, lies.rename .pending, counted⟩
      simp only [AlertWorld.goesOn, Function.update_self]
      split
      · exact ⟨rests, .inl rfl⟩
      · exact rests
    | deadLetter =>
      have rests : Resting (world.rename .inflight .deadLetter doc).files count :=
        .inr (.inr (.inl ⟨_, lies.rename .deadLetter⟩))
      simp only [AlertWorld.goesOn, Function.update_self]
      split
      · exact ⟨rests, .inl rfl⟩
      · exact rests
  | receipting doc =>
    rw [stage] at placed settles
    have quiet : move.throws = false := by simpa using settles
    simp only [AlertStage.posts, AlertWorld.goesOn, Function.update_self, quiet]
    exact .inr (.inl placed)
  | quarantining dir recovery =>
    rw [stage] at placed
    obtain ⟨rests, dirs⟩ := placed
    simp only [AlertStage.posts]
    cases there : world.files dir with
    | none =>
      simp only [AlertWorld.goesOn, Function.update_self]
      split <;> exact rests
    | some doc =>
      have taken := rests.quarantined dirs there
      simp only [AlertWorld.goesOn, Function.update_self]
      split <;> exact taken
  | _ =>
    rw [stage] at placed
    exact absurd placed id

theorem step_drains (drains : Drains caller move) (lives : world.alive caller = true) :
    world.step move = world.act move := by
  obtain ⟨rfl, -, alive⟩ := drains
  simp [AlertWorld.step, lives, alive]

theorem act_alive (world : AlertWorld) (move : AlertMove) : (world.act move).alive = world.alive := by
  unfold AlertWorld.act
  cases world.stages move.caller <;> simp only <;> (repeat' split) <;> rfl

def Settled (files : SinkDir → Option AlertDoc) (stage : AlertStage) : Prop :=
  (∃ doc, Lies files .delivered doc) ∧
    match stage with
    | .idle | .recovering | .draining | .receipting _ => True
    | .quarantining dir _ => dir ≠ .delivered
    | _ => False

theorem Placed.settled {stage : AlertStage} (placed : Placed files count stage)
    (delivered : (files .delivered).isSome = true) : Settled files stage := by
  have apart : ∀ {dir doc}, Lies files dir doc → dir ≠ .delivered → False := by
    intro dir doc lies other
    rw [lies.only _ other.symm] at delivered
    cases delivered
  have resting : ∀ count, Resting files count → ∃ doc, Lies files .delivered doc := by
    rintro count (⟨_, lies, -⟩ | settled | ⟨_, lies⟩ | none_)
    · exact (apart lies (by decide)).elim
    · exact settled
    · exact (apart lies (by decide)).elim
    · rw [none_] at delivered
      cases delivered
  cases stage with
  | idle => exact ⟨resting _ placed, trivial⟩
  | recovering => exact ⟨resting _ placed, trivial⟩
  | draining => exact ⟨resting _ placed, trivial⟩
  | quarantining dir recovery =>
    refine ⟨resting _ placed.1, ?_⟩
    rintro rfl
    rcases placed.2 with other | other <;> cases other
  | receipting doc => exact ⟨placed, trivial⟩
  | moving doc => exact (apart placed.1 (by decide)).elim
  | attempting doc => exact (apart placed.1 (by decide)).elim
  | posting doc => exact (apart placed.1 (by decide)).elim
  | writing doc dir => exact (apart placed.1.choose_spec (by decide)).elim
  | settling doc dir => exact (apart placed.1 (by decide)).elim
  | _ => exact placed.elim

theorem Settled.act (settled : Settled world.files (world.stages move.caller)) :
    ((world.act move).files .delivered).isSome = true := by
  obtain ⟨⟨doc, lies⟩, stands⟩ := settled
  have inflight := lies.only .inflight (by decide)
  have pending := lies.only .pending (by decide)
  have here : (world.files .delivered).isSome = true := by simp [lies.here]
  unfold AlertWorld.act
  cases stage : world.stages move.caller with
  | idle => exact here
  | recovering =>
    simp only [inflight]
    exact here
  | draining =>
    simp only [pending]
    exact here
  | receipting doc => exact here
  | quarantining dir recovery =>
    rw [stage] at stands
    simp only [lies.only dir stands]
    exact here
  | _ =>
    rw [stage] at stands
    exact stands.elim

theorem quiet_append (world : AlertWorld) (moves later : List AlertMove) :
    world.quiet (moves ++ later) = (world.quiet moves && (world.run moves).quiet later) := by
  induction moves generalizing world with
  | nil => simp [AlertWorld.quiet, AlertWorld.run]
  | cons move moves ih =>
    simp only [List.cons_append, AlertWorld.quiet, ih, Bool.and_assoc]
    rfl

theorem Placed.run (moves : List AlertMove)
    (placed : Placed world.files count (world.stages caller)) (lives : world.alive caller = true)
    (drains : ∀ move ∈ moves, Drains caller move) (settles : world.quiet moves = true) :
    Placed (world.run moves).files (count + world.posts moves)
      ((world.run moves).stages caller) ∧ (world.run moves).alive caller = true := by
  induction moves generalizing world count with
  | nil => exact ⟨placed, lives⟩
  | cons move moves ih =>
    have own := drains move (.head _)
    have steps := step_drains own lives
    simp only [AlertWorld.quiet, Bool.and_eq_true] at settles
    have acted := placed.act own (by simpa [AlertWorld.quiet] using settles.1)
    rw [← steps] at acted
    have rest := ih acted (by rw [steps, act_alive]; exact lives)
      (fun move listed => drains move (.tail _ listed)) settles.2
    rw [AlertWorld.posts, ← Nat.add_assoc, own.own]
    exact rest

theorem Placed.no_posts (moves : List AlertMove)
    (placed : Placed world.files count (world.stages caller)) (lives : world.alive caller = true)
    (drains : ∀ move ∈ moves, Drains caller move) (settles : world.quiet moves = true)
    (delivered : (world.files .delivered).isSome = true) : world.posts moves = 0 := by
  induction moves generalizing world count with
  | nil => rfl
  | cons move moves ih =>
    have own := drains move (.head _)
    have steps := step_drains own lives
    have settled := placed.settled delivered
    simp only [AlertWorld.quiet, Bool.and_eq_true] at settles
    have acted := placed.act own (by simpa [AlertWorld.quiet] using settles.1)
    have stays := Settled.act (own.own.symm ▸ settled)
    rw [← steps] at acted stays
    have rest := ih acted (by rw [steps, act_alive]; exact lives)
      (fun move listed => drains move (.tail _ listed)) settles.2 stays
    have none_ : (world.stages caller).posts = 0 := by
      have stands := settled.2
      cases stage : world.stages caller <;> simp only [stage] at stands <;> rfl
    rw [AlertWorld.posts, rest, own.own, none_]

/-- Where no write behind the move of a delivered alert fails, its only drainer leaves it in no
other directory and posts it no more; and every post is of one more attempt. -/
theorem alert_settled_once (maxAttempts : Nat) (doc : AlertDoc) {moves later : List AlertMove}
    (drains : ∀ move ∈ moves ++ later, Drains caller move)
    (settles : (AlertWorld.waiting maxAttempts doc).quiet (moves ++ later) = true) :
    let world := (AlertWorld.waiting maxAttempts doc).run moves
    (∀ counted, world.stages caller = .posting counted → counted.attemptCount =
        doc.attemptCount + (AlertWorld.waiting maxAttempts doc).posts moves + 1) ∧
      ((world.files .delivered).isSome = true →
        (∀ dir, dir ≠ .delivered → world.files dir = none) ∧ world.posts later = 0) := by
  rw [quiet_append, Bool.and_eq_true] at settles
  have starts : Placed (AlertWorld.waiting maxAttempts doc).files doc.attemptCount
      ((AlertWorld.waiting maxAttempts doc).stages caller) :=
    .inl ⟨doc, ⟨rfl, fun dir apart => by
      simp [AlertWorld.waiting, AlertWorld.put, startAlerts, apart]⟩, rfl⟩
  obtain ⟨placed, lives⟩ := starts.run moves rfl
    (fun move listed => drains move (List.mem_append_left _ listed)) settles.1
  refine ⟨fun counted stage => ?_, fun delivered => ⟨?_, ?_⟩⟩
  · rw [stage] at placed
    exact placed.2
  · obtain ⟨⟨found, lies⟩, -⟩ := placed.settled delivered
    exact lies.only
  · exact placed.no_posts later lives
      (fun move listed => drains move (List.mem_append_right _ listed)) settles.2 delivered

def deliveringDrain (throws : Bool) : List AlertMove :=
  List.replicate 8 { caller := 0 } ++ [{ caller := 0, throws }]

/-- A failing receipt brings a delivered alert back to the pending ones. -/
theorem delivered_alert_returns :
    ¬ ∀ maxAttempts doc moves, (∀ move ∈ moves, Drains 0 move) →
      let world := (AlertWorld.waiting maxAttempts doc).run moves
      world.stages 0 = .idle → (world.files .delivered).isSome = true →
        ∀ dir, dir ≠ .delivered → world.files dir = none := by
  intro settles
  have own : ∀ move ∈ deliveringDrain true ++ List.replicate 2 { caller := 0 }, Drains 0 move := by
    intro move listed
    simp only [deliveringDrain, List.mem_append, List.mem_replicate, List.mem_singleton] at listed
    rcases listed with (⟨-, rfl⟩ | rfl) | ⟨-, rfl⟩ <;> exact ⟨rfl, rfl, rfl⟩
  have gone := settles 3 {} _ own (by rfl) (by rfl) .pending (by decide)
  cases gone

/-- Without that failure it stays where it is. -/
theorem delivered_alert_stays :
    (((AlertWorld.waiting 3 {}).run (deliveringDrain false)).files .delivered).isSome = true ∧
      ((AlertWorld.waiting 3 {}).run (deliveringDrain false)).files .pending = none := by
  have own : ∀ move ∈ deliveringDrain false ++ [], Drains 0 move := by
    intro move listed
    simp only [deliveringDrain, List.append_nil, List.mem_append, List.mem_replicate,
      List.mem_singleton] at listed
    rcases listed with ⟨-, rfl⟩ | rfl <;> exact ⟨rfl, rfl, rfl⟩
  exact ⟨by rfl, ((alert_settled_once 3 {} own (by rfl)).2 (by rfl)).1 .pending (by decide)⟩

end

end AdversarialReview.Alerts
