import Mathlib.Algebra.Group.Nat.Defs
import AdversarialReview.Library.JsText

/-! The lane of pull requests without progress: its backoff, and how long it keeps one waiting. -/

namespace AdversarialReview.Fairness

/-- A count above zero, or the fallback. -/
def positiveIntOr (value : Option Int) (fallback : Nat) : Nat :=
  match value with
  | some value => if 0 < value then value.toNat else fallback
  | none => fallback

def normalizeHead (value : Option String) : Option String :=
  (value.map jsTrim).filter (· ≠ "")

def defaultNoProgressLaneCap : Nat := 3
def defaultNoProgressMaxBackoffTicks : Nat := 12
def defaultOperatorBlockedRewalkTicks : Nat := 3
def defaultNoProgressRewalkCeilingTicks : Nat := defaultNoProgressMaxBackoffTicks
def defaultNoProgressDecisionResetCap : Nat := 5

inductive Lane where
  | active | slow | operatorBlocked
  deriving DecidableEq

inductive ProgressClass where
  | selfResolving | operatorDecisionRequired
  deriving DecidableEq

/-- What a handler selected to be done next for a head. -/
structure LaneAction where
  head : Option String
  actor : Option String := none
  action : Option String := none
  /-- What holds the action back in its queue. -/
  deferredBy : Option String := none

structure WatcherGeneration where
  buildIdentity : Option String
  configGeneration : Option String
  deriving DecidableEq

/-- The ledger of one pull request. -/
structure LaneLedger where
  headSha : String
  fingerprint : Option String := none
  decisionFingerprint : Option String := none
  decisionResets : Nat := 0
  /-- Absent in a ledger from before the classes. -/
  progressClass : Option ProgressClass := some .selfResolving
  hammerRouteActive : Bool := false
  nextAction : Option LaneAction := none
  noProgressTicks : Nat := 0
  skippedTicks : Nat := 0
  lane : Lane := .active
  operatorReason : Option String := none
  firstNoProgressAt : Option String := none
  stalledEvent : Option String := none
  watcherGeneration : Option WatcherGeneration := none
  generationResets : Nat := 0
  /-- Absent where nothing was recorded, null where no walk was. -/
  lastRunAt : Option (Option String) := none
  updatedAt : Option String := none

structure LaneSettings where
  cap : Option Int := none
  maxBackoffTicks : Option Int := none
  operatorBlockedRewalkTicks : Option Int := none
  rewalkCeilingTicks : Option Int := none

namespace LaneSettings

def noProgressCap (settings : LaneSettings) : Nat :=
  positiveIntOr settings.cap defaultNoProgressLaneCap

def maxBackoff (settings : LaneSettings) : Nat :=
  positiveIntOr settings.maxBackoffTicks defaultNoProgressMaxBackoffTicks

def operatorRewalk (settings : LaneSettings) : Nat :=
  positiveIntOr settings.operatorBlockedRewalkTicks defaultOperatorBlockedRewalkTicks

def rewalkCeiling (settings : LaneSettings) : Nat :=
  positiveIntOr settings.rewalkCeilingTicks defaultNoProgressRewalkCeilingTicks

end LaneSettings

/-- The ticks between two walks of a demoted pull request; none below the cap. -/
def backoffTicksFor (noProgressTicks : Nat) (settings : LaneSettings) : Nat :=
  let excess : Int := noProgressTicks - settings.noProgressCap + 1
  if excess ≤ 0 then 0
  else
    let exponent := min excess.toNat 30
    min settings.maxBackoff (2 ^ (exponent - 1))

def selectedFor (nextAction : Option LaneAction) (head : String) : Option LaneAction :=
  nextAction.filter fun action => action.head = some head

def LaneAction.routed (action : LaneAction) : Bool :=
  action.actor ≠ some "remediator"

def LaneAction.keepsRoute (action : LaneAction) : Bool :=
  action.action ≠ some "operator-hold" && action.action ≠ some "done"

def LaneAction.progressClass (action : LaneAction) : ProgressClass :=
  if action.action = some "operator-hold" then .operatorDecisionRequired else .selfResolving

structure LaneVerdict where
  lane : Lane := .active
  due : Bool := true
  noProgressTicks : Nat := 0
  skippedTicks : Nat := 0
  backoffTicks : Nat := 0
  headSha : Option String
  reason : String

def LaneLedger.routedAction (ledger : LaneLedger) (head : String) : Option LaneAction :=
  (selectedFor ledger.nextAction head).filter LaneAction.routed

def LaneLedger.routeActive (ledger : LaneLedger) (head : String) : Bool :=
  match ledger.routedAction head with
  | some action => action.keepsRoute
  | none => ledger.hammerRouteActive

def LaneLedger.seriesClass (ledger : LaneLedger) (head : String) : ProgressClass :=
  match ledger.routedAction head with
  | some action => action.progressClass
  | none => ledger.progressClass.getD .selfResolving

def evaluateClass (ledger : LaneLedger) (head : String) (settings : LaneSettings) :
    ProgressClass → LaneVerdict
  | .operatorDecisionRequired =>
    let backoffTicks := min settings.operatorRewalk settings.rewalkCeiling
    let due := backoffTicks ≤ ledger.skippedTicks
    { lane := .operatorBlocked, due, noProgressTicks := ledger.noProgressTicks
      skippedTicks := ledger.skippedTicks, backoffTicks, headSha := some head
      reason := if due then "operator-blocked-due" else "operator-blocked-flat-wait" }
  | .selfResolving =>
    let ceilingTicks := settings.rewalkCeiling
    let uncappedBackoffTicks := backoffTicksFor ledger.noProgressTicks settings
    if uncappedBackoffTicks = 0 then
      { noProgressTicks := ledger.noProgressTicks, headSha := some head, reason := "under-cap" }
    else
      let backoffTicks := min uncappedBackoffTicks ceilingTicks
      let due := backoffTicks ≤ ledger.skippedTicks
      { lane := .slow, due, noProgressTicks := ledger.noProgressTicks
        skippedTicks := ledger.skippedTicks, backoffTicks, headSha := some head
        reason :=
          if due then
            if ceilingTicks < uncappedBackoffTicks then "slow-lane-rewalk-ceiling"
            else "slow-lane-due"
          else "slow-lane-backoff" }

def evaluateSeries (ledger : LaneLedger) (head : String) (settings : LaneSettings) :
    LaneVerdict :=
  if ledger.routeActive head then
    { noProgressTicks := ledger.noProgressTicks, headSha := some head
      reason := "hammer-route-active" }
  else if (selectedFor ledger.nextAction head).isNone && ledger.progressClass.isNone then
    { lane := .operatorBlocked, noProgressTicks := ledger.noProgressTicks, headSha := some head
      reason := "legacy-progress-class-missing" }
  else evaluateClass ledger head settings (ledger.seriesClass head)

def evaluateNoProgressLane (ledger : Option LaneLedger)
    (headSha decisionFingerprint : Option String) (drainDeferred : Bool)
    (settings : LaneSettings) : LaneVerdict :=
  let head := normalizeHead headSha
  if drainDeferred then { headSha := head, reason := "deferred-by-drain" }
  else
    match ledger with
    | none => { headSha := head, reason := "no-ledger" }
    | some ledger =>
      match head with
      | none => { headSha := none, reason := "head-changed" }
      | some current =>
        if normalizeHead (some ledger.headSha) ≠ some current then
          { headSha := head, reason := "head-changed" }
        else if decisionFingerprint.isSome && ledger.decisionFingerprint.isSome &&
            decisionFingerprint ≠ ledger.decisionFingerprint &&
            ledger.decisionResets < defaultNoProgressDecisionResetCap then
          { headSha := head, reason := "decision-changed" }
        else evaluateSeries ledger current settings

def LaneLedger.sameHead (ledger : Option LaneLedger) (head : String) : Bool :=
  ledger.any fun ledger => normalizeHead (some ledger.headSha) = some head

def recordNoProgressLaneSkip (ledger : Option LaneLedger) (headSha now : Option String) :
    Option LaneLedger :=
  ledger.map fun existing =>
    if normalizeHead (some existing.headSha) ≠ normalizeHead headSha then existing
    else
      { existing with
        skippedTicks := existing.skippedTicks + 1
        lastRunAt := existing.lastRunAt.or (some existing.updatedAt)
        updatedAt := now.or existing.updatedAt }

structure LaneWalk where
  headSha : Option String
  fingerprint : Option String := none
  decisionFingerprint : Option String := none
  watcherGeneration : Option WatcherGeneration := none
  progressClass : ProgressClass := .selfResolving
  operatorHold : Bool := false
  hammerRouteActive : Bool := false
  nextAction : Option LaneAction := none
  operatorReason : Option String := none
  urgent : Bool := false
  escalate : Bool := true
  now : Option String := none

namespace LaneWalk

def resolved (walk : LaneWalk) (head : String) : LaneWalk :=
  match selectedFor walk.nextAction head with
  | none => { walk with nextAction := none }
  | some action =>
    { walk with
      nextAction := some action
      operatorHold := action.action = some "operator-hold"
      progressClass := if action.routed then action.progressClass else walk.progressClass
      hammerRouteActive := if action.routed then action.keepsRoute else walk.hammerRouteActive
      escalate := if action.deferredBy = some "drain" then false else walk.escalate }

def drained (walk : LaneWalk) : Bool :=
  !walk.operatorHold && walk.nextAction.any fun action =>
    action.deferredBy = some "drain" && (action.routed || walk.hammerRouteActive)

/-- The handler decided otherwise about a row that did not change. -/
def decisionChanged (walk : LaneWalk) (existing : LaneLedger) : Bool :=
  existing.fingerprint.isSome && existing.fingerprint = walk.fingerprint &&
    walk.decisionFingerprint.isSome && existing.decisionFingerprint.isSome &&
    existing.decisionFingerprint ≠ walk.decisionFingerprint

end LaneWalk

/-- What a walk made of the series. -/
structure LaneOutcome where
  ledger : LaneLedger
  progressed : Bool
  decisionReset : Bool
  escalated : Bool
  backoffTicks : Nat
  demoted : Bool

/-- Drain is an observation of the schedule: the series stays as it is. -/
def recordDrained (existing : LaneLedger) (walk : LaneWalk) : LaneOutcome where
  ledger :=
    { existing with
      nextAction := walk.nextAction
      progressClass := some .selfResolving
      hammerRouteActive := true
      lane := .active
      lastRunAt := some walk.now
      updatedAt := walk.now }
  progressed := false
  decisionReset := false
  escalated := false
  backoffTicks := 0
  demoted := false

def operatorLane (walk : LaneWalk) (noProgressTicks : Nat) (settings : LaneSettings) :
    Nat × Lane :=
  if walk.hammerRouteActive then (0, .active)
  else
    match walk.progressClass with
    | .operatorDecisionRequired => (settings.operatorRewalk, .operatorBlocked)
    | .selfResolving =>
      let backoffTicks := backoffTicksFor noProgressTicks settings
      (backoffTicks, if 0 < backoffTicks then .slow else .active)

def recordWalk (ledger : Option LaneLedger) (head : String) (walk : LaneWalk)
    (settings : LaneSettings) : LaneOutcome :=
  let existing := ledger.filter fun _ => LaneLedger.sameHead ledger head
  let sameFingerprint := existing.any fun existing =>
    existing.fingerprint.isSome && existing.fingerprint = walk.fingerprint
  let priorNoProgress := (existing.map (·.noProgressTicks)).getD 0
  let priorDecisionResets := (existing.map (·.decisionResets)).getD 0
  let decisionReset := existing.any walk.decisionChanged &&
    priorDecisionResets < defaultNoProgressDecisionResetCap
  let noProgressTicks :=
    if walk.urgent || !sameFingerprint || decisionReset then 0
    else if walk.escalate then priorNoProgress + 1
    else priorNoProgress
  let (backoffTicks, lane) := operatorLane walk noProgressTicks settings
  let continued := existing.filter fun _ => sameFingerprint && !decisionReset
  { ledger :=
      { headSha := head
        fingerprint := walk.fingerprint
        decisionFingerprint :=
          walk.decisionFingerprint.or (existing.bind (·.decisionFingerprint))
        decisionResets := if decisionReset then priorDecisionResets + 1 else priorDecisionResets
        progressClass := some walk.progressClass
        hammerRouteActive := walk.hammerRouteActive
        nextAction := walk.nextAction
        noProgressTicks
        skippedTicks := 0
        lane
        operatorReason :=
          if lane = .operatorBlocked then walk.operatorReason.filter (· ≠ "") else none
        firstNoProgressAt :=
          ((continued.bind (·.firstNoProgressAt)).filter (· ≠ "")).or
            (if 0 < noProgressTicks then walk.now else none)
        stalledEvent := continued.bind (·.stalledEvent)
        watcherGeneration :=
          walk.watcherGeneration.or (ledger.bind (·.watcherGeneration))
        generationResets := (ledger.map (·.generationResets)).getD 0
        lastRunAt := some walk.now
        updatedAt := walk.now }
    progressed := !sameFingerprint
    decisionReset
    escalated := walk.escalate
    backoffTicks
    demoted := lane = .slow && (existing.map (·.lane)).getD .active ≠ .slow }

def recordNoProgressLaneRun (ledger : Option LaneLedger) (walk : LaneWalk)
    (settings : LaneSettings) : Option LaneOutcome :=
  match normalizeHead walk.headSha with
  | none => none
  | some head =>
    let walk := walk.resolved head
    match ledger with
    | some existing =>
      if LaneLedger.sameHead ledger head && walk.drained then some (recordDrained existing walk)
      else some (recordWalk ledger head walk settings)
    | none => some (recordWalk none head walk settings)

/-- A decision observed without a walk, and whether it cleared the debounce of the alert. -/
def recordNoProgressLaneDecisionObservation (ledger : Option LaneLedger)
    (headSha decisionFingerprint now : Option String) : Bool × Option LaneLedger :=
  match ledger with
  | none => (false, none)
  | some existing =>
    if normalizeHead headSha = none ∨ headSha ≠ some existing.headSha ∨
        decisionFingerprint = none ∨ decisionFingerprint = existing.decisionFingerprint then
      (false, some existing)
    else
      let honoured := existing.decisionResets < defaultNoProgressDecisionResetCap
      (honoured, some { existing with
        decisionFingerprint
        decisionResets := existing.decisionResets + if honoured then 1 else 0
        updatedAt := now.or existing.updatedAt })

def resetNoProgressLaneForGeneration (existing : LaneLedger) (generation : WatcherGeneration)
    (now : Option String) : LaneLedger :=
  let current := existing.watcherGeneration.getD ⟨none, none⟩
  if existing.headSha = "" ∨ current = generation then existing
  else
    { existing with
      watcherGeneration := some generation
      generationResets := existing.generationResets + 1
      lane := .active
      noProgressTicks := 0
      skippedTicks := 0
      decisionResets := 0
      fingerprint := none
      decisionFingerprint := none
      firstNoProgressAt := none
      stalledEvent := none
      operatorReason := none
      nextAction := none
      progressClass := some .selfResolving
      hammerRouteActive := false
      updatedAt := now }

def promoteStarvedNoProgressLaneLedger (existing : LaneLedger) (now : Option String) :
    LaneLedger :=
  if existing.lane = .slow then
    { existing with
      lane := .active
      noProgressTicks := 0
      skippedTicks := 0
      firstNoProgressAt := none
      updatedAt := now }
  else existing

/-- One tick of the watcher for the pull request. -/
structure LaneTick where
  headSha : Option String
  decisionFingerprint : Option String := none
  drainDeferred : Bool := false
  /-- The scheduler walks it although the lane does not ask for it. -/
  forced : Bool := false
  walk : LaneWalk
  now : Option String := none

inductive LaneStep where
  | tick (tick : LaneTick)
  | observe (headSha decisionFingerprint now : Option String)
  | generation (generation : WatcherGeneration) (now : Option String)
  | promote (now : Option String)

/-- The ledger, and what the run did so far. -/
structure LaneWorld where
  ledger : Option LaneLedger := none
  /-- The ticks skipped since the last walk. -/
  skips : Nat := 0
  /-- The changes of the decision honoured since head, fingerprint or generation changed. -/
  honoured : Nat := 0

def LaneTick.decision (tick : LaneTick) (ledger : Option LaneLedger) (settings : LaneSettings) :
    LaneVerdict :=
  evaluateNoProgressLane ledger tick.headSha tick.decisionFingerprint tick.drainDeferred settings

def LaneTick.walked (tick : LaneTick) (due : Bool) : LaneWalk :=
  if due then tick.walk else { tick.walk with escalate := false }

def LaneLedger.series (ledger : LaneLedger) :
    String × Option String × Option WatcherGeneration :=
  (ledger.headSha, ledger.fingerprint, ledger.watcherGeneration)

def LaneWorld.write (world : LaneWorld) (ledger : Option LaneLedger) (honoured : Bool) :
    LaneWorld :=
  let kept := if ledger.map LaneLedger.series = world.ledger.map LaneLedger.series
    then world.honoured else 0
  { world with ledger, honoured := kept + if honoured then 1 else 0 }

def LaneWorld.perform (settings : LaneSettings) (world : LaneWorld) : LaneStep → LaneWorld
  | .tick tick =>
    let decision := tick.decision world.ledger settings
    if decision.due || tick.forced then
      match recordNoProgressLaneRun world.ledger (tick.walked decision.due) settings with
      | some outcome =>
        { world.write (some outcome.ledger) outcome.decisionReset with skips := 0 }
      | none => { world with skips := 0 }
    else
      { world.write (recordNoProgressLaneSkip world.ledger tick.headSha tick.now) false with
        skips := world.skips + 1 }
  | .observe headSha decisionFingerprint now =>
    let (honoured, ledger) := recordNoProgressLaneDecisionObservation world.ledger headSha
      decisionFingerprint now
    world.write ledger honoured
  | .generation generation now =>
    world.write (world.ledger.map (resetNoProgressLaneForGeneration · generation now)) false
  | .promote now =>
    world.write (world.ledger.map (promoteStarvedNoProgressLaneLedger · now)) false

def LaneWorld.run (settings : LaneSettings) (world : LaneWorld) (steps : List LaneStep) :
    LaneWorld :=
  steps.foldl (LaneWorld.perform settings) world

theorem normalizeHead_normalized {value : Option String} {head : String}
    (named : normalizeHead value = some head) : normalizeHead (some head) = some head := by
  unfold normalizeHead at named ⊢
  obtain ⟨trimmed, nonempty⟩ := Option.filter_eq_some_iff.mp named
  obtain ⟨text, -, rfl⟩ := Option.map_eq_some_iff.mp trimmed
  simp only [Option.map_some, jsTrim_jsTrim]
  exact Option.filter_eq_some_iff.mpr ⟨rfl, nonempty⟩

section

def LaneLedger.resolvesItself (ledger : LaneLedger) : Prop :=
  ledger.progressClass = some .selfResolving ∧
    ∀ action ∈ ledger.nextAction, action.routed = true → action.progressClass = .selfResolving

/-- The ledger of a pull request that the next tick walks, whatever it sees. -/
structure LaneLedger.Free (ledger : LaneLedger) : Prop where
  unmoved : ledger.noProgressTicks = 0
  resolves : ledger.resolvesItself

theorem positiveIntOr_pos {value : Option Int} {fallback : Nat} (positive : 0 < fallback) :
    0 < positiveIntOr value fallback := by
  unfold positiveIntOr
  split
  · split <;> omega
  · exact positive

theorem backoffTicksFor_zero (settings : LaneSettings) : backoffTicksFor 0 settings = 0 := by
  have cap : 0 < settings.noProgressCap := positiveIntOr_pos (by decide)
  unfold backoffTicksFor
  rw [if_pos (by omega)]

theorem backoffTicksFor_le (noProgressTicks : Nat) (settings : LaneSettings) :
    backoffTicksFor noProgressTicks settings ≤ settings.maxBackoff := by
  unfold backoffTicksFor
  simp only
  split
  · exact Nat.zero_le _
  · exact Nat.min_le_left _ _

/-- The ticks that a lane may leave a pull request unwalked. -/
def LaneSettings.bound (settings : LaneSettings) (lane : Lane) : Nat :=
  min settings.rewalkCeiling
    (if lane = .operatorBlocked then settings.operatorRewalk else settings.maxBackoff)

variable {ledger : LaneLedger}

theorem evaluateClass_wait {head : String} {settings : LaneSettings} {progressClass : ProgressClass}
    (waits : (evaluateClass ledger head settings progressClass).due = false) :
    ledger.skippedTicks <
      settings.bound (evaluateClass ledger head settings progressClass).lane := by
  cases progressClass with
  | operatorDecisionRequired =>
    have fewer : ledger.skippedTicks < min settings.operatorRewalk settings.rewalkCeiling := by
      simpa [evaluateClass] using waits
    simp only [evaluateClass, LaneSettings.bound, if_true]
    omega
  | selfResolving =>
    by_cases under : backoffTicksFor ledger.noProgressTicks settings = 0
    · simp [evaluateClass, under] at waits
    · have fewer : ledger.skippedTicks <
          min (backoffTicksFor ledger.noProgressTicks settings) settings.rewalkCeiling := by
        simpa [evaluateClass, under] using waits
      have most := backoffTicksFor_le ledger.noProgressTicks settings
      simp only [evaluateClass, under, LaneSettings.bound, if_false, reduceCtorEq]
      omega

theorem evaluateSeries_wait {head : String} {settings : LaneSettings}
    (waits : (evaluateSeries ledger head settings).due = false) :
    ledger.skippedTicks < settings.bound (evaluateSeries ledger head settings).lane := by
  unfold evaluateSeries at waits ⊢
  split at waits
  · cases waits
  · rename_i free
    rw [if_neg free]
    split at waits
    · cases waits
    · rename_i classed
      rw [if_neg classed]
      exact evaluateClass_wait waits

theorem seriesClass_of_resolves (resolves : ledger.resolvesItself)
    (head : String) : ledger.seriesClass head = .selfResolving := by
  obtain ⟨classed, routed⟩ := resolves
  unfold LaneLedger.seriesClass
  split
  · rename_i action found
    obtain ⟨selected, own⟩ := Option.filter_eq_some_iff.mp found
    exact routed action (Option.filter_eq_some_iff.mp selected).1 own
  · simp [classed]

theorem evaluateSeries_free (free : ledger.Free) (head : String)
    (settings : LaneSettings) : (evaluateSeries ledger head settings).due = true := by
  unfold evaluateSeries
  rw [seriesClass_of_resolves free.resolves]
  split
  · rfl
  · split
    · rfl
    · simp [evaluateClass, free.unmoved, backoffTicksFor_zero]

theorem evaluate_wait {ledger : Option LaneLedger} {headSha decisionFingerprint : Option String}
    {drainDeferred : Bool} {settings : LaneSettings}
    (waits : (evaluateNoProgressLane ledger headSha decisionFingerprint drainDeferred
      settings).due = false) :
    ∃ existing head, ledger = some existing ∧ normalizeHead headSha = some head ∧
      normalizeHead (some existing.headSha) = some head ∧ ¬ existing.Free ∧
      existing.skippedTicks < settings.bound (evaluateNoProgressLane ledger headSha
        decisionFingerprint drainDeferred settings).lane := by
  unfold evaluateNoProgressLane at waits ⊢
  simp only at waits ⊢
  cases drainDeferred with
  | true => cases waits
  | false =>
    cases ledger with
    | none => cases waits
    | some existing =>
      cases named : normalizeHead headSha with
      | none => simp [named] at waits
      | some head =>
        simp only [named, Bool.false_eq_true, if_false] at waits ⊢
        split at waits
        · cases waits
        · rename_i same
          rw [if_neg same]
          split at waits
          · cases waits
          · rename_i unchanged
            rw [if_neg unchanged]
            refine ⟨existing, head, rfl, rfl, by simpa using same, ?_, evaluateSeries_wait waits⟩
            intro free
            rw [evaluateSeries_free free] at waits
            cases waits

theorem evaluate_due_of_moved {existing : LaneLedger}
    {headSha decisionFingerprint : Option String} {drainDeferred : Bool} {settings : LaneSettings}
    (moved : normalizeHead headSha ≠ normalizeHead (some existing.headSha)) :
    (evaluateNoProgressLane (some existing) headSha decisionFingerprint drainDeferred
      settings).due = true := by
  cases due : (evaluateNoProgressLane (some existing) headSha decisionFingerprint drainDeferred
      settings).due with
  | true => rfl
  | false =>
    obtain ⟨found, head, same, named, own, -⟩ := evaluate_wait due
    cases same
    exact absurd (named.trans own.symm) moved

end

section

structure SeriesStep (before : Option LaneLedger) (after : LaneLedger) (honoured : Bool) :
    Prop where
  honours : honoured = true → ∃ ledger, before = some ledger ∧
    ledger.decisionResets < defaultNoProgressDecisionResetCap ∧
    after.decisionResets = ledger.decisionResets + 1
  keeps : honoured = false → ∀ ledger, before = some ledger → after.series = ledger.series →
    after.decisionResets = ledger.decisionResets

theorem SeriesStep.same {before after : LaneLedger}
    (resets : after.decisionResets = before.decisionResets) :
    SeriesStep (some before) after false where
  honours counted := nomatch counted
  keeps _ ledger found _ := by
    cases found
    exact resets

theorem resolved_class (walk : LaneWalk) (head : String) :
    ∀ action ∈ (walk.resolved head).nextAction, action.routed = true →
      action.progressClass = (walk.resolved head).progressClass := by
  intro action selected routed
  unfold LaneWalk.resolved at selected ⊢
  split at selected
  · cases selected
  · rename_i chosen found
    have same : chosen = action := by simpa using selected
    subst same
    simp [routed]

variable {walk : LaneWalk}

theorem resolved_escalate (calm : walk.escalate = false) (head : String) :
    (walk.resolved head).escalate = false := by
  unfold LaneWalk.resolved
  split
  · exact calm
  · simp [calm]

theorem operatorLane_slow {noProgressTicks : Nat} {settings : LaneSettings}
    (slow : (operatorLane walk noProgressTicks settings).2 = .slow) :
    walk.progressClass = .selfResolving := by
  unfold operatorLane at slow
  split at slow
  · cases slow
  · split at slow
    · cases slow
    · assumption

variable {head : String} {ledger : Option LaneLedger}

theorem recordWalk_resolves {settings : LaneSettings}
    (routed : ∀ action ∈ walk.nextAction, action.routed = true →
      action.progressClass = walk.progressClass)
    (slow : (recordWalk ledger head walk settings).ledger.lane = .slow) :
    (recordWalk ledger head walk settings).ledger.resolvesItself := by
  have classed : walk.progressClass = .selfResolving := operatorLane_slow slow
  exact ⟨congrArg some classed,
    fun action selected own => (routed action selected own).trans classed⟩

theorem sameHead_iff {ledger : LaneLedger} :
    LaneLedger.sameHead (some ledger) head = true ↔
      normalizeHead (some ledger.headSha) = some head := by
  simp [LaneLedger.sameHead]

theorem recordWalk_series (walk : LaneWalk)
    (settings : LaneSettings) (named : normalizeHead (some head) = some head) :
    SeriesStep ledger (recordWalk ledger head walk settings).ledger
      (recordWalk ledger head walk settings).decisionReset := by
  cases ledger with
  | none =>
    exact ⟨fun honoured => by simp [recordWalk] at honoured, fun _ _ found => nomatch found⟩
  | some existing =>
    cases own : LaneLedger.sameHead (some existing) head with
    | false =>
      -- Another head: nothing of the old series is honoured, and the new one has this head.
      refine ⟨fun honoured => by simp [recordWalk, own] at honoured, ?_⟩
      rintro - ledger found series
      cases found
      have sameHead : head = existing.headSha := congrArg Prod.fst series
      rw [sameHead] at named
      rw [sameHead_iff.mpr (sameHead ▸ named)] at own
      cases own
    | true =>
      refine ⟨fun honoured => ?_, ?_⟩
      · have counted : existing.decisionResets < defaultNoProgressDecisionResetCap := by
          simp only [recordWalk, own, Option.filter_some, if_true, Option.any_some,
            Bool.and_eq_true, decide_eq_true_eq, Option.map_some, Option.getD_some] at honoured
          exact honoured.2
        refine ⟨existing, rfl, counted, ?_⟩
        simp only [recordWalk, own, Option.filter_some, if_true, Option.any_some,
          Option.map_some, Option.getD_some] at honoured ⊢
        rw [if_pos honoured]
      · intro refused ledger found _
        cases found
        simp only [recordWalk, own, Option.filter_some, if_true, Option.any_some,
          Option.map_some, Option.getD_some] at refused ⊢
        rw [if_neg (by simpa using refused)]

theorem run_records {settings : LaneSettings} {outcome : LaneOutcome}
    (done : recordNoProgressLaneRun ledger walk settings = some outcome) :
    ∃ head, normalizeHead walk.headSha = some head ∧
      (outcome = recordWalk ledger head (walk.resolved head) settings ∨
        ∃ existing, ledger = some existing ∧
          normalizeHead (some existing.headSha) = some head ∧
          outcome = recordDrained existing (walk.resolved head)) := by
  unfold recordNoProgressLaneRun at done
  cases named : normalizeHead walk.headSha with
  | none => simp [named] at done
  | some head =>
    refine ⟨head, rfl, ?_⟩
    simp only [named] at done
    split at done
    · rename_i existing
      split at done
      · rename_i drained
        obtain ⟨own, -⟩ := Bool.and_eq_true_iff.mp drained
        exact .inr ⟨existing, rfl, sameHead_iff.mp own, (Option.some.inj done).symm⟩
      · exact .inl (Option.some.inj done).symm
    · exact .inl (Option.some.inj done).symm

theorem run_calm {settings : LaneSettings} {outcome : LaneOutcome} (calm : walk.escalate = false)
    (done : recordNoProgressLaneRun ledger walk settings = some outcome) :
    outcome.ledger.noProgressTicks ≤ (ledger.map (·.noProgressTicks)).getD 0 := by
  obtain ⟨head, -, rfl | ⟨existing, rfl, -, rfl⟩⟩ := run_records done
  · -- The count starts again or stays; a ledger of another head counts for nothing.
    have still := resolved_escalate calm head
    have prior : ((ledger.filter fun _ => LaneLedger.sameHead ledger head).map
        (·.noProgressTicks)).getD 0 ≤ (ledger.map (·.noProgressTicks)).getD 0 := by
      cases ledger with
      | none => simp
      | some existing =>
        cases own : LaneLedger.sameHead (some existing) head <;> simp [Option.filter]
    simp only [recordWalk, still, Bool.false_eq_true, if_false]
    split
    · exact Nat.zero_le _
    · exact prior
  · exact Nat.le_refl _

end

section

/-- What the run knows of the ledger it has written. -/
structure LaneLedger.Kept (ledger : LaneLedger) (skips honoured : Nat) : Prop where
  named : normalizeHead (some ledger.headSha) = some ledger.headSha
  slow : ledger.lane = .slow → ledger.resolvesItself
  skips : ledger.Free ∨ skips ≤ ledger.skippedTicks
  charged : honoured ≤ ledger.decisionResets
  capped : honoured ≤ defaultNoProgressDecisionResetCap

structure LaneWorld.Inv (settings : LaneSettings) (world : LaneWorld) : Prop where
  fresh : world.ledger = none → world.skips = 0 ∧ world.honoured = 0
  kept : ∀ ledger, world.ledger = some ledger → ledger.Kept world.skips world.honoured
  bounded : world.skips ≤ min settings.rewalkCeiling
    (max settings.maxBackoff settings.operatorRewalk)

variable {settings : LaneSettings} {world : LaneWorld}

section

variable (inv : world.Inv settings)
include inv

theorem write_honoured {after : LaneLedger} {honoured : Bool}
    (series : SeriesStep world.ledger after honoured) :
    (world.write (some after) honoured).honoured ≤ after.decisionResets ∧
      (world.write (some after) honoured).honoured ≤ defaultNoProgressDecisionResetCap := by
  cases found : world.ledger with
  | none =>
    cases honoured with
    | true =>
      obtain ⟨ledger, there, -⟩ := series.honours rfl
      rw [found] at there
      cases there
    | false => simp [LaneWorld.write, found]
  | some ledger =>
    obtain ⟨-, -, -, charged, capped⟩ := inv.kept ledger found
    cases honoured with
    | true =>
      obtain ⟨other, there, room, counted⟩ := series.honours rfl
      rw [found] at there
      cases there
      have cap : 0 < defaultNoProgressDecisionResetCap := by decide
      simp only [LaneWorld.write, found, if_true]
      split <;> omega
    | false =>
      simp only [LaneWorld.write, found, Bool.false_eq_true, if_false, Nat.add_zero]
      split
      · rename_i same
        rw [series.keeps rfl ledger found (Option.some.inj same)]
        exact ⟨charged, capped⟩
      · exact ⟨Nat.zero_le _, Nat.zero_le _⟩

theorem inv_write {after : LaneLedger} {honoured : Bool} {skips : Nat}
    (series : SeriesStep world.ledger after honoured)
    (named : normalizeHead (some after.headSha) = some after.headSha)
    (slow : after.lane = .slow → after.resolvesItself)
    (skipped : after.Free ∨ skips ≤ after.skippedTicks)
    (bounded : skips ≤ min settings.rewalkCeiling
      (max settings.maxBackoff settings.operatorRewalk)) :
    LaneWorld.Inv settings { world.write (some after) honoured with skips := skips } where
  fresh gone := nomatch gone
  kept ledger found := by
    cases found
    obtain ⟨charged, capped⟩ := write_honoured inv series
    exact ⟨named, slow, skipped, charged, capped⟩
  bounded := bounded

theorem inv_run {walk : LaneWalk} {outcome : LaneOutcome}
    (done : recordNoProgressLaneRun world.ledger walk settings = some outcome) :
    LaneWorld.Inv settings
      { world.write (some outcome.ledger) outcome.decisionReset with skips := 0 } := by
  obtain ⟨head, named, rfl | ⟨existing, found, -, rfl⟩⟩ := run_records done
  · have normal := normalizeHead_normalized named
    exact inv_write inv (recordWalk_series _ settings normal) normal
      (recordWalk_resolves (resolved_class walk head)) (.inr (Nat.zero_le _)) (Nat.zero_le _)
  · -- Drain leaves the series and its resets as they were.
    have kept := inv.kept existing found
    refine inv_write inv ?_ kept.named (nomatch ·) (.inr (Nat.zero_le _)) (Nat.zero_le _)
    rw [found]
    exact .same rfl

theorem skip_bounded {tick : LaneTick} (waits : (tick.decision world.ledger settings).due = false) :
    world.skips + 1 ≤ settings.bound (tick.decision world.ledger settings).lane := by
  obtain ⟨existing, head, found, -, -, unfree, room⟩ := evaluate_wait waits
  rcases (inv.kept existing found).skips with free | fewer
  · exact absurd free unfree
  · have room : existing.skippedTicks < settings.bound (tick.decision world.ledger settings).lane :=
      room
    omega

theorem inv_skip {tick : LaneTick} (waits : (tick.decision world.ledger settings).due = false) :
    LaneWorld.Inv settings
      { world.write (recordNoProgressLaneSkip world.ledger tick.headSha tick.now) false with
        skips := world.skips + 1 } := by
  have bounded := skip_bounded inv waits
  obtain ⟨existing, head, found, named, own, unfree, -⟩ := evaluate_wait waits
  have kept := inv.kept existing found
  have fewer : world.skips ≤ existing.skippedTicks := kept.skips.resolve_left unfree
  -- The skip is recorded, since the ledger has the head of the tick.
  have recorded : recordNoProgressLaneSkip world.ledger tick.headSha tick.now =
      some { existing with
        skippedTicks := existing.skippedTicks + 1
        lastRunAt := existing.lastRunAt.or (some existing.updatedAt)
        updatedAt := tick.now.or existing.updatedAt } := by
    simp [recordNoProgressLaneSkip, found, named, own]
  rw [recorded]
  refine inv_write inv ?_ kept.named kept.slow (.inr (Nat.succ_le_succ fewer)) ?_
  · rw [found]
    exact .same rfl
  · unfold LaneSettings.bound at bounded
    split at bounded <;> omega

theorem inv_tick (tick : LaneTick) :
    (world.perform settings (.tick tick)).Inv settings := by
  simp only [LaneWorld.perform]
  split
  · split
    · rename_i done
      exact inv_run inv done
    · -- A walk without a head records nothing.
      refine ⟨fun gone => ⟨rfl, (inv.fresh gone).2⟩, fun ledger found => ?_, Nat.zero_le _⟩
      have kept := inv.kept ledger found
      exact ⟨kept.named, kept.slow, .inr (Nat.zero_le _), kept.charged, kept.capped⟩
  · rename_i skipped
    have waits : (tick.decision world.ledger settings).due = false := by
      cases due : (tick.decision world.ledger settings).due with
      | false => rfl
      | true => simp [due] at skipped
    exact inv_skip inv waits

theorem inv_write_none (gone : world.ledger = none) :
    (world.write none false).Inv settings := by
  obtain ⟨skips, honoured⟩ := inv.fresh gone
  refine ⟨fun _ => ⟨skips, ?_⟩, fun _ found => (by cases found), inv.bounded⟩
  simp [LaneWorld.write, gone, honoured]

theorem inv_observe (headSha decisionFingerprint now : Option String) :
    (world.perform settings (.observe headSha decisionFingerprint now)).Inv settings := by
  simp only [LaneWorld.perform, recordNoProgressLaneDecisionObservation]
  cases found : world.ledger with
  | none => exact inv_write_none inv found
  | some existing =>
    have kept := inv.kept existing found
    simp only
    split
    · refine inv_write inv ?_ kept.named kept.slow kept.skips inv.bounded
      rw [found]
      exact .same rfl
    · refine inv_write inv ?_ kept.named kept.slow ?_ inv.bounded
      · rw [found]
        -- The observation charges what it honours.
        refine ⟨fun honoured => ⟨existing, rfl, of_decide_eq_true honoured, ?_⟩, ?_⟩
        · simp [of_decide_eq_true honoured]
        · rintro refused ledger same -
          cases same
          simp [of_decide_eq_false refused]
      · exact kept.skips.imp (fun free => ⟨free.unmoved, free.resolves⟩) id

theorem inv_generation (generation : WatcherGeneration)
    (now : Option String) : (world.perform settings (.generation generation now)).Inv settings := by
  simp only [LaneWorld.perform]
  cases found : world.ledger with
  | none => exact inv_write_none inv found
  | some existing =>
    have kept := inv.kept existing found
    simp only [Option.map_some]
    by_cases same : existing.headSha = "" ∨
        existing.watcherGeneration.getD ⟨none, none⟩ = generation
    · have unchanged : resetNoProgressLaneForGeneration existing generation now = existing := by
        simp [resetNoProgressLaneForGeneration, same]
      rw [unchanged]
      refine inv_write inv ?_ kept.named kept.slow kept.skips inv.bounded
      rw [found]
      exact .same rfl
    · -- The series starts again under a generation that it did not have.
      have reset : resetNoProgressLaneForGeneration existing generation now = _ := if_neg same
      rw [reset]
      refine inv_write inv ?_ kept.named (nomatch ·) (.inl ⟨rfl, rfl, nofun⟩) inv.bounded
      rw [found]
      refine ⟨(nomatch ·), ?_⟩
      rintro - ledger here series
      cases here
      have renamed : some generation = existing.watcherGeneration :=
        congrArg (fun series => series.2.2) series
      exact absurd (.inr (by rw [← renamed]; rfl)) same

theorem inv_promote (now : Option String) :
    (world.perform settings (.promote now)).Inv settings := by
  simp only [LaneWorld.perform]
  cases found : world.ledger with
  | none => exact inv_write_none inv found
  | some existing =>
    have kept := inv.kept existing found
    simp only [Option.map_some]
    by_cases slow : existing.lane = .slow
    · -- A ledger of the slow lane resolves itself, so that the next tick walks it.
      have promoted : promoteStarvedNoProgressLaneLedger existing now = _ := if_pos slow
      rw [promoted]
      refine inv_write inv ?_ kept.named (nomatch ·) (.inl ⟨rfl, kept.slow slow⟩) inv.bounded
      rw [found]
      exact .same rfl
    · have unchanged : promoteStarvedNoProgressLaneLedger existing now = existing := if_neg slow
      rw [unchanged]
      refine inv_write inv ?_ kept.named kept.slow kept.skips inv.bounded
      rw [found]
      exact .same rfl

theorem inv_perform (step : LaneStep) :
    (world.perform settings step).Inv settings := by
  cases step with
  | tick tick => exact inv_tick inv tick
  | observe headSha decisionFingerprint now => exact inv_observe inv headSha decisionFingerprint now
  | generation generation now => exact inv_generation inv generation now
  | promote now => exact inv_promote inv now

end

theorem inv_start (settings : LaneSettings) : LaneWorld.Inv settings {} where
  fresh _ := ⟨rfl, rfl⟩
  kept _ found := nomatch found
  bounded := Nat.zero_le _

theorem inv_steps (inv : world.Inv settings) (steps : List LaneStep) :
    (world.run settings steps).Inv settings := by
  induction steps generalizing world with
  | nil => exact inv
  | cons step steps ih => exact ih (inv_perform inv step)

end

/-- The lane strands no pull request, and honours few changes of a decision. -/
theorem slow_lane_bounded (settings : LaneSettings) (steps : List LaneStep) :
    let world := LaneWorld.run settings {} steps
    world.skips ≤ min settings.rewalkCeiling (max settings.maxBackoff settings.operatorRewalk) ∧
    (∀ tick : LaneTick, (tick.decision world.ledger settings).due = false → tick.forced = false →
      (world.perform settings (.tick tick)).skips ≤
        settings.bound (tick.decision world.ledger settings).lane) ∧
    (∀ ledger, world.ledger = some ledger → ∀ tick : LaneTick,
      normalizeHead tick.headSha ≠ normalizeHead (some ledger.headSha) →
        (tick.decision world.ledger settings).due = true) ∧
    (∀ walk outcome, walk.escalate = false →
      recordNoProgressLaneRun world.ledger walk settings = some outcome →
        outcome.ledger.noProgressTicks ≤ (world.ledger.map (·.noProgressTicks)).getD 0) ∧
    world.honoured ≤ defaultNoProgressDecisionResetCap := by
  intro world
  have inv : world.Inv settings := inv_steps (inv_start settings) steps
  refine ⟨inv.bounded, ?_, ?_, fun walk outcome calm done => run_calm calm done, ?_⟩
  · intro tick waits unforced
    have bounded := skip_bounded inv waits
    simpa [LaneWorld.perform, waits, unforced] using bounded
  · intro ledger found tick moved
    unfold LaneTick.decision
    rw [found]
    exact evaluate_due_of_moved moved
  · cases found : world.ledger with
    | none => exact (inv.fresh found).2 ▸ Nat.zero_le _
    | some ledger => exact (inv.kept ledger found).capped

/-- Three walks without progress after the first: the fifth tick is skipped. -/
example : (LaneWorld.run {} {} (List.replicate 5 (.tick
    { headSha := some "head"
      walk := { headSha := some "head", fingerprint := some "row" } }))).skips = 1 := by
  decide +kernel

end AdversarialReview.Fairness
