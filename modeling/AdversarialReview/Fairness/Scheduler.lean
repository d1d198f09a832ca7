import Mathlib.Data.List.Nodup
import Mathlib.Data.List.Perm.Basic
import Mathlib.Algebra.Order.Field.Rat
import Mathlib.Data.Rat.Floor
import AdversarialReview.Library.JsText

/-! One tick after the other: the order of its handlers, and its walk under a budget, with work that
may outlive a tick. -/

namespace AdversarialReview.Fairness

structure KeySet where
  keys : List String
  distinct : keys.Nodup

namespace KeySet

def empty : KeySet := ⟨[], List.nodup_nil⟩

def add (set : KeySet) (key : String) : KeySet :=
  if fresh : key ∈ set.keys then set
  else ⟨set.keys ++ [key], List.nodup_append.mpr ⟨set.distinct, List.nodup_singleton key, by
    intro first listed second inserted same
    rw [List.mem_singleton.mp inserted] at same
    exact fresh (same ▸ listed)⟩⟩

def addAll (set : KeySet) (keys : List String) : KeySet :=
  keys.foldl add set

end KeySet

structure ReviewHandler where
  repoPath : String
  prNumber : Nat
  headSha : String := ""
  mergeReady : Bool := false

def postedReviewHandlerKey (handler : ReviewHandler) : String :=
  handler.repoPath ++ "#" ++ toString handler.prNumber

/-- A wake as it is handed over, with all the names its members may have. -/
structure RawPriorityTarget where
  repoPath : String := ""
  repo : String := ""
  prNumber : Option Rat := none
  pr_number : Option Rat := none
  pr : Option Rat := none
  headSha : String := ""
  head_sha : String := ""

/-- A wake for one pull request, or for one head of it. -/
structure PriorityTarget where
  repoPath : String
  prNumber : Nat
  headSha : String

def orText (first second : String) : String :=
  if first = "" then second else first

/-- A wake under its own names, absent where it names no pull request. -/
def normalizeTarget (raw : RawPriorityTarget) : Option PriorityTarget :=
  let repoPath := jsTrim (orText raw.repoPath raw.repo)
  match raw.prNumber <|> raw.pr_number <|> raw.pr with
  | none => none
  | some number =>
    if repoPath ≠ "" ∧ number.den = 1 ∧ 0 < number.num then
      some
        { repoPath
          prNumber := number.num.toNat
          headSha := jsTrim (orText raw.headSha raw.head_sha) }
    else none

def normalizePostedReviewPriorityTargets (priorityTargets : List RawPriorityTarget) :
    List PriorityTarget :=
  priorityTargets.filterMap normalizeTarget

def postedReviewHandlerMatchesPriorityTarget (handler : ReviewHandler) (target : PriorityTarget) :
    Bool :=
  handler.repoPath = target.repoPath && handler.prNumber = target.prNumber &&
    (target.headSha = "" || handler.headSha = target.headSha)

def postedReviewHandlerMatchesPriority (handler : ReviewHandler)
    (priorityTargets : List PriorityTarget) : Bool :=
  priorityTargets.any (postedReviewHandlerMatchesPriorityTarget handler)

def firstThose {α : Type} (takes : α → Bool) (items : List α) : List α :=
  items.filter takes ++ items.filter fun item => !takes item

def orderPriorityFirst (handlers : List ReviewHandler) (priorityTargets : List PriorityTarget) :
    List ReviewHandler :=
  firstThose (fun handler => postedReviewHandlerMatchesPriority handler priorityTargets) handlers

def orderDeferredFirst (handlers : List ReviewHandler) (deferred : KeySet) : List ReviewHandler :=
  let promoted := deferred.keys.flatMap fun key =>
    handlers.filter fun handler => postedReviewHandlerKey handler = key
  promoted ++ handlers.filter fun handler => postedReviewHandlerKey handler ∉ deferred.keys

def orderHandlers (handlers : List ReviewHandler) (deferred : KeySet)
    (priorityTargets : List PriorityTarget) : List ReviewHandler :=
  orderPriorityFirst (orderDeferredFirst (firstThose ReviewHandler.mergeReady handlers) deferred)
    priorityTargets

theorem firstThose_perm {α : Type} (takes : α → Bool) (items : List α) :
    (firstThose takes items).Perm items :=
  List.filter_append_perm takes items

theorem promote_perm (handlers : List ReviewHandler) {keys : List String} (distinct : keys.Nodup) :
    ((keys.flatMap fun key =>
        handlers.filter fun handler => postedReviewHandlerKey handler = key) ++
      handlers.filter fun handler => postedReviewHandlerKey handler ∉ keys).Perm handlers := by
  induction keys with
  | nil => simp
  | cons key rest ih =>
    obtain ⟨fresh, distinct⟩ := List.nodup_cons.mp distinct
    -- What is left beside the other keys are the handlers of this key and those of no key.
    have split := List.filter_append_perm (fun handler => postedReviewHandlerKey handler = key)
      (handlers.filter fun handler => postedReviewHandlerKey handler ∉ rest)
    have own : (handlers.filter fun handler => postedReviewHandlerKey handler ∉ rest).filter
        (fun handler => postedReviewHandlerKey handler = key) =
          handlers.filter fun handler => postedReviewHandlerKey handler = key := by
      rw [List.filter_filter]
      refine List.filter_congr ?_
      intro handler _
      by_cases same : postedReviewHandlerKey handler = key
      · simp [same, fresh]
      · simp [same]
    have others : (handlers.filter fun handler => postedReviewHandlerKey handler ∉ rest).filter
        (fun handler => !decide (postedReviewHandlerKey handler = key)) =
          handlers.filter fun handler => postedReviewHandlerKey handler ∉ key :: rest := by
      rw [List.filter_filter]
      refine List.filter_congr ?_
      intro handler _
      simp
    rw [own, others] at split
    rw [List.flatMap_cons, List.append_assoc]
    refine List.Perm.trans ?_ (ih distinct)
    refine List.Perm.trans ?_ (List.Perm.append_left _ split)
    rw [← List.append_assoc, ← List.append_assoc]
    exact List.Perm.append_right _ List.perm_append_comm

theorem orderHandlers_perm (handlers : List ReviewHandler) (deferred : KeySet)
    (priorityTargets : List PriorityTarget) :
    (orderHandlers handlers deferred priorityTargets).Perm handlers := by
  refine (firstThose_perm _ _).trans ?_
  refine (promote_perm _ deferred.distinct).trans ?_
  exact firstThose_perm _ _

def postedReviewConcurrency : Nat := 4

def defaultPhaseBudgetMs : Rat := 10 * 60 * 1000

def defaultHandlerTimeoutMs : Rat := 3 * 60 * 1000

def handlerHeadroomMs : Rat := 5 * 1000

/-- A number, absent where it is none or not finite. -/
abbrev Reading := Option Rat

def parsePositiveMs (value : Reading) (fallback : Rat) : Rat :=
  match value with
  | some number => if 0 < number then number else fallback
  | none => fallback

def derivePostedReviewExpensiveStepBudgetMs (handlerTimeoutMs : Rat) : Rat :=
  let headroomMs := min handlerHeadroomMs (handlerTimeoutMs - 1)
  let availableForStepsMs := max 1 (handlerTimeoutMs - headroomMs)
  max 1 (availableForStepsMs / 2).floor

structure TickOptions where
  handlers : List ReviewHandler
  budgetMs : Reading := none
  handlerTimeoutMs : Reading := none
  minimumHandlerStartBudgetMs : Reading := none
  phaseStartedMs : Reading := none
  concurrency : Reading := some 4
  priorityTargets : List RawPriorityTarget := []
  laneStarvationFloor : Reading := some 1
  /-- There is a lane gate to ask. -/
  hasLane : Bool := true

namespace TickOptions

def effectiveBudgetMs (options : TickOptions) : Rat :=
  parsePositiveMs options.budgetMs defaultPhaseBudgetMs

def effectiveMinimumHandlerStartBudgetMs (options : TickOptions) : Rat :=
  parsePositiveMs options.minimumHandlerStartBudgetMs
    (derivePostedReviewExpensiveStepBudgetMs
      (parsePositiveMs options.handlerTimeoutMs defaultHandlerTimeoutMs))

def normalizedPriorityTargets (options : TickOptions) : List PriorityTarget :=
  normalizePostedReviewPriorityTargets options.priorityTargets

/-- How many handlers a tick runs at once. -/
def limit (options : TickOptions) : Nat :=
  match options.concurrency with
  | none => postedReviewConcurrency
  | some number =>
    let whole := if number.floor = 0 then (postedReviewConcurrency : Int) else number.floor
    min postedReviewConcurrency (max 1 whole).toNat

def laneFloor (options : TickOptions) : Nat :=
  match options.laneStarvationFloor with
  | some number => if number.den = 1 ∧ 0 < number.num then number.num.toNat else 0
  | none => 0

end TickOptions

/-- The counts of a tick. -/
structure Summary where
  queued : Nat
  ran : Nat := 0
  mergeReadyHandled : Nat := 0
  failed : Nat := 0
  timedOut : Nat := 0
  skippedByLane : Nat := 0
  deferredByBudget : Nat := 0
  deferredByInFlight : Nat := 0
  deferredAfterTimeout : Nat := 0
  continuedAfterTimeout : Nat := 0
  priorityLaneBypasses : Nat := 0
  laneFloorAdmissions : Nat := 0
  deferred : List String := []

structure LaneDecision where
  run : Bool
  retryAfterMs : Rat := 0
  noProgressTicks : Nat := 0
  skippedTicks : Nat := 0

/-- How a lane gate answers; one that throws is passed over. -/
inductive LaneAnswer where
  | threw
  | decided (decision : LaneDecision)

structure LaneDeferred where
  handler : ReviewHandler
  index : Nat
  decision : LaneDecision

def LaneDeferred.key (turned : LaneDeferred) : String :=
  postedReviewHandlerKey turned.handler

/-- How far the execution of a handler is. -/
inductive Progress where
  | working
  /-- The outcome is counted, and the lane may still be told of it. -/
  | closing (timedOut : Bool)
  deriving DecidableEq

/-- The execution of one handler within a tick. -/
structure Execution where
  id : Nat
  key : String
  progress : Progress

/-- Where a tick is. -/
inductive Stage where
  /-- Handlers are left to walk, each with its place in the queue. -/
  | walking (rest : List (Nat × ReviewHandler))
  /-- All handlers are walked, and their executions are waited for. -/
  | draining
  /-- Handlers that the lane turned away may be admitted. -/
  | floor (candidates : List LaneDeferred)
  /-- One of them runs. -/
  | admitted (id : Nat) (candidates : List LaneDeferred)

structure Tick where
  options : TickOptions
  startedMs : Reading
  stage : Stage
  summary : Summary
  active : List Execution := []
  nextDeferred : KeySet := .empty
  laneDeferred : List LaneDeferred := []

/-- A handler's promise, by its key and its number. -/
abbrev Work := String × Nat

/-- What ticks share, and what an observer sees of them. -/
structure FairnessWorld where
  deferredKeys : KeySet := .empty
  inFlight : List Work := []
  /-- The promises that have not settled. -/
  unsettled : List Work := []
  /-- The promises that have settled, and whether they rejected. -/
  settled : List (Nat × Bool) := []
  nextId : Nat := 0
  tick : Option Tick := none
  returned : List Summary := []

/-- What can happen next. -/
inductive FairnessEvent where
  | begin (options : TickOptions) (nowMs : Reading)
  | advance (nowMs : Reading) (lane : LaneAnswer)
  | settle (id : Nat) (rejected : Bool)
  | release (id : Nat)
  | answer (id : Nat)
  | expire (id : Nat)
  | close (id : Nat) (nowMs : Reading)

def Tick.exhausted (tick : Tick) (nowMs : Reading) : Bool :=
  match nowMs, tick.startedMs with
  | some now, some started =>
    let phaseElapsedMs := now - started
    tick.options.effectiveBudgetMs ≤ phaseElapsedMs ||
      tick.options.effectiveBudgetMs - phaseElapsedMs <
        tick.options.effectiveMinimumHandlerStartBudgetMs
  | _, _ => false

def Tick.permitsMore (tick : Tick) (nowMs : Reading) : Bool :=
  match nowMs, tick.startedMs with
  | some now, some started =>
    tick.options.effectiveMinimumHandlerStartBudgetMs ≤
      tick.options.effectiveBudgetMs - (now - started)
  | _, _ => false

def executeHandler (world : FairnessWorld) (tick : Tick) (handler : ReviewHandler)
    (stage : Stage) : FairnessWorld :=
  let key := postedReviewHandlerKey handler
  let id := world.nextId
  { world with
    inFlight := (world.inFlight.filter fun work => work.1 ≠ key) ++ [(key, id)]
    unsettled := world.unsettled ++ [(key, id)]
    nextId := id + 1
    tick := some
      { tick with
        stage
        active := tick.active ++ [{ id, key, progress := .working }]
        summary :=
          { tick.summary with
            mergeReadyHandled := tick.summary.mergeReadyHandled +
              if handler.mergeReady then 1 else 0 } } }

def finishTick (world : FairnessWorld) (tick : Tick) : FairnessWorld :=
  { world with
    deferredKeys := tick.nextDeferred
    tick := none
    returned := world.returned ++ [{ tick.summary with deferred := tick.nextDeferred.keys }] }

def inFlightFull (world : FairnessWorld) (key : String) : Bool :=
  postedReviewConcurrency ≤ world.inFlight.length || key ∈ world.inFlight.map Prod.fst

def laneStep (world : FairnessWorld) (tick : Tick) (index : Nat) (handler : ReviewHandler)
    (rest : List (Nat × ReviewHandler)) (decision : LaneDecision) : FairnessWorld :=
  let priorityMatched :=
    postedReviewHandlerMatchesPriority handler tick.options.normalizedPriorityTargets
  if decision.run then executeHandler world tick handler (.walking rest)
  else if priorityMatched ∧ ¬ 0 < decision.retryAfterMs then
    let summary :=
      { tick.summary with priorityLaneBypasses := tick.summary.priorityLaneBypasses + 1 }
    executeHandler world { tick with summary } handler (.walking rest)
  else
    { world with
      tick := some
        { tick with
          stage := .walking rest
          summary := { tick.summary with skippedByLane := tick.summary.skippedByLane + 1 }
          laneDeferred := tick.laneDeferred ++ [{ handler, index, decision }] } }

def laneDecision (options : TickOptions) : LaneAnswer → LaneDecision
  | .threw => { run := true }
  | .decided decision => if options.hasLane then decision else { run := true }

def deferRest (world : FairnessWorld) (tick : Tick) (rest : List (Nat × ReviewHandler)) :
    FairnessWorld :=
  let summary :=
    if 0 < tick.summary.timedOut then
      { tick.summary with
        deferredAfterTimeout := tick.summary.deferredAfterTimeout + rest.length }
    else { tick.summary with deferredByBudget := tick.summary.deferredByBudget + rest.length }
  { world with
    tick := some
      { tick with
        stage := .draining
        summary
        nextDeferred :=
          tick.nextDeferred.addAll (rest.map fun item => postedReviewHandlerKey item.2) } }

def walkStep (world : FairnessWorld) (tick : Tick) (index : Nat) (handler : ReviewHandler)
    (rest : List (Nat × ReviewHandler)) (nowMs : Reading) (lane : LaneAnswer) : FairnessWorld :=
  let key := postedReviewHandlerKey handler
  -- Executions of this tick are waited for before anything else is looked at.
  if 0 < tick.active.length ∧
      (tick.options.limit ≤ tick.active.length ∨ inFlightFull world key = true) then world
  else if tick.exhausted nowMs then deferRest world tick ((index, handler) :: rest)
  else if inFlightFull world key then
    { world with
      tick := some
        { tick with
          stage := .walking rest
          summary :=
            { tick.summary with deferredByInFlight := tick.summary.deferredByInFlight + 1 }
          nextDeferred := tick.nextDeferred.add key } }
  else laneStep world tick index handler rest (laneDecision tick.options lane)

/-- The order of the floor: who waited longest, who made no progress longest, who came first. -/
def starvedBefore (first second : LaneDeferred) : Bool :=
  second.decision.skippedTicks < first.decision.skippedTicks ||
    (second.decision.skippedTicks = first.decision.skippedTicks &&
      (second.decision.noProgressTicks < first.decision.noProgressTicks ||
        (second.decision.noProgressTicks = first.decision.noProgressTicks &&
          first.index ≤ second.index)))

def byStarvation (turned : List LaneDeferred) : List LaneDeferred :=
  (turned.filter fun candidate => !decide (0 < candidate.decision.retryAfterMs)).mergeSort
    starvedBefore

def mayUseFloor (tick : Tick) : Bool :=
  0 < tick.options.laneFloor && 0 < tick.laneDeferred.length && tick.summary.ran = 0 &&
    tick.summary.failed = 0 && tick.summary.timedOut = 0 && tick.summary.deferredByBudget = 0 &&
    tick.summary.deferredByInFlight = 0

/-- A tick that has walked everything waits, turns to its floor or returns. -/
def drainStep (world : FairnessWorld) (tick : Tick) : FairnessWorld :=
  if 0 < tick.active.length then world
  else if mayUseFloor tick then
    { world with tick := some { tick with stage := .floor (byStarvation tick.laneDeferred) } }
  else finishTick world tick

def floorStep (world : FairnessWorld) (tick : Tick) (nowMs : Reading) :
    List LaneDeferred → FairnessWorld
  | [] => finishTick world tick
  | candidate :: rest =>
    if tick.options.laneFloor ≤ tick.summary.laneFloorAdmissions then finishTick world tick
    else if tick.exhausted nowMs then finishTick world tick
    else
      let summary :=
        { tick.summary with
          laneFloorAdmissions := tick.summary.laneFloorAdmissions + 1
          skippedByLane := tick.summary.skippedByLane - 1 }
      executeHandler world { tick with summary } candidate.handler (.admitted world.nextId rest)

def advanceTick (world : FairnessWorld) (tick : Tick) (nowMs : Reading) (lane : LaneAnswer) :
    FairnessWorld :=
  match tick.stage with
  | .walking [] => { world with tick := some { tick with stage := .draining } }
  | .walking ((index, handler) :: rest) => walkStep world tick index handler rest nowMs lane
  | .draining => drainStep world tick
  | .floor candidates => floorStep world tick nowMs candidates
  | .admitted _ _ => world

def setProgress (id : Nat) (progress : Progress) (active : List Execution) : List Execution :=
  active.map fun execution =>
    if execution.id = id then { execution with progress } else execution

def isWorking (tick : Tick) (id : Nat) : Bool :=
  tick.active.any fun execution => execution.id = id && execution.progress = .working

def answerStep (world : FairnessWorld) (tick : Tick) (id : Nat) : FairnessWorld :=
  if !isWorking tick id then world
  else
    match world.settled.find? fun settled => settled.1 = id with
    | none => world
    | some (_, rejected) =>
      let summary :=
        if rejected then { tick.summary with failed := tick.summary.failed + 1 }
        else { tick.summary with ran := tick.summary.ran + 1 }
      { world with
        tick := some
          { tick with summary, active := setProgress id (.closing false) tick.active } }

/-- An execution's deadline has passed; its promise goes on. -/
def expireStep (world : FairnessWorld) (tick : Tick) (id : Nat) : FairnessWorld :=
  if !isWorking tick id then world
  else
    { world with
      tick := some
        { tick with
          summary := { tick.summary with timedOut := tick.summary.timedOut + 1 }
          active := setProgress id (.closing true) tick.active } }

def closeStep (world : FairnessWorld) (tick : Tick) (id : Nat) (nowMs : Reading) :
    FairnessWorld :=
  match tick.active.find? fun execution => execution.id = id with
  | some { progress := .closing timedOut, .. } =>
    let active := tick.active.filter fun execution => execution.id ≠ id
    match tick.stage with
    | .admitted _ candidates =>
      if timedOut then finishTick world { tick with active }
      else { world with tick := some { tick with active, stage := .floor candidates } }
    | _ =>
      let summary :=
        if timedOut ∧ tick.permitsMore nowMs = true then
          { tick.summary with continuedAfterTimeout := tick.summary.continuedAfterTimeout + 1 }
        else tick.summary
      { world with tick := some { tick with active, summary } }
  | _ => world

def beginTick (world : FairnessWorld) (options : TickOptions) (nowMs : Reading) : FairnessWorld :=
  if options.handlers.isEmpty then
    { world with deferredKeys := .empty, returned := world.returned ++ [{ queued := 0 }] }
  else
    let ordered :=
      orderHandlers options.handlers world.deferredKeys options.normalizedPriorityTargets
    { world with
      tick := some
        { options
          startedMs := options.phaseStartedMs <|> nowMs
          stage := .walking (ordered.zipIdx.map Prod.swap)
          summary := { queued := options.handlers.length } } }

def fairnessStep (world : FairnessWorld) : FairnessEvent → FairnessWorld
  | .begin options nowMs =>
    match world.tick with
    | none => beginTick world options nowMs
    | some _ => world
  | .advance nowMs lane =>
    match world.tick with
    | none => world
    | some tick => advanceTick world tick nowMs lane
  | .settle id rejected =>
    if id ∈ world.unsettled.map Prod.snd then
      { world with
        unsettled := world.unsettled.filter fun work => work.2 ≠ id
        settled := world.settled ++ [(id, rejected)] }
    else world
  | .release id =>
    -- Only a promise that has settled is released.
    if id ∈ world.unsettled.map Prod.snd then world
    else { world with inFlight := world.inFlight.filter fun work => work.2 ≠ id }
  | .answer id =>
    match world.tick with
    | none => world
    | some tick => answerStep world tick id
  | .expire id =>
    match world.tick with
    | none => world
    | some tick => expireStep world tick id
  | .close id nowMs =>
    match world.tick with
    | none => world
    | some tick => closeStep world tick id nowMs

def runFairness (world : FairnessWorld) (events : List FairnessEvent) : FairnessWorld :=
  events.foldl fairnessStep world

end AdversarialReview.Fairness
