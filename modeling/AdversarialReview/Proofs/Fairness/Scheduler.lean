import Mathlib.Data.List.Perm.Subperm
import AdversarialReview.Fairness.Scheduler

/-! What every event keeps, that no tick is stuck, and what holds over any sequence of ticks. -/

namespace AdversarialReview.Fairness

def Summary.accounted (summary : Summary) : Nat :=
  summary.ran + summary.failed + summary.timedOut + summary.skippedByLane +
    summary.deferredByBudget + summary.deferredByInFlight + summary.deferredAfterTimeout

def openCount (active : List Execution) : Nat :=
  active.countP fun execution => execution.progress = .working

def unwalked : Stage → Nat
  | .walking rest => rest.length
  | _ => 0

def lanesCounted (tick : Tick) : Prop :=
  match tick.stage with
  | .walking _ | .draining => tick.laneDeferred.length = tick.summary.skippedByLane
  | .floor candidates | .admitted _ candidates =>
    candidates.length ≤ tick.summary.skippedByLane

structure Books (tick : Tick) : Prop where
  queued : tick.summary.queued =
    tick.summary.accounted + openCount tick.active + unwalked tick.stage
  lanes : lanesCounted tick
  distinct : (tick.active.map Execution.id).Nodup
  /-- An outcome is counted before its execution is over. -/
  closing : ∀ execution ∈ tick.active, execution.progress ≠ .working →
    0 < tick.summary.ran + tick.summary.failed + tick.summary.timedOut

theorem openCount_setProgress {active : List Execution} {id : Nat} {timedOut : Bool}
    (distinct : (active.map Execution.id).Nodup)
    (working : (active.any fun execution => execution.id = id && execution.progress = .working) =
      true) :
    openCount active = openCount (setProgress id (.closing timedOut) active) + 1 := by
  -- By induction on the executions; the one that closes is the first, or the rest has it.
  induction active with
  | nil => simp at working
  | cons first rest ih =>
    rw [List.map_cons, List.nodup_cons] at distinct
    obtain ⟨fresh, distinct⟩ := distinct
    by_cases same : first.id = id
    · -- The execution is the first one, and no other has its number.
      have others : setProgress id (.closing timedOut) rest = rest := by
        refine (List.map_congr_left ?_).trans (List.map_id' rest)
        intro execution listed
        have apart : execution.id ≠ id := fun again =>
          fresh (List.mem_map.mpr ⟨execution, listed, again.trans same.symm⟩)
        simp [apart]
      have own : first.progress = .working := by
        obtain ⟨execution, listed, found⟩ := List.any_eq_true.mp working
        simp only [Bool.and_eq_true, decide_eq_true_eq] at found
        rcases List.mem_cons.mp listed with rfl | later
        · exact found.2
        · exact absurd (List.mem_map.mpr ⟨execution, later, found.1.trans same.symm⟩) fresh
      simp only [openCount, setProgress, List.map_cons, List.countP_cons] at others ⊢
      simp [others, same, own]
    · have below := ih distinct (by simpa [same] using working)
      simp only [openCount, setProgress, List.map_cons, List.countP_cons] at below ⊢
      simp only [same, if_false]
      omega

theorem setProgress_ids (id : Nat) (progress : Progress) (active : List Execution) :
    (setProgress id progress active).map Execution.id = active.map Execution.id := by
  -- Only the progress of an execution is rewritten.
  rw [setProgress, List.map_map]
  refine List.map_congr_left ?_
  intro execution _
  by_cases same : execution.id = id <;> simp [same]

theorem openCount_filter {active : List Execution} {execution : Execution}
    (distinct : (active.map Execution.id).Nodup) (listed : execution ∈ active)
    (closed : execution.progress ≠ .working) :
    openCount (active.filter fun other => other.id ≠ execution.id) = openCount active := by
  -- The execution left out is the only one with its number, and it is not open.
  simp only [openCount, List.countP_filter]
  refine List.countP_congr ?_
  intro other member
  by_cases same : other.id = execution.id
  · have equal := List.inj_on_of_nodup_map distinct member listed same
    simp [equal, closed]
  · simp [same]

namespace Books

variable {tick : Tick}

theorem execute {stage : Stage} {id : Nat} {key : String} {summary : Summary}
    (queued : summary.queued =
      summary.accounted + openCount tick.active + unwalked stage + 1)
    (lanes : lanesCounted { tick with stage, summary })
    (distinct : (tick.active.map Execution.id).Nodup) (fresh : id ∉ tick.active.map Execution.id)
    (closing : ∀ execution ∈ tick.active, execution.progress ≠ .working →
      0 < summary.ran + summary.failed + summary.timedOut) :
    Books
      { tick with
        stage
        summary
        active := tick.active ++ [{ id, key, progress := .working }] } := by
  refine ⟨?_, lanes, ?_, ?_⟩
  · simp only [openCount, List.countP_append, List.countP_singleton, decide_true,
      if_true] at queued ⊢
    omega
  · rw [List.map_append, List.nodup_append]
    refine ⟨distinct, List.nodup_singleton _, ?_⟩
    intro first listed second inserted same
    have own : second = id := by simpa using inserted
    exact fresh (own ▸ same ▸ listed)
  · intro execution listed closed
    rcases List.mem_append.mp listed with before | new
    · exact closing execution before closed
    · rw [List.mem_singleton.mp new] at closed
      exact absurd rfl closed

theorem all_counted (books : Books tick) (idle : openCount tick.active = 0)
    (walked : unwalked tick.stage = 0) : tick.summary.queued = tick.summary.accounted := by
  have queued := books.queued
  omega

end Books

structure SharedInv (world : FairnessWorld) : Prop where
  inFlight : world.unsettled ⊆ world.inFlight
  alone : (world.unsettled.map Prod.fst).Nodup
  few : world.unsettled.length ≤ postedReviewConcurrency
  numbered : ∀ work ∈ world.unsettled, work.2 < world.nextId
  settled : ∀ settled ∈ world.settled, settled.1 < world.nextId ∧
    settled.1 ∉ world.unsettled.map Prod.snd

def freeFor (unsettled : List Work) (key : String) : Prop :=
  key ∉ unsettled.map Prod.fst ∧ unsettled.length < postedReviewConcurrency

theorem freeFor.sublist {unsettled fewer : List Work} {key : String}
    (free : freeFor unsettled key) (within : fewer.Sublist unsettled) : freeFor fewer key :=
  ⟨fun listed => free.1 ((within.map Prod.fst).subset listed),
    lt_of_le_of_lt within.length_le free.2⟩

def Quiet (tick : Tick) : Prop :=
  tick.active = [] ∧ tick.summary.ran = 0 ∧ tick.summary.failed = 0 ∧ tick.summary.timedOut = 0

/-- The handlers that the floor may admit could start as long as nothing else has. -/
def FloorFree (unsettled : List Work) (tick : Tick) : Prop :=
  match tick.stage with
  | .walking _ | .draining =>
    Quiet tick → ∀ turned ∈ tick.laneDeferred, freeFor unsettled turned.key
  | .floor candidates =>
    tick.active = [] ∧ ∀ candidate ∈ candidates, freeFor unsettled candidate.key
  | .admitted id candidates =>
    tick.active ≠ [] ∧ (∀ execution ∈ tick.active, execution.id = id) ∧
    (∀ candidate ∈ candidates,
      freeFor (unsettled.filter fun work => work.2 ≠ id) candidate.key) ∧
    ∀ execution ∈ tick.active, execution.progress = .closing false → id ∉ unsettled.map Prod.snd

/-- What holds of a tick that runs. -/
structure TickInv (world : FairnessWorld) (tick : Tick) : Prop where
  books : Books tick
  numbered : ∀ execution ∈ tick.active, execution.id < world.nextId
  floor : FloorFree world.unsettled tick

/-- What holds of a world at any moment. -/
structure FairnessInv (world : FairnessWorld) : Prop where
  shared : SharedInv world
  tick : ∀ tick, world.tick = some tick → TickInv world tick
  returned : ∀ summary ∈ world.returned, summary.queued = summary.accounted

section

variable {world : FairnessWorld} {tick : Tick}

theorem SharedInv.free (shared : SharedInv world) {key : String}
    (open_ : inFlightFull world key = false) : freeFor world.unsettled key := by
  -- In flight is a superset of what is unsettled, by key and by number.
  simp only [inFlightFull, Bool.or_eq_false_iff, decide_eq_false_iff_not, not_le] at open_
  refine ⟨?_, ?_⟩
  · intro listed
    obtain ⟨work, member, same⟩ := List.mem_map.mp listed
    exact open_.2 (List.mem_map.mpr ⟨work, shared.inFlight member, same⟩)
  · -- Unsettled promises are distinct and all in flight.
    have distinct : world.unsettled.Nodup := List.Nodup.of_map Prod.fst shared.alone
    have fewer := (List.subperm_of_subset distinct shared.inFlight).length_le
    omega

variable {handler : ReviewHandler}

theorem SharedInv.execute (shared : SharedInv world) {stage : Stage}
    (free : freeFor world.unsettled (postedReviewHandlerKey handler)) :
    SharedInv (executeHandler world tick handler stage) := by
  -- The new promise takes the next number and replaces whatever was in flight under its key.
  refine ⟨?_, ?_, ?_, ?_, ?_⟩
  · intro work listed
    simp only [executeHandler, List.mem_append, List.mem_filter, List.mem_singleton,
      decide_eq_true_eq] at listed ⊢
    rcases listed with before | rfl
    · have apart : work.1 ≠ postedReviewHandlerKey handler := fun same =>
        free.1 (List.mem_map.mpr ⟨work, before, same⟩)
      exact .inl ⟨shared.inFlight before, apart⟩
    · exact .inr rfl
  · simp only [executeHandler, List.map_append, List.nodup_append]
    refine ⟨shared.alone, List.nodup_singleton _, ?_⟩
    intro first listed second inserted same
    have own : second = postedReviewHandlerKey handler := by simpa using inserted
    exact free.1 (own ▸ same ▸ listed)
  · have room := free.2
    simp only [executeHandler, List.length_append, List.length_singleton]
    omega
  · intro work listed
    simp only [executeHandler, List.mem_append, List.mem_singleton] at listed ⊢
    rcases listed with before | rfl
    · have below := shared.numbered work before
      omega
    · exact Nat.lt_succ_self _
  · intro settled listed
    obtain ⟨below, apart⟩ := shared.settled settled listed
    refine ⟨?_, ?_⟩
    · simp only [executeHandler]
      omega
    · simp only [executeHandler, List.map_append, List.mem_append, List.map_singleton,
        List.mem_singleton, not_or]
      exact ⟨apart, fun same => by omega⟩

theorem SharedInv.without_new (shared : SharedInv world) (key : String) :
    (world.unsettled ++ [(key, world.nextId)]).filter (fun work => work.2 ≠ world.nextId) =
      world.unsettled := by
  -- No earlier promise has the number that is taken next.
  rw [List.filter_append]
  have kept : world.unsettled.filter (fun work => work.2 ≠ world.nextId) = world.unsettled := by
    refine List.filter_eq_self.mpr ?_
    intro work listed
    have below := shared.numbered work listed
    simp only [ne_eq, decide_not, Bool.not_eq_true', decide_eq_false_iff_not]
    omega
  rw [kept]
  simp

variable {rest : List (Nat × ReviewHandler)} {summary : Summary}

section

variable (inv : FairnessInv world)
include inv

theorem FairnessInv.walkOn (tickInv : TickInv world tick)
    (free : freeFor world.unsettled (postedReviewHandlerKey handler))
    (queued : summary.queued = summary.accounted + openCount tick.active + rest.length + 1)
    (lanes : tick.laneDeferred.length = summary.skippedByLane)
    (closing : ∀ execution ∈ tick.active, execution.progress ≠ .working →
      0 < summary.ran + summary.failed + summary.timedOut) :
    FairnessInv (executeHandler world { tick with summary } handler (.walking rest)) := by
  -- The books move one handler from the walk to the executions; the floor is out of play.
  refine ⟨inv.shared.execute free, ?_, inv.returned⟩
  intro running same
  obtain rfl := Option.some.inj same
  refine ⟨?_, ?_, ?_⟩
  · exact @Books.execute tick _ _ _ _ queued lanes tickInv.books.distinct
      (fun listed => by
        obtain ⟨execution, member, same⟩ := List.mem_map.mp listed
        have below := tickInv.numbered execution member
        omega) closing
  · intro execution listed
    simp only [executeHandler] at listed ⊢
    rcases List.mem_append.mp listed with before | new
    · have below := tickInv.numbered execution before
      omega
    · rw [List.mem_singleton.mp new]
      exact Nat.lt_succ_self _
  · -- Something has started, so the floor stands down.
    rintro ⟨none, -⟩
    simp at none

theorem FairnessInv.withTick {next : Tick}
    (nextInv : TickInv world next) : FairnessInv { world with tick := some next } := by
  -- Promises are untouched, so only the tick has something to show.
  refine ⟨⟨inv.shared.inFlight, inv.shared.alone, inv.shared.few, inv.shared.numbered,
    inv.shared.settled⟩, ?_, inv.returned⟩
  intro running same
  obtain rfl := Option.some.inj same
  exact ⟨nextInv.books, nextInv.numbered, nextInv.floor⟩

theorem FairnessInv.finish (counted : tick.summary.queued = tick.summary.accounted) :
    FairnessInv (finishTick world tick) := by
  -- The summary goes to the returned ones, and no tick is left.
  refine ⟨⟨inv.shared.inFlight, inv.shared.alone, inv.shared.few, inv.shared.numbered,
    inv.shared.settled⟩, fun _ none => (by cases none), ?_⟩
  intro summary listed
  rcases List.mem_append.mp listed with before | new
  · exact inv.returned summary before
  · rw [List.mem_singleton.mp new]
    exact counted

theorem FairnessInv.laneStep (tickInv : TickInv world tick) {index : Nat}
    (at_ : tick.stage = .walking ((index, handler) :: rest))
    (open_ : inFlightFull world (postedReviewHandlerKey handler) = false)
    (decision : LaneDecision) :
    FairnessInv (laneStep world tick index handler rest decision) := by
  -- A handler runs, runs by priority, or is turned away for the floor.
  have free := inv.shared.free open_
  have queued := tickInv.books.queued
  have lanes := tickInv.books.lanes
  have floor := tickInv.floor
  simp only [at_, unwalked, List.length_cons] at queued
  simp only [lanesCounted, at_] at lanes
  simp only [FloorFree, at_] at floor
  unfold AdversarialReview.Fairness.laneStep
  dsimp only
  split
  · exact inv.walkOn tickInv free (by omega) lanes tickInv.books.closing
  split
  · refine inv.walkOn tickInv free ?_ lanes tickInv.books.closing
    simp only [Summary.accounted] at queued ⊢
    omega
  · refine inv.withTick ⟨⟨?_, ?_, tickInv.books.distinct, tickInv.books.closing⟩,
      tickInv.numbered, ?_⟩
    · simp only [Summary.accounted, unwalked] at queued ⊢
      omega
    · simp [lanesCounted, lanes]
    · intro quiet turned listed
      rcases List.mem_append.mp listed with before | new
      · exact floor quiet turned before
      · rw [List.mem_singleton.mp new]
        exact free

theorem FairnessInv.deferRest (tickInv : TickInv world tick) (at_ : tick.stage = .walking rest) :
    FairnessInv (deferRest world tick rest) := by
  -- The whole rest is counted at once, under one of two names.
  have queued := tickInv.books.queued
  have lanes := tickInv.books.lanes
  have floor := tickInv.floor
  simp only [at_, unwalked] at queued
  simp only [lanesCounted, at_] at lanes
  simp only [FloorFree, at_] at floor
  refine inv.withTick ⟨⟨?_, ?_, tickInv.books.distinct, ?_⟩, tickInv.numbered, ?_⟩
  · -- One of two counts takes all that is left to walk.
    split <;> simp only [Summary.accounted, unwalked] at queued ⊢ <;> omega
  · split <;> exact lanes
  · intro execution listed closed
    split <;> exact tickInv.books.closing execution listed closed
  · intro quiet
    obtain ⟨idle, ran, failed, timedOut⟩ := quiet
    split at ran <;> exact floor ⟨idle, by simp_all, by simp_all, by simp_all⟩

theorem FairnessInv.walkStep (running : world.tick = some tick)
    {index : Nat} (at_ : tick.stage = .walking ((index, handler) :: rest)) (nowMs : Reading)
    (lane : LaneAnswer) : FairnessInv (walkStep world tick index handler rest nowMs lane) := by
  -- The cases are those of the loop body: wait, out of budget, in flight, the lane.
  have tickInv := inv.tick tick running
  unfold AdversarialReview.Fairness.walkStep
  dsimp only
  split
  · exact inv
  split
  · exact inv.deferRest tickInv at_
  split
  next full =>
    have queued := tickInv.books.queued
    have lanes := tickInv.books.lanes
    have floor := tickInv.floor
    simp only [at_, unwalked, List.length_cons] at queued
    simp only [lanesCounted, at_] at lanes
    simp only [FloorFree, at_] at floor
    refine inv.withTick ⟨⟨?_, lanes, tickInv.books.distinct, tickInv.books.closing⟩,
      tickInv.numbered, floor⟩
    simp only [Summary.accounted, unwalked] at queued ⊢
    omega
  next clear => exact inv.laneStep tickInv at_ (by simpa using clear) _

end

theorem mem_byStarvation {turned : List LaneDeferred} {candidate : LaneDeferred}
    (listed : candidate ∈ byStarvation turned) : candidate ∈ turned :=
  (List.mem_filter.mp (List.mem_mergeSort.mp listed)).1

theorem length_byStarvation (turned : List LaneDeferred) :
    (byStarvation turned).length ≤ turned.length := by
  -- Sorting keeps the length, and holding back shortens it.
  rw [byStarvation, List.length_mergeSort]
  exact List.length_filter_le _ _

theorem FairnessInv.drainStep (inv : FairnessInv world) (running : world.tick = some tick)
    (at_ : tick.stage = .draining) : FairnessInv (drainStep world tick) := by
  -- Nothing is active, so what is queued is counted, whether or not the floor is used.
  have tickInv := inv.tick tick running
  unfold AdversarialReview.Fairness.drainStep
  split
  · exact inv
  next idle =>
    have empty : tick.active = [] := List.length_eq_zero_iff.mp (Nat.eq_zero_of_not_pos idle)
    have queued := tickInv.books.queued
    have lanes := tickInv.books.lanes
    have floor := tickInv.floor
    simp only [lanesCounted, at_] at lanes
    simp only [FloorFree, at_] at floor
    split
    next may =>
      simp only [mayUseFloor, Bool.and_eq_true, decide_eq_true_eq] at may
      obtain ⟨⟨⟨⟨⟨⟨-, -⟩, ran⟩, failed⟩, timedOut⟩, -⟩, -⟩ := may
      refine inv.withTick ⟨⟨?_, ?_, tickInv.books.distinct, tickInv.books.closing⟩,
        tickInv.numbered, empty, ?_⟩
      · simpa [at_, unwalked] using queued
      · -- Candidates are some of those that were turned away.
        have fewer := length_byStarvation tick.laneDeferred
        simp only [lanesCounted]
        omega
      · intro candidate listed
        exact floor ⟨empty, ran, failed, timedOut⟩ candidate (mem_byStarvation listed)
    next =>
      refine inv.finish ?_
      simpa [at_, unwalked, empty, openCount] using queued

theorem FairnessInv.floorStep (inv : FairnessInv world) (running : world.tick = some tick)
    {candidates : List LaneDeferred} (at_ : tick.stage = .floor candidates) (nowMs : Reading) :
    FairnessInv (floorStep world tick nowMs candidates) := by
  -- A candidate moves from the turned away back to the executions.
  have tickInv := inv.tick tick running
  have queued := tickInv.books.queued
  have lanes := tickInv.books.lanes
  have floor := tickInv.floor
  simp only [lanesCounted, at_] at lanes
  simp only [FloorFree, at_] at floor
  obtain ⟨empty, free⟩ := floor
  have counted : tick.summary.queued = tick.summary.accounted := by
    simpa [at_, unwalked, empty, openCount] using queued
  cases candidates with
  | nil => exact inv.finish counted
  | cons candidate rest =>
    dsimp only [AdversarialReview.Fairness.floorStep]
    split
    · exact inv.finish counted
    split
    · exact inv.finish counted
    · have own := free candidate List.mem_cons_self
      refine ⟨inv.shared.execute own, ?_, inv.returned⟩
      intro after same
      obtain rfl := Option.some.inj same
      simp only [List.length_cons] at lanes
      refine ⟨?_, ?_, ?_, ?_, ?_, ?_⟩
      · refine @Books.execute tick _ _ _ _ ?_ ?_ (by simp [empty]) (by simp [empty])
          (by simp [empty])
        · simp only [Summary.accounted, empty, openCount, unwalked, List.countP_nil] at counted ⊢
          omega
        · simp only [lanesCounted]
          omega
      · intro execution listed
        simp only [executeHandler, empty, List.nil_append, List.mem_singleton] at listed ⊢
        rw [listed]
        exact Nat.lt_succ_self _
      · simp
      · intro execution listed
        simp only [empty, List.nil_append, List.mem_singleton] at listed
        rw [listed]
      · -- Without the promise that starts, what was free is free.
        intro other listed
        have before := inv.shared.without_new (postedReviewHandlerKey candidate.handler)
        simp only [executeHandler, before]
        exact free other (List.mem_cons_of_mem candidate listed)
      · intro execution listed closed
        simp only [empty, List.nil_append, List.mem_singleton] at listed
        rw [listed] at closed
        cases closed

variable {execution : Execution} {id : Nat}

theorem mem_setProgress {active : List Execution} {progress : Progress}
    (listed : execution ∈ setProgress id progress active) :
    ∃ before ∈ active, before.id = execution.id ∧
      execution.progress = if before.id = id then progress else before.progress := by
  -- An execution after the step comes from one before, by its number.
  obtain ⟨before, member, rfl⟩ := List.mem_map.mp listed
  refine ⟨before, member, ?_⟩
  by_cases same : before.id = id <;> simp [same]

section

variable (inv : FairnessInv world)
include inv

section

variable (running : world.tick = some tick)
include running

theorem FairnessInv.outcome (working : isWorking tick id = true) {timedOut : Bool}
    (one : summary.accounted = tick.summary.accounted + 1)
    (counted : 0 < summary.ran + summary.failed + summary.timedOut)
    (queued : summary.queued = tick.summary.queued)
    (skipped : summary.skippedByLane = tick.summary.skippedByLane)
    (settled : timedOut = false → id ∉ world.unsettled.map Prod.snd) :
    FairnessInv { world with
      tick := some
        { tick with summary, active := setProgress id (.closing timedOut) tick.active } } := by
  have tickInv := inv.tick tick running
  have books := tickInv.books.queued
  have lanes := tickInv.books.lanes
  have floor := tickInv.floor
  have open_ := @openCount_setProgress tick.active id timedOut tickInv.books.distinct working
  refine inv.withTick ⟨⟨?_, ?_, ?_, fun _ _ _ => counted⟩, ?_, ?_⟩
  · show summary.queued = summary.accounted +
      openCount (setProgress id (.closing timedOut) tick.active) + unwalked tick.stage
    omega
  · simp only [lanesCounted, skipped] at lanes ⊢
    exact lanes
  · simpa only [setProgress_ids] using tickInv.books.distinct
  · intro execution listed
    obtain ⟨before, member, same, -⟩ := mem_setProgress listed
    exact same ▸ tickInv.numbered before member
  · -- An open execution means that something has started.
    obtain ⟨execution, member, found⟩ := List.any_eq_true.mp working
    simp only [Bool.and_eq_true, decide_eq_true_eq] at found
    have started : ¬ Quiet { tick with
        summary, active := setProgress id (.closing timedOut) tick.active } := by
      rintro ⟨-, ran, failed, late⟩
      simp only at ran failed late
      omega
    unfold FloorFree at floor ⊢
    dsimp only
    split
    · exact fun quiet => absurd quiet started
    · exact fun quiet => absurd quiet started
    next candidates at_ =>
      simp only [at_] at floor
      rw [floor.1] at member
      cases member
    next own candidates at_ =>
      simp only [at_] at floor
      obtain ⟨-, alone, free, ended⟩ := floor
      have mine : id = own := found.1.symm.trans (alone execution member)
      refine ⟨?_, ?_, free, ?_⟩
      · intro none
        rw [setProgress, List.map_eq_nil_iff] at none
        rw [none] at member
        cases member
      · intro after listed
        obtain ⟨before, member, same, -⟩ := mem_setProgress listed
        exact same ▸ alone before member
      · intro after listed closed
        obtain ⟨before, member, same, progress⟩ := mem_setProgress listed
        rw [if_pos ((alone before member).trans mine.symm), closed] at progress
        exact mine ▸ settled (by injection progress with inTime; exact inTime.symm)

theorem FairnessInv.answerStep (id : Nat) : FairnessInv (answerStep world tick id) := by
  -- Only a promise that has settled answers, so nothing unsettled has its number.
  unfold AdversarialReview.Fairness.answerStep
  split
  · exact inv
  next working =>
    split
    · exact inv
    next number rejected found =>
      have numbered : number = id := by simpa using List.find?_some found
      have apart := (inv.shared.settled _ (List.mem_of_find?_eq_some found)).2
      refine inv.outcome running (by simpa using working) ?_ ?_ ?_ ?_ fun _ => numbered ▸ apart
      · split <;> simp only [Summary.accounted] <;> omega
      · split <;> simp only <;> omega
      · split <;> rfl
      · split <;> rfl

theorem FairnessInv.expireStep (id : Nat) : FairnessInv (expireStep world tick id) := by
  -- A deadline says nothing of the promise, which goes on unsettled.
  unfold AdversarialReview.Fairness.expireStep
  split
  · exact inv
  next working =>
    refine inv.outcome running (by simpa using working) ?_ ?_ rfl rfl fun late => by cases late
    · simp only [Summary.accounted]
      omega
    · simp only
      omega

theorem FairnessInv.closeAdmitted
    {own : Nat} {candidates : List LaneDeferred} (at_ : tick.stage = .admitted own candidates)
    (listed : execution ∈ tick.active) {timedOut : Bool}
    (closed : execution.progress = .closing timedOut) :
    let active := tick.active.filter fun other => other.id ≠ execution.id
    FairnessInv (if timedOut then finishTick world { tick with active }
      else { world with tick := some { tick with active, stage := .floor candidates } }) := by
  have tickInv := inv.tick tick running
  have lanes := tickInv.books.lanes
  have floor := tickInv.floor
  have open_ := openCount_filter tickInv.books.distinct listed (by simp [closed])
  simp only [lanesCounted, at_] at lanes
  simp only [FloorFree, at_] at floor
  obtain ⟨-, alone, free, ended⟩ := floor
  have empty : (tick.active.filter fun other => other.id ≠ execution.id) = [] := by
    refine List.filter_eq_nil_iff.mpr ?_
    intro other member
    simp [alone other member, alone execution listed]
  rw [empty] at open_
  have counted : tick.summary.queued = tick.summary.accounted :=
    tickInv.books.all_counted open_.symm (by rw [at_]; rfl)
  dsimp only
  rw [empty]
  split
  · exact inv.finish counted
  next inTime =>
    refine inv.withTick ⟨⟨?_, ?_, List.nodup_nil, ?_⟩, ?_, rfl, ?_⟩
    · simpa [unwalked, openCount] using counted
    · exact lanes
    · intro other member
      cases member
    · intro other member
      cases member
    · -- Its promise has settled, so leaving it out leaves out nothing.
      have settled := ended execution listed (by simpa [inTime] using closed)
      have kept : (world.unsettled.filter fun work => work.2 ≠ own) = world.unsettled := by
        refine List.filter_eq_self.mpr ?_
        intro work member
        have apart : work.2 ≠ own := fun same => settled (List.mem_map.mpr ⟨work, member, same⟩)
        simpa using apart
      rw [kept] at free
      exact free

theorem FairnessInv.closeWalked
    (elsewhere : ∀ own candidates, tick.stage ≠ .admitted own candidates)
    (listed : execution ∈ tick.active) (closed : execution.progress ≠ .working)
    (same : summary = tick.summary ∨ summary =
      { tick.summary with continuedAfterTimeout := tick.summary.continuedAfterTimeout + 1 }) :
    FairnessInv { world with
      tick := some
        { tick with
          active := tick.active.filter fun other => other.id ≠ execution.id
          summary } } := by
  have tickInv := inv.tick tick running
  have queued := tickInv.books.queued
  have lanes := tickInv.books.lanes
  have floor := tickInv.floor
  have open_ := openCount_filter tickInv.books.distinct listed closed
  have counted := tickInv.books.closing execution listed closed
  have within : (tick.active.filter fun other => other.id ≠ execution.id).Sublist tick.active :=
    List.filter_sublist
  have accounted : summary.accounted = tick.summary.accounted := by
    rcases same with rfl | rfl <;> rfl
  have total : summary.queued = tick.summary.queued := by
    rcases same with rfl | rfl <;> rfl
  have skipped : summary.skippedByLane = tick.summary.skippedByLane := by
    rcases same with rfl | rfl <;> rfl
  have outcomes : summary.ran + summary.failed + summary.timedOut =
      tick.summary.ran + tick.summary.failed + tick.summary.timedOut := by
    rcases same with rfl | rfl <;> rfl
  refine inv.withTick ⟨⟨?_, ?_, ?_, ?_⟩, ?_, ?_⟩
  · show summary.queued = summary.accounted +
      openCount (tick.active.filter fun other => other.id ≠ execution.id) + unwalked tick.stage
    omega
  · simp only [lanesCounted, skipped] at lanes ⊢
    exact lanes
  · exact tickInv.books.distinct.sublist (within.map Execution.id)
  · intro other _ _
    show 0 < summary.ran + summary.failed + summary.timedOut
    omega
  · intro other member
    exact tickInv.numbered other (within.subset member)
  · -- An outcome is counted, so the tick is not quiet.
    unfold FloorFree at floor ⊢
    dsimp only
    split
    · rintro ⟨-, ran, failed, late⟩
      dsimp only at ran failed late
      omega
    · rintro ⟨-, ran, failed, late⟩
      dsimp only at ran failed late
      omega
    next candidates at_ =>
      simp only [at_] at floor
      rw [floor.1] at listed
      cases listed
    next own candidates at_ => exact absurd at_ (elsewhere own candidates)

theorem FairnessInv.closeStep
    (id : Nat) (nowMs : Reading) : FairnessInv (closeStep world tick id nowMs) := by
  -- On the floor the next candidate may follow; elsewhere only the slot is freed.
  unfold AdversarialReview.Fairness.closeStep
  split
  next number key timedOut found =>
    have listed := List.mem_of_find?_eq_some found
    have numbered : number = id := by simpa using List.find?_some found
    subst numbered
    dsimp only
    split
    next own candidates at_ => exact inv.closeAdmitted running at_ listed rfl
    next elsewhere =>
      refine inv.closeWalked running elsewhere listed (by simp) ?_
      split
      · exact .inr rfl
      · exact .inl rfl
  next => exact inv

end

theorem FairnessInv.beginTick (options : TickOptions)
    (nowMs : Reading) : FairnessInv (beginTick world options nowMs) := by
  -- All handlers are left to walk, in some order.
  unfold AdversarialReview.Fairness.beginTick
  split
  · refine ⟨⟨inv.shared.inFlight, inv.shared.alone, inv.shared.few, inv.shared.numbered,
      inv.shared.settled⟩, ?_, ?_⟩
    · intro tick running
      have tickInv := inv.tick tick running
      exact ⟨tickInv.books, tickInv.numbered, tickInv.floor⟩
    · intro summary listed
      rcases List.mem_append.mp listed with before | new
      · exact inv.returned summary before
      · rw [List.mem_singleton.mp new]
        rfl
  · have all := (orderHandlers_perm options.handlers world.deferredKeys
      options.normalizedPriorityTargets).length_eq
    refine inv.withTick ⟨⟨?_, rfl, List.nodup_nil, ?_⟩, ?_, ?_⟩
    · simp [Summary.accounted, openCount, unwalked, all]
    · intro execution listed
      cases listed
    · intro execution listed
      cases listed
    · intro _ turned listed
      cases listed

end

theorem FloorFree.sublist {unsettled fewer : List Work} (free : FloorFree unsettled tick)
    (within : fewer.Sublist unsettled) : FloorFree fewer tick := by
  -- The stage decides what is promised, and each promise is about fewer keys.
  unfold FloorFree at free ⊢
  split
  next rest at_ =>
    simp only [at_] at free
    exact fun quiet turned listed => (free quiet turned listed).sublist within
  next at_ =>
    simp only [at_] at free
    exact fun quiet turned listed => (free quiet turned listed).sublist within
  next candidates at_ =>
    simp only [at_] at free
    exact ⟨free.1, fun candidate listed => (free.2 candidate listed).sublist within⟩
  next own candidates at_ =>
    simp only [at_] at free
    obtain ⟨busy, alone, others, ended⟩ := free
    refine ⟨busy, alone, ?_, ?_⟩
    · exact fun candidate listed => (others candidate listed).sublist (within.filter _)
    · exact fun execution listed closed again =>
        ended execution listed closed ((within.map Prod.snd).subset again)

section

variable (inv : FairnessInv world)
include inv

theorem FairnessInv.settle (open_ : id ∈ world.unsettled.map Prod.snd) (rejected : Bool) :
    FairnessInv { world with
      unsettled := world.unsettled.filter fun work => work.2 ≠ id
      settled := world.settled ++ [(id, rejected)] } := by
  -- What was unsettled shrinks, so every bound on it stays.
  have within : (world.unsettled.filter fun work => work.2 ≠ id).Sublist world.unsettled :=
    List.filter_sublist
  have shared := inv.shared
  refine ⟨⟨?_, ?_, ?_, ?_, ?_⟩, ?_, inv.returned⟩
  · exact fun work listed => shared.inFlight (within.subset listed)
  · exact shared.alone.sublist (within.map Prod.fst)
  · exact within.length_le.trans shared.few
  · exact fun work listed => shared.numbered work (within.subset listed)
  · intro settled listed
    rcases List.mem_append.mp listed with before | new
    · obtain ⟨below, apart⟩ := shared.settled settled before
      exact ⟨below, fun again => apart ((within.map Prod.snd).subset again)⟩
    · obtain rfl := List.mem_singleton.mp new
      obtain ⟨work, member, rfl⟩ := List.mem_map.mp open_
      refine ⟨shared.numbered work member, ?_⟩
      intro again
      obtain ⟨other, kept, same⟩ := List.mem_map.mp again
      have apart := (List.mem_filter.mp kept).2
      simp [same] at apart
  · intro tick running
    have tickInv := inv.tick tick running
    exact ⟨tickInv.books, tickInv.numbered, tickInv.floor.sublist within⟩

theorem FairnessInv.release (closed : id ∉ world.unsettled.map Prod.snd) :
    FairnessInv { world with inFlight := world.inFlight.filter fun work => work.2 ≠ id } := by
  -- Only a settled promise leaves what is in flight.
  have shared := inv.shared
  refine ⟨⟨?_, shared.alone, shared.few, shared.numbered, shared.settled⟩, ?_, inv.returned⟩
  · intro work listed
    have apart : work.2 ≠ id := fun same => closed (List.mem_map.mpr ⟨work, listed, same⟩)
    exact List.mem_filter.mpr ⟨shared.inFlight listed, by simpa using apart⟩
  · intro tick running
    have tickInv := inv.tick tick running
    exact ⟨tickInv.books, tickInv.numbered, tickInv.floor⟩

theorem FairnessInv.advanceTick (running : world.tick = some tick)
    (nowMs : Reading) (lane : LaneAnswer) :
    FairnessInv (advanceTick world tick nowMs lane) := by
  -- Each stage has a step of its own.
  unfold AdversarialReview.Fairness.advanceTick
  split
  next at_ =>
    have tickInv := inv.tick tick running
    have queued := tickInv.books.queued
    have lanes := tickInv.books.lanes
    have floor := tickInv.floor
    simp only [at_, unwalked, List.length_nil] at queued
    simp only [lanesCounted, at_] at lanes
    simp only [FloorFree, at_] at floor
    exact inv.withTick
      ⟨⟨queued, lanes, tickInv.books.distinct, tickInv.books.closing⟩, tickInv.numbered, floor⟩
  next index handler rest at_ => exact inv.walkStep running at_ nowMs lane
  next at_ => exact inv.drainStep running at_
  next candidates at_ => exact inv.floorStep running at_ nowMs
  next => exact inv

theorem FairnessInv.step (event : FairnessEvent) :
    FairnessInv (fairnessStep world event) := by
  -- One case for each event; a step of a tick needs a tick that runs.
  cases event with
  | begin options nowMs =>
    simp only [fairnessStep]
    split
    · exact inv.beginTick options nowMs
    · exact inv
  | advance nowMs lane =>
    simp only [fairnessStep]
    split
    · exact inv
    next tick running => exact inv.advanceTick running nowMs lane
  | settle id rejected =>
    simp only [fairnessStep]
    split
    next open_ => exact inv.settle open_ rejected
    · exact inv
  | release id =>
    simp only [fairnessStep]
    split
    · exact inv
    next closed => exact inv.release closed
  | answer id =>
    simp only [fairnessStep]
    split
    · exact inv
    next tick running => exact inv.answerStep running id
  | expire id =>
    simp only [fairnessStep]
    split
    · exact inv
    next tick running => exact inv.expireStep running id
  | close id nowMs =>
    simp only [fairnessStep]
    split
    · exact inv
    next tick running => exact inv.closeStep running id nowMs

theorem FairnessInv.run (events : List FairnessEvent) :
    FairnessInv (runFairness world events) := by
  -- By induction on the events, from any world that keeps the invariant.
  induction events generalizing world with
  | nil => exact inv
  | cons event rest ih => exact ih (inv.step event)

end

end

def freshFairness (deferredKeys : KeySet) (inFlight : List Work) (nextId : Nat) : FairnessWorld :=
  { deferredKeys, inFlight, nextId }

theorem FairnessInv.fresh (deferredKeys : KeySet) (inFlight : List Work) (nextId : Nat) :
    FairnessInv (freshFairness deferredKeys inFlight nextId) := by
  -- No promise is followed yet and no tick runs.
  refine ⟨⟨?_, List.nodup_nil, Nat.zero_le _, ?_, ?_⟩, ?_, ?_⟩
  · exact List.nil_subset _
  · intro work listed
    cases listed
  · intro settled listed
    cases listed
  · intro tick running
    cases running
  · intro summary listed
    cases listed

def stageWeight (turnedAway : Nat) : Stage → Nat
  | .walking rest => 6 * rest.length + 4 * turnedAway + 3
  | .draining => 4 * turnedAway + 2
  | .floor candidates => 4 * candidates.length + 1
  | .admitted _ candidates => 4 * candidates.length + 2

def Tick.weight (tick : Tick) : Nat :=
  tick.active.length + openCount tick.active + stageWeight tick.laneDeferred.length tick.stage

/-- The tick has returned, or has less left to do. -/
def Lowered (tick : Tick) (world : FairnessWorld) : Prop :=
  match world.tick with
  | none => True
  | some next => next.weight < tick.weight

section

variable {world : FairnessWorld} {tick : Tick}

theorem lowered_expire (inv : FairnessInv world) (running : world.tick = some tick)
    {execution : Execution} (listed : execution ∈ tick.active)
    (working : execution.progress = .working) :
    Lowered tick (fairnessStep world (.expire execution.id)) := by
  -- One execution less counts as open, and nothing else changes its weight.
  have open_ : isWorking tick execution.id = true :=
    List.any_eq_true.mpr ⟨execution, listed, by simp [working]⟩
  have fewer := @openCount_setProgress tick.active execution.id true
    (inv.tick tick running).books.distinct open_
  have same : (setProgress execution.id (.closing true) tick.active).length =
      tick.active.length := by
    rw [setProgress, List.length_map]
  simp only [fairnessStep, running, expireStep, open_, Lowered, Tick.weight]
  simp only [Bool.not_true, Bool.false_eq_true, if_false]
  omega

theorem lowered_close (inv : FairnessInv world) (running : world.tick = some tick)
    {execution : Execution} (listed : execution ∈ tick.active)
    (closed : execution.progress ≠ .working) :
    Lowered tick (fairnessStep world (.close execution.id none)) := by
  -- The execution that is left out was not open, and its slot is gone.
  have distinct := (inv.tick tick running).books.distinct
  have open_ := openCount_filter distinct listed closed
  have fewer : (tick.active.filter fun other => other.id ≠ execution.id).length <
      tick.active.length := by
    refine List.length_filter_lt_length_iff_exists.mpr ⟨execution, listed, ?_⟩
    simp
  have found : (tick.active.find? fun other => other.id = execution.id) = some execution := by
    obtain ⟨other, at_⟩ : ∃ other,
        (tick.active.find? fun other => other.id = execution.id) = some other := by
      refine Option.isSome_iff_exists.mp (List.find?_isSome.mpr ⟨execution, listed, ?_⟩)
      simp
    have same : other.id = execution.id := by simpa using List.find?_some at_
    rw [at_, List.inj_on_of_nodup_map distinct (List.mem_of_find?_eq_some at_) listed same]
  obtain ⟨id, key, progress⟩ := execution
  cases progress with
  | working => exact absurd rfl closed
  | closing timedOut =>
    simp only at open_ fewer found
    simp only [fairnessStep, running, closeStep, found]
    split
    next own candidates at_ =>
      -- The floor goes on with the candidates that are left.
      split
      · trivial
      · simp only [Lowered, Tick.weight, at_, stageWeight]
        omega
    next =>
      simp only [Lowered, Tick.weight]
      omega

theorem lowered_advance (inv : FairnessInv world) (running : world.tick = some tick)
    (idle : tick.active = []) : Lowered tick (fairnessStep world (.advance none .threw)) := by
  -- With a clock that cannot be read and no lane, every stage goes on.
  have floor := (inv.tick tick running).floor
  have clear : tick.exhausted none = false := rfl
  simp only [fairnessStep, running, advanceTick]
  split
  next at_ => simp [Lowered, Tick.weight, at_, stageWeight]
  next index handler rest at_ =>
    simp only [walkStep, idle, List.length_nil, Nat.lt_irrefl, false_and, if_false, clear,
      Bool.false_eq_true, laneStep, laneDecision]
    split
    · simp only [Lowered, Tick.weight, idle, at_, stageWeight, List.length_cons]
      omega
    · simp only [Lowered, Tick.weight, executeHandler, idle, at_, stageWeight, List.length_cons,
        openCount, List.nil_append, List.countP_singleton, List.countP_nil, List.length_nil,
        decide_true, if_true]
      omega
  next at_ =>
    simp only [drainStep, idle, List.length_nil, Nat.lt_irrefl, if_false]
    split
    · have fewer := length_byStarvation tick.laneDeferred
      simp only [Lowered, Tick.weight, idle, at_, stageWeight]
      omega
    · trivial
  next candidates at_ =>
    cases candidates with
    | nil => trivial
    | cons candidate rest =>
      simp only [floorStep, clear, Bool.false_eq_true, if_false]
      split
      · trivial
      · simp only [Lowered, Tick.weight, executeHandler, idle, at_, stageWeight, List.length_cons,
          openCount, List.nil_append, List.countP_singleton, List.countP_nil, List.length_nil,
          decide_true, if_true]
        omega
  next own candidates at_ =>
    -- On the floor an execution is always waited for.
    simp only [FloorFree, at_] at floor
    exact absurd idle floor.1

theorem FairnessInv.canLower (inv : FairnessInv world) (running : world.tick = some tick) :
    ∃ event, Lowered tick (fairnessStep world event) := by
  -- Something is active and may expire or close, or the tick itself goes on.
  cases busy : tick.active with
  | nil => exact ⟨_, lowered_advance inv running busy⟩
  | cons execution rest =>
    have listed : execution ∈ tick.active := by simp [busy]
    by_cases working : execution.progress = .working
    · exact ⟨_, lowered_expire inv running listed working⟩
    · exact ⟨_, lowered_close inv running listed working⟩

theorem FairnessInv.canReturn (inv : FairnessInv world) (running : world.tick = some tick) :
    ∃ events, (runFairness world events).tick = none := by
  -- By strong induction on what is left to do.
  induction left : tick.weight using Nat.strong_induction_on generalizing world tick with
  | _ weight ih =>
    obtain ⟨event, lowered⟩ := inv.canLower running
    cases after : (fairnessStep world event).tick with
    | none => exact ⟨[event], after⟩
    | some next =>
      simp only [Lowered, after] at lowered
      obtain ⟨events, returns⟩ := ih next.weight (left ▸ lowered) (inv.step event) after rfl
      exact ⟨event :: events, returns⟩

end

/-- Every tick returns with each handler counted once, however promises settle. No two promises of
one key are unsettled at once, and never more than there are slots. -/
theorem handlers_accounted (deferredKeys : KeySet) (inFlight : List Work) (nextId : Nat)
    (events : List FairnessEvent) :
    let world := runFairness (freshFairness deferredKeys inFlight nextId) events
    (∀ summary ∈ world.returned,
      summary.queued = summary.ran + summary.failed + summary.timedOut + summary.skippedByLane +
        summary.deferredByBudget + summary.deferredByInFlight + summary.deferredAfterTimeout) ∧
    world.unsettled.length ≤ postedReviewConcurrency ∧
    (world.unsettled.map Prod.fst).Nodup ∧
    ∃ later, (runFairness world later).tick = none := by
  intro world
  have inv : FairnessInv world := (FairnessInv.fresh deferredKeys inFlight nextId).run events
  refine ⟨inv.returned, inv.shared.few, inv.shared.alone, ?_⟩
  cases running : world.tick with
  | none => exact ⟨[], running⟩
  | some tick => exact inv.canReturn running

end AdversarialReview.Fairness
