import AdversarialReview.Fairness.Scheduler

/-! Handlers put off for want of budget: what is walked before them in the next tick. -/

namespace AdversarialReview.Fairness

inductive Fate where
  | started
  /-- The lane was asked and turned the handler away. -/
  | turnedAway
  | inFlight
  /-- The budget did not suffice to walk so far. -/
  | cut
  deriving DecidableEq

/-- A handler of the walk, and what became of it. -/
structure Visit where
  handler : ReviewHandler
  fate : Fate

def Visit.key (visit : Visit) : String :=
  postedReviewHandlerKey visit.handler

/-- The handler stays queued for the next tick. -/
def Visit.putOff (visit : Visit) : Bool :=
  visit.fate = .inFlight || visit.fate = .cut

def Visit.considered (visit : Visit) : Bool :=
  visit.fate = .started || visit.fate = .turnedAway

def decidedFate (tick : Tick) (handler : ReviewHandler) (decision : LaneDecision) : Fate :=
  if decision.run then .started
  else if postedReviewHandlerMatchesPriority handler tick.options.normalizedPriorityTargets ∧
      ¬ 0 < decision.retryAfterMs then .started
  else .turnedAway

def walkVisits (world : FairnessWorld) (tick : Tick) (handler : ReviewHandler)
    (rest : List (Nat × ReviewHandler)) (nowMs : Reading) (lane : LaneAnswer) : List Visit :=
  let key := postedReviewHandlerKey handler
  if 0 < tick.active.length ∧
      (tick.options.limit ≤ tick.active.length ∨ inFlightFull world key = true) then []
  else if tick.exhausted nowMs then
    ⟨handler, .cut⟩ :: rest.map fun item => ⟨item.2, .cut⟩
  else if inFlightFull world key then [⟨handler, .inFlight⟩]
  else [⟨handler, decidedFate tick handler (laneDecision tick.options lane)⟩]

def visits (world : FairnessWorld) (event : FairnessEvent) : List Visit :=
  match event, world.tick with
  | .advance nowMs lane, some tick =>
    match tick.stage with
    | .walking ((_, handler) :: rest) => walkVisits world tick handler rest nowMs lane
    | _ => []
  | _, _ => []

def tickLog : FairnessWorld → List FairnessEvent → List Visit
  | _, [] => []
  | world, event :: rest => visits world event ++ tickLog (fairnessStep world event) rest

def putOffKeys (log : List Visit) : KeySet :=
  KeySet.empty.addAll ((log.filter Visit.putOff).map Visit.key)

def PutOffBefore (log : List Visit) (key other : String) : Prop :=
  key ∈ (putOffKeys log).keys ∧ (putOffKeys log).keys.idxOf key < (putOffKeys log).keys.idxOf other

theorem KeySet.add_prefix (set : KeySet) (key : String) : set.keys <+: (set.add key).keys := by
  unfold KeySet.add
  split
  · exact List.prefix_refl _
  · exact List.prefix_append _ _

theorem KeySet.mem_add {set : KeySet} {key other : String} :
    other ∈ (set.add key).keys ↔ other ∈ set.keys ∨ other = key := by
  unfold KeySet.add
  split
  next listed =>
    constructor
    · exact Or.inl
    · rintro (there | rfl)
      · exact there
      · exact listed
  next => simp

theorem KeySet.mem_addAll {keys : List String} {set : KeySet} {other : String} :
    other ∈ (set.addAll keys).keys ↔ other ∈ set.keys ∨ other ∈ keys := by
  induction keys generalizing set with
  | nil => simp [KeySet.addAll]
  | cons key rest ih =>
    have step : (set.addAll (key :: rest)) = (set.add key).addAll rest := rfl
    rw [step, ih, KeySet.mem_add, List.mem_cons]
    tauto

theorem KeySet.addAll_append (set : KeySet) (first second : List String) :
    set.addAll (first ++ second) = (set.addAll first).addAll second :=
  List.foldl_append

theorem KeySet.addAll_keeps (set : KeySet) (keys : List String) :
    set.keys <+: (set.addAll keys).keys := by
  induction keys generalizing set with
  | nil => exact List.prefix_refl _
  | cons key rest ih => exact (set.add_prefix key).trans (ih (set.add key))

theorem KeySet.idxOf_addAll {set : KeySet} {front back : List String} {key : String}
    (fresh : key ∉ (set.addAll front).keys) :
    (set.addAll (front ++ key :: back)).keys.idxOf key = (set.addAll front).keys.length := by
  have split : set.addAll (front ++ key :: back) = ((set.addAll front).add key).addAll back := by
    rw [KeySet.addAll_append]
    rfl
  have added : ((set.addAll front).add key).keys = (set.addAll front).keys ++ [key] := by
    simp [KeySet.add, fresh]
  obtain ⟨tail, rest⟩ := ((set.addAll front).add key).addAll_keeps back
  rw [split, ← rest, added, List.append_assoc, List.idxOf_append_of_notMem fresh]
  simp

section

variable {handlers : List ReviewHandler} {deferred : KeySet}

def deferredPlace (deferred : KeySet) (handler : ReviewHandler) : Nat :=
  deferred.keys.idxOf (postedReviewHandlerKey handler)

theorem orderDeferredFirst_sorted (handlers : List ReviewHandler) (deferred : KeySet) :
    (orderDeferredFirst handlers deferred).Pairwise fun first second =>
      deferredPlace deferred first ≤ deferredPlace deferred second := by
  unfold orderDeferredFirst
  rw [List.pairwise_append]
  refine ⟨?_, ?_, ?_⟩
  · rw [List.pairwise_flatMap]
    constructor
    · -- The handlers of one key have one place.
      intro key _
      refine List.pairwise_of_forall_mem_list ?_
      intro first listed second other
      have one : postedReviewHandlerKey first = key := by simpa using (List.mem_filter.mp listed).2
      have two : postedReviewHandlerKey second = key := by simpa using (List.mem_filter.mp other).2
      simp [deferredPlace, one, two]
    · -- The keys come in their own order.
      have ordered : deferred.keys.Pairwise fun first second =>
          deferred.keys.idxOf first < deferred.keys.idxOf second := by
        rw [List.pairwise_iff_getElem]
        intro first second inside within before
        rw [deferred.distinct.idxOf_getElem, deferred.distinct.idxOf_getElem]
        exact before
      refine ordered.imp ?_
      intro key other before first listed second member
      have one : postedReviewHandlerKey first = key := by simpa using (List.mem_filter.mp listed).2
      have two : postedReviewHandlerKey second = other := by
        simpa using (List.mem_filter.mp member).2
      simp only [deferredPlace, one, two]
      omega
  · refine List.pairwise_of_forall_mem_list ?_
    intro first listed second member
    have one : postedReviewHandlerKey first ∉ deferred.keys := by
      simpa using (List.mem_filter.mp listed).2
    have two : postedReviewHandlerKey second ∉ deferred.keys := by
      simpa using (List.mem_filter.mp member).2
    simp [deferredPlace, List.idxOf_eq_length one, List.idxOf_eq_length two]
  · intro first _ second member
    have last : postedReviewHandlerKey second ∉ deferred.keys := by
      simpa using (List.mem_filter.mp member).2
    simp only [deferredPlace, List.idxOf_eq_length last]
    exact List.idxOf_le_length

theorem before_deferred {front back : List ReviewHandler} {handler other : ReviewHandler}
    (split : orderDeferredFirst handlers deferred = front ++ handler :: back)
    (listed : postedReviewHandlerKey handler ∈ deferred.keys) (ahead : other ∈ front) :
    postedReviewHandlerKey other = postedReviewHandlerKey handler ∨
      postedReviewHandlerKey other ∈ deferred.keys ∧
        deferredPlace deferred other < deferredPlace deferred handler := by
  have sorted := orderDeferredFirst_sorted handlers deferred
  rw [split, List.pairwise_append] at sorted
  have before := sorted.2.2 other ahead handler (by simp)
  have inside : deferredPlace deferred handler < deferred.keys.length :=
    List.idxOf_lt_length_of_mem listed
  have known : postedReviewHandlerKey other ∈ deferred.keys :=
    List.idxOf_lt_length_iff.mp (Nat.lt_of_le_of_lt before inside)
  by_cases same : deferredPlace deferred other = deferredPlace deferred handler
  · exact .inl ((List.idxOf_inj known).mp same)
  · exact .inr ⟨known, by omega⟩

theorem orderHandlers_nil (handlers : List ReviewHandler) (deferred : KeySet) :
    orderHandlers handlers deferred [] =
      orderDeferredFirst (firstThose ReviewHandler.mergeReady handlers) deferred := by
  simp [orderHandlers, orderPriorityFirst, firstThose, postedReviewHandlerMatchesPriority]

end

section

def leftToWalk : Stage → List ReviewHandler
  | .walking rest => rest.map Prod.snd
  | _ => []

def CutLast (log : List Visit) : Prop :=
  ∃ walked cut, log = walked ++ cut ∧ (∀ visit ∈ walked, visit.fate ≠ .cut) ∧
    ∀ visit ∈ cut, visit.fate = .cut

structure WalkInv (ordered : List ReviewHandler) (log : List Visit) (world : FairnessWorld) :
    Prop where
  /-- While the tick runs, the log and what is left make up the queue. -/
  running : ∀ tick, world.tick = some tick →
    log.map Visit.handler ++ leftToWalk tick.stage = ordered ∧
      tick.nextDeferred = putOffKeys log
  uncut : ∀ tick rest, world.tick = some tick → tick.stage = .walking rest →
    ∀ visit ∈ log, visit.fate ≠ .cut
  /-- When it has returned, the keys put off are deferred. -/
  returned : world.tick = none →
    log.map Visit.handler = ordered ∧ world.deferredKeys = putOffKeys log
  shape : CutLast log

variable {ordered : List ReviewHandler} {log : List Visit} {world : FairnessWorld} {tick : Tick}

theorem cutLast_of_uncut (uncut : ∀ visit ∈ log, visit.fate ≠ .cut) : CutLast log :=
  ⟨log, [], by simp, uncut, by simp⟩

theorem putOffKeys_append (log more : List Visit) :
    putOffKeys (log ++ more) =
      (putOffKeys log).addAll ((more.filter Visit.putOff).map Visit.key) := by
  simp [putOffKeys, KeySet.addAll_append]

theorem putOffKeys_append_considered {more : List Visit}
    (considered : ∀ visit ∈ more, visit.putOff = false) :
    putOffKeys (log ++ more) = putOffKeys log := by
  have none_ : more.filter Visit.putOff = [] := by
    rw [List.filter_eq_nil_iff]
    intro visit listed
    simp [considered visit listed]
  simp [putOffKeys_append, none_, KeySet.addAll]

section

variable (inv : WalkInv ordered log world)
include inv

section

variable (running : world.tick = some tick)
include running

theorem WalkInv.keep {next : FairnessWorld}
    (same : ∀ later, next.tick = some later → later.nextDeferred = tick.nextDeferred ∧
      (later.stage = tick.stage ∨ leftToWalk tick.stage = [] ∧ leftToWalk later.stage = [] ∧
        ∀ rest, later.stage ≠ .walking rest))
    (finished : next.tick = none → next.deferredKeys = tick.nextDeferred ∧
      leftToWalk tick.stage = []) : WalkInv ordered log next := by
  obtain ⟨queue, books⟩ := inv.running tick running
  refine ⟨?_, ?_, ?_, inv.shape⟩
  · intro later at_
    obtain ⟨keys, stage⟩ := same later at_
    refine ⟨?_, keys.trans books⟩
    rcases stage with stage | ⟨before, after, -⟩
    · rw [stage]
      exact queue
    · rw [after, ← before]
      exact queue
  · intro later rest at_ walking
    obtain ⟨-, stage⟩ := same later at_
    rcases stage with stage | ⟨-, -, other⟩
    · exact inv.uncut tick rest running (stage ▸ walking)
    · exact absurd walking (other rest)
  · intro passed
    obtain ⟨keys, nothing⟩ := finished passed
    rw [nothing, List.append_nil] at queue
    exact ⟨queue, keys.trans books⟩

theorem WalkInv.walk {index : Nat} {handler : ReviewHandler} {rest : List (Nat × ReviewHandler)}
    (at_ : tick.stage = .walking ((index, handler) :: rest)) (nowMs : Reading) (lane : LaneAnswer) :
    WalkInv ordered (log ++ walkVisits world tick handler rest nowMs lane)
      (walkStep world tick index handler rest nowMs lane) := by
  obtain ⟨queue, books⟩ := inv.running tick running
  have uncut := inv.uncut tick _ running at_
  rw [at_] at queue
  simp only [leftToWalk, List.map_cons] at queue
  -- A turn that disposes of one handler and goes on with the rest.
  have goesOn (fate : Fate) (walked : fate ≠ .cut) (next : FairnessWorld)
      (after : ∃ later, next.tick = some later ∧ later.stage = .walking rest ∧
        later.nextDeferred = putOffKeys (log ++ [⟨handler, fate⟩])) :
      WalkInv ordered (log ++ [⟨handler, fate⟩]) next := by
    obtain ⟨later, now, stage, keys⟩ := after
    have still : ∀ visit ∈ log ++ [(⟨handler, fate⟩ : Visit)], visit.fate ≠ .cut := by
      intro visit listed
      rcases List.mem_append.mp listed with old | new
      · exact uncut visit old
      · rw [List.mem_singleton.mp new]
        exact walked
    refine ⟨?_, fun _ _ _ _ => still, ?_, cutLast_of_uncut still⟩
    · intro other running_
      rw [now] at running_
      cases running_
      refine ⟨?_, keys⟩
      rw [stage, leftToWalk, ← queue]
      simp
    · intro passed
      rw [now] at passed
      cases passed
  unfold walkStep walkVisits
  dsimp only
  split_ifs with waits exhausted full
  · simpa using inv
  · -- The budget cuts off this handler and all that follow.
    have cut : ∀ visit ∈ (⟨handler, .cut⟩ : Visit) :: rest.map fun item => ⟨item.2, .cut⟩,
        visit.fate = .cut := by
      intro visit listed
      simp only [List.mem_cons, List.mem_map] at listed
      rcases listed with rfl | ⟨item, -, rfl⟩ <;> rfl
    refine ⟨?_, ?_, ?_, ⟨log, _, rfl, uncut, cut⟩⟩
    · intro later running_
      simp only [deferRest, Option.some.injEq] at running_
      subst running_
      refine ⟨?_, ?_⟩
      · simp [leftToWalk, ← queue, Function.comp_def]
      · have all : ((⟨handler, .cut⟩ : Visit) :: rest.map fun item =>
            (⟨item.2, .cut⟩ : Visit)).filter Visit.putOff = (⟨handler, .cut⟩ : Visit) ::
              rest.map fun item => ⟨item.2, .cut⟩ := by
          rw [List.filter_eq_self]
          intro visit listed
          simp [Visit.putOff, cut visit listed]
        rw [putOffKeys_append, all, books]
        simp [Visit.key, Function.comp_def]
    · intro later others running_ walking
      simp only [deferRest, Option.some.injEq] at running_
      subst running_
      cases walking
    · intro passed
      simp [deferRest] at passed
  · refine goesOn .inFlight (by decide) _ ⟨_, rfl, rfl, ?_⟩
    rw [putOffKeys_append, books]
    simp [Visit.putOff, Visit.key, KeySet.addAll]
  · have considered (fate : Fate) (chosen : fate = .started ∨ fate = .turnedAway) :
        tick.nextDeferred = putOffKeys (log ++ [⟨handler, fate⟩]) := by
      rw [putOffKeys_append_considered, books]
      intro visit listed
      rw [List.mem_singleton.mp listed]
      rcases chosen with rfl | rfl <;> rfl
    unfold laneStep decidedFate
    dsimp only
    split_ifs with runs bypass
    · exact goesOn .started (by decide) _ ⟨_, rfl, rfl, considered _ (.inl rfl)⟩
    · exact goesOn .started (by decide) _ ⟨_, rfl, rfl, considered _ (.inl rfl)⟩
    · exact goesOn .turnedAway (by decide) _ ⟨_, rfl, rfl, considered _ (.inr rfl)⟩

theorem WalkInv.finish (walked : leftToWalk tick.stage = []) {last : Tick}
    (same : last.nextDeferred = tick.nextDeferred) : WalkInv ordered log (finishTick world last) :=
  inv.keep running (fun later at_ => by cases at_) fun _ => ⟨same, walked⟩

theorem WalkInv.stay {next : FairnessWorld} {later : Tick} (at_ : next.tick = some later)
    (same : later.nextDeferred = tick.nextDeferred)
    (stage : later.stage = tick.stage ∨ leftToWalk tick.stage = [] ∧
      leftToWalk later.stage = [] ∧ ∀ rest, later.stage ≠ .walking rest) :
    WalkInv ordered log next := by
  refine inv.keep running ?_ ?_
  · intro other now
    rw [at_] at now
    cases now
    exact ⟨same, stage⟩
  · intro passed
    rw [at_] at passed
    cases passed

theorem WalkInv.advance (nowMs : Reading) (lane : LaneAnswer) :
    WalkInv ordered (log ++ visits world (.advance nowMs lane))
      (advanceTick world tick nowMs lane) := by
  simp only [visits, running, advanceTick]
  cases at_ : tick.stage with
  | walking rest =>
    cases rest with
    | nil =>
      simp only [List.append_nil]
      exact inv.stay running rfl rfl (.inr ⟨by simp [at_, leftToWalk], rfl, by simp⟩)
    | cons first rest => exact inv.walk running at_ nowMs lane
  | draining =>
    simp only [List.append_nil, drainStep]
    split_ifs
    · exact inv
    · exact inv.stay running rfl rfl (.inr ⟨by simp [at_, leftToWalk], rfl, by simp⟩)
    · exact inv.finish running (by simp [at_, leftToWalk]) rfl
  | floor candidates =>
    simp only [List.append_nil]
    cases candidates with
    | nil => exact inv.finish running (by simp [at_, leftToWalk]) rfl
    | cons candidate rest =>
      simp only [floorStep]
      split_ifs
      · exact inv.finish running (by simp [at_, leftToWalk]) rfl
      · exact inv.finish running (by simp [at_, leftToWalk]) rfl
      · exact inv.stay running rfl rfl (.inr ⟨by simp [at_, leftToWalk], rfl, by simp⟩)
  | admitted id candidates =>
    simp only [List.append_nil]
    exact inv

theorem WalkInv.close
    (id : Nat) (nowMs : Reading) : WalkInv ordered log (closeStep world tick id nowMs) := by
  unfold closeStep
  split
  · dsimp only
    split
    next own candidates at_ =>
      split_ifs
      · exact inv.finish running (by simp [at_, leftToWalk]) rfl
      · exact inv.stay running rfl rfl (.inr ⟨by simp [at_, leftToWalk], rfl, by simp⟩)
    next => exact inv.stay running rfl rfl (.inl rfl)
  · exact inv

theorem WalkInv.step (event : FairnessEvent) :
    WalkInv ordered (log ++ visits world event) (fairnessStep world event) := by
  cases event with
  | begin options nowMs => simpa [visits, fairnessStep, running] using inv
  | advance nowMs lane =>
    simp only [fairnessStep, running]
    exact inv.advance running nowMs lane
  | settle id rejected =>
    simp only [visits, List.append_nil, fairnessStep]
    split_ifs
    · exact inv.stay running running rfl (.inl rfl)
    · exact inv
  | release id =>
    simp only [visits, List.append_nil, fairnessStep]
    split_ifs
    · exact inv
    · exact inv.stay running running rfl (.inl rfl)
  | answer id =>
    simp only [visits, List.append_nil, fairnessStep, running, answerStep]
    split_ifs
    · exact inv
    · split
      · exact inv
      · exact inv.stay running rfl rfl (.inl rfl)
  | expire id =>
    simp only [visits, List.append_nil, fairnessStep, running, expireStep]
    split_ifs
    · exact inv
    · exact inv.stay running rfl rfl (.inl rfl)
  | close id nowMs =>
    simp only [visits, List.append_nil, fairnessStep, running]
    exact inv.close running id nowMs

end

end

end

section

def TickEnds : FairnessWorld → List FairnessEvent → Prop
  | world, [] => world.tick.isNone = true
  | world, event :: rest => world.tick.isSome = true ∧ TickEnds (fairnessStep world event) rest

instance decidableTickEnds : (world : FairnessWorld) → (events : List FairnessEvent) →
    Decidable (TickEnds world events)
  | world, [] => inferInstanceAs (Decidable (world.tick.isNone = true))
  | world, event :: rest =>
    have := decidableTickEnds (fairnessStep world event) rest
    inferInstanceAs (Decidable (_ ∧ _))

def FairnessEvent.begins : FairnessEvent → Bool
  | .begin _ _ => true
  | _ => false

/-- A tick, and what happens after it and before the next one. -/
structure TickRun where
  options : TickOptions
  nowMs : Reading := none
  events : List FairnessEvent
  between : List FairnessEvent := []

namespace TickRun

def opened (run : TickRun) (world : FairnessWorld) : FairnessWorld :=
  fairnessStep world (.begin run.options run.nowMs)

/-- The handlers of the walk, and what became of them. -/
def log (run : TickRun) (world : FairnessWorld) : List Visit :=
  tickLog (run.opened world) run.events

def after (run : TickRun) (world : FairnessWorld) : FairnessWorld :=
  runFairness (runFairness (run.opened world) run.events) run.between

def Whole (run : TickRun) (world : FairnessWorld) : Prop :=
  world.tick.isNone = true ∧ TickEnds (run.opened world) run.events ∧
    ∀ event ∈ run.between, event.begins = false

end TickRun

def afterTicks (world : FairnessWorld) (ticks : List TickRun) : FairnessWorld :=
  ticks.foldl (fun world run => run.after world) world

def Ticks : FairnessWorld → List TickRun → Prop
  | _, [] => True
  | world, run :: rest => run.Whole world ∧ Ticks (run.after world) rest

variable {world : FairnessWorld} {run : TickRun}

theorem WalkInv.opened (idle : world.tick = none) :
    WalkInv (orderHandlers run.options.handlers world.deferredKeys
      run.options.normalizedPriorityTargets) [] (run.opened world) := by
  have nothing : CutLast [] := cutLast_of_uncut (by simp)
  simp only [TickRun.opened, fairnessStep, idle, beginTick]
  split
  next none_ =>
    have empty : run.options.handlers = [] := by simpa using none_
    have order := orderHandlers_perm run.options.handlers world.deferredKeys
      run.options.normalizedPriorityTargets
    rw [empty] at order ⊢
    refine ⟨?_, ?_, ?_, nothing⟩
    · intro tick running
      cases running
    · intro tick rest running
      cases running
    · intro _
      exact ⟨order.eq_nil.symm, rfl⟩
  next =>
    refine ⟨?_, ?_, ?_, nothing⟩
    · intro tick running
      cases running
      refine ⟨?_, rfl⟩
      simp [leftToWalk, Function.comp_def]
    · intro tick rest _ _
      simp
    · intro passed
      cases passed

theorem WalkInv.all {ordered : List ReviewHandler} {log : List Visit} {events : List FairnessEvent}
    (inv : WalkInv ordered log world) (ends : TickEnds world events) :
    WalkInv ordered (log ++ tickLog world events) (runFairness world events) ∧
      (runFairness world events).tick = none := by
  induction events generalizing world log with
  | nil =>
    simp only [tickLog, List.append_nil]
    exact ⟨inv, by simpa [TickEnds, runFairness] using ends⟩
  | cons event rest ih =>
    obtain ⟨tick, running⟩ := Option.isSome_iff_exists.mp ends.1
    have next := ih (inv.step running event) ends.2
    rw [List.append_assoc] at next
    exact next

theorem between_kept {events : List FairnessEvent} (idle : world.tick = none)
    (begun : ∀ event ∈ events, event.begins = false) :
    (runFairness world events).tick = none ∧
      (runFairness world events).deferredKeys = world.deferredKeys := by
  induction events generalizing world with
  | nil => exact ⟨idle, rfl⟩
  | cons event rest ih =>
    have step : (fairnessStep world event).tick = none ∧
        (fairnessStep world event).deferredKeys = world.deferredKeys := by
      have first := begun event (by simp)
      cases event with
      | begin options nowMs => cases first
      | settle id rejected =>
        simp only [fairnessStep]
        split_ifs <;> exact ⟨idle, rfl⟩
      | release id =>
        simp only [fairnessStep]
        split_ifs <;> exact ⟨idle, rfl⟩
      | _ => simp [fairnessStep, idle]
    have later := ih step.1 fun other listed => begun other (List.mem_cons_of_mem _ listed)
    exact ⟨later.1, later.2.trans step.2⟩

theorem TickRun.Whole.walked (whole : run.Whole world) :
    (run.log world).map Visit.handler = orderHandlers run.options.handlers world.deferredKeys
        run.options.normalizedPriorityTargets ∧
      CutLast (run.log world) ∧ (run.after world).tick = none ∧
      (run.after world).deferredKeys = putOffKeys (run.log world) := by
  obtain ⟨idle, ends, between⟩ := whole
  have opened := @WalkInv.opened world run (by simpa using idle)
  obtain ⟨inv, passed⟩ := opened.all ends
  rw [List.nil_append] at inv
  obtain ⟨queue, keys⟩ := inv.returned passed
  obtain ⟨stays, kept⟩ := between_kept passed between
  exact ⟨queue, inv.shape, stays, kept.trans keys⟩

theorem Ticks.append {first second : List TickRun} (ticks : Ticks world (first ++ second)) :
    Ticks (afterTicks world first) second := by
  induction first generalizing world with
  | nil => exact ticks
  | cons run rest ih => exact ih ticks.2

end

section

variable {world : FairnessWorld} {tick next : TickRun} {key : String}

theorem mem_putOffKeys {log : List Visit} :
    key ∈ (putOffKeys log).keys ↔ ∃ visit ∈ log, visit.putOff = true ∧ visit.key = key := by
  simp [putOffKeys, KeySet.mem_addAll, KeySet.empty, and_assoc]

theorem walked_before (whole : tick.Whole world) (later : next.Whole (tick.after world))
    (wakeless : next.options.priorityTargets = [])
    (deferred : key ∈ (putOffKeys (tick.log world)).keys) {ahead rest : List Visit} {visit : Visit}
    (split : next.log (tick.after world) = ahead ++ visit :: rest) (own : visit.key = key)
    {other : Visit} (before : other ∈ ahead) :
    other.key = key ∨ PutOffBefore (tick.log world) other.key key := by
  obtain ⟨-, -, -, keys⟩ := whole.walked
  obtain ⟨queue, -⟩ := later.walked
  have none_ : next.options.normalizedPriorityTargets = [] := by
    simp [TickOptions.normalizedPriorityTargets, wakeless, normalizePostedReviewPriorityTargets]
  rw [none_, orderHandlers_nil, keys, split, List.map_append, List.map_cons] at queue
  have listed : postedReviewHandlerKey visit.handler ∈ (putOffKeys (tick.log world)).keys := by
    rw [← own] at deferred
    exact deferred
  have first := before_deferred queue.symm listed (List.mem_map_of_mem before)
  rw [← own]
  exact first

theorem exists_visit (whole : tick.Whole world)
    (queued : ∃ handler ∈ tick.options.handlers, postedReviewHandlerKey handler = key) :
    ∃ visit ∈ tick.log world, visit.key = key := by
  obtain ⟨handler, listed, own⟩ := queued
  obtain ⟨queue, -⟩ := whole.walked
  have walked := (orderHandlers_perm tick.options.handlers world.deferredKeys
    tick.options.normalizedPriorityTargets).mem_iff.mpr listed
  rw [← queue] at walked
  obtain ⟨visit, member, rfl⟩ := List.mem_map.mp walked
  exact ⟨visit, member, own⟩

theorem visit_unique (whole : tick.Whole world) (once : (tick.options.handlers.filter fun handler =>
      postedReviewHandlerKey handler = key).length ≤ 1)
    {first second : Visit} (listed : first ∈ tick.log world) (other : second ∈ tick.log world)
    (own : first.key = key) (same : second.key = key) : first = second := by
  obtain ⟨queue, -⟩ := whole.walked
  have perm := orderHandlers_perm tick.options.handlers world.deferredKeys
    tick.options.normalizedPriorityTargets
  rw [← queue] at perm
  have few : ((tick.log world).filter fun visit => visit.key = key).length ≤ 1 := by
    have mapped := (perm.filter fun handler => postedReviewHandlerKey handler = key).length_eq
    rw [List.filter_map, List.length_map] at mapped
    exact le_trans (le_of_eq mapped) once
  have one : first ∈ (tick.log world).filter fun visit => visit.key = key :=
    List.mem_filter.mpr ⟨listed, by simpa using own⟩
  have two : second ∈ (tick.log world).filter fun visit => visit.key = key :=
    List.mem_filter.mpr ⟨other, by simpa using same⟩
  match list : (tick.log world).filter fun visit => visit.key = key with
  | [] => rw [list] at one; cases one
  | [only] =>
    rw [list, List.mem_singleton] at one two
    exact one.trans two.symm
  | _ :: _ :: _ => rw [list] at few; simp at few

theorem idxOf_putOffKeys {log front back : List Visit} {visit : Visit}
    (split : log = front ++ visit :: back) (putOff : visit.putOff = true)
    (fresh : ∀ other ∈ front, other.key ≠ visit.key) :
    (putOffKeys log).keys.idxOf visit.key = (putOffKeys front).keys.length := by
  have new : visit.key ∉ (putOffKeys front).keys := by
    intro listed
    obtain ⟨other, member, -, same⟩ := mem_putOffKeys.1 listed
    exact fresh other member same
  have keys : putOffKeys log = KeySet.empty.addAll ((front.filter Visit.putOff).map Visit.key ++
      visit.key :: (back.filter Visit.putOff).map Visit.key) := by
    rw [split, putOffKeys, List.filter_append, List.filter_cons_of_pos putOff, List.map_append,
      List.map_cons]
  rw [keys]
  exact KeySet.idxOf_addAll new

theorem mem_take_idxOf {keys : List String} {other : String} (listed : other ∈ keys)
    (before : keys.idxOf other < keys.idxOf key) : other ∈ keys.take (keys.idxOf key) := by
  have inside : keys.idxOf other < (keys.take (keys.idxOf key)).length := by
    rw [List.length_take]
    have bound := List.idxOf_lt_length_of_mem listed
    omega
  have found : (keys.take (keys.idxOf key))[keys.idxOf other] = other := by
    rw [List.getElem_take]
    exact List.getElem_idxOf _
  rw [← found]
  exact List.getElem_mem inside

/-- A tick that considers a handler moves every key up that it does not walk. -/
theorem moved_up (whole : tick.Whole world) (later : next.Whole (tick.after world))
    (wakeless : next.options.priorityTargets = [])
    (deferred : key ∈ (putOffKeys (tick.log world)).keys)
    (queued : ∃ handler ∈ next.options.handlers, postedReviewHandlerKey handler = key)
    (once : ∀ other, PutOffBefore (tick.log world) other key →
      (next.options.handlers.filter fun handler =>
        postedReviewHandlerKey handler = other).length ≤ 1)
    (considered : ∃ visit ∈ next.log (tick.after world), visit.considered = true)
    (unwalked : ∀ visit ∈ next.log (tick.after world), visit.key = key → visit.fate = .cut) :
    (putOffKeys (next.log (tick.after world))).keys.idxOf key <
      (putOffKeys (tick.log world)).keys.idxOf key := by
  obtain ⟨-, ⟨walked, cut, shape, uncut, cutOff⟩, -⟩ := later.walked
  -- The handler's first visit is among those that the budget cut off.
  obtain ⟨own, listed, same⟩ := exists_visit later queued
  have away : ∀ visit ∈ walked, visit.key ≠ key := by
    intro visit member named
    have fate := unwalked visit (by rw [shape]; exact List.mem_append_left _ member) named
    exact uncut visit member fate
  have inCut : ∃ visit ∈ cut, visit.key = key := by
    rw [shape] at listed
    rcases List.mem_append.mp listed with early | late
    · exact absurd same (away own early)
    · exact ⟨own, late, same⟩
  obtain ⟨first, front, back, found, split, fresh⟩ :
      ∃ first front back, first.key = key ∧ cut = front ++ first :: back ∧
        ∀ visit ∈ front, visit.key ≠ key := by
    obtain ⟨visit, member, named⟩ := inCut
    have some_ : (cut.find? fun visit => visit.key = key).isSome := by
      rw [List.find?_isSome]
      exact ⟨visit, member, by simpa using named⟩
    obtain ⟨first, found⟩ := Option.isSome_iff_exists.mp some_
    obtain ⟨named, front, back, split, fresh⟩ := List.find?_eq_some_iff_append.mp found
    exact ⟨first, front, back, by simpa using named, split, fun visit member => by
      simpa using fresh visit member⟩
  have whole_ : next.log (tick.after world) = (walked ++ front) ++ first :: back := by
    rw [shape, split, List.append_assoc]
  have place := idxOf_putOffKeys whole_ (by
      simp [Visit.putOff, cutOff first (by rw [split]; simp)]) (by
      intro other member
      rw [found]
      rcases List.mem_append.mp member with early | late
      · exact away other early
      · exact fresh other late)
  rw [found] at place
  -- A handler that was considered is ahead, and none other has its key.
  obtain ⟨looked, member, taken⟩ := considered
  have early : looked ∈ walked := by
    rw [shape] at member
    rcases List.mem_append.mp member with early | late
    · exact early
    · simp [Visit.considered, cutOff looked late] at taken
  have ahead := fun other (inFront : other ∈ walked ++ front) =>
    walked_before whole later wakeless deferred whole_ found inFront
  have before : PutOffBefore (tick.log world) looked.key key :=
    (ahead looked (List.mem_append_left _ early)).resolve_left (away looked early)
  have spent : looked.key ∉ (putOffKeys (walked ++ front)).keys := by
    intro still
    obtain ⟨other, inFront, putOff, named⟩ := mem_putOffKeys.1 still
    have one : other = looked := visit_unique later (once _ before)
      (by rw [whole_]; exact List.mem_append_left _ inFront) member named rfl
    rw [one] at putOff
    cases fate : looked.fate <;> simp [Visit.putOff, Visit.considered, fate] at putOff taken
  -- So what is put off ahead lies among the other keys deferred before.
  have inside : (putOffKeys (walked ++ front)).keys ⊆
      ((putOffKeys (tick.log world)).keys.take
        ((putOffKeys (tick.log world)).keys.idxOf key)).erase looked.key := by
    intro other listed
    have apart : other ≠ looked.key := fun equal => spent (equal ▸ listed)
    obtain ⟨visit, inFront, -, rfl⟩ := mem_putOffKeys.1 listed
    have foreign : visit.key ≠ key := by
      rcases List.mem_append.mp inFront with early | late
      · exact away visit early
      · exact fresh visit late
    obtain ⟨known, less⟩ := (ahead visit inFront).resolve_left foreign
    exact (List.mem_erase_of_ne apart).mpr (mem_take_idxOf known less)
  have fewer := (List.subperm_of_subset (putOffKeys (walked ++ front)).distinct inside).length_le
  rw [List.length_erase_of_mem (mem_take_idxOf before.1 before.2), List.length_take] at fewer
  have some_ : 0 < (putOffKeys (tick.log world)).keys.idxOf key := by
    have less := before.2
    omega
  rw [place]
  omega

/--
In any sequence of ticks, a key that the budget cut off is overtaken in the next tick by none but
the keys deferred before it, and moves up or is walked where those are queued once.
-/
theorem budget_deferred_move_up {world : FairnessWorld} {front back : List TickRun}
    {tick next : TickRun} {key : String} (ticks : Ticks world (front ++ tick :: next :: back))
    (wakeless : next.options.priorityTargets = []) :
    let start := afterTicks world front
    let log := tick.log start
    let nextLog := next.log (tick.after start)
    (∃ visit ∈ log, visit.key = key ∧ visit.fate = .cut) →
    (∃ handler ∈ next.options.handlers, postedReviewHandlerKey handler = key) →
    (∀ ahead visit rest, nextLog = ahead ++ visit :: rest → visit.key = key →
      ∀ other ∈ ahead, other.key = key ∨ PutOffBefore log other.key key) ∧
    ((∀ other, PutOffBefore log other key → (next.options.handlers.filter fun handler =>
        postedReviewHandlerKey handler = other).length ≤ 1) →
      (∃ visit ∈ nextLog, visit.considered = true) →
      (∃ visit ∈ nextLog, visit.key = key ∧ visit.fate ≠ .cut) ∨
        (putOffKeys nextLog).keys.idxOf key < (putOffKeys log).keys.idxOf key) := by
  intro start log nextLog cut queued
  obtain ⟨whole, later, -⟩ := ticks.append
  have deferred : key ∈ (putOffKeys log).keys := by
    obtain ⟨visit, listed, own, fate⟩ := cut
    exact mem_putOffKeys.2 ⟨visit, listed, by simp [Visit.putOff, fate], own⟩
  constructor
  · intro ahead visit rest split own other before
    exact walked_before whole later wakeless deferred split own before
  · intro once considered
    by_cases walked : ∃ visit ∈ nextLog, visit.key = key ∧ visit.fate ≠ .cut
    · exact .inl walked
    · refine .inr (moved_up whole later wakeless deferred queued once considered ?_)
      intro visit listed own
      by_contra other
      exact walked ⟨visit, listed, own, other⟩

def spentTick : TickRun where
  options := { handlers := [{ repoPath := "own/repo", prNumber := 1 },
    { repoPath := "own/repo", prNumber := 2 }] }
  nowMs := some 0
  events := [.advance (some 600000) .threw, .advance none .threw]

def oneHandlerTick (handlers : List ReviewHandler) : TickRun where
  options := { handlers }
  nowMs := some 0
  events := [.advance (some 0) .threw, .settle 0 false, .release 0, .answer 0, .close 0 (some 0),
    .advance (some 600000) .threw, .advance none .threw]

theorem spentTick_followed (handlers : List ReviewHandler)
    (ends : TickEnds ((oneHandlerTick handlers).opened (spentTick.after {}))
      (oneHandlerTick handlers).events) :
    Ticks {} ([] ++ spentTick :: oneHandlerTick handlers :: []) :=
  ⟨⟨rfl, by decide +kernel, by simp [spentTick]⟩,
    ⟨by decide +kernel, ends, by simp [oneHandlerTick]⟩, trivial⟩

/-- With each key queued once the second handler moves up. -/
theorem budget_deferred_move_up_once :
    let handlers : List ReviewHandler :=
      [{ repoPath := "own/repo", prNumber := 1 }, { repoPath := "own/repo", prNumber := 2 }]
    let log := spentTick.log {}
    let nextLog := (oneHandlerTick handlers).log (spentTick.after {})
    (∃ visit ∈ nextLog, visit.key = "own/repo#2" ∧ visit.fate ≠ .cut) ∨
      (putOffKeys nextLog).keys.idxOf "own/repo#2" < (putOffKeys log).keys.idxOf "own/repo#2" := by
  intro handlers log nextLog
  have moves := budget_deferred_move_up (spentTick_followed handlers (by decide +kernel)) rfl
    (by decide +kernel : ∃ visit ∈ log, visit.key = "own/repo#2" ∧ visit.fate = .cut)
    (by decide)
  refine moves.2 ?_ (by decide +kernel)
  intro other before
  obtain ⟨known, -⟩ := before
  have keys : (putOffKeys (spentTick.log {})).keys = ["own/repo#1", "own/repo#2"] := by
    decide +kernel
  have listed : other ∈ ["own/repo#1", "own/repo#2"] := keys ▸ known
  simp only [List.mem_cons, List.not_mem_nil, or_false] at listed
  rcases listed with rfl | rfl <;> decide

/-- Where the first key is queued twice, its second handler keeps the place of both. -/
theorem budget_deferred_stay_behind :
    let handlers : List ReviewHandler := [{ repoPath := "own/repo", prNumber := 1 },
      { repoPath := "own/repo", prNumber := 1 }, { repoPath := "own/repo", prNumber := 2 }]
    let log := spentTick.log {}
    let nextLog := (oneHandlerTick handlers).log (spentTick.after {})
    Ticks {} ([] ++ spentTick :: oneHandlerTick handlers :: []) ∧
      (∃ visit ∈ log, visit.key = "own/repo#2" ∧ visit.fate = .cut) ∧
      (∃ visit ∈ nextLog, visit.considered = true) ∧
      ¬ ((∃ visit ∈ nextLog, visit.key = "own/repo#2" ∧ visit.fate ≠ .cut) ∨
        (putOffKeys nextLog).keys.idxOf "own/repo#2" <
          (putOffKeys log).keys.idxOf "own/repo#2") := by
  intro handlers log nextLog
  exact ⟨spentTick_followed handlers (by decide +kernel), by decide +kernel, by decide +kernel,
    by decide +kernel⟩

end

end AdversarialReview.Fairness
