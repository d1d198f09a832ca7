import Mathlib.Data.List.Perm.Basic
import AdversarialReview.Library.JsText

/-! The wakes of a review by processes on its files, and when each is settled once. -/

namespace AdversarialReview.FollowUp

def rereviewWakeResettleGuardMs : Int := 10 * 60 * 1000

inductive SettledWakeState where
  | completed
  | skipped
  deriving DecidableEq

inductive WakeState where
  | requested
  | claimed
  | settled (state : SettledWakeState)

/-- A wake as its file holds it; times are in milliseconds, absent where they do not parse. -/
structure WakeRecord where
  requestId : String
  headSha : String := ""
  reason : String
  requestedAt : Option Int
  state : WakeState := .requested
  claimedAt : Option Int := none
  claimCount : Nat := 0
  holdReason : Option String := none
  holdCount : Nat := 0
  lastObservedAt : Option Int := none
  settledAt : Option Int := none
  settledReason : Option String := none
  watcherWake : Option Bool := none

structure WakeReviewRow where
  prState : String := ""
  reviewStatus : String := ""
  rereviewReason : String := ""
  reviewerHeadSha : String := ""
  revisionRef : String := ""
  postedAt : Option Int := none

structure WakeLook where
  /-- The row, absent where there is none; a sweep may fail to read it. -/
  reviewRow : Option WakeReviewRow := none
  readable : Bool := true
  currentHeadSha : String := ""
  subjectTerminal : Bool := false
  at_ : Int := 0
  maxAgeMs : Int := 24 * 60 * 60 * 1000

inductive WakeOutcome where
  | settle (state : SettledWakeState) (reason : String)
  | hold (reason : String)

def postedSince (record : WakeRecord) (row : WakeReviewRow) : Bool :=
  let postedHead := jsTrim (if row.reviewerHeadSha = "" then row.revisionRef
    else row.reviewerHeadSha)
  let requestedHead := jsTrim record.headSha
  let headMatches := requestedHead = "" || postedHead = "" || postedHead = requestedHead
  headMatches && row.postedAt.any fun posted => record.requestedAt.any fun requested =>
    requested ≤ posted

def holdOutcome (record : WakeRecord) (reviewStatus : String) (look : WakeLook) : WakeOutcome :=
  let hold :=
    if reviewStatus = "ci-blocked" then "ci-blocked"
    else "awaiting-admission:" ++ (if reviewStatus = "" then "unknown" else reviewStatus)
  if record.requestedAt.any fun requested => look.maxAgeMs < look.at_ - requested then
    .settle .skipped ("wake-expired:" ++ hold)
  else .hold hold

def hammerOwned (record : WakeRecord) (row : WakeReviewRow) (observedHead : String) : Bool :=
  record.reason = "remediation-closeout" && jsTrim row.reviewStatus = "posted" &&
    row.rereviewReason = "system-review-ceiling-closure" && observedHead ≠ "" &&
    row.reviewerHeadSha ≠ "" && row.reviewerHeadSha ≠ observedHead

def classifyRereviewWakeOutcome (record : WakeRecord) (look : WakeLook) : WakeOutcome :=
  let prState := jsTrim (look.reviewRow.elim "" WakeReviewRow.prState)
  let requestedHead := jsTrim record.headSha
  let observedHead := jsTrim look.currentHeadSha
  if look.subjectTerminal ∨ prState = "merged" ∨ prState = "closed" then
    .settle .skipped "pr-terminal"
  else
    match look.reviewRow with
    | none => .settle .skipped "review-row-missing"
    | some row =>
      let reviewStatus := jsTrim row.reviewStatus
      if requestedHead ≠ "" ∧ observedHead ≠ "" ∧ requestedHead ≠ observedHead then
        .settle .skipped "head-superseded"
      else if hammerOwned record row observedHead then
        .settle .skipped "review-ceiling-hammer-owned"
      else if reviewStatus ∈ ["malformed", "unroutable-bot-author", "argus-security-queued"] then
        .settle .skipped ("review-status-terminal:" ++ reviewStatus)
      else if reviewStatus ∈ ["pending", "reviewing"] then
        .settle .completed ("rereview-admitted:" ++ reviewStatus)
      else if reviewStatus = "posted" ∧ postedSince record row = true then
        .settle .completed "rereview-posted"
      else holdOutcome record reviewStatus look

def claimWake (record : WakeRecord) (at_ : Int) : WakeRecord :=
  { record with
    state := .claimed
    claimCount := record.claimCount + 1
    claimedAt := record.claimedAt <|> some at_
    lastObservedAt := some at_ }

/-- The wake as it is kept for a later look: by the admission lane, or by the sweep. -/
def heldWake (sweeps : Bool) (record : WakeRecord) (reason : String) (at_ : Int) : WakeRecord :=
  if sweeps then { record with holdReason := some reason, lastObservedAt := some at_ }
  else
    { record with
      state := .claimed, holdReason := some reason, holdCount := record.holdCount + 1 }

def settledWake (record : WakeRecord) (state : SettledWakeState) (reason : String) (at_ : Int) :
    WakeRecord :=
  { record with
    state := .settled state
    settledAt := some at_
    settledReason := some reason
    lastObservedAt := some at_ }

def guardBlocks (requestedMs : Int) (prior : Option WakeRecord) : Bool :=
  prior.any fun record => record.settledAt.any fun settledMs =>
    requestedMs - settledMs ≤ rereviewWakeResettleGuardMs

structure WakeSettlement where
  requestId : String
  state : SettledWakeState
  at_ : Int
  deriving DecidableEq

structure AcceptedWake where
  requestId : String
  requestedMs : Int
  settledBefore : List WakeSettlement

/-- Where a process stands: between two steps on the files of the key. -/
inductive WakeStage where
  | idle
  /-- A request looks for a settled record; `seen` are the settlements when it began. -/
  | guarding (record : WakeRecord) (requestedMs : Int) (state : SettledWakeState)
      (seen : List WakeSettlement)
  | creating (record : WakeRecord) (requestedMs : Int) (seen : List WakeSettlement)
  | annotating (record : WakeRecord)
  | listed (sweeps : Bool)
  | observing (record : WakeRecord) (sweeps : Bool)
  | holding (record : WakeRecord)
  | settling (record : WakeRecord) (state : SettledWakeState) (reason : String) (at_ : Int)
  | enriching (record : WakeRecord) (state : SettledWakeState)

/-- The files of one key, where the processes stand, and what they have returned so far. -/
structure WakeWorld where
  pending : Option WakeRecord := none
  settled : SettledWakeState → Option WakeRecord := fun _ => none
  stages : Nat → WakeStage := fun _ => .idle
  /-- The request ids that were drawn. -/
  drawn : List String := []
  accepted : List AcceptedWake := []
  settlements : List WakeSettlement := []

/-- What an idle process begins. -/
inductive WakeStart where
  | requestRereviewWake (record : WakeRecord) (requestedMs : Int)
  | consumeRereviewWakes
  | sweepRereviewWakeQueue

/-- A turn of a process, with what it is answered from outside. -/
structure WakeMove where
  process : Nat
  starts : WakeStart := .sweepRereviewWakeQueue
  look : WakeLook := {}
  delivered : Bool := true

namespace WakeWorld

variable (world : WakeWorld)

def goesOn (process : Nat) (stage : WakeStage) : WakeWorld :=
  { world with stages := Function.update world.stages process stage }

/-- The first step of a call. -/
def start (move : WakeMove) : WakeWorld :=
  match move.starts with
  | .requestRereviewWake record requestedMs =>
    -- A request id is drawn at random, and no two are the same.
    if record.requestId ∈ world.drawn then world
    else
      let fresh : WakeRecord :=
        { requestId := record.requestId, headSha := record.headSha, reason := record.reason
          requestedAt := record.requestedAt }
      { world with drawn := record.requestId :: world.drawn }.goesOn move.process
        (.guarding fresh requestedMs .completed world.settlements)
  | .consumeRereviewWakes =>
    if world.pending.isSome then world.goesOn move.process (.listed false) else world
  | .sweepRereviewWakeQueue =>
    if world.pending.isSome then world.goesOn move.process (.listed true) else world

def settle (process : Nat) (record : WakeRecord) (state : SettledWakeState) (reason : String)
    (at_ : Int) : WakeWorld :=
  match world.pending with
  | none => world.goesOn process .idle
  | some moved =>
    { world with
      pending := none
      settled := Function.update world.settled state (some moved)
      settlements := ⟨record.requestId, state, at_⟩ :: world.settlements }.goesOn process
        (.enriching (settledWake record state reason at_) state)

def observe (process : Nat) (record : WakeRecord) (sweeps : Bool) (look : WakeLook) :
    WakeWorld :=
  if sweeps && !look.readable then world.goesOn process .idle
  else
    let observed := if sweeps then record else claimWake record look.at_
    match classifyRereviewWakeOutcome observed look with
    | .hold reason => world.goesOn process (.holding (heldWake sweeps observed reason look.at_))
    | .settle state reason => world.goesOn process (.settling observed state reason look.at_)

def step (move : WakeMove) : WakeWorld :=
  match world.stages move.process with
  | .idle => world.start move
  | .guarding record requestedMs state seen =>
    if guardBlocks requestedMs (world.settled state) then world.goesOn move.process .idle
    else
      match state with
      | .completed => world.goesOn move.process (.guarding record requestedMs .skipped seen)
      | .skipped => world.goesOn move.process (.creating record requestedMs seen)
  | .creating record requestedMs _ =>
    match world.pending with
    | some _ => world.goesOn move.process .idle
    | none =>
      { world with
        pending := some record
        accepted := ⟨record.requestId, requestedMs, world.settlements⟩ :: world.accepted }.goesOn
          move.process (.annotating record)
  | .annotating record =>
    -- The write does not ask whether the record is still there.
    { world with pending := some { record with watcherWake := some move.delivered } }.goesOn
      move.process .idle
  | .listed sweeps =>
    match world.pending with
    | none => world.goesOn move.process .idle
    | some record => world.goesOn move.process (.observing record sweeps)
  | .observing record sweeps => world.observe move.process record sweeps move.look
  | .holding record => { world with pending := some record }.goesOn move.process .idle
  | .settling record state reason at_ => world.settle move.process record state reason at_
  | .enriching record state =>
    { world with settled := Function.update world.settled state (some record) }.goesOn
      move.process .idle

def run (moves : List WakeMove) : WakeWorld := moves.foldl step world

def fileIds : List String :=
  (world.pending.map WakeRecord.requestId).toList ++
    ((world.settled .completed).map WakeRecord.requestId).toList ++
    ((world.settled .skipped).map WakeRecord.requestId).toList

def pends (requestId : String) : Bool :=
  world.pending.any fun record => record.requestId = requestId

/-- A step that acts on nothing outdated: a request reads only settled records that tell when they
settled, and is created only if none has settled since it began; a pending record is rewritten or
moved only by one who holds that very request, and moved only into a slot that is free. -/
def carefulStep (move : WakeMove) : Bool :=
  match world.stages move.process with
  | .guarding _ _ state _ => (world.settled state).all fun record => record.settledAt.isSome
  | .creating _ _ seen => world.pending.isSome || world.settlements = seen
  | .annotating record | .holding record => world.pends record.requestId
  | .settling record state _ _ =>
    world.pending.isNone || (world.pends record.requestId && (world.settled state).isNone)
  | _ => true

def careful : WakeWorld → List WakeMove → Bool
  | _, [] => true
  | world, move :: moves => world.carefulStep move && (world.step move).careful moves

end WakeWorld

section

def ClearOf (requestedMs : Int) (settlement : WakeSettlement) : Prop :=
  rereviewWakeResettleGuardMs < requestedMs - settlement.at_

def Unsettled (record : WakeRecord) : Prop := record.settledAt = none

def WakeStage.requests : WakeStage → Option String
  | .guarding record _ _ _ | .creating record _ _ => some record.requestId
  | _ => none

def WakeStands (world : WakeWorld) : WakeStage → Prop
  | .guarding record requestedMs state seen =>
    Unsettled record ∧ seen ⊆ world.settlements ∧
      (state = .skipped → ∀ settlement ∈ seen, settlement.state = .completed →
        ClearOf requestedMs settlement)
  | .creating record requestedMs seen =>
    Unsettled record ∧ ∀ settlement ∈ seen, ClearOf requestedMs settlement
  | .annotating record | .observing record _ | .holding record | .settling record _ _ _ =>
    Unsettled record
  | .enriching record state => ∃ settlement ∈ world.settlements, settlement.state = state ∧
      settlement.requestId = record.requestId ∧ record.settledAt = some settlement.at_
  | _ => True

def SlotHolds (settlement : WakeSettlement) (slot : Option WakeRecord) : Prop :=
  ∃ record, slot = some record ∧ record.requestId = settlement.requestId ∧
    (record.settledAt = none ∨ record.settledAt = some settlement.at_)

structure WakeInv (world : WakeWorld) : Prop where
  kept : ∀ request ∈ world.accepted, world.fileIds.count request.requestId = 1
  owned : ∀ requestId ∈ world.fileIds, requestId ∈ world.accepted.map AcceptedWake.requestId
  slots : ∀ settlement ∈ world.settlements,
    SlotHolds settlement (world.settled settlement.state)
  once : (world.settlements.map WakeSettlement.requestId).Nodup
  guarded : ∀ request ∈ world.accepted, ∀ settlement ∈ request.settledBefore,
    ClearOf request.requestedMs settlement
  pending : ∀ record, world.pending = some record → Unsettled record
  stands : ∀ process, WakeStands world (world.stages process)
  drawn : ∀ process requestId, (world.stages process).requests = some requestId →
    requestId ∈ world.drawn ∧ requestId ∉ world.accepted.map AcceptedWake.requestId
  known : ∀ requestId ∈ world.accepted.map AcceptedWake.requestId, requestId ∈ world.drawn
  apart : ∀ first second requestId, (world.stages first).requests = some requestId →
    (world.stages second).requests = some requestId → first = second

theorem wakeInv_empty : WakeInv {} where
  kept := by simp
  owned := by simp [WakeWorld.fileIds]
  slots := by simp
  once := by simp
  guarded := by simp
  pending := by simp
  stands := fun process => trivial
  drawn := by simp [WakeStage.requests]
  known := by simp
  apart := by simp [WakeStage.requests]

variable {world : WakeWorld} {process : Nat} {stage : WakeStage}

theorem WakeInv.unsettled (inv : WakeInv world) {record : WakeRecord}
    (there : world.pending = some record) :
    record.requestId ∉ world.settlements.map WakeSettlement.requestId := by
  intro settled
  obtain ⟨settlement, listed, same⟩ := List.mem_map.mp settled
  obtain ⟨moved, slot, named, -⟩ := inv.slots settlement listed
  -- Its slot would be a second file of the request.
  have owned : record.requestId ∈ world.accepted.map AcceptedWake.requestId :=
    inv.owned _ (by simp [WakeWorld.fileIds, there])
  obtain ⟨request, accepted, own⟩ := List.mem_map.mp owned
  have count := inv.kept request accepted
  rw [own] at count
  have twice : 2 ≤ world.fileIds.count record.requestId := by
    rw [← same, ← named]
    cases state : settlement.state with
    | completed =>
      rw [state] at slot
      simp [WakeWorld.fileIds, there, slot, named, same]
    | skipped =>
      rw [state] at slot
      simp [WakeWorld.fileIds, there, slot, named, same, List.count_append]
  omega

theorem WakeStands.grows {after : WakeWorld} (stands : WakeStands world stage)
    (more : world.settlements ⊆ after.settlements) : WakeStands after stage := by
  cases stage with
  | guarding record requestedMs state seen =>
    exact ⟨stands.1, fun settlement listed => more (stands.2.1 listed), stands.2.2⟩
  | enriching record state =>
    obtain ⟨settlement, listed, rest⟩ := stands
    exact ⟨settlement, more listed, rest⟩
  | _ => exact stands

theorem WakeInv.goesOn (inv : WakeInv world) (stands : WakeStands world stage)
    (own : ∀ requestId, stage.requests = some requestId →
      (world.stages process).requests = some requestId) :
    WakeInv (world.goesOn process stage) where
  kept := inv.kept
  owned := inv.owned
  slots := inv.slots
  once := inv.once
  guarded := inv.guarded
  pending := inv.pending
  stands := by
    intro other
    change WakeStands _ (Function.update world.stages process stage other)
    have here : ∀ stage, WakeStands world stage → WakeStands (world.goesOn process stage) stage :=
      fun stage stands => stands.grows fun _ listed => listed
    by_cases same : other = process
    · subst same
      rw [Function.update_self]
      exact stands.grows fun _ listed => listed
    · rw [Function.update_of_ne same]
      exact (inv.stands other).grows fun _ listed => listed
  drawn := by
    intro other requestId requests
    change (Function.update world.stages process stage other).requests = _ at requests
    by_cases same : other = process
    · subst same
      rw [Function.update_self] at requests
      exact inv.drawn other requestId (own requestId requests)
    · rw [Function.update_of_ne same] at requests
      exact inv.drawn other requestId requests
  known := inv.known
  apart := by
    have before : ∀ other requestId,
        (Function.update world.stages process stage other).requests = some requestId →
        (world.stages other).requests = some requestId := by
      intro other requestId requests
      by_cases same : other = process
      · subst same
        rw [Function.update_self] at requests
        exact own requestId requests
      · rwa [Function.update_of_ne same] at requests
    intro first second requestId one other
    exact inv.apart first second requestId (before first requestId one)
      (before second requestId other)

theorem WakeInv.rests (inv : WakeInv world) : WakeInv (world.goesOn process .idle) :=
  inv.goesOn trivial (fun requestId requests => by cases requests)

theorem pends_iff {requestId : String} : world.pends requestId = true ↔
    ∃ record, world.pending = some record ∧ record.requestId = requestId := by
  cases there : world.pending <;> simp [WakeWorld.pends, there]

theorem WakeInv.rewrites (inv : WakeInv world) {record : WakeRecord}
    (fresh : Unsettled record) (held : world.pends record.requestId = true) :
    WakeInv { world with pending := some record } := by
  obtain ⟨there, found, same⟩ := pends_iff.mp held
  have files : WakeWorld.fileIds { world with pending := some record } = world.fileIds := by
    simp [WakeWorld.fileIds, found, same]
  exact ⟨fun request accepted => by rw [files]; exact inv.kept request accepted,
    fun requestId listed => inv.owned requestId (by rwa [files] at listed), inv.slots, inv.once,
    inv.guarded, fun other given => by obtain rfl := Option.some.inj given; exact fresh,
    fun process => (inv.stands process).grows fun _ listed => listed, inv.drawn, inv.known,
    inv.apart⟩

end

section

variable {world : WakeWorld} {process : Nat}

theorem WakeInv.begins (inv : WakeInv world) (idle : world.stages process = .idle)
    (move : WakeMove) (own : move.process = process) : WakeInv (world.start move) := by
  unfold WakeWorld.start
  split
  next record requestedMs _ =>
    split
    · exact inv
    next undrawn =>
      -- Nobody else has this id, and nothing was accepted under it.
      have drew : WakeInv { world with drawn := record.requestId :: world.drawn } :=
        ⟨inv.kept, inv.owned, inv.slots, inv.once, inv.guarded, inv.pending,
          fun process => (inv.stands process).grows fun _ listed => listed,
          fun process requestId requests =>
            (inv.drawn process requestId requests).imp (List.mem_cons_of_mem _) id,
          fun requestId accepted => List.mem_cons_of_mem _ (inv.known requestId accepted),
          inv.apart⟩
      have unaccepted : record.requestId ∉ world.accepted.map AcceptedWake.requestId :=
        fun accepted => undrawn (inv.known _ accepted)
      rw [own]
      have before : ∀ other requestId, other ≠ process →
          (Function.update world.stages process (WakeStage.guarding
            { requestId := record.requestId, headSha := record.headSha, reason := record.reason
              requestedAt := record.requestedAt } requestedMs .completed world.settlements)
            other).requests = some requestId →
          (world.stages other).requests = some requestId := by
        intro other requestId apart requests
        rwa [Function.update_of_ne apart] at requests
      refine ⟨inv.kept, inv.owned, inv.slots, inv.once, inv.guarded, inv.pending, ?_, ?_,
        drew.known, ?_⟩
      · intro other
        change WakeStands _ (Function.update world.stages process _ other)
        by_cases same : other = process
        · subst same
          rw [Function.update_self]
          exact ⟨rfl, fun _ listed => listed, fun skipped => by cases skipped⟩
        · rw [Function.update_of_ne same]
          exact (inv.stands other).grows fun _ listed => listed
      · intro other requestId requests
        change (Function.update world.stages process _ other).requests = _ at requests
        by_cases same : other = process
        · subst same
          rw [Function.update_self] at requests
          obtain rfl := Option.some.inj requests
          exact ⟨List.mem_cons_self, unaccepted⟩
        · exact (inv.drawn other requestId (before other requestId same requests)).imp
            (List.mem_cons_of_mem _) id
      · intro first second requestId one other
        change (Function.update world.stages process _ first).requests = _ at one
        change (Function.update world.stages process _ second).requests = _ at other
        by_cases here : first = process
        · by_cases there : second = process
          · rw [here, there]
          · rw [here, Function.update_self] at one
            obtain rfl := Option.some.inj one
            exact absurd (inv.drawn second _ (before second _ there other)).1 undrawn
        · by_cases there : second = process
          · rw [there, Function.update_self] at other
            obtain rfl := Option.some.inj other
            exact absurd (inv.drawn first _ (before first _ here one)).1 undrawn
          · exact inv.apart first second requestId (before first requestId here one)
              (before second requestId there other)
  next =>
    split
    · rw [own]
      exact inv.goesOn trivial fun requestId requests => by cases requests
    · exact inv
  next =>
    split
    · rw [own]
      exact inv.goesOn trivial fun requestId requests => by cases requests
    · exact inv

variable {record : WakeRecord} {state : SettledWakeState}

theorem WakeInv.guards (inv : WakeInv world) {requestedMs : Int} {seen : List WakeSettlement}
    (stage : world.stages process = .guarding record requestedMs state seen)
    (dated : (world.settled state).all (fun record => record.settledAt.isSome) = true)
    (passes : guardBlocks requestedMs (world.settled state) = false) :
    ∀ settlement ∈ seen, settlement.state = state → ClearOf requestedMs settlement := by
  intro settlement listed same
  have stands := inv.stands process
  rw [stage] at stands
  obtain ⟨settled, slot, -, time⟩ := inv.slots settlement (stands.2.1 listed)
  rw [same] at slot
  rw [slot] at dated passes
  rcases time with undated | dated_
  · simp [undated] at dated
  · simp only [guardBlocks, Option.any_some, dated_, decide_eq_false_iff_not] at passes
    exact Int.not_le.mp passes

/-- A request is created where nothing has settled since it began. -/
theorem WakeInv.creates (inv : WakeInv world) {requestedMs : Int} {seen : List WakeSettlement}
    (stage : world.stages process = .creating record requestedMs seen)
    (free : world.pending = none) (current : world.settlements = seen) :
    WakeInv ({ world with
      pending := some record
      accepted := ⟨record.requestId, requestedMs, world.settlements⟩ ::
        world.accepted }.goesOn process (.annotating record)) := by
  have stands := inv.stands process
  rw [stage] at stands
  obtain ⟨fresh, clear⟩ := stands
  obtain ⟨drawn, unaccepted⟩ := inv.drawn process record.requestId (by rw [stage]; rfl)
  have unfiled : record.requestId ∉ world.fileIds := fun filed => unaccepted (inv.owned _ filed)
  have files : WakeWorld.fileIds { world with pending := some record } =
      record.requestId :: world.fileIds := by
    simp [WakeWorld.fileIds, free]
  have other : ∀ process_ requestId,
      (Function.update world.stages process (WakeStage.annotating record) process_).requests =
        some requestId → process_ ≠ process ∧
          (world.stages process_).requests = some requestId := by
    intro process_ requestId requests
    by_cases same : process_ = process
    · rw [same, Function.update_self] at requests
      cases requests
    · exact ⟨same, by rwa [Function.update_of_ne same] at requests⟩
  refine ⟨?_, ?_, inv.slots, inv.once, ?_, ?_, ?_, ?_, ?_, ?_⟩
  · intro request accepted
    change (WakeWorld.fileIds { world with pending := some record }).count _ = 1
    rw [files]
    rcases List.mem_cons.mp accepted with rfl | before
    · simp [List.count_eq_zero_of_not_mem unfiled]
    · have apart : record.requestId ≠ request.requestId := fun same =>
        unaccepted (same ▸ List.mem_map_of_mem before)
      rw [List.count_cons_of_ne apart]
      exact inv.kept request before
  · intro requestId listed
    change requestId ∈ WakeWorld.fileIds { world with pending := some record } at listed
    rw [files] at listed
    rcases List.mem_cons.mp listed with rfl | before
    · exact List.mem_cons_self
    · exact List.mem_cons_of_mem _ (inv.owned requestId before)
  · intro request accepted settlement listed
    rcases List.mem_cons.mp accepted with rfl | before
    · exact clear settlement (current ▸ listed)
    · exact inv.guarded request before settlement listed
  · intro given same
    obtain rfl := Option.some.inj same
    exact fresh
  · intro process_
    change WakeStands _ (Function.update world.stages process _ process_)
    by_cases same : process_ = process
    · rw [same, Function.update_self]
      exact fresh
    · rw [Function.update_of_ne same]
      exact (inv.stands process_).grows fun _ listed => listed
  · intro process_ requestId requests
    obtain ⟨apart, before⟩ := other process_ requestId requests
    obtain ⟨was, unaccepted_⟩ := inv.drawn process_ requestId before
    refine ⟨was, ?_⟩
    intro accepted
    rcases List.mem_cons.mp accepted with same | accepted
    · -- Then two processes would have begun the same request.
      refine apart (inv.apart process_ process requestId before ?_)
      rw [stage, same]
      rfl
    · exact unaccepted_ accepted
  · intro requestId accepted
    rcases List.mem_cons.mp accepted with rfl | accepted
    · exact drawn
    · exact inv.known requestId accepted
  · intro first second requestId one two
    exact inv.apart first second requestId (other first requestId one).2
      (other second requestId two).2

/-- A process that holds the pending request moves its record into a free slot. -/
theorem WakeInv.settles (inv : WakeInv world) {record moved : WakeRecord}
    {reason : String} {at_ : Int} (stage : world.stages process = .settling record state reason at_)
    (there : world.pending = some moved) (own : moved.requestId = record.requestId)
    (free : world.settled state = none) :
    WakeInv ({ world with
      pending := none
      settled := Function.update world.settled state (some moved)
      settlements := ⟨record.requestId, state, at_⟩ :: world.settlements }.goesOn process
        (.enriching (settledWake record state reason at_) state)) := by
  have unsettled := inv.unsettled there
  have same : ∀ requestId, (WakeWorld.fileIds { world with
      pending := none
      settled := Function.update world.settled state (some moved) }).count requestId =
      world.fileIds.count requestId := by
    intro requestId
    cases state with
    | completed => simp [WakeWorld.fileIds, there, free]
    | skipped => simp [WakeWorld.fileIds, there, free, List.count_cons, Nat.add_comm]
  have other : ∀ process_ requestId,
      (Function.update world.stages process
        (WakeStage.enriching (settledWake record state reason at_) state) process_).requests =
        some requestId → (world.stages process_).requests = some requestId := by
    intro process_ requestId requests
    by_cases same : process_ = process
    · rw [same, Function.update_self] at requests
      cases requests
    · rwa [Function.update_of_ne same] at requests
  refine ⟨?_, ?_, ?_, ?_, inv.guarded, ?_, ?_, ?_, inv.known, ?_⟩
  · intro request accepted
    exact (same request.requestId).trans (inv.kept request accepted)
  · intro requestId listed
    refine inv.owned requestId ?_
    have counted := List.count_pos_iff.mpr listed
    exact List.count_pos_iff.mp (by
      rw [← same requestId]
      exact counted)
  · intro settlement listed
    rcases List.mem_cons.mp listed with rfl | before
    · exact ⟨moved, Function.update_self .., own, .inl (inv.pending moved there)⟩
    · obtain ⟨held, slot, rest⟩ := inv.slots settlement before
      have apart : settlement.state ≠ state := by
        intro same
        rw [same, free] at slot
        cases slot
      exact ⟨held, (Function.update_of_ne apart ..).trans slot, rest⟩
  · refine List.nodup_cons.mpr ⟨?_, inv.once⟩
    rw [← own]
    exact unsettled
  · intro given none
    cases none
  · intro process_
    change WakeStands _ (Function.update world.stages process _ process_)
    by_cases same : process_ = process
    · rw [same, Function.update_self]
      exact ⟨_, List.mem_cons_self, rfl, rfl, rfl⟩
    · rw [Function.update_of_ne same]
      exact (inv.stands process_).grows fun _ listed => List.mem_cons_of_mem _ listed
  · intro process_ requestId requests
    exact inv.drawn process_ requestId (other process_ requestId requests)
  · intro first second requestId one two
    exact inv.apart first second requestId (other first requestId one)
      (other second requestId two)

theorem WakeInv.enriches (inv : WakeInv world)
    (stage : world.stages process = .enriching record state) :
    WakeInv { world with settled := Function.update world.settled state (some record) } := by
  have stands := inv.stands process
  rw [stage] at stands
  obtain ⟨settlement, listed, here, own, time⟩ := stands
  obtain ⟨held, slot, named, -⟩ := inv.slots settlement listed
  rw [here] at slot
  have files : WakeWorld.fileIds
      { world with settled := Function.update world.settled state (some record) } =
      world.fileIds := by
    have same : held.requestId = record.requestId := named.trans own
    cases state with
    | completed => simp [WakeWorld.fileIds, slot, same]
    | skipped => simp [WakeWorld.fileIds, slot, same]
  refine ⟨fun request accepted => by rw [files]; exact inv.kept request accepted,
    fun requestId given => inv.owned requestId (by rwa [files] at given), ?_, inv.once,
    inv.guarded, inv.pending, fun process => (inv.stands process).grows fun _ given => given,
    inv.drawn, inv.known, inv.apart⟩
  intro other given
  by_cases same : other.state = state
  · -- Whatever has settled into this slot is this very settlement.
    obtain ⟨held_, slot_, named_, -⟩ := inv.slots other given
    rw [same, slot] at slot_
    obtain rfl := Option.some.inj slot_
    obtain rfl : other = settlement :=
      List.inj_on_of_nodup_map inv.once given listed (named_.symm.trans named)
    exact ⟨record, by rw [same]; exact Function.update_self .., own.symm, .inr time⟩
  · obtain ⟨held_, slot_, rest⟩ := inv.slots other given
    exact ⟨held_, (Function.update_of_ne same ..).trans slot_, rest⟩

/-- A careful step keeps every request in one file, and each settlement in its slot. -/
theorem WakeInv.step (inv : WakeInv world) {move : WakeMove}
    (careful : world.carefulStep move = true) : WakeInv (world.step move) := by
  have stands := inv.stands move.process
  cases stage : world.stages move.process with
  | idle =>
    simp only [WakeWorld.step, stage]
    exact inv.begins stage move rfl
  | guarding record requestedMs state seen =>
    rw [stage] at stands
    simp only [WakeWorld.carefulStep, stage] at careful
    simp only [WakeWorld.step, stage]
    split
    · exact inv.rests
    next passes =>
      rw [Bool.not_eq_true] at passes
      have clear := inv.guards stage careful passes
      cases state with
      | completed =>
        refine inv.goesOn ⟨stands.1, stands.2.1, fun _ => clear⟩ ?_
        intro requestId requests
        rw [stage]
        exact requests
      | skipped =>
        refine inv.goesOn ⟨stands.1, ?_⟩ ?_
        · intro settlement listed
          cases own : settlement.state with
          | completed => exact stands.2.2 rfl settlement listed own
          | skipped => exact clear settlement listed own
        · intro requestId requests
          rw [stage]
          exact requests
  | creating record requestedMs seen =>
    simp only [WakeWorld.carefulStep, stage, Bool.or_eq_true, decide_eq_true_eq] at careful
    simp only [WakeWorld.step, stage]
    cases there : world.pending with
    | some pending => exact inv.rests
    | none =>
      rcases careful with pending | current
      · rw [there] at pending
        cases pending
      · exact inv.creates stage there current
  | annotating record =>
    rw [stage] at stands
    simp only [WakeWorld.carefulStep, stage] at careful
    simp only [WakeWorld.step, stage]
    have fresh : Unsettled { record with watcherWake := some move.delivered } := stands
    exact (inv.rewrites fresh careful).rests
  | listed sweeps =>
    simp only [WakeWorld.step, stage]
    cases there : world.pending with
    | none => exact inv.rests
    | some record =>
      exact inv.goesOn (inv.pending record there) fun requestId requests => by cases requests
  | observing record sweeps =>
    rw [stage] at stands
    simp only [WakeWorld.step, stage, WakeWorld.observe]
    split
    · exact inv.rests
    · have fresh : Unsettled (if sweeps then record else claimWake record move.look.at_) := by
        cases sweeps <;> exact stands
      split
      next reason _ =>
        refine inv.goesOn ?_ fun requestId requests => by cases requests
        cases sweeps <;> exact fresh
      next => exact inv.goesOn fresh fun requestId requests => by cases requests
  | holding record =>
    rw [stage] at stands
    simp only [WakeWorld.carefulStep, stage] at careful
    simp only [WakeWorld.step, stage]
    exact (inv.rewrites stands careful).rests
  | settling record state reason at_ =>
    simp only [WakeWorld.carefulStep, stage, Bool.or_eq_true, Bool.and_eq_true,
      Option.isNone_iff_eq_none] at careful
    simp only [WakeWorld.step, stage, WakeWorld.settle]
    cases there : world.pending with
    | none => exact inv.rests
    | some moved =>
      rcases careful with gone | ⟨held, free⟩
      · rw [there] at gone
        cases gone
      · obtain ⟨pending, found, own⟩ := pends_iff.mp held
        rw [there] at found
        obtain rfl := Option.some.inj found
        exact inv.settles stage there own free
  | enriching record state =>
    simp only [WakeWorld.step, stage]
    exact (inv.enriches stage).rests

theorem WakeInv.run {moves : List WakeMove} (inv : WakeInv world)
    (careful : world.careful moves = true) : WakeInv (world.run moves) := by
  induction moves generalizing world with
  | nil => exact inv
  | cons move moves ih =>
    simp only [WakeWorld.careful, Bool.and_eq_true] at careful
    exact ih (inv.step careful.1) careful.2

end

/-- Each wake is settled once, is gone from the queue then, and until then is in it; and none is
accepted within the guard of a settlement. -/
structure SettledOnce (world : WakeWorld) : Prop where
  once : (world.settlements.map WakeSettlement.requestId).Nodup
  gone : ∀ record, world.pending = some record →
    record.requestId ∉ world.settlements.map WakeSettlement.requestId
  kept : ∀ request ∈ world.accepted, world.fileIds.count request.requestId = 1
  guarded : ∀ request ∈ world.accepted, ∀ settlement ∈ request.settledBefore,
    rereviewWakeResettleGuardMs < request.requestedMs - settlement.at_

/-- In every run whose steps act on nothing outdated, each wake is settled exactly once. -/
theorem wakes_settled_once (moves : List WakeMove) (careful : WakeWorld.careful {} moves = true) :
    SettledOnce (WakeWorld.run {} moves) := by
  have inv := wakeInv_empty.run careful
  exact ⟨inv.once, fun record there => inv.unsettled there, inv.kept, inv.guarded⟩

def sampleWake : WakeRecord :=
  { requestId := "r1", headSha := "abc123", reason := "ci-transition", requestedAt := some 1000 }

def admittedLook : WakeLook :=
  { reviewRow := some { reviewStatus := "pending" }, currentHeadSha := "abc123", at_ := 2000 }

/-- A request that has settled before its second write: a consumer reads and settles the record
between the two, and another settles what the second write has left. -/
def lateAnnotation : List WakeMove :=
  [{ process := 0, starts := .requestRereviewWake sampleWake 1000 },
    { process := 0 }, { process := 0 }, { process := 0 },
    { process := 1, starts := .consumeRereviewWakes }, { process := 1 },
    { process := 1, look := admittedLook }, { process := 1 },
    { process := 0 }, { process := 1 },
    { process := 1, starts := .consumeRereviewWakes }, { process := 1 },
    { process := 1, look := admittedLook }, { process := 1 }]

theorem late_annotation_settles_twice : ¬ SettledOnce (WakeWorld.run {} lateAnnotation) := by
  intro settled
  have twice : ((WakeWorld.run {} lateAnnotation).settlements.map
      WakeSettlement.requestId) = ["r1", "r1"] := by decide
  have once := settled.once
  rw [twice] at once
  exact absurd once (by decide)

/-- The same steps, with the second write before the settle. -/
def promptAnnotation : List WakeMove :=
  [{ process := 0, starts := .requestRereviewWake sampleWake 1000 },
    { process := 0 }, { process := 0 }, { process := 0 }, { process := 0 },
    { process := 1, starts := .consumeRereviewWakes }, { process := 1 },
    { process := 1, look := admittedLook }, { process := 1 }, { process := 1 }]

theorem prompt_annotation_settles_once : SettledOnce (WakeWorld.run {} promptAnnotation) :=
  wakes_settled_once promptAnnotation (by decide)

end AdversarialReview.FollowUp
