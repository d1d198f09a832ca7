import AdversarialReview.Library.JsText

/-! Automated recovery of a closure: what one call does to the state of its head, cut at any await,
and how much a run of calls can do. -/

namespace AdversarialReview.Ama

/-- What an awaited call comes to. A crash ends the process, whatever the call has done. -/
inductive Awaited (α : Type) where
  | answered (value : α)
  | failed (aborted : Bool) (message : String)
  | crashed (done : Option α)

def Awaited.isCrash {α : Type} : Awaited α → Bool
  | .crashed _ => true
  | _ => false

structure SelectedAction where
  action : String
  actor : String := ""
  row : String := ""
  reason : String := ""
  intent : String := ""
  deferred : Bool := false
  deriving DecidableEq

structure RecoveryRefusal where
  key : String
  repairable : Bool := true
  next : String

structure RepairReceipt where
  dispatched : Option Bool := none
  deferred : Bool := false
  reservedAt : Option Int := none
  launchRequestId : Option String := none
  reason : Option String := none

def RepairReceipt.deferral (receipt : RepairReceipt) : Bool :=
  receipt.dispatched = some false && receipt.deferred

structure ReservedRepair where
  reservedAt : Int
  launchRequestId : Option String := none
  reason : Option String := none

structure RereviewAnswer where
  triggered : Bool
  alreadyPending : Bool

structure HammerAnswer where
  dispatched : Bool
  ordinaryWait : Bool := false
  safetyHold : Bool := false

/-- Evidence that checks have executed again after an infrastructure-only series of stops. -/
structure InfrastructureRecovery where
  stopKey : String
  launches : Nat

/-- The state that is kept of a head. -/
structure RecoveryState where
  attempts : Nat := 0
  blockedSince : Option Int := none
  /-- The reason of the exhaustion event. -/
  event : Option String := none
  pagedReasons : List String := []
  repairs : List (String × ReservedRepair) := []
  rereviewPending : Bool := false
  rereviewBaseline : Option String := none
  rereviewRequestedAt : Int := 0
  creditedStop : Option String := none

/-- What one call is given, what its clock says at each reading, and what it is answered. -/
structure RecoveryInput where
  lockFree : Bool := true
  selected : SelectedAction
  reason : String := "unknown"
  refusal : Option RecoveryRefusal := none
  decisionKey : String := ""
  ciInfrastructureStop : Bool := false
  recovered : Option InfrastructureRecovery := none
  reviewStatus : String := ""
  reviewStamp : String := "unobserved"
  hasLaunch : Bool := false
  repairNow : Int := 0
  reserveNow : Int := 0
  requestNow : Int := 0
  deadlineNow : Int := 0
  blockedNow : Int := 0
  stalledNow : Int := 0
  repairStatus : Awaited Bool := .answered false
  repair : Awaited RepairReceipt := .answered {}
  rereview : Awaited RereviewAnswer := .answered ⟨false, false⟩
  hammer : Awaited HammerAnswer := .answered { dispatched := false }
  page : Awaited Unit := .answered ()
  reclaim : Awaited Unit := .answered ()

inductive RecoveryEvent where
  | repair (key : String) (deferred : Bool) (selected : SelectedAction)
  | hammer (dispatched : Bool) (selected : SelectedAction)
  | rereview (triggered : Bool) (selected : SelectedAction)
  | paged (reason : String)
  | credit
  deriving DecidableEq

/-- A call in progress: its own state, what is saved of it, and what it has done. -/
structure RecoveryRun where
  state : RecoveryState
  saved : RecoveryState
  events : List RecoveryEvent

namespace RecoveryRun

def save (run : RecoveryRun) : RecoveryRun := { run with saved := run.state }

def did (run : RecoveryRun) (event : RecoveryEvent) : RecoveryRun :=
  { run with events := run.events ++ [event] }

def clearStall (run : RecoveryRun) : RecoveryRun :=
  if run.state.blockedSince.isSome then
    ({ run with state.blockedSince := none } : RecoveryRun).save
  else run

def charge (run : RecoveryRun) : RecoveryRun :=
  ({ run with state.attempts := run.state.attempts + 1 } : RecoveryRun).clearStall.save

end RecoveryRun

def stuckDeadlineMs : Int := 30 * 60 * 1000

def rereviewDeadlineMs : Int := 30 * 60 * 1000

section

variable (maxAttempts : Nat) (input : RecoveryInput)

def exhaustionReason (refusalKey : Option String) (run : RecoveryRun) : String :=
  match refusalKey with
  | some key => "safety-refusal:" ++ key
  | none => run.state.event.getD input.reason

def exhausted (refusalKey : Option String) (run : RecoveryRun) : RecoveryRun :=
  let reason := exhaustionReason input refusalKey run
  let noted :=
    if run.state.event = some reason then run
    else ({ run with state.event := some reason } : RecoveryRun).save
  if reason ∈ noted.state.pagedReasons then noted
  else
    match input.page with
    | .answered _ =>
      (({ noted with
        state.pagedReasons := noted.state.pagedReasons ++ [reason] } : RecoveryRun).did
          (.paged reason)).save
    | .failed _ _ => noted.save
    | .crashed done => if done.isSome then noted.did (.paged reason) else noted

def stalled (run : RecoveryRun) : RecoveryRun :=
  let since := run.state.blockedSince.getD input.blockedNow
  let blocked := ({ run with state.blockedSince := some since } : RecoveryRun).save
  if blocked.state.event.isSome ∨ stuckDeadlineMs ≤ input.stalledNow - since then
    exhausted input none blocked
  else blocked

def repairRecorded (refusal : RecoveryRefusal) : Bool :=
  refusal.key.length = 64 && refusal.key.toList.all (fun char => char.isDigit ||
    char ∈ ['a', 'b', 'c', 'd', 'e', 'f']) && refusal.repairable && jsTrim refusal.next ≠ ""

def noteRepair (key : String) (change : ReservedRepair → ReservedRepair) (run : RecoveryRun) :
    RecoveryRun :=
  ({ run with
    state.repairs := run.state.repairs.map fun entry =>
      if entry.1 = key then (entry.1, change entry.2) else entry } : RecoveryRun).save

def dispatchRepair (refusal : RecoveryRefusal) (run : RecoveryRun) : RecoveryRun :=
  match input.repair with
  | .answered receipt =>
    let called := run.did (.repair refusal.key receipt.deferral input.selected)
    if receipt.deferral then
      ({ called with
        state.repairs := called.state.repairs.filter fun entry => entry.1 ≠ refusal.key
        state.attempts := called.state.attempts - 1 } : RecoveryRun).save.clearStall
    else
      let received := noteRepair refusal.key (fun prior =>
        { reservedAt := receipt.reservedAt.getD prior.reservedAt
          launchRequestId := receipt.launchRequestId <|> prior.launchRequestId
          reason := receipt.reason <|> prior.reason }) called
      if receipt.dispatched = some true ∧ receipt.launchRequestId.isSome then received.clearStall
      else exhausted input (some refusal.key) received
  | .failed aborted message =>
    let received := noteRepair refusal.key (fun prior => { prior with reason := some message })
      (run.did (.repair refusal.key false input.selected))
    if aborted then received else exhausted input (some refusal.key) received
  | .crashed done =>
    run.did (.repair refusal.key (done.any RepairReceipt.deferral) input.selected)

def priorRepair (key : String) (prior : ReservedRepair) (run : RecoveryRun) : RecoveryRun :=
  if prior.launchRequestId.isSome ∧ input.repairNow - prior.reservedAt < stuckDeadlineMs then
    match input.repairStatus with
    | .answered true => run.clearStall
    | .crashed _ => run
    | _ => exhausted input (some key) run
  else exhausted input (some key) run

def recoverRefusal (run : RecoveryRun) : RecoveryRun :=
  match input.refusal with
  | none => exhausted input
      (some (if input.decisionKey = "" then "unrecorded" else input.decisionKey)) run
  | some refusal =>
    if repairRecorded refusal = false then
      let key := if refusal.key ≠ "" then refusal.key
        else if input.decisionKey = "" then "unrecorded" else input.decisionKey
      exhausted input (some key) run
    else
      match run.state.repairs.lookup refusal.key with
      | some prior => priorRepair input refusal.key prior run
      | none =>
        if maxAttempts ≤ run.state.attempts then exhausted input (some refusal.key) run
        else
          dispatchRepair input refusal ({ run with
            state.repairs := run.state.repairs ++
              [(refusal.key, { reservedAt := input.reserveNow })] } : RecoveryRun).charge

def creditInfrastructure (run : RecoveryRun) : RecoveryRun :=
  match input.recovered with
  | some recovered =>
    if run.state.attempts = recovered.launches ∧
        run.state.creditedStop ≠ some recovered.stopKey then
      (({ run with
        state.creditedStop := some recovered.stopKey
        state.attempts := 0
        state.event := none
        state.blockedSince := none } : RecoveryRun).did .credit).save
    else run
  | none => run

def recoverReview (run : RecoveryRun) : RecoveryRun :=
  let asked := ({ run with
    state.rereviewBaseline := some input.reviewStamp
    state.rereviewRequestedAt := input.requestNow } : RecoveryRun).save
  match input.rereview with
  | .answered rereview =>
    let answered : RecoveryRun := { asked.did (.rereview rereview.triggered input.selected) with
      state.rereviewPending := rereview.triggered || rereview.alreadyPending }
    let settled :=
      if rereview.triggered then answered.charge.save
      else if rereview.alreadyPending then answered.clearStall.save
      else answered.save
    if rereview.triggered || rereview.alreadyPending then settled else stalled input settled
  | .failed aborted _ =>
    let failed := asked.did (.rereview false input.selected)
    if aborted then failed else stalled input failed.charge
  | .crashed done =>
    asked.did (.rereview (done.any RereviewAnswer.triggered) input.selected)

def recoverHammer (run : RecoveryRun) : RecoveryRun :=
  match input.hammer with
  | .answered retry =>
    let answered := run.did (.hammer retry.dispatched input.selected)
    if retry.dispatched then answered.charge
    else if retry.ordinaryWait || retry.safetyHold then answered.clearStall
    else stalled input answered
  | .failed aborted _ =>
    let failed := run.did (.hammer false input.selected)
    if aborted then failed else stalled input failed.charge
  | .crashed done => run.did (.hammer (done.any HammerAnswer.dispatched) input.selected)

def recoverSelected (run : RecoveryRun) : RecoveryRun :=
  let selected := input.selected
  if selected.intent ≠ "dispatch" ∨ selected.deferred = true then
    if selected.intent = "owned" then run.clearStall else stalled input run
  else if maxAttempts ≤ run.state.attempts then stalled input run
  else if selected.action = "review" ∧ selected.actor = "reviewer" then recoverReview input run
  else if selected.action = "hammer" ∧ selected.actor = "hammer" then recoverHammer input run
  else stalled input run

def recoverRow (run : RecoveryRun) : RecoveryRun :=
  let run := creditInfrastructure input run
  if run.state.rereviewPending = true ∧
      input.reviewStatus ∈ ["pending", "reviewing", "pending-upstream"] then run.clearStall
  else if run.state.rereviewPending = true ∧
      run.state.rereviewBaseline = some input.reviewStamp then
    if rereviewDeadlineMs ≤ input.deadlineNow - run.state.rereviewRequestedAt then
      exhausted input none run
    else run
  else
    let run := if run.state.rereviewPending then
      ({ run with state.rereviewPending := false } : RecoveryRun).save else run
    if input.selected.actor = "closure-recovery" ∧ input.hasLaunch = true ∧
        input.reclaim.isCrash = true then run
    else recoverSelected maxAttempts input run

def recoverAmaAutomationLocked (run : RecoveryRun) : RecoveryRun :=
  let selected := input.selected
  if selected.action = "done" ∨ selected.action = "operator-hold" then run
  else if input.reason = "hammer-stop-awaiting-companion" then run.clearStall
  else if selected.row = "R05-structural" ∧ selected.actor = "closure-recovery" ∧
      selected.reason = "safety-refusal" ∧ selected.deferred = false then
    recoverRefusal maxAttempts input run
  else if selected.action = "wait-for-CI" ∧ input.ciInfrastructureStop = true then
    run.save.clearStall
  else recoverRow maxAttempts input run

end

/-- What is saved of a head, and what the calls have done. -/
structure RecoveryWorld where
  saved : RecoveryState := {}
  events : List RecoveryEvent := []

namespace RecoveryWorld

/-- One call; another that has the lock leaves it nothing to do. -/
def recoverAmaAutomation (maxAttempts : Nat) (world : RecoveryWorld) (input : RecoveryInput) :
    RecoveryWorld :=
  if input.lockFree then
    let ended := recoverAmaAutomationLocked maxAttempts input
      { state := world.saved, saved := world.saved, events := world.events }
    { saved := ended.saved, events := ended.events }
  else world

def run (maxAttempts : Nat) (world : RecoveryWorld) (inputs : List RecoveryInput) :
    RecoveryWorld :=
  inputs.foldl (recoverAmaAutomation maxAttempts) world

end RecoveryWorld

namespace RecoveryEvent

def repairs (key : String) : RecoveryEvent → Bool
  | .repair other deferred _ => other = key && !deferred
  | _ => false

/-- What takes one of the attempts of a head. -/
def spends : RecoveryEvent → Bool
  | .repair _ deferred _ => !deferred
  | .hammer dispatched _ => dispatched
  | .rereview triggered _ => triggered
  | _ => false

def permitted : RecoveryEvent → Bool
  | .repair _ _ selected =>
    selected.action ≠ "done" && selected.action ≠ "operator-hold" && !selected.deferred
  | .hammer _ selected | .rereview _ selected =>
    selected.intent = "dispatch" && !selected.deferred
  | _ => true

end RecoveryEvent

def RecoveryInput.crashFree (input : RecoveryInput) : Bool :=
  !input.repairStatus.isCrash && !input.repair.isCrash && !input.rereview.isCrash &&
    !input.hammer.isCrash && !input.page.isCrash && !input.reclaim.isCrash

def RecoveryState.reserved (state : RecoveryState) : List String := state.repairs.map Prod.fst

/-- Nothing that was counted, reserved or paged is taken back. -/
structure RecoveryState.Grows (before after : RecoveryState) : Prop where
  attempts : before.attempts ≤ after.attempts
  reserved : before.reserved ⊆ after.reserved
  paged : before.pagedReasons ⊆ after.pagedReasons

/-- What the state of a head says of what has been done for it. Without a crash (`calm`) every
attempt that was spent is counted, and every page is remembered. -/
structure Recorded (maxAttempts : Nat) (calm : Bool) (state : RecoveryState)
    (events : List RecoveryEvent) : Prop where
  reserved : ∀ key selected, .repair key false selected ∈ events → key ∈ state.reserved
  once : ∀ key, events.countP (RecoveryEvent.repairs key) ≤ 1
  permitted : ∀ event ∈ events, event.permitted = true
  spent : calm = true → ∀ segment, segment <:+ events → .credit ∉ segment →
    segment.countP RecoveryEvent.spends ≤ state.attempts
  capped : calm = true → ∀ segment, segment <:+: events → .credit ∉ segment →
    segment.countP RecoveryEvent.spends ≤ maxAttempts
  paged : calm = true → ∀ reason, .paged reason ∈ events → reason ∈ state.pagedReasons
  pagedOnce : calm = true → ∀ reason, events.count (.paged reason) ≤ 1

variable {maxAttempts : Nat} {calm : Bool} {state next : RecoveryState}
  {events : List RecoveryEvent} {run : RecoveryRun}

theorem Recorded.grows (held : Recorded maxAttempts calm state events)
    (grows : state.Grows next) : Recorded maxAttempts calm next events :=
  ⟨fun key selected there => grows.reserved (held.reserved key selected there), held.once,
    held.permitted,
    fun quiet segment tail free => (held.spent quiet segment tail free).trans grows.attempts,
    held.capped, fun quiet reason there => grows.paged (held.paged quiet reason there),
    held.pagedOnce⟩

theorem Recorded.appends {event : RecoveryEvent} (held : Recorded maxAttempts calm state events)
    (allowed : event.permitted = true) (attempts : event ≠ .credit → state.attempts ≤ next.attempts)
    (reserved : state.reserved ⊆ next.reserved) (paged : state.pagedReasons ⊆ next.pagedReasons)
    (repair : ∀ key, event.repairs key = true → key ∉ state.reserved ∧ key ∈ next.reserved)
    (page : calm = true → ∀ reason, event = .paged reason →
      reason ∉ state.pagedReasons ∧ reason ∈ next.pagedReasons)
    (spend : calm = true → event.spends = true →
      state.attempts < next.attempts ∧ next.attempts ≤ maxAttempts) :
    Recorded maxAttempts calm next (events ++ [event]) where
  reserved := by
    intro key selected there
    rcases List.mem_append.mp there with before | here
    · exact reserved (held.reserved key selected before)
    · obtain rfl := List.mem_singleton.mp here
      exact (repair key (by simp [RecoveryEvent.repairs])).2
  once := by
    intro key
    rw [List.countP_append, List.countP_singleton]
    split
    next asked =>
      -- A repair that was not deferred before would have left its reservation.
      have fresh : events.countP (RecoveryEvent.repairs key) = 0 := by
        apply List.countP_eq_zero.mpr
        intro other there repaired
        cases other with
        | repair name deferred selected =>
          simp only [RecoveryEvent.repairs, Bool.and_eq_true, decide_eq_true_eq,
            Bool.not_eq_true'] at repaired
          obtain ⟨rfl, rfl⟩ := repaired
          exact (repair name asked).1 (held.reserved name selected there)
        | _ => cases repaired
      omega
    · exact held.once key
  permitted := by
    intro other there
    rcases List.mem_append.mp there with before | here
    · exact held.permitted other before
    · obtain rfl := List.mem_singleton.mp here
      exact allowed
  spent := by
    intro quiet segment tail free
    rcases List.suffix_concat_iff.mp tail with rfl | ⟨rest, rfl, before⟩
    · simp
    · have other : event ≠ .credit := fun same => free (by simp [same])
      have spared : RecoveryEvent.credit ∉ rest := fun there => free (by simp [there])
      have earlier := held.spent quiet rest before spared
      have later := attempts other
      rw [List.countP_append, List.countP_singleton]
      split
      next spending => exact Nat.le_trans (by omega) (spend quiet spending).1
      next => omega
  capped := by
    intro quiet segment inside free
    rcases List.infix_concat_iff.mp inside with tail | before
    · rcases List.suffix_concat_iff.mp tail with rfl | ⟨rest, rfl, before⟩
      · simp
      · have spared : RecoveryEvent.credit ∉ rest := fun there => free (by simp [there])
        rw [List.countP_append, List.countP_singleton]
        split
        next spending =>
          have earlier := held.spent quiet rest before spared
          have room := spend quiet spending
          omega
        next => exact held.capped quiet rest before.isInfix spared
    · exact held.capped quiet segment before free
  paged := by
    intro quiet reason there
    rcases List.mem_append.mp there with before | here
    · exact paged (held.paged quiet reason before)
    · exact (page quiet reason (List.mem_singleton.mp here).symm).2
  pagedOnce := by
    intro quiet reason
    rw [List.count_append, List.count_singleton]
    split
    next same =>
      have told := page quiet reason (by simpa using same)
      have fresh : events.count (.paged reason) = 0 :=
        List.count_eq_zero.mpr fun there => told.1 (held.paged quiet reason there)
      omega
    · exact held.pagedOnce quiet reason

structure Recovering (maxAttempts : Nat) (calm : Bool) (run : RecoveryRun) : Prop where
  recorded : Recorded maxAttempts calm run.state run.events
  agrees : run.saved = run.state

section

variable {input : RecoveryInput} (held : Recovering maxAttempts calm run)
include held

theorem Recovering.saves (grows : run.state.Grows next) :
    Recovering maxAttempts calm { state := next, saved := next, events := run.events } :=
  ⟨held.recorded.grows grows, rfl⟩

theorem Recovering.clearStall : Recovering maxAttempts calm run.clearStall := by
  unfold RecoveryRun.clearStall
  split
  · exact held.saves ⟨Nat.le_refl _, fun _ => id, fun _ => id⟩
  · exact held

theorem Recovering.charge : Recovering maxAttempts calm run.charge := by
  have charged : Recovering maxAttempts calm
      { state := { run.state with attempts := run.state.attempts + 1 }
        saved := { run.state with attempts := run.state.attempts + 1 }, events := run.events } :=
    held.saves ⟨Nat.le_succ _, fun _ => id, fun _ => id⟩
  have cleared := charged.clearStall
  unfold RecoveryRun.charge
  unfold RecoveryRun.clearStall at cleared ⊢
  split
  next stuck =>
    rw [if_pos stuck] at cleared
    exact cleared
  next free =>
    rw [if_neg free] at cleared
    exact cleared

theorem Recovering.exhausted (quiet : calm = true → input.page.isCrash = false)
    (refusalKey : Option String) :
    Recovering maxAttempts calm (exhausted input refusalKey run) := by
  unfold Ama.exhausted
  dsimp only
  generalize exhaustionReason input refusalKey run = reason
  have noted : Recovering maxAttempts calm
      (if run.state.event = some reason then run
      else ({ run with state.event := some reason } : RecoveryRun).save) := by
    split
    · exact held
    · exact held.saves ⟨Nat.le_refl _, fun _ => id, fun _ => id⟩
  generalize (if run.state.event = some reason then run
      else ({ run with state.event := some reason } : RecoveryRun).save) = started at noted
  split
  · exact noted
  next fresh =>
    cases answer : input.page with
    | answered done =>
      refine ⟨noted.recorded.appends rfl (fun _ => Nat.le_refl _) (fun _ => id) ?_ ?_ ?_ ?_, rfl⟩
      · exact fun other there => List.mem_append_left _ there
      · exact fun key repaired => absurd repaired (by simp [RecoveryEvent.repairs])
      · rintro - other same
        obtain rfl := RecoveryEvent.paged.inj same
        exact ⟨fresh, List.mem_append_right _ List.mem_cons_self⟩
      · exact fun _ spending => absurd spending (by simp [RecoveryEvent.spends])
    | failed aborted message => exact noted.saves ⟨Nat.le_refl _, fun _ => id, fun _ => id⟩
    | crashed done =>
      -- The page may have been delivered, and nothing says so.
      have crash : calm ≠ true := fun calm => by simpa [answer, Awaited.isCrash] using quiet calm
      dsimp only
      split
      · refine ⟨noted.recorded.appends rfl (fun _ => Nat.le_refl _) (fun _ => id) (fun _ => id)
          ?_ (fun calm => absurd calm crash) (fun calm => absurd calm crash), noted.agrees⟩
        exact fun key repaired => absurd repaired (by simp [RecoveryEvent.repairs])
      · exact noted

theorem Recovering.stalled (quiet : calm = true → input.page.isCrash = false) :
    Recovering maxAttempts calm (stalled input run) := by
  have grows : run.state.Grows { run.state with
      blockedSince := some (run.state.blockedSince.getD input.blockedNow) } :=
    ⟨Nat.le_refl _, fun _ => id, fun _ => id⟩
  have blocked := held.saves grows
  unfold Ama.stalled
  dsimp only
  split
  · exact blocked.exhausted quiet none
  · exact blocked

theorem Recovering.noteRepair (key : String) (change : ReservedRepair → ReservedRepair) :
    Recovering maxAttempts calm (noteRepair key change run) := by
  have same : RecoveryState.reserved { run.state with
      repairs := run.state.repairs.map fun entry =>
        if entry.1 = key then (entry.1, change entry.2) else entry } = run.state.reserved := by
    simp only [RecoveryState.reserved, List.map_map]
    apply List.map_congr_left
    intro entry there
    simp only [Function.comp_apply]
    split <;> rfl
  exact held.saves ⟨Nat.le_refl _, fun name there => by rw [same]; exact there, fun _ => id⟩

theorem Recovering.priorRepair (quiet : calm = true → input.page.isCrash = false) (key : String)
    (prior : ReservedRepair) : Recovering maxAttempts calm (priorRepair input key prior run) := by
  unfold Ama.priorRepair
  split
  · split
    · exact held.clearStall
    · exact held
    · exact held.exhausted quiet _
  · exact held.exhausted quiet _

theorem Recovering.creditInfrastructure :
    Recovering maxAttempts calm (creditInfrastructure input run) := by
  unfold Ama.creditInfrastructure
  split
  next recovered given =>
    split
    · refine ⟨held.recorded.appends rfl (fun other => absurd rfl other) (fun _ => id)
        (fun _ => id) ?_ ?_ ?_, rfl⟩
      · exact fun key repaired => absurd repaired (by simp [RecoveryEvent.repairs])
      · exact fun _ reason paged => absurd paged (by simp)
      · exact fun _ spending => absurd spending (by simp [RecoveryEvent.spends])
    · exact held
  next => exact held

end

namespace RecoveryRun

@[simp] theorem charge_attempts (run : RecoveryRun) :
    run.charge.state.attempts = run.state.attempts + 1 := by
  unfold charge clearStall
  split <;> rfl

@[simp] theorem charge_repairs (run : RecoveryRun) :
    run.charge.state.repairs = run.state.repairs := by
  unfold charge clearStall
  split <;> rfl

@[simp] theorem charge_paged (run : RecoveryRun) :
    run.charge.state.pagedReasons = run.state.pagedReasons := by
  unfold charge clearStall
  split <;> rfl

@[simp] theorem charge_events (run : RecoveryRun) : run.charge.events = run.events := by
  unfold charge clearStall
  split <;> rfl

@[simp] theorem charge_saved (run : RecoveryRun) : run.charge.saved = run.charge.state := rfl

end RecoveryRun

section

variable {input : RecoveryInput} (held : Recovering maxAttempts calm run)
  (quiet : calm = true → input.crashFree = true)

theorem page_quiet (free : input.crashFree = true) : input.page.isCrash = false := by
  simp only [RecoveryInput.crashFree, Bool.and_eq_true, Bool.not_eq_true'] at free
  exact free.1.2

include held quiet

/-- A repair that is reserved now, charged and called, and not known to be deferred. -/
theorem Recovering.dispatchRepair {refusal : RecoveryRefusal}
    (acts : input.selected.action ≠ "done" ∧ input.selected.action ≠ "operator-hold" ∧
      input.selected.deferred = false)
    (fresh : refusal.key ∉ run.state.reserved) (room : run.state.attempts < maxAttempts) :
    Recovering maxAttempts calm (dispatchRepair input refusal ({ run with
      state.repairs := run.state.repairs ++
        [(refusal.key, { reservedAt := input.reserveNow })] } : RecoveryRun).charge) := by
  have silent := fun calm => page_quiet (quiet calm)
  generalize reservation : ({ run with
      state.repairs := run.state.repairs ++
        [(refusal.key, { reservedAt := input.reserveNow })] } : RecoveryRun).charge = charged
  have attempts : charged.state.attempts = run.state.attempts + 1 := by simp [← reservation]
  have repairs : charged.state.repairs = run.state.repairs ++
      [(refusal.key, { reservedAt := input.reserveNow })] := by simp [← reservation]
  have paged : charged.state.pagedReasons = run.state.pagedReasons := by simp [← reservation]
  have events : charged.events = run.events := by simp [← reservation]
  have saved : charged.saved = charged.state := by simp [← reservation]
  have allowed (deferred : Bool) :
      (RecoveryEvent.repair refusal.key deferred input.selected).permitted = true := by
    simp [RecoveryEvent.permitted, acts]
  -- However it ends, the reservation and its charge were saved before the call.
  have called (deferred : Bool) : Recovering maxAttempts calm
      (charged.did (.repair refusal.key deferred input.selected)) := by
    refine ⟨?_, saved⟩
    unfold RecoveryRun.did
    dsimp only
    rw [events]
    apply held.recorded.appends (allowed deferred)
    · intro _
      omega
    · intro key there
      simp only [RecoveryState.reserved, repairs, List.map_append]
      exact List.mem_append_left _ there
    · exact fun reason there => paged ▸ there
    · intro key repaired
      simp only [RecoveryEvent.repairs, Bool.and_eq_true, decide_eq_true_eq] at repaired
      obtain rfl := repaired.1
      exact ⟨fresh, by simp [RecoveryState.reserved, repairs]⟩
    · exact fun _ reason same => absurd same (by simp)
    · intro _ _
      omega
  unfold Ama.dispatchRepair
  cases answer : input.repair with
  | answered receipt =>
    dsimp only
    split
    next deferral =>
      -- The reservation and the charge are both taken back.
      apply Recovering.clearStall
      refine ⟨?_, rfl⟩
      unfold RecoveryRun.did RecoveryRun.save
      dsimp only
      rw [events, deferral]
      apply held.recorded.appends (allowed true)
      · intro _
        dsimp only
        omega
      · intro key there
        have other : key ≠ refusal.key := fun same => fresh (same ▸ there)
        obtain ⟨entry, inside, rfl⟩ := List.mem_map.mp there
        simp only [RecoveryState.reserved, repairs]
        exact List.mem_map_of_mem (List.mem_filter.mpr
          ⟨List.mem_append_left _ inside, by simpa using other⟩)
      · exact fun reason there => paged ▸ there
      · exact fun key repaired => absurd repaired (by simp [RecoveryEvent.repairs])
      · exact fun _ reason same => absurd same (by simp)
      · exact fun _ spending => absurd spending (by simp [RecoveryEvent.spends])
    next =>
      have received := (called receipt.deferral).noteRepair refusal.key fun prior =>
        { reservedAt := receipt.reservedAt.getD prior.reservedAt
          launchRequestId := receipt.launchRequestId <|> prior.launchRequestId
          reason := receipt.reason <|> prior.reason }
      split
      · exact received.clearStall
      · exact received.exhausted silent _
  | failed aborted message =>
    have received := (called false).noteRepair refusal.key fun prior =>
      { prior with reason := some message }
    dsimp only
    split
    · exact received
    · exact received.exhausted silent _
  | crashed done => exact called _

theorem Recovering.recoverRefusal
    (acts : input.selected.action ≠ "done" ∧ input.selected.action ≠ "operator-hold" ∧
      input.selected.deferred = false) :
    Recovering maxAttempts calm (recoverRefusal maxAttempts input run) := by
  have silent := fun calm => page_quiet (quiet calm)
  unfold Ama.recoverRefusal
  split
  · exact held.exhausted silent _
  next refusal given =>
    split
    · exact held.exhausted silent _
    · split
      · exact held.priorRepair silent _ _
      next unreserved =>
        split
        · exact held.exhausted silent _
        next room =>
          apply held.dispatchRepair quiet acts ?_ (Nat.lt_of_not_le room)
          intro there
          obtain ⟨entry, inside, same⟩ := List.mem_map.mp there
          exact absurd (beq_iff_eq.mpr same.symm) (by
            simpa using List.lookup_eq_none_iff.mp unreserved entry inside)

end

section

variable {input : RecoveryInput} {event : RecoveryEvent} {after : RecoveryRun}

theorem Recorded.clearStall (held : Recorded maxAttempts calm run.state run.events) :
    Recorded maxAttempts calm run.clearStall.state run.clearStall.events := by
  unfold RecoveryRun.clearStall
  split
  · exact held.grows ⟨Nat.le_refl _, fun _ => id, fun _ => id⟩
  · exact held

/-- Only a hammer's or a review's call has been made since. -/
structure Called (run after : RecoveryRun) (event : RecoveryEvent) : Prop where
  events : after.events = run.events ++ [event]
  attempts : after.state.attempts = run.state.attempts
  repairs : after.state.repairs = run.state.repairs
  paged : after.state.pagedReasons = run.state.pagedReasons
  permitted : event.permitted = true
  repaired : ∀ key, event.repairs key = false
  unpaged : ∀ reason, event ≠ .paged reason

section

variable (held : Recovering maxAttempts calm run)
include held

theorem Recovering.called
    (call : Called run after event) (free : calm = true → event.spends = false) :
    Recorded maxAttempts calm after.state after.events := by
  rw [call.events]
  apply held.recorded.appends call.permitted
  · exact fun _ => call.attempts.ge
  · unfold RecoveryState.reserved
    rw [call.repairs]
    exact fun _ => id
  · rw [call.paged]
    exact fun _ => id
  · exact fun key repaired => absurd repaired (by simp [call.repaired])
  · exact fun _ reason same => absurd same (call.unpaged reason)
  · exact fun quiet spending => absurd spending (by simp [free quiet])

theorem Recovering.charged
    (call : Called run after event) (room : run.state.attempts < maxAttempts) :
    Recovering maxAttempts calm after.charge := by
  refine ⟨?_, rfl⟩
  rw [RecoveryRun.charge_events, call.events]
  have attempts := call.attempts
  apply held.recorded.appends call.permitted
  · intro _
    rw [RecoveryRun.charge_attempts]
    omega
  · unfold RecoveryState.reserved
    rw [RecoveryRun.charge_repairs, call.repairs]
    exact fun _ => id
  · rw [RecoveryRun.charge_paged, call.paged]
    exact fun _ => id
  · exact fun key repaired => absurd repaired (by simp [call.repaired])
  · exact fun _ reason same => absurd same (call.unpaged reason)
  · intro _ _
    rw [RecoveryRun.charge_attempts]
    omega

section

variable (quiet : calm = true → input.crashFree = true)
include quiet

theorem Recovering.recoverReview
    (acts : input.selected.intent = "dispatch" ∧ input.selected.deferred = false)
    (room : run.state.attempts < maxAttempts) :
    Recovering maxAttempts calm (recoverReview input run) := by
  have silent := fun calm => page_quiet (quiet calm)
  have started : Recovering maxAttempts calm ({ run with
      state.rereviewBaseline := some input.reviewStamp
      state.rereviewRequestedAt := input.requestNow } : RecoveryRun).save :=
    held.saves ⟨Nat.le_refl _, fun _ => id, fun _ => id⟩
  have uncharged : ({ run with
      state.rereviewBaseline := some input.reviewStamp
      state.rereviewRequestedAt := input.requestNow } : RecoveryRun).save.state.attempts <
        maxAttempts := room
  have allowed (triggered : Bool) :
      (RecoveryEvent.rereview triggered input.selected).permitted = true := by
    simp [RecoveryEvent.permitted, acts]
  unfold Ama.recoverReview
  dsimp only
  generalize ({ run with
      state.rereviewBaseline := some input.reviewStamp
      state.rereviewRequestedAt := input.requestNow } : RecoveryRun).save = asked at *
  have call (triggered pending : Bool) : Called asked
      { asked.did (.rereview triggered input.selected) with
        state.rereviewPending := pending } (.rereview triggered input.selected) :=
    ⟨rfl, rfl, rfl, rfl, allowed triggered, fun _ => rfl, by simp⟩
  have made : Called asked (asked.did (.rereview false input.selected))
      (.rereview false input.selected) :=
    ⟨rfl, rfl, rfl, rfl, allowed false, fun _ => rfl, by simp⟩
  cases answer : input.rereview with
  | answered rereview =>
    dsimp only
    cases triggered : rereview.triggered with
    | true =>
      have charged := started.charged (call true (true || rereview.alreadyPending)) uncharged
      rw [if_pos (by simp)]
      exact charged.saves ⟨Nat.le_refl _, fun _ => id, fun _ => id⟩
    | false =>
      -- Nothing was spent: the answer is only saved.
      have answered := started.called (call false (false || rereview.alreadyPending))
        fun _ => rfl
      cases pending : rereview.alreadyPending with
      | true =>
        rw [pending] at answered
        exact ⟨answered.clearStall, rfl⟩
      | false =>
        rw [pending] at answered
        exact Recovering.stalled ⟨answered, rfl⟩ silent
  | failed aborted message =>
    have failed : Recovering maxAttempts calm (asked.did (.rereview false input.selected)) :=
      ⟨started.called made fun _ => rfl, started.agrees⟩
    dsimp only
    split
    · exact failed
    · exact failed.charge.stalled silent
  | crashed done =>
    have crash : calm ≠ true := fun calm => by
      simpa [RecoveryInput.crashFree, answer, Awaited.isCrash] using quiet calm
    exact ⟨started.called ⟨rfl, rfl, rfl, rfl, allowed _, fun _ => rfl, by simp⟩
      fun calm => absurd calm crash, started.agrees⟩

theorem Recovering.recoverHammer
    (acts : input.selected.intent = "dispatch" ∧ input.selected.deferred = false)
    (room : run.state.attempts < maxAttempts) :
    Recovering maxAttempts calm (recoverHammer input run) := by
  have silent := fun calm => page_quiet (quiet calm)
  have call (dispatched : Bool) : Called run (run.did (.hammer dispatched input.selected))
      (.hammer dispatched input.selected) :=
    ⟨rfl, rfl, rfl, rfl, by simp [RecoveryEvent.permitted, acts], fun _ => rfl, by simp⟩
  have refused : Recovering maxAttempts calm (run.did (.hammer false input.selected)) :=
    ⟨held.called (call false) fun _ => rfl, held.agrees⟩
  unfold Ama.recoverHammer
  cases answer : input.hammer with
  | answered retry =>
    dsimp only
    cases dispatched : retry.dispatched with
    | true => exact held.charged (call true) room
    | false =>
      rw [if_neg (by simp)]
      split
      · exact refused.clearStall
      · exact refused.stalled silent
  | failed aborted message =>
    dsimp only
    split
    · exact refused
    · exact refused.charge.stalled silent
  | crashed done =>
    -- The hammer may have been dispatched, and nothing says so.
    have crash : calm ≠ true := fun calm => by
      simpa [RecoveryInput.crashFree, answer, Awaited.isCrash] using quiet calm
    exact ⟨held.called (call _) fun calm => absurd calm crash, held.agrees⟩

theorem Recovering.recoverSelected :
    Recovering maxAttempts calm (recoverSelected maxAttempts input run) := by
  have silent := fun calm => page_quiet (quiet calm)
  unfold Ama.recoverSelected
  dsimp only
  split
  · split
    · exact held.clearStall
    · exact held.stalled silent
  next acting =>
    have acts : input.selected.intent = "dispatch" ∧ input.selected.deferred = false := by
      simpa using acting
    split
    · exact held.stalled silent
    next room =>
      split
      · exact held.recoverReview quiet acts (Nat.lt_of_not_le room)
      · split
        · exact held.recoverHammer quiet acts (Nat.lt_of_not_le room)
        · exact held.stalled silent

theorem Recovering.recoverRow :
    Recovering maxAttempts calm (recoverRow maxAttempts input run) := by
  have silent := fun calm => page_quiet (quiet calm)
  have credited : Recovering maxAttempts calm (Ama.creditInfrastructure input run) :=
    held.creditInfrastructure
  unfold Ama.recoverRow
  dsimp only
  generalize Ama.creditInfrastructure input run = run at credited
  split
  · exact credited.clearStall
  · split
    · split
      · exact credited.exhausted silent none
      · exact credited
    · have settled : Recovering maxAttempts calm
          (if run.state.rereviewPending then
            ({ run with state.rereviewPending := false } : RecoveryRun).save else run) := by
        split
        · exact credited.saves ⟨Nat.le_refl _, fun _ => id, fun _ => id⟩
        · exact credited
      split
      · exact settled
      · exact settled.recoverSelected quiet

theorem Recovering.locked :
    Recovering maxAttempts calm (recoverAmaAutomationLocked maxAttempts input run) := by
  unfold recoverAmaAutomationLocked
  dsimp only
  split
  · exact held
  next acting =>
    split
    · exact held.clearStall
    · split
      next structural =>
        exact held.recoverRefusal quiet ⟨fun done => acting (.inl done),
          fun parked => acting (.inr parked), structural.2.2.2⟩
      · split
        · exact Recovering.clearStall ⟨held.recorded, rfl⟩
        · exact held.recoverRow quiet

end

end

end

theorem recorded_run (inputs : List RecoveryInput) (world : RecoveryWorld)
    (held : Recorded maxAttempts calm world.saved world.events)
    (quiet : calm = true → ∀ input ∈ inputs, input.crashFree = true) :
    Recorded maxAttempts calm (world.run maxAttempts inputs).saved
      (world.run maxAttempts inputs).events := by
  induction inputs generalizing world with
  | nil => exact held
  | cons input rest ih =>
    have first := fun calm => quiet calm input List.mem_cons_self
    have others := fun calm other there => quiet calm other (List.mem_cons_of_mem input there)
    apply ih _ _ others
    unfold RecoveryWorld.recoverAmaAutomation
    split
    · have ended : Recovering maxAttempts calm (recoverAmaAutomationLocked maxAttempts input
          { state := world.saved, saved := world.saved, events := world.events }) :=
        Recovering.locked ⟨held, rfl⟩ first
      dsimp only
      rw [ended.agrees]
      exact ended.recorded
    · exact held

theorem recorded_empty (state : RecoveryState) : Recorded maxAttempts calm state [] where
  reserved := by simp
  once := by simp
  permitted := by simp
  spent := by
    intro _ segment tail _
    simp [List.suffix_nil.mp tail]
  capped := by
    intro _ segment inside _
    simp [List.infix_nil.mp inside]
  paged := by simp
  pagedOnce := by simp

/-- Wherever the calls for a head are cut, a refusal is repaired once, and only a selected
action that may be dispatched is. Where none is cut, recovery stays within its attempts from one
credit to the next, and pages once for a reason. -/
theorem recovery_bounded (maxAttempts : Nat) (saved : RecoveryState) (inputs : List RecoveryInput) :
    let ended := RecoveryWorld.run maxAttempts { saved } inputs
    (∀ key, ended.events.countP (RecoveryEvent.repairs key) ≤ 1) ∧
    (∀ event ∈ ended.events, event.permitted = true) ∧
    ((∀ input ∈ inputs, input.crashFree = true) →
      (∀ segment, segment <:+: ended.events → .credit ∉ segment →
        segment.countP RecoveryEvent.spends ≤ maxAttempts) ∧
      ∀ reason, ended.events.count (.paged reason) ≤ 1) := by
  dsimp only
  have started (calm : Bool) : Recorded maxAttempts calm saved [] := recorded_empty saved
  have cut := recorded_run inputs { saved } (started false) (by simp)
  refine ⟨cut.once, cut.permitted, fun whole => ?_⟩
  have calm := recorded_run inputs { saved } (started true) fun _ => whole
  exact ⟨calm.capped rfl, calm.pagedOnce rfl⟩

def hammerCall : RecoveryInput where
  selected := { action := "hammer", actor := "hammer", intent := "dispatch" }
  hammer := .answered { dispatched := true }

/-- Of three calls, the last finds the attempts spent. -/
theorem recovery_bounded_hammers :
    let ended := RecoveryWorld.run 2 { saved := {} } [hammerCall, hammerCall, hammerCall]
    ended.events.countP RecoveryEvent.spends = 2 ∧
    (∀ segment, segment <:+: ended.events → .credit ∉ segment →
      segment.countP RecoveryEvent.spends ≤ 2) ∧
    ∀ reason, ended.events.count (.paged reason) ≤ 1 :=
  ⟨by decide, (recovery_bounded 2 {} [hammerCall, hammerCall, hammerCall]).2.2 (by decide)⟩

end AdversarialReview.Ama
