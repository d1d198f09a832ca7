import AdversarialReview.Library.JsNumber

/-! The ledger of a pull request's hammer dispatches, and the calls that change it. -/

namespace AdversarialReview.Ama

/-- Which budgets something is about. -/
structure Budgets where
  pr : Bool := false
  head : Bool := false
  lifetime : Bool := false
  transient : Bool := false

inductive Budget where
  | pr
  | head
  | lifetime
  | transient
  deriving DecidableEq

def Budgets.has (budgets : Budgets) : Budget → Bool
  | .pr => budgets.pr
  | .head => budgets.head
  | .lifetime => budgets.lifetime
  | .transient => budgets.transient

def Budgets.join (before credited : Budgets) : Budgets where
  pr := before.pr || credited.pr
  head := before.head || credited.head
  lifetime := before.lifetime || credited.lifetime
  transient := before.transient || credited.transient

structure DispatchCharge where
  launchRequestId : Option String
  attempt : Nat := 1
  targetEpoch : String
  refundedBudgets : Budgets := {}
  jobKey : Option String
  headSha : Option String
  transientGrantId : Option String

inductive ApprovalState where
  | pending
  | consumed
  deriving DecidableEq

/-- One more admission that an operator approved, with its time where that is a date. -/
structure ApprovalRearm where
  state : ApprovalState
  jobKey : Option String
  grantedAt : Option Int

/-- A transient grant that no charge has taken up yet. -/
structure TransientCharge where
  id : String
  headSha : String
  jobKey : Option String

structure HammerLedger where
  jobKey : Option String
  attemptCount : Int
  lifetimeAttemptCount : Nat
  targetRemediationSha : Option String
  targetChargeEpoch : String
  targetAttemptCount : Nat
  retryable : Nat := 0
  retryableLaunchRequestIds : List String := []
  deferralLaunches : List String := []
  leaseWaitLaunches : List String := []
  leaseWaitExhausted : Bool := false
  lifetimeDeferralRefundCount : Nat := 0
  transientRetryHeads : List (String × Nat) := []
  unexecutedLaunchRequestIds : List String := []
  closerDispatchedHeads : List String := []
  chargedDispatchKeys : List String := []
  dispatchCharges : List (String × DispatchCharge) := []
  noWorkRefunds : List (String × Budgets) := []
  pendingTransientCharge : Option TransientCharge := none
  operatorApprovalRearms : List (String × ApprovalRearm) := []
  /-- The launch that the one replacement was for. -/
  phaseInputsReplacement : Option (Option String) := none
  nonCloserHeadResets : List String := []
  lastDispatchedHeadSha : Option String := none
  suppressed : Bool := false
  lifetimeSuppressed : Bool := false
  targetSuppressed : Bool := false

def hammerRetryCapTotalDispatches : Nat := 2

def hammerRetryCapLifetimeTotalDispatches : Nat := 4

def hammerExitedWithoutCloseRetryBudget : Int := 1

def hammerTransientRetryPerHead : Int := 1

def hammerDeferralLaunchLimit : Nat := 12

def lifetimeDeferralRefundBudget : Nat := hammerDeferralLaunchLimit

def normalizeKey (value : Option String) : Option String :=
  let trimmed := jsTrim (value.getD "")
  if trimmed = "" then none else some trimmed

def objectKey (key : Option String) : String := key.getD "null"

def given (value : Option String) : Bool := value.any fun text => text ≠ ""

section

variable {α : Type}

def valueAt? (entries : List (String × α)) (key : String) : Option α :=
  (entries.find? fun entry => entry.1 = key).map Prod.snd

def keyChanged (known incoming : Option String) : Bool :=
  known.isSome && incoming.isSome && known ≠ incoming

end

def normalizeHammerLifetimeDispatchCeiling (value : Option Int) : Nat :=
  match value with
  | some ceiling => if 0 ≤ ceiling then ceiling.toNat else hammerRetryCapLifetimeTotalDispatches
  | none => hammerRetryCapLifetimeTotalDispatches

/-- What the cap says about a dispatch. -/
structure CapDecision where
  jobKeyChanged : Bool
  nextAttemptCount : Int
  nextLifetimeCount : Nat
  nextTargetAttemptCount : Nat
  lifetimeCapExhausted : Bool
  capExhausted : Bool
  operatorApprovalApplied : Bool

def approvalApplies (ledger : HammerLedger) (jobKey headSha : Option String) (ceiling : Nat) :
    Bool :=
  0 < ceiling && headSha.isSome && jobKey.isSome &&
    !keyChanged (normalizeKey ledger.jobKey) jobKey && ledger.lastDispatchedHeadSha = headSha &&
    ((valueAt? ledger.operatorApprovalRearms (objectKey headSha)).any fun approval =>
      approval.state = .pending && approval.jobKey = jobKey && approval.grantedAt.isSome) &&
    0 ≤ ledger.attemptCount

def evaluateHammerRetryCap (ledger : Option HammerLedger) (jobKey headSha : Option String)
    (lifetimeDispatchCeiling : Option Int) : CapDecision :=
  let ceiling := normalizeHammerLifetimeDispatchCeiling lifetimeDispatchCeiling
  let jobKey := normalizeKey jobKey
  let headSha := normalizeKey headSha
  match ledger with
  | none =>
    { jobKeyChanged := false, nextAttemptCount := 1, nextLifetimeCount := 1,
      nextTargetAttemptCount := 1, lifetimeCapExhausted := decide (ceiling < 1),
      capExhausted := decide (ceiling < 1), operatorApprovalApplied := false }
  | some ledger =>
    let changed := keyChanged (normalizeKey ledger.jobKey) jobKey
    let nextAttempt := (if changed then 0 else max 0 ledger.attemptCount) + 1
    let nextLifetime := ledger.lifetimeAttemptCount + 1
    let lifetimeExhausted := ledger.lifetimeSuppressed || decide (ceiling < nextLifetime)
    let target := normalizeKey ledger.targetRemediationSha
    let targetChanged := keyChanged target headSha
    let nextTarget := (if targetChanged || target.isNone then 0 else ledger.targetAttemptCount) + 1
    let targetExhausted := (ledger.targetSuppressed && !targetChanged) ||
      decide (hammerRetryCapTotalDispatches < nextTarget)
    let exhausted := (ledger.suppressed && !changed) ||
      decide ((hammerRetryCapTotalDispatches : Int) < nextAttempt) || targetExhausted ||
      lifetimeExhausted
    let approved := approvalApplies ledger jobKey headSha ceiling
    { jobKeyChanged := changed
      nextAttemptCount := nextAttempt
      nextLifetimeCount := nextLifetime
      nextTargetAttemptCount := nextTarget
      lifetimeCapExhausted := !approved && lifetimeExhausted
      capExhausted := !approved && exhausted
      operatorApprovalApplied := approved }

/-- What a dispatch is recorded with; the identifier is a fresh random one. -/
structure DispatchOptions where
  jobKey : Option String
  headSha : Option String
  dispatchKey : Option String := none
  launchRequestId : Option String := none
  preserveSuppression : Bool := false
  lifetimeDispatchCeiling : Option Int := none
  uuid : String

def DispatchOptions.chargeKey (options : DispatchOptions) : Option String :=
  normalizeKey options.dispatchKey <|> normalizeKey options.launchRequestId

def ofLaunch (launchRequestId : Option String) (entry : String × DispatchCharge) : Bool :=
  entry.2.launchRequestId = launchRequestId

def priorCharge (ledger : HammerLedger) (options : DispatchOptions) :
    Option (String × DispatchCharge) :=
  (ledger.dispatchCharges.find? fun entry => entry.1 = objectKey options.chargeKey) <|>
    if given options.launchRequestId then
      ledger.dispatchCharges.find? (ofLaunch options.launchRequestId)
    else none

def keyCharged (ledger : HammerLedger) (dispatchKey : Option String) : Bool :=
  dispatchKey.any fun key => ledger.chargedDispatchKeys.contains key

def editEntry {α : Type} (edit : α → α) (key : String) (entries : List (String × α)) :
    List (String × α) :=
  entries.map fun entry => if entry.1 = key then (entry.1, edit entry.2) else entry

def addHead (heads : List String) (head : Option String) : List String :=
  match head with
  | some head => if heads.contains head then heads else heads ++ [head]
  | none => heads

/-- The members that belong to a series, carried or left behind. -/
def carrySeries (ledger : HammerLedger) (jobKeyChanged : Bool) : HammerLedger :=
  { ledger with
    retryable := if jobKeyChanged then 0 else ledger.retryable
    retryableLaunchRequestIds := if jobKeyChanged then [] else ledger.retryableLaunchRequestIds
    deferralLaunches := if jobKeyChanged then [] else ledger.deferralLaunches
    leaseWaitLaunches := if jobKeyChanged then [] else ledger.leaseWaitLaunches
    leaseWaitExhausted := !jobKeyChanged && ledger.leaseWaitExhausted
    lifetimeDeferralRefundCount :=
      min lifetimeDeferralRefundBudget ledger.lifetimeDeferralRefundCount
    transientRetryHeads := ledger.transientRetryHeads.filter fun entry => 0 < entry.2 }

/-- The pull request's ledger before anything was recorded. -/
def emptyLedger (uuid : String) : HammerLedger where
  jobKey := none
  attemptCount := 0
  lifetimeAttemptCount := 0
  targetRemediationSha := none
  targetChargeEpoch := uuid
  targetAttemptCount := 0

def targetShaChanged (existing : Option HammerLedger) (head : Option String) : Bool :=
  existing.any fun ledger => keyChanged (normalizeKey ledger.targetRemediationSha) head

def withCharge (ledger : HammerLedger) (options : DispatchOptions) : HammerLedger :=
  match options.chargeKey with
  | none => ledger
  | some key =>
    let head := normalizeKey options.headSha
    let transient := ledger.pendingTransientCharge.filter fun pending =>
      some pending.headSha = head && pending.jobKey = ledger.jobKey
    { ledger with
      dispatchCharges := OrderedMap.setEntries key
        { launchRequestId := normalizeKey options.launchRequestId
          targetEpoch := ledger.targetChargeEpoch
          jobKey := ledger.jobKey
          headSha := head
          transientGrantId := transient.map TransientCharge.id } ledger.dispatchCharges
      pendingTransientCharge :=
        if transient.isSome then none else ledger.pendingTransientCharge }

def consumeApproval (ledger : HammerLedger) (head : Option String) : HammerLedger :=
  { ledger with
    operatorApprovalRearms := editEntry (fun approval =>
      if approval.state = .pending && approval.jobKey = ledger.jobKey then
        { approval with state := .consumed }
      else approval) (objectKey head) ledger.operatorApprovalRearms }

def recordedLedger (existing : Option HammerLedger) (options : DispatchOptions) : HammerLedger :=
  let decision := evaluateHammerRetryCap existing options.jobKey options.headSha
    options.lifetimeDispatchCeiling
  let head := normalizeKey options.headSha
  let before := existing.getD (emptyLedger options.uuid)
  let kept := before.suppressed && options.preserveSuppression
  let recorded := { carrySeries before decision.jobKeyChanged with
    jobKey := normalizeKey options.jobKey <|> normalizeKey before.jobKey
    attemptCount := decision.nextAttemptCount
    lifetimeAttemptCount := decision.nextLifetimeCount
    targetRemediationSha := head <|> normalizeKey before.targetRemediationSha
    targetChargeEpoch :=
      if targetShaChanged existing head then options.uuid else before.targetChargeEpoch
    targetAttemptCount :=
      if targetShaChanged existing head then 1 else decision.nextTargetAttemptCount
    closerDispatchedHeads :=
      addHead (if decision.jobKeyChanged then [] else before.closerDispatchedHeads) head
    chargedDispatchKeys := before.chargedDispatchKeys ++
      (if given options.dispatchKey then options.dispatchKey.toList else [])
    lastDispatchedHeadSha := head <|> before.lastDispatchedHeadSha
    suppressed := kept
    lifetimeSuppressed := before.lifetimeSuppressed && options.preserveSuppression
    targetSuppressed := before.targetSuppressed && options.preserveSuppression }
  withCharge (consumeApproval recorded head) options

def recordHammerRetryDispatch (existing : Option HammerLedger) (options : DispatchOptions) :
    Except String (Option HammerLedger) :=
  match existing with
  | none => .ok (some (recordedLedger none options))
  | some ledger =>
    match priorCharge ledger options with
    | some (key, charge) =>
      if charge.jobKey ≠ normalizeKey options.jobKey ||
          charge.headSha ≠ normalizeKey options.headSha ||
          (given charge.launchRequestId && given options.launchRequestId &&
            charge.launchRequestId ≠ options.launchRequestId) then
        .error "hammer charge identity mismatch"
      else if !given charge.launchRequestId && given options.launchRequestId then
        .ok (some { ledger with
          dispatchCharges := OrderedMap.setEntries key
            { charge with launchRequestId := options.launchRequestId } ledger.dispatchCharges })
      else .ok (some ledger)
    | none =>
      if given options.dispatchKey && keyCharged ledger options.dispatchKey then .ok (some ledger)
      else .ok (some (recordedLedger (some ledger) options))

/-- Spend the budget of a repair before it is submitted; whether it was spent now. -/
def reserveHammerRepairDispatch (existing : Option HammerLedger) (options : DispatchOptions) :
    Except String (Bool × Option HammerLedger) :=
  if existing.any fun ledger => keyCharged ledger options.dispatchKey then .ok (false, existing)
  else if (evaluateHammerRetryCap existing options.jobKey options.headSha
      options.lifetimeDispatchCeiling).capExhausted then .ok (false, existing)
  else do
    let recorded ← recordHammerRetryDispatch existing options
    return (true, recorded)

structure ExhaustionOptions where
  jobKey : Option String
  headSha : Option String
  attemptCount : Option Int := none
  lifetime : Bool := false
  target : Bool := false
  uuid : String

def markHammerRetryCapExhausted (existing : Option HammerLedger) (options : ExhaustionOptions) :
    HammerLedger :=
  let head := normalizeKey options.headSha
  let incoming := normalizeKey options.jobKey
  let before := existing.getD (emptyLedger options.uuid)
  let changed := keyChanged (normalizeKey before.jobKey) incoming
  { carrySeries before changed with
    jobKey := incoming <|> normalizeKey before.jobKey
    attemptCount := options.attemptCount.getD (max 0 before.attemptCount)
    targetRemediationSha := head <|> normalizeKey before.targetRemediationSha
    targetChargeEpoch :=
      if targetShaChanged existing head then options.uuid else before.targetChargeEpoch
    targetAttemptCount :=
      if targetShaChanged existing head then 0 else before.targetAttemptCount
    lifetimeSuppressed := options.lifetime || before.lifetimeSuppressed
    targetSuppressed :=
      options.target || (before.targetSuppressed && !targetShaChanged existing head)
    closerDispatchedHeads := if changed then [] else before.closerDispatchedHeads
    -- The keys of charged dispatches are not among the members that are carried.
    chargedDispatchKeys := []
    lastDispatchedHeadSha := head <|> before.lastDispatchedHeadSha
    suppressed := true }

structure RefundOutcome where
  refunded : Bool
  reason : String
  credited : Budgets := {}
  ledger : Option HammerLedger

def refuseRefund (ledger : Option HammerLedger) (reason : String) : RefundOutcome where
  refunded := false
  reason := reason
  ledger := ledger

def down (count : Nat) : Nat := count - 1

def DispatchCharge.credit (budgets : Budgets) (charge : DispatchCharge) : DispatchCharge :=
  { charge with refundedBudgets := charge.refundedBudgets.join budgets }

def creditHammerDispatchBudgets (ledger : HammerLedger) (launchRequestId : Option String)
    (budgets : Budgets) : HammerLedger :=
  match ledger.dispatchCharges.find? (ofLaunch launchRequestId) with
  | none => ledger
  | some (key, _) =>
    { ledger with
      dispatchCharges := editEntry (DispatchCharge.credit budgets) key ledger.dispatchCharges }

structure RefundOptions where
  jobKey : Option String
  headSha : Option String
  launchRequestId : Option String
  dispatchKey : Option String := none
  /-- Whether a verdict is handed over, and whether it proves that this launch did no work. -/
  executionVerdict : Option Bool := none
  foreignLaunch : Bool := false
  budget : Int := hammerExitedWithoutCloseRetryBudget

def launchRefunded (ledger : HammerLedger) (launch : String) : Bool :=
  ledger.retryableLaunchRequestIds.contains launch || ledger.deferralLaunches.contains launch ||
    ledger.leaseWaitLaunches.contains launch ||
    ledger.unexecutedLaunchRequestIds.contains launch ||
    ledger.phaseInputsReplacement = some (some launch)

/-- The charge that a proof of no work is about. -/
def provenCharge (ledger : HammerLedger) (options : RefundOptions) :
    Option (String × DispatchCharge) :=
  (if given options.dispatchKey then
    ledger.dispatchCharges.find? fun entry => some entry.1 = options.dispatchKey
  else none) <|> ledger.dispatchCharges.find? (ofLaunch options.launchRequestId)

def openBudgets (ledger : HammerLedger) (charge : DispatchCharge) : Budgets where
  pr := ledger.jobKey = charge.jobKey && !charge.refundedBudgets.pr
  head := ledger.targetRemediationSha = charge.headSha &&
    ledger.targetChargeEpoch = charge.targetEpoch && !charge.refundedBudgets.head
  lifetime := !charge.refundedBudgets.lifetime
  transient := given charge.transientGrantId && !charge.refundedBudgets.transient

def takeOff (ledger : HammerLedger) (budgets : Budgets) : HammerLedger :=
  { ledger with
    attemptCount := if budgets.pr then max 0 (ledger.attemptCount - 1) else ledger.attemptCount
    targetAttemptCount :=
      if budgets.head then down ledger.targetAttemptCount else ledger.targetAttemptCount
    lifetimeAttemptCount :=
      if budgets.lifetime then down ledger.lifetimeAttemptCount else ledger.lifetimeAttemptCount }

def addOnce (ids : List String) (id : String) : List String :=
  if ids.contains id then ids else ids ++ [id]

def noWorkLedger (ledger : HammerLedger) (key : String) (charge : DispatchCharge)
    (launchRequestId : Option String) : HammerLedger :=
  let budgets := openBudgets ledger charge
  let taken := takeOff ledger budgets
  let refunded := { taken with
    suppressed := taken.suppressed && !budgets.pr
    targetSuppressed := taken.targetSuppressed && !budgets.head
    lifetimeSuppressed := false
    unexecutedLaunchRequestIds :=
      launchRequestId.elim taken.unexecutedLaunchRequestIds
        (addOnce taken.unexecutedLaunchRequestIds)
    transientRetryHeads :=
      if budgets.transient then editEntry down (objectKey charge.headSha) taken.transientRetryHeads
      else taken.transientRetryHeads
    noWorkRefunds := OrderedMap.setEntries key budgets taken.noWorkRefunds }
  creditHammerDispatchBudgets refunded launchRequestId budgets

def refundNoWork (existing : Option HammerLedger) (options : RefundOptions) : RefundOutcome :=
  if options.executionVerdict ≠ some true then
    refuseRefund existing "execution-not-proven-no-work"
  else match existing with
  | none => refuseRefund none "no-ledger"
  | some ledger =>
    match provenCharge ledger options with
    | none => refuseRefund existing "no-charged-attempt"
    | some (key, charge) =>
      if charge.launchRequestId ≠ options.launchRequestId || charge.attempt ≠ 1 ||
          charge.jobKey ≠ normalizeKey options.jobKey ||
          charge.headSha ≠ normalizeKey options.headSha then
        refuseRefund existing "charge-identity-mismatch"
      else if (valueAt? ledger.noWorkRefunds key).isSome then refuseRefund existing "already-refunded"
      else if ledger.attemptCount < 0 ||
          (ledger.lifetimeAttemptCount < 1 && !charge.refundedBudgets.lifetime) then
        refuseRefund existing "invalid-charge-counters"
      else
        { refunded := true
          reason := "unexecuted"
          credited := openBudgets ledger charge
          ledger := some (noWorkLedger ledger key charge options.launchRequestId) }

def exitRefusal (ledger : HammerLedger) (options : RefundOptions) : Option String :=
  if keyChanged (normalizeKey ledger.jobKey) (normalizeKey options.jobKey) then
    some "series-changed"
  else if (normalizeKey options.launchRequestId).any (launchRefunded ledger) then
    some "already-refunded"
  else if ledger.suppressed || ledger.lifetimeSuppressed || ledger.targetSuppressed then
    some "suppressed"
  else if ledger.attemptCount ≤ 0 then some "no-charged-attempt"
  else if max 0 options.budget ≤ ledger.retryable then some "retry-budget-exhausted"
  else none

/-- Hand back the charge of a hammer that exited without closing its pull request. -/
def refundHammerRetryDispatch (existing : Option HammerLedger) (options : RefundOptions) :
    RefundOutcome :=
  if options.executionVerdict.isSome then refundNoWork existing options
  else match existing with
  | none => refuseRefund none "no-ledger"
  | some ledger =>
    match exitRefusal ledger options with
    | some reason => refuseRefund existing reason
    | none =>
      let launch := normalizeKey options.launchRequestId
      let head := normalizeKey options.headSha
      let budgets : Budgets :=
        { pr := true, head := head.isSome && normalizeKey ledger.targetRemediationSha = head }
      let taken := takeOff ledger budgets
      let refunded := { taken with
        retryable := taken.retryable + 1
        retryableLaunchRequestIds := taken.retryableLaunchRequestIds ++ launch.toList }
      { refunded := true
        reason := "hammer-exited-without-close"
        credited := budgets
        ledger := some (creditHammerDispatchBudgets refunded launch budgets) }

def unexecutedRefusal (ledger : HammerLedger) (options : RefundOptions) : Option String :=
  if normalizeKey ledger.jobKey ≠ normalizeKey options.jobKey then some "series-changed"
  else match normalizeKey options.launchRequestId with
  | none => some "no-launch"
  | some launch =>
    if launchRefunded ledger launch then some "already-refunded"
    else if ledger.attemptCount = 0 then some "no-charged-attempt"
    else none

/-- Hand back the charge of a launch that never executed. -/
def refundUnexecutedHammerDispatch (existing : Option HammerLedger) (options : RefundOptions) :
    RefundOutcome :=
  if options.executionVerdict.isSome then refundNoWork existing options
  else match existing with
  | none => refuseRefund none "no-ledger"
  | some ledger =>
    match unexecutedRefusal ledger options with
    | some reason => refuseRefund existing reason
    | none =>
      let launch := normalizeKey options.launchRequestId
      let budgets : Budgets :=
        { pr := true
          head := normalizeKey ledger.targetRemediationSha = normalizeKey options.headSha
          lifetime := options.foreignLaunch }
      let taken := takeOff ledger budgets
      let refunded := { taken with
        lifetimeSuppressed := taken.lifetimeSuppressed && !options.foreignLaunch
        unexecutedLaunchRequestIds := taken.unexecutedLaunchRequestIds ++ launch.toList
        suppressed := false
        targetSuppressed := false }
      { refunded := true
        reason := "unexecuted"
        credited := budgets
        ledger := some (creditHammerDispatchBudgets refunded launch budgets) }

def refundMissingPhaseInputsDispatch (existing : Option HammerLedger)
    (launchRequestId : Option String) : RefundOutcome :=
  match existing with
  | none => refuseRefund none "no-ledger"
  | some ledger =>
    match ledger.phaseInputsReplacement with
    | some replaced =>
      refuseRefund existing
        (if replaced = launchRequestId then "already-refunded"
        else "phase-inputs-replacement-exhausted")
    | none =>
      match ledger.dispatchCharges.find? (ofLaunch launchRequestId) with
      | none => refuseRefund existing "charge-unproven"
      | some (_, charge) =>
        if ledger.attemptCount < 0 then refuseRefund existing "charge-unproven"
        else
          let budgets : Budgets :=
            { openBudgets ledger charge with lifetime := false, transient := false }
          let taken := takeOff ledger budgets
          let refunded := { taken with
            suppressed := taken.suppressed && !budgets.pr
            targetSuppressed := taken.targetSuppressed && !budgets.head
            phaseInputsReplacement := some launchRequestId }
          { refunded := true
            reason := "phase-inputs-replacement"
            credited := budgets
            ledger := some (creditHammerDispatchBudgets refunded launchRequestId budgets) }

structure GrantOptions where
  jobKey : Option String
  headSha : Option String
  lifetimeDispatchCeiling : Option Int := none
  perHeadLimit : Int := hammerTransientRetryPerHead
  uuid : String

def grantTransientHammerRetry (existing : Option HammerLedger) (options : GrantOptions) :
    Bool × Option HammerLedger :=
  match existing, normalizeKey options.headSha with
  | some ledger, some head =>
    let decision := evaluateHammerRetryCap existing options.jobKey (some head)
      options.lifetimeDispatchCeiling
    let heads := ledger.transientRetryHeads.filter fun entry => 0 < entry.2
    let headGrants := (valueAt? heads head).getD 0
    if keyChanged (normalizeKey ledger.jobKey) (normalizeKey options.jobKey) ||
        decision.lifetimeCapExhausted || !decision.capExhausted ||
        decide (max 0 options.perHeadLimit ≤ (headGrants : Int)) then (false, existing)
    else
      let reopened := hammerRetryCapTotalDispatches - 1
      (true, some { ledger with
        attemptCount := min (max 0 ledger.attemptCount) reopened
        targetAttemptCount :=
          if normalizeKey ledger.targetRemediationSha = some head then
            min ledger.targetAttemptCount reopened
          else ledger.targetAttemptCount
        suppressed := false
        targetSuppressed := false
        transientRetryHeads :=
          (heads.filter fun entry => entry.1 ≠ head) ++ [(head, headGrants + 1)]
        pendingTransientCharge := some
          { id := options.uuid, headSha := head, jobKey := ledger.jobKey } })
  | _, _ => (false, existing)

structure DeferOptions where
  jobKey : Option String
  launchRequestId : Option String
  headSha : Option String
  leaseWaitExhausted : Bool := false

def lastLaunches (ids : List String) : List String := ids.drop (ids.length - 64)

/-- A deferral is of this series and not recorded yet. -/
def deferralNew (ledger : HammerLedger) (options : DeferOptions) : Bool :=
  ledger.jobKey = options.jobKey && given options.launchRequestId &&
    !options.launchRequestId.any fun launch =>
      ledger.deferralLaunches.contains launch || ledger.leaseWaitLaunches.contains launch

def deferralList (ledger : HammerLedger) (options : DeferOptions) : List String :=
  if options.leaseWaitExhausted then ledger.leaseWaitLaunches else ledger.deferralLaunches

/-- Whether a deferral hands its charge back. -/
def deferralRefunds (ledger : HammerLedger) (options : DeferOptions) : Bool :=
  !(options.launchRequestId.any fun launch =>
    ledger.retryableLaunchRequestIds.contains launch ||
      ledger.unexecutedLaunchRequestIds.contains launch ||
      ledger.phaseInputsReplacement = some (some launch)) &&
    (options.leaseWaitExhausted ||
      (deferralList ledger options).length < hammerDeferralLaunchLimit) &&
    decide (0 < ledger.attemptCount)

/-- Record a deferral, and hand the charge back while the budgets of deferrals last. -/
def deferHammerRetryDispatch (existing : Option HammerLedger) (options : DeferOptions) :
    RefundOutcome :=
  match existing with
  | none => refuseRefund none "no-ledger"
  | some ledger =>
    if !deferralNew ledger options then refuseRefund existing "not-deferred"
    else
      let launches := deferralList ledger options ++ options.launchRequestId.toList
      let spent := min lifetimeDeferralRefundBudget ledger.lifetimeDeferralRefundCount
      let refund := deferralRefunds ledger options
      let lifetimeRefund := refund &&
        (options.leaseWaitExhausted || spent < lifetimeDeferralRefundBudget)
      let budgets : Budgets :=
        { pr := refund
          head := refund && ledger.targetRemediationSha = options.headSha
          lifetime := lifetimeRefund }
      let taken := takeOff ledger budgets
      let deferred := { taken with
        lifetimeDeferralRefundCount :=
          spent + (if lifetimeRefund && !options.leaseWaitExhausted then 1 else 0)
        leaseWaitExhausted := options.leaseWaitExhausted
        leaseWaitLaunches :=
          if options.leaseWaitExhausted then lastLaunches launches else taken.leaseWaitLaunches
        deferralLaunches :=
          if options.leaseWaitExhausted then taken.deferralLaunches else launches }
      { refunded := refund
        reason := "deferred"
        credited := budgets
        ledger := some
          (creditHammerDispatchBudgets deferred options.launchRequestId budgets) }

def closerWasDispatchedForHead (ledger : HammerLedger) (head : String) : Bool :=
  (ledger.dispatchCharges.any fun entry => normalizeKey entry.2.headSha = some head) ||
    ledger.closerDispatchedHeads.any fun worked => normalizeKey (some worked) = some head

/-- The proof of who authored a head, as far as a reset looks at it. -/
structure HeadProof where
  proven : Bool
  reason : String
  /-- Whether the hammer attested the head, where that is known. -/
  currentHeadHammerAttested : Option Bool
  currentHead : Option String
  reviewedHead : Option String

structure ResetOptions where
  jobKey : Option String
  headSha : Option String
  headProof : Option HeadProof

def authorshipDisproven (options : ResetOptions) : Bool :=
  (normalizeKey options.headSha).isSome && (normalizeKey options.jobKey).isSome &&
    options.headProof.any fun proof =>
      !proof.proven && proof.reason = "hammer-app-attestation-missing" &&
        proof.currentHeadHammerAttested = some false &&
        normalizeKey proof.currentHead = normalizeKey options.headSha &&
        normalizeKey proof.reviewedHead = normalizeKey options.jobKey

def resetHammerSeriesForNonCloserHead (existing : Option HammerLedger) (options : ResetOptions) :
    Bool × Option HammerLedger :=
  match existing, normalizeKey options.headSha with
  | some ledger, some head =>
    if !authorshipDisproven options || normalizeKey ledger.jobKey ≠ normalizeKey options.jobKey ||
        ledger.lifetimeSuppressed || ledger.nonCloserHeadResets.contains head ||
        closerWasDispatchedForHead ledger head ||
        (!ledger.suppressed && decide (ledger.attemptCount ≤ 0)) then (false, existing)
    else (true, some { ledger with
      attemptCount := 0
      closerDispatchedHeads := []
      suppressed := false
      nonCloserHeadResets := addOnce ledger.nonCloserHeadResets head
      retryable := 0
      retryableLaunchRequestIds := [] })
  | _, _ => (false, existing)

structure RearmOptions where
  jobKey : Option String
  headSha : Option String
  labelsApplied : Bool
  /-- The time of the grant, where its text is a date. -/
  grantedAt : Option Int
  lifetimeDispatchCeiling : Option Int := none

def rearmOperatorApprovedCloser (existing : Option HammerLedger) (options : RearmOptions) :
    Bool × Option HammerLedger :=
  match existing with
  | none => (false, none)
  | some ledger =>
    if normalizeHammerLifetimeDispatchCeiling options.lifetimeDispatchCeiling = 0 ||
        !options.labelsApplied || (normalizeKey options.jobKey).isNone ||
        ledger.jobKey ≠ options.jobKey || ledger.lastDispatchedHeadSha ≠ options.headSha ||
        decide (ledger.attemptCount < 0) ||
        (valueAt? ledger.operatorApprovalRearms (objectKey options.headSha)).isSome ||
        !(evaluateHammerRetryCap existing options.jobKey options.headSha
          options.lifetimeDispatchCeiling).capExhausted then (false, existing)
    else (true, some { ledger with
      operatorApprovalRearms := OrderedMap.setEntries (objectKey options.headSha)
        { state := .pending, jobKey := options.jobKey, grantedAt := options.grantedAt }
        ledger.operatorApprovalRearms })

inductive LedgerCall where
  | record (options : DispatchOptions)
  | reserve (options : DispatchOptions)
  | mark (options : ExhaustionOptions)
  | refund (options : RefundOptions)
  | refundUnexecuted (options : RefundOptions)
  | refundPhaseInputs (launchRequestId : Option String)
  | grant (options : GrantOptions)
  | defer (options : DeferOptions)
  | reset (options : ResetOptions)
  | rearm (options : RearmOptions)

namespace LedgerCall

def launch : LedgerCall → Option String
  | refund options | refundUnexecuted options =>
    if options.executionVerdict.isSome then options.launchRequestId
    else normalizeKey options.launchRequestId
  | refundPhaseInputs launch => launch
  | defer options => options.launchRequestId
  | _ => none

def refundOutcome (existing : Option HammerLedger) : LedgerCall → Option RefundOutcome
  | refund options => some (refundHammerRetryDispatch existing options)
  | refundUnexecuted options => some (refundUnexecutedHammerDispatch existing options)
  | refundPhaseInputs launch => some (refundMissingPhaseInputsDispatch existing launch)
  | defer options => some (deferHammerRetryDispatch existing options)
  | _ => none

def after (existing : Option HammerLedger) : LedgerCall → Option HammerLedger
  | record options =>
    match recordHammerRetryDispatch existing options with
    | .ok ledger => ledger
    | .error _ => existing
  | reserve options =>
    match reserveHammerRepairDispatch existing options with
    | .ok outcome => outcome.2
    | .error _ => existing
  | mark options => some (markHammerRetryCapExhausted existing options)
  | refund options => (refundHammerRetryDispatch existing options).ledger
  | refundUnexecuted options => (refundUnexecutedHammerDispatch existing options).ledger
  | refundPhaseInputs launch => (refundMissingPhaseInputsDispatch existing launch).ledger
  | grant options => (grantTransientHammerRetry existing options).2
  | defer options => (deferHammerRetryDispatch existing options).ledger
  | reset options => (resetHammerSeriesForNonCloserHead existing options).2
  | rearm options => (rearmOperatorApprovedCloser existing options).2

def reserves (existing : Option HammerLedger) (key : String) : LedgerCall → Bool
  | reserve options => options.dispatchKey = some key &&
      (match reserveHammerRepairDispatch existing options with
        | .ok outcome => outcome.1
        | .error _ => false)
  | _ => false

end LedgerCall

def runLedger (existing : Option HammerLedger) (calls : List LedgerCall) : Option HammerLedger :=
  calls.foldl LedgerCall.after existing

end AdversarialReview.Ama
