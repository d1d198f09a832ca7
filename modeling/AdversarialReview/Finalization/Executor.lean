import Mathlib.Data.List.Infix
import AdversarialReview.Library.Interleaving
import AdversarialReview.Finalization.ExecutorLeaseStore
import AdversarialReview.Proofs.Finalization.Eligibility

/-! The leased executor: one tick acts on a decision, and what ticks do alone, in turn, interleaved. -/

namespace AdversarialReview

/-- How far a tick got with its decision. -/
inductive ExecutionStatus where
  | skipped
  | failed
  | deferred
  | executed
  deriving DecidableEq

/-- What a tick did or would have done. -/
inductive ExecutionAction where
  | none
  | merge
  | escalate
  | dispatchRemediation
  | close
  | wait
  | halt
  | reDecide
  | gatedOff
  | leaseContended
  deriving DecidableEq

/-- The record a tick returns. -/
structure ExecutionOutcome where
  subjectKey : SubjectKey
  decision : EligibilityDecision
  status : ExecutionStatus
  action : ExecutionAction
  observedAt : String
  reason : Option String := none
  detail : Option String := none
  killSwitch : Bool := false

structure MergeSurface where
  name : Option String

def githubAdapterMergeSurface : MergeSurface :=
  { name := some "github-adapter (local fallback)" }

structure ExecutorConfig where
  policy : PolicyInput := {}
  enabled : Bool := false
  adjudicateSurface : Option MergeSurface := none
  mergeFallback : Option MergeSurface := none
  identitySurface : Bool := false
  remediationSurface : Bool := false
  closeSurface : Bool := false
  mergeMethod : String := "squash"
  laneRouting : Bool := false
  holderId : String
  leaseTtlMs : Int := 5 * 60 * 1000
  holder_named : holderId ≠ "" := by decide

inductive IdentityAnswer where
  | verdict (ok : Bool) (reason : Option String)
  | threw (message : String)

structure MergeResult where
  ok : Bool
  queued : Bool := false
  reason : Option String := none
  detail : Option String := none
  via : Option String := none

inductive SurfaceCall where
  | merge (revisionRef mergeMethod : String)
  | dispatch (revisionRef : String) (round : Int) (stageId : Option String) (final : Bool)
      (idempotencyKey : String)
  | close (revisionRef : String) (reason : Option String)
  deriving DecidableEq

inductive TickEffect : Type → Type where
  | readLedger : TickEffect (List FinalizationEvent)
  | acquire (args : AcquireArgs) : TickEffect (Except String AcquireResult)
  | checkIdentity (revisionRef : String) (decision : EligibilityDecision) :
      TickEffect IdentityAnswer
  | call (surface : SurfaceCall) : TickEffect (Except String MergeResult)
  | append (event : FinalizationEvent) : TickEffect (Except String Unit)
  | release (args : ReleaseArgs) : TickEffect Bool

structure IdentityVerdict where
  ok : Bool
  reason : String := ""
  surfaceError : Bool := false

def orText (text : Option String) (default : String) : String :=
  if truthy text then text.getD "" else default

def resolveMergeSurface (adjudicateSurface localFallback githubAdapter : Option MergeSurface) :
    Option MergeSurface :=
  adjudicateSurface.or (localFallback.or githubAdapter)

def ExecutorConfig.mergeSurface (config : ExecutorConfig) : Option MergeSurface :=
  resolveMergeSurface config.adjudicateSurface config.mergeFallback
    (some githubAdapterMergeSurface)

def ExecutorConfig.killSwitchOn (config : ExecutorConfig) : Bool :=
  config.policy.autonomousExecutionDisabled = some true

def mergeSurfaceName (result : MergeResult) (surface : MergeSurface) : String :=
  orText result.via (orText surface.name "merge-surface")

def mentionsKillSwitch (reason : Option String) : Bool :=
  "kill switch".toList <:+: ((reason.getD "").map Char.toLower).toList

def append (event : FinalizationEvent) : Prog TickEffect Unit := do
  Prog.raise (← Prog.perform (.append event))

/-- Write the fail-closed audit row of an intercepted decision, once. -/
def recordKillSwitchEscalation (subject : SubjectKey) (decision : EligibilityDecision)
    (state : LedgerState) (observedAt : String) : Prog TickEffect ExecutionOutcome := do
  let reason := "kill switch: " ++ decision.kind.text ++
    " intercepted (autonomous execution disabled)"
  if state.terminal.map TerminalState.kind ≠ some .escalated then
    append { subjectKey := subject, at_ := observedAt, body := .escalated reason }
  return { subjectKey := subject, decision, status := .skipped, action := .escalate, observedAt,
           reason := some reason, killSwitch := true }

def checkIdentityAttestation (config : ExecutorConfig) (rev : String)
    (decision : EligibilityDecision) : Prog TickEffect IdentityVerdict := do
  if config.identitySurface then
    match ← Prog.perform (.checkIdentity rev decision) with
    | .verdict true _ => return { ok := true }
    | .verdict false reason =>
      return { ok := false, reason := orText reason "identity/attestation check denied" }
    | .threw message =>
      return { ok := false, surfaceError := true,
               reason := "identity/attestation surface error (fail-closed): " ++ message }
  else return { ok := true }

def laneMerge (config : ExecutorConfig) (rev : String) :
    Prog TickEffect (Except String MergeResult) :=
  if config.laneRouting then Prog.perform (.call (.merge rev config.mergeMethod))
  else pure (.ok { ok := false, reason := some "lane-routing-adapter-unavailable" })

def applyFinalizeNow (config : ExecutorConfig) (subject : SubjectKey)
    (decision : EligibilityDecision) (state : LedgerState) (rev observedAt : String) :
    Prog TickEffect ExecutionOutcome := do
  let outcome : ExecutionOutcome :=
    { subjectKey := subject, decision, status := .failed, action := .merge, observedAt }
  let escalate (reason : String) : Prog TickEffect Unit :=
    append { subjectKey := subject, at_ := observedAt, body := .escalated reason }
  if config.killSwitchOn then recordKillSwitchEscalation subject decision state observedAt
  else
    let idv ← checkIdentityAttestation config rev decision
    if !idv.ok then
      if idv.surfaceError then return { outcome with reason := some idv.reason }
      else
        escalate idv.reason
        return { outcome with
          status := .skipped, action := .escalate, reason := some idv.reason }
    else match config.mergeSurface with
      | none =>
        escalate "no merge surface available (fail-closed)"
        return { outcome with reason := some "no merge surface available (fail-closed)" }
      | some surface =>
        match ← laneMerge config rev with
        | .error message =>
          return { outcome with reason := some "merge surface threw", detail := some message }
        | .ok result =>
          if result.queued then
            return { outcome with
              status := .deferred, action := .wait
              reason := some (orText result.reason "queue-handoff-acknowledged") }
          else if !result.ok then
            if result.reason = some "adapter-unavailable" then
              escalate "no merge surface available (fail-closed)"
              return { outcome with
                status := .skipped, action := .escalate, detail := result.detail
                reason := some "no merge surface available (fail-closed)" }
            -- A refused merge records nothing: the next tick folds and decides again.
            else return { outcome with
              reason := some (orText result.reason "merge failed"), detail := result.detail }
          else
            append { subjectKey := subject, at_ := observedAt
                     sourceRef := some (mergeSurfaceName result surface)
                     body := .finalized rev config.mergeMethod }
            return { outcome with status := .executed }

def dispatchKey (rev : String) (round : Int) (final : Bool) : String :=
  "remediate:" ++ rev ++ ":" ++ toString round ++ (if final then ":final" else "")

def applyRemediate (config : ExecutorConfig) (subject : SubjectKey)
    (decision : EligibilityDecision) (state : LedgerState) (rev observedAt : String) :
    Prog TickEffect ExecutionOutcome := do
  let outcome : ExecutionOutcome :=
    { subjectKey := subject, decision, status := .skipped, action := .dispatchRemediation
      observedAt }
  let round := decision.round.getD 1
  let final : Bool := decision.final = some true
  let idempotencyKey := dispatchKey rev round final
  if state.remediation.dispatched.any fun d => d.revisionRef = rev ∧ d.round = round then
    return { outcome with reason := some "round already dispatched" }
  else if config.killSwitchOn then recordKillSwitchEscalation subject decision state observedAt
  else
    let dispatched ← if config.remediationSurface then
        Prog.perform (.call (.dispatch rev round decision.stageId final idempotencyKey))
      else pure (.ok { ok := true })
    match dispatched with
    | .error message =>
      return { outcome with
        status := .failed, reason := some "remediation surface threw", detail := some message }
    | .ok _ =>
      append { subjectKey := subject, at_ := observedAt
               body := .remediationDispatched rev round idempotencyKey decision.stageId final }
      return { outcome with status := .executed }

def applyClose (config : ExecutorConfig) (subject : SubjectKey) (decision : EligibilityDecision)
    (state : LedgerState) (rev observedAt : String) : Prog TickEffect ExecutionOutcome := do
  let outcome : ExecutionOutcome :=
    { subjectKey := subject, decision, status := .executed, action := .close, observedAt }
  if config.killSwitchOn then recordKillSwitchEscalation subject decision state observedAt
  else
    let closed ← if config.closeSurface then
        Prog.perform (.call (.close rev decision.reason))
      else pure (.ok { ok := true })
    match closed with
    | .error message =>
      return { outcome with
        status := .failed, reason := some "close surface threw", detail := some message }
    | .ok _ =>
      append { subjectKey := subject, at_ := observedAt
               body := .closed (orText decision.reason "operator close") }
      return outcome

/-- Record a suspending mark, unless the subject already carries it. -/
def applyMark (subject : SubjectKey) (decision : EligibilityDecision) (state : LedgerState)
    (observedAt : String) (kind : TerminalKind) (body : EventBody) (outcome : ExecutionOutcome) :
    Prog TickEffect ExecutionOutcome := do
  if state.terminal.map TerminalState.kind ≠ some kind then
    append { subjectKey := subject, at_ := observedAt, body }
  return { outcome with
    subjectKey := subject, decision, status := .skipped, observedAt, reason := decision.reason }

def applyDecision (config : ExecutorConfig) (subject : SubjectKey)
    (decision : EligibilityDecision) (state : LedgerState) (observedAt : String) :
    Prog TickEffect ExecutionOutcome :=
  let rev := orText (some decision.revisionRef) (state.currentRevision.getD "")
  let outcome : ExecutionOutcome :=
    { subjectKey := subject, decision, status := .skipped, action := .none, observedAt }
  -- A finalized or closed subject is done.
  if state.finalized.isSome ∨ state.terminal.map TerminalState.kind = some .closed then
    return { outcome with
      reason := some (if state.finalized.isSome then "already finalized" else "already closed") }
  else match decision.kind with
    | .finalizeNow => applyFinalizeNow config subject decision state rev observedAt
    | .remediate => applyRemediate config subject decision state rev observedAt
    | .close => applyClose config subject decision state rev observedAt
    | .wait => return { outcome with
        status := .deferred, reason := decision.reason, detail := decision.deadline }
    | .halt => applyMark subject decision state observedAt .halted
        (.halted (orText decision.reason "halt")) { outcome with action := .halt }
    | .escalate => applyMark subject decision state observedAt .escalated
        (.escalated (orText decision.reason "escalate"))
        { outcome with action := .escalate, killSwitch := mentionsKillSwitch decision.reason }

def worldMoved (decision : EligibilityDecision) (state : LedgerState) (basis : Option Nat) :
    Option String :=
  if truthy (some decision.revisionRef) ∧ truthy state.currentRevision ∧
      some decision.revisionRef ≠ state.currentRevision then
    some ("world moved: subject advanced " ++ decision.revisionRef ++ " → " ++
      state.currentRevision.getD "" ++ "; decision discarded")
  else match basis with
    | some eventCount =>
      if state.eventCount ≠ eventCount then
        some "world moved: ledger advanced since decision; decision discarded"
      else none
    | none => none

def execute (config : ExecutorConfig) (decision : EligibilityDecision) (subject : SubjectKey)
    (observedAt : String) (basis : Option Nat) (foldedState : Option LedgerState) :
    Prog TickEffect ExecutionOutcome := do
  let state ← match foldedState with
    | some state => pure state
    | none => fold <$> Prog.perform .readLedger
  match worldMoved decision state basis with
  | some reason =>
    return { subjectKey := subject, decision, status := .deferred, action := .reDecide
             observedAt, reason := some reason }
  | none => applyDecision config subject decision state observedAt

section

variable [JsDate] [SqliteDate]

def isoAdd (iso : String) (ms : Int) : Except String String :=
  match JsDate.parse iso with
  | none => .error "executor requires a valid observedAt ISO timestamp"
  | some base => JsDate.shift base ms

def leasedTick (config : ExecutorConfig) (subject : SubjectKey) (observedAt : String) :
    Prog TickEffect ExecutionOutcome := do
  let leasedState := fold (← Prog.perform .readLedger)
  let decision ← Prog.raise (eligible leasedState config.policy (some observedAt))
  execute config decision subject observedAt (some leasedState.eventCount) (some leasedState)

def undecided (subject : SubjectKey) (rev observedAt : String) : EligibilityDecision :=
  { kind := .wait, subjectKey := some subject, revisionRef := rev, observedAt := some observedAt }

/-- Ask for the subject's lease, run under it, and give it back however the run ended. -/
def tickUntil (config : ExecutorConfig) (subject : SubjectKey) (observedAt leaseId : String)
    (deadline : String) : Prog TickEffect ExecutionOutcome := do
  let currentRev := (fold (← Prog.perform .readLedger)).currentRevision
  let acq ← Prog.raise (← Prog.perform (.acquire
    { subject, holder := config.holderId, leaseId, revisionRef := currentRev, now := observedAt
      deadline }))
  if acq.acquired then
    (leasedTick config subject observedAt).finally_ do
      let _ ← Prog.perform (.release { subject, leaseId })
  else
    -- Another executor holds the subject.
    return { subjectKey := subject, decision := undecided subject (currentRev.getD "") observedAt
             status := .deferred, action := .leaseContended, observedAt
             reason := some ("subject leased by " ++
               ((acq.existing.map LeaseRow.holder).getD "another executor")) }

def tick (config : ExecutorConfig) (subject : SubjectKey) (observedAt leaseId : String) :
    Prog TickEffect ExecutionOutcome := do
  let _ ← Prog.raise (resolveSubjectKey subject)
  if observedAt = "" then .fail "executor tick requires an observedAt timestamp"
  -- The master gate: no lease, no ledger write, no adapter call until promotion.
  else if !config.enabled then
    return { subjectKey := subject, decision := undecided subject "" observedAt
             status := .skipped, action := .gatedOff, observedAt
             reason := some "finalization executor gated off (promotion pending)" }
  else
    let deadline ← Prog.raise (isoAdd observedAt config.leaseTtlMs)
    tickUntil config subject observedAt leaseId deadline

end

def EventBody.idempotencyKey : EventBody → Option String
  | remediationDispatched _ _ idempotencyKey _ _ => some idempotencyKey
  | _ => none

def EventBody.conflicts (body other : EventBody) : Bool :=
  body.idempotencyKey.isSome ∧ body.type = other.type ∧
    body.idempotencyKey = other.idempotencyKey

def appendToLedger (ledger : List FinalizationEvent) (event : FinalizationEvent) :
    Except String (List FinalizationEvent) :=
  match makeFinalizationEvent event with
  | .error refusal => .error refusal
  | .ok validated =>
    if ledger.any fun stored => validated.body.conflicts stored.body then .ok ledger
    else .ok (ledger ++ [validated])

theorem appendToLedger_cases {ledger appended : List FinalizationEvent}
    {event : FinalizationEvent} (accepted : appendToLedger ledger event = .ok appended) :
    (appended = ledger ∧ ∃ stored ∈ ledger, event.body.conflicts stored.body = true) ∨
      (appended = ledger ++ [event] ∧
        ∀ stored ∈ ledger, event.body.conflicts stored.body = false) := by
  unfold appendToLedger at accepted
  split at accepted
  · cases accepted
  · next validated valid =>
    rw [makeFinalizationEvent_eq valid] at accepted
    split at accepted
    · next replayed =>
      exact .inl ⟨(Except.ok.inj accepted).symm, by simpa using replayed⟩
    · next fresh =>
      exact .inr ⟨(Except.ok.inj accepted).symm, by simpa using fresh⟩

/-- What a tick is seen to do. -/
inductive TickAction where
  | read
  | call (surface : SurfaceCall)
  | append (event : FinalizationEvent)
  deriving DecidableEq

def TickAction.acts : TickAction → Bool
  | read => false
  | call _ | append _ => true

/-- One observed action: whose it was, and who held the subject's lease then. -/
structure TickRecord where
  leaseId : String
  holder : Option String
  action : TickAction

structure TickWorld where
  ledger : List FinalizationEvent := []
  leases : LeaseTable := []
  -- The ticks that took the lease and neither gave it back nor died.
  inFlight : List String := []
  observed : List TickRecord := []

structure SurfaceAnswers where
  identity : IdentityAnswer := .verdict true none
  call : Except String MergeResult := .ok { ok := true }
  meanwhile : List FinalizationEvent := []

def TickWorld.holder (world : TickWorld) (subject : SubjectKey) : Option String :=
  (selectByKey world.leases subject).map LeaseRow.leaseId

def TickWorld.note (world : TickWorld) (subject : SubjectKey) (leaseId : String)
    (action : TickAction) : TickWorld :=
  { world with observed :=
      world.observed ++ [{ leaseId, holder := world.holder subject, action }] }

def TickWorld.append (world : TickWorld) (events : List FinalizationEvent) : TickWorld :=
  { world with ledger := world.ledger ++ events }

section

variable [JsDate] [SqliteDate]

def performTick (subject : SubjectKey) (answers : SurfaceAnswers) (leaseId : String) :
    {β : Type} → TickEffect β → TickWorld → β × TickWorld
  | _, .readLedger, world => (world.ledger, world.note subject leaseId .read)
  | _, .acquire args, world =>
    match acquireLease world.leases args with
    | .error refusal => (.error refusal, world)
    | .ok (result, leases) =>
      (.ok result, { world with
        leases
        inFlight := if result.acquired then leaseId :: world.inFlight else world.inFlight })
  | _, .checkIdentity _ _, world => (answers.identity, world.append answers.meanwhile)
  | _, .call surface, world =>
    (answers.call, (world.note subject leaseId (.call surface)).append answers.meanwhile)
  | _, .append event, world =>
    match appendToLedger world.ledger event with
    | .error refusal => (.error refusal, world)
    | .ok ledger =>
      -- A replayed event inserts no row, so there is nothing to observe.
      if ledger = world.ledger then (.ok (), world)
      else (.ok (), { world.note subject leaseId (.append event) with ledger })
  | _, .release args, world =>
    ((releaseLease world.leases args).1, { world with
      leases := (releaseLease world.leases args).2
      inFlight := world.inFlight.filter (· ≠ leaseId) })

structure TickCall where
  config : ExecutorConfig
  observedAt : String
  leaseId : String

def runTick (subject : SubjectKey) (call : TickCall) (answers : SurfaceAnswers)
    (world : TickWorld) : Except String ExecutionOutcome × TickWorld :=
  (tick call.config subject call.observedAt call.leaseId).run
    (performTick subject answers call.leaseId) world

inductive Episode where
  | tick (call : TickCall) (answers : SurfaceAnswers)
  | events (appended : List FinalizationEvent)

def runEpisode (subject : SubjectKey) (world : TickWorld) : Episode → TickWorld
  | .tick call answers => (runTick subject call answers world).2
  | .events appended => world.append appended

/-- The world after one stretch after another. -/
def runEpisodes (subject : SubjectKey) (world : TickWorld) (episodes : List Episode) :
    TickWorld :=
  episodes.foldl (runEpisode subject) world

def tickSystem (subject : SubjectKey) :
    Interleaved String SurfaceAnswers (List FinalizationEvent) TickWorld TickEffect where
  perform := performTick subject
  external := fun events world => world.append events
  -- A dead tick leaves its lease row behind until somebody steals it.
  crash := fun leaseId world =>
    { world with inFlight := world.inFlight.filter (· ≠ leaseId) }

def startTicks (subject : SubjectKey) (calls : String → ExecutorConfig × String)
    (world : TickWorld) : Interleaved.Config String TickWorld TickEffect where
  shared := world
  threads := fun leaseId =>
    (tick (calls leaseId).1 subject (calls leaseId).2 leaseId).bind fun _ => .pure ()

end

def TickWorld.actions (world : TickWorld) : List TickAction :=
  (world.observed.map TickRecord.action).filter TickAction.acts

def TickWorld.calls (world : TickWorld) : List SurfaceCall :=
  world.actions.filterMap fun action =>
    match action with
    | .call surface => some surface
    | _ => none

/-- Two worlds between which no tick acted and nobody appended. -/
structure Unseen (world later : TickWorld) : Prop where
  ledger : later.ledger = world.ledger
  actions : later.actions = world.actions

theorem Unseen.refl (world : TickWorld) : Unseen world world := ⟨rfl, rfl⟩

theorem Unseen.trans {first second third : TickWorld} (before : Unseen first second)
    (after : Unseen second third) : Unseen first third :=
  ⟨after.ledger.trans before.ledger, after.actions.trans before.actions⟩

theorem actions_note (world : TickWorld) (subject : SubjectKey) (leaseId : String)
    (action : TickAction) :
    (world.note subject leaseId action).actions =
      world.actions ++ if action.acts then [action] else [] := by
  by_cases acts : action.acts = true <;> simp [TickWorld.note, TickWorld.actions, acts]

section

variable [JsDate] [SqliteDate] {subject : SubjectKey} {answers : SurfaceAnswers}
  {leaseId : String}

theorem unseen_read (world : TickWorld) :
    Unseen world (performTick subject answers leaseId .readLedger world).2 :=
  ⟨rfl, by simp [performTick, actions_note, TickAction.acts]⟩

theorem unseen_acquire (world : TickWorld) (args : AcquireArgs) :
    Unseen world (performTick subject answers leaseId (.acquire args) world).2 := by
  simp only [performTick]
  split <;> exact ⟨rfl, rfl⟩

theorem performTick_acquire (world : TickWorld) (args : AcquireArgs) :
    (performTick subject answers leaseId (.acquire args) world).1 =
      (acquireLease world.leases args).map Prod.fst := by
  simp only [performTick]
  cases acquireLease world.leases args <;> rfl

theorem unseen_release (world : TickWorld) (args : ReleaseArgs) :
    Unseen world (performTick subject answers leaseId (.release args) world).2 :=
  ⟨rfl, rfl⟩

def leaseDeadline (subject : SubjectKey) (call : TickCall) : Option String :=
  match resolveSubjectKey subject with
  | .error _ => none
  | .ok _ =>
    if call.observedAt = "" ∨ call.config.enabled = false then none
    else (isoAdd call.observedAt call.config.leaseTtlMs).toOption

def leaseRequest (subject : SubjectKey) (call : TickCall) (world : TickWorld)
    (deadline : String) : AcquireArgs :=
  { subject, holder := call.config.holderId, leaseId := call.leaseId
    revisionRef := (fold world.ledger).currentRevision, now := call.observedAt, deadline }

def takesLease (subject : SubjectKey) (call : TickCall) (world : TickWorld) : Bool :=
  (leaseDeadline subject call).any fun deadline =>
    match acquireLease world.leases (leaseRequest subject call world deadline) with
    | .ok (result, _) => result.acquired
    | .error _ => false

variable {call : TickCall}

theorem runTick_of_no_deadline (undue : leaseDeadline subject call = none)
    (world : TickWorld) : Unseen world (runTick subject call answers world).2 := by
  unfold leaseDeadline at undue
  unfold runTick tick
  cases named : resolveSubjectKey subject with
  | error refusal => exact Unseen.refl world
  | ok key =>
    simp only [named] at undue
    by_cases timed : call.observedAt = ""
    · simp [timed, Unseen.refl]
    · by_cases enabled : call.config.enabled = true
      · cases due : isoAdd call.observedAt call.config.leaseTtlMs with
        | error refusal => simp [timed, enabled, Unseen.refl]
        | ok deadline => simp [timed, enabled, due, Except.toOption] at undue
      · simp [timed, enabled, Unseen.refl]

theorem runTick_of_deadline {deadline : String}
    (due : leaseDeadline subject call = some deadline) (world : TickWorld) :
    runTick subject call answers world =
      (tickUntil call.config subject call.observedAt call.leaseId deadline).run
        (performTick subject answers call.leaseId) world := by
  unfold leaseDeadline at due
  split at due
  · cases due
  · next key named =>
    split_ifs at due with stopped
    obtain ⟨timed, enabled⟩ := not_or.mp stopped
    cases shifted : isoAdd call.observedAt call.config.leaseTtlMs with
    | error refusal => simp [shifted, Except.toOption] at due
    | ok later =>
      have same : later = deadline := by simpa [shifted, Except.toOption] using due
      simp [runTick, tick, named, timed, enabled, shifted, same]

theorem runTick_cases (subject : SubjectKey) (call : TickCall) (answers : SurfaceAnswers)
    (world : TickWorld) :
    (takesLease subject call world = false ∧
        Unseen world (runTick subject call answers world).2) ∨
      (takesLease subject call world = true ∧ ∃ leased, Unseen world leased ∧
        Unseen ((leasedTick call.config subject call.observedAt).run
            (performTick subject answers call.leaseId) leased).2
          (runTick subject call answers world).2) := by
  unfold takesLease
  cases due : leaseDeadline subject call with
  | none => exact .inl ⟨rfl, runTick_of_no_deadline due world⟩
  | some deadline =>
    rw [runTick_of_deadline due]
    simp only [Option.any_some]
    -- The lease table is untouched between the two reads around the request.
    let read := (performTick subject answers call.leaseId .readLedger world).2
    have seen : Unseen world read := unseen_read world
    let request := leaseRequest subject call world deadline
    let leased := (performTick subject answers call.leaseId (.acquire request) read).2
    have taken : Unseen world leased := seen.trans (unseen_acquire read request)
    have begun : (tickUntil call.config subject call.observedAt call.leaseId deadline).run
          (performTick subject answers call.leaseId) world =
        ((Prog.raise (performTick subject answers call.leaseId (.acquire request) read).1).bind
          fun acq => if acq.acquired then
              (leasedTick call.config subject call.observedAt).finally_
                (.step (.release { subject, leaseId := call.leaseId }) fun _ => .pure ())
            else .pure _).run (performTick subject answers call.leaseId) leased := rfl
    rw [begun]
    cases answered : acquireLease world.leases request with
    | error refusal =>
      have refused : (performTick subject answers call.leaseId (.acquire request) read).1 =
          .error refusal := by
        rw [performTick_acquire]
        exact congrArg (Except.map Prod.fst) answered
      rw [refused]
      exact .inl ⟨rfl, taken⟩
    | ok granted =>
      obtain ⟨result, leases⟩ := granted
      have given : (performTick subject answers call.leaseId (.acquire request) read).1 =
          .ok result := by
        rw [performTick_acquire]
        exact congrArg (Except.map Prod.fst) answered
      rw [given]
      by_cases won : result.acquired = true
      · refine .inr ⟨won, leased, taken, ?_⟩
        simp only [Prog.raise_ok, Prog.pure_bind, won, if_true, Prog.run_finally, Prog.run_step,
          Prog.run_pure]
        exact unseen_release _ _
      · simp only [Prog.raise_ok, Prog.pure_bind, won, if_false, Bool.false_eq_true, false_and,
          or_false]
        exact ⟨by simp, taken⟩

theorem leasedTick_run (config : ExecutorConfig) (observedAt : String) (world : TickWorld) :
    ((leasedTick config subject observedAt).run
        (performTick subject answers leaseId) world).2 =
      match eligible (fold world.ledger) config.policy (some observedAt) with
      | .error _ => (performTick subject answers leaseId .readLedger world).2
      | .ok decision =>
        match worldMoved decision (fold world.ledger) (some (fold world.ledger).eventCount) with
        | some _ => (performTick subject answers leaseId .readLedger world).2
        | none => ((applyDecision config subject decision (fold world.ledger) observedAt).run
            (performTick subject answers leaseId)
            (performTick subject answers leaseId .readLedger world).2).2 := by
  unfold leasedTick
  have read : (performTick subject answers leaseId .readLedger world).1 = world.ledger := rfl
  simp only [Prog.bind_eq, Prog.perform_bind, Prog.run_step, read]
  cases eligible (fold world.ledger) config.policy (some observedAt) with
  | error refusal => rfl
  | ok decision =>
    simp only [Prog.raise_ok, Prog.pure_bind, execute, Prog.bind_eq, Prog.pure_eq]
    cases worldMoved decision (fold world.ledger) (some (fold world.ledger).eventCount) <;> rfl

theorem runTick_acts (subject : SubjectKey) (call : TickCall) (answers : SurfaceAnswers)
    (world : TickWorld) :
    Unseen world (runTick subject call answers world).2 ∨
      (takesLease subject call world = true ∧ ∃ decision,
        eligible (fold world.ledger) call.config.policy (some call.observedAt) = .ok decision ∧
        ∃ start, Unseen world start ∧
          Unseen ((applyDecision call.config subject decision (fold world.ledger)
              call.observedAt).run (performTick subject answers call.leaseId) start).2
            (runTick subject call answers world).2) := by
  rcases runTick_cases subject call answers world with ⟨-, unseen⟩ | ⟨takes, leased, before, after⟩
  · exact .inl unseen
  · rw [leasedTick_run, before.ledger] at after
    have reread : Unseen world (performTick subject answers call.leaseId .readLedger leased).2 :=
      before.trans (unseen_read leased)
    split at after
    · exact .inl (reread.trans after)
    · next decision decided =>
      split at after
      · exact .inl (reread.trans after)
      · exact .inr ⟨takes, decision, decided, _, reread, after⟩

variable {world : TickWorld}

theorem runTick_of_decided {decision : EligibilityDecision}
    (takes : takesLease subject call world = true)
    (decided : eligible (fold world.ledger) call.config.policy (some call.observedAt) =
      .ok decision)
    (unmoved : worldMoved decision (fold world.ledger) (some (fold world.ledger).eventCount) =
      none) :
    ∃ start, Unseen world start ∧
      Unseen ((applyDecision call.config subject decision (fold world.ledger)
          call.observedAt).run (performTick subject answers call.leaseId) start).2
        (runTick subject call answers world).2 := by
  rcases runTick_cases subject call answers world with ⟨loses, -⟩ | ⟨-, leased, before, after⟩
  · rw [takes] at loses
    cases loses
  · rw [leasedTick_run, before.ledger, decided] at after
    simp only [unmoved] at after
    exact ⟨_, before.trans (unseen_read leased), after⟩

theorem performTick_append_cases (event : FinalizationEvent) (world : TickWorld) :
    (performTick subject answers leaseId (.append event) world).2 = world ∨
      ((performTick subject answers leaseId (.append event) world).2.ledger =
          world.ledger ++ [event] ∧
        (performTick subject answers leaseId (.append event) world).2.actions =
          world.actions ++ [.append event]) := by
  simp only [performTick]
  cases appended : appendToLedger world.ledger event with
  | error refusal => exact .inl rfl
  | ok ledger =>
    simp only
    split
    · exact .inl rfl
    · next inserted =>
      rcases appendToLedger_cases appended with ⟨same, -⟩ | ⟨rfl, -⟩
      · exact absurd same inserted
      · refine .inr ⟨rfl, ?_⟩
        exact (actions_note world subject leaseId (.append event)).trans (by simp [TickAction.acts])

theorem performTick_append_fresh {event : FinalizationEvent}
    (valid : makeFinalizationEvent event = .ok event)
    (fresh : ∀ stored ∈ world.ledger, event.body.conflicts stored.body = false) :
    (performTick subject answers leaseId (.append event) world).2.actions =
      world.actions ++ [.append event] := by
  have appended : appendToLedger world.ledger event = .ok (world.ledger ++ [event]) := by
    have unmatched : (world.ledger.any fun stored => event.body.conflicts stored.body) = false := by
      simpa using fresh
    simp [appendToLedger, valid, unmatched]
  have grows : world.ledger ++ [event] ≠ world.ledger := by simp
  simp only [performTick, appended, grows, if_false]
  exact (actions_note world subject leaseId (.append event)).trans (by simp [TickAction.acts])

theorem performTick_append_replayed {event : FinalizationEvent}
    (replayed : ∃ stored ∈ world.ledger, event.body.conflicts stored.body = true) :
    (performTick subject answers leaseId (.append event) world).2 = world := by
  simp only [performTick]
  cases appended : appendToLedger world.ledger event with
  | error refusal => rfl
  | ok ledger =>
    rcases appendToLedger_cases appended with ⟨rfl, -⟩ | ⟨-, fresh⟩
    · simp
    · obtain ⟨stored, kept, conflict⟩ := replayed
      simp [fresh stored kept] at conflict

theorem run_append (event : FinalizationEvent) (outcome : ExecutionOutcome) (world : TickWorld) :
    (((append event).bind fun _ => .pure outcome).run
        (performTick subject answers leaseId) world).2 =
      (performTick subject answers leaseId (.append event) world).2 := by
  unfold append
  simp only [Prog.bind_eq, Prog.perform_bind]
  cases answered : (performTick subject answers leaseId (.append event) world).1 with
  | error refusal => simp [Prog.bind, answered]
  | ok done => simp [Prog.bind, answered]

end

end AdversarialReview
