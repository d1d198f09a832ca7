import AdversarialReview.Library.OrderedMap

/-! The append-only event vocabulary of one subject's finalization ledger, and the pure fold into the
state eligibility reads. -/

namespace AdversarialReview

/-- The pair every ledger row and lease row is keyed on. -/
structure SubjectKey where
  domainId : String
  subjectExternalId : String
  deriving DecidableEq

inductive VerdictKind where
  | approved
  | commentOnly
  | requestChanges
  | other (text : String)
  deriving DecidableEq

inductive CheckConclusion where
  | success
  | neutral
  | skipped
  | failure
  | timedOut
  | cancelled
  | actionRequired
  | stale
  | other (text : String)
  deriving DecidableEq

/-- What an operator override asks for. -/
inductive OverrideKind where
  | resume
  | reopen
  | forceRereview
  | raiseCap
  | approve
  | close
  | halt
  | other (text : String)
  deriving DecidableEq

/-- How a remediation round ended. -/
inductive RemediationOutcome where
  | completed
  | other (text : String)
  deriving DecidableEq

/-- The type-specific part of an event. -/
inductive EventBody where
  | revisionAdvanced (revisionRef : String)
  | verdictRecorded (revisionRef stageId role : String) (verdictKind : VerdictKind)
  | checksSettled (revisionRef : String) (conclusion : CheckConclusion)
      (requiredChecksPresent : Bool)
  | attestationRecorded (revisionRef kind principal : String)
  | remediationDispatched (revisionRef : String) (round : Int) (idempotencyKey : String)
      (stageId : Option String) (final : Option Bool)
  | remediationConcluded (revisionRef : String) (round : Int) (outcome : RemediationOutcome)
      (stageId : Option String)
  | budgetExhausted (stageId : String)
  | operatorOverride (overrideKind : OverrideKind) (principal reason : String)
      (roundCap : Option Int) (revisionRef : Option String)
  | finalized (revisionRef method : String)
  | closed (reason : String)
  | escalated (reason : String)
  | halted (reason : String)
  -- A row of a newer producer is preserved under the type it was written with.
  | unknown (type : String)
  deriving DecidableEq

/-- One appended observation, carrying its own time and provenance. -/
structure FinalizationEvent where
  subjectKey : SubjectKey
  at_ : String
  sourceRef : Option String := none
  body : EventBody
  deriving DecidableEq

def VerdictKind.text : VerdictKind → String
  | approved => "approved"
  | commentOnly => "comment-only"
  | requestChanges => "request-changes"
  | other text => text

def CheckConclusion.text : CheckConclusion → String
  | success => "success"
  | neutral => "neutral"
  | skipped => "skipped"
  | failure => "failure"
  | timedOut => "timed_out"
  | cancelled => "cancelled"
  | actionRequired => "action_required"
  | stale => "stale"
  | other text => text

def OverrideKind.text : OverrideKind → String
  | resume => "resume"
  | reopen => "reopen"
  | forceRereview => "force-rereview"
  | raiseCap => "raise-cap"
  | approve => "approve"
  | close => "close"
  | halt => "halt"
  | other text => text

def RemediationOutcome.text : RemediationOutcome → String
  | completed => "completed"
  | other text => text

def EventBody.type : EventBody → String
  | revisionAdvanced .. => "revision_advanced"
  | verdictRecorded .. => "verdict_recorded"
  | checksSettled .. => "checks_settled"
  | attestationRecorded .. => "attestation_recorded"
  | remediationDispatched .. => "remediation_dispatched"
  | remediationConcluded .. => "remediation_concluded"
  | budgetExhausted .. => "budget_exhausted"
  | operatorOverride .. => "operator_override"
  | finalized .. => "finalized"
  | closed .. => "closed"
  | escalated .. => "escalated"
  | halted .. => "halted"
  | unknown type => type

def requiredFields (event : FinalizationEvent) : List (String × String) :=
  let sourceRef := ("sourceRef", event.sourceRef.getD "")
  match event.body with
  | .revisionAdvanced revisionRef => [("revisionRef", revisionRef)]
  | .verdictRecorded revisionRef stageId role verdictKind =>
    [("revisionRef", revisionRef), ("stageId", stageId), ("role", role),
      ("verdictKind", verdictKind.text), sourceRef]
  | .checksSettled revisionRef conclusion _ =>
    [("revisionRef", revisionRef), ("conclusion", conclusion.text), sourceRef]
  | .attestationRecorded revisionRef kind principal =>
    [("revisionRef", revisionRef), ("kind", kind), ("principal", principal), sourceRef]
  | .remediationDispatched revisionRef _ idempotencyKey _ _ =>
    [("revisionRef", revisionRef), ("idempotencyKey", idempotencyKey)]
  | .remediationConcluded revisionRef _ outcome _ =>
    [("revisionRef", revisionRef), ("outcome", outcome.text)]
  | .budgetExhausted stageId => [("stageId", stageId)]
  | .operatorOverride overrideKind principal reason _ _ =>
    [("overrideKind", overrideKind.text), ("principal", principal), ("reason", reason)]
  | .finalized revisionRef method => [("revisionRef", revisionRef), ("method", method)]
  | .closed reason => [("reason", reason)]
  | .escalated reason => [("reason", reason)]
  | .halted reason => [("reason", reason)]
  | .unknown _ => []

def resolveSubjectKey (subject : SubjectKey) : Except String SubjectKey :=
  if subject.domainId = "" ∨ subject.subjectExternalId = "" then
    .error "finalization event requires a subject with domainId + subjectExternalId"
  else .ok subject

def makeFinalizationEvent (event : FinalizationEvent) : Except String FinalizationEvent :=
  match event.body with
  | .unknown type => .error ("unknown finalization event type: " ++ type)
  | _ =>
    if event.at_ = "" then .error "finalization event requires an `at` ISO timestamp"
    else match resolveSubjectKey event.subjectKey with
      | .error refusal => .error refusal
      | .ok _ =>
        match (requiredFields event).find? fun field => field.2 = "" with
        | some field =>
          .error ("finalization " ++ event.body.type ++ " event requires a non-empty " ++ field.1)
        | none => .ok event

theorem makeFinalizationEvent_eq {event stored : FinalizationEvent}
    (accepted : makeFinalizationEvent event = .ok stored) : stored = event := by
  -- Every branch either refuses or hands the same event on.
  unfold makeFinalizationEvent at accepted
  split at accepted
  · cases accepted
  · split at accepted
    · cases accepted
    · split at accepted
      · cases accepted
      · split at accepted
        · cases accepted
        · exact (Except.ok.inj accepted).symm

structure VerdictRecord where
  stageId : String
  role : String
  verdictKind : VerdictKind
  sourceRef : Option String
  at_ : String
  deriving DecidableEq

/-- The last settled check observation at a revision. -/
structure ChecksRecord where
  conclusion : CheckConclusion
  requiredChecksPresent : Bool
  sourceRef : Option String
  at_ : String

structure AttestationRecord where
  kind : String
  principal : String
  sourceRef : Option String
  at_ : String

/-- What the ledger says about one revision. -/
structure RevisionState where
  verdicts : List VerdictRecord := []
  checks : Option ChecksRecord := none
  attestations : List AttestationRecord := []
  revisionAdvancedAt : Option String := none

structure StageState where
  budgetExhausted : Bool := false
  budgetExhaustedAt : Option String := none
  dispatchedRounds : Nat := 0
  concludedRounds : Nat := 0

structure DispatchRecord where
  revisionRef : String
  round : Int
  idempotencyKey : String
  stageId : Option String
  final : Bool
  at_ : String

structure ConclusionRecord where
  revisionRef : String
  round : Int
  outcome : RemediationOutcome
  stageId : Option String
  at_ : String

structure OverrideRecord where
  overrideKind : OverrideKind
  principal : String
  reason : String
  roundCap : Option Int
  revisionRef : Option String
  at_ : String

/-- The four marks that end or suspend a subject. -/
inductive TerminalKind where
  | finalized
  | closed
  | escalated
  | halted
  deriving DecidableEq

/-- A recorded terminal mark. -/
structure TerminalState where
  kind : TerminalKind
  reason : Option String := none
  revisionRef : Option String := none
  method : Option String := none
  at_ : String

/-- The remediation rounds of a subject, in append order. -/
structure RemediationHistory where
  dispatched : List DispatchRecord := []
  concluded : List ConclusionRecord := []

/-- The projection of a whole ledger. -/
structure LedgerState where
  subjectKey : Option SubjectKey := none
  eventCount : Nat := 0
  lastEventAt : Option String := none
  currentRevision : Option String := none
  revisions : OrderedMap String RevisionState := .empty
  stages : OrderedMap String StageState := .empty
  remediation : RemediationHistory := {}
  operatorOverrides : List OverrideRecord := []
  -- The most recent unresolved terminal mark.
  terminal : Option TerminalState := none
  finalized : Option TerminalState := none

def initialLedgerState : LedgerState := {}

def truthy (text : Option String) : Bool :=
  text.getD "" ≠ ""

def OverrideKind.resuming : OverrideKind → Bool
  | resume | reopen | forceRereview | raiseCap | approve => true
  | close | halt | other _ => false

def TerminalKind.suspends : TerminalKind → Bool
  | escalated | halted => true
  | finalized | closed => false

def ensureRevision (state : LedgerState) (rev : String) : RevisionState :=
  (state.revisions.get? rev).getD {}

def ensureStage (state : LedgerState) (stageId : String) : StageState :=
  (state.stages.get? stageId).getD {}

def LedgerState.updateRevision (state : LedgerState) (rev : String)
    (change : RevisionState → RevisionState) : LedgerState :=
  { state with revisions := state.revisions.set rev (change (ensureRevision state rev)) }

def LedgerState.updateStage (state : LedgerState) (stageId : String)
    (change : StageState → StageState) : LedgerState :=
  { state with stages := state.stages.set stageId (change (ensureStage state stageId)) }

def LedgerState.updateNamedStage (state : LedgerState) (stageId : Option String)
    (change : StageState → StageState) : LedgerState :=
  { state with stages :=
      if truthy stageId then (state.updateStage (stageId.getD "") change).stages
      else state.stages }

def LedgerState.advanceHead (state : LedgerState) (rev : String) : LedgerState :=
  { state with currentRevision := some rev }

def LedgerState.recordDispatch (state : LedgerState) (round : DispatchRecord) : LedgerState :=
  { state with remediation.dispatched := state.remediation.dispatched ++ [round] }

def LedgerState.recordConclusion (state : LedgerState) (round : ConclusionRecord) : LedgerState :=
  { state with remediation.concluded := state.remediation.concluded ++ [round] }

/-- The bookkeeping every event gets, whatever its type. -/
def countEvent (state : LedgerState) (event : FinalizationEvent) : LedgerState :=
  { state with
    eventCount := state.eventCount + 1
    lastEventAt := some event.at_
    subjectKey := state.subjectKey.or (some event.subjectKey) }

def resumeTerminal (terminal : Option TerminalState) (kind : OverrideKind) :
    Option TerminalState :=
  match terminal with
  | some mark =>
    if mark.kind.suspends && kind.resuming then none else some mark
  | none => none

/-- The type-specific effect of one event. -/
def applyBody (state : LedgerState) (event : FinalizationEvent) : LedgerState :=
  match event.body with
  | .revisionAdvanced rev =>
    (state.advanceHead rev).updateRevision rev fun r =>
      if truthy r.revisionAdvancedAt then r else { r with revisionAdvancedAt := some event.at_ }
  | .verdictRecorded rev stageId role verdictKind =>
    state.updateRevision rev fun r =>
      { r with verdicts := r.verdicts ++
        [{ stageId, role, verdictKind, sourceRef := event.sourceRef, at_ := event.at_ }] }
  | .checksSettled rev conclusion requiredChecksPresent =>
    -- The last observation wins: checks re-run and settle.
    let observed : ChecksRecord :=
      { conclusion, requiredChecksPresent, sourceRef := event.sourceRef, at_ := event.at_ }
    state.updateRevision rev fun r => { r with checks := some observed }
  | .attestationRecorded rev kind principal =>
    state.updateRevision rev fun r =>
      { r with attestations := r.attestations ++
        [{ kind, principal, sourceRef := event.sourceRef, at_ := event.at_ }] }
  | .remediationDispatched rev round idempotencyKey stageId final =>
    (state.recordDispatch
      { revisionRef := rev, round, idempotencyKey, stageId, final := final = some true,
        at_ := event.at_ }).updateNamedStage stageId
      fun s => { s with dispatchedRounds := s.dispatchedRounds + 1 }
  | .remediationConcluded rev round outcome stageId =>
    (state.recordConclusion
      { revisionRef := rev, round, outcome, stageId, at_ := event.at_ }).updateNamedStage stageId
      fun s => { s with concludedRounds := s.concludedRounds + 1 }
  | .budgetExhausted stageId =>
    state.updateStage stageId fun s =>
      { s with budgetExhausted := true, budgetExhaustedAt := some event.at_ }
  | .operatorOverride overrideKind principal reason roundCap revisionRef =>
    { state with
      operatorOverrides := state.operatorOverrides ++
        [{ overrideKind, principal, reason, roundCap, revisionRef, at_ := event.at_ }]
      terminal := resumeTerminal state.terminal overrideKind }
  | .finalized rev method =>
    let mark : TerminalState :=
      { kind := .finalized, revisionRef := some rev, method := some method, at_ := event.at_ }
    { state with finalized := some mark, terminal := some mark }
  | .closed reason =>
    { state with terminal := some { kind := .closed, reason := some reason, at_ := event.at_ } }
  | .escalated reason =>
    { state with terminal := some { kind := .escalated, reason := some reason, at_ := event.at_ } }
  | .halted reason =>
    { state with terminal := some { kind := .halted, reason := some reason, at_ := event.at_ } }
  -- A forward-compatible reader ignores types it does not know.
  | .unknown _ => state

def applyEvent (state : LedgerState) (event : FinalizationEvent) : LedgerState :=
  applyBody (countEvent state event) event

def foldFrom (snapshot : LedgerState) (events : List FinalizationEvent) : LedgerState :=
  events.foldl applyEvent snapshot

def fold (events : List FinalizationEvent) : LedgerState :=
  foldFrom initialLedgerState events

@[simp] theorem fold_nil : fold [] = initialLedgerState := rfl

theorem fold_append (events later : List FinalizationEvent) :
    fold (events ++ later) = foldFrom (fold events) later :=
  List.foldl_append

theorem fold_concat (events : List FinalizationEvent) (event : FinalizationEvent) :
    fold (events ++ [event]) = applyEvent (fold events) event := by
  rw [fold_append]
  rfl

end AdversarialReview
