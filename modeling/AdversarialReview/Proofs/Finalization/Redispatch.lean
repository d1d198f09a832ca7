import Mathlib.Algebra.Order.BigOperators.Group.List
import Mathlib.Algebra.Order.Ring.Nat
import AdversarialReview.Finalization.Executor
import AdversarialReview.Proofs.Finalization.MergeSafety

/-! Ticks one after the other: stopped once while execution is disabled, when a subject stays done,
and when a round is dispatched behind one that has not concluded. -/

namespace AdversarialReview

def MarksAtMost (state : LedgerState) (before after : TickWorld) : Prop :=
  Unseen before after ∨ ∃ event kind,
    markOf event = some kind ∧ kind.suspends = true ∧
      state.terminal.map TerminalState.kind ≠ some kind ∧
      after.ledger = before.ledger ++ [event] ∧
      after.actions = before.actions ++ [.append event]

theorem MarksAtMost.congr {state : LedgerState} {before start ended after : TickWorld}
    (first : Unseen before start) (marks : MarksAtMost state start ended)
    (last : Unseen ended after) : MarksAtMost state before after := by
  rcases marks with unseen | ⟨event, kind, marked, suspends, unmarked, ledger, actions⟩
  · exact .inl (first.trans (unseen.trans last))
  · refine .inr ⟨event, kind, marked, suspends, unmarked, ?_, ?_⟩
    · rw [last.ledger, ledger, first.ledger]
    · rw [last.actions, actions, first.actions]

theorem MarksAtMost.calls {state : LedgerState} {before after : TickWorld}
    (marks : MarksAtMost state before after) : after.calls = before.calls := by
  unfold TickWorld.calls
  rcases marks with unseen | ⟨event, kind, -, -, -, -, actions⟩
  · rw [unseen.actions]
  · rw [actions]
    simp

section

variable [JsDate] [SqliteDate] {subject : SubjectKey} {answers : SurfaceAnswers}
  {leaseId : String}

theorem run_mark_unless {state : LedgerState} {event : FinalizationEvent} {kind : TerminalKind}
    (marked : markOf event = some kind) (suspends : kind.suspends = true)
    (outcome : ExecutionOutcome) (world : TickWorld) :
    MarksAtMost state world
      ((if state.terminal.map TerminalState.kind ≠ some kind then
          (append event).bind fun _ => .pure outcome
        else .pure outcome).run (performTick subject answers leaseId) world).2 := by
  split
  · next unmarked =>
    rw [run_append]
    rcases performTick_append_cases event world with same | ⟨ledger, actions⟩
    · rw [same]
      exact .inl (Unseen.refl world)
    · exact .inr ⟨event, kind, marked, suspends, unmarked, ledger, actions⟩
  · exact .inl (Unseen.refl world)

theorem run_recordKillSwitchEscalation (decision : EligibilityDecision) (state : LedgerState)
    (observedAt : String) (world : TickWorld) :
    MarksAtMost state world
      ((recordKillSwitchEscalation subject decision state observedAt).run
        (performTick subject answers leaseId) world).2 := by
  have suspends : TerminalKind.escalated.suspends = true := rfl
  exact run_mark_unless rfl suspends _ world

theorem applyDecision_killSwitch {config : ExecutorConfig} (killed : config.killSwitchOn = true)
    (decision : EligibilityDecision) (state : LedgerState) (observedAt : String)
    (world : TickWorld) :
    MarksAtMost state world
      ((applyDecision config subject decision state observedAt).run
        (performTick subject answers leaseId) world).2 := by
  unfold applyDecision
  simp only
  split
  · exact .inl (Unseen.refl world)
  · cases decision.kind with
    | finalizeNow =>
      simp only [applyFinalizeNow, killed, if_true]
      exact run_recordKillSwitchEscalation decision state observedAt world
    | remediate =>
      simp only [applyRemediate, killed, if_true]
      split
      · exact .inl (Unseen.refl world)
      · exact run_recordKillSwitchEscalation decision state observedAt world
    | close =>
      simp only [applyClose, killed, if_true]
      exact run_recordKillSwitchEscalation decision state observedAt world
    | wait => exact .inl (Unseen.refl world)
    | halt =>
      have suspends : TerminalKind.halted.suspends = true := rfl
      exact run_mark_unless rfl suspends _ world
    | escalate =>
      have suspends : TerminalKind.escalated.suspends = true := rfl
      exact run_mark_unless rfl suspends _ world

theorem runTick_killSwitch {call : TickCall} (killed : call.config.killSwitchOn = true)
    (world : TickWorld) :
    MarksAtMost (fold world.ledger) world (runTick subject call answers world).2 := by
  rcases runTick_acts subject call answers world with
    unseen | ⟨-, decision, -, start, before, after⟩
  · exact .inl unseen
  · exact (applyDecision_killSwitch killed decision _ _ start).congr before after

theorem runEpisode_calls {episode : Episode}
    (killed : ∀ call answers, episode = .tick call answers → call.config.killSwitchOn = true)
    (world : TickWorld) : (runEpisode subject world episode).calls = world.calls := by
  cases episode with
  | tick call answers => exact (runTick_killSwitch (killed call answers rfl) world).calls
  | events appended => rfl

/--
In every run of ticks with the kill switch on, whatever others append in between, no surface is
called, and each tick appends at most one event: an escalated or halted mark that is not the one
the ledger already stands under.
-/
theorem killSwitch_pages_once (subject : SubjectKey) (world : TickWorld) (episodes : List Episode)
    (killed : ∀ call answers, Episode.tick call answers ∈ episodes →
      call.config.policy.autonomousExecutionDisabled = some true) :
    (runEpisodes subject world episodes).calls = world.calls ∧
      ∀ before call answers after, episodes = before ++ .tick call answers :: after →
        ∃ appended : List FinalizationEvent,
          (runEpisodes subject world (before ++ [.tick call answers])).actions =
              (runEpisodes subject world before).actions ++ appended.map .append ∧
            (runEpisodes subject world (before ++ [.tick call answers])).ledger =
              (runEpisodes subject world before).ledger ++ appended ∧
            appended.length ≤ 1 ∧
            ∀ event ∈ appended, ∃ kind, markOf event = some kind ∧
              (kind = .escalated ∨ kind = .halted) ∧
              (fold (runEpisodes subject world before).ledger).terminal.map TerminalState.kind ≠
                some kind := by
  refine ⟨?_, ?_⟩
  · -- Induction on the run: a stretch adds no call.
    induction episodes generalizing world with
    | nil => rfl
    | cons episode episodes ih =>
      have first : (runEpisode subject world episode).calls = world.calls := by
        refine runEpisode_calls (fun call answers same => ?_) world
        exact decide_eq_true (killed call answers (same ▸ List.mem_cons_self))
      refine (ih (runEpisode subject world episode) fun call answers later => ?_).trans first
      exact killed call answers (List.mem_cons_of_mem _ later)
  · intro before call answers after split
    have disabled : call.config.killSwitchOn = true :=
      decide_eq_true (killed call answers (by simp [split]))
    have stepped : runEpisodes subject world (before ++ [.tick call answers]) =
        (runTick subject call answers (runEpisodes subject world before)).2 := by
      simp [runEpisodes, runEpisode]
    rw [stepped]
    have marks : MarksAtMost (fold (runEpisodes subject world before).ledger)
        (runEpisodes subject world before)
        (runTick subject call answers (runEpisodes subject world before)).2 :=
      runTick_killSwitch disabled _
    rcases marks with
      unseen | ⟨event, kind, marked, suspends, unmarked, ledger, actions⟩
    · exact ⟨[], by simp [unseen.actions], by simp [unseen.ledger], by simp, by simp⟩
    · refine ⟨[event], by simp [actions], by simp [ledger], by simp, ?_⟩
      intro only listed
      rw [List.mem_singleton.mp listed]
      refine ⟨kind, marked, ?_, unmarked⟩
      cases kind <;> simp_all [TerminalKind.suspends]

end

def stoppedTick (leaseId : String) : TickCall :=
  { config := { policy := { autonomousExecutionDisabled := some true }, enabled := true
                laneRouting := true, holderId := "executor" }
    observedAt := "2026-07-17T12:01:00.000Z", leaseId }

/-- Two stopped ticks over a subject that is ready to merge page once and merge nothing. -/
theorem killSwitch_pages_once_approved :
    letI := JsDate.isoDates
    letI := JsDate.isoSqlite
    let ended := runEpisodes ⟨"code-pr", "acme/app#7"⟩ { ledger := approvedLedger }
      [.tick (stoppedTick "lease-1") {}, .tick (stoppedTick "lease-2") {}]
    ended.calls = [] ∧ ended.ledger.map markOf = [none, none, none, some .escalated] := by
  let _ := JsDate.isoDates
  let _ := JsDate.isoSqlite
  refine ⟨(killSwitch_pages_once _ _ _ fun call answers ticked => ?_).1, by decide +kernel⟩
  simp only [List.mem_cons, Episode.tick.injEq, List.not_mem_nil, or_false] at ticked
  rcases ticked with ⟨rfl, -⟩ | ⟨rfl, -⟩ <;> rfl

def directed (events : List FinalizationEvent) : Prop :=
  ∃ directive, (events.filterMap overrideOf).getLast? = some directive ∧
    (directive.overrideKind = .close ∨ directive.overrideKind = .halt)

/--
Nothing undid the end of a subject: a finalized one stands under its last mark or under a close or
halt directive, and one that was only closed carries no later mark.
-/
def EndStands (events : List FinalizationEvent) : Prop :=
  (everFinalized events = true ∧ (revived events = false ∨ directed events)) ∨
    (everFinalized events = false ∧ lastMark events = some .closed)

def EligibilityDecision.starts (decision : EligibilityDecision) : Prop :=
  decision.kind = .remediate ∨ decision.kind = .wait ∨
    (decision.kind = .finalizeNow ∧ decision.reason ≠ some "already finalized")

def waitingPolicy (principal : String) (patienceMs : Int) : PolicyInput :=
  { consumeAttestations := some true, attestationProducers := some [.name principal]
    checksPatienceMs := some patienceMs, verdictPatienceMs := some patienceMs
    attestationPatienceMs := some patienceMs }

theorem exists_missingProducer (attestations : List AttestationRecord) :
    ∃ principal, missingProducers [{ principal, kind := "produced" }] attestations ≠ [] := by
  -- A name longer than every key that was seen yields a key that was not.
  let keys := attestations.map fun attestation => producerKey attestation.principal attestation.kind
  let longest := (keys.map String.length).sum
  refine ⟨String.ofList (List.replicate (longest + 1) 'a'), ?_⟩
  have unseen : producerKey (String.ofList (List.replicate (longest + 1) 'a')) "produced" ∉ keys := by
    intro seen
    have bounded := List.single_le_sum (fun _ _ => Nat.zero_le _) _
      (List.mem_map_of_mem (f := String.length) seen)
    simp only [producerKey, String.length_append, String.length_ofList, List.length_replicate]
      at bounded
    omega
  simpa [missingProducers, keys] using unseen

theorem applyDecision_of_done {state : LedgerState}
    (done : state.finalized.isSome = true ∨ state.terminal.map TerminalState.kind = some .closed)
    (config : ExecutorConfig) (subject : SubjectKey) (decision : EligibilityDecision)
    (observedAt : String) :
    ∃ outcome, applyDecision config subject decision state observedAt = .pure outcome := by
  unfold applyDecision
  simp only [if_pos done]
  exact ⟨_, rfl⟩

theorem lastMark_ne_none_of_everFinalized {events : List FinalizationEvent}
    (ended : everFinalized events = true) : lastMark events ≠ none := by
  obtain ⟨event, recorded, marks⟩ := List.any_eq_true.mp ended
  rw [lastMark, ne_eq, List.getLast?_eq_none_iff]
  exact List.ne_nil_of_mem (List.mem_filterMap.mpr ⟨event, recorded, of_decide_eq_true marks⟩)

section

variable [JsDate]

theorem eligibleUnder_not_starts {pol : EligibilityPolicy} {state : LedgerState}
    {observedAt : Option String} {decision : EligibilityDecision}
    (ended : state.terminal ≠ none ∨ ∃ directive, latestActiveOverride state = some directive ∧
      (directive.overrideKind = .close ∨ directive.overrideKind = .halt))
    (decided : eligibleUnder pol state observedAt = .ok decision) : ¬ decision.starts := by
  rcases eligibleUnder_cases decided with
    ⟨mark, marked, rfl⟩ | ⟨-, directs⟩ | ⟨unmarked, undirected, -⟩ | ⟨rev, opened, -⟩
  · cases kind : mark.kind <;> simp [EligibilityDecision.starts, terminalDecision, kind]
  · rcases overrideDecision_kind directs with escalates | halts | ⟨closes, -⟩ <;>
      simp_all [EligibilityDecision.starts]
  · obtain ⟨directive, latest, closing⟩ := ended.resolve_left (not_not.mpr unmarked)
    have open_ := (overrideDecision_eq_none_iff _ _ _).mp undirected directive latest
    rcases closing with closes | halts
    · exact absurd closes open_.1
    · exact absurd halts open_.2
  · obtain ⟨directive, latest, closing⟩ := ended.resolve_left (not_not.mpr opened.unmarked)
    have open_ := opened.undirected directive latest
    rcases closing with closes | halts
    · exact absurd closes open_.1
    · exact absurd halts open_.2

def HeadDatable (events : List FinalizationEvent) : Prop :=
  ∀ rev stamp ms, headAfter events = some rev →
    (ensureRevision (fold events) rev).revisionAdvancedAt = some stamp →
    JsDate.parse stamp = some ms → ∃ patience, 0 < patience ∧
      (JsDate.toISOString (ms + patience)).isSome = true

theorem deadlineExpired_empty (deadline : Option String) :
    deadlineExpired (some "") deadline = false := by
  simp [deadlineExpired, JsDate.reached, JsDate.parse_empty]

theorem awaitEvidence_empty {base : DecisionFields} {anchorAt : Option String} {patienceMs : Int}
    {expired waiting : String} (timed : base.observedAt = some "")
    (datable : ∀ ms, JsDate.parse (anchorAt.getD "") = some ms →
      (JsDate.toISOString (ms + patienceMs)).isSome = true) :
    ∃ decision, awaitEvidence base anchorAt patienceMs expired waiting = .ok decision ∧
      decision.kind = .wait := by
  have dated : ∃ deadline, deadlineFrom anchorAt patienceMs = .ok deadline := by
    unfold deadlineFrom
    cases parsed : JsDate.parse (anchorAt.getD "") with
    | none => exact ⟨none, rfl⟩
    | some ms =>
      obtain ⟨text, written⟩ := Option.isSome_iff_exists.mp (datable ms parsed)
      exact ⟨some text, by simp [JsDate.shift, written, Except.map]⟩
  obtain ⟨deadline, dated⟩ := dated
  simp [awaitEvidence, dated, timed, deadlineExpired_empty]

variable {events : List FinalizationEvent}

theorem exists_waits_of_open {rev : String}
    (datable : HeadDatable events) (opened : OpenAt (fold events) rev) :
    ∃ policy decision, eligible (fold events) policy (some "") = .ok decision ∧
      decision.kind = .wait := by
  obtain ⟨principal, missing⟩ :=
    exists_missingProducer (ensureRevision (fold events) rev).attestations
  -- The patience is any one for which the head's deadline can be written.
  obtain ⟨patience, positive, writable⟩ : ∃ patience : Int, 0 < patience ∧
      ∀ ms, JsDate.parse
          (((ensureRevision (fold events) rev).revisionAdvancedAt.or (some "")).getD "") = some ms →
        (JsDate.toISOString (ms + patience)).isSome = true := by
    cases stamped : (ensureRevision (fold events) rev).revisionAdvancedAt with
    | none => exact ⟨1, by decide, by simp [JsDate.parse_empty]⟩
    | some stamp =>
      cases parsed : JsDate.parse stamp with
      | none => exact ⟨1, by decide, by simp [parsed]⟩
      | some ms =>
        obtain ⟨patience, positive, writable⟩ := datable rev stamp ms
          (by rw [← fold_currentRevision, opened.head]) stamped parsed
        refine ⟨patience, positive, fun other same => ?_⟩
        have same : ms = other := by simpa [parsed] using same
        rwa [← same]
  have base : (decisionBase (fold events) (some "")).observedAt = some "" := rfl
  obtain ⟨pol, accepted, consumes, producers, checksPatience, verdictPatience,
      attestationPatience⟩ : ∃ pol, normalizePolicy (waitingPolicy principal patience) = .ok pol ∧
      pol.consumeAttestations = true ∧
      pol.attestationProducers = [{ principal, kind := "produced" }] ∧
      pol.checksPatienceMs = patience ∧ pol.verdictPatienceMs = patience ∧
      pol.attestationPatienceMs = patience := by
    refine ⟨_, rfl, rfl, rfl, ?_, ?_, ?_⟩ <;> simp [waitingPolicy, positiveMs, positive]
  refine ⟨waitingPolicy principal patience, ?_⟩
  have awaits : ∀ expired waiting, ∃ decision,
      awaitEvidence (decisionBase (fold events) (some ""))
          ((ensureRevision (fold events) rev).revisionAdvancedAt.or (some "")) patience expired
          waiting = .ok decision ∧ decision.kind = .wait :=
    fun expired waiting => awaitEvidence_empty base writable
  have awaited : awaitedProducers pol (ensureRevision (fold events) rev) ≠ [] := by
    simpa [awaitedProducers, consumes, producers] using missing
  simp only [eligible, accepted, eligibleUnder_of_open opened, revisionDecision, base,
    checksPatience, verdictPatience, attestationPatience]
  unfold ensureRevision at awaits awaited
  split
  · exact awaits _ _
  · split
    · exact awaits _ _
    · exact awaits _ _
    · rw [if_pos awaited]
      exact awaits _ _

theorem exists_starts_of_revived (datable : HeadDatable events)
    (back : revived events = true) (undirected : ¬ directed events) :
    ∃ policy decision, eligible (fold events) policy (some "") = .ok decision ∧
      decision.starts := by
  have unmarked : (fold events).terminal = none := by
    have slot := fold_terminal events
    rw [back, if_pos rfl] at slot
    exact Option.map_eq_none_iff.mp slot
  have free : ∀ directive, latestActiveOverride (fold events) = some directive →
      directive.overrideKind ≠ .close ∧ directive.overrideKind ≠ .halt := by
    intro directive latest
    rw [latestActiveOverride, fold_overrides] at latest
    constructor
    · exact fun closes => undirected ⟨directive, latest, .inl closes⟩
    · exact fun halts => undirected ⟨directive, latest, .inr halts⟩
  by_cases known : truthy (fold events).currentRevision = true
  · obtain ⟨rev, head⟩ : ∃ rev, (fold events).currentRevision = some rev := by
      cases head : (fold events).currentRevision with
      | none => simp [truthy, head] at known
      | some rev => exact ⟨rev, rfl⟩
    obtain ⟨policy, decision, decided, waits⟩ := exists_waits_of_open datable
      ⟨unmarked, free, head, by simpa [truthy, head] using known⟩
    exact ⟨policy, decision, decided, .inr (.inl waits)⟩
  · -- Without a head the fold waits under any policy.
    refine ⟨{}, ?_⟩
    have accepted : ∃ pol, normalizePolicy {} = .ok pol := ⟨_, rfl⟩
    obtain ⟨pol, accepted⟩ := accepted
    simp only [eligible, accepted, eligibleUnder, unmarked,
      (overrideDecision_eq_none_iff _ _ _).mpr free, known, Bool.false_eq_true, if_false]
    exact ⟨_, rfl, .inr (.inl rfl)⟩

variable [SqliteDate]

theorem runTick_of_done {world : TickWorld} (done : (fold world.ledger).finalized.isSome = true ∨
      (fold world.ledger).terminal.map TerminalState.kind = some .closed)
    (subject : SubjectKey) (call : TickCall) (answers : SurfaceAnswers) :
    Unseen world (runTick subject call answers world).2 := by
  rcases runTick_acts subject call answers world with
    unseen | ⟨-, decision, -, start, before, after⟩
  · exact unseen
  · obtain ⟨outcome, skipped⟩ := applyDecision_of_done done call.config subject decision
      call.observedAt
    rw [skipped] at after
    exact before.trans after

structure StaysDone (events : List FinalizationEvent) : Prop where
  marked : (fold events).finalized.isSome = true ∨
    (fold events).terminal.map TerminalState.kind = some .closed
  undecided : ∀ policy observedAt decision,
    eligible (fold events) policy observedAt = .ok decision → ¬ decision.starts
  untouched : ∀ subject call answers world, world.ledger = events →
    (runTick subject call answers world).2.calls = world.calls

theorem staysDone_of_endStands (stands : EndStands events) :
    StaysDone events := by
  have marked : (fold events).finalized.isSome = true ∨
      (fold events).terminal.map TerminalState.kind = some .closed := by
    rcases stands with ⟨ended, -⟩ | ⟨-, closes⟩
    · exact .inl (by rw [fold_finalized_isSome, ended])
    · refine .inr ?_
      rw [fold_terminal, closes]
      simp [revived, closes, TerminalKind.suspends]
  refine ⟨marked, fun policy observedAt decision decided => ?_, ?_⟩
  · unfold eligible at decided
    split at decided
    · cases decided
    · refine eligibleUnder_not_starts ?_ decided
      rcases stands with ⟨ended, unrevived | ⟨directive, latest, directs⟩⟩ | ⟨-, closes⟩
      · -- The last mark is still in the terminal slot.
        refine .inl fun unmarked => lastMark_ne_none_of_everFinalized ended ?_
        have slot := fold_terminal events
        rw [unmarked, unrevived] at slot
        exact slot.symm
      · exact .inr ⟨directive, by rw [latestActiveOverride, fold_overrides, latest], directs⟩
      · refine .inl fun unmarked => ?_
        have slot := fold_terminal events
        rw [unmarked, closes] at slot
        simp [revived, closes, TerminalKind.suspends] at slot
  · intro subject call answers world same
    subst same
    unfold TickWorld.calls
    rw [(runTick_of_done marked subject call answers).actions]

/--
A finalized or closed subject stays done exactly while its end stands.

The converse needs a head whose patience can be dated: at the very last instant of the calendar
the fold throws instead of deciding.
-/
theorem staysDone_iff_endStands (events : List FinalizationEvent) :
    (EndStands events → StaysDone events) ∧
      (HeadDatable events → StaysDone events → EndStands events) := by
  refine ⟨staysDone_of_endStands, fun datable done => ?_⟩
  cases ended : everFinalized events with
  | true =>
    refine .inl ⟨ended, ?_⟩
    by_contra undone
    obtain ⟨back, undirected⟩ := not_or.mp undone
    obtain ⟨policy, decision, decided, starts⟩ :=
      exists_starts_of_revived datable (by simpa using back) undirected
    exact done.undecided policy _ decision decided starts
  | false =>
    refine .inr ⟨ended, ?_⟩
    -- Only the terminal slot can still mark the end, and it holds the last mark.
    have closes := done.marked.resolve_left (by rw [fold_finalized_isSome, ended]; decide)
    rw [fold_terminal] at closes
    split at closes
    · cases closes
    · exact closes

end

def reopenedLedger : List FinalizationEvent :=
  [.revisionAdvanced "head-1",
    .verdictRecorded "head-1" "review" "lead" .requestChanges,
    .checksSettled "head-1" .success true,
    .closed "abandoned",
    .escalated "paged by another producer",
    .operatorOverride .resume "operator" "looked at it" none none].map exampleEvent

theorem executor_named : "executor" ≠ "" := by decide

def liveTick (leaseId : String) : TickCall :=
  { config := { enabled := true, remediationSurface := true, closeSurface := true
                laneRouting := true, holderId := "executor", holder_named := executor_named }
    observedAt := "2026-07-17T12:01:00.000Z", leaseId }

/-- The closed subject is decided anew, and a tick dispatches remediation for it. -/
theorem closed_subject_revived :
    letI := JsDate.isoDates
    letI := JsDate.isoSqlite
    (∃ event ∈ reopenedLedger, markOf event = some .closed) ∧
      (fold reopenedLedger).terminal = none ∧ (fold reopenedLedger).finalized = none ∧
      (eligible (fold reopenedLedger) {} none).toOption.map EligibilityDecision.kind =
        some .remediate ∧
      (runTick ⟨"code-pr", "acme/app#7"⟩ (liveTick "lease-1") {}
          { ledger := reopenedLedger }).2.calls =
        [.dispatch "head-1" 1 (some "review") false "remediate:head-1:1"] := by
  refine ⟨?_, by decide +kernel, by decide +kernel, by decide +kernel, by decide +kernel⟩
  exact ⟨exampleEvent (.closed "abandoned"), by decide +kernel, rfl⟩

def Outstanding (rev : String) (events : List FinalizationEvent) : Prop :=
  ∃ before event after dispatch, events = before ++ event :: after ∧
    dispatchOf event = some dispatch ∧ dispatch.revisionRef = rev ∧
    (∀ later ∈ after, ∀ conclusion, conclusionOf later = some conclusion →
      ¬ (conclusion.revisionRef = rev ∧ conclusion.round = dispatch.round)) ∧
    ∀ later ∈ after, headOf later = none

def TickAction.redispatches (rev : String) : TickAction → Bool
  | call (.dispatch ..) => true
  | append event => (dispatchOf event).any fun dispatch => dispatch.revisionRef = rev
  | _ => false

def TickWorld.since (before after : TickWorld) : List TickAction :=
  after.actions.drop before.actions.length

def nextDispatchKey (state : LedgerState) (rev : String) : String :=
  dispatchKey rev (dispatchedRoundsForRev state rev + 1)
    (anyStageExhausted state (activeStageId (latestVerdicts (ensureRevision state rev))))

def RoundOwed (policy : PolicyInput) (state : LedgerState) (rev : String) : Prop :=
  ∃ pol checks, normalizePolicy policy = .ok pol ∧ OpenAt state rev ∧
    SettledAt pol state rev checks ∧ OwesRound pol state rev checks

/-- Between two worlds nothing was observed that dispatches a round. -/
def Quiet (rev : String) (before after : TickWorld) : Prop :=
  ∃ fresh, after.actions = before.actions ++ fresh ∧
    ∀ action ∈ fresh, action.redispatches rev = false

theorem Quiet.since {rev : String} {before after : TickWorld} (quiet : Quiet rev before after) :
    ∀ action ∈ before.since after, action.redispatches rev = false := by
  obtain ⟨fresh, grown, harmless⟩ := quiet
  simpa [TickWorld.since, grown] using harmless

theorem Quiet.of_unseen {rev : String} {before after : TickWorld} (unseen : Unseen before after) :
    Quiet rev before after :=
  ⟨[], by simp [unseen.actions], by simp⟩

theorem Quiet.trans {rev : String} {first second third : TickWorld}
    (before : Quiet rev first second) (after : Quiet rev second third) : Quiet rev first third := by
  obtain ⟨early, grown, harmless⟩ := before
  obtain ⟨late, grown', harmless'⟩ := after
  refine ⟨early ++ late, by rw [grown', grown, List.append_assoc], fun action seen => ?_⟩
  rcases List.mem_append.mp seen with old | new
  · exact harmless action old
  · exact harmless' action new

def QuietEffect (rev : String) : {β : Type} → TickEffect β → Prop
  | _, .call surface => (TickAction.call surface).redispatches rev = false
  | _, .append event => (TickAction.append event).redispatches rev = false
  | _, _ => True

section

variable [JsDate] [SqliteDate]

/--
A tick dispatches a round: it wins the lease, a round is owed at the head, its number was not
dispatched there yet, and it can be seen: at a surface, or as a new row of the revision.
-/
structure Redispatches (subject : SubjectKey) (call : TickCall) (world : TickWorld)
    (watched : String) (rev : String) : Prop where
  leases : takesLease subject call world = true
  unfinished : (fold world.ledger).finalized = none
  owed : RoundOwed call.config.policy (fold world.ledger) rev
  unnumbered : ∀ dispatch ∈ (fold world.ledger).remediation.dispatched,
    dispatch.revisionRef = rev →
      dispatch.round ≠ (dispatchedRoundsForRev (fold world.ledger) rev + 1 : Int)
  visible : call.config.remediationSurface = true ∨ (rev = watched ∧
    ∀ stored ∈ world.ledger, stored.body.type = "remediation_dispatched" →
      stored.body.idempotencyKey ≠ some (nextDispatchKey (fold world.ledger) rev))

variable {subject : SubjectKey} {answers : SurfaceAnswers} {leaseId : String}

theorem quiet_performTick {rev : String} {β : Type} (effect : TickEffect β) (world : TickWorld)
    (harmless : QuietEffect rev effect) :
    Quiet rev world (performTick subject answers leaseId effect world).2 := by
  cases effect with
  | readLedger => exact .of_unseen (unseen_read world)
  | acquire args => exact .of_unseen (unseen_acquire world args)
  | checkIdentity revisionRef decision => exact ⟨[], by simp [performTick, TickWorld.append,
      TickWorld.actions], by simp⟩
  | call surface =>
    refine ⟨[.call surface], ?_, by simpa [QuietEffect] using harmless⟩
    exact (actions_note world subject leaseId (.call surface)).trans (by simp [TickAction.acts])
  | append event =>
    rcases performTick_append_cases event world with same | ⟨-, actions⟩
    · rw [same]
      exact .of_unseen (Unseen.refl world)
    · exact ⟨[.append event], actions, by simpa [QuietEffect] using harmless⟩
  | release args => exact .of_unseen (unseen_release world args)

theorem actions_run {α : Type} (prog : Prog TickEffect α) (world : TickWorld) :
    ∃ fresh, (prog.run (performTick subject answers leaseId) world).2.actions =
      world.actions ++ fresh := by
  induction prog generalizing world with
  | pure value => exact ⟨[], by simp⟩
  | fail message => exact ⟨[], by simp⟩
  | step effect next ih =>
    obtain ⟨late, later⟩ := ih (performTick subject answers leaseId effect world).1
      (performTick subject answers leaseId effect world).2
    have early : ∃ fresh, (performTick subject answers leaseId effect world).2.actions =
        world.actions ++ fresh := by
      cases effect with
      | call surface =>
        exact ⟨_, actions_note world subject leaseId (.call surface)⟩
      | append event =>
        rcases performTick_append_cases event world with same | ⟨-, actions⟩
        · exact ⟨[], by rw [same, List.append_nil]⟩
        · exact ⟨_, actions⟩
      | readLedger => exact ⟨[], by simp [(unseen_read world).actions]⟩
      | acquire args => exact ⟨[], by simp [(unseen_acquire world args).actions]⟩
      | checkIdentity revisionRef decision => exact ⟨[], (List.append_nil _).symm⟩
      | release args => exact ⟨[], (List.append_nil _).symm⟩
    obtain ⟨fresh, first⟩ := early
    exact ⟨fresh ++ late, by rw [Prog.run_step, later, first, List.append_assoc]⟩

theorem mem_since_run {α : Type} {world first : TickWorld} {action : TickAction}
    (noted : first.actions = world.actions ++ [action]) (prog : Prog TickEffect α) :
    action ∈ world.since (prog.run (performTick subject answers leaseId) first).2 := by
  obtain ⟨fresh, grown⟩ := actions_run prog first
  unfold TickWorld.since
  rw [grown, noted]
  simp

theorem quiet_run {α : Type} {rev : String} {prog : Prog TickEffect α}
    (uses : prog.Uses (QuietEffect rev)) (world : TickWorld) :
    Quiet rev world (prog.run (performTick subject answers leaseId) world).2 :=
  uses.run (Quiet rev) (fun world => .of_unseen (Unseen.refl world)) Quiet.trans
    (fun effect world harmless => quiet_performTick effect world harmless) world

end

variable {rev : String}

theorem uses_append {event : FinalizationEvent} (other : dispatchOf event = none) :
    (append event).Uses (QuietEffect rev) :=
  ⟨by simp [QuietEffect, TickAction.redispatches, other], fun answer => Prog.uses_raise answer⟩

theorem uses_recordKillSwitchEscalation (subject : SubjectKey) (decision : EligibilityDecision)
    (state : LedgerState) (observedAt : String) :
    (recordKillSwitchEscalation subject decision state observedAt).Uses (QuietEffect rev) := by
  unfold recordKillSwitchEscalation
  split
  · exact (uses_append rfl).bind fun _ => trivial
  · trivial

theorem uses_checkIdentityAttestation (config : ExecutorConfig) (head : String)
    (decision : EligibilityDecision) :
    (checkIdentityAttestation config head decision).Uses (QuietEffect rev) := by
  unfold checkIdentityAttestation
  split
  · refine ⟨trivial, fun answer => ?_⟩
    simp only [Prog.pure_bind]
    split <;> trivial
  · trivial

theorem uses_laneMerge (config : ExecutorConfig) (head : String) :
    (laneMerge config head).Uses (QuietEffect rev) := by
  unfold laneMerge
  split
  · exact ⟨rfl, fun _ => trivial⟩
  · trivial

theorem uses_applyFinalizeNow (config : ExecutorConfig) (subject : SubjectKey)
    (decision : EligibilityDecision) (state : LedgerState) (head observedAt : String) :
    (applyFinalizeNow config subject decision state head observedAt).Uses (QuietEffect rev) := by
  unfold applyFinalizeNow
  simp only
  split
  · exact uses_recordKillSwitchEscalation subject decision state observedAt
  · refine (uses_checkIdentityAttestation config head decision).bind fun idv => ?_
    split
    · split
      · trivial
      · exact (uses_append rfl).bind fun _ => trivial
    · split
      · exact (uses_append rfl).bind fun _ => trivial
      · refine (uses_laneMerge config head).bind fun answer => ?_
        split
        · trivial
        · split
          · trivial
          · split
            · split
              · exact (uses_append rfl).bind fun _ => trivial
              · trivial
            · exact (uses_append rfl).bind fun _ => trivial

theorem uses_applyClose (config : ExecutorConfig) (subject : SubjectKey)
    (decision : EligibilityDecision) (state : LedgerState) (head observedAt : String) :
    (applyClose config subject decision state head observedAt).Uses (QuietEffect rev) := by
  unfold applyClose
  simp only
  split
  · exact uses_recordKillSwitchEscalation subject decision state observedAt
  · split
    · refine ⟨rfl, fun answer => ?_⟩
      simp only [Prog.pure_bind]
      split
      · trivial
      · exact (uses_append rfl).bind fun _ => trivial
    · exact (uses_append rfl).bind fun _ => trivial

variable {decision : EligibilityDecision}

theorem uses_applyDecision (other : decision.kind ≠ .remediate)
    (config : ExecutorConfig) (subject : SubjectKey) (state : LedgerState) (observedAt : String) :
    (applyDecision config subject decision state observedAt).Uses (QuietEffect rev) := by
  unfold applyDecision
  simp only
  split
  · trivial
  · split
    · exact uses_applyFinalizeNow config subject decision state _ observedAt
    · next remediates => exact absurd remediates other
    · exact uses_applyClose config subject decision state _ observedAt
    · trivial
    all_goals
      unfold applyMark
      split
      · exact (uses_append rfl).bind fun _ => trivial
      · trivial

variable {state : LedgerState}

theorem applyRemediate_numbered {config : ExecutorConfig} {subject : SubjectKey} {head : String}
    (observedAt : String)
    (numbered : ∃ dispatch ∈ state.remediation.dispatched, dispatch.revisionRef = head ∧
      dispatch.round = decision.round.getD 1) :
    ∃ outcome, applyRemediate config subject decision state head observedAt = .pure outcome := by
  have found : (state.remediation.dispatched.any fun d =>
      d.revisionRef = head ∧ d.round = decision.round.getD 1) = true := by
    simpa using numbered
  unfold applyRemediate
  simp only [found, if_true]
  exact ⟨_, rfl⟩

theorem orText_head {rev : String} (named : rev ≠ "") (other : String) :
    orText (some rev) other = rev := by
  simp [orText, truthy, named]

theorem worldMoved_of_head (head : state.currentRevision = some decision.revisionRef) :
    worldMoved decision state (some state.eventCount) = none := by
  simp [worldMoved, head]

def dispatchEvent (subject : SubjectKey) (decision : EligibilityDecision) (head : String)
    (observedAt : String) : FinalizationEvent :=
  { subjectKey := subject, at_ := observedAt
    body := .remediationDispatched head (decision.round.getD 1)
      (dispatchKey head (decision.round.getD 1) (decision.final = some true)) decision.stageId
      (some (decide (decision.final = some true))) }

theorem makeFinalizationEvent_dispatchEvent {subject key : SubjectKey} {rev observedAt : String}
    (resolved : resolveSubjectKey subject = .ok key) (timed : observedAt ≠ "") (named : rev ≠ "") :
    makeFinalizationEvent (dispatchEvent subject decision rev observedAt) =
      .ok (dispatchEvent subject decision rev observedAt) := by
  have keyed : dispatchKey rev (decision.round.getD 1) (decision.final = some true) ≠ "" := by
    intro empty
    have length := congrArg String.length empty
    simp only [dispatchKey, String.length_append] at length
    have spelled : "remediate:".length = 10 := rfl
    have nothing : "".length = 0 := rfl
    omega
  simp [makeFinalizationEvent, dispatchEvent, timed, resolved, requiredFields, named, keyed]

/-- The decision a subject that owes a round is given, once its head is known. -/
structure AsksRound (decision : EligibilityDecision) (state : LedgerState) (rev : String) : Prop where
  remediates : decision.kind = .remediate
  head : decision.revisionRef = rev
  round : decision.round.getD 1 = (dispatchedRoundsForRev state rev + 1 : Int)
  final : decide (decision.final = some true) =
    anyStageExhausted state (activeStageId (latestVerdicts (ensureRevision state rev)))

theorem applyDecision_of_asks {config : ExecutorConfig} {subject : SubjectKey}
    {rev : String} (unfinished : state.finalized = none)
    (opened : OpenAt state rev) (asks : AsksRound decision state rev) (observedAt : String) :
    applyDecision config subject decision state observedAt =
      applyRemediate config subject decision state rev observedAt := by
  unfold applyDecision
  simp [unfinished, opened.unmarked, asks.remediates, asks.head, orText_head opened.named]

theorem conflicts_dispatchEvent_iff (subject : SubjectKey) (decision : EligibilityDecision)
    (rev observedAt : String) (stored : FinalizationEvent) :
    (dispatchEvent subject decision rev observedAt).body.conflicts stored.body = true ↔
      stored.body.type = "remediation_dispatched" ∧ stored.body.idempotencyKey =
        some (dispatchKey rev (decision.round.getD 1) (decision.final = some true)) := by
  simp only [dispatchEvent, EventBody.conflicts, EventBody.idempotencyKey, EventBody.type,
    Option.isSome_some, true_and, decide_eq_true_eq]
  exact and_congr eq_comm eq_comm

section

variable [JsDate]

theorem asksRound_of_remediate {policy : PolicyInput} {state : LedgerState}
    {observedAt : Option String} {decision : EligibilityDecision}
    (decided : eligible state policy observedAt = .ok decision)
    (remediates : decision.kind = .remediate) :
    ∃ rev, RoundOwed policy state rev ∧ AsksRound decision state rev := by
  unfold eligible at decided
  split at decided
  · cases decided
  · next pol accepted =>
    obtain ⟨rev, checks, opened, settled, owes, round, head, final⟩ :=
      eligibleUnder_remediate decided remediates
    refine ⟨rev, ⟨pol, checks, accepted, opened, settled, owes⟩, remediates, head, ?_, ?_⟩
    · rw [round, Option.getD_some]
    · rw [final]
      split <;> simp_all

theorem remediate_of_roundOwed {policy : PolicyInput} {state : LedgerState} {rev : String}
    (enabled : policy.autonomousExecutionDisabled ≠ some true)
    (owed : RoundOwed policy state rev) (observedAt : Option String) :
    ∃ decision, eligible state policy observedAt = .ok decision ∧
      AsksRound decision state rev := by
  obtain ⟨pol, checks, accepted, opened, settled, owes⟩ := owed
  have enabled : pol.autonomousExecutionDisabled = false := by
    rw [(normalizePolicy_ok accepted).2.2.2]
    exact decide_eq_false enabled
  obtain ⟨decision, decided, remediates⟩ :=
    eligibleUnder_of_owes enabled opened settled owes observedAt
  have decided : eligible state policy observedAt = .ok decision := by
    simp only [eligible, accepted, decided]
  refine ⟨decision, decided, ?_⟩
  obtain ⟨named, ⟨-, -, -, located, -, -⟩, asks⟩ := asksRound_of_remediate decided remediates
  have same : named = rev := Option.some.inj (located.head.symm.trans opened.head)
  rwa [same] at asks

end

section

variable [JsDate] [SqliteDate] {subject : SubjectKey} {answers : SurfaceAnswers}
  {leaseId : String}

theorem run_applyRemediate_surface {config : ExecutorConfig} {decision : EligibilityDecision}
    {state : LedgerState} {head : String} (observedAt : String)
    (off : config.killSwitchOn = false) (surface : config.remediationSurface = true)
    (unnumbered : ∀ dispatch ∈ state.remediation.dispatched, dispatch.revisionRef = head →
      dispatch.round ≠ decision.round.getD 1) (rev : String) (world : TickWorld) :
    ∃ action ∈ world.since ((applyRemediate config subject decision state head observedAt).run
      (performTick subject answers leaseId) world).2, action.redispatches rev = true := by
  have fresh : (state.remediation.dispatched.any fun d =>
      d.revisionRef = head ∧ d.round = decision.round.getD 1) = false := by
    simpa using unnumbered
  let called : SurfaceCall := .dispatch head (decision.round.getD 1) decision.stageId
    (decision.final = some true)
    (dispatchKey head (decision.round.getD 1) (decision.final = some true))
  refine ⟨.call called, ?_, rfl⟩
  unfold applyRemediate
  simp only [fresh, off, surface, Bool.false_eq_true, if_false, if_true, Prog.bind_eq,
    Prog.perform_bind, Prog.run_step]
  -- The call is observed first; an append may follow it.
  have noted : (performTick subject answers leaseId (.call called) world).2.actions =
      world.actions ++ [.call called] :=
    (actions_note world subject leaseId (.call called)).trans (by simp [TickAction.acts])
  exact mem_since_run noted _

theorem run_applyRemediate_silent {config : ExecutorConfig} {decision : EligibilityDecision}
    {state : LedgerState} {head : String} (observedAt : String)
    (off : config.killSwitchOn = false) (silent : config.remediationSurface = false)
    (unnumbered : ∀ dispatch ∈ state.remediation.dispatched, dispatch.revisionRef = head →
      dispatch.round ≠ decision.round.getD 1) (world : TickWorld) :
    ((applyRemediate config subject decision state head observedAt).run
        (performTick subject answers leaseId) world).2 =
      (performTick subject answers leaseId
        (.append (dispatchEvent subject decision head observedAt)) world).2 := by
  have fresh : (state.remediation.dispatched.any fun d =>
      d.revisionRef = head ∧ d.round = decision.round.getD 1) = false := by
    simpa using unnumbered
  unfold applyRemediate
  simp only [fresh, off, silent, Bool.false_eq_true, if_false, Prog.bind_eq, Prog.pure_eq,
    Prog.pure_bind]
  exact run_append _ _ world

variable {call : TickCall} {world : TickWorld}

theorem called_of_takesLease (takes : takesLease subject call world = true) :
    call.observedAt ≠ "" ∧ ∃ key, resolveSubjectKey subject = .ok key := by
  unfold takesLease leaseDeadline at takes
  cases resolved : resolveSubjectKey subject with
  | error refusal => simp [resolved] at takes
  | ok key =>
    refine ⟨fun untimed => ?_, key, rfl⟩
    simp [resolved, untimed] at takes

theorem redispatches_seen (answers : SurfaceAnswers)
    {watched rev : String} (off : call.config.killSwitchOn = false)
    (redispatches : Redispatches subject call world watched rev) :
    ∃ action ∈ world.since (runTick subject call answers world).2,
      action.redispatches watched = true := by
  obtain ⟨leases, unfinished, owed, unnumbered, visible⟩ := redispatches
  obtain ⟨decision, decided, asks⟩ :=
    remediate_of_roundOwed (of_decide_eq_false off) owed (some call.observedAt)
  obtain ⟨-, -, -, opened, -, -⟩ := owed
  obtain ⟨start, before, after⟩ : ∃ start, Unseen world start ∧
      Unseen ((applyDecision call.config subject decision (fold world.ledger)
          call.observedAt).run (performTick subject answers call.leaseId) start).2
        (runTick subject call answers world).2 :=
    runTick_of_decided leases decided (worldMoved_of_head (by rw [asks.head, opened.head]))
  rw [applyDecision_of_asks unfinished opened asks] at after
  rw [← asks.round] at unnumbered
  have seen : world.since (runTick subject call answers world).2 =
      start.since ((applyRemediate call.config subject decision (fold world.ledger) rev
        call.observedAt).run (performTick subject answers call.leaseId) start).2 := by
    rw [TickWorld.since, after.actions, ← before.actions]
    rfl
  rw [seen]
  by_cases surface : call.config.remediationSurface = true
  · exact run_applyRemediate_surface _ off surface unnumbered watched start
  · obtain ⟨same, unused⟩ := visible.resolve_left surface
    obtain ⟨timed, key, resolved⟩ := called_of_takesLease leases
    rw [run_applyRemediate_silent _ off (by simpa using surface) unnumbered]
    have unstored : ∀ stored ∈ start.ledger, (dispatchEvent subject decision rev
        call.observedAt).body.conflicts stored.body = false := by
      intro stored kept
      rw [Bool.eq_false_iff, ne_eq, conflicts_dispatchEvent_iff]
      rintro ⟨typed, keyed⟩
      rw [before.ledger] at kept
      refine unused stored kept typed ?_
      rw [keyed, nextDispatchKey, asks.round, asks.final]
    have inserted : (performTick subject answers call.leaseId
        (.append (dispatchEvent subject decision rev call.observedAt)) start).2.actions =
          start.actions ++ [.append (dispatchEvent subject decision rev call.observedAt)] :=
      performTick_append_fresh (makeFinalizationEvent_dispatchEvent resolved timed opened.named)
        unstored
    refine ⟨.append (dispatchEvent subject decision rev call.observedAt), ?_, ?_⟩
    · simp [TickWorld.since, inserted]
    · simp [TickAction.redispatches, dispatchEvent, dispatchOf, same]

theorem quiet_of_not_redispatches {watched : String} (off : call.config.killSwitchOn = false)
    (none_ : ∀ rev, ¬ Redispatches subject call world watched rev) :
    Quiet watched world (runTick subject call answers world).2 := by
  rcases runTick_acts subject call answers world with
    unseen | ⟨takes, decision, decided, start, before, after⟩
  · exact .of_unseen unseen
  refine (Quiet.of_unseen before).trans (Quiet.trans ?_ (.of_unseen after))
  by_cases remediates : decision.kind = .remediate
  · obtain ⟨rev, owed, asks⟩ := asksRound_of_remediate decided remediates
    obtain ⟨-, -, -, opened, -, -⟩ := id owed
    by_cases unfinished : (fold world.ledger).finalized = none
    · rw [applyDecision_of_asks unfinished opened asks]
      by_cases numbered : ∃ dispatch ∈ (fold world.ledger).remediation.dispatched,
          dispatch.revisionRef = rev ∧ dispatch.round = decision.round.getD 1
      · obtain ⟨outcome, skipped⟩ := applyRemediate_numbered call.observedAt numbered
        rw [skipped]
        exact .of_unseen (Unseen.refl start)
      · have unnumbered : ∀ dispatch ∈ (fold world.ledger).remediation.dispatched,
            dispatch.revisionRef = rev → dispatch.round ≠ decision.round.getD 1 :=
          fun dispatch listed here same => numbered ⟨dispatch, listed, here, same⟩
        -- Every other condition holds, so the round cannot be visible.
        have invisible := fun visible => none_ rev
          ⟨takes, unfinished, owed, by rwa [← asks.round], visible⟩
        obtain ⟨silent, hidden⟩ := not_or.mp invisible
        rw [run_applyRemediate_silent _ off (by simpa using silent) unnumbered]
        by_cases same : rev = watched
        · -- The row is already stored under its key.
          have used := not_and.mp hidden same
          simp only [not_forall, not_not] at used
          obtain ⟨stored, kept, typed, keyed⟩ := used
          rw [performTick_append_replayed ⟨stored, by rwa [before.ledger],
            (conflicts_dispatchEvent_iff _ _ _ _ _).mpr ⟨typed, ?_⟩⟩]
          · exact .of_unseen (Unseen.refl start)
          · rw [keyed, nextDispatchKey, asks.round, asks.final]
        · refine quiet_performTick _ start ?_
          simp [QuietEffect, TickAction.redispatches, dispatchEvent, dispatchOf, same]
    · obtain ⟨outcome, skipped⟩ := applyDecision_of_done
        (.inl (Option.isSome_iff_ne_none.mpr unfinished)) call.config subject decision
        call.observedAt
      rw [skipped]
      exact .of_unseen (Unseen.refl start)
  · exact quiet_run (uses_applyDecision remediates _ _ _ _) start

/--
Behind an outstanding round of a revision, a tick that may execute dispatches nothing and records no
second round there, exactly when it is not about to dispatch the next one.
-/
theorem outstanding_round_iff (subject : SubjectKey) (start : TickWorld) (episodes : List Episode)
    (call : TickCall) (watched : String) :
    (call.config.killSwitchOn = false →
      Outstanding watched (runEpisodes subject start episodes).ledger →
      ∀ answers, ∀ action ∈ (runEpisodes subject start episodes).since
          (runEpisodes subject start (episodes ++ [.tick call answers])),
        action.redispatches watched = false) ↔
      ¬ (call.config.killSwitchOn = false ∧
        Outstanding watched (runEpisodes subject start episodes).ledger ∧
        ∃ rev, Redispatches subject call (runEpisodes subject start episodes) watched rev) := by
  have stepped : ∀ answers, runEpisodes subject start (episodes ++ [.tick call answers]) =
      (runTick subject call answers (runEpisodes subject start episodes)).2 := by
    intro answers
    simp [runEpisodes, runEpisode]
  simp only [stepped]
  constructor
  · rintro quiet ⟨off, outstanding, rev, redispatches⟩
    -- One choice of answers is enough to see the dispatch.
    obtain ⟨action, seen, dispatched⟩ := redispatches_seen {} off redispatches
    rw [quiet off outstanding {} action seen] at dispatched
    cases dispatched
  · intro none_ off outstanding answers
    refine (quiet_of_not_redispatches off fun rev redispatches => ?_).since
    exact none_ ⟨off, outstanding, rev, redispatches⟩

end

def blockedLedger : List FinalizationEvent :=
  [.revisionAdvanced "head-1",
    .verdictRecorded "head-1" "review" "lead" .requestChanges,
    .checksSettled "head-1" .success true].map exampleEvent

/-- Two ticks in a row dispatch two rounds at one head, the first of them still out. -/
theorem consecutive_ticks_redispatch :
    letI := JsDate.isoDates
    letI := JsDate.isoSqlite
    let first := runEpisodes ⟨"code-pr", "acme/app#7"⟩ { ledger := blockedLedger }
      [.tick (liveTick "lease-1") {}]
    let second := runEpisodes ⟨"code-pr", "acme/app#7"⟩ { ledger := blockedLedger }
      [.tick (liveTick "lease-1") {}, .tick (liveTick "lease-2") {}]
    Outstanding "head-1" first.ledger ∧
      first.since second =
        [.call (.dispatch "head-1" 2 (some "review") false "remediate:head-1:2"),
          .append { subjectKey := ⟨"code-pr", "acme/app#7"⟩, at_ := "2026-07-17T12:01:00.000Z"
                    body := .remediationDispatched "head-1" 2 "remediate:head-1:2"
                      (some "review") (some false) }] := by
  refine ⟨⟨blockedLedger, _, [], _, rfl, rfl, rfl, ?_, ?_⟩, by decide +kernel⟩
  · simp
  · simp

end AdversarialReview
