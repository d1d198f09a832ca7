import AdversarialReview.Proofs.NextAction.DaemonSafety

/-! What a live owner keeps, which review a stop yields to, and which hammers a spent cap admits. -/

namespace AdversarialReview.NextAction

open Json Rung

/-- A row that sends nobody, and that no lapsed recovery may turn into a dispatch. -/
structure Row.Keeps (row : Row) : Prop where
  undispatched : row.queue ≠ .dispatch
  unmerged : row.queue ≠ .daemon
  settled : row.actor = .closureRecovery →
    isOneOf ["lease-expired", "merge-receipt-unconfirmed"] row.reason = false

theorem Row.Keeps.recoverLapsedRow {row : Row} (keeps : row.Keeps) (facts : Facts) :
    facts.recoverLapsedRow row = row := by
  unfold Facts.recoverLapsedRow
  split
  · rfl
  · next lapsed =>
    simp only [Bool.or_eq_true, Bool.not_eq_true', decide_eq_true_eq, not_or, not_not] at lapsed
    rw [if_pos]
    simp [keeps.settled lapsed.2]

/-- Someone may be at work on the head. -/
inductive LiveOwner (snapshot : Json) (facts : Facts) : Prop where
  | launch (forHead : facts.launchForHead = true) (owned : facts.launch.owned = some true)
  | unreadLaunch (forHead : facts.launchForHead = true) (unknown : facts.launch.owned = none)
  | unreadLeases (incomplete : (observation snapshot .leases).state ≠ .complete)
  | lease (inFlight : facts.leaseInFlight = true) (live : facts.leaseLive = true)
      (unended : facts.launchEnded = false)
  | job (live : facts.remediation.jobLive = true)
      (running : facts.remediation.jobStatus = some "in_progress")
  | reviewer (live : facts.review.live = true)

theorem ownerRungs_keep (facts : Facts) :
    ∀ rung ∈ facts.keeperRungs, Only Row.Keeps rung := by
  intro rung listed
  simp only [Facts.keeperRungs, Facts.ownerRungs, List.take_succ_cons, List.take_zero,
    List.mem_cons, List.not_mem_nil, or_false] at listed
  have unreadable : (recoveryRow .ownership "ownership-unreadable").Keeps :=
    ⟨by simp [recoveryRow], by simp [recoveryRow], by simp [recoveryRow, because, isOneOf, text?]⟩
  have owned : ∀ action actor deadlineAtMs round, actor ≠ .closureRecovery →
      Row.Keeps { Facts.ownerRow action actor with deadlineAtMs, round } := by
    intro action actor _ _ other
    exact ⟨by simp [Facts.ownerRow], by simp [Facts.ownerRow], fun same => absurd same other⟩
  have held : ∀ reason, (holdRow reason).Keeps := fun reason =>
    ⟨by simp [holdRow], by simp [holdRow], by simp [holdRow]⟩
  rcases listed with rfl | rfl | rfl | rfl | rfl | rfl | rfl | rfl | rfl | rfl
  · simp only [Facts.prUnknown, only_when]
    exact fun _ => ⟨by simp [refresh], by simp [refresh], by simp [refresh]⟩
  · simp only [Facts.terminalRow, only_when]
    exact fun _ => ⟨by simp, by simp, by simp⟩
  · simp only [Facts.explicitHold, only_when]
    exact fun _ => held _
  · simp only [Facts.draft, only_when]
    exact fun _ => held _
  · simp only [Facts.executionDisabled, only_when]
    exact fun _ => held _
  · simp only [Facts.liveLaunch, only_when]
    exact fun _ => owned _ _ _ _ (by simp)
  · simp only [Facts.liveJob, only_when]
    exact fun _ => owned _ _ _ _ (by simp)
  · simp only [Facts.liveReviewer, only_when]
    exact fun _ => owned _ _ none none (by simp)
  · simp only [Facts.leaseUnreadable, only_when]
    exact fun _ => unreadable
  · simp only [Facts.launchUnreadable, only_when]
    exact fun _ => unreadable

section

variable [JsText] [JsDate]

theorem LiveOwner.leased {snapshot : Json} {facts : Facts} (owner : LiveOwner snapshot facts)
    (reads : Reads snapshot facts) (cleared : OwnersCleared facts) :
    (facts.leaseInFlight = true ∧ facts.launchEnded = false) ∧ facts.leaseLive = true := by
  cases owner with
  | launch forHead owned => simp [cleared.unlaunched forHead] at owned
  | unreadLaunch forHead unknown => simp [cleared.unlaunched forHead] at unknown
  | unreadLeases incomplete => exact absurd (reads.leases cleared.leased) incomplete
  | lease inFlight live unended => exact ⟨⟨inFlight, unended⟩, live⟩
  | job live running => exact absurd ⟨live, running⟩ cleared.unremedied
  | reviewer live => simp [cleared.unreviewed] at live

theorem LiveOwner.selectRow {snapshot : Json} {facts : Facts} {row : Row}
    (owner : LiveOwner snapshot facts) (reads : Reads snapshot facts)
    (selected : facts.selectRow = .row row) : row.Keeps := by
  unfold Facts.selectRow Facts.ladder at selected
  rw [List.append_assoc, List.append_assoc, ← List.take_append_drop 10 facts.ownerRungs,
    List.append_assoc] at selected
  rcases climb_append selected with below | ⟨passed, above⟩
  · exact only_climb (ownerRungs_keep facts) row below
  · obtain ⟨⟨inFlight, unended⟩, live⟩ := owner.leased reads (ownersCleared passed)
    rcases climb_cases above with leased | ⟨free, -⟩
    · -- Only the lease is left, and its window is open.
      obtain ⟨-, rfl⟩ := when_eq_row leased
      unfold Facts.leasedRow
      rw [if_pos live]
      exact ⟨by simp [Facts.ownerRow], by simp [Facts.ownerRow], by simp [Facts.ownerRow]⟩
    · simp [Facts.leased, inFlight, unended] at free

/-- Nothing is dispatched and nothing merged over a live owner of the head. -/
theorem nextAction_keeps_live_owner [CheckRollups] [LaunchSdk] {snapshot : Json}
    {decision : Decision} (decides : nextAction snapshot = some decision)
    (owner : ∀ facts, timedFacts snapshot = some facts → LiveOwner snapshot facts) :
    decision.intent ≠ .dispatch ∧ decision.intent ≠ .daemon := by
  rcases nextAction_cases decides with ⟨facts, selected, timed, rows, -, intent⟩ | ⟨-, intent⟩
  · have keeps := (owner facts timed).selectRow (timedFacts_reads timed) rows
    rw [intent, keeps.recoverLapsedRow facts]
    exact ⟨keeps.undispatched, keeps.unmerged⟩
  · -- Malformed evidence is only refreshed.
    rw [intent]
    exact ⟨by simp, by simp⟩

end

def launchedObservations : List (Source × Json) :=
  (.launches, seen [("closer", .obj [("headSha", .str "a1"), ("status", .str "running")])]) ::
    cleanObservations

/-- The running launch keeps the clean pull request. -/
theorem nextAction_keeps_live_owner_launched :
    letI := JsText.ascii; letI := JsDate.isoDates
    letI := concludedRollups; letI := publishedStatuses
    ∃ decision, nextAction (observedSnapshot launchedObservations) = some decision ∧
      decision.intent ≠ .dispatch ∧ decision.intent ≠ .daemon := by
  let _ := JsText.ascii
  let _ := JsDate.isoDates
  let _ := concludedRollups
  let _ := publishedStatuses
  have decides : (nextAction (observedSnapshot launchedObservations)).isSome = true := by
    decide +kernel
  obtain ⟨decision, decides⟩ := Option.isSome_iff_exists.mp decides
  refine ⟨decision, decides, nextAction_keeps_live_owner decides ?_⟩
  intro facts timed
  have owned : (timedFacts (observedSnapshot launchedObservations)).all (fun facts =>
      facts.launchForHead && facts.launch.owned = some true) = true := by decide +kernel
  rw [timed] at owned
  simp only [Option.all_some, Bool.and_eq_true, decide_eq_true_eq] at owned
  exact .launch owned.1 owned.2

def Row.SendsHammer (row : Row) : Prop :=
  row.actor = .hammer ∧ row.queue = .dispatch

namespace Facts

def repairsPrimary (facts : Facts) : Bool :=
  facts.primaryRefused &&
    ["primary-change-reverted", "primary-change-unknown"].contains facts.primaryReason

def conflictedInfrastructure (facts : Facts) : Bool :=
  (facts.checks.infrastructureOnly || facts.checks.infrastructurePending) && facts.conflicted

theorem ownerRungs_unsent (facts : Facts) :
    ∀ rung ∈ facts.ownerRungs, Only (fun row => ¬row.SendsHammer) rung := by
  intro rung listed
  simp only [ownerRungs, List.mem_cons, List.not_mem_nil, or_false] at listed
  rcases listed with rfl | rfl | rfl | rfl | rfl | rfl | rfl | rfl | rfl | rfl | rfl
  case inr.inr.inr.inr.inr.inr.inr.inr.inr.inr =>
    -- An open lease is owned, a lapsed one reconciled.
    simp only [leased, only_when, leasedRow]
    intro _
    split <;> simp [Row.SendsHammer, ownerRow, recoveryRow]
  all_goals
    simp [prUnknown, terminalRow, explicitHold, draft, executionDisabled, liveLaunch, liveJob,
      liveReviewer, leaseUnreadable, launchUnreadable, Row.SendsHammer, refresh, holdRow,
      ownerRow, recoveryRow]

variable {facts : Facts}

theorem structuralRungs_unsent [JsText] (unrepaired : facts.repairsPrimary = false) :
    ∀ rung ∈ facts.structuralRungs, Only (fun row => ¬row.SendsHammer) rung := by
  intro rung listed
  simp only [structuralRungs, List.mem_cons, List.not_mem_nil, or_false] at listed
  rcases listed with rfl | rfl | rfl | rfl | rfl
  · simp [policyUnknown, Row.SendsHammer, refresh]
  · simp [emptyDiff, Row.SendsHammer, recoveryRow]
  · unfold safety
    split
    · intro decided thrown
      cases thrown
    · simp [Row.SendsHammer, recoveryRow]
  · simp only [primary, only_when, primaryRow]
    intro refused
    split
    · simp [Row.SendsHammer, recoveryRow]
    · split
      · next repairable =>
        rw [repairsPrimary, refused, Bool.true_and] at unrepaired
        rw [unrepaired] at repairable
        cases repairable
      · simp [Row.SendsHammer, refresh]
  · simp [receipted, Row.SendsHammer, recoveryRow]

theorem stopped_unsent {reselected : Option (Rung Row)} {base : Row}
    {recordedMs : Option Rat} {forHead : Bool} (retained : ¬base.SendsHammer) :
    Only (fun row => ¬row.SendsHammer) (facts.stopped reselected base recordedMs forHead) := by
  intro decided decides sends
  have kept : (.row base : Rung Row) = .row decided → False := by
    intro same
    exact retained (Rung.row.inj same ▸ sends)
  unfold stopped at decides
  split at decides
  · split at decides
    · split at decides
      · split at decides
        · -- What a stop yields to is the daemon's.
          next daemon =>
          simp only [Bool.and_eq_true, decide_eq_true_eq] at daemon
          have hammer := sends.1
          rw [← Rung.row.inj decides, daemon.2] at hammer
          cases hammer
        · exact kept decides
      · cases decides
      · exact kept decides
    · exact kept decides
  · exact kept decides

variable [JsDate]

theorem stopRungs_unsent (reselected : Option (Rung Row))
    (unapproved : facts.approvalApplied = false)
    (settled : facts.conflictedInfrastructure = false) :
    ∀ rung ∈ facts.stopRungs reselected, Only (fun row => ¬row.SendsHammer) rung := by
  have none : Only (fun row => ¬row.SendsHammer) (.pass : Rung Row) := by
    intro decided decides
    cases decides
  have recovery : ∀ row reason, ¬(recoveryRow row reason).SendsHammer := by
    intro row reason sends
    cases sends.1
  intro rung listed
  simp only [stopRungs, List.mem_cons, List.not_mem_nil, or_false] at listed
  rcases listed with rfl | rfl | rfl | rfl | rfl
  · unfold automatedStop
    split
    · exact stopped_unsent (recovery _ _)
    · exact none
  · simp only [infrastructure, only_when]
    intro waits
    have calm : facts.conflicted = false := by
      simpa [conflictedInfrastructure, waits] using settled
    simp [calm, Row.SendsHammer]
  · simp [approvalRow, unapproved, Only, when]
  · unfold capStop
    split
    · exact stopped_unsent (recovery _ _)
    · exact none
  · unfold finalStop
    split
    · exact stopped_unsent (fun sends => by cases sends.1)
    · exact none

variable [JsText]

theorem selectRow_unsent (spent : facts.capExhausted = true)
    (unapproved : facts.approvalApplied = false) (unrepaired : facts.repairsPrimary = false)
    (settled : facts.conflictedInfrastructure = false) :
    Only (fun row => ¬row.SendsHammer) facts.selectRow := by
  intro row selected
  unfold selectRow ladder at selected
  rcases climb_append selected with below | ⟨passed, -⟩
  · have only : ∀ rung ∈ facts.ownerRungs ++ facts.structuralRungs ++
        facts.stopRungs (some facts.reselect), Only (fun row => ¬row.SendsHammer) rung := by
      intro rung listed
      simp only [List.mem_append] at listed
      rcases listed with (owner | structural) | stop
      · exact facts.ownerRungs_unsent rung owner
      · exact structuralRungs_unsent unrepaired rung structural
      · exact stopRungs_unsent _ unapproved settled rung stop
    exact only_climb only row below
  · -- The cap's own row decides at the latest.
    have capped := passed (facts.capStop (some facts.reselect)) (by simp [stopRungs])
    simp only [capStop, Option.isSome_some, spent, Bool.and_self, if_true] at capped
    exact absurd capped stopped_ne_pass

end Facts

section

variable [JsText] [JsDate] [CheckRollups] [LaunchSdk]

/-- The daemon merges only where the first stop that applies is older than a clean review. -/
theorem nextAction_first_stop_superseded {snapshot : Json} {decision : Decision}
    (decides : nextAction snapshot = some decision) (daemon : decision.actor = .daemon) :
    ∃ facts, timedFacts snapshot = some facts ∧
      ∀ first ∈ facts.stopRecords.head?, facts.Supersedes first := by
  obtain ⟨-, facts, timed, -, superseded⟩ := nextAction_cleared decides daemon
  exact ⟨facts, timed, superseded⟩

end

def stoppedObservations : List (Source × Json) :=
  (.controls, seen [("stop", .obj [("deterministic", .bool true), ("recordedAt", .num 800000)])]) ::
    cleanObservations

def spentPolicy : Source × Json :=
  (.policy, seen [("autonomousMergeExecutionEnabled", .bool true),
    ("hammerCap", .obj [("lifetimeExhausted", .bool true)])])

theorem stopped_samples :
    letI := JsText.ascii; letI := JsDate.isoDates
    letI := concludedRollups; letI := publishedStatuses
    (nextAction (observedSnapshot stoppedObservations)).map (·.actor) = some .daemon ∧
    (nextAction (observedSnapshot (spentPolicy :: stoppedObservations))).map (·.actor) =
      some .daemon ∧
    (timedFacts (observedSnapshot (spentPolicy :: stoppedObservations))).map (fun facts =>
      (facts.capExhausted, timeMs (member facts.hammerCap "recordedAt"),
        facts.stopRecords.contains none)) = some (true, none, true) ∧
    (nextAction (observedSnapshot (spentPolicy :: cleanObservations))).isSome = true ∧
    (timedFacts (observedSnapshot (spentPolicy :: cleanObservations))).all (fun facts =>
      (facts.capExhausted && !facts.approvalApplied) &&
        (!facts.repairsPrimary && !facts.conflictedInfrastructure)) = true := by
  decide +kernel

/-- The daemon merges over the older stop. -/
theorem nextAction_first_stop_superseded_older :
    letI := JsText.ascii; letI := JsDate.isoDates
    letI := concludedRollups; letI := publishedStatuses
    ∃ decision, nextAction (observedSnapshot stoppedObservations) = some decision ∧
      decision.actor = .daemon ∧
      ∃ facts, timedFacts (observedSnapshot stoppedObservations) = some facts ∧
        ∀ first ∈ facts.stopRecords.head?, facts.Supersedes first := by
  let _ := JsText.ascii
  let _ := JsDate.isoDates
  let _ := concludedRollups
  let _ := publishedStatuses
  have granted : (nextAction (observedSnapshot stoppedObservations)).map (·.actor) =
      some .daemon := stopped_samples.1
  obtain ⟨decision, decides, actor⟩ := Option.map_eq_some_iff.mp granted
  exact ⟨decision, decides, actor, nextAction_first_stop_superseded decides actor⟩

/-- The daemon merges over a spent cap of unknown time once an older stop is superseded. -/
theorem nextAction_unsuperseded_cap :
    letI := JsText.ascii; letI := JsDate.isoDates
    letI := concludedRollups; letI := publishedStatuses
    (nextAction (observedSnapshot (spentPolicy :: stoppedObservations))).map (·.actor) =
      some .daemon ∧
    ∃ facts, timedFacts (observedSnapshot (spentPolicy :: stoppedObservations)) = some facts ∧
      facts.capExhausted = true ∧ timeMs (member facts.hammerCap "recordedAt") = none ∧
      ¬∀ record ∈ facts.stopRecords, facts.Supersedes record := by
  let _ := JsText.ascii
  let _ := JsDate.isoDates
  let _ := concludedRollups
  let _ := publishedStatuses
  refine ⟨stopped_samples.2.1, ?_⟩
  have listed : (timedFacts (observedSnapshot (spentPolicy :: stoppedObservations))).map
    (fun facts =>
      (facts.capExhausted, timeMs (member facts.hammerCap "recordedAt"),
        facts.stopRecords.contains none)) = some (true, none, true) := stopped_samples.2.2.1
  obtain ⟨facts, timed, read⟩ := Option.map_eq_some_iff.mp listed
  simp only [Prod.mk.injEq, List.contains_eq_mem, decide_eq_true_eq] at read
  refine ⟨facts, timed, read.1, read.2.1, ?_⟩
  intro superseded
  obtain ⟨recorded, -, known, -, -⟩ := (superseded none read.2.2).newer
  cases known

section

variable [JsText] [JsDate] [CheckRollups] [LaunchSdk]

/-- A spent cap admits a hammer only to repair the primary change or an awaited conflict. -/
theorem nextAction_spent_cap {snapshot : Json} {decision : Decision}
    (decides : nextAction snapshot = some decision)
    (spent : ∀ facts, timedFacts snapshot = some facts → facts.capExhausted = true ∧
      facts.approvalApplied = false)
    (unexcepted : ∀ facts, timedFacts snapshot = some facts → facts.repairsPrimary = false ∧
      facts.conflictedInfrastructure = false) :
    ¬(decision.actor = .hammer ∧ decision.intent = .dispatch) := by
  rintro ⟨hammer, dispatch⟩
  rcases nextAction_cases decides with ⟨facts, selected, timed, rows, actor, intent⟩ | ⟨actor, -⟩
  · obtain ⟨exhausted, unapproved⟩ := spent facts timed
    obtain ⟨unrepaired, settled⟩ := unexcepted facts timed
    have unsent := Facts.selectRow_unsent exhausted unapproved unrepaired settled selected rows
    -- A spent cap also blocks the lapsed recovery.
    have kept : facts.recoverLapsedRow selected = selected := by
      unfold Facts.recoverLapsedRow
      split
      · rfl
      · simp [Facts.recoveryBlocked, exhausted]
    rw [kept] at actor intent
    exact unsent ⟨actor.symm.trans hammer, intent.symm.trans dispatch⟩
  · rw [actor] at hammer
    cases hammer

end

/-- The clean pull request once its hammer cap is spent. -/
theorem nextAction_spent_cap_clean :
    letI := JsText.ascii; letI := JsDate.isoDates
    letI := concludedRollups; letI := publishedStatuses
    ∃ decision, nextAction (observedSnapshot (spentPolicy :: cleanObservations)) = some decision ∧
      ¬(decision.actor = .hammer ∧ decision.intent = .dispatch) := by
  let _ := JsText.ascii
  let _ := JsDate.isoDates
  let _ := concludedRollups
  let _ := publishedStatuses
  have some_ :
      (nextAction (observedSnapshot (spentPolicy :: cleanObservations))).isSome = true :=
    stopped_samples.2.2.2.1
  have read : (timedFacts (observedSnapshot (spentPolicy :: cleanObservations))).all (fun facts =>
      (facts.capExhausted && !facts.approvalApplied) &&
        (!facts.repairsPrimary && !facts.conflictedInfrastructure)) = true :=
    stopped_samples.2.2.2.2
  have holds : ∀ facts,
      timedFacts (observedSnapshot (spentPolicy :: cleanObservations)) = some facts →
      (facts.capExhausted = true ∧ facts.approvalApplied = false) ∧
        facts.repairsPrimary = false ∧ facts.conflictedInfrastructure = false := by
    intro facts timed
    rw [timed] at read
    simpa using read
  obtain ⟨decision, decides⟩ := Option.isSome_iff_exists.mp some_
  exact ⟨decision, decides, nextAction_spent_cap decides (fun facts timed => (holds facts timed).1)
    fun facts timed => (holds facts timed).2⟩

/-- A reverted primary change is repaired by a hammer although its cap is spent for good. -/
theorem nextAction_repairs_past_cap :
    letI := JsText.ascii; letI := JsDate.isoDates
    letI := concludedRollups; letI := publishedStatuses
    (timedFacts (observedSnapshot
      (spentPolicy :: (.progress, seen [("primaryChange", .obj [("ok", .bool false),
        ("reason", .str "primary-change-reverted")])]) :: cleanObservations))).map
      (fun facts => (facts.capExhausted, facts.approvalApplied)) = some (true, false) ∧
    (nextAction (observedSnapshot
      (spentPolicy :: (.progress, seen [("primaryChange", .obj [("ok", .bool false),
        ("reason", .str "primary-change-reverted")])]) :: cleanObservations))).map
      (fun decision => (decision.actor, decision.intent)) = some (.hammer, .dispatch) := by
  decide +kernel

end AdversarialReview.NextAction
