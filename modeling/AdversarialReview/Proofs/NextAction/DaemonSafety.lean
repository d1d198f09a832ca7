import AdversarialReview.Proofs.NextAction.DaemonRows

/-! What holds of a snapshot whenever the daemon is granted, and which stops a review supersedes. -/

namespace AdversarialReview.NextAction

open Json Rung

theorem recoverLapsedRow_daemon {facts : Facts} {selected : Row}
    (daemon : (facts.recoverLapsedRow selected).Daemon) :
    facts.recoverLapsedRow selected = selected := by
  unfold Facts.recoverLapsedRow at daemon ⊢
  split at daemon
  · next kept => rw [if_pos kept]
  · next lapsed =>
    rw [if_neg lapsed]
    split at daemon
    · next kept => rw [if_pos kept]
    · cases daemon

theorem Observation.complete?_some {seen : Observation} {value : Json}
    (complete : seen.complete? = some value) : seen.state = .complete ∧ value = seen.content := by
  unfold Observation.complete? at complete
  split at complete
  · next known => exact ⟨of_decide_eq_true known, (Option.some.inj complete).symm⟩
  · cases complete

/-- What the owner and hold rows show by declining. -/
structure OwnersCleared (facts : Facts) : Prop where
  known : facts.pr.known = true
  headed : facts.head.isSome = true
  unmerged : facts.pr.merged = false
  unclosed : facts.pr.closed = false
  undrafted : facts.pr.draft = false
  unlaunched : facts.launchForHead = true → facts.launch.owned = some false
  unremedied : ¬(facts.remediation.jobLive = true ∧
    facts.remediation.jobStatus = some "in_progress")
  unreviewed : facts.review.live = false
  leased : facts.lease.known = true

def Facts.keeperRungs (facts : Facts) : List (Rung Row) :=
  facts.ownerRungs.take 10

theorem ownersCleared {facts : Facts} (passed : ∀ rung ∈ facts.keeperRungs, rung = .pass) :
    OwnersCleared facts := by
  have unknown := passed facts.prUnknown (by simp [Facts.keeperRungs, Facts.ownerRungs])
  have terminal := passed facts.terminalRow (by simp [Facts.keeperRungs, Facts.ownerRungs])
  have draft := passed facts.draft (by simp [Facts.keeperRungs, Facts.ownerRungs])
  have launch := passed facts.liveLaunch (by simp [Facts.keeperRungs, Facts.ownerRungs])
  have job := passed facts.liveJob (by simp [Facts.keeperRungs, Facts.ownerRungs])
  have reviewer := passed facts.liveReviewer (by simp [Facts.keeperRungs, Facts.ownerRungs])
  have lease := passed facts.leaseUnreadable (by simp [Facts.keeperRungs, Facts.ownerRungs])
  have unreadable := passed facts.launchUnreadable (by simp [Facts.keeperRungs, Facts.ownerRungs])
  simp only [Facts.prUnknown, when_eq_pass, Bool.or_eq_false_iff, Bool.not_eq_false'] at unknown
  simp only [Facts.terminalRow, when_eq_pass, Bool.or_eq_false_iff] at terminal
  simp only [Facts.draft, when_eq_pass] at draft
  simp only [Facts.liveReviewer, when_eq_pass] at reviewer
  simp only [Facts.leaseUnreadable, when_eq_pass, Bool.not_eq_false'] at lease
  simp only [Facts.launchUnreadable, when_eq_pass, Bool.or_eq_false_iff] at unreadable
  refine ⟨unknown.1, ?_, terminal.1, terminal.2, draft, ?_, ?_, reviewer, lease⟩
  · simpa using unknown.2
  · intro forHead
    -- The launch is neither owned nor of unknown ownership.
    have unowned : facts.launch.owned ≠ some true := by
      simpa [Facts.liveLaunch, forHead] using launch
    have readable : facts.launch.owned ≠ none := by
      simpa [forHead] using unreadable.1
    cases owned : facts.launch.owned with
    | none => exact absurd owned readable
    | some live =>
      cases live with
      | true => exact absurd owned unowned
      | false => rfl
  · simpa [Facts.liveJob] using job

section

variable [JsDate]

variable {decision : Decision} {snapshot : Json}

theorem decided_row {head : Option String} {observedMs : Option Rat}
    {deferredBy : Option Deferral} {selected : Row}
    (decides : decided snapshot head observedMs deferredBy selected = some decision) :
    decision.actor = selected.actor ∧ decision.intent = selected.queue := by
  simp only [decided, Option.bind_eq_bind, Option.pure_def] at decides
  split at decides
  all_goals
    obtain ⟨due, -, same⟩ := Option.bind_eq_some_iff.mp decides
    cases same
    exact ⟨rfl, rfl⟩

variable [JsText]

theorem reviewFacts_onHead {reviews : Observation} {head : Option String} {policy : Json}
    {labels : Option (List Label)} {review : ReviewFacts}
    (reading : reviewFacts reviews head policy labels = some review) (known : review.known = true)
    (present : review.currentHeadVerdictAbsent = false) :
    sameHead (headJson review.reviewedHead) (headJson head) = true := by
  simp only [reviewFacts, Option.bind_eq_bind, Option.pure_def] at reading
  obtain ⟨clean, -, reading⟩ := Option.bind_eq_some_iff.mp reading
  obtain ⟨override, -, reading⟩ := Option.bind_eq_some_iff.mp reading
  have read := Option.some.inj reading
  rw [← read] at known present ⊢
  have knows : reviews.known = true := known
  simp only [knows, Bool.true_and] at present
  split at present
  · -- A normalized review also has a verdict.
    simp only [Bool.or_eq_false_iff, Bool.not_eq_false'] at present
    exact present.2
  · simpa using present

structure Reads (snapshot : Json) (facts : Facts) : Prop where
  observedMs : facts.observedMs = timeMs (snapshot.get? "observedAt")
  prKnown : facts.pr.known = ((observation snapshot .pr).known &&
    ["OPEN", "MERGED", "CLOSED"].contains (upper ((observation snapshot .pr).content.get? "state")))
  prMerged : facts.pr.merged =
    (upper ((observation snapshot .pr).content.get? "state") = "MERGED" : Bool)
  prClosed : facts.pr.closed =
    (upper ((observation snapshot .pr).content.get? "state") = "CLOSED" : Bool)
  review : reviewFacts (observation snapshot .reviews) facts.head
    (observation snapshot .policy).content facts.labels = some facts.review
  lease : facts.lease = leaseFacts (observation snapshot .leases) facts.head
  policy : facts.policy = (observation snapshot .policy).complete?
  controls : facts.controls = (observation snapshot .controls).complete?
  progress : facts.progress = (observation snapshot .progress).complete?

variable {facts : Facts}

theorem Reads.leases (reads : Reads snapshot facts)
    (known : facts.lease.known = true) : (observation snapshot .leases).state = .complete := by
  rw [reads.lease] at known
  unfold leaseFacts at known
  split at known <;> exact of_decide_eq_true known

theorem Reads.reviews (reads : Reads snapshot facts)
    (known : facts.review.known = true) : (observation snapshot .reviews).state = .complete := by
  have reading := reads.review
  simp only [reviewFacts, Option.bind_eq_bind, Option.pure_def] at reading
  obtain ⟨clean, -, reading⟩ := Option.bind_eq_some_iff.mp reading
  obtain ⟨override, -, reading⟩ := Option.bind_eq_some_iff.mp reading
  rw [← Option.some.inj reading] at known
  exact of_decide_eq_true known

inductive ReviewCovers (facts : Facts) : Prop where
  | onHead (clean : facts.review.clean = true) (head : facts.reviewedOnHead = true)
  | rebased (clean : facts.review.clean = true)
      (proof : facts.headPair (member (plain (member facts.progress "contentProof")) "fromHead")
        (member (plain (member facts.progress "contentProof")) "toHead") = true)
  | attested (clean : facts.review.clean = true)
      (proof : facts.headPair (member facts.closerCarry "reviewedHead")
        (member facts.closerCarry "currentHead") = true)
  | certified (validated :
        isBool (member (member facts.progress "terminalReview") "validated") true = true)
      (proof : facts.headPair
        (member (member facts.progress "terminalReview") "reviewedHeadSha")
        (member (member facts.progress "terminalReview") "headSha") = true)
  | approved (override : facts.review.operatorOverride = true)

theorem Reads.covered (reads : Reads snapshot facts)
    (work : facts.WorkCleared) : ReviewCovers facts := by
  have certifies : facts.terminalHead = true → ReviewCovers facts := by
    intro terminal
    simp only [Facts.terminalHead, Bool.and_eq_true] at terminal
    exact .certified terminal.1.1 terminal.1.2
  rcases work.covered with override | ⟨absent, found⟩
  · exact .approved override
  · rcases found with clean | terminal
    · cases missing : facts.review.currentHeadVerdictAbsent with
      | false => exact .onHead clean (reviewFacts_onHead reads.review work.known missing)
      | true =>
        have carried := absent missing
        simp only [Facts.carried, Bool.or_eq_true] at carried
        rcases carried with (semantic | attested) | terminal
        · simp only [Facts.semanticCarry, Bool.and_eq_true] at semantic
          exact .rebased clean semantic.2
        · simp only [Facts.attestedCarry, Facts.closerPair, Bool.and_eq_true] at attested
          exact .attested clean attested.1.1.1.2.2
        · exact certifies terminal
    · exact certifies terminal

structure DaemonSafe (snapshot : Json) (facts : Facts) : Prop where
  observed : (observation snapshot .pr).state = .complete
  opened : upper ((observation snapshot .pr).content.get? "state") = "OPEN"
  headed : facts.head.isSome = true
  undrafted : facts.pr.draft = false
  unheld : ∀ labels, facts.labels = some labels → ∀ label ∈ labels,
    label.name ∉ operatorHoldLabels
  enabled : (observation snapshot .policy).state = .complete ∧
    isBool ((observation snapshot .policy).content.get? "autonomousMergeExecutionEnabled") true
  unlaunched : facts.launchForHead = true → facts.launch.owned = some false
  unreviewed : facts.review.live = false
  unremedied : ¬(facts.remediation.jobLive = true ∧
    facts.remediation.jobStatus = some "in_progress")
  leasesObserved : (observation snapshot .leases).state = .complete
  unleased : facts.leaseInFlight = true → facts.launchEnded = true
  green : facts.checks.state = .success
  mergeable : facts.pr.mergeable = some "MERGEABLE"
  undirty : facts.pr.mergeState ≠ some "DIRTY"
  unrefused : facts.refusedSafely = false
  unemptied : isBool (member facts.progress "diffEmpty") true = false
  unreverted : facts.primaryRefused = false
  attested : facts.review.attestation ≠ some .invalid
  covered : ReviewCovers facts

theorem Reads.safe (reads : Reads snapshot facts)
    (cleared : facts.Cleared) : DaemonSafe snapshot facts := by
  have owners : OwnersCleared facts := ownersCleared fun rung listed =>
    cleared.owners rung (List.mem_of_mem_take listed)
  have unleased := cleared.owners facts.leased (by simp [Facts.ownerRungs])
  have known := owners.known
  rw [reads.prKnown, Bool.and_eq_true] at known
  have unmerged := owners.unmerged
  have unclosed := owners.unclosed
  rw [reads.prMerged, decide_eq_false_iff_not] at unmerged
  rw [reads.prClosed, decide_eq_false_iff_not] at unclosed
  have opened : upper ((observation snapshot .pr).content.get? "state") = "OPEN" := by
    have listed := known.2
    simp only [List.contains_eq_mem, List.mem_cons, List.not_mem_nil, or_false,
      decide_eq_true_eq] at listed
    rcases listed with opened | merged | closed
    · exact opened
    · exact absurd merged unmerged
    · exact absurd closed unclosed
  -- The switch is read from a complete policy observation.
  have enabled : (observation snapshot .policy).state = .complete ∧
      isBool ((observation snapshot .policy).content.get? "autonomousMergeExecutionEnabled")
        true := by
    have switch := cleared.structural facts.policyUnknown (by simp [Facts.structuralRungs])
    simp only [Facts.policyUnknown, when_eq_pass, Bool.not_eq_false', Facts.executionEnabled]
      at switch
    cases policy : facts.policy with
    | none => simp [policy, member, isBool, bool?] at switch
    | some value =>
      obtain ⟨complete, rfl⟩ := Observation.complete?_some (reads.policy ▸ policy)
      rw [policy] at switch
      exact ⟨complete, switch⟩
  have emptied := cleared.structural facts.emptyDiff (by simp [Facts.structuralRungs])
  have refused := cleared.structural facts.safety (by simp [Facts.structuralRungs])
  have reverted := cleared.structural facts.primary (by simp [Facts.structuralRungs])
  have green := cleared.work.green
  simp only [Facts.greenMergeable, Bool.and_eq_true, decide_eq_true_eq] at green
  refine ⟨of_decide_eq_true known.1, opened, owners.headed, owners.undrafted, ?_, enabled,
    owners.unlaunched, owners.unreviewed, owners.unremedied, reads.leases owners.leased,
    by simpa [Facts.leased] using unleased, green.1, green.2, ?_, ?_, ?_, ?_, ?_,
    reads.covered cleared.work⟩
  · intro labels read label listed held
    have unheld := cleared.unheld
    simp only [Facts.holdLabel, read, Option.getD_some, List.find?_eq_none] at unheld
    exact unheld label listed (by simpa using held)
  · have clean := cleared.work.clean
    simp only [Facts.conflicted, Bool.or_eq_false_iff, decide_eq_false_iff_not] at clean
    exact clean.2
  · unfold Facts.safety at refused
    split at refused
    · cases refused
    · simp only [when_eq_pass, Bool.or_eq_false_iff] at refused
      exact refused.1.1
  · simpa [Facts.emptyDiff] using emptied
  · simpa [Facts.primary] using reverted
  · simpa [Facts.attested] using cleared.work.attested

variable [CheckRollups] [LaunchSdk]

def timedFacts (snapshot : Json) : Option Facts := do
  let read ← snapshotFacts snapshot
  let admissionExpired ← expired snapshot read.observedMs .admission
  let recoveryExpired ← expired snapshot read.observedMs .recovery
  pure { read with admissionExpired, recoveryExpired }

theorem timedFacts_reads (timed : timedFacts snapshot = some facts) : Reads snapshot facts := by
  simp only [timedFacts, Option.bind_eq_bind, Option.bind_eq_some_iff, Option.pure_def,
    Option.some.injEq] at timed
  obtain ⟨read, reads, _, -, _, -, rfl⟩ := timed
  simp only [snapshotFacts, Option.bind_eq_bind, Option.bind_eq_some_iff, Option.pure_def,
    Option.some.injEq] at reads
  obtain ⟨checks, -, review, reviews, launch, -, rfl⟩ := reads
  exact ⟨rfl, rfl, rfl, rfl, reviews, rfl, rfl, rfl, rfl⟩

theorem timedFacts_checks (timed : timedFacts snapshot = some facts) :
    checksFacts (observation snapshot .checks) = some facts.checks := by
  simp only [timedFacts, Option.bind_eq_bind, Option.bind_eq_some_iff, Option.pure_def,
    Option.some.injEq] at timed
  obtain ⟨read, reads, _, -, _, -, rfl⟩ := timed
  simp only [snapshotFacts, Option.bind_eq_bind, Option.bind_eq_some_iff, Option.pure_def,
    Option.some.injEq] at reads
  obtain ⟨checks, checked, review, -, launch, -, rfl⟩ := reads
  exact checked

theorem nextAction_cases (decides : nextAction snapshot = some decision) :
    (∃ facts selected, timedFacts snapshot = some facts ∧ facts.selectRow = .row selected ∧
      decision.actor = (facts.recoverLapsedRow selected).actor ∧
      decision.intent = (facts.recoverLapsedRow selected).queue) ∨
    decision.actor = .watcher ∧ decision.intent = .observe := by
  unfold nextAction at decides
  split at decides
  · next facts selected chosen =>
    refine .inl ?_
    obtain ⟨_, -, decides⟩ := Option.bind_eq_some_iff.mp decides
    simp only [decide?, Option.bind_eq_bind, Option.bind_eq_some_iff] at chosen
    obtain ⟨read, reads, admission, admits, recovery, recovers, rest⟩ := chosen
    have timed : timedFacts snapshot = some { read with
        admissionExpired := admission, recoveryExpired := recovery } := by
      simp [timedFacts, reads, admits, recovers]
    split at rest
    · next row rows =>
      simp only [Option.pure_def, Option.some.injEq, Prod.mk.injEq] at rest
      obtain ⟨rfl, rfl⟩ := rest
      exact ⟨_, row, timed, rows, decided_row decides⟩
    · cases rest
  · exact .inr (decided_row decides)

theorem nextAction_cleared
    (decides : nextAction snapshot = some decision) (daemon : decision.actor = .daemon) :
    decision.intent = .daemon ∧ ∃ facts, timedFacts snapshot = some facts ∧ facts.Cleared ∧
      ∀ first ∈ facts.stopRecords.head?, facts.Supersedes first := by
  rcases nextAction_cases decides with ⟨facts, selected, timed, rows, actor, intent⟩ | ⟨actor, -⟩
  · have kept := recoverLapsedRow_daemon (actor ▸ daemon)
    rw [kept] at actor intent
    have granted : selected.Daemon := actor.symm.trans daemon
    refine ⟨?_, facts, timed, Facts.selectRow_cleared rows granted⟩
    rw [intent]
    exact facts.selectRow_intended selected rows granted
  · rw [actor] at daemon
    cases daemon

/-- Whenever the daemon may merge, the queue is asked for it and the snapshot is safe to merge. -/
theorem nextAction_daemon_safe {snapshot : Json} {decision : Decision}
    (decides : nextAction snapshot = some decision) (daemon : decision.actor = .daemon) :
    decision.intent = .daemon ∧
      ∃ facts, timedFacts snapshot = some facts ∧ DaemonSafe snapshot facts := by
  obtain ⟨intent, facts, timed, cleared, -⟩ := nextAction_cleared decides daemon
  exact ⟨intent, facts, timed, (timedFacts_reads timed).safe cleared⟩

end

def seen (members : List (String × Json)) : Json :=
  .obj [("state", .str "complete"), ("value", .obj members)]

def observedSnapshot (observations : List (Source × Json)) : Json :=
  .obj [("observations", .obj (observations.map fun made => (made.1.key, made.2))),
    ("observedAt", .num 1000000)]

def cleanObservations : List (Source × Json) :=
  [(.pr, seen [("state", .str "OPEN"), ("headRefOid", .str "a1"),
      ("mergeable", .str "MERGEABLE")]),
    (.checks, seen [("conclusion", .str "SUCCESS")]),
    (.reviews, seen [("headSha", .str "a1"), ("verdict", .str "approved"),
      ("blockingFindingState", .str "known"), ("blockingFindingCount", .num 0),
      ("nonBlockingFindingState", .str "known"), ("nonBlockingFindingCount", .num 0),
      ("postedAt", .num 900000)]),
    (.leases, seen []),
    (.policy, seen [("autonomousMergeExecutionEnabled", .bool true)])]

@[reducible] def concludedRollups : CheckRollups where
  classifyCheckRollup _ _ _ := none
  rollupInfrastructureOnly _ _ := none
  rollupInfrastructureEvidencePending rollup _ := if rollup.isNone then some false else none

@[reducible] def publishedStatuses : LaunchSdk where
  readDispatchStatus row :=
    match (member row "status").bind text? with
    | some status => some { status := some status, terminal := status ∈ ["succeeded", "failed"] }
    | none => some { status := none, terminal := false }

/-- The daemon merges the clean pull request, and all of the conditions hold of it. -/
theorem nextAction_daemon_safe_clean :
    letI := JsText.ascii; letI := JsDate.isoDates
    letI := concludedRollups; letI := publishedStatuses
    ∃ decision, nextAction (observedSnapshot cleanObservations) = some decision ∧
      decision.actor = .daemon ∧ decision.intent = .daemon ∧
      ∃ facts, timedFacts (observedSnapshot cleanObservations) = some facts ∧
        DaemonSafe (observedSnapshot cleanObservations) facts := by
  let _ := JsText.ascii
  let _ := JsDate.isoDates
  let _ := concludedRollups
  let _ := publishedStatuses
  have granted : (nextAction (observedSnapshot cleanObservations)).map (·.actor) =
      some .daemon := by decide +kernel
  obtain ⟨decision, decides, actor⟩ := Option.map_eq_some_iff.mp granted
  exact ⟨decision, decides, actor, nextAction_daemon_safe decides actor⟩

end AdversarialReview.NextAction
