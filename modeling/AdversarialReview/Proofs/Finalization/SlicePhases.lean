import AdversarialReview.Proofs.Finalization.SliceRules

/-! The phases the checks, rebase and merge slices ask for, and when one is refused. -/

namespace AdversarialReview

open Json Slices

namespace QueueChecks

theorem quiet : Service.Quiet QueueChecks.service where
  superseded := by decide
  undrained := by decide
  stamp := by
    intro _ _ failed
    cases failed

variable [JsText] [SlicePolicies] [JsDate]
variable {receiptOf : QueueEntry → Option AdmissionReceipt}
variable {entry : QueueEntry} {fence : QueueFence}

theorem legal_released :
    Legal receiptOf (release fence "checks-lane-release-deferred") fun _ => True :=
  legal_release (by decide)

variable {deadline : String}

theorem legal_readWith {effect : Int → SliceEffect (Except ReadFailure (Option Json))} :
    Legal receiptOf (readWith entry deadline effect) fun _ => True := by
  refine legal_waitUntil.bind fun timeoutMs _ => ?_
  split
  · trivial
  · refine legal_perform.bind fun answer _ => ?_
    cases answer with
    | ok answer => trivial
    | error failure => exact fun _ _ => trivial

theorem legal_concludeReleased {phase : QueuePhase} {reason checks : Option Json}
    (moves : mayMove entry.phase phase false) :
    Legal receiptOf (concludeReleased entry fence phase reason checks) fun _ => True :=
  (legal_request quiet moves).bind fun _ _ => legal_released.bind fun _ _ => trivial

variable [HandoffDigest]

theorem legal_park {reason checks : Option Json} :
    Legal receiptOf (park entry fence reason checks) fun _ => True := by
  unfold park
  refine legal_perform.bind fun now _ => ?_
  refine legal_after.bind fun nextProbeAt _ => ?_
  refine (legal_request quiet ?_).bind fun moved _ => legal_released.bind fun _ _ => ?_
  · cases entry.phase <;> rfl
  · exact fun _ _ => trivial

theorem legal_settleChecks (waiting : entry.phase = .waitingChecks) {live : Option Json}
    {decision : Option SubjectDecision} {late : Bool} :
    Legal receiptOf (settleChecks fence entry live decision deadline late) fun _ => True := by
  have read : Legal receiptOf (decidedChecks entry deadline decision) fun _ => True := by
    cases decision with
    | some decided => exact legal_readWith
    | none => trivial
  refine read.bind fun checks _ => (legal_current quiet).bind fun _ _ => ?_
  refine legal_perform.bind fun now _ => ?_
  dsimp only
  split
  · exact legal_conclude quiet (by rw [waiting]; rfl)
  · exact legal_concludeReleased (by rw [waiting]; rfl)
  · refine legal_expired.bind fun overdue _ => ?_
    split
    · exact legal_park
    · exact legal_conclude quiet (by rw [waiting]; rfl)

theorem legal_observeWaiting :
    Legal receiptOf (observeWaiting fence entry) fun _ => True := by
  unfold observeWaiting
  dsimp only
  split
  · show "checks require exact published candidate" ∉ phaseRefusals
    decide
  · next published =>
    have waiting : entry.phase = .waitingChecks := by
      by_contra other
      simp [other] at published
    refine legal_expired.bind fun late _ => ?_
    have window : Legal receiptOf (lookUntil entry late) fun _ => True := by
      unfold lookUntil
      split
      · exact fun _ _ => legal_waitUntil.bind fun _ _ => legal_after
      · trivial
    refine window.bind fun deadline _ => legal_readWith.bind fun live _ =>
      (legal_current quiet).bind fun _ _ => ?_
    split
    · exact legal_concludeReleased (by rw [waiting]; rfl)
    · exact legal_concludeReleased (by rw [waiting]; rfl)
    · split
      · exact legal_park
      · exact legal_conclude quiet (by rw [waiting]; rfl)
    · exact legal_settleChecks waiting

theorem legal_poll {entryId : String} :
    Legal receiptOf (poll fence entryId) fun _ => True := by
  refine (legal_subject (by decide)).bind fun entry _ => (legal_current quiet).bind fun _ _ => ?_
  split
  · exact legal_released.bind fun _ _ _ _ => trivial
  · split
    · next resumed =>
      have ready : entry.phase = .ready := by
        simp only [Bool.and_eq_true, decide_eq_true_eq] at resumed
        exact resumed.1
      -- The phases are passed through one by one, each from the one before.
      refine (legal_request quiet (by rw [ready]; rfl)).bind fun first rebasing =>
        (legal_request quiet (by rw [rebasing]; rfl)).bind fun second publishing =>
        (legal_request quiet (by rw [publishing]; rfl)).bind fun third _ => ?_
      exact legal_observeWaiting
    · exact legal_observeWaiting

theorem legal_rejoin (parked : entry.phase = .parkedInfrastructure) {checks : Option Json} :
    Legal receiptOf (rejoin fence entry checks deadline) fun _ => True := by
  refine legal_perform.bind fun receipt _ => ?_
  have proof : Legal receiptOf (provedAgain entry receipt deadline) fun _ => True := by
    unfold provedAgain
    split
    · exact fun _ _ => trivial
    · trivial
  refine proof.bind fun proved _ => (legal_current quiet).bind fun _ _ =>
    legal_expired.bind fun late _ => ?_
  split
  · trivial
  · refine legal_readWith.bind fun fresh _ => (legal_current quiet).bind fun _ _ => ?_
    split
    · exact legal_conclude quiet (by rw [parked]; rfl)
    · exact legal_conclude quiet (by rw [parked]; rfl)
    · refine legal_expired.bind fun overdue _ => ?_
      split
      · exact legal_conclude quiet (by rw [parked]; rfl)
      · trivial
      · split
        · trivial
        · exact fun _ _ => legal_conclude quiet (by rw [parked]; rfl)
    · trivial

theorem legal_probe : Legal receiptOf (probe fence entry) fun _ => True := by
  refine legal_perform.bind fun now _ => ?_
  split
  · trivial
  · next due =>
    have parked : entry.phase = .parkedInfrastructure := by
      by_contra other
      simp [other] at due
    refine legal_perform.bind fun started _ => ?_
    refine legal_waitUntil.bind fun window _ => legal_after.bind fun deadline _ =>
      legal_after.bind fun nextProbeAt _ =>
      (legal_request quiet (by rw [parked]; rfl)).bind fun probed same => ?_
    have still : probed.phase = .parkedInfrastructure := same.trans parked
    refine legal_readWith.bind fun live _ => (legal_current quiet).bind fun _ _ => ?_
    split
    · exact legal_conclude quiet (by rw [still]; rfl)
    · exact legal_conclude quiet (by rw [still]; rfl)
    · refine legal_readWith.bind fun checks _ => (legal_current quiet).bind fun _ _ => ?_
      split
      · trivial
      · dsimp only
        split
        · exact legal_conclude quiet (by rw [still]; rfl)
        · trivial
        · exact legal_rejoin still
    · trivial

theorem legal_reprobe {entryId : String} :
    Legal receiptOf (reprobe fence entryId) fun _ => True :=
  (legal_subject (by decide)).bind fun _ _ => (legal_current quiet).bind fun _ _ =>
    legal_probe.finally_ legal_released

end QueueChecks

namespace QueueRebase

theorem quiet [JsDate] : Service.Quiet QueueRebase.service where
  superseded := by simp [service, phaseRefusals]
  undrained := by simp [service, phaseRefusals]
  stamp := fun _ _ => queueTime_error

theorem publishedReason_error {entry : QueueEntry} {message : String}
    (failed : publishedReason entry = .error message) :
    message ∉ phaseRefusals := by
  unfold publishedReason at failed
  split at failed
  · cases failed
    decide
  · cases failed
    decide
  · split at failed <;> cases failed

variable [JsText] [SlicePolicies]

theorem preflight_none (disabled : Bool) (entry : QueueEntry) (receipt : AdmissionReceipt)
    (head : Option Json) (derived : Bool) :
    preflight disabled entry receipt none head derived ≠ .ready := by
  cases disabled <;>
    simp [preflight, classifyQueueAdmission, subjectOf, member, hasText, text]

variable {receipt : AdmissionReceipt}

theorem preflight_enabled {disabled : Bool} {entry : QueueEntry}
    {live head : Option Json} {derived : Bool}
    (ready : preflight disabled entry receipt live head derived = .ready) :
    preflight false entry receipt live head derived = .ready := by
  cases disabled with
  | false => exact ready
  | true => cases ready

theorem stranded_none (entry : QueueEntry) (receipt : AdmissionReceipt) (reading : Reading) :
    stranded entry receipt none reading = false := by
  cases reading <;>
    simp [stranded, candidateLive, preflight_none, subjectOf, member, nonempty, Json.truthy]

variable {receiptOf : QueueEntry → Option AdmissionReceipt}
variable {entry : QueueEntry} {fence : QueueFence}

theorem legal_verify : Legal receiptOf (verify entry) fun _ => True := by
  unfold verify
  split
  · exact fun _ _ => trivial
  · trivial

variable [JsDate]

theorem legal_readLive {reading : Reading} :
    Legal receiptOf (readLive entry reading) fun live => ∀ receipt,
      receiptOf entry = some receipt → stranded entry receipt live reading = false := by
  refine legal_waitUntil.bind fun timeoutMs _ => ?_
  split
  · exact fun receipt _ => stranded_none entry receipt reading
  · refine legal_perform.bind fun answer given => ?_
    cases answer with
    | error failure => exact fun receipt _ => stranded_none entry receipt reading
    | ok live => exact given live rfl

variable {live : Option Json}

theorem legal_parkOrReturn (active : entry.phase.actionable) {disposition : SliceDisposition} :
    Legal receiptOf (parkOrReturn entry fence disposition live) fun _ => True :=
  legal_conclude quiet (mayMove_target active disposition.target)

theorem legal_awaitChecks (moves : mayMove entry.phase .waitingChecks false) :
    Legal receiptOf (awaitChecks entry fence live) fun _ => True :=
  (legal_raise fun _ => publishedReason_error).bind fun _ _ =>
    legal_perform.bind fun _ _ => legal_conclude quiet moves

theorem legal_invokePush {intent : OperationIntent} :
    Legal receiptOf (invokePush fence entry receipt intent) fun _ => True := by
  refine legal_readLive.bind fun lastLive _ => legal_perform.bind fun disabled _ =>
    legal_expired.bind fun late _ => ?_
  split
  · trivial
  · refine (legal_stampNow quiet).bind fun checkedAt _ => legal_assertFence.bind fun _ _ =>
      legal_readStored.bind fun stored _ => ?_
    split
    · show "publication observation superseded" ∉ phaseRefusals
      decide
    · refine legal_perform.bind fun result _ => legal_readLive.bind fun observed _ => ?_
      dsimp only
      split
      · trivial
      · split
        · show "publication-outcome-unavailable" ∉ phaseRefusals
          decide
        · split
          · show "publication-requires-drain-reconciliation" ∉ phaseRefusals
            decide
          · trivial

theorem legal_applyPush (publishing : entry.phase = .publishing) {result : Json} :
    Legal receiptOf (applyPush fence entry result) fun _ => True := by
  have active : entry.phase.actionable := by rw [publishing]; rfl
  refine (legal_current quiet).bind fun _ _ => ?_
  dsimp only
  split
  · exact legal_parkOrReturn active
  · next message found =>
    rw [readDisposition_error found]
    show "invalid queue phase" ∉ phaseRefusals
    decide
  · split
    · split
      · exact legal_conclude quiet (mayMove_target active .parkedInfrastructure)
      · split
        · exact legal_conclude quiet (mayMove_target active .returnedToCloser)
        · exact legal_conclude quiet (mayMove_target active .parkedInfrastructure)
    · split
      · exact legal_conclude quiet (mayMove_target active .closedObserved)
      · split
        · exact legal_conclude quiet (mayMove_target active .parkedInfrastructure)
        · split
          · exact legal_conclude quiet (mayMove_target active .returnedToCloser)
          · split
            · exact legal_conclude quiet (mayMove_target active .rebasing)
            · exact legal_perform.bind fun _ _ => legal_conclude quiet (by rw [publishing]; rfl)

variable [HandoffDigest]

theorem legal_issuePush (moves : mayMove entry.phase .publishing false) :
    Legal receiptOf (issuePush fence entry receipt live) fun _ => True := by
  refine (legal_request quiet moves).bind fun validated publishing =>
    legal_verify.bind fun proof _ => ?_
  have active : validated.phase.actionable := by rw [publishing]; rfl
  split
  · exact legal_conclude quiet (mayMove_target active .parkedInfrastructure)
  · refine (legal_current quiet).bind fun _ _ => ?_
    split
    · exact legal_conclude quiet (mayMove_target active .returnedToCloser)
    · refine (legal_issue fun _ => legal_invokePush).bind fun issued _ => ?_
      split
      · exact legal_applyPush publishing
      · exact legal_readStored

def publishable : List QueuePhase := [.rebasing, .publishing, .waitingChecks]

theorem legal_publish (placed : entry.phase ∈ publishable)
    (known : entry.phase ≠ .publishing → receiptOf entry = some receipt) :
    Legal receiptOf (publish fence entry receipt) fun _ => True := by
  have active : entry.phase.actionable := by
    simp only [publishable, List.mem_cons, List.not_mem_nil, or_false] at placed
    rcases placed with same | same | same <;> rw [same] <;> rfl
  refine legal_readLive.bind fun live fits => (legal_current quiet).bind fun _ _ =>
    legal_expired.bind fun late _ => legal_perform.bind fun disabled _ => ?_
  split
  · exact legal_conclude quiet (mayMove_target active .parkedInfrastructure)
  · split
    · next shown =>
      split
      · exact legal_parkOrReturn active
      · next ready =>
        refine legal_awaitChecks ?_
        simp only [publishable, List.mem_cons, List.not_mem_nil, or_false] at placed
        rcases placed with same | same | same
        · -- The candidate of an entry that is being rebased would be found published.
          have unstranded := fits receipt (known (by rw [same]; decide))
          simp [stranded, shown, same, preflight_enabled ready] at unstranded
        · rw [same]; rfl
        · rw [same]; rfl
    · next hidden =>
      split
      · exact legal_parkOrReturn active
      · next ready =>
        split
        · exact legal_conclude quiet (mayMove_target active .rebasing)
        · next based =>
          split
          · exact legal_conclude quiet (mayMove_target active .returnedToCloser)
          · next branched =>
            refine legal_issuePush ?_
            simp only [publishable, List.mem_cons, List.not_mem_nil, or_false] at placed
            rcases placed with same | same | same
            · rw [same]; rfl
            · rw [same]; rfl
            · -- The branch of an entry that waits for checks would be back at the old head.
              have unstranded := fits receipt (known (by rw [same]; decide))
              simp_all [stranded, preflight_enabled ready]

theorem legal_rebuild (active : entry.phase.actionable) :
    Legal receiptOf (rebuild fence entry receipt live) fun _ => True := by
  refine (legal_request quiet (mayMove_target active .rebasing)).bind fun started rebasing =>
    legal_perform.bind fun answer _ => ?_
  have still : started.phase.actionable := by rw [rebasing]; rfl
  split
  · refine (legal_current quiet).bind fun _ _ => ?_
    split
    · exact legal_conclude quiet (mayMove_target still .returnedToCloser)
    · exact legal_conclude quiet (mayMove_target still .parkedInfrastructure)
  · refine (legal_current quiet).bind fun _ _ =>
      (legal_request quiet (by rw [rebasing]; rfl)).bind fun proven publishing => ?_
    exact legal_publish (by rw [publishing]; decide) fun other => absurd publishing other

theorem legal_advance (active : entry.phase.actionable)
    (placed : Json.truthy (entry.field? "candidate") → entry.phase ∈ publishable)
    (known : entry.phase ≠ .publishing → receiptOf entry = some receipt) :
    Legal receiptOf (advance fence entry receipt live) fun _ => True := by
  have recorded : Legal receiptOf (pushOnRecord entry live) fun _ => True := by
    unfold pushOnRecord
    split
    · exact legal_read
    · trivial
  refine recorded.bind fun row _ => ?_
  split
  · exact legal_conclude quiet (mayMove_target active .parkedInfrastructure)
  · split
    · exact legal_rebuild active
    · next kept =>
      have candidate : Json.truthy (entry.field? "candidate") := by
        by_contra missing
        simp [missing] at kept
      exact legal_publish (placed candidate) known

theorem legal_place (active : entry.phase.actionable) {verified : Bool}
    (placed : Json.truthy (entry.field? "candidate") → entry.phase ∈ publishable)
    (proved : Json.truthy (entry.field? "candidate") → verified = true)
    (known : entry.phase ≠ .publishing → receiptOf entry = some receipt)
    (fits : entry.phase = .rebasing → stranded entry receipt live .placement = false) :
    Legal receiptOf (place fence entry receipt live verified) fun _ => True := by
  refine legal_perform.bind fun disabled _ => ?_
  dsimp only
  split
  · exact legal_conclude quiet (mayMove_target active .returnedToCloser)
  · split
    · next shown =>
      obtain ⟨candidate, live⟩ := Bool.and_eq_true_iff.mp shown
      split
      · exact legal_parkOrReturn active
      · next ready =>
        refine legal_awaitChecks ?_
        have phases := placed candidate
        simp only [publishable, List.mem_cons, List.not_mem_nil, or_false] at phases
        rw [proved candidate, Bool.true_and] at ready
        rcases phases with same | same | same
        · have unstranded := fits same
          simp [stranded, same, candidate, live, preflight_enabled ready] at unstranded
        · rw [same]; rfl
        · rw [same]; rfl
    · split
      · exact legal_parkOrReturn active
      · exact legal_advance active placed known

def rebasable : List QueuePhase := [.ready, .rebasing, .publishing, .waitingChecks]

theorem legal_resume (taken : entry.phase ∈ rebasable) {verified : Bool}
    (proved : Json.truthy (entry.field? "candidate") → verified = true)
    (known : receiptOf entry = some receipt)
    (fits : stranded entry receipt live .placement = false) :
    Legal receiptOf (resume fence entry receipt live verified) fun _ => True := by
  have active : entry.phase.actionable := by
    simp only [rebasable, List.mem_cons, List.not_mem_nil, or_false] at taken
    rcases taken with same | same | same | same <;> rw [same] <;> rfl
  refine legal_expired.bind fun late _ => ?_
  split
  · exact legal_conclude quiet (mayMove_target active .parkedInfrastructure)
  · split
    · next rejoined =>
      -- An entry that rejoined the tail is brought back through the legal phases.
      refine (legal_request quiet (mayMove_target active .rebasing)).bind fun resumed rebasing =>
        (legal_request quiet (by rw [rebasing]; rfl)).bind fun proven publishing => ?_
      have still : proven.phase.actionable := by rw [publishing]; rfl
      refine legal_place still (fun _ => by rw [publishing]; decide)
        (fun _ => (Bool.and_eq_true_iff.mp rejoined).2) (fun other => absurd publishing other)
        fun other => ?_
      rw [publishing] at other
      cases other
    · next other =>
      refine legal_place active (fun candidate => ?_) proved (fun _ => known) fun _ => fits
      have verified := proved candidate
      simp only [rebasable, List.mem_cons, List.not_mem_nil, or_false] at taken
      rcases taken with same | same | same | same
      · simp [same, verified] at other
      · rw [same]; decide
      · rw [same]; decide
      · rw [same]; decide

theorem legal_reprove (taken : entry.phase ∈ rebasable) (known : receiptOf entry = some receipt)
    (fits : stranded entry receipt live .placement = false) :
    Legal receiptOf (reprove fence entry receipt live) fun _ => True := by
  have active : entry.phase.actionable := by
    simp only [rebasable, List.mem_cons, List.not_mem_nil, or_false] at taken
    rcases taken with same | same | same | same <;> rw [same] <;> rfl
  unfold reprove
  split
  · refine legal_verify.bind fun proof _ => ?_
    split
    · exact legal_conclude quiet (mayMove_target active .parkedInfrastructure)
    · refine (legal_current quiet).bind fun _ _ => ?_
      split
      · exact legal_conclude quiet (mayMove_target active .returnedToCloser)
      · next fine =>
        refine legal_resume taken (fun _ => ?_) known fits
        by_contra unproved
        simp [unproved] at fine
  · next missing => exact legal_resume taken (fun candidate => absurd candidate missing) known fits

theorem legal_run {entryId : String} :
    Legal receiptOf (run fence entryId) fun _ => True := by
  refine (legal_subject (by decide)).bind fun entry _ => (legal_current quiet).bind fun _ _ => ?_
  split
  · trivial
  · split
    · show "invalid rebase phase" ∉ phaseRefusals
      decide
    · next listed =>
      have taken : entry.phase ∈ rebasable := Decidable.not_not.mp listed
      have active : entry.phase.actionable := by
        simp only [rebasable, List.mem_cons, List.not_mem_nil, or_false] at taken
        rcases taken with same | same | same | same <;> rw [same] <;> rfl
      refine legal_perform.bind fun disabled _ => ?_
      split
      · exact legal_conclude quiet (mayMove_target active .parkedHold)
      · refine legal_readLive.bind fun live fits => (legal_current quiet).bind fun _ _ => ?_
        dsimp only
        split
        · exact legal_conclude quiet (mayMove_target active .closedObserved)
        · refine legal_perform.bind fun answer known => ?_
          split
          · exact legal_conclude quiet (mayMove_target active .parkedInfrastructure)
          · next receipt =>
            have own : receiptOf entry = some receipt := Eq.symm known
            refine legal_expired.bind fun late _ => ?_
            split
            · exact legal_conclude quiet (mayMove_target active .parkedInfrastructure)
            · exact legal_reprove taken own (fits receipt own)

end QueueRebase

open Transaction Json Slices

namespace QueueMerge

theorem quiet [JsDate] : Service.Quiet QueueMerge.service where
  superseded := by simp [service, phaseRefusals]
  undrained := by simp [service, phaseRefusals]
  stamp := fun _ _ => queueTime_error

theorem recordTx_throws [JsDate] [HandoffDigest] [SlicePolicies] {entry : QueueEntry}
    {fence : QueueFence} (finalizing : entry.phase = .finalizing) (operationId : String)
    (result : Json) (recordedAt : String) (host : Host) (db : QueueDb) :
    (recordTx entry fence operationId result recordedAt).Throws host db (· ∉ phaseRefusals) := by
  unfold recordTx
  simp only [throws_bind, throws_read, throws_refuse, throws_modify, throws_pure, commits_read,
    commits_refuse, commits_modify]
  refine ⟨currentTx_throws quiet _ _ _, fun _ after _ => ⟨progress_throws rfl rfl ?_ _ _,
    fun _ _ _ => ⟨trivial, fun _ => by decide, fun _ => ⟨trivial, trivial⟩⟩⟩⟩
  show mayMove entry.phase .merged false
  rw [finalizing]
  rfl

variable [JsText] [SlicePolicies]
variable {receiptOf : QueueEntry → Option AdmissionReceipt}
variable {entry : QueueEntry} {fence : QueueFence}

theorem legal_readWithin {timeoutMs : Int}
    {effect : Int → SliceEffect (Except ReadFailure (Option Json))} :
    Legal receiptOf (readWithin timeoutMs effect) fun _ => True := by
  unfold readWithin
  split
  · trivial
  · refine legal_perform.bind fun answer _ => ?_
    cases answer <;> trivial

variable [JsDate]

theorem legal_released :
    Legal receiptOf (release fence "merge-lane-release-deferred") fun _ => True :=
  legal_release (by decide)

variable {deadline : String}

theorem legal_readUntil {effect : Int → SliceEffect (Except ReadFailure (Option Json))} :
    Legal receiptOf (readUntil deadline effect) fun _ => True :=
  legal_waitUntil.bind fun _ _ => legal_readWithin

theorem legal_callMerge {decision : Json} {timeoutMs : Int} {last : Option Json} :
    Legal receiptOf (callMerge entry decision timeoutMs last) fun _ => True := by
  refine legal_perform.bind fun response _ => ?_
  split
  · trivial
  · refine legal_waitUntil.bind fun window _ => legal_readWithin.bind fun observed _ => ?_
    split
    · show "merge-requires-drain-reconciliation" ∉ phaseRefusals
      decide
    · trivial

theorem legal_stillDecided : Legal receiptOf (stillDecided fence entry) fun _ => True := by
  refine legal_perform.bind fun now _ => ?_
  split
  · trivial
  · -- What the check throws is looked at here, and thrown no further.
    refine legal_perform.bind fun answer _ => ?_
    split
    · trivial
    · split
      · trivial
      · exact (legal_stampNow quiet).bind fun _ _ => legal_assertFence.bind fun _ _ =>
          legal_readStored.bind fun _ _ => trivial

variable [HandoffDigest]

theorem legal_park {reason : String} :
    Legal receiptOf (park entry fence reason) fun _ => True := by
  unfold park
  refine legal_perform.bind fun now _ => legal_after.bind fun nextProbeAt _ => ?_
  refine (legal_request quiet ?_).bind fun moved _ => legal_released.bind fun _ _ => ?_
  · cases entry.phase <;> rfl
  · exact fun _ _ => trivial

theorem legal_dispose (finalizing : entry.phase = .finalizing) {disposition : SliceDisposition}
    {checks : Option Json} :
    Legal receiptOf (dispose entry fence disposition checks) fun _ => True := by
  unfold dispose
  split
  · exact legal_park
  · refine (legal_request quiet (mayMove_target (by rw [finalizing]; rfl) _)).bind
      fun moved _ => ?_
    have released : Legal receiptOf (releaseAfter fence disposition.target.phase)
        fun _ => True := by
      unfold releaseAfter
      split
      · exact legal_released
      · trivial
    exact released.bind fun _ _ => trivial

variable {ledgerCount : Nat} {receipt : AdmissionReceipt}

theorem legal_evaluateChecks {live : Option Json} :
    Legal receiptOf (evaluateChecks entry receipt live deadline ledgerCount) fun _ => True := by
  refine legal_readUntil.bind fun checks _ => ?_
  dsimp only
  split
  · trivial
  · trivial
  · trivial
  · refine legal_readUntil.bind fun identity _ => ?_
    split
    · trivial
    · exact fun _ _ => trivial

theorem legal_evaluate :
    Legal receiptOf (evaluate entry deadline) fun _ => True := by
  refine legal_perform.bind fun braked _ => ?_
  split
  · trivial
  · refine legal_perform.bind fun ledger _ => ?_
    obtain ⟨terminal, ledgerCount⟩ := ledger
    dsimp only
    split
    · trivial
    · refine legal_perform.bind fun receipt _ => ?_
      split
      · trivial
      · split
        · trivial
        · refine legal_readUntil.bind fun live _ => ?_
          split
          · trivial
          · refine legal_perform.bind fun proof _ => ?_
            split
            · trivial
            · trivial
            · exact legal_evaluateChecks

theorem legal_invokeMerge {decision : Json} {intent : OperationIntent} :
    Legal receiptOf (invokeMerge entry fence decision receipt ledgerCount intent)
      fun _ => True := by
  refine legal_perform.bind fun braked _ => ?_
  split
  · trivial
  · refine legal_stillDecided.bind fun decided _ => ?_
    split
    · trivial
    · refine legal_read.bind fun settled _ => ?_
      split
      · trivial
      · refine legal_perform.bind fun ledger _ => ?_
        obtain ⟨terminal, count⟩ := ledger
        dsimp only
        split
        · trivial
        · refine legal_readUntil.bind fun last _ => ?_
          split
          · trivial
          · refine legal_perform.bind fun stopped _ => ?_
            split
            · trivial
            · refine legal_waitUntil.bind fun left _ => ?_
              split
              · trivial
              · exact legal_callMerge

theorem legal_record (finalizing : entry.phase = .finalizing) {operationId : String}
    {result : Json} : Legal receiptOf (record entry fence operationId result) fun _ => True := by
  unfold record
  dsimp only
  split
  · show "merge receipt requires the persisted final decision" ∉ phaseRefusals
    decide
  · exact (legal_stampNow quiet).bind fun recordedAt _ => legal_waitUntil.bind fun _ _ =>
      (legal_commit (recordTx_throws finalizing _ _ recordedAt) fun _ _ _ _ _ => trivial).bind
        fun _ (_ : True) => legal_released.bind fun _ _ _ _ => trivial

theorem legal_apply (finalizing : entry.phase = .finalizing) {operationId : String}
    {result : Json} : Legal receiptOf (apply entry fence operationId result) fun _ => True := by
  unfold apply
  split
  · exact legal_record finalizing
  · split
    · exact legal_readStored
    · split
      · exact legal_dispose finalizing
      · next message found =>
        rw [readDisposition_error found]
        show "invalid queue phase" ∉ phaseRefusals
        decide
      · exact legal_park

theorem legal_issueMerge (finalizing : entry.phase = .finalizing) {decision checks : Json} :
    Legal receiptOf (issueMerge entry fence decision checks receipt ledgerCount)
      fun _ => True := by
  refine (legal_request quiet (by rw [finalizing]; rfl)).bind fun decided still =>
    (legal_issue fun _ => legal_invokeMerge).bind fun issued _ => ?_
  split
  · exact legal_apply still
  · exact legal_readStored

theorem legal_finalize {entryId : String} :
    Legal receiptOf (finalize fence entryId) fun _ => True := by
  refine (legal_subject (by decide)).bind fun entry _ => ?_
  split
  · exact legal_perform.bind fun _ _ => legal_readStored
  · refine (legal_stampNow quiet).bind fun checkedAt _ => legal_assertFence.bind fun _ _ => ?_
    split
    · show "merge requires a finalizing candidate" ∉ phaseRefusals
      decide
    · next notOther =>
      have finalizing : entry.phase = .finalizing := by simpa using notOther
      refine legal_read.bind fun pending _ => ?_
      split
      · trivial
      · refine legal_read.bind fun settled _ => ?_
        split
        · exact legal_apply finalizing
        · refine legal_expired.bind fun late _ => ?_
          split
          · exact legal_park
          · refine legal_evaluate.bind fun verdict _ => (legal_current quiet).bind fun _ _ =>
              legal_expired.bind fun overdue _ => ?_
            cases verdict with
            | disposed disposition checks => exact legal_dispose finalizing
            | waitingChecks reason checks =>
              unfold QueueMerge.conclude
              dsimp only
              split
              · exact legal_park
              · exact legal_conclude quiet (by rw [finalizing]; rfl)
            | eligible decision checks receipt ledgerCount =>
              unfold QueueMerge.conclude
              dsimp only
              split
              · exact legal_park
              · exact legal_issueMerge finalizing

end QueueMerge

end AdversarialReview
