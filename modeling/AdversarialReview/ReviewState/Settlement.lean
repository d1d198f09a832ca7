import AdversarialReview.Library.Interleaving
import AdversarialReview.ReviewState.Statements

/-! How reviewer sessions that share one row settle their attempts, each touching only its own claim
where its statements compare what they must. -/

namespace AdversarialReview.ReviewState

inductive SessionEffect : Type → Type where
  /-- A claim with the uuid of the session; whether it matched. -/
  | claim (claim : Claim) (stamp : ClaimStamp) : SessionEffect Bool
  /-- A statement of a settlement; whether it matched. -/
  | settle (settlement : Settlement) : SessionEffect Bool
  | getReviewRow : SessionEffect ReviewRow

abbrev SessionProg := Prog SessionEffect

/-- What a reviewer run ended with, as far as the settlement reads it. -/
structure ReviewerResult where
  ok : Bool
  failureClass : Option String := none
  error : Option String := none
  routingRefusal : Bool := false
  preventLeaseRecovery : Bool := false
  /-- The session that the runtime reports. -/
  reviewerSessionUuid : Option String := none

structure SettleCall where
  reviewerSessionUuid : Option String
  reviewerHeadSha : Option String
  result : ReviewerResult
  leaseRecoveryEnabled : Bool := true
  postedAt : String
  failureAt : String
  /-- The failure text without its class. -/
  failureMessage : String
  /-- The class of a refusal to create the review, found in the output. -/
  reviewCreateFailure : Option String := none
  /-- The lowercase model whose credential outage a posted review ends. -/
  recoveredOutage : Option String := none
  /-- The reason and the model of a credential outage that is active after the failure. -/
  credentialOutage : Option (String × String) := none
  /-- The reason of an outage signal. -/
  outageSignal : Option String := none
  quotaResetAt : Option String := none

def codexBuilderReviewRefusal : String :=
  "Codex-family reviewer cannot review a Codex-family builder"

def infraAutoRecoverCap : Int := reviewerLeaseRecoveryMaxAttempts

def transientFailureClasses : List String :=
  ["reviewer-model-unresolved", "cascade", "oauth-broken", "reviewer-timeout",
    "launchctl-bootstrap", "daemon-bounce", "reviewer-output", "github-review-create-transient",
    "attestation-sign-failed", "hcp-unavailable", "provider-overloaded", "reviewer-empty-output",
    "infra-runtime-missing-library", "agy-identity-unavailable"]

/-- Run a statement whose outcome nothing reads. -/
def settle (settlement : Settlement) : SessionProg Unit := do
  let _ ← Prog.perform (.settle settlement)

namespace SettleCall

def failureClass (call : SettleCall) : String :=
  call.reviewCreateFailure.getD
    ((call.result.failureClass.filter (· ≠ "")).getD "unknown")

def classifiedMessage (call : SettleCall) : String :=
  s!"[{call.failureClass}] {call.failureMessage}"

def reviewedHead (call : SettleCall) : String :=
  jsTrim (call.reviewerHeadSha.getD "")

def routingRefusal (call : SettleCall) : Bool :=
  call.failureClass = "bug" &&
    (call.result.routingRefusal || call.result.error = some codexBuilderReviewRefusal)

end SettleCall

def markReviewedHead (call : SettleCall) : SessionProg Bool :=
  if call.reviewedHead = "" then return false
  else Prog.perform (.settle
    (.markPosted call.postedAt call.reviewedHead call.reviewerSessionUuid))

def settlePosted (call : SettleCall) : SessionProg Unit := do
  if !(← markReviewedHead call) then
    settle (.releaseUnsettledPostedReview
      (if call.reviewedHead = "" then none else some call.reviewedHead) call.reviewerSessionUuid)
  else
    match call.recoveredOutage with
    | none => return ()
    | some model => settle (.rearmReviewerCredentialOutage
        s!"[outage-transient:reviewer-credential:{model}]%")

def settleReleased (call : SettleCall) : SessionProg Unit := do
  let released ← Prog.perform (.settle (.releaseReviewerClaim call.reviewerSessionUuid))
  match call.reviewerHeadSha.filter (· ≠ "") with
  | some head =>
    if !call.routingRefusal && !released then settle (.releaseLegacyStaleReviewerClaim head)
  | none => return ()

def settleTransient (call : SettleCall) : SessionProg Unit := do
  let attempts := (← Prog.perform .getReviewRow).infraAttempts
  if infraAutoRecoverCap ≤ attempts then
    let label := if infraAutoRecoverCap < attempts then
        s!"REPEAT infra auto-recovery cap exhaustion after reset ({attempts}/{infraAutoRecoverCap})"
      else s!"infra auto-recovery cap exhausted ({attempts}/{infraAutoRecoverCap})"
    settle (.markCascadeFailed call.failureAt s!"{call.classifiedMessage}\nSystem: {label}.")
  else settle (.markPendingUpstream call.failureAt call.classifiedMessage)

def settleTerminal (call : SettleCall) : SessionProg Unit :=
  match call.outageSignal with
  | some reason => settle (.markOutageTransient call.failureAt
      s!"[outage-transient:{reason}] {call.classifiedMessage}" call.quotaResetAt)
  | none =>
    if call.leaseRecoveryEnabled && !call.result.preventLeaseRecovery then
      settle (.releaseReviewLease call.failureAt call.classifiedMessage)
    else settle (.markFailed call.failureAt call.classifiedMessage)

/-- A failure that is neither a stall nor a held account. -/
def settleFailed (call : SettleCall) : SessionProg Unit :=
  let failureClass := call.failureClass
  if call.routingRefusal || failureClass = "stale-review-head" ||
      failureClass = "repository-state-busy" then
    settleReleased call
  else if failureClass = "reviewer-model-unavailable" ||
      failureClass = "reviewer-configuration-error" then
    settle (.markFailed call.failureAt call.classifiedMessage)
  else if failureClass = "reviewer-prompt-too-large" ||
      failureClass = "reviewer-chunk-budget-exceeded" then
    settle (.markSizeFailed call.failureAt call.classifiedMessage call.reviewerHeadSha
      call.reviewerSessionUuid)
  else
    match failureClass, call.credentialOutage with
    | "oauth-broken", some (reason, model) => do
      let message := s!"[outage-transient:{reason}] {call.classifiedMessage}"
      settle (.markReviewerCredentialOutage call.failureAt message)
      settle (.promoteReviewerCredentialOutage message model)
    | failureClass, _ =>
      if failureClass = "token-refresh-pending" then
        settle (.markTokenRefreshHold call.failureAt call.classifiedMessage)
      else if failureClass ∈ transientFailureClasses then settleTransient call
      else settleTerminal call

def settleReviewerAttempt (call : SettleCall) : SessionProg Unit :=
  if !call.result.ok && call.result.failureClass = some "reviewer-stalled" then
    settle (.releaseReviewerClaim call.reviewerSessionUuid)
  else if call.result.failureClass = some "reviewer-account-held" then
    -- The session that the runtime reports goes before the one that dispatched.
    settle (.releaseReviewerClaim
      ((call.result.reviewerSessionUuid.filter (· ≠ "")).or call.reviewerSessionUuid))
  else if call.result.ok then settlePosted call
  else settleFailed call

structure SessionIds where
  uuid : Nat → String
  fresh : Function.Injective uuid

/-- What a session is going to do with its row. -/
structure SessionPlan where
  claim : Claim
  stamp : ClaimStamp
  calls : List SettleCall

def settleEach : List SettleCall → SessionProg Unit
  | [] => return ()
  | call :: calls => do
    settleReviewerAttempt call
    settleEach calls

def reviewerSession (plan : SessionPlan) : SessionProg Unit := do
  if ← Prog.perform (.claim plan.claim plan.stamp) then settleEach plan.calls

structure RowWorld where
  row : ReviewRow
  lastClaim : Option Nat := none
  postedBy : Option Nat := none

def performStatement (ids : SessionIds) (session : Nat) :
    {β : Type} → SessionEffect β → RowWorld → β × RowWorld
  | _, .claim claim stamp, world =>
    match claim.apply world.row (ids.uuid session) stamp with
    | some row => (true, { world with row := row, lastClaim := some session })
    | none => (false, world)
  | _, .settle settlement, world =>
    match settlement.apply world.row with
    | some row =>
      let postedBy := match settlement with
        | .markPosted .. => some session
        | _ => world.postedBy
      (true, { world with row := row, postedBy := postedBy })
    | none => (false, world)
  | _, .getReviewRow, world => (world.row, world)

def rowSystem (ids : SessionIds) : Interleaved Nat Unit RowChange RowWorld SessionEffect where
  perform _ session := performStatement ids session
  external change world := { world with row := (change.apply world.row).getD world.row }
  crash _ world := world

def rowSessions (row : ReviewRow) (plans : Nat → SessionPlan) :
    Interleaved.Config Nat RowWorld SessionEffect :=
  ⟨{ row := row }, fun session => reviewerSession (plans session)⟩

def Rewrites (before after : ReviewRow) : Prop :=
  after.reviewStatus ≠ before.reviewStatus ∨
    after.reviewerSessionUuid ≠ before.reviewerSessionUuid ∨
    after.reviewerHeadSha ≠ before.reviewerHeadSha

instance (before after : ReviewRow) : Decidable (Rewrites before after) :=
  inferInstanceAs (Decidable (_ ∨ _))

def HeldByOther (ids : SessionIds) (session : Nat) (world : RowWorld) : Prop :=
  (world.row.reviewStatus = .reviewing ∧
    world.row.reviewerSessionUuid ≠ some (ids.uuid session)) ∨
  (world.row.reviewStatus = .posted ∧ (world.postedBy.any (· ≠ session)) = true)

instance (ids : SessionIds) (session : Nat) (world : RowWorld) :
    Decidable (HeldByOther ids session world) :=
  inferInstanceAs (Decidable (_ ∨ _))

def TouchesOwn (ids : SessionIds) (_ : Unit) (session : Nat) :
    {β : Type} → SessionEffect β → RowWorld → Prop
  | _, .settle settlement, world =>
    let after := (performStatement ids session (.settle settlement) world).2.row
    (Rewrites world.row after → world.lastClaim = some session) ∧
      (HeldByOther ids session world → after = world.row)
  | _, _, _ => True

instance (ids : SessionIds) (env : Unit) (session : Nat) {β : Type} (effect : SessionEffect β)
    (world : RowWorld) : Decidable (TouchesOwn ids env session effect world) :=
  match effect with
  | .settle _ => inferInstanceAs (Decidable (_ ∧ _))
  | .claim .. => inferInstanceAs (Decidable True)
  | .getReviewRow => inferInstanceAs (Decidable True)

/-- The statements that rewrite a row as it stands without comparing its session to their own. -/
def Unchecked (uuid : String) (row : ReviewRow) : Settlement → Prop
  | .markFailed .. | .markCascadeFailed .. => row.reviewStatus ≠ .failed
  | .markPendingUpstream .. =>
    row.reviewStatus ≠ .pendingUpstream ∨ row.reviewerSessionUuid ≠ none
  | .releaseReviewLease .. | .markOutageTransient .. | .markReviewerCredentialOutage ..
  | .markTokenRefreshHold .. => row.reviewStatus = .reviewing
  | .rearmReviewerCredentialOutage pattern =>
    row.reviewStatus = .pendingUpstream ∧ row.isOpen = true ∧ row.reviewerLeaseExpiresAt = none ∧
      row.reviewerSessionUuid = none ∧ row.messageLike pattern = true
  -- A released row has no session to compare.
  | .releaseUnsettledPostedReview .. => row.reviewerSessionUuid = none ∧
      (row.reviewStatus = .failed ∨ row.reviewStatus = .failedOrphan ∨
        (row.reviewStatus = .pending ∧ row.reviewerHeadSha ≠ none))
  -- The session that the runtime reports need not be the one that settles.
  | .releaseReviewerClaim given => row.reviewStatus = .reviewing ∧
      sqlEq row.reviewerSessionUuid given = true ∧ given ≠ some uuid
  | .releaseLegacyStaleReviewerClaim _ | .markPosted .. | .markSizeFailed ..
  | .promoteReviewerCredentialOutage .. => False

instance (uuid : String) (row : ReviewRow) (settlement : Settlement) :
    Decidable (Unchecked uuid row settlement) := by
  cases settlement <;> unfold Unchecked <;> infer_instance

def SettlesUnreplaced (ids : SessionIds) (_ : Unit) (session : Nat) :
    {β : Type} → SessionEffect β → RowWorld → Prop
  | _, .settle settlement, world =>
    Unchecked (ids.uuid session) world.row settlement → world.lastClaim = some session
  | _, _, _ => True

instance (ids : SessionIds) (env : Unit) (session : Nat) {β : Type} (effect : SessionEffect β)
    (world : RowWorld) : Decidable (SettlesUnreplaced ids env session effect world) :=
  match effect with
  | .settle _ => inferInstanceAs (Decidable (_ → _))
  | .claim .. => inferInstanceAs (Decidable True)
  | .getReviewRow => inferInstanceAs (Decidable True)

section

variable {row after : ReviewRow}

theorem claim_writes {claim : Claim} {session : String}
    {stamp : ClaimStamp} (matched : claim.apply row session stamp = some after) :
    after.reviewStatus = .reviewing ∧ after.reviewerSessionUuid = some session := by
  cases claim <;>
    simp only [Claim.apply, markAttemptStarted, markTokenRefreshRecoveryAttemptStarted,
      markInfraAutoRecoveryAttemptStarted, markReviewPopulationRetryAttemptStarted,
      markUnknownFailureRetryAttemptStarted, markDaemonBounceRecoveryAttemptStarted] at matched <;>
    split at matched <;> cases matched <;> exact ⟨rfl, rfl⟩

/-- A statement that takes no claim keeps the session or clears it, and never claims. -/
structure KeepsOrFrees (before after : ReviewRow) : Prop where
  session : after.reviewerSessionUuid = before.reviewerSessionUuid ∨
    after.reviewerSessionUuid = none
  reviewing : after.reviewStatus = .reviewing → before.reviewStatus = .reviewing ∧
    after.reviewerSessionUuid = before.reviewerSessionUuid

theorem settlement_writes {settlement : Settlement} (matched : settlement.apply row = some after) :
    KeepsOrFrees row after ∧ after.reviewStatus ≠ .reviewing ∧ (after.reviewStatus = .posted →
      ∃ postedAt head, settlement = .markPosted postedAt head row.reviewerSessionUuid) := by
  cases settlement <;>
    simp only [Settlement.apply, releaseReviewerClaim, releaseLegacyStaleReviewerClaim, markPosted,
      releaseUnsettledPostedReview, rearmReviewerCredentialOutage, markFailed, markSizeFailed,
      markReviewerCredentialOutage, promoteReviewerCredentialOutage, markTokenRefreshHold,
      markCascadeFailed, markPendingUpstream, markOutageTransient, releaseReviewLease,
      releaseReviewLeaseQuota, holdUpstream, Option.ite_none_right_eq_some, Option.some.injEq]
      at matched
  case markPosted postedAt head session =>
    obtain ⟨⟨-, own, -⟩, rfl⟩ := matched
    exact ⟨⟨.inl rfl, nofun⟩, nofun,
      fun _ => ⟨postedAt, head, own ▸ rfl⟩⟩
  case promoteReviewerCredentialOutage message reviewer =>
    obtain ⟨⟨-, waits, -⟩, rfl⟩ := matched
    exact ⟨⟨.inl rfl, fun found => (by cases waits.symm.trans found)⟩,
      fun found => (by cases waits.symm.trans found),
      fun found => (by cases waits.symm.trans found)⟩
  all_goals
    obtain ⟨-, rfl⟩ := matched
    refine ⟨⟨?_, nofun⟩, nofun,
      nofun⟩
    first
    | exact .inl rfl
    | exact .inr rfl

theorem change_writes {change : RowChange} (matched : change.apply row = some after) :
    KeepsOrFrees row after ∧ (after.reviewStatus = .posted → row.reviewStatus = .posted) := by
  cases change <;>
    simp only [RowChange.apply, releaseReviewerClaim, releaseReviewLease, releaseReviewLeaseQuota,
      markOrphan, autoReclaimFailedOrphan, Option.ite_none_right_eq_some, Option.some.injEq]
      at matched
  case prState state =>
    subst matched
    exact ⟨⟨.inl rfl, fun found => ⟨found, rfl⟩⟩, id⟩
  all_goals
    obtain ⟨-, rfl⟩ := matched
    refine ⟨⟨?_, nofun⟩, nofun⟩
    first
    | exact .inl rfl
    | exact .inr rfl

end

section

variable {ids : SessionIds} {world : RowWorld}

structure RowInv (ids : SessionIds) (world : RowWorld) : Prop where
  claimed : ∀ uuid, world.row.reviewerSessionUuid = some uuid →
    ∃ session, world.lastClaim = some session ∧ uuid = ids.uuid session
  reviewing : world.row.reviewStatus = .reviewing → world.row.reviewerSessionUuid ≠ none
  posted : ∀ session, world.row.reviewStatus = .posted → world.postedBy = some session →
    world.lastClaim = some session

theorem RowInv.last (inv : RowInv ids world) {session : Nat}
    (own : world.row.reviewerSessionUuid = some (ids.uuid session)) :
    world.lastClaim = some session := by
  obtain ⟨last, claimed, same⟩ := inv.claimed _ own
  rw [claimed, ids.fresh same]

theorem RowInv.keeps (inv : RowInv ids world) {after : ReviewRow}
    (writes : KeepsOrFrees world.row after) {postedBy : Option Nat}
    (posted : ∀ session, after.reviewStatus = .posted → postedBy = some session →
      world.lastClaim = some session) :
    RowInv ids { world with row := after, postedBy := postedBy } where
  claimed uuid held := by
    rcases writes.session with same | cleared
    · exact inv.claimed uuid (same ▸ held)
    · rw [cleared] at held
      cases held
  reviewing found := by
    obtain ⟨before, same⟩ := writes.reviewing found
    exact fun empty => inv.reviewing before (same ▸ empty)
  posted := posted

def GivesOwn (ids : SessionIds) (session : Nat) : {β : Type} → SessionEffect β → Prop
  | _, .settle (.markPosted _ _ given) => given = some (ids.uuid session)
  | _, .settle (.releaseUnsettledPostedReview _ given) => given = some (ids.uuid session)
  | _, .settle (.markSizeFailed _ _ _ given) => given = some (ids.uuid session)
  | _, _ => True

theorem RowInv.perform (inv : RowInv ids world) {session : Nat} {β : Type}
    {effect : SessionEffect β} (gives : GivesOwn ids session effect) :
    RowInv ids (performStatement ids session effect world).2 := by
  cases effect with
  | getReviewRow => exact inv
  | claim claim stamp =>
    simp only [performStatement]
    cases matched : claim.apply world.row (ids.uuid session) stamp with
    | none => exact inv
    | some after =>
      obtain ⟨reviewing, own⟩ := claim_writes matched
      refine ⟨fun uuid held => ⟨session, rfl, ?_⟩, fun _ empty => ?_, fun _ found => ?_⟩
      · exact Option.some.inj (held.symm.trans own)
      · cases own.symm.trans empty
      · cases reviewing.symm.trans found
  | settle settlement =>
    simp only [performStatement]
    cases matched : settlement.apply world.row with
    | none => exact inv
    | some after =>
      obtain ⟨writes, -, posts⟩ := settlement_writes matched
      refine inv.keeps writes fun poster found by_ => ?_
      obtain ⟨postedAt, head, rfl⟩ := posts found
      cases by_
      exact inv.last gives

theorem RowInv.external (inv : RowInv ids world) (change : RowChange) :
    RowInv ids ((rowSystem ids).external change world) := by
  simp only [rowSystem]
  cases matched : change.apply world.row with
  | none => exact inv
  | some after =>
    obtain ⟨writes, posts⟩ := change_writes matched
    exact inv.keeps writes fun session found => inv.posted session (posts found)

end

section

variable {ids : SessionIds} {world : RowWorld} {session : Nat}

theorem performed_row (settlement : Settlement) :
    (performStatement ids session (.settle settlement) world).2.row =
      (settlement.apply world.row).getD world.row := by
  simp only [performStatement]
  cases settlement.apply world.row <;> rfl

theorem RowInv.not_held (inv : RowInv ids world) (last : world.lastClaim = some session) :
    ¬HeldByOther ids session world := by
  rintro (⟨reviewing, other⟩ | ⟨posted, other⟩)
  · obtain ⟨uuid, held⟩ := Option.ne_none_iff_exists'.mp (inv.reviewing reviewing)
    obtain ⟨claimer, claimed, rfl⟩ := inv.claimed uuid held
    cases last.symm.trans claimed
    exact other held
  · cases poster : world.postedBy with
    | none => simp [poster] at other
    | some who =>
      cases last.symm.trans (inv.posted who posted poster)
      simp [poster] at other

variable {settlement : Settlement}

theorem checked_or_unchecked (inv : RowInv ids world)
    (gives : GivesOwn ids session (.settle settlement)) {after : ReviewRow}
    (matched : settlement.apply world.row = some after) (rewrites : Rewrites world.row after) :
    world.row.reviewerSessionUuid = some (ids.uuid session) ∨
      Unchecked (ids.uuid session) world.row settlement := by
  cases settlement <;>
    simp only [Settlement.apply, releaseReviewerClaim, releaseLegacyStaleReviewerClaim, markPosted,
      releaseUnsettledPostedReview, rearmReviewerCredentialOutage, markFailed, markSizeFailed,
      markReviewerCredentialOutage, promoteReviewerCredentialOutage, markTokenRefreshHold,
      markCascadeFailed, markPendingUpstream, markOutageTransient, releaseReviewLease,
      releaseReviewLeaseQuota, holdUpstream, Option.ite_none_right_eq_some, Option.some.injEq]
      at matched
  case releaseReviewerClaim given =>
    obtain ⟨⟨same, reviewing⟩, -⟩ := matched
    by_cases own : given = some (ids.uuid session)
    · left
      simp only [sqlEq, Bool.and_eq_true, decide_eq_true_eq] at same
      exact same.2.trans own
    · exact .inr ⟨reviewing, same, own⟩
  case releaseLegacyStaleReviewerClaim head =>
    obtain ⟨⟨reviewing, -, free⟩, -⟩ := matched
    exact absurd free (inv.reviewing reviewing)
  case markPosted postedAt head given => exact .inl (matched.1.2.1.trans gives)
  case markSizeFailed failedAt message head given => exact .inl (matched.1.2.2.trans gives)
  case releaseUnsettledPostedReview revisionRef given =>
    obtain ⟨⟨status, same | free⟩, rfl⟩ := matched
    · exact .inl (same.trans gives)
    · right
      refine ⟨free, ?_⟩
      rcases status with reviewing | pending | failed | orphan
      · exact absurd free (inv.reviewing reviewing)
      · -- A pending row without a session only loses its head.
        refine .inr (.inr ⟨pending, fun headless => ?_⟩)
        simp [Rewrites, ReviewRow.unclaimed, pending, free, headless] at rewrites
      · exact .inl failed
      · exact .inr (.inl orphan)
  case rearmReviewerCredentialOutage pattern =>
    obtain ⟨⟨isOpen, status, lease, free, message⟩, rfl⟩ := matched
    rcases status with pending | upstream
    · simp [Rewrites, pending] at rewrites
    · exact .inr ⟨upstream, isOpen, lease, free, message⟩
  case promoteReviewerCredentialOutage message reviewer =>
    obtain ⟨-, rfl⟩ := matched
    simp [Rewrites] at rewrites
  case markFailed | markCascadeFailed =>
    subst matched
    right
    intro failed
    simp [Rewrites, ReviewRow.failing, failed] at rewrites
  case markPendingUpstream =>
    subst matched
    right
    by_contra settled
    simp only [Unchecked, not_or, not_not] at settled
    simp [Rewrites, ReviewRow.failing, settled] at rewrites
  all_goals exact .inr matched.1

theorem unchecked_rewrites {uuid : String} {row : ReviewRow}
    (unchecked : Unchecked uuid row settlement) :
    Rewrites row ((settlement.apply row).getD row) := by
  cases settlement <;> simp only [Unchecked] at unchecked <;>
    simp only [Settlement.apply, releaseReviewerClaim, releaseUnsettledPostedReview,
      rearmReviewerCredentialOutage, markFailed, markReviewerCredentialOutage,
      markTokenRefreshHold, markCascadeFailed, markPendingUpstream, markOutageTransient,
      releaseReviewLease, releaseReviewLeaseQuota, holdUpstream, Rewrites, ReviewRow.failing,
      ReviewRow.unclaimed]
  case releaseUnsettledPostedReview revisionRef given =>
    obtain ⟨free, failed | orphan | ⟨pending, head⟩⟩ := unchecked
    · simp [free, failed]
    · simp [free, orphan]
    · simp [free, pending, head.symm]
  case rearmReviewerCredentialOutage pattern =>
    obtain ⟨upstream, isOpen, lease, free, message⟩ := unchecked
    simp [upstream, isOpen, lease, free, message]
  case releaseReviewerClaim given =>
    obtain ⟨reviewing, same, -⟩ := unchecked
    simp [reviewing, same]
  case markFailed | markCascadeFailed => exact .inl (Ne.symm unchecked)
  case markPendingUpstream => exact unchecked.imp Ne.symm fun held => .inl held.symm
  all_goals simp [unchecked]

theorem rewrites_held {row after : ReviewRow} (matched : settlement.apply row = some after)
    (held : row.reviewStatus = .reviewing ∨ row.reviewStatus = .posted) : Rewrites row after := by
  obtain ⟨-, ended, posts⟩ := settlement_writes matched
  refine .inl fun same => ?_
  rcases held with reviewing | posted
  · exact ended (same.trans reviewing)
  · obtain ⟨postedAt, head, rfl⟩ := posts (same.trans posted)
    simp [Settlement.apply, markPosted, posted] at matched

theorem touchesOwn_iff (inv : RowInv ids world) {β : Type} {effect : SessionEffect β}
    (gives : GivesOwn ids session effect) :
    TouchesOwn ids () session effect world ↔ SettlesUnreplaced ids () session effect world := by
  cases effect with
  | claim => exact Iff.rfl
  | getReviewRow => exact Iff.rfl
  | settle settlement =>
    simp only [TouchesOwn, SettlesUnreplaced, performed_row]
    constructor
    · intro touches unchecked
      exact touches.1 (unchecked_rewrites unchecked)
    · intro unreplaced
      cases matched : settlement.apply world.row with
      | none => simp [Rewrites]
      | some after =>
        have own : Rewrites world.row after → world.lastClaim = some session := by
          intro rewrites
          rcases checked_or_unchecked inv gives matched rewrites with held | unchecked
          · exact inv.last held
          · exact unreplaced unchecked
        refine ⟨own, fun held => ?_⟩
        exact absurd held (inv.not_held (own (rewrites_held matched (held.imp And.left And.left))))

end

section

variable {ids : SessionIds} {session : Nat}

theorem uses_settle {settlement : Settlement} (gives : GivesOwn ids session (.settle settlement)) :
    (settle settlement).Uses (GivesOwn ids session) :=
  ⟨gives, fun _ => trivial⟩

theorem uses_nothing : (Prog.pure () : Prog SessionEffect Unit).Uses (GivesOwn ids session) :=
  trivial

section

variable {call : SettleCall} (own : call.reviewerSessionUuid = some (ids.uuid session))

theorem uses_settleReleased : (settleReleased call).Uses (GivesOwn ids session) := by
  simp only [settleReleased, Prog.bind_eq, Prog.perform_bind]
  refine ⟨trivial, fun released => ?_⟩
  dsimp only
  split
  · split
    · exact uses_settle trivial
    · trivial
  · trivial

theorem uses_settleTransient : (settleTransient call).Uses (GivesOwn ids session) := by
  simp only [settleTransient, Prog.bind_eq, Prog.perform_bind]
  refine ⟨trivial, fun row => ?_⟩
  dsimp only
  split <;> exact uses_settle trivial

theorem uses_settleTerminal : (settleTerminal call).Uses (GivesOwn ids session) := by
  unfold settleTerminal
  split
  · exact uses_settle trivial
  · split <;> exact uses_settle trivial

include own

theorem uses_markReviewedHead : (markReviewedHead call).Uses (GivesOwn ids session) := by
  unfold markReviewedHead
  split
  · trivial
  · exact ⟨own, fun _ => trivial⟩

-- From here on a program is only taken apart by the rules above.
attribute [local irreducible] Prog.Uses

theorem uses_settlePosted : (settlePosted call).Uses (GivesOwn ids session) := by
  simp only [settlePosted, Prog.bind_eq]
  refine (uses_markReviewedHead own).bind fun posted => ?_
  split
  · exact uses_settle own
  · split
    · exact uses_nothing
    · exact uses_settle trivial

theorem uses_settleFailed : (settleFailed call).Uses (GivesOwn ids session) := by
  simp only [settleFailed, Prog.bind_eq]
  split_ifs
  · exact uses_settleReleased
  · exact uses_settle trivial
  · exact uses_settle own
  · split
    · refine Prog.Uses.bind ?_ fun _ => ?_ <;> exact uses_settle trivial
    · split_ifs
      · exact uses_settle trivial
      · exact uses_settleTransient
      · exact uses_settleTerminal

theorem uses_settleReviewerAttempt :
    (settleReviewerAttempt call).Uses (GivesOwn ids session) := by
  unfold settleReviewerAttempt
  split_ifs
  · exact uses_settle trivial
  · exact uses_settle trivial
  · exact uses_settlePosted own
  · exact uses_settleFailed own

end

theorem uses_settleEach {calls : List SettleCall}
    (own : ∀ call ∈ calls, call.reviewerSessionUuid = some (ids.uuid session)) :
    (settleEach calls).Uses (GivesOwn ids session) := by
  induction calls with
  | nil => trivial
  | cons call calls ih =>
    exact (uses_settleReviewerAttempt (own call List.mem_cons_self)).bind fun _ =>
      ih fun later listed => own later (List.mem_cons_of_mem _ listed)

theorem uses_reviewerSession {plan : SessionPlan}
    (own : ∀ call ∈ plan.calls, call.reviewerSessionUuid = some (ids.uuid session)) :
    (reviewerSession plan).Uses (GivesOwn ids session) := by
  refine ⟨trivial, fun won => ?_⟩
  cases won with
  | false => trivial
  | true => exact uses_settleEach own

end

section

variable {ids : SessionIds} {config : Interleaved.Config Nat RowWorld SessionEffect}

theorem rowInv_move (inv : RowInv ids config.shared)
    (uses : Interleaved.AllUse (GivesOwn ids) config) (next : Interleaved.Move Nat Unit RowChange) :
    RowInv ids ((rowSystem ids).move config next).shared := by
  cases next with
  | external change => exact inv.external change
  | crash session => exact inv
  | run session env =>
    exact uses.run_related (fun _ after => RowInv ids after) inv fun effect gives =>
      inv.perform gives

theorem meetsMove_iff (inv : RowInv ids config.shared)
    (uses : Interleaved.AllUse (GivesOwn ids) config) (next : Interleaved.Move Nat Unit RowChange) :
    Interleaved.MeetsMove (TouchesOwn ids) config next ↔
      Interleaved.MeetsMove (SettlesUnreplaced ids) config next := by
  cases next with
  | external change => exact Iff.rfl
  | crash session => exact Iff.rfl
  | run session env =>
    have own := uses session
    simp only [Interleaved.MeetsMove]
    cases running : config.threads session with
    | step effect rest =>
      rw [running] at own
      exact touchesOwn_iff inv own.1
    | _ => exact Iff.rfl

theorem meets_iff (inv : RowInv ids config.shared) (uses : Interleaved.AllUse (GivesOwn ids) config)
    (moves : List (Interleaved.Move Nat Unit RowChange)) :
    (rowSystem ids).Meets (TouchesOwn ids) config moves ↔
      (rowSystem ids).Meets (SettlesUnreplaced ids) config moves := by
  induction moves generalizing config with
  | nil => exact Iff.rfl
  | cons next moves ih =>
    exact and_congr (meetsMove_iff inv uses next) (ih (rowInv_move inv uses next) (uses.move next))

/-- In every run of any number of sessions on one row that nobody has claimed yet, each with a
uuid of its own, whatever each claims by and settles with, and whatever is released, reclaimed,
merged or closed in between: each statement of a settlement changes the status, the session or
the head of the row only where its session made the last claim, and leaves alone a row that is
reviewed under another session or that another session posted. This holds exactly where every
statement that does not compare the session, and would rewrite the row, comes from the session
that made the last claim. -/
theorem settlement_touches_own_claim (ids : SessionIds) (row : ReviewRow)
    (plans : Nat → SessionPlan) (unclaimed : row.reviewerSessionUuid = none)
    (idle : row.reviewStatus ≠ .reviewing) (dispatched : ∀ session, ∀ call ∈ (plans session).calls,
      call.reviewerSessionUuid = some (ids.uuid session))
    (moves : List (Interleaved.Move Nat Unit RowChange)) :
    (rowSystem ids).Meets (TouchesOwn ids) (rowSessions row plans) moves ↔
      (rowSystem ids).Meets (SettlesUnreplaced ids) (rowSessions row plans) moves := by
  refine meets_iff ⟨fun uuid held => ?_, fun reviewing => absurd reviewing idle,
    fun session found posted => ?_⟩ (fun session => uses_reviewerSession (dispatched session)) moves
  · cases unclaimed.symm.trans held
  · cases posted

def sampleIds : SessionIds where
  uuid session := String.ofList (List.replicate (session + 1) 'u')
  fresh first second same := by
    have lengths := congrArg (fun uuid : String => uuid.toList.length) same
    simpa using lengths

def sampleCall (session : Nat) (failureClass : String) : SettleCall where
  reviewerSessionUuid := some (sampleIds.uuid session)
  reviewerHeadSha := some "head"
  result := { ok := false, failureClass := some failureClass }
  postedAt := "2026-01-01T00:00:00.000Z"
  failureAt := "2026-01-01T00:00:00.000Z"
  failureMessage := "failed"

def samplePlan (call : SettleCall) : SessionPlan where
  claim := .pending
  stamp := { attemptAt := "2026-01-01T00:00:00.000Z", reviewerHeadSha := some "head" }
  calls := [call]

def samplePlans (session : Nat) : SessionPlan :=
  if session = 0 then samplePlan (sampleCall 0 "bug")
  else samplePlan { sampleCall session "unknown" with result := { ok := true } }

/-- The first session settles, is replaced, and the second one posts. -/
def sampleTurns : List (Interleaved.Move Nat Unit RowChange) :=
  [.run 0 (), .run 0 (), .run 1 (), .run 1 ()]

theorem settlement_touches_own_claim_sample :
    (rowSystem sampleIds).Meets (TouchesOwn sampleIds)
      (rowSessions { reviewStatus := .pending } samplePlans) sampleTurns := by
  refine (settlement_touches_own_claim sampleIds { reviewStatus := .pending } samplePlans rfl nofun
    (fun session call listed => ?_) sampleTurns).mpr (by decide +kernel)
  unfold samplePlans at listed
  split at listed <;> cases List.mem_singleton.mp listed
  · rename_i first
    rw [first]
    rfl
  · rfl

def lateTurns : List (Interleaved.Move Nat Unit RowChange) :=
  [.run 0 (), .external (.releaseReviewerClaim (some (sampleIds.uuid 0))), .run 1 (), .run 0 ()]

/-- The late settlement takes the claim of the second session away. -/
theorem late_settlement_frees_replacement :
    ¬(rowSystem sampleIds).Meets (TouchesOwn sampleIds)
      (rowSessions { reviewStatus := .pending } samplePlans) lateTurns := by
  decide +kernel

end

end AdversarialReview.ReviewState
