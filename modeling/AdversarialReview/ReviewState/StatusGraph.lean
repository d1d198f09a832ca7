import AdversarialReview.ReviewState.Rereview
import AdversarialReview.ReviewState.Settlement

/-! Every statement that writes the status of a row, and the runs that keep to the status graph:
those in which no statement goes past the guard it lacks. -/

namespace AdversarialReview.ReviewState

def rereviewCiBlocked : ReviewStatus := .other "ci-blocked"
def skipped : ReviewStatus := .other "skipped"

def markFailedQuota (row : ReviewRow) (failedAt message : String) (quotaResetAt : Option String) :
    Option ReviewRow :=
  some { row.failing .failed failedAt message with
    quotaResetAtUtc := quotaResetAt
    reviewAttempts := row.reviewAttempts + 1 }

def markRereviewCiBlocked (row : ReviewRow) (failedAt message attemptAt : String)
    (headSha revisionRef session : Option String) : Option ReviewRow :=
  if sqlEq row.reviewerSessionUuid session ∧ row.reviewStatus = .reviewing then
    some { row.unclaimed with
      reviewStatus := rereviewCiBlocked
      failedAt := some failedAt
      failureMessage := some message
      lastAttemptedAt := some attemptAt
      reviewerHeadSha := headSha.or row.reviewerHeadSha
      revisionRef := revisionRef.or row.revisionRef
      quotaResetAtUtc := none }
  else none

def markRereviewCiBlockedRecheck (row : ReviewRow) (attemptAt : String)
    (headSha revisionRef reviewerHeadSha : Option String) : Option ReviewRow :=
  if row.reviewStatus = rereviewCiBlocked ∧ row.reviewerHeadSha = reviewerHeadSha then
    some { row with
      lastAttemptedAt := some attemptAt
      reviewerHeadSha := headSha.or row.reviewerHeadSha
      revisionRef := revisionRef.or row.revisionRef }
  else none

def ReviewRow.skipped (row : ReviewRow) (message : String) : ReviewRow :=
  { row.unclaimed with
    reviewStatus := ReviewState.skipped
    failedAt := none
    failureMessage := some message
    quotaResetAtUtc := none }

def markMergedPendingReviewSkipped (row : ReviewRow) (message : String) : Option ReviewRow :=
  if row.prState = some "merged" ∧ (row.reviewStatus = .pending ∨
      row.reviewStatus = .pendingUpstream ∨ row.reviewStatus = .reviewing) then
    some (row.skipped message)
  else none

def markTerminalReviewingSkipped (row : ReviewRow) (message : String) : Option ReviewRow :=
  if (row.prState = some "merged" ∨ row.prState = some "closed") ∧
      row.reviewStatus = .reviewing then
    some (row.skipped message)
  else none

def finalizePendingTerminalFailure (row : ReviewRow)
    (failedAt failureMessage headSha : Option String) : Option ReviewRow :=
  if row.reviewStatus = .pending ∧ sqlEq row.failedAt failedAt ∧
      row.failureMessage = failureMessage ∧ sqlEq row.reviewerHeadSha headSha then
    some { row with reviewStatus := .failed, reviewerLeaseExpiresAt := none }
  else none

def markReviewerCommandFailedRecoveredPosted (row : ReviewRow) (postedAt : String)
    (session startedAt headSha : Option String) : Option ReviewRow :=
  if (row.reviewStatus = .failed ∨ row.reviewStatus = .pending) ∧
      sqlEq row.reviewerSessionUuid session ∧ sqlEq row.reviewerStartedAt startedAt ∧
      sqlEq row.reviewerHeadSha headSha ∧ row.reviewerHeadSha.any notBlank = true ∧
      row.messageLike "[unknown] command failed%" then
    some { row with
      reviewStatus := .posted
      postedAt := some postedAt
      reviewerHeadSha := headSha
      failedAt := none
      failureMessage := none
      quotaResetAtUtc := none
      reviewAttempts := row.reviewAttempts + 1
      reviewerLeaseExpiresAt := none
      infraAutoRecoverAttempts := some 0 }
  else none

/-- The title of the pull request names no worker. -/
def markMalformed (row : ReviewRow) (message failedAt : String) : Option ReviewRow :=
  some { row with
    reviewer := some "malformed-title"
    reviewStatus := malformed
    failureMessage := some message
    failedAt := some failedAt
    lastAttemptedAt := some failedAt
    reviewAttempts := row.reviewAttempts + 1 }

def markArgusSecurityQueued (row : ReviewRow) (message attemptedAt : String) : Option ReviewRow :=
  some { row with
    reviewer := some "argus-security"
    reviewStatus := argusSecurityQueued
    failedAt := none
    failureMessage := some message
    lastAttemptedAt := some attemptedAt }

def markReviewCycleCapPaused (row : ReviewRow) (failedAt message : String) : Option ReviewRow :=
  some (row.failing .failed failedAt message)

def requeuePostedReviewWithoutHead (row : ReviewRow) (headSha now : String) : Option ReviewRow :=
  if headSha ≠ "" ∧ row.prState = some "open" ∧ row.reviewStatus = .posted ∧
      row.reviewerHeadSha.any notBlank = false ∧ row.revisionRef = some headSha then
    let orphan := row.rereviewReason = some s!"system-orphan-head-review:{headSha}" ∧
      row.rereviewRequestedAt.isSome
    some { row.unclaimed with
      postedAt := none
      failedAt := none
      failureMessage := none
      quotaResetAtUtc := none
      rereviewRequestedAt := if orphan then row.rereviewRequestedAt else some now
      rereviewReason := if orphan then row.rereviewReason
        else some s!"system-missing-reviewed-head:{headSha}" }
  else none

inductive RowStatement where
  | claim (claim : Claim) (session : String) (stamp : ClaimStamp)
  | settle (settlement : Settlement)
  | change (change : RowChange)
  | markFailedQuota (failedAt message : String) (quotaResetAt : Option String)
  | markRereviewCiBlocked (failedAt message attemptAt : String)
      (headSha revisionRef session : Option String)
  | markRereviewCiBlockedRecheck (attemptAt : String)
      (headSha revisionRef reviewerHeadSha : Option String)
  | markMergedPendingReviewSkipped (message : String)
  | markTerminalReviewingSkipped (message : String)
  | finalizePendingTerminalFailure (failedAt failureMessage headSha : Option String)
  | markReviewerCommandFailedRecoveredPosted (postedAt : String)
      (session startedAt headSha : Option String)
  | markMalformed (message failedAt : String)
  | markArgusSecurityQueued (message attemptedAt : String)
  | markReviewCycleCapPaused (failedAt message : String)
  | requeuePostedReviewWithoutHead (headSha now : String)
  | requestReviewRereview (call : RereviewCall)

def rereviewWrites (row : ReviewRow) (call : RereviewCall) : Option ReviewRow :=
  match rereviewRow (some row) call with
  | .blocked _ => none
  | .triggered after | .alreadyPending after => some after

def RowStatement.apply (row : ReviewRow) : RowStatement → Option ReviewRow
  | .claim kind session stamp => kind.apply row session stamp
  | .settle settlement => settlement.apply row
  | .change write => write.apply row
  | .markFailedQuota failedAt message quotaResetAt =>
    ReviewState.markFailedQuota row failedAt message quotaResetAt
  | .markRereviewCiBlocked failedAt message attemptAt headSha revisionRef session =>
    ReviewState.markRereviewCiBlocked row failedAt message attemptAt headSha revisionRef session
  | .markRereviewCiBlockedRecheck attemptAt headSha revisionRef reviewerHeadSha =>
    ReviewState.markRereviewCiBlockedRecheck row attemptAt headSha revisionRef reviewerHeadSha
  | .markMergedPendingReviewSkipped message =>
    ReviewState.markMergedPendingReviewSkipped row message
  | .markTerminalReviewingSkipped message => ReviewState.markTerminalReviewingSkipped row message
  | .finalizePendingTerminalFailure failedAt failureMessage headSha =>
    ReviewState.finalizePendingTerminalFailure row failedAt failureMessage headSha
  | .markReviewerCommandFailedRecoveredPosted postedAt session startedAt headSha =>
    ReviewState.markReviewerCommandFailedRecoveredPosted row postedAt session startedAt headSha
  | .markMalformed message failedAt => ReviewState.markMalformed row message failedAt
  | .markArgusSecurityQueued message attemptedAt =>
    ReviewState.markArgusSecurityQueued row message attemptedAt
  | .markReviewCycleCapPaused failedAt message =>
    ReviewState.markReviewCycleCapPaused row failedAt message
  | .requeuePostedReviewWithoutHead headSha now =>
    ReviewState.requeuePostedReviewWithoutHead row headSha now
  | .requestReviewRereview call => rereviewWrites row call

def RowStatement.next (statement : RowStatement) (row : ReviewRow) : ReviewRow :=
  (statement.apply row).getD row

def unclaimable : List ReviewStatus :=
  [.reviewing, .posted, .failedOrphan, rereviewCiBlocked, skipped, malformed]

def RowStatement.isClaim : RowStatement → Bool
  | .claim .. => true
  | _ => false

def RowStatement.isRereview : RowStatement → Bool
  | .requestReviewRereview _ => true
  | _ => false

structure RespectsGraph (statement : RowStatement) (row : ReviewRow) : Prop where
  merged : row.isMerged = true → row.reviewStatus ≠ .reviewing →
    (statement.next row).reviewStatus ≠ .reviewing
  claims : statement.isClaim = true → (statement.apply row).isSome = true →
    row.reviewStatus ∉ unclaimable
  malformed : row.reviewStatus = malformed →
    (statement.next row).reviewStatus = ReviewState.malformed
  posted : row.reviewStatus = .posted → (statement.next row).reviewStatus = .pending →
    statement.isRereview = true

def GraphRespected (row : ReviewRow) : List RowStatement → Prop
  | [] => True
  | statement :: rest =>
    RespectsGraph statement row ∧ GraphRespected (statement.next row) rest

/-- The `WHERE` of the claims that do not look at `pr_state`. -/
def Claim.unguarded (claim : Claim) (row : ReviewRow) (stamp : ClaimStamp) : Bool :=
  match claim with
  | .infra found =>
    row.reviewerTerminalFailure
        (sqlEq row.failedAt found.failedAt && sqlEq row.reviewerHeadSha found.headSha) &&
      (row.infraAttempts < found.cap || found.cascadeRetryDue) &&
      row.failureMessage = found.failureMessage
  | .reviewPopulation maxAttempts =>
    row.reviewerTerminalFailure (sqlEq row.reviewerHeadSha stamp.reviewerHeadSha) &&
      (row.reviewPopulationRetryHeadSha.getD "" ≠ stamp.reviewerHeadSha.getD "" ||
        row.reviewPopulationRetryAttempts < maxAttempts) &&
      (row.messageLike "%no github review%found%" ||
        row.messageLike "%generated-but-not-posted%" ||
        row.messageLike "%generated but not posted%")
  | .unknownFailure maxRetries =>
    row.reviewerTerminalFailure (sqlEq row.reviewerHeadSha stamp.reviewerHeadSha) &&
      row.reviewAttempts < maxRetries &&
      (row.messageLike "%command failed with code %" ||
        row.messageLike "%command exited with code %" ||
        row.messageLike "%non-zero exit code %" || row.messageLike "%non-zero exit %") &&
      (row.messageLike "[unknown]%" || !bracketed (row.failureMessage.getD ""))
  | _ => false

def WithinGuards (statement : RowStatement) (row : ReviewRow) : Prop :=
  match statement with
  -- These claims do not ask whether the pull request was merged.
  | .claim claim _ stamp => ¬ (row.isMerged = true ∧ claim.unguarded row stamp = true)
  -- These marks do not ask for the status that they replace.
  | .settle (.markFailed ..) | .settle (.markCascadeFailed ..) | .settle (.markPendingUpstream ..)
  | .change (.markOrphan ..) | .markFailedQuota .. | .markArgusSecurityQueued ..
  | .markReviewCycleCapPaused .. => row.reviewStatus ≠ malformed
  -- The repair of a posted row without a head goes beside the request for another review.
  | .requeuePostedReviewWithoutHead headSha _ => ¬ (headSha ≠ "" ∧ row.prState = some "open" ∧
      row.reviewStatus = .posted ∧ row.reviewerHeadSha.any notBlank = false ∧
      row.revisionRef = some headSha)
  | _ => True

def RunWithinGuards (row : ReviewRow) : List RowStatement → Prop
  | [] => True
  | statement :: rest =>
    WithinGuards statement row ∧ RunWithinGuards (statement.next row) rest

@[simp] theorem failing_status (row : ReviewRow) (status : ReviewStatus)
    (failedAt message : String) : (row.failing status failedAt message).reviewStatus = status := rfl

@[simp] theorem unclaimed_status (row : ReviewRow) : row.unclaimed.reviewStatus = .pending := rfl

@[simp] theorem skipped_status (row : ReviewRow) (message : String) :
    (row.skipped message).reviewStatus = skipped := rfl

theorem terminal_status {row : ReviewRow} {evidence : Bool}
    (failed : row.reviewerTerminalFailure evidence = true) :
    row.reviewStatus = .pending ∨ row.reviewStatus = .failed := by
  simp only [ReviewRow.reviewerTerminalFailure, Bool.or_eq_true, Bool.and_eq_true,
    decide_eq_true_eq] at failed
  rcases failed with failed | ⟨⟨pending, -⟩, -⟩
  · exact .inr failed
  · exact .inl pending

theorem claim_source {claim : Claim} {row after : ReviewRow} {session : String}
    {stamp : ClaimStamp} (matched : claim.apply row session stamp = some after) :
    row.reviewStatus = .pending ∨ row.reviewStatus = .pendingUpstream ∨
      row.reviewStatus = .failed := by
  -- All but the first two go through the test for a terminal failure.
  have terminal {evidence : Bool} (failed : row.reviewerTerminalFailure evidence = true) :
      row.reviewStatus = .pending ∨ row.reviewStatus = .pendingUpstream ∨
        row.reviewStatus = .failed :=
    (terminal_status failed).imp_right .inr
  cases claim with
  | pending =>
    simp only [Claim.apply, markAttemptStarted, Option.ite_none_right_eq_some] at matched
    obtain ⟨⟨pending | waits, -⟩, -⟩ := matched
    · exact .inl pending
    · exact .inr (.inl waits)
  | tokenRefresh failedAt headSha =>
    simp only [Claim.apply, markTokenRefreshRecoveryAttemptStarted,
      Option.ite_none_right_eq_some] at matched
    obtain ⟨⟨failed | waits | ⟨pending, -⟩, -⟩, -⟩ := matched
    · exact .inr (.inr failed)
    · exact .inr (.inl waits)
    · exact .inl pending
  | infra found =>
    simp only [Claim.apply, markInfraAutoRecoveryAttemptStarted,
      Option.ite_none_right_eq_some] at matched
    exact terminal matched.1.1
  | reviewPopulation maxAttempts =>
    simp only [Claim.apply, markReviewPopulationRetryAttemptStarted,
      Option.ite_none_right_eq_some] at matched
    exact terminal matched.1.1
  | unknownFailure maxRetries =>
    simp only [Claim.apply, markUnknownFailureRetryAttemptStarted,
      Option.ite_none_right_eq_some] at matched
    exact terminal matched.1.1
  | daemonBounce bounced =>
    simp only [Claim.apply, markDaemonBounceRecoveryAttemptStarted,
      Option.ite_none_right_eq_some] at matched
    exact terminal matched.1.1

theorem claim_merged {claim : Claim} {row : ReviewRow} {session : String} {stamp : ClaimStamp}
    (merged : row.isMerged = true) :
    (claim.apply row session stamp).isSome = claim.unguarded row stamp := by
  cases claim with
  | pending => simp [Claim.apply, markAttemptStarted, Claim.unguarded, merged]
  | tokenRefresh failedAt headSha =>
    simp [Claim.apply, markTokenRefreshRecoveryAttemptStarted, Claim.unguarded, merged]
  | infra found =>
    simp only [Claim.apply, markInfraAutoRecoveryAttemptStarted, Claim.unguarded]
    split <;> simp_all
  | reviewPopulation maxAttempts =>
    simp only [Claim.apply, markReviewPopulationRetryAttemptStarted, Claim.unguarded]
    split
    · rename_i holds
      obtain ⟨failed, room, lost⟩ := holds
      have room : row.reviewPopulationRetryHeadSha.getD "" ≠ stamp.reviewerHeadSha.getD "" ∨
          row.reviewPopulationRetryAttempts < maxAttempts := by simpa using room
      simp only [Option.isSome_some, failed, Bool.true_and]
      grind
    · grind
  | unknownFailure maxRetries =>
    simp only [Claim.apply, markUnknownFailureRetryAttemptStarted, Claim.unguarded]
    split <;> simp_all
  | daemonBounce bounced =>
    simp [Claim.apply, markDaemonBounceRecoveryAttemptStarted, Claim.unguarded, merged]

section

structure Quiet (row after : ReviewRow) : Prop where
  reviewing : after.reviewStatus = .reviewing → row.reviewStatus = .reviewing
  malformed : row.reviewStatus = malformed → after.reviewStatus = ReviewState.malformed
  posted : row.reviewStatus = .posted → after.reviewStatus ≠ .pending

variable {row after : ReviewRow}

theorem Quiet.ofSource {status : ReviewStatus}
    (source : row.reviewStatus = status) (target : after.reviewStatus ≠ .reviewing)
    (plain : status ≠ ReviewState.malformed := by decide)
    (unposted : status ≠ .posted := by decide) :
    Quiet row after where
  reviewing claimed := absurd claimed target
  malformed held := absurd (source.symm.trans held) plain
  posted held := absurd (source.symm.trans held) unposted

theorem Quiet.ofMark (routed : row.reviewStatus ≠ ReviewState.malformed)
    (unclaimed : after.reviewStatus ≠ .reviewing) (settled : after.reviewStatus ≠ .pending) :
    Quiet row after where
  reviewing claimed := absurd claimed unclaimed
  malformed held := absurd held routed
  posted _ := settled

theorem Quiet.ofSame (same : after.reviewStatus = row.reviewStatus) :
    Quiet row after where
  reviewing claimed := same.symm.trans claimed
  malformed held := same.trans held
  posted held pending := by
    rw [same, held] at pending
    cases pending

theorem settlement_quiet {settlement : Settlement} (guarded : WithinGuards (.settle settlement) row)
    (matched : settlement.apply row = some after) : Quiet row after := by
  have unclaimed := (settlement_writes matched).2.1
  cases settlement with
  | releaseReviewerClaim session =>
    simp only [Settlement.apply, releaseReviewerClaim, Option.ite_none_right_eq_some] at matched
    exact .ofSource matched.1.2 unclaimed
  | releaseLegacyStaleReviewerClaim headSha =>
    simp only [Settlement.apply, releaseLegacyStaleReviewerClaim,
      Option.ite_none_right_eq_some] at matched
    exact .ofSource matched.1.1 unclaimed
  | markPosted postedAt reviewedHead session =>
    simp only [Settlement.apply, markPosted, Option.ite_none_right_eq_some] at matched
    rcases matched.1.1 with reviewing | orphan
    · exact .ofSource reviewing unclaimed
    · exact .ofSource orphan unclaimed
  | releaseUnsettledPostedReview revisionRef session =>
    simp only [Settlement.apply, releaseUnsettledPostedReview,
      Option.ite_none_right_eq_some] at matched
    rcases matched.1.1 with reviewing | pending | failed | orphan
    · exact .ofSource reviewing unclaimed
    · exact .ofSource pending unclaimed
    · exact .ofSource failed unclaimed
    · exact .ofSource orphan unclaimed
  | rearmReviewerCredentialOutage pattern =>
    simp only [Settlement.apply, rearmReviewerCredentialOutage,
      Option.ite_none_right_eq_some] at matched
    rcases matched.1.2.1 with pending | waits
    · exact .ofSource pending unclaimed
    · exact .ofSource waits unclaimed
  | markFailed failedAt message =>
    cases matched
    exact .ofMark guarded unclaimed (by simp)
  | markSizeFailed failedAt message headSha session =>
    simp only [Settlement.apply, markSizeFailed, Option.ite_none_right_eq_some] at matched
    exact .ofSource matched.1.1 unclaimed
  | markReviewerCredentialOutage failedAt message =>
    simp only [Settlement.apply, markReviewerCredentialOutage, holdUpstream,
      Option.ite_none_right_eq_some] at matched
    exact .ofSource matched.1 unclaimed
  | promoteReviewerCredentialOutage message reviewer =>
    simp only [Settlement.apply, promoteReviewerCredentialOutage,
      Option.ite_none_right_eq_some] at matched
    exact .ofSource matched.1.2.1 unclaimed
  | markTokenRefreshHold failedAt message =>
    simp only [Settlement.apply, markTokenRefreshHold, holdUpstream,
      Option.ite_none_right_eq_some] at matched
    exact .ofSource matched.1 unclaimed
  | markCascadeFailed failedAt message =>
    cases matched
    exact .ofMark guarded unclaimed (by simp)
  | markPendingUpstream failedAt message =>
    cases matched
    exact .ofMark guarded unclaimed (by simp)
  | markOutageTransient failedAt message quotaResetAt =>
    simp only [Settlement.apply, markOutageTransient, Option.ite_none_right_eq_some] at matched
    exact .ofSource matched.1 unclaimed
  | releaseReviewLease failedAt message =>
    simp only [Settlement.apply, releaseReviewLease, releaseReviewLeaseQuota,
      Option.ite_none_right_eq_some] at matched
    exact .ofSource matched.1 unclaimed

theorem change_quiet {change : RowChange} (guarded : WithinGuards (.change change) row)
    (matched : change.apply row = some after) : Quiet row after := by
  cases change with
  | releaseReviewerClaim session =>
    exact @settlement_quiet row after (.releaseReviewerClaim session) trivial matched
  | releaseReviewLease failedAt message =>
    exact @settlement_quiet row after (.releaseReviewLease failedAt message) trivial matched
  | releaseReviewLeaseQuota failedAt message quotaResetAt =>
    simp only [RowChange.apply, releaseReviewLeaseQuota, Option.ite_none_right_eq_some] at matched
    obtain ⟨reviewing, -, rfl⟩ := matched
    exact .ofSource reviewing (by simp)
  | markOrphan failedAt message =>
    cases matched
    exact .ofMark guarded (by simp) (by simp)
  | autoReclaimFailedOrphan failedAt message requestedAt reason cap session pgid lease =>
    simp only [RowChange.apply, autoReclaimFailedOrphan, Option.ite_none_right_eq_some] at matched
    obtain ⟨⟨-, orphan, -⟩, -, rfl⟩ := matched
    exact .ofSource orphan (by simp)
  | prState state =>
    cases matched
    exact .ofSame rfl

theorem resetForRereview_moves {call : RereviewCall}
    (matched : resetForRereview row call = some after) :
    row.reviewStatus ≠ malformed ∧ after.reviewStatus = .pending := by
  simp only [resetForRereview, Option.ite_none_right_eq_some] at matched
  obtain ⟨⟨-, ⟨settled, -⟩, -⟩, -, rfl⟩ := matched
  exact ⟨fun held => settled (by simp [held]), rfl⟩

theorem rearmPending_status (row : ReviewRow) (call : RereviewCall)
    (pending : row.reviewStatus = .pending) :
    (rearmPending row call).reviewStatus = .pending := by
  unfold rearmPending
  simp only
  split
  · rfl
  · exact pending

theorem pending_of_rereviewBlocked {row : ReviewRow} (free : rereviewBlocked row = none) :
    row.reviewStatus = .pending := by
  unfold rereviewBlocked at free
  repeat' split at free
  all_goals first | assumption | cases free

theorem rereviewWrites_moves {call : RereviewCall}
    (matched : rereviewWrites row call = some after) :
    row.reviewStatus ≠ malformed ∧ after.reviewStatus = .pending := by
  unfold rereviewWrites rereviewRow at matched
  by_cases reviewing : row.reviewStatus = .reviewing
  · simp [reviewing] at matched
  · cases refused : call.refusedByVerdict with
    | some reason => simp [reviewing, refused] at matched
    | none =>
      cases reset : resetForRereview row call with
      | some written =>
        have same : written = after := by simpa [reviewing, refused, reset] using matched
        exact same ▸ resetForRereview_moves reset
      | none =>
        cases blocked : rereviewBlocked row with
        | some reason => simp [reviewing, refused, reset, blocked] at matched
        | none =>
          have pending := pending_of_rereviewBlocked blocked
          have same : rearmPending row call = after := by
            simpa [reviewing, refused, reset, blocked] using matched
          exact ⟨by simp [pending, malformed], same ▸ rearmPending_status row call pending⟩

theorem statement_quiet {statement : RowStatement}
    (other : statement.isClaim = false) (unasked : statement.isRereview = false)
    (guarded : WithinGuards statement row) (matched : statement.apply row = some after) :
    Quiet row after := by
  cases statement with
  | claim => cases other
  | settle settlement => exact settlement_quiet guarded matched
  | change change => exact change_quiet guarded matched
  | markFailedQuota failedAt message quotaResetAt =>
    cases matched
    exact .ofMark guarded (by simp) (by simp)
  | markRereviewCiBlocked failedAt message attemptAt headSha revisionRef session =>
    simp only [RowStatement.apply, markRereviewCiBlocked, Option.ite_none_right_eq_some] at matched
    obtain ⟨⟨-, reviewing⟩, -, rfl⟩ := matched
    exact .ofSource reviewing (by simp [rereviewCiBlocked])
  | markRereviewCiBlockedRecheck attemptAt headSha revisionRef reviewerHeadSha =>
    simp only [RowStatement.apply, markRereviewCiBlockedRecheck,
      Option.ite_none_right_eq_some] at matched
    obtain ⟨-, -, rfl⟩ := matched
    exact .ofSame rfl
  | markMergedPendingReviewSkipped message =>
    simp only [RowStatement.apply, markMergedPendingReviewSkipped,
      Option.ite_none_right_eq_some] at matched
    obtain ⟨⟨-, pending | waits | reviewing⟩, -, rfl⟩ := matched
    · exact .ofSource pending (by simp [skipped])
    · exact .ofSource waits (by simp [skipped])
    · exact .ofSource reviewing (by simp [skipped])
  | markTerminalReviewingSkipped message =>
    simp only [RowStatement.apply, markTerminalReviewingSkipped,
      Option.ite_none_right_eq_some] at matched
    obtain ⟨⟨-, reviewing⟩, -, rfl⟩ := matched
    exact .ofSource reviewing (by simp [skipped])
  | finalizePendingTerminalFailure failedAt failureMessage headSha =>
    simp only [RowStatement.apply, finalizePendingTerminalFailure,
      Option.ite_none_right_eq_some] at matched
    obtain ⟨⟨pending, -⟩, -, rfl⟩ := matched
    exact .ofSource pending (by simp)
  | markReviewerCommandFailedRecoveredPosted postedAt session startedAt headSha =>
    simp only [RowStatement.apply, markReviewerCommandFailedRecoveredPosted,
      Option.ite_none_right_eq_some] at matched
    obtain ⟨⟨failed | pending, -⟩, -, rfl⟩ := matched
    · exact .ofSource failed (by simp)
    · exact .ofSource pending (by simp)
  | markMalformed message failedAt =>
    cases matched
    exact ⟨(by simp [malformed]), fun _ => rfl, fun _ => (by simp [malformed])⟩
  | markArgusSecurityQueued message attemptedAt =>
    cases matched
    exact .ofMark guarded (by simp [argusSecurityQueued]) (by simp [argusSecurityQueued])
  | markReviewCycleCapPaused failedAt message =>
    cases matched
    exact .ofMark guarded (by simp) (by simp)
  | requeuePostedReviewWithoutHead headSha now =>
    -- Within its guard the repair does not match.
    simp only [RowStatement.apply, requeuePostedReviewWithoutHead,
      Option.ite_none_right_eq_some] at matched
    exact absurd matched.1 guarded
  | requestReviewRereview call => cases unasked

end

section

variable {statement : RowStatement}

theorem next_of_matched {row after : ReviewRow}
    (matched : statement.apply row = some after) : statement.next row = after := by
  simp [RowStatement.next, matched]

variable {row : ReviewRow}

theorem next_of_unmatched (unmatched : statement.apply row = none) : statement.next row = row := by
  simp [RowStatement.next, unmatched]

theorem respects_of_unmatched
    (unmatched : statement.apply row = none) : RespectsGraph statement row := by
  have same := next_of_unmatched unmatched
  refine ⟨fun _ free => by rwa [same], ?_, fun held => by rwa [same], ?_⟩
  · simp [unmatched]
  · intro posted pending
    rw [same, posted] at pending
    cases pending

theorem respects_of_guards
    (guarded : WithinGuards statement row) : RespectsGraph statement row := by
  cases matched : statement.apply row with
  | none => exact respects_of_unmatched matched
  | some after =>
    have next := next_of_matched matched
    by_cases claims : statement.isClaim = true
    · -- A claim takes a waiting or failed row, and no merged one.
      obtain ⟨claim, session, stamp, rfl⟩ : ∃ claim session stamp,
          statement = .claim claim session stamp := by
        cases statement <;> first | exact ⟨_, _, _, rfl⟩ | cases claims
      have source := claim_source matched
      have found : (claim.apply row session stamp).isSome = true :=
        Option.isSome_of_eq_some matched
      have unmerged : row.isMerged ≠ true := fun merged =>
        guarded ⟨merged, claim_merged merged ▸ found⟩
      refine ⟨fun merged => absurd merged unmerged, fun _ _ => ?_, ?_, ?_⟩
      · rcases source with status | status | status <;> rw [status] <;> decide
      · intro held
        rcases source with status | status | status <;> rw [status] at held <;> cases held
      · intro held
        rcases source with status | status | status <;> rw [status] at held <;> cases held
    · by_cases asked : statement.isRereview = true
      · -- A request for another review leaves a pending row.
        obtain ⟨call, rfl⟩ : ∃ call, statement = .requestReviewRereview call := by
          cases statement <;> first | exact ⟨_, rfl⟩ | cases asked
        obtain ⟨routed, pending⟩ := rereviewWrites_moves matched
        refine ⟨fun _ _ => ?_, (fun claims => by cases claims), fun held => absurd held routed, fun _ _ => rfl⟩
        rw [next, pending]
        exact (by simp)
      · have quiet := statement_quiet (by simpa using claims) (by simpa using asked) guarded matched
        refine ⟨fun _ free claimed => free (quiet.reviewing (next ▸ claimed)),
          fun claimed => absurd claimed claims, fun held => next ▸ quiet.malformed held, ?_⟩
        intro posted pending
        exact absurd (next ▸ pending) (quiet.posted posted)

theorem guards_of_respects
    (respects : RespectsGraph statement row) : WithinGuards statement row := by
  -- A mark that compares nothing moves a malformed row.
  have marks {after : ReviewRow} (matched : statement.apply row = some after)
      (moved : after.reviewStatus ≠ malformed) : row.reviewStatus ≠ malformed := by
    intro held
    have kept := respects.malformed held
    rw [next_of_matched matched] at kept
    exact moved kept
  cases statement with
  | claim claim session stamp =>
    rintro ⟨merged, unguarded⟩
    have found : (claim.apply row session stamp).isSome = true := claim_merged merged ▸ unguarded
    obtain ⟨after, matched⟩ := Option.isSome_iff_exists.mp found
    have free : row.reviewStatus ≠ .reviewing := by
      rcases claim_source matched with status | status | status <;>
        rw [status] <;> exact (by simp)
    refine respects.merged merged free ?_
    have next : RowStatement.next (.claim claim session stamp) row = after :=
      next_of_matched matched
    rw [next]
    exact (claim_writes matched).1
  | settle settlement =>
    cases settlement with
    | markFailed failedAt message => exact marks rfl (by simp [malformed])
    | markCascadeFailed failedAt message => exact marks rfl (by simp [malformed])
    | markPendingUpstream failedAt message => exact marks rfl (by simp [malformed])
    | _ => trivial
  | change change =>
    cases change with
    | markOrphan failedAt message => exact marks rfl (by simp [malformed])
    | _ => trivial
  | markFailedQuota failedAt message quotaResetAt => exact marks rfl (by simp [malformed])
  | markArgusSecurityQueued message attemptedAt =>
    exact marks rfl (show argusSecurityQueued ≠ malformed by decide)
  | markReviewCycleCapPaused failedAt message => exact marks rfl (by simp [malformed])
  | requeuePostedReviewWithoutHead headSha now =>
    intro held
    have matched : RowStatement.apply row (.requeuePostedReviewWithoutHead headSha now) =
        some _ := if_pos held
    have pending := respects.posted held.2.2.1 (by rw [next_of_matched matched]; rfl)
    cases pending
  | _ => trivial

theorem respects_iff_guards (statement : RowStatement) (row : ReviewRow) :
    RespectsGraph statement row ↔ WithinGuards statement row :=
  ⟨guards_of_respects, respects_of_guards⟩

end

/-- A run keeps to the status graph exactly where no statement goes past the guard it lacks. -/
theorem status_graph_respected_iff (row : ReviewRow) (statements : List RowStatement) :
    GraphRespected row statements ↔ RunWithinGuards row statements := by
  induction statements generalizing row with
  | nil => exact Iff.rfl
  | cons statement rest ih =>
    exact and_congr (respects_iff_guards statement row) (ih (statement.next row))

def mergedThenRecovered : List RowStatement :=
  [.claim .pending "first" { attemptAt := "10:00", reviewerHeadSha := some "head" },
    .settle (.markCascadeFailed "10:05" "[cascade] upstream unavailable"),
    .change (.prState "merged"),
    .claim (.infra { failedAt := some "10:05", headSha := some "head", cap := 3,
                     cascadeRetryDue := false
                     failureMessage := some "[cascade] upstream unavailable" })
      "second" { attemptAt := "10:10", reviewerHeadSha := some "head" }]

def malformedThenFailed : List RowStatement :=
  [.claim .pending "first" { attemptAt := "10:00", reviewerHeadSha := some "head" },
    .markMalformed "Malformed PR title: fix" "10:02",
    .settle (.markFailed "10:05" "[unknown] command failed")]

/-- A merged row is claimed again, and a malformed row fails. -/
theorem status_graph_broken :
    ¬ GraphRespected { reviewStatus := .pending, prState := some "open" } mergedThenRecovered ∧
    ¬ GraphRespected { reviewStatus := .pending, prState := some "open" } malformedThenFailed := by
  constructor
  · rintro ⟨-, -, -, last, -⟩
    exact last.merged (by decide) (by decide) (by decide)
  · rintro ⟨-, -, last, -⟩
    exact absurd (last.malformed (by decide)) (by decide)

end AdversarialReview.ReviewState
