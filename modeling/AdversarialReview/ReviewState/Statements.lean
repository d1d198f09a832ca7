import AdversarialReview.Library.JsText

/-! The SQL statements on one row of `reviewed_prs`: claims, releases and settlements. -/

namespace AdversarialReview.ReviewState

inductive ReviewStatus where
  | pending | pendingUpstream | reviewing | posted | failed | failedOrphan
  /-- A status that no statement modelled here names. -/
  | other (name : String)
  deriving DecidableEq

/-- The columns of a row that claims, releases and settlements read or write. -/
structure ReviewRow where
  reviewStatus : ReviewStatus
  reviewerSessionUuid : Option String := none
  reviewerHeadSha : Option String := none
  reviewerStartedAt : Option String := none
  reviewerTimeoutMs : Option Int := none
  reviewerLeaseExpiresAt : Option String := none
  reviewerPgid : Option Int := none
  reviewer : Option String := none
  revisionRef : Option String := none
  prState : Option String := none
  lastAttemptedAt : Option String := none
  postedAt : Option String := none
  failedAt : Option String := none
  failureMessage : Option String := none
  quotaResetAtUtc : Option String := none
  rereviewRequestedAt : Option String := none
  rereviewReason : Option String := none
  reviewAttempts : Int := 0
  infraAutoRecoverAttempts : Option Int := none
  reviewPopulationRetryAttempts : Int := 0
  reviewPopulationRetryLastAt : Option String := none
  reviewPopulationRetryHeadSha : Option String := none
  deriving DecidableEq

def sqlEq {α : Type} [DecidableEq α] (first second : Option α) : Bool :=
  first.isSome && first = second

/-- `LIKE` of SQLite: `%` is any text, `_` any character, and the ASCII case does not count. -/
def like : List Char → List Char → Bool
  | [], text => text.isEmpty
  | '%' :: pattern, text => (List.range (text.length + 1)).any fun n => like pattern (text.drop n)
  | '_' :: pattern, text => !text.isEmpty && like pattern text.tail
  | char :: pattern, text =>
    (text.head?.any fun first => first.toLower = char.toLower) && like pattern text.tail

def bracketed (text : String) : Bool :=
  text.toList.head? = some '[' && text.toList.tail.contains ']'

def notBlank (text : String) : Bool :=
  text.toList.any (· ≠ ' ')

namespace ReviewRow

def messageLike (row : ReviewRow) (pattern : String) : Bool :=
  like pattern.toList (row.failureMessage.getD "").toList

def isOpen (row : ReviewRow) : Bool :=
  row.prState.getD "open" = "open"

def isMerged (row : ReviewRow) : Bool :=
  row.prState.getD "open" = "merged"

def infraAttempts (row : ReviewRow) : Int :=
  row.infraAutoRecoverAttempts.getD 0

def reviewerTerminalFailure (row : ReviewRow) (pendingEvidence : Bool) : Bool :=
  row.reviewStatus = .failed ||
    (row.reviewStatus = .pending && row.failedAt.any (· ≠ "") && pendingEvidence)

end ReviewRow

/-- What every claim writes next to its session. -/
structure ClaimStamp where
  attemptAt : String
  reviewerHeadSha : Option String := none
  pendingRevisionRef : Option String := none
  reviewerTimeoutMs : Option Int := none
  reviewerLeaseExpiresAt : Option String := none

/-- The columns that every claim sets alike. -/
def ReviewRow.claimed (row : ReviewRow) (session : String) (stamp : ClaimStamp) : ReviewRow :=
  { row with
    reviewStatus := .reviewing
    lastAttemptedAt := some stamp.attemptAt
    reviewerSessionUuid := some session
    reviewerStartedAt := none
    reviewerHeadSha := stamp.reviewerHeadSha
    revisionRef := stamp.pendingRevisionRef.or row.revisionRef
    reviewerTimeoutMs := stamp.reviewerTimeoutMs
    reviewerLeaseExpiresAt := stamp.reviewerLeaseExpiresAt
    reviewerPgid := none }

def markAttemptStarted (row : ReviewRow) (session : String) (stamp : ClaimStamp) :
    Option ReviewRow :=
  let waits := row.reviewStatus = .pendingUpstream
  let moved := row.reviewStatus = .pending ∧ row.failedAt.isSome ∧ row.reviewerHeadSha.isSome ∧
    row.reviewerHeadSha.getD "" ≠ stamp.reviewerHeadSha.getD ""
  if (row.reviewStatus = .pending ∨ waits) ∧ !row.isMerged then
    some { row.claimed session stamp with
      failedAt := if waits then row.failedAt else none
      failureMessage := if waits then row.failureMessage else none
      quotaResetAtUtc := none
      reviewAttempts := if moved then 0 else row.reviewAttempts }
  else none

def markTokenRefreshRecoveryAttemptStarted (row : ReviewRow) (session : String)
    (stamp : ClaimStamp) (failedAt headSha : Option String) : Option ReviewRow :=
  let holds := row.reviewStatus = .failed ∨ row.reviewStatus = .pendingUpstream ∨
    (row.reviewStatus = .pending ∧ sqlEq row.failedAt failedAt ∧ sqlEq row.reviewerHeadSha headSha)
  let refused := row.messageLike "[token-refresh-pending]%" || row.messageLike
    "%broker claude reviewer token expires too soon for subprocess handoff%"
  if holds ∧ refused ∧ !row.isMerged then
    some { row.claimed session stamp with
      failedAt := none
      failureMessage := none
      quotaResetAtUtc := none }
  else none

def reviewerLeaseRecoveryMaxAttempts : Int := 3

/-- What an automatic recovery has to find in the row it claims. -/
structure InfraRecovery where
  failedAt : Option String
  headSha : Option String
  cap : Int
  cascadeRetryDue : Bool
  failureMessage : Option String

def markInfraAutoRecoveryAttemptStarted (row : ReviewRow) (session : String)
    (stamp : ClaimStamp) (found : InfraRecovery) : Option ReviewRow :=
  if row.reviewerTerminalFailure
        (sqlEq row.failedAt found.failedAt && sqlEq row.reviewerHeadSha found.headSha) ∧
      (row.infraAttempts < found.cap ∨ found.cascadeRetryDue) ∧
      row.failureMessage = found.failureMessage then
    some { row.claimed session stamp with
      failedAt := none
      failureMessage := none
      quotaResetAtUtc := none
      infraAutoRecoverAttempts := some <|
        if row.messageLike "[reviewer-timeout]%" then
          min (row.infraAttempts + 1) reviewerLeaseRecoveryMaxAttempts
        else row.infraAttempts + 1 }
  else none

def markReviewPopulationRetryAttemptStarted (row : ReviewRow) (session : String)
    (stamp : ClaimStamp) (maxAttempts : Int) : Option ReviewRow :=
  let head := stamp.reviewerHeadSha
  let sameHead := row.reviewPopulationRetryHeadSha.getD "" = head.getD ""
  let lost := (row.messageLike "%reviewer session % is no longer alive%" &&
      row.messageLike "%no github review%found%") || row.messageLike "%no github review%found%" ||
    row.messageLike "%generated-but-not-posted%" || row.messageLike "%generated but not posted%"
  if row.reviewerTerminalFailure (sqlEq row.reviewerHeadSha head) ∧
      (¬sameHead ∨ row.reviewPopulationRetryAttempts < maxAttempts) ∧ lost then
    some { row.claimed session stamp with
      failedAt := none
      failureMessage := none
      quotaResetAtUtc := none
      reviewPopulationRetryAttempts := if sameHead then row.reviewPopulationRetryAttempts + 1 else 1
      reviewPopulationRetryLastAt := some stamp.attemptAt
      reviewPopulationRetryHeadSha := head }
  else none

def markUnknownFailureRetryAttemptStarted (row : ReviewRow) (session : String)
    (stamp : ClaimStamp) (maxRetries : Int) : Option ReviewRow :=
  let exited := row.messageLike "%command failed with code %" ||
    row.messageLike "%command exited with code %" || row.messageLike "%non-zero exit code %" ||
    row.messageLike "%non-zero exit %"
  let unknown := row.messageLike "[unknown]%" || !bracketed (row.failureMessage.getD "")
  if row.reviewerTerminalFailure (sqlEq row.reviewerHeadSha stamp.reviewerHeadSha) ∧
      row.reviewAttempts < maxRetries ∧ exited ∧ unknown then
    some { row.claimed session stamp with
      failedAt := none
      failureMessage := none }
  else none

/-- The session whose exit a daemon bounce recovery has confirmed. -/
structure BouncedSession where
  session : Option String
  startedAt : Option String
  failedAt : Option String
  headSha : Option String
  cap : Int

def markDaemonBounceRecoveryAttemptStarted (row : ReviewRow) (session : String)
    (stamp : ClaimStamp) (bounced : BouncedSession) : Option ReviewRow :=
  if row.reviewerTerminalFailure true ∧
      row.reviewerSessionUuid = bounced.session ∧ row.reviewerStartedAt = bounced.startedAt ∧
      row.failedAt = bounced.failedAt ∧ row.reviewerHeadSha = bounced.headSha ∧
      row.messageLike "[daemon-bounce]%" ∧ row.infraAttempts < bounced.cap ∧ !row.isMerged then
    some { row.claimed session stamp with
      failedAt := none
      failureMessage := none
      quotaResetAtUtc := none
      infraAutoRecoverAttempts := some (row.infraAttempts + 1) }
  else none

inductive Claim where
  | pending
  | tokenRefresh (failedAt headSha : Option String)
  | infra (found : InfraRecovery)
  | reviewPopulation (maxAttempts : Int)
  | unknownFailure (maxRetries : Int)
  | daemonBounce (bounced : BouncedSession)

def Claim.apply (claim : Claim) (row : ReviewRow) (session : String) (stamp : ClaimStamp) :
    Option ReviewRow :=
  match claim with
  | .pending => markAttemptStarted row session stamp
  | .tokenRefresh failedAt headSha =>
    markTokenRefreshRecoveryAttemptStarted row session stamp failedAt headSha
  | .infra found => markInfraAutoRecoveryAttemptStarted row session stamp found
  | .reviewPopulation maxAttempts =>
    markReviewPopulationRetryAttemptStarted row session stamp maxAttempts
  | .unknownFailure maxRetries => markUnknownFailureRetryAttemptStarted row session stamp maxRetries
  | .daemonBounce bounced => markDaemonBounceRecoveryAttemptStarted row session stamp bounced

/-- The statements that a settlement runs, each with its parameters. -/
inductive Settlement where
  | releaseReviewerClaim (session : Option String)
  | releaseLegacyStaleReviewerClaim (headSha : String)
  | markPosted (postedAt reviewedHead : String) (session : Option String)
  | releaseUnsettledPostedReview (revisionRef session : Option String)
  | rearmReviewerCredentialOutage (pattern : String)
  | markFailed (failedAt message : String)
  | markSizeFailed (failedAt message : String) (headSha session : Option String)
  | markReviewerCredentialOutage (failedAt message : String)
  | promoteReviewerCredentialOutage (message reviewer : String)
  | markTokenRefreshHold (failedAt message : String)
  | markCascadeFailed (failedAt message : String)
  | markPendingUpstream (failedAt message : String)
  | markOutageTransient (failedAt message : String) (quotaResetAt : Option String)
  | releaseReviewLease (failedAt message : String)

def ReviewRow.failing (row : ReviewRow) (status : ReviewStatus) (failedAt message : String) :
    ReviewRow :=
  { row with
    reviewStatus := status
    failedAt := some failedAt
    failureMessage := some message
    reviewerLeaseExpiresAt := none }

def ReviewRow.unclaimed (row : ReviewRow) : ReviewRow :=
  { row with
    reviewStatus := .pending
    reviewerSessionUuid := none
    reviewerStartedAt := none
    reviewerHeadSha := none
    reviewerTimeoutMs := none
    reviewerLeaseExpiresAt := none
    reviewerPgid := none }

def releaseReviewerClaim (row : ReviewRow) (session : Option String) : Option ReviewRow :=
  if sqlEq row.reviewerSessionUuid session ∧ row.reviewStatus = .reviewing then some row.unclaimed
  else none

def releaseLegacyStaleReviewerClaim (row : ReviewRow) (headSha : String) : Option ReviewRow :=
  if row.reviewStatus = .reviewing ∧ row.reviewerHeadSha = some headSha ∧
      row.reviewerSessionUuid = none then
    some row.unclaimed
  else none

def markPosted (row : ReviewRow) (postedAt reviewedHead : String) (session : Option String) :
    Option ReviewRow :=
  if (row.reviewStatus = .reviewing ∨ row.reviewStatus = .failedOrphan) ∧
      row.reviewerSessionUuid = session ∧ row.reviewerHeadSha = some reviewedHead ∧
      notBlank reviewedHead then
    some { row with
      reviewStatus := .posted
      postedAt := some postedAt
      reviewerHeadSha := some reviewedHead
      failedAt := none
      failureMessage := none
      quotaResetAtUtc := none
      reviewAttempts := row.reviewAttempts + 1
      reviewerLeaseExpiresAt := none
      infraAutoRecoverAttempts := some 0 }
  else none

def releaseUnsettledPostedReview (row : ReviewRow) (revisionRef session : Option String) :
    Option ReviewRow :=
  if (row.reviewStatus = .reviewing ∨ row.reviewStatus = .pending ∨ row.reviewStatus = .failed ∨
        row.reviewStatus = .failedOrphan) ∧
      (row.reviewerSessionUuid = session ∨ row.reviewerSessionUuid = none) then
    some { row.unclaimed with
      postedAt := none
      revisionRef := (row.revisionRef.filter (· ≠ "")).or revisionRef
      failedAt := none
      failureMessage := none
      quotaResetAtUtc := none }
  else none

def rearmReviewerCredentialOutage (row : ReviewRow) (pattern : String) : Option ReviewRow :=
  if row.isOpen ∧ (row.reviewStatus = .pending ∨ row.reviewStatus = .pendingUpstream) ∧
      row.reviewerLeaseExpiresAt = none ∧ row.reviewerSessionUuid = none ∧
      row.messageLike pattern then
    some { row with
      reviewStatus := .pending
      failedAt := none
      failureMessage := none
      quotaResetAtUtc := none
      reviewerLeaseExpiresAt := none
      infraAutoRecoverAttempts := some 0 }
  else none

def markFailed (row : ReviewRow) (failedAt message : String) : Option ReviewRow :=
  some { row.failing .failed failedAt message with
    quotaResetAtUtc := none
    reviewAttempts := row.reviewAttempts + 1 }

def markSizeFailed (row : ReviewRow) (failedAt message : String) (headSha session : Option String) :
    Option ReviewRow :=
  if row.reviewStatus = .reviewing ∧ sqlEq row.reviewerHeadSha headSha ∧
      row.reviewerSessionUuid = session then
    markFailed row failedAt message
  else none

/-- A hold until a credential recovers: the session is released and nothing is charged. -/
def holdUpstream (row : ReviewRow) (failedAt message : String) : Option ReviewRow :=
  if row.reviewStatus = .reviewing then
    some { row.failing .pendingUpstream failedAt message with
      quotaResetAtUtc := none
      reviewerSessionUuid := none
      reviewerPgid := none }
  else none

def markReviewerCredentialOutage (row : ReviewRow) (failedAt message : String) :
    Option ReviewRow :=
  holdUpstream row failedAt message

def markTokenRefreshHold (row : ReviewRow) (failedAt message : String) : Option ReviewRow :=
  holdUpstream row failedAt message

def promoteReviewerCredentialOutage (row : ReviewRow) (message reviewer : String) :
    Option ReviewRow :=
  if row.isOpen ∧ row.reviewStatus = .pendingUpstream ∧ row.reviewerLeaseExpiresAt = none ∧
      row.reviewerSessionUuid = none ∧
      (row.reviewer.getD "").toList.map Char.toLower = reviewer.toList ∧
      row.messageLike "[oauth-broken]%" then
    some { row with
      failureMessage := some message
      reviewerLeaseExpiresAt := none }
  else none

def markCascadeFailed (row : ReviewRow) (failedAt message : String) : Option ReviewRow :=
  some (row.failing .failed failedAt message)

def markPendingUpstream (row : ReviewRow) (failedAt message : String) : Option ReviewRow :=
  some { row.failing .pendingUpstream failedAt message with
    reviewerSessionUuid := none
    reviewerPgid := none
    infraAutoRecoverAttempts := some (row.infraAttempts + 1) }

def markOutageTransient (row : ReviewRow) (failedAt message : String)
    (quotaResetAt : Option String) : Option ReviewRow :=
  if row.reviewStatus = .reviewing then
    some { row.failing .pendingUpstream failedAt message with quotaResetAtUtc := quotaResetAt }
  else none

def releaseReviewLeaseQuota (row : ReviewRow) (failedAt message : String)
    (quotaResetAt : Option String) : Option ReviewRow :=
  if row.reviewStatus = .reviewing then
    some { row.failing .pending failedAt message with
      quotaResetAtUtc := quotaResetAt
      reviewAttempts := row.reviewAttempts + 1 }
  else none

def releaseReviewLease (row : ReviewRow) (failedAt message : String) : Option ReviewRow :=
  releaseReviewLeaseQuota row failedAt message none

def Settlement.apply (settlement : Settlement) (row : ReviewRow) : Option ReviewRow :=
  match settlement with
  | .releaseReviewerClaim session => ReviewState.releaseReviewerClaim row session
  | .releaseLegacyStaleReviewerClaim headSha =>
    ReviewState.releaseLegacyStaleReviewerClaim row headSha
  | .markPosted postedAt reviewedHead session =>
    ReviewState.markPosted row postedAt reviewedHead session
  | .releaseUnsettledPostedReview revisionRef session =>
    ReviewState.releaseUnsettledPostedReview row revisionRef session
  | .rearmReviewerCredentialOutage pattern => ReviewState.rearmReviewerCredentialOutage row pattern
  | .markFailed failedAt message => ReviewState.markFailed row failedAt message
  | .markSizeFailed failedAt message headSha session =>
    ReviewState.markSizeFailed row failedAt message headSha session
  | .markReviewerCredentialOutage failedAt message =>
    ReviewState.markReviewerCredentialOutage row failedAt message
  | .promoteReviewerCredentialOutage message reviewer =>
    ReviewState.promoteReviewerCredentialOutage row message reviewer
  | .markTokenRefreshHold failedAt message => ReviewState.markTokenRefreshHold row failedAt message
  | .markCascadeFailed failedAt message => ReviewState.markCascadeFailed row failedAt message
  | .markPendingUpstream failedAt message => ReviewState.markPendingUpstream row failedAt message
  | .markOutageTransient failedAt message quotaResetAt =>
    ReviewState.markOutageTransient row failedAt message quotaResetAt
  | .releaseReviewLease failedAt message => ReviewState.releaseReviewLease row failedAt message

/-- What else writes the row: releases by whoever reconciles, and the life of its pull request. -/
inductive RowChange where
  | releaseReviewerClaim (session : Option String)
  | releaseReviewLease (failedAt message : String)
  | releaseReviewLeaseQuota (failedAt message : String) (quotaResetAt : Option String)
  | markOrphan (failedAt message : String)
  | autoReclaimFailedOrphan (failedAt message requestedAt reason : String) (cap : Int)
      (session : Option String) (pgid : Option Int) (leaseExpiresAt : Option String)
  | prState (state : String)

def markOrphan (row : ReviewRow) (failedAt message : String) : Option ReviewRow :=
  some { row with
    reviewStatus := .failedOrphan
    failedAt := some failedAt
    failureMessage := some message
    reviewAttempts := row.reviewAttempts + 1 }

def autoReclaimFailedOrphan (row : ReviewRow) (failedAt message requestedAt reason : String)
    (cap : Int) (session : Option String) (pgid : Option Int) (leaseExpiresAt : Option String) :
    Option ReviewRow :=
  if row.prState = some "open" ∧ row.reviewStatus = .failedOrphan ∧ row.infraAttempts < cap ∧
      row.reviewerSessionUuid.getD "" = session.getD "" ∧ row.reviewerPgid = pgid ∧
      row.reviewerLeaseExpiresAt.getD "" = leaseExpiresAt.getD "" then
    some { row.unclaimed with
      reviewAttempts := 0
      lastAttemptedAt := none
      postedAt := none
      failedAt := some failedAt
      failureMessage := some message
      rereviewRequestedAt := some requestedAt
      rereviewReason := some reason
      quotaResetAtUtc := none
      reviewPopulationRetryAttempts := 0
      reviewPopulationRetryLastAt := none
      reviewPopulationRetryHeadSha := none
      infraAutoRecoverAttempts := some (row.infraAttempts + 1) }
  else none

def RowChange.apply (change : RowChange) (row : ReviewRow) : Option ReviewRow :=
  match change with
  | .releaseReviewerClaim session => ReviewState.releaseReviewerClaim row session
  | .releaseReviewLease failedAt message => ReviewState.releaseReviewLease row failedAt message
  | .releaseReviewLeaseQuota failedAt message quotaResetAt =>
    ReviewState.releaseReviewLeaseQuota row failedAt message quotaResetAt
  | .markOrphan failedAt message => ReviewState.markOrphan row failedAt message
  | .autoReclaimFailedOrphan failedAt message requestedAt reason cap session pgid lease =>
    ReviewState.autoReclaimFailedOrphan row failedAt message requestedAt reason cap session pgid
      lease
  | .prState state => some { row with prState := some state }

end AdversarialReview.ReviewState
