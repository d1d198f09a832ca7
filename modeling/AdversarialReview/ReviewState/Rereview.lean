import AdversarialReview.ReviewState.Statements

/-! A request for another review of a head: when it resets the row, and when it arms it again. -/

namespace AdversarialReview.ReviewState

def asciiLower (text : String) : String :=
  String.ofList (text.toList.map Char.toLower)

def isExplicitOperatorRetriggerReason (reason : Option String) : Bool :=
  (asciiLower (jsTrim (reason.getD ""))).startsWith "retrigger-review:"

/-- The identity of a request that leaves a receipt. -/
structure ExplicitReviewRequest where
  requestId : String
  actor : String

/-- One call, with what it reads beside the row. -/
structure RereviewCall where
  requestedAt : String
  reason : Option String := none
  targetRevisionRef : Option String := none
  allowFastMergeSkipped : Bool := false
  expectedFailedHead : Option String := none
  automaticWithheldHeadRecovery : Bool := false
  preserveBudgets : Bool := false
  ownerlessRecovery : Bool := false
  reviewerFamily : Option String := none
  explicitReviewRequest : Option ExplicitReviewRequest := none
  /-- A lease handed this head over to the review. -/
  handoffReview : Bool := false
  /-- A comment-only verdict settled the head. -/
  settledCommentOnlyVerdict : Bool := false
  /-- The head was pushed by a final round whose verdict was comment-only. -/
  commentOnlyFinalRoundPush : Bool := false
  /-- It may have been, and nothing proves that it was not. -/
  unprovenCommentOnlyFinalRoundHead : Bool := false
  /-- The seconds that a pending receipt is kept, zero for the default. -/
  reviewMaxWaitSeconds : Rat := 0

namespace RereviewCall

def normalizedTargetRevisionRef (call : RereviewCall) : Option String :=
  (call.targetRevisionRef.map jsTrim).filter (· ≠ "")

def operatorRequestedRereview (call : RereviewCall) : Bool :=
  isExplicitOperatorRetriggerReason call.reason

def failedHead (call : RereviewCall) : Option String :=
  call.expectedFailedHead.filter (· ≠ "")

def rereviewReason (call : RereviewCall) : String :=
  (call.reason.filter (· ≠ "")).getD "Re-review requested from remediation reply."

def refusedByVerdict (call : RereviewCall) : Option String :=
  let judged := call.normalizedTargetRevisionRef.isSome && !call.operatorRequestedRereview &&
    !call.handoffReview
  if judged && call.settledCommentOnlyVerdict then some "comment-only-verdict-settled"
  else if judged && !call.ownerlessRecovery && call.commentOnlyFinalRoundPush then
    some "comment-only-final-round-completed"
  else if judged && !call.ownerlessRecovery && !call.automaticWithheldHeadRecovery &&
      call.unprovenCommentOnlyFinalRoundHead then
    some "comment-only-final-round-push-unproven"
  else none

end RereviewCall

def malformed : ReviewStatus := .other "malformed"
def argusSecurityQueued : ReviewStatus := .other "argus-security-queued"
def unroutableBotAuthor : ReviewStatus := .other "unroutable-bot-author"

def resetForRereview (row : ReviewRow) (call : RereviewCall) : Option ReviewRow :=
  let open_ := row.prState = some "open" ∨
    (call.allowFastMergeSkipped = true ∧ row.prState = some "fast_merge_skipped")
  let settled := row.reviewStatus ∉ [.reviewing, malformed, unroutableBotAuthor,
    argusSecurityQueued] ∧ (row.reviewStatus = .pending → call.ownerlessRecovery = true)
  let expected := ∀ head ∈ call.failedHead,
    row.reviewStatus = .failed ∧ row.reviewerHeadSha = some head
  if open_ ∧ settled ∧ expected then
    some { row.unclaimed with
      prState := some "open"
      revisionRef := call.normalizedTargetRevisionRef.or row.revisionRef
      reviewer := call.reviewerFamily.or row.reviewer
      reviewAttempts :=
        if call.ownerlessRecovery || (call.failedHead.isSome && !call.preserveBudgets) then 0
        else row.reviewAttempts
      postedAt := none
      failedAt := none
      failureMessage := none
      rereviewRequestedAt := some call.requestedAt
      rereviewReason := some call.rereviewReason
      quotaResetAtUtc := none
      infraAutoRecoverAttempts :=
        if call.preserveBudgets then row.infraAutoRecoverAttempts else some 0
      reviewPopulationRetryAttempts :=
        if call.preserveBudgets then row.reviewPopulationRetryAttempts else 0
      reviewPopulationRetryLastAt :=
        if call.preserveBudgets then row.reviewPopulationRetryLastAt else none
      reviewPopulationRetryHeadSha :=
        if call.preserveBudgets then row.reviewPopulationRetryHeadSha else none }
  else none

def pendingRevisionRefMoved (row : ReviewRow) (call : RereviewCall) : Bool :=
  call.normalizedTargetRevisionRef.any
    (((row.revisionRef.filter (· ≠ "")).or row.reviewerHeadSha).getD "" ≠ ·)

def rearmPending (row : ReviewRow) (call : RereviewCall) : ReviewRow :=
  let moved := pendingRevisionRefMoved row call
  let explicit := call.operatorRequestedRereview || call.explicitReviewRequest.isSome
  if explicit || moved then
    let requested := explicit || call.automaticWithheldHeadRecovery || call.ownerlessRecovery
    { row.unclaimed with
      reviewAttempts := if moved then 0 else row.reviewAttempts
      lastAttemptedAt := if moved then none else row.lastAttemptedAt
      postedAt := none
      failedAt := none
      failureMessage := none
      quotaResetAtUtc := none
      infraAutoRecoverAttempts := some 0
      reviewPopulationRetryAttempts := 0
      reviewPopulationRetryLastAt := none
      reviewPopulationRetryHeadSha := none
      revisionRef := call.normalizedTargetRevisionRef.or row.revisionRef
      rereviewRequestedAt := if requested then some call.requestedAt else none
      rereviewReason := if requested then some call.rereviewReason else none }
  else row

/-- Why a row that was not reset refuses the request; nothing where it is pending. -/
def rereviewBlocked (row : ReviewRow) : Option String :=
  if row.reviewStatus = malformed then some "malformed-title-terminal"
  else if row.reviewStatus = argusSecurityQueued then some "argus-security-queued"
  else if row.reviewStatus = unroutableBotAuthor then some "unroutable-bot-terminal"
  else if row.reviewStatus = .reviewing then some "review-in-flight"
  else if row.prState ≠ some "open" then some "pr-not-open"
  else if row.reviewStatus = .pending then none
  else some "rereview-cas-no-match"

/-- What a request makes of the row. -/
inductive RereviewOutcome where
  | blocked (reason : String)
  | triggered (row : ReviewRow)
  | alreadyPending (row : ReviewRow)

/-- The request on the row, past the checks of its receipt. -/
def rereviewRow (row : Option ReviewRow) (call : RereviewCall) : RereviewOutcome :=
  if row.any (·.reviewStatus = .reviewing) then .blocked "review-in-flight"
  else
    match call.refusedByVerdict with
    | some reason => .blocked reason
    | none =>
      match row with
      | none => .blocked "review-row-missing"
      | some row =>
        match resetForRereview row call with
        | some reset => .triggered reset
        | none =>
          match rereviewBlocked row with
          | some reason => .blocked reason
          | none => .alreadyPending (rearmPending row call)

end AdversarialReview.ReviewState
