import AdversarialReview.Library.Ladder
import AdversarialReview.Gate.StatusRecord
import AdversarialReview.Library.Transaction

/-! The gate's decision: the ladder that turns a review, a follow-up job and labels into the status
of a head, and the evidence a green one rests on. -/

namespace AdversarialReview.Gate

inductive ReviewVerdict where
  | requestChanges
  | commentOnly
  | approved
  | unknown
  deriving DecidableEq

def ReviewVerdict.clean (verdict : Option ReviewVerdict) : Bool :=
  verdict = some .commentOnly || verdict = some .approved

/-- The findings of one section of a review. -/
structure Findings where
  known : Bool
  count : Nat

/-- A finding that only an operator's label can waive. -/
structure LabelGate where
  check : String
  label : String
  reason : String

structure LabelFindings where
  gated : List LabelGate
  allGated : Bool

/-- The stored review of a pull request. -/
structure ReviewRow where
  prNumber : Nat
  reviewStatus : Option String := none
  reviewStatusAlias : Option String := none
  reviewerHeadSha : Option String := none
  reviewerHeadShaAlias : Option String := none
  rereviewReason : Option String := none
  rereviewReasonAlias : Option String := none
  reviewBody : Option String := none
  reviewBodyColumn : Option String := none
  reviewText : Option String := none
  failureMessage : Option String := none
  operatorDecisionId : Option String := none

structure FollowUpJob where
  jobId : String
  status : Option String := none
  reviewBody : Option String := none
  revisionRef : Option String := none
  currentRevisionRef : Option String := none
  subjectRevisionRef : Option String := none
  reReviewRequested : Bool := false
  stopCode : Option String := none
  unpublishedCommitSha : Option String := none
  branchBlocked : Bool := false
  operatorOverride : Bool := false

structure OperatorApproval where
  actor : Option String
  headSha : Option String
  labelEventId : Option String
  labelEventNodeId : Option String
  createdAt : Option String

structure ReviewCurrency where
  current : Option Bool
  reviewedHead : Option String
  currentHead : Option String
  proof : Option String

inductive ArgusState where
  | approved
  | blocked
  | needsVerification
  | queued
  | inProgress
  | stalled
  | failed
  | missing
  | malformed
  | superseded
  deriving DecidableEq

/-- What the security review of a head came to. -/
structure ArgusVerdict where
  state : ArgusState
  blocks : Bool
  satisfiesGate : Bool
  summary : String

structure Blockers where
  known : Bool := false
  count : Nat := 0
  identities : Option (List String) := none
  reviewBodySha256 : Option String := none

structure SettledReview where
  verdict : String
  reviewedHeadSha : Option String
  labelFindings : Option LabelFindings
  blockers : Blockers

structure Withdrawal where
  resolution : String
  identity : String
  headSha : String
  findingReviewedHead : String
  evidenceSha256 : Option String
  replyId : Option String := none
  reviewBodySha256 : Option String := none
  reviewCurrency : Option ReviewCurrency := none
  evidenceCurrency : Option ReviewCurrency := none

inductive GateLabel where
  | name (value : String)
  | object (name : Option String)

/-- Everything the gate decides on; an absent head is the empty text. -/
structure GateInput where
  reviewRow : Option ReviewRow := none
  latestJob : Option FollowUpJob := none
  operatorApproval : Option OperatorApproval := none
  labels : List GateLabel := []
  headSha : String := ""
  argusVerdict : Option ArgusVerdict := none
  env : GateEnv := {}
  settledReview : Option SettledReview := none
  hasActiveSamePrRemediation : Bool := false
  hammerWithdrawals : List Withdrawal := []
  reviewCurrency : Option ReviewCurrency := none

inductive GateState where
  | pending
  | success
  | failure
  deriving DecidableEq

structure GateStatus where
  context : String
  state : GateState
  description : String
  reason : String
  operatorDecisionRequired : Bool := false
  operatorLabelGates : List LabelGate := []

/-- The repository's readings of review texts, reasons and failure messages. -/
class ReviewText where
  normalizeEffectiveReviewVerdict : Option String → Option ReviewVerdict
  /-- The verdict a text states, before its findings are counted. -/
  statedVerdict : String → Option ReviewVerdict
  sanitizeReviewPayloadBestEffort : Option String → String
  blockingFindings : String → Findings
  nonBlockingFindings : String → Findings
  blockingFindingIdentitiesFromBody : Option String → Option (List String)
  classifyOperatorGatedFindings : Option String → LabelFindings
  sha256 : String → String
  /-- The head that an automatic refresh asked to have reviewed. -/
  currentHeadNamed : String → Option String
  /-- The live head that a self-repair names. -/
  liveHeadNamed : String → Option String
  reviewerFailureClass : ReviewRow → String
  infraRecoverableFailureClass : ReviewRow → Option String
  /-- Whether a failed row's quota is still exhausted, by the clock. -/
  quotaHold : ReviewRow → Bool

/-- A text, unless it is absent or empty. -/
def filled (value : Option String) : Option String :=
  value.filter fun text => text ≠ ""

def isHex (length : Nat) (text : String) : Bool :=
  text.length = length && text.toList.all fun char =>
    char.isDigit || char.toLower ∈ ['a', 'b', 'c', 'd', 'e', 'f']

def reviewCurrencyCovers (currency : Option ReviewCurrency) (reviewedHead currentHead : String) :
    Bool :=
  currency.any fun currency => currency.current = some true &&
    currency.reviewedHead = some reviewedHead && currency.currentHead = some currentHead

/-- A currency that speaks for a head whose commits were only moved. -/
def rebaseCurrencyCovers (currency : Option ReviewCurrency) (reviewedHead currentHead : String) :
    Bool :=
  reviewCurrencyCovers currency reviewedHead currentHead &&
    (currency.bind ReviewCurrency.proof).any fun proof =>
      proof ∈ ["exact-head", "closer-rebase-provenance", "reviewed-rebase-patch-id"]

def countsFor (blockers : Blockers) (identities : List String) (head currentHead : String)
    (entry : Withdrawal) : Bool :=
  (entry.resolution = "withdrawn-by-hammer" ||
      entry.resolution = "withdrawn-by-remediator" && isHex 64 (entry.replyId.getD "") &&
        entry.reviewBodySha256 = blockers.reviewBodySha256 &&
        isHex 64 (blockers.reviewBodySha256.getD "") && entry.headSha = head &&
        head = currentHead) &&
    identities.contains entry.identity && isHex 64 (entry.evidenceSha256.getD "") &&
    entry.findingReviewedHead = head &&
    (entry.headSha = currentHead || reviewCurrencyCovers entry.reviewCurrency head currentHead &&
      reviewCurrencyCovers entry.evidenceCurrency entry.headSha currentHead)

def allBlockingWithdrawn (blockers : Blockers) (head currentHead : String)
    (withdrawals : List Withdrawal) : Bool :=
  match blockers.identities with
  | none => false
  | some identities =>
    blockers.known && 0 < blockers.count && identities.length = blockers.count &&
      identities.Nodup && isHex 40 head && isHex 40 currentHead &&
      identities.all fun identity => withdrawals.any fun entry =>
        countsFor blockers identities head currentHead entry && entry.identity = identity

def operatorSkipLabels : List String := ["no-merge-hold", "do-not-merge", "merge-agent-skip"]

def argusGateReason : ArgusState → String
  | .approved => "argus-security-approved"
  | .blocked => "argus-security-blocked"
  | .needsVerification => "argus-security-needs-verification"
  | .queued => "argus-security-review-queued"
  | .inProgress => "argus-security-review-in-progress"
  | .stalled => "argus-security-review-stalled"
  | .failed => "argus-security-review-failed"
  | .missing => "argus-security-review-missing"
  | .malformed => "argus-security-review-malformed"
  | .superseded => "argus-security-review-superseded"

/-- A text with each run of white space made one blank. -/
def collapseSpaces : List Char → List Char
  | [] => []
  | char :: rest =>
    if jsSpace char then
      match collapseSpaces rest with
      | ' ' :: after => ' ' :: after
      | after => ' ' :: after
    else char :: collapseSpaces rest

def codeUnits (char : Char) : Nat :=
  if char.toNat < 0x10000 then 1 else 2

def textUnits : List Char → Nat
  | [] => 0
  | char :: rest => codeUnits char + textUnits rest

def takeUnits : Nat → List Char → List Char
  | _, [] => []
  | room, char :: rest =>
    if codeUnits char ≤ room then char :: takeUnits (room - codeUnits char) rest else []

def truncateDescription (description : String) : String :=
  let text := collapseSpaces (jsTrim description).toList
  if textUnits text ≤ 140 then String.ofList text
  else String.ofList ((takeUnits 139 text).reverse.dropWhile jsSpace).reverse ++ "…"

def describeUnsettledVerdict : Option ReviewVerdict → String
  | some .requestChanges => "last verdict: Request-changes"
  | none => "last verdict: missing"
  | some .commentOnly => "last verdict: comment-only"
  | some .approved => "last verdict: approved"
  | some .unknown => "last verdict: unknown"

section

variable [JsText]

def normalizeLabelName : GateLabel → String
  | .name value => JsText.toLowerCase (jsTrim value)
  | .object name => JsText.toLowerCase (jsTrim (name.getD ""))

def hasSkipLabel (labels : List GateLabel) : Bool :=
  labels.any fun label => operatorSkipLabels.contains (normalizeLabelName label)

def hasMinimumOperatorApprovalFields (approval : Option OperatorApproval) (headSha : String) :
    Bool :=
  approval.any fun approval =>
    (filled approval.actor).any (fun actor => JsText.toLowerCase (jsTrim actor) ≠ "unknown") &&
      (filled approval.headSha).isSome && headSha ≠ "" && approval.headSha = some headSha &&
      ((filled approval.labelEventId).isSome || (filled approval.labelEventNodeId).isSome) &&
      (filled approval.createdAt).isSome

def normalizeComparableString (value : Option String) : String :=
  JsText.toLowerCase (jsTrim (value.getD ""))

def reviewRowStatus (row : Option ReviewRow) : String :=
  normalizeComparableString (row.bind fun row => row.reviewStatus.or row.reviewStatusAlias)

def reviewRowReviewerHeadSha (row : ReviewRow) : Option String :=
  row.reviewerHeadSha.or row.reviewerHeadShaAlias

def extractReviewBodyFromRow (row : ReviewRow) : Option String :=
  (row.reviewBody.or row.reviewBodyColumn).or row.reviewText

def normalizeFollowUpJobStatus (status : Option String) : String :=
  let text := normalizeComparableString status
  if text = "in_progress" then "in-progress" else text

def followUpJobRevisionRef (job : FollowUpJob) : Option String :=
  filled (some (jsTrim (((job.revisionRef.or job.currentRevisionRef).or
    job.subjectRevisionRef).getD "")))

def shaMatchesNamedHead (sha namedHead : Option String) : Bool :=
  let full := normalizeComparableString sha
  let named := normalizeComparableString namedHead
  full ≠ "" && named ≠ "" &&
    (full = named || 7 ≤ named.length && named.toList.isPrefixOf full.toList)

def isFleetSelfRepairReason (reason : Option String) : Bool :=
  "fsr-06b:".toList.isPrefixOf (normalizeComparableString reason).toList

def isHeadChangeRereviewReason (reason : Option String) : Bool :=
  "auto-refresh: posted review on stale head".toList.isPrefixOf
      (normalizeComparableString reason).toList ||
    isFleetSelfRepairReason reason

variable [ReviewText]

open ReviewText

def headChangeRereviewTargetHead (reason : Option String) : Option String :=
  if isFleetSelfRepairReason reason then liveHeadNamed (reason.getD "")
  else currentHeadNamed (reason.getD "")

def isCurrentHeadChangeRereview (row : ReviewRow) (headSha : String) : Bool :=
  let reason := row.rereviewReason.or row.rereviewReasonAlias
  let target := headChangeRereviewTargetHead reason
  isHeadChangeRereviewReason reason && shaMatchesNamedHead (some headSha) target &&
    !(reviewRowStatus (some row) = "posted" &&
      shaMatchesNamedHead (reviewRowReviewerHeadSha row) target)

def classifyBlockingFindings (body : Option String) : Findings :=
  blockingFindings (sanitizeReviewPayloadBestEffort body)

def completedHeadChangeRereviewIsSettledClean (job : Option FollowUpJob) (row : ReviewRow)
    (headSha : String) : Bool :=
  job.any fun job => normalizeFollowUpJobStatus job.status = "completed" &&
    job.reReviewRequested && isCurrentHeadChangeRereview row headSha &&
    followUpJobRevisionRef job = some headSha &&
    ReviewVerdict.clean (normalizeEffectiveReviewVerdict job.reviewBody) &&
    (classifyBlockingFindings job.reviewBody).known &&
    (classifyBlockingFindings job.reviewBody).count = 0

def settledCleanText (body : Option String) : Bool :=
  let canonical := sanitizeReviewPayloadBestEffort body
  let blocking := classifyBlockingFindings (some canonical)
  let nonBlocking := nonBlockingFindings (sanitizeReviewPayloadBestEffort (some canonical))
  -- The first three conditions are those of a critical review.
  statedVerdict canonical ≠ some .requestChanges && blocking.known && blocking.count = 0 &&
    ReviewVerdict.clean (normalizeEffectiveReviewVerdict (some canonical)) &&
    nonBlocking.known && nonBlocking.count = 0

def isSettledReviewJob (job : FollowUpJob) : Bool :=
  !job.operatorOverride && settledCleanText job.reviewBody

def classifyBlockersFromBody (body : Option String) : Blockers :=
  if jsTrim (body.getD "") = "" then {}
  else
    { known := (classifyBlockingFindings body).known
      count := (classifyBlockingFindings body).count
      identities := blockingFindingIdentitiesFromBody body
      reviewBodySha256 := some (sha256 (jsTrim (body.getD ""))) }

def hammerAdjudicatedEveryBlocker (body : Option String) (reviewedHead currentHead : String)
    (withdrawals : List Withdrawal) : Bool :=
  !withdrawals.isEmpty && normalizeEffectiveReviewVerdict body = some .requestChanges &&
    allBlockingWithdrawn (classifyBlockersFromBody body) reviewedHead currentHead withdrawals

def primaryReviewerQuotaCappedForRow (row : ReviewRow) : Bool :=
  (row.reviewStatus = some "failed" || row.reviewStatus = some "skipped") &&
    infraRecoverableFailureClass row = some "quota-exhausted" &&
    (row.reviewStatus = some "skipped" || quotaHold row)

def labelFindingsOf (input : GateInput) (row : ReviewRow) : Option LabelFindings :=
  if reviewRowStatus (some row) = "posted" ∧ input.headSha ≠ "" ∧
      reviewRowReviewerHeadSha row = some input.headSha then
    let settled := (input.settledReview.filter fun settled =>
      settled.reviewedHeadSha = some input.headSha).bind SettledReview.labelFindings
    let jobBody := (input.latestJob.filter fun job => job.revisionRef = some input.headSha).bind
      FollowUpJob.reviewBody
    some (settled.getD
      (classifyOperatorGatedFindings ((filled jobBody).or (extractReviewBodyFromRow row))))
  else none

def adjudicatedHead (input : GateInput) (row : ReviewRow) : String :=
  (filled row.reviewerHeadSha).getD input.headSha

def hammerAdjudicated (input : GateInput) (row : ReviewRow) (body : Option String) : Bool :=
  hammerAdjudicatedEveryBlocker body (adjudicatedHead input row) input.headSha
    input.hammerWithdrawals

def primaryRowIsStale (input : GateInput) (row : ReviewRow) : Bool :=
  input.headSha ≠ "" && (filled row.reviewerHeadSha).any fun reviewed => reviewed ≠ input.headSha

structure Ruling where
  state : GateState
  description : String
  reason : String
  operatorDecisionRequired : Bool := false

def hammerRuling : Ruling :=
  { state := .success
    description :=
      "Every blocking finding was withdrawn with exact-head evidence; no re-review is required."
    reason := "hammer-adjudicated" }

def settledRuling : Ruling :=
  { state := .success, description := "Non-blocking adversarial review is settled."
    reason := "review-settled" }

def blockingRuling : Ruling :=
  { state := .failure, description := "Blocking adversarial review is still unsettled."
    reason := "blocking-review" }

def rereviewQueuedRuling : Ruling :=
  { state := .pending, description := "Queued re-review has not posted yet."
    reason := "rereview-queued" }

def remediationInProgressRuling (description : String) : Ruling :=
  { state := .pending, description, reason := "remediation-in-progress" }

/-- What is decided whatever was reviewed: an unproven currency, a skip label, an approval. -/
def operatorRungs (input : GateInput) : List (Rung Ruling) :=
  [match input.reviewCurrency with
    | none => .pass
    | some currency => .when (currency.current = some false)
        { state := .pending
          description := "No merge: missing HAM provenance / patch proof " ++
            currency.reviewedHead.getD "undefined" ++ " -> " ++
            currency.currentHead.getD "undefined"
          reason := "review-currency-unproven" },
    .when (hasSkipLabel input.labels)
      { state := .failure, description := "Explicit operator skip label blocks adversarial gate."
        reason := "operator-skip-label" },
    .when (hasMinimumOperatorApprovalFields input.operatorApproval input.headSha)
      { state := .success, description := "Scoped operator override approves the current head."
        reason := "operator-approved" }]

def argusOwnsReview (input : GateInput) : Bool :=
  reviewRowStatus input.reviewRow = "argus-security-queued"

def argusRungs (input : GateInput) (argus : ArgusVerdict) : List (Rung Ruling) :=
  [.when (argus.blocks && (argusOwnsReview input || argus.state = .blocked))
      { state := .failure, description := argus.summary, reason := argusGateReason argus.state
        operatorDecisionRequired := argus.state ≠ .blocked },
    .when (argusOwnsReview input && !argus.satisfiesGate && argus.state ≠ .missing)
      { state := .pending, description := argus.summary, reason := argusGateReason argus.state }]

def queuedRuling (input : GateInput) (row : ReviewRow) : Ruling :=
  if completedHeadChangeRereviewIsSettledClean input.latestJob row input.headSha then
    { state := .success
      description :=
        "Non-blocking adversarial review is settled; queued head-change revalidation is advisory."
      reason := "review-settled-head-change-rereview" }
  else if input.latestJob.any fun job =>
      normalizeFollowUpJobStatus job.status = "completed" && job.reReviewRequested then
    rereviewQueuedRuling
  else { state := .pending, description := "Adversarial review is queued."
         reason := "review-queued" }

def retryRuling (row : ReviewRow) : Ruling :=
  match reviewerFailureClass row with
  | "reviewer-timeout" =>
    { state := .pending, description := "Adversarial reviewer timed out; retry is pending."
      reason := "reviewer-timeout-retry-pending" }
  | "launchctl-bootstrap" =>
    { state := .pending, description := "Claude reviewer bootstrap failed; retry is pending."
      reason := "reviewer-bootstrap-retry-pending" }
  | "cascade" =>
    { state := .pending
      description := "Adversarial reviewer hit an upstream cascade; retry is pending."
      reason := "reviewer-cascade-retry-pending" }
  | _ =>
    { state := .pending, description := "Adversarial review retry is pending."
      reason := "review-retry-pending" }

def argusOwnedRuling (input : GateInput) : Ruling :=
  match input.argusVerdict with
  | none =>
    { state := .pending, description := "Argus security review is queued for this PR."
      reason := argusGateReason .missing }
  | some argus =>
    { state := if argus.state = .approved then .success else .pending
      description := if argus.state = .missing then "Argus security review is queued for this PR."
        else argus.summary
      reason := argusGateReason argus.state }

def statusRungs (input : GateInput) (row : ReviewRow) : List (Rung Ruling) :=
  let status := reviewRowStatus (some row)
  [.when input.hasActiveSamePrRemediation
      (remediationInProgressRuling "Remediation is in progress for this PR."),
    .when (status = "pending") (queuedRuling input row),
    .when (status = "reviewing")
      { state := .pending, description := "Adversarial review is in progress."
        reason := "review-in-progress" },
    .when (status = "pending-upstream") (retryRuling row),
    .when (status = "ci-blocked")
      { state := .pending
        description :=
          "Re-review is parked until the PR head has green external CI or remediation is requeued."
        reason := "rereview-ci-blocked" },
    .when (status = "fast_merge_skipped")
      { state := .pending, description := "Fast-merge review skip is recorded for this head."
        reason := "fast-merge-skipped" },
    .when (status = "malformed")
      { state := .failure, description := "Adversarial review ledger is malformed."
        reason := "review-malformed" },
    .when (status = "argus-security-queued") (argusOwnedRuling input),
    .when (status = "unroutable-bot-author")
      { state := .failure
        description := "Adversarial review cannot route a bot-authored PR without a worker prefix."
        reason := "review-unroutable-bot-author" }]

def settledAtHead (input : GateInput) : Option SettledReview :=
  input.settledReview.filter fun settled =>
    input.headSha ≠ "" && settled.reviewedHeadSha = some input.headSha

def fallbackRuling (input : GateInput) : Ruling :=
  let awaiting : Ruling :=
    { state := .pending
      description := "Adversarial review (primary quota-capped) is awaiting fallback verdict."
      reason := "awaiting-fallback" }
  match settledAtHead input with
  | none => awaiting
  | some settled =>
    if settled.verdict = "comment-only" ∨ settled.verdict = "approved" then
      { state := .success
        description :=
          "Settled-success via fallback (primary quota-capped, fallback verdict adopted)."
        reason := "settled-success-fallback" }
    else if settled.verdict = "request-changes" then
      if allBlockingWithdrawn settled.blockers input.headSha input.headSha
          input.hammerWithdrawals then hammerRuling
      else blockingRuling
    else awaiting

def failedRuling (row : ReviewRow) : Ruling :=
  let suffix := match filled row.operatorDecisionId with
    | some decision => " — operator decision " ++ decision
    | none => ""
  match reviewerFailureClass row with
  | "reviewer-timeout" =>
    { state := .success
      description := "Adversarial reviewer timed out before posting; operator decides." ++ suffix
      reason := "reviewer-timeout" }
  | "launchctl-bootstrap" =>
    { state := .success
      description := "Claude reviewer bootstrap failed before posting; operator decides." ++ suffix
      reason := "reviewer-launchctl-bootstrap" }
  | "cascade" =>
    { state := .success
      description :=
        "Adversarial reviewer hit an upstream cascade before posting; operator decides." ++ suffix
      reason := "reviewer-cascade" }
  | _ =>
    { state := .success
      description := "Adversarial review failed before posting; operator decides." ++ suffix
      reason := "review-failed" }

def outcomeRungs (input : GateInput) (row : ReviewRow) : List (Rung Ruling) :=
  let status := reviewRowStatus (some row)
  [.when (primaryReviewerQuotaCappedForRow row &&
        (!primaryRowIsStale input row || (settledAtHead input).isSome))
      (fallbackRuling input),
    .when (primaryRowIsStale input row &&
        !rebaseCurrencyCovers input.reviewCurrency (row.reviewerHeadSha.getD "") input.headSha)
      { state := .pending
        description :=
          "Live head has advanced past the reviewed head; re-review of the current head is pending."
        reason := "stale-review-head" },
    .when (status = "failed") (failedRuling row),
    .when (status = "failed-orphan")
      { state := .success
        description := "Adversarial review needs operator verification (orphaned reviewer)."
        reason := "review-failed-orphan" },
    .when (status ≠ "posted")
      { state := .failure
        description := "Unexpected adversarial review state: " ++
          (if status = "" then "missing" else status) ++ "."
        reason := "review-state-unknown" }]

def realStop (job : Option FollowUpJob) : Bool :=
  let status := normalizeFollowUpJobStatus (job.bind FollowUpJob.status)
  (status = "stopped" || status = "failed") &&
    !((job.bind FollowUpJob.stopCode).any fun code =>
      "operator-label-required:".toList.isPrefixOf code.toList)

def waiverRung (input : GateInput) (row : ReviewRow) : Rung Ruling :=
  match labelFindingsOf input row with
  | none => .pass
  | some findings =>
    if findings.allGated && !realStop input.latestJob then
      match findings.gated with
      | [] => .throws
      | gate :: _ => .row
        { state := .failure
          description := "Review requires an operator waiver label and a fresh review."
          reason := gate.reason, operatorDecisionRequired := true }
    else .pass

/-- A posted review without a follow-up job is read from its row. -/
def bodyRuling (input : GateInput) (row : ReviewRow) : Ruling :=
  let body := extractReviewBodyFromRow row
  let verdict := normalizeEffectiveReviewVerdict body
  if jsTrim (body.getD "") ≠ "" ∧ ReviewVerdict.clean verdict = true then settledRuling
  else if jsTrim (body.getD "") ≠ "" ∧ verdict = some .requestChanges then
    if hammerAdjudicated input row body then hammerRuling else blockingRuling
  else
    { state := .pending
      description := "Posted review is waiting for follow-up ledger reconciliation."
      reason := "awaiting-ledger" }

def jobRungs (input : GateInput) (row : ReviewRow) (job : FollowUpJob) : List (Rung Ruling) :=
  let status := normalizeFollowUpJobStatus job.status
  let verdict := normalizeEffectiveReviewVerdict job.reviewBody
  let commit := (filled job.unpublishedCommitSha).getD "unknown"
  let requeued := status = "completed" && job.reReviewRequested
  [.when (job.stopCode = some "committed-unpublished" && input.headSha ≠ "" &&
        commit = input.headSha)
      { state := .pending
        description := "Remediation job " ++ job.jobId ++
          " commit is published; re-review of the current head is pending."
        reason := "remediation-published-awaiting-review" },
    .when (job.stopCode = some "committed-unpublished")
      { state := .failure
        description := "Remediation job " ++ job.jobId ++ " committed " ++ commit ++
          " locally; publication is pending."
        reason := "remediation-committed-unpublished" },
    .when (status = "pending" && isSettledReviewJob job) settledRuling,
    .when (status = "pending" && job.branchBlocked)
      { state := .pending
        description :=
          "Remediation is blocked while resolving the PR head branch; resolution will retry."
        reason := "branch-unresolved" },
    .when (status = "pending")
      { state := .pending
        description := "Remediation is queued."
        reason := "remediation-queued" },
    .when (status = "in-progress") (remediationInProgressRuling "Remediation is in progress."),
    .when (ReviewVerdict.clean verdict) settledRuling,
    .when (verdict = some .requestChanges && !requeued &&
        hammerAdjudicated input row job.reviewBody) hammerRuling,
    .when (status = "failed")
      { state := .success
        description := "Remediation FAILED with findings unresolved (" ++
          describeUnsettledVerdict verdict ++
          ") — NOT a clean review; operator decision required (see review thread)."
        reason := "remediation-failed", operatorDecisionRequired := true },
    .when (status = "stopped")
      { state := .success
        description := "Remediation STOPPED with findings unresolved (" ++
          describeUnsettledVerdict verdict ++
          ") — NOT a clean review; operator decision required (see review thread)."
        reason := "remediation-stopped", operatorDecisionRequired := true },
    .when requeued rereviewQueuedRuling,
    .when (verdict = some .requestChanges) blockingRuling,
    .when (verdict = none)
      { state := .failure, description := "Posted review is missing a verdict in the ledger."
        reason := "missing-verdict" },
    .row { state := .failure, description := "Posted review verdict is malformed."
           reason := "unknown-verdict" }]

def rowRung (input : GateInput) (row : ReviewRow) : Rung Ruling :=
  .climb (statusRungs input row ++ outcomeRungs input row ++ [waiverRung input row,
    match input.latestJob with
    | none => .row (bodyRuling input row)
    | some job => .climb (jobRungs input row job)])

/-- The whole ladder. -/
def gateRungs (input : GateInput) : List (Rung Ruling) :=
  operatorRungs input ++ (input.argusVerdict.map (argusRungs input)).getD [] ++
    [match input.reviewRow with
      | none => .row { state := .pending, description := "Adversarial review has not posted yet."
                       reason := "review-not-posted" }
      | some row => rowRung input row]

def operatorLabelGates (input : GateInput) : List LabelGate :=
  -- The rungs below the row's are decided before the waivers are read.
  if (operatorRungs input ++ (input.argusVerdict.map (argusRungs input)).getD []).all fun rung =>
      match rung with
      | .pass => true
      | _ => false
  then ((input.reviewRow.bind (labelFindingsOf input)).map LabelFindings.gated).getD []
  else []

def pickAdversarialGateStatus (input : GateInput) : Except String GateStatus := do
  let context ← resolveGateStatusContext input.env
  match Rung.climb (gateRungs input) with
  | .row ruling =>
    .ok { context, state := ruling.state, description := truncateDescription ruling.description
          reason := ruling.reason, operatorDecisionRequired := ruling.operatorDecisionRequired
          operatorLabelGates := operatorLabelGates input }
  | _ => .error "Cannot read properties of undefined (reading 'reason')"

end

open Rung ReviewText

def SpeaksFor (input : GateInput) (reviewed : Option String) : Prop :=
  reviewed = some input.headSha ∨
    ∃ head, reviewed = some head ∧
      rebaseCurrencyCovers input.reviewCurrency head input.headSha = true

/-- A finished security review blocks the head. -/
def ArgusBlocks (input : GateInput) : Prop :=
  ∃ argus, input.argusVerdict = some argus ∧ argus.blocks = true ∧ argus.state = .blocked

section

variable [JsText] [ReviewText]

def TextSettles (input : GateInput) (row : ReviewRow) (body : Option String) : Prop :=
  ReviewVerdict.clean (normalizeEffectiveReviewVerdict body) = true ∨
    hammerAdjudicated input row body = true

inductive GreenEvidence (input : GateInput) : Prop where
  | approval
      (approved : hasMinimumOperatorApprovalFields input.operatorApproval input.headSha = true)
  | argus (row : ReviewRow) (argus : ArgusVerdict) (stored : input.reviewRow = some row)
      (owned : reviewRowStatus (some row) = "argus-security-queued")
      (given : input.argusVerdict = some argus) (approved : argus.state = .approved)
  | reviewerFailed (row : ReviewRow) (stored : input.reviewRow = some row)
      (status : reviewRowStatus (some row) = "failed" ∨
        reviewRowStatus (some row) = "failed-orphan")
      (speaks : SpeaksFor input row.reviewerHeadSha)
  | fallback (settled : SettledReview) (given : input.settledReview = some settled)
      (head : settled.reviewedHeadSha = some input.headSha)
      (settles : settled.verdict = "comment-only" ∨ settled.verdict = "approved" ∨
        allBlockingWithdrawn settled.blockers input.headSha input.headSha
          input.hammerWithdrawals = true)
  | rereview (job : FollowUpJob) (given : input.latestJob = some job)
      (head : followUpJobRevisionRef job = some input.headSha)
      (clean : ReviewVerdict.clean (normalizeEffectiveReviewVerdict job.reviewBody) = true)
  | rowText (row : ReviewRow) (stored : input.reviewRow = some row)
      (speaks : SpeaksFor input row.reviewerHeadSha)
      (settles : TextSettles input row (extractReviewBodyFromRow row))
  | jobText (row : ReviewRow) (job : FollowUpJob) (stored : input.reviewRow = some row)
      (speaks : SpeaksFor input row.reviewerHeadSha) (given : input.latestJob = some job)
      (settles : TextSettles input row job.reviewBody ∨ ReviewVerdict.clean
        (normalizeEffectiveReviewVerdict
          (some (sanitizeReviewPayloadBestEffort job.reviewBody))) = true)

def Grounded (input : GateInput) (ruling : Ruling) : Prop :=
  ruling.state = .success → ruling.operatorDecisionRequired = false → GreenEvidence input

variable {input : GateInput} {row : ReviewRow}

omit [JsText] in
theorem retryRuling_pending (row : ReviewRow) : (retryRuling row).state = .pending := by
  unfold retryRuling
  split <;> rfl

theorem queuedRuling_grounded : Grounded input (queuedRuling input row) := by
  intro green _
  unfold queuedRuling at green
  split at green
  · next settled =>
    obtain ⟨job, given, holds⟩ := (Option.any_eq_true _ _).mp settled
    simp only [Bool.and_eq_true, decide_eq_true_eq] at holds
    exact .rereview job given holds.1.1.1.2 holds.1.1.2
  · split at green <;> cases green

theorem argusOwnedRuling_grounded (stored : input.reviewRow = some row)
    (owned : reviewRowStatus (some row) = "argus-security-queued") :
    Grounded input (argusOwnedRuling input) := by
  intro green _
  unfold argusOwnedRuling at green
  split at green
  · cases green
  · next argus given =>
    by_cases approved : argus.state = .approved
    · exact .argus row argus stored owned given approved
    · simp [approved] at green

theorem statusRungs_grounded (stored : input.reviewRow = some row) :
    ∀ rung ∈ statusRungs input row, Only (Grounded input) rung := by
  simp only [statusRungs, List.forall_mem_cons, only_when, decide_eq_true_eq]
  refine ⟨?_, ?_, ?_, ?_, ?_, ?_, ?_, ?_, ?_, by simp⟩
  · rintro _ ⟨⟩
  · exact fun _ => queuedRuling_grounded
  · rintro _ ⟨⟩
  · intro _ green
    rw [retryRuling_pending] at green
    cases green
  · rintro _ ⟨⟩
  · rintro _ ⟨⟩
  · rintro _ ⟨⟩
  · exact fun owned => argusOwnedRuling_grounded stored owned
  · rintro _ ⟨⟩

omit [JsText] [ReviewText] in
theorem settledAtHead_given {settled : SettledReview} (found : settledAtHead input = some settled) :
    input.settledReview = some settled ∧ settled.reviewedHeadSha = some input.headSha := by
  unfold settledAtHead at found
  obtain ⟨given, holds⟩ := Option.filter_eq_some_iff.mp found
  simp only [Bool.and_eq_true, decide_eq_true_eq] at holds
  exact ⟨given, holds.2⟩

theorem fallbackRuling_grounded : Grounded input (fallbackRuling input) := by
  intro green _
  unfold fallbackRuling at green
  split at green
  · cases green
  · next settled found =>
    obtain ⟨given, head⟩ := settledAtHead_given found
    split at green
    · next clean =>
      refine .fallback settled given head ?_
      rcases clean with comment | approved
      · exact .inl comment
      · exact .inr (.inl approved)
    · split at green
      · split at green
        · next withdrawn => exact .fallback settled given head (.inr (.inr withdrawn))
        · cases green
      · cases green

omit [JsText] [ReviewText] in
theorem speaks_of_fresh (reviewed : (filled row.reviewerHeadSha).isSome = true)
    (head : input.headSha ≠ "")
    (fresh : (primaryRowIsStale input row && !rebaseCurrencyCovers input.reviewCurrency
      (row.reviewerHeadSha.getD "") input.headSha) = false) :
    SpeaksFor input row.reviewerHeadSha := by
  obtain ⟨sha, given⟩ := Option.isSome_iff_exists.mp reviewed
  have stated : row.reviewerHeadSha = some sha := (Option.filter_eq_some_iff.mp given).1
  by_cases same : sha = input.headSha
  · exact .inl (by rw [stated, same])
  · have stale : primaryRowIsStale input row = true := by
      simp [primaryRowIsStale, given, head, same]
    simp only [stale, Bool.true_and, Bool.not_eq_false', stated, Option.getD_some] at fresh
    exact .inr ⟨sha, stated, fresh⟩

theorem bodyRuling_grounded (stored : input.reviewRow = some row)
    (speaks : SpeaksFor input row.reviewerHeadSha) : Grounded input (bodyRuling input row) := by
  intro green _
  simp only [bodyRuling] at green
  split at green
  · next clean => exact .rowText row stored speaks (.inl clean.2)
  · split at green
    · split at green
      · next withdrawn => exact .rowText row stored speaks (.inr withdrawn)
      · cases green
    · cases green

theorem jobRungs_grounded {job : FollowUpJob} (stored : input.reviewRow = some row)
    (speaks : SpeaksFor input row.reviewerHeadSha) (given : input.latestJob = some job) :
    ∀ rung ∈ jobRungs input row job, Only (Grounded input) rung := by
  simp only [jobRungs, List.forall_mem_cons, only_when, Bool.and_eq_true]
  refine ⟨?_, ?_, ?_, ?_, ?_, ?_, ?_, ?_, ?_, ?_, ?_, ?_, ?_, ?_, by simp⟩
  · rintro _ ⟨⟩
  · rintro _ ⟨⟩
  · -- A queued job is green on the verdict of its canonical text.
    rintro ⟨-, settled⟩ _ _
    simp only [isSettledReviewJob, settledCleanText, Bool.and_eq_true] at settled
    exact .jobText row job stored speaks given (.inr settled.2.1.1.2)
  · rintro _ ⟨⟩
  · rintro _ ⟨⟩
  · rintro _ ⟨⟩
  · exact fun clean _ _ => .jobText row job stored speaks given (.inl (.inl clean))
  · exact fun withdrawn _ _ => .jobText row job stored speaks given (.inl (.inr withdrawn.2))
  · rintro _ _ ⟨⟩
  · rintro _ _ ⟨⟩
  · rintro _ ⟨⟩
  · rintro _ ⟨⟩
  · rintro _ ⟨⟩
  · rintro _ ⟨⟩ ⟨⟩

theorem waiverRung_grounded : Only (Grounded input) (waiverRung input row) := by
  intro ruling decides green
  unfold waiverRung at decides
  split at decides
  · cases decides
  · split at decides
    · split at decides
      · cases decides
      · cases decides
        cases green
    · cases decides

theorem rowRung_grounded (stored : input.reviewRow = some row) (head : input.headSha ≠ "")
    (reviewed : (filled row.reviewerHeadSha).isSome = true) :
    Only (Grounded input) (rowRung input row) := by
  intro ruling climbed green settled
  unfold rowRung at climbed
  rw [List.append_assoc] at climbed
  rcases climb_append climbed with early | ⟨-, climbed⟩
  · exact only_climb (statusRungs_grounded stored) ruling early green settled
  simp only [outcomeRungs, List.cons_append, List.nil_append] at climbed
  rcases climb_cases climbed with capped | ⟨-, climbed⟩
  · obtain ⟨-, rfl⟩ := when_eq_row capped
    exact fallbackRuling_grounded green settled
  rcases climb_cases climbed with stale | ⟨fresh, climbed⟩
  · obtain ⟨-, rfl⟩ := when_eq_row stale
    cases green
  -- From here on the row's review speaks for the head.
  have speaks : SpeaksFor input row.reviewerHeadSha :=
    speaks_of_fresh reviewed head (when_eq_pass.1 fresh)
  rcases climb_cases climbed with failed | ⟨-, climbed⟩
  · obtain ⟨status, -⟩ := when_eq_row failed
    exact .reviewerFailed row stored (.inl (of_decide_eq_true status)) speaks
  rcases climb_cases climbed with orphan | ⟨-, climbed⟩
  · obtain ⟨status, -⟩ := when_eq_row orphan
    exact .reviewerFailed row stored (.inr (of_decide_eq_true status)) speaks
  rcases climb_cases climbed with unexpected | ⟨-, climbed⟩
  · obtain ⟨-, rfl⟩ := when_eq_row unexpected
    cases green
  rcases climb_cases climbed with waiver | ⟨-, climbed⟩
  · exact waiverRung_grounded ruling waiver green settled
  rcases climb_cases climbed with text | ⟨-, climbed⟩
  · split at text
    · cases text
      exact bodyRuling_grounded stored speaks green settled
    · next job given =>
      exact only_climb (jobRungs_grounded stored speaks given) ruling text green settled
  · cases climbed

theorem ruling_of_picked {status : GateStatus}
    (picked : pickAdversarialGateStatus input = .ok status) :
    ∃ ruling, climb (gateRungs input) = .row ruling ∧ status.state = ruling.state ∧
      status.operatorDecisionRequired = ruling.operatorDecisionRequired := by
  obtain ⟨context, -, picked⟩ := Transaction.ok_of_bind picked
  split at picked
  · next ruling climbed =>
    cases picked
    exact ⟨ruling, climbed, rfl, rfl⟩
  · cases picked

omit [ReviewText] in
/-- A ruling that is green passed the currency and the labels, and rests on an approval or on what
is decided above it. -/
theorem operatorRungs_green {ruling : Ruling} {rest : List (Rung Ruling)}
    (climbed : climb (operatorRungs input ++ rest) = .row ruling)
    (green : ruling.state = .success) :
    hasSkipLabel input.labels = false ∧
      input.reviewCurrency.bind ReviewCurrency.current ≠ some false ∧
      (hasMinimumOperatorApprovalFields input.operatorApproval input.headSha = true ∨
        climb rest = .row ruling) := by
  simp only [operatorRungs, List.cons_append, List.nil_append] at climbed
  have proven : input.reviewCurrency.bind ReviewCurrency.current ≠ some false := by
    intro unproven
    obtain ⟨currency, given, current⟩ := Option.bind_eq_some_iff.mp unproven
    simp only [given, current, when, decide_true, if_true, climb_row] at climbed
    cases climbed
    cases green
  rcases climb_cases climbed with unproven | ⟨-, climbed⟩
  · split at unproven
    · cases unproven
    · obtain ⟨-, rfl⟩ := when_eq_row unproven
      cases green
  rcases climb_cases climbed with skipped | ⟨unlabelled, climbed⟩
  · obtain ⟨-, rfl⟩ := when_eq_row skipped
    cases green
  refine ⟨when_eq_pass.1 unlabelled, proven, ?_⟩
  rcases climb_cases climbed with approved | ⟨-, climbed⟩
  · exact .inl (when_eq_row approved).1
  · exact .inr climbed

omit [ReviewText] in
theorem argusRungs_green {ruling : Ruling} {rest : List (Rung Ruling)}
    (climbed : climb ((input.argusVerdict.map (argusRungs input)).getD [] ++ rest) = .row ruling)
    (green : ruling.state = .success) : ¬ArgusBlocks input ∧ climb rest = .row ruling := by
  cases given : input.argusVerdict with
  | none =>
    rw [given] at climbed
    refine ⟨?_, climbed⟩
    rintro ⟨argus, present, -⟩
    rw [given] at present
    cases present
  | some argus =>
    simp only [given, Option.map_some, Option.getD_some, argusRungs, List.cons_append,
      List.nil_append] at climbed
    rcases climb_cases climbed with blocked | ⟨passed, climbed⟩
    · obtain ⟨-, rfl⟩ := when_eq_row blocked
      cases green
    rcases climb_cases climbed with waiting | ⟨-, climbed⟩
    · obtain ⟨-, rfl⟩ := when_eq_row waiting
      cases green
    refine ⟨?_, climbed⟩
    rintro ⟨other, present, blocks, finished⟩
    rw [given] at present
    cases present
    have unblocked := when_eq_pass.1 passed
    simp [blocks, finished] at unblocked

end

/-- A review without a finding. -/
def cleanBody : String :=
  "## Summary\nFine.\n\n## Blocking issues\n- None.\n\n## Verdict\nComment only"

@[reducible] def cleanReadings : ReviewText where
  normalizeEffectiveReviewVerdict body := if body = some cleanBody then some .commentOnly else none
  statedVerdict body := if body = cleanBody then some .commentOnly else none
  sanitizeReviewPayloadBestEffort body := body.getD ""
  blockingFindings body := { known := body = cleanBody, count := 0 }
  nonBlockingFindings _ := { known := false, count := 0 }
  blockingFindingIdentitiesFromBody body := if body = some cleanBody then some [] else none
  classifyOperatorGatedFindings _ := { gated := [], allGated := false }
  sha256 _ := ""
  currentHeadNamed _ := none
  liveHeadNamed _ := none
  reviewerFailureClass _ := "unknown"
  infraRecoverableFailureClass _ := none
  quotaHold _ := false

def gatedHead : String := "aaaaaaaaaaaaaaaaaaaaaaaaaaaaaaaaaaaaaaaa"

def postedReview : GateInput :=
  { headSha := gatedHead
    reviewRow := some { prNumber := 7, reviewStatus := some "posted"
                        reviewerHeadSha := some gatedHead, reviewBodyColumn := some cleanBody } }

def approvedOverArgus : GateInput :=
  { headSha := gatedHead
    operatorApproval := some { actor := some "operator", headSha := some gatedHead
                               labelEventId := some "41", labelEventNodeId := none
                               createdAt := some "2026-07-17T12:00:00.000Z" }
    argusVerdict := some { state := .blocked, blocks := true, satisfiesGate := false
                           summary := "Argus found a high severity install script." } }

end AdversarialReview.Gate
