import Mathlib.Algebra.Order.Field.Rat
import AdversarialReview.Library.JsText

/-! The evidence of a closure's authority: labels, heads, findings and the hammer's proofs. -/

namespace AdversarialReview.Ama

/-- What a label event tells; an absent text is empty. -/
structure LabelEvidence where
  applied : Bool
  observedRevisionRef : String := ""
  headSha : String := ""
  actor : String := ""
  eventId : String := ""
  eventNodeId : String := ""
  labelEventId : String := ""
  labelEventNodeId : String := ""
  observedAt : String := ""
  createdAt : String := ""

def firstText : List String → String
  | [] => ""
  | text :: rest => if text = "" then firstText rest else text

def normalizeLogin (value : String) : String :=
  (jsTrim value).toLower

def LabelEvidence.scope (evidence : LabelEvidence) : String :=
  firstText [evidence.observedRevisionRef, evidence.headSha]

def hasOverrideProvenance (evidence : LabelEvidence) : Bool :=
  firstText [evidence.eventId, evidence.eventNodeId, evidence.labelEventId,
    evidence.labelEventNodeId] ≠ "" && firstText [evidence.observedAt, evidence.createdAt] ≠ ""

def hasValidOverrideActor (actor : String) : Bool :=
  normalizeLogin actor ≠ "" && normalizeLogin actor ≠ "unknown"

def hasValidScopedOperatorApprovalEvidence (evidence : LabelEvidence) (headSha : String) : Bool :=
  evidence.applied && hasOverrideProvenance evidence && evidence.scope = headSha

def hasValidScopedOverrideEvidence (evidence : LabelEvidence) (headSha : String) : Bool :=
  hasValidOverrideActor evidence.actor &&
    hasValidScopedOperatorApprovalEvidence evidence headSha

structure ReviewCurrency where
  current : Bool
  reviewedHead : String
  currentHead : String
  proof : String := ""

def reviewCurrencyCovers (currency : Option ReviewCurrency) (reviewedHead currentHead : String) :
    Bool :=
  currency.any fun currency =>
    currency.current && currency.reviewedHead = reviewedHead && currency.currentHead = currentHead

def rebaseCurrencyCovers (currency : Option ReviewCurrency) (reviewedHead currentHead : String) :
    Bool :=
  reviewCurrencyCovers currency reviewedHead currentHead &&
    currency.any fun currency =>
      currency.proof ∈ ["exact-head", "closer-rebase-provenance", "reviewed-rebase-patch-id"]

structure RebaseCoverage where
  active : Bool
  reviewedHead : String
  currentHead : String
  evidence : String
  equivalent : Bool
  reviewedCount : Option Nat
  rebasedCount : Option Nat
  dropped : Option (List String)
  added : Option (List String)

def validateRebaseReviewCoverageEvidence (evidence : Option RebaseCoverage)
    (reviewedHead currentHead : String) : Bool :=
  evidence.any fun evidence =>
    evidence.active &&
      (jsTrim evidence.reviewedHead ≠ "" && jsTrim evidence.reviewedHead = jsTrim reviewedHead) &&
      (jsTrim evidence.currentHead ≠ "" && jsTrim evidence.currentHead = jsTrim currentHead) &&
      jsTrim evidence.evidence = "content_equivalent_rebased_head" &&
      evidence.equivalent &&
      (evidence.reviewedCount.any fun count =>
        0 < count && evidence.rebasedCount = some count) &&
      evidence.dropped = some [] && evidence.added = some []

/-- The claim that nothing reviewable lies between two heads. -/
structure HeadDelta where
  active : Bool
  reviewedHead : String
  currentHead : String
  marker : String
  suppressed : Bool
  reason : String
  commitSha : String
  parentSha : String
  changedFiles : Option (List String)

def validateNonReviewableHeadDeltaEvidence (evidence : Option HeadDelta)
    (reviewedHead currentHead : String) : Bool :=
  evidence.any fun evidence =>
    evidence.active &&
      (jsTrim evidence.reviewedHead ≠ "" && jsTrim evidence.reviewedHead = jsTrim reviewedHead) &&
      (jsTrim evidence.currentHead ≠ "" && jsTrim evidence.currentHead = jsTrim currentHead) &&
      jsTrim evidence.marker = "non_reviewable_head_delta" &&
      evidence.suppressed &&
      jsTrim evidence.reason = "closer-commit-trailer" &&
      (jsTrim evidence.commitSha ≠ "" && jsTrim evidence.commitSha = jsTrim currentHead) &&
      (jsTrim evidence.parentSha ≠ "" && jsTrim evidence.parentSha = jsTrim reviewedHead) &&
      evidence.changedFiles = some []

/-- The closer's own commits lie between two heads. -/
structure CloserAuthoredStale where
  eligible : Bool
  reviewedHead : String
  currentHead : String

def closerAuthoredStaleCovers (evidence : Option CloserAuthoredStale)
    (reviewedHead currentHead : String) : Bool :=
  evidence.any fun evidence =>
    evidence.eligible &&
      (reviewedHead ≠ "" && evidence.reviewedHead = reviewedHead) &&
      (currentHead ≠ "" && evidence.currentHead = currentHead)

structure FindingCount where
  known : Bool
  count : Rat

/-- The findings of one severity as a review row has them; a count that is no number is absent. -/
structure FindingField where
  state : String
  count : Option Rat

def classifyFindings (field : FindingField) : FindingCount :=
  if (jsTrim field.state).toLower ≠ "known" then { known := false, count := 0 }
  else
    match field.count with
    | none => { known := false, count := 0 }
    | some count => if count < 0 then { known := false, count := 0 } else { known := true, count }

structure Withdrawal where
  resolution : String
  identity : String
  headSha : String
  findingReviewedHead : String
  evidenceSha256 : String
  replyId : String := ""
  reviewBodySha256 : String := ""
  reviewCurrency : Option ReviewCurrency := none
  evidenceCurrency : Option ReviewCurrency := none

def isHexDigit (char : Char) : Bool :=
  char.isDigit || ('a' ≤ char && char ≤ 'f') || ('A' ≤ char && char ≤ 'F')

def isSha (length : Nat) (text : String) : Bool :=
  text.length = length && text.toList.all isHexDigit

/-- What a withdrawal is checked against. -/
structure AdjudicationInput where
  blockingFindingState : String
  blockingFindingCount : Option Rat
  blockingFindingIdentities : Option (List String)
  reviewedHead : String
  currentHead : String
  reviewCurrency : Option ReviewCurrency := none
  reviewBodySha256 : String := ""

structure HammerAdjudication where
  applicable : Bool
  withdrawnIdentities : List String
  allBlockingWithdrawn : Bool

def HammerAdjudication.withdrawnCount (adjudication : HammerAdjudication) : Nat :=
  adjudication.withdrawnIdentities.length

def withdrawalResolves (input : AdjudicationInput) (identities : List String)
    (entry : Withdrawal) : Bool :=
  (entry.resolution = "withdrawn-by-hammer" ||
      (entry.resolution = "withdrawn-by-remediator" && isSha 64 entry.replyId &&
        entry.reviewBodySha256 = input.reviewBodySha256 && isSha 64 input.reviewBodySha256 &&
        entry.headSha = input.reviewedHead && input.reviewedHead = input.currentHead)) &&
    entry.identity ∈ identities &&
    isSha 64 entry.evidenceSha256 &&
    entry.findingReviewedHead = input.reviewedHead &&
    (entry.headSha = input.currentHead ||
      (reviewCurrencyCovers entry.reviewCurrency input.reviewedHead input.currentHead &&
        reviewCurrencyCovers entry.evidenceCurrency entry.headSha input.currentHead))

def resolveHammerAdjudication (input : AdjudicationInput) (withdrawals : List Withdrawal) :
    HammerAdjudication :=
  match input.blockingFindingIdentities with
  | none => { applicable := false, withdrawnIdentities := [], allBlockingWithdrawn := false }
  | some identities =>
    let applicable : Bool :=
      input.blockingFindingState.toLower = "known" &&
        0 < identities.length &&
        input.blockingFindingCount = some (identities.length : Rat) &&
        identities.dedup.length = identities.length &&
        isSha 40 input.reviewedHead && isSha 40 input.currentHead &&
        (input.reviewCurrency.isNone ||
          reviewCurrencyCovers input.reviewCurrency input.reviewedHead input.currentHead)
    let resolved :=
      if applicable then withdrawals.filter (withdrawalResolves input identities) else []
    let withdrawnIdentities := (resolved.map Withdrawal.identity).dedup
    { applicable
      withdrawnIdentities
      allBlockingWithdrawn :=
        applicable && identities.all fun identity => identity ∈ withdrawnIdentities }

def shaClaimMatches (claimed verified : String) : Bool :=
  let lhs := jsTrim claimed
  let rhs := jsTrim verified
  if lhs = "" ∨ rhs = "" then false
  else lhs = rhs || (7 ≤ lhs.length && lhs.isPrefixOf rhs)

structure AuditComment where
  author : String
  body : String

def hamAuditCommentAuthorLogins : List String :=
  ["hammer-worker", "lacey-hammer-worker", "lacey-hammer-reviewer", "merge-agent-lacey",
    "lacey-merge-agent[bot]", "clio-airlock", "hammer-lacey", "the-hammer-lacey[bot]",
    "the-hammer-lacey"]

def hamAuditCommentAuthorMatches (author : String) : Bool :=
  normalizeLogin author ∈ hamAuditCommentAuthorLogins

def plainLogin (author : String) : String :=
  let lower := author.toLower.toList
  let mark := "[bot]".toList
  if mark.isSuffixOf lower then String.ofList (lower.take (lower.length - mark.length))
  else String.ofList lower

def linesMarked (marker text : String) : List String :=
  ((text.toList.splitOn '\n').map fun line => jsTrim (String.ofList line)).filter fun line =>
    marker.isPrefixOf line

def exactHammerValidation (comment : Option AuditComment) (headSha : String) : Bool :=
  comment.any fun comment =>
    let heads := linesMarked "HAM-Validated-Head:" comment.body
    let terminalHeads := linesMarked "HAM-Terminal-Remediation-Head:" comment.body
    headSha ≠ "" && plainLogin comment.author ≠ "clio-airlock" &&
      hamAuditCommentAuthorMatches comment.author &&
      heads = ["HAM-Validated-Head: " ++ headSha] &&
      (terminalHeads = [] || terminalHeads = ["HAM-Terminal-Remediation-Head: " ++ headSha])

structure HammerRange where
  verified : Bool
  reviewedHead : String
  currentHead : String
  baseSha : String
  commits : Option (List String)

def hammerRangeMatches (range : Option HammerRange) (reviewedHead currentHead : String) : Bool :=
  range.any fun range =>
    range.verified && range.reviewedHead = reviewedHead && range.currentHead = currentHead &&
      range.baseSha ≠ "" && range.commits.isSome

structure AddressedFinding where
  title : String
  addressed : Bool
  blocking : Bool

def addressedNonBlockingTitles (normalizeCoverageTitle : String → String) :
    List AddressedFinding → List String
  | [] => []
  | finding :: rest =>
    if jsTrim finding.title = "" ∨ finding.addressed = false then []
    else
      let others := addressedNonBlockingTitles normalizeCoverageTitle rest
      if finding.blocking then others
      else
        let normalized := normalizeCoverageTitle (jsTrim finding.title)
        if normalized = "" then others else normalized :: others

/-- A hammer's claim of a terminal remediation. -/
structure HamEvidence where
  active : Bool
  commitSha : String
  findings : Option (List AddressedFinding)

structure HamGroundTruth (Primary : Type) where
  commitSha : String := ""
  primaryChange : Option Primary := none
  auditComment : Option AuditComment := none
  range : Option HammerRange := none

end AdversarialReview.Ama
