import AdversarialReview.Library.JsPattern

/-! The fast-merge lane on one pull request: it merges what was authorized, and writes rows that wait
for it, except after a refusal. -/

namespace AdversarialReview.FastMerge

variable [JsText]

/-- A pull request, as `normalizePrView` leaves it; each label by its name. -/
structure PrView where
  state : String
  mergedAt : Option String := none
  closedAt : Option String := none
  headRefOid : Option String := none
  labels : List String := []
  title : String := ""
  body : String := ""
  deriving DecidableEq

def PrView.head (view : PrView) : String := view.headRefOid.getD ""

def PrView.isMerged (view : PrView) : Bool := view.state = "MERGED" || view.mergedAt.isSome

def fastMergeVetoLabel : String := "fast-merge-veto"

def fastMergeLabelPrefix : String := "fast-merge:"

def duplicateFamilyHoldLabel : String := "duplicate-family-hold"

def normalizeLabelNames (labels : List String) : List String :=
  (labels.map fun label => JsText.toLowerCase (jsTrim label)).filter (· ≠ "")

def hasFastMergeVeto (labels : List String) : Bool :=
  fastMergeVetoLabel ∈ normalizeLabelNames labels

def labelsContainDuplicateFamilyHold (labels : List String) : Bool :=
  labels.any fun label => JsText.toLowerCase (jsTrim label) = duplicateFamilyHoldLabel

def hasFastMergeAuthorizationLabel (labels : List String) : Bool :=
  (normalizeLabelNames labels).any fun label =>
    fastMergeLabelPrefix.toList.isPrefixOf label.toList && label ≠ fastMergeVetoLabel

/-- A check as it is listed, with the three fields that say how it stands. -/
structure FastMergeCheck where
  name : String := ""
  conclusion : Option String := none
  state : Option String := none
  bucket : Option String := none
  deriving DecidableEq

def failureConclusions : List String := ["failure", "cancelled", "timed_out", "fail", "cancel"]

def pendingStates : List String :=
  ["", "pending", "in_progress", "queued", "waiting", "requested", "expected"]

def successConclusions : List String := ["success", "neutral", "skipped", "pass", "skipping"]

def normalizedField (value : Option String) : Option String :=
  value.map fun text => JsText.toLowerCase (jsTrim text)

def FastMergeCheck.normalized (check : FastMergeCheck) : FastMergeCheck :=
  { check with
    conclusion := normalizedField check.conclusion
    state := normalizedField check.state
    bucket := normalizedField check.bucket }

def FastMergeCheck.has (check : FastMergeCheck) (values : List String) : Bool :=
  check.conclusion.any (· ∈ values) || check.state.any (· ∈ values) ||
    check.bucket.any (· ∈ values)

def FastMergeCheck.isPending (check : FastMergeCheck) : Bool :=
  (check.conclusion.isNone &&
    (check.state.isNone || check.state.any (· ∈ pendingStates) ||
      check.bucket.any (· ∈ pendingStates) ||
      (!check.state.any (· ∈ successConclusions) && !check.bucket.any (· ∈ successConclusions)))) ||
  check.has pendingStates

def FastMergeCheck.isUnexpected (check : FastMergeCheck) : Bool :=
  check.conclusion.any fun conclusion => conclusion ≠ "" && conclusion ∉ successConclusions

inductive ChecksStatus where
  | success
  | pending
  | failed
  deriving DecidableEq

def summarizeFastMergeChecks (checks : List FastMergeCheck) : ChecksStatus :=
  let normalized := checks.map FastMergeCheck.normalized
  if normalized.any (·.has failureConclusions) then .failed
  else if normalized.any FastMergeCheck.isPending then .pending
  else if normalized.any FastMergeCheck.isUnexpected then .failed
  else .success

def foldsTo (wanted char : Char) : Bool :=
  char.toLower = wanted.toLower || (wanted.toLower = 's' && char = Char.ofNat 0x17f)

def predecessorTrailer : JsPattern :=
  .seq ([.many jsSpace] ++
    ("Protects-Against-Unsafe-Merge-Until-PR".toList.map fun char => .one (foldsTo char)) ++
    [.many jsSpace, .text ":"])

def predecessorGap : JsPattern := .seq [.many jsSpace, .optional (.text "#")]

def predecessorNumber : JsPattern :=
  .seq [.one fun char => char.isDigit && char ≠ '0', .many Char.isDigit, .many jsSpace]

def textLines : List Char → List (List Char)
  | [] => [[]]
  | '\n' :: rest => [] :: textLines rest
  | '\r' :: '\n' :: rest => [] :: textLines rest
  | char :: rest =>
    match textLines rest with
    | [] => [[char]]
    | line :: lines => (char :: line) :: lines

def malformedPredecessorLine (line : List Char) : Bool :=
  let at_ : JsCursor := { before := none, rest := line }
  !(predecessorTrailer at_).isEmpty &&
    ((JsPattern.seq [predecessorTrailer, predecessorGap, predecessorNumber]) at_).all
      fun ending => !ending.rest.isEmpty

def findMalformedProtectivePredecessorLines (body : String) : List (List Char) :=
  (textLines body.toList).filter malformedPredecessorLine

def declarationAt (place : JsCursor) : Option (Nat × JsCursor) :=
  if place.before.all (fun char => !JsPattern.inLine char) then
    ((JsPattern.seq [predecessorTrailer, predecessorGap]) place).findSome? fun number =>
      ((predecessorNumber number).find? fun ending =>
        (ending.rest.head?).all fun char => !JsPattern.inLine char).map fun ending =>
          ((number.rest.takeWhile Char.isDigit).foldl
            (fun value digit => 10 * value + (digit.toNat - '0'.toNat)) 0, ending)
  else none

def declaredNumbers (body : String) : List Nat :=
  ((JsPattern.places none body.toList).foldl (fun (found : List Nat × Nat) place =>
    if found.2 < place.rest.length then found
    else
      match declarationAt place with
      | some (number, ending) => (found.1 ++ [number], ending.rest.length)
      | none => found) ([], body.toList.length)).1

def protectorPrNumbers (body : String) : List Nat :=
  ((declaredNumbers body).filter (· ≤ 9007199254740991)).foldl
    (fun found number => if number ∈ found then found else found ++ [number]) []

/-- A commit, as `normalizeVerifiedHamCommit` leaves it. -/
structure HamCommit where
  sha : String
  parentSha : String
  trailers : List (String × String) := []
  changedFiles : List String := []

structure TimelineComment where
  author : String
  body : String

structure HamAuditRead where
  hqRoot : Bool
  regularFile : Bool
  owner : Bool
  notWorldWritable : Bool
  schemaVersion : Bool
  repo : Bool
  prNumber : Bool
  headSha : String
  status : String
  leaseDispatched : Bool
  preMergeEligible : Bool
  hamMarker : Bool

def isHamWorkerTicket (value : String) : Bool :=
  let ticket := (jsTrim value).toList.map Char.toLower
  let number := ticket.drop "ama-pr-".length
  ticket = "ham".toList ||
    ("ama-pr-".toList.isPrefixOf ticket && !number.isEmpty && number.all Char.isDigit)

def leadingNumber (text : List Char) : Option (Nat × List Char) :=
  let digits := text.takeWhile Char.isDigit
  if digits.isEmpty then none
  else some (digits.foldl (fun value digit => 10 * value + (digit.toNat - '0'.toNat)) 0,
    text.dropWhile Char.isDigit)

def leadingWord (word : String) (text : List Char) : Option (List Char) :=
  if word.toList.isPrefixOf (text.map Char.toLower) then some (text.drop word.length) else none

def leadingSpace (text : List Char) : Option (List Char) :=
  if text.head?.any jsSpace then some (text.dropWhile jsSpace) else none

def parseRemediatedFindingsTrailer (value : String) : Option (Nat × Nat × Nat) := do
  let (total, text) ← leadingNumber (value.toList.dropWhile jsSpace)
  let text ← leadingWord "addressed" (← leadingSpace text)
  let (blocking, text) ← leadingNumber (← leadingWord "(" (← leadingSpace text))
  let text ← leadingWord "blocking," (← leadingSpace text)
  let (nonBlocking, text) ← leadingNumber (← leadingSpace text)
  let text ← leadingWord "non-blocking)" (← leadingSpace text)
  if text.all jsSpace ∧ total = blocking + nonBlocking then some (total, blocking, nonBlocking)
  else none

def hamAuditCommentAuthorLogins : List String :=
  ["hammer-worker", "lacey-hammer-worker", "lacey-hammer-reviewer", "merge-agent-lacey",
    "lacey-merge-agent[bot]", "clio-airlock", "hammer-lacey", "the-hammer-lacey[bot]",
    "the-hammer-lacey"]

def hamClosedBy : String := "hammer (adversarial-pipe-mode)"

def HamCommit.trailer (commit : HamCommit) (key : String) : String :=
  (commit.trailers.lookup key).getD ""

def hasText (text wanted : List Char) : Bool := text.tails.any wanted.isPrefixOf

def hasMatchingHamAuditComment (timeline : List TimelineComment) (commit : HamCommit) : Bool :=
  let remediated := (jsTrim (commit.trailer "remediated-findings")).toList
  timeline.any fun comment =>
    JsText.toLowerCase (jsTrim comment.author) ∈ hamAuditCommentAuthorLogins &&
      hasText comment.body.toList ("Closed-By: " ++ hamClosedBy).toList &&
      (remediated.isEmpty || hasText comment.body.toList remediated)

def verifyFastMergeHamAuditRecord (audit : HamAuditRead) (liveHead : String) : Bool :=
  audit.hqRoot && audit.regularFile && audit.owner && audit.notWorldWritable &&
    audit.schemaVersion && audit.repo && audit.prNumber && jsTrim audit.headSha = liveHead &&
    (audit.status = "succeeded" || (audit.status = "in_progress" && audit.leaseDispatched)) &&
    audit.preMergeEligible && audit.hamMarker

def HamCommit.remediates (commit : HamCommit) (reviewedHead liveHead : String) : Bool :=
  commit.trailer "worker-class" = "hammer" && isHamWorkerTicket (commit.trailer "worker-ticket") &&
    jsTrim (commit.trailer "reviewed-head") = reviewedHead &&
    commit.trailer "closed-by" = hamClosedBy && commit.sha = liveHead &&
    commit.parentSha = reviewedHead && !commit.changedFiles.isEmpty &&
    (parseRemediatedFindingsTrailer (commit.trailer "remediated-findings")).isSome

section

/-- The row of the pull request in `reviewed_prs`, as far as this lane writes it. -/
structure FastMergeRow where
  prState : String
  reviewStatus : String
  deriving DecidableEq

def fastMergeSkippedState : String := "fast_merge_skipped"

def fastMergeMergedState : String := "fast_merge_merged"

def fastMergeClosedState : String := "fast_merge_closed"

def fastMergeBlockedState : String := "fast_merge_blocked"

/-- What is asked of one pull request. -/
structure FastMergeCall where
  prNumber : Nat
  authorizedHeadSha : Option String

inductive MergeAnswer where
  | merged
  | refused
  | transportFailed
  deriving DecidableEq

/-- What the reads of one call are answered, each for itself, and how others have left the row by
the time this call writes to it. A read that fails is an error. -/
structure FastMergeAnswers where
  firstView : Except Unit PrView
  hamCommit : Except Unit HamCommit := .error ()
  timeline : Except Unit (List TimelineComment) := .error ()
  hamAudit : Option HamAuditRead := none
  initialChecks : Except Unit (List FastMergeCheck) := .error ()
  preMergeView : Except Unit PrView := .error ()
  preMergeChecks : Except Unit (List FastMergeCheck) := .error ()
  /-- The state of another pull request, or why it could not be read. -/
  predecessorState : Nat → Except String String := fun _ =>
    .error "protective-predecessor-state-unreadable"
  mergeCapability : Bool := true
  merge : MergeAnswer := .merged
  /-- The view after a refusal; its error says whether it is one of transport. -/
  postMergeView : Except Bool PrView := .error true
  row : Option FastMergeRow := none

/-- What a call reads, asks for and writes, in order. -/
inductive FastMergeEvent where
  | view (view : PrView)
  | checks (checks : List FastMergeCheck)
  | predecessor (number : Nat) (state : String)
  | merge (matchHeadCommit : String)
  | wrote (before after : Option FastMergeRow)
  | requeued (action reason : String)
  deriving DecidableEq

/-- What a call has done, and what it returns, unless a read of the pull request throws. -/
structure FastMergeRun where
  log : List FastMergeEvent
  status : Option String
  reason : String := ""

variable (call : FastMergeCall) (answers : FastMergeAnswers)

/-- A row that still waits for this lane is put into an end state. -/
def updateFastMergeTerminalState (state : String) (row : Option FastMergeRow) :
    Option FastMergeRow :=
  row.map fun row =>
    if row.prState = fastMergeSkippedState then { prState := state, reviewStatus := state } else row

def updateFastMergeRetryableRefusalState (row : Option FastMergeRow) : Option FastMergeRow :=
  row.map fun _ => { prState := fastMergeSkippedState, reviewStatus := fastMergeSkippedState }

def endIn (state status reason : String) (log : List FastMergeEvent) : FastMergeRun where
  log := log ++ [.wrote answers.row (updateFastMergeTerminalState state answers.row)]
  status := some status
  reason := reason

/-- The review is requested again through `requestReviewRereview`, and the call ends. -/
def auditAndRequeueFastMerge (action status reason : String) (log : List FastMergeEvent) :
    FastMergeRun where
  log := log ++ [.requeued action reason]
  status := some status
  reason := reason

def skippedStillPending (reason : String) (log : List FastMergeEvent) : FastMergeRun where
  log := log
  status := some "skipped_still_pending"
  reason := reason

def verifyFastMergeHamRemediationHead (currentHeadSha : String) : Except String String :=
  let reviewedHead := jsTrim (call.authorizedHeadSha.getD "")
  let liveHead := jsTrim currentHeadSha
  if reviewedHead = "" ∨ liveHead = "" ∨ reviewedHead = liveHead then .error "not-head-change"
  else
    match answers.hamCommit with
    | .error _ => .error "ham-provenance-lookup-failed"
    | .ok commit =>
      if commit.remediates reviewedHead liveHead = false then
        .error "ham-commit-provenance-invalid"
      else
        match answers.timeline with
        | .error _ => .error "ham-provenance-lookup-failed"
        | .ok timeline =>
          if hasMatchingHamAuditComment timeline commit = false then
            .error "ham-audit-comment-missing"
          else if answers.hamAudit.any (verifyFastMergeHamAuditRecord · liveHead) then .ok liveHead
          else .error "ham-audit-record-invalid"

def exactHead (currentHeadSha : String) : Except String String :=
  if call.authorizedHeadSha.getD "" ≠ "" ∧ currentHeadSha = call.authorizedHeadSha.getD "" then
    .ok currentHeadSha
  else verifyFastMergeHamRemediationHead call answers currentHeadSha

/-- Why the labels do not let the pull request be merged: the action, its status and reason. -/
def labelRefusal (before : String) (labels : List String) : Option (String × String × String) :=
  if hasFastMergeVeto labels then
    some ("veto-requeued", "requeued_veto",
      "fast-merge veto label detected" ++ before ++ "; requeueing normal first-pass review")
  else if labelsContainDuplicateFamilyHold labels then
    some ("duplicate-family-hold-requeued", "requeued_duplicate_family_hold",
      "duplicate-family hold label detected before merge; requeueing normal first-pass review")
  else if !hasFastMergeAuthorizationLabel labels then
    some ("label-removed-requeued", "requeued_label_removed",
      "fast-merge authorization label absent" ++ before ++ "; requeueing normal first-pass review")
  else none

def readPredecessors : List Nat → List FastMergeEvent × Option String
  | [] => ([], none)
  | number :: rest =>
    if number = call.prNumber then readPredecessors rest
    else
      match answers.predecessorState number with
      | .error reason => ([], some reason)
      | .ok state =>
        if state = "OPEN" then ([.predecessor number state], some "protective-predecessor-open")
        else
          let (read, hold) := readPredecessors rest
          (.predecessor number state :: read, hold)

def evaluateFastMergeProtectivePredecessorHold (body : String) :
    List FastMergeEvent × Option String :=
  if findMalformedProtectivePredecessorLines body ≠ [] then
    ([], some "protective-predecessor-malformed-trailer")
  else readPredecessors call answers (protectorPrNumbers body)

def afterRefusal (log : List FastMergeEvent) : FastMergeRun :=
  match answers.postMergeView with
  | .error true => skippedStillPending "merge-postcheck-transport-failed" log
  | .error false => { log, status := none }
  | .ok view =>
    if view.isMerged then endIn answers fastMergeMergedState "merged" "" (log ++ [.view view])
    else
      { log := log ++ [.view view,
          .wrote answers.row (updateFastMergeRetryableRefusalState answers.row)]
        status := some "skipped_still_pending"
        reason := "merge-refused" }

def mergeFastMergePr (head : String) (log : List FastMergeEvent) : FastMergeRun :=
  let log := log ++ [.merge head]
  match answers.merge with
  | .merged => endIn answers fastMergeMergedState "merged" "" log
  | .transportFailed => skippedStillPending "merge-transport-failed" log
  | .refused => afterRefusal answers log

def withChecks (listed : Except Unit (List FastMergeCheck)) (before : String)
    (log : List FastMergeEvent) (next : List FastMergeEvent → FastMergeRun) : FastMergeRun :=
  match listed with
  | .error _ => skippedStillPending "checks-transport-failed" log
  | .ok checks =>
    match summarizeFastMergeChecks checks with
    | .failed => endIn answers fastMergeBlockedState "blocked" ("ci-failed" ++ before)
        (log ++ [.checks checks])
    | .pending => skippedStillPending ("ci-pending" ++ before) (log ++ [.checks checks])
    | .success => next (log ++ [.checks checks])

def withLabels (view : PrView) (before : String) (log : List FastMergeEvent)
    (next : FastMergeRun) : FastMergeRun :=
  match labelRefusal before view.labels with
  | some (action, status, reason) => auditAndRequeueFastMerge action status reason log
  | none => next

def lastGates (view : PrView) (head : String) (log : List FastMergeEvent) : FastMergeRun :=
  let (read, hold) := evaluateFastMergeProtectivePredecessorHold call answers view.body
  match hold with
  | some reason => auditAndRequeueFastMerge "protective-predecessor-requeued"
      "requeued_protective_predecessor" reason (log ++ read)
  | none =>
    if answers.mergeCapability = false then
      endIn answers fastMergeBlockedState "blocked" "builder-token-merge-refused" (log ++ read)
    else if jsTrim view.title = "" then skippedStillPending "merge-title-missing" (log ++ read)
    else mergeFastMergePr answers head (log ++ read)

def beforeMerge (head : String) (log : List FastMergeEvent) : FastMergeRun :=
  match answers.preMergeView with
  | .error _ => { log, status := none }
  | .ok view =>
    let log := log ++ [.view view]
    if view.head ≠ head then
      auditAndRequeueFastMerge "head-changed-requeued" "requeued_head_change"
        ("fast-merge head changed before merge: authorized " ++ head ++ "; current " ++
          view.headRefOid.getD "missing") log
    else withLabels view " before merge" log
      (withChecks answers answers.preMergeChecks "-before-merge" log
        (lastGates call answers view head))

def processFastMergePR : FastMergeRun :=
  match answers.firstView with
  | .error _ => { log := [], status := none }
  | .ok view =>
    let log := [.view view]
    if view.isMerged then endIn answers fastMergeMergedState "merged" "" log
    else if view.state = "CLOSED" then endIn answers fastMergeClosedState "closed" "" log
    else
      match exactHead call answers view.head with
      | .error hamReason =>
        auditAndRequeueFastMerge "head-changed-requeued" "requeued_head_change"
          ("fast-merge head changed: authorized " ++ call.authorizedHeadSha.getD "missing" ++
            "; current " ++ view.headRefOid.getD "missing" ++ "; ham-eval: " ++ hamReason) log
      | .ok head =>
        withLabels view "" log (withChecks answers answers.initialChecks "" log
          (beforeMerge call answers head))

end

def lastView (log : List FastMergeEvent) : Option PrView :=
  log.foldl (fun last event => match event with | .view view => some view | _ => last) none

def checkLists (log : List FastMergeEvent) : List (List FastMergeCheck) :=
  log.filterMap fun event => match event with | .checks checks => some checks | _ => none

def FastMergeCheck.Succeeded (check : FastMergeCheck) : Prop :=
  check.normalized.has successConclusions = true ∧
    check.normalized.has failureConclusions = false ∧ check.normalized.has pendingStates = false

section

variable (call : FastMergeCall) (answers : FastMergeAnswers)

def HammerHead (head : String) : Prop :=
  ∃ commit timeline audit, answers.hamCommit = .ok commit ∧ commit.sha = head ∧
    commit.parentSha = jsTrim (call.authorizedHeadSha.getD "") ∧ commit.changedFiles ≠ [] ∧
    commit.remediates (jsTrim (call.authorizedHeadSha.getD "")) head = true ∧
    answers.timeline = .ok timeline ∧ hasMatchingHamAuditComment timeline commit = true ∧
    answers.hamAudit = some audit ∧ verifyFastMergeHamAuditRecord audit head = true

structure AuthorizedMerge (before : List FastMergeEvent) (head : String) (view : PrView) :
    Prop where
  last : lastView before = some view
  match_ : view.headRefOid = some head
  authorized : call.authorizedHeadSha = some head ∨ HammerHead call answers head
  label : hasFastMergeAuthorizationLabel view.labels = true
  veto : hasFastMergeVeto view.labels = false
  family : labelsContainDuplicateFamilyHold view.labels = false
  checks : ∃ first second, checkLists before = [first, second] ∧
    ∀ check ∈ first ++ second, check.Succeeded
  wellFormed : findMalformedProtectivePredecessorLines view.body = []
  predecessors : ∀ number ∈ protectorPrNumbers view.body, number ≠ call.prNumber →
    ∃ state, .predecessor number state ∈ before ∧ state ≠ "OPEN"

/-- A write that changes a row changes one that waits for the lane. -/
def FastMergeEvent.OnSkipped : FastMergeEvent → Prop
  | .wrote before after => before ≠ after →
    ∃ row, before = some row ∧ row.prState = fastMergeSkippedState
  | _ => True

structure HonestLane (run : FastMergeRun) : Prop where
  merges : ∀ before after head, run.log = before ++ .merge head :: after →
    ∃ view, AuthorizedMerge call answers before head view
  writes : ∀ event ∈ run.log, event.OnSkipped

/-- The gates of the lane, one after another, on what it reads. -/
structure MergeGates (first view : PrView) (checks rechecks : List FastMergeCheck)
    (head : String) : Prop where
  firstView : answers.firstView = .ok first
  unmerged : first.isMerged = false
  unclosed : first.state ≠ "CLOSED"
  exact_ : exactHead call answers first.head = .ok head
  firstLabels : labelRefusal "" first.labels = none
  initialChecks : answers.initialChecks = .ok checks
  passing : summarizeFastMergeChecks checks = .success
  preMergeView : answers.preMergeView = .ok view
  sameHead : view.head = head
  labels : labelRefusal " before merge" view.labels = none
  preMergeChecks : answers.preMergeChecks = .ok rechecks
  stillPassing : summarizeFastMergeChecks rechecks = .success
  unheld : (evaluateFastMergeProtectivePredecessorHold call answers view.body).2 = none
  capable : answers.mergeCapability = true
  titled : jsTrim view.title ≠ ""

def MergeReached : Prop := ∃ first view checks rechecks head,
  MergeGates call answers first view checks rechecks head

/-- Where the merge is refused, and the pull request is read unmerged after it, the row still
waits for the lane. -/
def RefusedInPlace : Prop :=
  MergeReached call answers → answers.merge = .refused →
    ∀ view, answers.postMergeView = .ok view → view.isMerged = false →
      ∀ row, answers.row = some row → row.prState = fastMergeSkippedState

end

variable {call : FastMergeCall} {answers : FastMergeAnswers}

theorem hammerHead_of_verified {current head : String}
    (verified : verifyFastMergeHamRemediationHead call answers current = .ok head) :
    head ≠ "" ∧ HammerHead call answers head := by
  unfold verifyFastMergeHamRemediationHead at verified
  dsimp only at verified
  split at verified
  · cases verified
  next changed =>
    push Not at changed
    cases fetched : answers.hamCommit with
    | error failure => simp [fetched] at verified
    | ok commit =>
      cases listed : answers.timeline with
      | error failure =>
        simp only [fetched, listed] at verified
        split at verified <;> cases verified
      | ok timeline =>
        simp only [fetched, listed] at verified
        split at verified
        · cases verified
        next remediates =>
          split at verified
          · cases verified
          next commented =>
            split at verified
            next audited =>
              obtain rfl := Except.ok.inj verified
              cases read : answers.hamAudit with
              | none => simp [read] at audited
              | some audit =>
                have remediation : commit.remediates (jsTrim (call.authorizedHeadSha.getD ""))
                    (jsTrim current) = true := by simpa using remediates
                have parts := remediation
                simp only [HamCommit.remediates, Bool.and_eq_true, decide_eq_true_eq,
                  Bool.not_eq_true', List.isEmpty_eq_false_iff] at parts
                obtain ⟨⟨⟨⟨-, sha⟩, parent⟩, files⟩, -⟩ := parts
                refine ⟨changed.2.1, commit, timeline, audit, fetched, sha, parent, files,
                  remediation, listed, by simpa using commented, read, ?_⟩
                simpa [read] using audited
            · cases verified

theorem exactHead_authorized {current head : String}
    (given : exactHead call answers current = .ok head) :
    head ≠ "" ∧ (call.authorizedHeadSha = some head ∨ HammerHead call answers head) := by
  unfold exactHead at given
  split at given
  next authorized =>
    obtain rfl := Except.ok.inj given
    have named : call.authorizedHeadSha.getD "" ≠ "" := authorized.1
    cases there : call.authorizedHeadSha with
    | none => simp [there] at named
    | some name =>
      have same : current = name := by simpa [there] using authorized.2
      subst same
      exact ⟨by simpa [there] using named, .inl rfl⟩
  next =>
    have verified := hammerHead_of_verified given
    exact ⟨verified.1, .inr verified.2⟩

theorem succeeded_of_settled {check : FastMergeCheck}
    (failing : check.normalized.has failureConclusions = false)
    (waiting : check.normalized.isPending = false)
    (known : check.normalized.isUnexpected = false) : check.Succeeded := by
  unfold FastMergeCheck.isPending at waiting
  rw [Bool.or_eq_false_iff] at waiting
  refine ⟨?_, failing, waiting.2⟩
  have settled := waiting.1
  have unfinished := waiting.2
  cases conclusion : check.normalized.conclusion with
  | none =>
    -- Without a conclusion the state or the bucket must be one of success.
    simp only [conclusion, Option.isNone_none, Bool.true_and, Bool.or_eq_false_iff,
      Bool.and_eq_false_imp, Bool.not_eq_true', Bool.not_eq_false'] at settled
    unfold FastMergeCheck.has
    rw [Bool.or_eq_true, Bool.or_eq_true]
    cases stated : check.normalized.state.any (· ∈ successConclusions) with
    | true => exact .inl (.inr rfl)
    | false => exact .inr (settled.2 stated)
  | some text =>
    -- A conclusion that is not blank must be one of success, and a blank one is pending.
    have filled : text ≠ "" := by
      rintro rfl
      simp [FastMergeCheck.has, conclusion, pendingStates] at unfinished
    have successful : text ∈ successConclusions := by
      simpa [FastMergeCheck.isUnexpected, conclusion, filled] using known
    simp [FastMergeCheck.has, conclusion, successful]

theorem summarize_success {checks : List FastMergeCheck}
    (passing : summarizeFastMergeChecks checks = .success) :
    ∀ check ∈ checks, check.Succeeded := by
  intro check there
  unfold summarizeFastMergeChecks at passing
  dsimp only at passing
  split at passing
  · cases passing
  next unfailed =>
    split at passing
    · cases passing
    next settled =>
      split at passing
      · cases passing
      next expected =>
        have inside : check.normalized ∈ checks.map FastMergeCheck.normalized :=
          List.mem_map_of_mem there
        have failing : check.normalized.has failureConclusions = false := by
          simpa using fun failed => unfailed (List.any_eq_true.mpr ⟨_, inside, failed⟩)
        have waiting : check.normalized.isPending = false := by
          simpa using fun pending => settled (List.any_eq_true.mpr ⟨_, inside, pending⟩)
        have known : check.normalized.isUnexpected = false := by
          simpa using fun unexpected => expected (List.any_eq_true.mpr ⟨_, inside, unexpected⟩)
        exact succeeded_of_settled failing waiting known

theorem labelRefusal_none {before : String} {labels : List String}
    (passed : labelRefusal before labels = none) :
    hasFastMergeVeto labels = false ∧ labelsContainDuplicateFamilyHold labels = false ∧
      hasFastMergeAuthorizationLabel labels = true := by
  unfold labelRefusal at passed
  split at passed
  · cases passed
  next unvetoed =>
    split at passed
    · cases passed
    next single =>
      split at passed
      · cases passed
      next allowed => simp_all

omit [JsText] in
theorem readPredecessors_none (numbers : List Nat)
    (unheld : (readPredecessors call answers numbers).2 = none) :
    ∀ number ∈ numbers, number ≠ call.prNumber → ∃ state,
      .predecessor number state ∈ (readPredecessors call answers numbers).1 ∧ state ≠ "OPEN" := by
  induction numbers with
  | nil => simp
  | cons number rest ih =>
    unfold readPredecessors at unheld ⊢
    split
    next self =>
      rw [if_pos self] at unheld
      intro other there apart
      rcases List.mem_cons.mp there with rfl | later
      · exact absurd self apart
      · exact ih unheld other later apart
    next distinct =>
      rw [if_neg distinct] at unheld
      cases state : answers.predecessorState number with
      | error reason => simp [state] at unheld
      | ok text =>
        simp only [state] at unheld ⊢
        split
        next opened => simp [opened] at unheld
        next closed =>
          rw [if_neg closed] at unheld
          intro other there apart
          rcases List.mem_cons.mp there with rfl | later
          · exact ⟨text, List.mem_cons_self, closed⟩
          · obtain ⟨found, read, shut⟩ := ih unheld other later apart
            exact ⟨found, List.mem_cons_of_mem _ read, shut⟩

omit [JsText] in
theorem readPredecessors_only (numbers : List Nat) :
    ∀ event ∈ (readPredecessors call answers numbers).1,
      ∃ number state, event = .predecessor number state := by
  induction numbers with
  | nil => simp [readPredecessors]
  | cons number rest ih =>
    unfold readPredecessors
    split
    · exact ih
    · split
      · simp
      next text answered =>
        split
        · simp
        · intro event there
          rcases List.mem_cons.mp there with rfl | later
          · exact ⟨number, text, rfl⟩
          · exact ih event later

section

def Harmless : FastMergeEvent → Prop
  | .merge _ => False
  | event => event.OnSkipped

omit [JsText] in
theorem onSkipped_terminal (state : String) (row : Option FastMergeRow) :
    Harmless (.wrote row (updateFastMergeTerminalState state row)) := by
  intro changed
  cases row with
  | none => exact absurd rfl changed
  | some row =>
    refine ⟨row, rfl, ?_⟩
    by_contra left
    exact changed (by simp [updateFastMergeTerminalState, left])

variable {log : List FastMergeEvent}

omit [JsText] in
theorem harmless_append {last : FastMergeEvent} (before : ∀ event ∈ log, Harmless event)
    (harmless : Harmless last) : ∀ event ∈ log ++ [last], Harmless event := by
  intro event there
  rcases List.mem_append.mp there with earlier | here
  · exact before event earlier
  · rw [List.mem_singleton.mp here]
    exact harmless

omit [JsText] in
theorem harmless_endIn (before : ∀ event ∈ log, Harmless event) (state status reason : String) :
    ∀ event ∈ (endIn answers state status reason log).log, Harmless event :=
  harmless_append before (onSkipped_terminal state answers.row)

omit [JsText] in
theorem harmless_requeue (before : ∀ event ∈ log, Harmless event) (action status reason : String) :
    ∀ event ∈ (auditAndRequeueFastMerge action status reason log).log, Harmless event :=
  harmless_append before trivial

end

section

variable {log : List FastMergeEvent}

def HarmlessOr (run next : FastMergeRun) (passed : Prop) : Prop :=
  (∀ event ∈ run.log, Harmless event) ∨ (run = next ∧ passed)

theorem withLabels_cases (view : PrView) (before : String) (next : FastMergeRun)
    (quiet : ∀ event ∈ log, Harmless event) :
    HarmlessOr (withLabels view before log next) next (labelRefusal before view.labels = none) := by
  unfold withLabels
  split
  · exact .inl (harmless_requeue quiet _ _ _)
  next passed => exact .inr ⟨rfl, passed⟩

theorem withChecks_cases (listed : Except Unit (List FastMergeCheck)) (before : String)
    (next : List FastMergeEvent → FastMergeRun) (quiet : ∀ event ∈ log, Harmless event) :
    (∀ event ∈ (withChecks answers listed before log next).log, Harmless event) ∨
      ∃ checks, listed = .ok checks ∧ summarizeFastMergeChecks checks = .success ∧
        withChecks answers listed before log next = next (log ++ [.checks checks]) := by
  unfold withChecks
  cases listed with
  | error failure => exact .inl quiet
  | ok checks =>
    dsimp only
    have read : ∀ event ∈ log ++ [.checks checks], Harmless event := harmless_append quiet trivial
    split
    · exact .inl (harmless_endIn read _ _ _)
    · exact .inl read
    next passing => exact .inr ⟨checks, rfl, passing, rfl⟩

omit [JsText] in
theorem hold_harmless (body : String) :
    ∀ event ∈ (evaluateFastMergeProtectivePredecessorHold call answers body).1,
      Harmless event := by
  intro event there
  unfold evaluateFastMergeProtectivePredecessorHold at there
  split at there
  · cases there
  · obtain ⟨number, state, rfl⟩ := readPredecessors_only _ event there
    trivial

omit [JsText] in
theorem lastGates_cases (view : PrView) (head : String) (quiet : ∀ event ∈ log, Harmless event) :
    HarmlessOr (lastGates call answers view head log)
      (mergeFastMergePr answers head
        (log ++ (evaluateFastMergeProtectivePredecessorHold call answers view.body).1))
      ((evaluateFastMergeProtectivePredecessorHold call answers view.body).2 = none ∧
        answers.mergeCapability = true ∧ jsTrim view.title ≠ "") := by
  have reads : ∀ event ∈ (evaluateFastMergeProtectivePredecessorHold call answers view.body).1,
      Harmless event := hold_harmless view.body
  unfold lastGates
  generalize evaluateFastMergeProtectivePredecessorHold call answers view.body = hold at reads
  obtain ⟨read, hold⟩ := hold
  have all : ∀ event ∈ log ++ read, Harmless event := fun event there =>
    (List.mem_append.mp there).elim (quiet event) (reads event)
  cases hold with
  | some reason => exact .inl (harmless_requeue all _ _ _)
  | none =>
    dsimp only
    split
    · exact .inl (harmless_endIn all _ _ _)
    next capable =>
      split
      · exact .inl all
      next titled => exact .inr ⟨rfl, rfl, by simpa using capable, titled⟩

end

def gateLog (call : FastMergeCall) (answers : FastMergeAnswers) (first view : PrView)
    (checks rechecks : List FastMergeCheck) : List FastMergeEvent :=
  [.view first, .checks checks, .view view, .checks rechecks] ++
    (evaluateFastMergeProtectivePredecessorHold call answers view.body).1

section

variable {first view : PrView} {checks rechecks : List FastMergeCheck} {head : String}

theorem run_of_gates (gates : MergeGates call answers first view checks rechecks head) :
    processFastMergePR call answers =
      mergeFastMergePr answers head (gateLog call answers first view checks rechecks) := by
  have unheld := gates.unheld
  simp only [processFastMergePR, gates.firstView, gates.unmerged, gates.unclosed, gates.exact_,
    withLabels, gates.firstLabels, withChecks, gates.initialChecks, gates.passing, beforeMerge,
    gates.preMergeView, gates.sameHead, gates.labels, gates.preMergeChecks, gates.stillPassing,
    lastGates, gates.capable, gates.titled, gateLog]
  generalize evaluateFastMergeProtectivePredecessorHold call answers view.body = hold at unheld
  obtain ⟨read, hold⟩ := hold
  obtain rfl : hold = none := unheld
  simp

theorem processFastMergePR_cases (call : FastMergeCall) (answers : FastMergeAnswers) :
    (∀ event ∈ (processFastMergePR call answers).log, Harmless event) ∨
      MergeReached call answers := by
  unfold processFastMergePR
  split
  · exact .inl (by simp)
  next first firstView =>
    have seen : ∀ event ∈ [FastMergeEvent.view first], Harmless event := by
      simp [Harmless, FastMergeEvent.OnSkipped]
    dsimp only
    split
    · exact .inl (harmless_endIn seen _ _ _)
    next unmerged =>
      split
      · exact .inl (harmless_endIn seen _ _ _)
      next unclosed =>
        split
        · exact .inl (harmless_requeue seen _ _ _)
        next head exact_ =>
          rcases withLabels_cases first "" _ seen with quiet | ⟨labelled, firstLabels⟩
          · exact .inl quiet
          rw [labelled]
          rcases withChecks_cases answers.initialChecks ""
            (beforeMerge call answers head) seen with quiet | ⟨checks, listed, passing, goes⟩
          · exact .inl quiet
          rw [goes]
          have read : ∀ event ∈ [FastMergeEvent.view first] ++ [.checks checks],
              Harmless event := harmless_append seen trivial
          unfold beforeMerge
          split
          · exact .inl read
          next view preMergeView =>
            have reread : ∀ event ∈ [FastMergeEvent.view first] ++ [.checks checks] ++
                [.view view], Harmless event := harmless_append read trivial
            dsimp only
            split
            · exact .inl (harmless_requeue reread _ _ _)
            next sameHead =>
              rcases withLabels_cases view " before merge" _ reread with
                quiet | ⟨labelled, labels⟩
              · exact .inl quiet
              rw [labelled]
              rcases withChecks_cases answers.preMergeChecks "-before-merge"
                (lastGates call answers view head) reread with
                quiet | ⟨rechecks, relisted, stillPassing, goes⟩
              · exact .inl quiet
              rw [goes]
              have rereads : ∀ event ∈ [FastMergeEvent.view first] ++ [.checks checks] ++
                  [.view view] ++ [.checks rechecks], Harmless event :=
                harmless_append reread trivial
              rcases lastGates_cases view head rereads with quiet | ⟨-, unheld, capable, titled⟩
              · exact .inl quiet
              exact .inr ⟨first, view, checks, rechecks, head, firstView,
                by simpa using unmerged, unclosed, exact_, firstLabels, listed,
                passing, preMergeView, not_not.mp sameHead, labels, relisted, stillPassing,
                unheld, capable, titled⟩

omit [JsText] in
theorem gateLog_reads (call : FastMergeCall) (answers : FastMergeAnswers) (first view : PrView)
    (checks rechecks : List FastMergeCheck) :
    lastView (gateLog call answers first view checks rechecks) = some view ∧
      checkLists (gateLog call answers first view checks rechecks) = [checks, rechecks] := by
  have only : ∀ event ∈ (evaluateFastMergeProtectivePredecessorHold call answers view.body).1,
      ∃ number state, event = .predecessor number state := by
    unfold evaluateFastMergeProtectivePredecessorHold
    split
    · simp
    · exact readPredecessors_only _
  unfold gateLog
  generalize (evaluateFastMergeProtectivePredecessorHold call answers view.body).1 = read at only
  constructor
  · unfold lastView
    rw [List.foldl_append]
    show read.foldl _ (some view) = some view
    induction read with
    | nil => rfl
    | cons event rest ih =>
      obtain ⟨number, state, rfl⟩ := only event List.mem_cons_self
      exact ih fun later there => only later (List.mem_cons_of_mem _ there)
  · unfold checkLists
    rw [List.filterMap_append]
    have none_ : read.filterMap (fun event =>
        match event with | .checks checks => some checks | _ => none) = [] := by
      apply List.filterMap_eq_nil_iff.mpr
      intro event there
      obtain ⟨number, state, rfl⟩ := only event there
      rfl
    rw [none_]
    rfl

theorem authorized_of_gates (gates : MergeGates call answers first view checks rechecks head) :
    AuthorizedMerge call answers (gateLog call answers first view checks rechecks) head view := by
  obtain ⟨named, authorized⟩ := exactHead_authorized gates.exact_
  obtain ⟨veto, family, label⟩ := labelRefusal_none gates.labels
  obtain ⟨last, lists⟩ := gateLog_reads call answers first view checks rechecks
  have unheld := gates.unheld
  have shown : view.headRefOid = some head := by
    have same := gates.sameHead
    unfold PrView.head at same
    cases there : view.headRefOid with
    | none => exact absurd (by simpa [there] using same.symm) named
    | some name => simpa [there] using same
  have succeeded : ∀ check ∈ checks ++ rechecks, check.Succeeded := by
    intro check there
    rcases List.mem_append.mp there with inFirst | inSecond
    · exact summarize_success gates.passing check inFirst
    · exact summarize_success gates.stillPassing check inSecond
  have read : findMalformedProtectivePredecessorLines view.body = [] ∧
      ∀ number ∈ protectorPrNumbers view.body, number ≠ call.prNumber → ∃ state,
        .predecessor number state ∈
          (evaluateFastMergeProtectivePredecessorHold call answers view.body).1 ∧
        state ≠ "OPEN" := by
    unfold evaluateFastMergeProtectivePredecessorHold at unheld ⊢
    split
    next malformed => simp [malformed] at unheld
    next wellFormed =>
      rw [if_neg wellFormed] at unheld
      exact ⟨not_not.mp wellFormed, readPredecessors_none _ unheld⟩
  refine ⟨last, shown, authorized, label, veto, family, ⟨checks, rechecks, lists, succeeded⟩,
    read.1, ?_⟩
  intro number declared apart
  obtain ⟨state, there, shut⟩ := read.2 number declared apart
  exact ⟨state, List.mem_append_right _ there, shut⟩

omit [JsText] in
theorem split_at_merge {before after log tail : List FastMergeEvent} {other : String}
    (front : ∀ event ∈ log, Harmless event) (back : ∀ name, .merge name ∉ tail)
    (same : log ++ .merge head :: tail = before ++ .merge other :: after) :
    before = log ∧ other = head := by
  induction log generalizing before with
  | nil =>
    cases before with
    | nil =>
      simp only [List.nil_append, List.cons.injEq, FastMergeEvent.merge.injEq] at same
      exact ⟨rfl, same.1.symm⟩
    | cons event rest =>
      have later : tail = rest ++ .merge other :: after := (List.cons.inj same).2
      exact absurd (by simp [later]) (back other)
  | cons event log ih =>
    cases before with
    | nil =>
      have first : event = .merge other := (List.cons.inj same).1
      exact (first ▸ front event List.mem_cons_self : Harmless (.merge other)).elim
    | cons seen rest =>
      obtain ⟨rfl, later⟩ := List.cons.inj same
      have found := ih (fun event there => front event (List.mem_cons_of_mem _ there)) later
      exact ⟨by rw [found.1], found.2⟩

def Revives (answers : FastMergeAnswers) : Prop :=
  answers.merge = .refused ∧ ∃ view row, answers.postMergeView = .ok view ∧
    view.isMerged = false ∧ answers.row = some row ∧ row.prState ≠ fastMergeSkippedState

omit [JsText] in
theorem mergeFastMergePr_log (answers : FastMergeAnswers) (head : String)
    (log : List FastMergeEvent) : ∃ tail,
      (mergeFastMergePr answers head log).log = log ++ .merge head :: tail ∧
      (∀ name, .merge name ∉ tail) ∧
      ((∀ event ∈ tail, event.OnSkipped) ↔ ¬ Revives answers) := by
  have terminal (state : String) : FastMergeEvent.OnSkipped
      (.wrote answers.row (updateFastMergeTerminalState state answers.row)) :=
    onSkipped_terminal state answers.row
  unfold mergeFastMergePr
  dsimp only
  cases answer : answers.merge with
  | merged =>
    refine ⟨[.wrote answers.row (updateFastMergeTerminalState fastMergeMergedState answers.row)],
      by simp [endIn], by simp, ?_⟩
    simp only [List.mem_singleton, forall_eq, Revives, answer, reduceCtorEq, false_and,
      not_false_iff, iff_true]
    exact terminal _
  | transportFailed => exact ⟨[], by simp [skippedStillPending], by simp, by simp [Revives, answer]⟩
  | refused =>
    dsimp only
    unfold afterRefusal
    cases read : answers.postMergeView with
    | error transport =>
      cases transport with
      | true => exact ⟨[], by simp [skippedStillPending], by simp, by simp [Revives, read]⟩
      | false => exact ⟨[], by simp, by simp, by simp [Revives, read]⟩
    | ok after =>
      dsimp only
      split
      next merged =>
        refine ⟨[.view after, .wrote answers.row
          (updateFastMergeTerminalState fastMergeMergedState answers.row)],
          by simp [endIn], by simp, ?_⟩
        have kept : ¬ Revives answers := by
          rintro ⟨-, other, row, given, unmerged, -⟩
          rw [read] at given
          obtain rfl := Except.ok.inj given
          exact absurd merged (by simp [unmerged])
        simp only [List.forall_mem_cons, kept, not_false_iff, iff_true]
        exact ⟨trivial, terminal _, by simp⟩
      next unmerged =>
        refine ⟨[.view after, .wrote answers.row
          (updateFastMergeRetryableRefusalState answers.row)], by simp, by simp, ?_⟩
        simp only [List.forall_mem_cons]
        constructor
        · rintro ⟨-, guarded, -⟩ ⟨-, other, row, -, -, there, left⟩
          -- The write sets the state that the row does not have.
          obtain ⟨kept, same, waits⟩ := guarded (by
            rw [there]
            intro unchanged
            exact left (congrArg FastMergeRow.prState (Option.some.inj unchanged)))
          rw [there] at same
          exact left (Option.some.inj same ▸ waits)
        · intro quiet
          refine ⟨trivial, ?_, by simp⟩
          intro changed
          cases there : answers.row with
          | none => exact absurd (by simp [there, updateFastMergeRetryableRefusalState]) changed
          | some row =>
            refine ⟨row, rfl, ?_⟩
            by_contra left
            exact quiet ⟨answer, after, row, read, by simpa using unmerged, there, left⟩

/-- The lane merges what was authorized, whatever it reads, and it revives no row, if and only if
a row whose merge is refused still waits for it. -/
theorem fast_merge_honest_iff (call : FastMergeCall) (answers : FastMergeAnswers) :
    HonestLane call answers (processFastMergePR call answers) ↔ RefusedInPlace call answers := by
  constructor
  · rintro honest ⟨first, view, checks, rechecks, head, gates⟩ refused after read unmerged row there
    by_contra left
    obtain ⟨tail, logged, -, writes⟩ := mergeFastMergePr_log answers head
      (gateLog call answers first view checks rechecks)
    have every := honest.writes
    rw [run_of_gates gates, logged] at every
    have guarded := writes.mp fun event inside =>
      every event (List.mem_append_right _ (List.mem_cons_of_mem _ inside))
    exact guarded ⟨refused, after, row, read, unmerged, there, left⟩
  · intro inPlace
    rcases processFastMergePR_cases call answers with quiet | reached
    · constructor
      · intro before after head split
        have there : FastMergeEvent.merge head ∈ (processFastMergePR call answers).log := by
          simp [split]
        exact (quiet _ there).elim
      · intro event there
        have harmless := quiet event there
        cases event with
        | merge name => exact harmless.elim
        | _ => exact harmless
    · obtain ⟨first, view, checks, rechecks, head, gates⟩ := reached
      have reads : ∀ event ∈ gateLog call answers first view checks rechecks, Harmless event := by
        intro event there
        rcases List.mem_append.mp there with listed | read
        · simp only [List.mem_cons, List.not_mem_nil, or_false] at listed
          rcases listed with rfl | rfl | rfl | rfl <;> trivial
        · exact hold_harmless _ event read
      obtain ⟨tail, logged, back, writes⟩ := mergeFastMergePr_log answers head
        (gateLog call answers first view checks rechecks)
      rw [run_of_gates gates]
      constructor
      · intro before after other split
        rw [logged] at split
        obtain ⟨rfl, rfl⟩ := split_at_merge reads back split
        exact ⟨view, authorized_of_gates gates⟩
      · have kept : ¬ Revives answers := by
          rintro ⟨refused, after, row, read, unmerged, there, left⟩
          exact left (inPlace ⟨first, view, checks, rechecks, head, gates⟩ refused after read
            unmerged row there)
        intro event there
        rw [logged] at there
        rcases List.mem_append.mp there with before | behind
        · have harmless := reads event before
          cases event with
          | merge name => trivial
          | _ => exact harmless
        · rcases List.mem_cons.mp behind with rfl | later
          · trivial
          · exact writes.mpr kept event later

end

def labelledView : PrView where
  state := "OPEN"
  headRefOid := some "aaaaaaa"
  labels := ["fast-merge:docs"]
  title := "Fix a typo"

def refusedAnswers : FastMergeAnswers where
  firstView := .ok labelledView
  initialChecks := .ok [{ state := some "SUCCESS", bucket := some "pass" }]
  preMergeView := .ok labelledView
  preMergeChecks := .ok [{ state := some "SUCCESS", bucket := some "pass" }]
  merge := .refused
  postMergeView := .ok labelledView
  row := some { prState := "open", reviewStatus := "pending" }

omit [JsText] in
/-- The refusal takes a row back that has left the lane. -/
theorem refused_merge_revives_row :
    letI := JsText.ascii
    ¬ HonestLane { prNumber := 7, authorizedHeadSha := some "aaaaaaa" } refusedAnswers
      (processFastMergePR { prNumber := 7, authorizedHeadSha := some "aaaaaaa" }
        refusedAnswers) := by
  let _ := JsText.ascii
  intro honest
  have written : FastMergeEvent.wrote (some { prState := "open", reviewStatus := "pending" })
      (some { prState := fastMergeSkippedState, reviewStatus := fastMergeSkippedState }) ∈
      (processFastMergePR { prNumber := 7, authorizedHeadSha := some "aaaaaaa" }
        refusedAnswers).log := by
    decide +kernel
  obtain ⟨row, same, waits⟩ := honest.writes _ written (by decide)
  obtain rfl := Option.some.inj same
  exact absurd waits (by decide)

end AdversarialReview.FastMerge
