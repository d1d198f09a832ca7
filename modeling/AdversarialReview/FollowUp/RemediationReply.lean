import AdversarialReview.Library.JsNormal
import AdversarialReview.Library.JsNumber
import AdversarialReview.Library.JsPattern
import AdversarialReview.Library.Utf16

/-! A worker's reply to a review: its fields, and whether it accounts for every finding. -/

namespace AdversarialReview.FollowUp

structure ReviewFinding where
  title : Option String

structure ReviewParsers where
  parseBlockingFindingsSection : Option Json → Option (List ReviewFinding)
  parseNonBlockingFindingsSection : Option Json → Option (List ReviewFinding)

/-- What a reply is checked against. -/
structure ExpectedJob where
  jobId : String
  reviewBody : Option Json
  revisionRef : Option Json := none
  headSha : Option Json := none

def publicReplyMaxChars : Nat := 1200

def publicReplyMaxLines : Nat := 20

def operationalBlockerTitles : List String :=
  ["branch-contamination", "branch-contamination-audit-error", "base-branch-resolution-failed",
    "stale-pr-head", "push-lease-rejected", "fetch-failed", "rebase-conflict", "missing-auth",
    "auth-failure"]

def placeholderExactStrings : List String :=
  ["Replace this with a short remediation summary.",
    "Replace with validation you ran.",
    "Replace with the review finding this entry addresses.",
    "Replace with what you did to address it.",
    "Optional list of files changed for this finding.",
    "Replace with a finding you deliberately did NOT change the code on.",
    "Replace with a finding you deliberately did NOT change the code on. " ++
      "Remove this entry entirely if you addressed everything.",
    "Replace with one sharp sentence on why you disagreed.",
    "Replace with the reason this PR should receive another adversarial review pass."]

/-- What a check throws. -/
def refuse (reason : String) : Except String Unit :=
  .error ("Remediation reply " ++ reason)

def require (holds : Bool) (reason : String) : Except String Unit :=
  if holds then .ok () else refuse reason

def filled (value : Option Json) : Bool := Json.text value ≠ ""

def isRecord (value : Json) : Bool := (Json.plain (some value)).isSome

def assertNoPlaceholderText (value : Option Json) (locationLabel : String) : Except String Unit :=
  require (Json.text value = "" || Json.text value ∉ placeholderExactStrings)
    (locationLabel ++ " contains placeholder/example text from the prompt template; " ++
      "replace it with real content before submitting")

open JsPattern in
def publicReplyNoiseSignals : List (String × JsPattern) :=
  let quote := Char.ofNat 34
  [("JSON-like dump at start of field",
      seq [start, many jsSpace, one (· ∈ ['\x7b', '[']), many jsSpace,
        one (· ∈ [quote, '\x7b', '['])]),
    ("fenced code block", seq [lineStart, many jsSpace, text (String.ofList
      (List.replicate 3 (Char.ofNat 96)))]),
    ("tool call/result markup", seq [anyCase "<tool_",
      JsPattern.oneOf [anyCase "call", anyCase "result"],
      boundary]),
    ("git diff header", seq [lineStart, text "diff --git", boundary]),
    ("diff hunk header", seq [lineStart, text "@@", one jsSpace]),
    ("token-count transcript header", text "Original token count:"),
    ("python traceback header", seq [lineStart, text "Traceback (most recent call last):"])]

open JsPattern in
def detectPublicReplyNoiseSignal (value : String) : Option String :=
  let logLine (stream : String) :=
    seq [lineStart, many jsSpace, anyCase stream, many jsSpace, text ":"]
  match publicReplyNoiseSignals.find? fun signal => signal.2.test value with
  | some signal => some signal.1
  | none =>
    if (logLine "stdout").test value ∧ (logLine "stderr").test value then
      some "paired stdout/stderr log prefixes"
    else none

def assertPublicReplyTextQuality (value : Option Json) (locationLabel publicCommentLabel : String) :
    Except String Unit := do
  let text := Json.text value
  require ((Utf16.codes text).length ≤ publicReplyMaxChars)
    (locationLabel ++ " is too long for the " ++ publicCommentLabel ++
      "; summarize it instead of dumping raw output")
  let lines := (text.toList.splitOn '\n').filter fun line => jsTrim (String.ofList line) ≠ ""
  require (lines.length ≤ publicReplyMaxLines)
    (locationLabel ++ " has too many lines for the " ++ publicCommentLabel ++
      "; summarize it instead of dumping raw output")
  match if text = "" then none else detectPublicReplyNoiseSignal text with
  | some noiseSignal =>
    refuse (locationLabel ++ " looks like raw logs, JSON, diff, or tool output (" ++ noiseSignal ++
      "); write a human summary instead")
  | none => .ok ()

def validateText (value : Option Json) (label : String) : Except String Unit := do
  require (filled value) (label ++ " must be a non-empty string")
  assertNoPlaceholderText value label

def validateEach (fieldName : String) (check : Json → String → Except String Unit) (index : Nat) :
    List Json → Except String Unit
  | [] => .ok ()
  | item :: rest => do
    check item (fieldName ++ "[" ++ toString index ++ "]")
    validateEach fieldName check (index + 1) rest

def validateArray (items : Option Json) (fieldName mustBe : String)
    (check : Json → String → Except String Unit) : Except String Unit :=
  match Json.items? items with
  | some items => validateEach fieldName check 0 items
  | none => refuse (fieldName ++ mustBe)

def validateStringArrayField (items : Option Json) (fieldName : String) : Except String Unit :=
  validateArray items fieldName " must be an array" fun item label => validateText (some item) label

def validateOptionalTitle (entry : Json) (label : String) : Except String Unit := do
  if (entry.get? "title").isSome then
    require (filled (entry.get? "title"))
      (label ++ ".title must be a non-empty string when provided")
    assertNoPlaceholderText (entry.get? "title") (label ++ ".title")
  else .ok ()

section

variable (publicCommentLabel : String)

def validatePair (entry : Json) (label first second : String) : Except String Unit := do
  require (isRecord entry) (label ++ " must be an object")
  require (filled (entry.get? first)) (label ++ "." ++ first ++ " must be a non-empty string")
  require (filled (entry.get? second)) (label ++ "." ++ second ++ " must be a non-empty string")
  validateOptionalTitle entry label
  assertNoPlaceholderText (entry.get? first) (label ++ "." ++ first)
  assertNoPlaceholderText (entry.get? second) (label ++ "." ++ second)
  assertPublicReplyTextQuality (entry.get? first) (label ++ "." ++ first) publicCommentLabel
  assertPublicReplyTextQuality (entry.get? second) (label ++ "." ++ second) publicCommentLabel

def validateAddressedEntry (entry : Json) (label : String) : Except String Unit := do
  validatePair publicCommentLabel entry label "finding" "action"
  if (entry.get? "files").isSome then
    validateArray (entry.get? "files") (label ++ ".files") " must be an array if provided"
      fun file label => validateText (some file) label
  else .ok ()

def validateAddressedShapeField (items : Option Json) (fieldName : String) : Except String Unit :=
  validateArray items fieldName " must be an array" (validateAddressedEntry publicCommentLabel)

def validateAddressedField (items : Option Json) : Except String Unit :=
  validateAddressedShapeField publicCommentLabel items "addressed"

def validateNonBlockingField (items : Option Json) : Except String Unit :=
  validateAddressedShapeField publicCommentLabel items "nonBlocking"

def validateHardeningField (items : Option Json) : Except String Unit :=
  validateAddressedShapeField publicCommentLabel items "hardening"

def validatePushbackField (items : Option Json) : Except String Unit :=
  validateArray items "pushback" " must be an array" fun entry label =>
    validatePair publicCommentLabel entry label "finding" "reasoning"

def validateReasons (entry : Json) (label : String) : Except String Unit := do
  let hasReasoning := filled (entry.get? "reasoning")
  let hasNeedsHumanInput := filled (entry.get? "needsHumanInput")
  require (hasReasoning || hasNeedsHumanInput)
    (label ++ " must include a non-empty reasoning or needsHumanInput field")
  require ((entry.get? "reasoning").isNone || hasReasoning)
    (label ++ ".reasoning must be a non-empty string when provided")
  require ((entry.get? "needsHumanInput").isNone || hasNeedsHumanInput)
    (label ++ ".needsHumanInput must be a non-empty string when provided")
  assertNoPlaceholderText (entry.get? "finding") (label ++ ".finding")
  assertPublicReplyTextQuality (entry.get? "finding") (label ++ ".finding") publicCommentLabel
  if hasReasoning then do
    assertNoPlaceholderText (entry.get? "reasoning") (label ++ ".reasoning")
    assertPublicReplyTextQuality (entry.get? "reasoning") (label ++ ".reasoning")
      publicCommentLabel
  else .ok ()
  if hasNeedsHumanInput then do
    assertNoPlaceholderText (entry.get? "needsHumanInput") (label ++ ".needsHumanInput")
    assertPublicReplyTextQuality (entry.get? "needsHumanInput") (label ++ ".needsHumanInput")
      publicCommentLabel
  else .ok ()

def validateBlocker (entry : Json) (label : String) : Except String Unit :=
  match entry with
  | .str text => do
    validateText (some (.str text)) label
    assertPublicReplyTextQuality (some (.str text)) label publicCommentLabel
  | entry => do
    require (isRecord entry) (label ++ " must be a non-empty string or an object")
    require (filled (entry.get? "finding")) (label ++ ".finding must be a non-empty string")
    validateOptionalTitle entry label
    validateReasons publicCommentLabel entry label

def validateBlockersField (items : Option Json) : Except String Unit :=
  validateArray items "blockers" " must be an array" (validateBlocker publicCommentLabel)

def validateOperationalBlocker (entry : Json) (label : String) : Except String Unit := do
  require (isRecord entry) (label ++ " must be an object")
  require (filled (entry.get? "finding")) (label ++ ".finding must be a non-empty string")
  validateOptionalTitle entry label
  require ((entry.get? "kind").isNone || Json.isText (entry.get? "kind") "pending-ci")
    (label ++ ".kind must be one of: pending-ci")
  validateReasons publicCommentLabel entry label

def validateOperationalBlockersField (items : Option Json) : Except String Unit :=
  validateArray items "operationalBlockers" " must be an array"
    (validateOperationalBlocker publicCommentLabel)

end

def plainMark (char : Char) : Char :=
  let code := char.toNat
  if code ∈ [0x2018, 0x2019, 0x201a, 0x201b] then Char.ofNat 39
  else if code ∈ [0x201c, 0x201d, 0x201e, 0x201f] then Char.ofNat 34
  else if code ∈ [0x2010, 0x2011, 0x2012, 0x2013, 0x2014, 0x2015, 0x2212] then '-'
  else char

section

variable [JsText] [JsNormal]

def normalizeCoverageTitle (title : String) : String :=
  let marked := (JsNormal.nfkc title).toList.map plainMark
  JsText.toLowerCase (jsTrim (String.ofList (JsNormal.collapse false marked)))

def titleKey (title : Option String) : String :=
  normalizeCoverageTitle (title.getD "")

def normalizeOperationalBlockerTitle (value : Option Json) : Except String String := do
  let lower := JsText.toLowerCase (jsTrim (← Json.nullishText value))
  -- Each run of spaces and underscores becomes one dash.
  let spaced := lower.toList.map fun char => if char = '_' then ' ' else char
  return String.ofList ((JsNormal.collapse false spaced).map fun char =>
    if jsSpace char then '-' else char)

def isOperationalBlockerEntry (entry : Json) : Except String Bool := do
  if isRecord entry then
    return (← normalizeOperationalBlockerTitle (entry.get? "title")) ∈ operationalBlockerTitles
  else return false

def findingKeys (findings : List ReviewFinding) : List String :=
  (findings.map fun finding => titleKey finding.title).filter (· ≠ "")

def partBlockers (expectedKeys : List String) (index : Nat) :
    List Json → Except String (List Json × List Json)
  | [] => .ok ([], [])
  | blocker :: rest => do
    if ← isOperationalBlockerEntry blocker then
      let key := normalizeCoverageTitle (← Json.nullishText (blocker.get? "title"))
      if key ≠ "" ∧ key ∈ expectedKeys then
        .error ("Remediation reply blockers[" ++ toString index ++ "].title matches both a " ++
          "known operational blocker title and a blocking review finding title. Keep it in " ++
          "blockers[] or move it to operationalBlockers[] explicitly so validation does not " ++
          "silently relocate it.")
      else
        let (kept, operational) ← partBlockers expectedKeys (index + 1) rest
        return (kept, blocker :: operational)
    else
      let (kept, operational) ← partBlockers expectedKeys (index + 1) rest
      return (blocker :: kept, operational)

end

def entriesOf (reply : Json) (field : String) : List Json :=
  (Json.items? (reply.get? field)).getD []

section

variable [JsText] [JsNormal] (parsers : ReviewParsers)

def normalizeOperationalBlockers (reply : Json) (expectedJob : Option ExpectedJob) :
    Except String Json := do
  let given := reply.get? "operationalBlockers"
  match Json.items? (reply.get? "blockers"), given.isNone || (Json.items? given).isSome with
  | some blockers, true =>
    let expectedKeys := findingKeys
      ((parsers.parseBlockingFindingsSection (expectedJob.bind ExpectedJob.reviewBody)).getD [])
    let (kept, operational) ← partBlockers expectedKeys 0 blockers
    if operational = [] then return reply
    else
      return (reply.set "blockers" (.arr kept)).set "operationalBlockers"
        (.arr (entriesOf reply "operationalBlockers" ++ operational))
  | _, _ => return reply

def usesPerFindingReplyContract (reply : Json) : Bool :=
  (reply.get? "addressed").isSome || (reply.get? "pushback").isSome ||
    (reply.get? "nonBlocking").isSome || (reply.get? "hardening").isSome ||
    (reply.get? "operationalBlockers").isSome || (entriesOf reply "blockers").any isRecord

/-- An entry of a reply that answers for a finding. -/
structure CoverageEntry where
  field : String
  index : Nat
  entry : Json

def CoverageEntry.title (entry : CoverageEntry) : Option String :=
  (entry.entry.get? "title").bind Json.text?

def coverageEntries (reply : Json) (field : String) : List CoverageEntry :=
  (entriesOf reply field).zipIdx.map fun (entry, index) => { field, index, entry }

def shownTitle (title : Option String) : String := jsTrim (title.getD "")

def countKey (key : String) (keys : List String) : Nat := keys.count key

def listed (titles : List String) : String :=
  if titles = [] then "none" else "; ".intercalate titles

structure Coverage where
  findings : List ReviewFinding
  nonBlockingKeys : List String
  addressed : List CoverageEntry
  pushback : List CoverageEntry
  blockers : List CoverageEntry

namespace Coverage

variable (cover : Coverage)

def actualEntries : List CoverageEntry := cover.addressed ++ cover.pushback ++ cover.blockers

def blockingKeys : List String := findingKeys cover.findings

def isNonBlocking (key : String) : Bool :=
  key ≠ "" && key ∈ cover.nonBlockingKeys && key ∉ cover.blockingKeys

def nonBlockingExtras : List CoverageEntry :=
  cover.addressed.filter fun entry => cover.isNonBlocking (titleKey entry.title)

def blockingEntryTotal : Nat := cover.actualEntries.length - cover.nonBlockingExtras.length

def allTitled : Bool := cover.blockingKeys.length = cover.findings.length

def actualKeys : List String :=
  (cover.actualEntries.map fun entry => titleKey (some (shownTitle entry.title))).filter (· ≠ "")

def display (titles : List (Option String)) (key : String) : String :=
  match titles.find? fun title => titleKey title = key with
  | some title => if shownTitle title = "" then key else shownTitle title
  | none => key

def untitled : Option CoverageEntry :=
  cover.actualEntries.find? fun entry => !isRecord entry.entry || titleKey entry.title = ""

def missing : List String :=
  cover.blockingKeys.eraseDups.filter fun key =>
    countKey key cover.actualKeys < countKey key cover.blockingKeys

def extra : List String :=
  cover.actualKeys.eraseDups.filter fun key =>
    (countKey key cover.blockingKeys = 0 && key ∉ cover.nonBlockingKeys) ||
      (cover.allTitled && countKey key cover.blockingKeys < countKey key cover.actualKeys &&
        key ∉ cover.nonBlockingKeys)

def misplacedNonBlocking : List String :=
  ((cover.pushback ++ cover.blockers).map fun entry => titleKey entry.title).filter
    cover.isNonBlocking

def untitledMessage (entry : CoverageEntry) : String :=
  let place := entry.field ++ "[" ++ toString entry.index ++ "]"
  if (Json.text? entry.entry).isSome then
    "blockers[" ++ toString entry.index ++ "] is a string; when the adversarial review supplies " ++
      "a title for every blocking finding via bold bullet titles, H3 headings, or legacy Title " ++
      "fields, blockers entries must be objects with a non-empty title"
  else
    place ++ ".title is required because the adversarial review supplied titles via bold bullet " ++
      "titles, H3 headings, or legacy Title fields"

def countMessage : String :=
  "does not account for every blocking finding: review has " ++
    toString cover.findings.length ++ " blocking issue(s), reply records " ++
    toString cover.blockingEntryTotal ++ " (addressed=" ++ toString cover.addressed.length ++
    ", pushback=" ++ toString cover.pushback.length ++ ", blockers=" ++
    toString cover.blockers.length ++ "). Each blocking issue must appear exactly once across " ++
    "addressed[], pushback[], or blockers[]. If you fixed non-blocking findings too, put them " ++
    "in nonBlocking[] (not addressed[])."

def shown (titles : List (Option String)) (keys : List String) : List String :=
  keys.map (display titles)

def checkTitles : Except String Unit :=
  match if cover.allTitled then cover.untitled else none with
  | some entry => refuse (untitledMessage entry)
  | none => .ok ()

def check : Except String Unit := do
  require (cover.blockingEntryTotal = cover.findings.length) cover.countMessage
  if cover.blockingKeys = [] then .ok ()
  else do
    cover.checkTitles
    let titles := cover.actualEntries.map CoverageEntry.title
    let extras := cover.extra ++ cover.misplacedNonBlocking.eraseDups
    require (cover.missing = [] && extras = [])
      ("titles must match the blocking review bold bullet titles, H3 headings, or legacy Title " ++
        "fields exactly. Missing: " ++
        listed (shown (cover.findings.map ReviewFinding.title) cover.missing) ++
        ". Unexpected: " ++ listed (shown titles extras) ++ ".")

end Coverage

def coverageOf (reply : Json) (expectedJob : ExpectedJob) (findings : List ReviewFinding) :
    Coverage where
  findings
  nonBlockingKeys := findingKeys
    ((parsers.parseNonBlockingFindingsSection expectedJob.reviewBody).getD [])
  addressed := coverageEntries reply "addressed"
  pushback := coverageEntries reply "pushback"
  blockers := coverageEntries reply "blockers"

def operationalBlockersOnly (reply : Json) : Bool :=
  entriesOf reply "operationalBlockers" ≠ [] && entriesOf reply "addressed" = [] &&
    entriesOf reply "pushback" = [] && entriesOf reply "blockers" = []

def validateBlockingCoverage (reply : Json) (expectedJob : ExpectedJob) : Except String Unit :=
  if !usesPerFindingReplyContract reply then .ok ()
  else
    match parsers.parseBlockingFindingsSection expectedJob.reviewBody with
    | none | some [] => .ok ()
    | some (finding :: rest) =>
      if operationalBlockersOnly reply then .ok ()
      else (coverageOf parsers reply expectedJob (finding :: rest)).check

def validateGiven (value : Option Json) (check : Option Json → Except String Unit) :
    Except String Unit :=
  if value.isSome then check value else .ok ()

def validateFields (reply : Json) (publicCommentLabel : String) : Except String Unit := do
  require (filled (reply.get? "jobId")) "jobId is required"
  require (filled (reply.get? "summary")) "summary is required"
  assertNoPlaceholderText (reply.get? "summary") "summary"
  require (((reply.get? "outcome").bind Json.text?).any
    (· ∈ ["completed", "blocked", "partial"])) "outcome must be one of: completed, blocked, partial"
  validateStringArrayField (reply.get? "validation") "validation"
  validateBlockersField publicCommentLabel (reply.get? "blockers")
  validateGiven (reply.get? "operationalBlockers")
    (validateOperationalBlockersField publicCommentLabel)
  validateGiven (reply.get? "addressed") (validateAddressedField publicCommentLabel)
  validateGiven (reply.get? "pushback") (validatePushbackField publicCommentLabel)
  validateGiven (reply.get? "nonBlocking") (validateNonBlockingField publicCommentLabel)
  validateGiven (reply.get? "hardening") (validateHardeningField publicCommentLabel)

def reReviewRequested (reply : Json) : Bool :=
  Json.isBool (Json.member (reply.get? "reReview") "requested") true

def validateReReview (reply : Json) : Except String Unit := do
  let reReview := reply.get? "reReview"
  require (Json.plain reReview).isSome "reReview must be an object"
  require (Json.bool? (Json.member reReview "requested")).isSome
    "reReview.requested must be a boolean"
  require (!reReviewRequested reply || filled (Json.member reReview "reason"))
    "reReview.reason is required when reReview.requested is true"
  if reReviewRequested reply then
    assertNoPlaceholderText (Json.member reReview "reason") "reReview.reason"
  else .ok ()

def validateInvariants (reply : Json) : Except String Unit := do
  let usesNewSchema := usesPerFindingReplyContract reply
  let blockersPopulated := decide (entriesOf reply "blockers" ≠ [])
  let operationalBlockersPopulated := decide (entriesOf reply "operationalBlockers" ≠ [])
  let populated := blockersPopulated || operationalBlockersPopulated
  let outcome := reply.get? "outcome"
  require (!(usesNewSchema && populated && reReviewRequested reply))
    ("contradicts itself: blockers are populated but reReview.requested is true. A populated " ++
      "blockers or operationalBlockers list is a hard exit; set reReview.requested = false.")
  require (!(usesNewSchema && Json.isText outcome "blocked" && !populated))
    ("outcome is \"blocked\" but blockers and operationalBlockers are empty. A blocked outcome " ++
      "must list the unresolved blockers.")
  require (!(usesNewSchema && Json.isText outcome "blocked" && reReviewRequested reply))
    ("outcome is \"blocked\" but reReview.requested is true. A blocked outcome must set " ++
      "reReview.requested = false.")
  require (!(usesNewSchema && Json.isText outcome "completed" && populated))
    ("outcome is \"completed\" but blockers or operationalBlockers is non-empty. Use outcome " ++
      "\"partial\" or \"blocked\" when unresolved blockers remain.")

def validateJob (reply : Json) : Option ExpectedJob → Except String Unit
  | none => .ok ()
  | some expectedJob => do
    require (Json.isText (reply.get? "jobId") expectedJob.jobId)
      ("jobId mismatch: expected " ++ expectedJob.jobId ++ ", got " ++
        (((reply.get? "jobId").bind Json.text?).getD ""))
    validateBlockingCoverage parsers reply expectedJob

/-- All checks of a reply whose operational blockers are in their place. -/
def validateNormalized (reply : Json) (expectedJob : Option ExpectedJob)
    (publicCommentLabel : String) : Except String Unit := do
  validateFields reply publicCommentLabel
  validateReReview reply
  validateInvariants reply
  validateJob parsers reply expectedJob

def validateRemediationReply (reply : Json) (expectedJob : Option ExpectedJob)
    (publicCommentLabel : String) : Except String Json := do
  require (isRecord reply) "must be a JSON object"
  require (Json.isText (reply.get? "kind") "adversarial-review-remediation-reply")
    "kind must be adversarial-review-remediation-reply"
  if (Json.finite (reply.get? "schemaVersion")) = some 1 then do
    let normalized ← normalizeOperationalBlockers parsers reply expectedJob
    validateNormalized parsers normalized expectedJob publicCommentLabel
    return normalized
  else
    .error ("Unsupported remediation reply schemaVersion: " ++
      ((reply.get? "schemaVersion").bind JsText.string).getD "undefined")

def failureNamed (finding : String) : Bool :=
  let within (first second : List String) : JsPattern :=
    .seq [.oneOf (first.map .anyCase), .upTo JsPattern.inLine 15, .oneOf (second.map .anyCase)]
  (JsPattern.oneOf
    [.anyCase "contamination", within ["stale"] ["head"], within ["lease"] ["reject"],
      within ["auth"] ["fail", "missing"],
      within ["fetch", "rebase", "push"] ["fail", "reject", "conflict"]]).test finding

def pendingNamed (finding : String) : Bool :=
  let spaceOrDash : JsPattern := .one (· ∈ [' ', '-'])
  let inProgress : JsPattern := .seq [.anyCase "in", spaceOrDash, .anyCase "progress"]
  let checks : JsPattern :=
    .oneOf [.seq [.anyCase "check", .optional (.anyCase "s")], .anyCase "ci",
      .anyCase "repo-guards"]
  (JsPattern.seq
    [.boundary, checks, .boundary, .many (· ≠ '.'), .boundary,
      .oneOf [.anyCase "pending", .anyCase "queued", inProgress], .boundary]).test finding ||
  (JsPattern.seq
    [.boundary, inProgress, .anyCase " after ", .optional (.anyCase "the "),
      .anyCase "bounded CI wait", .boundary]).test finding

def isPending (entry : Json) : Bool :=
  let title := JsText.toLowerCase (Json.text (entry.get? "title"))
  let finding := ((entry.get? "finding").bind Json.text?).getD ""
  title ∉ operationalBlockerTitles && !failureNamed finding &&
    (Json.isText (entry.get? "kind") "pending-ci" ||
      title ∈ ["ci-pending", "pending-ci", "pr-head-ci-pending"] || pendingNamed finding)

def isHexDigit (char : Char) : Bool :=
  char.isDigit || char.toLower ∈ ['a', 'b', 'c', 'd', 'e', 'f']

def pushedCommit (evidence : String) : Option String :=
  let report : JsPattern :=
    .seq [.boundary, .anyCase "pushed ", .optional (.oneOf [.anyCase "commit ",
      .seq [.anyCase "PR head ", .optional (.anyCase "is ")]])]
  (JsPattern.places none evidence.toList).findSome? fun place =>
    (report place).findSome? fun at_ =>
      let digits := at_.rest.takeWhile isHexDigit
      let ends := !((at_.rest.drop digits.length).head?.any JsPattern.isWord)
      if 7 ≤ digits.length ∧ digits.length ≤ 40 ∧ ends = true then some (String.ofList digits)
      else none

def pushEvidence (reply : Json) : String :=
  "\n".intercalate ((reply.get? "summary" :: (entriesOf reply "validation").map some).map
    fun value => (value.bind Json.text?).getD "")

def alreadyKnownHead (expectedJob : Option ExpectedJob) (commit : String) : Bool :=
  [expectedJob.bind ExpectedJob.revisionRef, expectedJob.bind ExpectedJob.headSha].any fun head =>
    (head.bind Json.text?).any fun head => commit.isPrefixOf head

def ciPendingOnly (reply : Json) (expectedJob : Option ExpectedJob) : Bool :=
  let operational := entriesOf reply "operationalBlockers"
  operational ≠ [] && entriesOf reply "blockers" = [] && operational.all isPending &&
    (pushedCommit (pushEvidence reply)).any fun commit => !alreadyKnownHead expectedJob commit

def ciPendingReReview (reply : Json) : Json :=
  let reReview := (reply.get? "reReview").getD (.obj [])
  (((reReview.set "requested" (.bool true)).set "reason"
    (.str "Remediation fix pushed; external CI readiness remains gated before re-review.")).set
      "normalizedFrom" (.str "ci-pending-only")).set "originalOperationalBlockers"
        (.arr (entriesOf reply "operationalBlockers"))

def normalizeCiPendingOnlyReply (reply : Json) (expectedJob : Option ExpectedJob) : Json :=
  if ciPendingOnly reply expectedJob then
    ((reply.set "outcome" (.str "completed")).set "operationalBlockers" (.arr [])).set "reReview"
      (ciPendingReReview reply)
  else reply

end

end AdversarialReview.FollowUp
