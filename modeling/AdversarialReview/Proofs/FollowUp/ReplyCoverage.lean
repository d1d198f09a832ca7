import Mathlib.Data.Multiset.Count
import AdversarialReview.FollowUp.RemediationReply

/-! An accepted reply accounts for every blocking finding exactly once, and a reply whose checks are
pending is rewritten to ask for a review: when it stays acceptable. -/

namespace AdversarialReview.FollowUp

@[simp] theorem require_ok {holds : Bool} {reason : String} :
    require holds reason = .ok () ↔ holds = true := by
  cases holds <;> simp [require, refuse]

@[simp] theorem refuse_ok {reason : String} : ¬ refuse reason = .ok () := by
  intro passes
  cases passes

@[simp] theorem both_ok {first : Except String Unit} {second : Except String Unit} :
    (first >>= fun _ => second) = .ok () ↔ first = .ok () ∧ second = .ok () := by
  cases first with
  | error message => simp [Bind.bind, Except.bind]
  | ok value => simp [Bind.bind, Except.bind]

section

theorem plainMark_space {char : Char} (space : jsSpace char = true) : plainMark char = char := by
  have apart : ∀ code ∈ [0x2018, 0x2019, 0x201a, 0x201b, 0x201c, 0x201d, 0x201e, 0x201f, 0x2010,
      0x2011, 0x2012, 0x2013, 0x2014, 0x2015, 0x2212], char.toNat ≠ code := by
    intro code listed same
    simp only [jsSpace, same, Bool.or_eq_true, Bool.and_eq_true, decide_eq_true_eq] at space
    simp only [List.mem_cons, List.not_mem_nil, or_false] at listed space
    omega
  simp only [plainMark, List.mem_cons, List.not_mem_nil, or_false]
  simp only [List.mem_cons, List.not_mem_nil, or_false, forall_eq_or_imp, forall_eq] at apart
  simp [apart]

variable [JsText] [JsNormal]

theorem normalizeCoverageTitle_trim (title : String) :
    normalizeCoverageTitle (jsTrim title) = normalizeCoverageTitle title := by
  obtain ⟨front, back, spaceFront, spaceBack, parts⟩ := JsNormal.exists_trim title
  obtain ⟨before, after, spaceBefore, spaceAfter, same⟩ :=
    JsNormal.nfkc_edges front (jsTrim title).toList back spaceFront spaceBack
  rw [← parts, String.ofList_toList, String.ofList_toList] at same
  have marked : ∀ edge : List Char, (∀ char ∈ edge, jsSpace char = true) →
      edge.map plainMark = edge := by
    intro edge space
    rw [List.map_congr_left fun char listed => plainMark_space (space char listed)]
    exact List.map_id' edge
  unfold normalizeCoverageTitle
  rw [same, List.map_append, List.map_append, marked before spaceBefore, marked after spaceAfter]
  dsimp only
  rw [JsNormal.trim_collapse spaceBefore spaceAfter]

theorem titleKey_shown (title : Option String) :
    titleKey (some (shownTitle title)) = titleKey title := by
  exact normalizeCoverageTitle_trim _

end

theorem count_exact {wanted given : List String} (total : given.length = wanted.length)
    (enough : ∀ key ∈ wanted, wanted.count key ≤ given.count key) (key : String) :
    given.count key = wanted.count key := by
  have below : (wanted : Multiset String) ≤ given := by
    rw [Multiset.le_iff_count]
    intro key
    by_cases listed : key ∈ wanted
    · simpa using enough key listed
    · simp [List.count_eq_zero_of_not_mem listed]
  have same : (wanted : Multiset String) = given :=
    Multiset.eq_of_le_of_card_le below (by simp [total])
  have counts := congrArg (Multiset.count key) same
  simpa using counts.symm

section

variable [JsText] [JsNormal] {cover : Coverage}

structure CheckPassed (cover : Coverage) : Prop where
  total : cover.blockingEntryTotal = cover.findings.length
  named : ∀ entry ∈ cover.actualEntries, titleKey entry.title ≠ ""
  missing : cover.missing = []
  extra : cover.extra = []
  placed : cover.misplacedNonBlocking = []

theorem findingKeys_titled {findings : List ReviewFinding}
    (titled : ∀ finding ∈ findings, titleKey finding.title ≠ "") :
    findingKeys findings = findings.map fun finding => titleKey finding.title := by
  refine List.filter_eq_self.mpr ?_
  intro key listed
  obtain ⟨finding, given, rfl⟩ := List.mem_map.mp listed
  simpa using titled finding given

theorem checkPassed (some_finding : cover.findings ≠ [])
    (titled : ∀ finding ∈ cover.findings, titleKey finding.title ≠ "")
    (passed : cover.check = .ok ()) : CheckPassed cover := by
  have keys := findingKeys_titled titled
  have all : cover.allTitled = true := by
    simp [Coverage.allTitled, Coverage.blockingKeys, keys]
  have some_key : cover.blockingKeys ≠ [] := by
    simpa [Coverage.blockingKeys, keys] using some_finding
  simp only [Coverage.check, if_neg some_key, Coverage.checkTitles, all, if_true, both_ok,
    require_ok, decide_eq_true_eq, Bool.and_eq_true] at passed
  obtain ⟨total, untitled, missing, extras⟩ := passed
  rw [List.append_eq_nil_iff] at extras
  refine ⟨total, ?_, missing, extras.1, ?_⟩
  · -- An entry without a title would have been found.
    intro entry listed
    cases found : cover.untitled with
    | some entry =>
      rw [found] at untitled
      exact absurd untitled refuse_ok
    | none =>
      have clear := List.find?_eq_none.mp found entry listed
      simp only [Bool.or_eq_true, Bool.not_eq_true', decide_eq_true_eq, not_or] at clear
      exact clear.2
  · refine List.eq_nil_iff_forall_not_mem.mpr ?_
    intro key listed
    have there := List.mem_eraseDups.mpr listed
    rw [extras.2] at there
    cases there

variable (passed : CheckPassed cover)

include passed

theorem CheckPassed.actualKeys :
    cover.actualKeys = cover.actualEntries.map fun entry => titleKey entry.title := by
  have same : (cover.actualEntries.map fun entry => titleKey (some (shownTitle entry.title))) =
      cover.actualEntries.map fun entry => titleKey entry.title :=
    List.map_congr_left fun entry _ => titleKey_shown entry.title
  rw [Coverage.actualKeys, same]
  refine List.filter_eq_self.mpr ?_
  intro key listed
  obtain ⟨entry, given, rfl⟩ := List.mem_map.mp listed
  simpa using passed.named entry given

theorem CheckPassed.other {entry : CoverageEntry} (listed : entry ∈ cover.actualEntries)
    (other : titleKey entry.title ∉ cover.blockingKeys) :
    entry ∈ cover.addressed ∧ titleKey entry.title ∈ cover.nonBlockingKeys := by
  have key : titleKey entry.title ∈ cover.actualKeys := by
    rw [passed.actualKeys]
    exact List.mem_map_of_mem listed
  have nonBlocking : titleKey entry.title ∈ cover.nonBlockingKeys := by
    by_contra absent
    have found : titleKey entry.title ∈ cover.extra := by
      refine List.mem_filter.mpr ⟨List.mem_eraseDups.mpr key, ?_⟩
      simp [countKey, List.count_eq_zero_of_not_mem other, absent]
    rw [passed.extra] at found
    cases found
  refine ⟨?_, nonBlocking⟩
  simp only [Coverage.actualEntries, List.append_assoc, List.mem_append] at listed
  rcases listed with addressed | elsewhere
  · exact addressed
  · -- In another field it would be misplaced.
    have found : titleKey entry.title ∈ cover.misplacedNonBlocking := by
      refine List.mem_filter.mpr
        ⟨List.mem_map_of_mem (List.mem_append.mpr elsewhere), ?_⟩
      have named := passed.named entry (by
        simp only [Coverage.actualEntries, List.append_assoc, List.mem_append]
        exact .inr elsewhere)
      simp [Coverage.isNonBlocking, named, nonBlocking, other]
    rw [passed.placed] at found
    cases found

theorem CheckPassed.extras :
    cover.nonBlockingExtras.length =
      (cover.actualEntries.filter fun entry =>
        !decide (titleKey entry.title ∈ cover.blockingKeys)).length := by
  have addressed : ∀ entry ∈ cover.addressed,
      cover.isNonBlocking (titleKey entry.title) =
        !decide (titleKey entry.title ∈ cover.blockingKeys) := by
    intro entry listed
    have given : entry ∈ cover.actualEntries := by
      simp [Coverage.actualEntries, listed]
    have named := passed.named entry given
    by_cases blocking : titleKey entry.title ∈ cover.blockingKeys
    · simp [Coverage.isNonBlocking, blocking]
    · have other := (passed.other given blocking).2
      simp [Coverage.isNonBlocking, blocking, named, other]
  have elsewhere : ∀ entries : List CoverageEntry,
      (∀ entry ∈ entries, entry ∈ cover.pushback ++ cover.blockers) →
      entries.filter (fun entry => !decide (titleKey entry.title ∈ cover.blockingKeys)) = [] := by
    intro entries from_
    refine List.filter_eq_nil_iff.mpr ?_
    intro entry listed
    have where_ := from_ entry listed
    have given : entry ∈ cover.actualEntries := by
      simp only [Coverage.actualEntries, List.append_assoc, List.mem_append]
      exact .inr (List.mem_append.mp where_)
    have blocking : titleKey entry.title ∈ cover.blockingKeys := by
      by_contra other
      have found : titleKey entry.title ∈ cover.misplacedNonBlocking := by
        refine List.mem_filter.mpr ⟨List.mem_map_of_mem where_, ?_⟩
        simp [Coverage.isNonBlocking, passed.named entry given, (passed.other given other).2,
          other]
      rw [passed.placed] at found
      cases found
    simpa using blocking
  rw [Coverage.nonBlockingExtras, List.filter_congr addressed, Coverage.actualEntries,
    List.filter_append, List.filter_append,
    elsewhere cover.pushback fun entry listed => List.mem_append_left _ listed,
    elsewhere cover.blockers fun entry listed => List.mem_append_right _ listed]
  simp

theorem CheckPassed.exact (titled : ∀ finding ∈ cover.findings, titleKey finding.title ≠ "")
    {key : String} (blocking : key ∈ cover.blockingKeys) :
    countKey key (cover.actualEntries.map fun entry => titleKey entry.title) =
      countKey key cover.blockingKeys := by
  have keys := passed.actualKeys
  -- Only the entries about blocking findings are counted against them.
  have counted : ((cover.actualEntries.map fun entry => titleKey entry.title).filter
      fun key => key ∈ cover.blockingKeys).length = cover.blockingKeys.length := by
    have total := passed.total
    have extras := passed.extras
    have parts := List.length_eq_length_filter_add (l := cover.actualEntries)
      fun entry => decide (titleKey entry.title ∈ cover.blockingKeys)
    have size : cover.blockingKeys.length = cover.findings.length := by
      simp [Coverage.blockingKeys, findingKeys_titled titled]
    rw [List.filter_map, List.length_map]
    simp only [Function.comp_def]
    rw [Coverage.blockingEntryTotal] at total
    omega
  have enough : ∀ key ∈ cover.blockingKeys, cover.blockingKeys.count key ≤
      ((cover.actualEntries.map fun entry => titleKey entry.title).filter
        fun key => key ∈ cover.blockingKeys).count key := by
    intro key blocking
    rw [List.count_filter (by simpa using blocking)]
    by_contra short
    have found : key ∈ cover.missing := by
      refine List.mem_filter.mpr ⟨List.mem_eraseDups.mpr blocking, ?_⟩
      rw [keys]
      exact decide_eq_true (Nat.lt_of_not_le short)
    rw [passed.missing] at found
    cases found
  have exact_ := count_exact counted enough key
  rwa [List.count_filter (by simpa using blocking)] at exact_

end

section

variable [JsText] [JsNormal]

def replyEntries (reply : Json) : List CoverageEntry :=
  coverageEntries reply "addressed" ++ coverageEntries reply "pushback" ++
    coverageEntries reply "blockers"

/-- A reply accounts for every blocking finding exactly once: each blocking title has as many
entries as findings, and every other entry is an addressed one about a non-blocking finding. -/
structure ExactCoverage (reply : Json) (findings nonBlocking : List ReviewFinding) : Prop where
  blocking : ∀ key ∈ findingKeys findings,
    countKey key ((replyEntries reply).map fun entry => titleKey entry.title) =
      countKey key (findingKeys findings)
  other : ∀ entry ∈ replyEntries reply, titleKey entry.title ∉ findingKeys findings →
    entry ∈ coverageEntries reply "addressed" ∧
      titleKey entry.title ∈ findingKeys nonBlocking

theorem validated_job {parsers : ReviewParsers} {reply accepted : Json}
    {expectedJob : Option ExpectedJob} {publicCommentLabel : String}
    (valid : validateRemediationReply parsers reply expectedJob publicCommentLabel =
      .ok accepted) :
    isRecord reply = true ∧
      Json.isText (reply.get? "kind") "adversarial-review-remediation-reply" = true ∧
      Json.finite (reply.get? "schemaVersion") = some 1 ∧
      normalizeOperationalBlockers parsers reply expectedJob = .ok accepted ∧
      validateNormalized parsers accepted expectedJob publicCommentLabel = .ok () := by
  obtain ⟨⟨⟩, record, valid⟩ := Except.bind_ok valid
  obtain ⟨⟨⟩, kind, valid⟩ := Except.bind_ok valid
  split at valid
  next version =>
    obtain ⟨normalized, moved, valid⟩ := Except.bind_ok valid
    obtain ⟨⟨⟩, checked, valid⟩ := Except.bind_ok valid
    obtain rfl := Except.ok.inj valid
    exact ⟨require_ok.1 record, require_ok.1 kind, version, moved, checked⟩
  · cases valid

/-- A reply that is accepted accounts for every blocking finding of its review exactly once. -/
theorem blocking_coverage_exact (parsers : ReviewParsers) {reply accepted : Json}
    {job : ExpectedJob} {publicCommentLabel : String}
    (valid : validateRemediationReply parsers reply (some job) publicCommentLabel =
      .ok accepted)
    (contract : usesPerFindingReplyContract accepted = true) {findings : List ReviewFinding}
    (parsed : parsers.parseBlockingFindingsSection job.reviewBody = some findings)
    (some_finding : findings ≠ []) (titled : ∀ finding ∈ findings, titleKey finding.title ≠ "")
    (answers : operationalBlockersOnly accepted = false) :
    ExactCoverage accepted findings
      ((parsers.parseNonBlockingFindingsSection job.reviewBody).getD []) := by
  obtain ⟨-, -, -, -, checked⟩ := validated_job valid
  simp only [validateNormalized, validateJob, both_ok] at checked
  have covered := checked.2.2.2.2
  cases findings with
  | nil => exact absurd rfl some_finding
  | cons finding rest =>
    simp only [validateBlockingCoverage, contract, Bool.not_true, Bool.false_eq_true, if_false,
      parsed, answers] at covered
    have passed := checkPassed (by simp [coverageOf]) (by simpa [coverageOf] using titled) covered
    refine ⟨?_, ?_⟩
    · intro key blocking
      exact passed.exact (by simpa [coverageOf] using titled) blocking
    · intro entry listed other
      exact passed.other listed other

end

def oneFinding : ReviewParsers where
  parseBlockingFindingsSection _ := some [{ title := some "Lock the row" }]
  parseNonBlockingFindingsSection _ := some []

def oneFindingJob : ExpectedJob where
  jobId := "job-1"
  reviewBody := some (.str
    "## Blocking issues\n\n- **Lock the row**\n\n## Non-blocking issues\n\n- None.")
  revisionRef := some (.str "0123456789abcdef0123456789abcdef01234567")

def replyWith (outcome : String) (members : List (String × Json)) : Json :=
  .obj ([("kind", .str "adversarial-review-remediation-reply"), ("schemaVersion", .num 1),
    ("jobId", .str "job-1"), ("summary", .str "pushed abc1234"),
    ("outcome", .str outcome), ("validation", .arr []), ("blockers", .arr [])] ++ members)

def answeringReply : Json :=
  replyWith "completed"
    [("addressed", .arr [.obj [("title", .str " Lock  the row "), ("finding", .str "race"),
      ("action", .str "lock")]]),
      ("reReview", .obj [("requested", .bool true), ("reason", .str "fixed")])]

theorem answering_reply_covers :
    letI := JsText.ascii
    letI := JsNormal.plain
    ∃ accepted, validateRemediationReply oneFinding answeringReply (some oneFindingJob)
        "public reply" = .ok accepted ∧
      ExactCoverage accepted [{ title := some "Lock the row" }] [] := by
  let _ := JsText.ascii
  let _ := JsNormal.plain
  have kept : normalizeOperationalBlockers oneFinding answeringReply (some oneFindingJob) =
      .ok answeringReply := rfl
  have passes : (validateRemediationReply oneFinding answeringReply (some oneFindingJob)
      "public reply").isOk = true := by decide +kernel
  cases valid : validateRemediationReply oneFinding answeringReply (some oneFindingJob)
      "public reply" with
  | error message =>
    rw [valid] at passes
    cases passes
  | ok accepted =>
    have moved := (validated_job valid).2.2.2.1
    rw [kept] at moved
    obtain rfl := Except.ok.inj moved
    exact ⟨answeringReply, rfl, blocking_coverage_exact oneFinding valid rfl rfl (by decide)
      (by decide +kernel) (by decide +kernel)⟩

theorem isRecord_iff {value : Json} : isRecord value = true ↔ ∃ members, value = .obj members := by
  cases value <;> simp [isRecord, Json.plain]

theorem isRecord_set {value : Json} (record : isRecord value = true) (key : String) (new : Json) :
    isRecord (value.set key new) = true := by
  obtain ⟨members, rfl⟩ := isRecord_iff.1 record
  rfl

theorem get?_set_record {value : Json} (record : isRecord value = true) (key : String)
    (new : Json) : (value.set key new).get? key = some new := by
  obtain ⟨members, rfl⟩ := isRecord_iff.1 record
  exact Json.get?_set_self members key new

section

variable [JsText] [JsNormal] {parsers : ReviewParsers}

theorem partBlockers_again {expectedKeys : List String} {index : Nat} {blockers : List Json}
    {kept operational : List Json}
    (parted : partBlockers expectedKeys index blockers = .ok (kept, operational)) (other : Nat) :
    partBlockers expectedKeys other kept = .ok (kept, []) := by
  induction blockers generalizing index kept operational other with
  | nil =>
    obtain ⟨rfl, rfl⟩ := Prod.mk.inj (Except.ok.inj parted)
    rfl
  | cons blocker rest ih =>
    obtain ⟨known, isKnown, parted⟩ := Except.bind_ok parted
    cases known with
    | true =>
      obtain ⟨title, -, parted⟩ := Except.bind_ok parted
      dsimp only at parted
      split at parted
      · cases parted
      · obtain ⟨⟨others, moved⟩, before, parted⟩ := Except.bind_ok parted
        obtain ⟨rfl, rfl⟩ := Prod.mk.inj (Except.ok.inj parted)
        exact ih before other
    | false =>
      obtain ⟨⟨others, moved⟩, before, parted⟩ := Except.bind_ok parted
      obtain ⟨rfl, rfl⟩ := Prod.mk.inj (Except.ok.inj parted)
      unfold partBlockers
      rw [isKnown]
      simp only [Bind.bind, Except.bind, ih before (other + 1), Bool.false_eq_true, if_false]
      rfl

variable {expectedJob : Option ExpectedJob}

theorem normalizeOperationalBlockers_kept {reply : Json}
    {blockers : List Json} (given : Json.items? (reply.get? "blockers") = some blockers)
    (kept : partBlockers (findingKeys ((parsers.parseBlockingFindingsSection
      (expectedJob.bind ExpectedJob.reviewBody)).getD [])) 0 blockers = .ok (blockers, [])) :
    normalizeOperationalBlockers parsers reply expectedJob = .ok reply := by
  unfold normalizeOperationalBlockers
  dsimp only
  rw [given]
  cases ((reply.get? "operationalBlockers").isNone ||
    (Json.items? (reply.get? "operationalBlockers")).isSome) with
  | false => rfl
  | true =>
    dsimp only
    rw [kept]
    rfl

theorem normalized_again {reply accepted : Json} (record : isRecord reply = true)
    (moved : normalizeOperationalBlockers parsers reply expectedJob = .ok accepted) :
    normalizeOperationalBlockers parsers accepted expectedJob = .ok accepted ∧
      isRecord accepted = true ∧ accepted.get? "kind" = reply.get? "kind" ∧
      accepted.get? "schemaVersion" = reply.get? "schemaVersion" := by
  have whole := moved
  unfold normalizeOperationalBlockers at moved
  dsimp only at moved
  split at moved
  next blockers given arrays =>
    obtain ⟨⟨kept, operational⟩, parted, moved⟩ := Except.bind_ok moved
    dsimp only at moved
    split at moved
    · obtain rfl := Except.ok.inj moved
      exact ⟨whole, record, rfl, rfl⟩
    · obtain rfl := Except.ok.inj moved
      have inner := isRecord_set record "blockers" (.arr kept)
      refine ⟨?_, isRecord_set inner _ _, ?_, ?_⟩
      · have listed : Json.items? (((reply.set "blockers" (.arr kept)).set "operationalBlockers"
            (.arr (entriesOf reply "operationalBlockers" ++ operational))).get? "blockers") =
              some kept := by
          rw [Json.get?_set_of_ne _ (by decide), get?_set_record record]
          rfl
        exact normalizeOperationalBlockers_kept listed (partBlockers_again parted 0)
      · rw [Json.get?_set_of_ne _ (by decide), Json.get?_set_of_ne _ (by decide)]
      · rw [Json.get?_set_of_ne _ (by decide), Json.get?_set_of_ne _ (by decide)]
  next =>
    obtain rfl := Except.ok.inj moved
    exact ⟨whole, record, rfl, rfl⟩

theorem validate_iff {reply : Json} {publicCommentLabel : String} (record : isRecord reply = true)
    (kind : Json.isText (reply.get? "kind") "adversarial-review-remediation-reply" = true)
    (version : Json.finite (reply.get? "schemaVersion") = some 1)
    (kept : normalizeOperationalBlockers parsers reply expectedJob = .ok reply) :
    (∃ accepted, validateRemediationReply parsers reply expectedJob publicCommentLabel =
      .ok accepted) ↔
      validateNormalized parsers reply expectedJob publicCommentLabel = .ok () := by
  unfold validateRemediationReply
  rw [record, kind]
  simp only [require, if_true, version, Bind.bind, Except.bind, kept]
  cases validateNormalized parsers reply expectedJob publicCommentLabel with
  | error message => simp
  | ok value => exact ⟨fun _ => rfl, fun _ => ⟨reply, rfl⟩⟩

end

section

variable {reply : Json} {publicCommentLabel : String}

def requestedReply (reply : Json) : Json :=
  ((reply.set "outcome" (.str "completed")).set "operationalBlockers" (.arr [])).set "reReview"
    (ciPendingReReview reply)

section

variable (record : isRecord reply = true)

include record

theorem requestedReply_record : isRecord (requestedReply reply) = true :=
  isRecord_set (isRecord_set (isRecord_set record _ _) _ _) _ _

theorem requestedReply_outcome :
    (requestedReply reply).get? "outcome" = some (.str "completed") := by
  rw [requestedReply, Json.get?_set_of_ne _ (by decide), Json.get?_set_of_ne _ (by decide),
    get?_set_record record]

theorem requestedReply_operational :
    (requestedReply reply).get? "operationalBlockers" = some (.arr []) := by
  rw [requestedReply, Json.get?_set_of_ne _ (by decide), get?_set_record (isRecord_set record _ _)]

theorem requestedReply_reReview :
    (requestedReply reply).get? "reReview" = some (ciPendingReReview reply) := by
  rw [requestedReply, get?_set_record (isRecord_set (isRecord_set record _ _) _ _)]

end

theorem requestedReply_other {key : String}
    (other : key ∉ ["outcome", "operationalBlockers", "reReview"]) :
    (requestedReply reply).get? key = reply.get? key := by
  simp only [List.mem_cons, List.not_mem_nil, or_false, not_or] at other
  rw [requestedReply, Json.get?_set_of_ne _ other.2.2, Json.get?_set_of_ne _ other.2.1,
    Json.get?_set_of_ne _ other.1]

theorem requestedReply_entries {key : String}
    (other : key ∉ ["outcome", "operationalBlockers", "reReview"]) :
    entriesOf (requestedReply reply) key = entriesOf reply key := by
  rw [entriesOf, entriesOf, requestedReply_other other]

theorem requestedReply_fields (record : isRecord reply = true)
    (checked : validateFields reply publicCommentLabel = .ok ()) :
    validateFields (requestedReply reply) publicCommentLabel = .ok () := by
  have other : ∀ key ∈ ["jobId", "summary", "validation", "blockers", "addressed", "pushback",
      "nonBlocking", "hardening"], (requestedReply reply).get? key = reply.get? key := by
    intro key listed
    exact requestedReply_other (by
      simp only [List.mem_cons, List.not_mem_nil, or_false] at listed
      rcases listed with rfl | rfl | rfl | rfl | rfl | rfl | rfl | rfl <;> decide)
  simp only [List.mem_cons, List.not_mem_nil, or_false, forall_eq_or_imp, forall_eq] at other
  obtain ⟨jobId, summary, validation, blockers, addressed, pushback, nonBlocking, hardening⟩ :=
    other
  simp only [validateFields, both_ok] at checked ⊢
  rw [jobId, summary, validation, blockers, addressed, pushback, nonBlocking, hardening,
    requestedReply_outcome record, requestedReply_operational record]
  obtain ⟨checkedId, checkedSummary, plain, -, strings, blocked, -, rest⟩ := checked
  exact ⟨checkedId, checkedSummary, plain, rfl, strings, blocked, rfl, rest⟩

theorem requestedReply_checked (record : isRecord reply = true)
    (checked : validateReReview reply = .ok ()) :
    validateReReview (requestedReply reply) = .ok () ∧
      reReviewRequested (requestedReply reply) = true := by
  simp only [validateReReview, both_ok, require_ok] at checked
  have plain := checked.1
  obtain ⟨members, found⟩ : ∃ members, reply.get? "reReview" = some (.obj members) := by
    cases given : reply.get? "reReview" with
    | none => simp [given, Json.plain] at plain
    | some value =>
      cases value with
      | obj members => exact ⟨members, rfl⟩
      | _ => simp [given, Json.plain] at plain
  have asked : isRecord (.obj members) = true := rfl
  have first := isRecord_set asked "requested" (.bool true)
  have second := isRecord_set first "reason"
    (.str "Remediation fix pushed; external CI readiness remains gated before re-review.")
  have third := isRecord_set second "normalizedFrom" (.str "ci-pending-only")
  have whole : Json.plain (some (ciPendingReReview reply)) = some (ciPendingReReview reply) := by
    obtain ⟨members, same⟩ := isRecord_iff.1
      (isRecord_set third "originalOperationalBlockers"
        (.arr (entriesOf reply "operationalBlockers")))
    rw [ciPendingReReview, found, Option.getD_some, same]
    rfl
  have requested : (ciPendingReReview reply).get? "requested" = some (.bool true) := by
    rw [ciPendingReReview, found, Option.getD_some, Json.get?_set_of_ne _ (by decide),
      Json.get?_set_of_ne _ (by decide), Json.get?_set_of_ne _ (by decide), get?_set_record asked]
  have reason : (ciPendingReReview reply).get? "reason" = some
      (.str "Remediation fix pushed; external CI readiness remains gated before re-review.") := by
    rw [ciPendingReReview, found, Option.getD_some, Json.get?_set_of_ne _ (by decide),
      Json.get?_set_of_ne _ (by decide), get?_set_record first]
  have asks : reReviewRequested (requestedReply reply) = true := by
    rw [reReviewRequested, requestedReply_reReview record, Json.member, Option.bind_some, requested]
    rfl
  refine ⟨?_, asks⟩
  simp only [validateReReview, both_ok, require_ok, asks, requestedReply_reReview record, whole,
    Json.member, Option.bind_some, requested, reason, if_true, assertNoPlaceholderText]
  refine ⟨rfl, rfl, ?_⟩
  decide +kernel

theorem requestedReply_invariants (record : isRecord reply = true)
    (unblocked : entriesOf reply "blockers" = []) :
    validateInvariants (requestedReply reply) = .ok () := by
  have blockers : entriesOf (requestedReply reply) "blockers" = [] := by
    rw [requestedReply_entries (by decide), unblocked]
  have operational : entriesOf (requestedReply reply) "operationalBlockers" = [] := by
    rw [entriesOf, requestedReply_operational record]
    rfl
  have outcome : Json.isText ((requestedReply reply).get? "outcome") "blocked" = false := by
    rw [requestedReply_outcome record]
    decide
  simp [validateInvariants, blockers, operational, outcome]

variable [JsText] [JsNormal] {parsers : ReviewParsers} {job : ExpectedJob}

/-- The review has a finding that the rewritten reply has no entry for: the reply was accepted as
one that only says that operations are blocked. -/
structure UnansweredFindings (parsers : ReviewParsers) (job : ExpectedJob) (reply : Json) :
    Prop where
  pending : ciPendingOnly reply (some job) = true
  unaddressed : entriesOf reply "addressed" = []
  undisputed : entriesOf reply "pushback" = []
  findings : ∃ finding rest,
    parsers.parseBlockingFindingsSection job.reviewBody = some (finding :: rest)

/-- The rewritten reply accounts for the findings unless it has no entry at all. -/
theorem requestedReply_coverage (record : isRecord reply = true)
    (pending : ciPendingOnly reply (some job) = true)
    (covered : validateBlockingCoverage parsers reply job = .ok ()) :
    validateBlockingCoverage parsers (requestedReply reply) job = .ok () ↔
      ¬ UnansweredFindings parsers job reply := by
  have parts := pending
  simp only [ciPendingOnly, Bool.and_eq_true, decide_eq_true_eq] at parts
  obtain ⟨⟨⟨operational, unblocked⟩, -⟩, -⟩ := parts
  have given : (reply.get? "operationalBlockers").isSome = true := by
    cases found : reply.get? "operationalBlockers" with
    | none => simp [entriesOf, found, Json.items?] at operational
    | some value => rfl
  have before : usesPerFindingReplyContract reply = true := by
    simp [usesPerFindingReplyContract, given]
  have after : usesPerFindingReplyContract (requestedReply reply) = true := by
    simp [usesPerFindingReplyContract, requestedReply_operational record]
  have cleared : operationalBlockersOnly (requestedReply reply) = false := by
    have none : entriesOf (requestedReply reply) "operationalBlockers" = [] := by
      rw [entriesOf, requestedReply_operational record]
      rfl
    simp [operationalBlockersOnly, none]
  have entries : ∀ field ∈ ["addressed", "pushback", "blockers"],
      coverageEntries (requestedReply reply) field = coverageEntries reply field := by
    intro field listed
    have same : entriesOf (requestedReply reply) field = entriesOf reply field :=
      requestedReply_entries (by
        simp only [List.mem_cons, List.not_mem_nil, or_false] at listed
        rcases listed with rfl | rfl | rfl <;> decide)
    rw [coverageEntries, coverageEntries, same]
  have cover : ∀ findings, coverageOf parsers (requestedReply reply) job findings =
      coverageOf parsers reply job findings := by
    intro findings
    simp only [coverageOf, entries "addressed" (by simp), entries "pushback" (by simp),
      entries "blockers" (by simp)]
  cases parsed : parsers.parseBlockingFindingsSection job.reviewBody with
  | none =>
    refine ⟨fun _ unanswered => ?_, fun _ => ?_⟩
    · obtain ⟨finding, rest, found⟩ := unanswered.findings
      rw [parsed] at found
      cases found
    · simp [validateBlockingCoverage, after, parsed]
  | some findings =>
    cases findings with
    | nil =>
      refine ⟨fun _ unanswered => ?_, fun _ => ?_⟩
      · obtain ⟨finding, rest, found⟩ := unanswered.findings
        rw [parsed] at found
        cases found
      · simp [validateBlockingCoverage, after, parsed]
    | cons finding rest =>
      simp only [validateBlockingCoverage, before, after, parsed, cleared, Bool.not_true,
        Bool.false_eq_true, if_false, cover] at covered ⊢
      constructor
      · -- With no entry at all, the count falls short of the findings.
        intro passes unanswered
        simp only [Coverage.check, both_ok, require_ok, decide_eq_true_eq] at passes
        have total := passes.1
        simp [Coverage.blockingEntryTotal, Coverage.actualEntries, coverageOf, coverageEntries,
          unanswered.unaddressed, unanswered.undisputed, unblocked] at total
      · intro answered
        cases only : operationalBlockersOnly reply with
        | false =>
          rw [only, if_neg (by decide)] at covered
          exact covered
        | true =>
          simp only [operationalBlockersOnly, Bool.and_eq_true, decide_eq_true_eq] at only
          exact absurd ⟨pending, only.1.1.2, only.1.2, finding, rest, parsed⟩ answered

/-- Rewriting an accepted reply whose checks are pending keeps it acceptable, unless it has no
entry at all for a review with blocking findings. -/
theorem normalized_reply_accepted_iff (parsers : ReviewParsers) {reply accepted : Json}
    {job : ExpectedJob} {publicCommentLabel : String}
    (valid : validateRemediationReply parsers reply (some job) publicCommentLabel =
      .ok accepted) :
    (∃ again, validateRemediationReply parsers (normalizeCiPendingOnlyReply accepted (some job))
      (some job) publicCommentLabel = .ok again) ↔ ¬ UnansweredFindings parsers job accepted := by
  obtain ⟨givenRecord, givenKind, givenVersion, moved, checked⟩ := validated_job valid
  obtain ⟨kept, record, kind, version⟩ := normalized_again givenRecord moved
  rw [← kind] at givenKind
  rw [← version] at givenVersion
  cases pending : ciPendingOnly accepted (some job) with
  | false =>
    -- Nothing is rewritten, and the reply is accepted once more.
    have same : normalizeCiPendingOnlyReply accepted (some job) = accepted := by
      simp [normalizeCiPendingOnlyReply, pending]
    rw [same, validate_iff record givenKind givenVersion kept]
    refine ⟨fun _ unanswered => ?_, fun _ => checked⟩
    rw [unanswered.pending] at pending
    cases pending
  | true =>
    have same : normalizeCiPendingOnlyReply accepted (some job) = requestedReply accepted := by
      simp [normalizeCiPendingOnlyReply, pending, requestedReply]
    simp only [validateNormalized, validateJob, both_ok] at checked
    obtain ⟨fields, reReview, -, named, covered⟩ := checked
    have unblocked : entriesOf accepted "blockers" = [] := by
      have parts := pending
      simp only [ciPendingOnly, Bool.and_eq_true, decide_eq_true_eq] at parts
      exact parts.1.1.2
    have blockers : Json.items? ((requestedReply accepted).get? "blockers") = some [] := by
      rw [requestedReply_other (by decide)]
      have array := fields
      simp only [validateFields, both_ok] at array
      have array := array.2.2.2.2.2.1
      unfold validateBlockersField validateArray at array
      cases items : Json.items? (accepted.get? "blockers") with
      | none =>
        rw [items] at array
        exact absurd array refuse_ok
      | some items_ =>
        rw [entriesOf, items, Option.getD_some] at unblocked
        rw [unblocked]
    have keptAfter : normalizeOperationalBlockers parsers (requestedReply accepted) (some job) =
        .ok (requestedReply accepted) := normalizeOperationalBlockers_kept blockers rfl
    rw [same, validate_iff (requestedReply_record record)
      (by rw [requestedReply_other (by decide)]; exact givenKind)
      (by rw [requestedReply_other (by decide)]; exact givenVersion) keptAfter,
      ← requestedReply_coverage record pending covered]
    obtain ⟨asked, -⟩ := requestedReply_checked record reReview
    simp only [validateNormalized, validateJob, both_ok]
    constructor
    · exact fun passes => passes.2.2.2.2
    · intro passes
      refine ⟨requestedReply_fields record fields, asked,
        requestedReply_invariants record unblocked, ?_, passes⟩
      rw [requestedReply_other (by decide)]
      exact named

end

def pendingReply : Json :=
  replyWith "partial"
    [("operationalBlockers", .arr [.obj [("title", .str "ci-pending"),
      ("finding", .str "CI pending"), ("reasoning", .str "wait")]]),
      ("reReview", .obj [("requested", .bool false)])]

theorem pending_reply_valid :
    letI := JsText.ascii
    letI := JsNormal.plain
    (validateRemediationReply oneFinding pendingReply (some oneFindingJob)
      "public reply").isOk = true := by
  decide +kernel

theorem pending_reply_refused :
    letI := JsText.ascii
    letI := JsNormal.plain
    ¬ ∀ accepted, validateRemediationReply oneFinding pendingReply (some oneFindingJob)
        "public reply" = .ok accepted →
      ∃ again, validateRemediationReply oneFinding
        (normalizeCiPendingOnlyReply accepted (some oneFindingJob)) (some oneFindingJob)
          "public reply" = .ok again := by
  let _ := JsText.ascii
  let _ := JsNormal.plain
  intro keeps
  have passes := pending_reply_valid
  have kept : normalizeOperationalBlockers oneFinding pendingReply (some oneFindingJob) =
      .ok pendingReply := rfl
  -- The rewritten reply is left without an entry for the finding.
  have fails : (validateRemediationReply oneFinding
      (normalizeCiPendingOnlyReply pendingReply (some oneFindingJob)) (some oneFindingJob)
        "public reply").isOk = false := by decide +kernel
  cases valid : validateRemediationReply oneFinding pendingReply (some oneFindingJob)
      "public reply" with
  | error message =>
    rw [valid] at passes
    cases passes
  | ok accepted =>
    have moved := (validated_job valid).2.2.2.1
    rw [kept] at moved
    obtain rfl := Except.ok.inj moved
    obtain ⟨again, revalid⟩ := keeps pendingReply valid
    rw [revalid] at fails
    cases fails

theorem pending_reply_accepted_iff :
    letI := JsText.ascii
    letI := JsNormal.plain
    ∃ accepted, validateRemediationReply oneFinding pendingReply (some oneFindingJob)
        "public reply" = .ok accepted ∧
      ((∃ again, validateRemediationReply oneFinding
        (normalizeCiPendingOnlyReply accepted (some oneFindingJob)) (some oneFindingJob)
          "public reply" = .ok again) ↔
        ¬ UnansweredFindings oneFinding oneFindingJob accepted) := by
  let _ := JsText.ascii
  let _ := JsNormal.plain
  have passes := pending_reply_valid
  cases valid : validateRemediationReply oneFinding pendingReply (some oneFindingJob)
      "public reply" with
  | error message =>
    rw [valid] at passes
    cases passes
  | ok accepted => exact ⟨accepted, rfl, normalized_reply_accepted_iff oneFinding valid⟩

end AdversarialReview.FollowUp
