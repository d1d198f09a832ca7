import Mathlib.Data.List.Sort
import AdversarialReview.Library.JsPattern
import AdversarialReview.Library.Utf16

/-! The additive-only class of pull requests: who is in it, what its guard lets pass, and that its
label never contradicts the guard. -/

namespace AdversarialReview.AdditiveOnly

section

def additiveOnlyLabel : String := "pr-class: additive-only"

def scopeExpandLabel : String := "operator-approved: scope-expand"

structure TimelineEvent where
  event : String
  label : String := ""
  actor : Option String := none
  sha : Option String := none

def hasLabel (labels : List String) (name : String) : Bool :=
  labels.any fun label => jsTrim label = name

def normalizeSha (value : Option String) : Option String :=
  let sha := jsTrim (value.getD "")
  if sha = "" then none else some sha

variable [JsText]

def lowered (value : String) : String :=
  JsText.toLowerCase (jsTrim value)

def normalizeLogin (value : Option String) : String :=
  lowered (value.getD "")

def isLabelEvent (labelName : String) (event : TimelineEvent) : Bool :=
  lowered event.event ∈ ["labeled", "labeledevent"] && jsTrim event.label = labelName

def isHeadChangingEvent (event : TimelineEvent) : Bool :=
  lowered event.event ∈ ["committed", "head_ref_force_pushed", "headrefforcepushedevent",
    "head_ref_restored", "headrefrestoredevent"]

def currentHeadLabelAuthorized (events : List TimelineEvent) (labelName : String)
    (currentHeadSha prAuthor : Option String) : Bool :=
  let latest (kind : TimelineEvent → Bool) : Option (TimelineEvent × Nat) :=
    (events.zipIdx.filter fun entry => kind entry.1).getLast?
  match normalizeSha currentHeadSha, latest (isLabelEvent labelName) with
  | some head, some (labeled, index) =>
    let author := normalizeLogin prAuthor
    let actor := normalizeLogin labeled.actor
    author ≠ "" && actor ≠ "" && actor ≠ author &&
      (latest isHeadChangingEvent).all fun moved =>
        !(index < moved.2 : Bool) && (normalizeSha moved.1.sha).all fun sha => sha = head
  | _, _ => false

end

section

structure ChangedFile where
  filename : String
  status : String := ""
  previousFilename : String := ""
  /-- Absent unless it is a whole number. -/
  deletions : Option Int := none

structure CommitFiles where
  files : List ChangedFile
  truncated : Bool := false

structure Commit where
  sha : Option String
  /-- The files listed with the commit itself. -/
  files : List ChangedFile := []

def normalizeChangedPath (file : ChangedFile) : String :=
  jsTrim file.filename

open JsPattern in
def below (folder : String) : JsPattern :=
  seq [start, text folder, many1 (· ≠ '/'), optional (seq [text "/", many inLine]), ending]

open JsPattern in
def document (kind : String) : JsPattern :=
  seq [start, text kind, many1 (· ≠ '/'), text ".md", ending]

def postMergeActionsPattern : JsPattern := below "modules/worker-pool/post-merge-actions/"

def additiveOnlyAllowlist : List JsPattern :=
  [below "projects/", postMergeActionsPattern, document "docs/POSTMORTEM-", document "docs/AUDIT-"]

def withoutLeadingSlashes (pathname : String) : String :=
  String.ofList (pathname.toList.dropWhile (· = '/'))

def additiveOnlyPathAllowed (pathname : String) : Bool :=
  withoutLeadingSlashes pathname ≠ "" &&
    additiveOnlyAllowlist.any fun pattern => pattern.test (withoutLeadingSlashes pathname)

def ossReadinessRegistryPath : String := "scripts/oss-readiness-allowlist.registry.json"

def ossReadinessBaselinePath : String := "scripts/oss-readiness-category-baseline.json"

def pathIsPostMergeAction (pathname : String) : Bool :=
  postMergeActionsPattern.test (withoutLeadingSlashes pathname)

def registryChangeIsPurelyAdditive (file : ChangedFile) : Bool :=
  file.deletions = some 0

def forcedByPostMergeAction (files : List ChangedFile) : Bool :=
  files.any fun file => pathIsPostMergeAction (normalizeChangedPath file)

def registryExceptionApplies (files : List ChangedFile) : Bool :=
  forcedByPostMergeAction files &&
    (files.filter fun file => normalizeChangedPath file = ossReadinessRegistryPath).all
      registryChangeIsPurelyAdditive

def baselineExceptionApplies (files : List ChangedFile) : Bool :=
  forcedByPostMergeAction files

/-- The opening diff makes a pull request one of the class. -/
def changedFilesWithinAdditiveOnlyAllowlist (files : List ChangedFile) : Bool :=
  let entries := files.filter fun file => normalizeChangedPath file ≠ ""
  !entries.isEmpty && entries.all fun file =>
    let pathname := normalizeChangedPath file
    if pathname = ossReadinessRegistryPath then registryExceptionApplies entries
    else if pathname = ossReadinessBaselinePath then baselineExceptionApplies entries
    else additiveOnlyPathAllowed pathname

def initialCommitWindow (commits : List Commit) (openingHeadSha : Option String) :
    List Commit × Option String :=
  let normalized := commits.filterMap fun commit =>
    (normalizeSha commit.sha).map fun sha => { commit with sha := some sha }
  match normalizeSha openingHeadSha with
  | none => ([], none)
  | some target =>
    match normalized.findIdx? fun commit => commit.sha = some target with
    | none => ([], none)
    | some index => (normalized.drop (index + 1), some target)

def commitFileEntry (filesByCommit : String → Option CommitFiles) (commit : Commit) : CommitFiles :=
  ((normalizeSha commit.sha).bind filesByCommit).getD { files := commit.files }

variable [JsText]

def removesFile (file : ChangedFile) : Bool :=
  lowered file.status ∈ ["removed", "deleted"]

def fileViolatesAdditiveOnly (prForcedByPostMergeAction : Bool) (file : ChangedFile) : Bool :=
  let pathname := normalizeChangedPath file
  if pathname = "" then false
  else if pathname = ossReadinessRegistryPath then !registryChangeIsPurelyAdditive file
  else if pathname = ossReadinessBaselinePath then removesFile file || !prForcedByPostMergeAction
  else !additiveOnlyPathAllowed pathname

def collectFinalFilesForCommits (commits : List Commit)
    (filesByCommit : String → Option CommitFiles) : List ChangedFile :=
  let collect (filesByPath : OrderedMap String ChangedFile) (file : ChangedFile) :
      OrderedMap String ChangedFile :=
    let pathname := normalizeChangedPath file
    let previous := jsTrim file.previousFilename
    if pathname = "" then filesByPath
    else
      let moved := if lowered file.status = "renamed" ∧ previous ≠ "" ∧ previous ≠ pathname then
        filesByPath.erase previous else filesByPath
      if removesFile file then moved.erase pathname else moved.set pathname file
  ((commits.flatMap fun commit => (commitFileEntry filesByCommit commit).files).foldl collect
    OrderedMap.empty).values

end

section

structure ScopeSnapshot where
  repo : String
  prNumber : Nat
  labels : List String := []
  prAuthor : Option String := none
  currentHeadSha : Option String := none
  commits : List Commit := []
  filesByCommit : String → Option CommitFiles := fun _ => none
  timeline : List TimelineEvent := []
  openingHeadSha : Option String := none
  openingFiles : Option CommitFiles := none

structure ScopeViolationFinding where
  kind : String := "scope-violation"
  severity : String := "high"
  prUrl : String
  violatingFiles : List String
  fileListTruncated : Bool
  detail : String

structure ScopeEvaluation where
  additiveOnly : Bool
  derivedAdditiveOnly : Bool
  labeledAdditiveOnly : Bool
  initialHeadSha : Option String
  finding : Option ScopeViolationFinding := none
  violatingCommitSha : Option String := none
  violatingFiles : List String := []
  backfillNeeded : Bool := false
  overrideActive : Bool := false

def uniqueSorted (values : List String) : List String :=
  (values.filter (· ≠ "")).dedup.mergeSort Utf16.upTo

def buildScopeViolationFinding (repo : String) (prNumber : Nat) (commitSha : Option String)
    (violatingFiles : List String) (fileListTruncated : Bool) : ScopeViolationFinding :=
  let sha := commitSha.getD "null"
  { prUrl := "https://github.com/" ++ repo ++ "/pull/" ++ toString prNumber
    violatingFiles := uniqueSorted violatingFiles
    fileListTruncated
    detail := if fileListTruncated && (uniqueSorted violatingFiles).isEmpty then
        "PR is labeled " ++ additiveOnlyLabel ++ ", but commit " ++ sha ++ " touched more files " ++
          "than the additive-only guard could verify. Treating truncated scope input as " ++
          "inconclusive; to override, add label '" ++ scopeExpandLabel ++
          "' on the current head from a non-author actor."
      else
        "PR is labeled " ++ additiveOnlyLabel ++ " but commit " ++ sha ++ " added files outside " ++
          "the additive-only allowlist. To override, add label '" ++ scopeExpandLabel ++
          "' on the current head from a non-author actor." }

variable [JsText]

def ScopeSnapshot.labeled (snapshot : ScopeSnapshot) : Bool :=
  hasLabel snapshot.labels additiveOnlyLabel

def ScopeSnapshot.overrideActive (snapshot : ScopeSnapshot) : Bool :=
  hasLabel snapshot.labels scopeExpandLabel && currentHeadLabelAuthorized snapshot.timeline
    scopeExpandLabel snapshot.currentHeadSha snapshot.prAuthor

def ScopeSnapshot.derived (snapshot : ScopeSnapshot) : Bool :=
  (initialCommitWindow snapshot.commits snapshot.openingHeadSha).2.isSome &&
    snapshot.openingFiles.any fun opening =>
      !opening.truncated && changedFilesWithinAdditiveOnlyAllowlist opening.files

def ScopeSnapshot.forced (snapshot : ScopeSnapshot) : Bool :=
  forcedByPostMergeAction (collectFinalFilesForCommits snapshot.commits snapshot.filesByCommit)

def ScopeSnapshot.breaks (snapshot : ScopeSnapshot) (commit : Commit) : Bool :=
  let entry := commitFileEntry snapshot.filesByCommit commit
  entry.truncated || entry.files.any (fileViolatesAdditiveOnly snapshot.forced)

def evaluateAdditiveOnlyScope (snapshot : ScopeSnapshot) : ScopeEvaluation :=
  let window := initialCommitWindow snapshot.commits snapshot.openingHeadSha
  let base : ScopeEvaluation :=
    { additiveOnly := snapshot.labeled || snapshot.derived
      derivedAdditiveOnly := snapshot.derived
      labeledAdditiveOnly := snapshot.labeled
      initialHeadSha := window.2 }
  if !base.additiveOnly then base
  else if snapshot.overrideActive then { base with overrideActive := true }
  else
    let commitsToScan := if snapshot.labeled then snapshot.commits else window.1
    match commitsToScan.find? snapshot.breaks with
    | some commit =>
      let entry := commitFileEntry snapshot.filesByCommit commit
      let violatingFiles := ((entry.files.filter (fileViolatesAdditiveOnly snapshot.forced)).map
        normalizeChangedPath).filter (· ≠ "")
      { base with
        violatingCommitSha := normalizeSha commit.sha
        violatingFiles := uniqueSorted violatingFiles
        finding := some (buildScopeViolationFinding snapshot.repo snapshot.prNumber
          (normalizeSha commit.sha) violatingFiles entry.truncated) }
    | none =>
      { base with
        backfillNeeded := snapshot.derived && !snapshot.labeled &&
          snapshot.commits.all fun commit => !snapshot.breaks commit }

end

variable [JsText] {snapshot : ScopeSnapshot} {file : ChangedFile} {prForced : Bool}

def permitted (prForced : Bool) (file : ChangedFile) (path : String) : Bool :=
  additiveOnlyPathAllowed path ||
    (path = ossReadinessRegistryPath && registryChangeIsPurelyAdditive file) ||
    (path = ossReadinessBaselinePath && !removesFile file && prForced)

def renamedFrom (file : ChangedFile) : Option String :=
  if lowered file.status = "renamed" ∧ file.previousFilename ≠ "" then some file.previousFilename
  else none

def FilePermitted (prForced : Bool) (file : ChangedFile) : Prop :=
  (file.filename ≠ "" → permitted prForced file file.filename = true) ∧
    ∀ previous, renamedFrom file = some previous → additiveOnlyPathAllowed previous = true

def UnreadPermitted (prForced : Bool) (file : ChangedFile) : Prop :=
  (jsTrim file.filename ≠ file.filename → permitted prForced file file.filename = true) ∧
    ∀ previous, renamedFrom file = some previous → additiveOnlyPathAllowed previous = true

def ScopeSnapshot.listedFiles (snapshot : ScopeSnapshot) : List ChangedFile :=
  snapshot.commits.flatMap fun commit => (commitFileEntry snapshot.filesByCommit commit).files

/-- The pull request is held to the class by its label. -/
def ScopeSnapshot.enforced (snapshot : ScopeSnapshot) : Prop :=
  snapshot.labeled = true ∧ snapshot.overrideActive = false

/-- What enforcement lets pass stays within the class. -/
def Complete (snapshot : ScopeSnapshot) : Prop :=
  snapshot.enforced → (evaluateAdditiveOnlyScope snapshot).finding = none →
    ∀ file ∈ snapshot.listedFiles, FilePermitted snapshot.forced file

def ScopeSnapshot.withLabel (snapshot : ScopeSnapshot) : ScopeSnapshot :=
  { snapshot with labels := additiveOnlyLabel :: snapshot.labels }

def Consistent (snapshot : ScopeSnapshot) : Prop :=
  (evaluateAdditiveOnlyScope snapshot).backfillNeeded = true →
    (evaluateAdditiveOnlyScope snapshot.withLabel).finding = none

theorem finding_none_iff (enforced : snapshot.enforced) :
    (evaluateAdditiveOnlyScope snapshot).finding = none ↔
      ∀ commit ∈ snapshot.commits, snapshot.breaks commit = false := by
  simp only [evaluateAdditiveOnlyScope, enforced.1, enforced.2, Bool.true_or, Bool.not_true,
    Bool.false_eq_true, if_false, if_true]
  cases broken : snapshot.commits.find? snapshot.breaks with
  | none => simpa using broken
  | some commit =>
    simp only [reduceCtorEq, false_iff, not_forall, Bool.not_eq_false]
    exact ⟨commit, List.mem_of_find?_eq_some broken, List.find?_some broken⟩

theorem permitted_of_not_violates (plain : jsTrim file.filename = file.filename)
    (named : file.filename ≠ "") (fits : fileViolatesAdditiveOnly prForced file = false) :
    permitted prForced file file.filename = true := by
  simp only [fileViolatesAdditiveOnly, normalizeChangedPath, plain, named, if_false] at fits
  split at fits
  · next registry =>
    rw [Bool.not_eq_false'] at fits
    simp [permitted, registry, fits]
  · split at fits
    · next baseline =>
      rw [Bool.or_eq_false_iff, Bool.not_eq_false'] at fits
      simp [permitted, baseline, fits.1, fits.2]
    · rw [Bool.not_eq_false'] at fits
      simp [permitted, fits]

theorem filesPermitted_iff (clean : ∀ commit ∈ snapshot.commits, snapshot.breaks commit = false) :
    (∀ file ∈ snapshot.listedFiles, FilePermitted snapshot.forced file) ↔
      ∀ file ∈ snapshot.listedFiles, UnreadPermitted snapshot.forced file := by
  refine forall₂_congr fun file listed => and_congr_left fun _ => ?_
  obtain ⟨commit, among, inEntry⟩ := List.mem_flatMap.mp listed
  have fits : fileViolatesAdditiveOnly snapshot.forced file = false := by
    have whole := clean commit among
    rw [ScopeSnapshot.breaks, Bool.or_eq_false_iff, List.any_eq_false] at whole
    exact Bool.eq_false_iff.mpr (whole.2 file inEntry)
  constructor
  · intro every odd
    refine every fun empty => odd ?_
    rw [empty]
    rfl
  · intro unread named
    by_cases plain : jsTrim file.filename = file.filename
    · exact permitted_of_not_violates plain named fits
    · exact unread plain

theorem enforced_withLabel (free : snapshot.overrideActive = false) :
    snapshot.withLabel.enforced := by
  have own : jsTrim additiveOnlyLabel = additiveOnlyLabel := by decide +kernel
  have other : additiveOnlyLabel ≠ scopeExpandLabel := by decide
  refine ⟨by simp [ScopeSnapshot.labeled, ScopeSnapshot.withLabel, hasLabel, own], ?_⟩
  have same : hasLabel snapshot.withLabel.labels scopeExpandLabel =
      hasLabel snapshot.labels scopeExpandLabel := by
    simp [ScopeSnapshot.withLabel, hasLabel, own, other]
  rw [← free, ScopeSnapshot.overrideActive, same]
  rfl

theorem consistent (snapshot : ScopeSnapshot) : Consistent snapshot := by
  intro needed
  simp only [evaluateAdditiveOnlyScope] at needed
  split at needed
  · cases needed
  split at needed
  · cases needed
  · next free =>
    split at needed
    · cases needed
    · simp only [Bool.and_eq_true, List.all_eq_true, Bool.not_eq_true'] at needed
      exact (finding_none_iff (enforced_withLabel (Bool.eq_false_iff.mpr free))).mpr needed.2

/--
The guard's label never contradicts it, but what it lets pass may leave the class.

It stays within it exactly where the label is not enforced, where a commit breaks the class, or
where the paths that no check reads are permitted.
-/
theorem complete_consistent_iff (snapshot : ScopeSnapshot) :
    (Complete snapshot ∧ Consistent snapshot) ↔
      (snapshot.enforced → (∃ commit ∈ snapshot.commits, snapshot.breaks commit = true) ∨
        ∀ file ∈ snapshot.listedFiles, UnreadPermitted snapshot.forced file) := by
  rw [and_iff_left (consistent snapshot)]
  refine forall_congr' fun enforced => ?_
  rw [finding_none_iff enforced]
  by_cases clean : ∀ commit ∈ snapshot.commits, snapshot.breaks commit = false
  · have none_breaks : ¬∃ commit ∈ snapshot.commits, snapshot.breaks commit = true := by
      rintro ⟨commit, among, breaks⟩
      rw [clean commit among] at breaks
      cases breaks
    rw [forall_prop_of_true clean, or_iff_right none_breaks, filesPermitted_iff clean]
  · refine iff_of_true (fun whole => absurd whole clean) (.inl ?_)
    simpa using clean

def movedIn : ScopeSnapshot where
  repo := "acme/app"
  prNumber := 7
  labels := [additiveOnlyLabel]
  commits := [{
    sha := some "c0ffee"
    files := [{
      filename := "projects/app/server.mjs"
      status := "renamed"
      previousFilename := "src/server.mjs" }] }]

omit [JsText] in
theorem movedIn_incomplete :
    letI := JsText.ascii
    ¬(Complete movedIn ∧ Consistent movedIn) := by
  let _ := JsText.ascii
  rintro ⟨complete, -⟩
  have moved := complete ⟨by decide +kernel, by decide +kernel⟩ (by decide +kernel) _
    List.mem_cons_self
  exact absurd (moved.2 "src/server.mjs" (by decide +kernel)) (by decide +kernel)

end AdversarialReview.AdditiveOnly
