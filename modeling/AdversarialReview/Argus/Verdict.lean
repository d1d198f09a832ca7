import Mathlib.Data.Rat.Floor
import AdversarialReview.Argus.Claim
import AdversarialReview.Library.Delimited
import AdversarialReview.Library.JsDate

/-! What a review's file name tells, and what the merge gate may conclude from the review: only a
recorded approval without a high finding satisfies it. -/

namespace AdversarialReview.Argus

def ownerChar (char : Char) : Bool :=
  char.isAlphanum || char ∈ ['-', '_']

/--
A GitHub slug: an owner, a slash and a name.

An owner holds underscores only one at a time and never ends in one.
-/
def isGithubSlug (slug : String) : Bool :=
  let owner := slug.toList.takeWhile (· ≠ '/')
  let name := (slug.toList.dropWhile (· ≠ '/')).drop 1
  !owner.isEmpty && owner.all ownerChar && decide (Delimited.NoDouble '_' owner) &&
    !name.isEmpty && name.all fileChar

def LowersAscii [JsText] : Prop :=
  ∀ text : String, (∀ char ∈ text.toList, char.toNat < 128) →
    JsText.toLowerCase text = String.ofList (text.toList.map Char.toLower)

structure SlugParts (slug : String) (owner name : List Char) : Prop where
  joined : slug.toList = owner ++ '/' :: name
  owners : ∀ char ∈ owner, ownerChar char = true
  single : Delimited.NoDouble '_' owner
  names : ∀ char ∈ name, fileChar char = true

variable {char : Char}

theorem ascii_forall {P : Char → Prop} (all : ∀ code < 128, P (Char.ofNat code))
    (small : char.toNat < 128) : P char := by
  have found := all char.toNat small
  rwa [Char.ofNat_toNat] at found

theorem fileChar_lt (kept : fileChar char = true) : char.toNat < 128 := by
  simp only [fileChar, Bool.or_eq_true, decide_eq_true_eq, List.mem_cons, List.not_mem_nil,
    or_false] at kept
  rcases kept with letter | rfl | rfl | rfl
  · -- A letter or a digit lies between two ASCII characters.
    have parts : ((char.isUpper || char.isLower) || char.isDigit) = true := letter
    simp only [Bool.or_eq_true] at parts
    rcases parts with (upper | lower) | digit
    · have range : char.val ≥ 'A'.val ∧ char.val ≤ 'Z'.val := of_decide_eq_true upper
      exact lt_of_le_of_lt (UInt32.le_iff_toNat_le.mp range.2) (by decide)
    · have range : (decide (char.val ≥ 'a'.val) && decide (char.val ≤ 'z'.val)) = true := lower
      simp only [Bool.and_eq_true, decide_eq_true_eq] at range
      exact lt_of_le_of_lt (UInt32.le_iff_toNat_le.mp range.2) (by decide)
    · have range : (decide (char.val ≥ '0'.val) && decide (char.val ≤ '9'.val)) = true := digit
      simp only [Bool.and_eq_true, decide_eq_true_eq] at range
      exact lt_of_le_of_lt (UInt32.le_iff_toNat_le.mp range.2) (by decide)
  all_goals decide

theorem fileChar_toLower (kept : fileChar char = true) :
    fileChar char.toLower = true := by
  have all : ∀ code < 128, fileChar (Char.ofNat code) = true →
      fileChar (Char.ofNat code).toLower = true := by decide
  exact ascii_forall (P := fun char => fileChar char = true → fileChar char.toLower = true) all
    (fileChar_lt kept) kept

theorem fileChar_not_space (kept : fileChar char = true) : jsSpace char = false := by
  have all : ∀ code < 128, fileChar (Char.ofNat code) = true →
      jsSpace (Char.ofNat code) = false := by decide
  exact ascii_forall (P := fun char => fileChar char = true → jsSpace char = false) all
    (fileChar_lt kept) kept

theorem toLower_underscore (kept : fileChar char = true)
    (lowered : char.toLower = '_') : char = '_' := by
  have all : ∀ code < 128, fileChar (Char.ofNat code) = true →
      (Char.ofNat code).toLower = '_' → Char.ofNat code = '_' := by decide
  exact ascii_forall
    (P := fun char => fileChar char = true → char.toLower = '_' → char = '_') all
    (fileChar_lt kept) kept lowered

theorem fileChar_of_owner (owner : ownerChar char = true) : fileChar char = true := by
  simp only [ownerChar, fileChar, Bool.or_eq_true, decide_eq_true_eq, List.mem_cons,
    List.not_mem_nil, or_false] at owner ⊢
  tauto

theorem slugParts_of_isGithubSlug {slug : String} (isSlug : isGithubSlug slug = true) :
    ∃ owner name, SlugParts slug owner name := by
  simp only [isGithubSlug, Bool.and_eq_true, Bool.not_eq_true', List.isEmpty_eq_false_iff,
    List.all_eq_true, decide_eq_true_eq] at isSlug
  obtain ⟨⟨⟨⟨_, owners⟩, single⟩, named⟩, names⟩ := isSlug
  refine ⟨_, _, ?_, owners, single, names⟩
  have split := List.takeWhile_append_dropWhile (p := (· ≠ '/')) (l := slug.toList)
  have stopped := List.head?_dropWhile_not (· ≠ '/') slug.toList
  -- The name is not empty, so the slash is there.
  match rest : slug.toList.dropWhile (· ≠ '/') with
  | [] =>
    rw [rest] at named
    exact absurd rfl named
  | mark :: name =>
    rw [rest] at stopped split
    have slash : mark = '/' := by simpa using stopped
    rw [slash] at split
    exact split.symm

namespace SlugParts

variable {slug : String} {owner name : List Char}

theorem chars (parts : SlugParts slug owner name) {char : Char} (listed : char ∈ slug.toList) :
    char = '/' ∨ fileChar char = true := by
  rw [parts.joined, List.mem_append, List.mem_cons] at listed
  rcases listed with inOwner | slash | inName
  · exact .inr (fileChar_of_owner (parts.owners char inOwner))
  · exact .inl slash
  · exact .inr (parts.names char inName)

theorem trim_eq (parts : SlugParts slug owner name) : jsTrim slug = slug := by
  have solid : ∀ char ∈ slug.toList, jsSpace char = false := by
    intro char listed
    rcases parts.chars listed with rfl | kept
    · decide
    · exact fileChar_not_space kept
  have front : slug.toList.dropWhile jsSpace = slug.toList :=
    List.dropWhile_eq_self_iff.mpr fun long => by
      simp [solid _ (List.getElem_mem long)]
  have back : slug.toList.reverse.dropWhile jsSpace = slug.toList.reverse :=
    List.dropWhile_eq_self_iff.mpr fun long => by
      rw [solid _ (List.mem_reverse.mp (List.getElem_mem long))]
      decide
  rw [jsTrim, front, back, List.reverse_reverse, String.ofList_toList]

theorem lower (parts : SlugParts slug owner name) :
    SlugParts (String.ofList (slug.toList.map Char.toLower)) (owner.map Char.toLower)
      (name.map Char.toLower) := by
  refine ⟨?_, ?_, ?_, ?_⟩
  · rw [String.toList_ofList, parts.joined]
    simp only [List.map_append, List.map_cons, List.append_cancel_left_eq]
    rfl
  · have all : ∀ code < 128, ownerChar (Char.ofNat code) = true →
        ownerChar (Char.ofNat code).toLower = true := by decide
    intro char listed
    obtain ⟨upper, member, rfl⟩ := List.mem_map.mp listed
    have owned := parts.owners upper member
    exact ascii_forall (P := fun char => ownerChar char = true → ownerChar char.toLower = true) all
      (fileChar_lt (fileChar_of_owner owned)) owned
  · refine parts.single.map (by decide) ?_
    intro char listed lowered
    exact toLower_underscore (fileChar_of_owner (parts.owners char listed)) lowered
  · intro char listed
    obtain ⟨upper, member, rfl⟩ := List.mem_map.mp listed
    exact fileChar_toLower (parts.names upper member)

theorem sanitize (parts : SlugParts slug owner name) :
    (sanitizeRepo slug).toList = owner ++ '_' :: '_' :: name := by
  have kept : ∀ chars : List Char, (∀ char ∈ chars, fileChar char = true) →
      chars.flatMap sanitizeChar = chars := by
    intro chars all
    induction chars with
    | nil => rfl
    | cons char rest ih =>
      have here := all char List.mem_cons_self
      have noSlash : char ≠ '/' := fun same => by
        subst same
        exact absurd here (by decide)
      have below := ih fun other listed => all other (List.mem_cons_of_mem char listed)
      simp [sanitizeChar, noSlash, here, below]
  have owners := kept owner fun char listed => fileChar_of_owner (parts.owners char listed)
  have names := kept name parts.names
  have slash : sanitizeChar '/' = ['_', '_'] := by decide
  rw [sanitizeRepo, String.toList_ofList, parts.joined, List.flatMap_append, List.flatMap_cons,
    owners, names, slash]
  rfl

end SlugParts

theorem isHeadSha_dashless {sha : String} (full : isHeadSha sha = true) : '-' ∉ sha.toList := by
  intro listed
  have hex : sha.toList.all hexChar = true := (Bool.and_eq_true_iff.mp full).2
  exact absurd (List.all_eq_true.mp hex '-' listed) (by decide)

/-- A subject whose name can be read back. -/
structure Nameable (subject : JobSubject) : Prop where
  slug : ∃ owner name, SlugParts subject.repo owner name
  sha : '-' ∉ subject.headSha.toList

theorem jobId_injective [JsNumber] {first second : JobSubject} (one : Nameable first)
    (two : Nameable second) (same : first.jobId = second.jobId) : first = second := by
  obtain ⟨owner, name, parts⟩ := one.slug
  obtain ⟨other, otherName, otherParts⟩ := two.slug
  have texts : (sanitizeRepo first.repo).toList ++ ['-', 'p', 'r'] ++ '-' ::
        (JsNumber.countText first.prNumber).toList ++ '-' :: first.headSha.toList =
      (sanitizeRepo second.repo).toList ++ ['-', 'p', 'r'] ++ '-' ::
        (JsNumber.countText second.prNumber).toList ++ '-' :: second.headSha.toList := by
    have joined := congrArg String.toList same
    have dash : "-".toList = ['-'] := by decide
    have mark : "-pr-".toList = ['-', 'p', 'r'] ++ ['-'] := by decide
    simpa [JobSubject.jobId, dash, mark] using joined
  -- From the end: no head has a dash, and no count has one.
  obtain ⟨front, heads⟩ := Delimited.last_mark_inj one.sha two.sha texts
  obtain ⟨slugs, numbers⟩ := Delimited.last_mark_inj (JsNumber.countText_dashless _)
    (JsNumber.countText_dashless _) front
  -- From the start: the slash of a slug is the first doubled underscore.
  rw [List.append_cancel_right_eq, parts.sanitize, otherParts.sanitize] at slugs
  obtain ⟨rfl, rfl⟩ := Delimited.double_mark_inj parts.single otherParts.single slugs
  have repos : first.repo = second.repo :=
    String.toList_inj.mp (parts.joined.trans otherParts.joined.symm)
  have counts := JsNumber.countText_injective (String.toList_inj.mp numbers)
  have shas := String.toList_inj.mp heads
  cases first
  cases second
  simp_all

section

variable [JsText]

theorem normalizeRepo_slug {slug : String} {owner name : List Char}
    (parts : SlugParts slug owner name) {repo : String}
    (found : normalizeRepo (some (.str slug)) = .ok repo) : repo = slug := by
  change (if jsTrim slug = "" then _ else Except.ok (jsTrim slug)) = _ at found
  rw [parts.trim_eq] at found
  split at found
  · cases found
  · exact (Except.ok.inj found).symm

variable [JsJson]

theorem isHeadSha_of_normalizeHeadSha {headSha : Option Json} {sha : String}
    (found : normalizeHeadSha headSha = .ok sha) : isHeadSha sha = true := by
  obtain ⟨text, _, rest⟩ := Except.bind_ok found
  split at rest
  · obtain rfl := Except.ok.inj rest
    assumption
  · cases rest

theorem jobSubject_slug (lowers : LowersAscii) {identity : JobIdentity} {slug : String}
    (named : identity.repo = some (.str slug)) (isSlug : isGithubSlug slug = true)
    {subject : JobSubject} (found : jobSubject identity = .ok subject) :
    Nameable subject ∧ subject.repo = String.ofList (slug.toList.map Char.toLower) := by
  obtain ⟨owner, name, parts⟩ := slugParts_of_isGithubSlug isSlug
  have lowered : JsText.toLowerCase slug = String.ofList (slug.toList.map Char.toLower) := by
    refine lowers slug ?_
    intro char listed
    rcases parts.chars listed with rfl | kept
    · decide
    · exact fileChar_lt kept
  -- The repository is trimmed and lowered, and the head has passed its pattern.
  obtain ⟨repo, repoOk, rest⟩ := Except.bind_ok found
  obtain ⟨number, -, rest⟩ := Except.bind_ok rest
  obtain ⟨sha, shaOk, rest⟩ := Except.bind_ok rest
  obtain rfl := Except.ok.inj rest
  have repoSlug : repo = slug := normalizeRepo_slug parts (named ▸ repoOk)
  rw [repoSlug, lowered]
  exact ⟨⟨⟨_, _, parts.lower⟩, isHeadSha_dashless (isHeadSha_of_normalizeHeadSha shaOk)⟩, rfl⟩

end

inductive VerdictState where
  | approved
  | blocked
  | needsVerification
  | queued
  | inProgress
  | stalled
  | failed
  | missing
  | malformed
  | superseded
  deriving DecidableEq

def argusVerdictSatisfiesGate (state : VerdictState) : Bool :=
  state ∈ [VerdictState.approved]

def argusVerdictBlocksGate (state : VerdictState) : Bool :=
  state ∈ [VerdictState.blocked, .stalled, .failed, .malformed]

structure ArgusVerdict where
  state : VerdictState
  summary : String
  bucket : Option JobBucket := none
  jobPath : Option String := none
  blockingFindings : List Json := []
  advisoryFindings : List Json := []
  waitedMs : Option Rat := none
  result : Option Json := none
  satisfiesGate : Bool := argusVerdictSatisfiesGate state
  blocks : Bool := argusVerdictBlocksGate state

def resultFindings (result : Option Json) : List Json :=
  (Json.items? (Json.member result "findings")).getD []

section

variable [JsText]

def findingSeverity (finding : Json) : Except String String :=
  Json.nullishLower (finding.get? "severity")

def findingsOfSeverity (wanted : List String) : List Json → Except String (List Json)
  | [] => .ok []
  | finding :: rest => do
    let severity ← findingSeverity finding
    let others ← findingsOfSeverity wanted rest
    return if severity ∈ wanted then finding :: others else others

def blockingArgusFindings (result : Option Json) : Except String (List Json) :=
  findingsOfSeverity ["high"] (resultFindings result)

def advisoryArgusFindings (result : Option Json) : Except String (List Json) :=
  findingsOfSeverity ["medium", "low"] (resultFindings result)

def resultVerdict (result : Option Json) : Except String String :=
  Json.nullishLower (Json.member result "verdict")

variable [JsJson]

def plural (count : Nat) : String :=
  if count = 1 then "" else "s"

structure InterpretedResult where
  state : VerdictState
  summary : String
  blockingFindings : List Json := []
  advisoryFindings : List Json := []

def interpretVerdict (result : Option Json) (blocking : List Json) (verdict : String) :
    Except String InterpretedResult :=
  -- Blocking findings outrank the recorded verdict.
  if 0 < blocking.length ∨ verdict = "block" then
    let count := blocking.length
    let detail :=
      if 0 < count then s!"{count} high-severity finding{plural count}" else "a blocking verdict"
    .ok
      { state := .blocked
        summary := s!"Argus security review blocks this merge: {detail}."
        blockingFindings := blocking }
  else if verdict = "needs_verification" then
    .ok
      { state := .needsVerification
        summary :=
          "Argus security review requires empirical verification that is missing or stale." }
  else if verdict = "superseded" then
    .ok
      { state := .superseded
        summary :=
          "Argus closed the review for this head without reviewing it; it has not been reviewed." }
  else if verdict = "approve" then do
    let advisory ← advisoryArgusFindings result
    let suffix :=
      if 0 < advisory.length then
        s!" {advisory.length} advisory finding{plural advisory.length} posted."
      else ""
    return {
      state := .approved
      summary := "Argus security review approves this head." ++ suffix
      advisoryFindings := advisory }
  else
    let recorded :=
      match Json.member result "verdict" with
      | none => "none"
      | some value => JsJson.stringify value
    .ok
      { state := .malformed
        summary := s!"Argus security review recorded an unrecognised verdict: {recorded}." }

def isObject : Option Json → Bool
  | some (.obj _) | some (.arr _) => true
  | _ => false

def interpretCompletedResult (result : Option Json) : Except String InterpretedResult :=
  if !isObject result then
    .ok
      { state := .malformed
        summary := "Argus recorded a completed review with no result document." }
  else do
    let blocking ← blockingArgusFindings result
    let verdict ← resultVerdict result
    interpretVerdict result blocking verdict

end

def normalizeTimestampMs [JsText] [JsDate] (value : Option Json) : Except String (Option Rat) := do
  match value with
  | none | some .null => return none
  | some value =>
    let text := jsTrim (← Json.nullishText (some value))
    if text = "" then return none
    else
      match JsText.number (.str text) with
      | some numeric => return some numeric
      | none => return (JsDate.parse text).map fun ms => (ms : Rat)

section

variable [JsText] [JsJson] [JsNumber] [JsDate]

def resolveInFlight (located : LocatedJob) (job : Json) (nowMs stallDeadlineMs : Rat) :
    Except String ArgusVerdict := do
  let started ← normalizeTimestampMs (job.get? "enqueuedAt")
  match started with
  | none =>
    return {
      state := .malformed
      bucket := some located.bucket
      jobPath := some located.jobPath
      summary := "Argus security job record is missing a valid enqueuedAt timestamp." }
  | some startedMs =>
    let waitedMs := max 0 (nowMs - startedMs)
    let inProgress : Bool := located.bucket = .inProgress
    if stallDeadlineMs < waitedMs then
      let hours := (waitedMs / (60 * 60 * 1000)).floor.toNat
      return {
        state := .stalled
        bucket := some located.bucket
        jobPath := some located.jobPath
        waitedMs := some waitedMs
        summary := "Argus security review has not returned after " ++ JsNumber.countText hours
          ++ "h; treating silence as unresolved." }
    else
      return {
        state := if inProgress then .inProgress else .queued
        bucket := some located.bucket
        jobPath := some located.jobPath
        waitedMs := some waitedMs
        summary :=
          if inProgress then "Argus security review is in progress for this head."
          else "Argus security review is queued for this head." }

def recordedError (job : Json) : Except String String :=
  if Json.truthy (job.get? "error") then Json.nullishText (job.get? "error")
  else .ok "no error recorded"

def resolveFailed (located : LocatedJob) (job : Json) : Except String ArgusVerdict := do
  let reason ← recordedError job
  return {
    state := .failed
    bucket := some located.bucket
    jobPath := some located.jobPath
    summary := "Argus security review failed: " ++ reason }

/-- A record whose review is over. -/
def resolveCompleted (located : LocatedJob) (job : Json) : Except String ArgusVerdict := do
  let interpreted ← interpretCompletedResult (job.get? "result")
  return {
    bucket := some located.bucket
    jobPath := some located.jobPath
    result := Json.orElse (job.get? "result") none
    blockingFindings := interpreted.blockingFindings
    advisoryFindings := interpreted.advisoryFindings
    state := interpreted.state
    summary := interpreted.summary }

def resolveLocated (located : LocatedJob) (nowMs stallDeadlineMs : Rat) :
    Except String ArgusVerdict :=
  match located.job.filter fun job => isObject (some job) with
  | none =>
    .ok
      { state := .malformed
        bucket := some located.bucket
        jobPath := some located.jobPath
        summary := "Argus security job record is unreadable." }
  | some job =>
    match located.bucket with
    | .failed => resolveFailed located job
    | .completed => resolveCompleted located job
    | .pending | .inProgress => resolveInFlight located job nowMs stallDeadlineMs

def resolveArgusSecurityVerdict (files : QueueFiles) (identity : JobIdentity)
    (nowMs stallDeadlineMs : Rat) : Except String ArgusVerdict :=
  match buildArgusJobId identity with
  | .error _ =>
    .ok
      { state := .missing
        summary := "No Argus security review can exist for this head: " ++
          "the queue identity is not well-formed." }
  | .ok _ =>
    match findArgusJob files identity with
    | .error message =>
      .ok
        { state := .failed
          summary := "Argus security queue could not be read: " ++ message }
    | .ok none =>
      .ok
        { state := .missing
          summary := "No Argus security review exists for this head." }
    | .ok (some located) => resolveLocated located nowMs stallDeadlineMs

end

theorem satisfies_iff {state : VerdictState} :
    argusVerdictSatisfiesGate state = true ↔ state = .approved := by
  cases state <;> decide

theorem locateJob_file {files : QueueFiles} {fileName : String} {buckets : List JobBucket}
    {located : LocatedJob} (found : locateJob files fileName buckets = some located) {job : Json}
    (parsed : located.job = some job) : files located.bucket fileName = some (.record job) := by
  -- By induction on the buckets: the record found lies in the first that has one.
  induction buckets with
  | nil => cases found
  | cons bucket rest ih =>
    simp only [locateJob] at found
    split at found
    · exact ih found
    · obtain rfl := Option.some.inj found
      cases parsed
    next value stored =>
      obtain rfl := Option.some.inj found
      obtain rfl := Option.some.inj parsed
      exact stored

section

variable [JsText]

structure Approves (result : Json) : Prop where
  verdict : resultVerdict (some result) = .ok "approve"
  calm : ∀ finding ∈ resultFindings (some result), findingSeverity finding ≠ .ok "high"

theorem mem_findingsOfSeverity {wanted : List String} {findings picked : List Json}
    (found : findingsOfSeverity wanted findings = .ok picked) {finding : Json}
    (listed : finding ∈ findings) {severity : String}
    (stated : findingSeverity finding = .ok severity) (among : severity ∈ wanted) :
    finding ∈ picked := by
  induction findings generalizing picked with
  | nil => cases listed
  | cons first rest ih =>
    obtain ⟨named, namedOk, found⟩ := Except.bind_ok found
    obtain ⟨others, othersOk, found⟩ := Except.bind_ok found
    obtain rfl := Except.ok.inj found
    rcases List.mem_cons.mp listed with rfl | later
    · obtain rfl : named = severity := Except.ok.inj (namedOk.symm.trans stated)
      rw [if_pos among]
      exact List.mem_cons_self
    · have below := ih othersOk later
      split
      · exact List.mem_cons_of_mem first below
      · exact below

variable {nowMs stallDeadlineMs : Rat} {verdict : ArgusVerdict}

theorem resolveInFlight_waits [JsDate] [JsNumber] {located : LocatedJob} {job : Json}
    (resolved : resolveInFlight located job nowMs stallDeadlineMs = .ok verdict) :
    verdict.satisfiesGate = false := by
  -- Every answer for a record in flight is a waiting or a stalled one.
  obtain ⟨started, -, resolved⟩ := Except.bind_ok resolved
  cases started with
  | none =>
    obtain rfl := Except.ok.inj resolved
    rfl
  | some startedMs =>
    dsimp only at resolved
    split at resolved
    · obtain rfl := Except.ok.inj resolved
      rfl
    · obtain rfl := Except.ok.inj resolved
      dsimp only
      split <;> rfl

variable [JsJson]

theorem interpretVerdict_approved {result : Option Json} {blocking : List Json} {verdict : String}
    {interpreted : InterpretedResult}
    (read : interpretVerdict result blocking verdict = .ok interpreted)
    (approved : interpreted.state = .approved) : blocking = [] ∧ verdict = "approve" := by
  unfold interpretVerdict at read
  split at read
  · obtain rfl := Except.ok.inj read
    cases approved
  split at read
  · obtain rfl := Except.ok.inj read
    cases approved
  split at read
  · obtain rfl := Except.ok.inj read
    cases approved
  split at read
  next quiet _ _ approves =>
    have none : ¬ 0 < blocking.length := fun some => quiet (.inl some)
    exact ⟨List.length_eq_zero_iff.mp (Nat.eq_zero_of_not_pos none), approves⟩
  next =>
    obtain rfl := Except.ok.inj read
    cases approved

theorem interpretCompletedResult_approved {result : Option Json} {interpreted : InterpretedResult}
    (read : interpretCompletedResult result = .ok interpreted)
    (approved : interpreted.state = .approved) : ∃ value, result = some value ∧ Approves value := by
  unfold interpretCompletedResult at read
  split at read
  · obtain rfl := Except.ok.inj read
    cases approved
  next object =>
    cases result with
    | none => exact absurd rfl object
    | some value =>
      obtain ⟨blocking, blockingOk, read⟩ := Except.bind_ok read
      obtain ⟨verdict, verdictOk, read⟩ := Except.bind_ok read
      obtain ⟨rfl, rfl⟩ := interpretVerdict_approved read approved
      refine ⟨value, rfl, verdictOk, ?_⟩
      intro finding listed high
      have blocks := mem_findingsOfSeverity blockingOk listed high List.mem_cons_self
      cases blocks

variable [JsDate] [JsNumber]

theorem resolveLocated_green {located : LocatedJob}
    (resolved : resolveLocated located nowMs stallDeadlineMs = .ok verdict)
    (green : verdict.satisfiesGate = true) :
    located.bucket = .completed ∧
      ∃ job result, located.job = some job ∧ job.get? "result" = some result ∧
        Approves result := by
  unfold resolveLocated at resolved
  split at resolved
  · obtain rfl := Except.ok.inj resolved
    cases green
  next job parsed =>
    have there := (Option.filter_eq_some_iff.mp parsed).1
    split at resolved
    next failed =>
      obtain ⟨reason, -, made⟩ := Except.bind_ok resolved
      obtain rfl := Except.ok.inj made
      cases green
    next completed =>
      obtain ⟨interpreted, read, made⟩ := Except.bind_ok resolved
      obtain rfl := Except.ok.inj made
      obtain ⟨result, found, approves⟩ :=
        interpretCompletedResult_approved read (satisfies_iff.mp green)
      exact ⟨completed, job, result, there, found, approves⟩
    all_goals
      have waits := resolveInFlight_waits resolved
      rw [green] at waits
      cases waits

theorem resolve_green {files : QueueFiles} {identity : JobIdentity}
    (resolved : resolveArgusSecurityVerdict files identity nowMs stallDeadlineMs = .ok verdict)
    (green : verdict.satisfiesGate = true) :
    ∃ subject job result, jobSubject identity = .ok subject ∧
      files .completed (subject.jobId ++ ".json") = some (.record job) ∧
      job.get? "result" = some result ∧ Approves result := by
  -- A green verdict is read of a completed record that is there.
  unfold resolveArgusSecurityVerdict at resolved
  split at resolved
  · obtain rfl := Except.ok.inj resolved
    cases green
  next jobId built =>
    obtain ⟨subject, subjectOk, named⟩ := Except.bind_ok built
    obtain rfl := Except.ok.inj named
    have lookup : findArgusJob files identity =
        .ok (locateJob files (subject.jobId ++ ".json") argusJobBuckets) := by
      rw [findArgusJob, built]
      rfl
    rw [lookup] at resolved
    split at resolved
    next failed => cases failed
    · obtain rfl := Except.ok.inj resolved
      cases green
    next located found =>
      obtain ⟨completed, job, result, parsed, recorded, approves⟩ :=
        resolveLocated_green resolved green
      have stored := locateJob_file (Except.ok.inj found) parsed
      rw [completed] at stored
      exact ⟨subject, job, result, subjectOk, stored, recorded, approves⟩

/--
Silence is never an approval, and no two reviews share a record.

Whatever the queue holds, a slug's gate opens only on a record in the completed bucket under the
very subject's name whose result approves without a high finding; and slugs that are named alike
are the same subject.
-/
theorem approval_is_recorded (lowers : LowersAscii) :
    (∀ (files : QueueFiles) (identity : JobIdentity) (slug : String)
      (nowMs stallDeadlineMs : Rat) (verdict : ArgusVerdict),
      identity.repo = some (.str slug) → isGithubSlug slug = true →
      resolveArgusSecurityVerdict files identity nowMs stallDeadlineMs = .ok verdict →
      verdict.satisfiesGate = true →
      ∃ subject job result, jobSubject identity = .ok subject ∧
        subject.repo = String.ofList (slug.toList.map Char.toLower) ∧
        files .completed (subject.jobId ++ ".json") = some (.record job) ∧
        job.get? "result" = some result ∧ Approves result) ∧
    ∀ (first second : JobIdentity) (one two : String) (jobId : String),
      first.repo = some (.str one) → isGithubSlug one = true →
      second.repo = some (.str two) → isGithubSlug two = true →
      buildArgusJobId first = .ok jobId → buildArgusJobId second = .ok jobId →
      ∃ subject, jobSubject first = .ok subject ∧ jobSubject second = .ok subject := by
  constructor
  · intro files identity slug nowMs stallDeadlineMs verdict named isSlug resolved green
    obtain ⟨subject, job, result, subjectOk, stored, recorded, approves⟩ :=
      resolve_green resolved green
    have repo := (jobSubject_slug lowers named isSlug subjectOk).2
    exact ⟨subject, job, result, subjectOk, repo, stored, recorded, approves⟩
  · intro first second one two jobId namedOne slugOne namedTwo slugTwo builtOne builtTwo
    obtain ⟨subject, firstOk, built⟩ := Except.bind_ok builtOne
    obtain ⟨other, secondOk, again⟩ := Except.bind_ok builtTwo
    have same : subject.jobId = other.jobId :=
      (Except.ok.inj built).trans (Except.ok.inj again).symm
    have nameable := (jobSubject_slug lowers namedOne slugOne firstOk).1
    have otherNameable := (jobSubject_slug lowers namedTwo slugTwo secondOk).1
    obtain rfl := jobId_injective nameable otherNameable same
    exact ⟨subject, firstOk, secondOk⟩

end

def sampleFiles : QueueFiles := fun bucket fileName =>
  if bucket = .completed ∧
      fileName = "acme__tool-pr-7-00000000000000000000000000000000000000aa.json" then
    some (.record (.obj [("result", .obj [("verdict", .str " Approve "),
      ("findings", .arr [.obj [("severity", .str "medium")]])])]))
  else none

def sampleIdentity : JobIdentity :=
  { repo := some (.str "Acme/Tool")
    prNumber := some (.num 7)
    headSha := some (.str "00000000000000000000000000000000000000AA") }

def opensGate : Except String ArgusVerdict → Bool
  | .ok verdict => verdict.satisfiesGate
  | .error _ => false

theorem approval_is_recorded_sample :
    letI := JsText.ascii
    letI := JsNumber.unshortened
    letI : JsJson := ⟨fun _ => ""⟩
    ∃ subject job result, jobSubject sampleIdentity = .ok subject ∧
      subject.repo = String.ofList ("Acme/Tool".toList.map Char.toLower) ∧
      sampleFiles .completed (subject.jobId ++ ".json") = some (.record job) ∧
      job.get? "result" = some result ∧ Approves result := by
  let _ := JsText.ascii
  let _ := JsNumber.unshortened
  let _ : JsJson := ⟨fun _ => ""⟩
  let _ := JsDate.isoDates
  have opens : opensGate (resolveArgusSecurityVerdict sampleFiles sampleIdentity 0 0) = true := by
    decide +kernel
  match resolved : resolveArgusSecurityVerdict sampleFiles sampleIdentity 0 0 with
  | .error _ => simp [resolved, opensGate] at opens
  | .ok verdict =>
    rw [resolved] at opens
    exact (approval_is_recorded fun _ _ => rfl).1 sampleFiles sampleIdentity "Acme/Tool" 0 0
      verdict rfl (by decide +kernel) resolved opens

end AdversarialReview.Argus
