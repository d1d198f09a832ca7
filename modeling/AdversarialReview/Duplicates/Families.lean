import Mathlib.Data.List.Sort
import AdversarialReview.Library.JsText

/-! Families of duplicate pull requests of one repository: censuses, decisions and closeouts. -/

namespace AdversarialReview.Duplicates

inductive FamilyStatus where
  | advisory | inactive | survivorSelected | survivorMerged | resolved | abandoned
  deriving DecidableEq

/-- The survivor of a family as an operator selected it. -/
structure Selection where
  candidatePrNumber : Nat
  candidateHeadSha : String
  reportPath : String
  actor : String
  reason : String
  salvage : String
  validation : String
  auditPending : Bool
  observedAt : String
  /-- The other head that was observed since, where the selection is stale. -/
  stale : Option String := none

/-- A candidate that an operator ruled out as a duplicate at that head. -/
structure IgnoredCandidate where
  candidatePrNumber : Nat
  candidateHeadSha : String
  actor : String
  reason : String
  observedAt : String
  stale : Option String := none

structure Abandonment where
  actor : String
  reason : String
  observedAt : String

/-- The decisions of operators on a family. -/
structure OperatorOverride where
  selection : Option Selection := none
  ignoredCandidates : List IgnoredCandidate := []
  abandoned : Option Abandonment := none

/-- A row of `duplicate_families`. -/
structure Family where
  familyId : String
  familyKey : String
  status : FamilyStatus := .advisory
  selectedSurvivor : Option Nat := none
  reportPath : Option String := none
  operatorOverride : OperatorOverride := {}
  candidateCount : Nat := 0

inductive Role where
  | candidate | survivor | loser
  deriving DecidableEq

structure Candidate where
  familyId : String
  prNumber : Nat
  prState : Option String := some "open"
  headSha : Option String
  role : Role := .candidate
  suppressions : List String := []

def Candidate.isOpen (candidate : Candidate) : Bool :=
  ((candidate.prState.getD "").toList.map Char.toLower) = "open".toList

structure FamilyStore where
  families : List Family := []
  candidates : List Candidate := []

namespace FamilyStore

def readExistingFamilyByKey (store : FamilyStore) (familyKey : String) : Option Family :=
  store.families.find? (·.familyKey = familyKey)

def requireDuplicateFamily (store : FamilyStore) (familyId : String) : Except String Family :=
  match store.families.find? (·.familyId = familyId) with
  | some family => .ok family
  | none => .error s!"duplicate family not found: {familyId}"

def duplicateFamilyCandidateRows (store : FamilyStore) (familyId : String) : List Candidate :=
  (store.candidates.filter (·.familyId = familyId)).insertionSort (·.prNumber ≤ ·.prNumber)

def updateFamily (store : FamilyStore) (familyId : String) (edit : Family → Family) :
    FamilyStore :=
  { store with
    families := store.families.map fun family =>
      if family.familyId = familyId then edit family else family }

def updateCandidates (store : FamilyStore) (selects : Candidate → Bool)
    (edit : Candidate → Candidate) : FamilyStore :=
  { store with
    candidates := store.candidates.map fun candidate =>
      if selects candidate then edit candidate else candidate }

end FamilyStore

structure ObservedPull where
  prNumber : Nat
  prState : Option String
  headSha : Option String

/-- A member of a family that a census found. -/
structure CensusCandidate where
  prNumber : Nat
  prState : Option String
  headSha : Option String
  suppressions : List String := []

structure DetectedFamily where
  familyId : String
  familyKey : String
  /-- How many members are open and not suppressed. -/
  candidateCount : Nat
  allCandidates : List CensusCandidate

def refreshObservedDuplicateCandidateRows (store : FamilyStore) (entries : List ObservedPull) :
    FamilyStore :=
  entries.foldl (fun store entry =>
    store.updateCandidates (·.prNumber = entry.prNumber) fun candidate =>
      { candidate with prState := entry.prState, headSha := entry.headSha }) store

/-- Another head than the decided one, where the census saw one that was not noted yet. -/
def movedHead (candidates : List CensusCandidate) (prNumber : Nat) (headSha : String)
    (stale : Option String) : Option String :=
  match candidates.find? (·.prNumber = prNumber) with
  | none => none
  | some candidate =>
    candidate.headSha.filter fun observed =>
      observed ≠ "" && observed ≠ headSha && stale ≠ some observed

def Selection.staleIfMoved (selection : Selection) (candidates : List CensusCandidate) :
    Selection :=
  match movedHead candidates selection.candidatePrNumber selection.candidateHeadSha
      selection.stale with
  | some observed => { selection with stale := some observed }
  | none => selection

def IgnoredCandidate.staleIfMoved (ignored : IgnoredCandidate)
    (candidates : List CensusCandidate) : IgnoredCandidate :=
  match movedHead candidates ignored.candidatePrNumber ignored.candidateHeadSha ignored.stale with
  | some observed => { ignored with stale := some observed }
  | none => ignored

def updateOperatorOverrideForHeadMove (existing : OperatorOverride)
    (candidates : List CensusCandidate) : OperatorOverride :=
  { existing with
    selection := existing.selection.map (·.staleIfMoved candidates)
    ignoredCandidates := existing.ignoredCandidates.map (·.staleIfMoved candidates) }

def Family.redetected (existing : Family) (family : DetectedFamily) : Family :=
  let reactivates := existing.status = .inactive ∨ existing.status = .resolved
  { existing with
    status := if reactivates then .advisory else existing.status
    selectedSurvivor := if reactivates then none else existing.selectedSurvivor
    reportPath := if reactivates then none else existing.reportPath
    operatorOverride := updateOperatorOverrideForHeadMove
      (if reactivates then {} else existing.operatorOverride) family.allCandidates
    candidateCount := family.candidateCount }

def upsertFamily (store : FamilyStore) (family : DetectedFamily) :
    Except String (String × FamilyStore) :=
  match store.readExistingFamilyByKey family.familyKey with
  | some existing => .ok (existing.familyId,
      { store with
        families := store.families.map fun other =>
          if other.familyKey = family.familyKey then other.redetected family else other })
  | none =>
    if store.families.any (·.familyId = family.familyId) then
      .error "UNIQUE constraint failed: duplicate_families.family_id"
    else .ok (family.familyId,
      { store with
        families := store.families ++
          [{ familyId := family.familyId, familyKey := family.familyKey
             candidateCount := family.candidateCount }] })

/-- A member of a family, inserted as a candidate; a known pull request keeps its role. -/
def upsertCandidate (store : FamilyStore) (familyId : String) (candidate : CensusCandidate) :
    FamilyStore :=
  if store.candidates.any (·.prNumber = candidate.prNumber) then
    store.updateCandidates (·.prNumber = candidate.prNumber) fun existing =>
      { existing with
        familyId := familyId
        prState := candidate.prState
        headSha := candidate.headSha
        suppressions := candidate.suppressions }
  else
    { store with
      candidates := store.candidates ++
        [{ familyId, prNumber := candidate.prNumber, prState := candidate.prState
           headSha := candidate.headSha, suppressions := candidate.suppressions }] }

def upsertDetected (store : FamilyStore) : List DetectedFamily → Except String FamilyStore
  | [] => .ok store
  | family :: rest =>
    match upsertFamily store family with
    | .error message => .error message
    | .ok (familyId, store) =>
      upsertDetected (family.allCandidates.foldl (upsertCandidate · familyId ·) store) rest

def FamilyStatus.deactivatable (status : FamilyStatus) : Bool :=
  status = .advisory || status = .survivorSelected || status = .abandoned

def deactivateMissing (store : FamilyStore) (families : List DetectedFamily)
    (entries : List ObservedPull) : FamilyStore :=
  { store with
    families := store.families.map fun family =>
      let found := families.any (·.familyKey = family.familyKey)
      let observed := store.candidates.any fun candidate =>
        candidate.familyId = family.familyId &&
          entries.any (·.prNumber = candidate.prNumber)
      if family.status.deactivatable && !found && observed then
        { family with status := .inactive, candidateCount := 0 }
      else family }

def upsertDuplicateFamilies (store : FamilyStore) (families : List DetectedFamily)
    (entries : List ObservedPull) : Except String FamilyStore := do
  let store ← upsertDetected store families
  return deactivateMissing store families entries

/-- A census: what it observed is kept even where its families cannot be written. -/
def reconcileDuplicateFamiliesForRepo (store : FamilyStore) (entries : List ObservedPull)
    (families : List DetectedFamily) : FamilyStore :=
  let refreshed := refreshObservedDuplicateCandidateRows store entries
  match upsertDuplicateFamilies refreshed families entries with
  | .ok store => store
  | .error _ => refreshed

def isActiveIgnoredCandidate (operatorOverride : OperatorOverride) (candidate : Candidate) : Bool :=
  operatorOverride.ignoredCandidates.any fun entry =>
    entry.candidatePrNumber = candidate.prNumber &&
      entry.candidateHeadSha = candidate.headSha.getD "" && entry.stale.isNone

/-- Who decides, and why. -/
structure OperatorAudit where
  actor : String
  reason : String
  salvage : String := "true"
  validation : String := "true"

def validateOperatorAudit (audit : OperatorAudit) : Except String Unit :=
  if jsTrim audit.actor = "" then .error "operator actor is required"
  else if jsTrim audit.reason = "" then .error "auditable reason is required"
  else if jsTrim audit.salvage = "" then .error "salvage audit text is required"
  else if jsTrim audit.validation = "" then .error "validation audit text is required"
  else .ok ()

def contains (part : List Char) : List Char → Bool
  | [] => part.isEmpty
  | char :: rest => part.isPrefixOf (char :: rest) || contains part rest

def reportDirectory : String := "docs/research/duplicate-pr-divergence/reports/"

def validateReportPath (reportPath : String) : Except String String :=
  let text := jsTrim reportPath
  let lower := text.toList.map Char.toLower
  let name := lower.drop reportDirectory.length
  if text = "" ∨ text.toList.head? = some '/' ∨ contains "..".toList text.toList then
    .error "report path must be a repository-relative committed path"
  else if reportDirectory.toList.isPrefixOf lower && ".md".toList.isSuffixOf name &&
      ".md".length < name.length then
    .ok text
  else .error "report path must name a duplicate-divergence corpus report"

structure SurvivorChoice where
  familyId : String
  survivorPrNumber : Nat
  reportPath : String
  reportVerifiedHeadSha : String
  audit : OperatorAudit
  auditPending : Bool := false
  now : String

def selectedRole (choice : SurvivorChoice) (operatorOverride : OperatorOverride)
    (candidate : Candidate) : Role :=
  if candidate.prNumber = choice.survivorPrNumber then .survivor
  else if !candidate.suppressions.isEmpty || isActiveIgnoredCandidate operatorOverride candidate
    then .candidate
  else .loser

def selectDuplicateFamilySurvivor (store : FamilyStore) (choice : SurvivorChoice) :
    Except String (Selection × FamilyStore) := do
  validateOperatorAudit choice.audit
  let reportPath ← validateReportPath choice.reportPath
  let family ← store.requireDuplicateFamily choice.familyId
  if family.status = .abandoned ∨ family.status = .resolved ∨ family.status = .survivorMerged then
    .error s!"cannot select a survivor from the family {choice.familyId}"
  else
    match (store.duplicateFamilyCandidateRows choice.familyId).find?
        (·.prNumber = choice.survivorPrNumber) with
    | none =>
      .error s!"survivor PR #{choice.survivorPrNumber} is not a member of {choice.familyId}"
    | some survivor =>
      if choice.reportVerifiedHeadSha = "" ∨
          survivor.headSha ≠ some choice.reportVerifiedHeadSha then
        .error "report verification must be bound to the selected survivor current head"
      else
        let selection : Selection :=
          { candidatePrNumber := choice.survivorPrNumber
            candidateHeadSha := choice.reportVerifiedHeadSha
            reportPath
            actor := jsTrim choice.audit.actor
            reason := jsTrim choice.audit.reason
            salvage := jsTrim choice.audit.salvage
            validation := jsTrim choice.audit.validation
            auditPending := choice.auditPending
            observedAt := choice.now }
        let selected := store.updateFamily choice.familyId fun row =>
          { row with
            status := .survivorSelected
            selectedSurvivor := some choice.survivorPrNumber
            reportPath := some reportPath
            operatorOverride := { family.operatorOverride with selection := some selection } }
        return (selection, selected.updateCandidates (·.familyId = choice.familyId)
          fun candidate =>
            { candidate with role := selectedRole choice family.operatorOverride candidate })

def Family.confirmed (observedAt candidateHeadSha : String) (family : Family) : Family :=
  match family.operatorOverride.selection with
  | some current =>
    if family.status = .survivorSelected ∧ current.auditPending = true ∧
        current.observedAt = observedAt ∧ current.candidateHeadSha = candidateHeadSha then
      { family with
        operatorOverride := { family.operatorOverride with
          selection := some { current with auditPending := false } } }
    else family
  | none => family

def confirmSelectionAudit (store : FamilyStore) (familyId observedAt candidateHeadSha : String) :
    FamilyStore :=
  store.updateFamily familyId (·.confirmed observedAt candidateHeadSha)

def ignoreDuplicateFamilyCandidate (store : FamilyStore) (familyId : String) (prNumber : Nat)
    (candidateHeadSha : String) (audit : OperatorAudit) (now : String) :
    Except String FamilyStore := do
  validateOperatorAudit { audit with salvage := "true", validation := "true" }
  let family ← store.requireDuplicateFamily familyId
  match (store.duplicateFamilyCandidateRows familyId).find? (·.prNumber = prNumber) with
  | none => .error s!"PR #{prNumber} is not a member of {familyId}"
  | some candidate =>
    if candidateHeadSha = "" ∨ candidate.headSha ≠ some candidateHeadSha then
      .error "ignored-not-duplicate override must name the candidate current head"
    else
      let others := family.operatorOverride.ignoredCandidates.filter
        (·.candidatePrNumber ≠ prNumber)
      return store.updateFamily familyId fun row =>
        { row with
          operatorOverride := { family.operatorOverride with
            ignoredCandidates := others ++
              [{ candidatePrNumber := prNumber, candidateHeadSha
                 actor := jsTrim audit.actor, reason := jsTrim audit.reason
                 observedAt := now }] } }

def abandonDuplicateFamily (store : FamilyStore) (familyId : String) (audit : OperatorAudit)
    (now : String) : Except String FamilyStore := do
  validateOperatorAudit { audit with salvage := "true", validation := "true" }
  let family ← store.requireDuplicateFamily familyId
  return store.updateFamily familyId fun row =>
    { row with
      status := .abandoned
      operatorOverride := { family.operatorOverride with
        abandoned := some
          { actor := jsTrim audit.actor, reason := jsTrim audit.reason, observedAt := now } } }

/-- A pull request as GitHub answers; an absent head is empty. -/
structure Pull where
  state : String
  merged : Bool := false
  headSha : String

structure CloseoutPass where
  censusVerified : Bool := true
  mergeAuthority : Bool := true
  /-- The answer for a pull request; nothing where the request fails. -/
  pull : Nat → Option Pull
  /-- Whether the comment and the close of a pull request succeed. -/
  closes : Nat → Bool := fun _ => true

structure Closed where
  familyId : String
  prNumber : Nat
  headSha : Option String
  deriving DecidableEq

/-- What the losers of a family came to. -/
structure LoserOutcome where
  closed : List Candidate := []
  failed : Bool := false
  needsReadjudication : Bool := false

def Pull.otherHead (pull : Pull) (headSha : Option String) : Bool :=
  pull.headSha ≠ "" && some pull.headSha ≠ headSha

def closeLosers (call : CloseoutPass) : List Candidate → LoserOutcome
  | [] => {}
  | loser :: rest =>
    match call.pull loser.prNumber with
    | none => { failed := true }
    | some pull =>
      if pull.state.toList.map Char.toLower ≠ "open".toList then closeLosers call rest
      else if pull.otherHead loser.headSha then
        { closeLosers call rest with needsReadjudication := true }
      else if call.closes loser.prNumber then
        let outcome := closeLosers call rest
        { outcome with closed := loser :: outcome.closed }
      else { failed := true }

/-- The losers that a family may close. -/
def closableLosers (operatorOverride : OperatorOverride) (candidates : List Candidate) :
    List Candidate :=
  candidates.filter fun candidate =>
    candidate.role = .loser && candidate.isOpen && candidate.suppressions.isEmpty &&
      !operatorOverride.ignoredCandidates.any (·.candidatePrNumber = candidate.prNumber)

def needsReadjudication (operatorOverride : OperatorOverride) (candidates : List Candidate) :
    Bool :=
  (candidates.any fun candidate =>
    candidate.isOpen && candidate.suppressions.isEmpty &&
      !isActiveIgnoredCandidate operatorOverride candidate && candidate.role = .candidate) ||
  operatorOverride.ignoredCandidates.any fun entry =>
    entry.stale.isSome && candidates.any (·.prNumber = entry.candidatePrNumber)

def mergedSurvivor (call : CloseoutPass) (family : Family) (candidates : List Candidate) :
    Option (Candidate × Selection) := do
  let selected ← family.selectedSurvivor
  let survivor ← candidates.find? (·.prNumber = selected)
  let selection ← family.operatorOverride.selection
  if selection.auditPending ∨ selection.stale.isSome ∨
      some selection.candidateHeadSha ≠ survivor.headSha then none
  else
    let pull ← call.pull survivor.prNumber
    if pull.otherHead survivor.headSha ∨ !pull.merged then none
    else some (survivor, selection)

def closeFamily (call : CloseoutPass) (family : Family) (store : FamilyStore) :
    List Closed × FamilyStore :=
  let candidates := store.duplicateFamilyCandidateRows family.familyId
  match mergedSurvivor call family candidates with
  | none => ([], store)
  | some (survivor, _) =>
    let operatorOverride := family.operatorOverride
    let outcome := closeLosers call (closableLosers operatorOverride candidates)
    let merged := (store.updateCandidates
        (fun row => row.prNumber = survivor.prNumber && row.headSha = survivor.headSha)
        fun row => { row with prState := some "merged" }).updateFamily family.familyId
      fun row => { row with
        status := if row.status = .survivorSelected then .survivorMerged else row.status }
    let closed := merged.updateCandidates
      (fun row => outcome.closed.any fun loser =>
        loser.prNumber = row.prNumber && loser.headSha = row.headSha)
      fun row => { row with prState := some "closed" }
    let done := !outcome.failed && !outcome.needsReadjudication &&
      !needsReadjudication operatorOverride candidates
    (outcome.closed.map fun loser => ⟨family.familyId, loser.prNumber, loser.headSha⟩,
      closed.updateFamily family.familyId fun row =>
        { row with
          status := if done && row.status = .survivorMerged then .resolved else row.status })

def closeFamilies (call : CloseoutPass) : List Family → FamilyStore → List Closed × FamilyStore
  | [], store => ([], store)
  | family :: rest, store =>
    let (closed, next) := closeFamily call family store
    let (others, last) := closeFamilies call rest next
    (closed ++ others, last)

def reconcileDuplicateFamilyCloseouts (store : FamilyStore) (call : CloseoutPass) :
    List Closed × FamilyStore :=
  if call.censusVerified && call.mergeAuthority then
    closeFamilies call (store.families.filter fun family =>
      family.status = .survivorSelected || family.status = .survivorMerged) store
  else ([], store)

structure Judgement where
  selection : Selection
  losers : List (Nat × Option String)

structure FamilyWorld where
  store : FamilyStore := {}
  judgements : String → Option Judgement := fun _ => none

inductive FamilyStep where
  | census (entries : List ObservedPull) (families : List DetectedFamily)
  | select (choice : SurvivorChoice)
  | confirmAudit (familyId observedAt candidateHeadSha : String)
  | ignore (familyId : String) (prNumber : Nat) (candidateHeadSha : String)
      (audit : OperatorAudit) (now : String)
  | abandon (familyId : String) (audit : OperatorAudit) (now : String)
  | closeout (call : CloseoutPass)

def FamilyStore.losers (store : FamilyStore) (familyId : String) : List (Nat × Option String) :=
  (store.candidates.filter fun candidate =>
    candidate.familyId = familyId && candidate.role = .loser).map fun candidate =>
      (candidate.prNumber, candidate.headSha)

def FamilyWorld.perform (world : FamilyWorld) : FamilyStep → FamilyWorld
  | .census entries families =>
    { world with store := reconcileDuplicateFamiliesForRepo world.store entries families }
  | .select choice =>
    match selectDuplicateFamilySurvivor world.store choice with
    | .ok (selection, store) =>
      { store
        judgements := fun familyId =>
          if familyId = choice.familyId then some ⟨selection, store.losers familyId⟩
          else world.judgements familyId }
    | .error _ => world
  | .confirmAudit familyId observedAt candidateHeadSha =>
    { world with
      store := confirmSelectionAudit world.store familyId observedAt candidateHeadSha }
  | .ignore familyId prNumber candidateHeadSha audit now =>
    match ignoreDuplicateFamilyCandidate world.store familyId prNumber candidateHeadSha audit
        now with
    | .ok store => { world with store }
    | .error _ => world
  | .abandon familyId audit now =>
    match abandonDuplicateFamily world.store familyId audit now with
    | .ok store => { world with store }
    | .error _ => world
  | .closeout call =>
    { world with store := (reconcileDuplicateFamilyCloseouts world.store call).2 }

end AdversarialReview.Duplicates
