import Mathlib.Data.Rat.Defs
import AdversarialReview.Duplicates.Families

/-! What the changed paths of duplicate candidates say of each pair: a corroborated pair stays held
until a census that can judge it disproves it. -/

namespace AdversarialReview.Duplicates

/-- The patterns that changed paths are told apart by, as the engine matches them. -/
class PathPatterns where
  /-- Vendored, built and generated files, and lock files. -/
  ignored : String → Bool
  incidentRecord : String → Bool
  code : String → Bool

section

structure DuplicateContent where
  headSha : String
  /-- Absent where the snapshot lists no paths. -/
  paths : Option (List String)

/-- An open candidate of a family that nothing suppresses. -/
structure ContentCandidate where
  prNumber : Nat
  headSha : Option String
  /-- The head as the subject states it, before it is trimmed. -/
  subjectHead : Option String
  duplicateContent : Option DuplicateContent

structure PairMember where
  prNumber : Nat
  headSha : Option String

structure PairEvidence where
  left : PairMember
  right : PairMember
  jaccard : Option Rat
  overlap : List String
  corroborated : Bool
  pending : Bool
  held : Bool
  reason : String

structure ContentEvidence where
  pairs : List PairEvidence := []
  held : Bool := false
  reason : String := "identity-only-advisory"

def contentSnapshot (candidate : ContentCandidate) : Option (List String) :=
  candidate.duplicateContent.bind fun snapshot =>
    if snapshot.headSha ≠ "" ∧ some snapshot.headSha = candidate.subjectHead then snapshot.paths
    else none

def summarizeContentEvidence (pairs : List PairEvidence) : ContentEvidence where
  pairs
  held := pairs.any PairEvidence.held
  reason := if pairs.any PairEvidence.pending then "content-pending"
    else if pairs.any PairEvidence.corroborated then "content-corroborated"
    else "identity-only-advisory"

variable [PathPatterns]

def pairEvidence (left right : ContentCandidate) : PairEvidence :=
  let paths (snapshot : Option (List String)) : List String :=
    ((snapshot.getD []).filter fun path => !PathPatterns.ignored path).dedup
  let record (paths : List String) : Bool :=
    !paths.isEmpty && paths.all PathPatterns.incidentRecord
  let code (paths : List String) : Bool := paths.any PathPatterns.code
  let first := paths (contentSnapshot left)
  let second := paths (contentSnapshot right)
  let excluded := (record first && code second) || (record second && code first)
  let overlap := first.filter second.contains
  let union := (first ++ second).dedup.length
  let jaccard : Rat := if union = 0 then 0 else overlap.length / union
  let pending := (contentSnapshot left).isNone || (contentSnapshot right).isNone
  let corroborated := !pending && !excluded && decide (3 / 10 ≤ jaccard)
  { left := { prNumber := left.prNumber, headSha := left.headSha }
    right := { prNumber := right.prNumber, headSha := right.headSha }
    jaccard := if pending then none else some jaccard
    overlap, corroborated, pending, held := corroborated
    reason := if pending then "content-pending" else if excluded then "incident-record-code-pair"
      else if corroborated then "path-overlap-corroborated" else "insufficient-path-overlap" }

@[simp] def evidencePairs : List ContentCandidate → List PairEvidence
  | [] => []
  | left :: rest => rest.map (pairEvidence left) ++ evidencePairs rest

def contentEvidence (candidates : List ContentCandidate) : ContentEvidence :=
  summarizeContentEvidence (evidencePairs candidates)

end

section

/-- The numbers of two pull requests, in order. -/
def pairKey (first second : Nat) : Nat × Nat :=
  (min first second, max first second)

def PairEvidence.key (pair : PairEvidence) : Nat × Nat :=
  pairKey pair.left.prNumber pair.right.prNumber

def PairEvidence.holds (pair : PairEvidence) : Bool :=
  pair.corroborated || (pair.pending && pair.held)

def priorHolds (previous : ContentEvidence) : List (Nat × Nat) :=
  (previous.pairs.filter PairEvidence.holds).map PairEvidence.key

def carryHolds (previous fresh : ContentEvidence) : ContentEvidence :=
  summarizeContentEvidence (fresh.pairs.map fun pair =>
    if pair.pending then { pair with held := (priorHolds previous).contains pair.key } else pair)

/-- The candidates of a family at a census, each pull request once. -/
structure ContentCensus where
  candidates : List ContentCandidate
  nodup : (candidates.map ContentCandidate.prNumber).Nodup

structure ContentRow where
  status : FamilyStatus := .advisory
  evidence : ContentEvidence := {}

inductive ContentEvent where
  | census (census : ContentCensus)
  /-- The family is found inactive or resolved. -/
  | deactivate (resolved : Bool)

variable [PathPatterns]

/-- A census of a new family, of an advisory one, or of one that is thereby activated again. -/
def contentStep (row : Option ContentRow) : ContentEvent → Option ContentRow
  | .census census =>
    let previous := row.elim {} fun row =>
      if row.status = .inactive ∨ row.status = .resolved then {} else row.evidence
    some { evidence := carryHolds previous (contentEvidence census.candidates) }
  | .deactivate resolved => row.map fun row =>
    { row with status := if resolved then .resolved else .inactive }

def contentRun (events : List ContentEvent) : Option ContentRow :=
  events.foldl contentStep none

end

structure GateFamily where
  status : FamilyStatus
  operatorOverride : OperatorOverride := {}
  evidence : ContentEvidence := {}
  selectedSurvivor : Option Nat := none
  reportVerifiedHeadSha : Option String := none
  reportPath : Option String := none

structure GateAnswer where
  member : Bool
  held : Bool
  reason : Option String := none
  release : Option String := none
  pending : Bool := false

def activeIgnore (operatorOverride : OperatorOverride) (prNumber : Nat) (headSha : Option String) :
    Bool :=
  operatorOverride.ignoredCandidates.any fun entry => entry.candidatePrNumber = prNumber &&
    entry.candidateHeadSha = headSha.getD "" && entry.stale = none

def survivorVerified (family : GateFamily) (prNumber : Nat) (headSha : Option String) : Bool :=
  (family.status = .survivorSelected || family.status = .survivorMerged) &&
    family.selectedSurvivor = some prNumber &&
    family.operatorOverride.selection.any fun selection =>
      selection.candidatePrNumber = prNumber && selection.candidateHeadSha = headSha.getD "" &&
        family.reportVerifiedHeadSha.getD "" = headSha.getD "" &&
        (jsTrim selection.reportPath ≠ "" || jsTrim (family.reportPath.getD "") ≠ "") &&
        selection.stale = none

def evaluateDuplicateFamilyCandidate (family : Option GateFamily) (prNumber : Nat)
    (headSha : Option String) : GateAnswer :=
  match family with
  | none => { member := false, held := false }
  | some family =>
    let named (member : PairMember) : Bool :=
      member.prNumber = prNumber && member.headSha.getD "" = headSha.getD ""
    let advisory := decide (family.status = .advisory)
    let pairs := family.evidence.pairs.filter fun pair => named pair.left || named pair.right
    let pending := advisory && pairs.any PairEvidence.pending
    if family.status = .inactive then
      { member := true, held := false, release := some "inactive" }
    else if family.status = .resolved then
      { member := true, held := false, release := some "resolved" }
    else if activeIgnore family.operatorOverride prNumber headSha then
      { member := true, held := false, release := some "ignored-not-duplicate" }
    else if advisory && !pairs.any PairEvidence.holds then
      { member := true, held := false, pending
        release := some (if pending then "content-pending" else "identity-only-advisory") }
    else if survivorVerified family prNumber headSha then
      { member := true, held := false
        release := some (if family.status = .survivorSelected then "survivor-selected"
          else "survivor-merged") }
    else { member := true, held := true, reason := some "duplicate-family-unresolved", pending }

section

variable [PathPatterns] {candidates : List ContentCandidate} {first second : Nat}

def ContentEvidence.pairHeld (evidence : ContentEvidence) (first second : Nat) : Bool :=
  evidence.pairs.any fun pair => pair.key = pairKey first second && pair.held

/-- Both pull requests' paths are known at their heads. -/
def ContentCensus.readable (census : ContentCensus) (first second : Nat) : Bool :=
  census.candidates.all fun candidate =>
    (candidate.prNumber = first || candidate.prNumber = second) → (contentSnapshot candidate).isSome

def ContentCensus.corroborated (census : ContentCensus) (first second : Nat) : Bool :=
  (contentEvidence census.candidates).pairs.any fun pair =>
    pair.key = pairKey first second && pair.corroborated

def sinceActivation (events : List ContentEvent) : List ContentCensus :=
  events.foldl (fun seen event => match event with
    | .census census => census :: seen
    | .deactivate _ => []) []

/-- What the latest census that could judge the pair said of it. -/
def verdict (censuses : List ContentCensus) (first second : Nat) : Bool :=
  (censuses.find? (·.readable first second)).any (·.corroborated first second)

/-! ### The evidence of one census -/

omit [PathPatterns] in
lemma pairKey_eq_iff {a b c d : Nat} :
    pairKey a b = pairKey c d ↔ (a = c ∧ b = d) ∨ (a = d ∧ b = c) := by
  simp only [pairKey, Prod.mk.injEq]
  omega

@[simp] lemma pairEvidence_key (left right : ContentCandidate) :
    (pairEvidence left right).key = pairKey left.prNumber right.prNumber := rfl

lemma pairEvidence_pending (left right : ContentCandidate) :
    (pairEvidence left right).pending =
      ((contentSnapshot left).isNone || (contentSnapshot right).isNone) := rfl

/-- What is pending is not corroborated. -/
lemma pairEvidence_corroborated {left right : ContentCandidate}
    (pending : (pairEvidence left right).pending = true) :
    (pairEvidence left right).corroborated = false := by
  rw [pairEvidence_pending] at pending
  simp [pairEvidence, pending]

lemma mem_evidencePairs {pair : PairEvidence} (found : pair ∈ evidencePairs candidates) :
    ∃ left ∈ candidates, ∃ right ∈ candidates, pair = pairEvidence left right := by
  induction candidates with
  | nil => cases found
  | cons left rest ih =>
    rcases List.mem_append.1 found with found | found
    · obtain ⟨right, inRest, rfl⟩ := List.mem_map.1 found
      exact ⟨left, by simp, right, by simp [inRest], rfl⟩
    · obtain ⟨left, inLeft, right, inRight, same⟩ := ih found
      exact ⟨left, by simp [inLeft], right, by simp [inRight], same⟩

lemma exists_evidencePair (distinct : first ≠ second)
    (hasFirst : first ∈ candidates.map ContentCandidate.prNumber)
    (hasSecond : second ∈ candidates.map ContentCandidate.prNumber) :
    ∃ pair ∈ evidencePairs candidates, pair.key = pairKey first second := by
  induction candidates with
  | nil => cases hasFirst
  | cons left rest ih =>
    simp only [List.map_cons, List.mem_cons] at hasFirst hasSecond
    rcases hasFirst with here | hasFirst
    · obtain ⟨right, inRest, number⟩ :=
        List.mem_map.1 (hasSecond.resolve_left fun same => distinct (here.trans same.symm))
      exact ⟨pairEvidence left right, List.mem_append_left _ (List.mem_map_of_mem inRest),
        by rw [pairEvidence_key, number, here]⟩
    · rcases hasSecond with here | hasSecond
      · obtain ⟨right, inRest, number⟩ := List.mem_map.1 hasFirst
        refine ⟨pairEvidence left right, List.mem_append_left _ (List.mem_map_of_mem inRest), ?_⟩
        rw [pairEvidence_key, number, ← here]
        exact pairKey_eq_iff.2 (.inr ⟨rfl, rfl⟩)
      · obtain ⟨pair, found, key⟩ := ih hasFirst hasSecond
        exact ⟨pair, List.mem_append_right _ found, key⟩

omit [PathPatterns] in
/-- A pair's two candidates are the only ones under its numbers. -/
lemma eq_of_named {census : ContentCensus} {left right candidate : ContentCandidate}
    (inLeft : left ∈ census.candidates) (inRight : right ∈ census.candidates)
    (key : pairKey left.prNumber right.prNumber = pairKey first second)
    (member : candidate ∈ census.candidates)
    (named : candidate.prNumber = first ∨ candidate.prNumber = second) :
    candidate = left ∨ candidate = right := by
  have unique := List.inj_on_of_nodup_map census.nodup member
  rcases pairKey_eq_iff.1 key with ⟨one, two⟩ | ⟨one, two⟩ <;> rcases named with named | named
  · exact .inl (unique inLeft (named.trans one.symm))
  · exact .inr (unique inRight (named.trans two.symm))
  · exact .inr (unique inRight (named.trans two.symm))
  · exact .inl (unique inLeft (named.trans one.symm))

/-- A pair is pending when the paths of one of the two are not known. -/
lemma evidencePair_pending {census : ContentCensus} {pair : PairEvidence}
    (found : pair ∈ evidencePairs census.candidates)
    (key : pair.key = pairKey first second) :
    pair.pending = !census.readable first second := by
  obtain ⟨left, inLeft, right, inRight, rfl⟩ := mem_evidencePairs found
  have named : (left.prNumber = first ∨ left.prNumber = second) ∧
      (right.prNumber = first ∨ right.prNumber = second) := by
    rcases pairKey_eq_iff.1 key with ⟨one, two⟩ | ⟨one, two⟩
    · exact ⟨.inl one, .inr two⟩
    · exact ⟨.inr one, .inl two⟩
  rw [pairEvidence_pending, Bool.eq_iff_iff]
  simp only [Bool.or_eq_true, Bool.not_eq_true', ContentCensus.readable, List.all_eq_false,
    decide_eq_true_eq, Option.isNone_iff_eq_none]
  constructor
  · rintro (missing | missing)
    · exact ⟨left, inLeft, by simpa [missing] using or_iff_not_imp_left.1 named.1⟩
    · exact ⟨right, inRight, by simpa [missing] using or_iff_not_imp_left.1 named.2⟩
  · rintro ⟨candidate, member, missing⟩
    simp only [Classical.not_imp, Bool.not_eq_true, Option.isSome_eq_false_iff,
      Option.isNone_iff_eq_none] at missing
    rcases eq_of_named inLeft inRight key member missing.1 with rfl | rfl
    · exact .inl missing.2
    · exact .inr missing.2

omit [PathPatterns] in
/-- Two tests that agree on the members of a list find alike. -/
lemma any_congr_mem {α : Type*} {items : List α} {p q : α → Bool}
    (agree : ∀ item ∈ items, p item = q item) : items.any p = items.any q := by
  rw [Bool.eq_iff_iff, List.any_eq_true, List.any_eq_true]
  exact exists_congr fun item => and_congr_right fun found => by rw [agree item found]

/-! ### What a census keeps of the holds before it -/

omit [PathPatterns] in
lemma priorHolds_contains (previous : ContentEvidence) (key : Nat × Nat) :
    (priorHolds previous).contains key =
      previous.pairs.any fun pair => pair.key = key && pair.holds := by
  rw [Bool.eq_iff_iff]
  simp only [priorHolds, List.contains_iff_mem, List.mem_map, List.mem_filter, List.any_eq_true,
    Bool.and_eq_true, decide_eq_true_eq]
  exact exists_congr fun pair => ⟨fun ⟨⟨found, holds⟩, same⟩ => ⟨found, same, holds⟩,
    fun ⟨found, same, holds⟩ => ⟨⟨found, holds⟩, same⟩⟩

/-- A carried pair is held just when it counts as holding. -/
lemma carryHolds_holds {previous : ContentEvidence} {pair : PairEvidence}
    (found : pair ∈ (carryHolds previous (contentEvidence candidates)).pairs) :
    pair.holds = pair.held := by
  obtain ⟨fresh, inFresh, rfl⟩ := List.mem_map.1 found
  obtain ⟨left, -, right, -, rfl⟩ := mem_evidencePairs inFresh
  by_cases pending : (pairEvidence left right).pending = true
  · simp [PairEvidence.holds, pending, pairEvidence_corroborated pending]
  · simp only [pending, Bool.false_eq_true, if_false, PairEvidence.holds, Bool.false_and,
      Bool.or_false]
    rfl

/-- A fresh pair as a census stores it. -/
lemma carried_held {previous : ContentEvidence} {census : ContentCensus} {pair : PairEvidence}
    (found : pair ∈ evidencePairs census.candidates)
    (key : pair.key = pairKey first second) :
    (if pair.pending then { pair with held := (priorHolds previous).contains pair.key }
      else pair).held =
      if census.readable first second then pair.corroborated
      else (priorHolds previous).contains (pairKey first second) := by
  have judged := evidencePair_pending found key
  obtain ⟨left, -, right, -, rfl⟩ := mem_evidencePairs found
  cases readable : census.readable first second <;>
    simp only [judged, readable, Bool.not_true, Bool.not_false, if_true, Bool.false_eq_true,
      if_false, key]
  rfl

/-- A pair that can be judged is as corroborated as its paths make it; one that cannot is held if
it was. -/
lemma carryHolds_pairHeld {previous : ContentEvidence} {census : ContentCensus}
    (distinct : first ≠ second)
    (hasFirst : first ∈ census.candidates.map ContentCandidate.prNumber)
    (hasSecond : second ∈ census.candidates.map ContentCandidate.prNumber) :
    (carryHolds previous (contentEvidence census.candidates)).pairHeld first second =
      if census.readable first second then census.corroborated first second
      else (priorHolds previous).contains (pairKey first second) := by
  have pairs (pair : PairEvidence) (found : pair ∈ evidencePairs census.candidates) :
      (decide ((if pair.pending then
          { pair with held := (priorHolds previous).contains pair.key } else pair).key =
            pairKey first second) &&
        (if pair.pending then { pair with held := (priorHolds previous).contains pair.key }
          else pair).held) =
      (decide (pair.key = pairKey first second) &&
        if census.readable first second then pair.corroborated
        else (priorHolds previous).contains (pairKey first second)) := by
    have sameKey : (if pair.pending then
        { pair with held := (priorHolds previous).contains pair.key } else pair).key = pair.key := by
      split <;> rfl
    rw [sameKey]
    by_cases key : pair.key = pairKey first second
    · rw [carried_held found key]
    · simp only [key, decide_false, Bool.false_and]
  have stored : (carryHolds previous (contentEvidence census.candidates)).pairHeld first second =
      (evidencePairs census.candidates).any fun pair =>
        decide (pair.key = pairKey first second) &&
          if census.readable first second then pair.corroborated
          else (priorHolds previous).contains (pairKey first second) := by
    rw [ContentEvidence.pairHeld, carryHolds, summarizeContentEvidence, List.any_map]
    exact any_congr_mem pairs
  rw [stored]
  by_cases readable : census.readable first second = true
  · simp only [readable, if_true]
    rfl
  · simp only [readable, Bool.false_eq_true, if_false]
    obtain ⟨pair, found, key⟩ := exists_evidencePair distinct hasFirst hasSecond
    rw [Bool.eq_iff_iff, List.any_eq_true]
    constructor
    · rintro ⟨pair, -, held⟩
      exact (Bool.and_eq_true_iff.1 held).2
    · intro held
      exact ⟨pair, found, by rw [held]; simp [key]⟩

/-! ### A run of censuses -/

def carriedEvidence (row : Option ContentRow) : ContentEvidence :=
  row.elim {} fun row =>
    if row.status = .inactive ∨ row.status = .resolved then {} else row.evidence

lemma contentRun_append (events : List ContentEvent) (event : ContentEvent) :
    contentRun (events ++ [event]) = contentStep (contentRun events) event := by
  simp [contentRun]

lemma contentRun_census (events : List ContentEvent) (census : ContentCensus) :
    contentRun (events ++ [.census census]) = some ⟨.advisory,
      carryHolds (carriedEvidence (contentRun events)) (contentEvidence census.candidates)⟩ := by
  rw [contentRun_append]
  rfl

omit [PathPatterns] in
lemma sinceActivation_census (events : List ContentEvent) (census : ContentCensus) :
    sinceActivation (events ++ [.census census]) = census :: sinceActivation events := by
  simp [sinceActivation]

omit [PathPatterns] in
lemma sinceActivation_deactivate (events : List ContentEvent) (resolved : Bool) :
    sinceActivation (events ++ [.deactivate resolved]) = [] := by
  simp [sinceActivation]

lemma verdict_cons (census : ContentCensus) (censuses : List ContentCensus) :
    verdict (census :: censuses) first second =
      if census.readable first second then census.corroborated first second
      else verdict censuses first second := by
  cases readable : census.readable first second <;> simp [verdict, readable]

def AlwaysCandidates (first second : Nat) (events : List ContentEvent) : Prop :=
  ∀ census, .census census ∈ events →
    first ∈ census.candidates.map ContentCandidate.prNumber ∧
      second ∈ census.candidates.map ContentCandidate.prNumber

/-- What the next census takes over of a pair is the verdict so far. -/
lemma carried_eq_verdict (distinct : first ≠ second) :
    ∀ events : List ContentEvent, AlwaysCandidates first second events →
      (priorHolds (carriedEvidence (contentRun events))).contains (pairKey first second) =
        verdict (sinceActivation events) first second := by
  intro events
  induction events using List.reverseRecOn with
  | nil => intro _; rfl
  | append_singleton events event ih =>
    intro always
    have earlier := ih fun census found => always census (by simp [found])
    cases event with
    | census census =>
      have both := always census (by simp)
      rw [contentRun_census, sinceActivation_census, verdict_cons, ← earlier,
        ← carryHolds_pairHeld distinct both.1 both.2, priorHolds_contains]
      exact any_congr_mem fun pair found => by rw [carryHolds_holds found]
    | deactivate resolved =>
      rw [contentRun_append, sinceActivation_deactivate]
      cases contentRun events with
      | none => rfl
      | some row => cases resolved <;> rfl

/-- A pair the evidence holds makes the gate hold both of its pull requests at their heads. -/
lemma pairHeld_gate {previous : ContentEvidence} {census : ContentCensus}
    {candidate : ContentCandidate} {family : GateFamily} (advisory : family.status = .advisory)
    (evidence : family.evidence = carryHolds previous (contentEvidence census.candidates))
    (held : family.evidence.pairHeld first second = true)
    (member : candidate ∈ census.candidates)
    (named : candidate.prNumber = first ∨ candidate.prNumber = second)
    (current : activeIgnore family.operatorOverride candidate.prNumber candidate.headSha = false) :
    (evaluateDuplicateFamilyCandidate (some family) candidate.prNumber candidate.headSha).held =
      true := by
  obtain ⟨pair, found, holds⟩ := List.any_eq_true.1 held
  obtain ⟨key, holds⟩ := Bool.and_eq_true_iff.1 holds
  rw [← carryHolds_holds (evidence ▸ found)] at holds
  obtain ⟨fresh, inFresh, stored⟩ := List.mem_map.1 (evidence ▸ found)
  obtain ⟨left, inLeft, right, inRight, rfl⟩ := mem_evidencePairs inFresh
  have members : pair.left = ⟨left.prNumber, left.headSha⟩ ∧
      pair.right = ⟨right.prNumber, right.headSha⟩ := by
    rw [← stored]
    split <;> exact ⟨rfl, rfl⟩
  rw [decide_eq_true_eq, PairEvidence.key, members.1, members.2] at key
  have counted : (family.evidence.pairs.filter fun pair =>
      (pair.left.prNumber = candidate.prNumber &&
          pair.left.headSha.getD "" = candidate.headSha.getD "") ||
        (pair.right.prNumber = candidate.prNumber &&
          pair.right.headSha.getD "" = candidate.headSha.getD "")).any PairEvidence.holds =
      true := by
    refine List.any_eq_true.2 ⟨pair, List.mem_filter.2 ⟨found, ?_⟩, holds⟩
    rw [members.1, members.2]
    rcases eq_of_named inLeft inRight key member named with rfl | rfl <;> simp
  simp [evaluateDuplicateFamilyCandidate, advisory, current, survivorVerified, counted]

/-- A pair is held after a census just when the latest census since the activation that could judge
it found it corroborated, and the gate then holds both at their heads. -/
theorem contentRun_pairHeld_iff (events : List ContentEvent) (latest : ContentCensus)
    (distinct : first ≠ second)
    (always : AlwaysCandidates first second (events ++ [.census latest])) :
    ∃ row, contentRun (events ++ [.census latest]) = some row ∧ row.status = .advisory ∧
      row.evidence.pairHeld first second =
        verdict (sinceActivation (events ++ [.census latest])) first second ∧
      (row.evidence.pairHeld first second = true →
        ∀ candidate ∈ latest.candidates,
          (candidate.prNumber = first ∨ candidate.prNumber = second) →
          ∀ family : GateFamily, family.status = row.status → family.evidence = row.evidence →
            activeIgnore family.operatorOverride candidate.prNumber candidate.headSha = false →
            (evaluateDuplicateFamilyCandidate (some family) candidate.prNumber
              candidate.headSha).held = true) := by
  refine ⟨_, contentRun_census events latest, rfl, ?_, ?_⟩
  · obtain ⟨hasFirst, hasSecond⟩ := always latest (by simp)
    rw [carryHolds_pairHeld distinct hasFirst hasSecond, sinceActivation_census, verdict_cons,
      carried_eq_verdict distinct events fun census found => always census (by simp [found])]
  · intro held candidate member named family advisory evidence current
    exact pairHeld_gate advisory evidence (by rwa [evidence]) member named current

end

abbrev samplePatterns : PathPatterns where
  ignored _ := false
  incidentRecord _ := false
  code _ := true

/-- Two pull requests that change one file, the second's paths as far as they are known. -/
def sampleCensus (paths : Option (List String)) : ContentCensus where
  candidates := [⟨1, some "a", some "a", some ⟨"a", some ["x.mjs"]⟩⟩,
    ⟨2, some "b", some "b", some ⟨"b", paths⟩⟩]
  nodup := by simp

theorem contentRun_pairHeld_sample :
    ∃ row, @contentRun samplePatterns
        [.census (sampleCensus (some ["x.mjs"])), .census (sampleCensus none)] = some row ∧
      row.evidence.pairHeld 1 2 = true := by
  have always : AlwaysCandidates 1 2 ([.census (sampleCensus (some ["x.mjs"]))] ++
      [.census (sampleCensus none)]) := by
    simp [AlwaysCandidates, sampleCensus]
  obtain ⟨row, run, -, held, -⟩ := @contentRun_pairHeld_iff samplePatterns 1 2
    [.census (sampleCensus (some ["x.mjs"]))] (sampleCensus none) (by decide) always
  exact ⟨row, run, held.trans (by decide +kernel)⟩

end AdversarialReview.Duplicates
