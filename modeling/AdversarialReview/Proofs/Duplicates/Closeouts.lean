import AdversarialReview.Duplicates.Families

/-! Only the losers that a selection judged are closed, while no census moves a loser. -/

namespace AdversarialReview.Duplicates

def Selection.sealed (selection : Selection) : Selection :=
  { selection with stale := none, auditPending := false }

def Family.awaitsCloseout (family : Family) : Bool :=
  family.status = .survivorSelected || family.status = .survivorMerged

/-- A pull request that was closed is a loser which the recorded selection judged at that head. -/
structure Adjudicated (world : FamilyWorld) (call : CloseoutPass) (closed : Closed)
    (family : Family) (selection : Selection) (candidate : Candidate) : Prop where
  recorded : family ∈ world.store.families
  inFamily : family.familyId = closed.familyId
  selected : family.operatorOverride.selection = some selection
  fresh : selection.stale = none
  audited : selection.auditPending = false
  merged : ∃ pull, call.pull selection.candidatePrNumber = some pull ∧ pull.merged = true ∧
    pull.headSha = selection.candidateHeadSha
  judged : ∃ judgement, world.judgements family.familyId = some judgement ∧
    judgement.selection.sealed = selection.sealed ∧
    (closed.prNumber, closed.headSha) ∈ judgement.losers
  row : candidate ∈ world.store.candidates
  rowFamily : candidate.familyId = closed.familyId
  rowNumber : candidate.prNumber = closed.prNumber
  rowHead : candidate.headSha = closed.headSha
  unsuppressed : candidate.suppressions = []
  notIgnored : ∀ entry ∈ family.operatorOverride.ignoredCandidates,
    entry.candidatePrNumber ≠ closed.prNumber

def ClosesAdjudicated (world : FamilyWorld) : List FamilyStep → Prop
  | [] => True
  | step :: rest =>
    (∀ call, step = .closeout call →
      ∀ closed ∈ (reconcileDuplicateFamilyCloseouts world.store call).1,
        ∃ family selection candidate,
          Adjudicated world call closed family selection candidate) ∧
      ClosesAdjudicated (world.perform step) rest

structure SteadyCensus (store : FamilyStore) (entries : List ObservedPull)
    (families : List DetectedFamily) : Prop where
  heads : ∀ family ∈ store.families, family.awaitsCloseout = true →
    ∀ entry ∈ entries,
      (∃ loser ∈ store.losers family.familyId, loser.1 = entry.prNumber) →
        (entry.prNumber, entry.headSha) ∈ store.losers family.familyId
  members : ∀ family ∈ store.families, family.awaitsCloseout = true →
    ∀ found ∈ families, found.familyKey = family.familyKey →
      ∀ candidate ∈ found.allCandidates,
        (∃ row ∈ store.candidates, row.role = .loser ∧ row.prNumber = candidate.prNumber) →
          (candidate.prNumber, candidate.headSha) ∈ store.losers family.familyId

def SteadyStep (world : FamilyWorld) : FamilyStep → Prop
  | .census entries families => SteadyCensus world.store entries families
  | .closeout call => ∀ prNumber pull, call.pull prNumber = some pull → pull.headSha ≠ ""
  | _ => True

def SteadyRun (world : FamilyWorld) : List FamilyStep → Prop
  | [] => True
  | step :: rest => SteadyStep world step ∧ SteadyRun (world.perform step) rest

structure FamilyJudged (world : FamilyWorld) (family : Family) (selection : Selection)
    (judgement : Judgement) : Prop where
  selected : family.operatorOverride.selection = some selection
  survivor : family.selectedSurvivor = some selection.candidatePrNumber
  judged : world.judgements family.familyId = some judgement
  same : judgement.selection.sealed = selection.sealed
  losers : world.store.losers family.familyId ⊆ judgement.losers

def FamilyStore.ids (store : FamilyStore) : List String := store.families.map (·.familyId)

structure FamilyWorld.Judged (world : FamilyWorld) : Prop where
  distinct : world.store.ids.Nodup
  families : ∀ family ∈ world.store.families, family.awaitsCloseout = true →
    ∃ selection judgement, FamilyJudged world family selection judgement

section

/-- A family row later: still what it was, unless closeouts no longer look at it. -/
structure Family.Follows (later earlier : Family) : Prop where
  familyId : later.familyId = earlier.familyId
  familyKey : later.familyKey = earlier.familyKey
  awaited : later.awaitsCloseout = true → earlier.awaitsCloseout = true
  survivor : later.awaitsCloseout = true → later.selectedSurvivor = earlier.selectedSurvivor
  selection : later.awaitsCloseout = true →
    later.operatorOverride.selection.map Selection.sealed =
      earlier.operatorOverride.selection.map Selection.sealed

theorem Family.Follows.refl (family : Family) : family.Follows family :=
  ⟨rfl, rfl, id, fun _ => rfl, fun _ => rfl⟩

theorem Family.Follows.trans {last later earlier : Family} (first : later.Follows earlier)
    (second : last.Follows later) : last.Follows earlier where
  familyId := second.familyId.trans first.familyId
  familyKey := second.familyKey.trans first.familyKey
  awaited awaits := first.awaited (second.awaited awaits)
  survivor awaits := (second.survivor awaits).trans (first.survivor (second.awaited awaits))
  selection awaits := (second.selection awaits).trans (first.selection (second.awaited awaits))

def FamilyStore.Follows (later earlier : FamilyStore) : Prop :=
  ∀ family ∈ later.families, ∃ before ∈ earlier.families, family.Follows before

theorem FamilyStore.Follows.refl (store : FamilyStore) : store.Follows store :=
  fun family present => ⟨family, present, .refl family⟩

theorem FamilyStore.Follows.trans {last later earlier : FamilyStore}
    (first : later.Follows earlier) (second : last.Follows later) : last.Follows earlier := by
  intro family present
  obtain ⟨middle, inLater, followsMiddle⟩ := second family present
  obtain ⟨before, inEarlier, followsBefore⟩ := first middle inLater
  exact ⟨before, inEarlier, followsBefore.trans followsMiddle⟩

variable {familyId : String} {store : FamilyStore}

theorem ids_updateFamily {edit : Family → Family}
    (keeps : ∀ family, (edit family).familyId = family.familyId) :
    (store.updateFamily familyId edit).ids = store.ids := by
  simp only [FamilyStore.ids, FamilyStore.updateFamily, List.map_map]
  refine List.map_congr_left fun family _ => ?_
  simp only [Function.comp_apply]
  split
  · exact keeps family
  · rfl

theorem follows_updateFamily {edit : Family → Family}
    (follows : ∀ family ∈ store.families, family.familyId = familyId →
      (edit family).Follows family) :
    (store.updateFamily familyId edit).Follows store := by
  intro family present
  obtain ⟨before, inStore, rfl⟩ := List.mem_map.mp present
  refine ⟨before, inStore, ?_⟩
  split
  · exact follows before inStore ‹_›
  · exact .refl before

theorem row_unique (distinct : store.ids.Nodup) {family other : Family}
    (present : family ∈ store.families) (otherPresent : other ∈ store.families)
    (sameId : family.familyId = other.familyId) : family = other :=
  List.inj_on_of_nodup_map distinct present otherPresent sameId

theorem mem_losers {loser : Nat × Option String} :
    loser ∈ store.losers familyId ↔ ∃ candidate ∈ store.candidates,
      candidate.familyId = familyId ∧ candidate.role = .loser ∧
        (candidate.prNumber, candidate.headSha) = loser := by
  simp [FamilyStore.losers, and_assoc]

theorem judged_follows {world : FamilyWorld} (inv : world.Judged) (distinct : store.ids.Nodup)
    (follows : ∀ family ∈ store.families, family.awaitsCloseout = true →
      ∃ before ∈ world.store.families, family.Follows before)
    (losers : ∀ family ∈ world.store.families, family.awaitsCloseout = true →
      store.losers family.familyId ⊆ world.store.losers family.familyId) :
    FamilyWorld.Judged { world with store } := by
  refine ⟨distinct, fun family present awaits => ?_⟩
  obtain ⟨before, inStore, followsBefore⟩ := follows family present awaits
  have awaited := followsBefore.awaited awaits
  obtain ⟨selection, judgement, agreed⟩ := inv.families before inStore awaited
  have kept := followsBefore.selection awaits
  rw [agreed.selected, Option.map_some, Option.map_eq_some_iff] at kept
  obtain ⟨current, selected, sameSealed⟩ := kept
  -- What is sealed holds the number of the survivor.
  have number : current.sealed.candidatePrNumber = selection.sealed.candidatePrNumber := by
    rw [sameSealed]
  refine ⟨current, judgement, ?_⟩
  exact {
    selected
    survivor := by 
      rw [followsBefore.survivor awaits, agreed.survivor]
      exact congrArg some number.symm
    judged := by rw [followsBefore.familyId]; exact agreed.judged
    same := agreed.same.trans sameSealed.symm
    losers := by
      rw [followsBefore.familyId]
      exact List.Subset.trans (losers before inStore awaited) agreed.losers }

end

section

variable {familyId : String} {world : FamilyWorld}

theorem judged_updateFamily {edit : Family → Family}
    (inv : world.Judged) (keeps : ∀ family, (edit family).familyId = family.familyId)
    (follows : ∀ family ∈ world.store.families, family.familyId = familyId →
      (edit family).Follows family) :
    FamilyWorld.Judged { world with store := world.store.updateFamily familyId edit } :=
  judged_follows inv (by rw [ids_updateFamily keeps]; exact inv.distinct)
    (fun family present _ => follows_updateFamily follows family present)
    fun _ _ _ => List.Subset.refl _

theorem confirmed_follows (observedAt candidateHeadSha : String) (family : Family) :
    (family.confirmed observedAt candidateHeadSha).Follows family := by
  unfold Family.confirmed
  split
  · rename_i current selected
    split
    · refine ⟨rfl, rfl, id, fun _ => rfl, fun _ => ?_⟩
      simp [selected, Selection.sealed]
    · exact .refl family
  · exact .refl family

theorem judged_confirmAudit (inv : world.Judged) (familyId observedAt candidateHeadSha : String) :
    FamilyWorld.Judged { world with
      store := confirmSelectionAudit world.store familyId observedAt candidateHeadSha } :=
  judged_updateFamily inv (fun family => (confirmed_follows _ _ family).familyId)
    fun family _ _ => confirmed_follows _ _ family

variable {store : FamilyStore}

theorem require_spec {family : Family}
    (found : store.requireDuplicateFamily familyId = .ok family) :
    family ∈ store.families ∧ family.familyId = familyId := by
  simp only [FamilyStore.requireDuplicateFamily] at found
  split at found
  · rename_i row isRow
    obtain rfl := Except.ok.inj found
    exact ⟨List.mem_of_find?_eq_some isRow, by simpa using List.find?_some isRow⟩
  · cases found

theorem judged_ignore
    {prNumber : Nat} {candidateHeadSha : String} {audit : OperatorAudit} {now : String}
    (inv : world.Judged)
    (ignored : ignoreDuplicateFamilyCandidate world.store familyId prNumber candidateHeadSha
      audit now = .ok store) :
    FamilyWorld.Judged { world with store } := by
  simp only [ignoreDuplicateFamilyCandidate, bind, Except.bind, pure, Except.pure] at ignored
  split at ignored
  · cases ignored
  split at ignored
  · cases ignored
  rename_i family found
  split at ignored
  · cases ignored
  split at ignored
  · cases ignored
  obtain rfl := Except.ok.inj ignored
  obtain ⟨present, hasId⟩ := require_spec found
  refine judged_updateFamily inv (fun _ => rfl) fun row rowPresent rowId => ?_
  -- The row that is written is the row that was read, so its selection stays.
  obtain rfl : row = family :=
    row_unique inv.distinct rowPresent present (rowId.trans hasId.symm)
  exact ⟨rfl, rfl, id, fun _ => rfl, fun _ => rfl⟩

theorem abandon_awaits (row : Family) (operatorOverride : OperatorOverride) :
    Family.Follows { row with status := .abandoned, operatorOverride } row where
  familyId := rfl
  familyKey := rfl
  awaited awaits := by simp [Family.awaitsCloseout] at awaits
  survivor _ := rfl
  selection awaits := by simp [Family.awaitsCloseout] at awaits

theorem judged_abandon {audit : OperatorAudit} {now : String} (inv : world.Judged)
    (abandoned : abandonDuplicateFamily world.store familyId audit now = .ok store) :
    FamilyWorld.Judged { world with store } := by
  simp only [abandonDuplicateFamily, bind, Except.bind, pure, Except.pure] at abandoned
  split at abandoned
  · cases abandoned
  · split at abandoned
    · cases abandoned
    · obtain rfl := Except.ok.inj abandoned
      exact judged_updateFamily inv (fun _ => rfl) fun row _ _ => abandon_awaits row _

theorem select_spec {store selected : FamilyStore} {choice : SurvivorChoice} {selection : Selection}
    (accepted : selectDuplicateFamilySurvivor store choice = .ok (selection, selected)) :
    selection.candidatePrNumber = choice.survivorPrNumber ∧
      ∃ (known : OperatorOverride) (role : Candidate → Role),
        selected = (store.updateFamily choice.familyId fun row =>
          { row with
            status := .survivorSelected
            selectedSurvivor := some choice.survivorPrNumber
            reportPath := some selection.reportPath
            operatorOverride := { known with selection := some selection } }).updateCandidates
        (·.familyId = choice.familyId) fun candidate =>
          { candidate with role := role candidate } := by
  simp only [selectDuplicateFamilySurvivor, bind, Except.bind, pure, Except.pure] at accepted
  split at accepted
  · cases accepted
  split at accepted
  · cases accepted
  split at accepted
  · cases accepted
  rename_i family _
  split at accepted
  · cases accepted
  split at accepted
  · cases accepted
  split at accepted
  · cases accepted
  obtain ⟨rfl, rfl⟩ := Prod.mk.inj (Except.ok.inj accepted)
  exact ⟨rfl, family.operatorOverride, selectedRole choice family.operatorOverride, rfl⟩

theorem losers_updateRoles {familyId other : String}
    {edit : Candidate → Role} (differ : other ≠ familyId) :
    (store.updateCandidates (·.familyId = familyId) fun candidate =>
      { candidate with role := edit candidate }).losers other ⊆ store.losers other := by
  intro loser present
  obtain ⟨candidate, inStore, inFamily, isLoser, rfl⟩ := mem_losers.1 present
  obtain ⟨before, wasIn, rfl⟩ := List.mem_map.mp inStore
  split at inFamily
  · rename_i selects
    exact absurd (inFamily.symm.trans (by simpa using selects)) differ
  · rename_i selects
    rw [if_neg selects] at isLoser ⊢
    exact mem_losers.2 ⟨before, wasIn, inFamily, isLoser, rfl⟩

theorem judged_select {choice : SurvivorChoice} {selection : Selection} (inv : world.Judged)
    (accepted : selectDuplicateFamilySurvivor world.store choice = .ok (selection, store)) :
    FamilyWorld.Judged
      { store
        judgements := fun familyId =>
          if familyId = choice.familyId then some ⟨selection, store.losers familyId⟩
          else world.judgements familyId } := by
  obtain ⟨number, known, role, written⟩ := select_spec accepted
  have sameIds : store.ids = world.store.ids := by
    rw [written]
    exact ids_updateFamily fun _ => rfl
  refine ⟨by rw [sameIds]; exact inv.distinct, fun family present awaits => ?_⟩
  rw [written] at present
  obtain ⟨before, inStore, rfl⟩ := List.mem_map.mp present
  by_cases chosen : before.familyId = choice.familyId
  · -- The row of the chosen family and its judgement were written together.
    rw [if_pos chosen]
    refine ⟨selection, ⟨selection, store.losers before.familyId⟩, ?_⟩
    exact ⟨rfl, by simp [number], if_pos chosen, rfl, List.Subset.refl _⟩
  · rw [if_neg chosen] at awaits ⊢
    obtain ⟨recorded, judgement, agreed⟩ := inv.families before inStore awaits
    refine ⟨recorded, judgement, agreed.selected, agreed.survivor, ?_, agreed.same, ?_⟩
    · exact (if_neg chosen).trans agreed.judged
    · have kept : store.losers before.familyId ⊆ world.store.losers before.familyId := by
        rw [written]
        exact losers_updateRoles chosen
      exact List.Subset.trans kept agreed.losers

end

section

def FamilyStore.members (store : FamilyStore) : List Candidate :=
  store.candidates.map fun candidate => { candidate with prState := none }

structure FamilyStore.ClosesOver (later earlier : FamilyStore) : Prop where
  ids : later.ids = earlier.ids
  follows : later.Follows earlier
  members : later.members = earlier.members

theorem FamilyStore.ClosesOver.trans {last later earlier : FamilyStore}
    (first : later.ClosesOver earlier) (second : last.ClosesOver later) :
    last.ClosesOver earlier :=
  ⟨second.ids.trans first.ids, first.follows.trans second.follows,
    second.members.trans first.members⟩

theorem closesOver_state (store : FamilyStore) (selects : Candidate → Bool)
    (prState : Option String) :
    (store.updateCandidates selects fun row => { row with prState }).ClosesOver store := by
  refine ⟨rfl, .refl _, ?_⟩
  simp only [FamilyStore.members, FamilyStore.updateCandidates, List.map_map]
  refine List.map_congr_left fun candidate _ => ?_
  simp only [Function.comp_apply]
  split <;> rfl

theorem closesOver_status {store : FamilyStore} {familyId : String} {edit : Family → FamilyStatus}
    (awaited : ∀ family : Family,
      Family.awaitsCloseout { family with status := edit family } = true →
        family.awaitsCloseout = true) :
    (store.updateFamily familyId fun row => { row with status := edit row }).ClosesOver store :=
  ⟨ids_updateFamily fun _ => rfl,
    follows_updateFamily fun family _ _ => ⟨rfl, rfl, awaited family, fun _ => rfl, fun _ => rfl⟩,
    rfl⟩

theorem closesOver_closeFamily (call : CloseoutPass) (family : Family) (store : FamilyStore) :
    (closeFamily call family store).2.ClosesOver store := by
  unfold closeFamily
  simp only
  split
  · exact ⟨rfl, .refl _, rfl⟩
  · refine (((closesOver_state _ _ _).trans (closesOver_status fun family awaits => ?_)).trans
      (closesOver_state _ _ _)).trans (closesOver_status fun family awaits => ?_)
    · -- The merge of the survivor is marked on a row that awaits.
      simp only [Family.awaitsCloseout] at awaits ⊢
      split at awaits
      · simp [*]
      · exact awaits
    · simp only [Family.awaitsCloseout] at awaits ⊢
      split at awaits
      · simp at awaits
      · exact awaits

theorem closesOver_closeFamilies (call : CloseoutPass) (families : List Family)
    (store : FamilyStore) : (closeFamilies call families store).2.ClosesOver store := by
  induction families generalizing store with
  | nil => exact ⟨rfl, .refl _, rfl⟩
  | cons family rest ih => exact (closesOver_closeFamily call family store).trans (ih _)

theorem member_before {later earlier : FamilyStore} (passed : later.ClosesOver earlier)
    {candidate : Candidate} (present : candidate ∈ later.candidates) :
    ∃ before ∈ earlier.candidates, before.familyId = candidate.familyId ∧
      before.prNumber = candidate.prNumber ∧ before.headSha = candidate.headSha ∧
      before.role = candidate.role ∧ before.suppressions = candidate.suppressions := by
  have isMember : { candidate with prState := none } ∈ earlier.members := by
    rw [← passed.members]
    exact List.mem_map_of_mem present
  obtain ⟨before, inEarlier, same⟩ := List.mem_map.mp isMember
  injection same with sameId sameNumber _ sameHead sameRole sameSuppressions
  exact ⟨before, inEarlier, sameId, sameNumber, sameHead, sameRole, sameSuppressions⟩

theorem losers_before {later earlier : FamilyStore} (passed : later.ClosesOver earlier)
    (familyId : String) : later.losers familyId ⊆ earlier.losers familyId := by
  intro loser present
  obtain ⟨candidate, inLater, inFamily, isLoser, rfl⟩ := mem_losers.1 present
  obtain ⟨before, inEarlier, sameId, sameNumber, sameHead, sameRole, -⟩ :=
    member_before passed inLater
  rw [← sameNumber, ← sameHead]
  exact mem_losers.2 ⟨before, inEarlier, sameId.trans inFamily, sameRole.trans isLoser, rfl⟩

theorem judged_closeout {world : FamilyWorld} (inv : world.Judged) (call : CloseoutPass) :
    FamilyWorld.Judged
      { world with store := (reconcileDuplicateFamilyCloseouts world.store call).2 } := by
  unfold reconcileDuplicateFamilyCloseouts
  split
  · have passed := closesOver_closeFamilies call
      (world.store.families.filter fun family =>
        family.status = .survivorSelected || family.status = .survivorMerged) world.store
    exact judged_follows inv (by rw [passed.ids]; exact inv.distinct)
      (fun family present _ => passed.follows family present)
      fun family _ _ => losers_before passed family.familyId
  · exact inv

variable {call : CloseoutPass}

theorem closed_losers {losers : List Candidate} {loser : Candidate}
    (closed : loser ∈ (closeLosers call losers).closed) : loser ∈ losers := by
  induction losers with
  | nil => cases closed
  | cons first rest ih =>
    simp only [closeLosers] at closed
    split at closed
    · cases closed
    · split at closed
      · exact List.mem_cons_of_mem _ (ih closed)
      · split at closed
        · exact List.mem_cons_of_mem _ (ih closed)
        · split at closed
          · rcases List.mem_cons.mp closed with rfl | closed
            · exact List.mem_cons_self ..
            · exact List.mem_cons_of_mem _ (ih closed)
          · cases closed

theorem mergedSurvivor_spec {family : Family} {candidates : List Candidate}
    {survivor : Candidate} {selection : Selection}
    (merged : mergedSurvivor call family candidates = some (survivor, selection)) :
    family.selectedSurvivor = some survivor.prNumber ∧
      family.operatorOverride.selection = some selection ∧ selection.auditPending = false ∧
      selection.stale = none ∧ survivor.headSha = some selection.candidateHeadSha ∧
      ∃ pull, call.pull survivor.prNumber = some pull ∧ pull.merged = true ∧
        pull.otherHead survivor.headSha = false := by
  simp only [mergedSurvivor, bind, Option.bind_eq_some_iff] at merged
  obtain ⟨selected, isSelected, found, isFound, recorded, isRecorded, merged⟩ := merged
  split at merged
  · cases merged
  · rename_i usable
    obtain ⟨pull, isPull, merged⟩ := Option.bind_eq_some_iff.mp merged
    split at merged
    · cases merged
    · rename_i atHead
      obtain ⟨rfl, rfl⟩ := Prod.mk.inj (Option.some.inj merged)
      simp only [not_or, Bool.not_eq_true, ne_eq, not_not, Option.isSome_eq_false_iff,
        Option.isNone_iff_eq_none] at usable
      simp only [not_or, Bool.not_eq_true, Bool.not_eq_eq_eq_not, Bool.not_true,
        Bool.not_eq_false] at atHead
      have number : found.prNumber = selected := by simpa using List.find?_some isFound
      exact ⟨by rw [isSelected, number], isRecorded, usable.1, usable.2.1, usable.2.2.symm, pull,
        isPull, by simpa using atHead.2, atHead.1⟩

theorem mem_closeFamilies {families : List Family} {store : FamilyStore}
    {closed : Closed} (present : closed ∈ (closeFamilies call families store).1) :
    ∃ family ∈ families, ∃ later : FamilyStore, later.ClosesOver store ∧
      closed ∈ (closeFamily call family later).1 := by
  induction families generalizing store with
  | nil => cases present
  | cons family rest ih =>
    rcases List.mem_append.mp present with present | present
    · exact ⟨family, List.mem_cons_self .., store, ⟨rfl, .refl _, rfl⟩, present⟩
    · obtain ⟨other, inRest, later, passed, closes⟩ := ih present
      exact ⟨other, List.mem_cons_of_mem _ inRest, later,
        (closesOver_closeFamily call family store).trans passed, closes⟩

theorem closeout_adjudicated {world : FamilyWorld} (inv : world.Judged)
    (headed : ∀ prNumber pull, call.pull prNumber = some pull → pull.headSha ≠ "") {closed : Closed}
    (present : closed ∈ (reconcileDuplicateFamilyCloseouts world.store call).1) :
    ∃ family selection candidate,
      Adjudicated world call closed family selection candidate := by
  unfold reconcileDuplicateFamilyCloseouts at present
  split at present
  swap
  · cases present
  obtain ⟨family, inFilter, later, passed, closes⟩ := mem_closeFamilies present
  obtain ⟨recorded, awaits⟩ := List.mem_filter.mp inFilter
  obtain ⟨selection, judgement, agreed⟩ := inv.families family recorded awaits
  simp only [closeFamily] at closes
  split at closes
  · cases closes
  rename_i survivor known merged
  obtain ⟨isSurvivor, isSelection, audited, fresh, atHead, pull, isPull, isMerged, sameHead⟩ :=
    mergedSurvivor_spec merged
  obtain rfl : known = selection := Option.some.inj (isSelection.symm.trans agreed.selected)
  have number : survivor.prNumber = known.candidatePrNumber :=
    Option.some.inj (isSurvivor.symm.trans agreed.survivor)
  obtain ⟨loser, isClosed, rfl⟩ := List.mem_map.mp closes
  -- A loser that was closed is a member of the family, and could be closed.
  obtain ⟨isRow, closable⟩ := List.mem_filter.mp (closed_losers isClosed)
  simp only [Bool.and_eq_true, decide_eq_true_eq, List.isEmpty_iff, Bool.not_eq_true',
    List.any_eq_false] at closable
  obtain ⟨⟨⟨isLoser, -⟩, unsuppressed⟩, notIgnored⟩ := closable
  obtain ⟨inLater, inFamily⟩ : loser ∈ later.candidates ∧ loser.familyId = family.familyId := by
    simpa [FamilyStore.duplicateFamilyCandidateRows, List.mem_insertionSort] using isRow
  obtain ⟨candidate, inStore, sameId, sameNumber, sameLoserHead, sameRole, sameSuppressions⟩ :=
    member_before passed inLater
  refine ⟨family, known, candidate, ?_⟩
  exact {
    recorded
    inFamily := rfl
    selected := isSelection
    fresh
    audited
    merged := by
      refine ⟨pull, number ▸ isPull, isMerged, ?_⟩
      have names := headed _ _ isPull
      simpa [Pull.otherHead, names, atHead] using sameHead
    judged := by
      refine ⟨judgement, agreed.judged, agreed.same, agreed.losers ?_⟩
      refine mem_losers.2 ⟨candidate, inStore, sameId.trans inFamily,
        sameRole.trans isLoser, ?_⟩
      rw [sameNumber, sameLoserHead]
    row := inStore
    rowFamily := sameId.trans inFamily
    rowNumber := sameNumber
    rowHead := sameLoserHead
    unsuppressed := sameSuppressions.trans unsuppressed
    notIgnored := by simpa using notIgnored }

end

section

def LosersWithin (before : FamilyStore) (candidates : List Candidate) : Prop :=
  ∀ candidate ∈ candidates, candidate.role = .loser →
    (∃ row ∈ before.candidates, row.role = .loser ∧ row.prNumber = candidate.prNumber) ∧
      ∀ family ∈ before.families, family.awaitsCloseout = true →
        candidate.familyId = family.familyId →
          (candidate.prNumber, candidate.headSha) ∈ before.losers family.familyId

structure CensusFrom (before store : FamilyStore) : Prop where
  distinct : store.ids.Nodup
  /-- A family is known since before, or no closeout looks at it. -/
  rows : ∀ family ∈ store.families,
    (∃ earlier ∈ before.families, family.Follows earlier) ∨ family.awaitsCloseout = false
  kept : ∀ earlier ∈ before.families, ∃ family ∈ store.families,
    family.familyId = earlier.familyId ∧ family.familyKey = earlier.familyKey
  losers : LosersWithin before store.candidates

variable {store : FamilyStore}

theorem censusFrom_start (distinct : store.ids.Nodup) :
    CensusFrom store store where
  distinct
  rows family present := .inl ⟨family, present, .refl family⟩
  kept family present := ⟨family, present, rfl, rfl⟩
  losers candidate present isLoser :=
    ⟨⟨candidate, present, isLoser, rfl⟩, fun _ _ _ inFamily =>
      mem_losers.2 ⟨candidate, present, inFamily, isLoser, rfl⟩⟩

variable {entries : List ObservedPull}

theorem within_refresh {before store : FamilyStore}
    {entry : ObservedPull} (within : LosersWithin before store.candidates)
    (observed : entry ∈ entries)
    (heads : ∀ family ∈ before.families, family.awaitsCloseout = true → ∀ entry ∈ entries,
      (∃ loser ∈ before.losers family.familyId, loser.1 = entry.prNumber) →
        (entry.prNumber, entry.headSha) ∈ before.losers family.familyId) :
    LosersWithin before (store.updateCandidates (·.prNumber = entry.prNumber) fun candidate =>
      { candidate with prState := entry.prState, headSha := entry.headSha }).candidates := by
  intro candidate present isLoser
  obtain ⟨row, inStore, rfl⟩ := List.mem_map.mp present
  by_cases same : row.prNumber = entry.prNumber
  · simp only [same, decide_true, if_true] at isLoser ⊢
    obtain ⟨known, member⟩ := within row inStore isLoser
    refine ⟨same ▸ known, fun family inBefore awaits inFamily => ?_⟩
    exact heads family inBefore awaits entry observed
      ⟨_, member family inBefore awaits inFamily, same⟩
  · simp only [same, decide_false, Bool.false_eq_true, if_false] at isLoser ⊢
    exact within row inStore isLoser

theorem censusFrom_refresh {families : List DetectedFamily} (distinct : store.ids.Nodup)
    (steady : SteadyCensus store entries families) :
    CensusFrom store (refreshObservedDuplicateCandidateRows store entries) := by
  -- Induction on the entries: the families stay, and the losers stay within.
  have fold (current : FamilyStore) (rest : List ObservedPull) (subset : rest ⊆ entries)
      (census : CensusFrom store current) :
      CensusFrom store (refreshObservedDuplicateCandidateRows current rest) := by
    induction rest generalizing current with
    | nil => exact census
    | cons entry rest ih =>
      obtain ⟨observed, subset⟩ := List.cons_subset.mp subset
      exact ih _ subset { census with
        losers := within_refresh census.losers observed steady.heads }
  exact fold store entries (List.Subset.refl _) (censusFrom_start distinct)

theorem redetected_follows (existing : Family) (family : DetectedFamily) :
    (existing.redetected family).Follows existing := by
  by_cases reactivates : existing.status = .inactive ∨ existing.status = .resolved
  · -- It starts over as advisory, which no closeout looks at.
    refine ⟨rfl, rfl, ?_, ?_, ?_⟩ <;>
      simp [Family.redetected, Family.awaitsCloseout, reactivates]
  · refine ⟨rfl, rfl, ?_, ?_, ?_⟩
    · simp [Family.redetected, Family.awaitsCloseout, reactivates]
    · simp [Family.redetected, reactivates]
    · intro _
      simp only [Family.redetected, reactivates, if_false, updateOperatorOverrideForHeadMove,
        Option.map_map]
      congr 1
      funext selection
      simp only [Function.comp_apply, Selection.staleIfMoved]
      split <;> rfl

/-- A detected family takes the row of its key, and the id of an older row only with its key. -/
theorem censusFrom_upsertFamily {before store next : FamilyStore} {family : DetectedFamily}
    {familyId : String} (census : CensusFrom before store)
    (upserted : upsertFamily store family = .ok (familyId, next)) :
    CensusFrom before next ∧
      ∀ earlier ∈ before.families, earlier.familyId = familyId →
        family.familyKey = earlier.familyKey := by
  simp only [upsertFamily, FamilyStore.readExistingFamilyByKey] at upserted
  split at upserted
  · rename_i existing found
    obtain ⟨rfl, rfl⟩ := Prod.mk.inj (Except.ok.inj upserted)
    have present := List.mem_of_find?_eq_some found
    have hasKey : existing.familyKey = family.familyKey := by simpa using List.find?_some found
    refine ⟨⟨?_, ?_, ?_, census.losers⟩, ?_⟩
    · have same : FamilyStore.ids ⟨store.families.map fun other =>
          if other.familyKey = family.familyKey then other.redetected family else other,
          store.candidates⟩ = store.ids := by
        simp only [FamilyStore.ids, List.map_map]
        refine List.map_congr_left fun other _ => ?_
        simp only [Function.comp_apply]
        split <;> rfl
      exact same ▸ census.distinct
    · intro row inNext
      obtain ⟨other, inStore, rfl⟩ := List.mem_map.mp inNext
      split
      · rcases census.rows other inStore with ⟨earlier, inBefore, follows⟩ | idle
        · exact .inl ⟨earlier, inBefore, follows.trans (redetected_follows other family)⟩
        · refine .inr ?_
          by_contra awaits
          have awaited := (redetected_follows other family).awaited (by simpa using awaits)
          exact absurd (awaited.symm.trans idle) (by simp)
      · exact census.rows other inStore
    · intro earlier inBefore
      obtain ⟨row, inStore, sameId, sameKey⟩ := census.kept earlier inBefore
      refine ⟨_, List.mem_map_of_mem inStore, ?_⟩
      split
      · exact ⟨sameId, sameKey⟩
      · exact ⟨sameId, sameKey⟩
    · intro earlier inBefore sameId
      obtain ⟨row, inStore, rowId, rowKey⟩ := census.kept earlier inBefore
      -- The row of that id in the store is the row that was found by its key.
      obtain rfl : row = existing :=
        row_unique census.distinct inStore present (rowId.trans sameId)
      rw [← hasKey, rowKey]
  · split at upserted
    · cases upserted
    rename_i free
    obtain ⟨rfl, rfl⟩ := Prod.mk.inj (Except.ok.inj upserted)
    have unused : ∀ row ∈ store.families, row.familyId ≠ family.familyId := by simpa using free
    refine ⟨⟨?_, ?_, ?_, census.losers⟩, ?_⟩
    · simp only [FamilyStore.ids, List.map_append, List.map_cons, List.map_nil]
      refine census.distinct.append (List.nodup_singleton _) ?_
      intro familyId inStore isNew
      obtain ⟨row, present, rfl⟩ := List.mem_map.mp inStore
      exact unused row present (List.mem_singleton.mp isNew)
    · intro row inNext
      rcases List.mem_append.mp inNext with inStore | isNew
      · exact census.rows row inStore
      · obtain rfl := List.mem_singleton.mp isNew
        exact .inr rfl
    · intro earlier inBefore
      obtain ⟨row, inStore, same⟩ := census.kept earlier inBefore
      exact ⟨row, List.mem_append_left _ inStore, same⟩
    · intro earlier inBefore sameId
      obtain ⟨row, inStore, rowId, -⟩ := census.kept earlier inBefore
      exact absurd (rowId.trans sameId) (unused row inStore)

theorem censusFrom_upsertCandidate {before store : FamilyStore} {familyId : String}
    {candidate : CensusCandidate} (census : CensusFrom before store)
    (member : ∀ earlier ∈ before.families, earlier.awaitsCloseout = true →
      earlier.familyId = familyId →
        (∃ row ∈ before.candidates, row.role = .loser ∧ row.prNumber = candidate.prNumber) →
          (candidate.prNumber, candidate.headSha) ∈ before.losers familyId) :
    CensusFrom before (upsertCandidate store familyId candidate) := by
  unfold upsertCandidate
  split
  · refine { census with losers := fun row present isLoser => ?_ }
    obtain ⟨existing, inStore, rfl⟩ := List.mem_map.mp present
    by_cases same : existing.prNumber = candidate.prNumber
    · simp only [same, decide_true, if_true] at isLoser ⊢
      obtain ⟨known, -⟩ := census.losers existing inStore isLoser
      rw [same] at known
      refine ⟨known, fun family inBefore awaits inFamily => ?_⟩
      rw [← inFamily]
      exact member family inBefore awaits inFamily.symm known
    · simp only [same, decide_false, Bool.false_eq_true, if_false] at isLoser ⊢
      exact census.losers existing inStore isLoser
  · refine { census with losers := fun row present isLoser => ?_ }
    rcases List.mem_append.mp present with present | isNew
    · exact census.losers row present isLoser
    · -- A new member starts as a candidate.
      obtain rfl := List.mem_singleton.mp isNew
      cases isLoser

theorem censusFrom_upsertDetected {before store next : FamilyStore}
    {families rest : List DetectedFamily} (steady : SteadyCensus before entries families)
    (subset : rest ⊆ families) (census : CensusFrom before store)
    (upserted : upsertDetected store rest = .ok next) : CensusFrom before next := by
  induction rest generalizing store with
  | nil => exact Except.ok.inj upserted ▸ census
  | cons family rest ih =>
    obtain ⟨detected, subset⟩ := List.cons_subset.mp subset
    simp only [upsertDetected] at upserted
    split at upserted
    · cases upserted
    rename_i familyId current isUpsert
    obtain ⟨upsertCensus, sameKey⟩ := censusFrom_upsertFamily census isUpsert
    refine ih subset ?_ upserted
    have fold (members : List CensusCandidate) (subset : members ⊆ family.allCandidates)
        (current : FamilyStore) (census : CensusFrom before current) :
        CensusFrom before (members.foldl (upsertCandidate · familyId ·) current) := by
      induction members generalizing current with
      | nil => exact census
      | cons candidate members ihMembers =>
        obtain ⟨isMember, subset⟩ := List.cons_subset.mp subset
        refine ihMembers subset _ (censusFrom_upsertCandidate census ?_)
        rintro earlier inBefore awaits rfl known
        exact steady.members earlier inBefore awaits family detected
          (sameKey earlier inBefore rfl) candidate isMember known
    exact fold family.allCandidates (List.Subset.refl _) current upsertCensus

theorem censusFrom_deactivate {before store : FamilyStore} (census : CensusFrom before store)
    (families : List DetectedFamily) (entries : List ObservedPull) :
    CensusFrom before (deactivateMissing store families entries) := by
  refine ⟨?_, ?_, ?_, census.losers⟩
  · have same : (deactivateMissing store families entries).ids = store.ids := by
      simp only [FamilyStore.ids, deactivateMissing, List.map_map]
      refine List.map_congr_left fun other _ => ?_
      simp only [Function.comp_apply]
      split <;> rfl
    exact same ▸ census.distinct
  · intro row present
    obtain ⟨other, inStore, rfl⟩ := List.mem_map.mp present
    dsimp only
    split
    · exact .inr rfl
    · exact census.rows other inStore
  · intro earlier inBefore
    obtain ⟨row, inStore, same⟩ := census.kept earlier inBefore
    refine ⟨_, List.mem_map_of_mem inStore, ?_⟩
    dsimp only
    split
    · exact same
    · exact same

theorem judged_censusFrom {world : FamilyWorld} (inv : world.Judged)
    (census : CensusFrom world.store store) : FamilyWorld.Judged { world with store } := by
  refine judged_follows inv census.distinct ?_ ?_
  · intro family present awaits
    rcases census.rows family present with follows | idle
    · exact follows
    · rw [idle] at awaits
      cases awaits
  · intro family inBefore awaits loser present
    obtain ⟨candidate, inStore, inFamily, isLoser, rfl⟩ := mem_losers.1 present
    exact (census.losers candidate inStore isLoser).2 family inBefore awaits inFamily

theorem judged_census {world : FamilyWorld} {families : List DetectedFamily} (inv : world.Judged)
    (steady : SteadyCensus world.store entries families) :
    FamilyWorld.Judged
      { world with store := reconcileDuplicateFamiliesForRepo world.store entries families } := by
  have refreshed := censusFrom_refresh inv.distinct steady
  unfold reconcileDuplicateFamiliesForRepo
  dsimp only
  split
  · rename_i store written
    simp only [upsertDuplicateFamilies, bind, Except.bind, pure, Except.pure] at written
    split at written
    · cases written
    · rename_i upserted isUpsert
      obtain rfl := Except.ok.inj written
      have census := censusFrom_upsertDetected steady (List.Subset.refl _) refreshed isUpsert
      exact judged_censusFrom inv (censusFrom_deactivate census families entries)
  · exact judged_censusFrom inv refreshed

end

theorem judged_perform {world : FamilyWorld} {step : FamilyStep} (inv : world.Judged)
    (steady : SteadyStep world step) : (world.perform step).Judged := by
  cases step with
  | census entries families => exact judged_census inv steady
  | select choice =>
    simp only [FamilyWorld.perform]
    split
    · exact judged_select inv ‹_›
    · exact inv
  | confirmAudit familyId observedAt candidateHeadSha =>
    exact judged_confirmAudit inv familyId observedAt candidateHeadSha
  | ignore familyId prNumber candidateHeadSha audit now =>
    simp only [FamilyWorld.perform]
    split
    · exact judged_ignore inv ‹_›
    · exact inv
  | abandon familyId audit now =>
    simp only [FamilyWorld.perform]
    split
    · exact judged_abandon inv ‹_›
    · exact inv
  | closeout call => exact judged_closeout inv call

theorem run_closes_adjudicated {world : FamilyWorld} (inv : world.Judged)
    {steps : List FamilyStep} (steady : SteadyRun world steps) :
    ClosesAdjudicated world steps := by
  induction steps generalizing world with
  | nil => trivial
  | cons step rest ih =>
    obtain ⟨steadyStep, steadyRest⟩ := steady
    refine ⟨?_, ih (judged_perform inv steadyStep) steadyRest⟩
    rintro call rfl closed present
    exact closeout_adjudicated inv steadyStep present

/-- From the empty store, a run of steady steps closes adjudicated losers only. -/
theorem steady_closes_adjudicated (steps : List FamilyStep) (steady : SteadyRun {} steps) :
    ClosesAdjudicated {} steps := by
  have start : FamilyWorld.Judged {} :=
    ⟨List.nodup_nil, fun family present => by cases present⟩
  exact run_closes_adjudicated start steady

def twoMembers (second : String) : List DetectedFamily :=
  [{ familyId := "family", familyKey := "ticket", candidateCount := 2
     allCandidates := [⟨1, some "open", some "a", []⟩, ⟨2, some "open", some second, []⟩] }]

def chooseFirst : SurvivorChoice where
  familyId := "family"
  survivorPrNumber := 1
  reportPath := "docs/research/duplicate-pr-divergence/reports/r.md"
  reportVerifiedHeadSha := "a"
  audit := { actor := "o", reason := "r" }
  now := "t"

def mergedFirst (second : String) : CloseoutPass where
  pull prNumber :=
    if prNumber = 1 then some { state := "closed", merged := true, headSha := "a" }
    else some { state := "open", headSha := second }

def selectThenClose (later : String) : List FamilyStep :=
  [.census [] (twoMembers "b"), .select chooseFirst,
    .census [⟨1, some "open", some "a"⟩, ⟨2, some "open", some later⟩] (twoMembers later),
    .closeout (mergedFirst later)]

theorem steady_closes_adjudicated_unmoved :
    SteadyRun {} (selectThenClose "b") ∧ ClosesAdjudicated {} (selectThenClose "b") := by
  have steady : SteadyRun {} (selectThenClose "b") := by
    refine ⟨⟨by decide, by decide⟩, trivial,
      ⟨by decide, by decide⟩, ?_, trivial⟩
    intro prNumber pull answered
    simp only [mergedFirst] at answered
    split at answered <;> obtain rfl := Option.some.inj answered <;> decide
  exact ⟨steady, steady_closes_adjudicated _ steady⟩

/-- A census observes the loser at another head; it is closed there, which nobody judged. -/
theorem moved_loser_closed : ¬ ∀ steps, ClosesAdjudicated {} steps := by
  intro closes
  obtain ⟨-, -, -, closing, -⟩ := closes (selectThenClose "c")
  have present : (⟨"family", 2, some "c"⟩ : Closed) ∈
      (reconcileDuplicateFamilyCloseouts
        (((selectThenClose "c").take 3).foldl FamilyWorld.perform {}).store
        (mergedFirst "c")).1 := by
    decide
  obtain ⟨family, selection, candidate, adjudicated⟩ := closing (mergedFirst "c") rfl _ present
  obtain ⟨judgement, judged, -, isLoser⟩ := adjudicated.judged
  rw [adjudicated.inFamily] at judged
  have losers : ((((selectThenClose "c").take 3).foldl FamilyWorld.perform {}).judgements
      "family").map (·.losers) = some [(2, some "b")] := by
    decide
  have judgedLosers : some [(2, some "b")] = some judgement.losers :=
    losers.symm.trans (congrArg (Option.map (·.losers)) judged)
  rw [← Option.some.inj judgedLosers] at isLoser
  exact absurd isLoser (by decide)

end AdversarialReview.Duplicates
