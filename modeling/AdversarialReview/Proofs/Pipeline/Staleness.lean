import Mathlib.Data.List.Forall2
import AdversarialReview.Proofs.Pipeline.Driver

/-! Stale verdicts: neither a plan nor the latest verdict rests on one. -/

namespace AdversarialReview.Pipeline

def isStale (revisionRef : Option String) (verdict : PinnedVerdict) : Bool :=
  let own := jsTrim (verdict.revisionRef.getD "")
  own = "" || own ≠ jsTrim (revisionRef.getD "")

structure SameButStale (revisionRef : Option String) (one two : StageState) : Prop where
  stageId : one.stageId = two.stageId
  stageIndex : one.stageIndex = two.stageIndex
  live : one.panelVerdicts.filter (fun verdict => !isStale revisionRef verdict) =
    two.panelVerdicts.filter fun verdict => !isStale revisionRef verdict

def DifferInStale (revisionRef : Option String) (first second : List (Option StageState)) :
    Prop :=
  List.Forall₂ (Option.Rel (SameButStale revisionRef)) first second

def PlannedDecision.own (decision : PlannedDecision) : StageAggregate × Nat :=
  (decision.toStageAggregate, decision.stageIndex)

structure SamePlan (first second : ReReviewPlan) : Prop where
  decisions : first.decisions.map PlannedDecision.own = second.decisions.map PlannedDecision.own
  complete : first.complete = second.complete
  activeStageIndex : first.activeStageIndex = second.activeStageIndex
  activeStageId : first.activeStageId = second.activeStageId
  stagesToRun : first.stagesToRun = second.stagesToRun

def SamePlans : Except String ReReviewPlan → Except String ReReviewPlan → Prop
  | .ok first, .ok second => SamePlan first second
  | .error first, .error second => first = second
  | _, _ => False

section

theorem stageVerdictsForRevision_eq (verdicts : List PinnedVerdict) (revisionRef : Option String) :
    stageVerdictsForRevision verdicts (revisionRef.getD "") =
      verdicts.filter fun verdict => !isStale revisionRef verdict := by
  refine List.filter_congr fun verdict _ => ?_
  unfold stageVerdictAppliesToRevision isStale
  by_cases blank : jsTrim (verdict.revisionRef.getD "") = ""
  · simp [blank]
  by_cases same : jsTrim (verdict.revisionRef.getD "") = jsTrim (revisionRef.getD "")
  · rw [same] at blank
    simp [same, blank]
  · simp [blank, same]

theorem reduceOption_forall₂ {α : Type} {related : α → α → Prop} {first second : List (Option α)}
    (same : List.Forall₂ (Option.Rel related) first second) :
    List.Forall₂ related first.reduceOption second.reduceOption := by
  induction same with
  | nil => exact .nil
  | cons own rest ih =>
    cases own with
    | some own => simpa [List.reduceOption] using ⟨own, ih⟩
    | none => simpa [List.reduceOption] using ih

theorem find?_forall₂ {α : Type} {related : α → α → Prop} {wanted : α → Bool}
    (agree : ∀ {one two}, related one two → wanted one = wanted two) {first second : List α}
    (same : List.Forall₂ related first second) :
    Option.Rel related (first.find? wanted) (second.find? wanted) := by
  induction same with
  | nil => exact .none
  | @cons one two _ _ own rest ih =>
    simp only [List.find?_cons, agree own]
    split
    · exact .some own
    · exact ih

theorem verdictsOf_differ {revisionRef : Option String} {first second : List (Option StageState)}
    (same : DifferInStale revisionRef first second) (stageId : String) :
    stageVerdictsForRevision (verdictsOf (toStageStateMap first) stageId)
        (revisionRef.getD "") =
      stageVerdictsForRevision (verdictsOf (toStageStateMap second) stageId)
        (revisionRef.getD "") := by
  rw [stageVerdictsForRevision_eq, stageVerdictsForRevision_eq]
  have found := @find?_forall₂ StageState _ (fun state => decide (state.stageId = stageId))
    (fun own => by rw [own.stageId]) _ _
    (List.forall₂_reverse_iff.mpr (reduceOption_forall₂ same))
  unfold verdictsOf toStageStateMap
  generalize List.find? _ first.reduceOption.reverse = one at found ⊢
  generalize List.find? _ second.reduceOption.reverse = two at found ⊢
  cases found with
  | none => rfl
  | some own => exact own.live

theorem activeIndex_own (decisions : List PlannedDecision) :
    (decisions.findIdx? fun decision => decide (decision.decision ≠ .clean)) =
      (decisions.map PlannedDecision.own).findIdx? fun own => decide (own.1.decision ≠ .clean) := by
  rw [List.findIdx?_map]
  rfl

theorem stageIds_own (decisions : List PlannedDecision) :
    (decisions.map fun decision => decision.stageId) =
      (decisions.map PlannedDecision.own).map fun own => own.1.stageId := by
  rw [List.map_map]
  rfl

theorem head_stageId (decisions : List PlannedDecision) :
    (decisions.head?.map fun decision => decision.stageId) =
      (decisions.map fun decision => decision.stageId).head? := by
  cases decisions <;> rfl

theorem toRun_own {first second : List PlannedDecision}
    (same : first.map PlannedDecision.own = second.map PlannedDecision.own) (index : Option Nat) :
    ((index.elim [] first.drop).map fun decision => decision.stageId) =
      (index.elim [] second.drop).map fun decision => decision.stageId := by
  cases index with
  | none => rfl
  | some index =>
    simp only [Option.elim_some, stageIds_own, List.map_drop, same]

variable [JsJson] {revisionRef : String} {before after : String → Option StageState}

theorem planStages_same
    (same : ∀ stageId, stageVerdictsForRevision (verdictsOf before stageId) revisionRef =
      stageVerdictsForRevision (verdictsOf after stageId) revisionRef)
    (stages : List (Stage × Nat)) :
    (planStages before revisionRef stages).map (List.map PlannedDecision.own) =
      (planStages after revisionRef stages).map (List.map PlannedDecision.own) := by
  induction stages with
  | nil => rfl
  | cons entry rest ih =>
    unfold planStages planStage aggregateAtRevision
    rw [same]
    cases aggregateStageVerdict entry.1
      ((stageVerdictsForRevision (verdictsOf after entry.1.id) revisionRef).map
        PinnedVerdict.toVerdict) with
    | error message => rfl
    | ok aggregated =>
      cases first : planStages before revisionRef rest with
      | error message =>
        rw [first] at ih
        cases second : planStages after revisionRef rest with
        | error other =>
          rw [second] at ih
          exact congrArg Except.error (Except.error.inj ih)
        | ok others => rw [second] at ih; cases ih
      | ok decisions =>
        rw [first] at ih
        cases second : planStages after revisionRef rest with
        | error message => rw [second] at ih; cases ih
        | ok others =>
          rw [second] at ih
          exact congrArg (fun rest => Except.ok ((aggregated, entry.2) :: rest))
            (Except.ok.inj ih)

theorem planPipelineReReview_differ {pipeline : List Stage}
    {first second : List (Option StageState)} {currentRevisionRef riskClass : Option String}
    {budgetOverride : Option Nat} (same : DifferInStale currentRevisionRef first second) :
    SamePlans
      (planPipelineReReview pipeline first currentRevisionRef riskClass budgetOverride)
      (planPipelineReReview pipeline second currentRevisionRef riskClass budgetOverride) := by
  have planned := planStages_same (verdictsOf_differ same) pipeline.zipIdx
  unfold planPipelineReReview
  split
  · rfl
  cases before : planStages (toStageStateMap first) (currentRevisionRef.getD "")
      pipeline.zipIdx with
  | error message =>
    rw [before] at planned
    cases after : planStages (toStageStateMap second) (currentRevisionRef.getD "")
        pipeline.zipIdx with
    | error other =>
      rw [after] at planned
      simp only [before, after]
      exact Except.error.inj planned
    | ok others => rw [after] at planned; cases planned
  | ok decisions =>
    rw [before] at planned
    cases after : planStages (toStageStateMap second) (currentRevisionRef.getD "")
        pipeline.zipIdx with
    | error message => rw [after] at planned; cases planned
    | ok others =>
      rw [after] at planned
      have own : decisions.map PlannedDecision.own = others.map PlannedDecision.own :=
        Except.ok.inj planned
      have index := activeIndex_own decisions
      rw [own, ← activeIndex_own] at index
      simp only [before, after]
      refine ⟨own, ?_, ?_, ?_, ?_⟩
      · simp only [index]
      · simp only [index]
      · simp only [index, head_stageId]
        rw [toRun_own own]
      · simp only [index]
        exact toRun_own own _

end

section

theorem record_missing (counts : DispositionCounts) (roleIds : List String) :
    (roleIds.map fun roleId => ({ roleId, verdict := none } : RoleVerdict)).foldl
        DispositionCounts.record counts =
      { counts with missing := counts.missing + roleIds.length } := by
  induction roleIds generalizing counts with
  | nil => rfl
  | cons roleId rest ih =>
    rw [List.map_cons, List.foldl_cons, ih]
    simp only [DispositionCounts.record, List.length_cons, DispositionCounts.mk.injEq, true_and]
    omega

theorem weigh_missing (policy : Json) (weights : DispositionWeights) (roleIds : List String) :
    ((roleIds.map fun roleId => ({ roleId, verdict := none } : RoleVerdict)).foldl
      (DispositionWeights.record policy) weights).clean = weights.clean := by
  induction roleIds generalizing weights with
  | nil => rfl
  | cons roleId rest ih => rw [List.map_cons, List.foldl_cons, ih]; rfl

theorem decidePanel_unreported (policy : Json) (kind : String) {roleIds : List String}
    (seated : roleIds ≠ []) :
    decidePanel policy kind (roleIds.map fun roleId => { roleId, verdict := none })
      { missing := roleIds.length } ≠ .ok .clean := by
  have some_seat := List.length_pos_iff.mpr seated
  unfold decidePanel
  intro passed
  split at passed
  · have panel : (0 : Nat) ≠ roleIds.length := by omega
    simp [panel] at passed
  split at passed
  · simp at passed
  split at passed
  · cases needed : positiveInt? (policy.get? "quorum") with
    | none => simp [needed] at passed
    | some need =>
      have positive : 0 < need := by
        unfold positiveInt? at needed
        obtain ⟨number, -, whole⟩ := Option.bind_eq_some_iff.mp needed
        split at whole
        · next shape =>
          obtain rfl := Option.some.inj whole
          omega
        · cases whole
      have short : ¬ need ≤ 0 := by omega
      simp only [needed, short, if_false] at passed
      split at passed <;> simp at passed
  · cases needed : threshold? policy with
    | none => simp [needed] at passed
    | some threshold =>
      have positive : 0 < threshold := by
        have kept := (Option.filter_eq_some_iff.mp needed).2
        simpa using kept
      have light : (JsDouble.finite 0).atLeast threshold = false := by
        simpa [JsDouble.atLeast] using positive
      simp only [needed, weigh_missing, light, Bool.false_eq_true, if_false] at passed
      split at passed <;> simp at passed

variable [JsJson]

theorem aggregate_unreported {stage : Stage} {aggregated : StageAggregate}
    (decided : aggregateStageVerdict stage [] = .ok aggregated) : aggregated.decision ≠ .clean := by
  unfold aggregateStageVerdict at decided
  split at decided
  · next kind isKind =>
    split at decided
    · obtain ⟨decision, judged, decided⟩ := Except.bind_ok decided
      obtain rfl := Except.ok.inj decided
      intro clean
      obtain rfl : decision = .clean := clean
      cases seats : panelRoleIds stage with
      | nil =>
        simp only [resolvePanelRoleVerdicts, seats, List.map_nil, decideStage] at judged
        cases judged
      | cons roleId rest =>
        have roles : resolvePanelRoleVerdicts stage [] =
            (roleId :: rest).map fun roleId => { roleId, verdict := none } := by
          simp only [resolvePanelRoleVerdicts, seats, List.foldl_nil]
        rw [roles, record_missing, List.map_cons, decideStage] at judged
        exact decidePanel_unreported stage.aggregation kind (List.cons_ne_nil roleId rest)
          (by simpa using judged)
    · cases decided
  · cases decided

theorem planStages_ids {stateById : String → Option StageState} {revisionRef : String}
    {stages : List (Stage × Nat)} {decisions : List PlannedDecision}
    (made : planStages stateById revisionRef stages = .ok decisions) :
    (decisions.map fun decision => decision.stageId) = stages.map fun entry => entry.1.id := by
  induction stages generalizing decisions with
  | nil =>
    obtain rfl := Except.ok.inj made
    rfl
  | cons entry rest ih =>
    obtain ⟨first, firstMade, made⟩ := Except.bind_ok made
    obtain ⟨others, othersMade, made⟩ := Except.bind_ok made
    obtain rfl := Except.ok.inj made
    rw [List.map_cons, List.map_cons, ih othersMade, (planStage_eq firstMade).2]

theorem planPipelineReReview_unpinned {pipeline : List Stage}
    {stageStates : List (Option StageState)} {currentRevisionRef riskClass : Option String}
    {budgetOverride : Option Nat} {plan : ReReviewPlan}
    (unpinned : ∀ state ∈ stageStates.reduceOption, ∀ verdict ∈ state.panelVerdicts,
      isStale currentRevisionRef verdict = true)
    (planned : planPipelineReReview pipeline stageStates currentRevisionRef riskClass
      budgetOverride = .ok plan) : plan.stagesToRun = pipeline.map Stage.id := by
  unfold planPipelineReReview at planned
  split at planned
  · cases planned
  next some_stage =>
  obtain ⟨decisions, made, planned⟩ := Except.bind_ok planned
  obtain rfl := Except.ok.inj planned
  have ids := planStages_ids made
  obtain ⟨stage, rest, rfl⟩ := List.exists_cons_of_ne_nil some_stage
  rw [List.zipIdx_cons] at made
  obtain ⟨first, firstMade, made⟩ := Except.bind_ok made
  obtain ⟨others, -, made⟩ := Except.bind_ok made
  obtain rfl := Except.ok.inj made
  have nothing : stageVerdictsForRevision (verdictsOf (toStageStateMap stageStates) stage.id)
      (currentRevisionRef.getD "") = [] := by
    rw [stageVerdictsForRevision_eq, List.filter_eq_nil_iff]
    intro verdict listed
    unfold verdictsOf toStageStateMap at listed
    cases found : stageStates.reduceOption.reverse.find? fun state =>
        decide (state.stageId = stage.id) with
    | none => simp [found] at listed
    | some state =>
      have given := List.mem_reverse.mp (List.mem_of_find?_eq_some found)
      simp [unpinned state given verdict (by simpa [found] using listed)]
  have unclean : first.decision ≠ .clean := by
    obtain ⟨aggregated, decided, firstMade⟩ := Except.bind_ok firstMade
    obtain rfl := Except.ok.inj firstMade
    rw [aggregateAtRevision, nothing] at decided
    exact aggregate_unreported decided
  have atStart : (first :: others).findIdx?
      (fun decision => decide (decision.decision ≠ .clean)) = some 0 := by
    simp [List.findIdx?_cons, unclean]
  simp only [atStart, Option.elim_some, List.drop_zero, ids]
  rw [show (fun entry : Stage × Nat => entry.1.id) = Stage.id ∘ Prod.fst from rfl,
    ← List.map_map, List.zipIdx_map_fst]

end

theorem newestPinned_mem {verdicts : List PinnedVerdict} {verdict : PinnedVerdict}
    (newest : newestPinned verdicts = some verdict) : verdict ∈ verdicts := by
  have general : ∀ (verdicts : List PinnedVerdict) (best : Option PinnedVerdict),
      verdicts.foldl newerPinned best = some verdict →
      verdict ∈ verdicts ∨ best = some verdict := by
    intro verdicts
    induction verdicts with
    | nil => exact fun best same => .inr same
    | cons first rest ih =>
      intro best folded
      rcases ih _ folded with later | held
      · exact .inl (.tail _ later)
      · unfold newerPinned at held
        split at held
        · exact .inl (by simp [Option.some.inj held])
        · exact .inr held
  exact (general verdicts none newest).resolve_right (by simp)

theorem resolveLatestVerdict_pinned {subject : SubjectState}
    (history : ∃ state ∈ subject.pipeline.reduceOption, state.panelVerdicts ≠ [])
    {verdict : PinnedVerdict} (latest : resolveLatestVerdict subject = some verdict) :
    isStale subject.revisionRef verdict = false := by
  simp only [resolveLatestVerdict] at latest
  split at latest
  · next newest found =>
    obtain rfl := Option.some.inj latest
    obtain ⟨active, -, newest⟩ := Option.bind_eq_some_iff.mp found
    have live := newestPinned_mem newest
    rw [stageVerdictsForRevision_eq] at live
    simpa using (List.mem_filter.mp live).2
  · obtain ⟨state, listed, some_verdict⟩ := history
    have recorded : (subject.pipeline.reduceOption.any fun state =>
        !state.panelVerdicts.isEmpty) = true :=
      List.any_eq_true.mpr ⟨state, listed, by simp [some_verdict]⟩
    simp [recorded] at latest

/-- Verdicts without a revision, or of another one than the current, change nothing that is
decided; where there are no others every stage is run; and the latest verdict is none of them. -/
theorem stale_verdicts_powerless [JsJson] (revisionRef : Option String) :
    (∀ pipeline first second riskClass budgetOverride, DifferInStale revisionRef first second →
      SamePlans (planPipelineReReview pipeline first revisionRef riskClass budgetOverride)
        (planPipelineReReview pipeline second revisionRef riskClass budgetOverride)) ∧
      (∀ pipeline stageStates riskClass budgetOverride plan,
        (∀ state ∈ stageStates.reduceOption, ∀ verdict ∈ state.panelVerdicts,
          isStale revisionRef verdict = true) →
        planPipelineReReview pipeline stageStates revisionRef riskClass budgetOverride =
          .ok plan →
        plan.stagesToRun = pipeline.map Stage.id) ∧
      ∀ subject : SubjectState, subject.revisionRef = revisionRef →
        (∃ state ∈ subject.pipeline.reduceOption, state.panelVerdicts ≠ []) →
        ∀ verdict, resolveLatestVerdict subject = some verdict →
          isStale revisionRef verdict = false :=
  ⟨fun _ _ _ _ _ same => planPipelineReReview_differ same,
    fun _ _ _ _ _ unpinned planned => planPipelineReReview_unpinned unpinned planned,
    fun _ own history _ latest => own ▸ resolveLatestVerdict_pinned history latest⟩

end AdversarialReview.Pipeline
