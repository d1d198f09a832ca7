import Mathlib.Tactic.Linarith
import Mathlib.Data.List.Sublists
import AdversarialReview.Proofs.Pipeline.Panel

/-! When a panel's decision is final: late verdicts and their order change nothing. -/

namespace AdversarialReview.Pipeline

def weigh (policy : Json) (roleIds : List String) (chosen : String → Bool) : JsDouble :=
  weighFrom policy (.finite 0) roleIds chosen

def weightLeft (policy : Json) (roleIds : List String) (chosen : String → Bool) : JsDouble :=
  (weigh policy roleIds fun _ => true).sub (weigh policy roleIds chosen)

def Within (roleIds : List String) (few many : String → Bool) : Prop :=
  ∀ roleId ∈ roleIds, few roleId = true → many roleId = true

/--
Weights that are steady at a threshold, in the doubles they are added in.

No role takes a weight that has reached the threshold below it again, and what is left below it
stays below, whatever roles block or pass besides.
-/
structure Steady (policy : Json) (roleIds : List String) (threshold : Rat) : Prop where
  clean : ∀ few many, Within roleIds few many →
    (weigh policy roleIds few).atLeast threshold = true →
    (weigh policy roleIds many).atLeast threshold = true
  blocking : ∀ few many others, Within roleIds few many →
    (∀ roleId ∈ roleIds, others roleId = true → many roleId = false) →
    (weightLeft policy roleIds few).below threshold = true →
    (weightLeft policy roleIds many).below threshold = true ∧
      (weigh policy roleIds others).atLeast threshold = false

def SteadyStage (stage : Stage) : Prop :=
  (stage.aggregation.get? "kind").bind Json.text? = some "weighted" →
  ∀ threshold, threshold? stage.aggregation = some threshold →
    Steady stage.aggregation (panelRoleIds stage) threshold

section

-- Every proof below unfolds these, so their equations are made before the first one.
attribute [local simp] decidePanel aggregateStageVerdict

end

def decisionOf [JsJson] (stage : Stage) (verdicts : List Verdict) :
    Except String PipelineDisposition :=
  (aggregateStageVerdict stage verdicts).map StageAggregate.decision

def ArriveLate (stage : Stage) (before after : List Verdict) : Prop :=
  ∀ roleId ∈ panelRoleIds stage, roleVerdicts (panelRoleIds stage) before roleId ≠ [] →
    roleVerdicts (panelRoleIds stage) after roleId =
      roleVerdicts (panelRoleIds stage) before roleId

def DistinctTimes (stage : Stage) (verdicts : List Verdict) : Prop :=
  ∀ roleId ∈ panelRoleIds stage,
    ((roleVerdicts (panelRoleIds stage) verdicts roleId).map verdictSortKey).Nodup

def FinalUnderLateArrivals [JsJson] (stage : Stage) : Prop :=
  ∀ before after decision, decisionOf stage before = .ok decision →
    decision = .clean ∨ decision = .blocking → ArriveLate stage before after →
    decisionOf stage after = .ok decision

def OrderFree [JsJson] (stage : Stage) : Prop :=
  ∀ verdicts shuffled, verdicts.Perm shuffled → DistinctTimes stage verdicts →
    decisionOf stage shuffled = decisionOf stage verdicts

theorem ArriveLate.extends {stage : Stage} {before after : List Verdict} 
    (late : ArriveLate stage before after) :
    Extends (panelRoleIds stage) (newestOf (panelRoleIds stage) before)
      (newestOf (panelRoleIds stage) after) := by
  intro roleId listed there
  have some : roleVerdicts (panelRoleIds stage) before roleId ≠ [] := by
    intro none
    exact there (newestAfter_eq_none.mpr ⟨rfl, none⟩)
  rw [newestOf, late roleId listed some]
  rfl

section

variable {policy : Json} {roleIds : List String} {before after : String → Option Verdict}

def panelCounts (verdicts : String → Option Verdict) (roleIds : List String) : DispositionCounts :=
  (rolesOf verdicts roleIds).foldl DispositionCounts.record {}

theorem panelCounts_eq (verdicts : String → Option Verdict) (roleIds : List String) :
    panelCounts verdicts roleIds =
      { clean := countOf verdicts roleIds (some .clean)
        blocking := countOf verdicts roleIds (some .blocking)
        indeterminate := countOf verdicts roleIds (some .indeterminate)
        missing := countOf verdicts roleIds none } := by
  simp [panelCounts, counts_eq]

variable {decision : PipelineDisposition}

theorem unanimous_final (later : Extends roleIds before after)
    (settled : decision = .clean ∨ decision = .blocking)
    (decided : decidePanel policy "unanimous-clean" (rolesOf before roleIds)
      (panelCounts before roleIds) = .ok decision) :
    decidePanel policy "unanimous-clean" (rolesOf after roleIds) (panelCounts after roleIds) =
      .ok decision := by
  -- A decision other than pending has counted every role, or one that blocks.
  have cleaner := later.countOf_le .clean
  have blocker := later.countOf_le .blocking
  have total := countOf_total after roleIds
  have size : ∀ verdicts, (rolesOf verdicts roleIds).length = roleIds.length := by simp [rolesOf]
  simp only [decidePanel, if_true, panelCounts_eq, size, Except.ok.injEq] at decided ⊢
  split at decided
  next blocked =>
    rw [if_pos (by omega), ← decided]
  next calm =>
    split at decided
    next all =>
      rw [if_neg (by omega), if_pos (by omega), ← decided]
    next =>
      subst decided
      rcases settled with clean | blocking
      · cases clean
      · cases blocking

theorem anyBlocking_final (later : Extends roleIds before after)
    (settled : decision = .clean ∨ decision = .blocking)
    (decided : decidePanel policy "any-blocking-blocks" (rolesOf before roleIds)
      (panelCounts before roleIds) = .ok decision) :
    decidePanel policy "any-blocking-blocks" (rolesOf after roleIds) (panelCounts after roleIds) =
      .ok decision := by
  -- One block decides for good, and without a block all roles are in.
  have blocker := later.countOf_le .blocking
  have other : ("any-blocking-blocks" = "unanimous-clean") = False := by decide
  simp only [decidePanel, other, if_false, if_true, panelCounts_eq, Except.ok.injEq]
    at decided ⊢
  split at decided
  next blocked =>
    rw [if_pos (by omega), ← decided]
  next calm =>
    split at decided
    next =>
      subst decided
      rcases settled with clean | blocking
      · cases clean
      · cases blocking
    next full =>
      -- Every role has answered, so nothing is added.
      have none : countOf before roleIds none = 0 := by omega
      rw [later.countOf_eq none, later.countOf_eq none, if_neg calm, if_neg full, decided]

theorem quorum_final (later : Extends roleIds before after)
    (settled : decision = .clean ∨ decision = .blocking)
    (decided : decidePanel policy "quorum" (rolesOf before roleIds)
      (panelCounts before roleIds) = .ok decision) :
    decidePanel policy "quorum" (rolesOf after roleIds) (panelCounts after roleIds) =
      .ok decision := by
  -- Late verdicts take from the pending ones only, so a quorum stays one.
  have cleaner := later.countOf_le .clean
  have blocker := later.countOf_le .blocking
  have total := countOf_total after roleIds
  have size : ∀ verdicts, (rolesOf verdicts roleIds).length = roleIds.length := by simp [rolesOf]
  have other : ("quorum" = "unanimous-clean") = False := by decide
  have another : ("quorum" = "any-blocking-blocks") = False := by decide
  simp only [decidePanel, other, another, if_false, if_true, panelCounts_eq, size]
    at decided ⊢
  cases quorum : positiveInt? (policy.get? "quorum") with
  | none => simp [quorum] at decided
  | some need =>
    simp only [quorum, Except.ok.injEq] at decided ⊢
    split at decided
    next reached =>
      rw [if_pos (by omega), ← decided]
    next short =>
      split at decided
      next lost =>
        -- The clean roles and the blocking ones share the panel.
        rw [if_neg (by omega), if_pos (by omega), ← decided]
      next =>
        subst decided
        rcases settled with clean | blocking
        · cases clean
        · cases blocking

theorem decidePanel_weighted {threshold : Rat} (bounded : threshold? policy = some threshold)
    (verdicts : String → Option Verdict) (roleIds : List String) (counts : DispositionCounts) :
    decidePanel policy "weighted" (rolesOf verdicts roleIds) counts =
      .ok (if (weigh policy roleIds fun roleId =>
            stance verdicts roleId = some .clean).atLeast threshold then .clean
        else if (weightLeft policy roleIds fun roleId =>
            stance verdicts roleId = some .blocking).below threshold then .blocking
        else .pending) := by
  have other : ("weighted" = "unanimous-clean") = False := by decide
  have another : ("weighted" = "any-blocking-blocks") = False := by decide
  have third : ("weighted" = "quorum") = False := by decide
  simp only [decidePanel, other, another, third, if_false, bounded, weights_eq, weightLeft, weigh]
  rfl

theorem decidePanel_unbounded (bounded : threshold? policy = none) (roles : List RoleVerdict)
    (counts : DispositionCounts) (decision : PipelineDisposition) :
    decidePanel policy "weighted" roles counts ≠ .ok decision := by
  have other : ("weighted" = "unanimous-clean") = False := by decide
  have another : ("weighted" = "any-blocking-blocks") = False := by decide
  have third : ("weighted" = "quorum") = False := by decide
  simp [decidePanel, other, another, third, bounded]

theorem weighted_final (later : Extends roleIds before after)
    (steady : ∀ threshold, threshold? policy = some threshold → Steady policy roleIds threshold)
    (settled : decision = .clean ∨ decision = .blocking)
    (decided : decidePanel policy "weighted" (rolesOf before roleIds)
      (panelCounts before roleIds) = .ok decision) :
    decidePanel policy "weighted" (rolesOf after roleIds) (panelCounts after roleIds) =
      .ok decision := by
  -- Steady weights keep a threshold that is reached or lost, whoever comes late.
  cases bounded : threshold? policy with
  | none => exact absurd decided (decidePanel_unbounded bounded _ _ decision)
  | some threshold =>
    have steady := steady threshold bounded
    rw [decidePanel_weighted bounded, Except.ok.injEq] at decided ⊢
    have keeps : ∀ disposition, Within roleIds
        (fun roleId => stance before roleId = some disposition)
        (fun roleId => stance after roleId = some disposition) := by
      intro disposition roleId listed taken
      simp only [decide_eq_true_eq] at taken ⊢
      exact later.stance_eq listed taken
    split at decided
    next reached =>
      rw [if_pos (steady.clean _ _ (keeps .clean) reached), ← decided]
    next short =>
      split at decided
      next lost =>
        have apart : ∀ roleId ∈ roleIds, decide (stance after roleId = some .clean) = true →
            decide (stance after roleId = some .blocking) = false := by
          intro roleId _ clean
          simp only [decide_eq_true_eq] at clean
          simp [clean]
        obtain ⟨stays, passing⟩ := steady.blocking _ _ _ (keeps .blocking) apart lost
        rw [passing, stays, ← decided]
        rfl
      next =>
        subst decided
        rcases settled with clean | blocking
        · cases clean
        · cases blocking

end

section

variable [JsJson] {stage : Stage}

theorem decisionOf_eq {kind : String}
    (isKind : (stage.aggregation.get? "kind").bind Json.text? = some kind)
    (known : kind ∈ aggregationPolicyKinds) (verdicts : List Verdict) :
    decisionOf stage verdicts =
      decideStage stage.aggregation kind
        (rolesOf (newestOf (panelRoleIds stage) verdicts) (panelRoleIds stage))
        (panelCounts (newestOf (panelRoleIds stage) verdicts) (panelRoleIds stage)) := by
  have roles : resolvePanelRoleVerdicts stage verdicts =
      rolesOf (newestOf (panelRoleIds stage) verdicts) (panelRoleIds stage) :=
    resolvePanelRoleVerdicts_eq stage verdicts
  unfold decisionOf aggregateStageVerdict
  simp only [isKind, if_pos known, roles]
  rw [panelCounts]
  cases decideStage stage.aggregation kind _ _ <;> rfl

theorem orderFree (stage : Stage) : OrderFree stage := by
  -- The newest verdict of each role does not depend on the order.
  intro verdicts shuffled same distinct
  have roles : resolvePanelRoleVerdicts stage shuffled =
      resolvePanelRoleVerdicts stage verdicts := by
    rw [resolvePanelRoleVerdicts_eq, resolvePanelRoleVerdicts_eq]
    refine List.map_congr_left ?_
    intro roleId listed
    have newest : newestOf (panelRoleIds stage) shuffled roleId =
        newestOf (panelRoleIds stage) verdicts roleId :=
      newestAfter_perm (same.filter _) (distinct roleId listed)
    rw [newest]
  unfold decisionOf aggregateStageVerdict
  rw [roles]

theorem final_of_steady (steady : SteadyStage stage) : FinalUnderLateArrivals stage := by
  intro before after decision decided settled late
  cases isKind : (stage.aggregation.get? "kind").bind Json.text? with
  | none =>
    simp [decisionOf, aggregateStageVerdict, isKind, Except.map] at decided
  | some kind =>
    by_cases known : kind ∈ aggregationPolicyKinds
    · rw [decisionOf_eq isKind known] at decided ⊢
      have later := late.extends
      unfold decideStage at decided ⊢
      cases panel : panelRoleIds stage with
      | nil =>
        rw [panel] at decided
        obtain rfl := Except.ok.inj decided
        rcases settled with clean | blocking
        · cases clean
        · cases blocking
      | cons first rest =>
        rw [panel] at decided later
        change decidePanel _ _ _ _ = _ at decided
        change decidePanel _ _ _ _ = _
        simp only [aggregationPolicyKinds, List.mem_cons, List.not_mem_nil, or_false] at known
        rcases known with rfl | rfl | rfl | rfl
        · exact unanimous_final later settled decided
        · exact anyBlocking_final later settled decided
        · exact quorum_final later settled decided
        · refine weighted_final later ?_ settled decided
          intro threshold bounded
          exact panel ▸ steady isKind threshold bounded
    · simp [decisionOf, aggregateStageVerdict, isKind, known, Except.map] at decided

end

def ballot (blocks passes : String → Bool) (roleId : String) : Option Verdict :=
  if blocks roleId then some { kind := .requestChanges, reviewerRoleId := some roleId }
  else if passes roleId then some { kind := .approved, reviewerRoleId := some roleId }
  else none

def votes (stage : Stage) (blocks passes : String → Bool) : List Verdict :=
  (panelRoleIds stage).filterMap (ballot blocks passes)

section

variable {roleIds : List String} {blocks passes : String → Bool}

theorem creditedRole_ballot {roleId : String} (listed : roleId ∈ roleIds) (named : roleId ≠ "")
    {verdict : Verdict} (cast : ballot blocks passes roleId = some verdict) :
    creditedRole roleIds verdict = some roleId := by
  have own : verdict.reviewerRoleId = some roleId := by
    unfold ballot at cast
    split at cast
    · rw [← Option.some.inj cast]
    split at cast
    · rw [← Option.some.inj cast]
    · cases cast
  simp [creditedRole, own, named, listed]

theorem roleVerdicts_ballots (named : ∀ roleId ∈ roleIds, roleId ≠ "") {part : List String}
    (within : part ⊆ roleIds) (distinct : part.Nodup) (roleId : String) :
    roleVerdicts roleIds (part.filterMap (ballot blocks passes)) roleId =
      if roleId ∈ part then (ballot blocks passes roleId).toList else [] := by
  induction part with
  | nil => rfl
  | cons first rest ih =>
    obtain ⟨fresh, distinct⟩ := List.nodup_cons.mp distinct
    have listed := within List.mem_cons_self
    have below := ih (fun other later => within (List.mem_cons_of_mem first later)) distinct
    simp only [roleVerdicts, List.filterMap_cons] at below ⊢
    cases cast : ballot blocks passes first with
    | none =>
      by_cases same : roleId = first
      · subst same
        simp [below, fresh, cast]
      · simp [below, same]
    | some verdict =>
      have own := creditedRole_ballot listed (named first listed) cast
      by_cases same : roleId = first
      · subst same
        simp [own, below, fresh, cast]
      · have apart : first ≠ roleId := fun other => same other.symm
        simp [own, apart, below, same]

theorem newestOf_ballots (named : ∀ roleId ∈ roleIds, roleId ≠ "") (distinct : roleIds.Nodup)
    {roleId : String} (listed : roleId ∈ roleIds) :
    newestOf roleIds (roleIds.filterMap (ballot blocks passes)) roleId =
      ballot blocks passes roleId := by
  rw [newestOf, roleVerdicts_ballots named (List.Subset.refl _) distinct, if_pos listed]
  cases ballot blocks passes roleId <;> rfl

theorem weigh_congr (policy : Json) {few many : String → Bool}
    (same : ∀ roleId ∈ roleIds, few roleId = many roleId) :
    weigh policy roleIds few = weigh policy roleIds many := by
  rw [weigh, weigh, weighFrom, weighFrom, List.filter_congr same]

theorem weigh_ballots (policy : Json) (named : ∀ roleId ∈ roleIds, roleId ≠ "")
    (distinct : roleIds.Nodup) (apart : ∀ roleId ∈ roleIds, passes roleId = true →
      blocks roleId = false) :
    let verdicts := newestOf roleIds (roleIds.filterMap (ballot blocks passes))
    weigh policy roleIds (fun roleId => stance verdicts roleId = some .clean) =
        weigh policy roleIds passes ∧
      weightLeft policy roleIds (fun roleId => stance verdicts roleId = some .blocking) =
        weightLeft policy roleIds blocks := by
  intro verdicts
  have cast : ∀ roleId ∈ roleIds, verdicts roleId = ballot blocks passes roleId :=
    fun roleId listed => newestOf_ballots named distinct listed
  refine ⟨weigh_congr policy ?_, ?_⟩
  · intro roleId listed
    have alone := apart roleId listed
    rw [stance, cast roleId listed, ballot]
    cases blocked : blocks roleId <;> cases passed : passes roleId <;>
      simp_all [classifyVerdictDisposition]
  · rw [weightLeft, weightLeft]
    congr 1
    refine weigh_congr policy ?_
    intro roleId listed
    rw [stance, cast roleId listed, ballot]
    cases blocked : blocks roleId <;> cases passed : passes roleId <;>
      simp [classifyVerdictDisposition]

end

theorem arriveLate_votes {stage : Stage} (distinct : (panelRoleIds stage).Nodup)
    {blocks passes more others : String → Bool}
    (kept : ∀ roleId ∈ panelRoleIds stage, ballot blocks passes roleId ≠ none →
      ballot more others roleId = ballot blocks passes roleId) :
    ArriveLate stage (votes stage blocks passes) (votes stage more others) := by
  have named : ∀ roleId ∈ panelRoleIds stage, roleId ≠ "" := by
    intro roleId listed
    simpa using (List.mem_filter.mp listed).2
  intro roleId listed there
  rw [votes, roleVerdicts_ballots named (List.Subset.refl _) distinct, if_pos listed] at there ⊢
  rw [votes, roleVerdicts_ballots named (List.Subset.refl _) distinct, if_pos listed]
  rw [kept roleId listed]
  intro none
  simp [none] at there

theorem threshold?_pos {policy : Json} {threshold : Rat}
    (bounded : threshold? policy = some threshold) :
    0 < threshold := by
  simpa using (Option.filter_eq_some_iff.mp bounded).2

section

variable [JsJson] {stage : Stage} {threshold : Rat}

theorem decisionOf_votes
    (isKind : (stage.aggregation.get? "kind").bind Json.text? = some "weighted")
    (bounded : threshold? stage.aggregation = some threshold)
    (distinct : (panelRoleIds stage).Nodup) (some : panelRoleIds stage ≠ [])
    {blocks passes : String → Bool}
    (apart : ∀ roleId ∈ panelRoleIds stage, passes roleId = true → blocks roleId = false) :
    decisionOf stage (votes stage blocks passes) =
      .ok (if (weigh stage.aggregation (panelRoleIds stage) passes).atLeast threshold then .clean
        else if (weightLeft stage.aggregation (panelRoleIds stage) blocks).below threshold then
          .blocking
        else .pending) := by
  have named : ∀ roleId ∈ panelRoleIds stage, roleId ≠ "" := by
    intro roleId listed
    simpa using (List.mem_filter.mp listed).2
  obtain ⟨passing, left⟩ := weigh_ballots stage.aggregation named distinct apart
  rw [decisionOf_eq isKind (by decide), ← passing, ← left, ← decidePanel_weighted bounded _ _
    (panelCounts (newestOf (panelRoleIds stage) (votes stage blocks passes))
      (panelRoleIds stage)), votes]
  cases panel : panelRoleIds stage with
  | nil => exact absurd panel some
  | cons first rest => rfl

theorem steady_of_final (distinct : (panelRoleIds stage).Nodup)
    (final : FinalUnderLateArrivals stage) : SteadyStage stage := by
  intro isKind threshold bounded
  have positive := threshold?_pos bounded
  by_cases empty : panelRoleIds stage = []
  · -- Nobody's weight is nothing, which is below every threshold.
    rw [empty]
    refine ⟨fun few many _ reached => reached, fun few many others _ _ short => ⟨short, ?_⟩⟩
    simpa [weigh, weighFrom, JsDouble.atLeast] using positive
  · constructor
    · intro few many within reached
      let nobody : String → Bool := fun _ => false
      -- The few pass first, and the others of the many pass later.
      have early : decisionOf stage (votes stage nobody few) = .ok .clean := by
        rw [decisionOf_votes isKind bounded distinct empty fun _ _ _ => rfl, if_pos reached]
      have arrive : ArriveLate stage (votes stage nobody few) (votes stage nobody many) := by
        refine arriveLate_votes distinct ?_
        intro roleId listed cast
        cases passed : few roleId with
        | true => simp [ballot, passed, within roleId listed passed]
        | false => simp [ballot, nobody, passed] at cast
      have late := final _ _ _ early (.inl rfl) arrive
      rw [decisionOf_votes isKind bounded distinct empty fun _ _ _ => rfl, Except.ok.injEq] at late
      split at late
      next still => exact still
      next => split at late <;> cases late
    · intro few many others within apart short
      let nobody : String → Bool := fun _ => false
      have unreached : ¬ (weigh stage.aggregation (panelRoleIds stage) nobody).atLeast threshold =
          true := by
        simpa [weigh, weighFrom, JsDouble.atLeast, nobody] using positive
      -- The few block first; then the others of the many block and some others pass.
      have early : decisionOf stage (votes stage few nobody) = .ok .blocking := by
        rw [decisionOf_votes isKind bounded distinct empty (fun _ _ none => by cases none),
          if_neg unreached, if_pos short]
      have arrive : ArriveLate stage (votes stage few nobody) (votes stage many others) := by
        refine arriveLate_votes distinct ?_
        intro roleId listed cast
        cases blocked : few roleId with
        | true => simp [ballot, blocked, within roleId listed blocked]
        | false => simp [ballot, nobody, blocked] at cast
      have late := final _ _ _ early (.inr rfl) arrive
      rw [decisionOf_votes isKind bounded distinct empty apart, Except.ok.injEq] at late
      split at late
      · cases late
      next unpassed =>
        split at late
        next stays => exact ⟨stays, Bool.eq_false_iff.mpr unpassed⟩
        next => cases late

end

/--
A compiled stage's decisions are final and free of order exactly where its weights are steady.

Every policy but the weighted one needs nothing; the weights of a weighted one come from the
configuration as they are.
-/
theorem panel_final_iff_steady [JsText] [JsJson] {domainConfig roleRegistry : Option Json}
    {pipeline : DomainPipeline}
    (compiled : resolveDomainPipeline domainConfig roleRegistry = .ok pipeline)
    {stage : Stage × List (String × Json)} (listed : stage ∈ pipeline.stages) :
    (FinalUnderLateArrivals stage.1 ∧ OrderFree stage.1) ↔ SteadyStage stage.1 := by
  constructor
  · rintro ⟨final, -⟩
    exact steady_of_final (resolveDomainPipeline_nodup compiled stage listed) final
  · intro steady
    exact ⟨final_of_steady steady, orderFree stage.1⟩

def sampleRegistry : Json :=
  .obj [("roles", .obj [
    ("a", .obj [("taskKind", .str "review")]),
    ("b", .obj [("taskKind", .str "review")])])]

def sampleDomain (weightB : Rat) : Json :=
  .obj [("id", .str "code"), ("pipeline", .obj [("enabled", .bool true), ("stages", .arr [.obj [
    ("id", .str "review"), ("panel", .arr [.str "a", .str "b"]),
    ("aggregation", .obj [("kind", .str "weighted"), ("threshold", .num 1),
      ("weights", .obj [("a", .num 1), ("b", .num weightB)])])]])])]

def sampleStage (weightB : Rat) : Stage :=
  { id := "review"
    panel := [{ id := "a", model := none }, { id := "b", model := none }]
    aggregation := .obj [("kind", .str "weighted"), ("threshold", .num 1),
      ("weights", .obj [("a", .num 1), ("b", .num weightB)])]
    roundBudgetByRisk := [("low", 1), ("medium", 2), ("high", 2), ("critical", 2)] }

def sampleRoles : List (String × Json) :=
  [("a", .obj [("taskKind", .str "review")]), ("b", .obj [("taskKind", .str "review")])]

theorem sampleDomain_compiles [JsText] [JsJson] (weightB : Rat) :
    resolveDomainPipeline (some (sampleDomain weightB)) (some sampleRegistry) =
      .ok { enabled := true, domainId := "code", stages := [(sampleStage weightB, sampleRoles)] } := by
  rfl

def approval (roleId : String) : Verdict :=
  { kind := .approved, reviewerRoleId := some roleId }

/-- Where a role weighs less than nothing, its late approval turns a clean stage into a blocked
one. -/
theorem late_approval_blocks :
    letI := JsText.ascii
    letI : JsJson := ⟨fun _ => ""⟩
    ∃ pipeline stage, resolveDomainPipeline (some (sampleDomain (-1))) (some sampleRegistry) =
        .ok pipeline ∧ stage ∈ pipeline.stages ∧
      decisionOf stage.1 [approval "a"] = .ok .clean ∧
      ArriveLate stage.1 [approval "a"] [approval "a", approval "b"] ∧
      decisionOf stage.1 [approval "a", approval "b"] = .ok .blocking ∧
      ¬ (FinalUnderLateArrivals stage.1 ∧ OrderFree stage.1) := by
  let _ := JsText.ascii
  let _ : JsJson := ⟨fun _ => ""⟩
  have early : decisionOf (sampleStage (-1)) [approval "a"] = .ok .clean := by decide +kernel
  have late : decisionOf (sampleStage (-1)) [approval "a", approval "b"] = .ok .blocking := by
    decide +kernel
  have arrive : ArriveLate (sampleStage (-1)) [approval "a"] [approval "a", approval "b"] := by
    unfold ArriveLate
    decide +kernel
  refine ⟨_, (sampleStage (-1), sampleRoles), sampleDomain_compiles (-1), List.mem_singleton_self _,
    early, arrive, late, ?_⟩
  rintro ⟨final, -⟩
  have same := final _ _ _ early (.inl rfl) arrive
  rw [late] at same
  cases same

theorem panel_final_iff_steady_sample :
    letI := JsText.ascii
    letI : JsJson := ⟨fun _ => ""⟩
    (FinalUnderLateArrivals (sampleStage 2) ∧ OrderFree (sampleStage 2)) ↔
      SteadyStage (sampleStage 2) := by
  let _ := JsText.ascii
  let _ : JsJson := ⟨fun _ => ""⟩
  exact panel_final_iff_steady (sampleDomain_compiles 2) (List.mem_singleton_self _)

end AdversarialReview.Pipeline
