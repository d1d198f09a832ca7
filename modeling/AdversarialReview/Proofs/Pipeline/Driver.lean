import Mathlib.Data.List.ReduceOption
import AdversarialReview.Pipeline.Driver
import AdversarialReview.Proofs.Pipeline.Panel

/-! What compiled stages decide, and that a pass over a pipeline and the plan made from it name the
same stage. -/

namespace AdversarialReview.Pipeline

section

-- Every proof below unfolds these, so their equations are made before the first one.
attribute [local simp] aggregateStageVerdict decidePanel

end

section

def policyComplete (stage : Stage) : Bool :=
  let kind := (stage.aggregation.get? "kind").bind Json.text?
  (kind ≠ some "quorum" || (positiveInt? (stage.aggregation.get? "quorum")).isSome) &&
    (kind ≠ some "weighted" || (threshold? stage.aggregation).isSome)

structure CompiledStage (stage : Stage) : Prop where
  kind : ∃ kind ∈ aggregationPolicyKinds,
    (stage.aggregation.get? "kind").bind Json.text? = some kind
  seated : panelRoleIds stage ≠ []

section

variable {policy : Json} {kind : String} {roles : List RoleVerdict} {counts : DispositionCounts}

theorem decidePanel_sure {decision : PipelineDisposition}
    (decided : decidePanel policy kind roles counts = .ok decision) :
    decision ≠ .indeterminate := by
  intro unsure
  subst unsure
  unfold decidePanel at decided
  split at decided
  · have comes := Except.ok.inj decided
    split at comes <;> [skip; split at comes] <;> cases comes
  split at decided
  · have comes := Except.ok.inj decided
    split at comes <;> [skip; split at comes] <;> cases comes
  split at decided
  · split at decided
    · cases decided
    · have comes := Except.ok.inj decided
      split at comes <;> [skip; split at comes] <;> cases comes
  · split at decided
    · cases decided
    · have comes := Except.ok.inj decided
      split at comes <;> [skip; split at comes] <;> cases comes

theorem decidePanel_ok (known : kind ∈ aggregationPolicyKinds) :
    (∃ decision, decidePanel policy kind roles counts = .ok decision) ↔
      (kind = "quorum" → (positiveInt? (policy.get? "quorum")).isSome) ∧
        (kind = "weighted" → (threshold? policy).isSome) := by
  simp only [aggregationPolicyKinds, List.mem_cons, List.not_mem_nil, or_false] at known
  rcases known with rfl | rfl | rfl | rfl
  · simp [decidePanel]
  · simp [decidePanel]
  · cases needed : positiveInt? (policy.get? "quorum") with
    | none => simp [decidePanel, needed]
    | some need => simp [decidePanel, needed]
  · cases needed : threshold? policy with
    | none => simp [decidePanel, needed]
    | some threshold => simp [decidePanel, needed]

end

variable [JsJson] {stage : Stage}

theorem aggregate_eq (compiled : CompiledStage stage) (verdicts : List Verdict) :
    ∃ kind ∈ aggregationPolicyKinds,
      (stage.aggregation.get? "kind").bind Json.text? = some kind ∧ ∃ roles counts,
        (aggregateStageVerdict stage verdicts).map StageAggregate.decision =
          decidePanel stage.aggregation kind roles counts := by
  obtain ⟨kind, known, isKind⟩ := compiled.kind
  have seated : ∃ first rest, resolvePanelRoleVerdicts stage verdicts = first :: rest := by
    cases roles : panelRoleIds stage with
    | nil => exact absurd roles compiled.seated
    | cons roleId rest => exact ⟨_, _, by rw [resolvePanelRoleVerdicts, roles]; rfl⟩
  obtain ⟨first, rest, seated⟩ := seated
  refine ⟨kind, known, isKind, first :: rest,
    (first :: rest).foldl DispositionCounts.record {}, ?_⟩
  simp only [aggregateStageVerdict, isKind, known, if_true, seated, decideStage]
  cases decidePanel stage.aggregation kind (first :: rest)
    ((first :: rest).foldl DispositionCounts.record {}) <;> rfl

theorem aggregate_ok (compiled : CompiledStage stage) (complete : policyComplete stage = true)
    (verdicts : List Verdict) :
    ∃ aggregated, aggregateStageVerdict stage verdicts = .ok aggregated := by
  obtain ⟨kind, known, isKind, roles, counts, same⟩ := aggregate_eq compiled verdicts
  have needs : ∃ decision, decidePanel stage.aggregation kind roles counts = .ok decision := by
    refine (decidePanel_ok known).mpr ⟨?_, ?_⟩
    · rintro rfl
      simp only [policyComplete, isKind, Bool.and_eq_true] at complete
      simpa using complete.1
    · rintro rfl
      simp only [policyComplete, isKind, Bool.and_eq_true] at complete
      simpa using complete.2
  obtain ⟨decision, decided⟩ := needs
  cases comes : aggregateStageVerdict stage verdicts with
  | ok aggregated => exact ⟨aggregated, rfl⟩
  | error message =>
    rw [comes, decided] at same
    cases same

theorem aggregate_decided (compiled : CompiledStage stage) {verdicts : List Verdict}
    {aggregated : StageAggregate}
    (decided : aggregateStageVerdict stage verdicts = .ok aggregated) :
    policyComplete stage = true ∧ aggregated.decision ≠ .indeterminate := by
  obtain ⟨kind, known, isKind, roles, counts, same⟩ := aggregate_eq compiled verdicts
  rw [decided] at same
  obtain ⟨quorum, weighted⟩ := (decidePanel_ok known).mp ⟨aggregated.decision, same.symm⟩
  refine ⟨?_, decidePanel_sure same.symm⟩
  simp only [policyComplete, isKind, Bool.and_eq_true, Bool.or_eq_true, decide_eq_true_eq,
    ne_eq, Option.some.injEq]
  exact ⟨Decidable.not_or_of_imp quorum, Decidable.not_or_of_imp weighted⟩

theorem aggregate_stageId {verdicts : List Verdict} {aggregated : StageAggregate}
    (decided : aggregateStageVerdict stage verdicts = .ok aggregated) :
    aggregated.stageId = stage.id := by
  unfold aggregateStageVerdict at decided
  split at decided
  · split at decided
    · obtain ⟨decision, -, decided⟩ := Except.bind_ok decided
      obtain rfl := Except.ok.inj decided
      rfl
    · cases decided
  · cases decided

end

section

variable [JsText] [JsJson]

variable {ctx : StageContext}

theorem normalizeAggregation_kind {raw : Option Json} {policy : Json}
    (found : normalizeAggregation raw ctx = .ok policy) :
    ∃ kind ∈ aggregationPolicyKinds, (policy.get? "kind").bind Json.text? = some kind := by
  unfold normalizeAggregation at found
  split at found
  · obtain rfl := Except.ok.inj found
    exact ⟨"unanimous-clean", by decide, rfl⟩
  · obtain rfl := Except.ok.inj found
    exact ⟨"unanimous-clean", by decide, rfl⟩
  · obtain ⟨kind, -, found⟩ := Except.bind_ok found
    split at found
    next known =>
      obtain rfl := Except.ok.inj found
      exact ⟨kind, known, by rw [Json.get?_set_self]; rfl⟩
    · cases found
  · cases found

theorem normalizePanel_seated {raw : Option Json} {roles : Json}
    {seats : List (PanelRole × Json)} (found : normalizePanel raw roles ctx = .ok seats) :
    ∃ seat ∈ seats, seat.1.id ≠ "" := by
  unfold normalizePanel at found
  split at found
  next entry rest =>
    have named := (normalizeSeats_ids found).2
    cases seats with
    | nil =>
      -- The first entry has left its seat.
      obtain ⟨roleId, -, found⟩ := Except.bind_ok found
      split at found
      · cases found
      split at found
      · cases found
      obtain ⟨role, -, found⟩ := Except.bind_ok found
      obtain ⟨model, -, found⟩ := Except.bind_ok found
      obtain ⟨others, -, found⟩ := Except.bind_ok found
      cases found
    | cons seat others =>
      exact ⟨seat, List.mem_cons_self, (named seat List.mem_cons_self).2⟩
  · cases found

theorem compileStage_compiled {roles : Json} {fallback : List (String × Nat)}
    {rawStage : Json} {stage : Stage × List (String × Json)}
    (found : compileStage roles fallback ctx rawStage = .ok stage) :
    CompiledStage stage.1 ∧ stage.1.id = ctx.stageId := by
  obtain ⟨seats, seatsOk, found⟩ := Except.bind_ok found
  obtain ⟨aggregation, aggregationOk, found⟩ := Except.bind_ok found
  obtain ⟨budget, -, found⟩ := Except.bind_ok found
  obtain rfl := Except.ok.inj found
  refine ⟨⟨normalizeAggregation_kind aggregationOk, ?_⟩, rfl⟩
  obtain ⟨seat, listed, named⟩ := normalizePanel_seated seatsOk
  intro empty
  have kept : seat.1.id ∈ panelRoleIds
      { id := ctx.stageId, panel := seats.map Prod.fst, aggregation
        roundBudgetByRisk := budget } :=
    List.mem_filter.mpr
      ⟨List.mem_map_of_mem (List.mem_map_of_mem listed), by simpa using named⟩
  rw [empty] at kept
  cases kept

theorem compileStages_compiled {roles : Json} {fallback : List (String × Nat)}
    {domainId : String} {seen : List String} {rawStages : List Json}
    {stages : List (Stage × List (String × Json))}
    (found : compileStages roles fallback domainId seen rawStages = .ok stages) :
    (stages.map fun stage => stage.1.id).Nodup ∧
      ∀ stage ∈ stages, CompiledStage stage.1 ∧ stage.1.id ∉ seen := by
  induction rawStages generalizing seen stages with
  | nil =>
    obtain rfl := Except.ok.inj found
    simp
  | cons rawStage rest ih =>
    unfold compileStages at found
    split at found
    · obtain ⟨stageId, -, found⟩ := Except.bind_ok found
      split at found
      · cases found
      split at found
      · cases found
      next fresh =>
        obtain ⟨first, firstOk, found⟩ := Except.bind_ok found
        obtain ⟨others, othersOk, found⟩ := Except.bind_ok found
        obtain rfl := Except.ok.inj found
        obtain ⟨compiled, named⟩ := compileStage_compiled firstOk
        obtain ⟨distinct, apart⟩ := ih othersOk
        refine ⟨?_, ?_⟩
        · rw [List.map_cons, List.nodup_cons]
          refine ⟨?_, distinct⟩
          intro repeated
          obtain ⟨stage, listed, same⟩ := List.mem_map.mp repeated
          refine (apart stage listed).2 ?_
          have same : stage.1.id = stageId := same.trans named
          exact List.mem_cons.mpr (.inl same)
        · intro stage listed
          rcases List.mem_cons.mp listed with rfl | later
          · exact ⟨compiled, named ▸ fresh⟩
          · obtain ⟨itself, unseen⟩ := apart stage later
            exact ⟨itself, fun before => unseen (List.mem_cons_of_mem stageId before)⟩
    · cases found

theorem resolveDomainPipeline_compiled {domainConfig roleRegistry : Option Json}
    {domain : DomainPipeline}
    (found : resolveDomainPipeline domainConfig roleRegistry = .ok domain) :
    ((domain.stages.map Prod.fst).map Stage.id).Nodup ∧
      ∀ stage ∈ domain.stages.map Prod.fst, CompiledStage stage := by
  obtain ⟨named, -, found⟩ := Except.bind_ok found
  dsimp only at found
  split at found
  · obtain rfl := Except.ok.inj found
    simp
  split at found
  · split at found
    · obtain ⟨stages, stagesOk, found⟩ := Except.bind_ok found
      obtain rfl := Except.ok.inj found
      obtain ⟨distinct, compiled⟩ := compileStages_compiled stagesOk
      refine ⟨by simpa [List.map_map, Function.comp_def] using distinct, ?_⟩
      intro stage listed
      obtain ⟨entry, given, rfl⟩ := List.mem_map.mp listed
      exact (compiled entry given).1
    · cases found
  · cases found

end

section

theorem verdictsOf_update (stateById : String → Option StageState) (stageId other : String)
    (state : StageState) :
    verdictsOf (Function.update stateById stageId (some state)) other =
      if other = stageId then state.panelVerdicts else verdictsOf stateById other := by
  by_cases same : other = stageId
  · subst same
    simp [verdictsOf]
  · simp [verdictsOf, same]

theorem evidence_dropOldBodies (verdicts : List PinnedVerdict) (revisionRef : String) :
    (stageVerdictsForRevision (dropOldBodies verdicts) revisionRef).map
        PinnedVerdict.toVerdict =
      (stageVerdictsForRevision verdicts revisionRef).map PinnedVerdict.toVerdict := by
  induction verdicts with
  | nil => rfl
  | cons verdict rest ih =>
    simp only [stageVerdictsForRevision] at ih ⊢
    simp only [dropOldBodies, List.filter_cons]
    -- The text is read neither by the pin nor by the decision.
    have pinned : stageVerdictAppliesToRevision revisionRef
        (if (rest.any fun later =>
            later.reviewerRoleId.getD "" = verdict.reviewerRoleId.getD "") = true then
          { verdict with body := none } else verdict) =
        stageVerdictAppliesToRevision revisionRef verdict := by
      split <;> rfl
    rw [pinned]
    split
    · rw [List.map_cons, List.map_cons, ih]
      split <;> rfl
    · exact ih

theorem stageVerdicts_trimmed (verdicts : List PinnedVerdict) (revisionRef : String) :
    stageVerdictsForRevision verdicts (jsTrim revisionRef) =
      stageVerdictsForRevision verdicts revisionRef := by
  have same : stageVerdictAppliesToRevision (jsTrim revisionRef) =
      stageVerdictAppliesToRevision revisionRef := by
    funext verdict
    simp [stageVerdictAppliesToRevision, jsTrim_jsTrim]
  rw [stageVerdictsForRevision, stageVerdictsForRevision, same]

theorem verdictsOf_updated (pipeline : List Stage) (stateById : String → Option StageState)
    {stage : Stage} (listed : stage ∈ pipeline) :
    verdictsOf (toStageStateMap (updatedStageStates pipeline stateById)) stage.id =
      dropOldBodies (verdictsOf stateById stage.id) := by
  -- Whichever state is found for a name, it was made from that name alone.
  have made : ∀ state ∈ (updatedStageStates pipeline stateById).reduceOption,
      state.panelVerdicts = dropOldBodies (verdictsOf stateById state.stageId) := by
    intro state given
    rw [List.reduceOption_mem_iff] at given
    obtain ⟨entry, -, same⟩ := List.mem_map.mp given
    obtain rfl := Option.some.inj same
    rfl
  obtain ⟨index, bound, at_⟩ := List.getElem_of_mem listed
  have some_state : ∃ state ∈ (updatedStageStates pipeline stateById).reduceOption.reverse,
      state.stageId = stage.id := by
    refine ⟨{ stageId := stage.id, stageIndex := some index
              panelVerdicts := dropOldBodies (verdictsOf stateById stage.id) }, ?_, rfl⟩
    rw [List.mem_reverse, List.reduceOption_mem_iff]
    refine List.mem_map.mpr ⟨(stage, index), ?_, rfl⟩
    exact List.mem_zipIdx_iff_getElem?.mpr (by rw [List.getElem?_eq_getElem bound, at_])
  obtain ⟨wanted, there, named⟩ := some_state
  unfold verdictsOf toStageStateMap
  cases found : (updatedStageStates pipeline stateById).reduceOption.reverse.find? fun state =>
      decide (state.stageId = stage.id) with
  | none => exact absurd (decide_eq_true named) (List.find?_eq_none.mp found wanted there)
  | some state =>
    have own : state.stageId = stage.id := by simpa using List.find?_some found
    have listed := List.mem_reverse.mp (List.mem_of_find?_eq_some found)
    rw [Option.elim_some, made state listed, own]
    rfl

variable [JsJson]

def decisionAt (stateById : String → Option StageState) (revisionRef : String) (stage : Stage) :
    Except String PipelineDisposition :=
  (aggregateAtRevision stage (verdictsOf stateById stage.id) revisionRef).map
    StageAggregate.decision

theorem decisionAt_congr {before after : String → Option StageState} {revisionRef : String}
    {stage : Stage} (same : verdictsOf after stage.id = verdictsOf before stage.id) :
    decisionAt after revisionRef stage = decisionAt before revisionRef stage := by
  rw [decisionAt, decisionAt, same]

end

section

variable {ctx : DriverContext} {s next : DriverState} {stage : Stage} {stageIndex : Nat}

theorem runSeats_calls {seats : List (Option PanelRole)} {verdicts kept : List PinnedVerdict}
    {calls asked : List ReviewCall}
    (ran : runSeats ctx stage stageIndex seats verdicts calls = .ok (kept, asked)) :
    ∀ call ∈ asked, call ∈ calls ∨ call.stageId = stage.id := by
  induction seats generalizing verdicts calls with
  | nil =>
    obtain ⟨rfl, rfl⟩ := Prod.mk.inj (Except.ok.inj ran)
    exact fun call listed => .inl listed
  | cons seat rest ih =>
    obtain ⟨produced, -, ran⟩ := Except.bind_ok ran
    intro call listed
    rcases ih ran call listed with before | own
    · rcases List.mem_append.mp before with before | this
      · exact .inl before
      · rw [List.mem_singleton] at this
        exact .inr (by rw [this])
    · exact .inr own

variable [JsJson]

/-- What a turn leaves of everything that it is not about. -/
structure Passed (s next : DriverState) : Prop where
  verdicts : ∀ stageId, verdictsOf next.stateById stageId = verdictsOf s.stateById stageId
  closed : next.gateOpen = false
  disposition : next.disposition = s.disposition
  blocking : next.blockingStageId = s.blockingStageId
  pending : next.pendingStageId = s.pendingStageId
  ran : next.ranStageIds = s.ranStageIds
  calls : next.calls = s.calls

theorem driveStage_closed (closed : s.gateOpen = false)
    (driven : driveStage ctx stageIndex stage s = .ok next) : Passed s next := by
  simp only [driveStage, closed, Bool.false_eq_true, if_false] at driven
  obtain rfl := Except.ok.inj driven
  refine ⟨?_, rfl, rfl, rfl, rfl, rfl, rfl⟩
  intro stageId
  change verdictsOf (Function.update _ _ _) _ = _
  rw [verdictsOf_update]
  split
  next same => rw [same]
  · rfl

theorem driveStages_closed {stages : List Stage} (closed : s.gateOpen = false)
    (driven : driveStages ctx stageIndex stages s = .ok next) : Passed s next := by
  induction stages generalizing stageIndex s with
  | nil =>
    obtain rfl := Except.ok.inj driven
    exact ⟨fun _ => rfl, closed, rfl, rfl, rfl, rfl, rfl⟩
  | cons stage rest ih =>
    obtain ⟨turned, first, driven⟩ := Except.bind_ok driven
    have one := driveStage_closed closed first
    have others := ih one.closed driven
    exact ⟨fun stageId => (others.verdicts stageId).trans (one.verdicts stageId), others.closed,
      others.disposition.trans one.disposition, others.blocking.trans one.blocking,
      others.pending.trans one.pending, others.ran.trans one.ran, others.calls.trans one.calls⟩

/-- Nothing has blocked or is awaited so far. -/
structure Open (s : DriverState) : Prop where
  gate : s.gateOpen = true
  disposition : s.disposition = .clean
  blocking : s.blockingStageId = none
  pending : s.pendingStageId = none

structure StoppedAt (s : DriverState) (stageId : String) (decision : PipelineDisposition) :
    Prop where
  disposition : s.disposition = decision
  named : (s.blockingStageId <|> s.pendingStageId) = some stageId

structure Turned (ctx : DriverContext) (stage : Stage) (s next : DriverState)
    (decision : PipelineDisposition) : Prop where
  elsewhere : ∀ stageId, stageId ≠ stage.id →
    verdictsOf next.stateById stageId = verdictsOf s.stateById stageId
  decided : decisionAt next.stateById ctx.revisionRef stage = .ok decision
  goesOn : decision = .clean → Open next
  stops : decision ≠ .clean → next.gateOpen = false ∧ StoppedAt next stage.id decision
  /-- The stage was carried forward, or it has run since it was not clean before. -/
  ran : next.ranStageIds = s.ranStageIds ∧ next.calls = s.calls ∨
    (∃ before, decisionAt s.stateById ctx.revisionRef stage = .ok before ∧ before ≠ .clean) ∧
      next.ranStageIds = s.ranStageIds ++ [stage.id] ∧
      ∀ call ∈ next.calls, call ∈ s.calls ∨ call.stageId = stage.id

theorem driveStage_open (compiled : CompiledStage stage) (opened : Open s)
    (driven : driveStage ctx stageIndex stage s = .ok next) :
    ∃ decision, Turned ctx stage s next decision := by
  simp only [driveStage, opened.gate, if_true] at driven
  obtain ⟨before, decidedBefore, driven⟩ := Except.bind_ok driven
  have was : decisionAt s.stateById ctx.revisionRef stage = .ok before.decision := by
    rw [decisionAt, decidedBefore]
    rfl
  split at driven
  next clean =>
    -- Nothing has run, and the verdicts are the ones that were there.
    obtain rfl := Except.ok.inj driven
    refine ⟨before.decision, ?_, ?_, fun _ => ⟨rfl, opened.disposition, opened.blocking,
      opened.pending⟩, fun unclean => absurd clean unclean, .inl ⟨rfl, rfl⟩⟩
    · intro stageId other
      change verdictsOf (Function.update _ _ _) _ = _
      rw [verdictsOf_update, if_neg other]
    · refine (decisionAt_congr ?_).trans was
      change verdictsOf (Function.update _ _ _) _ = _
      rw [verdictsOf_update, if_pos rfl]
  next unclean =>
    obtain ⟨⟨kept, calls⟩, seated, driven⟩ := Except.bind_ok driven
    obtain ⟨after, decidedAfter, driven⟩ := Except.bind_ok driven
    obtain rfl := Except.ok.inj driven
    have sure := (aggregate_decided compiled decidedAfter).2
    -- The gate touches neither the states nor what has run.
    have gate : ∀ (s : DriverState) (current : List Verdict),
        (closeGate s stage.id after.decision current).stateById = s.stateById ∧
        (closeGate s stage.id after.decision current).ranStageIds = s.ranStageIds ∧
        (closeGate s stage.id after.decision current).calls = s.calls := by
      intro s current
      unfold closeGate
      split
      · exact ⟨rfl, rfl, rfl⟩
      · split <;> exact ⟨rfl, rfl, rfl⟩
    refine ⟨after.decision, ?_, ?_, ?_, ?_, .inr ⟨⟨before.decision, was, unclean⟩, ?_, ?_⟩⟩
    · intro stageId other
      rw [(gate _ _).1]
      change verdictsOf (Function.update (Function.update _ _ _) _ _) _ = _
      rw [verdictsOf_update, if_neg other, verdictsOf_update, if_neg other]
    · unfold decisionAt
      rw [(gate _ _).1]
      change (aggregateAtRevision stage (verdictsOf (Function.update _ _ _) _) _).map _ = _
      rw [verdictsOf_update, if_pos rfl]
      change (aggregateAtRevision stage kept _).map _ = _
      rw [decidedAfter]
      rfl
    · intro clean
      simp only [closeGate, clean]
      exact ⟨rfl, opened.disposition, opened.blocking, opened.pending⟩
    · intro stopped
      cases decision : after.decision with
      | clean => exact absurd decision stopped
      | indeterminate => exact absurd decision sure
      | blocking => exact ⟨rfl, rfl, rfl⟩
      | pending =>
        refine ⟨rfl, ?_, ?_⟩
        · simp [closeGate, opened.disposition]
        · simp [closeGate, opened.blocking, opened.pending]
    · rw [(gate _ _).2.1]
    · rw [(gate _ _).2.2]
      exact runSeats_calls seated

def Ended (ctx : DriverContext) (stages : List Stage) (s next : DriverState) : Prop :=
  (∀ stage ∈ stages, decisionAt next.stateById ctx.revisionRef stage = .ok .clean) ∧ Open next ∨
    ∃ before stage after decision, stages = before ++ stage :: after ∧
      (∀ earlier ∈ before, decisionAt next.stateById ctx.revisionRef earlier = .ok .clean) ∧
      decisionAt next.stateById ctx.revisionRef stage = .ok decision ∧ decision ≠ .clean ∧
      StoppedAt next stage.id decision ∧
      ∀ stageId ∈ next.ranStageIds, stageId ∈ s.ranStageIds ∨
        stageId ∈ (before ++ [stage]).map Stage.id

/-- What a pass over some stages has done. -/
structure Driven (ctx : DriverContext) (stages : List Stage) (s next : DriverState) : Prop where
  elsewhere : ∀ stageId ∉ stages.map Stage.id,
    verdictsOf next.stateById stageId = verdictsOf s.stateById stageId
  ended : Ended ctx stages s next
  /-- What has run was not clean before. -/
  ran : ∀ stageId ∈ next.ranStageIds, stageId ∈ s.ranStageIds ∨
    ∃ stage ∈ stages, stage.id = stageId ∧
      ∃ before, decisionAt s.stateById ctx.revisionRef stage = .ok before ∧ before ≠ .clean
  calls : ∀ call ∈ next.calls, call ∈ s.calls ∨ call.stageId ∈ next.ranStageIds
  grows : ∀ stageId ∈ s.ranStageIds, stageId ∈ next.ranStageIds

theorem driveStages_open {stages : List Stage}
    (compiled : ∀ stage ∈ stages, CompiledStage stage) (distinct : (stages.map Stage.id).Nodup)
    (opened : Open s) (driven : driveStages ctx stageIndex stages s = .ok next) :
    Driven ctx stages s next := by
  induction stages generalizing stageIndex s with
  | nil =>
    obtain rfl := Except.ok.inj driven
    exact ⟨fun _ _ => rfl, .inl ⟨by simp, opened⟩, fun _ listed => .inl listed,
      fun _ listed => .inl listed, fun _ listed => listed⟩
  | cons stage rest ih =>
    obtain ⟨turned, first, driven⟩ := Except.bind_ok driven
    obtain ⟨decision, turn⟩ := driveStage_open (compiled stage List.mem_cons_self) opened first
    rw [List.map_cons, List.nodup_cons] at distinct
    obtain ⟨fresh, distinct⟩ := distinct
    have ranGrows : ∀ stageId ∈ s.ranStageIds, stageId ∈ turned.ranStageIds := by
      intro stageId listed
      rcases turn.ran with ⟨same, -⟩ | ⟨-, longer, -⟩
      · rwa [same]
      · rw [longer]
        exact List.mem_append_left _ listed
    have ranHere : ∀ stageId ∈ turned.ranStageIds, stageId ∈ s.ranStageIds ∨
        stageId = stage.id ∧ ∃ before,
          decisionAt s.stateById ctx.revisionRef stage = .ok before ∧ before ≠ .clean := by
      intro stageId listed
      rcases turn.ran with ⟨same, -⟩ | ⟨unclean, longer, -⟩
      · exact .inl (by rwa [same] at listed)
      · rw [longer] at listed
        rcases List.mem_append.mp listed with before | this
        · exact .inl before
        · exact .inr ⟨List.mem_singleton.mp this, unclean⟩
    have callsHere : ∀ call ∈ turned.calls, call ∈ s.calls ∨
        call.stageId ∈ turned.ranStageIds := by
      intro call listed
      rcases turn.ran with ⟨-, same⟩ | ⟨-, longer, asked⟩
      · exact .inl (by rwa [same] at listed)
      · refine (asked call listed).imp id ?_
        intro own
        rw [longer, own]
        exact List.mem_append_right _ (List.mem_singleton_self _)
    by_cases clean : decision = .clean
    · -- The gate is still open, and no later turn touches this stage.
      have tail := ih (fun stage listed => compiled stage (List.mem_cons_of_mem _ listed))
        distinct (turn.goesOn clean) driven
      have decided : decisionAt next.stateById ctx.revisionRef stage = .ok .clean :=
        (decisionAt_congr (tail.elsewhere stage.id fresh)).trans (clean ▸ turn.decided)
      refine ⟨?_, ?_, ?_, ?_, fun stageId listed => tail.grows _ (ranGrows _ listed)⟩
      · intro stageId absent
        rw [List.map_cons, List.mem_cons, not_or] at absent
        exact (tail.elsewhere stageId absent.2).trans (turn.elsewhere stageId absent.1)
      · rcases tail.ended with ⟨all, opened⟩ |
          ⟨before, stop, after, decision, split, earlier, at_, unclean, stopped, only⟩
        · refine .inl ⟨?_, opened⟩
          intro other listed
          rcases List.mem_cons.mp listed with rfl | later
          · exact decided
          · exact all other later
        · refine .inr ⟨stage :: before, stop, after, decision, by rw [split]; rfl, ?_, at_, unclean,
            stopped, ?_⟩
          · intro other listed
            rcases List.mem_cons.mp listed with rfl | later
            · exact decided
            · exact earlier other later
          · intro stageId listed
            rcases only stageId listed with here | there
            · rcases ranHere stageId here with old | ⟨own, -⟩
              · exact .inl old
              · exact .inr (by simp [own])
            · exact .inr (by
                rw [List.cons_append, List.map_cons]
                exact List.mem_cons_of_mem _ there)
      · intro stageId listed
        rcases tail.ran stageId listed with here | ⟨other, later, named, before, was, unclean⟩
        · rcases ranHere stageId here with old | ⟨own, unclean⟩
          · exact .inl old
          · exact .inr ⟨stage, List.mem_cons_self, own.symm, unclean⟩
        · have apart : other.id ≠ stage.id := by
            intro same
            exact fresh (same ▸ List.mem_map_of_mem later)
          refine .inr ⟨other, List.mem_cons_of_mem _ later, named, before, ?_, unclean⟩
          exact (decisionAt_congr (turn.elsewhere other.id apart)).symm.trans was
      · intro call listed
        rcases tail.calls call listed with here | ran
        · exact (callsHere call here).imp id (tail.grows _)
        · exact .inr ran
    · -- The gate is closed, and nothing happens any more.
      obtain ⟨closed, stopped⟩ := turn.stops clean
      have passed := driveStages_closed closed driven
      refine ⟨?_, .inr ⟨[], stage, rest, decision, rfl, by simp, ?_, clean,
        ⟨passed.disposition.trans stopped.disposition, ?_⟩, ?_⟩, ?_, ?_, ?_⟩
      · intro stageId absent
        rw [List.map_cons, List.mem_cons, not_or] at absent
        exact (passed.verdicts stageId).trans (turn.elsewhere stageId absent.1)
      · exact (decisionAt_congr (passed.verdicts stage.id)).trans turn.decided
      · rw [passed.blocking, passed.pending]
        exact stopped.named
      · intro stageId listed
        rw [passed.ran] at listed
        exact (ranHere stageId listed).imp id fun own => by simp [own.1]
      · intro stageId listed
        rw [passed.ran] at listed
        refine (ranHere stageId listed).imp id ?_
        rintro ⟨own, unclean⟩
        exact ⟨stage, List.mem_cons_self, own.symm, unclean⟩
      · intro call listed
        rw [passed.calls] at listed
        rw [passed.ran]
        exact callsHere call listed
      · intro stageId listed
        rw [passed.ran]
        exact ranGrows stageId listed

end

section

variable [JsJson] {stateById : String → Option StageState} {revisionRef : String}

theorem planStage_eq {entry : Stage × Nat} {planned : PlannedDecision}
    (made : planStage stateById revisionRef entry = .ok planned) :
    decisionAt stateById revisionRef entry.1 = .ok planned.decision ∧
      planned.stageId = entry.1.id := by
  obtain ⟨aggregated, decided, made⟩ := Except.bind_ok made
  obtain rfl := Except.ok.inj made
  exact ⟨by rw [decisionAt, decided]; rfl, aggregate_stageId decided⟩

theorem planStages_clean {stages : List Stage} {start : Nat} {decisions : List PlannedDecision}
    (made : planStages stateById revisionRef (stages.zipIdx start) = .ok decisions)
    (clean : ∀ stage ∈ stages, decisionAt stateById revisionRef stage = .ok .clean) :
    ∀ planned ∈ decisions, planned.decision = .clean := by
  induction stages generalizing start decisions with
  | nil =>
    obtain rfl := Except.ok.inj made
    simp
  | cons stage rest ih =>
    rw [List.zipIdx_cons] at made
    obtain ⟨first, firstMade, made⟩ := Except.bind_ok made
    obtain ⟨others, othersMade, made⟩ := Except.bind_ok made
    obtain rfl := Except.ok.inj made
    intro planned listed
    rcases List.mem_cons.mp listed with rfl | later
    · have own := (planStage_eq firstMade).1
      rw [clean stage List.mem_cons_self] at own
      exact (Except.ok.inj own).symm
    · exact ih othersMade (fun stage given => clean stage (List.mem_cons_of_mem _ given)) planned
        later

theorem planStages_stopped {before after : List Stage} {stage : Stage} {start : Nat}
    {decision : PipelineDisposition} {decisions : List PlannedDecision}
    (made : planStages stateById revisionRef ((before ++ stage :: after).zipIdx start) =
      .ok decisions)
    (earlier : ∀ stage ∈ before, decisionAt stateById revisionRef stage = .ok .clean)
    (stop : decisionAt stateById revisionRef stage = .ok decision) :
    ∃ heads planned tails, decisions = heads ++ planned :: tails ∧
      (∀ head ∈ heads, head.decision = .clean) ∧ planned.decision = decision ∧
      planned.stageId = stage.id := by
  induction before generalizing start decisions with
  | nil =>
    rw [List.nil_append, List.zipIdx_cons] at made
    obtain ⟨first, firstMade, made⟩ := Except.bind_ok made
    obtain ⟨others, -, made⟩ := Except.bind_ok made
    obtain rfl := Except.ok.inj made
    obtain ⟨own, named⟩ := planStage_eq firstMade
    rw [stop] at own
    exact ⟨[], first, others, rfl, by simp, (Except.ok.inj own).symm, named⟩
  | cons other rest ih =>
    rw [List.cons_append, List.zipIdx_cons] at made
    obtain ⟨first, firstMade, made⟩ := Except.bind_ok made
    obtain ⟨others, othersMade, made⟩ := Except.bind_ok made
    obtain rfl := Except.ok.inj made
    obtain ⟨heads, planned, tails, rfl, cleanHeads, own, named⟩ :=
      ih othersMade fun stage given => earlier stage (List.mem_cons_of_mem _ given)
    refine ⟨first :: heads, planned, tails, rfl, ?_, own, named⟩
    intro head listed
    rcases List.mem_cons.mp listed with rfl | later
    · have own := (planStage_eq firstMade).1
      rw [earlier other List.mem_cons_self] at own
      exact (Except.ok.inj own).symm
    · exact cleanHeads head later

theorem planStages_ok {stages : List Stage} (compiled : ∀ stage ∈ stages, CompiledStage stage)
    (start : Nat) :
    (∃ decisions, planStages stateById revisionRef (stages.zipIdx start) = .ok decisions) ↔
      ∀ stage ∈ stages, policyComplete stage = true := by
  induction stages generalizing start with
  | nil => exact ⟨fun _ => by simp, fun _ => ⟨[], rfl⟩⟩
  | cons stage rest ih =>
    have others := ih (fun stage given => compiled stage (List.mem_cons_of_mem _ given)) (start + 1)
    rw [List.zipIdx_cons]
    constructor
    · rintro ⟨decisions, made⟩
      obtain ⟨first, firstMade, made⟩ := Except.bind_ok made
      obtain ⟨tail, tailMade, -⟩ := Except.bind_ok made
      obtain ⟨aggregated, decided, -⟩ := Except.bind_ok firstMade
      intro other listed
      rcases List.mem_cons.mp listed with rfl | later
      · exact (aggregate_decided (compiled other List.mem_cons_self) decided).1
      · exact others.mp ⟨tail, tailMade⟩ other later
    · intro complete
      obtain ⟨aggregated, decided⟩ := aggregate_ok (compiled stage List.mem_cons_self)
        (complete stage List.mem_cons_self)
        ((stageVerdictsForRevision (verdictsOf stateById stage.id) revisionRef).map
          PinnedVerdict.toVerdict)
      obtain ⟨tail, tailMade⟩ :=
        others.mpr fun stage given => complete stage (List.mem_cons_of_mem _ given)
      have head : ∃ head, planStage stateById revisionRef (stage, start) = .ok head := by
        unfold planStage aggregateAtRevision
        rw [decided]
        exact ⟨_, rfl⟩
      obtain ⟨head, headMade⟩ := head
      refine ⟨head :: tail, ?_⟩
      unfold planStages
      rw [headMade, tailMade]
      rfl

end

section

theorem search_clean {heads : List PlannedDecision}
    (clean : ∀ head ∈ heads, head.decision = .clean) :
    heads.findIdx? (fun planned => decide (planned.decision ≠ .clean)) = none ∧
      heads.find? (fun planned => decide (planned.decision ≠ .clean)) = none := by
  rw [List.findIdx?_eq_none_iff, List.find?_eq_none]
  refine ⟨?_, ?_⟩
  · intro planned listed
    simp [clean planned listed]
  · intro planned listed
    simp [clean planned listed]

theorem later_of_split {α : Type} {before after first rest : List α} {item stop other : α}
    (same : before ++ item :: after = first ++ stop :: rest) (apart : item ∉ first)
    (later : other ∈ after) : other ∈ rest := by
  rcases List.append_eq_append_iff.mp same with ⟨between, rfl, tail⟩ | ⟨between, rfl, tail⟩
  · cases between with
    | nil =>
      obtain ⟨-, rfl⟩ := List.cons.inj tail
      exact later
    | cons head between =>
      obtain ⟨rfl, -⟩ := List.cons.inj tail
      exact absurd (List.mem_append_right _ List.mem_cons_self) apart
  · cases between with
    | nil =>
      obtain ⟨-, rfl⟩ := List.cons.inj tail
      exact later
    | cons head between =>
      obtain ⟨-, rfl⟩ := List.cons.inj tail
      exact List.mem_append_right _ (List.mem_cons_of_mem _ later)

variable [JsJson]

def requestedDecision (request : DriverRequest) (stageStates : List (Option StageState))
    (stage : Stage) : Except String PipelineDisposition :=
  decisionAt (toStageStateMap stageStates) (request.currentRevisionRef.getD "") stage

def NotRun (run : PipelineRun) (stage : Stage) : Prop :=
  stage.id ∉ run.ranStageIds ∧ ∀ call ∈ run.calls, call.stageId ≠ stage.id

/-- A pass in sequence: what was clean is not repeated, and what comes after the first stage that
is not clean does not run. -/
structure RunSequenced (request : DriverRequest) (run : PipelineRun) : Prop where
  fresh : ∀ stage ∈ request.pipeline,
    requestedDecision request request.stageStates stage = .ok .clean → NotRun run stage
  gated : ∀ before stage after decision, request.pipeline = before ++ stage :: after →
    requestedDecision request run.stageStates stage = .ok decision → decision ≠ .clean →
    ∀ later ∈ after, NotRun run later

structure PlanAgrees (run : PipelineRun) (plan : ReReviewPlan) : Prop where
  complete : plan.complete = true ↔ run.disposition = .clean
  active : plan.activeStageId = (run.blockingStageId <|> run.pendingStageId)
  decision : ((plan.decisions.find? fun planned => planned.decision ≠ .clean).elim .clean
    fun planned => planned.decision) = run.disposition

theorem requestedDecision_updated {request : DriverRequest}
    (stateById : String → Option StageState) {stage : Stage} (listed : stage ∈ request.pipeline) :
    requestedDecision request (updatedStageStates request.pipeline stateById) stage =
      decisionAt stateById (jsTrim (request.currentRevisionRef.getD "")) stage := by
  unfold requestedDecision decisionAt aggregateAtRevision
  rw [verdictsOf_updated _ _ listed, evidence_dropOldBodies, stageVerdicts_trimmed]

structure RunOf (request : DriverRequest) (run : PipelineRun) (ctx : DriverContext)
    (driven : DriverState) : Prop where
  drove : Driven ctx request.pipeline { stateById := toStageStateMap request.stageStates } driven
  trimmed : ctx.revisionRef = jsTrim (request.currentRevisionRef.getD "")
  disposition : run.disposition = driven.disposition
  blocking : run.blockingStageId = driven.blockingStageId
  pending : run.pendingStageId = driven.pendingStageId
  ran : run.ranStageIds = driven.ranStageIds
  calls : run.calls = driven.calls
  states : run.stageStates = updatedStageStates request.pipeline driven.stateById

section

variable {request : DriverRequest} {run : PipelineRun} {ctx : DriverContext}
variable {driven : DriverState}

theorem runReviewPipeline_driven (compiled : ∀ stage ∈ request.pipeline, CompiledStage stage)
    (distinct : (request.pipeline.map Stage.id).Nodup)
    (ran : runReviewPipeline request = .ok run) : ∃ ctx driven, RunOf request run ctx driven := by
  unfold runReviewPipeline at ran
  split at ran
  · cases ran
  dsimp only at ran
  split at ran
  · cases ran
  obtain ⟨driven, drove, ran⟩ := Except.bind_ok ran
  obtain rfl := Except.ok.inj ran
  have whole := driveStages_open compiled distinct ⟨rfl, rfl, rfl, rfl⟩ drove
  exact ⟨_, driven, whole, rfl, rfl, rfl, rfl, rfl, rfl, rfl⟩

theorem RunOf.decision (made : RunOf request run ctx driven) {stage : Stage}
    (listed : stage ∈ request.pipeline) :
    requestedDecision request run.stageStates stage =
      decisionAt driven.stateById ctx.revisionRef stage := by
  rw [made.states, made.trimmed]
  exact requestedDecision_updated driven.stateById listed

theorem RunOf.notRun (made : RunOf request run ctx driven) {stage : Stage}
    (absent : stage.id ∉ driven.ranStageIds) : NotRun run stage := by
  refine ⟨by rwa [made.ran], ?_⟩
  intro call asked same
  rw [made.calls] at asked
  rcases made.drove.calls call asked with before | ran
  · cases before
  · exact absent (same ▸ ran)

theorem RunOf.fresh (made : RunOf request run ctx driven)
    (distinct : (request.pipeline.map Stage.id).Nodup) {stage : Stage}
    (listed : stage ∈ request.pipeline)
    (clean : requestedDecision request request.stageStates stage = .ok .clean) :
    NotRun run stage := by
  refine made.notRun ?_
  intro there
  rcases made.drove.ran stage.id there with
    before | ⟨other, given, named, decision, was, unclean⟩
  · cases before
  · obtain rfl : other = stage := List.inj_on_of_nodup_map distinct given listed named
    have clean : decisionAt (toStageStateMap request.stageStates) ctx.revisionRef other =
        .ok .clean := by
      rw [← clean, made.trimmed]
      unfold requestedDecision decisionAt aggregateAtRevision
      rw [stageVerdicts_trimmed]
    rw [clean] at was
    exact unclean (Except.ok.inj was).symm

theorem RunOf.gated (made : RunOf request run ctx driven)
    (distinct : (request.pipeline.map Stage.id).Nodup) {before after : List Stage} {stage : Stage}
    {decision : PipelineDisposition} (split : request.pipeline = before ++ stage :: after)
    (decided : requestedDecision request run.stageStates stage = .ok decision)
    (unclean : decision ≠ .clean) {later : Stage} (listed : later ∈ after) :
    NotRun run later := by
  have own : decisionAt driven.stateById ctx.revisionRef stage = .ok decision := by
    rw [← made.decision (split ▸ List.mem_append_right _ List.mem_cons_self)]
    exact decided
  rcases made.drove.ended with
    ⟨all, -⟩ | ⟨first, stop, rest, -, parts, earlier, -, -, -, only⟩
  · have clean := all stage (split ▸ List.mem_append_right _ List.mem_cons_self)
    rw [own] at clean
    exact absurd (Except.ok.inj clean) unclean
  · -- The stage is no earlier than the one where the pass has stopped.
    have apart : stage ∉ first := by
      intro early
      have clean := earlier stage early
      rw [own] at clean
      exact absurd (Except.ok.inj clean) unclean
    have behind : later ∈ rest := later_of_split (split.symm.trans parts) apart listed
    refine made.notRun ?_
    intro there
    rcases only later.id there with before | reached
    · cases before
    · rw [parts, ← List.singleton_append, ← List.append_assoc, List.map_append] at distinct
      exact (List.nodup_append.mp distinct).2.2 _ reached _ (List.mem_map_of_mem behind) rfl

theorem planner_ok (compiled : ∀ stage ∈ request.pipeline, CompiledStage stage)
    (some_stage : request.pipeline ≠ []) (stageStates : List (Option StageState))
    (riskClass : Option String) (budgetOverride : Option Nat) :
    (∃ plan, planPipelineReReview request.pipeline stageStates request.currentRevisionRef
        riskClass budgetOverride = .ok plan) ↔
      ∀ stage ∈ request.pipeline, policyComplete stage = true := by
  have planned : (∃ decisions, planStages (toStageStateMap stageStates)
      (request.currentRevisionRef.getD "") (request.pipeline.zipIdx 0) = .ok decisions) ↔
      ∀ stage ∈ request.pipeline, policyComplete stage = true := planStages_ok compiled 0
  rw [← planned]
  unfold planPipelineReReview
  rw [if_neg some_stage]
  constructor
  · rintro ⟨plan, made⟩
    obtain ⟨decisions, decided, -⟩ := Except.bind_ok made
    exact ⟨decisions, decided⟩
  · rintro ⟨decisions, decided⟩
    dsimp only
    rw [decided]
    exact ⟨_, rfl⟩

theorem RunOf.agrees (made : RunOf request run ctx driven) {riskClass : Option String}
    {budgetOverride : Option Nat} {plan : ReReviewPlan}
    (answered : planPipelineReReview request.pipeline run.stageStates request.currentRevisionRef
      riskClass budgetOverride = .ok plan) : PlanAgrees run plan := by
  unfold planPipelineReReview at answered
  split at answered
  · cases answered
  obtain ⟨decisions, decided, answered⟩ := Except.bind_ok answered
  obtain rfl := Except.ok.inj answered
  rcases made.drove.ended with ⟨all, opened⟩ |
    ⟨before, stage, after, decision, parts, earlier, at_, unclean, stopped, -⟩
  · have clean := planStages_clean decided fun stage listed => by
      exact (made.decision listed).trans (all stage listed)
    obtain ⟨noIndex, noFind⟩ := search_clean clean
    refine ⟨?_, ?_, ?_⟩
    · simp only [noIndex]
      exact ⟨fun _ => made.disposition.trans opened.disposition, fun _ => rfl⟩
    · simp only [noIndex]
      rw [made.blocking, made.pending, opened.blocking, opened.pending]
      rfl
    · simp only [noFind]
      exact (made.disposition.trans opened.disposition).symm
  · have stop := (made.decision (by rw [parts]; simp)).trans at_
    have heads := fun other (listed : other ∈ before) =>
      (made.decision (by rw [parts]; simp [listed])).trans (earlier other listed)
    rw [parts] at decided
    obtain ⟨heads, planned, tails, rfl, clean, own, named⟩ :=
      planStages_stopped decided heads stop
    obtain ⟨noIndex, noFind⟩ := search_clean clean
    have atIndex : (heads ++ planned :: tails).findIdx?
        (fun planned => decide (planned.decision ≠ .clean)) = some heads.length := by
      rw [List.findIdx?_append, noIndex, List.findIdx?_cons]
      simp [own, unclean]
    have atFind : (heads ++ planned :: tails).find?
        (fun planned => decide (planned.decision ≠ .clean)) = some planned := by
      rw [List.find?_append, noFind]
      simp [own, unclean]
    refine ⟨?_, ?_, ?_⟩
    · simp only [atIndex]
      rw [made.disposition, stopped.disposition]
      exact ⟨(fun done => by cases done), fun clean => absurd clean unclean⟩
    · simp only [atIndex]
      rw [made.blocking, made.pending, stopped.named, ← named]
      simp
    · simp only [atFind]
      rw [made.disposition, stopped.disposition]
      exact own

end

/-- A pass over a compiled pipeline keeps to its sequence. The planner answers on what the pass
leaves exactly where every policy of the pipeline has the number that its kind needs, and then it
agrees with the pass. -/
theorem driver_planner_agree [JsText] {domainConfig roleRegistry : Option Json}
    {domain : DomainPipeline}
    (resolved : resolveDomainPipeline domainConfig roleRegistry = .ok domain)
    (request : DriverRequest) (piped : request.pipeline = domain.stages.map Prod.fst)
    {run : PipelineRun} (ran : runReviewPipeline request = .ok run)
    (riskClass : Option String) (budgetOverride : Option Nat) :
    RunSequenced request run ∧
      ((∃ plan, planPipelineReReview request.pipeline run.stageStates request.currentRevisionRef
          riskClass budgetOverride = .ok plan) ↔
        ∀ stage ∈ request.pipeline, policyComplete stage = true) ∧
      ∀ plan, planPipelineReReview request.pipeline run.stageStates request.currentRevisionRef
        riskClass budgetOverride = .ok plan → PlanAgrees run plan := by
  obtain ⟨distinct, compiled⟩ := resolveDomainPipeline_compiled resolved
  rw [← piped] at distinct compiled
  obtain ⟨ctx, driven, made⟩ := runReviewPipeline_driven compiled distinct ran
  have some_stage : request.pipeline ≠ [] := by
    intro empty
    rw [runReviewPipeline, if_pos empty] at ran
    cases ran
  refine ⟨⟨?_, ?_⟩, planner_ok compiled some_stage _ riskClass budgetOverride, ?_⟩
  · exact fun stage listed clean => made.fresh distinct listed clean
  · exact fun before stage after decision split decided unclean later listed =>
      made.gated distinct split decided unclean listed
  · exact fun plan planned => made.agrees planned

end

def unfinishedDomain : Json :=
  .obj [("id", .str "code"), ("pipeline", .obj [("enabled", .bool true), ("stages", .arr [
    .obj [("id", .str "first"), ("panel", .arr [.str "a"])],
    .obj [("id", .str "second"), ("panel", .arr [.str "a"]),
      ("aggregation", .obj [("kind", .str "quorum")])]])])]

def reviewerRegistry : Json :=
  .obj [("roles", .obj [("a", .obj [("taskKind", .str "review")])])]

def unfinishedStages : List Stage :=
  let budget := [("low", 1), ("medium", 2), ("high", 2), ("critical", 2)]
  [{ id := "first", panel := [{ id := "a", model := none }]
     aggregation := defaultAggregation, roundBudgetByRisk := budget },
    { id := "second", panel := [{ id := "a", model := none }]
      aggregation := .obj [("kind", .str "quorum")], roundBudgetByRisk := budget }]

def firstPass (pipeline : List Stage) : DriverRequest where
  pipeline
  stageStates := []
  currentRevisionRef := some "abc123"
  riskClass := none
  budgetOverride := none
  observedAt := "2026-10-10T00:00:00.000Z"
  runStageReview _ _ := .ok (some { kind := .requestChanges })

theorem unfinished_stages_compile [JsText] [JsJson] :
    ∃ domain, resolveDomainPipeline (some unfinishedDomain) (some reviewerRegistry) =
      .ok domain ∧ domain.stages.map Prod.fst = unfinishedStages :=
  ⟨_, rfl, rfl⟩

/-- The pass stops at the first stage, and the planner fails on the second. -/
theorem unfinished_policy_unplanned :
    letI := JsText.ascii
    letI : JsJson := ⟨fun _ => ""⟩
    ¬ ∀ domain, resolveDomainPipeline (some unfinishedDomain) (some reviewerRegistry) =
        .ok domain →
      ∀ run, runReviewPipeline (firstPass (domain.stages.map Prod.fst)) = .ok run →
        ∃ plan, planPipelineReReview (domain.stages.map Prod.fst) run.stageStates (some "abc123")
          none none = .ok plan ∧ PlanAgrees run plan := by
  let _ := JsText.ascii
  let _ : JsJson := ⟨fun _ => ""⟩
  intro agree
  obtain ⟨domain, resolved, stages⟩ := unfinished_stages_compile
  have planned := agree domain resolved
  rw [stages] at planned
  have passes : (runReviewPipeline (firstPass unfinishedStages)).isOk = true := by
    decide
  have fails : (runReviewPipeline (firstPass unfinishedStages) >>= fun run =>
      planPipelineReReview unfinishedStages run.stageStates (some "abc123") none none).isOk =
        false := by
    decide
  cases ran : runReviewPipeline (firstPass unfinishedStages) with
  | error message =>
    rw [ran] at passes
    cases passes
  | ok run =>
    obtain ⟨plan, made, -⟩ := planned run ran
    simp only [ran, Bind.bind, Except.bind, made] at fails
    cases fails

/-- There the pass keeps to its sequence all the same. -/
theorem unfinished_policy_agrees :
    letI := JsText.ascii
    letI : JsJson := ⟨fun _ => ""⟩
    ∃ run, runReviewPipeline (firstPass unfinishedStages) = .ok run ∧
      RunSequenced (firstPass unfinishedStages) run ∧
      ((∃ plan, planPipelineReReview unfinishedStages run.stageStates (some "abc123") none none =
          .ok plan) ↔
        ∀ stage ∈ unfinishedStages, policyComplete stage = true) ∧
      ∀ plan, planPipelineReReview unfinishedStages run.stageStates (some "abc123") none none =
        .ok plan → PlanAgrees run plan := by
  let _ := JsText.ascii
  let _ : JsJson := ⟨fun _ => ""⟩
  obtain ⟨domain, resolved, stages⟩ := unfinished_stages_compile
  have passes : (runReviewPipeline (firstPass unfinishedStages)).isOk = true := by
    decide
  cases ran : runReviewPipeline (firstPass unfinishedStages) with
  | error message =>
    rw [ran] at passes
    cases passes
  | ok run =>
    exact ⟨run, rfl,
      driver_planner_agree resolved (firstPass unfinishedStages) stages.symm ran none none⟩

end AdversarialReview.Pipeline
