import AdversarialReview.Pipeline.Domain

/-! What a panel's verdicts come to, role by role, counted and weighed. -/

namespace AdversarialReview.Pipeline

section

variable [JsText] [JsJson]

theorem normalizeSeats_ids {roles : Json} {ctx : StageContext} {seen : List String}
    {entries : List Json} {seats : List (PanelRole × Json)}
    (found : normalizeSeats roles ctx seen entries = .ok seats) :
    (seats.map fun seat => seat.1.id).Nodup ∧
      ∀ seat ∈ seats, seat.1.id ∉ seen ∧ seat.1.id ≠ "" := by
  induction entries generalizing seen seats with
  | nil =>
    obtain rfl := Except.ok.inj found
    simp
  | cons entry rest ih =>
    obtain ⟨roleId, -, found⟩ := Except.bind_ok found
    split at found
    · cases found
    split at found
    · cases found
    next named fresh =>
      obtain ⟨role, -, found⟩ := Except.bind_ok found
      obtain ⟨model, -, found⟩ := Except.bind_ok found
      obtain ⟨others, othersOk, found⟩ := Except.bind_ok found
      obtain rfl := Except.ok.inj found
      obtain ⟨distinct, apart⟩ := ih othersOk
      refine ⟨?_, ?_⟩
      · rw [List.map_cons, List.nodup_cons]
        refine ⟨?_, distinct⟩
        intro repeated
        obtain ⟨seat, listed, same⟩ := List.mem_map.mp repeated
        exact (apart seat listed).1 (same ▸ List.mem_cons_self)
      · intro seat listed
        rcases List.mem_cons.mp listed with rfl | later
        · exact ⟨fresh, named⟩
        · obtain ⟨unseen, some⟩ := apart seat later
          exact ⟨fun before => unseen (List.mem_cons_of_mem roleId before), some⟩

theorem compileStage_nodup {roles : Json} {fallback : List (String × Nat)} {ctx : StageContext}
    {rawStage : Json} {stage : Stage × List (String × Json)}
    (found : compileStage roles fallback ctx rawStage = .ok stage) :
    (panelRoleIds stage.1).Nodup := by
  obtain ⟨seats, seatsOk, found⟩ := Except.bind_ok found
  obtain ⟨aggregation, -, found⟩ := Except.bind_ok found
  obtain ⟨budget, -, found⟩ := Except.bind_ok found
  obtain rfl := Except.ok.inj found
  unfold normalizePanel at seatsOk
  split at seatsOk
  · have distinct := (normalizeSeats_ids seatsOk).1
    simp only [panelRoleIds, List.map_map]
    exact distinct.filter _
  · cases seatsOk

theorem compileStages_nodup {roles : Json} {fallback : List (String × Nat)} {domainId : String}
    {seen : List String} {rawStages : List Json} {stages : List (Stage × List (String × Json))}
    (found : compileStages roles fallback domainId seen rawStages = .ok stages) :
    ∀ stage ∈ stages, (panelRoleIds stage.1).Nodup := by
  induction rawStages generalizing seen stages with
  | nil =>
    obtain rfl := Except.ok.inj found
    intro stage listed
    cases listed
  | cons rawStage rest ih =>
    unfold compileStages at found
    split at found
    · obtain ⟨stageId, -, found⟩ := Except.bind_ok found
      split at found
      · cases found
      split at found
      · cases found
      obtain ⟨first, firstOk, found⟩ := Except.bind_ok found
      obtain ⟨others, othersOk, found⟩ := Except.bind_ok found
      obtain rfl := Except.ok.inj found
      intro stage listed
      rcases List.mem_cons.mp listed with rfl | later
      · exact compileStage_nodup firstOk
      · exact ih othersOk stage later
    · cases found

theorem resolveDomainPipeline_nodup {domainConfig roleRegistry : Option Json}
    {pipeline : DomainPipeline}
    (found : resolveDomainPipeline domainConfig roleRegistry = .ok pipeline) :
    ∀ stage ∈ pipeline.stages, (panelRoleIds stage.1).Nodup := by
  obtain ⟨named, -, found⟩ := Except.bind_ok found
  dsimp only at found
  split at found
  · obtain rfl := Except.ok.inj found
    intro stage listed
    cases listed
  split at found
  · split at found
    · obtain ⟨stages, stagesOk, found⟩ := Except.bind_ok found
      obtain rfl := Except.ok.inj found
      exact compileStages_nodup stagesOk
    · cases found
  · cases found

end

def roleVerdicts (roleIds : List String) (verdicts : List Verdict) (roleId : String) :
    List Verdict :=
  verdicts.filter fun verdict => creditedRole roleIds verdict = some roleId

def newestAfter (start : Option Verdict) (verdicts : List Verdict) : Option Verdict :=
  verdicts.foldl (fun prev verdict => some (laterVerdict prev verdict)) start

theorem creditVerdict_apply (roleIds : List String) (byRole : String → Option Verdict)
    (verdict : Verdict) (roleId : String) :
    creditVerdict roleIds byRole verdict roleId =
      if creditedRole roleIds verdict = some roleId then some (laterVerdict (byRole roleId) verdict)
      else byRole roleId := by
  unfold creditVerdict
  cases credited : creditedRole roleIds verdict with
  | none => rfl
  | some own =>
    by_cases same : own = roleId
    · subst same
      simp
    · have apart : roleId ≠ own := fun other => same other.symm
      simp [same, apart]

theorem creditVerdicts_apply (roleIds : List String) (byRole : String → Option Verdict)
    (verdicts : List Verdict) (roleId : String) :
    verdicts.foldl (creditVerdict roleIds) byRole roleId =
      newestAfter (byRole roleId) (roleVerdicts roleIds verdicts roleId) := by
  -- By induction on the verdicts, one credited after the other.
  induction verdicts generalizing byRole with
  | nil => rfl
  | cons verdict rest ih =>
    rw [List.foldl_cons, ih, creditVerdict_apply]
    by_cases credited : creditedRole roleIds verdict = some roleId
    · simp [roleVerdicts, credited, newestAfter]
    · simp [roleVerdicts, credited]

def newestOf (roleIds : List String) (verdicts : List Verdict) (roleId : String) :
    Option Verdict :=
  newestAfter none (roleVerdicts roleIds verdicts roleId)

theorem resolvePanelRoleVerdicts_eq (stage : Stage) (verdicts : List Verdict) :
    resolvePanelRoleVerdicts stage verdicts =
      (panelRoleIds stage).map fun roleId =>
        { roleId, verdict := newestOf (panelRoleIds stage) verdicts roleId } := by
  simp only [resolvePanelRoleVerdicts, creditVerdicts_apply, newestOf]

theorem newestAfter_spec {start : Option Verdict} {verdicts : List Verdict} {newest : Verdict}
    (found : newestAfter start verdicts = some newest) :
    (start = some newest ∨ newest ∈ verdicts) ∧
      (∀ verdict, start = some verdict ∨ verdict ∈ verdicts →
        Utf16.upTo (verdictSortKey verdict) (verdictSortKey newest) = true) := by
  -- By induction on the verdicts: the newest so far is kept or replaced by a newer one.
  induction verdicts generalizing start with
  | nil =>
    have same : start = some newest := found
    refine ⟨.inl same, ?_⟩
    rintro verdict (begun | listed)
    · obtain rfl := Option.some.inj (begun.symm.trans same)
      exact Utf16.upTo_refl _
    · cases listed
  | cons verdict rest ih =>
    obtain ⟨member, most⟩ := ih found
    have here := most (laterVerdict start verdict) (.inl rfl)
    -- Both the verdict before and this one are no newer than the later of the two.
    have bounds : Utf16.upTo (verdictSortKey verdict) (verdictSortKey newest) = true ∧
        ∀ prev, start = some prev →
          Utf16.upTo (verdictSortKey prev) (verdictSortKey newest) = true := by
      cases start with
      | none => exact ⟨here, fun prev begun => by cases begun⟩
      | some prev =>
        simp only [laterVerdict] at here
        split at here
        next newer =>
          refine ⟨here, ?_⟩
          intro other same
          obtain rfl := Option.some.inj same
          exact Utf16.upTo_trans newer here
        next older =>
          have order := (Utf16.upTo_total (verdictSortKey prev)
            (verdictSortKey verdict)).resolve_left older
          refine ⟨Utf16.upTo_trans order here, ?_⟩
          intro other same
          obtain rfl := Option.some.inj same
          exact here
    refine ⟨?_, ?_⟩
    · rcases member with begun | later
      · have chosen := Option.some.inj begun
        cases start with
        | none => exact .inr (chosen ▸ List.mem_cons_self)
        | some prev =>
          simp only [laterVerdict] at chosen
          split at chosen
          · exact .inr (chosen ▸ List.mem_cons_self)
          · exact .inl (congrArg some chosen)
      · exact .inr (List.mem_cons_of_mem verdict later)
    · rintro other (begun | listed)
      · exact bounds.2 other begun
      · rcases List.mem_cons.mp listed with rfl | later
        · exact bounds.1
        · exact most other (.inr later)

theorem newestAfter_eq_none {start : Option Verdict} {verdicts : List Verdict} :
    newestAfter start verdicts = none ↔ start = none ∧ verdicts = [] := by
  induction verdicts generalizing start with
  | nil => simp [newestAfter]
  | cons verdict rest ih =>
    have next : newestAfter start (verdict :: rest) =
        newestAfter (some (laterVerdict start verdict)) rest := rfl
    rw [next, ih]
    simp

theorem newestAfter_perm {verdicts shuffled : List Verdict} (same : verdicts.Perm shuffled)
    (distinct : (verdicts.map verdictSortKey).Nodup) :
    newestAfter none shuffled = newestAfter none verdicts := by
  cases found : newestAfter none verdicts with
  | none =>
    obtain rfl := (newestAfter_eq_none.mp found).2
    rw [List.nil_perm.mp same]
    rfl
  | some newest =>
    cases other : newestAfter none shuffled with
    | none =>
      obtain rfl := (newestAfter_eq_none.mp other).2
      rw [List.perm_nil.mp same] at found
      cases found
    | some second =>
      obtain ⟨one, mostOne⟩ := newestAfter_spec found
      obtain ⟨two, mostTwo⟩ := newestAfter_spec other
      have oneIn : newest ∈ verdicts := one.resolve_left (by simp)
      have twoIn : second ∈ verdicts := same.mem_iff.mpr (two.resolve_left (by simp))
      have keys := Utf16.upTo_antisymm (mostOne second (.inr twoIn))
        (mostTwo newest (.inr (same.mem_iff.mp oneIn)))
      exact congrArg some (List.inj_on_of_nodup_map distinct twoIn oneIn keys)

def stance (verdicts : String → Option Verdict) (roleId : String) : Option PipelineDisposition :=
  (verdicts roleId).map classifyVerdictDisposition

def countOf (verdicts : String → Option Verdict) (roleIds : List String)
    (wanted : Option PipelineDisposition) : Nat :=
  roleIds.countP fun roleId => stance verdicts roleId = wanted

def Extends (roleIds : List String) (before after : String → Option Verdict) : Prop :=
  ∀ roleId ∈ roleIds, before roleId ≠ none → after roleId = before roleId

namespace Extends

variable {roleIds : List String} {before after : String → Option Verdict}

theorem stance_eq (later : Extends roleIds before after) {roleId : String}
    (listed : roleId ∈ roleIds) {disposition : PipelineDisposition}
    (taken : stance before roleId = some disposition) :
    stance after roleId = some disposition := by
  -- A role with a verdict before has the same one after.
  have there : before roleId ≠ none := by
    intro absent
    simp [stance, absent] at taken
  rw [stance, later roleId listed there]
  exact taken

theorem countOf_le (later : Extends roleIds before after) (disposition : PipelineDisposition) :
    countOf before roleIds (some disposition) ≤ countOf after roleIds (some disposition) := by
  -- Role by role: whoever took the stance before still takes it.
  refine List.countP_mono_left ?_
  intro roleId listed taken
  simp only [decide_eq_true_eq] at taken ⊢
  exact later.stance_eq listed taken

theorem countOf_eq (later : Extends roleIds before after)
    (full : countOf before roleIds none = 0) (wanted : Option PipelineDisposition) :
    countOf after roleIds wanted = countOf before roleIds wanted := by
  refine List.countP_congr ?_
  intro roleId listed
  have there : before roleId ≠ none := by
    intro absent
    have missing := List.countP_eq_zero.mp full roleId listed
    simp [stance, absent] at missing
  rw [stance, stance, later roleId listed there]

end Extends

theorem stance_ne_pending (verdicts : String → Option Verdict) (roleId : String) :
    stance verdicts roleId ≠ some .pending := by
  intro pending
  obtain ⟨verdict, -, classified⟩ := Option.map_eq_some_iff.mp pending
  unfold classifyVerdictDisposition at classified
  split at classified
  · cases classified
  split at classified
  · cases classified
  split at classified <;> cases classified

theorem countOf_total (verdicts : String → Option Verdict) (roleIds : List String) :
    countOf verdicts roleIds (some .clean) + countOf verdicts roleIds (some .blocking) +
      countOf verdicts roleIds (some .indeterminate) + countOf verdicts roleIds none =
        roleIds.length := by
  -- By induction on the roles of the panel.
  induction roleIds with
  | nil => rfl
  | cons roleId rest ih =>
    have known := stance_ne_pending verdicts roleId
    simp only [countOf, List.countP_cons, List.length_cons] at ih ⊢
    -- Exactly one of the four counts takes the role in.
    match taken : stance verdicts roleId with
    | none => simp; omega
    | some .clean => simp; omega
    | some .blocking => simp; omega
    | some .indeterminate => simp; omega
    | some .pending => exact absurd taken known

def rolesOf (verdicts : String → Option Verdict) (roleIds : List String) : List RoleVerdict :=
  roleIds.map fun roleId => { roleId, verdict := verdicts roleId }

theorem counts_eq (verdicts : String → Option Verdict) (roleIds : List String)
    (start : DispositionCounts) :
    (rolesOf verdicts roleIds).foldl DispositionCounts.record start =
      { clean := start.clean + countOf verdicts roleIds (some .clean)
        blocking := start.blocking + countOf verdicts roleIds (some .blocking)
        indeterminate := start.indeterminate + countOf verdicts roleIds (some .indeterminate)
        missing := start.missing + countOf verdicts roleIds none } := by
  induction roleIds generalizing start with
  | nil => rfl
  | cons roleId rest ih =>
    have known := stance_ne_pending verdicts roleId
    have whole := ih (start.record { roleId, verdict := verdicts roleId })
    simp only [rolesOf, List.map_cons, List.foldl_cons, countOf, List.countP_cons] at whole ⊢
    rw [whole]
    cases verdict : verdicts roleId with
    | none => simp [DispositionCounts.record, stance, verdict]; omega
    | some value =>
      match classified : classifyVerdictDisposition value with
      | .clean => simp [DispositionCounts.record, stance, verdict, classified]; omega
      | .blocking => simp [DispositionCounts.record, stance, verdict, classified]; omega
      | .indeterminate => simp [DispositionCounts.record, stance, verdict, classified]; omega
      | .pending => simp [stance, verdict, classified] at known

def weighFrom (policy : Json) (start : JsDouble) (roleIds : List String) (chosen : String → Bool) :
    JsDouble :=
  (roleIds.filter chosen).foldl
    (fun total roleId => total.add (.finite (roleWeight policy roleId))) start

theorem weights_eq (policy : Json) (verdicts : String → Option Verdict) (roleIds : List String)
    (start : DispositionWeights) :
    (rolesOf verdicts roleIds).foldl (DispositionWeights.record policy) start =
      { clean := weighFrom policy start.clean roleIds fun roleId =>
          stance verdicts roleId = some .clean
        blocking := weighFrom policy start.blocking roleIds fun roleId =>
          stance verdicts roleId = some .blocking
        total := weighFrom policy start.total roleIds fun _ => true } := by
  induction roleIds generalizing start with
  | nil => rfl
  | cons roleId rest ih =>
    have known := stance_ne_pending verdicts roleId
    have whole := ih (start.record policy { roleId, verdict := verdicts roleId })
    simp only [rolesOf, List.map_cons, List.foldl_cons, weighFrom] at whole ⊢
    rw [whole]
    cases verdict : verdicts roleId with
    | none => simp [DispositionWeights.record, stance, verdict]
    | some value =>
      match classified : classifyVerdictDisposition value with
      | .clean => simp [DispositionWeights.record, stance, verdict, classified]
      | .blocking => simp [DispositionWeights.record, stance, verdict, classified]
      | .indeterminate => simp [DispositionWeights.record, stance, verdict, classified]
      | .pending => simp [stance, verdict, classified] at known

end AdversarialReview.Pipeline
