import AdversarialReview.Governance.MergePaths

/-! A key is reported known with the word of the highest layer, where no unread one stands above. -/

namespace AdversarialReview.Governance

section

inductive LayerWord where
  | silent | unread | refused | wrongType
  | sets (value : KeyValue)
  deriving DecidableEq

variable (quoting : Quoting) (entry : KeyEntry)

def wordOf (spec : LayerSpec) : LayerWord :=
  match spec.file with
  | .absent => .silent
  | .statFails _ | .notRegular | .readFails _ _ => .unread
  | .read _ doc =>
    if doc.fatal.isSome then .unread
    else
      match doc.get entry.key with
      | none => if (doc.refusalFor entry.key).isSome then .refused else .silent
      | some raw =>
        match checkType quoting.scalar entry raw with
        | .error _ => .wrongType
        | .ok value => .sets value

/-- The environment is silent where it cannot be observed or leaves the variable blank. -/
def envWordOf (envFile : EnvFile) : LayerWord :=
  match envFile, entry.env with
  | .read path values, some name =>
    match (readEnvSnapshot (.read path values)).value name with
    | none => .silent
    | some raw =>
      if jsTrim raw = "" then .silent
      else
        match coerceEnv quoting.text entry name raw with
        | .error _ => .wrongType
        | .ok value => .sets value
  | _, _ => .silent

def topWord : List LayerWord → LayerWord
  | [] => .silent
  | .silent :: lower | .unread :: lower => topWord lower
  | word :: _ => word

def unreadOnTop : List LayerWord → Bool
  | [] => false
  | .silent :: lower => unreadOnTop lower
  | .unread :: _ => true
  | _ :: _ => false

def wordsOf (files : List LayerSpec) : List LayerWord :=
  (files.map (wordOf quoting entry)).reverse

/-- The value of a key is the word of the highest source that sets it, and no layer above that
source, or no layer at all under a default, is unread, refused or of the wrong type. -/
inductive Settled (files : List LayerSpec) (envFile : EnvFile) (resolved : ResolvedKey) : Prop
  | env {value : KeyValue} (source : resolved.source = some .env)
      (sets : envWordOf quoting entry envFile = .sets value) (same : resolved.value = some value)
  | file {value : KeyValue} {lower upper : List LayerSpec} {spec : LayerSpec}
      (source : resolved.source = some .file) (path : resolved.sourcePath = some spec.path)
      (silentEnv : envWordOf quoting entry envFile = .silent)
      (stands : files = lower ++ spec :: upper)
      (sets : wordOf quoting entry spec = .sets value) (same : resolved.value = some value)
      (above : ∀ higher ∈ upper, wordOf quoting entry higher = .silent)
  | default (source : resolved.source = some .default)
      (silentEnv : envWordOf quoting entry envFile = .silent)
      (same : resolved.value = some entry.default)
      (all : ∀ spec ∈ files, wordOf quoting entry spec = .silent)

def DerivedPath.decidedBy (derived : DerivedPath) : List KeyId :=
  if derived.armed.armed = some false then derived.armed.disarmedBy
  else derived.armed.requirements.map (·.requirement.keyId)

structure Honest (files : List LayerSpec) (envFile : EnvFile) : Prop where
  keys : ∀ id, ((readGovernanceConfig quoting files envFile).keys id).known = true →
    Settled quoting (governanceKey id) files envFile
      ((readGovernanceConfig quoting files envFile).keys id)
  paths : ∀ daemons configChangedAt,
    ∀ derived ∈ deriveMergePaths (readGovernanceConfig quoting files envFile).keys daemons
      (readGovernanceConfig quoting files envFile).envLayer.observable configChangedAt,
    derived.armed.armed = some true ∨ derived.effective = .stopped → ∀ id ∈ derived.decidedBy,
      Settled quoting (governanceKey id) files envFile
        ((readGovernanceConfig quoting files envFile).keys id)

/-- No unread layer stands above the words for a key, unless the environment has one, the
highest word cannot be used, or no layer was read at all. -/
def Heard (files : List LayerSpec) (envFile : EnvFile) : Prop :=
  envWordOf quoting entry envFile ≠ .silent ∨
    unreadOnTop (wordsOf quoting entry files) = false ∨
    topWord (wordsOf quoting entry files) = .refused ∨
    topWord (wordsOf quoting entry files) = .wrongType ∨
    (topWord (wordsOf quoting entry files) = .silent ∧
      (files.map readLayer).any (·.descriptor.readable) = false)

instance (files : List LayerSpec) (envFile : EnvFile) :
    Decidable (Heard quoting entry files envFile) :=
  inferInstanceAs (Decidable (_ ∨ _))

end

section

variable {quoting : Quoting} {entry : KeyEntry}

theorem applyLayer_cases (resolved : ResolvedKey) (spec : LayerSpec) :
    ((wordOf quoting entry spec = .silent ∨ wordOf quoting entry spec = .unread) ∧
      applyLayer quoting entry resolved (readLayer spec) = resolved) ∨
    ((wordOf quoting entry spec = .refused ∨ wordOf quoting entry spec = .wrongType) ∧
      ∃ caveat reason, applyLayer quoting entry resolved (readLayer spec) =
        resolved.reset caveat reason) ∨
    ∃ value, wordOf quoting entry spec = .sets value ∧
      applyLayer quoting entry resolved (readLayer spec) =
        { resolved with
          value := some value
          known := true
          source := some .file
          sourcePath := some spec.path
          reason := none
          setIn := resolved.setIn ++ [(spec.path, value)] } := by
  obtain ⟨path, label, file⟩ := spec
  cases file with
  | absent => exact .inl ⟨.inl rfl, rfl⟩
  | statFails | notRegular | readFails => exact .inl ⟨.inr rfl, rfl⟩
  | read modifiedAt doc =>
    by_cases fatal : doc.fatal.isSome = true
    · exact .inl ⟨.inr (by simp [wordOf, fatal]), by simp [applyLayer, readLayer, fatal]⟩
    · simp only [wordOf, applyLayer, readLayer, fatal]
      cases got : doc.get entry.key with
      | none =>
        cases refusal : doc.refusalFor entry.key with
        | none => exact .inl ⟨.inl rfl, rfl⟩
        | some reason => exact .inr (.inl ⟨.inl rfl, _, _, rfl⟩)
      | some raw =>
        cases checked : checkType quoting.scalar entry raw with
        | error reason => exact .inr (.inl ⟨.inr (by simp [checked]), _, _, by simp [checked]; rfl⟩)
        | ok value => exact .inr (.inr ⟨value, by simp [checked], by simp [checked]⟩)

structure Stands (quoting : Quoting) (entry : KeyEntry) (files : List LayerSpec)
    (resolved : ResolvedKey) : Prop where
  silent : topWord (wordsOf quoting entry files) = .silent →
    resolved.known = false ∧ resolved.reason = none
  unusable : topWord (wordsOf quoting entry files) = .refused ∨
    topWord (wordsOf quoting entry files) = .wrongType →
      resolved.known = false ∧ resolved.reason.isSome = true
  sets : ∀ value, topWord (wordsOf quoting entry files) = .sets value →
    resolved.known = true ∧ resolved.source = some .file ∧ resolved.value = some value ∧
      ∃ lower spec upper, files = lower ++ spec :: upper ∧
        wordOf quoting entry spec = .sets value ∧ resolved.sourcePath = some spec.path ∧
        ∀ higher ∈ upper, wordOf quoting entry higher = .silent ∨
          wordOf quoting entry higher = .unread

theorem wordsOf_concat (files : List LayerSpec) (spec : LayerSpec) :
    wordsOf quoting entry (files ++ [spec]) =
      wordOf quoting entry spec :: wordsOf quoting entry files := by
  simp [wordsOf]

theorem stands_layers (files : List LayerSpec) : Stands quoting entry files
    ((files.map readLayer).foldl (applyLayer quoting entry) { entry }) := by
  induction files using List.reverseRecOn with
  | nil => exact ⟨fun _ => ⟨rfl, rfl⟩, by simp [wordsOf, topWord], by simp [wordsOf, topWord]⟩
  | append_singleton files spec ih =>
    simp only [List.map_append, List.map_cons, List.map_nil, List.foldl_append, List.foldl_cons,
      List.foldl_nil]
    rcases @applyLayer_cases quoting entry
      ((files.map readLayer).foldl (applyLayer quoting entry) { entry }) spec with
      ⟨quiet, same⟩ | ⟨unusable, caveat, reason, reset⟩ | ⟨value, sets, written⟩
    · -- A layer without a word leaves the answer of the lower ones.
      have top : topWord (wordsOf quoting entry (files ++ [spec])) =
          topWord (wordsOf quoting entry files) := by
        rw [wordsOf_concat]
        rcases quiet with quiet | quiet <;> rw [quiet] <;> rfl
      rw [same]
      refine ⟨by rw [top]; exact ih.silent, by rw [top]; exact ih.unusable, ?_⟩
      intro value said
      rw [top] at said
      obtain ⟨known, source, value', lower, found, upper, stands, sets, path, above⟩ :=
        ih.sets value said
      refine ⟨known, source, value', lower, found, upper ++ [spec], ?_, sets, path, ?_⟩
      · rw [stands, List.append_assoc, List.cons_append]
      · intro higher listed
        rcases List.mem_append.mp listed with listed | listed
        · exact above higher listed
        · rw [List.mem_singleton.mp listed]
          exact quiet
    · have top : topWord (wordsOf quoting entry (files ++ [spec])) = .refused ∨
          topWord (wordsOf quoting entry (files ++ [spec])) = .wrongType := by
        rw [wordsOf_concat]
        rcases unusable with word | word <;> rw [word] <;> simp [topWord]
      rw [reset]
      refine ⟨fun silent => ?_, fun _ => ⟨rfl, rfl⟩, fun value sets => ?_⟩
      · rcases top with top | top <;> rw [silent] at top <;> cases top
      · rcases top with top | top <;> rw [sets] at top <;> cases top
    · have top : topWord (wordsOf quoting entry (files ++ [spec])) = .sets value := by
        rw [wordsOf_concat, sets]
        rfl
      rw [written]
      refine ⟨fun silent => ?_, fun unusable => ?_, fun other said => ?_⟩
      · rw [top] at silent
        cases silent
      · rcases unusable with unusable | unusable <;> rw [top] at unusable <;> cases unusable
      · rw [top] at said
        cases said
        exact ⟨rfl, rfl, rfl, files, spec, [], rfl, sets, rfl, by simp⟩

end

section

variable {quoting : Quoting} {entry : KeyEntry} {files : List LayerSpec} {envFile : EnvFile}

theorem applyEnv_cases (resolved : ResolvedKey) :
    (envWordOf quoting entry envFile = .silent ∧
      ∃ caveats, applyEnv quoting entry (readEnvSnapshot envFile) resolved =
        { resolved with caveats }) ∨
    (envWordOf quoting entry envFile = .wrongType ∧
      (applyEnv quoting entry (readEnvSnapshot envFile) resolved).known = false) ∨
    ∃ value, envWordOf quoting entry envFile = .sets value ∧
      (applyEnv quoting entry (readEnvSnapshot envFile) resolved).source = some .env ∧
      (applyEnv quoting entry (readEnvSnapshot envFile) resolved).value = some value := by
  cases named : entry.env with
  | none =>
    refine .inl ⟨by cases envFile <;> simp [envWordOf, named], resolved.caveats, ?_⟩
    simp [applyEnv, named]
  | some name =>
    cases envFile with
    | read path values =>
      have observable : (readEnvSnapshot (.read path values)).observable = true := rfl
      simp only [envWordOf, applyEnv, named, observable, Bool.not_true, Bool.false_eq_true,
        if_false]
      cases (readEnvSnapshot (.read path values)).value name with
      | none => exact .inl ⟨rfl, resolved.caveats, rfl⟩
      | some raw =>
        by_cases blank : jsTrim raw = ""
        · exact .inl ⟨by simp [blank], resolved.caveats, by simp [blank]⟩
        · cases coerced : coerceEnv quoting.text entry name raw with
          | error reason => exact .inr (.inl ⟨by simp [blank, coerced], by simp [blank, coerced]⟩)
          | ok value =>
            exact .inr (.inr ⟨value, by simp [blank, coerced], by simp [blank, coerced],
              by simp [blank, coerced]⟩)
    | _ => exact .inl ⟨by simp [envWordOf], _, by simp [applyEnv, named, readEnvSnapshot]; rfl⟩

theorem unreadOnTop_append {high rest : List LayerWord}
    (quiet : ∀ word ∈ high, word = .silent ∨ word = .unread) :
    unreadOnTop (high ++ rest) = false ↔
      (∀ word ∈ high, word = .silent) ∧ unreadOnTop rest = false := by
  induction high with
  | nil => simp
  | cons word high ih =>
    have later := ih fun next listed => quiet next (List.mem_cons_of_mem _ listed)
    rcases quiet word (List.mem_cons_self ..) with rfl | rfl
    · simpa [unreadOnTop] using later
    · simp [unreadOnTop]

theorem quiet_of_topWord {words : List LayerWord} (silent : topWord words = .silent) :
    ∀ word ∈ words, word = .silent ∨ word = .unread := by
  induction words with
  | nil => simp
  | cons word lower ih =>
    cases word with
    | silent | unread => simpa [topWord] using ih silent
    | _ => simp [topWord] at silent

theorem topWord_read {words : List LayerWord} : topWord words ≠ .unread := by
  induction words with
  | nil => simp [topWord]
  | cons word lower ih => cases word <;> simp [topWord, ih]

theorem wordsOf_split {lower upper : List LayerSpec} {spec : LayerSpec}
    (stands : files = lower ++ spec :: upper) :
    wordsOf quoting entry files = (upper.map (wordOf quoting entry)).reverse ++
      wordOf quoting entry spec :: wordsOf quoting entry lower := by
  simp [wordsOf, stands]

theorem layered_settled_iff {value : KeyValue} {resolved : ResolvedKey}
    (silentEnv : envWordOf quoting entry envFile = .silent)
    (stands : Stands quoting entry files resolved)
    (top : topWord (wordsOf quoting entry files) = .sets value) (caveats : List String) :
    Settled quoting entry files envFile { resolved with caveats } ↔
      unreadOnTop (wordsOf quoting entry files) = false := by
  obtain ⟨-, source, same, lower, spec, upper, split, sets, path, above⟩ := stands.sets value top
  constructor
  · intro settled
    cases settled with
    | env isEnv => simp [source] at isEnv
    | default isDefault => simp [source] at isDefault
    | @file _ lower upper spec _ _ _ split sets _ silent =>
      rw [wordsOf_split split, sets]
      refine (unreadOnTop_append fun word listed => ?_).mpr ⟨fun word listed => ?_, rfl⟩
      · obtain ⟨higher, inUpper, rfl⟩ := List.mem_map.mp (List.mem_reverse.mp listed)
        exact .inl (silent higher inUpper)
      · obtain ⟨higher, inUpper, rfl⟩ := List.mem_map.mp (List.mem_reverse.mp listed)
        exact silent higher inUpper
  · intro heard
    rw [wordsOf_split split] at heard
    have silent := ((unreadOnTop_append fun word listed => by
      obtain ⟨higher, inUpper, rfl⟩ := List.mem_map.mp (List.mem_reverse.mp listed)
      exact above higher inUpper).mp heard).1
    refine .file source path silentEnv split sets same fun higher listed => ?_
    exact silent _ (List.mem_reverse.mpr (List.mem_map_of_mem listed))

theorem default_settled_iff {resolved : ResolvedKey}
    (silentEnv : envWordOf quoting entry envFile = .silent)
    (top : topWord (wordsOf quoting entry files) = .silent) :
    Settled quoting entry files envFile { resolved with
        value := some entry.default, known := true, source := some .default } ↔
      unreadOnTop (wordsOf quoting entry files) = false := by
  have quiet := quiet_of_topWord top
  have append := @unreadOnTop_append (wordsOf quoting entry files) [] quiet
  rw [List.append_nil] at append
  rw [append]
  constructor
  · intro settled
    cases settled with
    | env isEnv => simp at isEnv
    | file isFile => simp at isFile
    | default _ _ _ all =>
      refine ⟨fun word listed => ?_, rfl⟩
      obtain ⟨spec, inFiles, rfl⟩ := List.mem_map.mp (List.mem_reverse.mp listed)
      exact all spec inFiles
  · rintro ⟨silent, -⟩
    exact .default rfl silentEnv rfl fun spec listed =>
      silent _ (List.mem_reverse.mpr (List.mem_map_of_mem listed))

theorem known_settled_iff (id : KeyId) :
    (((readGovernanceConfig quoting files envFile).keys id).known = true →
      Settled quoting (governanceKey id) files envFile
        ((readGovernanceConfig quoting files envFile).keys id)) ↔
    Heard quoting (governanceKey id) files envFile := by
  simp only [readGovernanceConfig, resolveKey]
  have stands := @stands_layers quoting (governanceKey id) files
  generalize (files.map readLayer).foldl (applyLayer quoting (governanceKey id))
    { entry := governanceKey id } = layered at stands ⊢
  generalize readable : (files.map readLayer).any (·.descriptor.readable) = anySourceReadable
  rcases @applyEnv_cases quoting (governanceKey id) envFile
    (applyDefault (governanceKey id) anySourceReadable layered) with
    ⟨silentEnv, caveats, env⟩ | ⟨wrong, unknown⟩ | ⟨value, sets, source, same⟩
  · rw [env]
    cases top : topWord (wordsOf quoting (governanceKey id) files) with
    | silent =>
      obtain ⟨unknown, noReason⟩ := stands.silent top
      simp only [applyDefault, unknown, noReason, Option.isSome_none, Bool.or_self,
        Bool.false_eq_true, if_false]
      cases anySourceReadable with
      | true =>
        simp only [if_true, forall_const]
        have iff := @default_settled_iff quoting (governanceKey id) files envFile
          { layered with caveats } silentEnv top
        simp only [Heard, silentEnv, top, readable]
        simpa [noReason] using iff
      | false => simp [Heard, top, readable]
    | unread => exact absurd top topWord_read
    | refused | wrongType =>
      obtain ⟨unknown, reason⟩ := stands.unusable (by simp [top])
      simp [applyDefault, unknown, reason, Heard, top]
    | sets value =>
      obtain ⟨known, -⟩ := stands.sets value top
      have iff := layered_settled_iff silentEnv stands top caveats
      simp only [applyDefault, known, Bool.true_or, if_true, forall_const]
      simp only [Heard, silentEnv, top]
      simpa [known] using iff
  · exact ⟨fun _ => .inl (by simp [wrong]), fun _ known => by simp [unknown] at known⟩
  · exact ⟨fun _ => .inl (by simp [sets]), fun _ _ => .env source sets same⟩

theorem known_of_decided {keys : KeyId → ResolvedKey} {daemons : DaemonId → Executor}
    {observable : Bool} {changedAt : Option Int} {path : MergePath} {id : KeyId}
    (derives : (derivePath keys daemons observable changedAt path).armed.armed = some true ∨
      (derivePath keys daemons observable changedAt path).effective = .stopped)
    (decides : id ∈ (derivePath keys daemons observable changedAt path).decidedBy) :
    (keys id).known = true := by
  have evaluated : ∀ requirement, (evaluateRequirement keys requirement).verdict ≠ .unknown →
      (keys requirement.keyId).known = true := by
    intro requirement verdict
    by_contra unknown
    simp [evaluateRequirement, unknown] at verdict
  simp only [derivePath, DerivedPath.decidedBy, deriveArmed] at derives decides
  by_cases liveness : path.armedByLiveness = true
  · -- No key governs a path that its daemon's liveness arms.
    simp only [liveness, if_true] at decides
    split at decides <;> simp at decides
  simp only [liveness] at derives decides
  by_cases disarmed : (path.requires.map (evaluateRequirement keys)).filter
      (·.verdict = .disarms) = []
  · by_cases unknown : (path.requires.map (evaluateRequirement keys)).any
        (·.verdict = .unknown) = true
    · simp [disarmed, unknown, deriveEffective] at derives
    · simp only [disarmed, unknown, List.isEmpty_nil, Bool.not_true, Bool.false_eq_true,
        if_false, Option.some.injEq, Bool.true_eq_false, List.map_map, List.mem_map] at decides
      obtain ⟨requirement, listed, rfl⟩ := decides
      refine evaluated requirement fun verdict => unknown ?_
      exact List.any_eq_true.mpr ⟨_, List.mem_map_of_mem listed, by simp [verdict]⟩
  · have disarms := List.isEmpty_eq_false_iff.mpr disarmed
    simp only [disarms, Bool.not_false, if_true, Bool.false_eq_true, if_false, List.mem_map,
      List.mem_filter] at decides
    obtain ⟨_, ⟨⟨requirement, -, rfl⟩, verdict⟩, rfl⟩ := decides
    refine evaluated requirement fun unknown => ?_
    simp [unknown] at verdict

/-- The keys of a config are honest exactly where every key's word is heard. -/
theorem honest_iff_heard (quoting : Quoting) (files : List LayerSpec) (envFile : EnvFile) :
    Honest quoting files envFile ↔ ∀ id, Heard quoting (governanceKey id) files envFile := by
  constructor
  · exact fun honest id => (known_settled_iff id).mp (honest.keys id)
  · intro heard
    have keys := fun id => (known_settled_iff id).mpr (heard id)
    refine ⟨keys, fun daemons changedAt derived listed derives id decides => keys id ?_⟩
    obtain ⟨path, -, rfl⟩ := List.mem_map.mp listed
    exact known_of_decided derives decides

def unreadableOverride : List LayerSpec :=
  [{ path := "config.yaml"
     file := .read "2026-07-26T00:00:00.000Z"
       { values := [("roles.adversarial.merge_authority.enabled", .boolean true)] } },
   { path := "config.local.yaml"
     file := .readFails "2026-07-26T00:00:00.000Z" "EACCES: permission denied" }]

theorem unreadable_override_reported_known :
    ¬ ∀ quoting files envFile, Honest quoting files envFile := by
  intro honest
  have heard := (honest_iff_heard ⟨fun _ => "", fun _ => ""⟩ unreadableOverride .unconfigured).mp
    (honest _ _ _) .enabled
  revert heard
  decide

end

end AdversarialReview.Governance
