import AdversarialReview.Library.JsNumber

/-! The keys that govern autonomous merge across the layers of a config, and what they and the
daemons say of each merge path. -/

namespace AdversarialReview.Governance

inductive KeyType where
  | boolean | integer
  deriving DecidableEq

inductive KeyId where
  | enabled | autonomousMergeExecutionEnabled | strictMode | strictNonBlockingRemediation
  | hammerLifetimeCeiling | branchProtectionRequired | reviewCycleCap | reviewCycleWindowHours
  deriving DecidableEq

inductive KeyValue where
  | boolean (value : Bool)
  | integer (value : JsDouble)
  deriving DecidableEq

structure KeyEntry where
  id : KeyId
  key : String
  env : Option String
  type : KeyType
  default : KeyValue
  killSwitch : Bool := false
  group : String := "merge-authority"

def mergeAuthorityPrefix : String := "roles.adversarial.merge_authority"

def governanceKey : KeyId → KeyEntry
  | .enabled =>
    { id := .enabled
      key := mergeAuthorityPrefix ++ ".enabled"
      env := some "AGENT_OS_ROLES_ADVERSARIAL_MERGE_AUTHORITY_ENABLED"
      type := .boolean
      default := .boolean false
      killSwitch := true }
  | .autonomousMergeExecutionEnabled =>
    { id := .autonomousMergeExecutionEnabled
      key := mergeAuthorityPrefix ++ ".autonomous_merge_execution_enabled"
      env := some <| "AGENT_OS_ROLES_ADVERSARIAL_MERGE_AUTHORITY_" ++
        "AUTONOMOUS_MERGE_EXECUTION_ENABLED"
      type := .boolean
      default := .boolean true
      killSwitch := true }
  | .strictMode =>
    { id := .strictMode
      key := mergeAuthorityPrefix ++ ".strict_mode"
      env := some "AGENT_OS_ROLES_ADVERSARIAL_MERGE_AUTHORITY_STRICT_MODE"
      type := .boolean
      default := .boolean true }
  | .strictNonBlockingRemediation =>
    { id := .strictNonBlockingRemediation
      key := mergeAuthorityPrefix ++ ".strict_non_blocking_remediation"
      env := none
      type := .boolean
      default := .boolean true }
  | .hammerLifetimeCeiling =>
    { id := .hammerLifetimeCeiling
      key := mergeAuthorityPrefix ++ ".hammer_lifetime_ceiling"
      env := some "AGENT_OS_ROLES_ADVERSARIAL_MERGE_AUTHORITY_HAMMER_LIFETIME_CEILING"
      type := .integer
      default := .integer (.finite 6) }
  | .branchProtectionRequired =>
    { id := .branchProtectionRequired
      key := mergeAuthorityPrefix ++ ".branch_protection.required"
      env := none
      type := .boolean
      default := .boolean true }
  | .reviewCycleCap =>
    { id := .reviewCycleCap
      key := "review_cycle_cap"
      env := none
      type := .integer
      default := .integer (.finite 5)
      group := "review-cycle" }
  | .reviewCycleWindowHours =>
    { id := .reviewCycleWindowHours
      key := "review_cycle_window_hours"
      env := none
      type := .integer
      default := .integer (.finite 24)
      group := "review-cycle" }

/-- A scalar that `readScalarYaml` read. -/
inductive YamlScalar where
  | null
  | boolean (value : Bool)
  | number (value : JsDouble)
  | text (value : String)

structure ScalarYamlDocument where
  values : List (String × YamlScalar)
  refusals : List (String × String) := []
  fatal : Option String := none

def ScalarYamlDocument.get (doc : ScalarYamlDocument) (dotted : String) : Option YamlScalar :=
  if doc.fatal.isSome then none
  else (doc.values.find? fun entry => entry.1 = dotted).map (·.2)

def ScalarYamlDocument.refusalFor (doc : ScalarYamlDocument) (dotted : String) : Option String :=
  if doc.fatal.isSome then doc.fatal
  else (doc.refusals.find? fun entry =>
    dotted = entry.1 || (entry.1 ++ ".").toList.isPrefixOf dotted.toList).map (·.2)

inductive LayerFile where
  | absent
  | statFails (message : String)
  | notRegular
  | readFails (modifiedAt : String) (message : String)
  | read (modifiedAt : String) (doc : ScalarYamlDocument)

structure LayerSpec where
  path : String
  label : Option String := none
  file : LayerFile

structure LayerDescriptor where
  path : String
  label : String
  present : Bool := false
  readable : Bool := false
  modifiedAt : Option String := none
  reason : Option String := none

structure Layer where
  descriptor : LayerDescriptor
  doc : Option ScalarYamlDocument

def readLayer (spec : LayerSpec) : Layer :=
  let descriptor : LayerDescriptor := { path := spec.path, label := spec.label.getD spec.path }
  match spec.file with
  | .absent => ⟨descriptor, none⟩
  | .statFails message => ⟨{ descriptor with reason := some ("unreadable: " ++ message) }, none⟩
  | .notRegular => ⟨{ descriptor with reason := some "not a regular file" }, none⟩
  | .readFails modifiedAt message =>
    ⟨{ descriptor with
        present := true
        modifiedAt := some modifiedAt
        reason := some ("unreadable: " ++ message) }, none⟩
  | .read modifiedAt doc =>
    ⟨{ descriptor with
        present := true
        readable := true
        modifiedAt := some modifiedAt
        reason := doc.fatal }, some doc⟩

/-- What is found at the path of the snapshot of the daemon's environment. -/
inductive EnvFile where
  | unconfigured
  | readFails (path : String) (message : String)
  | notJson (path : String) (message : String)
  | notObject (path : String)
  /-- An object: of each variable, the text of its value. -/
  | read (path : String) (values : List (String × String))

structure EnvLayer where
  observable : Bool
  source : Option String
  values : List (String × String) := []
  reason : Option String

def readEnvSnapshot : EnvFile → EnvLayer
  | .unconfigured =>
    { observable := false
      source := none
      reason := some <| "no daemon environment snapshot configured; ARF cannot read another " ++
        "process's environment, and config layer 5 (env) outranks every file" }
  | .readFails path message =>
    { observable := false
      source := some path
      reason := some s!"environment snapshot {path} is unreadable: {message}" }
  | .notJson path message =>
    { observable := false
      source := some path
      reason := some s!"environment snapshot {path} is not valid JSON: {message}" }
  | .notObject path =>
    { observable := false
      source := some path
      reason := some
        s!"environment snapshot {path} must contain a JSON object of variable → value" }
  | .read path values => { observable := true, source := some path, values, reason := none }

def EnvLayer.value (layer : EnvLayer) (name : String) : Option String :=
  (layer.values.find? fun entry => entry.1 = name).map (·.2)

section

def envLayerUnobservable : String := "env-layer-not-observable"

def isInteger : JsDouble → Bool
  | .finite value => value.den = 1
  | _ => false

def checkType (quoted : YamlScalar → String) (entry : KeyEntry) (value : YamlScalar) :
    Except String KeyValue :=
  match entry.type, value with
  | .boolean, .boolean value => .ok (.boolean value)
  | .boolean, other => .error s!"expected a boolean, found {quoted other}"
  | .integer, .number value =>
    if isInteger value then .ok (.integer value)
    else .error s!"expected an integer, found {quoted (.number value)}"
  | .integer, other => .error s!"expected an integer, found {quoted other}"

def digitsOf (token : List Char) : Option Nat :=
  if token.isEmpty || !token.all Char.isDigit then none
  else some (token.foldl (fun value digit => 10 * value + (digit.toNat - '0'.toNat)) 0)

def integerOf (token : String) : Option Int :=
  match token.toList with
  | '-' :: digits => (digitsOf digits).map fun value => -(value : Int)
  | digits => (digitsOf digits).map fun value => (value : Int)

def coerceEnv (quoted : String → String) (entry : KeyEntry) (name raw : String) :
    Except String KeyValue :=
  let token := jsTrim raw
  match entry.type with
  | .boolean =>
    let lower := token.toLower
    if lower = "true" || lower = "1" then .ok (.boolean true)
    else if lower = "false" || lower = "0" then .ok (.boolean false)
    else .error s!"env {name}={quoted token} is not a boolean"
  | .integer =>
    match integerOf token with
    | some value => .ok (.integer (JsDouble.round value))
    | none => .error s!"env {name}={quoted token} is not an integer"

inductive KeySource where
  | file | default | env
  deriving DecidableEq

structure ResolvedKey where
  entry : KeyEntry
  value : Option KeyValue := none
  /-- `false` where the value could not be established. -/
  known : Bool := false
  source : Option KeySource := none
  sourcePath : Option String := none
  setIn : List (String × KeyValue) := []
  caveats : List String := []
  reason : Option String := none

/-- The spellings that `JSON.stringify` gives to what is quoted in a message. -/
structure Quoting where
  scalar : YamlScalar → String
  text : String → String

variable (quoting : Quoting)

/-- A layer that sets the key to something that cannot be used. -/
def ResolvedKey.reset (resolved : ResolvedKey) (caveat reason : String) : ResolvedKey :=
  { resolved with
    caveats := resolved.caveats ++ [caveat]
    known := false
    value := none
    source := none
    sourcePath := none
    reason := some reason }

def applyLayer (entry : KeyEntry) (resolved : ResolvedKey) (layer : Layer) : ResolvedKey :=
  match layer.doc with
  | none => resolved
  | some doc =>
    if doc.fatal.isSome then resolved
    else
      match doc.get entry.key with
      | none =>
        match doc.refusalFor entry.key with
        | none => resolved
        | some refusal =>
          resolved.reset s!"{layer.descriptor.path}: {refusal}"
            s!"a config layer sets this key in a form ARF cannot read ({layer.descriptor.path})"
      | some raw =>
        match checkType quoting.scalar entry raw with
        | .error reason =>
          resolved.reset s!"{layer.descriptor.path}: {reason}"
            s!"a config layer sets this key to a value of the wrong type ({layer.descriptor.path})"
        | .ok value =>
          { resolved with
            value := some value
            known := true
            source := some .file
            sourcePath := some layer.descriptor.path
            reason := none
            setIn := resolved.setIn ++ [(layer.descriptor.path, value)] }

def applyDefault (entry : KeyEntry) (anySourceReadable : Bool) (resolved : ResolvedKey) :
    ResolvedKey :=
  if resolved.known || resolved.reason.isSome then resolved
  else if anySourceReadable then
    { resolved with value := some entry.default, known := true, source := some .default }
  else { resolved with reason := some "no governance config source was readable" }

/-- The layer of the environment, which outranks every file. -/
def applyEnv (entry : KeyEntry) (envLayer : EnvLayer) (resolved : ResolvedKey) : ResolvedKey :=
  match entry.env with
  | none => resolved
  | some name =>
    if !envLayer.observable then
      { resolved with caveats := resolved.caveats ++ [envLayerUnobservable] }
    else
      match envLayer.value name with
      | none => resolved
      | some raw =>
        if jsTrim raw = "" then resolved
        else
          match coerceEnv quoting.text entry name raw with
          | .ok value =>
            { resolved with
              value := some value
              known := true
              source := some .env
              sourcePath := envLayer.source
              reason := none
              setIn := resolved.setIn ++ [("env:" ++ name, value)] }
          | .error reason =>
            { resolved with known := false, value := none, source := none, reason := some reason }

def resolveKey (entry : KeyEntry) (layers : List Layer) (envLayer : EnvLayer)
    (anySourceReadable : Bool) : ResolvedKey :=
  applyEnv quoting entry envLayer <| applyDefault entry anySourceReadable <|
    layers.foldl (applyLayer quoting entry) { entry }

structure GovernanceConfig where
  sources : List LayerDescriptor
  envLayer : EnvLayer
  keys : KeyId → ResolvedKey
  anySourceReadable : Bool

def readGovernanceConfig (files : List LayerSpec) (envFile : EnvFile) : GovernanceConfig :=
  let layers := files.map readLayer
  let anySourceReadable := layers.any (·.descriptor.readable)
  let envLayer := readEnvSnapshot envFile
  { sources := layers.map (·.descriptor)
    envLayer
    keys := fun id => resolveKey quoting (governanceKey id) layers envLayer anySourceReadable
    anySourceReadable }

end

inductive PathId where
  | hammer | daemonClean | pythonBackstop
  deriving DecidableEq

inductive DaemonId where
  | watcher | followUp | autoMerge
  deriving DecidableEq

inductive Expected where
  | equals (value : KeyValue)
  | atLeast (bound : Rat)

structure Requirement where
  keyId : KeyId
  expected : Expected

structure MergePath where
  id : PathId
  msm : Bool
  executor : DaemonId
  requires : List Requirement
  armedByLiveness : Bool := false
  modifiers : List KeyId

def mergePaths : List MergePath :=
  [{ id := .hammer
     msm := true
     executor := .watcher
     requires := [⟨.enabled, .equals (.boolean true)⟩,
       ⟨.autonomousMergeExecutionEnabled, .equals (.boolean true)⟩,
       ⟨.hammerLifetimeCeiling, .atLeast 1⟩]
     modifiers := [.strictNonBlockingRemediation, .branchProtectionRequired] },
   { id := .daemonClean
     msm := true
     executor := .watcher
     requires := [⟨.enabled, .equals (.boolean true)⟩,
       ⟨.autonomousMergeExecutionEnabled, .equals (.boolean true)⟩]
     modifiers := [.strictMode, .branchProtectionRequired] },
   { id := .pythonBackstop
     msm := false
     executor := .autoMerge
     requires := []
     armedByLiveness := true
     modifiers := [] }]

inductive ExecutorState where
  | up | stale | down | unknown
  deriving DecidableEq

/-- A daemon's probe, with the moment of its start where that is a date. -/
structure Executor where
  state : ExecutorState := .unknown
  startedAt : Option Int := none

def ExecutorState.live : ExecutorState → Bool
  | .up | .stale => true
  | .down | .unknown => false

inductive Verdict where
  | satisfied | disarms | unknown
  deriving DecidableEq

def Requirement.satisfiedBy (requirement : Requirement) (value : Option KeyValue) : Bool :=
  match requirement.expected, value with
  | .equals expected, some value => value = expected
  | .atLeast bound, some (.integer value) => isInteger value && value.atLeast bound
  | _, _ => false

structure Evaluated where
  requirement : Requirement
  verdict : Verdict

def evaluateRequirement (keys : KeyId → ResolvedKey) (requirement : Requirement) : Evaluated :=
  let key := keys requirement.keyId
  { requirement
    verdict :=
      if !key.known then .unknown
      else if requirement.satisfiedBy key.value then .satisfied
      else .disarms }

inductive Adoption where
  | notApplicable | unproven | adopted | pendingBounce
  deriving DecidableEq

def adoptionOf (executor : Executor) (configChangedAt : Option Int) (envLayerObservable : Bool)
    (disarmingKeys : List ResolvedKey) : Adoption :=
  if disarmingKeys.any (·.entry.env.isSome) && !envLayerObservable then .unproven
  else
    match executor.startedAt, configChangedAt with
    | some startedAt, some changedAt =>
      if changedAt ≤ startedAt then .adopted else .pendingBounce
    | _, _ => .unproven

structure Armed where
  armed : Option Bool
  requirements : List Evaluated := []
  disarmedBy : List KeyId := []

def deriveArmed (path : MergePath) (keys : KeyId → ResolvedKey) (executor : Executor) : Armed :=
  if path.armedByLiveness then
    if executor.state = .unknown then { armed := none }
    else { armed := some executor.state.live }
  else
    let requirements := path.requires.map (evaluateRequirement keys)
    let disarming := requirements.filter (·.verdict = .disarms)
    if !disarming.isEmpty then
      { armed := some false
        requirements
        disarmedBy := disarming.map (·.requirement.keyId) }
    else if requirements.any (·.verdict = .unknown) then { armed := none, requirements }
    else { armed := some true, requirements }

inductive Effective where
  | unknown | mergingPossible | stopped
  deriving DecidableEq

def deriveEffective (armed : Option Bool) (path : MergePath) (executor : Executor)
    (adoption : Adoption) : Effective :=
  match armed with
  | none => .unknown
  | some true => .mergingPossible
  | some false =>
    if path.armedByLiveness then .stopped
    else if executor.state.live then
      if adoption = .adopted then .stopped else .unknown
    else if executor.state = .down then .stopped
    else .unknown

structure DerivedPath where
  path : MergePath
  executor : Executor
  armed : Armed
  adoption : Adoption
  effective : Effective

def derivePath (keys : KeyId → ResolvedKey) (daemons : DaemonId → Executor)
    (envLayerObservable : Bool) (configChangedAt : Option Int) (path : MergePath) :
    DerivedPath :=
  let executor := daemons path.executor
  let armed := deriveArmed path keys executor
  let adoption :=
    if armed.armed = some false && !path.armedByLiveness then
      adoptionOf executor configChangedAt envLayerObservable (armed.disarmedBy.map keys)
    else .notApplicable
  { path, executor, armed, adoption
    effective := deriveEffective armed.armed path executor adoption }

def deriveMergePaths (keys : KeyId → ResolvedKey) (daemons : DaemonId → Executor)
    (envLayerObservable : Bool) (configChangedAt : Option Int) : List DerivedPath :=
  mergePaths.map (derivePath keys daemons envLayerObservable configChangedAt)

end AdversarialReview.Governance
