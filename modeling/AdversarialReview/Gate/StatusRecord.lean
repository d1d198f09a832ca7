import AdversarialReview.Library.Interleaving
import AdversarialReview.Library.JsText

/-! Publishing the gate's status: a record of the last post keeps an equal one from being sent, and
when it tells the truth. -/

namespace AdversarialReview.Gate

/-- The pull request and head a status is about. -/
structure GateCoordinates where
  repo : String
  prNumber : Rat
  headSha : String

structure GateDecision where
  context : Option String := none
  state : String
  description : Option String
  reason : Option String

structure CommitStatus where
  headSha : String
  context : String
  state : String
  description : String

structure GateRecord where
  context : String
  repo : String
  prNumber : Rat
  headSha : String
  state : String
  description : Option String
  reason : Option String
  postedAt : String

/-- The environment a call reads. -/
structure GateEnv where
  statusContext : Option String := none
  statusDisabled : String := ""
  githubToken : String := ""

structure PublishRequest where
  decision : GateDecision
  env : GateEnv

/-- How a call ends. -/
inductive PublishResult where
  | missingInput
  | disabledByConfig
  | unchanged (record : GateRecord)
  | posted (record : GateRecord)

def pathChar (char : Char) : Bool :=
  char.isAlphanum || char ∈ ['.', '_', '-']

def sanitizePathSegment (value : String) : String :=
  String.ofList (value.toList.map fun char => if pathChar char then char else '-')

def normalizePrNumber (prNumber : Rat) : Except String Nat :=
  if prNumber.den = 1 ∧ 0 < prNumber.num then .ok prNumber.num.toNat
  else .error "Invalid PR number for adversarial gate status"

def gateRecordPrefix (repo : String) (prNumber : Nat) : String :=
  -- A slash in the slug becomes two underscores before anything else is replaced.
  let flat := String.ofList (repo.toList.flatMap fun char =>
    if char = '/' then ['_', '_'] else [char])
  sanitizePathSegment flat ++ "-pr-" ++ toString prNumber ++ "-"

def gateRecordName (repo : String) (prNumber : Nat) (headSha : String) : String :=
  gateRecordPrefix repo prNumber ++
    sanitizePathSegment (if headSha = "" then "no-sha" else headSha) ++ ".json"

def matchesPublishedDecision (record : GateRecord) (decision : GateDecision) (context : String) :
    Bool :=
  record.context = context && record.state = decision.state &&
    record.description = decision.description && record.reason = decision.reason &&
    record.postedAt ≠ ""

def defaultGateContext : String := "agent-os/adversarial-gate"

def contextChar (char : Char) : Bool :=
  char.isAlphanum || char ∈ ['.', '_', '/', '-']

def resolveGateStatusContext (env : GateEnv) : Except String String :=
  match env.statusContext with
  | none => .ok defaultGateContext
  | some raw =>
    if raw.toList.any fun char => char = '\r' || char = '\n' then
      .error "ADV_GATE_STATUS_CONTEXT must not contain CR or LF characters"
    else
      let trimmed := jsTrim raw
      if trimmed = "" then .ok defaultGateContext
      else if trimmed.toList.any fun char => char.toNat ≤ 0x1f || char.toNat = 0x7f then
        .error "ADV_GATE_STATUS_CONTEXT must not contain control characters"
      else if trimmed.toList.all contextChar && trimmed.length ≤ 100 then .ok trimmed
      else .error
        "ADV_GATE_STATUS_CONTEXT must match [A-Za-z0-9._/-]+ and be at most 100 characters"

def gateContext (request : PublishRequest) : Except String String :=
  match request.decision.context with
  | none | some "" => resolveGateStatusContext request.env
  | some context => .ok context

def postedStatus (headSha context : String) (decision : GateDecision) : CommitStatus :=
  { headSha, context, state := decision.state
    description := decision.description.getD "undefined" }

/-- How a post through the adapter ends. -/
inductive AdapterAnswer where
  | ran
  | declined
  | unsupported
  | failed (message : String)
  deriving DecidableEq

/-- The effects of a call, each of them one atomic step. -/
inductive GateEffect : Type → Type where
  | readRecord (name : String) : GateEffect (Option GateRecord)
  | adapterPost (status : CommitStatus) : GateEffect AdapterAnswer
  | ghPost (status : CommitStatus) : GateEffect (Except String Unit)
  | mkdir : GateEffect (Except String Unit)
  | now : GateEffect String
  | writeRecord (name : String) (record : GateRecord) : GateEffect (Except String Unit)
  | prune (start keep : String) : GateEffect (Except String Unit)

def splitSlug (repo : String) : Option (String × String) :=
  let owner := repo.toList.takeWhile (· ≠ '/')
  let name := ((repo.toList.dropWhile (· ≠ '/')).drop 1).takeWhile (· ≠ '/')
  if owner.isEmpty || name.isEmpty then none else some (.ofList owner, .ofList name)

def isRecordOf (start name : String) : Bool :=
  start.toList.isPrefixOf name.toList && ".json".toList.isSuffixOf name.toList

def postStatus (status : CommitStatus) : Prog GateEffect Unit := do
  let handled ← match (← .perform (.adapterPost status)) with
    | .ran => pure true
    | .declined | .unsupported => pure false
    | .failed message => .fail message
  if handled then pure ()
  else
    let answered ← .perform (.ghPost status)
    .raise answered

def recordPost (coordinates : GateCoordinates) (number : Nat) (context : String)
    (decision : GateDecision) : Prog GateEffect GateRecord := do
  .raise (← .perform .mkdir)
  let postedAt ← .perform .now
  let record : GateRecord :=
    { context, repo := coordinates.repo, prNumber := number, headSha := coordinates.headSha
      state := decision.state, description := decision.description, reason := decision.reason
      postedAt }
  let name := gateRecordName coordinates.repo number coordinates.headSha
  .raise (← .perform (.writeRecord name record))
  .raise (← .perform (.prune (gateRecordPrefix coordinates.repo number) name))
  pure record

def publishUnlessRecorded (coordinates : GateCoordinates) (number : Nat) (context : String)
    (request : PublishRequest) (existing : Option GateRecord) : Prog GateEffect PublishResult :=
  match existing.filter fun record =>
      matchesPublishedDecision record request.decision context with
  | some record => pure (.unchanged record)
  | none =>
    if request.env.githubToken = "" then
      .fail "GITHUB_TOKEN is required to publish adversarial gate status"
    else if (splitSlug coordinates.repo).isNone then
      .fail ("Invalid repo slug: " ++ coordinates.repo)
    else do
      postStatus (postedStatus coordinates.headSha context request.decision)
      let record ← recordPost coordinates number context request.decision
      pure (.posted record)

section

variable [JsText]

def statusDisabled (env : GateEnv) : Bool :=
  JsText.toLowerCase (jsTrim env.statusDisabled) = "true"

def publishAdversarialGateStatus (coordinates : GateCoordinates) (request : PublishRequest) :
    Prog GateEffect PublishResult :=
  if coordinates.repo = "" || coordinates.headSha = "" || request.decision.state = "" then
    pure .missingInput
  else do
    let number ← .raise (normalizePrNumber coordinates.prNumber)
    let context ← .raise (gateContext request)
    if statusDisabled request.env then pure .disabledByConfig
    else
      let existing ← .perform
        (.readRecord (gateRecordName coordinates.repo number coordinates.headSha))
      publishUnlessRecorded coordinates number context request existing

end

/-! Calls at work: any number of publishers over one directory of records and one GitHub. -/

structure GateRead where
  caller : Nat
  record : Option GateRecord
  posts : List CommitStatus

structure GateWorld where
  files : String → Option GateRecord := fun _ => none
  /-- Every status GitHub accepted, oldest first. -/
  posts : List CommitStatus := []
  /-- The call whose accepted post has no record yet. -/
  unrecorded : Option Nat := none
  reads : List GateRead := []

structure GateAnswers where
  unreadable : Bool := false
  adapter : AdapterAnswer := .declined
  gh : Except String Unit := .ok ()
  disk : Except String Unit := .ok ()
  clock : String := "1970-01-01T00:00:00.000Z"
  /-- A failing effect had its effect all the same. -/
  landed : Bool := false

def GateWorld.accept (world : GateWorld) (caller : Nat) (status : CommitStatus) : GateWorld :=
  { world with posts := world.posts ++ [status], unrecorded := some caller }

/-- A record is written in the place of an older one. -/
def GateWorld.write (world : GateWorld) (caller : Nat) (name : String) (record : GateRecord) :
    GateWorld :=
  { world with
    files := Function.update world.files name (some record)
    unrecorded := if world.unrecorded = some caller then none else world.unrecorded }

/-- Records are dropped by their names. -/
def GateWorld.drop (world : GateWorld) (doomed : String → Bool) : GateWorld :=
  { world with files := fun name => if doomed name then none else world.files name }

def performGate (answers : GateAnswers) (caller : Nat) :
    {β : Type} → GateEffect β → GateWorld → β × GateWorld
  | _, .readRecord name, world =>
    let record := if answers.unreadable then none else world.files name
    (record, { world with reads := world.reads ++ [{ caller, record, posts := world.posts }] })
  | _, .adapterPost status, world =>
    (answers.adapter, if answers.adapter = .ran ∨ answers.landed then world.accept caller status
      else world)
  | _, .ghPost status, world =>
    (answers.gh, if answers.gh.isOk ∨ answers.landed then world.accept caller status else world)
  | _, .mkdir, world => (answers.disk, world)
  | _, .now, world => (answers.clock, world)
  | _, .writeRecord name record, world =>
    (answers.disk, if answers.disk.isOk ∨ answers.landed then world.write caller name record
      else world)
  | _, .prune start keep, world =>
    (answers.disk, world.drop fun name => isRecordOf start name && name ≠ keep &&
      (answers.disk.isOk || answers.landed))

/-- The publishers; a merged or closed pull request's records are deleted by others. -/
def gateSystem : Interleaved Nat GateAnswers String GateWorld GateEffect where
  perform := performGate
  external := fun start world =>
    world.drop (isRecordOf start)
  crash := fun _ world => world

def startPublishing [JsText] (coordinates : GateCoordinates) (calls : Nat → PublishRequest) :
    Interleaved.Config Nat GateWorld GateEffect where
  shared := {}
  threads := fun caller =>
    (publishAdversarialGateStatus coordinates (calls caller)).bind fun _ => .pure ()

open Interleaved

def lastPosted (posts : List CommitStatus) (headSha context : String) : Option CommitStatus :=
  (posts.filter fun status => status.headSha = headSha && status.context = context).getLast?

/-- A record says what GitHub shows. -/
def Truthful (posts : List CommitStatus) (headSha : String) (record : GateRecord) : Prop :=
  lastPosted posts headSha record.context = some
    { headSha, context := record.context, state := record.state
      description := record.description.getD "undefined" }

theorem lastPosted_last {posts : List CommitStatus} {status : CommitStatus}
    (last : posts.getLast? = some status) :
    lastPosted posts status.headSha status.context = some status := by
  -- The list ends with the status, and the filter keeps it.
  obtain ⟨before, rfl⟩ := List.getLast?_eq_some_iff.mp last
  simp [lastPosted, List.filter_append]

def recordsFirst (caller : Nat) {β : Type} (effect : GateEffect β) (world : GateWorld) : Bool :=
  match effect with
  | .readRecord _ | .adapterPost _ | .ghPost _ | .writeRecord _ _ =>
    world.unrecorded.all fun other => other = caller
  | _ => true

structure GateInv (name headSha : String) (world : GateWorld) : Prop where
  recorded : world.unrecorded = none → ∀ record, world.files name = some record →
    Truthful world.posts headSha record
  read : ∀ reading ∈ world.reads, ∀ record, reading.record = some record →
    Truthful reading.posts headSha record

structure GateRely (caller : Nat) (world later : GateWorld) : Prop where
  posts : world.unrecorded = some caller →
    later.unrecorded = some caller ∧ later.posts = world.posts
  idle : world.unrecorded ≠ some caller → later.unrecorded ≠ some caller

theorem GateRely.refl (caller : Nat) (world : GateWorld) : GateRely caller world world :=
  ⟨fun own => ⟨own, rfl⟩, fun idle => idle⟩

theorem GateRely.trans {caller : Nat} {first second third : GateWorld}
    (one : GateRely caller first second) (two : GateRely caller second third) :
    GateRely caller first third := by
  refine ⟨?_, fun idle => two.idle (one.idle idle)⟩
  intro own
  obtain ⟨still, same⟩ := one.posts own
  obtain ⟨last, again⟩ := two.posts still
  exact ⟨last, again.trans same⟩

theorem GateRely.of_eq {caller : Nat} {world later : GateWorld}
    (posts : later.posts = world.posts) (unrecorded : later.unrecorded = world.unrecorded) :
    GateRely caller world later :=
  ⟨fun own => ⟨unrecorded.trans own, posts⟩, fun idle => unrecorded ▸ idle⟩

theorem GateInv.drop {name headSha : String} {world : GateWorld} (inv : GateInv name headSha world)
    (doomed : String → Bool) : GateInv name headSha (world.drop doomed) := by
  refine ⟨?_, inv.read⟩
  intro settled record stored
  simp only [GateWorld.drop] at stored
  split at stored
  · cases stored
  · exact inv.recorded settled record stored

def gateDiscipline (name headSha : String) : Discipline gateSystem where
  allowed := fun _ caller {_} effect world => recordsFirst caller effect world = true
  inv := GateInv name headSha
  rely := GateRely
  rely_refl := GateRely.refl
  rely_trans := GateRely.trans
  external_ok := fun _ _ inv => ⟨inv.drop _, fun _ => .of_eq rfl rfl⟩
  crash_ok := fun _ world inv => ⟨inv, fun other _ => .refl other world⟩

section

variable {name headSha : String} {caller : Nat}

variable {world : GateWorld}

theorem first_or_own (first : world.unrecorded.all (fun other => other = caller) = true) :
    world.unrecorded = none ∨ world.unrecorded = some caller := by
  cases owner : world.unrecorded with
  | none => exact .inl rfl
  | some other =>
    rw [owner] at first
    simp only [Option.all_some, decide_eq_true_eq] at first
    exact .inr (by rw [first])

theorem GateRely.accepted {other : Nat} (apart : other ≠ caller)
    (first : world.unrecorded = none ∨ world.unrecorded = some caller) (status : CommitStatus) :
    GateRely other world (world.accept caller status) := by
  refine ⟨?_, ?_⟩
  · intro own
    rcases first with none | mine
    · rw [none] at own
      cases own
    · rw [mine] at own
      exact absurd (Option.some.inj own).symm apart
  · intro _ same
    exact apart (Option.some.inj same).symm

theorem GateInv.accepted (inv : GateInv name headSha world)
    (status : CommitStatus) : GateInv name headSha (world.accept caller status) :=
  ⟨fun settled => (by cases settled), inv.read⟩

def Posting (caller : Nat) (status : CommitStatus) (world : GateWorld) : Prop :=
  world.unrecorded = some caller → world.posts.getLast? = some status

def Posted (caller : Nat) (status : CommitStatus) (world : GateWorld) : Prop :=
  world.unrecorded = some caller ∧ world.posts.getLast? = some status

variable {status : CommitStatus}

theorem Posted.later {world later : GateWorld}
    (posted : Posted caller status world) (meanwhile : GateRely caller world later) :
    Posted caller status later := by
  obtain ⟨own, same⟩ := meanwhile.posts posted.1
  exact ⟨own, same ▸ posted.2⟩

theorem Posting.later {world later : GateWorld}
    (posting : Posting caller status world) (meanwhile : GateRely caller world later) :
    Posting caller status later := by
  intro own
  by_cases before : world.unrecorded = some caller
  · exact (Posted.later ⟨before, posting before⟩ meanwhile).2
  · exact absurd own (meanwhile.idle before)

theorem posted_accept (world : GateWorld) (status : CommitStatus) :
    Posted caller status (world.accept caller status) :=
  ⟨rfl, by simp [GateWorld.accept]⟩

theorem accept_ok (accepted : Prop)
    [Decidable accepted] (inv : GateInv name headSha world)
    (first : world.unrecorded.all (fun other => other = caller) = true)
    (posting : Posting caller status world) :
    GateInv name headSha (if accepted then world.accept caller status else world) ∧
    (∀ other, other ≠ caller → GateRely other world
      (if accepted then world.accept caller status else world)) ∧
    Posting caller status (if accepted then world.accept caller status else world) := by
  split
  · exact ⟨inv.accepted status, fun other apart => .accepted apart (first_or_own first) status,
      fun _ => (posted_accept world status).2⟩
  · exact ⟨inv, fun other _ => .refl other world, posting⟩

theorem safe_ghPost (posting : Posting caller status world) :
    Safe (gateDiscipline name headSha) caller
      ((Prog.perform (.ghPost status)).bind fun answered => .raise answered)
      (fun result last => result = .ok () → Posted caller status last) world := by
  intro later meanwhile inv answers first
  obtain ⟨kept, others, posts⟩ := accept_ok (answers.gh.isOk ∨ answers.landed)
    inv first (posting.later meanwhile)
  refine ⟨kept, others, ?_⟩
  simp only [gateSystem, performGate]
  cases answered : answers.gh with
  | error message =>
    intro last _ done
    cases done
  | ok value =>
    -- What the command answers well, GitHub has accepted.
    intro last rest _
    have accepted : Posted caller status (later.accept caller status) := posted_accept later status
    have landed : (Except.ok value : Except String Unit).isOk = true ∨ answers.landed = true :=
      .inl rfl
    rw [if_pos landed] at rest
    exact accepted.later rest

theorem safe_postStatus (posting : Posting caller status world) :
    Safe (gateDiscipline name headSha) caller (postStatus status)
      (fun result last => result = .ok () → Posted caller status last) world := by
  intro later meanwhile inv answers first
  obtain ⟨kept, others, posts⟩ := accept_ok (answers.adapter = .ran ∨ answers.landed)
    inv first (posting.later meanwhile)
  refine ⟨kept, others, ?_⟩
  simp only [gateSystem, performGate] at posts ⊢
  cases adapter : answers.adapter with
  | ran =>
    intro last rest _
    rw [if_pos (.inl rfl)] at rest
    exact (posted_accept later status).later rest
  | declined =>
    rw [adapter] at posts
    exact safe_ghPost posts
  | unsupported =>
    rw [adapter] at posts
    exact safe_ghPost posts
  | failed message =>
    intro last _ done
    cases done

theorem Posted.safe_ask {α β : Type} {effect : GateEffect β} {next : β → Prog GateEffect α}
    {ends : Except String α → GateWorld → Prop}
    (asks : ∀ answers state, (performGate answers caller effect state).2 = state)
    (posted : Posted caller status world) (then_ : ∀ answer later, Posted caller status later →
      Safe (gateDiscipline name headSha) caller (next answer) ends later) :
    Safe (gateDiscipline name headSha) caller (.step effect next) ends world := by
  intro later meanwhile inv answers _
  have same := asks answers later
  simp only [gateSystem]
  rw [same]
  exact ⟨inv, fun other _ => .refl other later, then_ _ later (posted.later meanwhile)⟩

theorem Posted.write {record : GateRecord}
    (posted : Posted caller status world) (inv : GateInv name headSha world)
    (describes : status = { headSha, context := record.context, state := record.state
                            description := record.description.getD "undefined" }) :
    GateInv name headSha (world.write caller name record) := by
  refine ⟨?_, inv.read⟩
  intro _ stored found
  simp only [GateWorld.write, Function.update_self, Option.some.injEq] at found
  subst found
  have shown := lastPosted_last posted.2
  rw [describes] at shown
  exact shown

theorem GateRely.written {other : Nat} (apart : other ≠ caller)
    (own : world.unrecorded = some caller) (file : String) (record : GateRecord) :
    GateRely other world (world.write caller file record) := by
  refine ⟨?_, ?_⟩
  · intro others
    rw [own] at others
    exact absurd (Option.some.inj others).symm apart
  · simp [GateWorld.write, own]

theorem safe_prune {α : Type} (start keep : String) (value : α) :
    Safe (gateDiscipline name headSha) caller
      ((Prog.perform (.prune start keep)).bind fun answered =>
        (Prog.raise answered).bind fun _ => .pure value)
      (fun _ _ => True) world := by
  intro later _ inv answers _
  refine ⟨inv.drop _, fun other _ => .of_eq rfl rfl, ?_⟩
  simp only [gateSystem, performGate]
  cases answers.disk with
  | error message => exact fun _ _ => trivial
  | ok _ => exact fun _ _ => trivial

variable {coordinates : GateCoordinates}

theorem safe_recordPost {number : Nat} {context : String} {decision : GateDecision}
    (posted : Posted caller (postedStatus coordinates.headSha context decision) world) :
    Safe (gateDiscipline (gateRecordName coordinates.repo number coordinates.headSha)
      coordinates.headSha) caller (recordPost coordinates number context decision)
      (fun _ _ => True) world := by
  refine posted.safe_ask (fun _ _ => rfl) fun made later posted => ?_
  cases made with
  | error message => exact fun _ _ => trivial
  | ok _ =>
    refine posted.safe_ask (fun _ _ => rfl) fun postedAt later posted => ?_
    -- The write is the step that everybody else waited for.
    intro last meanwhile inv answers _
    have still := posted.later meanwhile
    simp only [gateSystem, performGate]
    split
    · refine ⟨still.write inv rfl, fun other apart => .written apart still.1 _ _, ?_⟩
      cases answers.disk with
      | error message => exact fun _ _ => trivial
      | ok _ => exact safe_prune _ _ _
    · next unwritten =>
      refine ⟨inv, fun other _ => .refl other last, ?_⟩
      cases answered : answers.disk with
      | error message => exact fun _ _ => trivial
      | ok _ => simp [answered, Except.isOk, Except.toBool] at unwritten

theorem safe_publishUnlessRecorded {number : Nat}
    {context : String} {request : PublishRequest} {existing : Option GateRecord}
    (idle : world.unrecorded ≠ some caller) :
    Safe (gateDiscipline (gateRecordName coordinates.repo number coordinates.headSha)
      coordinates.headSha) caller
      (publishUnlessRecorded coordinates number context request existing)
      (fun _ _ => True) world := by
  unfold publishUnlessRecorded
  split
  · exact fun _ _ => trivial
  · split
    · exact fun _ _ => trivial
    · split
      · exact fun _ _ => trivial
      · refine Safe.bind ((safe_postStatus fun own => absurd own idle).mono ?_)
        intro result last ended
        cases result with
        | error message => trivial
        | ok _ =>
          have posted := ended last (GateRely.refl caller last) rfl
          refine Safe.bind ((safe_recordPost posted).mono ?_)
          intro result final _
          cases result with
          | error message => trivial
          | ok record => exact fun _ _ => trivial

variable [JsText]

theorem safe_publish {number : Nat}
    (numbered : normalizePrNumber coordinates.prNumber = .ok number) (request : PublishRequest)
    (idle : world.unrecorded ≠ some caller) :
    Safe (gateDiscipline (gateRecordName coordinates.repo number coordinates.headSha)
      coordinates.headSha) caller (publishAdversarialGateStatus coordinates request)
      (fun _ _ => True) world := by
  unfold publishAdversarialGateStatus
  split
  · exact fun _ _ => trivial
  · rw [numbered]
    cases gateContext request with
    | error message => exact fun _ _ => trivial
    | ok context =>
      simp only [Prog.raise_ok, Prog.bind_eq, Prog.pure_bind]
      split
      · exact fun _ _ => trivial
      · intro later meanwhile inv answers first
        have free : later.unrecorded = none :=
          (first_or_own first).resolve_right (meanwhile.idle idle)
        refine ⟨⟨inv.recorded, ?_⟩, fun other _ => .of_eq rfl rfl, ?_⟩
        · -- Nobody is recording, so what is read is truthful.
          intro reading listed record found
          simp only [gateSystem, performGate, List.mem_append, List.mem_singleton] at listed
          rcases listed with earlier | rfl
          · exact inv.read reading earlier record found
          · simp only at found
            split at found
            · cases found
            · exact inv.recorded free record found
        · exact safe_publishUnlessRecorded (meanwhile.idle idle)

end

/-- Every effect of a schedule comes after the record of the last accepted post. -/
def RecordsFirst (config : Config Nat GateWorld GateEffect)
    (moves : List (Move Nat GateAnswers String)) : Prop :=
  gateSystem.Meets (fun _ caller {_} effect world => recordsFirst caller effect world = true)
    config moves

instance (config : Config Nat GateWorld GateEffect) (moves : List (Move Nat GateAnswers String)) :
    Decidable (RecordsFirst config moves) :=
  inferInstanceAs (Decidable (gateSystem.Meets _ config moves))

theorem publishUnlessRecorded_unchanged {coordinates : GateCoordinates} {number : Nat}
    {context : String} {request : PublishRequest} {existing : Option GateRecord}
    {record : GateRecord}
    (ends : publishUnlessRecorded coordinates number context request existing =
      .pure (.unchanged record)) :
    existing = some record ∧ matchesPublishedDecision record request.decision context = true := by
  unfold publishUnlessRecorded at ends
  split at ends
  · next found =>
    cases ends
    exact Option.filter_eq_some_iff.mp found
  · split at ends
    · cases ends
    · split at ends <;> cases ends

/-- In a run that records first, a call ends as unchanged only where GitHub shows its decision. -/
theorem unchanged_is_shown [JsText] (coordinates : GateCoordinates)
    (calls : Nat → PublishRequest) (moves : List (Move Nat GateAnswers String))
    (first : RecordsFirst (startPublishing coordinates calls) moves) :
    ∀ reading ∈ (gateSystem.runMoves (startPublishing coordinates calls) moves).shared.reads,
      ∀ number context record, normalizePrNumber coordinates.prNumber = .ok number →
        gateContext (calls reading.caller) = .ok context →
        publishUnlessRecorded coordinates number context (calls reading.caller) reading.record =
          .pure (.unchanged record) →
        lastPosted reading.posts coordinates.headSha context =
          some (postedStatus coordinates.headSha context (calls reading.caller).decision) := by
  intro reading listed number context record numbered _ ends
  obtain ⟨found, same⟩ := publishUnlessRecorded_unchanged ends
  -- Every call is safe from the empty start, so the invariant holds wherever the run ends.
  have start : AllSafe (gateDiscipline (gateRecordName coordinates.repo number coordinates.headSha)
      coordinates.headSha) (startPublishing coordinates calls) := by
    refine ⟨⟨fun _ _ stored => (by cases stored), fun _ none => (by cases none)⟩, fun caller => ?_⟩
    refine Safe.bind ((safe_publish numbered (calls caller) (by simp [startPublishing])).mono ?_)
    intro result last _
    cases result with
    | error message => trivial
    | ok value => exact fun _ _ => trivial
  have truthful := (start.runMoves first).inv.read reading listed record found
  -- A matching record has the decision's context, state and description.
  simp only [matchesPublishedDecision, Bool.and_eq_true, decide_eq_true_eq] at same
  obtain ⟨⟨⟨⟨contexts, states⟩, descriptions⟩, -⟩, -⟩ := same
  rw [Truthful, contexts, states, descriptions] at truthful
  exact truthful

def publishing (state description : String) : PublishRequest :=
  { decision := { state, description := some description, reason := some "review" }
    env := { githubToken := "token" } }

def sampleHead : GateCoordinates := { repo := "acme/app", prNumber := 7, headSha := "a1" }

def wholeCall (caller : Nat) : List (Move Nat GateAnswers String) :=
  List.replicate 7 (.run caller {})

def repeats (decision : GateDecision) (reading : GateRead) : Bool :=
  (reading.record.filter fun record =>
    matchesPublishedDecision record decision defaultGateContext).isSome

/-- A decision that was published and recorded is found unchanged. -/
theorem unchanged_is_shown_again :
    letI := JsText.ascii
    ∃ reading ∈ (gateSystem.runMoves (startPublishing sampleHead fun _ =>
        publishing "failure" "findings") (wholeCall 0 ++ [.run 1 {}])).shared.reads,
      reading.caller = 1 ∧ lastPosted reading.posts "a1" defaultGateContext =
        some (postedStatus "a1" defaultGateContext (publishing "failure" "findings").decision) := by
  let _ := JsText.ascii
  have first : RecordsFirst (startPublishing sampleHead fun _ => publishing "failure" "findings")
      (wholeCall 0 ++ [.run 1 {}]) := by decide
  have told : ((gateSystem.runMoves (startPublishing sampleHead fun _ =>
      publishing "failure" "findings") (wholeCall 0 ++ [.run 1 {}])).shared.reads.any
        fun reading => reading.caller = 1 &&
          repeats (publishing "failure" "findings").decision reading) = true := by decide
  obtain ⟨reading, listed, told⟩ := List.any_eq_true.mp told
  simp only [repeats, Bool.and_eq_true, decide_eq_true_eq] at told
  obtain ⟨record, found⟩ := Option.isSome_iff_exists.mp told.2
  refine ⟨reading, listed, told.1, ?_⟩
  exact unchanged_is_shown sampleHead _ _ first reading listed 7 defaultGateContext record
    (by decide) (by decide) (by simp only [publishUnlessRecorded, found]; rfl)

/-- A crash between a post and its record keeps a failure from replacing the success it posted. -/
theorem failure_suppressed_after_crash :
    letI := JsText.ascii
    ∃ reading ∈ (gateSystem.runMoves (startPublishing sampleHead fun caller =>
        if caller = 1 then publishing "success" "clean" else publishing "failure" "findings")
        (wholeCall 0 ++ List.replicate 3 (.run 1 {}) ++ [.crash 1, .run 2 {}])).shared.reads,
      reading.caller = 2 ∧
      (∃ record, publishUnlessRecorded sampleHead 7 defaultGateContext
        (publishing "failure" "findings") reading.record = .pure (.unchanged record)) ∧
      (lastPosted reading.posts "a1" defaultGateContext).map (·.state) = some "success" := by
  let _ := JsText.ascii
  have told : ((gateSystem.runMoves (startPublishing sampleHead fun caller =>
      if caller = 1 then publishing "success" "clean" else publishing "failure" "findings")
      (wholeCall 0 ++ List.replicate 3 (.run 1 {}) ++ [.crash 1, .run 2 {}])).shared.reads.any
        fun reading => reading.caller = 2 &&
          repeats (publishing "failure" "findings").decision reading &&
          (lastPosted reading.posts "a1" defaultGateContext).map (·.state) = some "success") =
      true := by decide
  obtain ⟨reading, listed, told⟩ := List.any_eq_true.mp told
  simp only [repeats, Bool.and_eq_true, decide_eq_true_eq] at told
  obtain ⟨record, found⟩ := Option.isSome_iff_exists.mp told.1.2
  exact ⟨reading, listed, told.1.1, ⟨record, by simp only [publishUnlessRecorded, found]; rfl⟩,
    told.2⟩

end AdversarialReview.Gate
