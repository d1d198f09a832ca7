import AdversarialReview.Governance.MergePaths
import AdversarialReview.Library.Interleaving

/-! The kill switch: its document, its store with lock and audit under many processes, and when no
flip is lost. -/

namespace AdversarialReview.Governance

/-- Who set one scope, when and why, and whether it is armed. -/
structure GateEntry where
  armed : Bool
  actor : Option String
  reason : Option String
  setAt : Option String

structure GatePathEntry extends GateEntry where
  missing : Bool

structure GateDocument where
  seq : Nat
  updatedAt : String
  master : GateEntry
  paths : PathId → GatePathEntry

def gateVersion : Rat := 1

def mergePathIds : List PathId := [.hammer, .daemonClean, .pythonBackstop]

def PathId.name : PathId → String
  | .hammer => "hammer"
  | .daemonClean => "daemon-clean"
  | .pythonBackstop => "python-backstop"

def topLevelKeys : List String := ["gateVersion", "seq", "updatedAt", "master", "paths"]

def entryKeys : List String := ["armed", "actor", "reason", "at"]

structure GateChange where
  scope : Option PathId
  armed : Bool
  actor : String
  reason : String
  setAt : String

def GateChange.entry (change : GateChange) : GateEntry where
  armed := change.armed
  actor := some change.actor
  reason := some change.reason
  setAt := some change.setAt

def createGateDocument (change : GateChange) : GateDocument where
  seq := 1
  updatedAt := change.setAt
  master := change.entry
  paths := fun _ => ⟨change.entry, false⟩

/-- The next sequence number; past the safe integers it is the double next to it. -/
def nextSeq (seq : Nat) : Nat :=
  if seq < 9007199254740992 then seq + 1
  else if seq < 18014398509481984 && seq / 2 % 2 = 1 then seq + 2
  else seq

def applyGateChange (document : GateDocument) (change : GateChange) : GateDocument where
  seq := nextSeq document.seq
  updatedAt := change.setAt
  master := if change.scope = none then change.entry else document.master
  paths := fun id => if change.scope = some id then ⟨change.entry, false⟩ else document.paths id

def textJson (value : Option String) : Json :=
  (value.map Json.str).getD .null

def GateEntry.toJson (entry : GateEntry) : Json :=
  .obj [("armed", .bool entry.armed), ("actor", textJson entry.actor),
    ("reason", textJson entry.reason), ("at", textJson entry.setAt)]

/-- The form on disk; what is missing is only a note of this side. -/
def serializeGateDocument (document : GateDocument) : Json :=
  .obj [("gateVersion", .num gateVersion), ("seq", .num document.seq),
    ("updatedAt", .str document.updatedAt), ("master", document.master.toJson),
    ("paths", .obj (mergePathIds.map fun id => (id.name, (document.paths id).toJson)))]

def GateDocument.written (document : GateDocument) : GateDocument :=
  { document with paths := fun id => { document.paths id with missing := false } }

def requireText (value : Option Json) : Except String (Option String) :=
  match value with
  | none | some .null => .ok none
  | some (.str text) => .ok (some text)
  | some _ => .error "gate_malformed"

def requireEntry (raw : Option Json) : Except String GateEntry :=
  match raw with
  | some (.obj members) =>
    if members.any fun member => member.1 ∉ entryKeys then .error "gate_malformed"
    else match Json.bool? (Json.member raw "armed") with
      | none => .error "gate_malformed"
      | some armed => do
        let actor ← requireText (Json.member raw "actor")
        let reason ← requireText (Json.member raw "reason")
        let setAt ← requireText (Json.member raw "at")
        return ⟨armed, actor, reason, setAt⟩
  | _ => .error "gate_malformed"

def requirePath (paths : Json) (id : PathId) : Except String GatePathEntry :=
  match paths.get? id.name with
  | none => .ok ⟨⟨false, none, none, none⟩, true⟩
  | some raw => do return ⟨← requireEntry (some raw), false⟩

def positiveInteger (value : Option Json) : Option Nat :=
  match value with
  | some (.num value) => if value.den = 1 && 1 ≤ value.num then some value.num.toNat else none
  | _ => none

def normalizeGateDocument (raw : Json) : Except String GateDocument :=
  match raw with
  | .obj members =>
    if members.any fun member => member.1 ∉ topLevelKeys then .error "gate_malformed"
    else if Json.finite (raw.get? "gateVersion") ≠ some gateVersion then
      .error "gate_version_unsupported"
    else match positiveInteger (raw.get? "seq"), (raw.get? "updatedAt").bind Json.text?,
        raw.get? "paths" with
      | some seq, some updatedAt, some (.obj paths) =>
        if paths.any fun member => member.1 ∉ mergePathIds.map PathId.name then
          .error "gate_malformed"
        else do
          let hammer ← requirePath (.obj paths) .hammer
          let daemonClean ← requirePath (.obj paths) .daemonClean
          let pythonBackstop ← requirePath (.obj paths) .pythonBackstop
          let master ← requireEntry (raw.get? "master")
          return ⟨seq, updatedAt, master, fun
            | .hammer => hammer
            | .daemonClean => daemonClean
            | .pythonBackstop => pythonBackstop⟩
      | _, _, _ => .error "gate_malformed"
  | _ => .error "gate_malformed"

def GateDocument.effective (document : GateDocument) (id : PathId) : Bool :=
  document.master.armed && (document.paths id).armed && !(document.paths id).missing

/-- What the panel shows of a path. -/
structure GatePathDescription where
  id : PathId
  armed : Bool
  masterArmed : Bool
  effective : Bool
  effectiveReason : String
  actor : Option String
  reason : Option String
  setAt : Option String

def describeGatePath (document : GateDocument) (id : PathId) : GatePathDescription :=
  let entry := document.paths id
  { id
    armed := entry.armed
    masterArmed := document.master.armed
    effective := document.effective id
    effectiveReason :=
      if entry.missing then
        "the gate document carries no entry for this path; the reader refuses it"
      else if !document.master.armed then "the master scope is disarmed (emergency stop)"
      else if entry.armed then "armed"
      else "this path is disarmed"
    actor := entry.actor
    reason := entry.reason
    setAt := entry.setAt }

def describeGateDocument (document : GateDocument) : List GatePathDescription :=
  mergePathIds.map (describeGatePath document)

/-- What a merge path is told. -/
structure GateDecision where
  allowed : Bool
  code : String
  failClosed : Bool
  setBy : Option String := none
  setAt : Option String := none
  setReason : Option String := none

/-- Parse a document for a decision: every field that the decision depends on is typed. -/
def parseGateDocument (parsed : Json) : Except String Json :=
  if (Json.plain (some parsed)).isNone then .error "gate-malformed"
  else if Json.finite (parsed.get? "gateVersion") ≠ some gateVersion then
    .error "gate-version-unsupported"
  else if (Json.plain (parsed.get? "master")).isNone ||
      (Json.bool? (Json.member (parsed.get? "master") "armed")).isNone then .error "gate-malformed"
  else if (Json.plain (parsed.get? "paths")).isNone then .error "gate-malformed"
  else .ok parsed

def attributed (decision : GateDecision) (entry : Option Json) : GateDecision :=
  { decision with
    setBy := (Json.member entry "actor").bind Json.text?
    setAt := (Json.member entry "at").bind Json.text?
    setReason := (Json.member entry "reason").bind Json.text? }

def decideFromDocument (document : Json) (id : PathId) : GateDecision :=
  let master := document.get? "master"
  if Json.isBool (Json.member master "armed") false then
    attributed ⟨false, "disarmed-master", false, none, none, none⟩ master
  else
    let entry := Json.member (document.get? "paths") id.name
    match Json.plain entry, Json.bool? (Json.member entry "armed") with
    | some _, some armed =>
      attributed ⟨armed, if armed then "armed" else "disarmed-path", false, none, none, none⟩ entry
    | _, _ => ⟨false, "path-absent", true, none, none, none⟩

def decidePath (file : Option Json) (id : PathId) : GateDecision :=
  match file with
  | none => ⟨false, "gate-missing", true, none, none, none⟩
  | some parsed =>
    match parseGateDocument parsed with
    | .error code => ⟨false, code, true, none, none, none⟩
    | .ok document => decideFromDocument document id

structure GateLock where
  creator : Nat
  written : Bool

/-- A call, with its attribution and the moment that it stamps. -/
inductive GateCall where
  | init (change : GateChange)
  | set (change : GateChange) (expectedSeq : Option Nat)

/-- A write of the document: the first one, or a change of one scope. -/
inductive GateFlip where
  | created (change : GateChange)
  | changed (change : GateChange)

def applyFlip (document : Option GateDocument) : GateFlip → GateDocument
  | .created change => createGateDocument change
  | .changed change =>
    match document with
    | some document => applyGateChange document.written change
    | none => createGateDocument change

def documentAfter (base : Option GateDocument) (flips : List GateFlip) : Option GateDocument :=
  flips.foldl (fun document flip => some (applyFlip document flip)) base

/-- A line of the audit; the line of an `init` has no posture. -/
structure GateAudit where
  seq : Nat
  flip : GateFlip
  effective : Option (PathId → Bool)

inductive StoreStage where
  | idle
  /-- `#lock`, before the exclusive create, and before the owner is written into the new file. -/
  | locking (call : GateCall)
  | created (call : GateCall)
  /-- The lock was there: before it is read, before its process is probed, before its age is
  looked at, and before it is unlinked. -/
  | refused (call : GateCall)
  | judging (call : GateCall) (holder : Nat)
  | unreadable (call : GateCall)
  | breaking (call : GateCall)
  /-- With the lock, before the document is read, before it is replaced and before the audit. -/
  | locked (call : GateCall)
  | writing (flip : GateFlip) (next : GateDocument)
  | appending (flip : GateFlip) (next : GateDocument)
  /-- `#unlock`, before the lock is read and before it is unlinked. -/
  | unlocking (returns : Option (Nat × GateFlip))
  | unlinking (returns : Option (Nat × GateFlip))

structure GateWorld where
  /-- What the file held before the first step. -/
  base : Option GateDocument
  disk : Option Json
  lock : Option GateLock
  audit : List GateAudit
  alive : Nat → Bool
  stages : Nat → StoreStage
  /-- The writes so far, in their order. -/
  flips : List GateFlip
  /-- What the calls that wrote have returned: their sequence numbers and their writes. -/
  returned : List (Nat × GateFlip)

/-- A turn of a process: the call it starts when idle, and what the host answers. -/
structure GateMove where
  process : Nat
  call : GateCall
  dies : Bool := false
  /-- The attempts for the lock are used up. -/
  givesUp : Bool := false
  /-- The lock file is older than the age at which nobody is waited for. -/
  abandoned : Bool := false

def startGate (base : Option GateDocument) : GateWorld where
  base := base
  disk := base.map serializeGateDocument
  lock := none
  audit := []
  alive := fun _ => true
  stages := fun _ => .idle
  flips := []
  returned := []

namespace GateWorld

/-- The document that the writes so far have made. -/
def document (world : GateWorld) : Option GateDocument :=
  documentAfter world.base world.flips

def read (world : GateWorld) : Except String (Option GateDocument) :=
  match world.disk with
  | none => .ok none
  | some raw => (normalizeGateDocument raw).map some

def goesOn (world : GateWorld) (process : Nat) (stage : StoreStage) : GateWorld :=
  { world with stages := Function.update world.stages process stage }

def decide_ (world : GateWorld) (call : GateCall) : StoreStage :=
  match call, world.read with
  | .init change, .ok none =>
    .writing (.created change) (createGateDocument change)
  | .set change expectedSeq, .ok (some current) =>
    if expectedSeq.all fun expected => current.seq = expected then
      .writing (.changed change) (applyGateChange current change)
    else .unlocking none
  | _, _ => .unlocking none

def auditOf (flip : GateFlip) (next : GateDocument) : GateAudit where
  seq := next.seq
  flip := flip
  effective := match flip with
    | .created _ => none
    | .changed _ => some next.effective

def ends (world : GateWorld) (process : Nat) (returns : Option (Nat × GateFlip)) : GateWorld :=
  { world with returned := world.returned ++ returns.toList }.goesOn process .idle

def retries (world : GateWorld) (move : GateMove) (call : GateCall) : GateWorld :=
  world.goesOn move.process (if move.givesUp then .idle else .locking call)

/-- The lock file counts as abandoned. One that is there and still empty is by a process that died
before it wrote into it, since live ones write at once. -/
def looksAbandoned (world : GateWorld) (abandoned : Bool) : Bool :=
  match world.lock with
  | none => true
  | some lock => abandoned && (lock.written || !world.alive lock.creator)

def act (world : GateWorld) (move : GateMove) : GateWorld :=
  match world.stages move.process with
  | .idle => world.goesOn move.process (.locking move.call)
  | .locking call =>
    match world.lock with
    | none => { world with lock := some ⟨move.process, false⟩ }.goesOn move.process (.created call)
    | some _ => world.goesOn move.process (.refused call)
  | .created call =>
    -- The write goes into the file that was opened, whatever the name now stands for.
    let lock := world.lock.map fun lock =>
      if lock.creator = move.process then { lock with written := true } else lock
    { world with lock }.goesOn move.process (.locked call)
  | .refused call =>
    match world.lock with
    | some ⟨holder, true⟩ => world.goesOn move.process (.judging call holder)
    | _ => world.goesOn move.process (.unreadable call)
  | .judging call holder =>
    if world.alive holder then world.retries move call
    else world.goesOn move.process (.breaking call)
  | .unreadable call =>
    if world.looksAbandoned move.abandoned then world.goesOn move.process (.breaking call)
    else world.retries move call
  | .breaking call => { world with lock := none }.retries move call
  | .locked call => world.goesOn move.process (world.decide_ call)
  | .writing flip next =>
    { world with
      disk := some (serializeGateDocument next)
      flips := world.flips ++ [flip] }.goesOn move.process (.appending flip next)
  | .appending flip next =>
    { world with audit := world.audit ++ [auditOf flip next] }.goesOn move.process
      (.unlocking (some (next.seq, flip)))
  | .unlocking returns =>
    match world.lock with
    | some ⟨creator, true⟩ =>
      if creator = move.process then world.goesOn move.process (.unlinking returns)
      else world.ends move.process returns
    | _ => world.ends move.process returns
  | .unlinking returns => { world with lock := none }.ends move.process returns

def step (world : GateWorld) (move : GateMove) : GateWorld :=
  if move.dies then { world with alive := Function.update world.alive move.process false }
  else if world.alive move.process then world.act move
  else world

def run (world : GateWorld) (moves : List GateMove) : GateWorld :=
  moves.foldl step world

def lockDead (world : GateWorld) : Bool :=
  world.lock.all fun lock => !world.alive lock.creator

def countable (world : GateWorld) : Bool :=
  world.document.all fun document => document.seq < 9007199254740992

def carefulStep (world : GateWorld) (move : GateMove) : Bool :=
  match world.stages move.process with
  | .breaking _ => world.lockDead
  | .writing _ _ => world.countable
  | _ => true

def careful (world : GateWorld) : List GateMove → Bool
  | [] => true
  | move :: moves => world.carefulStep move && (world.step move).careful moves

end GateWorld

/-- What the writes mean: the master scope and every path are armed on their own. -/
structure Posture where
  master : Bool
  path : PathId → Bool

namespace Posture

def allows (posture : Posture) (id : PathId) : Bool :=
  posture.master && posture.path id

def set (posture : Posture) (scope : Option PathId) (armed : Bool) : Posture :=
  match scope with
  | none => { posture with master := armed }
  | some id => { posture with path := Function.update posture.path id armed }

def of (document : GateDocument) : Posture where
  master := document.master.armed
  path := fun id => (document.paths id).armed && !(document.paths id).missing

def flip (posture : Option Posture) : GateFlip → Posture
  | .created change => ⟨change.armed, fun _ => change.armed⟩
  | .changed change =>
    match posture with
    | some posture => posture.set change.scope change.armed
    | none => ⟨change.armed, fun _ => change.armed⟩

def after (base : Option Posture) (flips : List GateFlip) : Option Posture :=
  flips.foldl (fun posture next => some (flip posture next)) base

end Posture

def basePosture (base : Option GateDocument) : Option Posture :=
  base.map fun document => Posture.of document.written

def allowsPath (posture : Option Posture) (id : PathId) : Bool :=
  posture.any fun posture => posture.allows id

@[simp] theorem requireText_textJson (value : Option String) :
    requireText (some (textJson value)) = .ok value := by
  cases value <;> rfl

@[simp] theorem requireEntry_toJson (entry : GateEntry) :
    requireEntry (some entry.toJson) = .ok entry := by
  simp [requireEntry, GateEntry.toJson, entryKeys, Json.member, Json.get?, Json.bool?,
    Bind.bind, Except.bind, Pure.pure, Except.pure]

theorem positiveInteger_natCast {value : Nat} (positive : 1 ≤ value) :
    positiveInteger (some (.num value)) = some value := by
  simp [positiveInteger, positive]

theorem requirePath_serialize (document : GateDocument) (id : PathId) :
    requirePath (.obj (mergePathIds.map fun id => (id.name, (document.paths id).toJson))) id =
      .ok { document.paths id with missing := false } := by
  cases id <;>
    simp [requirePath, mergePathIds, PathId.name, Json.get?, Bind.bind, Except.bind, Pure.pure,
      Except.pure]

theorem normalizeGateDocument_serialize (document : GateDocument) (positive : 1 ≤ document.seq) :
    normalizeGateDocument (serializeGateDocument document) = .ok document.written := by
  have keys : ((mergePathIds.map fun id => (id.name, (document.paths id).toJson)).any
      fun member => member.1 ∉ mergePathIds.map PathId.name) = false := by
    simp [mergePathIds, PathId.name]
  have seq := positiveInteger_natCast positive
  simp only [normalizeGateDocument, serializeGateDocument]
  rw [if_neg (by simp [topLevelKeys])]
  simp only [Json.get?, List.find?, String.reduceEq, decide_false, decide_true, Option.map_some,
    seq, Json.text?, Option.bind_some, keys, requirePath_serialize, requireEntry_toJson,
    Json.finite, ne_eq, not_true_eq_false, if_false, Bool.false_eq_true]
  simp only [Bind.bind, Except.bind, Pure.pure, Except.pure,
    GateDocument.written, Except.ok.injEq, GateDocument.mk.injEq, true_and]
  funext id
  cases id <;> rfl

theorem decidePath_serialize (document : GateDocument) (id : PathId) :
    (decidePath (some (serializeGateDocument document)) id).allowed =
      document.written.effective id := by
  have parsed : parseGateDocument (serializeGateDocument document) =
      .ok (serializeGateDocument document) := by
    simp [parseGateDocument, serializeGateDocument, Json.plain, Json.get?, Json.finite,
      GateEntry.toJson, Json.member, Json.bool?]
  simp only [decidePath, parsed]
  have master : Json.isBool (Json.member ((serializeGateDocument document).get? "master") "armed")
      false = !document.master.armed := by
    cases armed : document.master.armed <;>
      simp [serializeGateDocument, Json.get?, Json.member, GateEntry.toJson, Json.isBool,
        Json.bool?, armed]
  have entry : Json.member ((serializeGateDocument document).get? "paths") id.name =
      some (document.paths id).toJson := by
    cases id <;>
      simp [serializeGateDocument, Json.get?, Json.member, mergePathIds, PathId.name]
  simp only [decideFromDocument, master, entry]
  -- The master scope decides first, and then the entry of the path.
  cases armed : document.master.armed with
  | false =>
    simp [GateDocument.effective, GateDocument.written, armed, attributed]
  | true =>
    simp [GateDocument.effective, GateDocument.written, armed, attributed, Json.plain,
      GateEntry.toJson, Json.member, Json.get?, Json.bool?]

theorem effective_eq (document : GateDocument) (id : PathId) :
    document.effective id = (Posture.of document).allows id := by
  simp [GateDocument.effective, Posture.of, Posture.allows, Bool.and_assoc]

theorem posture_applyGateChange (document : GateDocument) (change : GateChange) :
    Posture.of (applyGateChange document.written change).written =
      (Posture.of document.written).set change.scope change.armed := by
  cases scope : change.scope with
  | none => simp [Posture.of, Posture.set, applyGateChange, GateDocument.written, scope,
      GateChange.entry]
  | some id =>
    simp only [Posture.of, Posture.set, applyGateChange, GateDocument.written, scope,
      GateChange.entry, Option.some.injEq, reduceCtorEq, if_false, Posture.mk.injEq, true_and]
    funext other
    by_cases same : other = id
    · simp [same]
    · simp [same, Ne.symm same]

theorem posture_documentAfter (base : Option GateDocument) (flips : List GateFlip) :
    basePosture (documentAfter base flips) = Posture.after (basePosture base) flips := by
  induction flips generalizing base with
  | nil => rfl
  | cons flip flips ih =>
    change basePosture (documentAfter (some (applyFlip base flip)) flips) =
      Posture.after (some (Posture.flip (basePosture base) flip)) flips
    rw [ih]
    -- One write changes the document as it changes the posture.
    have one : basePosture (some (applyFlip base flip)) =
        some (Posture.flip (basePosture base) flip) := by
      cases flip with
      | created change =>
        simp [basePosture, applyFlip, Posture.flip, createGateDocument, GateDocument.written,
          Posture.of, GateChange.entry]
      | changed change =>
        cases base with
        | none =>
          simp [basePosture, applyFlip, Posture.flip, createGateDocument, GateDocument.written,
            Posture.of, GateChange.entry]
        | some document =>
          simp [basePosture, applyFlip, Posture.flip, posture_applyGateChange]
    rw [one]

theorem documentAfter_append (base : Option GateDocument) (flips : List GateFlip)
    (flip : GateFlip) :
    documentAfter base (flips ++ [flip]) = some (applyFlip (documentAfter base flips) flip) := by
  simp [documentAfter, List.foldl_append]

theorem restored (posture : Posture) (armed : posture.master = true) :
    (posture.set none false).set none true = posture := by
  cases posture
  simp_all [Posture.set]

section

/-- The sequence number that a file holds, none counting as zero. -/
def seqOf (document : Option GateDocument) : Nat :=
  (document.map GateDocument.seq).getD 0

def StoreStage.holds : StoreStage → Bool
  | .created _ | .locked _ | .writing _ _ | .appending _ _ | .unlocking _ | .unlinking _ => true
  | _ => false

def LastFlip (world : GateWorld) (seq : Nat) (flip : GateFlip) : Prop :=
  seq = seqOf world.document ∧ (∃ earlier, world.flips = earlier ++ [flip]) ∧
    seq ∉ world.returned.map Prod.fst

/-- What the stage of a live process says of the files. -/
def StageStands (world : GateWorld) : StoreStage → Prop
  | .writing flip next => next = applyFlip world.document flip ∧
      match flip with
      | .created _ => world.document = none
      | .changed _ => world.document.isSome = true
  | .appending flip next => LastFlip world next.seq flip ∧ world.document = some next
  | .unlocking returns | .unlinking returns =>
    ∀ seq flip, returns = some (seq, flip) → LastFlip world seq flip
  | _ => True

def Audited (world : GateWorld) (line : GateAudit) : Prop :=
  ∀ effective, line.effective = some effective → ∃ earlier later,
    world.flips = earlier ++ later ∧ line.seq = seqOf world.base + earlier.length ∧
      ∀ id, effective id = allowsPath (Posture.after (basePosture world.base) earlier) id

/-- The files are what the writes made them, and what was returned is among the writes. -/
structure Ledger (world : GateWorld) : Prop where
  disk : world.disk = world.document.map serializeGateDocument
  positive : ∀ document, world.document = some document → 1 ≤ document.seq
  counted : seqOf world.document = seqOf world.base + world.flips.length
  distinct : (world.returned.map Prod.fst).Nodup
  reflected : ∀ entry ∈ world.returned, ∃ earlier later,
    world.flips = earlier ++ entry.2 :: later ∧ entry.1 = seqOf world.base + earlier.length + 1
  audited : ∀ line ∈ world.audit, Audited world line

structure StoreInv (world : GateWorld) : Prop where
  owned : ∀ {process}, world.alive process = true → (world.stages process).holds = true →
    ∃ lock, world.lock = some lock ∧ lock.creator = process
  stands : ∀ process, world.alive process = true → StageStands world (world.stages process)
  ledger : Ledger world

variable {world : GateWorld} {process : Nat} {stage : StoreStage}

theorem stands_of_idle (idle : stage.holds = false) : StageStands world stage := by
  cases stage <;> trivial

theorem StageStands.same (stands : StageStands world stage) (lock : Option GateLock)
    (audit : List GateAudit) (alive : Nat → Bool) (stages : Nat → StoreStage) :
    StageStands { world with lock, audit, alive, stages } stage := by
  cases stage <;> exact stands

theorem Ledger.same (ledger : Ledger world) (lock : Option GateLock) (alive : Nat → Bool)
    (stages : Nat → StoreStage) : Ledger { world with lock, alive, stages } :=
  ⟨ledger.disk, ledger.positive, ledger.counted, ledger.distinct, ledger.reflected,
    ledger.audited⟩

theorem Ledger.read_eq (ledger : Ledger world) :
    world.read = .ok (world.document.map GateDocument.written) := by
  unfold GateWorld.read
  rw [ledger.disk]
  cases made : world.document with
  | none => rfl
  | some document =>
    simp only [Option.map_some, normalizeGateDocument_serialize document
      (ledger.positive document made)]
    rfl

theorem storeInv_start {base : Option GateDocument}
    (valid : ∀ document, base = some document → 1 ≤ document.seq) :
    StoreInv (startGate base) where
  owned := by
    intro process _ holds
    cases holds
  stands := fun process _ => trivial
  ledger := by
    refine ⟨rfl, valid, rfl, List.nodup_nil, ?_, ?_⟩
    · intro entry listed
      cases listed
    · intro line listed
      cases listed

namespace StoreInv

theorem ownedLock (inv : StoreInv world) : OwnedLock (world.lock.map GateLock.creator) world.alive
    fun process => (world.stages process).holds := by
  intro process living holds
  obtain ⟨lock, there, own⟩ := inv.owned living holds
  rw [there, Option.map_some, own]

theorem others (inv : StoreInv world) (lives : world.alive process = true)
    (holds : (world.stages process).holds = true) {other : Nat} (distinct : other ≠ process)
    (living : world.alive other = true) : (world.stages other).holds = false :=
  inv.ownedLock.others lives holds distinct living

theorem nobody (inv : StoreInv world) (dead : world.lockDead = true) {other : Nat}
    (living : world.alive other = true) : (world.stages other).holds = false := by
  apply inv.ownedLock.nobody ?_ living
  rw [Option.all_map]
  exact dead

theorem alone {stages : Nat → StoreStage}
    (same : world.stages = Function.update stages process stage)
    (others : ∀ other, other ≠ process → world.alive other = true → (stages other).holds = false)
    (owned : stage.holds = true → ∃ lock, world.lock = some lock ∧ lock.creator = process)
    (stands : StageStands world stage) (ledger : Ledger world) : StoreInv world := by
  have idle : ∀ other, other ≠ process → world.alive other = true →
      (world.stages other).holds = false := by
    intro other distinct living
    rw [same, Function.update_of_ne distinct]
    exact others other distinct living
  have own : world.stages process = stage := by rw [same, Function.update_self]
  refine ⟨?_, ?_, ledger⟩
  · intro other living holds
    by_cases distinct : other = process
    · subst distinct
      rw [own] at holds
      exact owned holds
    · rw [idle other distinct living] at holds
      cases holds
  · intro other living
    by_cases distinct : other = process
    · rw [distinct, own]
      exact stands
    · exact stands_of_idle (idle other distinct living)

theorem without (inv : StoreInv world) (still : stage.holds = false) :
    StoreInv (world.goesOn process stage) := by
  have kept {other : Nat} (holds : ((world.goesOn process stage).stages other).holds = true) :
      (world.goesOn process stage).stages other = world.stages other := by
    by_cases distinct : other = process
    · simp only [GateWorld.goesOn, distinct, Function.update_self, still] at holds
      cases holds
    · simp only [GateWorld.goesOn, Function.update_of_ne distinct]
  refine ⟨?_, ?_, inv.ledger.same _ _ _⟩
  · intro other living holds
    have same := kept holds
    rw [same] at holds
    exact inv.owned living holds
  · intro other living
    by_cases holds : ((world.goesOn process stage).stages other).holds = true
    · rw [kept holds]
      exact (inv.stands other living).same _ _ _ _
    · exact stands_of_idle (by simpa using holds)

theorem dies (inv : StoreInv world) :
    StoreInv { world with alive := Function.update world.alive process false } := by
  have lived {other : Nat}
      (living : Function.update world.alive process false other = true) :
      world.alive other = true := by
    by_cases same : other = process
    · simp [same] at living
    · simpa [Function.update_of_ne same] using living
  refine ⟨?_, ?_, inv.ledger.same _ _ _⟩
  · intro other living holds
    exact inv.owned (lived living) holds
  · intro other living
    exact (inv.stands other (lived living)).same _ _ _ _

end StoreInv

end

section

variable {world : GateWorld} {move : GateMove}

def GateWorld.wrote (world : GateWorld) (flip : GateFlip) (next : GateDocument) : GateWorld :=
  { world with
    disk := some (serializeGateDocument next)
    flips := world.flips ++ [flip] }

variable {flip : GateFlip} {next : GateDocument}

theorem document_wrote (made : next = applyFlip world.document flip) :
    (world.wrote flip next).document = some next := by
  rw [made]
  exact documentAfter_append world.base world.flips flip

theorem seq_wrote
    (stands : StageStands world (.writing flip next)) (countable : world.countable = true) :
    next.seq = seqOf world.document + 1 := by
  obtain ⟨made, fits⟩ := stands
  cases flip with
  | created change =>
    have none_ : world.document = none := fits
    rw [made, none_]
    rfl
  | changed change =>
    obtain ⟨document, some_⟩ := Option.isSome_iff_exists.mp fits
    simp only [GateWorld.countable, some_, Option.all_some, decide_eq_true_eq] at countable
    rw [made, some_]
    change nextSeq document.seq = document.seq + 1
    simp only [nextSeq]
    rw [if_pos countable]

theorem Ledger.wrote (ledger : Ledger world)
    (stands : StageStands world (.writing flip next)) (countable : world.countable = true) :
    Ledger (world.wrote flip next) := by
  have made := document_wrote stands.1
  have seq := seq_wrote stands countable
  constructor
  · rw [made]
    rfl
  · intro document same
    rw [made] at same
    cases same
    omega
  · have counted := ledger.counted
    rw [made]
    change next.seq = seqOf world.base + (world.flips ++ [flip]).length
    rw [List.length_append, List.length_singleton]
    omega
  · exact ledger.distinct
  · intro entry listed
    obtain ⟨earlier, later, flips, number⟩ := ledger.reflected entry listed
    refine ⟨earlier, later ++ [flip], ?_, number⟩
    change world.flips ++ [flip] = _
    rw [flips]
    simp
  · intro line listed effective some_
    obtain ⟨earlier, later, flips, number, posture⟩ := ledger.audited line listed effective some_
    refine ⟨earlier, later ++ [flip], ?_, number, posture⟩
    change world.flips ++ [flip] = _
    rw [flips]
    simp

theorem Ledger.appended (ledger : Ledger world)
    (stands : StageStands world (.appending flip next)) :
    Ledger { world with audit := world.audit ++ [GateWorld.auditOf flip next] } := by
  obtain ⟨⟨seq, last, fresh⟩, made⟩ := stands
  refine ⟨ledger.disk, ledger.positive, ledger.counted, ledger.distinct, ledger.reflected, ?_⟩
  intro line listed
  rcases List.mem_append.mp listed with early | own
  · exact ledger.audited line early
  · rw [List.mem_singleton] at own
    subst own
    intro effective some_
    refine ⟨world.flips, [], (List.append_nil _).symm, ?_, ?_⟩
    · exact seq.trans ledger.counted
    · intro id
      cases flip with
      | created change => cases some_
      | changed change =>
        cases some_
        rw [← posture_documentAfter]
        change next.effective id = allowsPath (basePosture world.document) id
        obtain ⟨earlier, flips⟩ := last
        -- A write leaves no path missing, so its own posture is the one that is read back.
        have whole : next.written = next := by
          have again : world.document = some (applyFlip (documentAfter world.base earlier)
              (.changed change)) := by
            rw [GateWorld.document, flips]
            exact documentAfter_append _ _ _
          rw [made] at again
          cases again
          cases documentAfter world.base earlier with
          | none => rfl
          | some before =>
            simp only [applyFlip, applyGateChange, GateDocument.written, GateDocument.mk.injEq,
              true_and]
            funext id
            by_cases own : change.scope = some id
            · simp [own]
            · simp [own]
        rw [made, effective_eq]
        simp only [basePosture, Option.map_some, whole, allowsPath, Option.any_some]

theorem Ledger.returned (ledger : Ledger world) {returns : Option (Nat × GateFlip)}
    (last : ∀ seq flip, returns = some (seq, flip) → LastFlip world seq flip) :
    Ledger { world with returned := world.returned ++ returns.toList } := by
  cases returns with
  | none =>
    refine ⟨ledger.disk, ledger.positive, ledger.counted, ?_, ?_, ledger.audited⟩
    · simpa using ledger.distinct
    · simpa using ledger.reflected
  | some entry =>
    obtain ⟨number, ⟨earlier, flips⟩, fresh⟩ := last entry.1 entry.2 rfl
    refine ⟨ledger.disk, ledger.positive, ledger.counted, ?_, ?_, ledger.audited⟩
    · simp only [Option.toList_some, List.map_append, List.map_cons, List.map_nil]
      rw [List.nodup_append]
      refine ⟨ledger.distinct, List.nodup_singleton _, ?_⟩
      intro before listed after own
      rw [List.mem_singleton] at own
      rw [own]
      rintro rfl
      exact fresh listed
    · intro other listed
      rcases List.mem_append.mp listed with early | own
      · exact ledger.reflected other early
      · simp only [Option.toList_some, List.mem_singleton] at own
        subst own
        refine ⟨earlier, [], flips, ?_⟩
        change other.1 = seqOf world.base + earlier.length + 1
        rw [number, ledger.counted, flips, List.length_append, List.length_singleton]
        omega

theorem Ledger.below (ledger : Ledger world) {seq : Nat}
    (listed : seq ∈ world.returned.map Prod.fst) : seq ≤ seqOf world.document := by
  rw [List.mem_map] at listed
  obtain ⟨entry, among, rfl⟩ := listed
  obtain ⟨earlier, later, flips, number⟩ := ledger.reflected entry among
  have counted := ledger.counted
  rw [flips, List.length_append, List.length_cons] at counted
  omega

theorem stands_decide (ledger : Ledger world) (call : GateCall) :
    StageStands world (world.decide_ call) := by
  have read := ledger.read_eq
  unfold GateWorld.decide_
  rw [read]
  cases call with
  | init change =>
    cases made : world.document with
    | none =>
      refine ⟨?_, made⟩
      rw [made]
      rfl
    | some document =>
      intro seq flip same
      cases same
  | set change expectedSeq =>
    cases made : world.document with
    | none =>
      intro seq flip same
      cases same
    | some document =>
      simp only [Option.map_some]
      split
      · refine ⟨?_, ?_⟩
        · rw [made]
          rfl
        · change world.document.isSome = true
          rw [made]
          rfl
      · intro seq flip same
        cases same

end

section

variable {world : GateWorld} {move : GateMove}

theorem owned_written {lock : Option GateLock} {process : Nat}
    (owned : ∃ held, lock = some held ∧ held.creator = process) :
    ∃ held, (lock.map fun held =>
      if held.creator = process then { held with written := true } else held) = some held ∧
        held.creator = process := by
  obtain ⟨held, there, own⟩ := owned
  refine ⟨{ held with written := true }, ?_, own⟩
  rw [there, Option.map_some, if_pos own]

namespace StoreInv

section

variable (inv : StoreInv world)
include inv

theorem retries (call : GateCall) : StoreInv (world.retries move call) := by
  unfold GateWorld.retries
  apply inv.without
  split <;> rfl

theorem unlocked (dead : world.lockDead = true) :
    StoreInv { world with lock := none } where
  owned := by
    intro process living holds
    have idle := inv.nobody dead living
    rw [idle] at holds
    cases holds
  stands := fun process living => (inv.stands process living).same _ _ _ _
  ledger := inv.ledger.same _ _ _

theorem keeps {process : Nat} {stage : StoreStage}
    (lives : world.alive process = true) (holds : (world.stages process).holds = true)
    {lock : Option GateLock} (owned : ∃ held, lock = some held ∧ held.creator = process)
    (stands : StageStands world stage) :
    StoreInv ({ world with lock }.goesOn process stage) := by
  apply alone rfl
  · exact fun other distinct living => inv.others lives holds distinct living
  · exact fun _ => owned
  · exact stands.same _ _ _ _
  · exact inv.ledger.same _ _ _

theorem ends {process : Nat} (lives : world.alive process = true)
    (holds : (world.stages process).holds = true) {returns : Option (Nat × GateFlip)}
    (last : ∀ seq flip, returns = some (seq, flip) → LastFlip world seq flip)
    (lock : Option GateLock) : StoreInv ({ world with lock }.ends process returns) := by
  apply alone rfl
  · exact fun other distinct living => inv.others lives holds distinct living
  · intro held
    cases held
  · trivial
  · exact (inv.ledger.returned last).same _ _ _

theorem wrote {process : Nat} {flip : GateFlip} {next : GateDocument}
    (lives : world.alive process = true) (at' : world.stages process = .writing flip next)
    (countable : world.countable = true) :
    StoreInv ((world.wrote flip next).goesOn process (.appending flip next)) := by
  have holds : (world.stages process).holds = true := by rw [at']; rfl
  have stands := inv.stands process lives
  rw [at'] at stands
  have ledger := inv.ledger.wrote stands countable
  have made := document_wrote stands.1
  apply alone rfl
  · exact fun other distinct living => inv.others lives holds distinct living
  · exact fun _ => inv.owned lives holds
  · refine ⟨⟨?_, ⟨world.flips, rfl⟩, ?_⟩, made⟩
    · change next.seq = seqOf (world.wrote flip next).document
      rw [made]
      rfl
    · intro listed
      have below := inv.ledger.below listed
      have seq := seq_wrote stands countable
      omega
  · exact ledger.same _ _ _

/-- A careful step of a live process keeps the invariant; the cases are its stages. -/
theorem act (lives : world.alive move.process = true)
    (careful : world.carefulStep move = true) : StoreInv (world.act move) := by
  have carried {stage : StoreStage} (at' : world.stages move.process = stage)
      (holding : stage.holds = true) : (world.stages move.process).holds = true := by
    rw [at']
    exact holding
  have stands := inv.stands move.process lives
  cases at' : world.stages move.process with
  | idle =>
    simp only [GateWorld.act, at']
    exact inv.without rfl
  | locking call =>
    simp only [GateWorld.act, at']
    cases free : world.lock with
    | none =>
      have dead : world.lockDead = true := by simp [GateWorld.lockDead, free]
      apply alone rfl
      · exact fun other _ living => inv.nobody dead living
      · exact fun _ => ⟨_, rfl, rfl⟩
      · trivial
      · exact inv.ledger.same _ _ _
    | some lock => exact inv.without rfl
  | created call =>
    have holds := carried at' rfl
    simp only [GateWorld.act, at']
    exact inv.keeps lives holds (owned_written (inv.owned lives holds)) trivial
  | refused call =>
    simp only [GateWorld.act, at']
    split
    · exact inv.without rfl
    · exact inv.without rfl
  | judging call holder =>
    simp only [GateWorld.act, at']
    split
    · exact inv.retries call
    · exact inv.without rfl
  | unreadable call =>
    simp only [GateWorld.act, at']
    split
    · exact inv.without rfl
    · exact inv.retries call
  | breaking call =>
    simp only [GateWorld.carefulStep, at'] at careful
    simp only [GateWorld.act, at']
    exact (inv.unlocked careful).retries call
  | locked call =>
    have holds := carried at' rfl
    simp only [GateWorld.act, at']
    exact inv.keeps lives holds (inv.owned lives holds) (stands_decide inv.ledger call)
  | writing flip next =>
    simp only [GateWorld.carefulStep, at'] at careful
    simp only [GateWorld.act, at']
    exact inv.wrote lives at' careful
  | appending flip next =>
    have holds := carried at' rfl
    rw [at'] at stands
    simp only [GateWorld.act, at']
    apply alone rfl
    · exact fun other distinct living => inv.others lives holds distinct living
    · exact fun _ => inv.owned lives holds
    · intro seq own same
      cases same
      exact stands.1
    · exact (inv.ledger.appended stands).same _ _ _
  | unlocking returns =>
    have holds := carried at' rfl
    rw [at'] at stands
    simp only [GateWorld.act, at']
    split
    · split
      · exact inv.keeps lives holds (inv.owned lives holds) stands
      · exact inv.ends lives holds stands world.lock
    · exact inv.ends lives holds stands world.lock
  | unlinking returns =>
    have holds := carried at' rfl
    rw [at'] at stands
    simp only [GateWorld.act, at']
    exact inv.ends lives holds stands none

theorem step (careful : world.carefulStep move = true) :
    StoreInv (world.step move) := by
  unfold GateWorld.step
  split
  · exact inv.dies
  · split
    · rename_i lives
      exact inv.act lives careful
    · exact inv

theorem run {moves : List GateMove}
    (careful : world.careful moves = true) : StoreInv (world.run moves) := by
  induction moves generalizing world with
  | nil => exact inv
  | cons move moves ih =>
    simp only [GateWorld.careful, Bool.and_eq_true] at careful
    exact ih (inv.step careful.1) careful.2

end

end StoreInv

end

section

variable {world : GateWorld}

/-- Every write counts, every call that wrote is reflected, and all that a path, the panel and the
audit are told is the posture after the writes. -/
structure NoFlipLost (world : GateWorld) : Prop where
  counted : seqOf world.document = seqOf world.base + world.flips.length
  distinct : (world.returned.map Prod.fst).Nodup
  reflected : ∀ entry ∈ world.returned, ∃ earlier later,
    world.flips = earlier ++ entry.2 :: later ∧ entry.1 = seqOf world.base + earlier.length + 1
  decided : ∀ id, (decidePath world.disk id).allowed =
    allowsPath (Posture.after (basePosture world.base) world.flips) id
  readable : world.read = .ok (world.document.map GateDocument.written)
  described : ∀ document, world.read = .ok (some document) →
    ∀ description ∈ describeGateDocument document, description.effective =
      allowsPath (Posture.after (basePosture world.base) world.flips) description.id
  audited : ∀ line ∈ world.audit, Audited world line
  restores : ∀ posture, Posture.after (basePosture world.base) world.flips = some posture →
    posture.master = true → (posture.set none false).set none true = posture

theorem noFlipLost_of_inv (inv : StoreInv world) : NoFlipLost world where
  counted := inv.ledger.counted
  distinct := inv.ledger.distinct
  reflected := inv.ledger.reflected
  decided := by
    intro id
    rw [← posture_documentAfter, inv.ledger.disk]
    change _ = allowsPath (basePosture world.document) id
    cases world.document with
    | none => rfl
    | some document =>
      rw [Option.map_some, decidePath_serialize, effective_eq]
      rfl
  readable := inv.ledger.read_eq
  described := by
    intro document read description listed
    rw [inv.ledger.read_eq] at read
    rw [← posture_documentAfter]
    change _ = allowsPath (basePosture world.document) description.id
    simp only [describeGateDocument, List.mem_map] at listed
    obtain ⟨id, -, rfl⟩ := listed
    change document.effective id = allowsPath (basePosture world.document) id
    cases made : world.document with
    | none =>
      rw [made] at read
      cases read
    | some before =>
      rw [made] at read
      cases read
      rw [effective_eq]
      rfl
  audited := inv.ledger.audited
  restores := fun posture _ armed => restored posture armed

/-- Any number of processes, dying at any step, lose no flip where every step is careful. -/
theorem no_flip_lost (base : Option GateDocument) (moves : List GateMove)
    (valid : ∀ document, base = some document → 1 ≤ document.seq)
    (careful : (startGate base).careful moves = true) :
    NoFlipLost ((startGate base).run moves) :=
  noFlipLost_of_inv ((storeInv_start valid).run careful)

def stopAll : GateChange := ⟨none, false, "operator", "stop", "2026-11-19T08:00:00.000Z"⟩

def installed : GateDocument :=
  createGateDocument ⟨none, true, "operator", "install", "2026-11-19T07:00:00.000Z"⟩

def stopTurn (process : Nat) : GateMove := { process, call := .set stopAll none }

/-- One process dies with the lock, and another one breaks it and stops all paths. -/
def brokenOnce : List GateMove :=
  List.replicate 3 (stopTurn 0) ++ [{ stopTurn 0 with dies := true }] ++
    List.replicate 13 (stopTurn 1)

theorem no_flip_lost_after_death : NoFlipLost ((startGate (some installed)).run brokenOnce) :=
  no_flip_lost (some installed) brokenOnce (by intro document same; cases same; decide) (by decide)

/-- Two processes find the lock of a dead one; the second breaks the lock that the first has. -/
def brokenTwice : List GateMove :=
  List.replicate 3 (stopTurn 0) ++ [{ stopTurn 0 with dies := true }] ++
    List.replicate 4 (stopTurn 1) ++ List.replicate 4 (stopTurn 2) ++
    List.replicate 4 (stopTurn 1) ++ List.replicate 4 (stopTurn 2) ++
    List.replicate 5 (stopTurn 1) ++ List.replicate 5 (stopTurn 2)

theorem live_lock_broken_loses_flip :
    ¬ ∀ base moves, (∀ document, base = some document → 1 ≤ document.seq) →
      NoFlipLost ((startGate base).run moves) := by
  intro holds
  have kept := (holds (some installed) brokenTwice
    (by intro document same; cases same; decide)).distinct
  revert kept
  decide

end

end AdversarialReview.Governance
