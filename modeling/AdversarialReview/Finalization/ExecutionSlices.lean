import AdversarialReview.Proofs.Finalization.SlicePhases

/-! Series of calls of the execution slices, each from where the one before left everything: no
phase is refused them, unless an observation strands an entry. -/

namespace AdversarialReview

open Transaction Json Slices

inductive SliceCall where
  | run (fence : QueueFence) (entryId : String)
  | poll (fence : QueueFence) (entryId : String)
  | reprobe (fence : QueueFence) (entryId : String)
  | finalize (fence : QueueFence) (entryId : String)

section

variable [JsText] [SlicePolicies] [JsDate] [HandoffDigest] {σ : Type}

def SliceCall.program : SliceCall → Prog SliceEffect (Option QueueEntry)
  | run fence entryId => QueueRebase.run fence entryId
  | poll fence entryId => QueueChecks.poll fence entryId
  | reprobe fence entryId => QueueChecks.reprobe fence entryId
  | finalize fence entryId => QueueMerge.finalize fence entryId

/-- What a series of calls comes to, each from where the one before left everything. -/
def runSliceCalls (handle : {β : Type} → SliceEffect β → σ → β × σ) :
    List SliceCall → σ → List (Except String (Option QueueEntry))
  | [], _ => []
  | call :: calls, state =>
    (call.program.run handle state).1 ::
      runSliceCalls handle calls (call.program.run handle state).2

end

def slicedHead : String := "aaaaaaaaaaaaaaaaaaaaaaaaaaaaaaaaaaaaaaaa"

def slicedCandidate : String := "cccccccccccccccccccccccccccccccccccccccc"

def slicedBase : String := "bbbbbbbbbbbbbbbbbbbbbbbbbbbbbbbbbbbbbbbb"

def slicedLane : LaneKey := { repository := "acme/app", base := "main" }

def slicedFence : QueueFence :=
  { lane := slicedLane, ownerId := "owner-1", generation := 1, routeGeneration := 1 }

def slicedHandoff : Json :=
  .obj [("lane", slicedLane.json), ("handoffId", .str "handoff-1"), ("prNumber", .num 7),
    ("head", .str slicedHead), ("admissionGeneration", .num 1),
    ("dispositions", .arr [.obj [("disposition", .str "fixed")]])]

def slicedReceipt : Option AdmissionReceipt :=
  (Handoff.of slicedHandoff).toOption.map fun handoff => { clean := false, handoff }

@[reducible] def slicedDigest : HandoffDigest where
  handoffDigest
    | .arr _ => "4d5e0f52"
    | _ => "9b1c7a30"

@[reducible] def slicedPolicies : SlicePolicies where
  mergeReasons eligibility _ _ _ :=
    if isText (eligibility.get? "mergeStateStatus") "BEHIND" then ["pr-not-mergeable"] else []
  classifyQueueChecks _ := (.green, "required-checks-green")
  deliveryKeys _ := []

def slicedLive (head mergeStateStatus : String) : Json :=
  .obj [("subject", .obj [("sourceRef", .str "pr:7"), ("lane", slicedLane.json),
      ("prNumber", .num 7), ("state", .str "open"), ("head", .str head),
      ("baseSha", .str slicedBase), ("labels", .arr []), ("headRepository", .str "acme/app"),
      ("headRef", .str "fix")]),
    ("identity", .obj [("ok", .bool true), ("sourceRef", .str "ids:1")]),
    ("permission", .obj [("sourceRef", .str "rights:1"), ("canPush", .bool true),
      ("rulesSourceRef", .str "rules:1"), ("canForcePush", .bool true), ("fork", .bool false),
      ("canWriteHeadRepository", .bool true), ("maintainerCanModify", .bool true),
      ("headRepository", .str "acme/app"), ("headRef", .str "fix")]),
    ("structuralSourceRef", .str "pr:7"),
    ("eligibility", .obj [("mergeable", .str "MERGEABLE"),
      ("mergeStateStatus", .str mergeStateStatus)])]

def slicedChecks : Json :=
  .obj [("complete", .bool true), ("head", .str slicedCandidate), ("base", .str slicedBase),
    ("requiredSet", .obj [("version", .str "1")])]

def slicedPrepared : Prepared where
  workspace := .str "/work"
  candidate := slicedCandidate
  expectedOldHead := slicedHead
  exactBase := slicedBase
  proof := .obj [("kind", .str "replay"), ("noop", .bool false), ("digest", .str "p1")]

def slicedHost : Host where
  clock _ := "2026-01-01T00:10:00.000Z"
  loadAwareTimeoutMs nominal _ := nominal
  uuid := "sample"

def slicedHandle : {β : Type} → SliceEffect β → QueueDb × List Json → β × (QueueDb × List Json)
  | _, .tx body, (db, seen) =>
    match body slicedHost db with
    | .ok (value, later) => (.ok value, (later, seen))
    | .error message => (.error message, (db, seen))
  | _, .now, world => (slicedHost.clock 0, world)
  | _, .loadAware, world => (slicedHost.loadAwareTimeoutMs, world)
  | _, .enterCycle, world => (.ok (), world)
  | _, .tryLock _, world => (.ok true, world)
  | _, .unlock _, world => ((), world)
  | _, .brake, world => (false, world)
  | _, .receipt _, world => (slicedReceipt, world)
  | _, .ledger _, world => ((false, 0), world)
  | _, .observe _ _ _, (db, live :: seen) => (.ok (some live), (db, seen))
  | _, .observe _ _ _, (db, []) => (.ok none, (db, []))
  | _, .readChecks _ _ _, world => (.ok (some slicedChecks), world)
  | _, .identity _ _, world => (.ok none, world)
  | _, .verify _ _, world => (.ok true, world)
  | _, .prepare _ _ _ _ _, world => (.ok slicedPrepared, world)
  | _, .push _ _, world =>
    (some (.obj [("outcome", .str "succeeded"), ("sourceRef", .str "git:push")]), world)
  | _, .merge _ _, world => (none, world)
  | _, .flushPages _, world => ((), world)
  | _, .deliver _, world => ((), world)

def slicedQueue [JsDate] : QueueDb :=
  let owned : QueueDb :=
    { lanes := [{ lane := slicedLane, generation := 1, routeGeneration := 1
                  ownerId := some "owner-1", ownerState := .active
                  expiresAt := some "2026-01-02T00:00:00.000Z" }]
      routes := [{ lane := slicedLane, executor := .queueV2, configGeneration := "1"
                   updatedAt := "2026-01-01T00:00:00.000Z" }] }
  let arrival : Tx QueueEntry := do
    let entry ← acknowledge
      { lane := slicedLane, entryId := "entry-1", prNumber := 7, head := slicedHead
        admissionGeneration := 1, handoffId := "handoff-1", ackId := "ack-1"
        acknowledgedAt := "2026-01-01T00:00:00.000Z" }
    progress { fence := slicedFence, entryId := entry.entryId, phase := .ready
               progressedAt := "2026-01-01T00:01:00.000Z" }
  match arrival slicedHost owned with
  | .ok (_, db) => db
  | .error _ => owned

def cameTo : Except String (Option QueueEntry) → String
  | .ok entry => (entry.map fun entry => entry.phase.name).getD ""
  | .error message => message

/-- The calls of the sample: publish, wait, find the branch behind its base, rebase again. -/
def slicedCalls : List SliceCall :=
  [.run slicedFence "entry-1", .poll slicedFence "entry-1", .finalize slicedFence "entry-1",
    .run slicedFence "entry-1"]

/-- A candidate that is found behind an unchanged base is sent back to a rebase that throws. -/
theorem slices_request_illegal_phase :
    letI := JsText.ascii
    letI := JsDate.isoDates
    letI := slicedDigest
    letI := slicedPolicies
    (runSliceCalls slicedHandle slicedCalls (slicedQueue,
      [slicedLive slicedHead "CLEAN", slicedLive slicedHead "CLEAN", slicedLive slicedHead "CLEAN",
        slicedLive slicedCandidate "CLEAN", slicedLive slicedCandidate "CLEAN",
        slicedLive slicedCandidate "BEHIND", slicedLive slicedCandidate "BEHIND"])).map cameTo =
      ["waiting-checks", "finalizing", "rebasing", "invalid queue transition"] := by
  decide +kernel

section

variable [JsText] [SlicePolicies] [JsDate] [HandoffDigest] {σ : Type}

def CallsAnswered (handle : {β : Type} → SliceEffect β → σ → β × σ)
    (receiptOf : QueueEntry → Option AdmissionReceipt) : List SliceCall → σ → Prop
  | [], _ => True
  | call :: calls, state => call.program.Answered handle (Answers receiptOf) state ∧
      CallsAnswered handle receiptOf calls (call.program.run handle state).2

theorem SliceCall.legal {receiptOf : QueueEntry → Option AdmissionReceipt} (call : SliceCall) :
    Legal receiptOf call.program fun _ => True := by
  cases call with
  | run fence entryId => exact QueueRebase.legal_run
  | poll fence entryId => exact QueueChecks.legal_poll
  | reprobe fence entryId => exact QueueChecks.legal_reprobe
  | finalize fence entryId => exact QueueMerge.legal_finalize

/--
No call in a series of slice calls is refused for the phase it asks for.

The databases, the fences and the entries are any at all; the observations strand no entry.
-/
theorem slices_request_legal_phases (handle : {β : Type} → SliceEffect β → σ → β × σ)
    (receiptOf : QueueEntry → Option AdmissionReceipt) (calls : List SliceCall) (state : σ)
    (answered : CallsAnswered handle receiptOf calls state) :
    ∀ message, .error message ∈ runSliceCalls handle calls state → message ∉ phaseRefusals := by
  induction calls generalizing state with
  | nil => simp [runSliceCalls]
  | cons call calls ih =>
    intro message failed
    rw [runSliceCalls, List.mem_cons] at failed
    rcases failed with first | later
    · exact call.legal.run answered.1 first.symm
    · exact ih _ answered.2 message later

end

section

variable [JsText] [SlicePolicies]

def guardedHandle : {β : Type} → SliceEffect β → QueueDb × List Json → β × (QueueDb × List Json)
  | _, .observe entry reading _, (db, live :: seen) =>
    if slicedReceipt.any fun receipt => stranded entry receipt (some live) reading then
      (.ok none, (db, seen))
    else (.ok (some live), (db, seen))
  | _, effect, world => slicedHandle effect world

theorem guardedHandle_answers {β : Type} (effect : SliceEffect β) (world : QueueDb × List Json) :
    Answers (fun _ => slicedReceipt) effect (guardedHandle effect world).1 := by
  obtain ⟨db, seen⟩ := world
  cases effect with
  | tx body =>
    refine ⟨slicedHost, db, ?_⟩
    simp only [guardedHandle, slicedHandle]
    cases body slicedHost db <;> rfl
  | observe entry reading timeoutMs =>
    intro live answered receipt own
    cases seen with
    | nil =>
      cases answered
      exact QueueRebase.stranded_none entry receipt reading
    | cons first seen =>
      simp only [guardedHandle, own, Option.any_some] at answered
      split at answered
      · cases answered
        exact QueueRebase.stranded_none entry receipt reading
      · next fine =>
        cases answered
        simpa using fine
  | enterCycle =>
    intro message failed
    cases failed
  | tryLock lane =>
    intro message failed
    cases failed
  | receipt entry => rfl
  | _ => trivial

theorem guardedHandle_calls [JsDate] [HandoffDigest] (calls : List SliceCall)
    (world : QueueDb × List Json) :
    CallsAnswered guardedHandle (fun _ => slicedReceipt) calls world := by
  induction calls generalizing world with
  | nil => trivial
  | cons call calls ih =>
    exact ⟨Prog.answered_of_forall guardedHandle_answers call.program world, ih _⟩

end

/-- None of the sample's calls is refused where the last observation is kept from them. -/
theorem slices_request_legal_phases_sample :
    letI := JsText.ascii
    letI := JsDate.isoDates
    letI := slicedDigest
    letI := slicedPolicies
    letI outcomes := runSliceCalls guardedHandle slicedCalls (slicedQueue,
      [slicedLive slicedHead "CLEAN", slicedLive slicedHead "CLEAN", slicedLive slicedHead "CLEAN",
        slicedLive slicedCandidate "CLEAN", slicedLive slicedCandidate "CLEAN",
        slicedLive slicedCandidate "BEHIND", slicedLive slicedCandidate "BEHIND"])
    outcomes.length = 4 ∧ .error "invalid queue transition" ∉ outcomes := by
  let _ := JsText.ascii
  let _ := JsDate.isoDates
  let _ := slicedDigest
  let _ := slicedPolicies
  refine ⟨rfl, fun failed => ?_⟩
  exact slices_request_legal_phases guardedHandle (fun _ => slicedReceipt) slicedCalls _
    (guardedHandle_calls slicedCalls _) _ failed (by decide)

end AdversarialReview
