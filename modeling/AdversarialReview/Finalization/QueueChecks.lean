import AdversarialReview.Finalization.QueueSlices

/-! The checks slice: wait for a published candidate's checks, park it, and probe what is parked. -/

namespace AdversarialReview

namespace QueueChecks

open Json Slices

/-- What the live state of a pull request means for an entry that waits. -/
inductive SubjectDecision where
  | closedObserved (state : String)
  | headChanged
  | baseChanged
  | waitingChecks

/-- What an observation says of a candidate; one that says nothing is absent. -/
def subjectDecision (entry : QueueEntry) (live : Option Json) : Option SubjectDecision :=
  let subject := subjectOf live
  let state := member subject "state"
  if !Json.truthy (member subject "sourceRef") || !observes entry live then none
  else if oneOf ["closed", "merged"] state then some (.closedObserved (text state))
  else if !isText state "open" then none
  else if !strictEq (member subject "head") (entry.field? "candidate") then some .headChanged
  else if !strictEq (member subject "baseSha") (entry.field? "exactBase") then some .baseChanged
  else some .waitingChecks

def namedFailures : List String :=
  ["required-set-unresolved", "required-set-changed", "checks-partial-pages",
    "checks-moving-pages", "checks-stale-sha"]

def lastingReasons : List String :=
  ["missing-required-check:", "checks-pending", "credential-outage", "required-set-"]

def recovered (entry : QueueEntry) : Bool :=
  isBool (member (entry.field? "infrastructure") "recovered") true

def failedReading (entry : QueueEntry) (failure : ReadFailure) (observedAt : String) : Json :=
  let reason := if failure.authOutage then "credential-outage"
    else if failure.message ∈ namedFailures then failure.message else "checks-unreadable"
  .obj [("complete", .bool false), ("head", (entry.field? "candidate").getD .null),
    ("base", (entry.field? "exactBase").getD .null), ("reason", .str reason),
    ("observedAt", .str observedAt)]

variable [JsDate] [JsText] [HandoffDigest] [SlicePolicies]

def service : Service :=
  { superseded := "checks observation superseded", undrained := "checks require drained operations"
    stamp := .ok }

def readWith (entry : QueueEntry) (deadline : String)
    (effect : Int → SliceEffect (Except ReadFailure (Option Json))) :
    Prog SliceEffect (Option Json) := do
  let timeoutMs ← waitUntil 5000 30000 (some deadline)
  if timeoutMs = 0 then pure none
  else
    match ← Prog.perform (effect timeoutMs) with
    | .ok answer => pure answer
    | .error failure =>
      let observedAt ← Prog.perform .now
      pure (some (failedReading entry failure observedAt))

def readLive (entry : QueueEntry) (deadline : String) : Prog SliceEffect (Option Json) :=
  readWith entry deadline (.observe entry .checks)

def readChecks (entry : QueueEntry) (deadline : String) : Prog SliceEffect (Option Json) :=
  readWith entry deadline (.readChecks entry deadline)

def decidedChecks (entry : QueueEntry) (deadline : String) :
    Option SubjectDecision → Prog SliceEffect (Option Json)
  | some _ => readChecks entry deadline
  | none => pure none

def lookUntil (entry : QueueEntry) (late : Bool) : Prog SliceEffect String :=
  if late && Json.truthy (member (entry.field? "infrastructure") "recovered") then do
    let now ← Prog.perform .now
    let window ← waitUntil 5000 30000 none
    Prog.raise (after now window)
  else pure entry.patience.deadline

def provedAgain (entry : QueueEntry) (receipt : Option AdmissionReceipt) (deadline : String) :
    Prog SliceEffect Bool :=
  if receipt.any fun receipt =>
      isText (member (entry.field? "rebase") "sourceReceiptDigest") receipt.handoff.digest then do
    let proof ← Prog.perform (.verify entry deadline)
    pure (proof.toOption.getD false)
  else pure false

def cause (entry : QueueEntry) (dependency : String) (reason : Option Json) :
    List (String × Json) :=
  [("dependency", .str dependency), ("head", (entry.field? "candidate").getD .null),
    ("base", (entry.field? "exactBase").getD .null), ("reason", reason.getD .null)]

def causeKey (entry : QueueEntry) (dependency : String) (reason : Option Json) : String :=
  HandoffDigest.handoffDigest (.arr [.str entry.entryId, .obj (cause entry dependency reason)])

def parkedInfrastructure (entry : QueueEntry) (dependency : String) (reason : Option Json)
    (parkedAt nextProbeAt : String) : Json :=
  let members : List (String × Json) := cause entry dependency reason ++
    [("causeKey", .str (causeKey entry dependency reason)), ("parkedAt", .str parkedAt),
      ("nextProbeAt", .str nextProbeAt), ("recovered", .bool false)]
  members.foldl (fun record member => record.set member.1 member.2)
    (spreadMembers (entry.field? "infrastructure"))

def unreadChecks (entry : QueueEntry) (observedAt : String) : Json :=
  let checks := entry.field? "checks"
  let last := if Json.truthy (member checks "complete") then checks
    else member checks "lastSnapshot"
  .obj [("head", (entry.field? "candidate").getD .null),
    ("base", (entry.field? "exactBase").getD .null), ("complete", .bool false),
    ("observedAt", .str observedAt), ("lastSnapshot", last.getD .null)]

def keptChecks (checks : Option Json) : String × Option Json :=
  ("checks", some (checks.getD .null))

def park (entry : QueueEntry) (fence : QueueFence) (reason : Option Json) (checks : Option Json) :
    Prog SliceEffect (Option QueueEntry) := do
  let now ← Prog.perform .now
  let nextProbeAt ← Prog.raise (after now 60000)
  let dependency := if isText reason "credential-outage" then "credentials" else "checks"
  let parked ← request service entry fence .parkedInfrastructure reason
    [("checks", if Json.truthy checks then checks else some (unreadChecks entry now)),
      ("infrastructure", some (parkedInfrastructure entry dependency reason now nextProbeAt))]
  release fence "checks-lane-release-deferred"
  Prog.perform (.flushPages entry.entryId)
  pure (some parked)

def concludeReleased (entry : QueueEntry) (fence : QueueFence) (phase : QueuePhase)
    (reason : Option Json) (checks : Option Json) : Prog SliceEffect (Option QueueEntry) := do
  let moved ← request service entry fence phase reason [keptChecks checks]
  release fence "checks-lane-release-deferred"
  pure (some moved)

def classify (entry : QueueEntry) (live checks : Option Json) (inTime late : Bool) :
    CheckKind × Option Json :=
  if strictEq (member checks "head") (entry.field? "candidate") &&
      strictEq (member checks "base") (entry.field? "exactBase") && inTime &&
      isBool (member checks "complete") true then
    let classified := SlicePolicies.classifyQueueChecks (checks.getD .null)
    (classified.1, textOf classified.2)
  else
    let standing := if late && lastingReasons.any fun start =>
        (((entry.field? "reason").bind text?).getD "").startsWith start then entry.field? "reason"
      else textOf "checks-unreadable"
    (.wait, orElse (member checks "reason") (orElse (member live "reason") standing))

def settleChecks (fence : QueueFence) (entry : QueueEntry) (live : Option Json)
    (decision : Option SubjectDecision) (deadline : String) (late : Bool) :
    Prog SliceEffect (Option QueueEntry) := do
  let checks ← decidedChecks entry deadline decision
  current service entry fence
  let now ← Prog.perform .now
  let classified := classify entry live checks (before now deadline) late
  match classified.1 with
  | .green =>
    conclude service entry fence .finalizing classified.2 [keptChecks checks]
  | .red => concludeReleased entry fence .returnedToCloser classified.2 checks
  | .wait =>
    let overdue ← expired entry.patience.deadline
    if late || overdue then park entry fence classified.2 checks
    else conclude service entry fence .waitingChecks classified.2 [keptChecks checks]

def observeWaiting (fence : QueueFence) (entry : QueueEntry) :
    Prog SliceEffect (Option QueueEntry) := do
  let publication := member (entry.field? "rebase") "publication"
  if entry.phase ≠ .waitingChecks ||
      !strictEq (member publication "head") (entry.field? "candidate") ||
      !strictEq (member publication "base") (entry.field? "exactBase") then
    Prog.fail "checks require exact published candidate"
  else do
    let late ← expired entry.patience.deadline
    let deadline ← lookUntil entry late
    let live ← readLive entry deadline
    current service entry fence
    match subjectDecision entry live with
    | some (.closedObserved state) =>
      concludeReleased entry fence .closedObserved (textOf ("live-" ++ state)) none
    | some .headChanged =>
      concludeReleased entry fence .returnedToCloser (textOf "external-head-change") none
    | some .baseChanged =>
      if late then park entry fence (textOf "checks-deadline-expired") none
      else
        conclude service entry fence .rebasing (textOf "external-base-change") [keptChecks none]
    | decision => settleChecks fence entry live decision deadline late

def poll (fence : QueueFence) (entryId : String) : Prog SliceEffect (Option QueueEntry) := do
  let entry ← subject fence entryId "foreign checks entry"
  current service entry fence
  if entry.phase = .parkedInfrastructure && Json.truthy (entry.field? "infrastructure") then do
    release fence "checks-lane-release-deferred"
    Prog.perform (.flushPages entryId)
    pure (some entry)
  else if entry.phase = .ready && recovered entry then do
    -- Recovery rejoined the tail: the candidate is resumed once it is first.
    let entry ← request service entry fence .rebasing (textOf "recovered-candidate-resumed")
    let entry ← request service entry fence .publishing (textOf "recovered-candidate-resumed")
    let entry ← request service entry fence .waitingChecks (textOf "recovered-candidate-resumed")
    observeWaiting fence entry
  else observeWaiting fence entry

def rejoin (fence : QueueFence) (entry : QueueEntry) (checks : Option Json)
    (deadline : String) : Prog SliceEffect (Option QueueEntry) := do
  let receipt ← Prog.perform (.receipt entry)
  let proved ← provedAgain entry receipt deadline
  current service entry fence
  let late ← expired deadline
  if !proved || late then pure (some entry)
  else do
    let fresh ← readLive entry deadline
    current service entry fence
    match subjectDecision entry fresh with
    | some (.closedObserved state) =>
      conclude service entry fence .closedObserved (textOf ("live-" ++ state))
    | some .headChanged =>
      conclude service entry fence .returnedToCloser (textOf "external-head-change")
    | some .waitingChecks =>
      let candidate := entry.field? "candidate"
      let overdue ← expired deadline
      match classifyQueueAdmission entry receipt fresh
          (if strictEq candidate (textOf entry.head) then none
            else some (candidate.getD .null)) with
      | .disposed ⟨.returnedToCloser, reason⟩ =>
        conclude service entry fence .returnedToCloser (textOf reason) [keptChecks checks]
      | .disposed _ => pure (some entry)
      | .ready =>
        if overdue then pure (some entry)
        else do
          let recoveredAt ← Prog.perform .now
          conclude service entry fence .ready (textOf "infrastructure-recovered-at-tail")
            [keptChecks checks, ("infrastructure", some (((spreadMembers (entry.field?
              "infrastructure")).set "recovered" (.bool true)).set "recoveredAt"
              (.str recoveredAt)))] true
    | _ => pure (some entry)

def probe (fence : QueueFence) (entry : QueueEntry) : Prog SliceEffect (Option QueueEntry) := do
  let now ← Prog.perform .now
  if entry.phase ≠ .parkedInfrastructure || !Json.truthy (entry.field? "infrastructure") ||
      ((member (entry.field? "infrastructure") "nextProbeAt").bind text?).any (before now) then
    pure (some entry)
  else do
    let started ← Prog.perform .now
    let window ← waitUntil 5000 30000 none
    let deadline ← Prog.raise (after started window)
    let nextProbeAt ← Prog.raise (after deadline 60000)
    let entry ← request service entry fence entry.phase (entry.field? "reason")
      [("infrastructure", some (((spreadMembers (entry.field? "infrastructure")).set "probeDeadline"
        (.str deadline)).set "nextProbeAt" (.str nextProbeAt)))]
    let live ← readLive entry deadline
    current service entry fence
    match subjectDecision entry live with
    | some (.closedObserved state) =>
      conclude service entry fence .closedObserved (textOf ("live-" ++ state))
    | some .headChanged =>
      conclude service entry fence .returnedToCloser (textOf "external-head-change")
    | some .waitingChecks =>
      let checks ← readChecks entry deadline
      current service entry fence
      if !strictEq (member checks "head") (entry.field? "candidate") ||
          !strictEq (member checks "base") (entry.field? "exactBase") then pure (some entry)
      else
        let classified := SlicePolicies.classifyQueueChecks (checks.getD .null)
        match classified.1 with
        | .red =>
          conclude service entry fence .returnedToCloser (textOf classified.2) [keptChecks checks]
        | .wait => pure (some entry)
        | .green => rejoin fence entry checks deadline
    | _ => pure (some entry)

def reprobe (fence : QueueFence) (entryId : String) : Prog SliceEffect (Option QueueEntry) := do
  let entry ← subject fence entryId "foreign checks entry"
  current service entry fence
  (probe fence entry).finally_ (release fence "checks-lane-release-deferred")

end QueueChecks

end AdversarialReview
