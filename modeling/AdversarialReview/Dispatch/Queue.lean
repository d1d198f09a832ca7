import Mathlib
import AdversarialReview.Library.JsText

/-! The queue of reviewer dispatches: which candidate is next, and one call of the queue. -/

namespace AdversarialReview.Dispatch

variable [JsText]

structure CandidateRow where
  rereviewRequested : Bool := false
  posted : Bool := false
  deriving DecidableEq

/-- A candidate; times by their milliseconds, the three hooks by whether it has them. -/
structure Candidate where
  repoPath : String := ""
  prNumber : Int := 0
  reviewerModel : String := ""
  pipelineGeminiSeats : Int := 0
  /-- Its own limit, where it has one; nothing inside where that is no number. -/
  geminiCredentialConcurrency : Option (Option Int) := none
  sameHeadTimeoutRetry : Bool := false
  retainedWakePriority : Bool := false
  wakePriority : Bool := false
  deployIncident : Bool := false
  hasPriorPostedReview : Option Bool := none
  current : Option CandidateRow := none
  createdAtMs : Option Rat := none
  enqueuedAtMs : Option Rat := none
  pendingSinceMs : Option Rat := none
  supportsAdmissionSplit : Bool := true
  prepareForReviewWait : Bool := false
  prepareForGeminiSaturation : Bool := false
  prepareAdmission : Bool := false
  deriving DecidableEq

structure LaneState where
  firstPassBurstLimit : Nat := 2
  minShare : Rat := 1 / 4
  firstPassUrgentAgeMs : Nat := 300000
  firstPassStartsSinceRereview : Nat := 0

structure LaneCounts where
  firstPass : Nat := 0
  rereview : Nat := 0

structure QueueCall where
  maxConcurrent : Int := 6
  availableCredentials : Option Int := none
  geminiCredentialConcurrency : Option Int := none
  initiallyActive : Nat := 0
  initiallyActiveGemini : Nat := 0
  initiallyActiveRereviews : Nat := 0
  laneState : Option LaneState := none
  maxThrownFailures : Int := 1
  singleWave : Bool := false
  singleWaveSettleGraceMs : Int := 1000
  waitWarnMs : Rat := 900000
  splitPostReviewSettlement : Bool := false
  /-- How the engine compares two texts. -/
  localeCompare : String → String → Int

def resolveReviewerCredentialConcurrencyLimit (call : QueueCall) : Nat :=
  let parsedPoolSlots := max 1 call.maxConcurrent.toNat
  match call.availableCredentials with
  | none => parsedPoolSlots
  | some credentials => min parsedPoolSlots credentials.toNat

def resolveGeminiDispatchConcurrencyLimit (concurrency : Option Int) (ceiling : Nat) : Nat :=
  let cap := max 1 ceiling
  match concurrency with
  | none => min cap 1
  | some parsed => min cap parsed.toNat

def reviewerDispatchCandidateGeminiSeats (candidate : Candidate) : Nat :=
  max candidate.pipelineGeminiSeats.toNat
    (if JsText.toLowerCase candidate.reviewerModel = "gemini" then 1 else 0)

def isGeminiCandidate (candidate : Candidate) : Bool :=
  0 < reviewerDispatchCandidateGeminiSeats candidate

def reviewerDispatchIsFirstPass (candidate : Candidate) : Bool :=
  match candidate.hasPriorPostedReview with
  | some posted => !posted
  | none =>
    match candidate.current with
    | none => true
    | some row => !row.rereviewRequested && !row.posted

def reviewerDispatchTierRank (candidate : Candidate) : Rat :=
  if reviewerDispatchIsFirstPass candidate then 2 else 3

def reviewerDispatchWaitMs (candidate : Candidate) (nowMs : Rat) : Option Rat :=
  candidate.enqueuedAtMs.map fun enqueued => max 0 (nowMs - enqueued)

def reviewerDispatchWaitPriority (candidate : Candidate) (nowMs waitWarnMs : Rat) : Option Rat :=
  (reviewerDispatchWaitMs candidate nowMs).filter fun wait => waitWarnMs ≤ wait

def compareReviewerDispatchWait (a b : Option Rat) : Rat :=
  match a, b with
  | none, none => 0
  | none, some _ => 1
  | some _, none => -1
  | some a, some b => b - a

def firstDelta : List Rat → Rat
  | [] => 0
  | delta :: rest => if delta ≠ 0 then delta else firstDelta rest

def number (flag : Bool) : Rat := if flag then 1 else 0

def priorityDeltas (a b : Candidate) (nowMs waitWarnMs : Rat) : List Rat :=
  [number a.sameHeadTimeoutRetry - number b.sameHeadTimeoutRetry,
    compareReviewerDispatchWait (reviewerDispatchWaitPriority a nowMs waitWarnMs)
      (reviewerDispatchWaitPriority b nowMs waitWarnMs),
    number b.retainedWakePriority - number a.retainedWakePriority,
    number b.wakePriority - number a.wakePriority,
    number b.deployIncident - number a.deployIncident]

def maxSafeInteger : Rat := 9007199254740991

def reviewerDispatchSortTimeMs (candidate : Candidate) : Rat :=
  candidate.createdAtMs.getD maxSafeInteger

/-- The differences of two candidates when the lanes do not matter. -/
def candidateDeltas (call : QueueCall) (a b : Candidate) (nowMs : Rat) : List Rat :=
  priorityDeltas a b nowMs call.waitWarnMs ++
    [reviewerDispatchTierRank a - reviewerDispatchTierRank b,
      reviewerDispatchSortTimeMs a - reviewerDispatchSortTimeMs b,
      call.localeCompare a.repoPath b.repoPath, a.prNumber - b.prNumber]

/-- A candidate in the queue, with what the call keeps of it. -/
structure Entry where
  candidate : Candidate
  started : Bool := false
  deferredReason : Option String := none
  waitPrepared : Bool := false
  saturationPrepared : Bool := false
  deriving DecidableEq

def pendingLaneCounts (entries : List Entry) : LaneCounts :=
  let fresh := entries.filter fun entry => !entry.started && !entry.candidate.sameHeadTimeoutRetry
  { firstPass := (fresh.filter fun entry => reviewerDispatchIsFirstPass entry.candidate).length
    rereview := (fresh.filter fun entry => !reviewerDispatchIsFirstPass entry.candidate).length }

def LaneCounts.both (counts : LaneCounts) : Bool := 0 < counts.firstPass && 0 < counts.rereview

def boundedShare (share : Rat) : Rat := min (1 / 2) (max 0 share)

def reviewerLaneFloor (concurrencyLimit : Nat) (minShare : Rat) : Nat :=
  let slots := max 1 concurrencyLimit
  let share := boundedShare minShare
  if share ≤ 0 then 0 else max 1 (min slots (slots * share).ceil.toNat)

def positiveOr (value fallback : Nat) : Nat := if 0 < value then value else fallback

def reviewerDispatchAgeMs (candidate : Candidate) (nowMs : Rat) : Option Rat :=
  candidate.createdAtMs.map fun created => max 0 (nowMs - created)

def reviewerDispatchPendingAgeMs (candidate : Candidate) (nowMs : Rat) : Option Rat :=
  candidate.pendingSinceMs.map fun since => max 0 (nowMs - since)

def oldestFirstPassAgeMs (entries : List Entry) (nowMs : Rat) : Option Rat :=
  let ages := entries.filterMap fun entry =>
    if entry.started || !reviewerDispatchIsFirstPass entry.candidate then none
    else (reviewerDispatchPendingAgeMs entry.candidate nowMs).or
      (reviewerDispatchAgeMs entry.candidate nowMs)
  match ages with
  | [] => none
  | age :: rest => some (rest.foldl max age)

def laneFairnessPreference (lane : LaneState) (starts : LaneCounts) (concurrencyLimit : Nat)
    (pendingFirstPassAgeMs : Option Rat) (aFirst bFirst : Bool) : Rat :=
  let baseFloor := reviewerLaneFloor concurrencyLimit lane.minShare
  if aFirst = bFirst || baseFloor = 0 then 0
  else
    let urgentAgeMs := positiveOr lane.firstPassUrgentAgeMs 300000
    let firstPassFloor :=
      if pendingFirstPassAgeMs.any fun age => (urgentAgeMs : Rat) ≤ age then
        min concurrencyLimit (max baseFloor ((concurrencyLimit + 1) / 2))
      else baseFloor
    if starts.firstPass < firstPassFloor && baseFloor ≤ starts.rereview then
      if aFirst then -1 else 1
    else if starts.rereview < baseFloor && firstPassFloor ≤ starts.firstPass then
      if lane.firstPassStartsSinceRereview + starts.firstPass <
          positiveOr lane.firstPassBurstLimit 2 then 0
      else if aFirst then 1 else -1
    else 0

def lanePreference (lane : LaneState) (aFirst bFirst : Bool) : Rat :=
  if aFirst = bFirst then 0
  else if positiveOr lane.firstPassBurstLimit 2 ≤ lane.firstPassStartsSinceRereview then
    if aFirst then 1 else -1
  else if aFirst then -1 else 1

inductive Phase where
  | running
  | settled (skipped : Bool)
  | observed
  deriving DecidableEq

/-- A started candidate that the call still waits for. -/
structure ActiveRun where
  index : Nat
  seats : Nat
  phase : Phase := .running

inductive Place where
  | outer
  | inner
  | waitHook (index : Nat)
  | saturationHook (index : Nat)
  | admissionHook (index : Nat)
  | yielded
  | wave
  | waveWait
  | tail
  /-- The race of the runs that were active when it began. -/
  | race (awaited : List Nat)
  | finish
  | thrown
  /-- The deferred candidates, each with its reason. -/
  | returned (deferred : List (Nat × String))

structure QueueState where
  pending : List Entry
  active : List ActiveRun := []
  activeGemini : Nat
  geminiConcurrencyLimit : Nat
  lane : Option LaneState
  laneStarts : LaneCounts := {}
  errors : Nat := 0
  attempted : Nat := 0
  attemptedBeforeStart : Nat := 0
  dispatched : Nat := 0
  initialWaveClosed : Bool := false
  singleWaveDeadlineMs : Option Rat := none
  /-- The candidates that were run, in order. -/
  runs : List Nat := []
  place : Place := .outer

def QueueCall.limit (call : QueueCall) : Nat := resolveReviewerCredentialConcurrencyLimit call

def QueueCall.thrownFailureLimit (call : QueueCall) : Nat := max 1 call.maxThrownFailures.toNat

def QueueState.laneOr (state : QueueState) : LaneState := state.lane.getD {}

def geminiLimitForCandidate (call : QueueCall) (state : QueueState) (candidate : Candidate) : Nat :=
  match candidate.geminiCredentialConcurrency with
  | some own => resolveGeminiDispatchConcurrencyLimit own
      (max call.limit (reviewerDispatchCandidateGeminiSeats candidate))
  | none => state.geminiConcurrencyLimit

def overGemini (call : QueueCall) (state : QueueState) (candidate : Candidate) : Bool :=
  isGeminiCandidate candidate &&
    geminiLimitForCandidate call state candidate <
      state.activeGemini + reviewerDispatchCandidateGeminiSeats candidate

def compareReviewerDispatchEntries (call : QueueCall) (state : QueueState) (nowMs : Rat)
    (a b : Candidate) : Rat :=
  let aFirst := reviewerDispatchIsFirstPass a
  let bFirst := reviewerDispatchIsFirstPass b
  let lanes := if (pendingLaneCounts state.pending).both then
    [laneFairnessPreference state.laneOr state.laneStarts call.limit
      (oldestFirstPassAgeMs state.pending nowMs) aFirst bFirst,
      lanePreference state.laneOr aFirst bFirst]
    else []
  firstDelta (priorityDeltas a b nowMs call.waitWarnMs ++ lanes ++ candidateDeltas call a b nowMs)

/-- The entries with their places, as they would be admitted now. -/
def orderPendingReviewerDispatchEntries (call : QueueCall) (state : QueueState) (nowMs : Rat) :
    List (Entry × Nat) :=
  state.pending.zipIdx.insertionSort fun a b =>
    compareReviewerDispatchEntries call state nowMs a.1.candidate b.1.candidate ≤ 0

def rereviewFloor (call : QueueCall) (state : QueueState) : Nat :=
  reviewerLaneFloor call.limit state.laneOr.minShare

def rereviewCapped (call : QueueCall) (state : QueueState) (nowMs : Rat)
    (candidate : Candidate) : Bool :=
  0 < (pendingLaneCounts state.pending).firstPass &&
    !reviewerDispatchIsFirstPass candidate &&
    call.limit - rereviewFloor call state ≤ call.initiallyActiveRereviews &&
    (reviewerDispatchWaitPriority candidate nowMs call.waitWarnMs).isNone

def refusal (call : QueueCall) (state : QueueState) (nowMs : Rat) (entry : Entry) :
    Option String :=
  if 0 < call.limit - rereviewFloor call state &&
      rereviewCapped call state nowMs entry.candidate then
    some "rereview-cap-reserves-first-pass-capacity"
  else if entry.candidate.prepareForReviewWait && !entry.waitPrepared then none
  else if overGemini call state entry.candidate then
    if entry.candidate.prepareForGeminiSaturation && !entry.saturationPrepared then none
    else if geminiLimitForCandidate call state entry.candidate < 1 then
      some "gemini-credential-concurrency-zero"
    else some "gemini-credential-concurrency-saturated"
  else none

def recordDeferredReason (reason : String) (entry : Entry) : Entry :=
  if entry.started || entry.deferredReason.isSome then entry
  else { entry with deferredReason := some reason }

def poolIsFull (call : QueueCall) (state : QueueState) : Bool :=
  call.limit ≤ call.initiallyActive + state.active.length

def unstarted (call : QueueCall) (state : QueueState) (nowMs : Rat) : List (Entry × Nat) :=
  (orderPendingReviewerDispatchEntries call state nowMs).filter fun entry => !entry.1.started

def nextStartableEntry (call : QueueCall) (state : QueueState) (nowMs : Rat) :
    Option (Entry × Nat) :=
  if poolIsFull call state then none
  else (unstarted call state nowMs).find? fun entry => (refusal call state nowMs entry.1).isNone

def passedBy (call : QueueCall) (state : QueueState) (nowMs : Rat) : QueueState :=
  let reasons : List (Nat × String) :=
    if poolIsFull call state then
      (unstarted call state nowMs).map fun entry => (entry.2, "reviewer-pool-saturated")
    else ((unstarted call state nowMs).map fun entry =>
        (refusal call state nowMs entry.1).map fun reason => (entry.2, reason)).takeWhile
      Option.isSome |>.filterMap id
  { state with pending := state.pending.mapIdx fun index entry =>
      match reasons.lookup index with
      | some reason => recordDeferredReason reason entry
      | none => entry }

def hasUnstarted (state : QueueState) : Bool := state.pending.any fun entry => !entry.started

def deferReasonFor (call : QueueCall) (state : QueueState) (nowMs : Rat)
    (candidate : Candidate) : String :=
  if isGeminiCandidate candidate && geminiLimitForCandidate call state candidate < 1 then
    "gemini-credential-concurrency-zero"
  else if overGemini call state candidate then "gemini-credential-concurrency-saturated"
  else if state.initialWaveClosed then "single-wave-deferred"
  else if poolIsFull call state then "reviewer-pool-saturated"
  else if 1 < call.limit && rereviewCapped call state nowMs candidate then
    "rereview-cap-reserves-first-pass-capacity"
  else "not-started"

/-- What a step of the call gets: the clock, what a hook makes of its candidate (nothing where it
rejects), and whether the wave's timer has fired. -/
structure StepInput where
  nowMs : Rat := 0
  prepared : Option Candidate := none
  timer : Bool := false

def QueueState.modifyEntry (state : QueueState) (index : Nat) (change : Entry → Entry) :
    QueueState :=
  { state with pending := state.pending.modify index change }

def LaneCounts.admission (counts : LaneCounts) (candidate : Candidate) : LaneCounts :=
  if reviewerDispatchIsFirstPass candidate then { counts with firstPass := counts.firstPass + 1 }
  else { counts with rereview := counts.rereview + 1 }

def LaneCounts.refund (counts : LaneCounts) (candidate : Candidate) : LaneCounts :=
  if reviewerDispatchIsFirstPass candidate then { counts with firstPass := counts.firstPass - 1 }
  else { counts with rereview := counts.rereview - 1 }

def start (call : QueueCall) (state : QueueState) (index : Nat) (candidate : Candidate) :
    QueueState :=
  let seats := reviewerDispatchCandidateGeminiSeats candidate
  let started := state.modifyEntry index fun entry => { entry with started := true }
  { started with
    activeGemini := state.activeGemini + seats
    active := state.active ++ [{ index, seats }]
    laneStarts := state.laneStarts.admission candidate
    attempted := state.attempted + 1
    runs := state.runs ++ [index]
    place := if 1 < call.limit && (pendingLaneCounts started.pending).both then .yielded
      else .inner }

def admitEntry (call : QueueCall) (state : QueueState) (entry : Entry) (index : Nat) : QueueState :=
  if entry.candidate.prepareForReviewWait && !entry.waitPrepared then
    { state.modifyEntry index fun entry => { entry with waitPrepared := true } with
      place := .waitHook index }
  else if overGemini call state entry.candidate && !entry.saturationPrepared then
    { state.modifyEntry index fun entry => { entry with saturationPrepared := true } with
      place := .saturationHook index }
  else if entry.candidate.prepareAdmission then { state with place := .admissionHook index }
  else start call state index entry.candidate

def endWave (state : QueueState) (call : QueueCall) (nowMs : Rat) : QueueState :=
  if !state.active.isEmpty then
    { state with
      initialWaveClosed := true
      pending := state.pending.map (recordDeferredReason "single-wave-deferred")
      place := .finish }
  else
    { state with
      initialWaveClosed := state.initialWaveClosed || (0 < state.dispatched &&
        (!call.splitPostReviewSettlement ||
          state.singleWaveDeadlineMs.any (fun deadline => deadline ≤ nowMs) ||
          !(state.pending.any fun entry => !entry.started &&
            entry.candidate.supportsAdmissionSplit)))
      place := .tail }

def deferredOf (call : QueueCall) (state : QueueState) (nowMs : Rat) : List (Nat × String) :=
  (unstarted call state nowMs).map fun entry =>
    (entry.2, entry.1.deferredReason.getD (deferReasonFor call state nowMs entry.1.candidate))

def advance (call : QueueCall) (state : QueueState) (input : StepInput) : Option QueueState :=
  let open_ := state.errors < call.thrownFailureLimit && !state.initialWaveClosed
  let setCandidate (index : Nat) (candidate : Candidate) : QueueState :=
    state.modifyEntry index fun entry => { entry with candidate }
  match state.place with
  | .outer =>
    if (open_ && hasUnstarted state) || !state.active.isEmpty then
      some { state with attemptedBeforeStart := state.attempted, place := .inner }
    else some { state with place := .finish }
  | .inner =>
    if open_ then
      match nextStartableEntry call state input.nowMs with
      | none => some { passedBy call state input.nowMs with place := .wave }
      | some (entry, index) => some (admitEntry call (passedBy call state input.nowMs) entry index)
    else some { state with place := .wave }
  | .waitHook index | .saturationHook index =>
    match input.prepared with
    | none => some { state with place := .thrown }
    | some candidate => some { setCandidate index candidate with place := .inner }
  | .admissionHook index =>
    match input.prepared with
    | none => some { state with place := .thrown }
    | some candidate =>
      if overGemini call state candidate then
        some { setCandidate index candidate with place := .inner }
      else some (start call (setCandidate index candidate) index candidate)
  | .yielded => some { state with place := .inner }
  | .wave =>
    if call.singleWave && state.attemptedBeforeStart < state.attempted then
      let deadline := input.nowMs + call.singleWaveSettleGraceMs.toNat
      let timed := { state with
        singleWaveDeadlineMs := if call.splitPostReviewSettlement then
          state.singleWaveDeadlineMs.or (some deadline) else state.singleWaveDeadlineMs }
      if !state.active.isEmpty then some { timed with place := .waveWait }
      else some (endWave timed call input.nowMs)
    else some { state with place := .tail }
  | .waveWait =>
    if input.timer || state.active.all fun run => run.phase ≠ .running then
      some (endWave state call input.nowMs)
    else none
  | .tail =>
    if !state.active.isEmpty then
      some { state with place := .race (state.active.map ActiveRun.index) }
    else if hasUnstarted state && !state.initialWaveClosed then
      let seen := passedBy call state input.nowMs
      if (nextStartableEntry call state input.nowMs).isSome then some { seen with place := .outer }
      else some { seen with place := .finish }
    else some { state with place := .finish }
  | .race awaited =>
    -- A run that is active no more has settled.
    if awaited.any fun index => state.active.all fun run =>
        run.index ≠ index || run.phase ≠ .running then
      some { state with place := .outer }
    else none
  | .finish =>
    if 0 < state.errors then some { state with place := .thrown }
    else some { state with place := .returned (deferredOf call state input.nowMs) }
  | .thrown | .returned _ => none

/-- How the run of a candidate, up to the release of its place, ends. -/
inductive RunEnd where
  | dispatched
  | skipped
  | failed
  deriving DecidableEq

def recordReviewerLaneStart (lane : LaneState) (candidate : Candidate) : LaneState :=
  if reviewerDispatchIsFirstPass candidate then
    { lane with firstPassStartsSinceRereview := lane.firstPassStartsSinceRereview + 1 }
  else { lane with firstPassStartsSinceRereview := 0 }

/-- A run ends or releases its place; its seats are free at once. -/
def settle (state : QueueState) (index : Nat) (ended : RunEnd) : Option QueueState :=
  (state.active.find? fun run => run.index = index && run.phase = .running).map fun run =>
    { state with
      activeGemini := state.activeGemini - run.seats
      errors := if ended = .failed then state.errors + 1 else state.errors
      active := state.active.map fun other =>
        if other.index = index then { other with phase := .settled (ended = .skipped) } else other }

def observe (state : QueueState) (index : Nat) : Option QueueState :=
  (state.pending[index]?).bind fun entry =>
    (state.active.find? fun run => run.index = index).bind fun run =>
      match run.phase with
      | .settled skipped =>
        some { state with
          dispatched := if skipped then state.dispatched else state.dispatched + 1
          lane := if skipped then state.lane
            else state.lane.map fun lane => recordReviewerLaneStart lane entry.candidate
          laneStarts := state.laneStarts.refund entry.candidate
          active := state.active.map fun other =>
            if other.index = index then { other with phase := .observed } else other }
      | _ => none

def remove (state : QueueState) (index : Nat) : Option QueueState :=
  if state.active.any fun run => run.index = index && run.phase = .observed then
    some { state with active := state.active.filter fun run => run.index ≠ index }
  else none

inductive QueueEvent where
  | advance (input : StepInput)
  | settle (index : Nat) (ended : RunEnd)
  | observe (index : Nat)
  | remove (index : Nat)

def step (call : QueueCall) (state : QueueState) : QueueEvent → Option QueueState
  | .advance input => advance call state input
  | .settle index ended => settle state index ended
  | .observe index => observe state index
  | .remove index => remove state index

def sortReviewerDispatchCandidates (call : QueueCall) (nowMs : Rat)
    (candidates : List Candidate) : List Candidate :=
  candidates.insertionSort fun a b => firstDelta (candidateDeltas call a b nowMs) ≤ 0

def enter (call : QueueCall) (candidates : List Candidate) (nowMs : Rat) : QueueState :=
  let limit := call.limit
  let waiting (candidates : List Candidate) : QueueState :=
    { pending := candidates.map fun candidate => { candidate }
      activeGemini := call.initiallyActiveGemini
      geminiConcurrencyLimit := resolveGeminiDispatchConcurrencyLimit
        call.geminiCredentialConcurrency
        ((candidates.map reviewerDispatchCandidateGeminiSeats).foldl max limit)
      lane := call.laneState }
  if limit < 1 then
    let all := (List.range candidates.length).map fun index =>
      (index, "reviewer-pool-credential-capacity-zero")
    { waiting candidates with place := .returned all }
  else waiting (sortReviewerDispatchCandidates call nowMs candidates)

inductive Reaches (call : QueueCall) (candidates : List Candidate) : QueueState → Prop where
  | enter (nowMs : Rat) : Reaches call candidates (enter call candidates nowMs)
  | step {state next : QueueState} (event : QueueEvent) (before : Reaches call candidates state)
      (taken : step call state event = some next) : Reaches call candidates next

end AdversarialReview.Dispatch
