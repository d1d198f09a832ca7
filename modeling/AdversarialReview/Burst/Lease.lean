import Mathlib.Algebra.Order.Field.Rat
import Mathlib.Data.List.Nodup

/-! A burst lease, the commands and ticks on its file, step by step, and when an ended one stays so. -/

namespace AdversarialReview.Burst

def defaultBurstTtlMs : Nat := 30 * 60 * 1000

def defaultBurstReviewsPerSlot : Nat := 6

inductive LeaseState where
  | active
  | expired
  | revoked
  | denied
  deriving DecidableEq

def LeaseState.terminal : LeaseState → Bool
  | .active => false
  | .expired | .revoked | .denied => true

/-- What a lease has been used for. -/
structure Usage where
  burstReviewsGranted : Nat := 0
  chargedSubjects : List String := []
  spendUsd : Option Rat := none
  spendReadable : Bool := false
  spendObservedAt : Option Int := none
  deriving DecidableEq

/-- A lease as the record keeps it; without a readable expiry `expiresAt` is absent. -/
structure BurstLease where
  leaseId : String
  state : LeaseState := .active
  expiresAt : Option Int
  slots : Nat
  repos : List String
  packs : List String
  budgetUsd : Option Rat
  maxBurstReviews : Nat
  updates : Nat := 0
  endedAt : Option Int := none
  endedReason : Option String := none
  revokedBy : Option String := none
  usage : Usage := {}
  deriving DecidableEq

/-- Whether a lease is live, and else why it is not. -/
structure LiveState where
  active : Bool
  endReason : Option String

def budgetExhausted (lease : BurstLease) : Bool :=
  match lease.budgetUsd, lease.usage.spendUsd with
  | some budget, some spend => budget ≤ spend
  | _, _ => false

def capReached (lease : BurstLease) : Bool :=
  0 < lease.maxBurstReviews && lease.maxBurstReviews ≤ lease.usage.burstReviewsGranted

def evaluateLeaseState (lease : BurstLease) (nowMs : Int) : LiveState :=
  if lease.state.terminal then { active := false, endReason := lease.endedReason }
  else
    match lease.expiresAt with
    | none => { active := false, endReason := "unreadable-expiry" }
    | some expiresAtMs =>
      if expiresAtMs ≤ nowMs then { active := false, endReason := "ttl-elapsed" }
      else if lease.slots < 1 then { active := false, endReason := "no-slots-granted" }
      else if capReached lease then { active := false, endReason := "review-cap-reached" }
      else if budgetExhausted lease then { active := false, endReason := "budget-exhausted" }
      else { active := true, endReason := none }

def endLease (lease : BurstLease) (state : LeaseState) (endedReason : String) (endedAt : Int)
    (revokedBy : Option String) : BurstLease :=
  { lease with
    state
    endedAt := some endedAt
    endedReason := some endedReason
    revokedBy := revokedBy <|> lease.revokedBy }

/-- How the pipeline is, as a request is told of it. -/
structure BurstSignals where
  quotaReadable : Bool
  availableClasses : List String
  groundedClasses : List String
  postingReadable : Bool
  outageActive : Bool
  attempts : Nat
  failureRatio : Rat
  reviewerReadable : Bool
  stuckSlots : Nat

structure SafetyVerdict where
  blockers : List String
  warnings : List String
  allowedSlots : Nat

def halved (cap : Nat) : Nat :=
  min cap (max 1 (cap / 2))

def quotaCheck (signals : BurstSignals) (cap : Nat) : List String × List String × Nat :=
  if !signals.quotaReadable then (["quota-unreadable"], [], cap)
  else if signals.availableClasses.length = 0 then (["quota-no-available-burst-reviewer"], [], cap)
  else if 0 < signals.groundedClasses.length then
    ([], ["quota-partially-grounded"], min cap signals.availableClasses.length)
  else ([], [], cap)

def postingCheck (signals : BurstSignals) (cap : Nat) : List String × List String × Nat :=
  if !signals.postingReadable then (["posting-health-unreadable"], [], cap)
  else if signals.outageActive then (["posting-outage-active"], [], cap)
  else if 3 ≤ signals.attempts then
    if 1 / 2 ≤ signals.failureRatio then (["posting-failure-rate-unsafe"], [], cap)
    else if 1 / 4 ≤ signals.failureRatio then ([], ["posting-failure-rate-degraded"], halved cap)
    else ([], [], cap)
  else ([], [], cap)

def reviewerCheck (signals : BurstSignals) (cap : Nat) : List String × List String × Nat :=
  if !signals.reviewerReadable then (["reviewer-health-unreadable"], [], cap)
  else if 2 ≤ signals.stuckSlots then (["reviewer-slots-stuck"], [], cap)
  else if 1 ≤ signals.stuckSlots then ([], ["reviewer-slots-degraded"], halved cap)
  else ([], [], cap)

def evaluateBurstSafety (signals : Option BurstSignals) (requestedSlots maxSlots : Nat) :
    SafetyVerdict :=
  match signals with
  | none =>
    { blockers := ["quota-unreadable", "posting-health-unreadable", "reviewer-health-unreadable"]
      warnings := []
      allowedSlots := 0 }
  | some signals =>
    let quota := quotaCheck signals (min requestedSlots maxSlots)
    let posting := postingCheck signals quota.2.2
    let reviewer := reviewerCheck signals posting.2.2
    let found := quota.1 ++ posting.1 ++ reviewer.1
    let blockers := if found = [] ∧ reviewer.2.2 < 1 then ["no-slots-available"] else found
    { blockers
      warnings := quota.2.1 ++ posting.2.1 ++ reviewer.2.1
      allowedSlots := if blockers = [] then reviewer.2.2 else 0 }

theorem evaluateBurstSafety_slots {signals : Option BurstSignals} {requestedSlots maxSlots : Nat}
    (safe : (evaluateBurstSafety signals requestedSlots maxSlots).blockers = []) :
    1 ≤ (evaluateBurstSafety signals requestedSlots maxSlots).allowedSlots := by
  cases signals with
  | none => cases safe
  | some signals =>
    simp only [evaluateBurstSafety] at safe ⊢
    rw [if_pos safe]
    split at safe
    · cases safe
    next open_ =>
      by_contra few
      exact open_ ⟨safe, by omega⟩

/-- A request as the operator's command line parses it. -/
structure BurstRequest where
  slots : Nat
  ttlMs : Nat
  repos : List String
  packs : List String
  budgetUsd : Option Rat
  maxBurstReviews : Option Nat
  reason : String
  safety : Option BurstSignals

/-- The ceilings of the process that a request is made in. -/
structure BurstSystemLimits where
  maxSlots : Nat := 4
  maxTtlMs : Nat := 4 * 60 * 60 * 1000
  maxBudgetUsd : Rat := 100

def reviewCap (request : BurstRequest) (grantedSlots : Nat) : Nat :=
  match request.maxBurstReviews with
  | some cap => if 0 < cap then cap else grantedSlots * defaultBurstReviewsPerSlot
  | none => grantedSlots * defaultBurstReviewsPerSlot

/-- Why a request is denied; empty where it is granted. -/
def requestBlockers (request : BurstRequest) (limits : BurstSystemLimits) : List String :=
  if request.repos.length = 0 then ["scope-missing-repo"]
  else if request.reason = "" then ["reason-required"]
  else if request.slots < 1 then ["slots-must-be-positive"]
  else (evaluateBurstSafety request.safety request.slots limits.maxSlots).blockers

def grantedLease (request : BurstRequest) (limits : BurstSystemLimits) (nowMs : Int)
    (existing : Option BurstLease) (leaseId : String) : BurstLease :=
  let verdict := evaluateBurstSafety request.safety request.slots limits.maxSlots
  let grantedSlots := verdict.allowedSlots
  let ttl := min (if request.ttlMs = 0 then defaultBurstTtlMs else request.ttlMs) limits.maxTtlMs
  let budget := request.budgetUsd.map fun budget => min (max 0 budget) limits.maxBudgetUsd
  let cap := reviewCap request grantedSlots
  match existing with
  | some lease =>
    { lease with
      state := .active
      expiresAt := some (nowMs + ttl)
      slots := grantedSlots
      repos := request.repos
      packs := request.packs
      budgetUsd := budget
      -- A new grant never shrinks the cap below what is spent.
      maxBurstReviews := max cap (lease.usage.burstReviewsGranted + grantedSlots)
      updates := lease.updates + 1
      endedAt := none
      endedReason := none }
  | none =>
    { leaseId
      expiresAt := some (nowMs + ttl)
      slots := grantedSlots
      repos := request.repos
      packs := request.packs
      budgetUsd := budget
      maxBurstReviews := cap }

/-- How far a command or a tick is. -/
inductive PartyStage where
  /-- The file is read. -/
  | loaded
  /-- A lease that had decayed is ended. -/
  | settled
  /-- A tick has evaluated the lease and admits under it. -/
  | evaluated
  deriving DecidableEq

/-- A command or a tick that runs, with its own copy of the lease. -/
structure BurstParty where
  nowMs : Int
  stage : PartyStage
  copy : Option BurstLease
  /-- For the statements only: the lease of the file when the party last read or wrote it. -/
  basis : Option BurstLease

/-- The lease file and those who work on it, with logs that only the statements read. -/
structure BurstWorld where
  file : Option BurstLease := none
  parties : String → Option BurstParty := fun _ => none
  /-- The identifiers that leases were written under. -/
  seen : List String := []
  /-- The leases whose end was written. -/
  ended : List String := []
  /-- The admissions that were accepted, by lease and subject. -/
  accepted : List (String × String) := []

/-- What can happen next; `landed` says whether a write of the step succeeds. -/
inductive BurstEvent where
  | load (name : String) (nowMs : Int) (readable : Bool)
  | settle (name : String) (landed : Bool)
  | request (name : String) (request : BurstRequest) (limits : BurstSystemLimits)
      (leaseId : String) (landed : Bool)
  | revoke (name : String) (reason : String) (revokedBy : Option String) (landed : Bool)
  | refresh (name : String) (spend : Option (Option Rat)) (landed : Bool)
  | admission (name : String) (subject : String) (landed : Bool)

def setParty (world : BurstWorld) (name : String) (party : Option BurstParty) : BurstWorld :=
  { world with parties := Function.update world.parties name party }

/-- Rewrite the whole file; a write that fails leaves it as it is. -/
def persistRecord (world : BurstWorld) (lease : Option BurstLease) (landed : Bool) : BurstWorld :=
  if landed then
    { world with
      file := lease
      seen := world.seen ++ (lease.map BurstLease.leaseId).toList
      ended := world.ended ++
        ((lease.filter fun lease => lease.state.terminal).map BurstLease.leaseId).toList }
  else world

def liveCopy (party : BurstParty) : Option BurstLease :=
  party.copy.filter fun lease => (evaluateLeaseState lease party.nowMs).active

def dueLease (party : BurstParty) : Option BurstLease :=
  party.copy.filter fun lease =>
    !lease.state.terminal && !(evaluateLeaseState lease party.nowMs).active

def openLease (party : BurstParty) : Option BurstLease :=
  party.copy.filter fun lease => !lease.state.terminal

def expiredLease (lease : BurstLease) (nowMs : Int) : BurstLease :=
  endLease lease .expired (((evaluateLeaseState lease nowMs).endReason).getD "ttl-elapsed") nowMs
    none

def settleStep (world : BurstWorld) (name : String) (party : BurstParty) (landed : Bool) :
    BurstWorld :=
  match dueLease party with
  | none => setParty world name (some { party with stage := .settled })
  | some lease =>
    let ended := some (expiredLease lease party.nowMs)
    setParty (persistRecord world ended landed) name
      (some
        { party with
          stage := .settled
          copy := ended
          basis := if landed then ended else party.basis })

def requestStep (world : BurstWorld) (name : String) (party : BurstParty)
    (request : BurstRequest) (limits : BurstSystemLimits) (leaseId : String) (landed : Bool) :
    BurstWorld :=
  let lease :=
    if requestBlockers request limits = [] then
      some (grantedLease request limits party.nowMs (liveCopy party) leaseId)
    else party.copy
  setParty (persistRecord world lease landed) name none

def revokeStep (world : BurstWorld) (name : String) (party : BurstParty) (reason : String)
    (revokedBy : Option String) (landed : Bool) : BurstWorld :=
  match openLease party with
  | none => setParty world name none
  | some lease =>
    let endedReason := if reason = "" then "operator-revoked" else reason
    let ended := endLease lease .revoked endedReason party.nowMs revokedBy
    setParty (persistRecord world (some ended) landed) name none

def withSpend (lease : BurstLease) (spend : Option Rat) (nowMs : Int) : BurstLease :=
  { lease with
    usage :=
      { lease.usage with
        spendUsd := spend, spendReadable := spend.isSome, spendObservedAt := some nowMs } }

def spendChanged (lease : BurstLease) (spend : Option Rat) : Bool :=
  lease.usage.spendUsd ≠ spend || lease.usage.spendReadable ≠ spend.isSome

/-- What a tick writes once it has looked at the spend. -/
def spentLease (party : BurstParty) (spend : Option (Option Rat)) : Option BurstLease :=
  match liveCopy party, spend with
  | some lease, some spend =>
    if spendChanged lease spend then
      let updated := withSpend lease spend party.nowMs
      if (evaluateLeaseState updated party.nowMs).active then some updated
      else some (expiredLease updated party.nowMs)
    else none
  | _, _ => none

def refreshStep (world : BurstWorld) (name : String) (party : BurstParty)
    (spend : Option (Option Rat)) (landed : Bool) : BurstWorld :=
  match spentLease party spend with
  | none => setParty world name (some { party with stage := .evaluated, copy := liveCopy party })
  | some lease =>
    setParty (persistRecord world (some lease) landed) name
      (some
        { party with
          stage := .evaluated
          -- A lease that ended, or that could not be written, is not used.
          copy := if landed = true ∧ lease.state.terminal = false then some lease else none
          basis := if landed then some lease else party.basis })

def chargedLease (lease : BurstLease) (subject : String) : BurstLease :=
  { lease with
    usage :=
      { lease.usage with
        burstReviewsGranted := lease.usage.burstReviewsGranted + 1
        chargedSubjects := lease.usage.chargedSubjects ++ [subject] } }

def recordBurstAdmission (world : BurstWorld) (name : String) (party : BurstParty)
    (subject : String) (landed : Bool) : BurstWorld :=
  match party.copy with
  | none => world
  | some lease =>
    if subject ∈ lease.usage.chargedSubjects then
      { world with accepted := world.accepted ++ [(lease.leaseId, subject)] }
    else if capReached lease then world
    else
      let charged := chargedLease lease subject
      let written := persistRecord world (some charged) landed
      if landed then
        setParty { written with accepted := written.accepted ++ [(lease.leaseId, subject)] } name
          (some { party with copy := some charged, basis := some charged })
      else setParty written name none

def burstStep (world : BurstWorld) : BurstEvent → BurstWorld
  | .load name nowMs readable =>
    let found := if readable then world.file else none
    setParty world name (some { nowMs, stage := .loaded, copy := found, basis := found })
  | .settle name landed =>
    match world.parties name with
    | some party => if party.stage = .loaded then settleStep world name party landed else world
    | none => world
  | .request name request limits leaseId landed =>
    match world.parties name with
    | some party =>
      if party.stage = .settled then requestStep world name party request limits leaseId landed
      else world
    | none => world
  | .revoke name reason revokedBy landed =>
    match world.parties name with
    | some party =>
      if party.stage = .settled then revokeStep world name party reason revokedBy landed else world
    | none => world
  | .refresh name spend landed =>
    match world.parties name with
    | some party =>
      if party.stage = .settled then refreshStep world name party spend landed else world
    | none => world
  | .admission name subject landed =>
    match world.parties name with
    | some party =>
      if party.stage = .evaluated then recordBurstAdmission world name party subject landed
      else world
    | none => world

def runBurst (world : BurstWorld) (events : List BurstEvent) : BurstWorld :=
  events.foldl burstStep world

structure LeaseOk (lease : BurstLease) : Prop where
  capped : 0 < lease.maxBurstReviews
  within : lease.usage.burstReviewsGranted ≤ lease.maxBurstReviews
  counted : lease.usage.burstReviewsGranted = lease.usage.chargedSubjects.length
  distinct : lease.usage.chargedSubjects.Nodup

structure Later (before after : BurstLease) : Prop where
  same : after.leaseId = before.leaseId
  ended : before.state.terminal = true → after.state.terminal = true
  kept : before.usage.chargedSubjects ⊆ after.usage.chargedSubjects

theorem Later.refl (lease : BurstLease) : Later lease lease :=
  ⟨rfl, id, List.Subset.refl _⟩

theorem Later.trans {first second third : BurstLease} (start : Later first second)
    (next : Later second third) : Later first third :=
  ⟨next.same.trans start.same, fun past => next.ended (start.ended past),
    List.Subset.trans start.kept next.kept⟩

section

variable {lease : BurstLease}

theorem LeaseOk.endLease (ok : LeaseOk lease) (state : LeaseState) (reason : String)
    (endedAt : Int) (revokedBy : Option String) :
    LeaseOk (endLease lease state reason endedAt revokedBy) :=
  ⟨ok.capped, ok.within, ok.counted, ok.distinct⟩

theorem later_endLease {state : LeaseState} (past : state.terminal = true) (reason : String)
    (endedAt : Int) (revokedBy : Option String) :
    Later lease (endLease lease state reason endedAt revokedBy) :=
  ⟨rfl, fun _ => past, List.Subset.refl _⟩

theorem LeaseOk.expiredLease (ok : LeaseOk lease) (nowMs : Int) :
    LeaseOk (expiredLease lease nowMs) :=
  ok.endLease _ _ _ _

theorem later_expiredLease (nowMs : Int) : Later lease (expiredLease lease nowMs) :=
  later_endLease rfl _ _ _

theorem LeaseOk.withSpend (ok : LeaseOk lease) (spend : Option Rat) (nowMs : Int) :
    LeaseOk (withSpend lease spend nowMs) :=
  ⟨ok.capped, ok.within, ok.counted, ok.distinct⟩

theorem later_withSpend (spend : Option Rat) (nowMs : Int) :
    Later lease (withSpend lease spend nowMs) :=
  ⟨rfl, id, List.Subset.refl _⟩

theorem LeaseOk.chargedLease (ok : LeaseOk lease) {subject : String}
    (fresh : subject ∉ lease.usage.chargedSubjects) (below : capReached lease = false) :
    LeaseOk (chargedLease lease subject) := by
  -- The cap is positive, so below it there is room for one more.
  have capped := ok.capped
  have counted := ok.counted
  refine ⟨capped, ?_, ?_, ?_⟩
  · simp only [capReached, Bool.and_eq_false_iff, decide_eq_false_iff_not] at below
    simp only [AdversarialReview.Burst.chargedLease]
    omega
  · simp only [AdversarialReview.Burst.chargedLease, List.length_append, List.length_singleton]
    omega
  · simp only [AdversarialReview.Burst.chargedLease, List.nodup_append]
    refine ⟨ok.distinct, List.nodup_singleton _, ?_⟩
    intro first listed second inserted same
    rw [List.mem_singleton.mp inserted] at same
    exact fresh (same ▸ listed)

theorem later_chargedLease (subject : String) : Later lease (chargedLease lease subject) :=
  ⟨rfl, id, List.subset_append_left _ _⟩

theorem active_not_terminal {nowMs : Int}
    (active : (evaluateLeaseState lease nowMs).active = true) : lease.state.terminal = false := by
  -- A lease that has ended is read as ended before anything else is looked at.
  cases past : lease.state.terminal with
  | false => rfl
  | true => simp [evaluateLeaseState, past] at active

end

section

variable {request : BurstRequest} {limits : BurstSystemLimits}

theorem granted_slots (granted : requestBlockers request limits = []) :
    1 ≤ (evaluateBurstSafety request.safety request.slots limits.maxSlots).allowedSlots := by
  -- Only the last of the four checks grants anything.
  unfold requestBlockers at granted
  split at granted
  · cases granted
  split at granted
  · cases granted
  split at granted
  · cases granted
  · exact evaluateBurstSafety_slots granted

theorem reviewCap_pos {grantedSlots : Nat} (slot : 1 ≤ grantedSlots) :
    0 < reviewCap request grantedSlots := by
  -- A cap of its own is positive, and the steady one is a multiple of the slots.
  have steady : 0 < grantedSlots * defaultBurstReviewsPerSlot :=
    Nat.mul_pos slot (by decide)
  unfold reviewCap
  split
  · split
    next own => exact own
    · exact steady
  · exact steady

theorem LeaseOk.updated {lease : BurstLease} (ok : LeaseOk lease)
    (granted : requestBlockers request limits = []) (nowMs : Int) (leaseId : String) :
    LeaseOk (grantedLease request limits nowMs (some lease) leaseId) := by
  -- The new cap covers what is spent and the new slots on top.
  have slot := granted_slots granted
  refine ⟨?_, ?_, ok.counted, ok.distinct⟩
  · simp only [grantedLease]
    omega
  · simp only [grantedLease]
    omega

theorem later_updated {lease : BurstLease} (live : lease.state.terminal = false) (nowMs : Int)
    (leaseId : String) :
    Later lease (grantedLease request limits nowMs (some lease) leaseId) :=
  ⟨rfl, fun past => absurd past (by simp [live]), List.Subset.refl _⟩

theorem leaseOk_new (granted : requestBlockers request limits = []) (nowMs : Int)
    (leaseId : String) : LeaseOk (grantedLease request limits nowMs none leaseId) :=
  ⟨reviewCap_pos (granted_slots granted), Nat.zero_le _, rfl, List.nodup_nil⟩

end

def Faithful (world : BurstWorld) : Prop :=
  ∀ lease, world.file = some lease →
    (lease.leaseId ∈ world.ended → lease.state ≠ .active) ∧
    (∀ subject, (lease.leaseId, subject) ∈ world.accepted →
      subject ∈ lease.usage.chargedSubjects) ∧
    lease.usage.chargedSubjects.Nodup ∧
    lease.usage.burstReviewsGranted = lease.usage.chargedSubjects.length ∧
    lease.usage.burstReviewsGranted ≤ lease.maxBurstReviews

/-- The file still has the lease that a party last read or wrote, if that was one. -/
def current (world : BurstWorld) (party : BurstParty) : Bool :=
  party.basis = none || world.file = party.basis

def rewrites (party : BurstParty) : BurstEvent → Bool
  | .load _ _ _ => false
  | .settle _ landed => landed && party.stage = .loaded && (dueLease party).isSome
  | .request _ _ _ _ landed => landed && party.stage = .settled
  | .revoke _ _ _ landed => landed && party.stage = .settled && (openLease party).isSome
  | .refresh _ spend landed =>
    landed && party.stage = .settled &&
      (liveCopy party).any fun lease => spend.any fun spend => spendChanged lease spend
  | .admission _ subject landed =>
    landed && party.stage = .evaluated &&
      party.copy.any fun lease =>
        decide (subject ∉ lease.usage.chargedSubjects) && !capReached lease

/-- A step of a party would write a new lease under an identifier that was used before. -/
def reusesId (world : BurstWorld) (party : BurstParty) : BurstEvent → Bool
  | .request _ request limits leaseId _ =>
    requestBlockers request limits = [] && (liveCopy party).isNone && leaseId ∈ world.seen
  | _ => false

def BurstEvent.name : BurstEvent → String
  | .load name _ _ | .settle name _ | .request name _ _ _ _ | .revoke name _ _ _
  | .refresh name _ _ | .admission name _ _ => name

/-- A step rewrites the file from a current copy only, and new leases have new identifiers. -/
def careful (world : BurstWorld) (event : BurstEvent) : Bool :=
  match world.parties event.name with
  | none => true
  | some party =>
    (!rewrites party event || current world party) &&
      !(rewrites party event && reusesId world party event)

def carefulRun (world : BurstWorld) : List BurstEvent → Bool
  | [] => true
  | event :: rest => careful world event && carefulRun (burstStep world event) rest

/-- What holds of a knowns copy. -/
structure PartyOk (world : BurstWorld) (party : BurstParty) : Prop where
  ok : ∀ lease, party.copy = some lease → LeaseOk lease
  seen : ∀ basis, party.basis = some basis → basis.leaseId ∈ world.seen
  onFile : ∀ basis lease, party.basis = some basis → world.file = some lease →
    lease.leaseId = basis.leaseId → Later basis lease
  copied : ∀ lease, party.copy = some lease → ∃ basis, party.basis = some basis ∧ Later basis lease
  open_ : ∀ lease, party.copy = some lease → lease.state.terminal = false →
    party.basis = some lease
  evaluated : party.stage = .evaluated → ∀ lease, party.copy = some lease →
    party.basis = some lease

/-- What holds of the file, its logs and everyone's copies. -/
structure BurstInv (world : BurstWorld) : Prop where
  ok : ∀ lease, world.file = some lease → LeaseOk lease
  seen : ∀ lease, world.file = some lease → lease.leaseId ∈ world.seen
  past : ∀ lease, world.file = some lease → lease.leaseId ∈ world.ended →
    lease.state.terminal = true
  charged : ∀ lease subject, world.file = some lease →
    (lease.leaseId, subject) ∈ world.accepted → subject ∈ lease.usage.chargedSubjects
  endedSeen : ∀ leaseId ∈ world.ended, leaseId ∈ world.seen
  acceptedSeen : ∀ admission ∈ world.accepted, admission.1 ∈ world.seen
  parties : ∀ name party, world.parties name = some party → PartyOk world party

def Writable (world : BurstWorld) : Option BurstLease → Prop
  | none => True
  | some lease => LeaseOk lease ∧
    (lease.leaseId ∉ world.seen ∨ ∃ before, world.file = some before ∧ Later before lease)

section

variable {world : BurstWorld} {name : String} {party : BurstParty}

theorem BurstInv.setParty (inv : BurstInv world) (name : String) {party : Option BurstParty}
    (ok : ∀ own, party = some own → PartyOk world own) :
    BurstInv (setParty world name party) := by
  -- A party is the new one, or one that was there before.
  refine ⟨inv.ok, inv.seen, inv.past, inv.charged, inv.endedSeen, inv.acceptedSeen, ?_⟩
  intro other found listed
  have same : PartyOk world found := by
    by_cases own : other = name
    · subst own
      exact ok found (by simpa [AdversarialReview.Burst.setParty] using listed)
    · exact inv.parties other found
        (by simpa [AdversarialReview.Burst.setParty, own] using listed)
  exact ⟨same.ok, same.seen, same.onFile, same.copied, same.open_, same.evaluated⟩

variable {landed : Bool}

theorem BurstInv.persist (inv : BurstInv world) {lease : Option BurstLease}
    (writable : landed = true → Writable world lease) :
    BurstInv (persistRecord world lease landed) := by
  -- A write that fails changes nothing; one that lands puts its lease in every log.
  cases landed with
  | false => exact inv
  | true =>
    have writable := writable rfl
    cases lease with
    | none =>
      simp only [persistRecord, if_true, Option.map_none, Option.toList_none, Option.filter_none,
        List.append_nil]
      refine ⟨?_, ?_, ?_, ?_, inv.endedSeen, inv.acceptedSeen, ?_⟩
      · intro lease onFile
        cases onFile
      · intro lease onFile
        cases onFile
      · intro lease onFile
        cases onFile
      · intro lease subject onFile
        cases onFile
      · intro name party listed
        have before := inv.parties name party listed
        exact ⟨before.ok, before.seen, fun _ _ _ onFile => (by cases onFile), before.copied,
          before.open_, before.evaluated⟩
    | some lease =>
      obtain ⟨ok, origin⟩ := writable
      simp only [persistRecord, if_true, Option.map_some, Option.toList_some]
      refine ⟨?_, ?_, ?_, ?_, ?_, ?_, ?_⟩
      · intro found onFile
        obtain rfl := Option.some.inj onFile
        exact ok
      · intro found onFile
        obtain rfl := Option.some.inj onFile
        simp
      · intro found onFile past
        obtain rfl := Option.some.inj onFile
        rcases List.mem_append.mp past with before | now
        · -- Ended before: the lease on file had ended, and the new one comes after it.
          rcases origin with fresh | ⟨last, onFile, later⟩
          · exact absurd (inv.endedSeen _ before) fresh
          · exact later.ended (inv.past last onFile (later.same ▸ before))
        · -- The write itself is the end.
          cases state : lease.state.terminal with
          | true => rfl
          | false => simp [Option.filter, state] at now
      · -- A charge of the past is on the lease that is rewritten.
        intro found subject onFile admitted
        obtain rfl := Option.some.inj onFile
        rcases origin with fresh | ⟨last, onFile, later⟩
        · exact absurd (inv.acceptedSeen _ admitted) fresh
        · exact later.kept (inv.charged last subject onFile (later.same ▸ admitted))
      · intro leaseId past
        rcases List.mem_append.mp past with before | now
        · exact List.mem_append_left _ (inv.endedSeen leaseId before)
        · refine List.mem_append_right _ ?_
          cases state : lease.state.terminal with
          | true => simpa [Option.filter, state] using now
          | false => simp [Option.filter, state] at now
      · intro admission listed
        exact List.mem_append_left _ (inv.acceptedSeen admission listed)
      · intro name party listed
        have before := inv.parties name party listed
        refine ⟨before.ok, ?_, ?_, before.copied, before.open_, before.evaluated⟩
        · intro basis known
          exact List.mem_append_left _ (before.seen basis known)
        · -- Another party's copy is older than what is written now.
          intro basis found known onFile same
          obtain rfl := Option.some.inj onFile
          rcases origin with fresh | ⟨last, onFile, later⟩
          · exact absurd (same ▸ before.seen basis known) fresh
          · exact (before.onFile basis last known onFile (later.same ▸ same)).trans later

theorem writable_current (partyOk : PartyOk world party) (fresh : current world party = true)
    {copy lease : BurstLease} (copied : party.copy = some copy) (ok : LeaseOk lease)
    (later : Later copy lease) : Writable world (some lease) := by
  -- A current copy comes after what the file has, and so does what comes after the copy.
  obtain ⟨basis, known, before⟩ := partyOk.copied copy copied
  simp only [current, known, Bool.or_eq_true, decide_eq_true_eq, reduceCtorEq, false_or] at fresh
  exact ⟨ok, .inr ⟨basis, fresh, before.trans later⟩⟩

theorem partyOk_written {lease : BurstLease} {stage : PartyStage} {nowMs : Int}
    {copy : Option BurstLease} (ok : LeaseOk lease) (own : copy = some lease ∨ copy = none) :
    PartyOk (persistRecord world (some lease) true)
      { nowMs, stage, copy, basis := some lease } := by
  -- Copy, basis and file are one lease now.
  refine ⟨?_, ?_, ?_, ?_, ?_, ?_⟩
  · intro found copied
    rcases own with own | own
    · obtain rfl := Option.some.inj (own.symm.trans copied)
      exact ok
    · cases own.symm.trans copied
  · intro basis known
    obtain rfl := Option.some.inj known
    simp [persistRecord]
  · intro basis found known onFile _
    obtain rfl := Option.some.inj known
    obtain rfl : lease = found := Option.some.inj onFile
    exact Later.refl _
  · intro found copied
    rcases own with own | own
    · obtain rfl := Option.some.inj (own.symm.trans copied)
      exact ⟨lease, rfl, Later.refl _⟩
    · cases own.symm.trans copied
  · intro found copied _
    rcases own with own | own
    · exact own.symm.trans copied
    · cases own.symm.trans copied
  · intro _ found copied
    rcases own with own | own
    · exact own.symm.trans copied
    · cases own.symm.trans copied

theorem PartyOk.moveOn (partyOk : PartyOk world party) :
    PartyOk world { party with stage := .settled } :=
  ⟨partyOk.ok, partyOk.seen, partyOk.onFile, partyOk.copied, partyOk.open_,
    fun never => by cases never⟩

theorem BurstInv.load (inv : BurstInv world) (name : String) (nowMs : Int) (readable : Bool) :
    BurstInv (burstStep world (.load name nowMs readable)) := by
  -- What is read is the lease on file, or nothing.
  refine inv.setParty name ?_
  intro own same
  obtain rfl := Option.some.inj same
  have read : ∀ lease, (if readable then world.file else none) = some lease →
      world.file = some lease := by
    intro lease found
    cases readable with
    | true => exact found
    | false => cases found
  refine ⟨?_, ?_, ?_, ?_, ?_, ?_⟩
  · exact fun lease copied => inv.ok lease (read lease copied)
  · exact fun basis known => inv.seen basis (read basis known)
  · intro basis lease known onFile _
    obtain rfl := Option.some.inj ((read basis known).symm.trans onFile)
    exact Later.refl _
  · exact fun lease copied => ⟨lease, copied, Later.refl _⟩
  · exact fun lease copied _ => copied
  · intro never
    cases never

theorem BurstInv.settle (inv : BurstInv world) (partyOk : PartyOk world party)
    (fresh : landed = true → (dueLease party).isSome = true → current world party = true) :
    BurstInv (settleStep world name party landed) := by
  -- A copy that has decayed is ended, whether or not the file hears of it.
  unfold settleStep
  split
  · refine inv.setParty name ?_
    intro own same
    obtain rfl := Option.some.inj same
    exact partyOk.moveOn
  next lease due =>
    have copied : party.copy = some lease := (Option.filter_eq_some_iff.mp due).1
    have ok := (partyOk.ok lease copied).expiredLease party.nowMs
    have later : Later lease (expiredLease lease party.nowMs) := later_expiredLease party.nowMs
    have writable : landed = true → Writable world (some (expiredLease lease party.nowMs)) := by
      intro written
      exact writable_current partyOk (fresh written (by rw [due]; rfl)) copied ok later
    refine (inv.persist writable).setParty name ?_
    intro own same
    obtain rfl := Option.some.inj same
    cases landed with
    | true => exact partyOk_written ok (.inl rfl)
    | false =>
      refine ⟨?_, partyOk.seen, partyOk.onFile, ?_, ?_, ?_⟩
      · intro found copied
        obtain rfl := Option.some.inj copied
        exact ok
      · intro found same
        obtain rfl := Option.some.inj same
        obtain ⟨basis, known, before⟩ := partyOk.copied lease copied
        exact ⟨basis, known, before.trans later⟩
      · -- What has ended is not open.
        intro found same live
        obtain rfl := Option.some.inj same
        cases live
      · intro never
        cases never

theorem BurstInv.request (inv : BurstInv world) (partyOk : PartyOk world party)
    {request : BurstRequest} {limits : BurstSystemLimits} {leaseId : String}
    (fresh : landed = true → current world party = true)
    (new : landed = true → requestBlockers request limits = [] → liveCopy party = none →
      leaseId ∉ world.seen) :
    BurstInv (requestStep world name party request limits leaseId landed) := by
  -- A live copy is brought up to date, any other gives way to a new lease.
  unfold requestStep
  refine (inv.persist ?_).setParty name fun own never => by cases never
  intro written
  split
  next granted =>
    cases live : liveCopy party with
    | none => exact ⟨leaseOk_new granted _ _, .inl (new written granted live)⟩
    | some lease =>
      obtain ⟨copied, active⟩ := Option.filter_eq_some_iff.mp live
      exact writable_current partyOk (fresh written) copied
        ((partyOk.ok lease copied).updated granted _ _)
        (later_updated (active_not_terminal active) _ _)
  next =>
    cases copied : party.copy with
    | none => trivial
    | some lease =>
      exact writable_current partyOk (fresh written) copied (partyOk.ok lease copied)
        (Later.refl _)

theorem BurstInv.revoke (inv : BurstInv world) (partyOk : PartyOk world party)
    {reason : String} {revokedBy : Option String}
    (fresh : landed = true → (openLease party).isSome = true → current world party = true) :
    BurstInv (revokeStep world name party reason revokedBy landed) := by
  -- The end of a current copy comes after the lease on file.
  unfold revokeStep
  split
  · exact inv.setParty name fun own never => by cases never
  next lease open_ =>
    have copied : party.copy = some lease := (Option.filter_eq_some_iff.mp open_).1
    refine (inv.persist ?_).setParty name fun own never => by cases never
    intro written
    exact writable_current partyOk (fresh written (by rw [open_]; rfl)) copied
      ((partyOk.ok lease copied).endLease _ _ _ _) (later_endLease rfl _ _ _)

theorem spentLease_later {spend : Option (Option Rat)} {lease : BurstLease}
    (ok : ∀ copy, party.copy = some copy → LeaseOk copy)
    (spent : spentLease party spend = some lease) :
    ∃ copy, party.copy = some copy ∧ LeaseOk lease ∧ Later copy lease ∧
      ((liveCopy party).any fun lease => spend.any fun spend => spendChanged lease spend) =
        true := by
  -- Spend changes no charge, and an end that follows only ends.
  unfold spentLease at spent
  split at spent
  next copy news live =>
    have copied : party.copy = some copy := (Option.filter_eq_some_iff.mp live).1
    split at spent
    next changed =>
      have known : ((liveCopy party).any fun lease =>
          (some news).any fun spend => spendChanged lease spend) = true := by
        simpa [live] using changed
      dsimp only at spent
      split at spent
      · obtain rfl := Option.some.inj spent
        exact ⟨copy, copied, (ok copy copied).withSpend _ _, later_withSpend _ _, known⟩
      · obtain rfl := Option.some.inj spent
        exact ⟨copy, copied, ((ok copy copied).withSpend _ _).expiredLease _,
          (later_withSpend _ _).trans (later_expiredLease _), known⟩
    next => cases spent
  next => cases spent

section

variable (inv : BurstInv world)
include inv

theorem BurstInv.refresh (partyOk : PartyOk world party)
    {spend : Option (Option Rat)} (fresh : landed = true →
      ((liveCopy party).any fun lease => spend.any fun spend => spendChanged lease spend) = true →
        current world party = true) :
    BurstInv (refreshStep world name party spend landed) := by
  -- A copy that is used afterwards is one that the file has.
  unfold refreshStep
  split
  · refine inv.setParty name ?_
    intro own same
    obtain rfl := Option.some.inj same
    have own : ∀ lease, liveCopy party = some lease → party.basis = some lease := by
      intro lease live
      obtain ⟨copied, active⟩ := Option.filter_eq_some_iff.mp live
      exact partyOk.open_ lease copied (active_not_terminal active)
    refine ⟨?_, partyOk.seen, partyOk.onFile, ?_, ?_, ?_⟩
    · exact fun lease live => partyOk.ok lease (Option.filter_eq_some_iff.mp live).1
    · exact fun lease live => partyOk.copied lease (Option.filter_eq_some_iff.mp live).1
    · exact fun lease live _ => own lease live
    · exact fun _ lease live => own lease live
  next lease spent =>
    obtain ⟨copy, copied, ok, later, changed⟩ := spentLease_later partyOk.ok spent
    have writable : landed = true → Writable world (some lease) := fun written =>
      writable_current partyOk (fresh written changed) copied ok later
    refine (inv.persist writable).setParty name ?_
    intro own same
    obtain rfl := Option.some.inj same
    cases landed with
    | true =>
      refine partyOk_written ok ?_
      split
      · exact .inl rfl
      · exact .inr rfl
    | false =>
      have unused : ∀ found, (if false = true ∧ lease.state.terminal = false then some lease
          else none) ≠ some found := by
        intro found
        simp
      refine ⟨?_, partyOk.seen, partyOk.onFile, ?_, ?_, ?_⟩
      · exact fun found own => absurd own (unused found)
      · exact fun found own => absurd own (unused found)
      · exact fun found own _ => absurd own (unused found)
      · exact fun _ found own => absurd own (unused found)

theorem BurstInv.accept {leaseId subject : String} (known : leaseId ∈ world.seen)
    (charged : ∀ lease, world.file = some lease → lease.leaseId = leaseId →
      subject ∈ lease.usage.chargedSubjects) :
    BurstInv { world with accepted := world.accepted ++ [(leaseId, subject)] } := by
  -- The log grows by one admission, which the lease on file has charged.
  refine ⟨inv.ok, inv.seen, inv.past, ?_, inv.endedSeen, ?_, ?_⟩
  · intro lease other onFile admitted
    rcases List.mem_append.mp admitted with before | now
    · exact inv.charged lease other onFile before
    · obtain ⟨same, rfl⟩ := Prod.mk.inj (List.mem_singleton.mp now)
      exact charged lease onFile same
  · intro admission listed
    rcases List.mem_append.mp listed with before | now
    · exact inv.acceptedSeen admission before
    · rw [List.mem_singleton.mp now]
      exact known
  · intro name party listed
    have before := inv.parties name party listed
    exact ⟨before.ok, before.seen, before.onFile, before.copied, before.open_, before.evaluated⟩

theorem BurstInv.admission (partyOk : PartyOk world party)
    (evaluated : party.stage = .evaluated) {subject : String} (fresh : landed = true →
      (party.copy.any fun lease =>
        decide (subject ∉ lease.usage.chargedSubjects) && !capReached lease) = true →
        current world party = true) :
    BurstInv (recordBurstAdmission world name party subject landed) := by
  -- The subject is known, the cap is reached, or the charge is written first.
  unfold recordBurstAdmission
  split
  · exact inv
  next lease copied =>
    have basis := partyOk.evaluated evaluated lease copied
    split
    next known =>
      -- A subject that the copy has charged is charged on file, whoever wrote last.
      refine inv.accept (partyOk.seen lease basis) ?_
      intro found onFile same
      exact (partyOk.onFile lease found basis onFile same).kept known
    split
    · exact inv
    next unknown below =>
      have below : capReached lease = false := by simpa using below
      have ok := (partyOk.ok lease copied).chargedLease unknown below
      have later : Later lease (chargedLease lease subject) := later_chargedLease subject
      have writable : landed = true → Writable world (some (chargedLease lease subject)) := by
        intro written
        refine writable_current partyOk (fresh written ?_) copied ok later
        simp [copied, unknown, below]
      have written := inv.persist writable
      dsimp only
      split
      next lands =>
        subst lands
        have own : BurstInv
            { persistRecord world (some (chargedLease lease subject)) true with
              accepted := world.accepted ++ [(lease.leaseId, subject)] } := by
          refine written.accept ?_ ?_
          · simp [persistRecord, chargedLease]
          · intro found onFile _
            obtain rfl := Option.some.inj onFile
            simp [chargedLease]
        refine own.setParty name ?_
        intro after same
        obtain rfl := Option.some.inj same
        have known := @partyOk_written world (chargedLease lease subject) party.stage party.nowMs
          _ ok (.inl rfl)
        exact ⟨known.ok, known.seen, known.onFile, known.copied, known.open_,
          known.evaluated⟩
      · exact written.setParty name fun after never => by cases never

theorem BurstInv.step {event : BurstEvent}
    (care : careful world event = true) : BurstInv (burstStep world event) := by
  -- Each operation has a lemma of its own; care gives what it asks for.
  cases event with
  | load name nowMs readable => exact inv.load name nowMs readable
  | settle name landed =>
    simp only [burstStep]
    split
    next party listed =>
      simp only [careful, BurstEvent.name, listed, Bool.and_eq_true, Bool.or_eq_true,
        Bool.not_eq_true', rewrites] at care
      split
      next loaded =>
        refine inv.settle (inv.parties name party listed) ?_
        intro lands due
        simpa [lands, loaded, due] using care.1
      · exact inv
    · exact inv
  | request name request limits leaseId landed =>
    simp only [burstStep]
    split
    next party listed =>
      simp only [careful, BurstEvent.name, listed, Bool.and_eq_true, Bool.or_eq_true,
        Bool.not_eq_true', rewrites, reusesId] at care
      split
      next settled =>
        refine inv.request (inv.parties name party listed) ?_ ?_
        · intro lands
          simpa [lands, settled] using care.1
        · intro lands granted dead
          simpa [lands, settled, granted, dead] using care.2
      · exact inv
    · exact inv
  | revoke name reason revokedBy landed =>
    simp only [burstStep]
    split
    next party listed =>
      simp only [careful, BurstEvent.name, listed, Bool.and_eq_true, Bool.or_eq_true,
        Bool.not_eq_true', rewrites] at care
      split
      next settled =>
        refine inv.revoke (inv.parties name party listed) ?_
        intro lands open_
        simpa [lands, settled, open_] using care.1
      · exact inv
    · exact inv
  | refresh name spend landed =>
    simp only [burstStep]
    split
    next party listed =>
      simp only [careful, BurstEvent.name, listed, Bool.and_eq_true, Bool.or_eq_true,
        Bool.not_eq_true', rewrites] at care
      split
      next settled =>
        refine inv.refresh (inv.parties name party listed) ?_
        intro lands changed
        rw [lands, changed] at care
        simpa [settled] using care.1
      · exact inv
    · exact inv
  | admission name subject landed =>
    simp only [burstStep]
    split
    next party listed =>
      simp only [careful, BurstEvent.name, listed, Bool.and_eq_true, Bool.or_eq_true,
        Bool.not_eq_true', rewrites] at care
      split
      next evaluated =>
        refine inv.admission (inv.parties name party listed) evaluated ?_
        intro lands open_
        rw [lands, open_] at care
        simpa [evaluated] using care.1
      · exact inv
    · exact inv

theorem BurstInv.run {events : List BurstEvent}
    (care : carefulRun world events = true) : BurstInv (runBurst world events) := by
  -- By induction on the run, from any world that keeps the invariant.
  induction events generalizing world with
  | nil => exact inv
  | cons event rest ih =>
    simp only [carefulRun, Bool.and_eq_true] at care
    exact ih (inv.step care.1) care.2

theorem BurstInv.faithful : Faithful world := by
  -- Everything is a field of the invariant but the form of the end.
  intro lease onFile
  have ok := inv.ok lease onFile
  refine ⟨?_, fun subject => inv.charged lease subject onFile, ok.distinct, ok.counted,
    ok.within⟩
  intro past live
  have terminal := inv.past lease onFile past
  rw [live] at terminal
  cases terminal

end

end

theorem BurstInv.fresh : BurstInv {} := by
  -- There is no lease, no party and no entry in any log.
  refine ⟨?_, ?_, ?_, ?_, ?_, ?_, ?_⟩
  · intro lease onFile
    cases onFile
  · intro lease onFile
    cases onFile
  · intro lease onFile
    cases onFile
  · intro lease subject onFile
    cases onFile
  · intro leaseId listed
    cases listed
  · intro admission listed
    cases listed
  · intro name party listed
    cases listed

/-- Where every write is made from a current copy, a lease that has ended stays ended, every
accepted admission stays counted and none exceeds the cap, in whatever order the steps come. -/
theorem ended_leases_stay_ended (events : List BurstEvent)
    (care : carefulRun {} events = true) : Faithful (runBurst {} events) :=
  (BurstInv.fresh.run care).faithful

def healthySignals : BurstSignals where
  quotaReadable := true
  availableClasses := ["claude"]
  groundedClasses := []
  postingReadable := true
  outageActive := false
  attempts := 0
  failureRatio := 0
  reviewerReadable := true
  stuckSlots := 0

def demoRequest : BurstRequest where
  slots := 2
  ttlMs := 0
  repos := ["acme/app"]
  packs := []
  budgetUsd := some 20
  maxBurstReviews := none
  reason := "demo"
  safety := some healthySignals

def admittedRun : List BurstEvent :=
  [.load "cli" 0 true, .settle "cli" true, .request "cli" demoRequest {} "burst-1" true,
    .load "tick" 1 true, .settle "tick" true, .refresh "tick" none true,
    .admission "tick" "subject" true]

theorem ended_leases_stay_ended_sample :
    Faithful (runBurst {} (admittedRun ++
      [.load "cli" 2 true, .settle "cli" true, .revoke "cli" "" none true])) :=
  ended_leases_stay_ended _ (by decide +kernel)

/-- The operator revokes while a tick holds its copy, and the tick's next admission writes the
lease back as active. -/
def resurrectingRun : List BurstEvent :=
  admittedRun ++ [.load "cli" 2 true, .settle "cli" true, .revoke "cli" "" none true,
    .admission "tick" "other" true]

theorem revoked_lease_returns : ¬ Faithful (runBurst {} resurrectingRun) := by
  -- The run ends with a lease that is active and whose end was written.
  intro faithful
  have back : (runBurst {} resurrectingRun).file.any (fun lease =>
      lease.state = .active && lease.leaseId ∈ (runBurst {} resurrectingRun).ended) = true := by
    decide +kernel
  obtain ⟨lease, onFile, found⟩ := (Option.any_eq_true _ _).mp back
  simp only [Bool.and_eq_true, decide_eq_true_eq] at found
  exact (faithful lease onFile).1 found.2 found.1

end AdversarialReview.Burst
