import Mathlib.Logic.Function.Basic

/-! The delivery of a pull request comment by processes that may die, and when it is posted once. -/

namespace AdversarialReview.FollowUp

def maxCommentDeliveryAttempts : Nat := 5

def nonRetryableDeliveryReasons : List String :=
  ["missing-pr-coordinates", "no-token-mapping"]

/-- What the poster answers; a poster that throws counts as a failed one. -/
structure PostResult where
  posted : Bool
  reason : Option String := none
  error : Option String := none

structure CommentDelivery where
  posted : Bool
  attempting : Bool
  reason : Option String := none
  error : Option String := none
  attempts : Nat
  recoveredFromSidecar : Bool := false

def buildOwedDelivery : CommentDelivery where
  posted := false
  attempting := false
  attempts := 0

def buildAttemptingDelivery : CommentDelivery where
  posted := false
  attempting := true
  attempts := 1

def buildPendingDelivery (postResult : PostResult) : CommentDelivery where
  posted := postResult.posted
  attempting := false
  reason := if postResult.posted then none else some (postResult.reason.getD "unknown")
  error := postResult.error
  attempts := 1

structure DeliveryRecord where
  delivery : Option CommentDelivery
  /-- Its status is a terminal one, and it names its repository and its pull request. -/
  addressed : Bool := true
  commentDeliveryExemption : Bool := false

def recordOwesRetry (record : DeliveryRecord) : Bool :=
  record.addressed && match record.delivery with
    | none => !record.commentDeliveryExemption
    | some delivery => !delivery.posted && delivery.attempts < maxCommentDeliveryAttempts &&
        !delivery.reason.any fun reason => reason ∈ nonRetryableDeliveryReasons

def readCompletedWorkerReply (record : DeliveryRecord) (found : Bool) : Bool :=
  record.addressed && record.delivery.isNone && !record.commentDeliveryExemption && found

inductive Deliverer where
  | initial
  | retry (candidate : CommentDelivery)
  | backfill

inductive DeliveryOutcome where
  | answered (result : PostResult)
  | recovered (marker : PostResult)

/-- Where a call stands between two of its looks at the files. -/
inductive DeliveryStage where
  | idle
  /-- `tryAcquireDeliveryClaim`, before it creates the claim and before it writes into it. -/
  | claiming (deliverer : Deliverer)
  | created (deliverer : Deliverer)
  /-- The claim was there; before its content is read, and before it is taken for a stale one. -/
  | refused (deliverer : Deliverer)
  | reclaiming (deliverer : Deliverer)
  /-- With the claim, before the look for a marker, and before the call of the poster. -/
  | holding (deliverer : Deliverer)
  | ready (deliverer : Deliverer)
  | posting (deliverer : Deliverer)
  | answered (deliverer : Deliverer) (result : PostResult)
  /-- Before the record is read for its stamp, and before it is written. -/
  | stamping (deliverer : Deliverer) (outcome : DeliveryOutcome)
  | stampRead (deliverer : Deliverer) (outcome : DeliveryOutcome)
      (previous : Option CommentDelivery)
  | stamped (clears : Bool)
  /-- The backfill has found that the record owes nothing yet. -/
  | backfilling
  | releasing
  | done

structure DeliveryClaim where
  createdBy : Nat
  written : Bool

structure DeliveryWorld where
  record : DeliveryRecord
  claim : Option DeliveryClaim
  marker : Option PostResult
  calls : Nat → DeliveryStage
  /-- How often the poster was called. -/
  posts : Nat
  /-- How often it answered that it had posted. -/
  delivered : Nat

/-- What an idle call does when it runs. -/
inductive DeliveryCall where
  | recordInitialCommentDelivery
  | retryFailedCommentDeliveries
  | backfillCompletedWorkerReplyDeliveries
  deriving DecidableEq

structure DeliveryMove where
  call : Nat
  starts : DeliveryCall := .recordInitialCommentDelivery
  result : PostResult := ⟨false, none, none⟩
  found : Bool := true

/-- A record that nobody tried to deliver yet, with its debt stamped or still to be rebuilt. -/
def undelivered (owed exempt addressed : Bool) : DeliveryWorld where
  record := ⟨if owed then some buildOwedDelivery else none, addressed, exempt⟩
  claim := none
  marker := none
  calls := fun _ => .idle
  posts := 0
  delivered := 0

/-- What a deliverer writes, given what its read of the record found. -/
def stampOf (deliverer : Deliverer) (outcome : DeliveryOutcome)
    (previous : Option CommentDelivery) : CommentDelivery :=
  match deliverer, outcome with
  | .retry candidate, .answered result =>
    let previous := previous.getD candidate
    { previous with
      posted := result.posted
      attempting := false
      reason := if result.posted then none
        else some (result.reason.getD (previous.reason.getD "unknown"))
      error := result.error
      attempts := previous.attempts + 1 }
  | .retry candidate, .recovered _ =>
    let previous := previous.getD candidate
    { previous with
      posted := true
      attempting := false
      reason := none
      error := none
      attempts := max previous.attempts 1
      recoveredFromSidecar := true }
  | _, .answered result => buildPendingDelivery result
  | _, .recovered marker => { buildPendingDelivery marker with recoveredFromSidecar := true }

def retryCandidate (record : DeliveryRecord) : CommentDelivery :=
  record.delivery.getD buildOwedDelivery

namespace DeliveryWorld

def goesOn (world : DeliveryWorld) (call : Nat) (stage : DeliveryStage) : DeliveryWorld :=
  { world with calls := Function.update world.calls call stage }

def start (world : DeliveryWorld) (move : DeliveryMove) : DeliveryWorld :=
  match move.starts with
  | .recordInitialCommentDelivery =>
    -- The record is stamped before there is a claim.
    { world with record.delivery := some buildAttemptingDelivery }.goesOn move.call
      (.claiming .initial)
  | .retryFailedCommentDeliveries =>
    if recordOwesRetry world.record && move.found then
      world.goesOn move.call (.claiming (.retry (retryCandidate world.record)))
    else world.goesOn move.call .done
  | .backfillCompletedWorkerReplyDeliveries =>
    if readCompletedWorkerReply world.record move.found then
      world.goesOn move.call (.claiming .backfill)
    else world.goesOn move.call .done

def step (world : DeliveryWorld) (move : DeliveryMove) : DeliveryWorld :=
  match world.calls move.call with
  | .idle => world.start move
  | .claiming deliverer =>
    match world.claim with
    | none => { world with claim := some ⟨move.call, false⟩ }.goesOn move.call (.created deliverer)
    | some _ => world.goesOn move.call (.refused deliverer)
  | .created deliverer =>
    -- The write goes into the file that was opened, whatever the name now stands for.
    let claim := world.claim.map fun claim =>
      if claim.createdBy = move.call then { claim with written := true } else claim
    { world with claim }.goesOn move.call (.holding deliverer)
  | .refused deliverer =>
    match world.claim with
    | some ⟨_, true⟩ => world.goesOn move.call .done
    -- A claim that is gone or still empty has no age, and counts as stale.
    | _ => world.goesOn move.call (.reclaiming deliverer)
  | .reclaiming deliverer =>
    let claim := { world.claim.getD ⟨move.call, true⟩ with written := true }
    { world with claim := some claim }.goesOn move.call (.holding deliverer)
  | .holding .backfill =>
    if readCompletedWorkerReply world.record move.found then world.goesOn move.call .backfilling
    else world.goesOn move.call .releasing
  | .holding deliverer =>
    match world.marker with
    | some marker =>
      if marker.posted then world.goesOn move.call (.stamping deliverer (.recovered marker))
      else world.goesOn move.call (.ready deliverer)
    | none => world.goesOn move.call (.ready deliverer)
  | .ready deliverer =>
    { world with posts := world.posts + 1 }.goesOn move.call (.posting deliverer)
  | .posting deliverer =>
    let delivered := if move.result.posted then world.delivered + 1 else world.delivered
    { world with delivered }.goesOn move.call (.answered deliverer move.result)
  | .answered deliverer result =>
    let marker := if result.posted then some result else world.marker
    { world with marker }.goesOn move.call (.stamping deliverer (.answered result))
  | .stamping deliverer outcome =>
    world.goesOn move.call (.stampRead deliverer outcome world.record.delivery)
  | .stampRead deliverer outcome previous =>
    let clears := match outcome with
      | .answered result => result.posted
      | .recovered _ => true
    { world with record.delivery := some (stampOf deliverer outcome previous) }.goesOn move.call
      (.stamped clears)
  | .stamped clears =>
    { world with marker := if clears then none else world.marker }.goesOn move.call .releasing
  | .backfilling =>
    { world with record.delivery := some buildOwedDelivery }.goesOn move.call .releasing
  | .releasing => { world with claim := none }.goesOn move.call .done
  | .done => world

def run (world : DeliveryWorld) (moves : List DeliveryMove) : DeliveryWorld :=
  moves.foldl step world

def saysPosted (world : DeliveryWorld) : Bool :=
  world.record.delivery.any CommentDelivery.posted

end DeliveryWorld

def DeliveryWorld.attemptsLeft (world : DeliveryWorld) : Bool :=
  world.record.delivery.all fun delivery =>
    !delivery.posted && delivery.attempts < maxCommentDeliveryAttempts

def Deliverer.current (deliverer : Deliverer) (world : DeliveryWorld) : Bool :=
  match deliverer with
  | .initial => world.posts = 0
  | .retry _ => world.attemptsLeft
  | .backfill => true

/-- A step that acts on nothing outdated: the reconcile path stamps and claims only before the
first post, a retry claims only while attempts are left, and nobody takes over a claim that is
there. -/
def DeliveryWorld.carefulStep (world : DeliveryWorld) (move : DeliveryMove) : Bool :=
  match world.calls move.call with
  | .idle => move.starts != .recordInitialCommentDelivery || world.posts = 0
  | .claiming deliverer => world.claim.isSome || deliverer.current world
  | .reclaiming deliverer => world.claim.isNone && deliverer.current world
  | _ => true

def DeliveryWorld.careful (world : DeliveryWorld) : List DeliveryMove → Bool
  | [] => true
  | move :: moves => world.carefulStep move && (world.step move).careful moves

/-- The call has the claim. -/
def DeliveryStage.holds : DeliveryStage → Bool
  | .created _ | .holding _ | .ready _ | .posting _ | .answered _ _ | .stamping _ _
  | .stampRead _ _ _ | .stamped _ | .backfilling | .releasing => true
  | _ => false

def DeliveryStage.unsettled : DeliveryStage → Bool
  | .posting _ | .answered _ _ | .stamping _ _ | .stampRead _ _ _ => true
  | _ => false

def DeliveryStage.marks : DeliveryStage → Bool
  | .stamping _ (.answered result) | .stampRead _ (.answered result) _ => result.posted
  | .stamped clears => clears
  | _ => false

theorem DeliveryStage.holds_of_unsettled {stage : DeliveryStage}
    (unsettled : stage.unsettled = true) : stage.holds = true := by
  cases stage <;> first | rfl | cases unsettled

theorem DeliveryStage.holds_of_marks {stage : DeliveryStage} (marks : stage.marks = true) :
    stage.holds = true := by
  cases stage <;> first | rfl | cases marks

section

def DeliveryWorld.recorded (world : DeliveryWorld) : Nat :=
  (world.record.delivery.map CommentDelivery.attempts).getD 0

structure Settled (world : DeliveryWorld) : Prop where
  counted : world.posts ≤ world.recorded
  capped : world.posts ≤ maxCommentDeliveryAttempts
  once : world.delivered ≤ 1
  shown : world.delivered = 1 → world.saysPosted = true
  paid : world.saysPosted = true → 1 ≤ world.posts

structure Used (world : DeliveryWorld) (deliverer : Deliverer) (said : Bool) : Prop where
  answer : world.delivered = if said then 1 else 0
  unposted : world.saysPosted = false
  some_ : 1 ≤ world.posts
  capped : world.posts ≤ maxCommentDeliveryAttempts
  counted : world.posts ≤ world.recorded + 1
  first : deliverer = .initial → world.posts = 1
  poster : deliverer ≠ .backfill

def Stands (world : DeliveryWorld) : DeliveryStage → Prop
  | .created deliverer | .holding deliverer => deliverer.current world = true
  | .ready deliverer => deliverer.current world = true ∧ deliverer ≠ .backfill
  | .posting deliverer => Used world deliverer false
  | .answered deliverer result => Used world deliverer result.posted
  | .stamping deliverer (.answered result) => Used world deliverer result.posted
  | .stampRead deliverer (.answered result) previous =>
    Used world deliverer result.posted ∧ previous = world.record.delivery
  | .stamping _ (.recovered _) | .stampRead _ (.recovered _) _ => False
  | .backfilling => world.posts = 0
  | _ => True

/-- At most one call has the claim, and the record says of the posts what that call will not
still stamp. -/
structure DeliveryInv (world : DeliveryWorld) : Prop where
  single : ∀ {first second}, (world.calls first).holds = true →
    (world.calls second).holds = true → first = second
  claimed : ∀ {call}, (world.calls call).holds = true → world.claim.isSome = true
  stands : ∀ call, Stands world (world.calls call)
  settled : (∀ call, (world.calls call).unsettled = false) → Settled world
  marked : world.marker.isSome = true → ∃ call, (world.calls call).marks = true

theorem stands_of_idle {world : DeliveryWorld} {stage : DeliveryStage}
    (idle : stage.holds = false) : Stands world stage := by
  cases stage <;> trivial

theorem deliveryInv_undelivered (owed exempt addressed : Bool) :
    DeliveryInv (undelivered owed exempt addressed) where
  single := by
    intro first second holds
    cases holds
  claimed := by
    intro call holds
    cases holds
  stands := fun call => trivial
  settled := fun _ => by
    constructor
    · exact Nat.zero_le _
    · exact Nat.zero_le _
    · exact Nat.zero_le _
    · intro delivered
      cases delivered
    · intro posted
      cases owed <;> cases posted
  marked := by
    intro marked
    cases marked

variable {world : DeliveryWorld} {call : Nat} {stage : DeliveryStage}

theorem saysPosted_of_attemptsLeft (left : world.attemptsLeft = true) :
    world.saysPosted = false := by
  unfold DeliveryWorld.attemptsLeft at left
  unfold DeliveryWorld.saysPosted
  cases delivery : world.record.delivery with
  | none => rfl
  | some delivery =>
    simp only [delivery, Option.all_some, Bool.and_eq_true, Bool.not_eq_true'] at left
    exact left.1

theorem recorded_of_attemptsLeft (left : world.attemptsLeft = true) :
    world.recorded < maxCommentDeliveryAttempts := by
  unfold DeliveryWorld.attemptsLeft at left
  unfold DeliveryWorld.recorded
  cases delivery : world.record.delivery with
  | none => decide
  | some delivery =>
    simp only [delivery, Option.all_some, Bool.and_eq_true, decide_eq_true_eq] at left
    exact left.2

theorem Settled.goesOn (settled : Settled world) : Settled (world.goesOn call stage) :=
  ⟨settled.counted, settled.capped, settled.once, settled.shown, settled.paid⟩

theorem Used.goesOn {deliverer : Deliverer} {said : Bool} (used : Used world deliverer said) :
    Used (world.goesOn call stage) deliverer said :=
  ⟨used.answer, used.unposted, used.some_, used.capped, used.counted, used.first, used.poster⟩

theorem Stands.goesOn {own : DeliveryStage} (stands : Stands world own) :
    Stands (world.goesOn call stage) own := by
  cases own with
  | posting deliverer => exact Used.goesOn stands
  | answered deliverer result => exact Used.goesOn stands
  | stamping deliverer outcome =>
    cases outcome with
    | answered result => exact Used.goesOn stands
    | recovered marker => exact stands
  | stampRead deliverer outcome previous =>
    cases outcome with
    | answered result => exact ⟨Used.goesOn stands.1, stands.2⟩
    | recovered marker => exact stands
  | _ => exact stands

namespace DeliveryInv

theorem others (inv : DeliveryInv world) (holds : (world.calls call).holds = true) {other : Nat}
    (distinct : other ≠ call) : (world.calls other).holds = false := by
  by_contra held
  exact distinct (inv.single (Bool.not_eq_false _ ▸ held) holds)

theorem nobody (inv : DeliveryInv world) (free : world.claim = none) (other : Nat) :
    (world.calls other).holds = false := by
  by_contra held
  have claimed := inv.claimed (Bool.not_eq_false _ ▸ held)
  rw [free] at claimed
  cases claimed

theorem alone {calls : Nat → DeliveryStage} (same : world.calls = Function.update calls call stage)
    (others : ∀ other, other ≠ call → (calls other).holds = false)
    (claimed : stage.holds = true → world.claim.isSome = true) (stands : Stands world stage)
    (settled : stage.unsettled = false → Settled world)
    (marked : world.marker.isSome = true → stage.marks = true) : DeliveryInv world := by
  have own : world.calls call = stage := by rw [same, Function.update_self]
  have idle : ∀ other, other ≠ call → (world.calls other).holds = false := by
    intro other distinct
    rw [same, Function.update_of_ne distinct]
    exact others other distinct
  have holder : ∀ {other}, (world.calls other).holds = true → other = call := by
    intro other holds
    by_contra distinct
    rw [idle other distinct] at holds
    cases holds
  constructor
  · intro first second one two
    rw [holder one, holder two]
  · intro other holds
    have isCall := holder holds
    rw [isCall, own] at holds
    exact claimed holds
  · intro other
    by_cases distinct : other = call
    · rw [distinct, own]
      exact stands
    · exact stands_of_idle (idle other distinct)
  · intro quiet
    apply settled
    rw [← own]
    exact quiet call
  · intro some_
    exact ⟨call, by rw [own]; exact marked some_⟩

theorem marks (inv : DeliveryInv world) (holds : (world.calls call).holds = true)
    (marked : world.marker.isSome = true) : (world.calls call).marks = true := by
  obtain ⟨other, marks⟩ := inv.marked marked
  rw [← inv.single (DeliveryStage.holds_of_marks marks) holds]
  exact marks

theorem settledBy (inv : DeliveryInv world) (holds : (world.calls call).holds = true)
    (quiet : (world.calls call).unsettled = false) : Settled world := by
  apply inv.settled
  intro other
  by_cases distinct : other = call
  · rw [distinct]
    exact quiet
  · by_contra unsettled
    have held := inv.others holds distinct
    rw [DeliveryStage.holds_of_unsettled (Bool.not_eq_false _ ▸ unsettled)] at held
    cases held

theorem without (inv : DeliveryInv world) (idle : (world.calls call).holds = false)
    (still : stage.holds = false) : DeliveryInv (world.goesOn call stage) := by
  have calls (other : Nat) : ((world.goesOn call stage).calls other).holds =
      (world.calls other).holds := by
    by_cases distinct : other = call
    · simp only [DeliveryWorld.goesOn, distinct, Function.update_self, still, idle]
    · simp only [DeliveryWorld.goesOn, Function.update_of_ne distinct]
  have kept {other : Nat} (holds : (world.calls other).holds = true) :
      (world.goesOn call stage).calls other = world.calls other := by
    have distinct : other ≠ call := by
      rintro rfl
      rw [idle] at holds
      cases holds
    simp only [DeliveryWorld.goesOn, Function.update_of_ne distinct]
  constructor
  · intro first second one two
    rw [calls] at one two
    exact inv.single one two
  · intro other holds
    rw [calls] at holds
    exact inv.claimed holds
  · intro other
    by_cases holds : (world.calls other).holds = true
    · rw [kept holds]
      exact (inv.stands other).goesOn
    · exact stands_of_idle (by rw [calls]; simpa using holds)
  · intro quiet
    have settled : Settled world := by
      apply inv.settled
      intro other
      by_contra unsettled
      have holds := DeliveryStage.holds_of_unsettled (Bool.not_eq_false _ ▸ unsettled)
      have settled := quiet other
      rw [kept holds] at settled
      exact unsettled settled
    exact settled.goesOn
  · intro marked
    obtain ⟨other, marks⟩ := inv.marked marked
    exact ⟨other, by rw [kept (DeliveryStage.holds_of_marks marks)]; exact marks⟩

end DeliveryInv

end

section

variable {world : DeliveryWorld} {move : DeliveryMove}

theorem stampOf_answered (deliverer : Deliverer) (result : PostResult)
    (previous : Option CommentDelivery) :
    (stampOf deliverer (.answered result) previous).posted = result.posted := by
  cases deliverer <;> rfl

theorem stampOf_attempts (candidate : CommentDelivery) (result : PostResult)
    (previous : Option CommentDelivery) :
    (previous.map CommentDelivery.attempts).getD 0 <
      (stampOf (.retry candidate) (.answered result) previous).attempts := by
  cases previous with
  | none => exact Nat.succ_pos _
  | some delivery => exact Nat.lt_succ_self _

theorem current_of_same {deliverer : Deliverer} {after : DeliveryWorld}
    (record : after.record = world.record) (posts : after.posts = world.posts)
    (current : deliverer.current world = true) : deliverer.current after = true := by
  cases deliverer with
  | initial => simpa only [Deliverer.current, posts] using current
  | retry candidate =>
    simpa only [Deliverer.current, DeliveryWorld.attemptsLeft, record] using current
  | backfill => rfl

theorem current_prestamped {deliverer : Deliverer} (current : deliverer.current world = true) :
    deliverer.current { world with record.delivery := some buildAttemptingDelivery } = true := by
  cases deliverer with
  | initial => exact current
  | retry candidate => rfl
  | backfill => rfl

namespace DeliveryInv

theorem prestamp (inv : DeliveryInv world) (unused : world.posts = 0) :
    DeliveryInv { world with record.delivery := some buildAttemptingDelivery } where
  single := inv.single
  claimed := inv.claimed
  stands := by
    intro call
    have stands := inv.stands call
    have used {deliverer : Deliverer} {said : Bool} (used : Used world deliverer said) : False := by
      have some_ := used.some_
      omega
    change Stands _ (world.calls call)
    cases at' : world.calls call with
    | created deliverer =>
      rw [at'] at stands
      exact current_prestamped stands
    | holding deliverer =>
      rw [at'] at stands
      exact current_prestamped stands
    | ready deliverer =>
      rw [at'] at stands
      exact ⟨current_prestamped stands.1, stands.2⟩
    | posting deliverer =>
      rw [at'] at stands
      exact (used stands).elim
    | answered deliverer result =>
      rw [at'] at stands
      exact (used stands).elim
    | stamping deliverer outcome =>
      rw [at'] at stands
      cases outcome with
      | answered result => exact (used stands).elim
      | recovered marker => exact stands
    | stampRead deliverer outcome previous =>
      rw [at'] at stands
      cases outcome with
      | answered result => exact (used stands.1).elim
      | recovered marker => exact stands
    | backfilling => exact unused
    | _ => trivial
  settled := by
    intro quiet
    have settled := inv.settled quiet
    -- Nothing was posted, so the poster never said that it had.
    have undelivered : world.delivered ≠ 1 := by
      intro delivered
      have paid := settled.paid (settled.shown delivered)
      omega
    refine ⟨?_, settled.capped, settled.once, fun delivered => absurd delivered undelivered, ?_⟩
    · change world.posts ≤ 1
      omega
    · intro posted
      cases posted
  marked := inv.marked

variable {deliverer : Deliverer}

theorem acquire (inv : DeliveryInv world) (free : world.claim = none)
    (current : deliverer.current world = true) (claim : DeliveryClaim) {stage : DeliveryStage}
    (fresh : stage = .created deliverer ∨ stage = .holding deliverer) (call : Nat) :
    DeliveryInv ({ world with claim := some claim }.goesOn call stage) := by
  have settled : Settled world := by
    apply inv.settled
    intro other
    by_contra unsettled
    have idle := inv.nobody free other
    rw [DeliveryStage.holds_of_unsettled (Bool.not_eq_false _ ▸ unsettled)] at idle
    cases idle
  apply alone rfl
  · exact fun other _ => inv.nobody free other
  · exact fun _ => rfl
  · have kept : deliverer.current ({ world with claim := some claim }.goesOn call stage) = true :=
      current_of_same rfl rfl current
    rcases fresh with rfl | rfl
    · exact kept
    · exact kept
  · exact fun _ => ⟨settled.counted, settled.capped, settled.once, settled.shown, settled.paid⟩
  · intro marked
    obtain ⟨other, marks⟩ := inv.marked marked
    have idle := inv.nobody free other
    rw [DeliveryStage.holds_of_marks marks] at idle
    cases idle

theorem keeps (inv : DeliveryInv world) {call : Nat} {stage : DeliveryStage}
    (holds : (world.calls call).holds = true) {claim : Option DeliveryClaim}
    {marker : Option PostResult} (claimed : stage.holds = true → claim.isSome = true)
    (stands : Stands ({ world with claim, marker }.goesOn call stage) stage)
    (quiet : stage.unsettled = false → (world.calls call).unsettled = false)
    (marked : marker.isSome = true → stage.marks = true) :
    DeliveryInv ({ world with claim, marker }.goesOn call stage) := by
  apply alone rfl
  · exact fun other distinct => inv.others holds distinct
  · exact claimed
  · exact stands
  · intro still
    have settled := inv.settledBy holds (quiet still)
    exact ⟨settled.counted, settled.capped, settled.once, settled.shown, settled.paid⟩
  · exact marked

theorem post (inv : DeliveryInv world) {call : Nat} (at' : world.calls call = .ready deliverer) :
    DeliveryInv ({ world with posts := world.posts + 1 }.goesOn call (.posting deliverer)) := by
  have holds : (world.calls call).holds = true := by rw [at']; rfl
  have settled := inv.settledBy holds (by rw [at']; rfl)
  have stands := inv.stands call
  rw [at'] at stands
  obtain ⟨current, posts_⟩ := stands
  -- A decision that holds found nothing posted, and an attempt left.
  have room : world.saysPosted = false ∧ world.posts < maxCommentDeliveryAttempts := by
    cases deliverer with
    | initial =>
      have unused : world.posts = 0 := by simpa [Deliverer.current] using current
      constructor
      · by_contra posted
        have paid := settled.paid (Bool.not_eq_false _ ▸ posted)
        omega
      · rw [unused]
        decide
    | retry candidate =>
      have counted := settled.counted
      have left := recorded_of_attemptsLeft current
      exact ⟨saysPosted_of_attemptsLeft current, by omega⟩
    | backfill => exact (posts_ rfl).elim
  have undelivered : world.delivered = 0 := by
    have once := settled.once
    by_contra some_
    have posted := settled.shown (by omega)
    rw [room.1] at posted
    cases posted
  apply alone rfl
  · exact fun other distinct => inv.others holds distinct
  · exact fun _ => inv.claimed holds
  · refine ⟨undelivered, room.1, Nat.succ_le_succ (Nat.zero_le _), room.2,
      Nat.succ_le_succ settled.counted, ?_, posts_⟩
    rintro rfl
    have unused : world.posts = 0 := by simpa [Deliverer.current] using current
    change world.posts + 1 = 1
    rw [unused]
  · intro quiet
    cases quiet
  · intro marked
    have marks := inv.marks holds marked
    rw [at'] at marks
    cases marks

theorem answer (inv : DeliveryInv world) {call : Nat}
    (at' : world.calls call = .posting deliverer) (result : PostResult) :
    DeliveryInv ({ world with
      delivered := if result.posted then world.delivered + 1 else world.delivered }.goesOn call
        (.answered deliverer result)) := by
  have holds : (world.calls call).holds = true := by rw [at']; rfl
  have used := inv.stands call
  rw [at'] at used
  have none_ : world.delivered = 0 := by simpa using used.answer
  apply alone rfl
  · exact fun other distinct => inv.others holds distinct
  · exact fun _ => inv.claimed holds
  · refine ⟨?_, used.unposted, used.some_, used.capped, used.counted, used.first,
      used.poster⟩
    change (if result.posted then world.delivered + 1 else world.delivered) = _
    rw [none_]
  · intro quiet
    cases quiet
  · intro marked
    have marks := inv.marks holds marked
    rw [at'] at marks
    cases marks

theorem stamp (inv : DeliveryInv world) {call : Nat} {result : PostResult}
    {previous : Option CommentDelivery}
    (at' : world.calls call = .stampRead deliverer (.answered result) previous) :
    DeliveryInv ({ world with
      record.delivery := some (stampOf deliverer (.answered result) previous) }.goesOn call
        (.stamped result.posted)) := by
  have holds : (world.calls call).holds = true := by rw [at']; rfl
  have stands := inv.stands call
  rw [at'] at stands
  obtain ⟨used, seen⟩ := stands
  have counted := used.counted
  have told : (stampOf deliverer (.answered result) previous).posted = result.posted :=
    stampOf_answered deliverer result previous
  apply alone rfl
  · exact fun other distinct => inv.others holds distinct
  · exact fun _ => inv.claimed holds
  · trivial
  · intro _
    constructor
    · change world.posts ≤ (stampOf deliverer (.answered result) previous).attempts
      cases deliverer with
      | initial =>
        rw [used.first rfl]
        exact Nat.le_refl 1
      | retry candidate =>
        have more := stampOf_attempts candidate result previous
        rw [seen] at more ⊢
        exact Nat.le_trans counted more
      | backfill => exact (used.poster rfl).elim
    · exact used.capped
    · change world.delivered ≤ 1
      rw [used.answer]
      split <;> omega
    · intro delivered
      change (stampOf deliverer (.answered result) previous).posted = true
      rw [told]
      by_contra unsaid
      have none_ := used.answer
      rw [if_neg unsaid] at none_
      have one : world.delivered = 1 := delivered
      omega
    · exact fun _ => used.some_
  · intro marked
    have marks := inv.marks holds marked
    rw [at'] at marks
    exact marks

end DeliveryInv

end

section

variable {world : DeliveryWorld} {move : DeliveryMove}

namespace DeliveryInv

theorem start (inv : DeliveryInv world) (at' : world.calls move.call = .idle)
    (careful : move.starts ≠ .recordInitialCommentDelivery ∨ world.posts = 0) :
    DeliveryInv (world.start move) := by
  have idle : (world.calls move.call).holds = false := by rw [at']; rfl
  unfold DeliveryWorld.start
  cases starts : move.starts with
  | recordInitialCommentDelivery =>
    have unused := careful.resolve_left (by simp [starts])
    exact (inv.prestamp unused).without idle rfl
  | retryFailedCommentDeliveries =>
    simp only []
    split
    · exact inv.without idle rfl
    · exact inv.without idle rfl
  | backfillCompletedWorkerReplyDeliveries =>
    simp only []
    split
    · exact inv.without idle rfl
    · exact inv.without idle rfl

theorem look (inv : DeliveryInv world) {deliverer : Deliverer}
    (at' : world.calls move.call = .holding deliverer) : DeliveryInv (world.step move) := by
  have holds : (world.calls move.call).holds = true := by rw [at']; rfl
  have current := inv.stands move.call
  rw [at'] at current
  have unmarked : world.marker = none := by
    by_contra some_
    have marks := inv.marks holds (Option.isSome_iff_ne_none.mpr some_)
    rw [at'] at marks
    cases marks
  have quiet : (world.calls move.call).unsettled = false := by rw [at']; rfl
  have bare {stage : DeliveryStage} : (world.goesOn move.call stage).marker.isSome = true →
      stage.marks = true := by
    change world.marker.isSome = true → _
    rw [unmarked]
    intro absurd_
    cases absurd_
  unfold DeliveryWorld.step
  rw [at']
  cases deliverer with
  | backfill =>
    simp only []
    split
    · rename_i owed
      -- A record without a delivery counts no attempt, so nothing was posted.
      have unused : world.posts = 0 := by
        have counted := (inv.settledBy holds quiet).counted
        simp only [readCompletedWorkerReply, Bool.and_eq_true, Option.isNone_iff_eq_none] at owed
        simp only [DeliveryWorld.recorded, owed.1.1.2, Option.map_none, Option.getD_none] at counted
        omega
      exact inv.keeps holds (fun _ => inv.claimed holds) unused
        (fun _ => quiet) bare
    · exact inv.keeps holds (fun _ => inv.claimed holds) trivial
        (fun _ => quiet) bare
  | initial =>
    simp only [unmarked]
    exact inv.keeps holds (fun _ => inv.claimed holds)
      ⟨current_of_same rfl rfl current, by simp⟩ (fun _ => quiet) bare
  | retry candidate =>
    simp only [unmarked]
    exact inv.keeps holds (fun _ => inv.claimed holds)
      ⟨current_of_same rfl rfl current, by simp⟩ (fun _ => quiet) bare

theorem backfill (inv : DeliveryInv world) (at' : world.calls move.call = .backfilling) :
    DeliveryInv ({ world with record.delivery := some buildOwedDelivery }.goesOn move.call
      .releasing) := by
  have holds : (world.calls move.call).holds = true := by rw [at']; rfl
  have settled := inv.settledBy holds (by rw [at']; rfl)
  have unused := inv.stands move.call
  rw [at'] at unused
  have none_ : world.posts = 0 := unused
  apply alone rfl
  · exact fun other distinct => inv.others holds distinct
  · exact fun _ => inv.claimed holds
  · trivial
  · intro _
    refine ⟨?_, settled.capped, settled.once, ?_, ?_⟩
    · change world.posts ≤ 0
      omega
    · intro delivered
      have paid := settled.paid (settled.shown delivered)
      omega
    · intro posted
      cases posted
  · intro marked
    have marks := inv.marks holds marked
    rw [at'] at marks
    cases marks

/-- A careful step keeps the invariant; the cases are the stages of the call that takes it. -/
theorem step (inv : DeliveryInv world) (careful : world.carefulStep move = true) :
    DeliveryInv (world.step move) := by
  have carried {stage : DeliveryStage} (at' : world.calls move.call = stage)
      (holding : stage.holds = true) : (world.calls move.call).holds = true := by
    rw [at']
    exact holding
  have absent {stage : DeliveryStage} (at' : world.calls move.call = stage)
      (holding : stage.holds = false) : (world.calls move.call).holds = false := by
    rw [at']
    exact holding
  cases at' : world.calls move.call with
  | idle =>
    simp only [DeliveryWorld.carefulStep, at', Bool.or_eq_true, bne_iff_ne,
      decide_eq_true_eq] at careful
    simpa only [DeliveryWorld.step, at'] using inv.start at' careful
  | claiming deliverer =>
    simp only [DeliveryWorld.step, at']
    cases free : world.claim with
    | none =>
      simp only [DeliveryWorld.carefulStep, at', free, Option.isSome_none, Bool.false_or] at careful
      exact inv.acquire free careful _ (.inl rfl) move.call
    | some claim => exact inv.without (absent at' rfl) rfl
  | created deliverer =>
    have holds := carried at' rfl
    have stands := inv.stands move.call
    rw [at'] at stands
    simp only [DeliveryWorld.step, at']
    apply inv.keeps holds
    · intro _
      rw [Option.isSome_map]
      exact inv.claimed holds
    · exact current_of_same rfl rfl stands
    · intro _
      rw [at']
      rfl
    · intro marked
      have marks := inv.marks holds marked
      rw [at'] at marks
      cases marks
  | refused deliverer =>
    simp only [DeliveryWorld.step, at']
    split
    · exact inv.without (absent at' rfl) rfl
    · exact inv.without (absent at' rfl) rfl
  | reclaiming deliverer =>
    simp only [DeliveryWorld.carefulStep, at', Bool.and_eq_true, Option.isNone_iff_eq_none]
      at careful
    simp only [DeliveryWorld.step, at']
    exact inv.acquire careful.1 careful.2 _ (.inr rfl) move.call
  | holding deliverer => exact inv.look at'
  | ready deliverer =>
    simp only [DeliveryWorld.step, at']
    exact inv.post at'
  | posting deliverer =>
    simp only [DeliveryWorld.step, at']
    exact inv.answer at' move.result
  | answered deliverer result =>
    have holds := carried at' rfl
    have stands := inv.stands move.call
    rw [at'] at stands
    simp only [DeliveryWorld.step, at']
    apply inv.keeps holds
    · exact fun _ => inv.claimed holds
    · exact ⟨stands.answer, stands.unposted, stands.some_, stands.capped, stands.counted,
        stands.first, stands.poster⟩
    · intro quiet
      cases quiet
    · intro marked
      change result.posted = true
      by_contra failed
      rw [if_neg failed] at marked
      have marks := inv.marks holds marked
      rw [at'] at marks
      cases marks
  | stamping deliverer outcome =>
    have holds := carried at' rfl
    have stands := inv.stands move.call
    rw [at'] at stands
    simp only [DeliveryWorld.step, at']
    cases outcome with
    | recovered marker => exact stands.elim
    | answered result =>
      apply inv.keeps holds
      · exact fun _ => inv.claimed holds
      · exact ⟨Used.goesOn stands, rfl⟩
      · intro quiet
        cases quiet
      · intro marked
        have marks := inv.marks holds marked
        rw [at'] at marks
        exact marks
  | stampRead deliverer outcome previous =>
    simp only [DeliveryWorld.step, at']
    cases outcome with
    | recovered marker =>
      have stands := inv.stands move.call
      rw [at'] at stands
      exact stands.elim
    | answered result => exact inv.stamp at'
  | stamped clears =>
    have holds := carried at' rfl
    simp only [DeliveryWorld.step, at']
    apply inv.keeps holds
    · exact fun _ => inv.claimed holds
    · trivial
    · intro _
      rw [at']
      rfl
    · intro marked
      cases clears with
      | true => cases marked
      | false =>
        have marks := inv.marks holds marked
        rw [at'] at marks
        cases marks
  | backfilling =>
    simp only [DeliveryWorld.step, at']
    exact inv.backfill at'
  | releasing =>
    have holds := carried at' rfl
    simp only [DeliveryWorld.step, at']
    apply inv.keeps holds
    · intro held
      cases held
    · trivial
    · intro _
      rw [at']
      rfl
    · intro marked
      have marks := inv.marks holds marked
      rw [at'] at marks
      cases marks
  | done => simpa only [DeliveryWorld.step, at'] using inv

end DeliveryInv

end

section

variable {world : DeliveryWorld} {move : DeliveryMove}

/-- The poster says at most once that it posted, is not called more often than a comment may be
attempted, and what the record says of a posted comment it goes on saying. -/
structure PostedOnce (start : DeliveryWorld) (moves : List DeliveryMove) : Prop where
  once : (start.run moves).delivered ≤ 1
  capped : (start.run moves).posts ≤ maxCommentDeliveryAttempts
  stays : ∀ earlier later, moves = earlier ++ later →
    (start.run earlier).saysPosted = true → (start.run moves).saysPosted = true

namespace DeliveryInv

theorem used (inv : DeliveryInv world) {call : Nat}
    (unsettled : (world.calls call).unsettled = true) :
    ∃ deliverer said, Used world deliverer said := by
  have stands := inv.stands call
  cases at' : world.calls call with
  | posting deliverer =>
    rw [at'] at stands
    exact ⟨deliverer, false, stands⟩
  | answered deliverer result =>
    rw [at'] at stands
    exact ⟨deliverer, result.posted, stands⟩
  | stamping deliverer outcome =>
    rw [at'] at stands
    cases outcome with
    | answered result => exact ⟨deliverer, result.posted, stands⟩
    | recovered marker => exact stands.elim
  | stampRead deliverer outcome previous =>
    rw [at'] at stands
    cases outcome with
    | answered result => exact ⟨deliverer, result.posted, stands.1⟩
    | recovered marker => exact stands.elim
  | _ =>
    rw [at'] at unsettled
    cases unsettled

theorem bounds (inv : DeliveryInv world) :
    world.delivered ≤ 1 ∧ world.posts ≤ maxCommentDeliveryAttempts := by
  by_cases quiet : ∀ call, (world.calls call).unsettled = false
  · have settled := inv.settled quiet
    exact ⟨settled.once, settled.capped⟩
  · simp only [not_forall, Bool.not_eq_false] at quiet
    obtain ⟨call, unsettled⟩ := quiet
    obtain ⟨deliverer, said, used⟩ := inv.used unsettled
    refine ⟨?_, used.capped⟩
    rw [used.answer]
    split <;> omega

theorem settledOf (inv : DeliveryInv world) (posted : world.saysPosted = true) :
    Settled world := by
  apply inv.settled
  intro call
  by_contra unsettled
  obtain ⟨deliverer, said, used⟩ := inv.used (Bool.not_eq_false _ ▸ unsettled)
  have unposted := used.unposted
  rw [posted] at unposted
  cases unposted

theorem stays (inv : DeliveryInv world) (careful : world.carefulStep move = true)
    (posted : world.saysPosted = true) : (world.step move).saysPosted = true := by
  have paid := (inv.settledOf posted).paid posted
  cases at' : world.calls move.call with
  | idle =>
    simp only [DeliveryWorld.carefulStep, at', Bool.or_eq_true, bne_iff_ne,
      decide_eq_true_eq] at careful
    simp only [DeliveryWorld.step, at', DeliveryWorld.start]
    split
    · rename_i starts
      -- A post was made, so the reconcile path does not stamp.
      have unused := careful.resolve_left (by simp [starts])
      omega
    · split <;> exact posted
    · split <;> exact posted
  | stampRead deliverer outcome previous =>
    obtain ⟨other, said, used⟩ := inv.used (by rw [at']; rfl)
    have unposted := used.unposted
    rw [posted] at unposted
    cases unposted
  | backfilling =>
    have stands := inv.stands move.call
    rw [at'] at stands
    have unused : world.posts = 0 := stands
    omega
  | claiming deliverer =>
    simp only [DeliveryWorld.step, at']
    split <;> exact posted
  | refused deliverer =>
    simp only [DeliveryWorld.step, at']
    split <;> exact posted
  | holding deliverer =>
    simp only [DeliveryWorld.step, at']
    cases deliverer with
    | backfill =>
      simp only []
      split <;> exact posted
    | _ =>
      simp only []
      split
      · split <;> exact posted
      · exact posted
  | _ =>
    simp only [DeliveryWorld.step, at']
    exact posted

theorem run (inv : DeliveryInv world) {moves : List DeliveryMove}
    (careful : world.careful moves = true) :
    DeliveryInv (world.run moves) ∧
      (world.saysPosted = true → (world.run moves).saysPosted = true) := by
  induction moves generalizing world with
  | nil => exact ⟨inv, id⟩
  | cons move moves ih =>
    simp only [DeliveryWorld.careful, Bool.and_eq_true] at careful
    obtain ⟨kept, says_⟩ := ih (inv.step careful.1) careful.2
    exact ⟨kept, fun posted => says_ (inv.stays careful.1 posted)⟩

end DeliveryInv

theorem run_append (earlier later : List DeliveryMove) :
    world.run (earlier ++ later) = (world.run earlier).run later :=
  List.foldl_append

theorem careful_append {earlier later : List DeliveryMove}
    (careful : world.careful (earlier ++ later) = true) :
    world.careful earlier = true ∧ (world.run earlier).careful later = true := by
  induction earlier generalizing world with
  | nil => exact ⟨rfl, careful⟩
  | cons move earlier ih =>
    simp only [List.cons_append, DeliveryWorld.careful, Bool.and_eq_true] at careful
    obtain ⟨first, second⟩ := ih careful.2
    exact ⟨by simp [DeliveryWorld.careful, careful.1, first], second⟩

/-- Any number of calls, in any order of their steps, post a comment once where every step is
careful. -/
theorem comment_posted_once (owed exempt addressed : Bool) (moves : List DeliveryMove)
    (careful : (undelivered owed exempt addressed).careful moves = true) :
    PostedOnce (undelivered owed exempt addressed) moves := by
  have begun := deliveryInv_undelivered owed exempt addressed
  have bounds := (begun.run careful).1.bounds
  refine ⟨bounds.1, bounds.2, ?_⟩
  intro earlier later split_
  subst split_
  obtain ⟨first, second⟩ := careful_append careful
  rw [run_append]
  exact ((begun.run first).1.run second).2

/-- The reconcile path posts in vain, and a retry that looks afterwards posts the comment. -/
def failedThenRetried : List DeliveryMove :=
  List.replicate 10 { call := 0 } ++ List.replicate 10
    { call := 1, starts := .retryFailedCommentDeliveries, result := ⟨true, none, none⟩ }

theorem retried_comment_posted_once : PostedOnce (undelivered true false true) failedThenRetried :=
  comment_posted_once true false true failedThenRetried (by decide)

/-- A retry reads its candidate while the reconcile path is about to deliver it, and claims it
after that delivery. -/
def deliveredBetween : List DeliveryMove :=
  [{ call := 0 }, { call := 1, starts := .retryFailedCommentDeliveries }] ++
    List.replicate 10 { call := 0, result := ⟨true, none, none⟩ } ++
    List.replicate 10 { call := 1, result := ⟨true, none, none⟩ }

theorem delivered_between_posts_twice :
    ¬ ∀ owed exempt addressed moves, PostedOnce (undelivered owed exempt addressed) moves := by
  intro holds
  have once := (holds true false true deliveredBetween).once
  have twice : ((undelivered true false true).run deliveredBetween).delivered = 2 := by decide
  omega

end

end AdversarialReview.FollowUp
