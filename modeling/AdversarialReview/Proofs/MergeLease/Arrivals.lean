import AdversarialReview.MergeLease.Lane

/-! Grants of a merge lease follow the queue of its waiters, and a closer that gives its lease back
keeps its arrival. -/

namespace AdversarialReview.MergeLease

section

variable {α : Type} {r : α → α → Prop} [DecidableRel r]

theorem insertionSort_filter_tied {items : List α} {tied : α → Bool}
    (ties : ∀ first second, tied first = true → tied second = true → r first second) :
    (items.insertionSort r).filter tied = items.filter tied := by
  have sorted : (items.filter tied).Pairwise r :=
    List.pairwise_of_forall_mem_list fun first listed second also =>
      ties first second (List.of_mem_filter listed) (List.of_mem_filter also)
  have inside := (List.sublist_insertionSort sorted List.filter_sublist).filter tied
  rw [List.filter_filter] at inside
  simp only [Bool.and_self] at inside
  refine (inside.eq_of_length ?_).symm
  exact ((List.perm_insertionSort r items).filter tied).length_eq.symm

end

def Precedes (waiters : List Waiter) (first second : Waiter) : Prop :=
  (first.deployIncident = true ∧ second.deployIncident = false) ∨
    (first.deployIncident = second.deployIncident ∧
      (first.arrivedAt < second.arrivedAt ∨
        (first.arrivedAt = second.arrivedAt ∧ [first, second].Sublist waiters)))

instance : Std.Total fun first second => waiterLe first second = true where
  total first second := by
    simp only [waiterLe]
    cases first.deployIncident <;> cases second.deployIncident <;> simp [Int.le_total]

instance : IsTrans Waiter fun first second => waiterLe first second = true where
  trans first second third one two := by
    simp only [waiterLe] at one two ⊢
    cases urgent : first.deployIncident <;> cases also : second.deployIncident <;>
      cases last : third.deployIncident <;> simp_all
    all_goals omega

theorem first_precedes {waiters rest : List Waiter} {first other : Waiter}
    {served : Waiter → Bool} (order : (sortWaiters waiters).filter served = first :: rest)
    (waits : other ∈ waiters) (counts : served other = true) (apart : other ≠ first) :
    Precedes waiters first other := by
  have later : other ∈ rest := by
    have listed : other ∈ (sortWaiters waiters).filter served :=
      List.mem_filter.mpr ⟨(List.mem_insertionSort _).mpr waits, counts⟩
    rw [order] at listed
    exact (List.mem_cons.mp listed).resolve_left apart
  have before : waiterLe first other = true := by
    have sorted := (List.pairwise_insertionSort
      (fun one two => waiterLe one two = true) waiters).filter served
    change ((sortWaiters waiters).filter served).Pairwise _ at sorted
    rw [order] at sorted
    exact List.rel_of_pairwise_cons sorted later
  simp only [waiterLe] at before
  split at before
  case isFalse differ =>
    refine .inl ⟨before, ?_⟩
    cases marked : other.deployIncident with
    | false => rfl
    | true => exact absurd (before.trans marked.symm) differ
  case isTrue same =>
    refine .inr ⟨same, ?_⟩
    rcases Int.lt_or_eq_of_le (of_decide_eq_true before) with earlier | tie
    · exact .inl earlier
    -- Those that tie with the first one stand in the sorted file as in the file.
    refine .inr ⟨tie, ?_⟩
    let tied (waiter : Waiter) : Bool :=
      waiter.deployIncident = first.deployIncident ∧ waiter.arrivedAt = first.arrivedAt
    have stable : (sortWaiters waiters).filter tied = waiters.filter tied := by
      refine insertionSort_filter_tied fun one two ofOne ofTwo => ?_
      simp only [tied, decide_eq_true_eq] at ofOne ofTwo
      simp [waiterLe, ofOne, ofTwo]
    have together : first :: rest.filter tied = (waiters.filter tied).filter served := by
      rw [← stable, List.filter_comm, order, List.filter_cons_of_pos (by simp [tied])]
    have inside : [first, other].Sublist (first :: rest.filter tied) :=
      (List.singleton_sublist.mpr
        (List.mem_filter.mpr ⟨later, by simp [tied, same, tie]⟩)).cons_cons first
    rw [together] at inside
    exact inside.trans (List.filter_sublist.trans List.filter_sublist)

def awaitsTurn (host : LaneHost) (waiter : Waiter) : Bool :=
  waiterReady waiter host.now && !(waiterExpired waiter host.now || waiterProcessDead waiter host)

def ServedInTurn (call : AcquireCall) (host : LaneHost) (lane : Lane) : Prop :=
  (∀ waiter ∈ lane.waiters, awaitsTurn host waiter = false) ∨
    ∃ own mine, call.waiter = some own ∧ mine ∈ lane.waiters ∧ mine.waiterId = own.waiterId ∧
      awaitsTurn host mine = true ∧ ∀ other ∈ lane.waiters, awaitsTurn host other = true →
        other ≠ mine → Precedes lane.waiters mine other

theorem readyWaiters_eq (host : LaneHost) (lane : Lane) :
    readyWaiters host lane = (sortWaiters lane.waiters).filter (awaitsTurn host) :=
  List.filter_filter

theorem granted_in_turn {config : LaneConfig} {call : AcquireCall} {host : LaneHost} {lane : Lane}
    (granted : grants config call host lane = true) : ServedInTurn call host lane := by
  simp only [grants, Bool.and_eq_true, itsTurn] at granted
  obtain ⟨⟨-, turn⟩, -⟩ := granted
  have order := readyWaiters_eq host lane
  cases queue : readyWaiters host lane with
  | nil =>
    left
    rw [queue] at order
    intro waiter waits
    exact Bool.eq_false_iff.mpr
      (List.filter_eq_nil_iff.mp order.symm waiter ((List.mem_insertionSort _).mpr waits))
  | cons first rest =>
    right
    rw [queue] at order turn
    obtain ⟨own, named, same⟩ := Option.any_eq_true _ _ |>.mp turn
    have listed : first ∈ (sortWaiters lane.waiters).filter (awaitsTurn host) := by
      rw [← order]
      exact List.mem_cons_self
    obtain ⟨waits, awaits⟩ := List.mem_filter.mp listed
    exact ⟨own, first, named, (List.mem_insertionSort _).mp waits, of_decide_eq_true same, awaits,
      fun other waits counts apart => first_precedes order.symm waits counts apart⟩

section

variable {config : LaneConfig} {pr : Nat} {arrived expires since : Int}

/-- The attempts remember when a closer of a pull request arrived, and nothing else about it. -/
structure Remembered (pr : Nat) (arrived expires since : Int) (attempts : List AttemptRecord) :
    Prop where
  kept : ∃ record ∈ attempts, record.pr = pr ∧ record.queueArrivedAt = some arrived ∧
    record.queueArrivalExpiresAt = some expires ∧ since ≤ record.lastAttemptAt ∧
    ∀ other ∈ attempts, other.isOf pr record.head = true → other = record
  only : ∀ record ∈ attempts, record.pr = pr → ∀ arrival, record.queueArrivedAt = some arrival →
    arrival = arrived

theorem Remembered.congr {attempts others : List AttemptRecord}
    (remembered : Remembered pr arrived expires since attempts)
    (same : ∀ record, record ∈ others ↔ record ∈ attempts) :
    Remembered pr arrived expires since others := by
  obtain ⟨⟨record, listed, ofPr, at_, until_, recent, single⟩, only⟩ := remembered
  exact ⟨⟨record, (same record).mpr listed, ofPr, at_, until_, recent,
    fun other also => single other ((same other).mp also)⟩,
    fun other also => only other ((same other).mp also)⟩

variable {attempts : List AttemptRecord}

theorem remembered_sorted :
    Remembered pr arrived expires since (sortedAttempts config attempts) ↔
      Remembered pr arrived expires since attempts :=
  ⟨fun remembered => remembered.congr fun _ => (List.mem_insertionSort _).symm,
    fun remembered => remembered.congr fun _ => List.mem_insertionSort _⟩

theorem Remembered.map (remembered : Remembered pr arrived expires since attempts)
    {change : AttemptRecord → AttemptRecord}
    (names : ∀ record ∈ attempts, (change record).pr = record.pr ∧
      (change record).head = record.head)
    (keeps : ∀ record ∈ attempts, record.pr = pr →
      (change record).queueArrivedAt = record.queueArrivedAt ∧
      (change record).queueArrivalExpiresAt = record.queueArrivalExpiresAt ∧
      (since ≤ record.lastAttemptAt → since ≤ (change record).lastAttemptAt)) :
    Remembered pr arrived expires since (attempts.map change) := by
  obtain ⟨⟨record, listed, ofPr, at_, until_, recent, single⟩, only⟩ := remembered
  obtain ⟨sameAt, sameUntil, later⟩ := keeps record listed ofPr
  refine ⟨⟨change record, List.mem_map_of_mem listed, (names record listed).1.trans ofPr,
    sameAt.trans at_, sameUntil.trans until_, later recent, fun other also isOf => ?_⟩,
    fun other also named arrival given => ?_⟩
  · obtain ⟨before, among, rfl⟩ := List.mem_map.mp also
    refine congrArg change (single before among ?_)
    simpa only [AttemptRecord.isOf, (names before among).1, (names before among).2,
      (names record listed).2] using isOf
  · obtain ⟨before, among, rfl⟩ := List.mem_map.mp also
    have ofIt := (names before among).1.symm.trans named
    exact only before among ofIt arrival ((keeps before among ofIt).1.symm.trans given)

theorem Remembered.replace
    (remembered : Remembered pr arrived expires since attempts) {keep : AttemptRecord → Bool}
    {more : List AttemptRecord} (kept : ∀ record ∈ attempts, record.pr = pr →
      since ≤ record.lastAttemptAt → keep record = true)
    (apart : ∀ record ∈ more, record.pr ≠ pr) :
    Remembered pr arrived expires since (attempts.filter keep ++ more) := by
  obtain ⟨⟨record, listed, ofPr, at_, until_, recent, single⟩, only⟩ := remembered
  have stays : record ∈ attempts.filter keep :=
    List.mem_filter.mpr ⟨listed, kept record listed ofPr recent⟩
  refine ⟨⟨record, List.mem_append_left _ stays, ofPr, at_, until_, recent,
    fun other also isOf => ?_⟩, fun other also named => ?_⟩
  · rcases List.mem_append.mp also with before | fresh
    · exact single other (List.mem_of_mem_filter before) isOf
    · simp only [AttemptRecord.isOf, Bool.and_eq_true, decide_eq_true_eq] at isOf
      exact absurd isOf.1 (apart other fresh)
  · rcases List.mem_append.mp also with before | fresh
    · exact only other (List.mem_of_mem_filter before) named
    · exact absurd named (apart other fresh)

theorem Remembered.clear
    (remembered : Remembered pr arrived expires since attempts) {other : Nat} (apart : other ≠ pr) :
    Remembered pr arrived expires since (clearCloserArrivals attempts other) := by
  refine remembered.map (fun record _ => ?_) fun record _ ofPr => ?_
  · split <;> exact ⟨rfl, rfl⟩
  · rw [if_neg (fun same => apart (same.symm.trans ofPr))]
    exact ⟨rfl, rfl, id⟩

def WritesOnly (good : List AttemptRecord → Prop) (writes : List LaneWrite) : Prop :=
  ∀ attempts, .attempts attempts ∈ writes → good attempts

variable {good : List AttemptRecord → Prop}

theorem writeAll_attempts {writes : List LaneWrite}
    (only : WritesOnly good writes) {lane : Lane} (before : good lane.attempts) :
    good (lane.writeAll writes).attempts := by
  induction writes generalizing lane with
  | nil => exact before
  | cons write writes ih =>
    refine ih (fun attempts listed => only attempts (List.mem_cons_of_mem _ listed)) ?_
    cases write with
    | attempts attempts => exact only attempts List.mem_cons_self
    | lease => exact before
    | waiters => exact before

theorem WritesOnly.append {first second : List LaneWrite}
    (one : WritesOnly good first) (two : WritesOnly good second) :
    WritesOnly good (first ++ second) := by
  intro attempts listed
  rcases List.mem_append.mp listed with early | late
  · exact one attempts early
  · exact two attempts late

theorem move_attempts {lane : Lane} {move : LaneMove}
    (only : WritesOnly good (move.step.writes config lane)) (before : good lane.attempts) :
    good (lane.move config move).attempts := by
  refine writeAll_attempts (fun attempts listed => only attempts ?_) before
  unfold LaneMove.done at listed
  split at listed
  · exact listed
  · exact List.mem_of_mem_take listed

theorem prunedWrites_only (host : LaneHost) (lane : Lane) :
    WritesOnly good (prunedWrites host lane) := by
  intro attempts listed
  simp only [prunedWrites] at listed
  split at listed <;> simp at listed

end

section

variable {config : LaneConfig} {lane : Lane}

theorem matched_fence {fence : Fence} {lease : LeaseRecord}
    (matched : lane.lease.filter (fun lease => holderMatches lease fence) = some lease) :
    lane.lease = some lease ∧ lease.fence = fence := by
  obtain ⟨held, own⟩ := Option.filter_eq_some_iff.mp matched
  exact ⟨held, of_decide_eq_true own⟩

inductive EndsUnmerged (lease : LeaseRecord) : LaneStep → LaneHost → NoMerge → Prop
  | release (call : ReleaseCall) (host : LaneHost) (goesOn : call.ends = false)
      (isRelease : call.isRelease = true) :
      EndsUnmerged lease (.release lease.fence call host) host
        { reason := call.reason
          chargeable := !(call.yielded || retryableMergeOutcomes.contains call.reason)
          refund := call.yielded || retryableMergeOutcomes.contains call.reason }
  | abort (reason : String) (host : LaneHost) :
      EndsUnmerged lease (.retryableAbort lease.fence reason host) host (.retryableAbort reason)

theorem WritesOnly.lease {good : List AttemptRecord → Prop} {writes : List LaneWrite}
    (only : WritesOnly good writes) (host : LaneHost) (lane : Lane) (lease : Option LeaseRecord) :
    WritesOnly good ((writes ++ [.lease lease]) ++ wakeDaemonWaiter host lane) := by
  refine (only.append fun attempts listed => ?_).append (prunedWrites_only host lane)
  simp at listed

def holdsHead (lane : Lane) (pr : Nat) (head : String) : Bool :=
  lane.lease.any fun lease => lease.holderPr = pr && lease.holderHead = head

theorem step_attempts {good : List AttemptRecord → Prop} {step : LaneStep}
    (gate : ∀ call, step = .gateAttempt call →
      WritesOnly good (recordMergeLeaseGateAttempt config call lane))
    (refund : ∀ pr head now, step = .refund pr head now →
      WritesOnly good (refundMergeLeaseGateAttempt config pr head now lane))
    (forget : ∀ pr head, (step = .forget pr head ∨
        step = .reset pr head ∧ holdsHead lane pr head = false) →
      WritesOnly good (removeAttemptRecords config pr head lane))
    (clear : ∀ lease call host, lane.lease = some lease → step = .release lease.fence call host →
      call.ends = true → good (clearCloserArrivals lane.attempts lease.holderPr))
    (release : ∀ lease host how, lane.lease = some lease → EndsUnmerged lease step host how →
      WritesOnly good (recordNoMergeRelease config host lease how lane).2) :
    WritesOnly good (step.writes config lane) := by
  cases step with
  | gateAttempt call => exact gate call rfl
  | refund pr head now => exact refund pr head now rfl
  | forget pr head => exact forget pr head (.inl rfl)
  | reset pr head =>
    simp only [LaneStep.writes, resetMergeLeaseGateAttempts]
    split
    · exact nofun
    · rename_i free
      refine (forget pr head (.inr ⟨rfl, Bool.eq_false_iff.mpr free⟩)).append
        fun attempts listed => ?_
      split at listed <;> simp at listed
  | release fence call host =>
    simp only [LaneStep.writes, releaseMergeLease]
    split
    · exact nofun
    · rename_i lease matched
      obtain ⟨held, own⟩ := matched_fence matched
      subst own
      refine WritesOnly.lease ?_ host _ none
      split
      · rename_i ends
        split
        · intro attempts listed
          cases List.mem_singleton.mp listed
          exact clear lease call host held rfl ends
        · exact nofun
      · rename_i goesOn
        split
        · rename_i isRelease
          exact release lease host _ held
            (.release call host (Bool.eq_false_iff.mpr goesOn) isRelease)
        · exact nofun
  | retryableAbort fence reason host =>
    simp only [LaneStep.writes, releaseMergeLeaseForRetryableAbort]
    split
    · exact nofun
    · rename_i lease matched
      obtain ⟨held, own⟩ := matched_fence matched
      subst own
      exact (release lease host _ held (.abort reason host)).lease host _ none
  | prune host => exact prunedWrites_only host lane
  | register call host =>
    intro attempts listed
    simp [LaneStep.writes, upsertMergeLeaseWaiter] at listed
  | unregister waiterId expected =>
    intro attempts listed
    simp only [LaneStep.writes, removeMergeLeaseWaiter] at listed
    split at listed <;> simp at listed
  | pruneObsoleteHeads other keepHead =>
    intro attempts listed
    simp only [LaneStep.writes, pruneObsoleteHeads] at listed
    split at listed <;> simp at listed
  | acquire call host =>
    refine (prunedWrites_only host lane).append fun attempts listed => ?_
    split at listed
    · split at listed <;> simp at listed
    · cases listed
  | renew fence now =>
    intro attempts listed
    simp only [LaneStep.writes, renewMergeLease] at listed
    split at listed <;> simp at listed

end

section

variable {config : LaneConfig} {pr : Nat} {arrived expires since returned : Int} {lane : Lane}

def parks (config : LaneConfig) (call : GateAttempt) (lane : Lane) : Bool :=
  (attemptBase call lane).parkedReason.isNone &&
    config.maxGateAttempts ≤ (attemptBase call lane).attempts

def recordedBefore (lane : Lane) (host : LaneHost) (lease : LeaseRecord) : Bool :=
  (activeAttempt lane.attempts lease.holderPr lease.holderHead host.now).any
    fun attempt => attempt.noMergeLeaseId = some lease.leaseId

/-- A section that neither releases a lease of a pull request anew, nor parks or forgets it. -/
def Spares (config : LaneConfig) (pr : Nat) (lane : Lane) : LaneStep → Prop
  | .release fence call host => ∀ lease, lane.lease = some lease →
      holderMatches lease fence = true → lease.holderPr = pr → call.ends = false ∧
        (call.isRelease = true → recordedBefore lane host lease = true)
  | .retryableAbort fence _ host => ∀ lease, lane.lease = some lease →
      holderMatches lease fence = true → lease.holderPr = pr → recordedBefore lane host lease = true
  | .gateAttempt call => call.pr = pr → parks config call lane = false
  | .reset other _ | .forget other _ => other ≠ pr
  | _ => True

/-- When a section runs, where it looks at the clock. -/
def LaneStep.clock : LaneStep → Option Int
  | .register _ host | .prune host | .acquire _ host | .release _ _ host
  | .retryableAbort _ _ host => some host.now
  | .renew _ now | .refund _ _ now => some now
  | .gateAttempt call => some call.now
  | .unregister .. | .pruneObsoleteHeads .. | .reset .. | .forget .. => none

/-- Every section spares a pull request and runs between two times. -/
def SpareAll (config : LaneConfig) (pr : Nat) (since returned : Int) :
    Lane → List LaneMove → Prop
  | _, [] => True
  | lane, move :: moves => Spares config pr lane move.step ∧
      (∀ now ∈ move.step.clock, since ≤ now ∧ now ≤ returned) ∧
      SpareAll config pr since returned (lane.move config move) moves

variable {now : Int}

theorem not_expired {attempt : AttemptRecord} (recent : since ≤ attempt.lastAttemptAt)
    (early : now ≤ returned) (soon : returned < since + 1000 * defaultAttemptTtlSeconds) :
    attemptExpired attempt now = false := by
  have young : ¬defaultAttemptTtlSeconds ≤ ageSecondsFrom attempt.lastAttemptAt now := by
    simp only [ageSecondsFrom, defaultAttemptTtlSeconds] at soon ⊢
    omega
  simp only [attemptExpired, young, decide_false]

variable {attempts : List AttemptRecord}

theorem activeAttempt_isOf {head : String}
    {found : AttemptRecord} (active : activeAttempt attempts pr head now = some found) :
    found ∈ attempts ∧ found.isOf pr head = true := by
  have both := List.find?_some active
  simp only [Bool.and_eq_true] at both
  exact ⟨List.mem_of_find?_eq_some active, both.1⟩

theorem attemptBase_names (call : GateAttempt) :
    (attemptBase call lane).pr = call.pr ∧ (attemptBase call lane).head = call.head := by
  unfold attemptBase attemptAtBase
  cases active : activeAttempt lane.attempts call.pr call.head call.now with
  | none => exact ⟨rfl, rfl⟩
  | some found =>
    obtain ⟨-, isOf⟩ := activeAttempt_isOf active
    simp only [AttemptRecord.isOf, Bool.and_eq_true, decide_eq_true_eq] at isOf
    simp only [Option.map_some, Option.getD_some]
    split <;> exact isOf

theorem attemptBase_arrival (call : GateAttempt) :
    (attemptBase call lane).queueArrivedAt =
        (activeAttempt lane.attempts call.pr call.head call.now).bind
          AttemptRecord.queueArrivedAt ∧
      (attemptBase call lane).queueArrivalExpiresAt =
        (activeAttempt lane.attempts call.pr call.head call.now).bind
          AttemptRecord.queueArrivalExpiresAt := by
  unfold attemptBase attemptAtBase
  cases activeAttempt lane.attempts call.pr call.head call.now with
  | none => exact ⟨rfl, rfl⟩
  | some found =>
    simp only [Option.map_some, Option.getD_some, Option.bind_some]
    split <;> exact ⟨rfl, rfl⟩

theorem Remembered.charge
    (remembered : Remembered pr arrived expires since attempts) {head : String}
    (early : now ≤ returned) (soon : returned < since + 1000 * defaultAttemptTtlSeconds)
    {next : AttemptRecord}
    (named : next.pr = pr ∧ next.head = head) (recent : since ≤ next.lastAttemptAt)
    (arrival : next.queueArrivedAt =
      (activeAttempt attempts pr head now).bind AttemptRecord.queueArrivedAt)
    (expiry : next.queueArrivalExpiresAt =
      (activeAttempt attempts pr head now).bind AttemptRecord.queueArrivalExpiresAt) :
    Remembered pr arrived expires since
      ((attempts.filter fun attempt => !attempt.isOf pr head && !attemptExpired attempt now) ++
        [next]) := by
  obtain ⟨⟨record, listed, ofPr, at_, until_, since_, single⟩, only⟩ := remembered
  have live := not_expired since_ early soon
  have only' : ∀ other ∈ (attempts.filter fun attempt =>
      !attempt.isOf pr head && !attemptExpired attempt now) ++ [next], other.pr = pr →
      ∀ arrival, other.queueArrivedAt = some arrival → arrival = arrived := by
    intro other among ofIt when_ given
    rcases List.mem_append.mp among with before | fresh
    · exact only other (List.mem_of_mem_filter before) ofIt when_ given
    · cases List.mem_singleton.mp fresh
      rw [arrival] at given
      obtain ⟨found, active, found_⟩ := Option.bind_eq_some_iff.mp given
      obtain ⟨inside, isOf⟩ := activeAttempt_isOf active
      simp only [AttemptRecord.isOf, Bool.and_eq_true, decide_eq_true_eq] at isOf
      exact only found inside isOf.1 when_ found_
  by_cases same : record.head = head
  · -- The remembering record itself is charged.
    have isOf : record.isOf pr head = true := by simp [AttemptRecord.isOf, ofPr, same]
    have active : activeAttempt attempts pr head now = some record := by
      cases found : activeAttempt attempts pr head now with
      | none =>
        have none_ := List.find?_eq_none.mp found record listed
        simp [isOf, live] at none_
      | some other =>
        obtain ⟨inside, ofHead⟩ := activeAttempt_isOf found
        rw [single other inside (same ▸ ofHead)]
    rw [active, Option.bind_some] at arrival expiry
    refine ⟨⟨next, List.mem_append_right _ List.mem_cons_self, named.1, arrival.trans at_,
      expiry.trans until_, recent, fun other among also => ?_⟩, only'⟩
    rcases List.mem_append.mp among with before | fresh
    · have apart := (List.mem_filter.mp before).2
      simp [named.2 ▸ also] at apart
    · exact List.mem_singleton.mp fresh
  · have apart : record.isOf pr head = false := by simp [AttemptRecord.isOf, same]
    refine ⟨⟨record, List.mem_append_left _ (List.mem_filter.mpr ⟨listed, by simp [apart, live]⟩),
      ofPr, at_, until_, since_, fun other among also => ?_⟩, only'⟩
    rcases List.mem_append.mp among with before | fresh
    · exact single other (List.mem_of_mem_filter before) also
    · cases List.mem_singleton.mp fresh
      simp only [AttemptRecord.isOf, Bool.and_eq_true, decide_eq_true_eq] at also
      exact absurd (also.2.symm.trans named.2) same

theorem remembered_gateAttempt (remembered : Remembered pr arrived expires since lane.attempts)
    (call : GateAttempt) (spares : Spares config pr lane (.gateAttempt call))
    (late : since ≤ call.now) (early : call.now ≤ returned)
    (soon : returned < since + 1000 * defaultAttemptTtlSeconds) :
    WritesOnly (Remembered pr arrived expires since)
      (recordMergeLeaseGateAttempt config call lane) := by
  intro attempts listed
  obtain ⟨namedPr, namedHead⟩ := @attemptBase_names lane call
  simp only [recordMergeLeaseGateAttempt, List.filter_filter] at listed
  split at listed
  case isTrue parked => cases listed
  case isFalse open_ =>
    -- Where the call is of another pull request, only records of that one come and go.
    have others : call.pr ≠ pr → ∀ more : List AttemptRecord, (∀ record ∈ more, record.pr ≠ pr) →
        Remembered pr arrived expires since ((lane.attempts.filter fun attempt =>
          !attempt.isOf call.pr call.head && !attemptExpired attempt call.now) ++ more) := by
      intro apart more fresh
      refine remembered.replace (fun record _ ofPr recent => ?_) fresh
      have elsewhere : record.pr ≠ call.pr := fun same => apart (same.symm.trans ofPr)
      simp [AttemptRecord.isOf, elsewhere, not_expired recent early soon]
    split at listed
    case isTrue capped =>
      cases List.mem_singleton.mp listed
      have apart : call.pr ≠ pr := by
        intro same
        have spared := spares same
        simp [parks, capped, Option.not_isSome_iff_eq_none.mp open_] at spared
      refine remembered_sorted.2 ((others apart _ fun record fresh => ?_).clear apart)
      cases List.mem_singleton.mp fresh
      exact namedPr ▸ apart
    case isFalse =>
      cases List.mem_singleton.mp listed
      refine remembered_sorted.2 ?_
      by_cases same : call.pr = pr
      · subst same
        obtain ⟨arrival, expiry⟩ := @attemptBase_arrival lane call
        exact remembered.charge early soon ⟨namedPr, namedHead⟩ late arrival expiry
      · refine others same _ fun record fresh => ?_
        cases List.mem_singleton.mp fresh
        exact namedPr ▸ same

theorem remembered_refund (remembered : Remembered pr arrived expires since lane.attempts)
    (other : Nat) (head : String) (late : since ≤ now) :
    WritesOnly (Remembered pr arrived expires since)
      (refundMergeLeaseGateAttempt config other head now lane) := by
  intro attempts listed
  simp only [refundMergeLeaseGateAttempt] at listed
  split at listed
  · cases List.mem_singleton.mp listed
    refine remembered_sorted.2 (remembered.map (fun record _ => ?_) fun record _ _ => ?_)
    · split <;> exact ⟨rfl, rfl⟩
    · split
      · exact ⟨rfl, rfl, fun _ => late⟩
      · exact ⟨rfl, rfl, id⟩
  · cases listed

theorem remembered_forget (remembered : Remembered pr arrived expires since lane.attempts)
    {other : Nat} (apart : other ≠ pr) (head : String) :
    WritesOnly (Remembered pr arrived expires since)
      (removeAttemptRecords config other head lane) := by
  intro attempts listed
  unfold removeAttemptRecords at listed
  split at listed
  · cases listed
  · cases List.mem_singleton.mp listed
    refine remembered_sorted.2 ?_
    rw [← List.append_nil (lane.attempts.filter _)]
    refine remembered.replace (fun record _ ofPr _ => ?_)
      fun record none_ => absurd none_ List.not_mem_nil
    have elsewhere : record.pr ≠ other := fun same => apart (same.symm.trans ofPr)
    simp [AttemptRecord.isOf, elsewhere]

theorem noMergeRecord_names (host : LaneHost) (lease : LeaseRecord) (how : NoMerge)
    (attempts : List AttemptRecord) (previous : Option AttemptRecord) :
    (noMergeRecord config host lease how attempts previous).isOf lease.holderPr lease.holderHead =
      true := by
  have named : (noMergeRecord config host lease how attempts previous).pr = lease.holderPr ∧
      (noMergeRecord config host lease how attempts previous).head = lease.holderHead := by
    simp only [noMergeRecord]
    split
    · exact ⟨rfl, rfl⟩
    · split <;> exact ⟨rfl, rfl⟩
  simp [AttemptRecord.isOf, named]

theorem noMerge_written {host : LaneHost} {lease : LeaseRecord} {how : NoMerge}
    (listed : .attempts attempts ∈ (recordNoMergeRelease config host lease how lane).2) :
    recordedBefore lane host lease = false ∧ ∃ kept, (kept = lane.attempts ∨
      kept = clearCloserArrivals lane.attempts lease.holderPr) ∧
      attempts = sortedAttempts config (kept.filter (fun attempt =>
        !attempt.isOf lease.holderPr lease.holderHead) ++
        [noMergeRecord config host lease how lane.attempts
          (activeAttempt lane.attempts lease.holderPr lease.holderHead host.now)]) := by
  simp only [recordNoMergeRelease] at listed
  split at listed
  · simp at listed
  · rename_i fresh
    simp only [List.mem_cons, LaneWrite.attempts.injEq, reduceCtorEq, List.not_mem_nil, or_false]
      at listed
    refine ⟨?_, _, ?_, listed⟩
    · unfold recordedBefore
      rw [Option.any_eq_false]
      intro found active
      rw [active, Option.filter_eq_none_iff] at fresh
      exact Bool.eq_false_iff.mpr (fresh found rfl)
    · split
      · exact .inr rfl
      · exact .inl rfl

theorem remembered_noMerge (remembered : Remembered pr arrived expires since lane.attempts)
    {host : LaneHost} {lease : LeaseRecord} (how : NoMerge)
    (spared : lease.holderPr = pr → recordedBefore lane host lease = true) :
    WritesOnly (Remembered pr arrived expires since)
      (recordNoMergeRelease config host lease how lane).2 := by
  intro attempts listed
  obtain ⟨unrecorded, kept, from_, rfl⟩ := noMerge_written listed
  have apart : lease.holderPr ≠ pr := by
    intro same
    rw [spared same] at unrecorded
    cases unrecorded
  have before : Remembered pr arrived expires since kept := by
    rcases from_ with rfl | rfl
    · exact remembered
    · exact remembered.clear apart
  refine remembered_sorted.2 (before.replace (fun record _ ofPr _ => ?_) fun record last => ?_)
  · have elsewhere : record.pr ≠ lease.holderPr := fun same => apart (same.symm.trans ofPr)
    simp [AttemptRecord.isOf, elsewhere]
  · cases List.mem_singleton.mp last
    have isOf := @noMergeRecord_names config host lease how lane.attempts
      (activeAttempt lane.attempts lease.holderPr lease.holderHead host.now)
    simp only [AttemptRecord.isOf, Bool.and_eq_true, decide_eq_true_eq] at isOf
    exact fun same => apart (isOf.1.symm.trans same)

theorem remembered_step (remembered : Remembered pr arrived expires since lane.attempts)
    {step : LaneStep} (spares : Spares config pr lane step)
    (between : ∀ now ∈ step.clock, since ≤ now ∧ now ≤ returned)
    (soon : returned < since + 1000 * defaultAttemptTtlSeconds) :
    WritesOnly (Remembered pr arrived expires since) (step.writes config lane) := by
  refine step_attempts (fun call isGate => ?_) (fun other head now isRefund => ?_)
    (fun other head forgets => ?_) (fun lease call host held isRelease ends => ?_)
    fun lease host how held unmerged => ?_
  · subst isGate
    obtain ⟨late, early⟩ := between call.now rfl
    exact remembered_gateAttempt remembered call spares late early soon
  · subst isRefund
    exact remembered_refund remembered other head (between now rfl).1
  · rcases forgets with rfl | ⟨rfl, -⟩ <;> exact remembered_forget remembered spares head
  · subst isRelease
    refine remembered.clear fun same => ?_
    simp [(spares lease held (by simp [holderMatches]) same).1] at ends
  · refine remembered_noMerge remembered how fun same => ?_
    cases unmerged with
    | release call host goesOn isRelease =>
      exact (spares lease held (by simp [holderMatches]) same).2 isRelease
    | abort reason host => exact spares lease held (by simp [holderMatches]) same

theorem remembered_run (remembered : Remembered pr arrived expires since lane.attempts)
    {moves : List LaneMove} (spared : SpareAll config pr since returned lane moves)
    (soon : returned < since + 1000 * defaultAttemptTtlSeconds) :
    Remembered pr arrived expires since (runLane config lane moves).attempts := by
  induction moves generalizing lane with
  | nil => exact remembered
  | cons move moves ih =>
    obtain ⟨spares, between, rest⟩ := spared
    exact ih (move_attempts (remembered_step remembered spares between soon) remembered) rest

end

section

variable {config : LaneConfig} {lane : Lane} {lease : LeaseRecord} {waiter : Waiter}

def memoryEnds (config : LaneConfig) (host : LaneHost) (lane : Lane) (lease : LeaseRecord) : Int :=
  let previous := activeAttempt lane.attempts lease.holderPr lease.holderHead host.now
  host.now + noMergeBackoff config host ((previous.map AttemptRecord.noMergeReleases).getD 0 + 1) +
    config.pollIntervalMs

def isParked (lane : Lane) (host : LaneHost) (lease : LeaseRecord) : Bool :=
  (activeAttempt lane.attempts lease.holderPr lease.holderHead host.now).any
    fun attempt => attempt.parkedReason.isSome

variable {host : LaneHost}

theorem abort_record {reason : String} (closer : lease.isCloser = true)
    (waited : lease.waiter = some waiter) (unparked : isParked lane host lease = false) :
    let previous := activeAttempt lane.attempts lease.holderPr lease.holderHead host.now
    let next := noMergeRecord config host lease (.retryableAbort reason) lane.attempts previous
    next.pr = lease.holderPr ∧ next.head = lease.holderHead ∧
      next.queueArrivedAt = some waiter.arrivedAt ∧
      next.queueArrivalExpiresAt = some (memoryEnds config host lane lease) ∧
      next.lastAttemptAt = host.now := by
  intro previous next
  have open_ : (noMergeBase config host lease (.retryableAbort reason) previous).parkedReason.isNone
      = true := by
    have before : previous.bind AttemptRecord.parkedReason = none := by
      unfold isParked at unparked
      change previous.any _ = false at unparked
      cases found : previous with
      | none => rfl
      | some attempt => simpa [found] using unparked
    have positive := config.positive
    simp only [noMergeBase, NoMerge.retryableAbort, parkedAfter, before, Option.none_or,
      Bool.false_eq_true, ↓reduceIte]
    rw [if_neg (by omega)]
    rfl
  have same : next =
      noMergeRecord config host lease (.retryableAbort reason) lane.attempts previous := rfl
  simp only [noMergeRecord, closer, open_, Bool.and_self, ↓reduceIte] at same
  rw [same]
  refine ⟨by simp only [noMergeBase], by simp only [noMergeBase], ?_, ?_,
    by simp only [noMergeBase]⟩
  · simp only [waited, Option.map_some, Option.some_or, Option.getD_some]
  · simp only [noMergeBase, Option.map_some, memoryEnds, previous]

theorem remembered_abort {reason : String} {stop : Option Nat}
    (held : lane.lease = some lease) (closer : lease.isCloser = true)
    (waited : lease.waiter = some waiter) (fresh : recordedBefore lane host lease = false)
    (unparked : isParked lane host lease = false) (begun : stop.all (1 ≤ ·) = true) :
    Remembered lease.holderPr waiter.arrivedAt (memoryEnds config host lane lease) host.now
      (lane.move config ⟨.retryableAbort lease.fence reason host, stop⟩).attempts := by
  let previous := activeAttempt lane.attempts lease.holderPr lease.holderHead host.now
  let next := noMergeRecord config host lease (.retryableAbort reason) lane.attempts previous
  let list := sortedAttempts config ((clearCloserArrivals lane.attempts lease.holderPr).filter
    (fun attempt => !attempt.isOf lease.holderPr lease.holderHead) ++ [next])
  have remembered : Remembered lease.holderPr waiter.arrivedAt (memoryEnds config host lane lease)
      host.now list := by
    obtain ⟨ofPr, ofHead, at_, until_, last⟩ := abort_record closer waited unparked
    refine remembered_sorted.2 ⟨⟨next, List.mem_append_right _ List.mem_cons_self, ofPr, at_,
      until_, last.ge, fun other among isOf => ?_⟩, fun record among named arrival given => ?_⟩
    · rcases List.mem_append.mp among with before | only
      · have apart := (List.mem_filter.mp before).2
        rw [ofHead] at isOf
        simp [isOf] at apart
      · exact List.mem_singleton.mp only
    · rcases List.mem_append.mp among with before | only
      · -- The other records of the pull request were cleared.
        obtain ⟨old, -, rfl⟩ := List.mem_map.mp (List.mem_of_mem_filter before)
        split at given
        · cases given
        · rename_i elsewhere
          split at named
          · contradiction
          · exact absurd named elsewhere
      · cases List.mem_singleton.mp only
        exact Option.some.inj (given.symm.trans at_)
  obtain ⟨rest, writes, quiet⟩ : ∃ rest,
      (LaneStep.retryableAbort lease.fence reason host).writes config lane =
        .attempts list :: rest ∧ WritesOnly (Remembered lease.holderPr waiter.arrivedAt
          (memoryEnds config host lane lease) host.now) rest := by
    have matched : lane.lease.filter (fun found => holderMatches found lease.fence) = some lease :=
      Option.filter_eq_some_iff.mpr ⟨held, by simp [holderMatches]⟩
    have unrecorded : (activeAttempt lane.attempts lease.holderPr lease.holderHead host.now).filter
        (fun attempt => attempt.noMergeLeaseId = some lease.leaseId) = none := by
      unfold recordedBefore at fresh
      cases found : activeAttempt lane.attempts lease.holderPr lease.holderHead host.now with
      | none => rfl
      | some attempt => simpa [found] using fresh
    simp only [LaneStep.writes, releaseMergeLeaseForRetryableAbort, matched, recordNoMergeRelease,
      unrecorded, closer, Bool.true_or, ↓reduceIte]
    refine ⟨_, rfl, ?_⟩
    refine WritesOnly.append (fun attempts listed => ?_) (prunedWrites_only host _)
    simp at listed
  unfold Lane.move LaneMove.done
  rw [writes]
  cases stop with
  | none => exact writeAll_attempts quiet remembered
  | some count =>
    cases count with
    | zero => simp at begun
    | succ count =>
      exact writeAll_attempts (fun attempts listed => quiet attempts (List.mem_of_mem_take listed))
        remembered

theorem registered_arrival {pr : Nat} {arrived expires since : Int} {call : WaiterCall}
    (remembered : Remembered pr arrived expires since lane.attempts)
    (named : call.pr = pr) (closer : call.daemon = false) (early : host.now < expires)
    (soon : host.now < since + 1000 * defaultAttemptTtlSeconds) :
    (registeredWaiter config call host lane).arrivedAt = arrived := by
  obtain ⟨⟨record, listed, ofPr, at_, until_, recent, -⟩, only⟩ :=
    (@remembered_sorted config _ _ _ _ _).mpr remembered
  have found : ∃ found, closerArrival config (readMergeLeaseAttempts config lane) call.pr host.now =
      some found ∧ found.queueArrivedAt = some arrived := by
    cases sought : closerArrival config (readMergeLeaseAttempts config lane) call.pr host.now with
    | none =>
      have absent := List.find?_eq_none.mp sought record listed
      simp [named, ofPr, at_, closerArrivalExpiry, until_, early,
        not_expired recent (Int.le_refl _) soon] at absent
    | some found =>
      have both := List.find?_some sought
      simp only [Bool.and_eq_true, decide_eq_true_eq] at both
      obtain ⟨arrival, given⟩ := Option.isSome_iff_exists.mp both.1.1.2
      rw [only found (List.mem_of_find?_eq_some sought) (both.1.1.1.trans named) arrival given]
        at given
      exact ⟨found, rfl, given⟩
  obtain ⟨found, sought, given⟩ := found
  simp [registeredWaiter, nextWaiter, closer, sought, given]

def sampleConfig : LaneConfig where
  pollIntervalMs := 60000
  maxGateAttempts := 5
  positive := by decide
  headLe first second := first ≤ second

def hostAt (now : Int) : LaneHost where
  now := now
  host := "local"
  pidAlive _ := true

def sampleWaiter : Waiter where
  pr := 7
  head := "head"
  waiterId := "waiter"
  arrivedAt := 1000
  updatedAt := 1000
  holderPid := 70
  holderHost := "local"
  deadlineSeconds := 900

def sampleLease : LeaseRecord where
  leaseId := "lease"
  holderPr := 7
  holderHead := "head"
  waiter := some sampleWaiter
  holderPid := 70
  holderHost := "local"
  acquiredAt := 2000
  deadlineSeconds := 900
  updatedAt := 2000

def sampleAcquire : AcquireCall where
  holderPr := 7
  holderHead := "head"
  leaseId := "lease"
  waiter := some sampleWaiter
  holderPid := 70
  deadlineSeconds := 900

/-- The closer of the lease comes back. -/
def sampleReturn : WaiterCall where
  pr := 7
  head := "head"
  waiterId := "again"
  holderPid := 71
  deadlineSeconds := 900

def sampleLane : Lane :=
  runLane sampleConfig { lease := some sampleLease } []

def sampleAbort : LaneMove :=
  ⟨.retryableAbort sampleLease.fence "lane-busy" (hostAt 10000), none⟩

def sampleMeantime : List LaneMove :=
  [{ step := .gateAttempt { pr := 8, head := "other", now := 11000 } },
    { step := .gateAttempt { pr := 7, head := "head", now := 12000 } }]

theorem sampleMeantime_spares : SpareAll sampleConfig sampleLease.holderPr (hostAt 10000).now
    (hostAt 20000).now (sampleLane.move sampleConfig sampleAbort) sampleMeantime := by
  refine ⟨fun same => (by cases same), fun now at_ => ?_, fun _ => (by decide),
    fun now at_ => ?_, trivial⟩
  · cases at_
    decide
  · cases at_
    decide

end

end AdversarialReview.MergeLease
