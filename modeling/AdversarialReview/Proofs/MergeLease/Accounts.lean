import AdversarialReview.Proofs.MergeLease.Fencing

/-! What every section does to the attempts of a head, that a release is accounted for once, and that
a parked head waits. -/

namespace AdversarialReview.MergeLease

section

variable {config : LaneConfig} {lane : Lane}

def Charges (step : LaneStep) (record : AttemptRecord) : Prop :=
  ∃ call, step = .gateAttempt call ∧ record.isOf call.pr call.head = true

def Refunds (step : LaneStep) (record : AttemptRecord) : Prop :=
  (∃ pr head now, step = .refund pr head now ∧ record.isOf pr head = true) ∨
  ∃ fence, record.isOf fence.holderPr fence.holderHead = true ∧
    ((∃ call host, step = .release fence call host) ∨
      ∃ reason host, step = .retryableAbort fence reason host)

/-- Where the count of a record comes from: it is the one of an earlier record of its head, one
more by a gate attempt or one less by a refund; or the head starts anew. -/
inductive Counted (lane : Lane) (step : LaneStep) (record : AttemptRecord) : Prop
  | kept (old : AttemptRecord) (listed : old ∈ lane.attempts)
      (sameHead : old.isOf record.pr record.head = true) (same : record.attempts = old.attempts)
  | charged (old : AttemptRecord) (listed : old ∈ lane.attempts)
      (sameHead : old.isOf record.pr record.head = true) (charges : Charges step record)
      (more : record.attempts = old.attempts + 1)
  | refunded (old : AttemptRecord) (listed : old ∈ lane.attempts)
      (sameHead : old.isOf record.pr record.head = true) (refunds : Refunds step record)
      (less : record.attempts = old.attempts - 1)
  | first (charges : Charges step record) (one : record.attempts = 1)
  | unused (refunds : Refunds step record) (zero : record.attempts = 0)

variable {step : LaneStep}

theorem Counted.same {old record : AttemptRecord} (listed : old ∈ lane.attempts)
    (names : record.pr = old.pr ∧ record.head = old.head)
    (count : record.attempts = old.attempts) : Counted lane step record :=
  .kept old listed (by simp [AttemptRecord.isOf, names.1, names.2]) count

def AllCounted (config : LaneConfig) (lane : Lane) (step : LaneStep)
    (attempts : List AttemptRecord) : Prop :=
  ∀ record ∈ attempts, Counted lane step record ∧
    ((∀ old ∈ lane.attempts, old.attempts ≤ config.maxGateAttempts) →
      record.attempts ≤ config.maxGateAttempts)

theorem allCounted_before : AllCounted config lane step lane.attempts :=
  fun record listed => ⟨.same listed ⟨rfl, rfl⟩ rfl, fun bounded => bounded record listed⟩

variable {attempts : List AttemptRecord}

theorem allCounted_sorted :
    AllCounted config lane step (sortedAttempts config attempts) ↔
      AllCounted config lane step attempts :=
  ⟨fun counted record listed => counted record ((List.mem_insertionSort _).mpr listed),
    fun counted record listed => counted record ((List.mem_insertionSort _).mp listed)⟩

theorem AllCounted.append {attempts more : List AttemptRecord}
    (one : AllCounted config lane step attempts) (two : AllCounted config lane step more) :
    AllCounted config lane step (attempts ++ more) := by
  intro record listed
  rcases List.mem_append.mp listed with early | late
  · exact one record early
  · exact two record late

theorem AllCounted.filter
    (counted : AllCounted config lane step attempts) (keep : AttemptRecord → Bool) :
    AllCounted config lane step (attempts.filter keep) :=
  fun record listed => counted record (List.mem_of_mem_filter listed)

theorem AllCounted.clear (counted : AllCounted config lane step attempts) (pr : Nat) :
    AllCounted config lane step (clearCloserArrivals attempts pr) := by
  intro record listed
  obtain ⟨old, before, rfl⟩ := List.mem_map.mp listed
  obtain ⟨from_, bounded⟩ := counted old before
  split
  · refine ⟨?_, bounded⟩
    cases from_ with
    | kept old listed sameHead same => exact .kept old listed sameHead same
    | charged old listed sameHead charges more => exact .charged old listed sameHead charges more
    | refunded old listed sameHead refunds less => exact .refunded old listed sameHead refunds less
    | first charges one => exact .first charges one
    | unused refunds zero => exact .unused refunds zero
  · exact ⟨from_, bounded⟩

theorem attemptBase_count (call : GateAttempt) :
    (∃ old ∈ lane.attempts, old.isOf call.pr call.head = true ∧
      (attemptBase call lane).attempts = old.attempts) ∨ (attemptBase call lane).attempts = 0 := by
  unfold attemptBase attemptAtBase
  cases active : activeAttempt lane.attempts call.pr call.head call.now with
  | none => exact .inr rfl
  | some found =>
    obtain ⟨listed, isOf⟩ := activeAttempt_isOf active
    simp only [Option.map_some, Option.getD_some]
    split
    · exact .inr rfl
    · exact .inl ⟨found, listed, isOf, rfl⟩

theorem counted_gateAttempt (call : GateAttempt) :
    WritesOnly (AllCounted config lane (.gateAttempt call))
      (recordMergeLeaseGateAttempt config call lane) := by
  intro attempts listed
  obtain ⟨namedPr, namedHead⟩ := @attemptBase_names lane call
  simp only [recordMergeLeaseGateAttempt] at listed
  have others := ((@allCounted_before config lane (.gateAttempt call)).filter
    fun attempt => !attemptExpired attempt call.now).filter
      fun attempt => !attempt.isOf call.pr call.head
  split at listed
  -- A parked head is answered without a write.
  case isTrue => cases listed
  case isFalse =>
    split at listed
    case isTrue used =>
      cases List.mem_singleton.mp listed
      refine allCounted_sorted.2 ((others.append fun record last => ?_).clear call.pr)
      cases List.mem_singleton.mp last
      rcases @attemptBase_count lane call with ⟨old, before, isOf, count⟩ | none_
      · refine ⟨.kept old before ?_ count, fun bounded => ?_⟩
        · simpa only [withoutCloserArrival, namedPr, namedHead] using isOf
        · exact count ▸ bounded old before
      · -- A head that starts anew has used none of the attempts there are.
        have positive := config.positive
        omega
    case isFalse unused =>
      cases List.mem_singleton.mp listed
      refine allCounted_sorted.2 (others.append fun record last => ?_)
      cases List.mem_singleton.mp last
      have charges : Charges (.gateAttempt call) { attemptBase call lane with
          baseSha := (call.baseSha.filter (· ≠ "")).or (attemptBase call lane).baseSha
          attempts := (attemptBase call lane).attempts + 1
          lastAttemptAt := call.now } :=
        ⟨call, rfl, by simp [AttemptRecord.isOf, namedPr, namedHead]⟩
      refine ⟨?_, fun _ => Nat.lt_of_not_le unused⟩
      rcases @attemptBase_count lane call with ⟨old, before, isOf, count⟩ | none_
      · refine .charged old before ?_ charges (congrArg (· + 1) count)
        simpa only [namedPr, namedHead] using isOf
      · exact .first charges (congrArg (· + 1) none_)

theorem counted_refund (pr : Nat) (head : String) (now : Int) :
    WritesOnly (AllCounted config lane (.refund pr head now))
      (refundMergeLeaseGateAttempt config pr head now lane) := by
  intro attempts listed
  simp only [refundMergeLeaseGateAttempt] at listed
  split at listed
  · cases List.mem_singleton.mp listed
    refine allCounted_sorted.2 fun record changed => ?_
    obtain ⟨old, before, rfl⟩ := List.mem_map.mp changed
    split
    · rename_i isOf
      refine ⟨.refunded old before (by simp [AttemptRecord.isOf, AttemptRecord.refunded])
        (.inl ⟨pr, head, now, rfl, isOf⟩) rfl, fun bounded => ?_⟩
      exact (Nat.sub_le _ _).trans (bounded old before)
    · exact allCounted_before old before
  · cases listed

theorem noMergeRecord_count (host : LaneHost) (lease : LeaseRecord) (how : NoMerge)
    (attempts : List AttemptRecord) (previous : Option AttemptRecord) :
    (noMergeRecord config host lease how attempts previous).attempts =
      (previous.map fun old => if how.refund then old.attempts - 1 else old.attempts).getD 0 := by
  have base : (noMergeBase config host lease how previous).attempts =
      (previous.map fun old => if how.refund then old.attempts - 1 else old.attempts).getD 0 := by
    cases previous with
    | none => rfl
    | some old =>
      simp only [noMergeBase, Option.map_some, Option.getD_some]
      split <;> rfl
  rw [← base]
  simp only [noMergeRecord]
  split
  · rfl
  · split <;> rfl

theorem counted_noMerge {host : LaneHost} {lease : LeaseRecord} (how : NoMerge)
    (refunds : ∀ record : AttemptRecord, record.isOf lease.holderPr lease.holderHead = true →
      Refunds step record) :
    WritesOnly (AllCounted config lane step)
      (recordNoMergeRelease config host lease how lane).2 := by
  intro attempts listed
  obtain ⟨-, kept, from_, rfl⟩ := noMerge_written listed
  refine allCounted_sorted.2 (AllCounted.append ?_ fun record last => ?_)
  · rcases from_ with rfl | rfl
    · exact allCounted_before.filter _
    · exact (allCounted_before.clear lease.holderPr).filter _
  · cases List.mem_singleton.mp last
    have count := @noMergeRecord_count config host lease how lane.attempts
      (activeAttempt lane.attempts lease.holderPr lease.holderHead host.now)
    have isOf := @noMergeRecord_names config host lease how lane.attempts
      (activeAttempt lane.attempts lease.holderPr lease.holderHead host.now)
    have gives := refunds _ isOf
    simp only [AttemptRecord.isOf, Bool.and_eq_true, decide_eq_true_eq] at isOf
    cases active : activeAttempt lane.attempts lease.holderPr lease.holderHead host.now with
    | none =>
      -- The head had no record; the new one has charged nothing.
      rw [active] at count gives
      exact ⟨.unused gives count, fun _ => count.trans_le (Nat.zero_le _)⟩
    | some old =>
      obtain ⟨before, ofLease⟩ := activeAttempt_isOf active
      rw [active] at count gives isOf
      have sameHead : old.isOf (noMergeRecord config host lease how lane.attempts (some old)).pr
          (noMergeRecord config host lease how lane.attempts (some old)).head = true := by
        rw [isOf.1, isOf.2]
        exact ofLease
      simp only [Option.map_some, Option.getD_some] at count
      -- Only a retryable outcome gives the attempt back.
      split at count
      · exact ⟨.refunded old before sameHead gives count, fun bounded =>
          count.trans_le ((Nat.sub_le _ _).trans (bounded old before))⟩
      · exact ⟨.kept old before sameHead count, fun bounded =>
          count.trans_le (bounded old before)⟩

theorem counted_forget (pr : Nat) (head : String) :
    WritesOnly (AllCounted config lane step) (removeAttemptRecords config pr head lane) := by
  intro attempts listed
  unfold removeAttemptRecords at listed
  split at listed
  · cases listed
  · cases List.mem_singleton.mp listed
    exact allCounted_sorted.2 (allCounted_before.filter _)

theorem counted_step (step : LaneStep) :
    WritesOnly (AllCounted config lane step) (step.writes config lane) := by
  refine step_attempts (fun call isGate => ?_) (fun pr head now isRefund => ?_)
    (fun pr head _ => counted_forget pr head) (fun lease _ _ _ _ _ =>
      allCounted_before.clear lease.holderPr) fun lease host how _ unmerged => ?_
  · subst isGate
    exact counted_gateAttempt call
  · subst isRefund
    exact counted_refund pr head now
  · refine counted_noMerge how fun record isOf => .inr ⟨lease.fence, isOf, ?_⟩
    cases unmerged with
    | release call host => exact .inl ⟨call, host, rfl⟩
    | abort reason host => exact .inr ⟨reason, host, rfl⟩

theorem counted_move (move : LaneMove) :
    AllCounted config lane move.step (lane.move config move).attempts :=
  move_attempts (counted_step move.step) allCounted_before

theorem bounded_run (bounded : ∀ record ∈ lane.attempts, record.attempts ≤ config.maxGateAttempts)
    (moves : List LaneMove) :
    ∀ record ∈ (runLane config lane moves).attempts, record.attempts ≤ config.maxGateAttempts := by
  induction moves generalizing lane with
  | nil => exact bounded
  | cons move moves ih =>
    exact ih fun record listed => (counted_move move record listed).2 bounded

end

section

variable {config : LaneConfig} {lane : Lane} {mark : AttemptRecord → Prop} {pr : Nat}
  {head : String}

structure Marked (mark : AttemptRecord → Prop) (pr : Nat) (head : String)
    (attempts : List AttemptRecord) : Prop where
  listed : ∃ record ∈ attempts, record.isOf pr head = true
  each : ∀ record ∈ attempts, record.isOf pr head = true → mark record

structure Lasting (mark : AttemptRecord → Prop) : Prop where
  charge : ∀ record (baseSha : Option String) (now : Int), mark record →
    mark { record with baseSha := baseSha, attempts := record.attempts + 1, lastAttemptAt := now }
  cap : ∀ record (reason : String), mark record → mark { record with parkedReason := some reason }
  refund : ∀ record (now : Int), mark record → mark { record.refunded with lastAttemptAt := now }
  clear : ∀ record, mark record → mark (withoutCloserArrival record)

def Unexpired (pr : Nat) (head : String) (now : Int) (attempts : List AttemptRecord) : Prop :=
  ∀ record ∈ attempts, record.isOf pr head = true → attemptExpired record now = false

theorem isOf_apart {record : AttemptRecord} {other : Nat} {otherHead : String}
    (isOf : record.isOf pr head = true) (apart : ¬(other = pr ∧ otherHead = head)) :
    record.isOf other otherHead = false := by
  refine Bool.eq_false_iff.mpr fun same => apart ?_
  simp only [AttemptRecord.isOf, Bool.and_eq_true, decide_eq_true_eq] at isOf same
  exact ⟨same.1.symm.trans isOf.1, same.2.symm.trans isOf.2⟩

variable {attempts : List AttemptRecord}

theorem marked_sorted :
    Marked mark pr head (sortedAttempts config attempts) ↔ Marked mark pr head attempts := by
  have same : ∀ record, record ∈ sortedAttempts config attempts ↔ record ∈ attempts :=
    fun record => List.mem_insertionSort _
  constructor
  · rintro ⟨⟨record, listed, isOf⟩, each⟩
    exact ⟨⟨record, (same record).mp listed, isOf⟩, fun other also =>
      each other ((same other).mpr also)⟩
  · rintro ⟨⟨record, listed, isOf⟩, each⟩
    exact ⟨⟨record, (same record).mpr listed, isOf⟩, fun other also =>
      each other ((same other).mp also)⟩

theorem Marked.map (marked : Marked mark pr head attempts) {change : AttemptRecord → AttemptRecord}
    (names : ∀ record, (change record).pr = record.pr ∧ (change record).head = record.head)
    (keeps : ∀ record, mark record → mark (change record)) :
    Marked mark pr head (attempts.map change) := by
  have sameHead : ∀ record, (change record).isOf pr head = record.isOf pr head := fun record => by
    simp [AttemptRecord.isOf, names record]
  obtain ⟨⟨record, listed, isOf⟩, each⟩ := marked
  refine ⟨⟨change record, List.mem_map_of_mem listed, (sameHead record).trans isOf⟩,
    fun other also ofIt => ?_⟩
  obtain ⟨old, before, rfl⟩ := List.mem_map.mp also
  exact keeps old (each old before ((sameHead old).symm.trans ofIt))

theorem Marked.replace (marked : Marked mark pr head attempts)
    {keep : AttemptRecord → Bool} {more : List AttemptRecord}
    (kept : ∀ record ∈ attempts, record.isOf pr head = true → keep record = true)
    (apart : ∀ record ∈ more, record.isOf pr head = false) :
    Marked mark pr head (attempts.filter keep ++ more) := by
  obtain ⟨⟨record, listed, isOf⟩, each⟩ := marked
  refine ⟨⟨record, List.mem_append_left _ (List.mem_filter.mpr ⟨listed, kept record listed isOf⟩),
    isOf⟩, fun other also ofIt => ?_⟩
  rcases List.mem_append.mp also with before | fresh
  · exact each other (List.mem_of_mem_filter before) ofIt
  · rw [apart other fresh] at ofIt
    cases ofIt

theorem marked_put {keep : AttemptRecord → Bool}
    {next : AttemptRecord} (gone : ∀ record ∈ attempts, keep record = true →
      record.isOf pr head = false)
    (isOf : next.isOf pr head = true) (marks : mark next) :
    Marked mark pr head (attempts.filter keep ++ [next]) := by
  refine ⟨⟨next, List.mem_append_right _ List.mem_cons_self, isOf⟩, fun other also ofIt => ?_⟩
  rcases List.mem_append.mp also with before | last
  · obtain ⟨listed, kept⟩ := List.mem_filter.mp before
    rw [gone other listed kept] at ofIt
    cases ofIt
  · cases List.mem_singleton.mp last
    exact marks

theorem Marked.clear (marked : Marked mark pr head attempts)
    (lasting : Lasting mark) (other : Nat) :
    Marked mark pr head (clearCloserArrivals attempts other) := by
  refine marked.map (fun record => ?_) fun record marks => ?_
  · split <;> exact ⟨rfl, rfl⟩
  · split
    · exact lasting.clear record marks
    · exact marks

theorem Marked.active (marked : Marked mark pr head attempts)
    {now : Int} (unexpired : Unexpired pr head now attempts) :
    ∃ record, activeAttempt attempts pr head now = some record ∧ mark record := by
  obtain ⟨⟨record, listed, isOf⟩, each⟩ := marked
  cases found : activeAttempt attempts pr head now with
  | none =>
    -- The record that is listed would have been found.
    have absent := List.find?_eq_none.mp found record listed
    simp [isOf, unexpired record listed isOf] at absent
  | some other =>
    obtain ⟨among, ofIt⟩ := activeAttempt_isOf found
    exact ⟨other, rfl, each other among ofIt⟩

section

variable (marked : Marked mark pr head lane.attempts)
include marked

theorem marked_gateAttempt (lasting : Lasting mark)
    (call : GateAttempt) (unexpired : Unexpired pr head call.now lane.attempts)
    (base : call.pr = pr → call.head = head → mark (attemptBase call lane)) :
    WritesOnly (Marked mark pr head) (recordMergeLeaseGateAttempt config call lane) := by
  intro attempts listed
  obtain ⟨namedPr, namedHead⟩ := @attemptBase_names lane call
  simp only [recordMergeLeaseGateAttempt, List.filter_filter] at listed
  -- The record of the call replaces those of its head; those of another head stay.
  have placed : ∀ next : AttemptRecord, next.pr = call.pr → next.head = call.head →
      (mark (attemptBase call lane) → mark next) →
      Marked mark pr head ((lane.attempts.filter fun attempt =>
        !attempt.isOf call.pr call.head && !attemptExpired attempt call.now) ++ [next]) := by
    intro next ofPr ofHead keeps
    by_cases same : call.pr = pr ∧ call.head = head
    · -- The call is for the marked head: its record takes the place of the old one.
      refine marked_put (fun record _ kept => ?_) (by simp [AttemptRecord.isOf, ofPr, ofHead, same])
        (keeps (base same.1 same.2))
      simp only [same.1, same.2, Bool.and_eq_true, Bool.not_eq_true'] at kept
      exact kept.1
    · refine marked.replace (fun record among isOf => ?_) fun record last => ?_
      · simp [isOf_apart isOf same, unexpired record among isOf]
      · cases List.mem_singleton.mp last
        have ofCall : next.isOf call.pr call.head = true := by
          simp [AttemptRecord.isOf, ofPr, ofHead]
        exact isOf_apart ofCall fun eq => same ⟨eq.1.symm, eq.2.symm⟩
  split at listed
  · cases listed
  · split at listed
    · cases List.mem_singleton.mp listed
      refine marked_sorted.2 (Marked.clear (placed _ ?_ ?_ fun marks => ?_) lasting call.pr)
      · exact namedPr
      · exact namedHead
      · exact lasting.clear _ (lasting.cap _ _ marks)
    · cases List.mem_singleton.mp listed
      refine marked_sorted.2 (placed _ ?_ ?_ fun marks => ?_)
      · exact namedPr
      · exact namedHead
      · exact lasting.charge _ _ _ marks

theorem marked_refund (lasting : Lasting mark) (other : Nat) (otherHead : String) (now : Int) :
    WritesOnly (Marked mark pr head)
      (refundMergeLeaseGateAttempt config other otherHead now lane) := by
  intro attempts listed
  simp only [refundMergeLeaseGateAttempt] at listed
  split at listed
  · cases List.mem_singleton.mp listed
    refine marked_sorted.2 (marked.map (fun record => ?_) fun record marks => ?_)
    · split <;> exact ⟨rfl, rfl⟩
    · split
      · exact lasting.refund record now marks
      · exact marks
  · cases listed

theorem marked_forget {other : Nat}
    {otherHead : String} (apart : ¬(other = pr ∧ otherHead = head)) :
    WritesOnly (Marked mark pr head) (removeAttemptRecords config other otherHead lane) := by
  intro attempts listed
  unfold removeAttemptRecords at listed
  split at listed
  · cases listed
  · cases List.mem_singleton.mp listed
    refine marked_sorted.2 ?_
    rw [← List.append_nil (lane.attempts.filter _)]
    refine marked.replace (fun record _ isOf => ?_) fun record none_ =>
      absurd none_ List.not_mem_nil
    simp [isOf_apart isOf apart]

theorem marked_noMerge (lasting : Lasting mark)
    {host : LaneHost} {lease : LeaseRecord} (how : NoMerge)
    (marks : lease.holderPr = pr → lease.holderHead = head →
      recordedBefore lane host lease = false →
      mark (noMergeRecord config host lease how lane.attempts
        (activeAttempt lane.attempts lease.holderPr lease.holderHead host.now))) :
    WritesOnly (Marked mark pr head) (recordNoMergeRelease config host lease how lane).2 := by
  intro attempts listed
  obtain ⟨unrecorded, kept, from_, rfl⟩ := noMerge_written listed
  have isOf := @noMergeRecord_names config host lease how lane.attempts
    (activeAttempt lane.attempts lease.holderPr lease.holderHead host.now)
  have before : Marked mark pr head kept := by
    rcases from_ with rfl | rfl
    · exact marked
    · exact marked.clear lasting lease.holderPr
  refine marked_sorted.2 ?_
  by_cases same : lease.holderPr = pr ∧ lease.holderHead = head
  · -- The lease was held for the marked head, so what counts is the new record.
    refine marked_put (fun record _ others => ?_) (same.1 ▸ same.2 ▸ isOf)
      (marks same.1 same.2 unrecorded)
    simpa [same.1, same.2] using others
  · refine before.replace (fun record _ ofIt => ?_) fun record last => ?_
    · simp [isOf_apart ofIt same]
    · cases List.mem_singleton.mp last
      exact isOf_apart isOf fun eq => same ⟨eq.1.symm, eq.2.symm⟩

end

end

section

variable {config : LaneConfig} {lane : Lane}

def OnePerHead (attempts : List AttemptRecord) : Prop :=
  (attempts.map fun attempt => (attempt.pr, attempt.head)).Nodup

variable {attempts : List AttemptRecord}

theorem OnePerHead.eq (single : OnePerHead attempts)
    {first second : AttemptRecord} (one : first ∈ attempts) (two : second ∈ attempts) {pr : Nat}
    {head : String} (isOne : first.isOf pr head = true) (isTwo : second.isOf pr head = true) :
    first = second := by
  simp only [AttemptRecord.isOf, Bool.and_eq_true, decide_eq_true_eq] at isOne isTwo
  exact List.inj_on_of_nodup_map single one two
    (Prod.ext (isOne.1.trans isTwo.1.symm) (isOne.2.trans isTwo.2.symm))

theorem onePerHead_sorted :
    OnePerHead (sortedAttempts config attempts) ↔ OnePerHead attempts :=
  ((List.perm_insertionSort _ attempts).map _).nodup_iff

theorem OnePerHead.filter (single : OnePerHead attempts)
    (keep : AttemptRecord → Bool) : OnePerHead (attempts.filter keep) :=
  List.Nodup.sublist (List.filter_sublist.map _) single

theorem OnePerHead.map (single : OnePerHead attempts) {change : AttemptRecord → AttemptRecord}
    (names : ∀ record, (change record).pr = record.pr ∧ (change record).head = record.head) :
    OnePerHead (attempts.map change) := by
  unfold OnePerHead
  rw [List.map_map]
  have same : ((fun attempt : AttemptRecord => (attempt.pr, attempt.head)) ∘ change) =
      fun attempt => (attempt.pr, attempt.head) :=
    funext fun record => Prod.ext (names record).1 (names record).2
  rw [same]
  exact single

theorem OnePerHead.clear (single : OnePerHead attempts)
    (pr : Nat) : OnePerHead (clearCloserArrivals attempts pr) :=
  single.map fun record => by split <;> exact ⟨rfl, rfl⟩

theorem OnePerHead.put (single : OnePerHead attempts)
    {keep : AttemptRecord → Bool} {next : AttemptRecord}
    (gone : ∀ record, keep record = true → record.isOf next.pr next.head = false) :
    OnePerHead (attempts.filter keep ++ [next]) := by
  unfold OnePerHead
  rw [List.map_append, List.map_singleton]
  refine List.nodup_append.mpr ⟨single.filter keep, List.nodup_singleton _, ?_⟩
  intro key listed other last equal
  obtain ⟨record, kept, same⟩ := List.mem_map.mp listed
  have apart := gone record (List.mem_filter.mp kept).2
  rw [equal, List.mem_singleton.mp last, Prod.mk.injEq] at same
  simp [AttemptRecord.isOf, same] at apart

theorem onePerHead_step (single : OnePerHead lane.attempts) (step : LaneStep) :
    WritesOnly OnePerHead (step.writes config lane) := by
  refine step_attempts (fun call _ => ?_) (fun pr head now _ => ?_) (fun pr head _ => ?_)
    (fun lease _ _ _ _ _ => single.clear lease.holderPr) fun lease host how _ _ => ?_
  · intro attempts listed
    obtain ⟨namedPr, namedHead⟩ := @attemptBase_names lane call
    simp only [recordMergeLeaseGateAttempt] at listed
    split at listed
    · cases listed
    · split at listed
      · cases List.mem_singleton.mp listed
        refine onePerHead_sorted.2 (((single.filter _).put fun record kept => ?_).clear call.pr)
        simpa only [withoutCloserArrival, namedPr, namedHead, Bool.not_eq_true'] using kept
      · cases List.mem_singleton.mp listed
        refine onePerHead_sorted.2 ((single.filter _).put fun record kept => ?_)
        simpa only [namedPr, namedHead, Bool.not_eq_true'] using kept
  · intro attempts listed
    simp only [refundMergeLeaseGateAttempt] at listed
    split at listed
    · cases List.mem_singleton.mp listed
      exact onePerHead_sorted.2 (single.map fun record => by split <;> exact ⟨rfl, rfl⟩)
    · cases listed
  · intro attempts listed
    unfold removeAttemptRecords at listed
    split at listed
    · cases listed
    · cases List.mem_singleton.mp listed
      exact onePerHead_sorted.2 (single.filter _)
  · intro attempts listed
    obtain ⟨-, kept, from_, rfl⟩ := noMerge_written listed
    have isOf := @noMergeRecord_names config host lease how lane.attempts
      (activeAttempt lane.attempts lease.holderPr lease.holderHead host.now)
    simp only [AttemptRecord.isOf, Bool.and_eq_true, decide_eq_true_eq] at isOf
    have before : OnePerHead kept := by
      rcases from_ with rfl | rfl
      · exact single
      · exact single.clear lease.holderPr
    refine onePerHead_sorted.2 (before.put fun record others => ?_)
    simpa only [isOf.1, isOf.2, Bool.not_eq_true'] using others

theorem onePerHead_run (single : OnePerHead lane.attempts) (moves : List LaneMove) :
    OnePerHead (runLane config lane moves).attempts := by
  induction moves generalizing lane with
  | nil => exact single
  | cons move moves ih => exact ih (move_attempts (onePerHead_step single move.step) single)

end

section

variable {config : LaneConfig} {lane : Lane} {pr : Nat} {head : String}

def EachSection (config : LaneConfig) (holds : Lane → LaneStep → Prop) :
    Lane → List LaneMove → Prop
  | _, [] => True
  | lane, move :: moves =>
    holds lane move.step ∧ EachSection config holds (lane.move config move) moves

def IsParked (record : AttemptRecord) : Prop :=
  record.parkedReason.isSome = true

theorem isParked_lasting : Lasting IsParked where
  charge _ _ _ parked := parked
  cap _ _ _ := rfl
  refund _ _ parked := parked
  clear _ parked := parked

def ParkingStays (pr : Nat) (head : String) (lane : Lane) : LaneStep → Prop
  | .gateAttempt call => Unexpired pr head call.now lane.attempts ∧
      (call.pr = pr → call.head = head → ∀ record ∈ lane.attempts,
        record.isOf pr head = true → call.baseSha.any (· ≠ "") = true →
          record.baseSha = call.baseSha)
  | .release _ _ host | .retryableAbort _ _ host => Unexpired pr head host.now lane.attempts
  | .reset other otherHead | .forget other otherHead => ¬(other = pr ∧ otherHead = head)
  | _ => True

theorem parked_base (parked : Marked IsParked pr head lane.attempts) {call : GateAttempt}
    (unexpired : Unexpired pr head call.now lane.attempts) (ofPr : call.pr = pr)
    (ofHead : call.head = head) (sameBase : ∀ record ∈ lane.attempts,
      record.isOf pr head = true → call.baseSha.any (· ≠ "") = true →
        record.baseSha = call.baseSha) :
    IsParked (attemptBase call lane) := by
  subst ofPr ofHead
  obtain ⟨record, active, isParked⟩ := parked.active unexpired
  obtain ⟨listed, isOf⟩ := activeAttempt_isOf active
  unfold attemptBase attemptAtBase
  rw [active]
  simp only [Option.map_some, Option.getD_some]
  split
  · -- Another base would forget the parking.
    rename_i moved
    simp only [Bool.and_eq_true, decide_eq_true_eq] at moved
    exact absurd (sameBase record listed isOf moved.1) moved.2
  · exact isParked

theorem noMergeRecord_parked (host : LaneHost) (lease : LeaseRecord) (how : NoMerge)
    (attempts : List AttemptRecord) {previous : AttemptRecord} (parked : IsParked previous) :
    IsParked (noMergeRecord config host lease how attempts (some previous)) := by
  obtain ⟨reason, given⟩ := Option.isSome_iff_exists.mp parked
  have base : (noMergeBase config host lease how (some previous)).parkedReason = some reason := by
    simp [noMergeBase, parkedAfter, given]
  unfold IsParked
  simp only [noMergeRecord]
  split
  · simp [base]
  · split <;> simp [withoutCloserArrival, base]

theorem parked_step (parked : Marked IsParked pr head lane.attempts) {step : LaneStep}
    (stays : ParkingStays pr head lane step) :
    WritesOnly (Marked IsParked pr head) (step.writes config lane) := by
  refine step_attempts (fun call isGate => ?_) (fun other otherHead now _ => ?_)
    (fun other otherHead forgets => ?_)
    (fun lease _ _ _ _ _ => parked.clear isParked_lasting lease.holderPr)
    fun lease host how _ unmerged => ?_
  · subst isGate
    exact marked_gateAttempt parked isParked_lasting call stays.1 fun ofPr ofHead =>
      parked_base parked stays.1 ofPr ofHead (stays.2 ofPr ofHead)
  · exact marked_refund parked isParked_lasting other otherHead now
  · rcases forgets with rfl | ⟨rfl, -⟩ <;> exact marked_forget parked stays
  · have unexpired : Unexpired pr head host.now lane.attempts := by
      cases unmerged <;> exact stays
    refine marked_noMerge parked isParked_lasting how fun ofPr ofHead _ => ?_
    subst ofPr ofHead
    obtain ⟨record, active, isParked⟩ := parked.active unexpired
    rw [active]
    exact noMergeRecord_parked host lease how lane.attempts isParked

theorem parked_run (parked : Marked IsParked pr head lane.attempts) {moves : List LaneMove}
    (stays : EachSection config (ParkingStays pr head) lane moves) :
    Marked IsParked pr head (runLane config lane moves).attempts := by
  induction moves generalizing lane with
  | nil => exact parked
  | cons move moves ih =>
    exact ih (move_attempts (parked_step parked stays.1) parked) stays.2

theorem parked_refused (parked : Marked IsParked pr head lane.attempts) {call : AcquireCall}
    {host : LaneHost} (unexpired : Unexpired pr head host.now lane.attempts)
    (ofPr : call.holderPr = pr) (ofHead : call.holderHead = head) {lease : LeaseRecord} :
    .lease (some lease) ∉ (LaneStep.acquire call host).writes config lane := by
  subst ofPr ofHead
  have sorted : Marked IsParked call.holderPr call.holderHead
      (readMergeLeaseAttempts config lane) := marked_sorted.2 parked
  obtain ⟨record, active, isParked⟩ := sorted.active fun record listed isOf =>
    unexpired record ((List.mem_insertionSort _).mp listed) isOf
  -- The admission looks at the record again under the lock.
  have held : heldBack config call host lane = true := by
    simp only [heldBack, active, Option.any_some, Bool.or_eq_true]
    exact .inl (.inl isParked)
  intro listed
  rcases List.mem_append.mp listed with early | late
  · exact no_lease_pruned early
  · simp [grants, held] at late

end

section

variable {config : LaneConfig} {lane : Lane} {id : String} {pr : Nat} {head : String}

def isUnmerged : LaneStep → Bool
  | .release _ call _ => !call.ends && call.isRelease
  | .retryableAbort .. => true
  | _ => false

def accounts (config : LaneConfig) (id : String) (lane : Lane) (move : LaneMove) : Bool :=
  isUnmerged move.step && lane.lease.any (fun lease => lease.leaseId = id) &&
    (lane.move config move).attempts ≠ lane.attempts

/-- How many releases of this lease a run accounts for. -/
def accountings (config : LaneConfig) (id : String) : Lane → List LaneMove → Nat
  | _, [] => 0
  | lane, move :: moves => (if accounts config id lane move then 1 else 0) +
      accountings config id (lane.move config move) moves

/-- The record of a head neither expires nor is pruned before a release is tried again, and no
other acquisition uses the id of the lease. -/
def RetriesInTime (id : String) (pr : Nat) (head : String) (lane : Lane) : LaneStep → Prop
  | .gateAttempt call => Unexpired pr head call.now lane.attempts
  | .release _ _ host | .retryableAbort _ _ host => Unexpired pr head host.now lane.attempts
  | .forget other otherHead => ¬(other = pr ∧ otherHead = head)
  | .acquire call _ => call.leaseId ≠ id
  | _ => True

def Records (id : String) (record : AttemptRecord) : Prop :=
  record.noMergeLeaseId = some id

theorem records_lasting : Lasting (Records id) where
  charge _ _ _ records := records
  cap _ _ records := records
  refund _ _ records := records
  clear _ records := records

def HeldFor (id : String) (pr : Nat) (head : String) (lane : Lane) : Prop :=
  ∀ lease, lane.lease = some lease → lease.leaseId = id →
    lease.holderPr = pr ∧ lease.holderHead = head

def Settled (id : String) (pr : Nat) (head : String) (lane : Lane) : Prop :=
  ∀ lease, lane.lease = some lease → lease.leaseId = id →
    Marked (Records id) pr head lane.attempts

variable {move : LaneMove}

theorem stored_before (fresh : RetriesInTime id pr head lane move.step)
    {lease : LeaseRecord} (held : (lane.move config move).lease = some lease)
    (named : lease.leaseId = id) :
    ∃ old, lane.lease = some old ∧ old.leaseId = id ∧ old.holderPr = lease.holderPr ∧
      old.holderHead = lease.holderHead := by
  have change := @move_lease config lane move
  obtain ⟨step, stop⟩ := move
  generalize (lane.move config ⟨step, stop⟩).lease = last at change held
  cases change with
  | kept => exact ⟨lease, held, named, rfl, rfl⟩
  | acquired call host =>
    -- An acquisition stores its own id.
    cases held
    exact absurd named fresh
  | released => cases held
  | aborted => cases held
  | renewed fence now old stored own =>
    cases held
    exact ⟨old, stored, named, rfl, rfl⟩

theorem heldFor_move (heldFor : HeldFor id pr head lane)
    (fresh : RetriesInTime id pr head lane move.step) :
    HeldFor id pr head (lane.move config move) := by
  intro lease held named
  obtain ⟨old, stored, oldNamed, samePr, sameHead⟩ := stored_before fresh held named
  exact samePr ▸ sameHead ▸ heldFor old stored oldNamed

theorem recorded_silent {lease : LeaseRecord} (marked : Marked (Records lease.leaseId)
      lease.holderPr lease.holderHead lane.attempts) {host : LaneHost}
    (unexpired : Unexpired lease.holderPr lease.holderHead host.now lane.attempts)
    (how : NoMerge) (good : List AttemptRecord → Prop) :
    WritesOnly good (recordNoMergeRelease config host lease how lane).2 := by
  intro attempts listed
  obtain ⟨unrecorded, -⟩ := noMerge_written listed
  obtain ⟨record, active, records⟩ := marked.active unexpired
  unfold recordedBefore at unrecorded
  rw [active, Option.any_some, decide_eq_false_iff_not] at unrecorded
  exact absurd records unrecorded

section

variable (heldFor : HeldFor id pr head lane)
include heldFor

theorem settled_move (settled : Settled id pr head lane)
    (inTime : RetriesInTime id pr head lane move.step) :
    Settled id pr head (lane.move config move) := by
  intro next held named
  obtain ⟨lease, stored, rfl, -, -⟩ := stored_before inTime held named
  obtain ⟨rfl, rfl⟩ := heldFor lease stored rfl
  have marked := settled lease stored rfl
  refine move_attempts ?_ marked
  generalize move.step = step at inTime
  refine step_attempts (fun call isGate => ?_) (fun other otherHead now _ => ?_)
    (fun other otherHead forgets => ?_)
    (fun other _ _ _ _ _ => marked.clear records_lasting other.holderPr)
    fun other host how also unmerged => ?_
  · subst isGate
    refine marked_gateAttempt marked records_lasting call inTime fun ofPr ofHead => ?_
    -- The record of the head stays the one it was, also at a new base.
    obtain ⟨record, active, records⟩ := marked.active inTime
    rw [← ofPr, ← ofHead] at active
    unfold attemptBase attemptAtBase
    rw [active]
    simp only [Option.map_some, Option.getD_some]
    split <;> exact records
  · exact marked_refund marked records_lasting other otherHead now
  · rcases forgets with rfl | ⟨rfl, free⟩
    · exact marked_forget marked inTime
    · -- A reset is refused while the head holds the lease.
      refine marked_forget marked fun same => ?_
      simp [holdsHead, stored, same] at free
  · cases stored.symm.trans also
    have unexpired : Unexpired lease.holderPr lease.holderHead host.now lane.attempts := by
      cases unmerged <;> exact inTime
    exact recorded_silent marked unexpired how _

theorem settled_silent (settled : Settled id pr head lane)
    (inTime : RetriesInTime id pr head lane move.step) :
    accounts config id lane move = false := by
  by_contra accounted
  simp only [accounts, Bool.not_eq_false, Bool.and_eq_true, decide_eq_true_eq] at accounted
  obtain ⟨⟨unmerged, stored⟩, changed⟩ := accounted
  obtain ⟨lease, held, named⟩ := Option.any_eq_true _ _ |>.mp stored
  cases of_decide_eq_true named
  obtain ⟨rfl, rfl⟩ := heldFor lease held rfl
  have marked := settled lease held rfl
  refine changed (@move_attempts config (fun attempts => attempts = lane.attempts) lane move ?_ rfl)
  generalize move.step = step at inTime unmerged
  refine step_attempts (fun call isGate => ?_) (fun _ _ _ isRefund => ?_)
    (fun _ _ forgets => ?_) (fun _ call _ _ isRelease ends => ?_)
    fun other host how also ended => ?_
  · subst isGate
    cases unmerged
  · subst isRefund
    cases unmerged
  · rcases forgets with rfl | ⟨rfl, -⟩ <;> cases unmerged
  · subst isRelease
    simp [isUnmerged, ends] at unmerged
  · cases held.symm.trans also
    have unexpired : Unexpired lease.holderPr lease.holderHead host.now lane.attempts := by
      cases ended <;> exact inTime
    exact recorded_silent marked unexpired how _

theorem accounts_settles (inTime : RetriesInTime id pr head lane move.step)
    (accounted : accounts config id lane move = true) :
    Settled id pr head (lane.move config move) := by
  intro next held named
  obtain ⟨lease, stored, rfl, -, -⟩ := stored_before inTime held named
  obtain ⟨rfl, rfl⟩ := heldFor lease stored rfl
  simp only [accounts, Bool.and_eq_true, decide_eq_true_eq] at accounted
  obtain ⟨⟨unmerged, -⟩, changed⟩ := accounted
  -- Whatever was written, and wherever the section stopped: nothing yet, or the new record.
  have left := @move_attempts config (fun attempts => attempts = lane.attempts ∨
    Marked (Records lease.leaseId) lease.holderPr lease.holderHead attempts) lane move ?_ (.inl rfl)
  · exact left.resolve_left changed
  generalize move.step = step at unmerged
  refine step_attempts (fun call isGate => ?_) (fun _ _ _ isRefund => ?_)
    (fun _ _ forgets => ?_) (fun _ call _ _ isRelease ends => ?_)
    fun other host how also ended => ?_
  · subst isGate
    cases unmerged
  · subst isRefund
    cases unmerged
  · rcases forgets with rfl | ⟨rfl, -⟩ <;> cases unmerged
  · subst isRelease
    simp [isUnmerged, ends] at unmerged
  · cases stored.symm.trans also
    intro attempts listed
    obtain ⟨-, kept, -, rfl⟩ := noMerge_written listed
    refine .inr (marked_sorted.2 (marked_put (fun record _ others => ?_)
      (noMergeRecord_names host lease how lane.attempts _) ?_))
    · simpa using others
    · unfold Records
      simp only [noMergeRecord]
      split
      · rfl
      · split <;> rfl

theorem accountings_settled (settled : Settled id pr head lane) {moves : List LaneMove}
    (inTime : EachSection config (RetriesInTime id pr head) lane moves) :
    accountings config id lane moves = 0 := by
  induction moves generalizing lane with
  | nil => rfl
  | cons move moves ih =>
    simp only [accountings, settled_silent heldFor settled inTime.1, Bool.false_eq_true, ↓reduceIte,
      Nat.zero_add]
    exact ih (heldFor_move heldFor inTime.1) (settled_move heldFor settled inTime.1) inTime.2

theorem accountings_le_one {moves : List LaneMove}
    (inTime : EachSection config (RetriesInTime id pr head) lane moves) :
    accountings config id lane moves ≤ 1 := by
  induction moves generalizing lane with
  | nil => exact Nat.zero_le 1
  | cons move moves ih =>
    have heldNext := @heldFor_move config _ _ _ _ move heldFor inTime.1
    simp only [accountings]
    -- Either this move is the one that accounts, or the rest of the run decides.
    split
    · rename_i accounted
      rw [accountings_settled heldNext (accounts_settles heldFor inTime.1 accounted) inTime.2]
    · rw [Nat.zero_add]
      exact ih heldNext inTime.2

end

end

def sampleGate : LaneMove :=
  { step := .gateAttempt { pr := 7, head := "head", now := 5000 } }

def sampleRetried (now : Int) : List LaneMove :=
  [{ step := .retryableAbort sampleLease.fence "lane-busy" (hostAt 10000), stop := some 1 },
    { step := .retryableAbort sampleLease.fence "lane-busy" (hostAt now) }]

end AdversarialReview.MergeLease
