import AdversarialReview.Proofs.MergeLease.Arrivals

/-! A fence protects the lease that it names. -/

namespace AdversarialReview.MergeLease

def FenceMove.fence : FenceMove → Option Fence
  | .call ⟨.release fence _ _, _⟩ | .call ⟨.retryableAbort fence _ _, _⟩
  | .call ⟨.renew fence _, _⟩ => some fence
  | .reclaim sighting _ => some sighting.lease.fence
  | .prune lease => some lease.fence
  | _ => none

def FenceMove.releases : FenceMove → LeaseRecord → Prop
  | .call ⟨.release fence _ _, _⟩, lease | .call ⟨.retryableAbort fence _ _, _⟩, lease =>
    lease.fence = fence
  | _, _ => False

def FenceMove.reclaims (world : FenceWorld) (lease : LeaseRecord) : FenceMove → Prop
  | .reclaim sighting _ =>
    (lease.holderHost = sighting.host ∧ world.dead lease.holderHost lease.holderPid = true) ∨
    (lease.holderHost ≠ sighting.host ∧
      lease.deadlineSeconds ≤ ageSecondsFrom lease.acquiredAt sighting.now) ∨
    world.prGone lease.holderPr = true
  | _ => False

structure Fenced (before after : FenceWorld) (move : FenceMove) : Prop where
  /-- A call with another fence leaves the stored lease and the attempts of its holder. -/
  unmatched : ∀ fence lease, move.fence = some fence → before.lane.lease = some lease →
    lease.fence ≠ fence → after.lane.lease = some lease ∧
      ∀ record : AttemptRecord, record.isOf lease.holderPr lease.holderHead = true →
        (record ∈ after.lane.attempts ↔ record ∈ before.lane.attempts)
  /-- A stored lease is replaced by its own renewal only. -/
  single : ∀ lease next, before.lane.lease = some lease → after.lane.lease = some next →
    next.leaseId = lease.leaseId ∧ (next ≠ lease → move.fence = some lease.fence)
  /-- A lease is removed by its own holder's release, or for a reason. -/
  removed : ∀ lease, before.lane.lease = some lease → after.lane.lease = none →
    move.releases lease ∨ move.reclaims before lease

def UsesNewId (world : FenceWorld) : FenceMove → Prop
  | .call move => ∀ id, newLeaseId move.step = some id → id ∉ world.used
  | _ => True

def ReconcilesInTime (world : FenceWorld) : FenceMove → Prop
  | .reclaim sighting _ => sighting.stale = some .holderPrGone →
      world.prGone sighting.lease.holderPr = true
  | .prune released => ∀ lease, world.lane.lease = some lease →
      ¬(lease.holderPr = released.holderPr ∧ lease.holderHead = released.holderHead)
  | _ => True

def EachMove (config : LaneConfig) (holds : FenceWorld → FenceMove → Prop) :
    FenceWorld → List FenceMove → Prop
  | _, [] => True
  | world, move :: moves =>
    holds world move ∧ EachMove config holds (world.step config move) moves

def SameHolder (first second : LeaseRecord) : Prop :=
  first.holderPr = second.holderPr ∧ first.holderPid = second.holderPid ∧
    first.holderHost = second.holderHost ∧ first.deadlineSeconds = second.deadlineSeconds

structure FenceInv (world : FenceWorld) : Prop where
  listed : ∀ lease, world.lane.lease = some lease → lease.leaseId ∈ world.used
  sighted : ∀ sighting ∈ world.seen, sighting.lease.leaseId ∈ world.used
  same : ∀ sighting ∈ world.seen, ∀ lease, world.lane.lease = some lease →
    lease.leaseId = sighting.lease.leaseId → SameHolder lease sighting.lease
  dead : ∀ sighting ∈ world.seen, sighting.stale = some .deadPid →
    sighting.lease.holderHost = sighting.host ∧
      world.dead sighting.lease.holderHost sighting.lease.holderPid = true
  late : ∀ sighting ∈ world.seen, sighting.stale = some .pastDeadline →
    sighting.lease.holderHost ≠ sighting.host ∧
      sighting.lease.deadlineSeconds ≤ ageSecondsFrom sighting.lease.acquiredAt sighting.now

section

variable {config : LaneConfig} {lane : Lane}

theorem writeAll_lease (writes : List LaneWrite) :
    (lane.writeAll writes).lease = lane.lease ∨
      .lease (lane.writeAll writes).lease ∈ writes := by
  induction writes generalizing lane with
  | nil => exact .inl rfl
  | cons write writes ih =>
    rcases @ih (lane.write write) with same | listed
    · -- The later writes leave the lease, so the first one decides.
      cases write with
      | lease lease =>
        right
        change LaneWrite.lease ((lane.write (.lease lease)).writeAll writes).lease ∈ _
        rw [same]
        exact List.mem_cons_self
      | attempts attempts => exact .inl same
      | waiters waiters => exact .inl same
    · exact .inr (List.mem_cons_of_mem _ listed)

/-- What a section may write as the lease. -/
inductive LeaseChange (lane : Lane) : LaneStep → Option LeaseRecord → Prop
  | kept (step : LaneStep) : LeaseChange lane step lane.lease
  | acquired (call : AcquireCall) (host : LaneHost) (free : lane.lease = none) :
      LeaseChange lane (.acquire call host) (some (call.lease host))
  | released (fence : Fence) (call : ReleaseCall) (host : LaneHost) (lease : LeaseRecord)
      (held : lane.lease = some lease) (own : lease.fence = fence) :
      LeaseChange lane (.release fence call host) none
  | aborted (fence : Fence) (reason : String) (host : LaneHost) (lease : LeaseRecord)
      (held : lane.lease = some lease) (own : lease.fence = fence) :
      LeaseChange lane (.retryableAbort fence reason host) none
  | renewed (fence : Fence) (now : Int) (lease : LeaseRecord)
      (held : lane.lease = some lease) (own : lease.fence = fence) :
      LeaseChange lane (.renew fence now) (some { lease with
        acquiredAt := now
        updatedAt := now
        previousAcquiredAt := some lease.acquiredAt
        grantedAt := lease.grantedAt.or (some lease.acquiredAt) })

theorem no_lease_pruned {host : LaneHost} {lease : Option LeaseRecord} :
    .lease lease ∉ prunedWrites host lane := by
  simp only [prunedWrites]
  split <;> simp

theorem no_lease_noMerge {host : LaneHost} {held : LeaseRecord} {how : NoMerge}
    {lease : Option LeaseRecord} :
    .lease lease ∉ (recordNoMergeRelease config host held how lane).2 := by
  simp only [recordNoMergeRelease]
  split <;> simp

theorem writes_lease {step : LaneStep} {lease : Option LeaseRecord}
    (listed : .lease lease ∈ step.writes config lane) : LeaseChange lane step lease := by
  cases step with
  | acquire call host =>
    rcases List.mem_append.mp listed with early | late
    · exact absurd early no_lease_pruned
    split at late
    · rename_i granted
      simp only [grants, Bool.and_eq_true, Option.isNone_iff_eq_none] at granted
      rcases List.mem_append.mp late with made | undone
      · cases List.mem_singleton.mp made
        exact .acquired call host granted.2
      · split at undone
        · cases List.mem_singleton.mp undone
          -- The new lease file is removed again.
          exact granted.2 ▸ .kept _
        · simp at undone
    · cases late
  | release fence call host =>
    simp only [LaneStep.writes, releaseMergeLease] at listed
    split at listed
    · cases listed
    · rename_i held matched
      obtain ⟨stored, own⟩ := matched_fence matched
      rcases List.mem_append.mp listed with early | late
      · rcases List.mem_append.mp early with accounts | gone
        · -- The accounts are attempts and waiters.
          exfalso
          split at accounts
          · split at accounts <;> simp at accounts
          · split at accounts
            · exact no_lease_noMerge accounts
            · cases accounts
        · cases List.mem_singleton.mp gone
          exact .released fence call host held stored own
      · exact absurd late no_lease_pruned
  | retryableAbort fence reason host =>
    simp only [LaneStep.writes, releaseMergeLeaseForRetryableAbort] at listed
    split at listed
    · cases listed
    · rename_i held matched
      obtain ⟨stored, own⟩ := matched_fence matched
      rcases List.mem_append.mp listed with early | late
      · rcases List.mem_append.mp early with accounts | gone
        · exact absurd accounts no_lease_noMerge
        · cases List.mem_singleton.mp gone
          exact .aborted fence reason host held stored own
      · exact absurd late no_lease_pruned
  | renew fence now =>
    simp only [LaneStep.writes, renewMergeLease] at listed
    split at listed
    · cases listed
    · rename_i held matched
      obtain ⟨stored, own⟩ := matched_fence matched
      cases List.mem_singleton.mp listed
      exact .renewed fence now held stored own
  | prune host => exact absurd listed no_lease_pruned
  | register call host => simp [LaneStep.writes, upsertMergeLeaseWaiter] at listed
  | unregister waiterId expected =>
    simp only [LaneStep.writes, removeMergeLeaseWaiter] at listed
    split at listed <;> simp at listed
  | pruneObsoleteHeads other keepHead =>
    simp only [LaneStep.writes, pruneObsoleteHeads] at listed
    split at listed <;> simp at listed
  | gateAttempt call =>
    simp only [LaneStep.writes, recordMergeLeaseGateAttempt] at listed
    split at listed
    · cases listed
    · split at listed <;> simp at listed
  | refund other head now =>
    simp only [LaneStep.writes, refundMergeLeaseGateAttempt] at listed
    split at listed <;> simp at listed
  | forget other head =>
    simp only [LaneStep.writes, removeAttemptRecords] at listed
    split at listed <;> simp at listed
  | reset other head =>
    simp only [LaneStep.writes, resetMergeLeaseGateAttempts, removeAttemptRecords] at listed
    split at listed
    · cases listed
    · rcases List.mem_append.mp listed with early | late
      · split at early <;> simp at early
      · split at late <;> simp at late

theorem move_lease (move : LaneMove) :
    LeaseChange lane move.step (lane.move config move).lease := by
  have inside : ∀ write ∈ move.done config lane, write ∈ move.step.writes config lane := by
    intro write listed
    unfold LaneMove.done at listed
    split at listed
    · exact listed
    · exact List.mem_of_mem_take listed
  rcases @writeAll_lease lane (move.done config lane) with same | listed
  · unfold Lane.move
    rw [same]
    exact .kept _
  · exact writes_lease (inside _ listed)

theorem unmatched_move {move : LaneMove} {fence : Fence} {lease : LeaseRecord}
    (compares : (FenceMove.call move).fence = some fence) (held : lane.lease = some lease)
    (other : lease.fence ≠ fence) : lane.move config move = lane := by
  -- The section compares the fence again under the lock, and then writes nothing.
  have none_ : lane.lease.filter (fun lease => holderMatches lease fence) = none := by
    rw [held, Option.filter_eq_none_iff]
    intro found same
    cases same
    simpa [holderMatches] using other
  have silent : move.step.writes config lane = [] := by
    obtain ⟨step, stop⟩ := move
    cases step <;> simp only [FenceMove.fence, Option.some.injEq, reduceCtorEq] at compares <;>
      subst compares
    · simp only [LaneStep.writes, releaseMergeLease, none_]
    · simp only [LaneStep.writes, releaseMergeLeaseForRetryableAbort, none_]
    · simp only [LaneStep.writes, renewMergeLease, none_]
  have nothing : move.done config lane = [] := by
    unfold LaneMove.done
    split
    · exact silent
    · rw [silent, List.take_nil]
  simp only [Lane.move, nothing]
  rfl

end

section

variable {config : LaneConfig} {world : FenceWorld}

theorem FenceInv.lane (inv : FenceInv world) {step : LaneStep} {after : Lane}
    (change : LeaseChange world.lane step after.lease)
    (fresh : ∀ id, newLeaseId step = some id → id ∉ world.used) (reconciled : List LeaseRecord) :
    FenceInv { world with
      lane := after
      used := (newLeaseId step).toList ++ world.used
      reconciled := reconciled } := by
  refine ⟨fun lease held => ?_, fun sighting seen => List.mem_append_right _
    (inv.sighted sighting seen), fun sighting seen lease held same => ?_, inv.dead, inv.late⟩
  · change after.lease = some lease at held
    generalize after.lease = last at change held
    cases change with
    | kept => exact List.mem_append_right _ (inv.listed lease held)
    | acquired call host free =>
      cases held
      exact List.mem_append_left _ (List.mem_singleton.mpr rfl)
    | released => cases held
    | aborted => cases held
    | renewed fence now old stored own =>
      cases held
      exact List.mem_append_right _ (inv.listed old stored)
  · change after.lease = some lease at held
    generalize after.lease = last at change held
    cases change with
    | kept => exact inv.same sighting seen lease held same
    | acquired call host free =>
      -- A new id was never seen.
      cases held
      have known := inv.sighted sighting seen
      rw [← same] at known
      exact absurd known (fresh call.leaseId rfl)
    | released => cases held
    | aborted => cases held
    | renewed fence now old stored own =>
      cases held
      exact inv.same sighting seen old stored same

theorem reclaimReason_true {lease : LeaseRecord} {host : String} {now : Int} {alive : Nat → Bool}
    {why : Staleness} (found : reclaimReason lease host now alive = some why) :
    (why = .deadPid ∧ lease.holderHost = host ∧ alive lease.holderPid = false) ∨
      (why = .pastDeadline ∧ lease.holderHost ≠ host ∧
        lease.deadlineSeconds ≤ ageSecondsFrom lease.acquiredAt now) := by
  unfold reclaimReason at found
  split at found
  · rename_i dead
    cases found
    simpa using dead
  · split at found
    · rename_i late
      cases found
      simpa using late
    · cases found

/-- Every move keeps the invariant, where a new lease has a new id. -/
theorem FenceInv.step (inv : FenceInv world) {move : FenceMove} (fresh : UsesNewId world move) :
    FenceInv (world.step config move) := by
  cases move with
  | call move =>
    simp only [FenceWorld.step]
    split
    · exact inv.lane (move_lease move) fresh world.reconciled
    · exact inv
  | inspect host now reused =>
    simp only [FenceWorld.step]
    split
    · exact inv
    · rename_i lease held
      refine ⟨inv.listed, fun sighting seen => ?_, fun sighting seen found stored same => ?_,
        fun sighting seen why => ?_, fun sighting seen why => ?_⟩
      · rcases List.mem_cons.mp seen with rfl | before
        · exact inv.listed lease held
        · exact inv.sighted sighting before
      · rcases List.mem_cons.mp seen with rfl | before
        · -- The sighting is of the lease that is stored.
          cases held.symm.trans stored
          exact ⟨rfl, rfl, rfl, rfl⟩
        · exact inv.same sighting before found stored same
      · rcases List.mem_cons.mp seen with rfl | before
        · have told : reclaimReason lease host now
              (fun pid => !world.dead host pid || reused pid) = some .deadPid := why
          -- A pid that was reused is taken for alive, never for dead.
          rcases reclaimReason_true told with ⟨-, here, gone⟩ | ⟨other, -⟩
          · simp only [Bool.or_eq_false_iff, Bool.not_eq_false'] at gone
            exact ⟨here, here ▸ gone.1⟩
          · cases other
        · exact inv.dead sighting before why
      · rcases List.mem_cons.mp seen with rfl | before
        · have told : reclaimReason lease host now
              (fun pid => !world.dead host pid || reused pid) = some .pastDeadline := why
          rcases reclaimReason_true told with ⟨other, -⟩ | ⟨-, late⟩
          · cases other
          · exact late
        · exact inv.late sighting before why
  | readPr sighting =>
    simp only [FenceWorld.step]
    split
    · rename_i found
      refine ⟨inv.listed, fun other seen => ?_, fun other seen => ?_, fun other seen why => ?_,
        fun other seen why => ?_⟩ <;> rcases List.mem_cons.mp seen with rfl | before
      · exact inv.sighted sighting found.1
      · exact inv.sighted other before
      · exact inv.same sighting found.1
      · exact inv.same other before
      · cases why
      · exact inv.dead other before why
      · cases why
      · exact inv.late other before why
    · exact inv
  | reclaim sighting host =>
    simp only [FenceWorld.step]
    split
    · exact inv
    · split
      · exact inv.lane (move_lease _) (fun id used => (by cases used)) _
      · exact inv
  | prune lease =>
    simp only [FenceWorld.step]
    split
    · exact inv.lane (move_lease _) (fun id used => (by cases used)) world.reconciled
    · exact inv
  | die host pid =>
    refine ⟨inv.listed, inv.sighted, inv.same, fun sighting seen why => ?_, inv.late⟩
    obtain ⟨here, gone⟩ := inv.dead sighting seen why
    exact ⟨here, by simp [FenceWorld.step, gone]⟩
  | prGone pr => exact ⟨inv.listed, inv.sighted, inv.same, inv.dead, inv.late⟩
  | reopen pr => exact ⟨inv.listed, inv.sighted, inv.same, inv.dead, inv.late⟩

theorem forget_kept {lane : Lane} {pr : Nat} {head : String} {lease : LeaseRecord}
    (held : lane.lease = some lease) (apart : ¬(lease.holderPr = pr ∧ lease.holderHead = head)) :
    (lane.move config ⟨.forget pr head, none⟩).lease = some lease ∧
      ∀ record : AttemptRecord, record.isOf lease.holderPr lease.holderHead = true →
        (record ∈ (lane.move config ⟨.forget pr head, none⟩).attempts ↔
          record ∈ lane.attempts) := by
  simp only [Lane.move, LaneMove.done, LaneStep.writes, removeAttemptRecords]
  split
  · exact ⟨held, fun record _ => Iff.rfl⟩
  · refine ⟨held, fun record isOf => ?_⟩
    simp only [AttemptRecord.isOf, Bool.and_eq_true, decide_eq_true_eq] at isOf
    have stays : record.isOf pr head = false := by
      simp only [AttemptRecord.isOf, isOf.1, isOf.2]
      simpa using apart
    simp [Lane.writeAll, Lane.write, sortedAttempts, stays]

theorem kept_or_gone {lane after : Lane} {step : LaneStep} {lease next : LeaseRecord}
    (change : LeaseChange lane step after.lease) (held : lane.lease = some lease)
    (stored : after.lease = some next) :
    next.leaseId = lease.leaseId ∧
      (next ≠ lease → ∃ now, step = .renew lease.fence now) := by
  generalize after.lease = last at change stored
  cases change with
  | kept =>
    cases held.symm.trans stored
    exact ⟨rfl, fun differs => absurd rfl differs⟩
  | acquired call host free => cases held.symm.trans free
  | released => cases stored
  | aborted => cases stored
  | renewed fence now old was own =>
    cases held.symm.trans was
    cases stored
    exact ⟨rfl, fun _ => ⟨now, own ▸ rfl⟩⟩

theorem gone_by_fence {lane after : Lane} {step : LaneStep} {lease : LeaseRecord}
    (change : LeaseChange lane step after.lease) (held : lane.lease = some lease)
    (gone : after.lease = none) :
    (∃ call host, step = .release lease.fence call host) ∨
      ∃ reason host, step = .retryableAbort lease.fence reason host := by
  generalize after.lease = last at change gone
  cases change with
  | kept => cases held.symm.trans gone
  | acquired => cases gone
  | released fence call host old was own =>
    cases held.symm.trans was
    exact .inl ⟨call, host, own ▸ rfl⟩
  | aborted fence reason host old was own =>
    cases held.symm.trans was
    exact .inr ⟨reason, host, own ▸ rfl⟩
  | renewed => cases gone

theorem reclaims_true (inv : FenceInv world) {sighting : Sighting} (seen : sighting ∈ world.seen)
    {host : LaneHost} (inTime : ReconcilesInTime world (.reclaim sighting host))
    {lease : LeaseRecord} (held : world.lane.lease = some lease)
    (own : lease.fence = sighting.lease.fence) {why : Staleness}
    (stale : sighting.stale = some why) :
    FenceMove.reclaims world lease (.reclaim sighting host) := by
  have sameId : lease.leaseId = sighting.lease.leaseId := congrArg Fence.leaseId own
  have sameTime : lease.acquiredAt = sighting.lease.acquiredAt := congrArg Fence.acquiredAt own
  -- The same id is the same acquisition; the same time, no renewal since it was seen.
  obtain ⟨samePr, samePid, sameHost, sameDeadline⟩ := inv.same sighting seen lease held sameId
  unfold FenceMove.reclaims
  cases why with
  | deadPid =>
    obtain ⟨here, gone⟩ := inv.dead sighting seen stale
    exact .inl ⟨sameHost.trans here, by rw [sameHost, samePid]; exact gone⟩
  | pastDeadline =>
    obtain ⟨elsewhere, late⟩ := inv.late sighting seen stale
    exact .inr (.inl ⟨sameHost ▸ elsewhere, by rw [sameDeadline, sameTime]; exact late⟩)
  | holderPrGone => exact .inr (.inr (samePr ▸ inTime stale))

/-- What fencing asks of a move holds where reconciliations are in time. -/
theorem fenced_step (inv : FenceInv world) {move : FenceMove}
    (inTime : ReconcilesInTime world move) : Fenced world (world.step config move) move := by
  -- A move that leaves the lane leaves everything that fencing speaks of.
  have still : ∀ {after : FenceWorld} {move : FenceMove}, after.lane = world.lane →
      Fenced world after move := by
    intro after move same
    refine ⟨fun fence lease _ held _ => ?_, fun lease next held stored => ?_,
      fun lease held gone => ?_⟩
    · rw [same]
      exact ⟨held, fun _ _ => Iff.rfl⟩
    · rw [same, held] at stored
      cases stored
      exact ⟨rfl, fun differs => absurd rfl differs⟩
    · rw [same, held] at gone
      cases gone
  cases move with
  | call move =>
    simp only [FenceWorld.step]
    split
    · have change := @move_lease config world.lane move
      refine ⟨fun fence lease compares held other => ?_, fun lease next held stored => ?_,
        fun lease held gone => ?_⟩
      · rw [unmatched_move compares held other]
        exact ⟨held, fun _ _ => Iff.rfl⟩
      · obtain ⟨sameId, renews⟩ := kept_or_gone change held stored
        refine ⟨sameId, fun differs => ?_⟩
        obtain ⟨now, isRenewal⟩ := renews differs
        obtain ⟨step, stop⟩ := move
        subst isRenewal
        rfl
      · left
        obtain ⟨step, stop⟩ := move
        rcases gone_by_fence change held gone with ⟨call, host, rfl⟩ | ⟨reason, host, rfl⟩
        · rfl
        · rfl
    · exact still rfl
  | inspect host now reused =>
    simp only [FenceWorld.step]
    split <;> exact still rfl
  | readPr sighting =>
    simp only [FenceWorld.step]
    split <;> exact still rfl
  | reclaim sighting host =>
    simp only [FenceWorld.step]
    split
    · exact still rfl
    · rename_i why stale
      split
      · rename_i seen
        -- A reclaim is a release by the fence that was seen.
        let release : LaneMove := ⟨.release sighting.lease.fence (reclaimCall why) host, none⟩
        have change := @move_lease config world.lane release
        refine ⟨fun fence lease compares held other => ?_, fun lease next held stored => ?_,
          fun lease held gone => ?_⟩
        · cases compares
          have silent : world.lane.move config release = world.lane :=
            unmatched_move rfl held other
          show (world.lane.move config release).lease = some lease ∧
            ∀ record : AttemptRecord, record.isOf lease.holderPr lease.holderHead = true →
              (record ∈ (world.lane.move config release).attempts ↔
                record ∈ world.lane.attempts)
          rw [silent]
          exact ⟨held, fun _ _ => Iff.rfl⟩
        · obtain ⟨sameId, renews⟩ := kept_or_gone change held stored
          refine ⟨sameId, fun differs => ?_⟩
          obtain ⟨now, isRenewal⟩ := renews differs
          cases isRenewal
        · right
          rcases gone_by_fence change held gone with ⟨call, host', same⟩ | ⟨reason, host', same⟩
          · injection same with sameFence
            exact reclaims_true inv seen inTime held sameFence.symm stale
          · cases same
      · exact still rfl
  | prune released =>
    simp only [FenceWorld.step]
    split
    · -- The prune compares no fence: only the condition spares the holder's attempts.
      have change := @move_lease config world.lane
        ⟨.forget released.holderPr released.holderHead, none⟩
      refine ⟨fun fence lease _ held _ => forget_kept held (inTime lease held),
        fun lease next held stored => ?_, fun lease held gone => ?_⟩
      · obtain ⟨sameId, renews⟩ := kept_or_gone change held stored
        refine ⟨sameId, fun differs => ?_⟩
        obtain ⟨now, isRenewal⟩ := renews differs
        cases isRenewal
      · rcases gone_by_fence change held gone with ⟨call, host, same⟩ | ⟨reason, host, same⟩ <;>
          cases same
    · exact still rfl
  | die host pid => exact still rfl
  | prGone pr => exact still rfl
  | reopen pr => exact still rfl

end

section

variable {config : LaneConfig} {world : FenceWorld}

theorem fenced_run (inv : FenceInv world) {moves : List FenceMove}
    (fresh : EachMove config UsesNewId world moves)
    (inTime : EachMove config ReconcilesInTime world moves) :
    EachMove config (fun before move => Fenced before (before.step config move) move) world
      moves := by
  induction moves generalizing world with
  | nil => trivial
  | cons move moves ih =>
    exact ⟨fenced_step inv inTime.1, ih (inv.step fresh.1) fresh.2 inTime.2⟩

/-- In every run of acquisitions, renewals, releases, aborts, reclaims and reconciliations by any
number of closers, from a lane without a lease, where every new lease has a new id: a call whose
fence is not the stored one changes neither the lease nor the attempts of its holder, a lease is
replaced by its renewal only, and one that is removed was given back by its own fence, or its
process is dead on the host that looked, or it was past its deadline on another host, or its pull
request is gone; provided that no pull request is reopened between the look at its state and the
release, and no lease is held for a head whose attempts a reconciliation prunes. -/
theorem merge_lease_fencing (config : LaneConfig) (lane : Lane) (free : lane.lease = none)
    (dead : String → Nat → Bool) (prGone : Nat → Bool) (moves : List FenceMove)
    (fresh : EachMove config UsesNewId { lane := lane, dead := dead, prGone := prGone } moves)
    (inTime : EachMove config ReconcilesInTime
      { lane := lane, dead := dead, prGone := prGone } moves) :
    EachMove config (fun before move => Fenced before (before.step config move) move)
      { lane := lane, dead := dead, prGone := prGone } moves := by
  have unseen : ∀ sighting, sighting ∉ ([] : List Sighting) := fun _ => List.not_mem_nil
  refine fenced_run ⟨fun lease held => ?_, fun sighting seen => absurd seen (unseen sighting),
    fun sighting seen => absurd seen (unseen sighting),
    fun sighting seen => absurd seen (unseen sighting),
    fun sighting seen => absurd seen (unseen sighting)⟩ fresh inTime
  cases free.symm.trans held

end

def elsewhereAt (now : Int) : LaneHost :=
  { hostAt now with host := "other" }

def sampleFenceMoves : List FenceMove :=
  let lease := sampleAcquire.lease (hostAt 2000)
  [.call ⟨.acquire sampleAcquire (hostAt 2000), none⟩,
    .call ⟨.release { lease.fence with acquiredAt := 0 } {} (hostAt 3000), none⟩,
    .inspect "other" 5000000 fun _ => false,
    .reclaim ⟨lease, "other", 5000000, some .pastDeadline⟩ (elsewhereAt 5000000)]

theorem merge_lease_fencing_sample :
    EachMove sampleConfig
      (fun before move => Fenced before (before.step sampleConfig move) move)
      { lane := { waiters := [sampleWaiter] } } sampleFenceMoves := by
  refine merge_lease_fencing sampleConfig { waiters := [sampleWaiter] } rfl _ _ sampleFenceMoves
    ⟨?_, ?_, trivial, trivial, trivial⟩ ⟨trivial, trivial, trivial, ?_, trivial⟩
  · rintro id ⟨⟩
    decide
  · rintro id ⟨⟩
  · rintro ⟨⟩

def sampleSecondAcquire : AcquireCall :=
  { sampleAcquire with leaseId := "lease-2", waiter := none }

/-- A reconciliation releases the lease of a closed pull request; the head takes a lease again and
charges an attempt before the reconciliation prunes its attempts. -/
def pruningMoves : List FenceMove :=
  let lease := sampleAcquire.lease (hostAt 2000)
  [.call ⟨.acquire sampleAcquire (hostAt 2000), none⟩,
    .prGone sampleAcquire.holderPr,
    .inspect "other" 3000 fun _ => false,
    .readPr ⟨lease, "other", 3000, none⟩,
    .reclaim ⟨lease, "other", 3000, some .holderPrGone⟩ (elsewhereAt 3000),
    .call ⟨.acquire sampleSecondAcquire (hostAt 4000), none⟩,
    .call ⟨.gateAttempt { pr := sampleAcquire.holderPr, head := sampleAcquire.holderHead,
                          now := 5000 }, none⟩,
    .prune lease]

def prunedAttempt : AttemptRecord where
  pr := sampleAcquire.holderPr
  head := sampleAcquire.holderHead
  attempts := 1
  firstAttemptAt := 5000
  lastAttemptAt := 5000

/-- A reconciliation prunes the attempts of a holder whose fence is not the one it released. -/
theorem reconciliation_prunes_new_holder :
    EachMove sampleConfig UsesNewId { lane := { waiters := [sampleWaiter] } } pruningMoves ∧
      ¬EachMove sampleConfig
        (fun before move => Fenced before (before.step sampleConfig move) move)
        { lane := { waiters := [sampleWaiter] } } pruningMoves := by
  constructor
  · refine ⟨?_, trivial, trivial, trivial, trivial, ?_, ?_, trivial, trivial⟩
    · rintro id ⟨⟩
      decide
    · rintro id ⟨⟩
      decide
    · rintro id ⟨⟩
  · rintro ⟨-, -, -, -, -, -, -, fenced, -⟩
    have kept := (fenced.unmatched (sampleAcquire.lease (hostAt 2000)).fence
      (sampleSecondAcquire.lease (hostAt 4000)) rfl (by decide) (by decide)).2
      prunedAttempt (by decide)
    exact absurd (kept.mpr (by decide)) (by decide)

end AdversarialReview.MergeLease
