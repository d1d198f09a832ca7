import AdversarialReview.Finalization.QueueRuns
import AdversarialReview.Proofs.Finalization.QueueStore

/-! Fences of a lane: a generation has one owner, and one left behind never writes again. -/

namespace AdversarialReview

open Transaction

/-- How a lane's row may differ later: while its generation stays, so does its owner. -/
structure RowLater (row later : LaneRow) : Prop where
  generation : row.generation ≤ later.generation
  routeGeneration : row.routeGeneration ≤ later.routeGeneration
  owner : later.ownerState = .active → later.generation = row.generation →
    row.ownerState = .active ∧ later.ownerId = row.ownerId

def OwnersLater (db later : QueueDb) : Prop :=
  ∀ lane row, readOwner lane db = some row →
    ∃ next, readOwner lane later = some next ∧ RowLater row next

theorem RowLater.refl (row : LaneRow) : RowLater row row :=
  ⟨Nat.le_refl _, Nat.le_refl _, fun active _ => ⟨active, rfl⟩⟩

theorem RowLater.trans {first second third : LaneRow} (early : RowLater first second)
    (late : RowLater second third) : RowLater first third where
  generation := early.generation.trans late.generation
  routeGeneration := early.routeGeneration.trans late.routeGeneration
  owner active same := by
    -- Between two equal generations there is no other one.
    have below := early.generation
    have above := late.generation
    obtain ⟨still, held⟩ := late.owner active (by omega)
    obtain ⟨began, owned⟩ := early.owner still (by omega)
    exact ⟨began, held.trans owned⟩

instance : Std.Refl OwnersLater := ⟨fun _ _ row found => ⟨row, found, .refl row⟩⟩

instance : IsTrans QueueDb OwnersLater where
  trans _ _ _ early late lane row found := by
    obtain ⟨middle, found, near⟩ := early lane row found
    obtain ⟨next, found, far⟩ := late lane middle found
    exact ⟨next, found, near.trans far⟩

theorem OwnersLater.of_lanes {db later : QueueDb} (lanes : later.lanes = db.lanes) :
    OwnersLater db later :=
  fun _ row found => ⟨row, by rw [readOwner, lanes]; exact found, .refl row⟩

theorem OwnersLater.updateLane (db : QueueDb) (lane : LaneKey) {edit : LaneRow → LaneRow}
    (keeps : ∀ row, (edit row).lane = row.lane ∧ RowLater row (edit row)) :
    OwnersLater db (db.updateLane lane edit) := by
  intro wanted row found
  rw [readOwner_updateLane fun row => (keeps row).1, found]
  refine ⟨_, rfl, ?_⟩
  split
  · exact (keeps row).2
  · exact .refl row

theorem OwnersLater.ensureLane (db : QueueDb) (lane : LaneKey) :
    OwnersLater db (db.ensureLane lane) := by
  refine fun wanted row found => ⟨row, ?_, .refl row⟩
  rw [readOwner_ensureLane]
  split
  · next same => subst same; simp [found]
  · exact found

variable [JsDate]

theorem later_append (lane : LaneKey) (recordedAt : String) (body : QueueEventBody) :
    Keeps OwnersLater (QueueStore.append lane recordedAt body) :=
  .bind (.refuse _ _) fun _ => .modify fun _ => .of_lanes rfl

theorem later_timeInside (reading : Nat) : Keeps OwnersLater (QueueOwner.timeInside reading) :=
  .bind (.ask _) fun _ => .raise _

theorem later_settleDrained (lane : LaneKey) (evidence : Json) (reading : Nat)
    (pending : List OperationRow) :
    Keeps OwnersLater (LaneRouting.settleDrained lane evidence reading pending) := by
  induction pending generalizing reading with
  | nil => exact .pure _
  | cons op rest ih =>
    exact .bind (.modify fun _ => .of_lanes rfl) fun _ => .bind (later_timeInside _) fun _ =>
      .bind (later_append _ _ _) fun _ => ih _

theorem later_assertFence (fence : QueueFence) (now : String) :
    Keeps OwnersLater (assertFence fence now) := by
  intro host db
  refine (assertFence_commits fence now host db).mono ?_
  rintro row later ⟨rfl, -⟩
  exact Std.Refl.refl _

/-- The transactions that an owner's fence guards. -/
inductive Fenced (fence : QueueFence) : {α : Type} → Tx α → Prop
  | progress (args : ProgressArgs) (own : args.fence = fence) : Fenced fence (progress args)
  | renew (lane : LaneKey) (expiresAt : String) :
      Fenced fence (QueueOwner.renewTx fence lane expiresAt)
  | release (lane : LaneKey) : Fenced fence (QueueOwner.releaseTx fence lane)
  | prepare (args : QueueOwner.IssueArgs) (lane : LaneKey) (issuedAt : String)
      (own : args.fence = fence) : Fenced fence (QueueOwner.prepare args lane issuedAt)
  | settle (lane : LaneKey) (operationId : String) (result : Json) :
      Fenced fence (QueueOwner.settleIssued fence lane operationId result)

theorem Fenced.refused {fence : QueueFence} {α : Type} {tx : Tx α} (fenced : Fenced fence tx)
    {host : Host} {db : QueueDb}
    (never : ∀ now, (assertFence fence now).Commits host db fun _ _ => False) :
    ∃ message, tx host db = .error message := by
  refine throws_of_commits ?_
  cases fenced with
  | progress args own =>
    subst own
    simp only [AdversarialReview.progress, commits_bind, commits_raise, commits_refuse]
    exact fun _ _ _ => (never _).mono fun _ _ => False.elim
  | renew lane expiresAt =>
    simp only [QueueOwner.renewTx, commits_bind, commits_timeInside]
    exact fun _ _ => (never _).mono fun _ _ => False.elim
  | release lane =>
    simp only [QueueOwner.releaseTx, commits_bind, commits_timeInside]
    exact fun _ _ => (never _).mono fun _ _ => False.elim
  | prepare args lane issuedAt own =>
    subst own
    exact (commits_bind _ _).mpr ((never _).mono fun _ _ => False.elim)
  | settle lane operationId result =>
    simp only [QueueOwner.settleIssued, commits_bind, commits_timeInside]
    exact fun _ _ => (never _).mono fun _ _ => False.elim

variable [HandoffDigest]

theorem QueueCall.keepsOwners (call : QueueCall) :
    Transacts (Keeps OwnersLater) call.program := by
  have reads : ∀ {α : Type} (reader : QueueDb → α),
      Keeps OwnersLater (Transaction.read reader : Tx α) := fun reader => .read reader
  rcases call with args | (args | ⟨fence, expiresAt⟩ | fence | args | args | args | args)
  all_goals refine Prog.Uses.bind ?_ fun _ => trivial
  -- Each call comes down to its transactions, and these to what they write.
  on_goal 8 => refine LaneRouting.transacts_transfer reads ?_ ?_ ?_ ?_ ?_
  on_goal 7 => refine LaneRouting.transacts_run reads ?_ ?_ ?_ ?_ ?_
  on_goal 6 => refine transacts_transact ?_
  on_goal 5 => refine QueueOwner.transacts_issue ?_ ?_
  on_goal 4 => refine QueueOwner.transacts_release ?_
  on_goal 3 => refine QueueOwner.transacts_renew ?_
  on_goal 2 => refine QueueOwner.transacts_claim reads ?_ ?_ ?_
  on_goal 1 => refine transacts_transact ?_
  all_goals
    intros
    repeat' first
      | with_reducible exact .pure _
      | with_reducible exact .throw _
      | with_reducible exact .raise _
      | with_reducible exact .refuse _ _
      | with_reducible exact .read _
      | with_reducible exact .ask _
      | with_reducible exact later_append _ _ _
      | with_reducible exact later_timeInside _
      | with_reducible exact later_assertFence _ _
      | with_reducible exact later_settleDrained _ _ _ _
      | with_reducible refine .bind ?_ fun _ => ?_
      | with_reducible refine .each (fun _ => ?_) _
      | with_reducible refine .modify fun db => ?_
      | exact OwnersLater.ensureLane db _
      | exact OwnersLater.updateLane db _ fun row => ⟨rfl, by constructor <;> simp⟩
      | exact OwnersLater.of_lanes rfl
      | exact OwnersLater.of_lanes (by rw [ensureRoute_eq])
      | exact OwnersLater.of_lanes (by rw [listReturn_eq])
      | split
      | unfold QueueOwner.park
      | unfold QueueOwner.takeOver
      | unfold QueueOwner.settle
      | unfold QueueOwner.renewTx
      | unfold QueueOwner.releaseTx
      | unfold QueueOwner.prepare
      | unfold QueueOwner.replayIntent
      | unfold QueueOwner.settleIssued
      | unfold progress
      | unfold progressSubject
      | unfold readmission
      | unfold nextReadiness
      | unfold writeEntry
      | unfold AdversarialReview.acknowledge
      | unfold insertEntry
      | unfold LaneRouting.initialize_
      | unfold LaneRouting.refreshRoute
      | unfold LaneRouting.startWriter
      | unfold LaneRouting.beginTransfer
      | unfold LaneRouting.settleTransfer
      | unfold LaneRouting.returnEntry
      | unfold LaneRouting.completeTransfer

theorem runCalls_ownersLater (calls : Nat → QueueCall)
    (moves more : List (Interleaved.Move Nat QueueAnswers MergeReceiptRow)) :
    OwnersLater (runCalls calls moves).shared.db (runCalls calls (moves ++ more)).shared.db := by
  induction more using List.reverseRecOn with
  | nil => exact .of_lanes (by rw [List.append_nil])
  | append_singleton more next ih =>
    rw [← List.append_assoc, runCalls_snoc]
    refine IsTrans.trans _ _ _ ih ?_
    have uses : Interleaved.AllUse (fun _ => OnTx (Keeps OwnersLater))
        (runCalls calls (moves ++ more)) :=
      Interleaved.AllUse.runMoves (fun caller => (calls caller).keepsOwners) _
    cases next with
    | external receipt => exact .of_lanes rfl
    | crash caller => exact .of_lanes rfl
    | run caller answers =>
      refine uses.run_related (fun world later => OwnersLater world.db later.db) (.of_lanes rfl) ?_
      intro β effect meets
      exact performQueue_onTx meets (.of_lanes rfl) fun body kept => kept answers.host _

/--
In every run, with crashes anywhere, a lane's generations only grow and each is held by one owner.
Once the lane has gone past a fence, no transaction under that fence commits again.
-/
theorem stale_fences_never_write (calls : Nat → QueueCall)
    (moves more : List (Interleaved.Move Nat QueueAnswers MergeReceiptRow)) :
    let db := (runCalls calls moves).shared.db
    let later := (runCalls calls (moves ++ more)).shared.db
    OwnersLater db later ∧
    ∀ (fence : QueueFence) (lane : LaneKey) (row : LaneRow),
      resolveLaneKey fence.lane = .ok lane → readOwner lane db = some row →
      fence.generation < row.generation ∨ fence.routeGeneration < row.routeGeneration →
      ∀ {α : Type} (tx : Tx α) (host : Host), Fenced fence tx →
        ∃ message, tx host later = .error message := by
  intro db later
  have grown : OwnersLater db later := runCalls_ownersLater calls moves more
  refine ⟨grown, fun fence lane row resolved found stale α tx host fenced => ?_⟩
  refine fenced.refused fun now => ?_
  refine (assertFence_commits fence now host later).mono ?_
  rintro held _ ⟨-, again, resolvedToo, -, foundToo, holds⟩
  -- The row that the fence is compared with is past it.
  obtain ⟨next, nextFound, far⟩ := grown lane row found
  obtain rfl : again = lane := Except.ok.inj (resolvedToo.symm.trans resolved)
  obtain rfl : held = next := Option.some.inj (foundToo.symm.trans nextFound)
  have generation := far.generation
  have routeGeneration := far.routeGeneration
  simp only [fenceHolds, Bool.and_eq_true, decide_eq_true_eq] at holds
  omega

end AdversarialReview
