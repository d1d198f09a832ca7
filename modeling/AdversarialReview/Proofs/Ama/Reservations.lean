import Mathlib.Data.List.Nodup
import AdversarialReview.Ama.HammerLedger

/-! How often a pull request can be dispatched in its lifetime, and one dispatch key reserved. -/

namespace AdversarialReview.Ama

def lifetimeCount (ledger : Option HammerLedger) : Nat :=
  ledger.elim 0 HammerLedger.lifetimeAttemptCount

def approvals (ledger : Option HammerLedger) : List (String × ApprovalRearm) :=
  ledger.elim [] HammerLedger.operatorApprovalRearms

def consumedHeads (ledger : Option HammerLedger) : List String :=
  ((approvals ledger).filter fun entry => entry.2.state = .consumed).map Prod.fst

/-- What a run has spent: dispatches recorded, lifetime credits granted, approvals consumed. -/
structure Spending where
  recorded : Nat := 0
  credits : Nat := 0
  consumed : List String := []

def recordedBy (existing : Option HammerLedger) : LedgerCall → Nat
  | .record _ => 1
  | .reserve options =>
    match reserveHammerRepairDispatch existing options with
    | .ok (true, _) => 1
    | _ => 0
  | _ => 0

def creditedBy (existing : Option HammerLedger) (call : LedgerCall) : Nat :=
  match call.refundOutcome existing with
  | some outcome => if outcome.credited.lifetime then 1 else 0
  | none => 0

/-- Carry out calls and add up what they spend. -/
def spend : Option HammerLedger × Spending → List LedgerCall → Option HammerLedger × Spending
  | state, [] => state
  | (ledger, spending), call :: rest =>
    spend (call.after ledger,
      { recorded := spending.recorded + recordedBy ledger call
        credits := spending.credits + creditedBy ledger call
        consumed := spending.consumed ++
          (consumedHeads (call.after ledger)).filter (· ∉ consumedHeads ledger) }) rest

def FreshIds (existing : Option HammerLedger) (options : DispatchOptions) : Prop :=
  ∀ ledger, existing = some ledger → priorCharge ledger options = none ∧
    keyCharged ledger options.dispatchKey = false

def Admissible (ceiling : Option Int) (existing : Option HammerLedger) : LedgerCall → Prop
  | .record options => options.lifetimeDispatchCeiling = ceiling ∧ FreshIds existing options ∧
      (evaluateHammerRetryCap existing options.jobKey options.headSha ceiling).capExhausted = false
  | .reserve options => options.lifetimeDispatchCeiling = ceiling ∧ FreshIds existing options
  | _ => True

def AllAdmissible (ceiling : Option Int) : Option HammerLedger → List LedgerCall → Prop
  | _, [] => True
  | ledger, call :: rest =>
    Admissible ceiling ledger call ∧ AllAdmissible ceiling (call.after ledger) rest

section

def charges (ledger : Option HammerLedger) : List (String × DispatchCharge) :=
  ledger.elim [] HammerLedger.dispatchCharges

inductive Refunds (existing : Option HammerLedger) (launch : Option String) :
    RefundOutcome → Prop where
  | refused (reason : String) : Refunds existing launch (refuseRefund existing reason)
  | taken {ledger refunded : HammerLedger} {budgets : Budgets} {done : Bool} {reason : String}
      (held : existing = some ledger)
      (lifetime : refunded.lifetimeAttemptCount = (takeOff ledger budgets).lifetimeAttemptCount)
      (rearms : refunded.operatorApprovalRearms = ledger.operatorApprovalRearms)
      (charges : refunded.dispatchCharges = ledger.dispatchCharges) :
      Refunds existing launch
        { refunded := done, reason := reason, credited := budgets
          ledger := some (creditHammerDispatchBudgets refunded launch budgets) }

variable {existing : Option HammerLedger}

theorem refunds_noWork {options : RefundOptions} :
    Refunds existing options.launchRequestId (refundNoWork existing options) := by
  unfold refundNoWork
  split
  · exact .refused _
  cases existing with
  | none => exact .refused _
  | some ledger =>
    dsimp only
    cases provenCharge ledger options with
    | none => exact .refused _
    | some entry =>
      dsimp only
      split
      · exact .refused _
      split
      · exact .refused _
      split
      · exact .refused _
      · exact .taken rfl rfl rfl rfl

theorem refunds {call : LedgerCall} {outcome : RefundOutcome}
    (made : call.refundOutcome existing = some outcome) :
    Refunds existing call.launch outcome ∧ call.after existing = outcome.ledger := by
  cases call with
  | refund options =>
    cases made
    refine ⟨?_, rfl⟩
    by_cases verdict : options.executionVerdict.isSome = true
    · simp only [LedgerCall.launch, refundHammerRetryDispatch, verdict, if_true]
      exact refunds_noWork
    simp only [LedgerCall.launch, refundHammerRetryDispatch, verdict, Bool.false_eq_true, if_false]
    cases existing with
    | none => exact .refused _
    | some ledger =>
      dsimp only
      cases exitRefusal ledger options with
      | some reason => exact .refused _
      | none => exact .taken rfl rfl rfl rfl
  | refundUnexecuted options =>
    cases made
    refine ⟨?_, rfl⟩
    by_cases verdict : options.executionVerdict.isSome = true
    · simp only [LedgerCall.launch, refundUnexecutedHammerDispatch, verdict, if_true]
      exact refunds_noWork
    simp only [LedgerCall.launch, refundUnexecutedHammerDispatch, verdict, Bool.false_eq_true,
      if_false]
    cases existing with
    | none => exact .refused _
    | some ledger =>
      dsimp only
      cases unexecutedRefusal ledger options with
      | some reason => exact .refused _
      | none => exact .taken rfl rfl rfl rfl
  | refundPhaseInputs launch =>
    cases made
    refine ⟨?_, rfl⟩
    unfold refundMissingPhaseInputsDispatch
    cases existing with
    | none => exact .refused _
    | some ledger =>
      dsimp only
      cases ledger.phaseInputsReplacement with
      | some replaced => exact .refused _
      | none =>
        dsimp only
        cases ledger.dispatchCharges.find? (ofLaunch launch) with
        | none => exact .refused _
        | some entry =>
          dsimp only
          split
          · exact .refused _
          · exact .taken rfl rfl rfl rfl
  | defer options =>
    cases made
    refine ⟨?_, rfl⟩
    unfold deferHammerRetryDispatch
    cases existing with
    | none => exact .refused _
    | some ledger =>
      dsimp only
      split
      · exact .refused _
      · exact .taken rfl rfl rfl rfl
  | _ => cases made

@[simp] theorem credit_lifetime (ledger : HammerLedger) (launch : Option String)
    (budgets : Budgets) : (creditHammerDispatchBudgets ledger launch budgets).lifetimeAttemptCount =
      ledger.lifetimeAttemptCount := by
  unfold creditHammerDispatchBudgets
  split <;> rfl

@[simp] theorem credit_approvals (ledger : HammerLedger) (launch : Option String)
    (budgets : Budgets) :
    (creditHammerDispatchBudgets ledger launch budgets).operatorApprovalRearms =
      ledger.operatorApprovalRearms := by
  unfold creditHammerDispatchBudgets
  split <;> rfl

variable {launch : Option String} {outcome : RefundOutcome}

theorem Refunds.lifetime_eq (shape : Refunds existing launch outcome) :
    lifetimeCount outcome.ledger =
      lifetimeCount existing - (if outcome.credited.lifetime then 1 else 0) := by
  cases shape with
  | refused reason => simp [refuseRefund]
  | taken held lifetime rearms charges =>
    subst held
    simp only [lifetimeCount, Option.elim_some, credit_lifetime, lifetime, takeOff, down]
    split <;> simp_all

theorem Refunds.approvals_eq (shape : Refunds existing launch outcome) :
    approvals outcome.ledger = approvals existing := by
  cases shape with
  | refused reason => rfl
  | taken held lifetime rearms charges =>
    subst held
    simp [approvals, rearms]

end

section

variable {α : Type}

theorem map_fst_editEntry (edit : α → α) (key : String) (entries : List (String × α)) :
    (editEntry edit key entries).map Prod.fst = entries.map Prod.fst := by
  unfold editEntry
  rw [List.map_map]
  refine List.map_congr_left fun entry _ => ?_
  simp only [Function.comp_apply]
  split <;> rfl

variable {entries : List (String × α)}

theorem mem_of_valueAt? {key : String} {value : α}
    (found : valueAt? entries key = some value) : (key, value) ∈ entries := by
  obtain ⟨entry, listed, rfl⟩ := Option.map_eq_some_iff.mp found
  have named : entry.1 = key := by simpa using List.find?_some listed
  subst named
  exact List.mem_of_find?_eq_some listed

theorem entry_unique (keys : (entries.map Prod.fst).Nodup)
    {key : String} {first second : α} (one : (key, first) ∈ entries)
    (two : (key, second) ∈ entries) : first = second :=
  congrArg Prod.snd (List.inj_on_of_nodup_map keys one two rfl)

theorem mem_setEntries_of_fresh {key : String} {value : α}
    (fresh : valueAt? entries key = none) {entry : String × α} (listed : entry ∈ entries) :
    entry ∈ OrderedMap.setEntries key value entries := by
  induction entries with
  | nil => cases listed
  | cons first rest ih =>
    have apart : first.1 ≠ key := by
      intro same
      simp [valueAt?, same] at fresh
    have restFresh : valueAt? rest key = none := by
      simpa [valueAt?, apart] using fresh
    simp only [OrderedMap.setEntries, apart, if_false]
    rcases List.mem_cons.mp listed with rfl | inRest
    · exact List.mem_cons_self
    · exact List.mem_cons_of_mem _ (ih restFresh inRest)

theorem mem_consumedHeads {ledger : Option HammerLedger} {head : String} :
    head ∈ consumedHeads ledger ↔
      ∃ approval, (head, approval) ∈ approvals ledger ∧ approval.state = .consumed := by
  simp only [consumedHeads, List.mem_map, List.mem_filter, decide_eq_true_eq]
  constructor
  · rintro ⟨⟨key, approval⟩, ⟨listed, used⟩, rfl⟩
    exact ⟨approval, listed, used⟩
  · rintro ⟨approval, listed, used⟩
    exact ⟨(head, approval), ⟨listed, used⟩, rfl⟩

def newlyConsumed (before after : Option HammerLedger) : List String :=
  (consumedHeads after).filter (· ∉ consumedHeads before)

end

/-- What bounds the spending of a run. -/
structure Within (ceiling : Option Int) (ledger : Option HammerLedger) (spending : Spending) :
    Prop where
  recorded : spending.recorded ≤ lifetimeCount ledger + spending.credits
  lifetime : lifetimeCount ledger ≤
    normalizeHammerLifetimeDispatchCeiling ceiling + spending.consumed.length
  keys : ((approvals ledger).map Prod.fst).Nodup
  consumed : ∀ head, head ∈ spending.consumed ↔ head ∈ consumedHeads ledger
  once : spending.consumed.Nodup

structure CallBound (ceiling : Option Int) (before after : Option HammerLedger)
    (recorded credits : Nat) : Prop where
  recorded : lifetimeCount before + recorded ≤ lifetimeCount after + credits
  lifetime : lifetimeCount after ≤ lifetimeCount before ∨
    lifetimeCount after ≤ normalizeHammerLifetimeDispatchCeiling ceiling ∨
    (lifetimeCount after ≤ lifetimeCount before + 1 ∧ newlyConsumed before after ≠ [])
  keys : ((approvals before).map Prod.fst).Nodup → ((approvals after).map Prod.fst).Nodup
  consumed : ∀ head, head ∈ consumedHeads before → head ∈ consumedHeads after

variable {ceiling : Option Int}

theorem Within.step {before after : Option HammerLedger}
    {spending : Spending} {recorded credits : Nat} (within : Within ceiling before spending)
    (bound : CallBound ceiling before after recorded credits) :
    Within ceiling after
      { recorded := spending.recorded + recorded
        credits := spending.credits + credits
        consumed := spending.consumed ++ newlyConsumed before after } where
  recorded := by
    have old := within.recorded
    have new := bound.recorded
    dsimp only
    omega
  lifetime := by
    have old := within.lifetime
    simp only [List.length_append]
    rcases bound.lifetime with fewer | capped | ⟨one, some_⟩
    · omega
    · omega
    · have taken := List.length_pos_iff.mpr some_
      omega
  keys := bound.keys within.keys
  consumed head := by
    simp only [List.mem_append, within.consumed, newlyConsumed, List.mem_filter,
      decide_eq_true_eq]
    constructor
    · rintro (old | ⟨new, -⟩)
      · exact bound.consumed head old
      · exact new
    · intro now
      by_cases old : head ∈ consumedHeads before
      · exact .inl old
      · exact .inr ⟨now, old⟩
  once := by
    -- What is consumed now was not consumed before.
    have keys : (consumedHeads after).Nodup :=
      (bound.keys within.keys).sublist (List.filter_sublist.map Prod.fst)
    refine List.Nodup.append within.once (keys.filter _) fun head old new => ?_
    simp only [newlyConsumed, List.mem_filter, decide_eq_true_eq] at new
    exact new.2 ((within.consumed head).mp old)

theorem callBound_same {before after : Option HammerLedger}
    (lifetime : lifetimeCount after = lifetimeCount before)
    (same : approvals after = approvals before) : CallBound ceiling before after 0 0 where
  recorded := by omega
  lifetime := .inl (by omega)
  keys := by simp [same]
  consumed head := by simp [consumedHeads, same]

theorem callBound_refund {existing : Option HammerLedger}
    {launch : Option String} {outcome : RefundOutcome} (shape : Refunds existing launch outcome) :
    CallBound ceiling existing outcome.ledger 0 (if outcome.credited.lifetime then 1 else 0) where
  recorded := by
    have less := shape.lifetime_eq
    omega
  lifetime := .inl (by have less := shape.lifetime_eq; omega)
  keys := by simp [shape.approvals_eq]
  consumed head := by simp [consumedHeads, shape.approvals_eq]

section

variable {existing : Option HammerLedger} {options : DispatchOptions}

@[simp] theorem withCharge_lifetime (ledger : HammerLedger) (options : DispatchOptions) :
    (withCharge ledger options).lifetimeAttemptCount = ledger.lifetimeAttemptCount := by
  unfold withCharge
  split <;> rfl

@[simp] theorem withCharge_approvals (ledger : HammerLedger) (options : DispatchOptions) :
    (withCharge ledger options).operatorApprovalRearms = ledger.operatorApprovalRearms := by
  unfold withCharge
  split <;> rfl

theorem evaluate_nextLifetime (jobKey headSha : Option String) (ceiling : Option Int) :
    (evaluateHammerRetryCap existing jobKey headSha ceiling).nextLifetimeCount =
      lifetimeCount existing + 1 := by
  cases existing <;> rfl

theorem recorded_lifetime :
    lifetimeCount (some (recordedLedger existing options)) = lifetimeCount existing + 1 := by
  simp [lifetimeCount, recordedLedger, consumeApproval, evaluate_nextLifetime]

def consumeFor (jobKey : Option String) (approval : ApprovalRearm) : ApprovalRearm :=
  if approval.state = .pending && approval.jobKey = jobKey then
    { approval with state := .consumed }
  else approval

def recordedJobKey (existing : Option HammerLedger) (options : DispatchOptions) : Option String :=
  normalizeKey options.jobKey <|>
    normalizeKey (existing.getD (emptyLedger options.uuid)).jobKey

theorem recorded_approvals : approvals (some (recordedLedger existing options)) =
    editEntry (consumeFor (recordedJobKey existing options))
      (objectKey (normalizeKey options.headSha)) (approvals existing) := by
  have before : (existing.getD (emptyLedger options.uuid)).operatorApprovalRearms =
      approvals existing := by
    cases existing <;> rfl
  simp only [approvals, Option.elim_some, recordedLedger, withCharge_approvals, consumeApproval,
    carrySeries, before, recordedJobKey]
  rfl

theorem record_of_fresh (fresh : FreshIds existing options) :
    recordHammerRetryDispatch existing options = .ok (some (recordedLedger existing options)) := by
  cases existing with
  | none => rfl
  | some ledger =>
    obtain ⟨noCharge, notListed⟩ := fresh ledger rfl
    simp [recordHammerRetryDispatch, noCharge, notListed]

theorem callBound_recorded {ceiling : Option Int} (keys : ((approvals existing).map Prod.fst).Nodup)
    (allowed : (evaluateHammerRetryCap existing options.jobKey options.headSha
      ceiling).capExhausted = false) :
    CallBound ceiling existing (some (recordedLedger existing options)) 1 0 where
  recorded := by
    rw [recorded_lifetime]
  keys := by
    rw [recorded_approvals, map_fst_editEntry]
    exact id
  consumed head := by
    rw [mem_consumedHeads, mem_consumedHeads, recorded_approvals]
    rintro ⟨approval, listed, used⟩
    -- A consumed approval is not pending, so the walk leaves it as it is.
    refine ⟨approval, List.mem_map.mpr ⟨(head, approval), listed, ?_⟩, used⟩
    simp [consumeFor, used]
  lifetime := by
    rw [recorded_lifetime]
    cases existing with
    | none =>
      refine .inr (.inl ?_)
      simp only [evaluateHammerRetryCap, decide_eq_false_iff_not, not_lt] at allowed
      simpa [lifetimeCount] using allowed
    | some ledger =>
      cases approved : approvalApplies ledger (normalizeKey options.jobKey)
          (normalizeKey options.headSha) (normalizeHammerLifetimeDispatchCeiling ceiling) with
      | false =>
        -- Without an approval the ceiling itself has room.
        refine .inr (.inl ?_)
        simp only [evaluateHammerRetryCap, approved, Bool.not_false, Bool.true_and,
          Bool.or_eq_false_iff, decide_eq_false_iff_not, not_lt] at allowed
        exact allowed.2.2
      | true =>
        refine .inr (.inr ⟨Nat.le_refl _, ?_⟩)
        simp only [approvalApplies, Bool.and_eq_true, decide_eq_true_eq, Option.any_eq_true,
          Bool.not_eq_true'] at approved
        obtain ⟨⟨⟨⟨-, jobKnown⟩, -⟩, -⟩, approval, found, ⟨pending, mine⟩, -⟩ := approved.1
        -- The approval names this series, so recording the dispatch consumes it.
        have series : recordedJobKey (some ledger) options = normalizeKey options.jobKey := by
          obtain ⟨jobKey, known⟩ := Option.isSome_iff_exists.mp jobKnown
          simp [recordedJobKey, known]
        have listed := mem_of_valueAt? found
        refine List.ne_nil_of_mem (a := objectKey (normalizeKey options.headSha)) ?_
        simp only [newlyConsumed, List.mem_filter, decide_eq_true_eq]
        constructor
        · rw [mem_consumedHeads, recorded_approvals]
          refine ⟨{ approval with state := .consumed }, List.mem_map.mpr ⟨_, listed, ?_⟩, rfl⟩
          simp [consumeFor, series, pending, mine]
        · rw [mem_consumedHeads]
          rintro ⟨other, there, used⟩
          rw [entry_unique keys there listed, pending] at used
          cases used

theorem reserve_cases (fresh : FreshIds existing options) :
    (reserveHammerRepairDispatch existing options = .ok (false, existing)) ∨
    ((evaluateHammerRetryCap existing options.jobKey options.headSha
        options.lifetimeDispatchCeiling).capExhausted = false ∧
      reserveHammerRepairDispatch existing options =
        .ok (true, some (recordedLedger existing options))) := by
  unfold reserveHammerRepairDispatch
  split
  · exact .inl rfl
  split
  · exact .inl rfl
  next open_ =>
    refine .inr ⟨by simpa using open_, ?_⟩
    rw [record_of_fresh fresh]
    rfl

end

theorem callBound_mark (existing : Option HammerLedger) (options : ExhaustionOptions) :
    CallBound ceiling existing (some (markHammerRetryCapExhausted existing options)) 0 0 := by
  cases existing <;> exact callBound_same rfl rfl

theorem callBound_grant (existing : Option HammerLedger) (options : GrantOptions) :
    CallBound ceiling existing (grantTransientHammerRetry existing options).2 0 0 := by
  unfold grantTransientHammerRetry
  split
  · dsimp only
    split <;> exact callBound_same rfl rfl
  · exact callBound_same rfl rfl

theorem callBound_reset (existing : Option HammerLedger) (options : ResetOptions) :
    CallBound ceiling existing (resetHammerSeriesForNonCloserHead existing options).2 0 0 := by
  unfold resetHammerSeriesForNonCloserHead
  split
  · split <;> exact callBound_same rfl rfl
  · exact callBound_same rfl rfl

theorem callBound_rearm (existing : Option HammerLedger) (options : RearmOptions) :
    CallBound ceiling existing (rearmOperatorApprovedCloser existing options).2 0 0 := by
  unfold rearmOperatorApprovedCloser
  cases existing with
  | none => exact callBound_same rfl rfl
  | some ledger =>
    dsimp only
    split
    · exact callBound_same rfl rfl
    next granted =>
      have fresh : valueAt? ledger.operatorApprovalRearms (objectKey options.headSha) = none := by
        cases found : valueAt? ledger.operatorApprovalRearms (objectKey options.headSha) with
        | none => rfl
        | some approval => simp [found] at granted
      refine ⟨Nat.le_refl _, .inl (Nat.le_refl _), OrderedMap.nodup_setEntries _ _, ?_⟩
      intro head
      rw [mem_consumedHeads, mem_consumedHeads]
      rintro ⟨approval, listed, used⟩
      exact ⟨approval, mem_setEntries_of_fresh fresh listed, used⟩

theorem callBound {existing : Option HammerLedger} {call : LedgerCall}
    (admissible : Admissible ceiling existing call)
    (keys : ((approvals existing).map Prod.fst).Nodup) :
    CallBound ceiling existing (call.after existing) (recordedBy existing call)
      (creditedBy existing call) := by
  cases call with
  | record options =>
    obtain ⟨same, fresh, allowed⟩ := admissible
    simp only [LedgerCall.after, record_of_fresh fresh]
    exact callBound_recorded keys allowed
  | reserve options =>
    obtain ⟨same, fresh⟩ := admissible
    rcases reserve_cases fresh with refused | ⟨allowed, reserved⟩
    · simp only [LedgerCall.after, recordedBy, refused]
      exact callBound_same rfl rfl
    · simp only [LedgerCall.after, recordedBy, reserved]
      exact callBound_recorded keys (same ▸ allowed)
  | mark options => exact callBound_mark existing options
  | grant options => exact callBound_grant existing options
  | reset options => exact callBound_reset existing options
  | rearm options => exact callBound_rearm existing options
  | refund options =>
    exact callBound_refund (@refunds _ (.refund options) _ rfl).1
  | refundUnexecuted options =>
    exact callBound_refund (@refunds _ (.refundUnexecuted options) _ rfl).1
  | refundPhaseInputs launch =>
    exact callBound_refund (@refunds _ (.refundPhaseInputs launch) _ rfl).1
  | defer options =>
    exact callBound_refund (@refunds _ (.defer options) _ rfl).1

theorem within_spend {calls : List LedgerCall}
    {existing : Option HammerLedger} {spending : Spending}
    (within : Within ceiling existing spending)
    (admissible : AllAdmissible ceiling existing calls) :
    Within ceiling (spend (existing, spending) calls).1 (spend (existing, spending) calls).2 := by
  induction calls generalizing existing spending with
  | nil => exact within
  | cons call rest ih =>
    exact ih (within.step (callBound admissible.1 within.keys)) admissible.2

/--
From an absent ledger, the dispatches recorded never exceed the ceiling, the lifetime credits and
the approvals consumed, and each head's approval is consumed at most once.
-/
theorem lifetime_ceiling (ceiling : Option Int) (calls : List LedgerCall)
    (admissible : AllAdmissible ceiling none calls) :
    (spend (none, {}) calls).2.recorded ≤
      normalizeHammerLifetimeDispatchCeiling ceiling + (spend (none, {}) calls).2.credits +
        (spend (none, {}) calls).2.consumed.length ∧
    (spend (none, {}) calls).2.consumed.Nodup := by
  have start : Within ceiling none {} :=
    ⟨Nat.le_refl _, Nat.zero_le _, List.nodup_nil, fun _ => by simp [consumedHeads, approvals],
      List.nodup_nil⟩
  have last := within_spend start admissible
  have recorded := last.recorded
  have lifetime := last.lifetime
  exact ⟨by omega, last.once⟩

def sampleCeilingRun : List LedgerCall :=
  [.record { jobKey := some "h", headSha := some "h", launchRequestId := some "l1",
             lifetimeDispatchCeiling := some 1, uuid := "u" },
    .refundUnexecuted { jobKey := some "h", headSha := some "h", launchRequestId := some "l1",
                        foreignLaunch := true },
    .record { jobKey := some "h", headSha := some "h", launchRequestId := some "l2",
              lifetimeDispatchCeiling := some 1, uuid := "v" }]

/-- A run under a ceiling of one dispatch that a credit stretches to two. -/
theorem lifetime_ceiling_sample :
    (spend (none, {}) sampleCeilingRun).2.recorded ≤
      normalizeHammerLifetimeDispatchCeiling (some 1) +
        (spend (none, {}) sampleCeilingRun).2.credits +
        (spend (none, {}) sampleCeilingRun).2.consumed.length ∧
    (spend (none, {}) sampleCeilingRun).2.consumed.Nodup := by
  have admissible : AllAdmissible (some 1) none sampleCeilingRun := by
    refine ⟨⟨rfl, fun ledger held => (by cases held), by decide⟩, trivial,
      ⟨rfl, fun ledger held => ?_, by decide⟩, trivial⟩
    cases held
    decide
  exact lifetime_ceiling (some 1) sampleCeilingRun admissible

def chargeKeys (ledger : Option HammerLedger) : List String := (charges ledger).map Prod.fst

/-- Calls, each with whether its process lived to see it return. -/
abbrev LedgerRun := List (LedgerCall × Bool)

def LedgerRun.ledger (existing : Option HammerLedger) (run : LedgerRun) : Option HammerLedger :=
  runLedger existing (run.map Prod.fst)

def reservations (key : String) : Option HammerLedger → LedgerRun → Nat
  | _, [] => 0
  | ledger, (call, returns) :: rest =>
    (if returns && call.reserves ledger key then 1 else 0) +
      reservations key (call.after ledger) rest

/-- A reservation with a key; where both of its tests let it pass, nothing is charged under its
key or its launch. -/
def ReservesUncharged (existing : Option HammerLedger) : LedgerCall → Prop
  | .reserve options => (normalizeKey options.dispatchKey).isSome = true ∧
      ∀ ledger, existing = some ledger → keyCharged ledger options.dispatchKey = false →
        (evaluateHammerRetryCap existing options.jobKey options.headSha
          options.lifetimeDispatchCeiling).capExhausted = false → priorCharge ledger options = none
  | _ => True

def AllUncharged : Option HammerLedger → LedgerRun → Prop
  | _, [] => True
  | ledger, (call, _) :: rest =>
    ReservesUncharged ledger call ∧ AllUncharged (call.after ledger) rest

section

variable {existing : Option HammerLedger}

theorem credit_keys (ledger : HammerLedger) (launch : Option String) (budgets : Budgets) :
    (creditHammerDispatchBudgets ledger launch budgets).dispatchCharges.map Prod.fst =
      ledger.dispatchCharges.map Prod.fst := by
  unfold creditHammerDispatchBudgets
  split
  · rfl
  · dsimp only
    exact map_fst_editEntry _ _ _

theorem mem_setEntries_self {α : Type} (key : String) (value : α) (entries : List (String × α)) :
    (key, value) ∈ OrderedMap.setEntries key value entries := by
  induction entries with
  | nil => exact List.mem_cons_self
  | cons first rest ih =>
    simp only [OrderedMap.setEntries]
    split
    · exact List.mem_cons_self
    · exact List.mem_cons_of_mem _ ih

theorem mem_keys_of_mem {α : Type} {key other : String} {value : α} {entries : List (String × α)}
    (listed : other ∈ entries.map Prod.fst) :
    other ∈ (OrderedMap.setEntries key value entries).map Prod.fst := by
  induction entries with
  | nil => cases listed
  | cons first rest ih =>
    simp only [OrderedMap.setEntries]
    split
    next same =>
      rcases List.mem_cons.mp listed with rfl | inRest
      · exact List.mem_cons.mpr (.inl same)
      · exact List.mem_cons.mpr (.inr inRest)
    · rcases List.mem_cons.mp listed with rfl | inRest
      · exact List.mem_cons_self
      · exact List.mem_cons_of_mem _ (ih inRest)

theorem recorded_charges (options : DispatchOptions) :
    ∃ charge : DispatchCharge, charge.refundedBudgets = {} ∧
      charge.launchRequestId = normalizeKey options.launchRequestId ∧
      charges (some (recordedLedger existing options)) =
        options.chargeKey.elim (charges existing) fun key =>
          OrderedMap.setEntries key charge (charges existing) := by
  have before : ∀ uuid, (existing.getD (emptyLedger uuid)).dispatchCharges = charges existing := by
    cases existing <;> exact fun _ => rfl
  simp only [charges, Option.elim_some, recordedLedger, withCharge]
  cases options.chargeKey with
  | none =>
    exact ⟨⟨normalizeKey options.launchRequestId, 1, "", {}, none, none, none⟩, rfl, rfl, before _⟩
  | some key =>
    simp only [Option.elim_some, consumeApproval, carrySeries, before]
    exact ⟨_, rfl, rfl, rfl⟩

theorem Refunds.keys_eq {launch : Option String} {outcome : RefundOutcome}
    (shape : Refunds existing launch outcome) :
    chargeKeys outcome.ledger = chargeKeys existing := by
  cases shape with
  | refused reason => rfl
  | taken held lifetime rearms same =>
    subst held
    simp only [chargeKeys, charges, Option.elim_some, credit_keys, same]

theorem record_keys {options : DispatchOptions} {after : Option HammerLedger}
    (recorded : recordHammerRetryDispatch existing options = .ok after) {key : String}
    (charged : key ∈ chargeKeys existing) : key ∈ chargeKeys after := by
  have fresh : key ∈ chargeKeys (some (recordedLedger existing options)) := by
    obtain ⟨charge, -, -, same⟩ := @recorded_charges existing options
    rw [chargeKeys, same]
    cases options.chargeKey with
    | none => exact charged
    | some own => exact mem_keys_of_mem charged
  unfold recordHammerRetryDispatch at recorded
  cases existing with
  | none => cases charged
  | some ledger =>
    dsimp only at recorded
    split at recorded
    next own charge found =>
      split at recorded
      · cases recorded
      split at recorded
      · cases recorded
        exact mem_keys_of_mem charged
      · cases recorded
        exact charged
    next =>
      split at recorded
      · cases recorded
        exact charged
      · cases recorded
        exact fresh

theorem mark_charges (options : ExhaustionOptions) :
    charges (some (markHammerRetryCapExhausted existing options)) = charges existing := by
  cases existing <;> rfl

theorem grant_charges (options : GrantOptions) :
    charges (grantTransientHammerRetry existing options).2 = charges existing := by
  unfold grantTransientHammerRetry
  split
  · dsimp only
    split <;> rfl
  · rfl

theorem reset_charges (options : ResetOptions) :
    charges (resetHammerSeriesForNonCloserHead existing options).2 = charges existing := by
  unfold resetHammerSeriesForNonCloserHead
  split
  · split <;> rfl
  · rfl

theorem rearm_charges (options : RearmOptions) :
    charges (rearmOperatorApprovedCloser existing options).2 = charges existing := by
  unfold rearmOperatorApprovedCloser
  cases existing with
  | none => rfl
  | some ledger =>
    dsimp only
    split <;> rfl

theorem chargeKeys_after (call : LedgerCall) {key : String} (charged : key ∈ chargeKeys existing) :
    key ∈ chargeKeys (call.after existing) := by
  cases call with
  | record options =>
    simp only [LedgerCall.after]
    cases recorded : recordHammerRetryDispatch existing options with
    | error message => exact charged
    | ok after => exact record_keys recorded charged
  | reserve options =>
    simp only [LedgerCall.after, reserveHammerRepairDispatch]
    split
    next outcome reserved =>
      split at reserved
      · cases reserved
        exact charged
      split at reserved
      · cases reserved
        exact charged
      · obtain ⟨after, recorded, made⟩ := Except.bind_ok reserved
        cases made
        exact record_keys recorded charged
    · exact charged
  | mark options => rwa [LedgerCall.after, chargeKeys, mark_charges]
  | grant options => rwa [LedgerCall.after, chargeKeys, grant_charges]
  | reset options => rwa [LedgerCall.after, chargeKeys, reset_charges]
  | rearm options => rwa [LedgerCall.after, chargeKeys, rearm_charges]
  | refund options =>
    obtain ⟨shape, same⟩ := @refunds existing (.refund options) _ rfl
    rwa [same, shape.keys_eq]
  | refundUnexecuted options =>
    obtain ⟨shape, same⟩ := @refunds existing (.refundUnexecuted options) _ rfl
    rwa [same, shape.keys_eq]
  | refundPhaseInputs launch =>
    obtain ⟨shape, same⟩ := @refunds existing (.refundPhaseInputs launch) _ rfl
    rwa [same, shape.keys_eq]
  | defer options =>
    obtain ⟨shape, same⟩ := @refunds existing (.defer options) _ rfl
    rwa [same, shape.keys_eq]

end

theorem reserved_cases {existing : Option HammerLedger} {options : DispatchOptions}
    {after : Option HammerLedger} (uncharged : ReservesUncharged existing (.reserve options))
    (reserved : reserveHammerRepairDispatch existing options = .ok (true, after)) :
    ∃ name, normalizeKey options.dispatchKey = some name ∧ name ∉ chargeKeys existing ∧
      name ∈ chargeKeys after ∧ lifetimeCount after = lifetimeCount existing + 1 := by
  obtain ⟨name, named⟩ := Option.isSome_iff_exists.mp uncharged.1
  have key : options.chargeKey = some name := by simp [DispatchOptions.chargeKey, named]
  unfold reserveHammerRepairDispatch at reserved
  split at reserved
  · cases reserved
  next notListed =>
    split at reserved
    · cases reserved
    next allowed =>
      obtain ⟨recorded, written, made⟩ := Except.bind_ok reserved
      cases made
      -- Both tests were passed, so nothing is charged under the key or the launch.
      have fresh : FreshIds existing options := by
        intro ledger held
        subst held
        have unlisted : keyCharged ledger options.dispatchKey = false := by
          simpa using notListed
        exact ⟨uncharged.2 ledger rfl unlisted (by simpa using allowed), unlisted⟩
      rw [record_of_fresh fresh] at written
      cases written
      refine ⟨name, named, fun charged => ?_, ?_, recorded_lifetime⟩
      · cases existing with
        | none => cases charged
        | some ledger =>
          obtain ⟨entry, listed, is⟩ := List.mem_map.mp charged
          have unknown := (fresh ledger rfl).1
          have absent : (ledger.dispatchCharges.find? fun entry => entry.1 = name) = none := by
            cases found : ledger.dispatchCharges.find? fun entry => entry.1 = name with
            | none => rfl
            | some other => simp [priorCharge, key, objectKey, found] at unknown
          exact List.find?_eq_none.mp absent entry listed (by simpa using is)
      · obtain ⟨charge, -, -, same⟩ := @recorded_charges existing options
        rw [chargeKeys, same, key]
        exact List.mem_map.mpr ⟨_, mem_setEntries_self name charge _, rfl⟩

theorem reserves_eq {existing : Option HammerLedger} {call : LedgerCall} {key : String}
    (reserves : call.reserves existing key = true) :
    ∃ options after, call = .reserve options ∧ options.dispatchKey = some key ∧
      reserveHammerRepairDispatch existing options = .ok (true, after) := by
  cases call with
  | reserve options =>
    simp only [LedgerCall.reserves, Bool.and_eq_true, decide_eq_true_eq] at reserves
    obtain ⟨same, returned⟩ := reserves
    refine ⟨options, ?_⟩
    cases made : reserveHammerRepairDispatch existing options with
    | error message => simp [made] at returned
    | ok outcome =>
      simp only [made] at returned
      exact ⟨outcome.2, rfl, same, by rw [← returned]⟩
  | _ => cases reserves

theorem reservations_charged {key name : String} (named : normalizeKey (some key) = some name)
    {run : LedgerRun} {existing : Option HammerLedger} (charged : name ∈ chargeKeys existing)
    (uncharged : AllUncharged existing run) : reservations key existing run = 0 := by
  induction run generalizing existing with
  | nil => rfl
  | cons step rest ih =>
    obtain ⟨call, returns⟩ := step
    have never : call.reserves existing key = false := by
      by_contra again
      obtain ⟨options, after, rfl, same, reserved⟩ := reserves_eq (by simpa using again)
      obtain ⟨other, known, fresh, -⟩ := reserved_cases uncharged.1 reserved
      rw [same, named] at known
      cases known
      exact fresh charged
    simp [reservations, never, ih (chargeKeys_after call charged) uncharged.2]

theorem reservations_le_one {key : String} {run : LedgerRun} {existing : Option HammerLedger}
    (uncharged : AllUncharged existing run) : reservations key existing run ≤ 1 := by
  induction run generalizing existing with
  | nil => exact Nat.zero_le 1
  | cons step rest ih =>
    obtain ⟨call, returns⟩ := step
    cases made : returns && call.reserves existing key with
    | false => simpa [reservations, made] using ih uncharged.2
    | true =>
      -- The key is charged from here on.
      obtain ⟨options, after, rfl, same, reserved⟩ := reserves_eq (Bool.and_eq_true_iff.mp made).2
      obtain ⟨name, named, -, charged, -⟩ := reserved_cases uncharged.1 reserved
      rw [same] at named
      have written : LedgerCall.after existing (.reserve options) = after := by
        simp [LedgerCall.after, reserved]
      have none := reservations_charged named (by rwa [written]) uncharged.2
      simp [reservations, made, none]

theorem allUncharged_append {first second : LedgerRun} {existing : Option HammerLedger}
    (uncharged : AllUncharged existing (first ++ second)) :
    AllUncharged (first.ledger existing) second := by
  induction first generalizing existing with
  | nil => exact uncharged
  | cons step rest ih => exact ih uncharged.2

/--
Where no reservation passes its tests while a charge is known under its key or its launch, each
key is reserved at most once, and each reservation counts one more for the lifetime.
-/
theorem reservation_once (run : LedgerRun) (uncharged : AllUncharged none run) (key : String) :
    reservations key none run ≤ 1 ∧
    ∀ first call returns rest, run = first ++ (call, returns) :: rest →
      call.reserves (LedgerRun.ledger none first) key = true →
      lifetimeCount (call.after (LedgerRun.ledger none first)) =
        lifetimeCount (LedgerRun.ledger none first) + 1 := by
  refine ⟨reservations_le_one uncharged, ?_⟩
  rintro first call returns rest rfl reserves
  obtain ⟨here, -⟩ := allUncharged_append uncharged
  obtain ⟨options, after, rfl, -, reserved⟩ := reserves_eq reserves
  obtain ⟨name, -, -, -, counted⟩ := reserved_cases here reserved
  simpa [LedgerCall.after, reserved] using counted

def sampleReserve : LedgerCall :=
  .reserve { jobKey := some "h", headSha := some "h", dispatchKey := some "k", uuid := "u" }

def sampleLapse : LedgerRun :=
  [(.mark { jobKey := some "h", headSha := some "h", uuid := "u" }, true),
    (.refundUnexecuted
      { jobKey := some "h", headSha := some "h", launchRequestId := some "l" }, true)]

/-- The repair is reserved a second time, and nothing more is counted. -/
theorem reserved_twice :
    reservations "k" none ((sampleReserve, true) :: sampleLapse ++ [(sampleReserve, true)]) = 2 ∧
    lifetimeCount (LedgerRun.ledger none
      ((sampleReserve, true) :: sampleLapse ++ [(sampleReserve, true)])) = 1 := by
  decide

/-- A repair that is reserved once and refused the second time. -/
theorem reservation_once_sample :
    reservations "k" none [(sampleReserve, true), (sampleReserve, true)] ≤ 1 := by
  have uncharged : AllUncharged none [(sampleReserve, true), (sampleReserve, true)] := by
    refine ⟨⟨by decide, fun ledger held => by cases held⟩,
      ⟨by decide, fun ledger held unlisted => ?_⟩, trivial⟩
    cases held
    revert unlisted
    decide
  exact (reservation_once _ uncharged "k").1

end AdversarialReview.Ama
