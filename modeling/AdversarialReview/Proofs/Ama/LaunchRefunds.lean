import AdversarialReview.Proofs.Ama.Reservations

/-! Refunds of hammer launches: what is taken off on behalf of one launch. -/

namespace AdversarialReview.Ama

def takenFor (launch : String) (existing : Option HammerLedger) (call : LedgerCall) : Budgets :=
  match call.refundOutcome existing with
  | some outcome => if call.launch = some launch then outcome.credited else {}
  | none => {}

def takenTotal (launch : String) (budget : Budget) : Option HammerLedger → List LedgerCall → Nat
  | _, [] => 0
  | ledger, call :: rest =>
    (if (takenFor launch ledger call).has budget then 1 else 0) +
      takenTotal launch budget (call.after ledger) rest

def launchCharge (ledger : HammerLedger) (launch : Option String) :
    Option (String × DispatchCharge) :=
  ledger.dispatchCharges.find? (ofLaunch launch)

def ChargeOpen (ledger : HammerLedger) (launch : Option String) : Prop :=
  ∃ entry, launchCharge ledger launch = some entry ∧ entry.2.refundedBudgets = {}

def BindsOnce (ledger : HammerLedger) (options : DispatchOptions) : Prop :=
  ∀ entry, priorCharge ledger options = some entry → given entry.2.launchRequestId = false →
    given options.launchRequestId = true → launchCharge ledger options.launchRequestId = none

/-- What a call has to find in the ledger, so that it takes nothing off twice. -/
def Accounted (ledger : HammerLedger) : LedgerCall → Prop
  | .record options => BindsOnce ledger options
  | .reserve options => BindsOnce ledger options
  | .refund options =>
    if options.executionVerdict.isSome then
      ∀ entry, provenCharge ledger options = some entry →
        launchCharge ledger options.launchRequestId = some entry
    else ∀ launch, normalizeKey options.launchRequestId = some launch →
      exitRefusal ledger options = none → ChargeOpen ledger (some launch)
  | .refundUnexecuted options =>
    if options.executionVerdict.isSome then
      ∀ entry, provenCharge ledger options = some entry →
        launchCharge ledger options.launchRequestId = some entry
    else ∀ launch, normalizeKey options.launchRequestId = some launch →
      unexecutedRefusal ledger options = none → ChargeOpen ledger (some launch)
  | .defer options => deferralNew ledger options = true → deferralRefunds ledger options = true →
      ChargeOpen ledger options.launchRequestId
  | _ => True

def AllAccounted : Option HammerLedger → List LedgerCall → Prop
  | _, [] => True
  | ledger, call :: rest =>
    (∀ held, ledger = some held → Accounted held call) ∧ AllAccounted (call.after ledger) rest

def chargeOf (ledger : Option HammerLedger) (launch : Option String) :
    Option (String × DispatchCharge) :=
  (charges ledger).find? (ofLaunch launch)

def MarksKept (launch : Option String) (before after : Option HammerLedger) : Prop :=
  ∀ entry, chargeOf before launch = some entry →
    ∃ later, chargeOf after launch = some later ∧
      ∀ budget, entry.2.refundedBudgets.has budget = true →
        later.2.refundedBudgets.has budget = true

theorem Budgets.has_join (before credited : Budgets) (budget : Budget) :
    (before.join credited).has budget = (before.has budget || credited.has budget) := by
  cases budget <;> rfl

theorem Budgets.has_none (budget : Budget) : ({} : Budgets).has budget = false := by
  cases budget <;> rfl

section

variable {existing : Option HammerLedger} {launch : Option String}

theorem marksKept_of_eq {before after : Option HammerLedger}
    (same : charges after = charges before) : MarksKept launch before after := by
  intro entry found
  exact ⟨entry, by rw [chargeOf, same]; exact found, fun _ marked => marked⟩

theorem find?_editEntry (edit : DispatchCharge → DispatchCharge)
    (keeps : ∀ charge, (edit charge).launchRequestId = charge.launchRequestId) (key : String)
    (entries : List (String × DispatchCharge)) :
    (editEntry edit key entries).find? (ofLaunch launch) =
      (entries.find? (ofLaunch launch)).map fun entry =>
        if entry.1 = key then (entry.1, edit entry.2) else entry := by
  induction entries with
  | nil => rfl
  | cons first rest ih =>
    have same : ofLaunch launch (if first.1 = key then (first.1, edit first.2) else first) =
        ofLaunch launch first := by
      split <;> simp [ofLaunch, keeps]
    simp only [editEntry, List.map_cons, List.find?_cons, same]
    split
    · rfl
    · exact ih

theorem credit_charges (ledger : HammerLedger) (other : Option String) (budgets : Budgets) :
    charges (some (creditHammerDispatchBudgets ledger other budgets)) =
      (launchCharge ledger other).elim ledger.dispatchCharges fun entry =>
        editEntry (DispatchCharge.credit budgets) entry.1 ledger.dispatchCharges := by
  unfold creditHammerDispatchBudgets launchCharge
  cases ledger.dispatchCharges.find? (ofLaunch other) <;> rfl

theorem marksKept_credit {ledger refunded : HammerLedger} {other : Option String}
    {budgets : Budgets} (same : refunded.dispatchCharges = ledger.dispatchCharges) :
    MarksKept launch (some ledger) (some (creditHammerDispatchBudgets refunded other budgets)) := by
  intro entry found
  have there : refunded.dispatchCharges.find? (ofLaunch launch) = some entry := by
    rw [same]
    exact found
  rw [chargeOf, credit_charges]
  cases launchCharge refunded other with
  | none => exact ⟨entry, there, fun _ marked => marked⟩
  | some marked =>
    rw [Option.elim_some, find?_editEntry (DispatchCharge.credit budgets) (fun _ => rfl),
      there]
    refine ⟨_, rfl, fun budget before => ?_⟩
    dsimp only
    split
    · simp [DispatchCharge.credit, Budgets.has_join, before]
    · exact before

theorem credit_marks {ledger refunded : HammerLedger} {budgets : Budgets}
    {entry : String × DispatchCharge} (same : refunded.dispatchCharges = ledger.dispatchCharges)
    (found : launchCharge ledger launch = some entry) :
    ∃ later, chargeOf (some (creditHammerDispatchBudgets refunded launch budgets)) launch =
        some later ∧ later.2.refundedBudgets = entry.2.refundedBudgets.join budgets := by
  have there : launchCharge refunded launch = some entry := by
    rw [launchCharge, same]
    exact found
  rw [chargeOf, credit_charges, there, Option.elim_some,
    find?_editEntry (DispatchCharge.credit budgets) (fun _ => rfl)]
  rw [launchCharge] at there
  rw [there]
  exact ⟨_, rfl, by simp [DispatchCharge.credit]⟩

theorem find?_setEntries_launch {key : String} {charge : DispatchCharge}
    {entries : List (String × DispatchCharge)} {entry : String × DispatchCharge}
    (fresh : key ∉ entries.map Prod.fst) (found : entries.find? (ofLaunch launch) = some entry) :
    (OrderedMap.setEntries key charge entries).find? (ofLaunch launch) = some entry := by
  induction entries with
  | nil => cases found
  | cons first rest ih =>
    simp only [List.map_cons, List.mem_cons, not_or] at fresh
    simp only [OrderedMap.setEntries, Ne.symm fresh.1, if_false, List.find?_cons] at found ⊢
    split at found
    · exact found
    · exact ih fresh.2 found

theorem find?_setEntries_other {key : String} {new : DispatchCharge}
    {entries : List (String × DispatchCharge)} {own : String × DispatchCharge}
    (hit : entries.find? (fun entry => entry.1 = key) = some own)
    (notOld : ofLaunch launch own = false) (notNew : ofLaunch launch (key, new) = false) :
    (OrderedMap.setEntries key new entries).find? (ofLaunch launch) =
      entries.find? (ofLaunch launch) := by
  induction entries with
  | nil => cases hit
  | cons first rest ih =>
    by_cases same : first.1 = key
    · simp only [List.find?_cons, same, decide_true] at hit
      cases hit
      simp [OrderedMap.setEntries, same, notOld, notNew]
    · simp only [List.find?_cons, same, decide_false] at hit
      simp only [OrderedMap.setEntries, same, if_false, List.find?_cons, ih hit]

/-- Recording a dispatch keeps the charges' marks, where it binds no launch twice. -/
theorem marksKept_record {name : String} (named : name ≠ "") {options : DispatchOptions}
    {after : Option HammerLedger}
    (binds : ∀ ledger, existing = some ledger → BindsOnce ledger options)
    (recorded : recordHammerRetryDispatch existing options = .ok after) :
    MarksKept (some name) existing after := by
  unfold recordHammerRetryDispatch at recorded
  cases existing with
  | none =>
    intro entry found
    cases found
  | some ledger =>
    dsimp only at recorded
    split at recorded
    next own charge known =>
      split at recorded
      · cases recorded
      split at recorded
      next bound =>
        -- A launch is bound: it is another one than any that is charged.
        cases recorded
        simp only [Bool.and_eq_true, Bool.not_eq_true'] at bound
        have unbound := binds ledger rfl _ known bound.1 bound.2
        intro entry found
        have apart : some name ≠ options.launchRequestId := by
          intro same
          have hit : launchCharge ledger options.launchRequestId = some entry := same ▸ found
          rw [unbound] at hit
          cases hit
        have isNamed : given (some name) = true := by simpa [given] using named
        have hit : (ledger.dispatchCharges.find? fun entry => entry.1 = own) =
            some (own, charge) := by
          unfold priorCharge at known
          cases byKey : ledger.dispatchCharges.find? fun entry =>
              entry.1 = objectKey options.chargeKey with
          | some other =>
            rw [byKey] at known
            have same : other = (own, charge) := Option.some.inj known
            subst same
            have key : own = objectKey options.chargeKey := by
              simpa using List.find?_some byKey
            rw [key]
            rw [key] at byKey
            exact byKey
          | none =>
            rw [byKey, if_pos bound.2] at known
            have mine := List.find?_some (p := ofLaunch options.launchRequestId) known
            simp only [ofLaunch, decide_eq_true_eq] at mine
            rw [mine, bound.2] at bound
            cases bound.1
        have notOld : ofLaunch (some name) (own, charge) = false := by
          simp only [ofLaunch, decide_eq_false_iff_not]
          intro same
          rw [same, isNamed] at bound
          cases bound.1
        have notNew : ofLaunch (some name)
            (own, { charge with launchRequestId := options.launchRequestId }) = false := by
          simpa [ofLaunch] using Ne.symm apart
        refine ⟨entry, ?_, fun _ marked => marked⟩
        exact (find?_setEntries_other hit notOld notNew).trans found
      · cases recorded
        exact marksKept_of_eq rfl
    next unknown =>
      split at recorded
      · cases recorded
        exact marksKept_of_eq rfl
      · cases recorded
        intro entry found
        obtain ⟨charge, -, -, same⟩ := @recorded_charges (some ledger) options
        refine ⟨entry, ?_, fun _ marked => marked⟩
        rw [chargeOf, same]
        cases key : options.chargeKey with
        | none => exact found
        | some name =>
          refine find?_setEntries_launch (fun charged => ?_) found
          obtain ⟨other, listed, is⟩ := List.mem_map.mp charged
          have absent : (ledger.dispatchCharges.find? fun entry => entry.1 = name) = none := by
            cases hit : ledger.dispatchCharges.find? fun entry => entry.1 = name with
            | none => rfl
            | some other => simp [priorCharge, key, objectKey, hit] at unknown
          exact List.find?_eq_none.mp absent other listed (by simpa using is)

end

structure TakesOpen (launch : String) (existing : Option HammerLedger) (call : LedgerCall) :
    Prop where
  kept : MarksKept (some launch) existing (call.after existing)
  opens : ∀ budget, (takenFor launch existing call).has budget = true →
    ∃ before later, chargeOf existing (some launch) = some before ∧
      before.2.refundedBudgets.has budget = false ∧
      chargeOf (call.after existing) (some launch) = some later ∧
      later.2.refundedBudgets.has budget = true

variable {call : LedgerCall}

theorem takesOpen_of_none {launch : String} {existing : Option HammerLedger}
    (none : call.refundOutcome existing = none)
    (kept : MarksKept (some launch) existing (call.after existing)) :
    TakesOpen launch existing call := by
  refine ⟨kept, fun budget taken => ?_⟩
  simp only [takenFor, none, Budgets.has_none] at taken
  cases taken

theorem takesOpen_of_refund {launch : String} {existing : Option HammerLedger}
    {outcome : RefundOutcome} (made : call.refundOutcome existing = some outcome)
    (open_ : call.launch = some launch → ∀ ledger, existing = some ledger → ∀ budget,
      outcome.credited.has budget = true → ∃ entry, launchCharge ledger (some launch) =
        some entry ∧ entry.2.refundedBudgets.has budget = false) :
    TakesOpen launch existing call := by
  obtain ⟨shape, after⟩ := refunds made
  constructor
  · rw [after]
    cases shape with
    | refused reason => exact marksKept_of_eq rfl
    | taken held lifetime rearms same =>
      subst held
      exact marksKept_credit same
  · intro budget taken
    simp only [takenFor, made] at taken
    split at taken
    next mine =>
      rw [after]
      cases shape with
      | refused reason =>
        simp only [refuseRefund, Budgets.has_none] at taken
        cases taken
      | taken held lifetime rearms same =>
        subst held
        obtain ⟨entry, found, unmarked⟩ := open_ mine _ rfl budget taken
        rw [mine]
        obtain ⟨later, placed, marks⟩ := credit_marks same found
        exact ⟨entry, later, found, unmarked, placed, by simp [marks, Budgets.has_join, taken]⟩
    · simp only [Budgets.has_none] at taken
      cases taken

theorem openBudgets_unmarked {ledger : HammerLedger} {charge : DispatchCharge} {budget : Budget}
    (isOpen : (openBudgets ledger charge).has budget = true) :
    charge.refundedBudgets.has budget = false := by
  cases budget <;> simp_all [openBudgets, Budgets.has]

section

variable {ledger : HammerLedger} {budget : Budget}

variable {options : RefundOptions}

theorem noWork_opens (agrees : ∀ entry, provenCharge ledger options = some entry →
      launchCharge ledger options.launchRequestId = some entry)
    (taken : (refundNoWork (some ledger) options).credited.has budget = true) :
    ∃ entry, launchCharge ledger options.launchRequestId = some entry ∧
      entry.2.refundedBudgets.has budget = false := by
  have refusal : ∀ reason, (refuseRefund (some ledger) reason).credited.has budget ≠ true := by
    simp [refuseRefund, Budgets.has_none]
  unfold refundNoWork at taken
  split at taken
  · exact absurd taken (refusal _)
  dsimp only at taken
  cases proven : provenCharge ledger options with
  | none =>
    rw [proven] at taken
    exact absurd taken (refusal _)
  | some entry =>
    simp only [proven] at taken
    split at taken
    · exact absurd taken (refusal _)
    split at taken
    · exact absurd taken (refusal _)
    split at taken
    · exact absurd taken (refusal _)
    · exact ⟨entry, agrees entry proven, openBudgets_unmarked taken⟩

theorem ChargeOpen.opens {launch : Option String} (isOpen : ChargeOpen ledger launch) :
    ∃ entry, launchCharge ledger launch = some entry ∧
      entry.2.refundedBudgets.has budget = false := by
  obtain ⟨entry, found, none⟩ := isOpen
  exact ⟨entry, found, by rw [none, Budgets.has_none]⟩

theorem exit_opens (accounted : Accounted ledger (.refund options)) {launch : String}
    (mine : (LedgerCall.refund options).launch = some launch)
    (taken : (refundHammerRetryDispatch (some ledger) options).credited.has budget = true) :
    ∃ entry, launchCharge ledger (some launch) = some entry ∧
      entry.2.refundedBudgets.has budget = false := by
  by_cases verdict : options.executionVerdict.isSome = true
  · simp only [Accounted, LedgerCall.launch, refundHammerRetryDispatch, verdict, if_true] at *
    rw [← mine]
    exact noWork_opens accounted taken
  · simp only [Accounted, LedgerCall.launch, refundHammerRetryDispatch, verdict,
      Bool.false_eq_true, if_false] at *
    cases refusal : exitRefusal ledger options with
    | some reason => simp [refusal, refuseRefund, Budgets.has_none] at taken
    | none => exact (accounted launch mine refusal).opens

theorem unexecuted_opens
    (accounted : Accounted ledger (.refundUnexecuted options)) {launch : String}
    (mine : (LedgerCall.refundUnexecuted options).launch = some launch)
    (taken : (refundUnexecutedHammerDispatch (some ledger) options).credited.has budget = true) :
    ∃ entry, launchCharge ledger (some launch) = some entry ∧
      entry.2.refundedBudgets.has budget = false := by
  by_cases verdict : options.executionVerdict.isSome = true
  · simp only [Accounted, LedgerCall.launch, refundUnexecutedHammerDispatch, verdict,
      if_true] at *
    rw [← mine]
    exact noWork_opens accounted taken
  · simp only [Accounted, LedgerCall.launch, refundUnexecutedHammerDispatch, verdict,
      Bool.false_eq_true, if_false] at *
    cases refusal : unexecutedRefusal ledger options with
    | some reason => simp [refusal, refuseRefund, Budgets.has_none] at taken
    | none => exact (accounted launch mine refusal).opens

theorem phaseInputs_opens {launch : Option String}
    (taken : (refundMissingPhaseInputsDispatch (some ledger) launch).credited.has budget = true) :
    ∃ entry, launchCharge ledger launch = some entry ∧
      entry.2.refundedBudgets.has budget = false := by
  unfold refundMissingPhaseInputsDispatch at taken
  dsimp only at taken
  cases replaced : ledger.phaseInputsReplacement with
  | some other => simp [replaced, refuseRefund, Budgets.has_none] at taken
  | none =>
    simp only [replaced] at taken
    cases found : ledger.dispatchCharges.find? (ofLaunch launch) with
    | none => simp [found, refuseRefund, Budgets.has_none] at taken
    | some entry =>
      simp only [found] at taken
      split at taken
      · simp [refuseRefund, Budgets.has_none] at taken
      · refine ⟨entry, found, @openBudgets_unmarked ledger _ _ ?_⟩
        cases budget with
        | pr => exact taken
        | head => exact taken
        | lifetime => cases taken
        | transient => cases taken

theorem defer_opens {options : DeferOptions} (accounted : Accounted ledger (.defer options))
    (taken : (deferHammerRetryDispatch (some ledger) options).credited.has budget = true) :
    ∃ entry, launchCharge ledger options.launchRequestId = some entry ∧
      entry.2.refundedBudgets.has budget = false := by
  unfold deferHammerRetryDispatch at taken
  dsimp only at taken
  split at taken
  · simp [refuseRefund, Budgets.has_none] at taken
  next isNew =>
    have refund : deferralRefunds ledger options = true := by
      cases budget <;> simp_all [Budgets.has]
    exact (accounted (by simpa using isNew) refund).opens

end

theorem takesOpen {launch : String} (named : launch ≠ "") {existing : Option HammerLedger}
    (accounted : ∀ held, existing = some held → Accounted held call) :
    TakesOpen launch existing call := by
  cases call with
  | record options =>
    refine takesOpen_of_none rfl ?_
    simp only [LedgerCall.after]
    cases recorded : recordHammerRetryDispatch existing options with
    | error message => exact marksKept_of_eq rfl
    | ok after => exact marksKept_record named accounted recorded
  | reserve options =>
    refine takesOpen_of_none rfl ?_
    simp only [LedgerCall.after, reserveHammerRepairDispatch]
    split
    next outcome reserved =>
      split at reserved
      · cases reserved
        exact marksKept_of_eq rfl
      split at reserved
      · cases reserved
        exact marksKept_of_eq rfl
      · obtain ⟨after, recorded, made⟩ := Except.bind_ok reserved
        cases made
        exact marksKept_record named accounted recorded
    · exact marksKept_of_eq rfl
  | mark options => exact takesOpen_of_none rfl (marksKept_of_eq (mark_charges options))
  | grant options => exact takesOpen_of_none rfl (marksKept_of_eq (grant_charges options))
  | reset options => exact takesOpen_of_none rfl (marksKept_of_eq (reset_charges options))
  | rearm options => exact takesOpen_of_none rfl (marksKept_of_eq (rearm_charges options))
  | refund options =>
    refine takesOpen_of_refund rfl fun mine ledger held budget taken => ?_
    subst held
    exact exit_opens (accounted ledger rfl) mine taken
  | refundUnexecuted options =>
    refine takesOpen_of_refund rfl fun mine ledger held budget taken => ?_
    subst held
    exact unexecuted_opens (accounted ledger rfl) mine taken
  | refundPhaseInputs other =>
    refine takesOpen_of_refund rfl fun mine ledger held budget taken => ?_
    subst held
    exact (show other = some launch from mine) ▸ phaseInputs_opens taken
  | defer options =>
    refine takesOpen_of_refund rfl fun mine ledger held budget taken => ?_
    subst held
    exact (show options.launchRequestId = some launch from mine) ▸
      defer_opens (accounted ledger rfl) taken

theorem takenTotal_le {launch : String} (named : launch ≠ "") {calls : List LedgerCall}
    {existing : Option HammerLedger} (accounted : AllAccounted existing calls) (budget : Budget) :
    takenTotal launch budget existing calls ≤ 1 ∧
    ((∃ entry, chargeOf existing (some launch) = some entry ∧
      entry.2.refundedBudgets.has budget = true) →
        takenTotal launch budget existing calls = 0) := by
  induction calls generalizing existing with
  | nil => exact ⟨Nat.zero_le 1, fun _ => rfl⟩
  | cons call rest ih =>
    have step := takesOpen named accounted.1
    obtain ⟨once, marked⟩ := ih accounted.2
    cases taken : (takenFor launch existing call).has budget with
    | false =>
      refine ⟨by simpa [takenTotal, taken] using once, ?_⟩
      rintro ⟨entry, found, before⟩
      obtain ⟨later, kept, marks⟩ := step.kept entry found
      simpa [takenTotal, taken] using marked ⟨later, kept, marks budget before⟩
    | true =>
      obtain ⟨before, later, found, unmarked, kept, marks⟩ := step.opens budget taken
      refine ⟨by simp [takenTotal, taken, marked ⟨later, kept, marks⟩], ?_⟩
      rintro ⟨entry, there, already⟩
      rw [found] at there
      cases there
      rw [unmarked] at already
      cases already

theorem allAccounted_append {first second : List LedgerCall} {existing : Option HammerLedger}
    (accounted : AllAccounted existing (first ++ second)) :
    AllAccounted (runLedger existing first) second := by
  induction first generalizing existing with
  | nil => exact accounted
  | cons call rest ih => exact ih accounted.2

/--
Where every refund finds an open charge of its launch, each budget is taken off at most once on
behalf of a launch, and only after the launch was charged.
-/
theorem launch_refunded_once (calls : List LedgerCall) (accounted : AllAccounted none calls)
    (launch : String) (named : launch ≠ "") (budget : Budget) :
    takenTotal launch budget none calls ≤ 1 ∧
    ∀ first call rest, calls = first ++ call :: rest →
      (takenFor launch (runLedger none first) call).has budget = true →
      (chargeOf (runLedger none first) (some launch)).isSome = true := by
  refine ⟨(takenTotal_le named accounted budget).1, ?_⟩
  rintro first call rest rfl taken
  obtain ⟨here, -⟩ := allAccounted_append accounted
  obtain ⟨before, -, found, -⟩ := (takesOpen named here).opens budget taken
  simp [found]

def sampleDispatch (head launch : String) : LedgerCall :=
  .record
    { jobKey := some head, headSha := some head, launchRequestId := some launch, uuid := head }

def sampleExit (head launch : String) : LedgerCall :=
  .refund { jobKey := some head, headSha := some head, launchRequestId := some launch }

/-- A fresh review clears the list of refunded launches, and the first launch is refunded again;
a launch that was never charged is refunded too. -/
theorem refunded_twice :
    takenTotal "l1" .pr none [sampleDispatch "a" "l1", sampleExit "a" "l1",
      sampleDispatch "b" "l2", sampleExit "b" "l1"] = 2 ∧
    takenTotal "l3" .pr none [sampleDispatch "a" "l1", sampleExit "a" "l3"] = 1 ∧
    (chargeOf (runLedger none [sampleDispatch "a" "l1", sampleExit "a" "l3"])
      (some "l3")).isSome = false := by
  decide

/-- A launch that exits and is refunded once. -/
theorem launch_refunded_once_sample :
    takenTotal "l1" .pr none [sampleDispatch "a" "l1", sampleExit "a" "l1"] ≤ 1 := by
  have accounted : AllAccounted none [sampleDispatch "a" "l1", sampleExit "a" "l1"] := by
    refine ⟨fun held absent => (by cases absent), fun held found => ?_, trivial⟩
    cases found
    intro launch known _
    have same : launch = "l1" := Option.some.inj (known.symm.trans (by decide))
    subst same
    exact ⟨_, rfl, rfl⟩
  exact (launch_refunded_once _ accounted "l1" (by decide) .pr).1

end AdversarialReview.Ama
