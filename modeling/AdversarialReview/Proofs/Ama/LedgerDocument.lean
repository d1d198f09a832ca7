import AdversarialReview.Ama.LedgerDocument

/-! When a damaged hammer ledger stops every dispatch. -/

namespace AdversarialReview.Ama.LedgerDocument

open Json

def DamagedCount (document : Json) (key : String) : Prop :=
  ∃ value, document.get? key = some value ∧
    ¬ ∃ number count, value = .num number ∧ literal number = .finite count ∧ 0 ≤ count

def countKeys : List String :=
  ["attemptCount", "targetAttemptCount", "lifetimeAttemptCount"]

def Damaged : Option Json → Prop
  | some (.obj members) => ∃ key ∈ countKeys, DamagedCount (.obj members) key
  | _ => True

variable [JsText] [JsNumeric] [JsDate]

/-- The cap decides about the dispatch, and stops it. -/
def FailsClosed (file : LedgerFile) (jobKey headSha : Option String) (ceiling : JsDouble) : Prop :=
  ∃ decision, evaluateHammerRetryCap (readHammerRetryCapLedger file) jobKey headSha ceiling =
    .ok decision ∧ decision.capExhausted = true

def Converts {α : Type} (reading : Except String α) : Prop :=
  ∃ value, reading = .ok value

def Moved (document : Json) (key : String) (incoming : Option String) : Prop :=
  ∃ known, normalizeKey (document.get? key) = .ok known ∧
    keyChanged known (Ama.normalizeKey incoming) = true

def Named (document : Json) (key : String) : Prop :=
  ∃ known, normalizeKey (document.get? key) = .ok (some known)

def TooMany (count : Option Json) (bound : Rat) : Prop :=
  ∃ number, toNumber count = .ok number ∧ exceeds (plusOne (atLeastZero number)) bound = true

def SeriesStop (document : Json) (jobKey : Option String) : Prop :=
  (Json.truthy (document.get? "suppressed") = true ∨
    TooMany (orTruthy (document.get? "attemptCount") (some (.num 0)))
      hammerRetryCapTotalDispatches) ∧
  ¬ Moved document "jobKey" jobKey

def TargetStop (document : Json) (headSha : Option String) : Prop :=
  (Json.truthy (document.get? "targetSuppressed") = true ∨
    (Named document "targetRemediationSha" ∧
      TooMany (orElse (document.get? "targetAttemptCount") (some (.num 0)))
        hammerRetryCapTotalDispatches)) ∧
  ¬ Moved document "targetRemediationSha" headSha

def lifetimeReading (count : Option Json) (ceiling : Int) : Except String Int :=
  match orElse count none with
  | none => .ok 0
  | some value => (toNumber (some value)).map fun
    | .finite count => max 0 (trunc count)
    | _ => ceiling

def LifetimeStop (document : Json) (ceiling : Int) : Prop :=
  Json.truthy (document.get? "lifetimeSuppressed") = true ∨
    ∃ count, lifetimeReading (lifetimeCount document) ceiling = .ok count ∧
      exceeds (plusOne (.finite count)) ceiling = true

def PendingApproval (document : Json) (jobKey headSha : Option String) (ceiling : Int)
    (approval : Option Json) : Prop :=
  ∃ key head, Ama.normalizeKey jobKey = some key ∧ Ama.normalizeKey headSha = some head ∧
    approval = entryOf (document.get? "operatorApprovalRearms") head ∧
    Json.truthy (document.get? "__corrupt") = false ∧ 0 < ceiling ∧
    ¬ Moved document "jobKey" jobKey ∧
    isText (document.get? "lastDispatchedHeadSha") head = true ∧
    isText (member approval "state") "pending" = true ∧
    isText (member approval "reason") "operator-approval-applied" = true ∧
    isText (member approval "jobKey") key = true

def Approved (document : Json) (jobKey headSha : Option String) (ceiling : Int) : Prop :=
  ∃ approval, PendingApproval document jobKey headSha ceiling approval ∧
    (∃ instant, dateParse (member approval "grantedAt") = .ok (some instant)) ∧
    isCount (document.get? "attemptCount") = true ∧ isCount (lifetimeCount document) = true ∧
    isCount (orElse (document.get? "targetAttemptCount") (some (.num 0))) = true

structure MembersConvert (document : Json) (incoming headSha : Option String) (ceiling : Int) :
    Prop where
  jobKey : Converts (normalizeKey (document.get? "jobKey"))
  attemptCount : ¬ Moved document "jobKey" incoming →
    Converts (toNumber (orTruthy (document.get? "attemptCount") (some (.num 0))))
  lifetimeCount : Converts (lifetimeReading (lifetimeCount document) ceiling)
  targetSha : Converts (normalizeKey (document.get? "targetRemediationSha"))
  targetAttemptCount : ¬ Moved document "targetRemediationSha" headSha →
    Named document "targetRemediationSha" →
    Converts (toNumber (orElse (document.get? "targetAttemptCount") (some (.num 0))))
  grantedAt : ∀ approval, PendingApproval document incoming headSha ceiling approval →
    Converts (dateParse (member approval "grantedAt"))
  charges : Converts (lifetimeChargeTime document ceiling)
  alertedAt : lifetimeChargeTime document ceiling = .ok none →
    Json.truthy (document.get? "lifetimeSuppressed") = true ∨
      (Json.truthy (document.get? "suppressed") = true ∧ ¬ Moved document "jobKey" incoming) →
    Converts (memberInstant (some document) "alertedAt")
  targetAlertedAt : Json.truthy (document.get? "targetSuppressed") = true →
    ¬ Moved document "targetRemediationSha" headSha →
    Converts (memberInstant (some document) "targetAlertedAt")

section

variable {document : Json} {jobKey headSha : Option String} {ceiling : Int}

omit [JsText] [JsNumeric] [JsDate] in
theorem bind_eq_ok {α β : Type} {first : Except String α} {next : α → Except String β} {value : β} :
    (first >>= next) = .ok value ↔ ∃ between, first = .ok between ∧ next between = .ok value := by
  cases first <;> simp [bind, Except.bind]

omit [JsNumeric] [JsDate] in
theorem moved_iff {key : String} {incoming known : Option String}
    (read : normalizeKey (document.get? key) = .ok known) :
    Moved document key incoming ↔ keyChanged known (Ama.normalizeKey incoming) = true := by
  simp [Moved, read]

omit [JsNumeric] [JsDate] in
theorem named_iff {key : String} {known : Option String}
    (read : normalizeKey (document.get? key) = .ok known) :
    Named document key ↔ known.isSome = true := by
  simp [Named, read, Option.isSome_iff_exists]

omit [JsText] [JsDate] in
theorem sanitizeLifetimeCount_eq (count : Option Json) (ceiling : Int) :
    sanitizeLifetimeCount count ceiling = lifetimeReading count ceiling := by
  cases count with
  | none => rfl
  | some value =>
    cases value with
    | null => rfl
    | _ =>
      simp only [sanitizeLifetimeCount, lifetimeReading, orElse]
      cases toNumber _ with
      | error message => rfl
      | ok number => cases number <;> rfl

omit [JsText] [JsNumeric] [JsDate] in
theorem get?_of_not_truthy (falsy : Json.truthy (some document) = false) (key : String) :
    document.get? key = none := by
  cases document with
  | obj members => simp [Json.truthy] at falsy
  | _ => rfl

omit [JsText] [JsNumeric] [JsDate] in
theorem counts_from_zero : literal 0 = .finite 0 ∧ atLeastZero (.finite 0) = .finite 0 ∧
    plusOne (.finite 0) = .finite 1 ∧
    exceeds (plusOne (.finite 0)) hammerRetryCapTotalDispatches = false := by
  decide +kernel

omit [JsText] [JsDate] in
theorem toNumber_zero : toNumber (some (.num 0)) = .ok (.finite 0) := by
  simp [toNumber, counts_from_zero.1]

omit [JsText] [JsDate] in
theorem not_tooMany_zero : ¬ TooMany (some (.num 0)) hammerRetryCapTotalDispatches := by
  rintro ⟨number, read, excess⟩
  rw [toNumber_zero] at read
  cases read
  obtain ⟨-, none, -, first⟩ := counts_from_zero
  rw [none, first] at excess
  cases excess

omit [JsText] [JsDate] in
theorem priorCount_stops_iff {anew : Bool} {value : Option Json} {prior : JsDouble}
    (absent : Json.truthy (some document) = false → value = some (.num 0))
    (read : priorCount document anew value = .ok prior) :
    exceeds (plusOne prior) hammerRetryCapTotalDispatches = true ↔
      TooMany value hammerRetryCapTotalDispatches ∧ anew = false := by
  obtain ⟨-, none, -, first⟩ := counts_from_zero
  unfold priorCount at read
  cases anew with
  | true => simp_all
  | false =>
    cases holds : Json.truthy (some document) with
    | false =>
      rw [absent holds, TooMany, toNumber_zero]
      simp_all
    | true =>
      cases number : toNumber value with
      | error message => simp [holds, number, Except.map] at read
      | ok count =>
        simp only [holds, number, Except.map] at read
        cases read
        simp [TooMany, number]

omit [JsText] [JsDate] in
theorem priorCount_converts_iff {anew : Bool} {value : Option Json}
    (absent : Json.truthy (some document) = false → value = some (.num 0)) :
    Converts (priorCount document anew value) ↔ (anew = false → Converts (toNumber value)) := by
  unfold Converts priorCount
  cases anew with
  | true => simp
  | false =>
    cases holds : Json.truthy (some document) with
    | false => simp [absent holds, toNumber_zero]
    | true => cases toNumber value <;> simp [Except.map]

omit [JsNumeric] in
theorem operatorApprovalApplied_eq_false_iff {known : Option String}
    (read : normalizeKey (document.get? "jobKey") = .ok known) :
    operatorApprovalApplied document (Ama.normalizeKey jobKey) (Ama.normalizeKey headSha)
        (keyChanged known (Ama.normalizeKey jobKey)) ceiling = .ok false ↔
      (∀ approval, PendingApproval document jobKey headSha ceiling approval →
        Converts (dateParse (member approval "grantedAt"))) ∧
      ¬ Approved document jobKey headSha ceiling := by
  unfold operatorApprovalApplied Approved
  cases key : Ama.normalizeKey jobKey with
  | none => simp [PendingApproval, key, pure, Except.pure]
  | some job =>
    cases incoming : Ama.normalizeKey headSha with
    | none => simp [PendingApproval, incoming, pure, Except.pure]
    | some head =>
      have pending (approval : Option Json) :
          PendingApproval document jobKey headSha ceiling approval ↔
            approval = entryOf (document.get? "operatorApprovalRearms") head ∧
            Json.truthy (document.get? "__corrupt") = false ∧ 0 < ceiling ∧
            keyChanged known (some job) = false ∧
            isText (document.get? "lastDispatchedHeadSha") head = true ∧
            isText (member approval "state") "pending" = true ∧
            isText (member approval "reason") "operator-approval-applied" = true ∧
            isText (member approval "jobKey") job = true := by
        unfold PendingApproval
        rw [moved_iff read, key, incoming]
        simp
      simp only [pending]
      generalize entryOf (document.get? "operatorApprovalRearms") head = approval
      by_cases guard : (!Json.truthy (document.get? "__corrupt") && decide (0 < ceiling) &&
          !keyChanged known (some job) && isText (document.get? "lastDispatchedHeadSha") head &&
          isText (member approval "state") "pending" &&
          isText (member approval "reason") "operator-approval-applied" &&
          isText (member approval "jobKey") job) = true
      · rw [if_pos guard]
        simp only [Bool.and_eq_true, Bool.not_eq_true', decide_eq_true_eq, and_assoc] at guard
        cases granted : dateParse (member approval "grantedAt") with
        | error message => simp_all [Converts, bind, Except.bind]
        | ok instant =>
          cases instant <;> simp_all [Converts, bind, Except.bind, pure, Except.pure]
      · rw [if_neg guard]
        simp only [Bool.and_eq_true, Bool.not_eq_true', decide_eq_true_eq, and_assoc] at guard
        simp only [pure, Except.pure, true_iff]
        refine ⟨fun other found => absurd ?_ guard, fun found => guard ?_⟩
        · obtain ⟨rfl, found⟩ := found
          exact found
        · obtain ⟨other, ⟨rfl, found⟩, -⟩ := found
          exact found

omit [JsNumeric] in
theorem recordedAt_converts_iff {suppressed targetSuppressed : Bool} :
    Converts (recordedAt document ceiling suppressed targetSuppressed) ↔
      Converts (lifetimeChargeTime document ceiling) ∧
      (lifetimeChargeTime document ceiling = .ok none → suppressed = true →
        Converts (memberInstant (some document) "alertedAt")) ∧
      (targetSuppressed = true → Converts (memberInstant (some document) "targetAlertedAt")) := by
  unfold recordedAt Converts
  cases charged : lifetimeChargeTime document ceiling with
  | error message => simp [bind, Except.bind]
  | ok instant =>
    cases alerted : memberInstant (some document) "alertedAt" <;>
    cases target : memberInstant (some document) "targetAlertedAt" <;>
    cases instant <;> cases suppressed <;> cases targetSuppressed <;>
      simp [bind, Except.bind, pure, Except.pure]

end

section

variable {document : Json} {jobKey headSha : Option String}

omit [JsDate] in
theorem stops_iff {known target : Option String} {prior priorTarget : JsDouble} {lifetime : Int}
    {ceiling : Int} (readJob : normalizeKey (document.get? "jobKey") = .ok known)
    (readTarget : normalizeKey (document.get? "targetRemediationSha") = .ok target)
    (readPrior : priorCount document (keyChanged known (Ama.normalizeKey jobKey))
      (orTruthy (document.get? "attemptCount") (some (.num 0))) = .ok prior)
    (readPriorTarget : priorCount document (keyChanged target (Ama.normalizeKey headSha))
      (targetCount document target) = .ok priorTarget)
    (readLifetime : lifetimeReading (lifetimeCount document) ceiling = .ok lifetime) :
    ((Json.truthy (document.get? "suppressed") && !keyChanged known (Ama.normalizeKey jobKey) ||
        exceeds (plusOne prior) hammerRetryCapTotalDispatches ||
        (Json.truthy (document.get? "targetSuppressed") &&
            !keyChanged target (Ama.normalizeKey headSha) ||
          exceeds (plusOne priorTarget) hammerRetryCapTotalDispatches) ||
        (Json.truthy (document.get? "lifetimeSuppressed") ||
          exceeds (plusOne (.finite lifetime)) ceiling)) = true) ↔
      SeriesStop document jobKey ∨ TargetStop document headSha ∨
        LifetimeStop document ceiling := by
  have series := priorCount_stops_iff
    (fun falsy => by rw [get?_of_not_truthy falsy]; rfl) readPrior
  have targets := priorCount_stops_iff (fun falsy => by
    unfold targetCount
    rw [get?_of_not_truthy falsy]
    cases target <;> rfl) readPriorTarget
  have counted : TooMany (targetCount document target) hammerRetryCapTotalDispatches ↔
      target.isSome = true ∧
        TooMany (orElse (document.get? "targetAttemptCount") (some (.num 0)))
          hammerRetryCapTotalDispatches := by
    unfold targetCount
    cases target <;> simp [not_tooMany_zero]
  unfold SeriesStop TargetStop LifetimeStop
  rw [moved_iff readJob, moved_iff readTarget, named_iff readTarget, readLifetime]
  simp only [Bool.or_eq_true, Bool.and_eq_true, Bool.not_eq_true', series, targets, counted]
  simp only [Except.ok.injEq, exists_eq_left', Bool.not_eq_true, or_and_right, or_assoc]

/-- The cap stops a dispatch exactly where everything it converts converts, no approval of an
operator admits it, and one of the stops is stated. -/
theorem capExhausted_iff (ceiling : JsDouble) :
    (∃ decision, evaluateHammerRetryCap document jobKey headSha ceiling = .ok decision ∧
        decision.capExhausted = true) ↔
      MembersConvert document jobKey headSha (normalizeHammerLifetimeDispatchCeiling ceiling) ∧
      ¬ Approved document jobKey headSha (normalizeHammerLifetimeDispatchCeiling ceiling) ∧
      (SeriesStop document jobKey ∨ TargetStop document headSha ∨
        LifetimeStop document (normalizeHammerLifetimeDispatchCeiling ceiling)) := by
  have absentSeries : Json.truthy (some document) = false →
      orTruthy (document.get? "attemptCount") (some (.num 0)) = some (.num 0) :=
    fun falsy => by rw [get?_of_not_truthy falsy]; rfl
  have absentTarget (target : Option String) : Json.truthy (some document) = false →
      targetCount document target = some (.num 0) := fun falsy => by
    unfold targetCount
    rw [get?_of_not_truthy falsy]
    cases target <;> rfl
  simp only [evaluateHammerRetryCap, bind_eq_ok, sanitizeLifetimeCount_eq, pure, Except.pure,
    Except.ok.injEq]
  constructor
  · rintro ⟨decision, ⟨known, readJob, prior, readPrior, lifetime, readLifetime, target,
      readTarget, priorTarget, readPriorTarget, approved, readApproved, recorded, readRecorded,
      rfl⟩, exhausted⟩
    simp only [Bool.and_eq_true, Bool.not_eq_true'] at exhausted
    obtain ⟨rfl, stopped⟩ := exhausted
    obtain ⟨dated, unapproved⟩ := (operatorApprovalApplied_eq_false_iff readJob).mp readApproved
    obtain ⟨charges, alerted, targetAlerted⟩ := recordedAt_converts_iff.1 ⟨recorded, readRecorded⟩
    have series := (priorCount_converts_iff absentSeries).mp ⟨prior, readPrior⟩
    have targets := (priorCount_converts_iff (absentTarget target)).mp
      ⟨priorTarget, readPriorTarget⟩
    refine ⟨⟨⟨known, readJob⟩, ?_, ⟨lifetime, readLifetime⟩, ⟨target, readTarget⟩, ?_, dated,
      charges, ?_, ?_⟩, unapproved,
      (stops_iff readJob readTarget readPrior readPriorTarget readLifetime).mp stopped⟩
    · rw [moved_iff readJob]
      simpa using series
    · rw [moved_iff readTarget, named_iff readTarget]
      intro kept named
      simpa [targetCount, named] using targets (by simpa using kept)
    · rw [moved_iff readJob]
      intro uncharged stop
      refine alerted uncharged ?_
      simpa [or_comm] using stop
    · rw [moved_iff readTarget]
      intro stop kept
      exact targetAlerted (by simp [stop, kept])
  · rintro ⟨⟨⟨known, readJob⟩, series, ⟨lifetime, readLifetime⟩, ⟨target, readTarget⟩, targets,
      dated, charges, alerted, targetAlerted⟩, unapproved, stopped⟩
    rw [moved_iff readJob] at series alerted
    rw [moved_iff readTarget] at targets targetAlerted
    rw [named_iff readTarget] at targets
    have prior : Converts (priorCount document (keyChanged known (Ama.normalizeKey jobKey))
        (orTruthy (document.get? "attemptCount") (some (.num 0)))) :=
      (priorCount_converts_iff absentSeries).mpr fun kept => series (by simp [kept])
    have priorTarget : Converts (priorCount document
        (keyChanged target (Ama.normalizeKey headSha)) (targetCount document target)) := by
      refine (priorCount_converts_iff (absentTarget target)).mpr fun kept => ?_
      unfold targetCount
      cases named : target.isSome with
      | false => exact ⟨_, toNumber_zero⟩
      | true => exact targets (by simp [kept]) named
    have recorded : Converts (recordedAt document (normalizeHammerLifetimeDispatchCeiling ceiling)
        (Json.truthy (document.get? "suppressed") && !keyChanged known (Ama.normalizeKey jobKey) ||
          Json.truthy (document.get? "lifetimeSuppressed"))
        (Json.truthy (document.get? "targetSuppressed") &&
          !keyChanged target (Ama.normalizeKey headSha))) := by
      refine recordedAt_converts_iff.2 ⟨charges, fun uncharged stop => alerted uncharged ?_,
        fun stop => ?_⟩
      · simpa [or_comm] using stop
      · simp only [Bool.and_eq_true, Bool.not_eq_true'] at stop
        exact targetAlerted stop.1 (by simp [stop.2])
    obtain ⟨prior, readPrior⟩ := prior
    obtain ⟨priorTarget, readPriorTarget⟩ := priorTarget
    obtain ⟨recorded, readRecorded⟩ := recorded
    refine ⟨_, ⟨known, readJob, prior, readPrior, lifetime, readLifetime, target, readTarget,
      priorTarget, readPriorTarget, false,
      (operatorApprovalApplied_eq_false_iff readJob).mpr ⟨dated, unapproved⟩, recorded,
      readRecorded, rfl⟩, ?_⟩
    simp only [Bool.not_false, Bool.true_and]
    exact (stops_iff readJob readTarget readPrior readPriorTarget readLifetime).mpr stopped

end

/-- What it takes for a file to stop a dispatch. -/
def StillStops (content : Option Json) (jobKey headSha : Option String) (ceiling : Int) : Prop :=
  match content with
  | none => True
  | some (.obj members) =>
    MembersConvert (.obj members) jobKey headSha ceiling ∧
    ¬ Approved (.obj members) jobKey headSha ceiling ∧
    (SeriesStop (.obj members) jobKey ∨ TargetStop (.obj members) headSha ∨
      LifetimeStop (.obj members) ceiling)
  | some _ => ceiling = 0

section

variable {document : Json} {jobKey headSha : Option String} {ceiling : Int}

omit [JsText] [JsDate] in
theorem lifetimeStop_sentinel (reason : String) :
    LifetimeStop (corruptLedgerSentinel reason) ceiling :=
  .inl rfl

omit [JsNumeric] [JsDate] in
theorem not_pendingApproval_sentinel (reason : String) (approval : Option Json) :
    ¬ PendingApproval (corruptLedgerSentinel reason) jobKey headSha ceiling approval := by
  rintro ⟨key, head, -, -, -, sound, -⟩
  cases sound

theorem membersConvert_sentinel (reason : String) :
    MembersConvert (corruptLedgerSentinel reason) jobKey headSha ceiling where
  jobKey := ⟨_, rfl⟩
  attemptCount := fun _ => ⟨_, rfl⟩
  lifetimeCount := ⟨_, rfl⟩
  targetSha := ⟨_, rfl⟩
  targetAttemptCount := fun _ _ => ⟨_, rfl⟩
  grantedAt := fun approval pending =>
    absurd pending (not_pendingApproval_sentinel reason approval)
  charges := ⟨none, rfl⟩
  alertedAt := fun _ _ => ⟨_, rfl⟩
  targetAlertedAt := fun _ _ => ⟨_, rfl⟩

omit [JsNumeric] [JsDate] in
theorem not_pendingApproval_of_no_members (plain : ∀ key, document.get? key = none)
    (approval : Option Json) : ¬ PendingApproval document jobKey headSha ceiling approval := by
  rintro ⟨key, head, -, -, -, -, -, -, dispatched, -⟩
  rw [plain] at dispatched
  cases dispatched

theorem membersConvert_of_no_members (plain : ∀ key, document.get? key = none) :
    MembersConvert document jobKey headSha ceiling where
  jobKey := by rw [plain]; exact ⟨_, rfl⟩
  attemptCount := fun _ => by rw [plain]; exact ⟨_, rfl⟩
  lifetimeCount := by rw [lifetimeCount, plain, plain]; exact ⟨_, rfl⟩
  targetSha := by rw [plain]; exact ⟨_, rfl⟩
  targetAttemptCount := fun _ _ => by rw [plain]; exact ⟨_, rfl⟩
  grantedAt := fun approval pending =>
    absurd pending (not_pendingApproval_of_no_members plain approval)
  charges := ⟨none, by simp [lifetimeChargeTime, plain, Json.truthy, pure, Except.pure]⟩
  alertedAt := fun _ stop => by simp [plain, Json.truthy] at stop
  targetAlertedAt := fun stop => by simp [plain, Json.truthy] at stop

omit [JsDate] in
theorem stops_iff_of_no_members (plain : ∀ key, document.get? key = none) (bounded : 0 ≤ ceiling) :
    (SeriesStop document jobKey ∨ TargetStop document headSha ∨
      LifetimeStop document ceiling) ↔ ceiling = 0 := by
  have series : ¬ SeriesStop document jobKey := by
    rintro ⟨stop | stop, -⟩
    · simp [plain, Json.truthy] at stop
    · rw [plain] at stop
      exact not_tooMany_zero stop
  have targets : ¬ TargetStop document headSha := by
    rintro ⟨stop | ⟨named, -⟩, -⟩
    · simp [plain, Json.truthy] at stop
    · rw [Named, plain] at named
      obtain ⟨known, read⟩ := named
      cases read
  have lifetime : LifetimeStop document ceiling ↔ ceiling = 0 := by
    simp only [LifetimeStop, lifetimeCount, plain, Json.truthy, orElse, lifetimeReading,
      Bool.false_eq_true, false_or, Except.ok.injEq, exists_eq_left', Int.cast_zero,
      counts_from_zero, exceeds, decide_eq_true_eq]
    constructor
    · intro small
      have below : ceiling < 1 := by exact_mod_cast small
      omega
    · rintro rfl
      norm_num
  simp only [series, targets, lifetime, false_or]

theorem capExhausted_iff_of_no_members (plain : ∀ key, document.get? key = none)
    (bounded : 0 ≤ ceiling) :
    (MembersConvert document jobKey headSha ceiling ∧ ¬ Approved document jobKey headSha ceiling ∧
      (SeriesStop document jobKey ∨ TargetStop document headSha ∨
        LifetimeStop document ceiling)) ↔ ceiling = 0 := by
  have unapproved : ¬ Approved document jobKey headSha ceiling := by
    rintro ⟨approval, pending, -⟩
    exact not_pendingApproval_of_no_members plain approval pending
  rw [stops_iff_of_no_members plain bounded]
  exact ⟨fun closed => closed.2.2,
    fun closed => ⟨membersConvert_of_no_members plain, unapproved, closed⟩⟩

omit [JsText] [JsNumeric] [JsDate] in
theorem normalizeHammerLifetimeDispatchCeiling_nonneg (value : JsDouble) :
    0 ≤ normalizeHammerLifetimeDispatchCeiling value := by
  unfold normalizeHammerLifetimeDispatchCeiling
  split
  · split
    · assumption
    · decide
  · decide

/-- A file whose content is damaged stops a dispatch exactly where a stop is still to be read. -/
theorem damaged_ledger_fails_closed_iff (content : Option Json) (jobKey headSha : Option String)
    (lifetimeDispatchCeiling : JsDouble) :
    (Damaged content → FailsClosed (.content content) jobKey headSha lifetimeDispatchCeiling) ↔
      (Damaged content → StillStops content jobKey headSha
        (normalizeHammerLifetimeDispatchCeiling lifetimeDispatchCeiling)) := by
  have bounded := normalizeHammerLifetimeDispatchCeiling_nonneg lifetimeDispatchCeiling
  refine imp_congr_right fun damaged => ?_
  rw [FailsClosed]
  cases content with
  | none =>
    rw [readHammerRetryCapLedger, capExhausted_iff]
    refine iff_of_true ⟨membersConvert_sentinel "parse", ?_, ?_⟩ trivial
    · rintro ⟨approval, pending, -⟩
      exact not_pendingApproval_sentinel "parse" approval pending
    · exact .inr (.inr (lifetimeStop_sentinel "parse"))
  | some document =>
    rw [readHammerRetryCapLedger, capExhausted_iff]
    cases document with
    | obj members => rfl
    | _ => exact capExhausted_iff_of_no_members (fun _ => rfl) bounded

end

def handEdited : Json :=
  .obj [("jobKey", .str "head"), ("attemptCount", .str "foo"), ("lifetimeAttemptCount", .num 2)]

@[reducible] def JsNumeric.words : JsNumeric where
  number
    | .str _ => .ok .nan
    | _ => .error conversionError
  number_le := by
    rintro (_ | _ | _ | _ | _ | _) count read <;> cases read

omit [JsText] [JsNumeric] [JsDate] in
/-- The series count reads as no number, so two dispatches are followed by a third. -/
theorem hand_edited_ledger_admits :
    Damaged (some handEdited) ∧
      ¬ @FailsClosed JsText.ascii JsNumeric.words JsDate.isoDates (.content (some handEdited))
        (some "head") none (.finite 4) := by
  refine ⟨⟨"attemptCount", by simp [countKeys], .str "foo", rfl, ?_⟩, ?_⟩
  · rintro ⟨number, count, same, -⟩
    cases same
  · rintro ⟨decision, decided, exhausted⟩
    have admitted : ((@evaluateHammerRetryCap JsText.ascii JsNumeric.words JsDate.isoDates
        handEdited (some "head") none (.finite 4)).toOption.map CapDecision.capExhausted) =
          some false := by decide +kernel
    rw [readHammerRetryCapLedger] at decided
    rw [decided] at admitted
    cases exhausted.symm.trans (Option.some.inj admitted)

example : (@evaluateHammerRetryCap JsText.ascii JsNumeric.words JsDate.isoDates
    handEdited (some "head") none (.finite 2)).toOption.map CapDecision.capExhausted =
      some true := by
  decide +kernel

end AdversarialReview.Ama.LedgerDocument
