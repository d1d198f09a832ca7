import AdversarialReview.Ama.LedgerOperations
import AdversarialReview.Proofs.Ama.LedgerDocument

/-! Which calls on a series leave the lifetime count of its ledger as it is. -/

namespace AdversarialReview.Ama.LedgerDocument

open Json

section

variable {members : List (String × Json)} {key : String}

theorem get?_put_self (value : Option Json) :
    (Json.obj (put members (key, value))).get? key = value := by
  cases value with
  | some value => exact get?_set_self members key value
  | none => exact get?_erase_self (.obj members) key

theorem get?_put_of_ne {field : String × Option Json} (apart : key ≠ field.1) :
    (Json.obj (put members field)).get? key = (Json.obj members).get? key := by
  obtain ⟨name, value⟩ := field
  cases value with
  | some value => exact get?_set_of_ne (.obj members) apart value
  | none =>
    simp only [put, get?, List.find?_filter]
    congr 2
    funext member
    by_cases same : member.1 = key
    · simp [same, show key ≠ name from apart]
    · simp [same]

theorem get?_assign_of_not_mem {fields : List (String × Option Json)}
    (other : key ∉ fields.map Prod.fst) :
    (Json.obj (assign members fields)).get? key = (Json.obj members).get? key := by
  induction fields generalizing members with
  | nil => rfl
  | cons field rest ih =>
    simp only [List.map_cons, List.mem_cons, not_or] at other
    exact (ih other.2).trans (get?_put_of_ne other.1)

theorem get?_assign_head {back : List (String × Option Json)} {value : Option Json}
    (last : key ∉ back.map Prod.fst) :
    (Json.obj (assign members ((key, value) :: back))).get? key = value := by
  exact (get?_assign_of_not_mem last).trans (get?_put_self value)

theorem find?_storedMembers (members : List (String × Json)) (key : String) :
    ((storedMembers members).find? fun member => member.1 = key).map Prod.snd =
      ((members.find? fun member => member.1 = key).map Prod.snd).map stored := by
  induction members with
  | nil => rfl
  | cons member rest ih =>
    obtain ⟨name, value⟩ := member
    by_cases same : name = key
    · simp [storedMembers, same]
    · simpa [storedMembers, same] using ih

theorem get?_stored (members : List (String × Json)) (key : String) :
    (stored (.obj members)).get? key = ((Json.obj members).get? key).map stored := by
  simpa [stored, get?] using find?_storedMembers members key

end

section

variable [JsNumeric]

omit [JsNumeric] in
theorem literal_of_le {value : Rat} (small : |value| ≤ JsDouble.largest) :
    literal value = .finite value := by
  simp [literal, not_lt.mpr small]

omit [JsNumeric] in
theorem stored_num_of_le {value : Rat} (small : |value| ≤ JsDouble.largest) :
    stored (.num value) = .num value := by
  simp [stored, literal_of_le small]

omit [JsNumeric] in
theorem safe_le_largest : (9007199254740991 : Rat) ≤ JsDouble.largest := by
  have wide : (1 : Rat) ≤ 2 ^ 971 := one_le_pow₀ (by norm_num)
  have whole : (2 ^ 53 - 1 : Rat) = 9007199254740991 := by norm_num
  rw [JsDouble.largest, whole]
  exact le_mul_of_one_le_right (by norm_num) wide

theorem toNumber_le {value : Option Json} {count : Rat}
    (read : toNumber value = .ok (.finite count)) : |count| ≤ JsDouble.largest := by
  have one : (1 : Rat) ≤ JsDouble.largest := safe_le_largest.trans' (by norm_num)
  cases value with
  | none => cases read
  | some value =>
    cases value with
    | null =>
      cases read
      simpa using one.trans' zero_le_one
    | bool value =>
      cases read
      cases value
      · simpa using one.trans' zero_le_one
      · simpa using one
    | num value =>
      simp only [toNumber, literal] at read
      split at read
      · cases read
      · cases read
        exact not_lt.mp ‹_›
    | _ => exact JsNumeric.number_le read

end

def Writes (call : Except String Outcome) (kind : Json → Prop) : Prop :=
  ∀ outcome document, call = .ok outcome → outcome.written = some document → kind document

section

variable {kind : Json → Prop}

theorem writes_bind {α : Type} {first : Except String α} {next : α → Except String Outcome}
    (each : ∀ value, first = .ok value → Writes (next value) kind) :
    Writes (first >>= next) kind := by
  intro outcome document ran written
  obtain ⟨value, read, rest⟩ := bind_eq_ok.mp ran
  exact each value read outcome document rest written

theorem writes_refuse (reason : String) : Writes (refuse reason) kind := by
  intro outcome document ran written
  cases ran
  cases written

theorem writes_ite {cond : Prop} [Decidable cond] {yes no : Except String Outcome}
    (holds : cond → Writes yes kind) (fails : ¬ cond → Writes no kind) :
    Writes (if cond then yes else no) kind := by
  by_cases decided : cond
  · rw [if_pos decided]
    exact holds decided
  · rw [if_neg decided]
    exact fails decided

theorem writes_unless {cond : Prop} [Decidable cond] {reason : String}
    {next : Except String Outcome} (fails : ¬ cond → Writes next kind) :
    Writes (if cond then refuse reason else next) kind :=
  writes_ite (fun _ => writes_refuse reason) fails

theorem writes_write (reason : String) {members : List (String × Json)}
    (held : kind (stored (.obj members))) : Writes (write reason members) kind := by
  intro outcome document ran written
  cases ran
  cases written
  exact held

end

section

variable {document : Json}

theorem lifetime_not_mem_retryableMembers (fields : JsDouble × List String) :
    "lifetimeAttemptCount" ∉ (retryableMembers fields).map Prod.fst := by
  unfold retryableMembers
  split <;> simp

theorem lifetime_not_mem_deferralFieldsForSeries (jobKeyChanged : Bool) :
    "lifetimeAttemptCount" ∉ (deferralFieldsForSeries document jobKeyChanged).map Prod.fst := by
  unfold deferralFieldsForSeries
  simp only [List.map_append, List.mem_append, not_or]
  refine ⟨⟨⟨⟨by simp, ?_⟩, ?_⟩, ?_⟩, by simp⟩ <;> split <;> simp

theorem lifetime_not_mem_transientRetryFields (heads : List (String × JsDouble)) :
    "lifetimeAttemptCount" ∉ (transientRetryFields document heads).map Prod.fst := by
  unfold transientRetryFields
  split <;> simp

theorem lifetime_not_mem_carried {key : String} (other : "lifetimeAttemptCount" ≠ key) :
    "lifetimeAttemptCount" ∉ (carried document key).map Prod.fst := by
  unfold carried
  split <;> simp [other]

theorem lifetime_not_mem_closerHeads (jobKeyChanged : Bool) :
    "lifetimeAttemptCount" ∉ (closerHeads document jobKeyChanged).map Prod.fst := by
  unfold closerHeads
  split
  · split <;> simp
  · simp

end

section

variable [JsText] [JsNumeric] [JsDate] {document : Json}

def KeepsWith (before : Json) (attemptCount : Json) (written : Json) : Prop :=
  written.get? "lifetimeAttemptCount" = (before.get? "lifetimeAttemptCount").map stored ∧
    written.get? "attemptCount" = some (stored attemptCount)

omit [JsText] [JsNumeric] [JsDate] in
theorem keepsWith_assign {members : List (String × Json)} {attemptCount : Json}
    {fields : List (String × Option Json)} (others : "lifetimeAttemptCount" ∉ fields.map Prod.fst)
    (once : "attemptCount" ∉ fields.map Prod.fst) :
    KeepsWith (.obj members) attemptCount
      (stored (.obj (assign members (("attemptCount", some attemptCount) :: fields)))) := by
  constructor
  · rw [get?_stored, get?_assign_of_not_mem (by simpa using others)]
  · rw [get?_stored]
    exact congrArg (Option.map stored) (get?_assign_head once)

omit [JsDate] in
theorem refundHammerRetryDispatch_writes (jobKey headSha launchRequestId : Option String)
    (budget : JsDouble) (now : Option Json) :
    Writes (refundHammerRetryDispatch document jobKey headSha launchRequestId budget now)
      fun written => ∃ count, countOf (document.get? "attemptCount") = .ok count ∧
        KeepsWith document (numberJson (count.sub (.finite 1))) written := by
  unfold refundHammerRetryDispatch
  refine writes_bind ?_
  rintro ⟨retryable, launches⟩ -
  cases document with
  | obj members =>
    refine writes_unless fun sound => writes_bind fun known read => ?_
    refine writes_unless fun kept => writes_bind fun refunded again => ?_
    refine writes_unless fun fresh => writes_unless fun live => ?_
    refine writes_bind fun count counted => ?_
    refine writes_unless fun charged => writes_unless fun left => ?_
    refine writes_bind fun matched found => writes_bind fun targetCount lowered => ?_
    refine writes_bind fun charges credited => writes_write _ ⟨count, counted, ?_⟩
    exact keepsWith_assign (by simp) (by simp)
  | _ => exact writes_refuse _

theorem grantTransientHammerRetry_writes (jobKey headSha : Option String)
    (lifetimeDispatchCeiling perHeadLimit : JsDouble) (now : Option Json) (uuid : String) :
    Writes (grantTransientHammerRetry document jobKey headSha lifetimeDispatchCeiling perHeadLimit
        now uuid)
      fun written => ∃ count, countOf (document.get? "attemptCount") = .ok count ∧
        KeepsWith document (numberJson (reopened count)) written := by
  unfold grantTransientHammerRetry
  refine writes_bind fun heads granted => ?_
  cases Ama.normalizeKey headSha with
  | none => cases document <;> exact writes_refuse _
  | some head =>
    cases document with
    | obj members =>
      refine writes_unless fun sound => writes_bind fun known read => ?_
      refine writes_unless fun kept => writes_bind fun decision decided => ?_
      refine writes_unless fun lifetime => writes_unless fun exhausted => ?_
      refine writes_unless fun left => writes_bind fun matched found => ?_
      refine writes_bind fun count counted => writes_bind fun targetCount lowered => ?_
      refine writes_write _ ⟨count, counted, ?_⟩
      exact keepsWith_assign (by simp) (by simp)
    | _ =>
      exact writes_unless fun present => writes_bind fun decision decided => writes_refuse _

omit [JsText] [JsNumeric] [JsDate] in
theorem isCount_kept {value : Option Json} (counted : isCount value = true) :
    ∃ number, value = some (.num number) ∧ stored (.num number) = .num number := by
  cases value with
  | none => cases counted
  | some value =>
    cases value with
    | num number =>
      simp only [isCount, isSafeInteger, Bool.and_eq_true, decide_eq_true_eq] at counted
      obtain ⟨⟨whole, small⟩, -⟩ := counted
      refine ⟨number, rfl, stored_num_of_le ?_⟩
      refine le_trans ?_ safe_le_largest
      have same : (number : Rat) = number.num := (Rat.den_eq_one_iff number).mp whole |>.symm
      rw [same, ← Int.cast_abs, Int.abs_eq_natAbs]
      exact_mod_cast small
    | _ => cases counted

omit [JsText] [JsNumeric] [JsDate] in
theorem refundMissingPhaseInputsDispatch_writes (launchRequestId now : Option Json) :
    Writes (refundMissingPhaseInputsDispatch document launchRequestId now)
      fun written => ∃ number, document.get? "lifetimeAttemptCount" = some (.num number) ∧
        written.get? "lifetimeAttemptCount" = some (.num number) := by
  unfold refundMissingPhaseInputsDispatch
  cases document with
  | obj members =>
    refine writes_unless fun sound => writes_unless fun first => writes_bind fun charge found => ?_
    cases charge with
    | none => exact writes_refuse _
    | some charge =>
      refine writes_unless fun counts => writes_bind fun charges credited => ?_
      simp only [Bool.or_eq_true, Bool.not_eq_true', not_or, Bool.not_eq_false] at counts
      obtain ⟨number, present, kept⟩ := isCount_kept counts.2
      refine writes_write _ ⟨number, present, ?_⟩
      rw [get?_stored, get?_assign_of_not_mem, present, Option.map_some, kept]
      simp only [List.map_append, List.mem_append, not_or]
      refine ⟨⟨?_, ?_⟩, by simp⟩
      · split <;> simp
      · split <;> simp
  | _ => exact writes_refuse _

theorem rearmOperatorApprovedCloser_writes (jobKey headSha : String) (labelsApplied : Bool)
    (stopKey awaitedInputs now : Option Json) (clock : String)
    (lifetimeDispatchCeiling : JsDouble) :
    Writes (rearmOperatorApprovedCloser document jobKey headSha labelsApplied stopKey awaitedInputs
        now clock lifetimeDispatchCeiling)
      fun written => isCount (lifetimeCount document) = true ∧
        (∀ key, key ≠ "operatorApprovalRearms" →
          written.get? key = (document.get? key).map stored) := by
  unfold rearmOperatorApprovedCloser
  refine writes_unless fun open_ => writes_unless fun applied => writes_unless fun first => ?_
  cases document with
  | obj members =>
    refine writes_unless fun named => writes_unless fun counts => ?_
    refine writes_bind fun decision decided => writes_unless fun stopped => ?_
    simp only [Bool.or_eq_true, Bool.not_eq_true', not_or, Bool.not_eq_false] at counts
    refine writes_write _ ⟨counts.1.2, fun key other => ?_⟩
    rw [get?_stored, get?_assign_of_not_mem (by simpa using other)]
  | _ => exact writes_refuse _

omit [JsDate] in
theorem resetHammerSeriesForNonCloserHead_writes (jobKey headSha : Option String)
    (headProof now : Option Json) (clock : String) :
    Writes (resetHammerSeriesForNonCloserHead document jobKey headSha headProof now clock)
      fun written => ∃ lifetime : Int,
        sanitizeLifetimeCount (lifetimeCount document) hammerRetryCapLifetimeTotalDispatches =
          .ok lifetime ∧
        written.get? "lifetimeAttemptCount" = some (stored (.num lifetime)) := by
  unfold resetHammerSeriesForNonCloserHead
  cases Ama.normalizeKey headSha with
  | none => exact writes_refuse _
  | some head =>
    cases Ama.normalizeKey jobKey with
    | none => exact writes_refuse _
    | some anchor =>
      refine writes_bind fun disproven proof => writes_unless fun holds => ?_
      refine writes_bind fun reason found => ?_
      cases reason with
      | some reason => exact writes_refuse reason
      | none =>
        refine writes_bind fun attempts read => writes_bind fun suppressed known => ?_
        refine writes_bind fun lifetime counted => writes_write _ ⟨lifetime, counted, ?_⟩
        rw [get?_stored]
        exact congrArg (Option.map stored) (get?_assign_head (by simp))

omit [JsDate] in
theorem markHammerRetryCapExhausted_writes (repo : String) (prNumber : Int)
    (options : MarkOptions) :
    Writes (markHammerRetryCapExhausted document repo prNumber options)
      fun written => ∃ lifetime : Int,
        sanitizeLifetimeCount (lifetimeCount document) hammerRetryCapLifetimeTotalDispatches =
          .ok lifetime ∧
        written.get? "lifetimeAttemptCount" = some (stored (.num lifetime)) := by
  unfold markHammerRetryCapExhausted
  refine writes_bind fun target readTarget => writes_bind fun jobKey readJob => ?_
  refine writes_bind fun attempts stopped => writes_bind fun lifetime counted => ?_
  refine writes_bind fun targets stoppedTargets => writes_bind fun retryable refunds => ?_
  refine writes_bind fun heads granted => writes_write _ ⟨lifetime, counted, ?_⟩
  rw [get?_stored]
  simp only [List.append_assoc, List.cons_append, List.nil_append]
  rw [assign, List.foldl_append, List.foldl_cons, List.foldl_cons, List.foldl_cons,
    List.foldl_cons, List.foldl_cons]
  refine congrArg (Option.map stored) (get?_assign_head ?_)
  simp only [List.map_cons, List.map_append, List.mem_cons, List.mem_append, not_or,
    lifetime_not_mem_retryableMembers, lifetime_not_mem_deferralFieldsForSeries,
    lifetime_not_mem_transientRetryFields, lifetime_not_mem_closerHeads, not_false_eq_true,
    true_and]
  simp [lifetime_not_mem_carried]

end

section

variable [JsNumeric]

omit [JsNumeric] in
@[simp] theorem trunc_intCast (count : Int) : trunc (count : Rat) = count := by
  simp [trunc]

omit [JsNumeric] in
theorem abs_wholeCount_le (value : Rat) : |((max 0 (trunc value) : Int) : Rat)| ≤ |value| := by
  rcases le_or_gt 0 value with positive | negative
  · have whole : trunc value = ⌊value⌋ := by
      rw [trunc, Rat.floor_def', Int.tdiv_eq_ediv_of_nonneg (Rat.num_nonneg.mpr positive)]
    rw [whole, max_eq_right (Int.floor_nonneg.mpr positive), abs_of_nonneg positive,
      abs_of_nonneg (by exact_mod_cast Int.floor_nonneg.mpr positive)]
    exact Int.floor_le value
  · have numerator : value.num ≤ 0 := Rat.num_nonpos.mpr negative.le
    have opposite : 0 ≤ (-value.num).tdiv value.den :=
      Int.tdiv_nonneg (by omega) (Int.natCast_nonneg _)
    rw [Int.neg_tdiv] at opposite
    have below : trunc value ≤ 0 := by
      unfold trunc
      omega
    rw [max_eq_left below]
    simp

theorem sanitizeLifetimeCount_intCast {count : Int} {ceiling : Int} (atLeast : 0 ≤ count)
    (small : |(count : Rat)| ≤ JsDouble.largest) :
    sanitizeLifetimeCount (some (stored (.num count))) ceiling = .ok count := by
  rw [stored_num_of_le small]
  simp [sanitizeLifetimeCount, toNumber, literal_of_le small, atLeast, bind, Except.bind, pure,
    Except.pure]

def UnreadableLifetime (document : Json) : Prop :=
  orElse (lifetimeCount document) none ≠ none ∧
    ∃ number, toNumber (lifetimeCount document) = .ok number ∧ ∀ count, number ≠ .finite count

theorem sanitizeLifetimeCount_le {value : Option Json} {count ceiling : Int}
    (atLeast : 0 ≤ ceiling) (small : |(ceiling : Rat)| ≤ JsDouble.largest)
    (read : sanitizeLifetimeCount value ceiling = .ok count) :
    0 ≤ count ∧ |(count : Rat)| ≤ JsDouble.largest := by
  rw [sanitizeLifetimeCount_eq, lifetimeReading] at read
  split at read
  · cases read
    exact ⟨le_rfl, safe_le_largest.trans' (by norm_num)⟩
  · rename_i present known
    cases converted : toNumber (some present) with
    | error message => simp [converted, Except.map] at read
    | ok number =>
      simp only [converted, Except.map, Except.ok.injEq] at read
      cases number with
      | finite found =>
        subst read
        exact ⟨le_max_left 0 _, (abs_wholeCount_le found).trans (toNumber_le converted)⟩
      | _ => exact read ▸ ⟨atLeast, small⟩

theorem rewritten_lifetime_kept_iff {document : Json} {lifetime ceiling : Int}
    (counted : sanitizeLifetimeCount (lifetimeCount document)
      hammerRetryCapLifetimeTotalDispatches = .ok lifetime) :
    .ok lifetime = sanitizeLifetimeCount (lifetimeCount document) ceiling ↔
      (UnreadableLifetime document → ceiling = hammerRetryCapLifetimeTotalDispatches) := by
  rw [sanitizeLifetimeCount_eq] at counted
  rw [sanitizeLifetimeCount_eq, UnreadableLifetime]
  cases known : orElse (lifetimeCount document) none with
  | none =>
    simp only [lifetimeReading, known] at counted ⊢
    cases counted
    simp
  | some value =>
    have present : lifetimeCount document = some value := by
      unfold orElse at known
      split at known <;> simp_all
    simp only [lifetimeReading, known] at counted ⊢
    rw [present]
    cases read : toNumber (some value) with
    | error message => simp [read, Except.map] at counted
    | ok number =>
      simp only [read, Except.map, Except.ok.injEq] at counted
      cases number with
      | finite count => simp [Except.map, counted]
      | _ =>
        subst counted
        simp [Except.map, eq_comm]

end

section

variable [JsText] [JsNumeric] [JsDate]

inductive SeriesCall where
  | exitRefund (jobKey headSha launchRequestId : Option String) (budget : JsDouble)
      (now : Option Json)
  | missingPhaseInputs (launchRequestId now : Option Json)
  | transientRetry (jobKey headSha : Option String)
      (lifetimeDispatchCeiling perHeadLimit : JsDouble) (now : Option Json) (uuid : String)
  | nonCloserHead (jobKey headSha : Option String) (headProof now : Option Json) (clock : String)
  | operatorApproval (jobKey headSha : String) (labelsApplied : Bool)
      (stopKey awaitedInputs now : Option Json) (clock : String)
      (lifetimeDispatchCeiling : JsDouble)
  | capExhausted (repo : String) (prNumber : Int) (options : MarkOptions)

def SeriesCall.run (document : Json) : SeriesCall → Except String Outcome
  | exitRefund jobKey headSha launch budget now =>
    refundHammerRetryDispatch document jobKey headSha launch budget now
  | missingPhaseInputs launch now => refundMissingPhaseInputsDispatch document launch now
  | transientRetry jobKey headSha ceiling limit now uuid =>
    grantTransientHammerRetry document jobKey headSha ceiling limit now uuid
  | nonCloserHead jobKey headSha headProof now clock =>
    resetHammerSeriesForNonCloserHead document jobKey headSha headProof now clock
  | operatorApproval jobKey headSha applied stopKey awaited now clock ceiling =>
    rearmOperatorApprovedCloser document jobKey headSha applied stopKey awaited now clock ceiling
  | capExhausted repo prNumber options =>
    markHammerRetryCapExhausted document repo prNumber options

def SeriesCall.after (document : Json) (call : SeriesCall) : Json :=
  match call.run document with
  | .ok outcome => outcome.written.getD document
  | .error _ => document

def priorLifetimeCount (document : Json) (lifetimeDispatchCeiling : JsDouble) :
    Except String Int :=
  sanitizeLifetimeCount (lifetimeCount document)
    (normalizeHammerLifetimeDispatchCeiling lifetimeDispatchCeiling)

def OwnLifetime (document : Json) : Prop :=
  ∃ value, document.get? "lifetimeAttemptCount" = some value ∧ value ≠ .null ∧
    stored value = value

def ReadsSame (document : Json) (attemptCount : JsDouble) (ceiling : Int) : Prop :=
  sanitizeLifetimeCount (orElse ((document.get? "lifetimeAttemptCount").map stored)
      (some (stored (numberJson attemptCount)))) ceiling =
    sanitizeLifetimeCount (lifetimeCount document) ceiling

def SeriesCall.LeavesLifetime (document : Json) (ceiling : Int) : SeriesCall → Prop
  | exitRefund .. => OwnLifetime document ∨
    ∃ count, countOf (document.get? "attemptCount") = .ok count ∧
      ReadsSame document (count.sub (.finite 1)) ceiling
  | transientRetry .. => OwnLifetime document ∨
    ∃ count, countOf (document.get? "attemptCount") = .ok count ∧
      ReadsSame document (reopened count) ceiling
  | nonCloserHead .. | capExhausted .. =>
    UnreadableLifetime document → ceiling = hammerRetryCapLifetimeTotalDispatches
  | missingPhaseInputs .. | operatorApproval .. => True

/-- The call does not refuse and does not throw. -/
def SeriesCall.Proceeds (document : Json) (call : SeriesCall) : Prop :=
  ∃ outcome, call.run document = .ok outcome ∧ outcome.written.isSome = true

variable {document written : Json} {ceiling : Int}

omit [JsText] [JsDate] in
theorem keepsWith_kept_iff {count : JsDouble} {attempts : Option Json}
    {edit : JsDouble → JsDouble} (counted : countOf attempts = .ok count)
    (kept : KeepsWith document (numberJson (edit count)) written) :
    sanitizeLifetimeCount (lifetimeCount written) ceiling =
        sanitizeLifetimeCount (lifetimeCount document) ceiling ↔
      (OwnLifetime document ∨ ∃ count, countOf attempts = .ok count ∧
        ReadsSame document (edit count) ceiling) := by
  have after : lifetimeCount written = orElse ((document.get? "lifetimeAttemptCount").map stored)
      (some (stored (numberJson (edit count)))) := by
    rw [lifetimeCount, kept.1, kept.2]
  rw [after, counted]
  simp only [Except.ok.injEq, exists_eq_left']
  refine ⟨.inr, fun held => held.elim ?_ id⟩
  rintro ⟨value, present, proper, same⟩
  rw [lifetimeCount, present, Option.map_some, same]
  cases value with
  | null => exact absurd rfl proper
  | _ => rfl

omit [JsText] [JsDate] in
theorem ownLifetime_kept {number : Rat}
    (present : document.get? "lifetimeAttemptCount" = some (.num number))
    (kept : written.get? "lifetimeAttemptCount" = some (.num number)) :
    sanitizeLifetimeCount (lifetimeCount written) ceiling =
      sanitizeLifetimeCount (lifetimeCount document) ceiling := by
  rw [lifetimeCount, lifetimeCount, present, kept]
  rfl

omit [JsText] [JsDate] in
theorem counted_kept (counted : isCount (lifetimeCount document) = true)
    (kept : ∀ key, key ≠ "operatorApprovalRearms" →
      written.get? key = (document.get? key).map stored) :
    sanitizeLifetimeCount (lifetimeCount written) ceiling =
      sanitizeLifetimeCount (lifetimeCount document) ceiling := by
  obtain ⟨number, present, same⟩ := isCount_kept counted
  have after : lifetimeCount written = some (.num number) := by
    rw [lifetimeCount, kept _ (by decide), kept _ (by decide)]
    unfold lifetimeCount at present
    cases own : document.get? "lifetimeAttemptCount" with
    | none =>
      rw [own] at present
      simp only [orElse] at present
      simp [orElse, present, same]
    | some value =>
      rw [own] at present
      cases value with
      | null =>
        have null : stored .null = .null := by simp [stored]
        simp only [orElse] at present
        simp [orElse, present, same, null]
      | num value =>
        cases present
        simp [orElse, same]
      | _ => cases present
  rw [after, present]

omit [JsText] [JsDate] in
theorem rewritten_kept_iff (kept : ∃ lifetime : Int,
      sanitizeLifetimeCount (lifetimeCount document) hammerRetryCapLifetimeTotalDispatches =
        .ok lifetime ∧ written.get? "lifetimeAttemptCount" = some (stored (.num lifetime))) :
    sanitizeLifetimeCount (lifetimeCount written) ceiling =
        sanitizeLifetimeCount (lifetimeCount document) ceiling ↔
      (UnreadableLifetime document → ceiling = hammerRetryCapLifetimeTotalDispatches) := by
  obtain ⟨lifetime, counted, present⟩ := kept
  have four : |((hammerRetryCapLifetimeTotalDispatches : Int) : Rat)| ≤ JsDouble.largest :=
    safe_le_largest.trans' (by norm_num [hammerRetryCapLifetimeTotalDispatches])
  obtain ⟨atLeast, small⟩ := sanitizeLifetimeCount_le (by decide) four counted
  have after : lifetimeCount written = some (stored (.num lifetime)) := by
    rw [lifetimeCount, present, stored_num_of_le small]
    rfl
  rw [← rewritten_lifetime_kept_iff counted, after, sanitizeLifetimeCount_intCast atLeast small]

/-- A call on a series leaves the lifetime count that the cap reads exactly where it writes
nothing, or what it writes still has that count. -/
theorem lifetime_kept_iff (document : Json) (call : SeriesCall)
    (lifetimeDispatchCeiling : JsDouble) :
    priorLifetimeCount (call.after document) lifetimeDispatchCeiling =
        priorLifetimeCount document lifetimeDispatchCeiling ↔
      (call.Proceeds document → call.LeavesLifetime document
        (normalizeHammerLifetimeDispatchCeiling lifetimeDispatchCeiling)) := by
  unfold priorLifetimeCount
  generalize normalizeHammerLifetimeDispatchCeiling lifetimeDispatchCeiling = ceiling
  by_cases proceeds : call.Proceeds document
  · simp only [proceeds, true_imp_iff]
    obtain ⟨outcome, ran, some_⟩ := proceeds
    obtain ⟨written, wrote⟩ := Option.isSome_iff_exists.mp some_
    have after : call.after document = written := by
      simp [SeriesCall.after, ran, wrote]
    rw [after]
    cases call with
    | exitRefund jobKey headSha launch budget now =>
      obtain ⟨count, counted, kept⟩ := refundHammerRetryDispatch_writes jobKey headSha launch budget
        now outcome written ran wrote
      exact keepsWith_kept_iff counted kept
    | missingPhaseInputs launch now =>
      obtain ⟨number, present, kept⟩ := refundMissingPhaseInputsDispatch_writes launch now outcome
        written ran wrote
      exact iff_of_true (ownLifetime_kept present kept) trivial
    | transientRetry jobKey headSha ceiling limit now uuid =>
      obtain ⟨count, counted, kept⟩ := grantTransientHammerRetry_writes jobKey headSha ceiling limit
        now uuid outcome written ran wrote
      exact keepsWith_kept_iff counted kept
    | nonCloserHead jobKey headSha headProof now clock =>
      exact rewritten_kept_iff (resetHammerSeriesForNonCloserHead_writes jobKey headSha headProof
        now clock outcome written ran wrote)
    | operatorApproval jobKey headSha applied stopKey awaited now clock ceiling =>
      obtain ⟨counted, kept⟩ := rearmOperatorApprovedCloser_writes jobKey headSha applied stopKey
        awaited now clock ceiling outcome written ran wrote
      exact iff_of_true (counted_kept counted kept) trivial
    | capExhausted repo prNumber options =>
      exact rewritten_kept_iff (markHammerRetryCapExhausted_writes repo prNumber options outcome
        written ran wrote)
  · refine iff_of_true ?_ fun held => absurd held proceeds
    have same : call.after document = document := by
      unfold SeriesCall.after
      cases ran : call.run document with
      | error message => rfl
      | ok outcome =>
        cases wrote : outcome.written with
        | none => simp [wrote]
        | some written => exact absurd ⟨outcome, ran, by simp [wrote]⟩ proceeds
    rw [same]

end

def legacyLedger : Json :=
  .obj [("jobKey", .str "head"), ("attemptCount", .num 1)]

/-- Handing back the exit of its one dispatch hands back its lifetime charge too. -/
theorem legacy_refund_lowers_lifetime :
    let call : SeriesCall := .exitRefund (some "head") none (some "launch") (.finite 1) none
    @priorLifetimeCount JsNumeric.words (@SeriesCall.after JsText.ascii JsNumeric.words
        JsDate.isoDates legacyLedger call) (.finite 4) ≠
      @priorLifetimeCount JsNumeric.words legacyLedger (.finite 4) := by
  intro call same
  have before :
      (@priorLifetimeCount JsNumeric.words legacyLedger (.finite 4)).toOption = some 1 := by
    decide +kernel
  have after : (@priorLifetimeCount JsNumeric.words (@SeriesCall.after JsText.ascii
      JsNumeric.words JsDate.isoDates legacyLedger call) (.finite 4)).toOption = some 0 := by
    decide +kernel
  rw [same, before] at after
  cases after

end AdversarialReview.Ama.LedgerDocument
