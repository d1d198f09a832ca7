import Mathlib.Data.List.Chain
import Mathlib.Tactic.Linarith
import AdversarialReview.Cascade.State
import AdversarialReview.Library.Latch

/-! How long a token-refresh hold lasts: it runs from the first refusal, to a bound set there. -/

namespace AdversarialReview.Cascade

theorem toIso_between {low high : Int} {ms : Rat} (above : (low : Rat) ≤ ms)
    (below : ms ≤ (high : Rat)) (first : isRepresentableInstant low = true)
    (last : isRepresentableInstant high = true) :
    ∃ at_, toIso ms = .ok at_ ∧ low ≤ at_ ∧ at_ ≤ high := by
  simp only [isRepresentableInstant, decide_eq_true_eq] at first last
  have within : |ms| ≤ (maxRepresentableInstantMs : Rat) := by
    have lower : -(maxRepresentableInstantMs : Rat) ≤ low := by exact_mod_cast (by omega)
    have upper : (high : Rat) ≤ maxRepresentableInstantMs := by exact_mod_cast (by omega)
    exact abs_le.mpr ⟨by linarith, by linarith⟩
  have den : (0 : Int) < ms.den := by exact_mod_cast ms.den_pos
  refine ⟨ms.num.tdiv ms.den, by rw [toIso, if_pos within], ?_, ?_⟩
  · refine Int.le_tdiv_of_mul_le den ?_
    simpa using (Rat.le_iff _ _).mp above
  · have cut : ms.num ≤ high * ms.den := by
      simpa using (Rat.le_iff _ _).mp below
    calc ms.num.tdiv ms.den ≤ (high * ms.den).tdiv ms.den := Int.tdiv_le_tdiv den cut
      _ = high := Int.mul_tdiv_cancel high den.ne'

theorem toIso_int {ms : Int} (fits : isRepresentableInstant ms = true) :
    toIso (ms : Rat) = .ok ms := by
  obtain ⟨at_, written, above, below⟩ :=
    toIso_between (le_refl (ms : Rat)) (le_refl (ms : Rat)) fits fits
  rw [written, le_antisymm below above]

section

variable [JsDate] (configured : Option Int) (config : HoldConfig)

/-- A refusal of a run, with what recording it read and left. -/
structure Refused where
  call : Refusal
  failedAt : Int
  /-- The end of the refusal's own backoff. -/
  floor : Int
  answer : Except String Unit
  after : CascadeState

def refused (state : CascadeState) (call : Refusal) : Refused :=
  let failure := recordCascadeFailure configured state call.failure
  { call, failedAt := failure.lastFailureAt.getD 0, floor := failure.nextRetryAfter.getD 0
    answer := (recordTokenRefreshHold configured config state call).1
    after := (recordTokenRefreshHold configured config state call).2 }

def refusals (state : CascadeState) : List Call → List Refused
  | [] => []
  | .refusal call :: rest => refused configured config state call ::
      refusals (perform configured config state (.refusal call)).2 rest
  | call :: rest => refusals (perform configured config state call).2 rest

def Refusal.model (call : Refusal) : String :=
  normalizedModel (if call.reviewerModel = "" then "claude" else call.reviewerModel)

def Refused.Fits (refused : Refused) : Prop :=
  isRepresentableInstant refused.failedAt = true ∧
    ∀ ms, refused.call.refusal.bind (expectedRotation config refused.failedAt) =
      some (.finite ms) → |ms| ≤ (maxRepresentableInstantMs : Rat)

omit [JsDate] in
theorem asciiLower_normalizedModel (model : Option String) :
    ReviewState.asciiLower (normalizedModel model) = normalizedModel model := by
  have twice (char : Char) : char.toLower.toLower = char.toLower := by
    unfold Char.toLower
    split <;> grind
  simp [normalizedModel, ReviewState.asciiLower, Function.comp_def, twice]

structure Holds (model : String) (bound start last : Int) (state : CascadeState) : Prop where
  hold : ∃ hold, state.tokenRefreshHold = some hold ∧ hold.reviewerModel = model ∧
    hold.startedAt = start ∧ hold.maxHoldUntil = start + bound ∧ hold.lastRefusalAt = last

structure Refused.Bounded (model : String) (bound start : Int) (refused : Refused) : Prop where
  accepted : refused.answer = .ok ()
  holds : Holds model bound start refused.failedAt refused.after
  retry : ∃ next, refused.after.nextRetryAfter = some next ∧ next ≤ start + bound ∧
    (next < start + bound → refused.floor ≤ next)

variable {configured config} {state : CascadeState} {call : Refusal} {bound start : Int}

omit [JsDate] in
theorem holdTarget_between (floor bound : Int) (rotation : Option JsDouble) :
    ((min floor bound : Int) : Rat) ≤ min (bound : Rat) (holdTarget floor bound rotation) := by
  have least : (floor : Rat) ≤ holdTarget floor bound rotation := by
    unfold holdTarget
    split
    · exact le_max_left _ _
    · exact le_max_left _ _
    · exact le_refl _
  rw [Int.cast_min, min_comm]
  exact min_le_min_left _ least

variable (configured config) in
theorem failedAt_le_floor (state : CascadeState) (call : Refusal) :
    (refused configured config state call).failedAt ≤
      (refused configured config state call).floor := by
  simp only [refused, recordCascadeFailure, Failure.window, Option.getD_some]
  omega

omit [JsDate] in
theorem rotationText_ok {rotation : Option JsDouble}
    (fits : ∀ ms, rotation = some (.finite ms) → |ms| ≤ (maxRepresentableInstantMs : Rat)) :
    ∃ text, rotationText rotation = .ok text := by
  unfold rotationText
  split
  · next ms => exact ⟨_, by rw [toIso, if_pos (fits ms rfl)]; rfl⟩
  · exact ⟨none, rfl⟩

omit [JsDate] in
theorem compute_bounded (whole : config.maxHoldMs = bound) {previousHold : Option TokenRefreshHold}
    {failedAt floor : Int} (refusal : Option TokenRefreshRefusal) {reviewerModel model : String}
    (named : normalizedModel (if reviewerModel = "" then "claude" else reviewerModel) = model)
    (begun : (previousHold.filter (continues config model failedAt)).elim failedAt
      TokenRefreshHold.startedAt = start)
    (ordered : failedAt ≤ floor) (timeFits : isRepresentableInstant failedAt = true)
    (startFits : isRepresentableInstant start = true)
    (endFits : isRepresentableInstant (start + bound) = true)
    (rotationFits : ∀ ms, refusal.bind (expectedRotation config failedAt) = some (.finite ms) →
      |ms| ≤ (maxRepresentableInstantMs : Rat)) :
    ∃ hold, computeTokenRefreshHold config previousHold failedAt floor refusal reviewerModel =
        .ok hold ∧ hold.reviewerModel = model ∧ hold.startedAt = start ∧
      hold.maxHoldUntil = start + bound ∧ hold.lastRefusalAt = failedAt ∧
      hold.holdUntil ≤ start + bound ∧
      (hold.holdUntil < start + bound → floor ≤ hold.holdUntil) := by
  have summed : (start : Rat) + config.maxHoldMs = ((start + bound : Int) : Rat) := by
    rw [whole]
    push_cast
    rfl
  obtain ⟨text, written⟩ := rotationText_ok rotationFits
  have lowFits : isRepresentableInstant (min floor (start + bound)) = true := by
    simp only [isRepresentableInstant, decide_eq_true_eq] at timeFits endFits ⊢
    omega
  obtain ⟨until_, ended, above, below⟩ := toIso_between
    (holdTarget_between floor (start + bound) (refusal.bind (expectedRotation config failedAt)))
    (min_le_left _ _) lowFits endFits
  simp only [computeTokenRefreshHold, named, begun, summed]
  rw [toIso_int startFits, toIso_int timeFits, written, ended, toIso_int endFits]
  exact ⟨_, rfl, rfl, rfl, rfl, rfl, below, by simp only; omega⟩

variable (configured) in
theorem refused_bounded (whole : config.maxHoldMs = bound)
    (before : (state.tokenRefreshHold = none ∧
        start = (refused configured config state call).failedAt) ∨
      ∃ last, Holds call.model bound start last state ∧
        (((refused configured config state call).failedAt - last : Int) : Rat) ≤
          bound + tokenRefreshHoldStaleSlackMs)
    (startFits : isRepresentableInstant start = true)
    (endFits : isRepresentableInstant (start + bound) = true)
    (fits : (refused configured config state call).Fits config) :
    (refused configured config state call).Bounded call.model bound start := by
  have ordered := failedAt_le_floor configured config state call
  obtain ⟨timeFits, rotationFits⟩ := fits
  have begun : (state.tokenRefreshHold.filter (continues config call.model
      (refused configured config state call).failedAt)).elim
      (refused configured config state call).failedAt TokenRefreshHold.startedAt = start := by
    rcases before with ⟨none, first⟩ | ⟨last, ⟨hold, stored, model, begin_, -, refusedLast⟩, live⟩
    · rw [none, first]
      rfl
    · have goes : continues config call.model (refused configured config state call).failedAt
          hold = true := by
        simp only [continues, model, refusedLast, whole, live, decide_true, Bool.and_true,
          decide_eq_true_eq]
        exact asciiLower_normalizedModel _
      rw [stored, Option.filter_some, if_pos goes]
      exact begin_
  obtain ⟨hold, computed, model, begin_, maximum, last, below, above⟩ :=
    compute_bounded whole call.refusal rfl begun ordered timeFits startFits endFits
      rotationFits
  have recorded : recordTokenRefreshHold configured config state call = (.ok (),
      { recordCascadeFailure configured state call.failure with
        nextRetryAfter := some hold.holdUntil, tokenRefreshHold := some hold }) := by
    simp only [refused] at computed
    rw [recordTokenRefreshHold, computed]
  refine ⟨by rw [refused, recorded], ⟨hold, by rw [refused, recorded], model, begin_, maximum,
    last⟩, hold.holdUntil, by rw [refused, recorded], below, above⟩

/-- Two refusals in a row of one hold: not back in time, and not as far apart as makes it stale. -/
def Follows (bound : Int) (first second : Refused) : Prop :=
  first.failedAt ≤ second.failedAt ∧
    ((second.failedAt - first.failedAt : Int) : Rat) ≤ bound + tokenRefreshHoldStaleSlackMs

theorem perform_hold {call : Call} (other : ∀ refusal, call ≠ .refusal refusal) :
    (perform configured config state call).2.tokenRefreshHold = state.tokenRefreshHold := by
  cases call with
  | failure call => rfl
  | refusal call => exact absurd rfl (other call)
  | cap call =>
    simp only [perform, markCascadeCapExhaustedAlerted]
    split <;> rfl
  | operator call =>
    simp only [perform, markOperatorDecisionRequiredAlerted]
    split <;> rfl

theorem refusals_cons {call : Call} (other : ∀ refusal, call ≠ .refusal refusal)
    (rest : List Call) : refusals configured config state (call :: rest) =
      refusals configured config (perform configured config state call).2 rest := by
  cases call with
  | refusal refusal => exact absurd rfl (other refusal)
  | failure call => rfl
  | cap call => rfl
  | operator call => rfl

theorem refusals_bounded (whole : config.maxHoldMs = bound) {model : String}
    (startFits : isRepresentableInstant start = true)
    (endFits : isRepresentableInstant (start + bound) = true) {calls : List Call} :
    ∀ {state : CascadeState} {last : Refused}, Holds model bound start last.failedAt state →
      (∀ refusal, .refusal refusal ∈ calls → refusal.model = model) →
      (∀ refused ∈ refusals configured config state calls, refused.Fits config) →
      (last :: refusals configured config state calls).IsChain (Follows bound) →
      (∀ refused ∈ refusals configured config state calls, refused.Bounded model bound start) ∧
        Holds model bound start
          ((refusals configured config state calls).getLastD last).failedAt
          (afterCalls (perform configured config) state calls) := by
  induction calls with
  | nil => exact fun held _ _ _ => ⟨by simp [refusals], held⟩
  | cons call rest ih =>
    intro state last held models fits chain
    have later : ∀ refusal, .refusal refusal ∈ rest → refusal.model = model :=
      fun refusal among => models refusal (List.mem_cons_of_mem call among)
    by_cases isRefusal : ∃ refusal, call = .refusal refusal
    · obtain ⟨refusal, rfl⟩ := isRefusal
      simp only [refusals, List.forall_mem_cons, List.isChain_cons_cons] at fits chain ⊢
      obtain rfl : refusal.model = model := models refusal List.mem_cons_self
      have here := refused_bounded configured whole
        (.inr ⟨last.failedAt, held, chain.1.2⟩) startFits endFits fits.1
      obtain ⟨all, left⟩ := ih here.holds later fits.2 chain.2
      rw [List.getLastD_cons]
      exact ⟨⟨here, all⟩, left⟩
    · have other : ∀ refusal, call ≠ .refusal refusal := fun refusal same =>
        isRefusal ⟨refusal, same⟩
      rw [refusals_cons other] at fits chain ⊢
      obtain ⟨hold, stored, facts⟩ := held
      exact ih ⟨hold, (perform_hold other).trans stored, facts⟩ later fits chain

theorem refusals_bounded_first (whole : config.maxHoldMs = bound) {model : String}
    {first : Refused} {rest : List Refused}
    (endFits : isRepresentableInstant (first.failedAt + bound) = true) {calls : List Call} :
    ∀ {state : CascadeState}, state.tokenRefreshHold = none →
      (∀ refusal, .refusal refusal ∈ calls → refusal.model = model) →
      refusals configured config state calls = first :: rest →
      (first :: rest).IsChain (Follows bound) →
      (∀ refused ∈ first :: rest, refused.Fits config) →
      (∀ refused ∈ first :: rest, refused.Bounded model bound first.failedAt) ∧
        Holds model bound first.failedAt (rest.getLastD first).failedAt
          (afterCalls (perform configured config) state calls) := by
  induction calls with
  | nil => exact fun _ _ listed => absurd listed (by simp [refusals])
  | cons call calls ih =>
    intro state fresh models listed chain fits
    have later : ∀ refusal, .refusal refusal ∈ calls → refusal.model = model :=
      fun refusal among => models refusal (List.mem_cons_of_mem call among)
    by_cases isRefusal : ∃ refusal, call = .refusal refusal
    · obtain ⟨refusal, rfl⟩ := isRefusal
      obtain ⟨rfl, rfl⟩ := List.cons_eq_cons.mp listed
      obtain rfl : refusal.model = model := models refusal List.mem_cons_self
      rw [List.forall_mem_cons] at fits
      have here := refused_bounded configured whole (.inl ⟨fresh, rfl⟩) fits.1.1 endFits fits.1
      obtain ⟨all, left⟩ :=
        refusals_bounded whole fits.1.1 endFits here.holds later fits.2 chain
      exact ⟨List.forall_mem_cons.mpr ⟨here, all⟩, left⟩
    · have other : ∀ refusal, call ≠ .refusal refusal := fun refusal same =>
        isRefusal ⟨refusal, same⟩
      rw [refusals_cons other] at listed
      exact ih ((perform_hold other).trans fresh) later listed chain fits

end

def sampleRefusal (failedAt : Int) (remainingMs : Int) : Call :=
  .refusal { failedAt := some failedAt, now := failedAt, reviewerBuildId := "build"
             refusal := some { remainingMs := some remainingMs, expiresAtMs := none } }

def sampleConfig : HoldConfig where
  maxHoldMs := 1800000
  bridgeRefreshWindowMs := 1800000

end AdversarialReview.Cascade
