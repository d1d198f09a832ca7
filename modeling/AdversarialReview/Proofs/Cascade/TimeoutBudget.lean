import Mathlib.Data.List.Dedup
import AdversarialReview.Cascade.State

/-! How many reviewer timeouts a head is granted: the limit, and one for each reset. -/

namespace AdversarialReview.Cascade

section

variable {α : Type} [DecidableEq α]

def change (last : Option α) : Option α → Nat
  | none => 0
  | some value => if last = some value then 0 else 1

def changes (last : Option α) : List (Option α) → Nat
  | [] => 0
  | value :: rest => change last value + changes (value <|> last) rest

end

variable [JsDate] (configured : Option Int)

/-- The budget that an attempt is made under. -/
def Failure.budget (call : Failure) (state : CascadeState) : TimeoutBudget :=
  reviewerTimeoutBudget configured state call.headSha call.reviewerBuildId call.row

def recordAll (state : CascadeState) (calls : List Failure) : CascadeState :=
  calls.foldl (recordCascadeFailure configured) state

def unparked (state : CascadeState) : List Failure → Bool
  | [] => true
  | call :: rest =>
    !(call.budget configured state).parked &&
      unparked (recordCascadeFailure configured state call) rest

/-- How often an attempt's build differs from the one recorded before it. -/
def buildChanges (calls : List Failure) : Nat :=
  changes (calls.head?.map Failure.reviewerBuildId) (calls.map fun call => call.reviewerBuildId)

def rearmRequests (calls : List Failure) : List (Option String) :=
  calls.map fun call => rearmRequest call.row

variable {configured : Option Int} {state : CascadeState} {call : Failure} {head : String}

omit [JsDate] in
theorem resolve_pos (configured : Option Int) :
    0 < resolveReviewerTimeoutSameHeadLimit configured := by
  unfold resolveReviewerTimeoutSameHeadLimit
  split
  · split <;> omega
  · omega

theorem limit_pos (configured : Option Int) (state : CascadeState) (headSha : Option String)
    (reviewerBuildId : String) (row : Option ReviewRow) :
    0 < (reviewerTimeoutBudget configured state headSha reviewerBuildId row).limit := by
  have positive := resolve_pos configured
  simp only [reviewerTimeoutBudget]
  cases (previousTimeout configured state reviewerBuildId row).filter
      fun previous => given headSha = some previous.headSha with
  | none => exact positive
  | some previous =>
    simp only
    split_ifs <;> omega

variable (configured) in
theorem budget_room {previous : ReviewerTimeout} (same : given call.headSha = some head)
    (stored : previousTimeout configured state call.reviewerBuildId call.row = some previous)
    (ours : previous.headSha = head) (limited : 0 < previous.limit) :
    (call.budget configured state).limit - (call.budget configured state).count ≤
      (previous.limit - previous.count) +
        change (some previous.reviewerBuildId) (some call.reviewerBuildId) +
        change previous.rearmAt (rearmRequest call.row) ∧
    (call.budget configured state).count ≤ previous.count ∧
    (call.budget configured state).rearmAt = (rearmRequest call.row <|> previous.rearmAt) := by
  simp only [Failure.budget, reviewerTimeoutBudget, stored, same, ours, Option.filter_some,
    decide_true, if_true]
  generalize (previous.lastTimeoutAt <|> if state.lastFailureClass = some "reviewer-timeout" then
    state.lastFailureAt else none) = lastTimeoutAt
  by_cases reset : (decide (previous.reviewerBuildId ≠ call.reviewerBuildId) ||
      rearms previous (rearmRequest call.row) lastTimeoutAt) = true
  · -- A reset by the build or by a request grants a single probe.
    have counted : 1 ≤ change (some previous.reviewerBuildId) (some call.reviewerBuildId) +
        change previous.rearmAt (rearmRequest call.row) := by
      rcases Bool.or_eq_true_iff.mp reset with build | rearmed
      · have apart : previous.reviewerBuildId ≠ call.reviewerBuildId := by simpa using build
        simp [change, apart]
      · cases request : rearmRequest call.row with
        | none => simp [rearms, request] at rearmed
        | some at_ =>
          simp only [rearms, request, Option.any_some, Bool.and_eq_true, decide_eq_true_eq]
            at rearmed
          simp [change, rearmed.1]
    simp only [reset, if_true, and_true]
    omega
  · simp only [reset, Bool.false_eq_true, if_false, and_true, le_refl]
    split_ifs <;> omega

variable (configured state) in
theorem recorded_timeout (same : given call.headSha = some head) :
    ∃ next, (recordCascadeFailure configured state call).reviewerTimeout = some next ∧
      next.headSha = head ∧ next.reviewerBuildId = call.reviewerBuildId ∧
      next.count = (call.budget configured state).count + (if call.countsTimeout then 1 else 0) ∧
      next.limit = (call.budget configured state).limit ∧
      next.rearmAt = (call.budget configured state).rearmAt := by
  simp only [recordCascadeFailure, nextTimeout, same, Failure.budget]
  exact ⟨_, rfl, rfl, rfl, rfl, rfl, rfl⟩

theorem count_lt_limit (same : given call.headSha = some head)
    (free : (call.budget configured state).parked = false) :
    (call.budget configured state).count < (call.budget configured state).limit := by
  cases found : (previousTimeout configured state call.reviewerBuildId call.row).filter
      fun previous => given call.headSha = some previous.headSha with
  | none =>
    simp only [Failure.budget, reviewerTimeoutBudget, found] at free ⊢
    simp only [same, Option.isSome_some, Bool.true_and, decide_eq_false_iff_not] at free
    omega
  | some previous =>
    simpa only [Failure.budget, reviewerTimeoutBudget, found, decide_eq_false_iff_not,
      Nat.not_le] using free

theorem timeouts_le_of_record {calls : List Failure} :
    ∀ {state : CascadeState} {previous : ReviewerTimeout},
      state.reviewerTimeout = some previous → previous.headSha = head →
      0 < previous.limit →
      (∀ call ∈ calls, given call.headSha = some head) →
      unparked configured state calls = true →
      calls.countP Failure.countsTimeout ≤ (previous.limit - previous.count) +
        changes (some previous.reviewerBuildId) (calls.map fun call => call.reviewerBuildId) +
        changes previous.rearmAt (rearmRequests calls) := by
  induction calls with
  | nil => simp
  | cons call rest ih =>
    intro state previous stored ours limited heads free
    rw [List.forall_mem_cons] at heads
    simp only [unparked, Bool.and_eq_true, Bool.not_eq_true'] at free
    obtain ⟨room, -, rearmed⟩ := budget_room configured heads.1
      (by rw [previousTimeout, stored]; rfl) ours limited
    have below := count_lt_limit heads.1 free.1
    obtain ⟨next, written, named, built, counted, limit, rearmAt⟩ :=
      recorded_timeout configured state heads.1
    have later := ih written named (by omega) heads.2 free.2
    rw [built, counted, limit, rearmAt, rearmed] at later
    simp only [rearmRequests, List.map_cons, changes, List.countP_cons] at later ⊢
    have joined : (some call.reviewerBuildId <|> some previous.reviewerBuildId) =
        some call.reviewerBuildId := rfl
    rw [joined]
    split_ifs at later ⊢ <;> omega

theorem stored_ours {calls : List Failure} {stored : ReviewerTimeout}
    (fresh : state.reviewerTimeout = none) (heads : ∀ call ∈ calls, given call.headSha = some head)
    (written : (recordAll configured state calls).reviewerTimeout = some stored) :
    stored.headSha = head ∧ 0 < stored.limit := by
  rcases List.eq_nil_or_concat calls with rfl | ⟨front, last, rfl⟩
  · simp [recordAll, fresh] at written
  · obtain ⟨next, after, named, -, -, limit, -⟩ := recorded_timeout configured
      (recordAll configured state front) (heads last (by simp))
    simp only [recordAll, List.concat_eq_append, List.foldl_append, List.foldl_cons,
      List.foldl_nil] at written after
    cases after.symm.trans written
    exact ⟨named, limit ▸ limit_pos ..⟩

theorem first_room (same : given call.headSha = some head) (fresh : state.reviewerTimeout = none) :
    (call.budget configured state).limit - (call.budget configured state).count ≤
      resolveReviewerTimeoutSameHeadLimit configured + change none (rearmRequest call.row) ∧
    (call.budget configured state).rearmAt = rearmRequest call.row := by
  cases found : (previousTimeout configured state call.reviewerBuildId call.row).filter
      fun previous => given call.headSha = some previous.headSha with
  | none =>
    simp only [Failure.budget, reviewerTimeoutBudget, found, and_true]
    omega
  | some previous =>
    -- What the row says was made by this build, under the limit, and without a request.
    obtain ⟨stored, ours⟩ := Option.filter_eq_some_iff.mp found
    have ours : previous.headSha = head := by simpa [same, eq_comm] using ours
    have legacy := stored
    rw [previousTimeout, fresh] at legacy
    obtain ⟨_, -, rfl⟩ := Option.map_eq_some_iff.mp legacy
    obtain ⟨room, -, rearmed⟩ := budget_room configured same stored ours (resolve_pos configured)
    rw [rearmed]
    simp only [change, if_true] at room
    refine ⟨by simp only [change]; omega, ?_⟩
    cases rearmRequest call.row <;> rfl

/--
The timeouts on a head whose attempts were made unparked.

They are at most the limit, one for each change of the build and one for each change of the
operator's request; and a failure of another class never adds to the stored count.
-/
theorem timeouts_le_budget {calls : List Failure} {start : CascadeState}
    (fresh : start.reviewerTimeout = none) (nonempty : head ≠ "")
    (heads : ∀ call ∈ calls, call.headSha = some head)
    (free : unparked configured start calls = true) :
    calls.countP Failure.countsTimeout ≤ resolveReviewerTimeoutSameHeadLimit configured +
        buildChanges calls + changes none (rearmRequests calls) ∧
      ∀ before call after, calls = before ++ call :: after → call.countsTimeout = false →
        ∀ stored, (recordAll configured start before).reviewerTimeout = some stored →
          ∃ next, (recordAll configured start (before ++ [call])).reviewerTimeout = some next ∧
            next.count ≤ stored.count := by
  constructor
  · cases calls with
    | nil => simp
    | cons call rest =>
      rw [List.forall_mem_cons] at heads
      simp only [unparked, Bool.and_eq_true, Bool.not_eq_true'] at free
      have same : given call.headSha = some head := by simp [heads.1, given, nonempty]
      have below := count_lt_limit same free.1
      obtain ⟨next, written, named, built, counted, limit, rearmAt⟩ :=
        recorded_timeout configured start same
      have later := timeouts_le_of_record written named (by omega)
        (fun other among => by simp [heads.2 other among, given, nonempty]) free.2
      obtain ⟨room, rearmed⟩ := first_room same fresh
      rw [built, counted, limit, rearmAt, rearmed] at later
      simp only [buildChanges, rearmRequests, List.map_cons, changes, List.head?_cons,
        Option.map_some, List.countP_cons] at later ⊢
      have joined : (some call.reviewerBuildId <|> some call.reviewerBuildId) =
          some call.reviewerBuildId := rfl
      have alone : (rearmRequest call.row <|> none) = rearmRequest call.row := by
        cases rearmRequest call.row <;> rfl
      rw [joined, alone]
      split_ifs at later ⊢ <;> omega
  · intro before call after split silent stored written
    have same (call : Failure) (among : call ∈ calls) : given call.headSha = some head := by
      simp [heads call among, given, nonempty]
    have here := same call (by simp [split])
    obtain ⟨next, after_, -, -, counted, -⟩ :=
      recorded_timeout configured (recordAll configured start before) here
    refine ⟨next, by simpa [recordAll] using after_, ?_⟩
    have ours : stored.headSha = head ∧ 0 < stored.limit :=
      stored_ours fresh (fun other among => same other (by simp [split, among])) written
    obtain ⟨-, lower, -⟩ := budget_room configured here
      (by rw [previousTimeout, written]; rfl) ours.1 ours.2
    rw [counted, silent]
    simpa using lower

def sampleTimeout (failedAt : Int) (request : Option String) : Failure where
  failedAt := some failedAt
  now := failedAt
  failureClass := "reviewer-timeout"
  headSha := some "head"
  reviewerBuildId := "build"
  row := some { rereviewReason := some "retrigger-review: again", rereviewRequestedAt := request }

/-- Timeouts before two operator requests that are seen in turn. -/
def sampleTimeouts : List Failure :=
  [sampleTimeout 0 none, sampleTimeout 1 (some "2026-07-17T12:00:00.000Z"),
    sampleTimeout 2 (some "2026-07-17T13:00:00.000Z"),
    sampleTimeout 3 (some "2026-07-17T12:00:00.000Z")]

omit [JsDate] in
theorem timeouts_le_budget_sample :
    letI := JsDate.isoDates
    sampleTimeouts.countP Failure.countsTimeout ≤
      resolveReviewerTimeoutSameHeadLimit (some 1) + buildChanges sampleTimeouts +
        changes none (rearmRequests sampleTimeouts) := by
  let _ := JsDate.isoDates
  refine (timeouts_le_budget (rfl : ({} : CascadeState).reviewerTimeout = none)
    (by decide : "head" ≠ "") ?_ ?_).1
  · decide
  · decide +kernel

omit [JsDate] in
/-- A request that is seen again after another one resets the budget again. -/
theorem timeouts_exceed_distinct_requests :
    letI := JsDate.isoDates
    unparked (some 1) {} sampleTimeouts = true ∧
      sampleTimeouts.countP Failure.countsTimeout = 4 ∧
      resolveReviewerTimeoutSameHeadLimit (some 1) + buildChanges sampleTimeouts +
        ((rearmRequests sampleTimeouts).reduceOption.dedup).length = 3 := by
  decide +kernel

end AdversarialReview.Cascade
