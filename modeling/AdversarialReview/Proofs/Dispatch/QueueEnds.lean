import AdversarialReview.Proofs.Dispatch.QueueLimits

/-! The queue of reviewer dispatches ends when the candidates it started settle. -/

namespace AdversarialReview.Dispatch

variable [JsText] {call : QueueCall} {state next : QueueState}

section

variable {size : Nat}

omit [JsText] in
theorem waitPriority_mono {candidate : Candidate} {early late waitWarnMs : Rat}
    (later : early ≤ late)
    (none_ : (reviewerDispatchWaitPriority candidate late waitWarnMs).isNone = true) :
    (reviewerDispatchWaitPriority candidate early waitWarnMs).isNone = true := by
  unfold reviewerDispatchWaitPriority reviewerDispatchWaitMs at none_ ⊢
  cases enqueued : candidate.enqueuedAtMs with
  | none => simp
  | some since =>
    have longer : max 0 (early - since) ≤ max 0 (late - since) :=
      max_le_max le_rfl (sub_le_sub_right later since)
    simp only [enqueued, Option.map_some, Option.filter_some, Option.isNone_iff_eq_none,
      ite_eq_right_iff, decide_eq_true_eq, reduceCtorEq, imp_false, not_le] at none_ ⊢
    exact longer.trans_lt none_

omit [JsText] in
theorem Kept.laneCounts (kept : Kept state next) :
    pendingLaneCounts next.pending = pendingLaneCounts state.pending := by
  have bare (entries : List Entry) :
      pendingLaneCounts (entries.map Entry.bare) = pendingLaneCounts entries := by
    simp [pendingLaneCounts, List.filter_map, Function.comp_def, Entry.bare]
  rw [← bare next.pending, kept.entries, bare]

theorem Kept.limit (kept : Kept state next) (candidate : Candidate) :
    geminiLimitForCandidate call next candidate = geminiLimitForCandidate call state candidate := by
  unfold geminiLimitForCandidate
  rw [kept.geminiLimit]

theorem Kept.exceeds (kept : Kept state next) (candidate : Candidate) :
    overGemini call next candidate = overGemini call state candidate := by
  simp only [overGemini, kept.limit, kept.gemini]

theorem Kept.accepted (kept : Kept state next) {early late : Rat} (later : early ≤ late)
    {entry other : Entry} (same : other.bare = entry.bare)
    (accepted : refusal call state early entry = none) : refusal call next late other = none := by
  obtain ⟨candidate, -, waited, prepared⟩ := bare_fields same
  have floor : rereviewFloor call next = rereviewFloor call state := by
    simp [rereviewFloor, QueueState.laneOr, kept.lane]
  have capped : rereviewCapped call next late entry.candidate = true →
      rereviewCapped call state early entry.candidate = true := by
    simp only [rereviewCapped, kept.laneCounts, floor, Bool.and_eq_true]
    exact fun ⟨others, none_⟩ => ⟨others, waitPriority_mono later none_⟩
  have exceeds : overGemini call next entry.candidate = overGemini call state entry.candidate :=
    kept.exceeds entry.candidate
  unfold refusal at accepted ⊢
  rw [candidate, waited, prepared, floor, exceeds, kept.limit]
  cases now : rereviewCapped call next late entry.candidate with
  | true => simpa [capped now] using accepted
  | false =>
    split at accepted
    · cases accepted
    · simpa using accepted

def Finds (call : QueueCall) (state : QueueState) (nowMs : Rat) : Prop :=
  (nextStartableEntry call state nowMs).isSome = true

theorem Kept.finds (kept : Kept state next) {early late : Rat} (later : early ≤ late)
    (finds : Finds call state early) : Finds call next late := by
  obtain ⟨room, entry, member, fresh, accepted⟩ := nextStartableEntry_isSome.mp finds
  obtain ⟨index, at_⟩ := List.mem_iff_getElem?.mp member
  obtain ⟨other, there, same⟩ := kept.entry at_
  refine nextStartableEntry_isSome.mpr ⟨?_, other, List.mem_of_getElem? there, ?_, ?_⟩
  · simpa [poolIsFull, kept.active] using room
  · exact (congrArg Entry.started same).trans fresh
  · exact kept.accepted later same accepted

omit [JsText] in
theorem sum_modify (entries : List Entry) (amount : Entry → Nat) (change : Entry → Entry)
    {index : Nat} {entry : Entry} (at_ : entries[index]? = some entry) :
    ((entries.modify index change).map amount).sum + amount entry =
      (entries.map amount).sum + amount (change entry) := by
  induction entries generalizing index with
  | nil => simp at at_
  | cons head rest ih =>
    cases index with
    | zero =>
      simp only [List.getElem?_cons_zero, Option.some.injEq] at at_
      subst at_
      simp only [List.modify_zero_cons, List.map_cons, List.sum_cons]
      omega
    | succ index =>
      have others := ih (by simpa using at_)
      simp only [List.modify_succ_cons, List.map_cons, List.sum_cons]
      omega

omit [JsText] in
theorem Kept.sum (kept : Kept state next) {amount : Entry → Nat}
    (bare : ∀ entry, amount entry.bare = amount entry) :
    (next.pending.map amount).sum = (state.pending.map amount).sum := by
  have through (entries : List Entry) :
      entries.map amount = (entries.map Entry.bare).map amount := by
    simp [List.map_map, Function.comp_def, bare]
  rw [through, kept.entries, ← through]

def Entry.unstartedWeight (entry : Entry) : Nat := if entry.started then 0 else 4

def Entry.unprepared (entry : Entry) : Nat :=
  (if entry.waitPrepared then 0 else 2) + (if entry.saturationPrepared then 0 else 2)

def fitting (call : QueueCall) (state : QueueState) (entry : Entry) : Nat :=
  if !entry.started && !overGemini call state entry.candidate then 1 else 0

def Place.awaiting : Place → Nat
  | .waitHook _ | .saturationHook _ => 1
  | _ => 0

def remaining (call : QueueCall) (state : QueueState) : ℕ ×ₗ (ℕ ×ₗ ℕ) :=
  toLex ((state.pending.map Entry.unstartedWeight).sum +
      (state.active.map ActiveRun.weight).sum,
    toLex ((state.pending.map Entry.unprepared).sum + state.place.awaiting,
      (state.pending.map (fitting call state)).sum))

/-- A step that only changes place, or waits for the last hook of what it found. -/
inductive Quiet (call : QueueCall) (state next : QueueState) (nowMs : Rat) : Prop where
  | moves (kept : Kept state next) (moves : Moves call state next nowMs)
  | found (kept : Kept state next) (from_ : state.place = .inner) (index : Nat)
      (goes : next.place = .admissionHook index)

theorem Kept.remaining (kept : Kept state next)
    (awaits : next.place.awaiting = state.place.awaiting) :
    remaining call next = remaining call state := by
  have fit : (next.pending.map (fitting call next)).sum =
      (state.pending.map (fitting call state)).sum := by
    have same : fitting call next = fitting call state := by
      funext entry
      simp only [fitting, kept.exceeds]
    rw [same]
    exact kept.sum fun _ => rfl
  unfold Dispatch.remaining
  have unstarted : (next.pending.map Entry.unstartedWeight).sum =
      (state.pending.map Entry.unstartedWeight).sum := kept.sum fun _ => rfl
  have unprepared : (next.pending.map Entry.unprepared).sum =
      (state.pending.map Entry.unprepared).sum := kept.sum fun _ => rfl
  rw [unstarted, unprepared, kept.active, awaits, fit]

theorem remaining_lt_first (less : (next.pending.map Entry.unstartedWeight).sum +
      (next.active.map ActiveRun.weight).sum < (state.pending.map Entry.unstartedWeight).sum +
      (state.active.map ActiveRun.weight).sum) : remaining call next < remaining call state :=
  Prod.Lex.toLex_lt_toLex.mpr (.inl less)

theorem remaining_lt_second (same : (next.pending.map Entry.unstartedWeight).sum =
      (state.pending.map Entry.unstartedWeight).sum) (active : next.active = state.active)
    (less : (next.pending.map Entry.unprepared).sum + next.place.awaiting <
      (state.pending.map Entry.unprepared).sum + state.place.awaiting) :
    remaining call next < remaining call state := by
  refine Prod.Lex.toLex_lt_toLex.mpr (.inr ⟨?_, Prod.Lex.toLex_lt_toLex.mpr (.inl less)⟩)
  simp only [same, active]

theorem remaining_lt_third (same : (next.pending.map Entry.unstartedWeight).sum =
      (state.pending.map Entry.unstartedWeight).sum) (active : next.active = state.active)
    (prepared : (next.pending.map Entry.unprepared).sum + next.place.awaiting =
      (state.pending.map Entry.unprepared).sum + state.place.awaiting)
    (less : (next.pending.map (fitting call next)).sum <
      (state.pending.map (fitting call state)).sum) :
    remaining call next < remaining call state := by
  refine Prod.Lex.toLex_lt_toLex.mpr (.inr ⟨?_,
    Prod.Lex.toLex_lt_toLex.mpr (.inr ⟨prepared, less⟩)⟩)
  simp only [same, active]

theorem Released.remaining_lt (released : Released call state next) :
    remaining call next < remaining call state := by
  have lighter := released.lighter
  apply remaining_lt_first
  rw [released.pending]
  omega

theorem start_remaining_lt {index : Nat} {entry : Entry} (candidate : Candidate)
    (at_ : state.pending[index]? = some entry) (fresh : entry.started = false) :
    remaining call (start call state index candidate) < remaining call state := by
  have sums := sum_modify state.pending Entry.unstartedWeight
    (fun entry => { entry with started := true }) at_
  have before : entry.unstartedWeight = 4 := by simp [Entry.unstartedWeight, fresh]
  have after : Entry.unstartedWeight { entry with started := true } = 0 := rfl
  apply remaining_lt_first
  simp only [Dispatch.start, QueueState.modifyEntry, List.map_append, List.sum_append,
    List.map_cons, List.map_nil, List.sum_cons, List.sum_nil]
  have weight : ActiveRun.weight
      { index, seats := reviewerDispatchCandidateGeminiSeats candidate } = 3 := rfl
  omega

omit [JsText] in
theorem modify_unstartedWeight (index : Nat) (change : Entry → Entry)
    (keeps : ∀ entry, (change entry).started = entry.started) :
    ((state.modifyEntry index change).pending.map Entry.unstartedWeight).sum =
      (state.pending.map Entry.unstartedWeight).sum := by
  cases at_ : state.pending[index]? with
  | none =>
    have beyond := List.getElem?_eq_none_iff.mp at_
    simp [QueueState.modifyEntry, List.modify_eq_self beyond]
  | some entry =>
    have sums := sum_modify state.pending Entry.unstartedWeight change at_
    have same : (change entry).unstartedWeight = entry.unstartedWeight := by
      simp [Entry.unstartedWeight, keeps]
    simp only [QueueState.modifyEntry]
    omega

theorem Moves.awaiting {nowMs : Rat} (moves : Moves call state next nowMs) :
    next.place.awaiting = 0 := by
  cases moves with
  | ends from_ goes => rcases goes with goes | goes <;> simp [goes, Place.awaiting]
  | _ => simp_all [Place.awaiting]

theorem prepare_remaining_lt {index : Nat} {entry : Entry} (change : Entry → Entry)
    (place : Place) (at_ : state.pending[index]? = some entry)
    (keeps : ∀ entry, (change entry).started = entry.started)
    (less : (change entry).unprepared + place.awaiting < entry.unprepared + state.place.awaiting) :
    remaining call { state.modifyEntry index change with place } < remaining call state := by
  have sums := sum_modify state.pending Entry.unprepared change at_
  apply remaining_lt_second
  · exact modify_unstartedWeight index change keeps
  · rfl
  · simp only [QueueState.modifyEntry]
    omega

theorem admitEntry_remaining {nowMs : Rat} {entry : Entry} {index : Nat}
    (from_ : state.place = .inner)
    (found : nextStartableEntry call state nowMs = some (entry, index)) :
    remaining call (admitEntry call (passedBy call state nowMs) entry index) <
        remaining call state ∨
      remaining call (admitEntry call (passedBy call state nowMs) entry index) =
          remaining call state ∧
        Quiet call state (admitEntry call (passedBy call state nowMs) entry index) nowMs := by
  obtain ⟨room, at_, ⟨fresh, accepted⟩, -⟩ := selected found
  have kept : Kept state (passedBy call state nowMs) := kept_passedBy nowMs
  obtain ⟨later, there, same⟩ := kept.entry at_
  obtain ⟨-, started, waited, prepared⟩ := bare_fields same
  have waits : later.started = false := started.trans fresh
  have place : (passedBy call state nowMs).place = .inner := from_
  have as_before : remaining call (passedBy call state nowMs) = remaining call state :=
    kept.remaining rfl
  unfold admitEntry
  split
  · rename_i unready
    refine .inl (as_before ▸ prepare_remaining_lt _ _ there (fun _ => rfl) ?_)
    have unset : later.waitPrepared = false := by
      rw [waited]
      simp_all
    simp only [Entry.unprepared, unset, place, Place.awaiting]
    simp
    omega
  split
  · rename_i unready
    refine .inl (as_before ▸ prepare_remaining_lt _ _ there (fun _ => rfl) ?_)
    have unset : later.saturationPrepared = false := by
      rw [prepared]
      simp_all
    simp only [Entry.unprepared, unset, place, Place.awaiting]
    simp
  split
  · have to_hook : Kept state { passedBy call state nowMs with place := .admissionHook index } :=
      kept.trans ⟨rfl, rfl, rfl, rfl, rfl, rfl, rfl⟩
    refine .inr ⟨to_hook.remaining ?_, .found to_hook from_ index rfl⟩
    simp [from_, Place.awaiting]
  · exact .inl (as_before ▸ start_remaining_lt entry.candidate there waits)

theorem refuse_remaining_lt (sound : Sound call size state) {index : Nat} {candidate : Candidate}
    (from_ : state.place = .admissionHook index)
    (exceeds : overGemini call state candidate = true) :
    remaining call { state.modifyEntry index fun entry => { entry with candidate } with
      place := .inner } < remaining call state := by
  obtain ⟨-, entry, at_, fresh, fits⟩ := sound.ready index from_
  have sums := sum_modify state.pending (fitting call state)
    (fun entry => { entry with candidate }) at_
  have unprepared := sum_modify state.pending Entry.unprepared
    (fun entry => { entry with candidate }) at_
  have one : fitting call state entry = 1 := by simp [fitting, fresh, fits]
  have none_ : fitting call state { entry with candidate } = 0 := by simp [fitting, exceeds]
  have alike : Entry.unprepared { entry with candidate } = entry.unprepared := rfl
  apply remaining_lt_third
  · exact modify_unstartedWeight index _ fun _ => rfl
  · rfl
  · simp only [QueueState.modifyEntry, from_, Place.awaiting]
    omega
  · have same : fitting call { state.modifyEntry index fun entry => { entry with candidate } with
        place := .inner } = fitting call state := rfl
    rw [same]
    simp only [QueueState.modifyEntry]
    omega

theorem step_remaining (sound : Sound call size state) {event : QueueEvent}
    (taken : step call state event = some next) :
    remaining call next < remaining call state ∨
      remaining call next = remaining call state ∧
        ∃ input, event = .advance input ∧ Quiet call state next input.nowMs := by
  cases event with
  | settle index ended => exact .inl (settle_released sound taken).remaining_lt
  | observe index => exact .inl (observe_released sound taken).remaining_lt
  | remove index => exact .inl (remove_released sound taken).remaining_lt
  | advance input =>
    cases advance_cases taken with
    | moves kept moves =>
      cases awaits : state.place.awaiting with
      | zero =>
        exact .inr ⟨kept.remaining (moves.awaiting.trans awaits.symm), input, rfl,
          .moves kept moves⟩
      | succ more =>
        refine .inl (remaining_lt_second ?_ kept.active ?_)
        · exact kept.sum fun _ => rfl
        · rw [kept.sum (fun entry : Entry =>
            show entry.bare.unprepared = entry.unprepared from rfl), moves.awaiting]
          omega
    | admits entry index from_ found =>
      rcases admitEntry_remaining from_ found with less | ⟨same, quiet⟩
      · exact .inl less
      · exact .inr ⟨same, input, rfl, quiet⟩
    | prepares index candidate from_ =>
      have awaits : state.place.awaiting = 1 := by
        rcases from_ with place | place <;> simp [place, Place.awaiting]
      refine .inl (remaining_lt_second (modify_unstartedWeight index _ fun _ => rfl) rfl ?_)
      cases at_ : state.pending[index]? with
      | none =>
        have beyond := List.getElem?_eq_none_iff.mp at_
        rw [awaits]
        simp [QueueState.modifyEntry, List.modify_eq_self beyond, Place.awaiting]
      | some entry =>
        have sums := sum_modify state.pending Entry.unprepared
          (fun entry => { entry with candidate }) at_
        have alike : Entry.unprepared { entry with candidate } = entry.unprepared := rfl
        rw [awaits]
        simp only [QueueState.modifyEntry, Place.awaiting]
        omega
    | refuses index candidate from_ exceeds => exact .inl (refuse_remaining_lt sound from_ exceeds)
    | starts index candidate from_ fits =>
      obtain ⟨-, entry, at_, fresh, -⟩ := sound.ready index from_
      have there : (state.modifyEntry index fun entry =>
          { entry with candidate }).pending[index]? = some { entry with candidate } :=
        getElem?_modify_some.mpr ⟨entry, at_, by simp⟩
      have unprepared := sum_modify state.pending Entry.unprepared
        (fun entry => { entry with candidate }) at_
      have weights : ((state.modifyEntry index fun entry =>
          { entry with candidate }).pending.map Entry.unstartedWeight).sum =
            (state.pending.map Entry.unstartedWeight).sum :=
        modify_unstartedWeight index _ fun _ => rfl
      refine .inl (remaining_lt_first ?_)
      have started := sum_modify (state.modifyEntry index fun entry =>
        { entry with candidate }).pending Entry.unstartedWeight
          (fun entry => { entry with started := true }) there
      have before : Entry.unstartedWeight { entry with candidate } = 4 := by
        simp [Entry.unstartedWeight, fresh]
      have after : Entry.unstartedWeight { entry with candidate, started := true } = 0 := rfl
      have weight : ActiveRun.weight
          { index, seats := reviewerDispatchCandidateGeminiSeats candidate } = 3 := rfl
      simp only [Dispatch.start, QueueState.modifyEntry, List.map_append, List.sum_append,
        List.map_cons, List.map_nil, List.sum_cons, List.sum_nil] at weights started ⊢
      omega

def Fruitful (call : QueueCall) (state : QueueState) (nowMs : Rat) : Prop :=
  Open call state ∧ Finds call state nowMs

open Classical in
/-- How far a call with nothing active is from its end, or from a step that is not quiet. -/
noncomputable def distance (call : QueueCall) (state : QueueState) (nowMs : Rat) : Nat :=
  match state.place with
  | .waitHook _ | .saturationHook _ => 30
  | .yielded => 21
  | .outer => if Fruitful call state nowMs then 4 else if Open call state then 20 else 15
  | .inner => if Fruitful call state nowMs then 3 else 19
  | .wave => 18
  | .waveWait => 17
  | .tail => 16
  | .admissionHook _ => 2
  | .finish => 1
  | .race _ => 22
  | .thrown | .returned _ => 0

theorem Quiet.distance_lt {early late : Rat} (later : early ≤ late) (idle : state.active = [])
    (quiet : Quiet call state next late) : distance call next late < distance call state early := by
  cases quiet with
  | found kept from_ index goes =>
    simp only [distance, from_, goes]
    split <;> omega
  | moves kept moves =>
    cases moves with
    | enters from_ goes opened closed =>
      have open_ := opened idle
      have still : Open call next := ⟨kept.errors ▸ open_.1, closed.trans open_.2⟩
      by_cases fruitful : Fruitful call state early
      · have next_fruitful : Fruitful call next late := ⟨still, kept.finds later fruitful.2⟩
        simp [distance, from_, goes, fruitful, next_fruitful]
      · simp only [distance, from_, goes, if_neg fruitful, if_pos open_]
        split <;> omega
    | leaves from_ goes =>
      simp only [distance, from_, goes]
      split
      · omega
      · split <;> omega
    | exhausts from_ goes nothing =>
      -- What was found before is found still, so nothing was.
      have barren : ¬ Fruitful call state early := by
        intro fruitful
        have same : Kept state state := ⟨rfl, rfl, rfl, rfl, rfl, rfl, rfl⟩
        have finds : Finds call state late := same.finds later fruitful.2
        simp [Finds, nothing fruitful.1] at finds
      simp [distance, from_, goes, barren]
    | resumes from_ goes =>
      simp only [distance, from_, goes]
      split <;> omega
    | waits from_ goes => simp [distance, from_, goes]
    | ends from_ goes =>
      rcases from_ with from_ | from_ <;> rcases goes with goes | goes <;>
        simp [distance, from_, goes]
    | races from_ goes busy => exact absurd idle busy
    | repeats from_ goes more =>
      have finds : Finds call next late := kept.finds le_rfl more
      by_cases open_ : Open call next
      · have fruitful : Fruitful call next late := ⟨open_, finds⟩
        simp [distance, from_, goes, fruitful]
      · have barren : ¬ Fruitful call next late := fun fruitful => open_ fruitful.1
        simp [distance, from_, goes, open_, barren]
    | stops from_ goes => simp [distance, from_, goes]
    | wakes awaited from_ goes =>
      simp only [distance, from_, goes]
      split
      · omega
      · split <;> omega
    | throws from_ goes =>
      rcases from_ with from_ | ⟨index, from_ | from_ | from_⟩ <;> simp [distance, from_, goes]
    | returns from_ goes => simp [distance, from_, goes]

/-- A call that goes on without end, by a clock that does not go back. -/
structure EndlessCall (call : QueueCall) (candidates : List Candidate) where
  states : Nat → QueueState
  events : Nat → QueueEvent
  clock : Nat → Rat
  begins : Reaches call candidates (states 0)
  steps : ∀ n, step call (states n) (events n) = some (states (n + 1))
  ticks : ∀ n, clock n ≤ clock (n + 1)
  reads : ∀ n input, events n = .advance input → input.nowMs = clock n

variable {candidates : List Candidate}

theorem EndlessCall.reaches (endless : EndlessCall call candidates) (n : Nat) :
    Reaches call candidates (endless.states n) := by
  induction n with
  | zero => exact endless.begins
  | succ n ih => exact .step _ ih (endless.steps n)

theorem EndlessCall.quiet (endless : EndlessCall call candidates) :
    ∃ from_, ∀ n, from_ ≤ n →
      Quiet call (endless.states n) (endless.states (n + 1)) (endless.clock n) := by
  -- The least of what remains over the whole call is reached, and then stays.
  obtain ⟨least, ⟨from_, rfl⟩, lowest⟩ := WellFounded.has_min
    (wellFounded_lt (α := ℕ ×ₗ (ℕ ×ₗ ℕ)))
    (Set.range fun n => remaining call (endless.states n)) ⟨_, 0, rfl⟩
  have stays : ∀ n, from_ ≤ n → remaining call (endless.states n) =
      remaining call (endless.states from_) := by
    intro n later
    induction n, later using Nat.le_induction with
    | base => rfl
    | succ n later ih =>
      rcases step_remaining (reaches_sound (endless.reaches n)) (endless.steps n) with
        less | ⟨same, -⟩
      · rw [ih] at less
        exact absurd less (lowest _ ⟨n + 1, rfl⟩)
      · exact same.trans ih
  refine ⟨from_, fun n later => ?_⟩
  rcases step_remaining (reaches_sound (endless.reaches n)) (endless.steps n) with
    less | ⟨-, input, event, quiet⟩
  · rw [stays n later, stays (n + 1) (Nat.le_succ_of_le later)] at less
    exact absurd less (lt_irrefl _)
  · rw [endless.reads n input event] at quiet
    exact quiet

theorem Quiet.active {nowMs : Rat} (quiet : Quiet call state next nowMs) :
    next.active = state.active := by
  cases quiet with
  | moves kept _ => exact kept.active
  | found kept _ _ _ => exact kept.active

theorem EndlessCall.unsettled (endless : EndlessCall call candidates) :
    ¬ ∀ n, ∀ run ∈ (endless.states n).active, ∃ later, n ≤ later ∧
      run.index ∉ (endless.states later).active.map ActiveRun.index := by
  intro settles
  obtain ⟨from_, quiet⟩ := endless.quiet
  have active : ∀ n, from_ ≤ n →
      (endless.states n).active = (endless.states from_).active := by
    intro n later
    induction n, later using Nat.le_induction with
    | base => rfl
    | succ n later ih => exact (quiet n later).active.trans ih
  have idle : (endless.states from_).active = [] := by
    rw [List.eq_nil_iff_forall_not_mem]
    intro run member
    obtain ⟨later, after, gone⟩ := settles from_ run member
    rw [active later after] at gone
    exact gone (List.mem_map_of_mem member)
  have nearer : ∀ n, from_ ≤ n →
      distance call (endless.states (n + 2)) (endless.clock (n + 1)) <
        distance call (endless.states (n + 1)) (endless.clock n) := by
    intro n later
    have next := Nat.le_succ_of_le later
    exact (quiet (n + 1) next).distance_lt (endless.ticks n) ((active (n + 1) next).trans idle)
  have below : ∀ n,
      distance call (endless.states (from_ + n + 1)) (endless.clock (from_ + n)) + n ≤
        distance call (endless.states (from_ + 1)) (endless.clock from_) := by
    intro n
    induction n with
    | zero => exact le_rfl
    | succ n ih =>
      have less := nearer (from_ + n) (Nat.le_add_right ..)
      have same : from_ + (n + 1) + 1 = from_ + n + 2 := by omega
      have tick : from_ + (n + 1) = from_ + n + 1 := by omega
      rw [same, tick]
      omega
  have far := below (distance call (endless.states (from_ + 1)) (endless.clock from_) + 1)
  omega

end

/-- What the call keeps to: in every state no candidate has run twice; what a step starts, it
starts with room and seats; a selected same-head retry leaves no other kind of candidate behind that
could be admitted; a call that returns has every candidate run or deferred once; and a call in which
started candidates settle does not go on for ever. -/
structure Disciplined (call : QueueCall) (candidates : List Candidate) : Prop where
  once : ∀ state, Reaches call candidates state →
    state.pending.length = candidates.length ∧ state.runs.Nodup
  safe : ∀ state next event, Reaches call candidates state →
    step call state event = some next →
      next.runs = state.runs ∨ ∃ index, StartedSafely call state next index
  inUse : ∀ state, Reaches call candidates state → state.activeGemini =
    call.initiallyActiveGemini + (state.active.map ActiveRun.seatsInUse).sum
  retries : ∀ state nowMs entry index, Reaches call candidates state →
    nextStartableEntry call state nowMs = some (entry, index) →
    entry.candidate.sameHeadTimeoutRetry = true → ∀ other ∈ state.pending,
      Admissible call state nowMs other → other.candidate.sameHeadTimeoutRetry = true
  complete : ∀ state deferred, Reaches call candidates state →
    state.place = .returned deferred →
    (deferred.map Prod.fst).Nodup ∧ ∀ index < candidates.length,
      (index ∈ state.runs ∧ index ∉ deferred.map Prod.fst) ∨
        (index ∉ state.runs ∧ index ∈ deferred.map Prod.fst)
  live : ∀ state, Reaches call candidates state →
    (∀ run ∈ state.active, run.phase ≠ .running) → state.place = .thrown ∨
      (∃ deferred, state.place = .returned deferred) ∨
        ∃ input next, advance call state input = some next
  ends : ∀ endless : EndlessCall call candidates,
    ¬ ∀ n, ∀ run ∈ (endless.states n).active, ∃ later, n ≤ later ∧
      run.index ∉ (endless.states later).active.map ActiveRun.index

theorem Sound.complete {size : Nat} (sound : Sound call size state) {deferred : List (Nat × String)}
    (place : state.place = .returned deferred) {index : Nat} (within : index < size) :
    (index ∈ state.runs ∧ index ∉ deferred.map Prod.fst) ∨
      (index ∉ state.runs ∧ index ∈ deferred.map Prod.fst) := by
  obtain ⟨-, listed⟩ := sound.returned deferred place
  rw [listed index, sound.started index, Unstarted]
  have bound : index < state.pending.length := sound.size ▸ within
  have at_ : state.pending[index]? = some state.pending[index] := List.getElem?_eq_getElem bound
  cases started : state.pending[index].started with
  | true => exact .inl ⟨⟨_, at_, started⟩, by simp [at_, started]⟩
  | false => exact .inr ⟨by simp [at_, started], ⟨_, at_, started⟩⟩

theorem race_awaits (reached : Reaches call candidates state) {awaited : List Nat}
    (place : state.place = .race awaited) : awaited ≠ [] := by
  induction reached generalizing awaited with
  | enter nowMs =>
    simp only [enter] at place
    split at place <;> cases place
  | @step state next event before taken ih =>
    have sound := reaches_sound before
    cases event with
    | settle index ended => exact ih ((settle_released sound taken).place ▸ place)
    | observe index => exact ih ((observe_released sound taken).place ▸ place)
    | remove index => exact ih ((remove_released sound taken).place ▸ place)
    | advance input =>
      cases advance_cases taken with
      | moves kept moves =>
        cases moves with
        | races from_ goes busy =>
          obtain rfl := Place.race.inj (goes.symm.trans place)
          simpa using busy
        | ends from_ goes => rcases goes with goes | goes <;> cases goes.symm.trans place
        | _ => simp_all
      | admits entry index from_ found =>
        unfold admitEntry at place
        split at place
        · cases place
        split at place
        · cases place
        split at place
        · cases place
        · simp only [start] at place
          split at place <;> cases place
      | prepares index candidate from_ => cases place
      | refuses index candidate from_ exceeds => cases place
      | starts index candidate from_ fits =>
        simp only [start] at place
        split at place <;> cases place

theorem advance_live (reached : Reaches call candidates state)
    (settled : ∀ run ∈ state.active, run.phase ≠ .running) : state.place = .thrown ∨
      (∃ deferred, state.place = .returned deferred) ∨
        ∃ input next, advance call state input = some next := by
  cases place : state.place with
  | thrown => exact .inl rfl
  | returned deferred => exact .inr (.inl ⟨deferred, rfl⟩)
  | race awaited =>
    obtain ⟨index, listed⟩ := List.exists_mem_of_ne_nil awaited (race_awaits reached place)
    have exceeds : (awaited.any fun index => state.active.all fun run =>
        run.index ≠ index || run.phase ≠ .running) = true := by
      simp only [List.any_eq_true, List.all_eq_true]
      exact ⟨index, listed, fun run member => by simp [settled run member]⟩
    exact .inr (.inr ⟨{}, _, by simp only [advance, place]; rw [if_pos exceeds]⟩)
  | _ =>
    refine .inr (.inr ⟨{ timer := true }, ?_⟩)
    simp only [advance, place]
    repeat' split
    all_goals first | exact ⟨_, rfl⟩ | simp_all

/-- The queue keeps its limits, loses no candidate, and ends. -/
theorem queue_disciplined (call : QueueCall) (candidates : List Candidate) :
    Disciplined call candidates where
  once _ reached := ⟨(reaches_sound reached).size, (reaches_sound reached).nodup⟩
  safe _ _ _ reached taken := (step_sound (reaches_sound reached) taken).2
  inUse _ reached := (reaches_sound reached).seats
  retries _ _ _ _ _ found := (selected found).2.2.2
  complete _ deferred reached place :=
    ⟨((reaches_sound reached).returned deferred place).1,
      fun _ within => (reaches_sound reached).complete place within⟩
  live _ := advance_live
  ends endless := endless.unsettled

omit [JsText] in
/-- Of two same-head retries one is selected, and the other could be taken as well. -/
theorem second_retry_admissible :
    letI := JsText.ascii
    ¬ ∀ (call : QueueCall) (candidates : List Candidate) (state : QueueState) (nowMs : Rat)
        (entry other : Entry) (index place : Nat), Reaches call candidates state →
      nextStartableEntry call state nowMs = some (entry, index) →
      entry.candidate.sameHeadTimeoutRetry = true → state.pending[place]? = some other →
      Admissible call state nowMs other → place = index := by
  let _ := JsText.ascii
  intro only
  have same := only { localeCompare := fun _ _ => 0 }
    [{ prNumber := 1, sameHeadTimeoutRetry := true },
      { prNumber := 2, sameHeadTimeoutRetry := true }]
    _ 0 { candidate := { prNumber := 1, sameHeadTimeoutRetry := true } }
    { candidate := { prNumber := 2, sameHeadTimeoutRetry := true } } 0 1 (.enter 0)
    (by decide +kernel) rfl (by decide +kernel) ⟨by decide +kernel, by decide +kernel⟩
  cases same

end AdversarialReview.Dispatch
