import AdversarialReview.Dispatch.Queue

/-! The queue of reviewer dispatches keeps its limits and loses no candidate. -/

namespace AdversarialReview.Dispatch

section

variable {α : Type} {before : α → α → Prop} [DecidableRel before] {late : α → Prop}

theorem late_last (early : ∀ a b, ¬ late a → late b → before a b ∧ ¬ before b a) (items : List α) :
    (items.insertionSort before).Pairwise fun a b => late a → late b := by
  have insert (item : α) (sorted : List α)
      (ordered : sorted.Pairwise fun a b => late a → late b) :
      (sorted.orderedInsert before item).Pairwise fun a b => late a → late b := by
    induction sorted with
    | nil => simp
    | cons head rest ih =>
      obtain ⟨first, others⟩ := List.pairwise_cons.mp ordered
      by_cases goes : before item head
      · rw [List.orderedInsert_cons_of_le _ _ goes]
        refine List.pairwise_cons.mpr ⟨?_, ordered⟩
        intro other listed lateItem
        -- An early head would stand before the late item.
        have lateHead : late head := by
          by_contra earlyHead
          exact (early head item earlyHead lateItem).2 goes
        rcases List.mem_cons.mp listed with rfl | later
        · exact lateHead
        · exact first other later lateHead
      · rw [List.orderedInsert_cons, if_neg goes]
        refine List.pairwise_cons.mpr ⟨?_, ih others⟩
        intro other listed lateHead
        rcases (List.mem_orderedInsert ..).mp listed with rfl | later
        · by_contra earlyItem
          exact goes (early _ _ earlyItem lateHead).1
        · exact first other later lateHead
  induction items with
  | nil => simp
  | cons item rest ih => exact insert item _ ih

theorem find_first {items : List α} {relates : α → α → Prop}
    (ordered : items.Pairwise relates) {wanted : α → Bool} {found other : α}
    (first : items.find? wanted = some found)
    (listed : other ∈ items) (also : wanted other = true) :
    other = found ∨ relates found other := by
  induction items with
  | nil => cases listed
  | cons head rest ih =>
    obtain ⟨heads, others⟩ := List.pairwise_cons.mp ordered
    by_cases here : wanted head = true
    · rw [List.find?_cons_of_pos here] at first
      cases first
      rcases List.mem_cons.mp listed with rfl | later
      · exact .inl rfl
      · exact .inr (heads other later)
    · rw [List.find?_cons_of_neg here] at first
      rcases List.mem_cons.mp listed with rfl | later
      · exact absurd also here
      · exact ih others first later

end

variable [JsText] {call : QueueCall} {state next : QueueState}

omit [JsText] in
theorem retry_after (call : QueueCall) (state : QueueState) (nowMs : Rat) {a b : Candidate}
    (fresh : a.sameHeadTimeoutRetry = false) (retry : b.sameHeadTimeoutRetry = true) :
    compareReviewerDispatchEntries call state nowMs a b = -1 ∧
      compareReviewerDispatchEntries call state nowMs b a = 1 := by
  -- The first difference is the retry's, so the others are not looked at.
  constructor
  · norm_num [compareReviewerDispatchEntries, priorityDeltas, firstDelta, number, fresh, retry]
  · norm_num [compareReviewerDispatchEntries, priorityDeltas, firstDelta, number, fresh, retry]

omit [JsText] in
theorem retries_last (nowMs : Rat) :
    (orderPendingReviewerDispatchEntries call state nowMs).Pairwise fun a b =>
      a.1.candidate.sameHeadTimeoutRetry = true → b.1.candidate.sameHeadTimeoutRetry = true := by
  apply late_last
  intro a b fresh retry
  obtain ⟨forth, back⟩ := retry_after call state nowMs
    (by simpa using fresh) retry
  rw [forth, back]
  norm_num

omit [JsText] in
theorem mem_unstarted {nowMs : Rat} {entry : Entry} {index : Nat} :
    (entry, index) ∈ unstarted call state nowMs ↔
      state.pending[index]? = some entry ∧ entry.started = false := by
  simp [unstarted, orderPendingReviewerDispatchEntries, List.mem_filter,
    (List.perm_insertionSort _ _).mem_iff, List.mem_zipIdx_iff_getElem?]

def Admissible (call : QueueCall) (state : QueueState) (nowMs : Rat) (entry : Entry) : Prop :=
  entry.started = false ∧ refusal call state nowMs entry = none

theorem selected {nowMs : Rat} {entry : Entry} {index : Nat}
    (found : nextStartableEntry call state nowMs = some (entry, index)) :
    poolIsFull call state = false ∧ state.pending[index]? = some entry ∧
      Admissible call state nowMs entry ∧
      (entry.candidate.sameHeadTimeoutRetry = true → ∀ other ∈ state.pending,
        Admissible call state nowMs other → other.candidate.sameHeadTimeoutRetry = true) := by
  unfold nextStartableEntry at found
  split at found
  · cases found
  rename_i room
  have listed := mem_unstarted.1 (List.mem_of_find?_eq_some found)
  have accepted := List.find?_some found
  refine ⟨by simpa using room, listed.1, ⟨listed.2, by simpa using accepted⟩, ?_⟩
  intro retry other member admissible
  obtain ⟨place, at_⟩ := List.mem_iff_getElem?.mp member
  have ordered : (unstarted call state nowMs).Pairwise fun a b =>
      a.1.candidate.sameHeadTimeoutRetry = true → b.1.candidate.sameHeadTimeoutRetry = true :=
    (retries_last nowMs).sublist List.filter_sublist
  rcases find_first ordered found (mem_unstarted.2 ⟨at_, admissible.1⟩)
    (by simp [admissible.2]) with same | later
  · rw [← (Prod.mk.inj same).1] at retry
    exact retry
  · exact later retry

theorem nextStartableEntry_isSome {nowMs : Rat} :
    (nextStartableEntry call state nowMs).isSome = true ↔
      poolIsFull call state = false ∧ ∃ entry ∈ state.pending,
        Admissible call state nowMs entry := by
  unfold nextStartableEntry
  split
  · simp_all
  · rename_i room
    rw [List.find?_isSome]
    constructor
    · rintro ⟨⟨entry, index⟩, listed, accepted⟩
      obtain ⟨at_, fresh⟩ := mem_unstarted.1 listed
      exact ⟨by simpa using room, entry, List.mem_of_getElem? at_, fresh,
        by simpa using accepted⟩
    · rintro ⟨-, entry, member, fresh, accepted⟩
      obtain ⟨index, at_⟩ := List.mem_iff_getElem?.mp member
      exact ⟨(entry, index), mem_unstarted.2 ⟨at_, fresh⟩, by simp [accepted]⟩

def Entry.bare (entry : Entry) : Entry := { entry with deferredReason := none }

omit [JsText] in
theorem bare_fields {later entry : Entry} (same : later.bare = entry.bare) :
    later.candidate = entry.candidate ∧ later.started = entry.started ∧
      later.waitPrepared = entry.waitPrepared ∧
        later.saturationPrepared = entry.saturationPrepared := by
  cases later
  cases entry
  simpa [Entry.bare] using same

omit [JsText] in
theorem recordDeferredReason_bare (reason : String) (entry : Entry) :
    (recordDeferredReason reason entry).bare = entry.bare := by
  unfold recordDeferredReason
  split <;> rfl

/-- What a step that neither prepares nor starts anything leaves as it is. -/
structure Kept (state next : QueueState) : Prop where
  entries : next.pending.map Entry.bare = state.pending.map Entry.bare
  active : next.active = state.active
  gemini : next.activeGemini = state.activeGemini
  geminiLimit : next.geminiConcurrencyLimit = state.geminiConcurrencyLimit
  lane : next.lane = state.lane
  runs : next.runs = state.runs
  errors : next.errors = state.errors

omit [JsText] in
theorem Kept.trans {last : QueueState} (first : Kept state next) (second : Kept next last) :
    Kept state last where
  entries := second.entries.trans first.entries
  active := second.active.trans first.active
  gemini := second.gemini.trans first.gemini
  geminiLimit := second.geminiLimit.trans first.geminiLimit
  lane := second.lane.trans first.lane
  runs := second.runs.trans first.runs
  errors := second.errors.trans first.errors

omit [JsText] in
theorem Kept.entry {index : Nat} {entry : Entry} (kept : Kept state next)
    (at_ : state.pending[index]? = some entry) :
    ∃ later, next.pending[index]? = some later ∧ later.bare = entry.bare := by
  have same := congrArg (fun entries => entries[index]?) kept.entries
  simp only [List.getElem?_map, at_, Option.map_some] at same
  exact Option.map_eq_some_iff.mp same

omit [JsText] in
theorem Kept.entry_back {index : Nat} {entry : Entry} (kept : Kept state next)
    (at_ : next.pending[index]? = some entry) :
    ∃ earlier, state.pending[index]? = some earlier ∧ earlier.bare = entry.bare := by
  have same := congrArg (fun entries => entries[index]?) kept.entries
  simp only [List.getElem?_map, at_, Option.map_some] at same
  exact Option.map_eq_some_iff.mp same.symm

theorem kept_passedBy (nowMs : Rat) : Kept state (passedBy call state nowMs) where
  entries := by
    apply List.ext_getElem?
    intro index
    simp only [passedBy, List.getElem?_map, List.getElem?_mapIdx, Option.map_map]
    congr 1
    funext entry
    simp only [Function.comp]
    split
    · exact recordDeferredReason_bare _ entry
    · rfl
  active := rfl
  gemini := rfl
  geminiLimit := rfl
  lane := rfl
  runs := rfl
  errors := rfl

omit [JsText] in
theorem kept_endWave (nowMs : Rat) : Kept state (endWave state call nowMs) := by
  unfold endWave
  split
  · refine ⟨?_, rfl, rfl, rfl, rfl, rfl, rfl⟩
    rw [List.map_map]
    congr 1
    funext entry
    exact recordDeferredReason_bare _ entry
  · exact ⟨rfl, rfl, rfl, rfl, rfl, rfl, rfl⟩

def Open (call : QueueCall) (state : QueueState) : Prop :=
  state.errors < call.thrownFailureLimit ∧ state.initialWaveClosed = false

/-- The places a step leads to that neither prepares nor starts anything. -/
inductive Moves (call : QueueCall) (state next : QueueState) (nowMs : Rat) : Prop where
  | enters (from_ : state.place = .outer) (goes : next.place = .inner)
      (opened : state.active = [] → Open call state)
      (closed : next.initialWaveClosed = state.initialWaveClosed)
  | leaves (from_ : state.place = .outer) (goes : next.place = .finish)
  | exhausts (from_ : state.place = .inner) (goes : next.place = .wave)
      (nothing : Open call state → nextStartableEntry call state nowMs = none)
  | resumes (from_ : state.place = .yielded) (goes : next.place = .inner)
  | waits (from_ : state.place = .wave) (goes : next.place = .waveWait)
  | ends (from_ : state.place = .wave ∨ state.place = .waveWait)
      (goes : next.place = .tail ∨ next.place = .finish)
  | races (from_ : state.place = .tail)
      (goes : next.place = .race (state.active.map ActiveRun.index)) (busy : state.active ≠ [])
  | repeats (from_ : state.place = .tail) (goes : next.place = .outer)
      (more : (nextStartableEntry call state nowMs).isSome = true)
  | stops (from_ : state.place = .tail) (goes : next.place = .finish)
  | wakes (awaited : List Nat) (from_ : state.place = .race awaited) (goes : next.place = .outer)
  | throws (from_ : state.place = .finish ∨ ∃ index, state.place = .waitHook index ∨
      state.place = .saturationHook index ∨ state.place = .admissionHook index)
      (goes : next.place = .thrown)
  | returns (from_ : state.place = .finish)
      (goes : next.place = .returned (deferredOf call state nowMs))

/-- All that a step of the call can do. -/
inductive Advanced (call : QueueCall) (state : QueueState) (nowMs : Rat) : QueueState → Prop where
  | moves {next : QueueState} (kept : Kept state next) (moves : Moves call state next nowMs) :
      Advanced call state nowMs next
  | admits (entry : Entry) (index : Nat) (from_ : state.place = .inner)
      (found : nextStartableEntry call state nowMs = some (entry, index)) :
      Advanced call state nowMs (admitEntry call (passedBy call state nowMs) entry index)
  | prepares (index : Nat) (candidate : Candidate)
      (from_ : state.place = .waitHook index ∨ state.place = .saturationHook index) :
      Advanced call state nowMs { state.modifyEntry index fun entry => { entry with candidate } with
        place := .inner }
  | refuses (index : Nat) (candidate : Candidate) (from_ : state.place = .admissionHook index)
      (exceeds : overGemini call state candidate = true) :
      Advanced call state nowMs { state.modifyEntry index fun entry => { entry with candidate } with
        place := .inner }
  | starts (index : Nat) (candidate : Candidate) (from_ : state.place = .admissionHook index)
      (fits : overGemini call state candidate = false) :
      Advanced call state nowMs (start call
        (state.modifyEntry index fun entry => { entry with candidate }) index candidate)

omit [JsText] in
theorem endWave_place (nowMs : Rat) :
    (endWave state call nowMs).place = .tail ∨ (endWave state call nowMs).place = .finish := by
  unfold endWave
  split
  · exact .inr rfl
  · exact .inl rfl

theorem advance_cases {input : StepInput} (taken : advance call state input = some next) :
    Advanced call state input.nowMs next := by
  have same (place : Place) : Kept state { state with place } :=
    ⟨rfl, rfl, rfl, rfl, rfl, rfl, rfl⟩
  cases place : state.place with
  | outer =>
    simp only [advance, place] at taken
    split at taken
    · rename_i launches
      cases taken
      refine .moves ⟨rfl, rfl, rfl, rfl, rfl, rfl, rfl⟩ (.enters place rfl ?_ rfl)
      intro idle
      simp only [idle, List.isEmpty_nil, Bool.not_true, Bool.or_false, Bool.and_eq_true,
        decide_eq_true_eq, Bool.not_eq_true'] at launches
      exact launches.1
    · cases taken
      exact .moves (same _) (.leaves place rfl)
  | inner =>
    simp only [advance, place] at taken
    split at taken
    · rename_i launches
      cases found : nextStartableEntry call state input.nowMs with
      | none =>
        simp only [found, Option.some.injEq] at taken
        subst taken
        exact .moves ((kept_passedBy input.nowMs).trans ⟨rfl, rfl, rfl, rfl, rfl, rfl, rfl⟩)
          (.exhausts place rfl fun _ => found)
      | some entry =>
        simp only [found, Option.some.injEq] at taken
        subst taken
        exact .admits entry.1 entry.2 place found
    · rename_i shut
      cases taken
      refine .moves (same _) (.exhausts place rfl fun launches => absurd ?_ shut)
      simpa [Open] using launches
  | waitHook index =>
    simp only [advance, place] at taken
    cases prepared : input.prepared with
    | none =>
      simp only [prepared, Option.some.injEq] at taken
      subst taken
      exact .moves (same _) (.throws (.inr ⟨index, .inl place⟩) rfl)
    | some candidate =>
      simp only [prepared, Option.some.injEq] at taken
      subst taken
      exact .prepares index candidate (.inl place)
  | saturationHook index =>
    simp only [advance, place] at taken
    cases prepared : input.prepared with
    | none =>
      simp only [prepared, Option.some.injEq] at taken
      subst taken
      exact .moves (same _) (.throws (.inr ⟨index, .inr (.inl place)⟩) rfl)
    | some candidate =>
      simp only [prepared, Option.some.injEq] at taken
      subst taken
      exact .prepares index candidate (.inr place)
  | admissionHook index =>
    simp only [advance, place] at taken
    cases prepared : input.prepared with
    | none =>
      simp only [prepared, Option.some.injEq] at taken
      subst taken
      exact .moves (same _) (.throws (.inr ⟨index, .inr (.inr place)⟩) rfl)
    | some candidate =>
      simp only [prepared] at taken
      split at taken
      · rename_i exceeds
        cases taken
        exact .refuses index candidate place exceeds
      · rename_i fits
        cases taken
        exact .starts index candidate place (by simpa using fits)
  | yielded =>
    simp only [advance, place, Option.some.injEq] at taken
    subst taken
    exact .moves (same _) (.resumes place rfl)
  | wave =>
    simp only [advance, place] at taken
    split at taken
    · split at taken
      · cases taken
        exact .moves ⟨rfl, rfl, rfl, rfl, rfl, rfl, rfl⟩ (.waits place rfl)
      · cases taken
        refine .moves (Kept.trans ?_ (kept_endWave input.nowMs))
          (.ends (.inl place) (endWave_place _))
        exact ⟨rfl, rfl, rfl, rfl, rfl, rfl, rfl⟩
    · cases taken
      exact .moves (same _) (.ends (.inl place) (.inl rfl))
  | waveWait =>
    simp only [advance, place] at taken
    split at taken
    · cases taken
      exact .moves (kept_endWave input.nowMs) (.ends (.inr place) (endWave_place _))
    · cases taken
  | tail =>
    simp only [advance, place] at taken
    split at taken
    · rename_i busy
      cases taken
      exact .moves (same _) (.races place rfl (by simpa using busy))
    · split at taken
      · split at taken
        · rename_i more
          cases taken
          exact .moves ((kept_passedBy input.nowMs).trans ⟨rfl, rfl, rfl, rfl, rfl, rfl, rfl⟩)
            (.repeats place rfl more)
        · cases taken
          exact .moves ((kept_passedBy input.nowMs).trans ⟨rfl, rfl, rfl, rfl, rfl, rfl, rfl⟩)
            (.stops place rfl)
      · cases taken
        exact .moves (same _) (.stops place rfl)
  | race awaited =>
    simp only [advance, place] at taken
    split at taken
    · cases taken
      exact .moves (same _) (.wakes awaited place rfl)
    · cases taken
  | finish =>
    simp only [advance, place] at taken
    split at taken
    · cases taken
      exact .moves (same _) (.throws (.inl place) rfl)
    · cases taken
      exact .moves (same _) (.returns place rfl)
  | thrown => simp [advance, place] at taken
  | returned deferred => simp [advance, place] at taken

section

variable {active : List ActiveRun} {run : ActiveRun}

omit [JsText] in
theorem sum_change (change : ActiveRun → ActiveRun) (amount : ActiveRun → Nat)
    (nodup : (active.map ActiveRun.index).Nodup) (member : run ∈ active) :
    ((active.map fun other => if other.index = run.index then change other else other).map
      amount).sum + amount run = (active.map amount).sum + amount (change run) := by
  induction active with
  | nil => cases member
  | cons head rest ih =>
    obtain ⟨fresh, others⟩ := List.nodup_cons.mp nodup
    rcases List.mem_cons.mp member with rfl | later
    · have rest_same : (rest.map fun other =>
          if other.index = run.index then change other else other) = rest := by
        conv_rhs => rw [← List.map_id rest]
        apply List.map_congr_left
        intro other listed
        have differs : other.index ≠ run.index := fun same =>
          fresh (same ▸ List.mem_map_of_mem listed)
        simp [differs]
      simp only [List.map_cons, List.sum_cons, if_true, rest_same]
      omega
    · have differs : head.index ≠ run.index := fun same =>
        fresh (same ▸ List.mem_map_of_mem later)
      have rest_sum := ih others later
      simp only [List.map_cons, List.sum_cons, if_neg differs]
      omega

omit [JsText] in
theorem sum_remove (amount : ActiveRun → Nat) (nodup : (active.map ActiveRun.index).Nodup)
    (member : run ∈ active) :
    ((active.filter fun other => other.index ≠ run.index).map amount).sum + amount run =
      (active.map amount).sum := by
  induction active with
  | nil => cases member
  | cons head rest ih =>
    obtain ⟨fresh, others⟩ := List.nodup_cons.mp nodup
    rcases List.mem_cons.mp member with rfl | later
    · have rest_same : (rest.filter fun other => other.index ≠ run.index) = rest := by
        apply List.filter_eq_self.mpr
        intro other listed
        have differs : other.index ≠ run.index := fun same =>
          fresh (same ▸ List.mem_map_of_mem listed)
        simp [differs]
      rw [List.filter_cons_of_neg (by simp), rest_same]
      simp only [List.map_cons, List.sum_cons]
      omega
    · have differs : head.index ≠ run.index := fun same =>
        fresh (same ▸ List.mem_map_of_mem later)
      have rest_sum := ih others later
      rw [List.filter_cons_of_pos (by simpa using differs)]
      simp only [List.map_cons, List.sum_cons]
      omega

end

section

def ActiveRun.seatsInUse (run : ActiveRun) : Nat := if run.phase = .running then run.seats else 0

def Unstarted (state : QueueState) (index : Nat) : Prop :=
  ∃ entry, state.pending[index]? = some entry ∧ entry.started = false

structure Sound (call : QueueCall) (size : Nat) (state : QueueState) : Prop where
  size : state.pending.length = size
  nodup : state.runs.Nodup
  started : ∀ index, index ∈ state.runs ↔
    ∃ entry, state.pending[index]? = some entry ∧ entry.started = true
  activeNodup : (state.active.map ActiveRun.index).Nodup
  activeRan : ∀ run ∈ state.active, run.index ∈ state.runs
  seats : state.activeGemini =
    call.initiallyActiveGemini + (state.active.map ActiveRun.seatsInUse).sum
  /-- During the last hook the pool keeps its room, and the candidate its seats. -/
  ready : ∀ index, state.place = .admissionHook index → poolIsFull call state = false ∧
    ∃ entry, state.pending[index]? = some entry ∧ entry.started = false ∧
      overGemini call state entry.candidate = false
  returned : ∀ deferred, state.place = .returned deferred →
    (deferred.map Prod.fst).Nodup ∧
      ∀ index, index ∈ deferred.map Prod.fst ↔ Unstarted state index

variable {size : Nat}

theorem Sound.kept (sound : Sound call size state) (kept : Kept state next)
    (unready : ∀ index, next.place ≠ .admissionHook index)
    (returned : ∀ deferred, next.place = .returned deferred →
      (deferred.map Prod.fst).Nodup ∧
        ∀ index, index ∈ deferred.map Prod.fst ↔ Unstarted next index) :
    Sound call size next where
  size := by
    have same := congrArg List.length kept.entries
    simpa [sound.size] using same
  nodup := kept.runs ▸ sound.nodup
  started index := by
    rw [kept.runs, sound.started index]
    constructor
    · rintro ⟨entry, at_, started⟩
      obtain ⟨later, there, same⟩ := kept.entry at_
      exact ⟨later, there, (congrArg Entry.started same).trans started⟩
    · rintro ⟨entry, at_, started⟩
      obtain ⟨earlier, there, same⟩ := kept.entry_back at_
      exact ⟨earlier, there, (congrArg Entry.started same).trans started⟩
  activeNodup := kept.active ▸ sound.activeNodup
  activeRan := by
    rw [kept.active, kept.runs]
    exact sound.activeRan
  seats := by
    rw [kept.gemini, kept.active]
    exact sound.seats
  ready index place := absurd place (unready index)
  returned := returned

theorem deferredOf_returned (call : QueueCall) (state : QueueState) (nowMs : Rat) :
    ((deferredOf call state nowMs).map Prod.fst).Nodup ∧
      ∀ index, index ∈ (deferredOf call state nowMs).map Prod.fst ↔
        Unstarted state index := by
  have places : (deferredOf call state nowMs).map Prod.fst =
      (unstarted call state nowMs).map Prod.snd := by
    simp [deferredOf, Function.comp_def]
  rw [places]
  constructor
  · have all : ((orderPendingReviewerDispatchEntries call state nowMs).map Prod.snd).Nodup := by
      have perm := (List.perm_insertionSort (fun a b : Entry × Nat =>
        compareReviewerDispatchEntries call state nowMs a.1.candidate b.1.candidate ≤ 0)
        state.pending.zipIdx).map Prod.snd
      rw [orderPendingReviewerDispatchEntries, perm.nodup_iff]
      simp [List.zipIdx_map_snd, List.nodup_range']
    exact all.sublist (List.filter_sublist.map Prod.snd)
  · intro index
    simp [mem_unstarted, Unstarted]

omit [JsText] in
theorem getElem?_modify_some {index other : Nat} {change : Entry → Entry} {entry : Entry} :
    (state.modifyEntry index change).pending[other]? = some entry ↔
      ∃ earlier, state.pending[other]? = some earlier ∧
        entry = if index = other then change earlier else earlier := by
  simp only [QueueState.modifyEntry, List.getElem?_modify, Option.map_eq_map,
    Option.map_eq_some_iff]
  constructor
  · rintro ⟨earlier, at_, rfl⟩
    exact ⟨earlier, at_, by split <;> simp_all⟩
  · rintro ⟨earlier, at_, rfl⟩
    exact ⟨earlier, at_, by split <;> simp_all⟩

theorem Sound.modify (sound : Sound call size state) (index : Nat) (change : Entry → Entry)
    (keeps : ∀ entry, (change entry).started = entry.started) {place : Place}
    (unready : ∀ index, place ≠ .admissionHook index)
    (unreturned : ∀ deferred, place ≠ .returned deferred) :
    Sound call size { state.modifyEntry index change with place } where
  size := by simp [QueueState.modifyEntry, sound.size]
  nodup := sound.nodup
  started other := by
    refine (sound.started other).trans ?_
    constructor
    · rintro ⟨entry, at_, started⟩
      refine ⟨if index = other then change entry else entry,
        getElem?_modify_some.2 ⟨entry, at_, rfl⟩, ?_⟩
      split
      · rw [keeps, started]
      · exact started
    · rintro ⟨entry, at_, started⟩
      obtain ⟨earlier, there, rfl⟩ := getElem?_modify_some.1 at_
      refine ⟨earlier, there, ?_⟩
      split at started
      · rw [← keeps, started]
      · exact started
  activeNodup := sound.activeNodup
  activeRan := sound.activeRan
  seats := sound.seats
  ready other at_ := absurd at_ (unready other)
  returned deferred at_ := absurd at_ (unreturned deferred)

theorem Sound.start (sound : Sound call size state) {index : Nat} (candidate : Candidate)
    (waits : Unstarted state index) : Sound call size (start call state index candidate) := by
  obtain ⟨entry, at_, fresh⟩ := waits
  have unrun : index ∉ state.runs := by
    intro ran
    obtain ⟨other, there, started⟩ := (sound.started index).mp ran
    have same : other = entry := Option.some.inj (there.symm.trans at_)
    rw [same, fresh] at started
    cases started
  exact {
    size := by simp [Dispatch.start, QueueState.modifyEntry, sound.size]
    nodup := by
      have apart : ∀ other ∈ state.runs, other ≠ index :=
        fun other ran same => unrun (same ▸ ran)
      simpa [Dispatch.start, List.nodup_append, sound.nodup] using apart
    started := by
      intro other
      have now : (Dispatch.start call state index candidate).runs = state.runs ++ [index] := rfl
      rw [now, List.mem_append, sound.started other, List.mem_singleton]
      constructor
      · rintro (⟨earlier, there, started⟩ | rfl)
        · refine ⟨_, getElem?_modify_some.2 ⟨earlier, there, rfl⟩, ?_⟩
          split
          · rfl
          · exact started
        · exact ⟨_, getElem?_modify_some.2 ⟨entry, at_, rfl⟩, by simp⟩
      · rintro ⟨later, there, started⟩
        obtain ⟨earlier, here, rfl⟩ := getElem?_modify_some.1 there
        by_cases same : index = other
        · exact .inr same.symm
        · rw [if_neg same] at started
          exact .inl ⟨earlier, here, started⟩
    activeNodup := by
      have apart : ∀ run ∈ state.active, run.index ≠ index := fun run active same =>
        unrun (same ▸ sound.activeRan run active)
      simpa [Dispatch.start, List.nodup_append, sound.activeNodup] using apart
    activeRan := by
      intro run active
      rcases List.mem_append.mp active with before | new
      · exact List.mem_append_left _ (sound.activeRan run before)
      · have same : run = { index, seats := reviewerDispatchCandidateGeminiSeats candidate } := by
          simpa using new
        rw [same]
        exact List.mem_append_right _ (by simp)
    seats := by
      have before := sound.seats
      simp only [Dispatch.start, List.map_append, List.sum_append, List.map_cons, List.map_nil,
        List.sum_cons, List.sum_nil, ActiveRun.seatsInUse, if_true]
      omega
    ready := by
      intro other place
      simp only [Dispatch.start] at place
      split at place <;> cases place
    returned := by
      intro deferred place
      simp only [Dispatch.start] at place
      split at place <;> cases place }

theorem fits_of_le {candidate : Candidate} (fewer : next.activeGemini ≤ state.activeGemini)
    (same : next.geminiConcurrencyLimit = state.geminiConcurrencyLimit)
    (fits : overGemini call state candidate = false) : overGemini call next candidate = false := by
  have limit : geminiLimitForCandidate call next candidate =
      geminiLimitForCandidate call state candidate := by
    simp [geminiLimitForCandidate, same]
  simp only [overGemini, limit, Bool.and_eq_false_iff, decide_eq_false_iff_not] at fits ⊢
  exact fits.imp_right fun fits => by omega

theorem Sound.released (sound : Sound call size state) (pending : next.pending = state.pending)
    (runs : next.runs = state.runs) (place : next.place = state.place)
    (limit : next.geminiConcurrencyLimit = state.geminiConcurrencyLimit)
    (active : (next.active.map ActiveRun.index).Sublist (state.active.map ActiveRun.index))
    (fewer : next.activeGemini ≤ state.activeGemini) (seats : next.activeGemini =
      call.initiallyActiveGemini + (next.active.map ActiveRun.seatsInUse).sum) :
    Sound call size next where
  size := pending ▸ sound.size
  nodup := runs ▸ sound.nodup
  started := by
    rw [runs, pending]
    exact sound.started
  activeNodup := sound.activeNodup.sublist active
  activeRan run member := by
    have listed := active.subset (List.mem_map_of_mem member)
    obtain ⟨other, before, same⟩ := List.mem_map.mp listed
    rw [runs, ← same]
    exact sound.activeRan other before
  seats := seats
  ready index at_ := by
    obtain ⟨room, entry, there, fresh, fits⟩ := sound.ready index (place ▸ at_)
    refine ⟨?_, entry, pending ▸ there, fresh, fits_of_le fewer limit fits⟩
    have shorter := active.length_le
    simp only [List.length_map] at shorter
    simp only [poolIsFull, decide_eq_false_iff_not] at room ⊢
    omega
  returned deferred at_ := by
    simp only [Unstarted, pending]
    exact sound.returned deferred (place ▸ at_)

end

section

variable {size : Nat}

def ActiveRun.weight (run : ActiveRun) : Nat :=
  match run.phase with
  | .running => 3
  | .settled _ => 2
  | .observed => 1

/-- What the settlement of a run, in its three steps, does. -/
structure Released (call : QueueCall) (state next : QueueState) : Prop where
  pending : next.pending = state.pending
  runs : next.runs = state.runs
  place : next.place = state.place
  limit : next.geminiConcurrencyLimit = state.geminiConcurrencyLimit
  active : (next.active.map ActiveRun.index).Sublist (state.active.map ActiveRun.index)
  fewer : next.activeGemini ≤ state.activeGemini
  seats : next.activeGemini =
    call.initiallyActiveGemini + (next.active.map ActiveRun.seatsInUse).sum
  lighter : (next.active.map ActiveRun.weight).sum < (state.active.map ActiveRun.weight).sum

omit [JsText] in
theorem change_index (active : List ActiveRun) (index : Nat) (phase : Phase) :
    (active.map fun other => if other.index = index then { other with phase } else other).map
      ActiveRun.index = active.map ActiveRun.index := by
  rw [List.map_map]
  congr 1
  funext other
  simp only [Function.comp]
  split <;> rfl

theorem settle_released (sound : Sound call size state) {index : Nat} {ended : RunEnd}
    (taken : settle state index ended = some next) : Released call state next := by
  obtain ⟨run, found, rfl⟩ := Option.map_eq_some_iff.mp taken
  have member := List.mem_of_find?_eq_some found
  have shape := List.find?_some found
  simp only [Bool.and_eq_true, decide_eq_true_eq] at shape
  obtain ⟨rfl, running⟩ := shape
  have used := sum_change (fun other =>
    { other with phase := Phase.settled (ended = .skipped) }) ActiveRun.seatsInUse
      sound.activeNodup member
  have weighed := sum_change (fun other =>
    { other with phase := Phase.settled (ended = .skipped) }) ActiveRun.weight
      sound.activeNodup member
  have before := sound.seats
  have own : run.seatsInUse = run.seats := by simp [ActiveRun.seatsInUse, running]
  have heavy : run.weight = 3 := by simp [ActiveRun.weight, running]
  have released : ActiveRun.seatsInUse { run with phase := .settled (ended = .skipped) } = 0 := by
    simp [ActiveRun.seatsInUse]
  have light : ActiveRun.weight { run with phase := .settled (ended = .skipped) } = 2 := rfl
  refine ⟨rfl, rfl, rfl, rfl, (change_index _ _ _).symm ▸ List.Sublist.refl _,
    Nat.sub_le _ _, ?_, ?_⟩
  · dsimp only at used ⊢
    omega
  · dsimp only at weighed ⊢
    omega

theorem observe_released (sound : Sound call size state) {index : Nat}
    (taken : observe state index = some next) : Released call state next := by
  obtain ⟨entry, -, taken⟩ := Option.bind_eq_some_iff.mp taken
  obtain ⟨run, found, taken⟩ := Option.bind_eq_some_iff.mp taken
  have member := List.mem_of_find?_eq_some found
  have shape := List.find?_some found
  simp only [decide_eq_true_eq] at shape
  subst shape
  cases phase : run.phase with
  | running => simp [phase] at taken
  | observed => simp [phase] at taken
  | settled skipped =>
    simp only [phase, Option.some.injEq] at taken
    subst taken
    have used := sum_change (fun other => { other with phase := Phase.observed })
      ActiveRun.seatsInUse sound.activeNodup member
    have weighed := sum_change (fun other => { other with phase := Phase.observed })
      ActiveRun.weight sound.activeNodup member
    have before := sound.seats
    have own : run.seatsInUse = 0 := by simp [ActiveRun.seatsInUse, phase]
    have heavy : run.weight = 2 := by simp [ActiveRun.weight, phase]
    have released : ActiveRun.seatsInUse { run with phase := .observed } = 0 := by
      simp [ActiveRun.seatsInUse]
    have light : ActiveRun.weight { run with phase := .observed } = 1 := rfl
    refine ⟨rfl, rfl, rfl, rfl, (change_index _ _ _).symm ▸ List.Sublist.refl _, le_rfl,
      ?_, ?_⟩
    · dsimp only at used ⊢
      omega
    · dsimp only at weighed ⊢
      omega

theorem remove_released (sound : Sound call size state) {index : Nat}
    (taken : remove state index = some next) : Released call state next := by
  unfold remove at taken
  split at taken
  · rename_i seen
    cases taken
    simp only [List.any_eq_true, Bool.and_eq_true, decide_eq_true_eq] at seen
    obtain ⟨run, member, rfl, phase⟩ := seen
    have used := sum_remove ActiveRun.seatsInUse sound.activeNodup member
    have weighed := sum_remove ActiveRun.weight sound.activeNodup member
    have before := sound.seats
    have own : run.seatsInUse = 0 := by simp [ActiveRun.seatsInUse, phase]
    have heavy : run.weight = 1 := by simp [ActiveRun.weight, phase]
    refine ⟨rfl, rfl, rfl, rfl, List.filter_sublist.map _, le_rfl, ?_, ?_⟩
    · dsimp only at used ⊢
      omega
    · dsimp only at weighed ⊢
      omega
  · cases taken

theorem Released.sound (released : Released call state next) (sound : Sound call size state) :
    Sound call size next :=
  sound.released released.pending released.runs released.place released.limit released.active
    released.fewer released.seats

end

section

variable {size : Nat}

/-- A candidate that a step starts: it was not run before, the pool has room for it, and its seats
are free. -/
structure StartedSafely (call : QueueCall) (state next : QueueState) (index : Nat) : Prop where
  ran : next.runs = state.runs ++ [index]
  unrun : index ∉ state.runs
  room : call.initiallyActive + state.active.length < call.limit
  seats : ∃ entry, next.pending[index]? = some entry ∧
    (isGeminiCandidate entry.candidate = true →
      next.activeGemini ≤ geminiLimitForCandidate call next entry.candidate) ∧
    next.activeGemini = state.activeGemini + reviewerDispatchCandidateGeminiSeats entry.candidate

omit [JsText] in
theorem room_of_not_full (room : poolIsFull call state = false) :
    call.initiallyActive + state.active.length < call.limit := by
  simpa [poolIsFull] using room

variable {entry : Entry}

theorem start_safely (sound : Sound call size state) {index : Nat}
    (at_ : state.pending[index]? = some entry) (fresh : entry.started = false)
    (room : poolIsFull call state = false) (fits : overGemini call state entry.candidate = false) :
    StartedSafely call state (start call state index entry.candidate) index where
  ran := rfl
  unrun ran := by
    obtain ⟨other, there, started⟩ := (sound.started index).mp ran
    rw [Option.some.inj (there.symm.trans at_), fresh] at started
    cases started
  room := room_of_not_full room
  seats := by
    refine ⟨_, getElem?_modify_some.2 ⟨entry, at_, rfl⟩, ?_, ?_⟩
    · intro gemini
      simp only [if_true] at gemini ⊢
      have within := fits
      simp only [overGemini, gemini, Bool.true_and, decide_eq_false_iff_not, not_lt] at within
      exact within
    · simp [Dispatch.start]

omit [JsText] in
theorem Kept.unstarted (kept : Kept state next) (index : Nat) :
    Unstarted next index ↔ Unstarted state index := by
  constructor
  · rintro ⟨entry, at_, fresh⟩
    obtain ⟨earlier, there, same⟩ := kept.entry_back at_
    exact ⟨earlier, there, (congrArg Entry.started same).trans fresh⟩
  · rintro ⟨entry, at_, fresh⟩
    obtain ⟨later, there, same⟩ := kept.entry at_
    exact ⟨later, there, (congrArg Entry.started same).trans fresh⟩

variable {nowMs : Rat}

theorem fits_of_accepted (accepted : refusal call state nowMs entry = none)
    (waited : ¬ (entry.candidate.prepareForReviewWait && !entry.waitPrepared) = true)
    (prepared : ¬ (overGemini call state entry.candidate && !entry.saturationPrepared) = true) :
    overGemini call state entry.candidate = false := by
  by_contra exceeds
  have exceeds : overGemini call state entry.candidate = true := by simpa using exceeds
  have done : entry.saturationPrepared = true := by simpa [exceeds] using prepared
  -- Prepared already and over its limit, it would be passed by.
  unfold refusal at accepted
  split_ifs at accepted with capped
  simp_all

theorem admitEntry_sound (sound : Sound call size state) {index : Nat}
    (found : nextStartableEntry call state nowMs = some (entry, index)) :
    Sound call size (admitEntry call (passedBy call state nowMs) entry index) ∧
      ((admitEntry call (passedBy call state nowMs) entry index).runs = state.runs ∨
        ∃ started, StartedSafely call state
          (admitEntry call (passedBy call state nowMs) entry index) started) := by
  obtain ⟨room, at_, ⟨fresh, accepted⟩, -⟩ := selected found
  have kept : Kept state (passedBy call state nowMs) := kept_passedBy nowMs
  obtain ⟨later, there, same⟩ := kept.entry at_
  obtain ⟨candidate, started, -, -⟩ := bare_fields same
  have waits : later.started = false := started.trans fresh
  have idle (place : Place) (unready : ∀ index, place ≠ .admissionHook index)
      (unreturned : ∀ deferred, place ≠ .returned deferred) :
      Sound call size { passedBy call state nowMs with place } :=
    sound.kept (kept.trans ⟨rfl, rfl, rfl, rfl, rfl, rfl, rfl⟩) unready
      fun deferred at_ => absurd at_ (unreturned deferred)
  have inner := idle .inner (by simp) (by simp)
  unfold admitEntry
  split
  · exact ⟨inner.modify index (fun entry => { entry with waitPrepared := true }) (fun _ => rfl)
      (by simp) (by simp), .inl rfl⟩
  rename_i waited
  split
  · exact ⟨inner.modify index (fun entry => { entry with saturationPrepared := true })
      (fun _ => rfl) (by simp) (by simp), .inl rfl⟩
  rename_i prepared
  have fits : overGemini call state entry.candidate = false :=
    fits_of_accepted accepted waited prepared
  split
  · refine ⟨{ inner with ready := ?_, returned := ?_ }, .inl rfl⟩
    · rintro other place
      obtain rfl : index = other := by simpa using place
      exact ⟨room, later, there, waits, candidate ▸ fits⟩
    · intro deferred place
      cases place
  · rw [← candidate]
    refine ⟨inner.start later.candidate ⟨later, there, waits⟩, .inr ⟨index, ?_⟩⟩
    have safely : StartedSafely call _ _ index :=
      start_safely inner there waits room (candidate ▸ fits)
    exact ⟨safely.ran, safely.unrun, safely.room, safely.seats⟩

theorem Moves.unready (moves : Moves call state next nowMs) (index : Nat) :
    next.place ≠ .admissionHook index := by
  intro place
  cases moves <;> simp_all

theorem Moves.returned {deferred : List (Nat × String)}
    (moves : Moves call state next nowMs) (place : next.place = .returned deferred) :
    deferred = deferredOf call state nowMs := by
  cases moves <;> simp_all

theorem advance_sound (sound : Sound call size state) {input : StepInput}
    (taken : advance call state input = some next) :
    Sound call size next ∧
      (next.runs = state.runs ∨ ∃ index, StartedSafely call state next index) := by
  cases advance_cases taken with
  | moves kept moves =>
    refine ⟨sound.kept kept moves.unready ?_, .inl kept.runs⟩
    intro deferred place
    obtain rfl := moves.returned place
    obtain ⟨once, listed⟩ := deferredOf_returned call state input.nowMs
    exact ⟨once, fun index => (listed index).trans (kept.unstarted index).symm⟩
  | admits entry index from_ found => exact admitEntry_sound sound found
  | prepares index candidate from_ =>
    exact ⟨sound.modify index (fun entry => { entry with candidate }) (fun _ => rfl) (by simp)
      (by simp), .inl rfl⟩
  | refuses index candidate from_ exceeds =>
    exact ⟨sound.modify index (fun entry => { entry with candidate }) (fun _ => rfl) (by simp)
      (by simp), .inl rfl⟩
  | starts index candidate from_ fits =>
    obtain ⟨room, entry, at_, fresh, -⟩ := sound.ready index from_
    have inner : Sound call size
        { state.modifyEntry index fun entry => { entry with candidate } with place := .inner } :=
      sound.modify index (fun entry => { entry with candidate }) (fun _ => rfl) (by simp)
        (by simp)
    have there : (state.modifyEntry index fun entry => { entry with candidate }).pending[index]? =
        some { entry with candidate } :=
      getElem?_modify_some.2 ⟨entry, at_, by simp⟩
    refine ⟨inner.start candidate ⟨_, there, fresh⟩, .inr ⟨index, ?_⟩⟩
    have safely : StartedSafely call _ _ index := start_safely inner there fresh room fits
    exact ⟨safely.ran, safely.unrun, safely.room, safely.seats⟩

theorem step_sound (sound : Sound call size state) {event : QueueEvent}
    (taken : step call state event = some next) :
    Sound call size next ∧
      (next.runs = state.runs ∨ ∃ index, StartedSafely call state next index) := by
  cases event with
  | advance input => exact advance_sound sound taken
  | settle index ended =>
    have released := settle_released sound taken
    exact ⟨released.sound sound, .inl released.runs⟩
  | observe index =>
    have released := observe_released sound taken
    exact ⟨released.sound sound, .inl released.runs⟩
  | remove index =>
    have released := remove_released sound taken
    exact ⟨released.sound sound, .inl released.runs⟩

theorem enter_sound (call : QueueCall) (candidates : List Candidate) (nowMs : Rat) :
    Sound call candidates.length (enter call candidates nowMs) := by
  have waiting (order : List Candidate) (length : order.length = candidates.length)
      (place : Place) (limit : Nat) (unready : ∀ index, place ≠ .admissionHook index)
      (returned : ∀ deferred, place = .returned deferred → (deferred.map Prod.fst).Nodup ∧
        ∀ index, index ∈ deferred.map Prod.fst ↔ index < candidates.length) :
      Sound call candidates.length
        { pending := order.map fun candidate => { candidate }
          activeGemini := call.initiallyActiveGemini
          geminiConcurrencyLimit := limit
          lane := call.laneState
          place } := by
    refine ⟨by simp [length], by simp, by simp, by simp, by simp, by simp,
      fun index at_ => absurd at_ (unready index), ?_⟩
    intro deferred at_
    obtain ⟨once, listed⟩ := returned deferred at_
    refine ⟨once, fun index => (listed index).trans ?_⟩
    simp [Unstarted, ← length, ← Option.isSome_iff_exists]
  simp only [enter]
  split
  · refine waiting candidates rfl _ _ (by simp) ?_
    rintro deferred ⟨⟩
    simp [Function.comp_def, List.nodup_range]
  · exact waiting _ (List.length_insertionSort ..) _ _ (by simp) (by simp)

theorem reaches_sound {candidates : List Candidate} (reached : Reaches call candidates state) :
    Sound call candidates.length state := by
  induction reached with
  | enter nowMs => exact enter_sound call candidates nowMs
  | step event before taken ih => exact (step_sound ih taken).1

end

end AdversarialReview.Dispatch
