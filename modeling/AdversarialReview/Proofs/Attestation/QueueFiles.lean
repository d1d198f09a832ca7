import AdversarialReview.Attestation.ReviewedQueue
import Mathlib.Data.List.Nodup

/-! What appends, crashes and replacements leave of the attestations in the two files. -/

namespace AdversarialReview.Attestation

section

-- Every proof below unfolds these, so their equations are made before the first one.
attribute [local simp] replaceFrom QueueFile.entries QueueFile.append QueueFile.tear

end

section

variable {file : QueueFile} {entry : Entry} {entries : List Entry}

def QueueFile.closed (file : QueueFile) : List Entry :=
  file.lines.filterMap id

theorem closed_entries (listed : entry ∈ file.closed) : entry ∈ file.entries :=
  List.mem_append_left _ listed

theorem closed_append (listed : entry ∈ file.closed) : entry ∈ (file.append entries).closed := by
  induction entries generalizing file with
  | nil => exact listed
  | cons first rest ih =>
    apply ih
    simp only [QueueFile.closed, QueueFile.appendLine, List.filterMap_append, List.mem_append]
    exact Or.inl listed

theorem mem_append_entries (listed : entry ∈ (file.append entries).entries) :
    entry ∈ file.entries ∨ entry ∈ entries := by
  induction entries generalizing file with
  | nil => exact Or.inl listed
  | cons first rest ih =>
    rcases ih listed with early | late
    · -- The line that was appended holds its own entry or none.
      simp only [QueueFile.entries, QueueFile.appendLine, List.filterMap_append, List.mem_append,
        Option.bind_none, Option.toList_none, List.not_mem_nil, or_false] at early
      rcases early with before | own
      · exact Or.inl (closed_entries before)
      · split at own
        · simp only [List.filterMap_cons, List.filterMap_nil, id_eq, List.mem_singleton] at own
          exact Or.inr (own ▸ List.mem_cons_self)
        · simp at own
    · exact Or.inr (List.mem_cons_of_mem _ late)

theorem append_of_ended (ended : file.ended = true) :
    file.append entries = { lines := file.lines ++ entries.map some, tail := none } := by
  induction entries generalizing file with
  | nil =>
    simp only [QueueFile.ended, Option.isNone_iff_eq_none] at ended
    simp [QueueFile.append, ← ended]
  | cons first rest ih =>
    change (file.appendLine first).append rest = _
    have own : (file.appendLine first).ended = true := rfl
    rw [ih own]
    simp [QueueFile.appendLine, ended]

theorem closed_append_of_ended (ended : file.ended = true) :
    (file.append entries).closed = file.closed ++ entries := by
  rw [append_of_ended ended]
  simp [QueueFile.closed]

variable {torn : Torn}

theorem closed_tearLine : (file.tearLine entry torn).closed = file.closed := by
  cases torn <;> rfl

theorem closed_tear {whole : Nat} (listed : entry ∈ file.closed) :
    entry ∈ (file.tear entries whole torn).closed := by
  unfold QueueFile.tear
  split
  · rw [closed_tearLine]
    exact closed_append listed
  · exact closed_append listed

theorem mem_tearLine {other : Entry} (listed : entry ∈ (file.tearLine other torn).entries) :
    entry ∈ file.entries ∨ entry = other := by
  cases torn with
  | nothing => exact Or.inl listed
  | part =>
    simp only [QueueFile.entries, QueueFile.tearLine, Option.bind_some, id_eq,
      Option.toList_none, List.append_nil] at listed
    exact Or.inl (closed_entries listed)
  | allButNewline =>
    simp only [QueueFile.entries, QueueFile.tearLine, Option.bind_some, id_eq,
      List.mem_append] at listed
    rcases listed with before | own
    · exact Or.inl (closed_entries before)
    · split at own
      · simp only [Option.toList_some, List.mem_singleton] at own
        exact Or.inr own
      · simp at own

theorem mem_tear {whole : Nat} (listed : entry ∈ (file.tear entries whole torn).entries) :
    entry ∈ file.entries ∨ entry ∈ entries := by
  unfold QueueFile.tear at listed
  split at listed
  · rename_i other found
    rcases mem_tearLine listed with early | own
    · rcases mem_append_entries early with before | appended
      · exact Or.inl before
      · exact Or.inr (List.mem_of_mem_take appended)
    · exact Or.inr (own ▸ List.mem_of_getElem? found)
  · exact mem_append_entries listed

theorem closed_rewritten : (QueueFile.rewritten entries).closed = entries := by
  simp [QueueFile.closed, QueueFile.rewritten]

theorem entries_rewritten : (QueueFile.rewritten entries).entries = entries := by
  simp [QueueFile.entries, QueueFile.rewritten]

end

section

variable {consumed : QueueId → Bool} {replacements terminalArchives : QueueId → List Entry}
  {current : List Entry}

def Keyed (buckets : QueueId → List Entry) : Prop :=
  ∀ key, ∀ entry ∈ buckets key, entry.queueId = key

theorem Keyed.take {buckets : QueueId → List Entry} (keyed : Keyed buckets) {key : QueueId}
    {first : Entry} {bucket : List Entry} (found : buckets key = first :: bucket) :
    Keyed (Function.update buckets key bucket) := by
  intro other entry listed
  by_cases same : other = key
  · subst same
    rw [Function.update_self] at listed
    exact keyed other entry (found ▸ List.mem_cons_of_mem _ listed)
  · rw [Function.update_of_ne same] at listed
    exact keyed other entry listed

theorem mem_take {buckets : QueueId → List Entry} {key other : QueueId} {first entry : Entry}
    {bucket : List Entry} (found : buckets key = first :: bucket)
    (listed : entry ∈ Function.update buckets key bucket other) : entry ∈ buckets other := by
  by_cases same : other = key
  · subst same
    rw [Function.update_self] at listed
    exact found ▸ List.mem_cons_of_mem _ listed
  · rwa [Function.update_of_ne same] at listed

theorem replaceFrom_perm (replaced : Keyed replacements) (archived : Keyed terminalArchives) :
    (queueIds current).Perm
      (queueIds (replaceFrom consumed replacements terminalArchives current).next ++
        (queueIds (replaceFrom consumed replacements terminalArchives current).terminalToArchive ++
          queueIds (replaceFrom consumed replacements terminalArchives current).gone)) := by
  induction current generalizing replacements terminalArchives with
  | nil => exact List.Perm.refl _
  | cons entry rest ih =>
    unfold replaceFrom
    simp only
    split
    · rename_i replacement bucket found
      have own := replaced _ replacement (found ▸ List.mem_cons_self)
      simp only [queueIds, List.map_cons, List.cons_append, own]
      exact (ih (replaced.take found) archived).cons _
    · split
      · split
        · rename_i terminal bucket found
          have own := archived _ terminal (found ▸ List.mem_cons_self)
          simp only [queueIds, List.map_cons, List.cons_append, own]
          exact ((ih replaced (archived.take found)).cons _).trans List.perm_middle.symm
        · simp only [queueIds, List.map_cons]
          rw [← List.append_assoc]
          refine List.Perm.trans ?_ List.perm_middle.symm
          rw [List.append_assoc]
          exact (ih replaced archived).cons _
      · simp only [queueIds, List.map_cons, List.cons_append]
        exact (ih replaced archived).cons _

theorem mem_replaceFrom_next {entry : Entry}
    (listed : entry ∈ (replaceFrom consumed replacements terminalArchives current).next) :
    entry ∈ current ∨ ∃ key, entry ∈ replacements key := by
  induction current generalizing replacements terminalArchives with
  | nil => cases listed
  | cons first rest ih =>
    unfold replaceFrom at listed
    simp only at listed
    split at listed
    · rename_i replacement bucket found
      rcases List.mem_cons.mp listed with own | later
      · exact Or.inr ⟨first.queueId, by rw [found, own]; exact List.mem_cons_self⟩
      · rcases ih later with among | ⟨key, inBucket⟩
        · exact Or.inl (List.mem_cons_of_mem _ among)
        · exact Or.inr ⟨key, mem_take found inBucket⟩
    · split at listed
      · split at listed
        · exact (ih listed).imp_left (List.mem_cons_of_mem _)
        · exact (ih listed).imp_left (List.mem_cons_of_mem _)
      · rcases List.mem_cons.mp listed with own | later
        · exact Or.inl (own ▸ List.mem_cons_self)
        · exact (ih later).imp_left (List.mem_cons_of_mem _)

theorem mem_replaceFrom_archive {entry : Entry} (listed : entry ∈
      (replaceFrom consumed replacements terminalArchives current).terminalToArchive) :
    ∃ key, entry ∈ terminalArchives key := by
  induction current generalizing replacements terminalArchives with
  | nil => cases listed
  | cons first rest ih =>
    unfold replaceFrom at listed
    simp only at listed
    split at listed
    · exact ih listed
    · split at listed
      · split at listed
        · rename_i terminal bucket found
          rcases List.mem_cons.mp listed with own | later
          · exact ⟨first.queueId, by rw [found, own]; exact List.mem_cons_self⟩
          · obtain ⟨key, inBucket⟩ := ih later
            exact ⟨key, mem_take found inBucket⟩
        · exact ih listed
      · exact ih listed

theorem mem_replaceFrom_gone {entry : Entry} (archived : Keyed terminalArchives)
    (listed : entry ∈ (replaceFrom consumed replacements terminalArchives current).gone) :
    consumed entry.queueId = true ∧ (terminalArchives entry.queueId = [] ∨ entry.queueId ∈
      queueIds (replaceFrom consumed replacements terminalArchives current).terminalToArchive) := by
  induction current generalizing replacements terminalArchives with
  | nil => cases listed
  | cons first rest ih =>
    cases replacement : replacements first.queueId with
    | cons first' bucket =>
      simp only [replaceFrom, replacement] at listed ⊢
      exact ih archived listed
    | nil =>
      cases isConsumed : consumed first.queueId with
      | false =>
        simp only [replaceFrom, replacement, isConsumed, Bool.false_eq_true, if_false] at listed ⊢
        exact ih archived listed
      | true =>
        cases found : terminalArchives first.queueId with
        | nil =>
          simp only [replaceFrom, replacement, isConsumed, found, if_true] at listed ⊢
          rcases List.mem_cons.mp listed with own | later
          · rw [own]
            exact ⟨isConsumed, Or.inl found⟩
          · exact ih archived later
        | cons terminal bucket =>
          simp only [replaceFrom, replacement, isConsumed, found, if_true] at listed ⊢
          obtain ⟨taken, spent⟩ := ih (archived.take found) listed
          refine ⟨taken, ?_⟩
          have own := archived _ terminal (found ▸ List.mem_cons_self)
          by_cases same : entry.queueId = first.queueId
          · -- The entry before it with the same id has been archived.
            apply Or.inr
            rw [same, ← own]
            exact List.mem_cons_self
          · rw [Function.update_of_ne same] at spent
            exact spent.imp_right (List.mem_cons_of_mem _)

end

section

def Grounded (world : QueueWorld) (entry : Entry) : Prop :=
  ∃ failure : Failure, (entry.queueId, failure) ∈ world.failures ∧
    entry.failureClass = classifyReviewedAttestationFailure failure ∧
    entry.queuedError = { failure with details := [] }

def Failed (world : QueueWorld) (queueId : QueueId) : Prop :=
  ∃ failure : Failure, (queueId, failure) ∈ world.failures ∧ failure.permanent = true

def Kept (world : QueueWorld) (queueId : QueueId) : Prop :=
  queueId ∈ queueIds world.pending.closed ∨ queueId ∈ world.recorded ∨
    queueId ∈ queueIds world.archive.closed

/-- What a retry made of an entry is what its attempt or its queued failure came to. -/
structure Processed.Stands (world : QueueWorld) (processed : Processed) : Prop where
  remains : ∀ entry, processed.remaining = some entry →
    entry.queueId = processed.original.queueId ∧ Grounded world entry
  ended : ∀ entry, processed.terminal = some entry →
    entry.queueId = processed.original.queueId ∧ Failed world entry.queueId
  recorded : processed.remaining = none → processed.terminal = none →
    processed.original.queueId ∈ world.recorded

structure Later (world later : QueueWorld) : Prop where
  failures : ∀ {failure}, failure ∈ world.failures → failure ∈ later.failures
  recorded : ∀ {queueId}, queueId ∈ world.recorded → queueId ∈ later.recorded
  kept : ∀ {queueId}, Kept world queueId → Kept later queueId

variable {world after : QueueWorld} {entry : Entry} {processed : Processed}

theorem Later.of_eq (failures : after.failures = world.failures)
    (recorded : after.recorded = world.recorded) (pending : after.pending = world.pending)
    (archive : after.archive = world.archive) : Later world after := by
  refine ⟨?_, ?_, ?_⟩
  · rw [failures]
    exact id
  · rw [recorded]
    exact id
  · unfold Kept
    rw [recorded, pending, archive]
    exact id

theorem Grounded.later (grounded : Grounded world entry) (grows : Later world after) :
    Grounded after entry := by
  obtain ⟨failure, had, told⟩ := grounded
  exact ⟨failure, grows.failures had, told⟩

theorem Failed.later {queueId : QueueId} (failed : Failed world queueId)
    (grows : Later world after) : Failed after queueId := by
  obtain ⟨failure, had, permanent⟩ := failed
  exact ⟨failure, grows.failures had, permanent⟩

theorem Processed.Stands.later (stands : processed.Stands world) (grows : Later world after) :
    processed.Stands after where
  remains entry some_ := (stands.remains entry some_).imp_right fun told => told.later grows
  ended entry some_ := (stands.ended entry some_).imp_right fun failed => failed.later grows
  recorded none_ unended := grows.recorded (stands.recorded none_ unended)

theorem isTransientSignError_told (failure : Failure) :
    isTransientSignError { failure with details := [] } = isTransientSignError failure := rfl

theorem failed_of_settled (grounded : Grounded world entry)
    (settled : entry.settledFailure = true) : Failed world entry.queueId := by
  obtain ⟨failure, had, told, queued⟩ := grounded
  refine ⟨failure, had, ?_⟩
  simp only [Entry.settledFailure, isRetryableReviewedAttestationFailure, Bool.not_eq_true',
    Bool.or_eq_false_iff, decide_eq_false_iff_not, queued, isTransientSignError_told] at settled
  obtain ⟨refused, lasting⟩ := settled
  -- Had its class been retried, the class would have been taken as it is.
  have class_ : classifyReviewedAttestationFailure failure ≠ .hcpUnavailable := by
    intro unavailable
    apply refused
    simp [Entry.effectiveQueuedFailureClass, told, unavailable]
  simp [Failure.permanent, isRetryableReviewedAttestationFailure, class_, lasting]

theorem stands_terminalizeQueued (grounded : Grounded world entry)
    (settled : entry.settledFailure = true) : (terminalizeQueued entry).Stands world where
  remains other none_ := by cases none_
  ended other some_ := by
    have failed := failed_of_settled grounded settled
    cases some_
    exact ⟨rfl, failed⟩
  recorded _ none_ := by cases none_

theorem stands_attemptEntry {failure : Option Failure}
    (noted : failure.elim (entry.queueId ∈ world.recorded)
      fun failure => (entry.queueId, failure) ∈ world.failures) :
    (attemptEntry entry failure).Stands world := by
  cases failure with
  | none =>
    exact ⟨fun _ none_ => (by cases none_), fun _ none_ => (by cases none_), fun _ _ => noted⟩
  | some failure =>
    simp only [attemptEntry]
    split
    · refine ⟨?_, fun _ none_ => (by cases none_), fun none_ => (by cases none_)⟩
      intro other some_
      cases some_
      exact ⟨rfl, failure, noted, rfl, rfl⟩
    · rename_i refused
      refine ⟨fun _ none_ => (by cases none_), ?_, fun _ none_ => (by cases none_)⟩
      intro other some_
      cases some_
      exact ⟨rfl, failure, noted, by simpa [Failure.permanent] using refused⟩

theorem grounded_new {queueId : QueueId} {failure : Failure}
    (noted : (queueId, failure) ∈ world.failures) :
    Grounded world (pendingReviewedAttestationEntry queueId failure) :=
  ⟨failure, noted, rfl, rfl⟩

end

section

variable {world : QueueWorld} {processed : List Processed}

theorem mem_bucketOf {pick : Processed → Option Entry} {key : QueueId} {entry : Entry}
    (listed : entry ∈ bucketOf pick processed key) :
    ∃ one ∈ processed, one.original.queueId = key ∧ pick one = some entry := by
  simp only [bucketOf, List.mem_filterMap, List.mem_filter, decide_eq_true_eq] at listed
  obtain ⟨one, ⟨among, own⟩, picked⟩ := listed
  exact ⟨one, among, own, picked⟩

theorem terminal_of_picked {one : Processed} {entry : Entry}
    (picked : (if one.remaining.isNone then one.terminal else none) = some entry) :
    one.terminal = some entry := by
  split at picked
  · exact picked
  · cases picked

/-- What a replacement makes of the current entries: it keeps those that it does not archive and
that no record has taken. -/
structure Replacement.Stands (world : QueueWorld) (current : List Entry)
    (replacement : Replacement) : Prop where
  perm : (queueIds current).Perm (queueIds replacement.next ++
    (queueIds replacement.terminalToArchive ++ queueIds replacement.gone))
  grounded : ∀ entry ∈ replacement.next, Grounded world entry
  failed : ∀ entry ∈ replacement.terminalToArchive, Failed world entry.queueId
  gone : ∀ entry ∈ replacement.gone, entry.queueId ∈ world.recorded ∨
    entry.queueId ∈ queueIds replacement.terminalToArchive

theorem stands_replaceProcessed {current : List Entry}
    (stands : ∀ one ∈ processed, one.Stands world)
    (grounded : ∀ entry ∈ current, Grounded world entry) :
    (replaceProcessed processed current).Stands world current := by
  have replaced : Keyed (bucketOf Processed.remaining processed) := by
    intro key entry listed
    obtain ⟨one, among, own, picked⟩ := mem_bucketOf listed
    exact ((stands one among).remains entry picked).1.trans own
  have archived : Keyed (bucketOf
      (fun entry => if entry.remaining.isNone then entry.terminal else none) processed) := by
    intro key entry listed
    obtain ⟨one, among, own, picked⟩ := mem_bucketOf listed
    exact ((stands one among).ended entry (terminal_of_picked picked)).1.trans own
  refine ⟨replaceFrom_perm replaced archived, ?_, ?_, ?_⟩
  · intro entry listed
    rcases mem_replaceFrom_next listed with before | ⟨key, inBucket⟩
    · exact grounded entry before
    · obtain ⟨one, among, own, picked⟩ := mem_bucketOf inBucket
      exact ((stands one among).remains entry picked).2
  · intro entry listed
    obtain ⟨key, inBucket⟩ := mem_replaceFrom_archive listed
    obtain ⟨one, among, own, picked⟩ := mem_bucketOf inBucket
    exact ((stands one among).ended entry (terminal_of_picked picked)).2
  · intro entry listed
    obtain ⟨consumed, spent⟩ := mem_replaceFrom_gone archived listed
    refine spent.imp_left fun unarchived => ?_
    -- A consumed entry without an archive was recorded.
    simp only [consumedBy, List.any_eq_true, Bool.and_eq_true, decide_eq_true_eq,
      Option.isNone_iff_eq_none] at consumed
    obtain ⟨one, among, own, unremaining⟩ := consumed
    rw [← own]
    apply (stands one among).recorded unremaining
    cases terminal : one.terminal with
    | none => rfl
    | some other =>
      have inBucket : other ∈ bucketOf
          (fun entry => if entry.remaining.isNone then entry.terminal else none) processed
          entry.queueId := by
        simp only [bucketOf, List.mem_filterMap, List.mem_filter, decide_eq_true_eq]
        exact ⟨one, ⟨among, own⟩, by simp [unremaining, terminal]⟩
      rw [unarchived] at inBucket
      cases inBucket

end

end AdversarialReview.Attestation
