import AdversarialReview.Finalization.QueueRouting
import AdversarialReview.Library.Table

/-! The lane machine, with every change the queue's calls can make, laws of the tables, and what the
store's transactions commit as its steps. -/

namespace AdversarialReview

/-- What runs of the machine are considered. -/
structure LaneRules where
  /-- The patches a progress step may store in an entry. -/
  patches : QueueEntry → QueuePatch → Prop
  /-- Whether an admission may come outside the routing lock. -/
  direct : Bool

/-- The machine without restrictions. -/
def LaneRules.all : LaneRules where
  patches _ _ := True
  direct := true

/-- An entry that somebody is working on. -/
def QueuePhase.inFlight (phase : QueuePhase) : Bool :=
  phase ∈ [QueuePhase.rebasing, .publishing, .waitingChecks, .finalizing]

def ReturnRow.acknowledged (row : ReturnRow) : Bool :=
  row.receipt.any fun receipt => acknowledges receipt row.deliveryKey

def transferring (route : Option RouteRow) (target : LaneExecutor) : Bool :=
  route.any fun row => row.transition.any fun transition => transition.target = target

structure HandedBack (lane : LaneKey) (db : QueueDb) : Prop where
  ended : ∀ entry ∈ db.entries, entry.lane = lane → entry.phase.terminal = true
  receipted : ∀ row ∈ db.returns, row.lane = lane → row.acknowledged = true

/-- Why an entry may take a step, given the tables it is stored in. -/
structure MayProgress (rules : LaneRules) (lane : LaneKey) (db : QueueDb) (entry : QueueEntry)
    (patch : QueuePatch) (phase : QueuePhase) (readmits recovering : Bool) : Prop where
  routed : queueRouted (routeOf lane db) = true
  stored : readEntry entry.entryId db = some entry
  laned : entry.lane = lane
  settled : unresolvedOperations lane db = []
  live : entry.phase.terminal = false
  permitted : progressRefusal entry phase readmits recovering
    ((firstActionable lane db).map QueueEntry.entryId) = none
  patched : rules.patches entry patch

structure OwnerChange.Keeps (change : OwnerChange) (row next : LaneRow) : Prop where
  lane : next.lane = row.lane
  readinessSeq : next.readinessSeq = row.readinessSeq
  generation : next.generation = row.generation + if change = .claimed then 1 else 0
  active : next.ownerState = .active → change = .claimed ∨
    row.ownerState = .active ∧ next.routeGeneration = row.routeGeneration

/--
One change of the tables about one lane.

The flag says whether the change needs the lane's lock.
-/
inductive LaneStep (rules : LaneRules) (lane : LaneKey) : Bool → QueueDb → QueueDb → Prop where
  | ensured {held db} : LaneStep rules lane held db (db.ensureLane lane)
  | acknowledged {held db row recordedAt} (entry : QueueEntry)
      (admitted : rules.direct = true ∨ queueRouted (routeOf lane db) = true)
      (listed : readOwner lane db = some row)
      (numbered : entry.readinessSeq = row.readinessSeq + 1)
      (laned : entry.lane = lane) (fresh : entry.phase = .acknowledged)
      (apart : db.entries.any entry.conflicts = false) :
      LaneStep rules lane held db
        (QueueDb.log { db.bumpReadiness lane with entries := db.entries ++ [entry] } lane
          recordedAt (.acknowledged entry))
  | progressed {held db entry patch phase readmits recovering recordedAt version generation
      routeGeneration observation} {number : Option Nat}
      (may : MayProgress rules lane db entry patch phase readmits recovering)
      (numbered : number = if readmits then
        (readOwner lane db).map fun row => row.readinessSeq + 1 else none)
      (counted : readmits = true → number.isSome = true) :
      LaneStep rules lane held db
        (QueueDb.log
          ((if readmits then db.bumpReadiness lane else db).updateEntry
            (entry.moved patch phase recordedAt version number))
          lane recordedAt
          (.progress entry.entryId
            { patch := loggedPatch patch, phase, updatedAt := recordedAt
              progressVersion := version, readinessSeq := number }
            generation routeGeneration entry.phase observation))
  | owned {db recordedAt} (change : OwnerChange) (edit : LaneRow → LaneRow)
      (keeps : ∀ row, change.Keeps row (edit row)) :
      LaneStep rules lane true db
        ((db.updateLane lane edit).log lane recordedAt
          (.owner change (readOwner lane (db.updateLane lane edit))))
  | intended {db recordedAt} (row : OperationRow)
      (routed : queueRouted (routeOf lane db) = true)
      (laned : row.lane = lane) (unresolved : row.result = none)
      (named : row.intent.operationId = row.operationId)
      (fresh : ∀ other ∈ db.operations, other.operationId ≠ row.operationId)
      (alone : unresolvedOperations lane db = []) :
      LaneStep rules lane true db
        (QueueDb.log { db with operations := db.operations ++ [row] } lane recordedAt
          (.operationIntent row.intent))
  | settled {db recordedAt} (row : OperationRow) (result : Json)
      (stored : row ∈ db.operations) (laned : row.lane = lane) (unresolved : row.result = none) :
      LaneStep rules lane true db
        ((db.settleOperation row.operationId result).log lane recordedAt
          (.operationResult row.operationId result))
  | routed {db updatedAt} (route : LaneRoute) (laned : route.lane = lane) :
      LaneStep rules lane true db (db.ensureRoute route updatedAt)
  | refreshed {db} (edit : RouteRow → RouteRow)
      (keeps : ∀ row, (edit row).lane = row.lane ∧ (edit row).executor = row.executor ∧
        (edit row).transition = row.transition) :
      LaneStep rules lane true db (db.updateRoute lane edit)
  | writerStarted {db} (row : LegacyWriterRow)
      (routed : legacyRouted (routeOf lane db) = true)
      (laned : row.lane = lane) (unresolved : row.result = none)
      (fresh : ∀ other ∈ db.writers, other.writerId ≠ row.writerId) :
      LaneStep rules lane true db { db with writers := db.writers ++ [row] }
  | writerSettled {db} (row : LegacyWriterRow) (result : Json) (stored : row ∈ db.writers)
      (laned : row.lane = lane) :
      LaneStep rules lane true db (db.settleWriter row.writerId result)
  | transferBegun {db} (edit : RouteRow → RouteRow)
      (keeps : ∀ row, (edit row).lane = row.lane ∧ (edit row).transition.isSome = true)
      (idle : (routeOf lane db).any (fun route => route.transition.isNone) = true) :
      LaneStep rules lane true db (db.updateRoute lane edit)
  | returnListed {db} (entry : QueueEntry)
      (moving : transferring (routeOf lane db) .legacy = true)
      (stored : entry ∈ db.entries) (laned : entry.lane = lane) :
      LaneStep rules lane true db (db.listReturn lane entry)
  | returned {db recordedAt version generation routeGeneration} (row : ReturnRow)
      (entry : QueueEntry) (receipt : Json)
      (moving : (routeOf lane db).any (fun route => route.transition.isSome) = true)
      (stored : readEntry row.entryId db = some entry) (laned : entry.lane = lane)
      (pending : row ∈ db.returns) (rowed : row.lane = lane)
      (proven : acknowledges receipt row.deliveryKey = true) :
      LaneStep rules lane true db
        (if entry.phase.terminal then db.acknowledgeReturn row.entryId receipt
        else
          let update : ProgressUpdate :=
            { patch := [("reason", .str "route-rollback")], phase := .returnedToCloser
              updatedAt := recordedAt, progressVersion := version, readinessSeq := none }
          ((db.acknowledgeReturn row.entryId receipt).updateEntry (entry.assign update)).log lane
            recordedAt
            (.progress entry.entryId update generation routeGeneration entry.phase none))
  | rerouted {db} (target : LaneExecutor) (edit : RouteRow → RouteRow)
      (keeps : ∀ row, (edit row).lane = row.lane ∧ (edit row).executor = target ∧
        (edit row).transition = none)
      (moving : transferring (routeOf lane db) target = true)
      (drained : unresolvedWriters lane db = [])
      (returned : target = .legacy → rules.direct = false → HandedBack lane db) :
      LaneStep rules lane true db (db.updateRoute lane edit)
  | receipted {held db} (receipt : MergeReceiptRow) :
      LaneStep rules lane held db { db with receipts := db.receipts ++ [receipt] }

theorem toLower_toLower (char : Char) : char.toLower.toLower = char.toLower := by
  delta Char.toLower
  split
  · split
    · next upper again =>
      simp only [UInt32.le_iff_toNat_le, UInt32.toNat_add, seval] at upper again
      omega
    · simp
  · rfl

theorem resolveLaneKey_again {lane resolved again : LaneKey}
    (first : resolveLaneKey lane = .ok resolved) (second : resolveLaneKey resolved = .ok again) :
    again = resolved := by
  have lowered : ∀ text : String, text.toLower.toLower = text.toLower := by
    intro text
    have mapped : ∀ text : String, text.toLower = text.map Char.toLower := fun _ => rfl
    rw [mapped, mapped, String.map_map]
    congr 1
    funext char
    exact toLower_toLower char
  unfold resolveLaneKey at first
  split at first
  · cases first
  · split at first
    · cases first
    · cases first
      simp only [resolveLaneKey, lowered] at second
      split at second
      · cases second
      · exact (Except.ok.inj second).symm

variable {db : QueueDb} {lane : LaneKey}

theorem readOwner_updateLane {edit : LaneRow → LaneRow}
    (keeps : ∀ row, (edit row).lane = row.lane) (wanted : LaneKey) :
    readOwner wanted (db.updateLane lane edit) =
      (readOwner wanted db).map fun row => if lane = wanted then edit row else row :=
  Table.find?_update keeps lane wanted

theorem readOwner_bumpReadiness (db : QueueDb) (lane wanted : LaneKey) :
    readOwner wanted (db.bumpReadiness lane) = (readOwner wanted db).map fun row =>
      if lane = wanted then { row with readinessSeq := row.readinessSeq + 1 } else row := by
  rw [QueueDb.bumpReadiness, readOwner_updateLane]
  exact fun _ => rfl

theorem readOwner_ensureLane (db : QueueDb) (lane wanted : LaneKey) :
    readOwner wanted (db.ensureLane lane) =
      if lane = wanted then some ((readOwner lane db).getD { lane }) else readOwner wanted db := by
  unfold QueueDb.ensureLane
  split
  · next listed =>
    -- A row that is there already is the one that is read.
    by_cases same : lane = wanted
    · subst same
      obtain ⟨row, found⟩ : ∃ row, readOwner lane db = some row :=
        Option.isSome_iff_exists.mp (by simpa [readOwner] using listed)
      simp [found]
    · simp [same]
  · next absent =>
    have fresh : readOwner lane db = none := by
      simpa [readOwner] using absent
    let row : LaneRow := { lane }
    have inserted : (db.lanes ++ [row]).find? (fun other => other.lane = wanted) =
        if row.lane = wanted then some row else readOwner wanted db :=
      Table.find?_insert LaneRow.lane row fresh wanted
    rw [fresh]
    exact inserted

@[simp] theorem ensureLane_entries (db : QueueDb) (lane : LaneKey) :
    (db.ensureLane lane).entries = db.entries := by
  unfold QueueDb.ensureLane; split <;> rfl

@[simp] theorem ensureLane_events (db : QueueDb) (lane : LaneKey) :
    (db.ensureLane lane).events = db.events := by
  unfold QueueDb.ensureLane; split <;> rfl

@[simp] theorem ensureLane_operations (db : QueueDb) (lane : LaneKey) :
    (db.ensureLane lane).operations = db.operations := by
  unfold QueueDb.ensureLane; split <;> rfl

@[simp] theorem ensureLane_routes (db : QueueDb) (lane : LaneKey) :
    (db.ensureLane lane).routes = db.routes := by
  unfold QueueDb.ensureLane; split <;> rfl

theorem ensureRoute_eq (db : QueueDb) (route : LaneRoute) (updatedAt : String) :
    db.ensureRoute route updatedAt =
      { db with routes := (db.ensureRoute route updatedAt).routes } := by
  unfold QueueDb.ensureRoute; split <;> rfl

theorem listReturn_eq (db : QueueDb) (lane : LaneKey) (entry : QueueEntry) :
    db.listReturn lane entry = { db with returns := (db.listReturn lane entry).returns } := by
  unfold QueueDb.listReturn
  simp only
  split <;> rfl

variable {entry : QueueEntry}

theorem readEntry_eq_some {entryId : String} (found : readEntry entryId db = some entry) :
    entry ∈ db.entries ∧ entry.entryId = entryId :=
  ⟨List.mem_of_find?_eq_some found, by simpa using List.find?_some found⟩

theorem readEntry_of_mem (distinct : (db.entries.map QueueEntry.entryId).Nodup)
    (stored : entry ∈ db.entries) :
    readEntry entry.entryId db = some entry :=
  Table.find?_of_mem distinct stored

theorem entry_eq_of_id (distinct : (db.entries.map QueueEntry.entryId).Nodup)
    {first second : QueueEntry} (stored : first ∈ db.entries) (storedToo : second ∈ db.entries)
    (same : first.entryId = second.entryId) : first = second :=
  List.inj_on_of_nodup_map distinct stored storedToo same

theorem mem_updateEntry {entry other : QueueEntry} :
    other ∈ (db.updateEntry entry).entries ↔
      (other ∈ db.entries ∧ other.entryId ≠ entry.entryId) ∨
        (other = entry ∧ ∃ old ∈ db.entries, old.entryId = entry.entryId) := by
  simp only [QueueDb.updateEntry, List.mem_map]
  constructor
  · rintro ⟨old, stored, rewritten⟩
    by_cases hit : old.entryId = entry.entryId
    · rw [if_pos hit] at rewritten
      exact .inr ⟨rewritten.symm, old, stored, hit⟩
    · rw [if_neg hit] at rewritten
      exact .inl ⟨rewritten ▸ stored, rewritten ▸ hit⟩
  · rintro (⟨stored, apart⟩ | ⟨rfl, old, stored, hit⟩)
    · exact ⟨other, stored, if_neg apart⟩
    · exact ⟨old, stored, if_pos hit⟩

theorem nodup_updateEntry (entry : QueueEntry)
    (distinct : (db.entries.map QueueEntry.entryId).Nodup) :
    ((db.updateEntry entry).entries.map QueueEntry.entryId).Nodup := by
  have same : (db.updateEntry entry).entries.map QueueEntry.entryId =
      db.entries.map QueueEntry.entryId := by
    simp only [QueueDb.updateEntry, List.map_map]
    refine List.map_congr_left ?_
    intro row _
    by_cases hit : row.entryId = entry.entryId <;> simp [hit]
  rwa [same]

instance : Std.Total QueueEntry.before where
  total first second := by
    unfold QueueEntry.before
    rcases Nat.lt_trichotomy first.readinessSeq second.readinessSeq with below | same | above
    · exact .inl (.inl below)
    · -- Equal numbers are ordered by identity.
      rcases String.le_total first.entryId second.entryId with least | least
      · exact .inl (.inr ⟨same, least⟩)
      · exact .inr (.inr ⟨same.symm, least⟩)
    · exact .inr (.inl above)

instance : IsTrans QueueEntry QueueEntry.before where
  trans first second third := by
    unfold QueueEntry.before
    rintro (below | ⟨same, least⟩) (beyond | ⟨equal, most⟩)
    · exact .inl (by omega)
    · exact .inl (by omega)
    · exact .inl (by omega)
    · exact .inr ⟨by omega, String.le_trans least most⟩

theorem firstActionable_eq_some (first : firstActionable lane db = some entry) :
    entry ∈ db.entries ∧ entry.lane = lane ∧ entry.phase.actionable = true ∧
      ∀ other ∈ db.entries, other.lane = lane → other.phase.actionable = true →
        entry.readinessSeq ≤ other.readinessSeq := by
  have listed : entry ∈ laneEntries lane db := List.mem_of_find?_eq_some first
  have stored : entry ∈ db.entries ∧ entry.lane = lane := by
    simpa [laneEntries] using listed
  refine ⟨stored.1, stored.2, by simpa using List.find?_some first, ?_⟩
  intro other present laned active
  have sorted := List.pairwise_insertionSort QueueEntry.before
    (db.entries.filter fun row => row.lane = lane)
  have among : other ∈ laneEntries lane db := by simpa [laneEntries] using ⟨present, laned⟩
  rcases Table.first_of_sorted sorted first among active with same | before
  · rw [same]
  · -- The order puts readiness first.
    rcases before with below | ⟨same, -⟩ <;> omega

theorem firstActionable_of_least (stored : entry ∈ db.entries) (laned : entry.lane = lane)
    (active : entry.phase.actionable = true)
    (least : ∀ other ∈ db.entries, other.lane = lane → other.phase.actionable = true →
      other ≠ entry → entry.readinessSeq < other.readinessSeq) :
    firstActionable lane db = some entry := by
  have among : entry ∈ laneEntries lane db := by simpa [laneEntries] using ⟨stored, laned⟩
  cases first : firstActionable lane db with
  | none =>
    have idle := List.find?_eq_none.mp first entry among
    exact absurd active idle
  | some other =>
    obtain ⟨present, shared, acts, smallest⟩ := firstActionable_eq_some first
    -- A different first entry would be both below and above this one.
    by_cases same : other = entry
    · rw [same]
    · have below := least other present shared acts same
      have above := smallest entry stored laned active
      omega

open Transaction

theorem nextReadiness_commits (lane : LaneKey) (host : Host) (db : QueueDb) :
    (nextReadiness lane).Commits host db fun number later =>
      later = db.bumpReadiness lane ∧
        ∃ row, readOwner lane db = some row ∧ number = row.readinessSeq + 1 := by
  unfold nextReadiness
  simp only [commits_bind, commits_modify, commits_read]
  have bumped : readOwner lane (db.bumpReadiness lane) =
      (readOwner lane db).map fun row => { row with readinessSeq := row.readinessSeq + 1 } := by
    simp [readOwner_bumpReadiness]
  cases owned : readOwner lane db with
  | none =>
    rw [bumped, owned]
    simp
  | some row =>
    rw [bumped, owned]
    simp

theorem readmission_commits (readmits : Bool) (lane : LaneKey) (host : Host) (db : QueueDb) :
    (readmission readmits lane).Commits host db fun number later =>
      later = (if readmits then db.bumpReadiness lane else db) ∧
        (number = if readmits then
          (readOwner lane db).map fun row => row.readinessSeq + 1 else none) ∧
        (readmits = true → number.isSome = true) := by
  unfold readmission
  cases readmits with
  | false => simp
  | true =>
    simp only [if_true, commits_bind, commits_pure]
    refine (nextReadiness_commits lane host db).mono ?_
    rintro number _ ⟨rfl, row, listed, rfl⟩
    simp [listed]

theorem progressSubject_commits (args : ProgressArgs) (lane : LaneKey) (host : Host)
    (db : QueueDb) :
    (progressSubject args lane).Commits host db fun entry later =>
      later = db ∧ readEntry args.entryId db = some entry ∧ entry.lane = lane ∧
        unresolvedOperations lane db = [] ∧ entry.phase.terminal = false := by
  unfold progressSubject
  simp only [commits_bind, commits_raise, commits_read]
  intro _ _
  split
  · exact (commits_throw _).mpr trivial
  · next entry found =>
    simp only [commits_bind, commits_read, commits_refuse, commits_pure]
    intro laned _ settled live
    exact ⟨trivial, found, by simpa using laned, by simpa using settled, by simpa using live⟩

section

variable [JsDate]

@[simp] theorem commits_append {host : Host} {db : QueueDb} {post : Unit → QueueDb → Prop}
    (lane : LaneKey) (recordedAt : String) (body : QueueEventBody) :
    (QueueStore.append lane recordedAt body).Commits host db post ↔
      (JsDate.parse recordedAt ≠ none → post () (db.log lane recordedAt body)) := by
  simp [QueueStore.append]

@[simp] theorem commits_timeInside {host : Host} {db : QueueDb} {post : String → QueueDb → Prop}
    (reading : Nat) :
    (QueueOwner.timeInside reading).Commits host db post ↔
      ∀ time, queueTime (host.clock reading) = .ok time → post time db := by
  simp [QueueOwner.timeInside]

theorem assertFence_commits (fence : QueueFence) (now : String) (host : Host) (db : QueueDb) :
    (assertFence fence now).Commits host db fun row later =>
      later = db ∧ ∃ lane, resolveLaneKey fence.lane = .ok lane ∧
        queueRouted (routeOf lane db) = true ∧ readOwner lane db = some row ∧
        fenceHolds row fence = true := by
  unfold assertFence
  simp only [commits_bind, commits_raise, commits_read, commits_refuse]
  intro lane resolved routed
  split
  · exact (commits_throw _).mpr trivial
  · next row owned =>
    simp only [commits_bind, commits_refuse]
    intro held
    split
    · exact (commits_throw _).mpr trivial
    · simp only [commits_bind, commits_raise, commits_refuse, commits_pure]
      intro _ _ _
      refine ⟨trivial, lane, resolved, ?_, owned, ?_⟩
      · simpa using routed
      · simpa using held

theorem acknowledge_commits {rules : LaneRules} {held : Bool} (args : AcknowledgeArgs)
    (host : Host) (db : QueueDb) (admitted : ∀ lane, resolveLaneKey args.lane = .ok lane →
      rules.direct = true ∨ queueRouted (routeOf lane db) = true) :
    (acknowledge args).Commits host db fun _ later =>
      ∃ lane, resolveLaneKey args.lane = .ok lane ∧ (later = db.ensureLane lane ∨
        LaneStep rules lane held (db.ensureLane lane) later) := by
  unfold acknowledge
  simp only [commits_bind, commits_raise, commits_refuse, commits_modify, commits_read]
  intro lane resolved acknowledgedAt _ _ _ _ _ _ _ _
  split
  · -- Nobody was admitted under any of these names.
    simp only [commits_bind, commits_ask, commits_raise]
    refine (nextReadiness_commits lane host _).mono ?_
    rintro number _ ⟨rfl, row, listed, numbered⟩ patience _
    simp only [insertEntry, commits_bind, commits_read, commits_refuse, commits_modify,
      commits_append, commits_pure]
    intro apart _
    have routed : queueRouted (routeOf lane (db.ensureLane lane)) =
        queueRouted (routeOf lane db) := by
      simp [routeOf]
    refine ⟨lane, resolved, .inr ?_⟩
    exact .acknowledged (freshEntry args lane acknowledgedAt number patience)
      (routed ▸ admitted lane resolved) listed numbered rfl rfl
      (by simpa [QueueDb.bumpReadiness, QueueDb.updateLane] using apart)
  · -- The entry that is there is repeated.
    simp only [commits_bind, commits_refuse, commits_pure]
    intro _
    exact ⟨lane, resolved, .inl rfl⟩
  · exact (commits_throw _).mpr trivial

theorem progress_commits {rules : LaneRules} {held : Bool} (args : ProgressArgs) (host : Host)
    (db : QueueDb) (patches : ∀ entry phase patch, readEntry args.entryId db = some entry →
      args.resolve entry = .ok (phase, patch) → rules.patches entry patch) :
    (progress args).Commits host db fun _ later =>
      ∃ lane, resolveLaneKey args.fence.lane = .ok lane ∧ LaneStep rules lane held db later := by
  unfold progress
  simp only [commits_bind, commits_raise, commits_refuse]
  intro updatedAt _ _
  refine (assertFence_commits args.fence updatedAt host db).mono ?_
  rintro row after ⟨unchanged, lane, resolved, routed, owned, -⟩ named again
  subst unchanged
  have same : named = lane := Except.ok.inj (again.symm.trans resolved)
  subst same
  refine (progressSubject_commits args named host after).mono ?_
  rintro entry later ⟨unchanged, found, laned, settled, live⟩ ⟨phase, patch⟩ comes
  subst unchanged
  simp only [commits_read]
  -- Only a permitted phase gets past the store's own refusals.
  split
  · exact (commits_throw _).mpr trivial
  · next permitted =>
    simp only [commits_bind, commits_refuse, commits_pure]
    intro _
    refine (readmission_commits args.readmits named host later).mono ?_
    rintro number _ ⟨rfl, numbered, counted⟩
    simp only [writeEntry, commits_bind, commits_read, commits_refuse, commits_modify,
      commits_append]
    intro _ _
    have may : MayProgress rules named later entry patch phase args.readmits args.recovering :=
      { routed, stored := (readEntry_eq_some found).2 ▸ found, laned, settled, live
        permitted
        patched := patches entry phase patch found comes }
    refine ⟨named, resolved, ?_⟩
    rw [← (readEntry_eq_some found).2]
    exact .progressed may numbered counted

end

end AdversarialReview
