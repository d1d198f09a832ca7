import AdversarialReview.Proofs.Finalization.QueueStore
import AdversarialReview.Finalization.QueueRuns

/-! The order of a lane, with one entry in flight, and that every schedule of calls keeps it. -/

namespace AdversarialReview

variable {phase : QueuePhase}

theorem QueuePhase.actionable_of_inFlight (flying : phase.inFlight = true) :
    phase.actionable = true := by
  revert flying
  cases phase <;> decide

variable {entry : QueueEntry}

theorem progressRefusal_eq_none {readmits recovering : Bool} {turn : Option String}
    (permitted : progressRefusal entry phase readmits recovering turn = none) :
    (phase.actionable = true → readmits = false →
        entry.phase.actionable = true ∧ turn = some entry.entryId) ∧
      (readmits = true → entry.phase.actionable = false ∧ phase = .ready) ∧
      (phase = .merged → entry.phase = .finalizing) := by
  unfold progressRefusal at permitted
  simp only at permitted
  -- Each refusal that was passed leaves the negation of its condition.
  split at permitted
  · cases permitted
  · next recovered =>
    split at permitted
    · cases permitted
    · next turned =>
      split at permitted
      · cases permitted
      · next readmitted =>
        split at permitted
        · cases permitted
        · split at permitted
          · cases permitted
          · next merged =>
            refine ⟨?_, ?_, ?_⟩
            · intro active same
              subst same
              simp_all
            · intro again
              subst again
              simp_all
            · intro ended
              subst ended
              simp_all

structure LaneOrder (db : QueueDb) : Prop where
  /-- Every identity is stored once. -/
  distinct : (db.entries.map QueueEntry.entryId).Nodup
  /-- No two entries of a lane share a readiness number. -/
  apart : ∀ first ∈ db.entries, ∀ second ∈ db.entries, first.lane = second.lane →
    first.readinessSeq = second.readinessSeq → first = second
  /-- The lane has counted as far as its entries. -/
  counted : ∀ entry ∈ db.entries, ∃ row, readOwner entry.lane db = some row ∧
    entry.readinessSeq ≤ row.readinessSeq
  /-- Work is only done on the first actionable entry. -/
  turn : ∀ entry ∈ db.entries, entry.phase.inFlight = true → ∀ other ∈ db.entries,
    other.lane = entry.lane → other.phase.actionable = true →
      entry.readinessSeq ≤ other.readinessSeq

def CountsUp (db later : QueueDb) : Prop :=
  ∀ lane row, readOwner lane db = some row →
    ∃ after, readOwner lane later = some after ∧ row.readinessSeq ≤ after.readinessSeq

structure EntriesStill (db later : QueueDb) : Prop where
  entries : later.entries = db.entries
  counts : CountsUp db later

def MovedNumber (db later : QueueDb) (entry next : QueueEntry) : Prop :=
  (next.readinessSeq = entry.readinessSeq ∧
      (next.phase.actionable = true → entry.phase.actionable = true ∧
        ∀ other ∈ db.entries, other.lane = entry.lane → other.phase.actionable = true →
          entry.readinessSeq ≤ other.readinessSeq)) ∨
    (next.phase = .ready ∧
      (∀ row, readOwner entry.lane db = some row → row.readinessSeq < next.readinessSeq) ∧
      ∃ row, readOwner entry.lane later = some row ∧ next.readinessSeq ≤ row.readinessSeq)

/-- What one transaction may do to the entries. -/
inductive EntryStep (db later : QueueDb) : Prop where
  | still (same : EntriesStill db later)
  | admitted (entry : QueueEntry) (counts : CountsUp db later)
      (entries : later.entries = db.entries ++ [entry])
      (fresh : entry.phase = .acknowledged)
      (identity : ∀ other ∈ db.entries, other.entryId ≠ entry.entryId)
      (above : ∀ row, readOwner entry.lane db = some row → row.readinessSeq < entry.readinessSeq)
      (counted : ∃ row, readOwner entry.lane later = some row ∧
        entry.readinessSeq ≤ row.readinessSeq)
  | moved (entry next : QueueEntry) (counts : CountsUp db later)
      (stored : entry ∈ db.entries) (entries : later.entries = (db.updateEntry next).entries)
      (named : next.entryId = entry.entryId) (laned : next.lane = entry.lane)
      (live : entry.phase.terminal = false)
      (finalized : next.phase = .merged → entry.phase = .finalizing)
      (number : MovedNumber db later entry next)

/-- How the entries may differ after a while. -/
structure EntriesAdvance (db later : QueueDb) : Prop where
  /-- No entry is lost, its number does not fall, and an entry that has ended stays as it is. -/
  kept : ∀ entry ∈ db.entries, ∃ next ∈ later.entries, next.entryId = entry.entryId ∧
    next.lane = entry.lane ∧ entry.readinessSeq ≤ next.readinessSeq ∧
    (entry.phase.terminal = true → next = entry)
  /-- A number is the entry's old one or larger than all of its lane before. -/
  numbered : ∀ next ∈ later.entries,
    (∃ entry ∈ db.entries, entry.entryId = next.entryId ∧ entry.lane = next.lane ∧
      entry.readinessSeq = next.readinessSeq) ∨
      ∀ entry ∈ db.entries, entry.lane = next.lane → entry.readinessSeq < next.readinessSeq

def MergedFromFinalizing (db later : QueueDb) : Prop :=
  ∀ next ∈ later.entries, next.phase = .merged → ∃ entry ∈ db.entries,
    entry.entryId = next.entryId ∧ (entry.phase = .merged ∨ entry.phase = .finalizing)

theorem CountsUp.refl (db : QueueDb) : CountsUp db db :=
  fun _ row found => ⟨row, found, Nat.le_refl _⟩

theorem CountsUp.trans {first second third : QueueDb} (early : CountsUp first second)
    (late : CountsUp second third) : CountsUp first third := by
  intro lane row found
  obtain ⟨middle, counted, below⟩ := early lane row found
  obtain ⟨after, counted, beyond⟩ := late lane middle counted
  exact ⟨after, counted, Nat.le_trans below beyond⟩

variable {db later : QueueDb}

theorem CountsUp.of_lanes (lanes : later.lanes = db.lanes) :
    CountsUp db later := by
  intro lane row found
  exact ⟨row, by rw [readOwner, lanes]; exact found, Nat.le_refl _⟩

theorem CountsUp.updateLane {db : QueueDb} (lane : LaneKey) {edit : LaneRow → LaneRow}
    (keeps : ∀ row, (edit row).lane = row.lane ∧ row.readinessSeq ≤ (edit row).readinessSeq) :
    CountsUp db (db.updateLane lane edit) := by
  intro wanted row found
  rw [readOwner_updateLane fun row => (keeps row).1, found]
  refine ⟨_, rfl, ?_⟩
  split
  · exact (keeps row).2
  · exact Nat.le_refl _

theorem CountsUp.ensureLane (db : QueueDb) (lane : LaneKey) :
    CountsUp db (db.ensureLane lane) := by
  intro wanted row found
  refine ⟨row, ?_, Nat.le_refl _⟩
  rw [readOwner_ensureLane]
  -- A lane that has a row keeps it.
  by_cases same : lane = wanted
  · subst same
    simp [found]
  · rw [if_neg same]
    exact found

instance : Std.Refl EntriesStill where
  refl db := ⟨rfl, .refl db⟩

instance : IsTrans QueueDb EntriesStill where
  trans _ _ _ early late :=
    ⟨late.entries.trans early.entries, early.counts.trans late.counts⟩

theorem LaneOrder.below {db : QueueDb} (order : LaneOrder db)
    (stored : entry ∈ db.entries) {number : Nat}
    (above : ∀ row, readOwner entry.lane db = some row → row.readinessSeq < number) :
    entry.readinessSeq < number := by
  obtain ⟨row, found, within⟩ := order.counted entry stored
  exact Nat.lt_of_le_of_lt within (above row found)

theorem LaneOrder.of_still (order : LaneOrder db)
    (still : EntriesStill db later) : LaneOrder later := by
  obtain ⟨entries, counts⟩ := still
  refine ⟨entries ▸ order.distinct, entries ▸ order.apart, ?_, entries ▸ order.turn⟩
  rw [entries]
  intro entry stored
  obtain ⟨row, found, within⟩ := order.counted entry stored
  obtain ⟨after, found, counted⟩ := counts entry.lane row found
  exact ⟨after, found, Nat.le_trans within counted⟩

theorem LaneOrder.of_admitted (order : LaneOrder db)
    (counts : CountsUp db later) (entries : later.entries = db.entries ++ [entry])
    (fresh : entry.phase = .acknowledged)
    (identity : ∀ other ∈ db.entries, other.entryId ≠ entry.entryId)
    (above : ∀ row, readOwner entry.lane db = some row → row.readinessSeq < entry.readinessSeq)
    (counted : ∃ row, readOwner entry.lane later = some row ∧
      entry.readinessSeq ≤ row.readinessSeq) : LaneOrder later := by
  -- The new number lies beyond every number of the lane.
  have beyond : ∀ other ∈ db.entries, other.lane = entry.lane →
      other.readinessSeq < entry.readinessSeq := by
    intro other stored laned
    exact order.below stored (laned ▸ above)
  refine ⟨?_, ?_, ?_, ?_⟩
  · rw [entries]
    exact Table.nodup_insert order.distinct identity
  · rw [entries]
    intro first stored second storedToo laned same
    rcases List.mem_append.mp stored with old | new
    · rcases List.mem_append.mp storedToo with older | newer
      · exact order.apart first old second older laned same
      · rw [List.mem_singleton.mp newer] at laned same
        have := beyond first old laned
        omega
    · rcases List.mem_append.mp storedToo with older | newer
      · rw [List.mem_singleton.mp new] at laned same
        have := beyond second older laned.symm
        omega
      · rw [List.mem_singleton.mp new, List.mem_singleton.mp newer]
  · rw [entries]
    intro other stored
    rcases List.mem_append.mp stored with old | new
    · obtain ⟨row, found, within⟩ := order.counted other old
      obtain ⟨after, found, grown⟩ := counts other.lane row found
      exact ⟨after, found, Nat.le_trans within grown⟩
    · rw [List.mem_singleton.mp new]
      exact counted
  · rw [entries]
    intro first stored flying other storedToo laned active
    rcases List.mem_append.mp stored with old | new
    · rcases List.mem_append.mp storedToo with older | newer
      · exact order.turn first old flying other older laned active
      · rw [List.mem_singleton.mp newer] at laned ⊢
        exact Nat.le_of_lt (beyond first old laned.symm)
    · -- A fresh entry is not in flight.
      rw [List.mem_singleton.mp new, fresh] at flying
      cases flying

theorem mem_of_moved {entry next other : QueueEntry}
    (stored : entry ∈ db.entries) (entries : later.entries = (db.updateEntry next).entries)
    (named : next.entryId = entry.entryId) :
    other ∈ later.entries ↔
      (other ∈ db.entries ∧ other.entryId ≠ entry.entryId) ∨ other = next := by
  rw [entries, mem_updateEntry, named]
  constructor
  · rintro (old | ⟨same, -⟩)
    · exact .inl old
    · exact .inr same
  · rintro (old | same)
    · exact .inl old
    · exact .inr ⟨same, entry, stored, rfl⟩

theorem LaneOrder.of_moved (order : LaneOrder db) {entry next : QueueEntry}
    (counts : CountsUp db later) (stored : entry ∈ db.entries)
    (entries : later.entries = (db.updateEntry next).entries)
    (named : next.entryId = entry.entryId) (laned : next.lane = entry.lane)
    (number : MovedNumber db later entry next) : LaneOrder later := by
  have members : ∀ {other}, other ∈ later.entries ↔
      (other ∈ db.entries ∧ other.entryId ≠ entry.entryId) ∨ other = next :=
    fun {_} => mem_of_moved stored entries named
  -- Whoever else is in the lane has another number than the moved entry.
  have apart : ∀ other ∈ db.entries, other.entryId ≠ entry.entryId → other.lane = next.lane →
      other.readinessSeq ≠ next.readinessSeq := by
    intro other present foreign shared same
    rcases number with ⟨kept, -⟩ | ⟨-, above, -⟩
    · have twin := order.apart other present entry stored (shared.trans laned) (same.trans kept)
      exact foreign (by rw [twin])
    · have below := order.below present (by rw [shared, laned]; exact above)
      omega
  refine ⟨?_, ?_, ?_, ?_⟩
  · rw [entries]
    exact nodup_updateEntry next order.distinct
  · intro first firstIn second secondIn shared same
    rcases members.mp firstIn with ⟨old, foreign⟩ | rfl
    · rcases members.mp secondIn with ⟨older, -⟩ | rfl
      · exact order.apart first old second older shared same
      · exact absurd same (apart first old foreign shared)
    · rcases members.mp secondIn with ⟨older, foreign⟩ | rfl
      · exact absurd same.symm (apart second older foreign shared.symm)
      · rfl
  · intro other present
    rcases members.mp present with ⟨old, -⟩ | rfl
    · obtain ⟨row, found, within⟩ := order.counted other old
      obtain ⟨after, found, grown⟩ := counts other.lane row found
      exact ⟨after, found, Nat.le_trans within grown⟩
    · rw [laned]
      rcases number with ⟨kept, -⟩ | ⟨-, -, counted⟩
      · -- The number was within the count, and the count does not fall.
        obtain ⟨row, found, within⟩ := order.counted entry stored
        obtain ⟨after, found, grown⟩ := counts entry.lane row found
        exact ⟨after, found, by omega⟩
      · exact counted
  · intro first firstIn flying other present shared active
    rcases members.mp firstIn with ⟨old, foreign⟩ | rfl
    · rcases members.mp present with ⟨older, -⟩ | rfl
      · exact order.turn first old flying other older shared active
      · rcases number with ⟨kept, waits⟩ | ⟨-, above, -⟩
        · -- The moved entry was actionable before, behind the one in flight.
          have ahead := order.turn first old flying entry stored (laned.symm.trans shared)
            (waits active).1
          omega
        · have below := order.below old (by rw [← shared, laned]; exact above)
          omega
    · rcases number with ⟨kept, waits⟩ | ⟨readied, -, -⟩
      · have least := (waits (QueuePhase.actionable_of_inFlight flying)).2
        rcases members.mp present with ⟨older, -⟩ | rfl
        · have := least other older (shared.trans laned) active
          omega
        · exact Nat.le_refl _
      · -- A readmitted entry is only ready.
        rw [readied] at flying
        cases flying

theorem LaneOrder.step (order : LaneOrder db) (step : EntryStep db later) :
    LaneOrder later := by
  cases step with
  | still same => exact order.of_still same
  | admitted entry counts entries fresh identity above counted =>
    exact order.of_admitted counts entries fresh identity above counted
  | moved entry next counts stored entries named laned live finalized number =>
    exact order.of_moved counts stored entries named laned number

theorem EntryStep.advance (order : LaneOrder db) (step : EntryStep db later) :
    EntriesAdvance db later := by
  cases step with
  | still same =>
    refine ⟨?_, ?_⟩
    · intro entry stored
      exact ⟨entry, same.entries ▸ stored, rfl, rfl, Nat.le_refl _, fun _ => rfl⟩
    · intro next stored
      exact .inl ⟨next, same.entries ▸ stored, rfl, rfl, rfl⟩
  | admitted entry counts entries fresh identity above counted =>
    refine ⟨?_, ?_⟩
    · intro old stored
      have still : old ∈ later.entries := by
        rw [entries]
        exact List.mem_append_left _ stored
      exact ⟨old, still, rfl, rfl, Nat.le_refl _, fun _ => rfl⟩
    · intro next stored
      rw [entries] at stored
      rcases List.mem_append.mp stored with old | new
      · exact .inl ⟨next, old, rfl, rfl, rfl⟩
      · -- The new number lies beyond the lane's count.
        rw [List.mem_singleton.mp new]
        refine .inr ?_
        intro other present shared
        exact order.below present (shared ▸ above)
  | moved entry next counts stored entries named laned live finalized number =>
    have members : ∀ {other}, other ∈ later.entries ↔
        (other ∈ db.entries ∧ other.entryId ≠ entry.entryId) ∨ other = next :=
      fun {_} => mem_of_moved stored entries named
    refine ⟨?_, ?_⟩
    · intro old present
      by_cases same : old.entryId = entry.entryId
      · have twin : old = entry := entry_eq_of_id order.distinct present stored same
        subst twin
        refine ⟨next, members.mpr (.inr rfl), named, laned, ?_, ?_⟩
        · rcases number with ⟨kept, -⟩ | ⟨-, above, -⟩
          · omega
          · exact Nat.le_of_lt (order.below present above)
        · intro ended
          rw [live] at ended
          cases ended
      · exact ⟨old, members.mpr (.inl ⟨present, same⟩), rfl, rfl, Nat.le_refl _, fun _ => rfl⟩
    · intro other present
      rcases members.mp present with ⟨old, -⟩ | rfl
      · exact .inl ⟨other, old, rfl, rfl, rfl⟩
      · rcases number with ⟨kept, -⟩ | ⟨-, above, -⟩
        · exact .inl ⟨entry, stored, named.symm, laned.symm, kept.symm⟩
        · refine .inr ?_
          intro old present shared
          exact order.below present (by rw [shared, laned]; exact above)

theorem EntryStep.merges (step : EntryStep db later) :
    MergedFromFinalizing db later := by
  cases step with
  | still same =>
    intro next stored merged
    exact ⟨next, same.entries ▸ stored, rfl, .inl merged⟩
  | admitted entry counts entries fresh identity above counted =>
    intro next stored merged
    rw [entries] at stored
    rcases List.mem_append.mp stored with old | new
    · exact ⟨next, old, rfl, .inl merged⟩
    · rw [List.mem_singleton.mp new, fresh] at merged
      cases merged
  | moved entry next counts stored entries named laned live finalized number =>
    intro other present merged
    rcases (mem_of_moved stored entries named).mp present with ⟨old, -⟩ | rfl
    · exact ⟨other, old, rfl, .inl merged⟩
    · exact ⟨entry, stored, named.symm, .inr (finalized merged)⟩

theorem EntriesAdvance.refl (db : QueueDb) : EntriesAdvance db db where
  kept entry stored := ⟨entry, stored, rfl, rfl, Nat.le_refl _, fun _ => rfl⟩
  numbered next stored := .inl ⟨next, stored, rfl, rfl, rfl⟩

theorem EntriesAdvance.trans {first second third : QueueDb} (early : EntriesAdvance first second)
    (late : EntriesAdvance second third) : EntriesAdvance first third := by
  refine ⟨?_, ?_⟩
  · intro entry stored
    obtain ⟨middle, present, named, laned, grown, ended⟩ := early.kept entry stored
    obtain ⟨last, final, namedToo, lanedToo, grownToo, endedToo⟩ := late.kept middle present
    refine ⟨last, final, namedToo.trans named, lanedToo.trans laned, by omega, ?_⟩
    intro terminal
    have same := ended terminal
    subst same
    exact endedToo terminal
  · intro next stored
    rcases late.numbered next stored with ⟨middle, present, named, laned, same⟩ | above
    · rcases early.numbered middle present with ⟨entry, old, namedToo, lanedToo, kept⟩ | higher
      · exact .inl ⟨entry, old, namedToo.trans named, lanedToo.trans laned, kept.trans same⟩
      · refine .inr ?_
        intro entry old shared
        have := higher entry old (shared.trans laned.symm)
        omega
    · refine .inr ?_
      intro entry old shared
      -- Whatever number the entry had, it had none smaller later.
      obtain ⟨middle, present, -, laned, grown, -⟩ := early.kept entry old
      have := above middle present (laned.trans shared)
      omega

theorem EntryStep.of_still {db middle later : QueueDb} (still : EntriesStill db middle)
    (reads : ∀ lane row, readOwner lane db = some row → readOwner lane middle = some row)
    (step : EntryStep middle later) : EntryStep db later := by
  cases step with
  | still same => exact .still (IsTrans.trans _ _ _ still same)
  | admitted entry counts entries fresh identity above counted =>
    refine .admitted entry (still.counts.trans counts) ?_ fresh ?_ ?_ counted
    · rw [entries, still.entries]
    · exact still.entries ▸ identity
    · intro row found
      exact above row (reads entry.lane row found)
  | moved entry next counts stored entries named laned live finalized number =>
    refine .moved entry next (still.counts.trans counts) (still.entries ▸ stored) ?_ named laned
      live finalized ?_
    · rw [entries, QueueDb.updateEntry, QueueDb.updateEntry, still.entries]
    · rcases number with ⟨kept, waits⟩ | ⟨readied, above, counted⟩
      · exact .inl ⟨kept, still.entries ▸ waits⟩
      · refine .inr ⟨readied, ?_, counted⟩
        intro row found
        exact above row (reads entry.lane row found)

theorem MayProgress.number {rules : LaneRules} {lane : LaneKey}
    {patch : QueuePatch} {readmits recovering : Bool}
    {recordedAt : String} {version : Nat} {number : Option Nat} (order : LaneOrder db)
    (may : MayProgress rules lane db entry patch phase readmits recovering)
    (numbered : number = if readmits then
      (readOwner lane db).map fun row => row.readinessSeq + 1 else none)
    (counted : readmits = true → number.isSome = true)
    (lanes : later.lanes = (if readmits then db.bumpReadiness lane else db).lanes) :
    MovedNumber db later entry (entry.moved patch phase recordedAt version number) := by
  obtain ⟨inTurn, again, -⟩ := progressRefusal_eq_none may.permitted
  obtain ⟨stored, -⟩ := readEntry_eq_some may.stored
  cases readmits with
  | false =>
    have none_ : number = none := by simpa using numbered
    subst none_
    refine .inl ⟨rfl, ?_⟩
    intro active
    obtain ⟨wasActive, turn⟩ := inTurn active rfl
    refine ⟨wasActive, ?_⟩
    -- The entry whose turn it is has this identity, so it is this entry.
    obtain ⟨first, found, named⟩ := Option.map_eq_some_iff.mp turn
    obtain ⟨present, -, -, least⟩ := firstActionable_eq_some found
    have same : first = entry := entry_eq_of_id order.distinct present stored named
    subst same
    rw [may.laned]
    exact least
  | true =>
    obtain ⟨-, readied⟩ := again rfl
    obtain ⟨row, owned, counts⟩ : ∃ row, readOwner lane db = some row ∧
        number = some (row.readinessSeq + 1) := by
      cases owned : readOwner lane db with
      | none => simp_all
      | some row => exact ⟨row, rfl, by simpa [owned] using numbered⟩
    have laned : entry.lane = lane := may.laned
    refine .inr ⟨readied, ?_, ?_⟩
    · intro other found
      rw [laned, owned] at found
      obtain rfl := Option.some.inj found
      simp [QueueEntry.moved, counts]
    · refine ⟨{ row with readinessSeq := row.readinessSeq + 1 }, ?_, ?_⟩
      · have bumped := readOwner_bumpReadiness db lane lane
        rw [owned] at bumped
        rw [laned, readOwner, lanes]
        simpa [readOwner] using bumped
      · simp [QueueEntry.moved, counts]

theorem LaneStep.entryStep {rules : LaneRules} {lane : LaneKey}
    (order : LaneOrder db) (step : LaneStep rules lane false db later) : EntryStep db later := by
  cases step with
  | ensured => exact .still ⟨ensureLane_entries db lane, .ensureLane db lane⟩
  | @acknowledged _ _ row recordedAt entry admitted listed numbered laned fresh apart =>
    have distinct : ∀ other ∈ db.entries, other.entryId ≠ entry.entryId := by
      intro other present same
      have clear := List.any_eq_false.mp apart other present
      simp [QueueEntry.conflicts, same] at clear
    have bumped := readOwner_bumpReadiness db lane lane
    rw [listed] at bumped
    refine .admitted entry ?_ rfl fresh distinct ?_ ?_
    · exact .updateLane lane fun _ => ⟨rfl, Nat.le_succ _⟩
    · intro other found
      rw [laned, listed] at found
      obtain rfl := Option.some.inj found
      omega
    · rw [laned]
      refine ⟨{ row with readinessSeq := row.readinessSeq + 1 }, ?_, ?_⟩
      · show readOwner lane (db.bumpReadiness lane) = _
        simpa using bumped
      · exact Nat.le_of_eq numbered
  | @progressed _ _ entry patch phase readmits _ recordedAt version _ _ _ number may numbered
      counted =>
    obtain ⟨stored, -⟩ := readEntry_eq_some may.stored
    have counts : CountsUp db (if readmits then db.bumpReadiness lane else db) := by
      cases readmits with
      | false => exact .refl db
      | true => exact .updateLane lane fun _ => ⟨rfl, Nat.le_succ _⟩
    have entries : (if readmits then db.bumpReadiness lane else db).entries = db.entries := by
      cases readmits <;> rfl
    refine .moved entry (entry.moved patch phase recordedAt version number) counts stored ?_ rfl
      rfl may.live (progressRefusal_eq_none may.permitted).2.2 ?_
    · simp only [QueueDb.log, QueueDb.updateEntry, entries]
    · exact may.number order numbered counted rfl
  | receipted receipt => exact .still ⟨rfl, .of_lanes rfl⟩

theorem LaneOrder.numbers {db : QueueDb} (order : LaneOrder db) (lane : LaneKey) :
    ((laneEntries lane db).map QueueEntry.readinessSeq).Nodup := by
  have members : ∀ entry ∈ laneEntries lane db, entry ∈ db.entries ∧ entry.lane = lane := by
    intro entry listed
    simpa [laneEntries] using listed
  -- Sorting and selecting repeat no entry.
  have once : (laneEntries lane db).Nodup :=
    (List.perm_insertionSort _ _).nodup_iff.mpr (order.distinct.of_map.filter _)
  refine List.Nodup.map_on ?_ once
  intro first listed second listedToo same
  obtain ⟨stored, laned⟩ := members first listed
  obtain ⟨storedToo, lanedToo⟩ := members second listedToo
  exact order.apart first stored second storedToo (laned.trans lanedToo.symm) same

theorem LaneOrder.first {db : QueueDb} (order : LaneOrder db)
    (stored : entry ∈ db.entries) (flying : entry.phase.inFlight = true) :
    firstActionable entry.lane db = some entry := by
  refine firstActionable_of_least stored rfl (QueuePhase.actionable_of_inFlight flying) ?_
  intro other present laned active apart
  have least := order.turn entry stored flying other present laned active
  -- Equal numbers would make them one entry.
  have different : entry.readinessSeq ≠ other.readinessSeq := by
    intro same
    exact apart (order.apart other present entry stored laned same.symm)
  omega

open Transaction

theorem EntriesStill.of_eq {db later : QueueDb} (entries : later.entries = db.entries)
    (lanes : later.lanes = db.lanes) : EntriesStill db later :=
  ⟨entries, .of_lanes lanes⟩

theorem EntriesStill.updateLane (db : QueueDb) (lane : LaneKey) {edit : LaneRow → LaneRow}
    (keeps : ∀ row, (edit row).lane = row.lane ∧ (edit row).readinessSeq = row.readinessSeq) :
    EntriesStill db (db.updateLane lane edit) := by
  refine ⟨rfl, .updateLane lane ?_⟩
  intro row
  exact ⟨(keeps row).1, (keeps row).2.symm.le⟩

theorem EntriesStill.ensureLane (db : QueueDb) (lane : LaneKey) :
    EntriesStill db (db.ensureLane lane) :=
  ⟨ensureLane_entries db lane, .ensureLane db lane⟩

def StepsEntries {α : Type} (tx : Tx α) : Prop :=
  ∀ host db, LaneOrder db → tx.Commits host db fun _ later => EntryStep db later

theorem stepsEntries_of_keeps {α : Type} {tx : Tx α} (kept : Keeps EntriesStill tx) :
    StepsEntries tx := by
  intro host db _
  refine (kept host db).mono ?_
  intro _ later still
  exact .still still

theorem entryStep_of_move {config : Interleaved.Config Nat QueueWorld QueueEffect}
    (uses : Interleaved.AllUse (fun _ => OnTx StepsEntries) config)
    (order : LaneOrder config.shared.db)
    (next : Interleaved.Move Nat QueueAnswers MergeReceiptRow) :
    EntryStep config.shared.db (queueSystem.move config next).shared.db := by
  have idle : EntryStep config.shared.db config.shared.db := .still (Std.Refl.refl _)
  cases next with
  | external receipt => exact .still (.of_eq rfl rfl)
  | crash caller => exact idle
  | run caller answers =>
    refine uses.run_related (fun world later => EntryStep world.db later.db) idle ?_
    intro β effect meets
    refine performQueue_onTx meets idle ?_
    intro α body steps
    exact steps answers.host config.shared.db order

section

variable [JsDate]

theorem keeps_append (lane : LaneKey) (recordedAt : String) (body : QueueEventBody) :
    Keeps EntriesStill (QueueStore.append lane recordedAt body) :=
  .bind (.refuse _ _) fun _ => .modify fun _ => .of_eq rfl rfl

theorem keeps_timeInside (reading : Nat) : Keeps EntriesStill (QueueOwner.timeInside reading) :=
  .bind (.ask _) fun _ => .raise _

theorem keeps_assertFence (fence : QueueFence) (now : String) :
    Keeps EntriesStill (assertFence fence now) := by
  intro host db
  refine (assertFence_commits fence now host db).mono ?_
  rintro row later ⟨unchanged, -⟩
  rw [unchanged]
  exact Std.Refl.refl db

theorem keeps_park (lane : LaneKey) (parkedAt reason : String) :
    Keeps EntriesStill (QueueOwner.park lane parkedAt reason) := by
  refine .bind (.read _) fun prior => ?_
  split
  · exact .throw _
  · split
    · exact .pure _
    · refine .bind (.modify fun db => .updateLane db lane fun _ => ⟨rfl, rfl⟩) fun _ => ?_
      exact .bind (.read _) fun _ => .bind (keeps_append _ _ _) fun _ => .pure _

theorem keeps_settle (lane : LaneKey) (operationId : String) (result : Json) (settledAt : String) :
    Keeps EntriesStill (QueueOwner.settle lane operationId result settledAt) :=
  .bind (.refuse _ _) fun _ => .bind (.modify fun _ => .of_eq rfl rfl) fun _ =>
    keeps_append _ _ _

theorem keeps_takeOver (args : QueueOwner.ClaimArgs) (lane : LaneKey) (prior : LaneRow)
    (pending : List OperationRow) (evidence : Json) (claimedAt expiresAt : String) :
    Keeps EntriesStill
      (QueueOwner.takeOver args lane prior pending evidence claimedAt expiresAt) := by
  refine .bind (.read _) fun found => ?_
  split
  · exact .throw _
  · refine .bind (.refuse _ _) fun _ => .bind (.refuse _ _) fun _ => ?_
    refine .bind (.each (fun _ => keeps_settle _ _ _ _) pending) fun _ => ?_
    refine .bind (.modify fun db => .updateLane db lane fun _ => ⟨rfl, rfl⟩) fun _ => ?_
    refine .bind (.read _) fun owner => ?_
    split
    · exact .throw _
    · exact .bind (keeps_append _ _ _) fun _ => .pure _

theorem keeps_renewTx (fence : QueueFence) (lane : LaneKey) (expiresAt : String) :
    Keeps EntriesStill (QueueOwner.renewTx fence lane expiresAt) := by
  refine .bind (keeps_timeInside _) fun _ => .bind (keeps_assertFence _ _) fun _ => ?_
  refine .bind (.refuse _ _) fun _ => ?_
  refine .bind (.modify fun db => .updateLane db lane fun _ => ⟨rfl, rfl⟩) fun _ => ?_
  exact .bind (.read _) fun _ => .bind (keeps_append _ _ _) fun _ => .pure _

theorem keeps_releaseTx (fence : QueueFence) (lane : LaneKey) :
    Keeps EntriesStill (QueueOwner.releaseTx fence lane) := by
  refine .bind (keeps_timeInside _) fun _ => .bind (keeps_assertFence _ _) fun _ => ?_
  refine .bind (.read _) fun _ => .bind (.refuse _ _) fun _ => ?_
  refine .bind (.modify fun db => .updateLane db lane fun _ => ⟨rfl, rfl⟩) fun _ => ?_
  exact .bind (.read _) fun _ => .bind (keeps_append _ _ _) fun _ => .pure _

theorem keeps_prepare (args : QueueOwner.IssueArgs) (lane : LaneKey) (issuedAt : String) :
    Keeps EntriesStill (QueueOwner.prepare args lane issuedAt) := by
  refine .bind (keeps_assertFence _ _) fun _ => .bind (.read _) fun found => ?_
  split
  · exact .bind (.refuse _ _) fun _ => .bind (.read _) fun _ => .bind (.refuse _ _) fun _ =>
      .pure _
  · refine .bind (.read _) fun _ => .bind (.refuse _ _) fun _ => .bind (.raise _) fun _ => ?_
    refine .bind (.read _) fun _ => .bind (.read _) fun entry => ?_
    split
    · exact .throw _
    · refine .bind (.refuse _ _) fun _ => .bind (.ask _) fun _ => .bind (.raise _) fun _ => ?_
      refine .bind (.refuse _ _) fun _ => .bind (.modify fun _ => .of_eq rfl rfl) fun _ => ?_
      exact .bind (keeps_append _ _ _) fun _ => .pure _

theorem keeps_settleIssued (fence : QueueFence) (lane : LaneKey) (operationId : String)
    (result : Json) : Keeps EntriesStill (QueueOwner.settleIssued fence lane operationId result) :=
  .bind (keeps_timeInside _) fun _ => .bind (keeps_assertFence _ _) fun _ =>
    .bind (keeps_timeInside _) fun _ => keeps_settle _ _ _ _

theorem keeps_initializeRoute (route : LaneRoute) (lane : LaneKey) :
    Keeps EntriesStill (LaneRouting.initialize_ route lane) := by
  refine .bind (.modify fun db => .ensureLane db lane) fun _ => ?_
  refine .bind (keeps_timeInside _) fun _ => .modify fun db => ?_
  rw [ensureRoute_eq]
  exact .of_eq rfl rfl

theorem keeps_refreshRoute (lane : LaneKey) (configGeneration : String) (runtime : Option Json) :
    Keeps EntriesStill (LaneRouting.refreshRoute lane configGeneration runtime) :=
  .bind (keeps_timeInside _) fun _ => .modify fun _ => .of_eq rfl rfl

theorem keeps_startWriter (lane : LaneKey) (routeGeneration : Nat) (kind : LegacyWriterKind) :
    Keeps EntriesStill (LaneRouting.startWriter lane routeGeneration kind) :=
  .bind (.ask _) fun _ => .bind (keeps_timeInside _) fun _ => .bind (.read _) fun _ =>
    .bind (.refuse _ _) fun _ => .bind (.modify fun _ => .of_eq rfl rfl) fun _ => .pure _

theorem keeps_beginTransfer (args : LaneRouting.TransferArgs) (lane : LaneKey)
    (source : LaneExecutor) : Keeps EntriesStill (LaneRouting.beginTransfer args lane source) := by
  refine .bind (keeps_timeInside _) fun _ => .bind (keeps_timeInside _) fun _ => ?_
  refine .bind (.modify fun _ => .of_eq rfl rfl) fun _ => ?_
  refine .bind (.modify fun db => .updateLane db lane fun _ => ⟨rfl, rfl⟩) fun _ => ?_
  exact .bind (keeps_timeInside _) fun _ => .bind (.read _) fun _ => keeps_append _ _ _

theorem keeps_settleDrained (lane : LaneKey) (evidence : Json) (reading : Nat)
    (pending : List OperationRow) :
    Keeps EntriesStill (LaneRouting.settleDrained lane evidence reading pending) := by
  -- Every operation is settled under the next reading of the clock.
  induction pending generalizing reading with
  | nil => exact .pure _
  | cons op rest ih =>
    exact .bind (.modify fun _ => .of_eq rfl rfl) fun _ => .bind (keeps_timeInside _) fun _ =>
      .bind (keeps_append _ _ _) fun _ => ih _

theorem keeps_settleTransfer (args : LaneRouting.TransferArgs) (lane : LaneKey)
    (writers : List LegacyWriterRow) (pending : List OperationRow) (evidence : Json) :
    Keeps EntriesStill (LaneRouting.settleTransfer args lane writers pending evidence) := by
  refine .bind (.each (fun _ => .modify fun _ => .of_eq rfl rfl) writers) fun _ => ?_
  refine .bind (keeps_settleDrained _ _ _ _) fun _ => ?_
  split
  · refine .bind (.read _) fun _ => .each (fun entry => .modify fun db => ?_) _
    rw [listReturn_eq]
    exact .of_eq rfl rfl
  · exact .pure _

theorem keeps_completeTransfer (args : LaneRouting.TransferArgs) (lane : LaneKey) :
    Keeps EntriesStill (LaneRouting.completeTransfer args lane) := by
  refine .bind (keeps_timeInside _) fun _ => .bind (.modify fun _ => .of_eq rfl rfl) fun _ => ?_
  refine .bind (.modify fun db => .updateLane db lane fun _ => ⟨rfl, rfl⟩) fun _ => ?_
  exact .bind (keeps_timeInside _) fun _ => .bind (.read _) fun _ => keeps_append _ _ _

theorem stepsEntries_acknowledge (args : AcknowledgeArgs) : StepsEntries (acknowledge args) := by
  intro host db order
  have commits := @acknowledge_commits _ .all false args host db fun _ _ => .inl rfl
  refine commits.mono ?_
  rintro _ later ⟨lane, -, same | step⟩
  · rw [same]
    exact .still (.ensureLane db lane)
  · -- The lane's row is there before its number is taken.
    have still := EntriesStill.ensureLane db lane
    refine .of_still still ?_ (step.entryStep (order.of_still still))
    intro wanted row found
    rw [readOwner_ensureLane]
    by_cases same : lane = wanted
    · subst same
      simp [found]
    · rw [if_neg same]
      exact found

theorem stepsEntries_progress (args : ProgressArgs) : StepsEntries (progress args) := by
  intro host db order
  have commits := @progress_commits _ .all false args host db fun _ _ _ _ _ => trivial
  refine commits.mono ?_
  rintro _ later ⟨lane, -, step⟩
  exact step.entryStep order

theorem stepsEntries_returnEntry (lane : LaneKey) (row : ReturnRow) (receipt : Json) :
    StepsEntries (LaneRouting.returnEntry lane row receipt) := by
  intro host db order
  unfold LaneRouting.returnEntry
  simp only [commits_bind, commits_modify, commits_read]
  split
  · exact (commits_throw _).mpr trivial
  · next entry found =>
    obtain ⟨stored, -⟩ := readEntry_eq_some found
    simp only [commits_ite, commits_pure]
    refine ⟨fun _ => .still (.of_eq rfl rfl), ?_⟩
    intro live
    simp only [commits_bind, commits_timeInside, commits_refuse, commits_modify, commits_read]
    intro returnedAt _ _
    split
    · exact (commits_throw _).mpr trivial
    · simp only [commits_append]
      intro _
      refine .moved entry _ (.of_lanes rfl) stored rfl rfl rfl (by simpa using live) ?_ (.inl ?_)
      · intro merged
        cases merged
      · refine ⟨rfl, ?_⟩
        intro active
        cases active

theorem LaneCall.stepsEntries [HandoffDigest] (call : LaneCall) :
    Transacts StepsEntries call.program := by
  have reads : ∀ {α : Type} (reader : QueueDb → α),
      StepsEntries (Transaction.read reader : Tx α) :=
    fun reader => stepsEntries_of_keeps (.read reader)
  cases call with
  | claim args =>
    refine (QueueOwner.transacts_claim reads ?_ ?_ ?_).bind fun _ => trivial
    · exact fun lane => stepsEntries_of_keeps (.modify fun db => .ensureLane db lane)
    · exact fun _ _ _ => stepsEntries_of_keeps (keeps_park _ _ _)
    · exact fun _ _ _ _ _ _ => stepsEntries_of_keeps (keeps_takeOver _ _ _ _ _ _ _)
  | renew fence expiresAt =>
    refine (QueueOwner.transacts_renew ?_).bind fun _ => trivial
    exact fun _ _ => stepsEntries_of_keeps (keeps_renewTx _ _ _)
  | release fence =>
    refine (QueueOwner.transacts_release ?_).bind fun _ => trivial
    exact fun _ => stepsEntries_of_keeps (keeps_releaseTx _ _)
  | issue args =>
    refine (QueueOwner.transacts_issue ?_ ?_).bind fun _ => trivial
    · exact fun _ _ => stepsEntries_of_keeps (keeps_prepare _ _ _)
    · exact fun _ _ _ => stepsEntries_of_keeps (keeps_settleIssued _ _ _ _)
  | progress args =>
    exact (transacts_transact (stepsEntries_progress args)).bind fun _ => trivial
  | run args =>
    refine (LaneRouting.transacts_run reads ?_ ?_ ?_ ?_ ?_).bind fun _ => trivial
    · exact fun _ => stepsEntries_of_keeps (keeps_initializeRoute _ _)
    · exact fun _ _ _ => stepsEntries_of_keeps (keeps_refreshRoute _ _ _)
    · exact stepsEntries_acknowledge
    · exact fun _ _ _ => stepsEntries_of_keeps (keeps_startWriter _ _ _)
    · exact fun _ _ => stepsEntries_of_keeps (.modify fun _ => .of_eq rfl rfl)
  | transfer args =>
    refine (LaneRouting.transacts_transfer reads ?_ ?_ ?_ ?_ ?_).bind fun _ => trivial
    · exact fun _ => stepsEntries_of_keeps (keeps_initializeRoute _ _)
    · exact fun _ _ => stepsEntries_of_keeps (keeps_beginTransfer _ _ _)
    · exact fun _ _ _ _ => stepsEntries_of_keeps (keeps_settleTransfer _ _ _ _ _)
    · exact stepsEntries_returnEntry
    · exact fun _ => stepsEntries_of_keeps (keeps_completeTransfer _ _)

theorem QueueCall.stepsEntries [HandoffDigest] (call : QueueCall) :
    Transacts StepsEntries call.program := by
  cases call with
  | acknowledge args =>
    exact (transacts_transact (stepsEntries_acknowledge args)).bind fun _ => trivial
  | lane call => exact call.stepsEntries

variable [HandoffDigest]

theorem runCalls_inOrder (calls : Nat → QueueCall)
    (moves : List (Interleaved.Move Nat QueueAnswers MergeReceiptRow)) :
    Interleaved.AllUse (fun _ => OnTx StepsEntries) (runCalls calls moves) ∧
      LaneOrder (runCalls calls moves).shared.db := by
  -- The schedule is extended at its end, one choice at a time.
  induction moves using List.reverseRecOn with
  | nil =>
    refine ⟨fun caller => (calls caller).stepsEntries, ?_⟩
    constructor <;> simp [runCalls, startCalls]
  | append_singleton moves next ih =>
    obtain ⟨uses, order⟩ := ih
    rw [runCalls_snoc]
    exact ⟨uses.move next, order.step (entryStep_of_move uses order next)⟩

theorem runCalls_advance (calls : Nat → QueueCall)
    (moves more : List (Interleaved.Move Nat QueueAnswers MergeReceiptRow)) :
    EntriesAdvance (runCalls calls moves).shared.db (runCalls calls (moves ++ more)).shared.db := by
  induction more using List.reverseRecOn with
  | nil =>
    rw [List.append_nil]
    exact .refl _
  | append_singleton more next ih =>
    obtain ⟨uses, order⟩ := runCalls_inOrder calls (moves ++ more)
    rw [← List.append_assoc, runCalls_snoc]
    exact ih.trans ((entryStep_of_move uses order next).advance order)

/--
In every run of the queue the readiness numbers of a lane are distinct and only grow, whoever is
in flight is the lane's first actionable entry, an entry that has ended stays as it is, and an
entry is merged only from finalizing.
-/
theorem queue_runs_in_order (calls : Nat → QueueCall)
    (moves more : List (Interleaved.Move Nat QueueAnswers MergeReceiptRow))
    (next : Interleaved.Move Nat QueueAnswers MergeReceiptRow) :
    let db := (runCalls calls moves).shared.db
    (∀ lane, ((laneEntries lane db).map QueueEntry.readinessSeq).Nodup) ∧
      (∀ entry ∈ db.entries, entry.phase.inFlight = true →
        firstActionable entry.lane db = some entry) ∧
      EntriesAdvance db (runCalls calls (moves ++ more)).shared.db ∧
      MergedFromFinalizing db (runCalls calls (moves ++ [next])).shared.db := by
  intro db
  obtain ⟨uses, order⟩ := runCalls_inOrder calls moves
  refine ⟨order.numbers, fun entry stored flying => order.first stored flying,
    runCalls_advance calls moves more, ?_⟩
  rw [runCalls_snoc]
  exact (entryStep_of_move uses order next).merges

end

end AdversarialReview
