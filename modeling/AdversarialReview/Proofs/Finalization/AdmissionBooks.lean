import AdversarialReview.Finalization.QueueAdmission
import AdversarialReview.Proofs.Finalization.QueueStore

/-! The tables of admission agree: one entry a key, and rows that stand for what was submitted. -/

namespace AdversarialReview

open Transaction Json

structure EntryChecked (entry : QueueEntry) : Prop where
  lane : resolveLaneKey entry.lane = .ok entry.lane
  entryId : queueId entry.entryId = .ok entry.entryId
  handoffId : queueId entry.handoffId = .ok entry.handoffId
  ackId : queueId entry.ackId = .ok entry.ackId
  numbers : (!safePositive entry.prNumber || entry.head = "" ||
    !safePositive entry.admissionGeneration) = false

theorem queueId_same {value accepted : String} (accepts : queueId value = .ok accepted) :
    accepted = value := by
  unfold queueId at accepts
  dsimp only at accepts
  split_ifs at accepts
  exact (Except.ok.inj accepts).symm

def HasLane (lane : LaneKey) (db : QueueDb) : Prop :=
  db.lanes.any (fun row => row.lane = lane) = true

theorem hasLane_ensureLane (lane : LaneKey) (db : QueueDb) : HasLane lane (db.ensureLane lane) := by
  unfold HasLane QueueDb.ensureLane
  split
  · next listed => exact listed
  · simp

variable {lane : LaneKey}

theorem HasLane.ensureLane {db : QueueDb} (listed : HasLane lane db) (other : LaneKey) :
    HasLane lane (db.ensureLane other) := by
  unfold HasLane QueueDb.ensureLane at *
  split
  · exact listed
  · simp only [List.any_append, listed, Bool.true_or]

theorem HasLane.bumpReadiness {db : QueueDb} (listed : HasLane lane db) (other : LaneKey) :
    HasLane lane (db.bumpReadiness other) := by
  -- Counting up rewrites a row under its own lane.
  unfold HasLane QueueDb.bumpReadiness QueueDb.updateLane at *
  simp only [List.any_eq_true, decide_eq_true_eq, List.any_map, Function.comp] at *
  obtain ⟨row, stored, named⟩ := listed
  refine ⟨row, stored, ?_⟩
  split <;> exact named

theorem HasLane.ensured {db : QueueDb} (listed : HasLane lane db) :
    db.ensureLane lane = db := by
  unfold HasLane at listed
  simp only [QueueDb.ensureLane, listed, if_true]

structure Describes (args : AcknowledgeArgs) (entry : QueueEntry) : Prop where
  entryId : entry.entryId = args.entryId
  prNumber : entry.prNumber = args.prNumber
  head : entry.head = args.head
  admissionGeneration : entry.admissionGeneration = args.admissionGeneration
  handoffId : entry.handoffId = args.handoffId
  ackId : entry.ackId = args.ackId
  handoffDigest : entry.handoffDigest = args.handoffDigest

section

variable [JsDate]

/-- What the store checks of an admission before it reads the entries. -/
structure ArgsChecked (args : AcknowledgeArgs) (lane : LaneKey) : Prop where
  lane : resolveLaneKey args.lane = .ok lane
  entryId : queueId args.entryId = .ok args.entryId
  handoffId : queueId args.handoffId = .ok args.handoffId
  ackId : queueId args.ackId = .ok args.ackId
  numbers : (!safePositive args.prNumber || args.head = "" ||
    !safePositive args.admissionGeneration) = false

theorem acknowledge_admits (args : AcknowledgeArgs) (host : Host) (db : QueueDb) :
    (acknowledge args).Commits host db fun entry later =>
      ∃ lane, ArgsChecked args lane ∧ entry.lane = lane ∧
        (db.entries.filter (args.names lane) = [] ∧ later.entries = db.entries ++ [entry] ∧
            later.lanes = ((db.ensureLane lane).bumpReadiness lane).lanes ∧
            Describes args entry ∧ (∀ other ∈ db.entries, entry.conflicts other = false) ∨
          db.entries.filter (args.names lane) = [entry] ∧ args.repeats entry = true ∧
            later = db.ensureLane lane) := by
  unfold acknowledge
  simp only [commits_bind, commits_raise, commits_refuse, commits_modify, commits_read]
  intro lane resolved acknowledgedAt _ entryId first handoffId second ackId third numbers
  have checked : ArgsChecked args lane := by
    refine ⟨resolved, ?_, ?_, ?_, by simpa using numbers⟩
    · rw [first, queueId_same first]
    · rw [second, queueId_same second]
    · rw [third, queueId_same third]
  simp only [ensureLane_entries]
  split
  · -- Nobody was admitted under any of these names.
    next unnamed =>
    simp only [commits_bind, commits_ask, commits_raise]
    refine (nextReadiness_commits lane host _).mono ?_
    rintro number _ ⟨rfl, row, listed, numbered⟩ patience _
    simp only [insertEntry, commits_bind, commits_read, commits_refuse, commits_modify,
      commits_append, commits_pure]
    intro apart _
    refine ⟨lane, checked, rfl, .inl ⟨unnamed, ?_, rfl, ⟨rfl, rfl, rfl, rfl, rfl, rfl, rfl⟩, ?_⟩⟩
    · simp [QueueDb.log, QueueDb.bumpReadiness, QueueDb.updateLane]
    · simpa [QueueDb.bumpReadiness, QueueDb.updateLane] using apart
  · -- The entry that is there is repeated.
    next entry named =>
    simp only [commits_bind, commits_refuse, commits_pure]
    intro repeats
    have listed : entry ∈ db.entries.filter (args.names lane) := by simp [named]
    have laned : entry.lane = lane := by
      have names := (List.mem_filter.mp listed).2
      simp only [AcknowledgeArgs.names, Bool.and_eq_true, decide_eq_true_eq] at names
      exact names.1
    exact ⟨lane, checked, laned, .inr ⟨named, by simpa using repeats, rfl⟩⟩
  · exact (commits_throw _).mpr trivial

theorem acknowledge_repeats {args : AcknowledgeArgs} {lane : LaneKey} {time : String}
    {entry : QueueEntry} {db : QueueDb} (host : Host) (checked : ArgsChecked args lane)
    (timed : queueTime args.acknowledgedAt = .ok time) (listed : HasLane lane db)
    (named : db.entries.filter (args.names lane) = [entry])
    (repeats : args.repeats entry = true) : acknowledge args host db = .ok (entry, db) := by
  -- Every check passes, and the lane has its row already.
  simp only [acknowledge, checked.lane, timed, checked.entryId, checked.handoffId, checked.ackId,
    bind_raise_ok]
  rw [bind_refuse (by simpa using checked.numbers)]
  simp only [bind_modify, bind_read, listed.ensured, named]
  rw [bind_refuse (by simp [repeats]), pure_apply]

end

theorem QueueEntry.conflicts_comm (first second : QueueEntry) :
    first.conflicts second = second.conflicts first := by
  simp only [QueueEntry.conflicts, eq_comm]

@[simp] theorem commits_onQueue {α : Type} {host : Host} {db : AdmissionDb} (tx : Tx α)
    {post : α → AdmissionDb → Prop} :
    (onQueue tx).Commits host db post ↔
      tx.Commits host db.queue fun value queue => post value { db with queue } := by
  constructor
  · intro commits value queue done
    exact commits value _ (by simp only [onQueue, done])
  · intro commits value later done
    unfold onQueue at done
    split at done
    · next value queue committed =>
      cases done
      exact commits value queue committed
    · cases done

/-- What was stored stays stored. -/
structure Grows (db later : AdmissionDb) : Prop where
  entries : ∀ entry ∈ db.queue.entries, entry ∈ later.queue.entries
  handoffs : ∀ row ∈ db.handoffs, row ∈ later.handoffs
  cleanReviews : ∀ row ∈ db.cleanReviews, row ∈ later.cleanReviews

theorem Grows.refl (db : AdmissionDb) : Grows db db :=
  ⟨fun _ stored => stored, fun _ stored => stored, fun _ stored => stored⟩

theorem Grows.trans {first second third : AdmissionDb} (one : Grows first second)
    (two : Grows second third) : Grows first third :=
  ⟨fun entry stored => two.entries entry (one.entries entry stored),
    fun row stored => two.handoffs row (one.handoffs row stored),
    fun row stored => two.cleanReviews row (one.cleanReviews row stored)⟩

/-- The entries of a queue whose only admissions are handoffs and clean reviews. -/
structure EntryBooks [HandoffDigest] (db : QueueDb) : Prop where
  distinct : (db.entries.map QueueEntry.entryId).Nodup
  apart : ∀ first ∈ db.entries, ∀ second ∈ db.entries, first.conflicts second = true →
    first = second
  laned : ∀ entry ∈ db.entries, HasLane entry.lane db
  checked : ∀ entry ∈ db.entries, EntryChecked entry
  entryId : ∀ entry ∈ db.entries, entry.entryId = "q:" ++ entry.key.digest
  ackId : ∀ entry ∈ db.entries, entry.ackId = "ack:" ++ entry.key.digest

theorem readAdmission_ok {body : Json} {key : AdmissionKey} {handoffId : String}
    (reads : readAdmission body = .ok (key, handoffId)) :
    handoffLane body = .ok key.lane ∧ readHandoffId body = .ok handoffId ∧
      readSubject body = .ok (key.prNumber, key.admissionGeneration, key.head) := by
  obtain ⟨lane, resolved, reads⟩ := ok_of_bind reads
  obtain ⟨value, named, reads⟩ := ok_of_bind reads
  obtain ⟨subject, stated, reads⟩ := ok_of_bind reads
  cases reads
  exact ⟨resolved, named, stated⟩

theorem Handoff.lane_resolved (handoff : Handoff) :
    ∃ named, resolveLaneKey named = .ok handoff.key.lane := by
  obtain ⟨lane, -, -⟩ := readAdmission_ok handoff.states
  unfold handoffLane at lane
  split at lane
  · exact ⟨_, lane⟩
  · cases lane
  · cases lane

theorem Handoff.eq_of_body {first second : Handoff} (same : first.body = second.body) :
    first.key = second.key ∧ first.handoffId = second.handoffId := by
  have states := first.states
  rw [same, second.states, Except.ok.injEq, Prod.mk.injEq] at states
  exact ⟨states.1.symm, states.2.symm⟩

theorem Handoff.lane_again (handoff : Handoff)
    (again : resolveLaneKey handoff.key.lane = .ok lane) : lane = handoff.key.lane := by
  obtain ⟨named, first⟩ := handoff.lane_resolved
  exact resolveLaneKey_again first again

section

variable [HandoffDigest]

theorem EntryBooks.empty : EntryBooks {} :=
  ⟨by simp, by simp, by simp, by simp, by simp, by simp⟩

theorem EntryBooks.eq_of_key {db : QueueDb} (books : EntryBooks db) {first second : QueueEntry}
    (one : first ∈ db.entries) (two : second ∈ db.entries) (same : first.key = second.key) :
    first = second := by
  refine books.apart first one second two ?_
  simp only [QueueEntry.key, AdmissionKey.mk.injEq] at same
  simp [QueueEntry.conflicts, same]

theorem EntryBooks.eq_of_handoff {db : QueueDb} (books : EntryBooks db)
    {first second : QueueEntry} (one : first ∈ db.entries) (two : second ∈ db.entries)
    (lane : first.lane = second.lane) (same : first.handoffId = second.handoffId) :
    first = second := by
  refine books.apart first one second two ?_
  simp [QueueEntry.conflicts, lane, same]

/-- What an admission leaves behind: an entry that stands for its payload. -/
structure Stands (handoff : Handoff) (entry : QueueEntry) : Prop where
  key : entry.key = handoff.key
  handoffId : entry.handoffId = handoff.handoffId
  handoffDigest : entry.handoffDigest = some handoff.digest

theorem parseHandoff_commits (row : Option HandoffRow) (host : Host) (db : AdmissionDb) :
    (parseHandoff row).Commits host db fun read later => later = db ∧ read = row := by
  unfold parseHandoff
  split
  · simp
  · simp only [commits_bind, commits_read]
    split
    · exact (commits_throw _).mpr trivial
    · simp

theorem replay_commits (handoff : Handoff) (host : Host) (db : AdmissionDb) :
    (replay handoff).Commits host db fun existing later => later = db ∧
      (existing = none ∧ handoffOf handoff.key db = none ∧
          handoffNamed handoff.handoffId db = none ∨
        ∃ prior named, existing = some prior.ack ∧ handoffOf handoff.key db = some prior ∧
          handoffNamed handoff.handoffId db = some named ∧ prior.ack.ackId = named.ack.ackId ∧
          prior.ack.payloadDigest = handoff.digest) := by
  unfold replay
  simp only [commits_bind, commits_read]
  refine (parseHandoff_commits _ host db).mono ?_
  rintro prior later ⟨rfl, keyed⟩
  refine (parseHandoff_commits _ host later).mono ?_
  rintro named last ⟨rfl, byName⟩
  split
  · simp only [commits_pure]
    exact ⟨trivial, .inl ⟨trivial, keyed.symm, byName.symm⟩⟩
  · simp only [commits_bind, commits_refuse, commits_pure]
    intro agrees
    simp only [ne_eq, decide_not, Bool.or_eq_true, Bool.not_eq_true', decide_eq_false_iff_not,
      not_or, not_not] at agrees
    exact ⟨trivial, .inr ⟨_, _, rfl, keyed.symm, byName.symm, agrees.1, agrees.2⟩⟩
  · exact (commits_throw _).mpr trivial

variable [JsDate]

/-- An admission keeps the books, and answers an entry that is new or was there before. -/
theorem acknowledge_books {db : QueueDb} (books : EntryBooks db) (handoff : Handoff)
    (acknowledgedAt : String) (host : Host) :
    (acknowledge (admissionArgs handoff acknowledgedAt)).Commits host db fun entry later =>
      EntryBooks later ∧ entry ∈ later.entries ∧ Stands handoff entry ∧
        (later.entries = db.entries ++ [entry] ∧
            (∀ other ∈ db.entries, entry.conflicts other = false) ∨
          entry ∈ db.entries ∧ later = db) := by
  refine (acknowledge_admits _ host db).mono ?_
  rintro entry later ⟨lane, checked, laned, fresh | again⟩
  · -- A fresh entry takes its names from its key.
    obtain ⟨-, stored, lanes, described, apart⟩ := fresh
    have same := handoff.lane_again checked.lane
    have key : entry.key = handoff.key := by
      simp only [QueueEntry.key, laned, same, described.prNumber, described.head,
        described.admissionGeneration, admissionArgs]
    have kept : ∀ other, HasLane other db → HasLane other later := by
      intro other listed
      have counted := (listed.ensureLane lane).bumpReadiness lane
      unfold HasLane at counted ⊢
      rw [lanes]
      exact counted
    have own : HasLane entry.lane later := by
      have counted := (hasLane_ensureLane lane db).bumpReadiness lane
      unfold HasLane at counted ⊢
      rw [lanes, laned]
      exact counted
    have checks : EntryChecked entry := by
      refine ⟨?_, ?_, ?_, ?_, ?_⟩
      · have resolved := checked.lane
        rw [same] at resolved
        rw [laned, same]
        exact resolved
      · rw [described.entryId]
        exact checked.entryId
      · rw [described.handoffId]
        exact checked.handoffId
      · rw [described.ackId]
        exact checked.ackId
      · rw [described.prNumber, described.head, described.admissionGeneration]
        exact checked.numbers
    -- What holds of every stored entry and of the new one holds of them all.
    have everywhere : ∀ {holds : QueueEntry → Prop}, (∀ other ∈ db.entries, holds other) →
        holds entry → ∀ other ∈ later.entries, holds other := by
      intro holds before new other listed
      rw [stored, List.mem_append, List.mem_singleton] at listed
      rcases listed with old | rfl
      · exact before other old
      · exact new
    refine ⟨⟨?_, ?_, ?_, ?_, ?_, ?_⟩, by simp [stored], ⟨key, described.handoffId,
      described.handoffDigest⟩, .inl ⟨stored, apart⟩⟩
    · rw [stored]
      refine Table.nodup_insert books.distinct ?_
      intro other listed named
      have distinct := apart other listed
      simp [QueueEntry.conflicts, named] at distinct
    · refine everywhere (fun first one => everywhere (fun second two =>
        books.apart first one second two) fun clash => ?_)
        (everywhere (fun second two clash => ?_) fun _ => rfl)
      · rw [QueueEntry.conflicts_comm, apart first one] at clash
        cases clash
      · rw [apart second two] at clash
        cases clash
    · exact everywhere (fun other listed => kept _ (books.laned other listed)) own
    · exact everywhere books.checked checks
    · exact everywhere books.entryId (by rw [described.entryId, key]; rfl)
    · exact everywhere books.ackId (by rw [described.ackId, key]; rfl)
  · -- A repeated entry leaves the tables as they are.
    obtain ⟨named, repeats, rfl⟩ := again
    have listed : entry ∈ db.entries := by
      have filtered :
          entry ∈ db.entries.filter ((admissionArgs handoff acknowledgedAt).names lane) := by
        simp [named]
      exact (List.mem_filter.mp filtered).1
    have same := handoff.lane_again checked.lane
    have unchanged : db.ensureLane lane = db := (laned ▸ books.laned entry listed).ensured
    simp only [AcknowledgeArgs.repeats, Bool.and_eq_true, decide_eq_true_eq] at repeats
    obtain ⟨⟨⟨⟨⟨prNumber, head⟩, generation⟩, handoffId⟩, -⟩, digest⟩ := repeats
    have key : entry.key = handoff.key := by
      simp only [QueueEntry.key, laned, same, prNumber, head, generation, admissionArgs]
    rw [unchanged]
    exact ⟨books, listed, ⟨key, handoffId, digest⟩, .inr ⟨listed, rfl⟩⟩

structure HandoffKept (db : AdmissionDb) (row : HandoffRow) (entry : QueueEntry) : Prop where
  stored : entry ∈ db.queue.entries
  entryId : entry.entryId = row.entryId
  key : entry.key = row.key
  handoffId : entry.handoffId = row.handoffId
  consistent : row.consistent entry = true

variable [FencedEvidence]

structure CleanReviewKept (db : AdmissionDb) (row : CleanReviewRow) (entry : QueueEntry) :
    Prop where
  stored : entry ∈ db.queue.entries
  entryId : entry.entryId = row.entryId
  consistent : row.consistent entry = true
  valid : validateCleanReview row.input.body row.evidence = .ok ()

/-- The tables of admission agree with one another. -/
structure AdmissionBooks (db : AdmissionDb) : Prop where
  entries : EntryBooks db.queue
  handoffs : ∀ row ∈ db.handoffs, ∃ entry, HandoffKept db row entry
  oneHandoff : (db.handoffs.map HandoffRow.handoffId).Nodup
  apart : ∀ first ∈ db.handoffs, ∀ second ∈ db.handoffs,
    first.handoffId = second.handoffId ∨ first.entryId = second.entryId ∨
      first.key = second.key → first = second
  cleanReviews : ∀ row ∈ db.cleanReviews, ∃ entry, CleanReviewKept db row entry
  oneCleanReview : (db.cleanReviews.map CleanReviewRow.entryId).Nodup

def HandoffStands (handoff : Handoff) (ack : HandoffAck) (db : AdmissionDb) : Prop :=
  ∃ row ∈ db.handoffs, row.ack = ack ∧ row.key = handoff.key ∧
    row.handoffId = handoff.handoffId ∧ row.payloadDigest = handoff.digest

def CleanReviewStands (review : Handoff) (entry : QueueEntry) (db : AdmissionDb) : Prop :=
  entry ∈ db.queue.entries ∧ Stands review entry ∧
    ∃ row ∈ db.cleanReviews, row.entryId = entry.entryId

variable {db : AdmissionDb}

omit [JsDate] in
theorem AdmissionBooks.eq_of_ackId (books : AdmissionBooks db)
    {first second : HandoffRow} (one : first ∈ db.handoffs) (two : second ∈ db.handoffs)
    (same : first.ack.ackId = second.ack.ackId) : first = second := by
  obtain ⟨entry, kept⟩ := books.handoffs first one
  obtain ⟨other, keptOther⟩ := books.handoffs second two
  have ack := kept.consistent
  have ackOther := keptOther.consistent
  simp only [HandoffRow.consistent, Bool.and_eq_true, decide_eq_true_eq] at ack ackOther
  -- Both identities come from a digest of the key, as the entries' identities do.
  have digests : entry.key.digest = other.key.digest := by
    have ids : entry.ackId = other.ackId := by
      rw [← ack.1.1.1.1.2, ← ackOther.1.1.1.1.2, same]
    rw [books.entries.ackId entry kept.stored, books.entries.ackId other keptOther.stored] at ids
    exact (String.append_right_inj _).mp ids
  refine books.apart first one second two (.inr (.inl ?_))
  rw [← kept.entryId, ← keptOther.entryId, books.entries.entryId entry kept.stored,
    books.entries.entryId other keptOther.stored, digests]

variable {entry : QueueEntry} {handoff : Handoff}

omit [JsDate] in
theorem AdmissionBooks.addHandoff (books : AdmissionBooks db) {queue : QueueDb} (evidence : Json)
    (entries : EntryBooks queue) (grown : ∀ other ∈ db.queue.entries, other ∈ queue.entries)
    (stored : entry ∈ queue.entries) (stands : Stands handoff entry)
    (fresh : ∀ other ∈ db.handoffs, ¬(other.handoffId = handoff.handoffId ∨
      other.entryId = entry.entryId ∨ other.key = handoff.key)) :
    AdmissionBooks { db with
      queue, handoffs := db.handoffs ++ [handoffRow handoff evidence entry] } := by
  have kept : HandoffKept { db with
      queue, handoffs := db.handoffs ++ [handoffRow handoff evidence entry] }
      (handoffRow handoff evidence entry) entry := by
    refine ⟨stored, rfl, stands.key, stands.handoffId, ?_⟩
    simp [HandoffRow.consistent, handoffRow, stands.handoffDigest]
  refine ⟨entries, ?_, ?_, ?_, ?_, books.oneCleanReview⟩
  · intro row listed
    rcases List.mem_append.mp listed with old | new
    · obtain ⟨other, keeps⟩ := books.handoffs row old
      exact ⟨other, grown other keeps.stored, keeps.entryId, keeps.key, keeps.handoffId,
        keeps.consistent⟩
    · rw [List.mem_singleton.mp new]
      exact ⟨entry, kept⟩
  · exact Table.nodup_insert books.oneHandoff fun other listed same =>
      fresh other listed (.inl same)
  · intro first one second two same
    rcases List.mem_append.mp one with old | new <;>
      rcases List.mem_append.mp two with older | newer
    · exact books.apart first old second older same
    · -- An old row shares none of the new row's columns.
      rw [List.mem_singleton.mp newer] at same
      exact absurd same (fresh first old)
    · rw [List.mem_singleton.mp new] at same
      refine absurd ?_ (fresh second older)
      rcases same with id | entryId | key
      · exact .inl id.symm
      · exact .inr (.inl entryId.symm)
      · exact .inr (.inr key.symm)
    · rw [List.mem_singleton.mp new, List.mem_singleton.mp newer]
  · intro row listed
    obtain ⟨other, keeps⟩ := books.cleanReviews row listed
    exact ⟨other, grown other keeps.stored, keeps.entryId, keeps.consistent, keeps.valid⟩

theorem commitHandoff_commits (books : AdmissionBooks db) (args : HandoffInput) (host : Host) :
    (commitHandoff args).Commits host db fun ack later =>
      AdmissionBooks later ∧ Grows db later ∧
        ∃ handoff, prepareHandoff args host = .ok handoff ∧ HandoffStands handoff ack later := by
  unfold commitHandoff
  simp only [commits_bind, commits_ask, commits_raise, id]
  intro handoff prepared
  refine (replay_commits handoff host db).mono ?_
  rintro existing later
    ⟨rfl, ⟨rfl, unkeyed, unnamed⟩ | ⟨prior, named, rfl, keyed, byName, acks, digest⟩⟩
  · simp only [commits_bind, commits_ask, commits_raise, commits_refuse, commits_onQueue]
    intro acknowledgedAt _ _
    refine (acknowledge_books books.entries handoff acknowledgedAt host).mono ?_
    rintro entry queue ⟨entries, stored, stands, added⟩
    simp only [insertHandoff, commits_bind, commits_read, commits_refuse, commits_modify,
      commits_pure]
    intro fresh
    have grown : ∀ other ∈ later.queue.entries, other ∈ queue.entries := by
      intro other listed
      rcases added with ⟨same, -⟩ | ⟨-, same⟩
      · simp [same, listed]
      · simp [same, listed]
    have unused : ∀ other ∈ later.handoffs, ¬(other.handoffId = handoff.handoffId ∨
        other.entryId = entry.entryId ∨ other.key = handoff.key) := by
      intro other listed clash
      refine fresh (List.any_eq_true.mpr ⟨other, listed, ?_⟩)
      simp only [Bool.or_eq_true, decide_eq_true_eq, or_assoc]
      exact clash
    refine ⟨books.addHandoff _ entries grown stored stands unused,
      ⟨grown, fun row listed => List.mem_append_left _ listed, fun row listed => listed⟩,
      handoff, prepared, handoffRow handoff (handoffJson args.evidence) entry, by simp, rfl, rfl,
      rfl, rfl⟩
  · simp only [commits_pure]
    have one := List.mem_of_find?_eq_some keyed
    have two := List.mem_of_find?_eq_some byName
    have same := books.eq_of_ackId one two acks
    refine ⟨books, Grows.refl later, handoff, prepared, prior, one, rfl, ?_, ?_, ?_⟩
    · simpa using List.find?_some keyed
    · rw [same]
      simpa using List.find?_some byName
    · obtain ⟨entry, kept⟩ := books.handoffs prior one
      have agrees := kept.consistent
      simp only [HandoffRow.consistent, Bool.and_eq_true, decide_eq_true_eq] at agrees
      rw [← agrees.1.1.1.2, digest]

omit [JsDate] in
theorem AdmissionBooks.addCleanReview (books : AdmissionBooks db)
    {queue : QueueDb} {row : CleanReviewRow} (entries : EntryBooks queue)
    (grown : ∀ other ∈ db.queue.entries, other ∈ queue.entries)
    (kept : CleanReviewKept { db with queue } row entry)
    (fresh : ∀ other ∈ db.cleanReviews, other.entryId ≠ row.entryId) :
    AdmissionBooks { db with queue, cleanReviews := db.cleanReviews ++ [row] } := by
  refine ⟨entries, ?_, books.oneHandoff, books.apart, ?_,
    Table.nodup_insert books.oneCleanReview fresh⟩
  · intro other listed
    obtain ⟨entry, keeps⟩ := books.handoffs other listed
    exact ⟨entry, grown entry keeps.stored, keeps.entryId, keeps.key, keeps.handoffId,
      keeps.consistent⟩
  · intro other listed
    rcases List.mem_append.mp listed with old | new
    · obtain ⟨entry, keeps⟩ := books.cleanReviews other old
      exact ⟨entry, grown entry keeps.stored, keeps.entryId, keeps.consistent, keeps.valid⟩
    · rw [List.mem_singleton.mp new]
      exact ⟨entry, kept.stored, kept.entryId, kept.consistent, kept.valid⟩

omit [JsDate] in
theorem readCleanReview_commits (entryId : String) (host : Host) (db : AdmissionDb) :
    (readCleanReview entryId).Commits host db fun read later => later = db ∧
      (∀ row, read = some row → row ∈ db.cleanReviews ∧ row.entryId = entryId) ∧
      (read = none → readEntry entryId db.queue ≠ none →
        ∀ row ∈ db.cleanReviews, row.entryId ≠ entryId) := by
  unfold readCleanReview
  simp only [commits_bind, commits_read]
  split
  · next row entry found _ =>
    simp only [commits_bind, commits_refuse, commits_raise, commits_pure]
    intro _ _ _
    refine ⟨trivial, ?_, fun none => (by cases none)⟩
    rintro read same
    cases same
    exact ⟨List.mem_of_find?_eq_some found, by simpa using List.find?_some found⟩
  · next missing =>
    simp only [commits_pure]
    refine ⟨trivial, fun row none => (by cases none), ?_⟩
    intro _ present row listed same
    -- The entry is there, so the review is what is missing.
    cases found : db.cleanReviews.find? fun row => row.entryId = entryId with
    | none =>
      have absent := List.find?_eq_none.mp found row listed
      simp [same] at absent
    | some other =>
      cases entry : readEntry entryId db.queue with
      | none => exact present entry
      | some stored => exact missing other stored found entry

theorem commitCleanReview_commits (books : AdmissionBooks db)
    (args : CleanReviewInput) (host : Host) :
    (commitCleanReview args).Commits host db fun entry later =>
      AdmissionBooks later ∧ Grows db later ∧
        ∃ review, prepareCleanReview args = .ok review ∧ CleanReviewStands review entry later := by
  unfold commitCleanReview
  simp only [commits_bind, commits_raise, commits_onQueue]
  intro review prepared
  refine (acknowledge_books books.entries review args.acknowledgedAt host).mono ?_
  rintro entry queue ⟨entries, stored, stands, added⟩
  have grown : ∀ other ∈ db.queue.entries, other ∈ queue.entries := by
    intro other listed
    rcases added with ⟨same, -⟩ | ⟨-, same⟩
    · simp [same, listed]
    · simp [same, listed]
  refine (readCleanReview_commits entry.entryId host _).mono ?_
  rintro read later ⟨rfl, found, missing⟩
  cases read with
  | some row =>
    -- Only an entry that was there before has a review.
    simp only [commits_pure]
    obtain ⟨listed, named⟩ := found row rfl
    obtain ⟨owner, kept⟩ := books.cleanReviews row listed
    rcases added with ⟨-, apart⟩ | ⟨-, rfl⟩
    · have clash := apart owner kept.stored
      simp [QueueEntry.conflicts, kept.entryId, named] at clash
    · exact ⟨books, Grows.refl db, review, prepared, stored, stands, row, listed, named⟩
  | none =>
    simp only [insertCleanReview, commits_bind, commits_read, commits_refuse, commits_modify,
      commits_pure]
    intro _
    have valid : validateCleanReview review.body (handoffJson args.evidence) = .ok () := by
      obtain ⟨normal, -, prepared⟩ := ok_of_bind prepared
      obtain ⟨_, validated, prepared⟩ := ok_of_bind prepared
      cases prepared
      exact validated
    have kept : CleanReviewKept { db with queue } { entryId := entry.entryId, input := review
                                                    evidence := handoffJson args.evidence } entry := by
      refine ⟨stored, rfl, ?_, valid⟩
      simp [CleanReviewRow.consistent, stands.handoffDigest, stands.key]
    have fresh := missing rfl (by simp [readEntry_of_mem entries.distinct stored])
    refine ⟨books.addCleanReview entries grown kept fresh,
      ⟨grown, fun row listed => listed, fun row listed => List.mem_append_left _ listed⟩,
      review, prepared, stored, stands, _, List.mem_append_right _ (List.mem_singleton_self _), rfl⟩

omit [JsDate] in
theorem AdmissionBooks.parse (books : AdmissionBooks db) {row : HandoffRow}
    (listed : row ∈ db.handoffs) (host : Host) :
    parseHandoff (some row) host db = .ok (some row, db) := by
  obtain ⟨entry, kept⟩ := books.handoffs row listed
  have read : readEntry row.entryId db.queue = some entry := by
    rw [← kept.entryId]
    exact readEntry_of_mem books.entries.distinct kept.stored
  simp only [parseHandoff, bind_read, read]
  rw [bind_refuse (by simp [kept.consistent]), pure_apply]

omit [JsDate] in
theorem AdmissionBooks.replayed (books : AdmissionBooks db)
    {handoff again : Handoff} {ack : HandoffAck} (stands : HandoffStands handoff ack db)
    (same : again.body = handoff.body) (host : Host) :
    replay again host db = .ok (some ack, db) := by
  obtain ⟨row, listed, rfl, key, named, digest⟩ := stands
  obtain ⟨keys, names⟩ := Handoff.eq_of_body same
  -- Both names lead to the one row.
  have keyed : handoffOf again.key db = some row := by
    refine Table.find?_of_only listed (by simp [key, keys]) fun other stored selected => ?_
    refine books.apart other stored row listed (.inr (.inr ?_))
    rw [key, ← keys]
    simpa using selected
  have byName : handoffNamed again.handoffId db = some row := by
    refine Table.find?_of_only listed (by simp [named, names]) fun other stored selected => ?_
    refine books.apart other stored row listed (.inl ?_)
    rw [named, ← names]
    simpa using selected
  have agrees : row.ack.payloadDigest = again.digest := by
    obtain ⟨entry, kept⟩ := books.handoffs row listed
    have consistent := kept.consistent
    simp only [HandoffRow.consistent, Bool.and_eq_true, decide_eq_true_eq] at consistent
    rw [consistent.1.1.1.2, digest, Handoff.digest, Handoff.digest, same]
  unfold replay
  rw [bind_read, keyed, bind_of_ok (books.parse listed host), bind_read, byName,
    bind_of_ok (books.parse listed host)]
  simp only
  rw [bind_refuse (by simp [agrees]), pure_apply]

theorem commitHandoff_again (books : AdmissionBooks db)
    {handoff again : Handoff} {ack : HandoffAck} (stands : HandoffStands handoff ack db)
    {args : HandoffInput} {host : Host} (prepared : prepareHandoff args host = .ok again)
    (same : again.body = handoff.body) : commitHandoff args host db = .ok (ack, db) := by
  unfold commitHandoff
  rw [bind_ask, id, prepared, bind_raise_ok, bind_of_ok (books.replayed stands same host)]
  rfl

omit [JsDate] [FencedEvidence] in
theorem EntryBooks.checksAgain {db : QueueDb} (books : EntryBooks db)
    (stored : entry ∈ db.entries) (stands : Stands handoff entry) (acknowledgedAt : String) :
    ArgsChecked (admissionArgs handoff acknowledgedAt) handoff.key.lane := by
  have checked := books.checked entry stored
  have named := books.entryId entry stored
  have acknowledged := books.ackId entry stored
  rw [stands.key] at named acknowledged
  have lane : entry.lane = handoff.key.lane := congrArg AdmissionKey.lane stands.key
  have prNumber : entry.prNumber = handoff.key.prNumber :=
    congrArg AdmissionKey.prNumber stands.key
  have head : entry.head = handoff.key.head := congrArg AdmissionKey.head stands.key
  have generation : entry.admissionGeneration = handoff.key.admissionGeneration :=
    congrArg AdmissionKey.admissionGeneration stands.key
  refine ⟨?_, ?_, ?_, ?_, ?_⟩
  · have resolved := checked.lane
    rwa [lane] at resolved
  · have accepted := checked.entryId
    rwa [named] at accepted
  · have accepted := checked.handoffId
    rwa [stands.handoffId] at accepted
  · have accepted := checked.ackId
    rwa [acknowledged] at accepted
  · have numbers := checked.numbers
    rwa [prNumber, head, generation] at numbers

omit [FencedEvidence] in
theorem EntryBooks.acknowledgesAgain {db : QueueDb} (books : EntryBooks db)
    (stored : entry ∈ db.entries) (stands : Stands handoff entry)
    {acknowledgedAt time : String} (timed : queueTime acknowledgedAt = .ok time) (host : Host) :
    acknowledge (admissionArgs handoff acknowledgedAt) host db = .ok (entry, db) := by
  have lane : entry.lane = handoff.key.lane := congrArg AdmissionKey.lane stands.key
  have prNumber : entry.prNumber = handoff.key.prNumber :=
    congrArg AdmissionKey.prNumber stands.key
  have head : entry.head = handoff.key.head := congrArg AdmissionKey.head stands.key
  have generation : entry.admissionGeneration = handoff.key.admissionGeneration :=
    congrArg AdmissionKey.admissionGeneration stands.key
  have acknowledged : entry.ackId = "ack:" ++ handoff.key.digest := by
    rw [books.ackId entry stored, stands.key]
  have repeats : (admissionArgs handoff acknowledgedAt).repeats entry = true := by
    simp [AcknowledgeArgs.repeats, admissionArgs, prNumber, head, generation, stands.handoffId,
      acknowledged, stands.handoffDigest]
  have names : (admissionArgs handoff acknowledgedAt).names handoff.key.lane entry = true := by
    simp [AcknowledgeArgs.names, admissionArgs, lane, prNumber, head, generation]
  -- Another entry under one of these names would clash with the one that stands.
  have only : ∀ other ∈ db.entries,
      (admissionArgs handoff acknowledgedAt).names handoff.key.lane other = true →
        other = entry := by
    intro other listed named
    refine books.apart other listed entry stored ?_
    simp only [AcknowledgeArgs.names, Bool.and_eq_true, Bool.or_eq_true,
      decide_eq_true_eq] at named
    simp only [QueueEntry.conflicts, Bool.and_eq_true, Bool.or_eq_true, decide_eq_true_eq, lane,
      prNumber, head, generation, stands.handoffId, acknowledged]
    exact .inr ⟨named.1, .inl named.2⟩
  refine acknowledge_repeats host (books.checksAgain stored stands acknowledgedAt) timed ?_
    (Table.filter_of_only books.distinct stored names only) repeats
  exact lane ▸ books.laned entry stored

omit [JsDate] in
theorem AdmissionBooks.readsCleanReview (books : AdmissionBooks db)
    {row : CleanReviewRow} (stored : entry ∈ db.queue.entries)
    (listed : row ∈ db.cleanReviews) (named : row.entryId = entry.entryId) (host : Host) :
    readCleanReview entry.entryId host db = .ok (some row, db) := by
  obtain ⟨owner, kept⟩ := books.cleanReviews row listed
  have found : (db.cleanReviews.find? fun other => other.entryId = entry.entryId) = some row := by
    rw [← named]
    exact Table.find?_of_mem books.oneCleanReview listed
  have read : readEntry entry.entryId db.queue = some entry :=
    readEntry_of_mem books.entries.distinct stored
  have same : owner = entry := by
    refine books.entries.apart owner kept.stored entry stored ?_
    simp [QueueEntry.conflicts, kept.entryId, named]
  have consistent := kept.consistent
  rw [same] at consistent
  unfold readCleanReview
  rw [bind_read, found, bind_read, read]
  simp only
  rw [bind_refuse (by simp [consistent]), kept.valid, bind_raise_ok, pure_apply]

theorem commitCleanReview_again (books : AdmissionBooks db)
    {review again : Handoff} (stands : CleanReviewStands review entry db)
    {args : CleanReviewInput} (host : Host) {time : String}
    (prepared : prepareCleanReview args = .ok again)
    (timed : queueTime args.acknowledgedAt = .ok time) (same : again.body = review.body) :
    commitCleanReview args host db = .ok (entry, db) := by
  obtain ⟨stored, describes, row, listed, named⟩ := stands
  obtain ⟨keys, names⟩ := Handoff.eq_of_body same
  have standing : Stands again entry := by
    refine ⟨describes.key.trans keys.symm, describes.handoffId.trans names.symm, ?_⟩
    rw [describes.handoffDigest, Handoff.digest, Handoff.digest, same]
  have admitted : onQueue (acknowledge (admissionArgs again args.acknowledgedAt)) host db =
      .ok (entry, db) := by
    simp only [onQueue, books.entries.acknowledgesAgain stored standing timed host]
  unfold commitCleanReview
  rw [prepared, bind_raise_ok, bind_of_ok admitted,
    bind_of_ok (books.readsCleanReview stored listed named host)]
  rfl

end

end AdversarialReview
