import AdversarialReview.Library.Interleaving
import AdversarialReview.Proofs.Attestation.QueueFiles

/-! No queued attestation is lost where no live lock is broken and no torn line goes on. -/

namespace AdversarialReview.Attestation

section

/-- The caller has the lock. -/
def QueueStage.holds : QueueStage → Bool
  | .made _ | .inside _ | .rewriting _ _ | .archiving _ | .replacing _ | .releasing _
  | .removing _ | .removed _ => true
  | _ => false

def Job.Stands (world : QueueWorld) : Job → Prop
  | .enqueue entry => Grounded world entry
  | .read _ => True
  | .replace processed => ∀ one ∈ processed, one.Stands world

def Rest.Stands (world : QueueWorld) : Rest → Prop
  | .enqueued queueId => Kept world queueId
  | .read entries _ => ∀ entry ∈ entries, Grounded world entry
  | .replaced => True

structure Replacing (world : QueueWorld) (replacement : Replacement) : Prop where
  grounded : ∀ entry ∈ replacement.next, Grounded world entry
  kept : ∀ queueId ∈ queueIds world.pending.entries, queueId ∈ queueIds replacement.next ∨
    queueId ∈ world.recorded ∨ queueId ∈ queueIds world.archive.closed

/-- What the stage of a live caller says of the files. -/
def QueueStage.Stands (world : QueueWorld) : QueueStage → Prop
  | .idle => True
  | .acquiring job | .made job | .waiting job | .breaking job | .clearing job | .inside job =>
    job.Stands world
  | .rewriting next rest => next = world.pending.entries ∧ rest.Stands world
  | .archiving replacement => replacement.Stands world world.pending.entries
  | .replacing replacement => Replacing world replacement
  | .releasing rest | .removing rest | .removed rest => rest.Stands world
  | .attempting entries _ processed =>
    (∀ entry ∈ entries, Grounded world entry) ∧ ∀ one ∈ processed, one.Stands world

/-- At most the live caller that made the lock directory is between its lock and its release, and
nothing that an enqueue returned is lost. -/
structure QueueInv (world : QueueWorld) : Prop where
  owned : ∀ {caller}, world.alive caller = true → (world.stages caller).holds = true →
    ∃ lock, world.lock = some lock ∧ lock.creator = caller
  stands : ∀ caller, world.alive caller = true → (world.stages caller).Stands world
  kept : ∀ queueId ∈ world.returned, Kept world queueId
  grounded : ∀ entry ∈ world.pending.entries, Grounded world entry
  archived : ∀ entry ∈ world.archive.entries, Failed world entry.queueId

variable {world after : QueueWorld} {caller : Nat} {stage : QueueStage}

theorem queueInv_start : QueueInv startQueue where
  owned := by
    intro caller _ holds
    cases holds
  stands := fun caller _ => trivial
  kept := by
    intro queueId listed
    cases listed
  grounded := by
    intro entry listed
    cases listed
  archived := by
    intro entry listed
    cases listed

theorem Job.Stands.later {job : Job} (stands : job.Stands world) (grows : Later world after) :
    job.Stands after := by
  cases job with
  | enqueue entry => exact Grounded.later stands grows
  | read retrying => trivial
  | replace processed => exact fun one among => (stands one among).later grows

theorem Rest.Stands.later {rest : Rest} (stands : rest.Stands world)
    (grows : Later world after) : rest.Stands after := by
  cases rest with
  | enqueued queueId => exact grows.kept stands
  | read entries retrying => exact fun entry among => (stands entry among).later grows
  | replaced => trivial

theorem QueueStage.Stands.later (stands : stage.Stands world) (grows : Later world after)
    (same : stage.holds = true → after.pending = world.pending ∧ after.archive = world.archive) :
    stage.Stands after := by
  cases stage with
  | idle => trivial
  | acquiring job => exact Job.Stands.later stands grows
  | made job => exact Job.Stands.later stands grows
  | waiting job => exact Job.Stands.later stands grows
  | breaking job => exact Job.Stands.later stands grows
  | clearing job => exact Job.Stands.later stands grows
  | inside job => exact Job.Stands.later stands grows
  | rewriting next rest =>
    refine ⟨?_, stands.2.later grows⟩
    rw [(same rfl).1]
    exact stands.1
  | archiving replacement =>
    change replacement.Stands after after.pending.entries
    rw [(same rfl).1]
    exact ⟨stands.perm, fun entry listed => (stands.grounded entry listed).later grows,
      fun entry listed => (stands.failed entry listed).later grows,
      fun entry listed => (stands.gone entry listed).imp_left grows.recorded⟩
  | replacing replacement =>
    refine ⟨fun entry listed => (stands.grounded entry listed).later grows, ?_⟩
    rw [(same rfl).1, (same rfl).2]
    intro queueId listed
    exact (stands.kept queueId listed).imp_right fun elsewhere => elsewhere.imp_left grows.recorded
  | releasing rest => exact Rest.Stands.later stands grows
  | removing rest => exact Rest.Stands.later stands grows
  | removed rest => exact Rest.Stands.later stands grows
  | attempting entries attempted processed =>
    exact ⟨fun entry listed => (stands.1 entry listed).later grows,
      fun one among => (stands.2 one among).later grows⟩

namespace QueueInv

section

variable (inv : QueueInv world)
include inv

theorem ownedLock : OwnedLock (world.lock.map QueueLock.creator) world.alive
    fun caller => (world.stages caller).holds := by
  intro caller living holds
  obtain ⟨lock, there, own⟩ := inv.owned living holds
  rw [there, Option.map_some, own]

theorem others (lives : world.alive caller = true)
    (holds : (world.stages caller).holds = true) {other : Nat} (distinct : other ≠ caller)
    (living : world.alive other = true) : (world.stages other).holds = false :=
  inv.ownedLock.others lives holds distinct living

theorem nobody (dead : world.lockDead = true) {other : Nat}
    (living : world.alive other = true) : (world.stages other).holds = false := by
  apply inv.ownedLock.nobody ?_ living
  rw [Option.all_map]
  exact dead

/-- One caller goes on: the others stand where they stood, and those with the lock see the same
lock and the same files. -/
theorem advance (caller : Nat) (stage : QueueStage) (alive : after.alive = world.alive)
    (stages : after.stages = Function.update world.stages caller stage) (grows : Later world after)
    (apart : ∀ other, other ≠ caller → world.alive other = true →
      (world.stages other).holds = true →
      after.lock.map QueueLock.creator = world.lock.map QueueLock.creator ∧
        after.pending = world.pending ∧ after.archive = world.archive)
    (owned : stage.holds = true → ∃ lock, after.lock = some lock ∧ lock.creator = caller)
    (stands : stage.Stands after) (kept : ∀ queueId ∈ after.returned, Kept after queueId)
    (grounded : ∀ entry ∈ after.pending.entries, Grounded after entry)
    (archived : ∀ entry ∈ after.archive.entries, Failed after entry.queueId) : QueueInv after := by
  refine ⟨?_, ?_, kept, grounded, archived⟩
  · intro other living holds
    rw [alive] at living
    rw [stages] at holds
    by_cases distinct : other = caller
    · subst distinct
      rw [Function.update_self] at holds
      exact owned holds
    · rw [Function.update_of_ne distinct] at holds
      obtain ⟨lock, there, own⟩ := inv.owned living holds
      have same := (apart other distinct living holds).1
      rw [there, Option.map_some, Option.map_eq_some_iff] at same
      obtain ⟨held, there', own'⟩ := same
      exact ⟨held, there', own'.trans own⟩
  · intro other living
    rw [alive] at living
    rw [stages]
    by_cases distinct : other = caller
    · rw [distinct, Function.update_self]
      exact stands
    · rw [Function.update_of_ne distinct]
      exact (inv.stands other living).later grows
        fun holds => (apart other distinct living holds).2

theorem moves (lock : Option QueueLock) (stage : QueueStage)
    (same : ∀ other, other ≠ caller → world.alive other = true →
      (world.stages other).holds = true →
      lock.map QueueLock.creator = world.lock.map QueueLock.creator)
    (owned : stage.holds = true → ∃ held, lock = some held ∧ held.creator = caller)
    (stands : stage.Stands world) : QueueInv ({ world with lock }.goesOn caller stage) := by
  have grows : Later world ({ world with lock }.goesOn caller stage) :=
    Later.of_eq rfl rfl rfl rfl
  refine inv.advance caller stage ?_ ?_ grows ?_ owned ?_ ?_ ?_ ?_
  · rfl
  · rfl
  · exact fun other distinct living holds => ⟨same other distinct living holds, rfl, rfl⟩
  · exact stands.later grows fun _ => ⟨rfl, rfl⟩
  · exact fun queueId listed => grows.kept (inv.kept queueId listed)
  · exact fun entry listed => (inv.grounded entry listed).later grows
  · exact fun entry listed => (inv.archived entry listed).later grows

theorem without (still : stage.holds = false)
    (stands : stage.Stands world) : QueueInv (world.goesOn caller stage) := by
  apply inv.moves world.lock _ (fun _ _ _ _ => rfl) ?_ stands
  intro holds
  rw [still] at holds
  cases holds

theorem keeps (lives : world.alive caller = true)
    (holds : (world.stages caller).holds = true) (stands : stage.Stands world) :
    QueueInv (world.goesOn caller stage) :=
  inv.moves world.lock _ (fun _ _ _ _ => rfl) (fun _ => inv.owned lives holds) stands

theorem marks (owner : Bool)
    (owned : stage.holds = true → ∃ lock, world.lock = some lock ∧ lock.creator = caller)
    (stands : stage.Stands world) : QueueInv ((world.marks owner).goesOn caller stage) := by
  apply inv.moves _ _ ?_ ?_ stands
  · intro other _ _ _
    cases world.lock <;> rfl
  · intro holds
    obtain ⟨lock, there, own⟩ := owned holds
    exact ⟨{ lock with owner }, by rw [there, Option.map_some], own⟩

theorem dies :
    QueueInv { world with alive := Function.update world.alive caller false } := by
  have lived {other : Nat}
      (living : Function.update world.alive caller false other = true) :
      world.alive other = true := by
    by_cases same : other = caller
    · simp [same] at living
    · simpa [Function.update_of_ne same] using living
  have grows : Later world { world with alive := Function.update world.alive caller false } :=
    Later.of_eq rfl rfl rfl rfl
  refine ⟨?_, ?_, ?_, ?_, ?_⟩
  · intro other living holds
    exact inv.owned (lived living) holds
  · intro other living
    exact (inv.stands other (lived living)).later grows fun _ => ⟨rfl, rfl⟩
  · exact fun queueId listed => grows.kept (inv.kept queueId listed)
  · exact fun entry listed => (inv.grounded entry listed).later grows
  · exact fun entry listed => (inv.archived entry listed).later grows

end

end QueueInv

end

section

variable {world : QueueWorld} {move : QueueMove} {caller : Nat}

theorem queueIds_append (first second : List Entry) :
    queueIds (first ++ second) = queueIds first ++ queueIds second :=
  List.map_append

variable {file : QueueFile}

theorem mem_entries_of_closed {queueId : QueueId}
    (listed : queueId ∈ queueIds file.closed) : queueId ∈ queueIds file.entries := by
  obtain ⟨entry, among, own⟩ := List.mem_map.mp listed
  exact List.mem_map.mpr ⟨entry, closed_entries among, own⟩

theorem queueIds_grow {file grown : QueueFile} {queueId : QueueId}
    (grows : ∀ entry, entry ∈ file.closed → entry ∈ grown.closed)
    (listed : queueId ∈ queueIds file.closed) : queueId ∈ queueIds grown.closed := by
  obtain ⟨entry, among, own⟩ := List.mem_map.mp listed
  exact List.mem_map.mpr ⟨entry, grows entry among, own⟩

theorem later_pending (grows : ∀ entry, entry ∈ world.pending.closed → entry ∈ file.closed) :
    Later world { world with pending := file } :=
  ⟨id, id, Or.imp_left (queueIds_grow grows)⟩

theorem later_archive (grows : ∀ entry, entry ∈ world.archive.closed → entry ∈ file.closed) :
    Later world { world with archive := file } :=
  ⟨id, id, Or.imp_right (Or.imp_right (queueIds_grow grows))⟩

namespace QueueInv

section

variable (inv : QueueInv world)
include inv

section

variable (lives : world.alive caller = true)
include lives

theorem changes (holds : (world.stages caller).holds = true) (pending archive : QueueFile)
    (taken : List QueueId) {stage : QueueStage}
    (grows : Later world ({ world with pending, archive, taken }.goesOn caller stage))
    (stands : stage.Stands ({ world with pending, archive, taken }.goesOn caller stage))
    (grounded : ∀ entry ∈ pending.entries, Grounded world entry)
    (archived : ∀ entry ∈ archive.entries, Failed world entry.queueId) :
    QueueInv ({ world with pending, archive, taken }.goesOn caller stage) := by
  refine inv.advance caller stage ?_ ?_ grows ?_ ?_ stands ?_ ?_ ?_
  · rfl
  · rfl
  · intro other distinct living held
    rw [inv.others lives holds distinct living] at held
    cases held
  · exact fun _ => inv.owned lives holds
  · exact fun queueId listed => grows.kept (inv.kept queueId listed)
  · exact fun entry listed => (grounded entry listed).later grows
  · exact fun entry listed => (archived entry listed).later grows

theorem enqueued {entry : Entry}
    (at' : world.stages caller = .inside (.enqueue entry)) (ended : world.pending.ended = true) :
    QueueInv (world.enters caller (.enqueue entry)) := by
  have holds : (world.stages caller).holds = true := by rw [at']; rfl
  have grounded := inv.stands caller lives
  rw [at'] at grounded
  have grows : Later world { world with pending := world.pending.append [entry] } :=
    later_pending fun _ => closed_append
  apply inv.changes lives holds _ _ world.taken
  · exact ⟨grows.failures, grows.recorded, grows.kept⟩
  · apply Or.inl
    change entry.queueId ∈ queueIds (world.pending.append [entry]).closed
    rw [closed_append_of_ended ended, queueIds_append]
    exact List.mem_append_right _ List.mem_cons_self
  · intro other listed
    rcases mem_append_entries listed with before | own
    · exact inv.grounded other before
    · rw [List.mem_singleton.mp own]
      exact grounded
  · exact inv.archived

theorem rewrote {next : List Entry}
    {rest : Rest} (at' : world.stages caller = .rewriting next rest) :
    QueueInv ({ world with pending := .rewritten next }.goesOn caller (.releasing rest)) := by
  have holds : (world.stages caller).holds = true := by rw [at']; rfl
  have stands := inv.stands caller lives
  rw [at'] at stands
  obtain ⟨same, rested⟩ := stands
  have grows : Later world ({ world with pending := .rewritten next }.goesOn caller
      (.releasing rest)) := by
    have kept : Later world { world with pending := .rewritten next } := by
      apply later_pending
      intro entry listed
      rw [closed_rewritten, same]
      exact closed_entries listed
    exact ⟨kept.failures, kept.recorded, kept.kept⟩
  apply inv.changes lives holds _ _ world.taken grows
  · exact rested.later grows
  · rw [entries_rewritten, same]
    exact inv.grounded
  · exact inv.archived

theorem archives {replacement : Replacement} (at' : world.stages caller = .archiving replacement)
    (ended : world.archive.ended = true ∨ replacement.terminalToArchive = []) :
    QueueInv ({ world with
      archive := world.archive.append replacement.terminalToArchive }.goesOn caller
        (.replacing replacement)) := by
  have holds : (world.stages caller).holds = true := by rw [at']; rfl
  have stands : replacement.Stands world world.pending.entries := by
    have standing := inv.stands caller lives
    rw [at'] at standing
    exact standing
  have kept : Later world { world with
      archive := world.archive.append replacement.terminalToArchive } :=
    later_archive fun _ => closed_append
  have grows : Later world ({ world with
      archive := world.archive.append replacement.terminalToArchive }.goesOn caller
        (.replacing replacement)) := ⟨kept.failures, kept.recorded, kept.kept⟩
  -- What goes into the archive stands there on lines of its own.
  have archived {queueId : QueueId} (listed : queueId ∈ queueIds replacement.terminalToArchive) :
      queueId ∈ queueIds (world.archive.append replacement.terminalToArchive).closed := by
    rcases ended with ended | none_
    · rw [closed_append_of_ended ended, queueIds_append]
      exact List.mem_append_right _ listed
    · rw [none_] at listed
      cases listed
  apply inv.changes lives holds _ _ world.taken grows
  · refine ⟨fun entry listed => (stands.grounded entry listed).later grows, ?_⟩
    intro queueId listed
    rcases List.mem_append.mp (stands.perm.mem_iff.mp listed) with next | out
    · exact Or.inl next
    · rcases List.mem_append.mp out with toArchive | gone
      · exact Or.inr (Or.inr (archived toArchive))
      · obtain ⟨entry, among, own⟩ := List.mem_map.mp gone
        subst own
        exact Or.inr ((stands.gone entry among).imp_right archived)
  · exact inv.grounded
  · intro entry listed
    rcases mem_append_entries listed with before | own
    · exact inv.archived entry before
    · exact stands.failed entry own

theorem replaces {replacement : Replacement} (at' : world.stages caller = .replacing replacement) :
    QueueInv ({ world with
      pending := .rewritten replacement.next
      taken := world.taken ++ queueIds replacement.gone }.goesOn caller
        (.releasing .replaced)) := by
  have holds : (world.stages caller).holds = true := by rw [at']; rfl
  have stands : Replacing world replacement := by
    have standing := inv.stands caller lives
    rw [at'] at standing
    exact standing
  apply inv.changes lives holds _ world.archive _
  · refine ⟨id, id, ?_⟩
    intro queueId kept
    rcases kept with listed | elsewhere
    · rcases stands.kept queueId (mem_entries_of_closed listed) with next | out
      · apply Or.inl
        change queueId ∈ queueIds (QueueFile.rewritten replacement.next).closed
        rw [closed_rewritten]
        exact next
      · exact Or.inr out
    · exact Or.inr elsewhere
  · trivial
  · rw [entries_rewritten]
    exact stands.grounded
  · exact inv.archived

end

theorem ends {rest : Rest} (lock : Option QueueLock)
    (apart : ∀ other, other ≠ caller → world.alive other = true →
      (world.stages other).holds = true →
      lock.map QueueLock.creator = world.lock.map QueueLock.creator)
    (stands : rest.Stands world) : QueueInv ({ world with lock }.ends caller rest) := by
  have idle : QueueInv ({ world with lock }.goesOn caller .idle) :=
    inv.moves lock _ apart (fun holds => by cases holds) trivial
  cases rest with
  | enqueued queueId =>
    refine ⟨idle.owned, ?_, ?_, idle.grounded, idle.archived⟩
    · exact fun other living =>
        (idle.stands other living).later (Later.of_eq rfl rfl rfl rfl) fun _ => ⟨rfl, rfl⟩
    · intro other listed
      rcases List.mem_append.mp listed with before | own
      · exact inv.kept other before
      · rw [List.mem_singleton.mp own]
        exact stands
  | read entries retrying =>
    cases retrying with
    | none => exact idle
    | some entryLimit =>
      simp only [QueueWorld.ends]
      split
      · exact idle
      · apply inv.moves lock _ apart (fun holds => by cases holds)
        refine ⟨?_, ?_⟩
        · intro entry listed
          exact stands entry (List.mem_of_mem_filter (List.mem_of_mem_take listed))
        · intro one listed
          obtain ⟨entry, among, own⟩ := List.mem_map.mp listed
          rw [List.mem_filter] at among
          subst own
          exact stands_terminalizeQueued (stands entry among.1) among.2
  | replaced => exact idle

theorem attempts {entry : Entry} {entries : List Entry} {attempted : Bool}
    {processed : List Processed} (lives : world.alive caller = true)
    (at' : world.stages caller = .attempting (entry :: entries) attempted processed)
    (failure : Option Failure) :
    QueueInv (world.attempts caller failure entry entries processed) := by
  have stands := inv.stands caller lives
  rw [at'] at stands
  obtain ⟨grounded, before⟩ := stands
  have next {after : QueueWorld} (grows : Later world after)
      (noted : (attemptEntry entry failure).Stands after) :
      (QueueStage.attempting entries true (processed ++ [attemptEntry entry failure])).Stands
        after := by
    refine ⟨?_, ?_⟩
    · exact fun other listed => (grounded other (List.mem_cons_of_mem _ listed)).later grows
    · intro one listed
      rcases List.mem_append.mp listed with early | own
      · exact (before one early).later grows
      · rw [List.mem_singleton.mp own]
        exact noted
  cases failure with
  | none =>
    have grows : Later world (world.attempts caller none entry entries processed) :=
      ⟨id, List.mem_append_left _, Or.imp_right (Or.imp_left (List.mem_append_left _))⟩
    refine inv.advance caller _ rfl rfl grows ?_ ?_ (next grows ?_) ?_ ?_ ?_
    · exact fun _ _ _ _ => ⟨rfl, rfl, rfl⟩
    · exact fun holds => by cases holds
    · exact stands_attemptEntry (List.mem_append_right _ List.mem_cons_self)
    · exact fun queueId listed => grows.kept (inv.kept queueId listed)
    · exact fun entry listed => (inv.grounded entry listed).later grows
    · exact fun entry listed => (inv.archived entry listed).later grows
  | some failure =>
    have grows : Later world (world.attempts caller (some failure) entry entries processed) :=
      ⟨List.mem_append_left _, id, id⟩
    refine inv.advance caller _ rfl rfl grows ?_ ?_ (next grows ?_) ?_ ?_ ?_
    · exact fun _ _ _ _ => ⟨rfl, rfl, rfl⟩
    · exact fun holds => by cases holds
    · exact stands_attemptEntry
        (List.mem_append_right _ List.mem_cons_self)
    · exact fun queueId listed => grows.kept (inv.kept queueId listed)
    · exact fun entry listed => (inv.grounded entry listed).later grows
    · exact fun entry listed => (inv.archived entry listed).later grows

theorem starts (call : QueueCall) :
    QueueInv (world.starts caller call) := by
  cases call with
  | enqueue failure =>
    have grows : Later world (world.starts caller (.enqueue failure)) :=
      ⟨List.mem_append_left _, id, id⟩
    refine inv.advance caller _ rfl rfl grows ?_ ?_ ?_ ?_ ?_ ?_
    · exact fun _ _ _ _ => ⟨rfl, rfl, rfl⟩
    · exact fun holds => by cases holds
    · exact grounded_new (List.mem_append_right _ List.mem_cons_self)
    · exact fun queueId listed => grows.kept (inv.kept queueId listed)
    · exact fun entry listed => (inv.grounded entry listed).later grows
    · exact fun entry listed => (inv.archived entry listed).later grows
  | read => exact inv.without rfl trivial
  | retry entryLimit => exact inv.without rfl trivial

end

end QueueInv

end

section

variable {world : QueueWorld} {move : QueueMove}

namespace QueueInv

/-- A careful step of a live caller keeps the invariant; the cases are its stages. -/
theorem act (inv : QueueInv world) (lives : world.alive move.caller = true)
    (careful : world.carefulStep move = true) (stays : move.dies = false) :
    QueueInv (world.act move) := by
  have carried {stage : QueueStage} (at' : world.stages move.caller = stage)
      (holding : stage.holds = true) : (world.stages move.caller).holds = true := by
    rw [at']
    exact holding
  have stands := inv.stands move.caller lives
  -- Where the caller has the lock, or the lock is nobody's, no other one sees it change.
  have alone (holds : (world.stages move.caller).holds = true) {fact : Prop} :
      ∀ other, other ≠ move.caller → world.alive other = true →
        (world.stages other).holds = true → fact := by
    intro other distinct living held
    rw [inv.others lives holds distinct living] at held
    cases held
  have freed (dead : world.lockDead = true) {fact : Prop} :
      ∀ other, other ≠ move.caller → world.alive other = true →
        (world.stages other).holds = true → fact := by
    intro other _ living held
    rw [inv.nobody dead living] at held
    cases held
  cases at' : world.stages move.caller with
  | idle =>
    simp only [QueueWorld.act, at']
    exact inv.starts move.call
  | acquiring job =>
    rw [at'] at stands
    simp only [QueueWorld.act, at']
    cases free : world.lock with
    | none =>
      have dead : world.lockDead = true := by simp [QueueWorld.lockDead, free]
      exact inv.moves _ (.made job) (freed dead) (fun _ => ⟨_, rfl, rfl⟩) stands
    | some lock => exact inv.without rfl stands
  | made job =>
    have holds := carried at' rfl
    rw [at'] at stands
    simp only [QueueWorld.act, at']
    exact inv.marks true (fun _ => inv.owned lives holds) stands
  | waiting job =>
    rw [at'] at stands
    simp only [QueueWorld.act, at']
    split
    · exact inv.without rfl stands
    · split
      · exact inv.without rfl trivial
      · exact inv.without rfl stands
  | breaking job =>
    rw [at'] at stands
    simp only [QueueWorld.act, at']
    exact inv.marks false (fun holds => by cases holds) stands
  | clearing job =>
    rw [at'] at stands
    simp only [QueueWorld.carefulStep, at'] at careful
    simp only [QueueWorld.act, at']
    exact inv.moves none _ (freed careful) (fun holds => by cases holds) stands
  | inside job =>
    have holds := carried at' rfl
    rw [at'] at stands
    simp only [QueueWorld.act, at']
    cases job with
    | enqueue entry =>
      simp only [QueueWorld.carefulStep, at', stays, Bool.false_or] at careful
      exact inv.enqueued lives at' careful
    | read retrying =>
      simp only [QueueWorld.enters]
      split
      · exact inv.keeps lives holds ⟨rfl, inv.grounded⟩
      · exact inv.keeps lives holds inv.grounded
    | replace processed =>
      exact inv.keeps lives holds (stands_replaceProcessed stands inv.grounded)
  | rewriting next rest =>
    simp only [QueueWorld.act, at']
    exact inv.rewrote lives at'
  | archiving replacement =>
    simp only [QueueWorld.carefulStep, at', stays, Bool.false_or, Bool.or_eq_true,
      List.isEmpty_iff] at careful
    simp only [QueueWorld.act, at']
    exact inv.archives lives at' careful
  | replacing replacement =>
    simp only [QueueWorld.act, at']
    exact inv.replaces lives at'
  | releasing rest =>
    have holds := carried at' rfl
    rw [at'] at stands
    simp only [QueueWorld.act, at']
    split
    · exact inv.keeps lives holds stands
    · exact inv.ends world.lock (fun _ _ _ _ => rfl) stands
  | removing rest =>
    have holds := carried at' rfl
    rw [at'] at stands
    simp only [QueueWorld.act, at']
    exact inv.marks false (fun _ => inv.owned lives holds) stands
  | removed rest =>
    have holds := carried at' rfl
    rw [at'] at stands
    simp only [QueueWorld.act, at']
    exact inv.ends none (alone holds) stands
  | attempting entries attempted processed =>
    rw [at'] at stands
    cases entries with
    | nil =>
      simp only [QueueWorld.act, at']
      exact inv.without rfl stands.2
    | cons entry entries =>
      simp only [QueueWorld.act, at']
      split
      · exact inv.without rfl stands.2
      · exact inv.attempts lives at' move.failure

theorem tears (inv : QueueInv world) (lives : world.alive move.caller = true) :
    QueueInv { world.tears move with
      alive := Function.update world.alive move.caller false } := by
  have gone : QueueInv { world with
      alive := Function.update world.alive move.caller false } := inv.dies
  have stands := inv.stands move.caller lives
  have spared {other : Nat}
      (living : Function.update world.alive move.caller false other = true) :
      other ≠ move.caller ∧ world.alive other = true := by
    by_cases same : other = move.caller
    · simp [same] at living
    · exact ⟨same, by simpa [Function.update_of_ne same] using living⟩
  unfold QueueWorld.tears
  split
  · rename_i entry at'
    have holds : (world.stages move.caller).holds = true := by rw [at']; rfl
    rw [at'] at stands
    have torn : Later world { world with
        pending := world.pending.tear [entry] move.whole move.torn } :=
      later_pending fun _ => closed_tear
    refine ⟨gone.owned, ?_, ?_, ?_, gone.archived⟩
    · intro other living
      obtain ⟨distinct, lived⟩ := spared living
      refine (inv.stands other lived).later ?_ ?_
      · exact ⟨torn.failures, torn.recorded, torn.kept⟩
      · intro held
        rw [inv.others lives holds distinct lived] at held
        cases held
    · exact fun queueId listed => torn.kept (inv.kept queueId listed)
    · intro other listed
      rcases mem_tear listed with before | own
      · exact inv.grounded other before
      · rw [List.mem_singleton.mp own]
        exact stands
  · rename_i replacement at'
    have holds : (world.stages move.caller).holds = true := by rw [at']; rfl
    rw [at'] at stands
    have torn : Later world { world with
        archive := world.archive.tear replacement.terminalToArchive move.whole move.torn } :=
      later_archive fun _ => closed_tear
    refine ⟨gone.owned, ?_, ?_, gone.grounded, ?_⟩
    · intro other living
      obtain ⟨distinct, lived⟩ := spared living
      refine (inv.stands other lived).later ?_ ?_
      · exact ⟨torn.failures, torn.recorded, torn.kept⟩
      · intro held
        rw [inv.others lives holds distinct lived] at held
        cases held
    · exact fun queueId listed => torn.kept (inv.kept queueId listed)
    · intro other listed
      rcases mem_tear listed with before | own
      · exact inv.archived other before
      · exact stands.failed other own
  · exact gone

theorem step (inv : QueueInv world) (careful : world.carefulStep move = true) :
    QueueInv (world.step move) := by
  unfold QueueWorld.step
  split
  · rename_i lives
    cases stays : move.dies with
    | true =>
      simp only [if_true]
      exact inv.tears lives
    | false =>
      simp only [Bool.false_eq_true, if_false]
      exact inv.act lives careful stays
  · exact inv

end QueueInv

end

section

def QueueStage.replaces : QueueStage → Bool
  | .replacing _ => true
  | _ => false

/-- The entry that a caller is about to append. -/
def QueueStage.newEntry : QueueStage → Option Entry
  | .acquiring (.enqueue entry) | .made (.enqueue entry) | .waiting (.enqueue entry)
  | .breaking (.enqueue entry) | .clearing (.enqueue entry) | .inside (.enqueue entry) => some entry
  | _ => none

def Seen (world : QueueWorld) (queueId : QueueId) : Prop :=
  queueId ∈ queueIds world.pending.entries ∨ queueId ∈ queueIds world.archive.entries ∨
    queueId ∈ world.taken

structure Unused (world : QueueWorld) (caller : Nat) (queueId : QueueId) : Prop where
  own : queueId.caller = caller
  counted : queueId.count < world.counts caller
  fresh : ¬ Seen world queueId

/-- What a rename is going to leave was not archived, and what it takes out neither. -/
structure Apart (world : QueueWorld) (replacement : Replacement) : Prop where
  nodup : (queueIds replacement.next ++ queueIds replacement.gone).Nodup
  pending : ∀ queueId ∈ queueIds replacement.next ++ queueIds replacement.gone,
    queueId ∈ queueIds world.pending.entries ∧ queueId ∉ queueIds world.archive.entries ∧
      queueId ∉ world.taken

/-- While nobody has died, an entry is in one place. -/
structure CleanInv (world : QueueWorld) : Prop where
  pendingEnded : world.pending.ended = true
  archiveEnded : world.archive.ended = true
  pendingNodup : (queueIds world.pending.entries).Nodup
  archiveNodup : (queueIds world.archive.entries).Nodup
  takenApart : ∀ queueId ∈ world.taken, queueId ∉ queueIds world.archive.entries
  counted : ∀ queueId, Seen world queueId → queueId.count < world.counts queueId.caller
  apart : (∀ caller, (world.stages caller).replaces = false) →
    ∀ queueId ∈ queueIds world.pending.entries,
      queueId ∉ queueIds world.archive.entries ∧ queueId ∉ world.taken
  unused : ∀ caller entry, (world.stages caller).newEntry = some entry →
    Unused world caller entry.queueId
  replacing : ∀ caller replacement, world.stages caller = .replacing replacement →
    Apart world replacement

variable {world after : QueueWorld} {caller : Nat} {stage : QueueStage} {move : QueueMove}

theorem cleanInv_start : CleanInv startQueue where
  pendingEnded := rfl
  archiveEnded := rfl
  pendingNodup := List.nodup_nil
  archiveNodup := List.nodup_nil
  takenApart := by
    intro queueId listed
    cases listed
  counted := by
    intro queueId seen
    rcases seen with listed | listed | listed <;> cases listed
  apart := by
    intro _ queueId listed
    cases listed
  unused := by
    intro caller entry new
    cases new
  replacing := by
    intro caller replacement at'
    cases at'

theorem replaces_of_idle (still : stage.holds = false) : stage.replaces = false := by
  cases stage <;> first | rfl | cases still

theorem entries_append_of_ended {file : QueueFile} {entries : List Entry}
    (ended : file.ended = true) : (file.append entries).entries = file.entries ++ entries := by
  have tail : file.tail = none := by simpa [QueueFile.ended] using ended
  rw [append_of_ended ended]
  simp [QueueFile.entries, tail]

theorem ended_append {file : QueueFile} {entries : List Entry} (ended : file.ended = true) :
    (file.append entries).ended = true := by
  rw [append_of_ended ended]
  rfl

namespace CleanInv

theorem moves (clean : CleanInv world) (stage : QueueStage)
    (pending : after.pending = world.pending) (archive : after.archive = world.archive)
    (taken : after.taken = world.taken) (counts : after.counts = world.counts)
    (stages : after.stages = Function.update world.stages caller stage)
    (before : (world.stages caller).replaces = false) (now : stage.replaces = false)
    (new : ∀ entry, stage.newEntry = some entry → (world.stages caller).newEntry = some entry) :
    CleanInv after := by
  have seen {queueId : QueueId} : Seen after queueId ↔ Seen world queueId := by
    simp only [Seen, pending, archive, taken]
  refine ⟨?_, ?_, ?_, ?_, ?_, ?_, ?_, ?_, ?_⟩
  · exact pending ▸ clean.pendingEnded
  · exact archive ▸ clean.archiveEnded
  · exact pending ▸ clean.pendingNodup
  · exact archive ▸ clean.archiveNodup
  · rw [taken, archive]
    exact clean.takenApart
  · rw [counts]
    exact fun queueId listed => clean.counted queueId (seen.mp listed)
  · intro still
    rw [pending, archive, taken]
    apply clean.apart
    intro other
    by_cases same : other = caller
    · rw [same]
      exact before
    · have kept := still other
      rwa [stages, Function.update_of_ne same] at kept
  · intro other entry told
    rw [stages] at told
    have earlier : (world.stages other).newEntry = some entry := by
      by_cases same : other = caller
      · rw [same, Function.update_self] at told
        rw [same]
        exact new entry told
      · rwa [Function.update_of_ne same] at told
    obtain ⟨own, counted, fresh⟩ := clean.unused other entry earlier
    exact ⟨own, counts ▸ counted, fun listed => fresh (seen.mp listed)⟩
  · intro other replacement at'
    rw [stages] at at'
    by_cases same : other = caller
    · rw [same, Function.update_self] at at'
      rw [at'] at now
      cases now
    · rw [Function.update_of_ne same] at at'
      obtain ⟨nodup, apart⟩ := clean.replacing other replacement at'
      refine ⟨nodup, ?_⟩
      rw [pending, archive, taken]
      exact apart

theorem nobodyReplaces (inv : QueueInv world) (all : ∀ other, world.alive other = true)
    (holds : (world.stages caller).holds = true)
    (still : (world.stages caller).replaces = false) (other : Nat) :
    (world.stages other).replaces = false := by
  by_cases same : other = caller
  · rw [same]
    exact still
  · exact replaces_of_idle (inv.others (all caller) holds same (all other))

section

variable (clean : CleanInv world)
include clean

theorem changes (inv : QueueInv world)
    (all : ∀ other, world.alive other = true) (holds : (world.stages caller).holds = true)
    (pending archive : QueueFile) (taken : List QueueId) (unnew : stage.newEntry = none)
    (pendingEnded : pending.ended = true) (archiveEnded : archive.ended = true)
    (pendingNodup : (queueIds pending.entries).Nodup)
    (archiveNodup : (queueIds archive.entries).Nodup)
    (takenApart : ∀ queueId ∈ taken, queueId ∉ queueIds archive.entries)
    (seen : ∀ queueId, Seen { world with pending, archive, taken } queueId →
      Seen world queueId ∨ Unused world caller queueId)
    (apart : stage.replaces = false → ∀ queueId ∈ queueIds pending.entries,
      queueId ∉ queueIds archive.entries ∧ queueId ∉ taken)
    (replacing : ∀ replacement, stage = .replacing replacement →
      Apart { world with pending, archive, taken } replacement) :
    CleanInv ({ world with pending, archive, taken }.goesOn caller stage) := by
  refine ⟨pendingEnded, archiveEnded, pendingNodup, archiveNodup, takenApart, ?_, ?_, ?_, ?_⟩
  · intro queueId listed
    rcases seen queueId listed with early | new
    · exact clean.counted queueId early
    · have counted := new.counted
      rwa [← new.own] at counted
  · intro still
    apply apart
    have own := still caller
    change (Function.update world.stages caller stage caller).replaces = false at own
    rwa [Function.update_self] at own
  · intro other entry told
    change (Function.update world.stages caller stage other).newEntry = some entry at told
    by_cases same : other = caller
    · rw [same, Function.update_self, unnew] at told
      cases told
    · rw [Function.update_of_ne same] at told
      obtain ⟨own, counted, fresh⟩ := clean.unused other entry told
      refine ⟨own, counted, ?_⟩
      intro listed
      rcases seen _ listed with early | new
      · exact fresh early
      · exact same (own.symm.trans new.own)
  · intro other replacement at'
    change Function.update world.stages caller stage other = _ at at'
    by_cases same : other = caller
    · rw [same, Function.update_self] at at'
      have told := replacing replacement at'
      exact ⟨told.nodup, told.pending⟩
    · -- Nobody else has the lock.
      rw [Function.update_of_ne same] at at'
      have idle := inv.others (all caller) holds same (all other)
      rw [at'] at idle
      cases idle

theorem enqueued (inv : QueueInv world) (all : ∀ other, world.alive other = true) {entry : Entry}
    (at' : world.stages caller = .inside (.enqueue entry)) :
    CleanInv (world.enters caller (.enqueue entry)) := by
  have holds : (world.stages caller).holds = true := by rw [at']; rfl
  have unused : Unused world caller entry.queueId := by
    apply clean.unused caller entry
    rw [at']
    rfl
  have apart := clean.apart (nobodyReplaces inv all holds (by rw [at']; rfl))
  have entries : (world.pending.append [entry]).entries = world.pending.entries ++ [entry] :=
    entries_append_of_ended clean.pendingEnded
  apply clean.changes inv all holds _ world.archive world.taken rfl
    (ended_append clean.pendingEnded) clean.archiveEnded ?_ clean.archiveNodup clean.takenApart
  · intro queueId listed
    simp only [Seen, entries, queueIds_append, List.mem_append] at listed
    rcases listed with (before | own) | elsewhere
    · exact Or.inl (Or.inl before)
    · simp only [queueIds, List.map_cons, List.map_nil, List.mem_singleton] at own
      rw [own]
      exact Or.inr unused
    · exact Or.inl (Or.inr elsewhere)
  · intro _ queueId listed
    rw [entries, queueIds_append] at listed
    rcases List.mem_append.mp listed with before | own
    · exact apart queueId before
    · simp only [queueIds, List.map_cons, List.map_nil, List.mem_singleton] at own
      rw [own]
      exact ⟨fun listed => unused.fresh (Or.inr (Or.inl listed)),
        fun listed => unused.fresh (Or.inr (Or.inr listed))⟩
  · intro replacement same
    cases same
  · rw [entries, queueIds_append, List.nodup_append]
    refine ⟨clean.pendingNodup, List.nodup_singleton _, ?_⟩
    intro queueId listed other own
    simp only [queueIds, List.map_cons, List.map_nil, List.mem_singleton] at own
    rw [own]
    intro same
    exact unused.fresh (Or.inl (same ▸ listed))

theorem rewrote (inv : QueueInv world)
    (all : ∀ other, world.alive other = true) {next : List Entry} {rest : Rest}
    (at' : world.stages caller = .rewriting next rest) :
    CleanInv ({ world with pending := .rewritten next }.goesOn caller (.releasing rest)) := by
  have holds : (world.stages caller).holds = true := by rw [at']; rfl
  have stands := inv.stands caller (all caller)
  rw [at'] at stands
  obtain ⟨same, -⟩ := stands
  have entries : (QueueFile.rewritten next).entries = world.pending.entries := by
    rw [entries_rewritten, same]
  apply clean.changes inv all holds _ world.archive world.taken rfl
    rfl clean.archiveEnded ?_ clean.archiveNodup clean.takenApart
  · intro queueId listed
    simp only [Seen, entries] at listed
    exact Or.inl listed
  · intro _
    rw [entries]
    exact clean.apart (nobodyReplaces inv all holds (by rw [at']; rfl))
  · intro replacement same
    cases same
  · rw [entries]
    exact clean.pendingNodup

/-- The entries that are not retried are appended to the archive, each for the first time. -/
theorem archives (inv : QueueInv world)
    (all : ∀ other, world.alive other = true) {replacement : Replacement}
    (at' : world.stages caller = .archiving replacement) :
    CleanInv ({ world with
      archive := world.archive.append replacement.terminalToArchive }.goesOn caller
        (.replacing replacement)) := by
  have holds : (world.stages caller).holds = true := by rw [at']; rfl
  have apart := clean.apart (nobodyReplaces inv all holds (by rw [at']; rfl))
  have perm : (queueIds world.pending.entries).Perm (queueIds replacement.next ++
      (queueIds replacement.terminalToArchive ++ queueIds replacement.gone)) := by
    have stands := inv.stands caller (all caller)
    rw [at'] at stands
    exact stands.perm
  have nodup := perm.nodup_iff.mp clean.pendingNodup
  obtain ⟨nextNodup, outNodup, outApart⟩ := List.nodup_append.mp nodup
  obtain ⟨archiveNodup, goneNodup, goneApart⟩ := List.nodup_append.mp outNodup
  have archived {queueId : QueueId} (listed : queueId ∈ queueIds replacement.terminalToArchive) :
      queueId ∈ queueIds world.pending.entries :=
    perm.mem_iff.mpr (List.mem_append_right _ (List.mem_append_left _ listed))
  have entries : (world.archive.append replacement.terminalToArchive).entries =
      world.archive.entries ++ replacement.terminalToArchive :=
    entries_append_of_ended clean.archiveEnded
  apply clean.changes inv all holds world.pending _ world.taken rfl
    clean.pendingEnded (ended_append clean.archiveEnded) clean.pendingNodup
  · rw [entries, queueIds_append, List.nodup_append]
    refine ⟨clean.archiveNodup, archiveNodup, ?_⟩
    intro queueId listed other own same
    exact (apart other (archived own)).1 (same ▸ listed)
  · intro queueId listed
    rw [entries, queueIds_append, List.mem_append]
    intro either
    rcases either with before | own
    · exact clean.takenApart queueId listed before
    · exact (apart queueId (archived own)).2 listed
  · intro queueId listed
    simp only [Seen, entries, queueIds_append, List.mem_append] at listed
    rcases listed with pending | (before | own) | taken
    · exact Or.inl (Or.inl pending)
    · exact Or.inl (Or.inr (Or.inl before))
    · exact Or.inl (Or.inl (archived own))
    · exact Or.inl (Or.inr (Or.inr taken))
  · intro still
    cases still
  · intro other same
    cases same
    refine ⟨?_, ?_⟩
    · rw [List.nodup_append]
      refine ⟨nextNodup, goneNodup, ?_⟩
      intro queueId listed gone among
      exact outApart queueId listed gone (List.mem_append_right _ among)
    · intro queueId listed
      have before : queueId ∈ queueIds world.pending.entries := by
        apply perm.mem_iff.mpr
        rcases List.mem_append.mp listed with next | gone
        · exact List.mem_append_left _ next
        · exact List.mem_append_right _ (List.mem_append_right _ gone)
      refine ⟨before, ?_, (apart queueId before).2⟩
      change queueId ∉ queueIds (world.archive.append replacement.terminalToArchive).entries
      rw [entries, queueIds_append, List.mem_append]
      intro either
      rcases either with early | own
      · exact (apart queueId before).1 early
      · -- One entry is not archived and left at once.
        rcases List.mem_append.mp listed with next | gone
        · exact outApart queueId next queueId (List.mem_append_left _ own) rfl
        · exact goneApart queueId own queueId gone rfl

theorem replaces (inv : QueueInv world)
    (all : ∀ other, world.alive other = true) {replacement : Replacement}
    (at' : world.stages caller = .replacing replacement) :
    CleanInv ({ world with
      pending := .rewritten replacement.next
      taken := world.taken ++ queueIds replacement.gone }.goesOn caller
        (.releasing .replaced)) := by
  have holds : (world.stages caller).holds = true := by rw [at']; rfl
  obtain ⟨nodup, apart⟩ := clean.replacing caller replacement at'
  obtain ⟨nextNodup, goneNodup, goneApart⟩ := List.nodup_append.mp nodup
  apply clean.changes inv all holds _ world.archive _ rfl rfl clean.archiveEnded ?_
    clean.archiveNodup
  · intro queueId listed
    rcases List.mem_append.mp listed with before | gone
    · exact clean.takenApart queueId before
    · exact (apart queueId (List.mem_append_right _ gone)).2.1
  · intro queueId listed
    simp only [Seen, entries_rewritten, List.mem_append] at listed
    rcases listed with next | archived | (taken | gone)
    · exact Or.inl (Or.inl (apart queueId (List.mem_append_left _ next)).1)
    · exact Or.inl (Or.inr (Or.inl archived))
    · exact Or.inl (Or.inr (Or.inr taken))
    · exact Or.inl (Or.inl (apart queueId (List.mem_append_right _ gone)).1)
  · intro _ queueId listed
    rw [entries_rewritten] at listed
    obtain ⟨-, unarchived, untaken⟩ := apart queueId (List.mem_append_left _ listed)
    refine ⟨unarchived, ?_⟩
    rw [List.mem_append]
    intro either
    rcases either with taken | gone
    · exact untaken taken
    · exact goneApart queueId listed queueId gone rfl
  · intro other same
    cases same
  · rw [entries_rewritten]
    exact nextNodup

theorem starts (at' : world.stages caller = .idle) (call : QueueCall) :
    CleanInv (world.starts caller call) := by
  have before : (world.stages caller).replaces = false := by rw [at']; rfl
  cases call with
  | read => exact clean.moves _ rfl rfl rfl rfl rfl before rfl (fun _ new => by cases new)
  | retry entryLimit =>
    exact clean.moves _ rfl rfl rfl rfl rfl before rfl (fun _ new => by cases new)
  | enqueue failure =>
    have grown (other : Nat) : world.counts other ≤
        Function.update world.counts caller (world.counts caller + 1) other := by
      by_cases same : other = caller
      · rw [same, Function.update_self]
        omega
      · exact Nat.le_of_eq (Function.update_of_ne same _ _).symm
    have seen {queueId : QueueId} (listed : Seen (world.starts caller (.enqueue failure)) queueId) :
        Seen world queueId := listed
    refine ⟨clean.pendingEnded, clean.archiveEnded, clean.pendingNodup, clean.archiveNodup,
      clean.takenApart, ?_, ?_, ?_, ?_⟩
    · intro queueId listed
      exact Nat.lt_of_lt_of_le (clean.counted queueId (seen listed)) (grown _)
    · intro still
      apply clean.apart
      intro other
      by_cases same : other = caller
      · rw [same]
        exact before
      · have kept := still other
        change (Function.update world.stages caller _ other).replaces = false at kept
        rwa [Function.update_of_ne same] at kept
    · intro other entry told
      change (Function.update world.stages caller _ other).newEntry = some entry at told
      by_cases same : other = caller
      · rw [same, Function.update_self] at told
        cases told
        subst same
        refine ⟨rfl, ?_, ?_⟩
        · change world.counts other <
            Function.update world.counts other (world.counts other + 1) other
          rw [Function.update_self]
          omega
        · intro listed
          exact Nat.lt_irrefl _ (clean.counted _ (seen listed))
      · rw [Function.update_of_ne same] at told
        obtain ⟨own, counted, fresh⟩ := clean.unused other entry told
        exact ⟨own, Nat.lt_of_lt_of_le counted (grown _), fun listed => fresh (seen listed)⟩
    · intro other replacement told
      change Function.update world.stages caller _ other = _ at told
      by_cases same : other = caller
      · rw [same, Function.update_self] at told
        cases told
      · rw [Function.update_of_ne same] at told
        obtain ⟨nodup, apart⟩ := clean.replacing other replacement told
        exact ⟨nodup, apart⟩

end

end CleanInv

end

section

variable {world : QueueWorld} {move : QueueMove}

namespace CleanInv

theorem ends (clean : CleanInv world) {caller : Nat} {rest : Rest} (lock : Option QueueLock)
    (before : (world.stages caller).replaces = false) :
    CleanInv ({ world with lock }.ends caller rest) := by
  cases rest with
  | enqueued queueId =>
    exact clean.moves .idle rfl rfl rfl rfl rfl before rfl (fun _ new => by cases new)
  | read entries retrying =>
    cases retrying with
    | none =>
      exact clean.moves .idle rfl rfl rfl rfl rfl before rfl (fun _ new => by cases new)
    | some entryLimit =>
      simp only [QueueWorld.ends]
      split
      · exact clean.moves .idle rfl rfl rfl rfl rfl before rfl
          (fun _ new => by cases new)
      · exact clean.moves _ rfl rfl rfl rfl rfl before rfl (fun _ new => by cases new)
  | replaced =>
    exact clean.moves .idle rfl rfl rfl rfl rfl before rfl (fun _ new => by cases new)

theorem act (clean : CleanInv world) (inv : QueueInv world)
    (all : ∀ other, world.alive other = true) : CleanInv (world.act move) := by
  cases at' : world.stages move.caller with
  | idle =>
    simp only [QueueWorld.act, at']
    exact clean.starts at' move.call
  | acquiring job =>
    simp only [QueueWorld.act, at']
    have before : (world.stages move.caller).replaces = false := by rw [at']; rfl
    split
    · exact clean.moves (.made job) rfl rfl rfl rfl rfl before rfl
        (fun entry new => by rw [at']; cases job <;> exact new)
    · exact clean.moves (.waiting job) rfl rfl rfl rfl rfl before rfl
        (fun entry new => by rw [at']; cases job <;> exact new)
  | made job =>
    simp only [QueueWorld.act, at']
    exact clean.moves (.inside job) rfl rfl rfl rfl rfl (by rw [at']; rfl) rfl
      (fun entry new => by rw [at']; cases job <;> exact new)
  | waiting job =>
    simp only [QueueWorld.act, at']
    have before : (world.stages move.caller).replaces = false := by rw [at']; rfl
    split
    · exact clean.moves (.breaking job) rfl rfl rfl rfl rfl before rfl
        (fun entry new => by rw [at']; cases job <;> exact new)
    · split
      · exact clean.moves .idle rfl rfl rfl rfl rfl before rfl
          (fun entry new => by cases new)
      · exact clean.moves (.acquiring job) rfl rfl rfl rfl rfl before rfl
          (fun entry new => by rw [at']; cases job <;> exact new)
  | breaking job =>
    simp only [QueueWorld.act, at']
    exact clean.moves (.clearing job) rfl rfl rfl rfl rfl (by rw [at']; rfl) rfl
      (fun entry new => by rw [at']; cases job <;> exact new)
  | clearing job =>
    simp only [QueueWorld.act, at']
    exact clean.moves (.acquiring job) rfl rfl rfl rfl rfl (by rw [at']; rfl) rfl
      (fun entry new => by rw [at']; cases job <;> exact new)
  | inside job =>
    simp only [QueueWorld.act, at']
    have before : (world.stages move.caller).replaces = false := by rw [at']; rfl
    cases job with
    | enqueue entry => exact clean.enqueued inv all at'
    | read retrying =>
      simp only [QueueWorld.enters]
      split
      · exact clean.moves _ rfl rfl rfl rfl rfl before rfl (fun entry new => by cases new)
      · exact clean.moves _ rfl rfl rfl rfl rfl before rfl (fun entry new => by cases new)
    | replace processed =>
      exact clean.moves _ rfl rfl rfl rfl rfl before rfl (fun entry new => by cases new)
  | rewriting next rest =>
    simp only [QueueWorld.act, at']
    exact clean.rewrote inv all at'
  | archiving replacement =>
    simp only [QueueWorld.act, at']
    exact clean.archives inv all at'
  | replacing replacement =>
    simp only [QueueWorld.act, at']
    exact clean.replaces inv all at'
  | releasing rest =>
    simp only [QueueWorld.act, at']
    split
    · exact clean.moves (.removing rest) rfl rfl rfl rfl rfl (by rw [at']; rfl) rfl
        (fun entry new => by cases new)
    · exact clean.ends _ (by rw [at']; rfl)
  | removing rest =>
    simp only [QueueWorld.act, at']
    exact clean.moves (.removed rest) rfl rfl rfl rfl rfl (by rw [at']; rfl) rfl
      (fun entry new => by cases new)
  | removed rest =>
    simp only [QueueWorld.act, at']
    exact clean.ends _ (by rw [at']; rfl)
  | attempting entries attempted processed =>
    have before : (world.stages move.caller).replaces = false := by rw [at']; rfl
    cases entries with
    | nil =>
      simp only [QueueWorld.act, at']
      exact clean.moves _ rfl rfl rfl rfl rfl before rfl (fun entry new => by cases new)
    | cons entry entries =>
      simp only [QueueWorld.act, at']
      split
      · exact clean.moves _ rfl rfl rfl rfl rfl before rfl (fun entry new => by cases new)
      · cases failure : move.failure with
        | none => exact clean.moves _ rfl rfl rfl rfl rfl before rfl (fun entry new => by cases new)
        | some failure =>
          exact clean.moves _ rfl rfl rfl rfl rfl before rfl (fun entry new => by cases new)

end CleanInv

theorem alive_act : (world.act move).alive = world.alive := by
  unfold QueueWorld.act QueueWorld.starts QueueWorld.enters QueueWorld.ends QueueWorld.attempts
  repeat' split
  all_goals rfl

theorem alive_before {other : Nat} (lives : (world.step move).alive other = true) :
    world.alive other = true := by
  unfold QueueWorld.step at lives
  split at lives
  · split at lives
    · by_cases same : other = move.caller
      · simp [same] at lives
      · simpa [Function.update_of_ne same] using lives
    · rwa [alive_act] at lives
  · exact lives

theorem clean_step (inv : QueueInv world)
    (clean : (∀ other, world.alive other = true) → CleanInv world) :
    (∀ other, (world.step move).alive other = true) → CleanInv (world.step move) := by
  intro all
  have before : ∀ other, world.alive other = true := fun other => alive_before (all other)
  have stays : move.dies = false := by
    by_contra dies
    have dead := all move.caller
    rw [Bool.not_eq_false] at dies
    simp [QueueWorld.step, before, dies] at dead
  simp only [QueueWorld.step, before, stays, Bool.false_eq_true, if_true, if_false]
  exact (clean before).act inv before

theorem inv_run {moves : List QueueMove} (inv : QueueInv world)
    (clean : (∀ other, world.alive other = true) → CleanInv world)
    (careful : world.careful moves = true) :
    QueueInv (world.run moves) ∧
      ((∀ other, (world.run moves).alive other = true) → CleanInv (world.run moves)) := by
  induction moves generalizing world with
  | nil => exact ⟨inv, clean⟩
  | cons move moves ih =>
    simp only [QueueWorld.careful, Bool.and_eq_true] at careful
    exact ih (inv.step careful.1) (clean_step inv clean) careful.2

/-- Every entry whose enqueue returned is pending, recorded or archived; it is archived for a
failure that is not retried; and while nobody has died it is archived once, and not after a record
took it out. -/
structure NeverLost (world : QueueWorld) : Prop where
  kept : ∀ queueId ∈ world.returned, queueId ∈ queueIds world.pending.entries ∨
    queueId ∈ world.recorded ∨ queueId ∈ queueIds world.archive.entries
  permanent : ∀ entry ∈ world.archive.entries, ∃ failure : Failure,
    (entry.queueId, failure) ∈ world.failures ∧ failure.permanent = true
  once : (∀ caller, world.alive caller = true) →
    (queueIds world.archive.entries).Nodup ∧
      ∀ queueId ∈ world.taken, queueId ∉ queueIds world.archive.entries

/-- Any number of callers, dying at any step, lose no entry where every step is careful. -/
theorem attestation_never_lost (moves : List QueueMove)
    (careful : startQueue.careful moves = true) : NeverLost (startQueue.run moves) := by
  obtain ⟨inv, clean⟩ := inv_run queueInv_start (fun _ => cleanInv_start) careful
  refine ⟨?_, inv.archived, ?_⟩
  · intro queueId listed
    rcases inv.kept queueId listed with pending | recorded | archived
    · exact Or.inl (mem_entries_of_closed pending)
    · exact Or.inr (Or.inl recorded)
    · exact Or.inr (Or.inr (mem_entries_of_closed archived))
  · exact fun all => ⟨(clean all).archiveNodup, (clean all).takenApart⟩

def enqueueTurn (caller : Nat) : QueueMove :=
  { caller, call := .enqueue { message := "hcp unavailable" } }

def recordedRetry : List QueueMove :=
  List.replicate 7 (enqueueTurn 0) ++
    List.replicate 17 { caller := 1, call := .retry none }

theorem attestation_never_lost_recorded : NeverLost (startQueue.run recordedRetry) :=
  attestation_never_lost recordedRetry (by decide +kernel)

/-- A caller dies inside of its append; the next one breaks its lock and enqueues behind the torn
line, and a read drops the line that the two make. -/
def tornAppend : List QueueMove :=
  List.replicate 3 (enqueueTurn 0) ++ [{ enqueueTurn 0 with dies := true, torn := .part }] ++
    List.replicate 11 { enqueueTurn 1 with stale := true } ++
    List.replicate 8 { caller := 2 }

theorem torn_line_loses_entry : ¬ ∀ moves, NeverLost (startQueue.run moves) := by
  intro holds
  have kept := (holds tornAppend).kept ⟨1, 0⟩
  revert kept
  decide

end

end AdversarialReview.Attestation
