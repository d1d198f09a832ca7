import Mathlib.Data.List.Nodup
import Mathlib.Data.List.Induction
import AdversarialReview.Proofs.Finalization.Redispatch

/-! Interleaved ticks: one row per subject, changed only by its holder or after its deadline, and one
writer while no lease is stolen from a tick in flight. -/

namespace AdversarialReview

def KeyedOnce (table : LeaseTable) : Prop :=
  (table.map LeaseRow.subjectKey).Nodup

variable {table : LeaseTable}

theorem KeyedOnce.eq (once : KeyedOnce table) {row other : LeaseRow}
    (stored : row ∈ table) (storedToo : other ∈ table)
    (same : row.subjectKey = other.subjectKey) : row = other :=
  List.inj_on_of_nodup_map once stored storedToo same

variable {row : LeaseRow}

theorem selectByKey_eq_some_iff (once : KeyedOnce table) {key : SubjectKey} :
    selectByKey table key = some row ↔ row ∈ table ∧ row.subjectKey = key := by
  constructor
  · intro found
    exact ⟨List.mem_of_find?_eq_some found, by simpa using List.find?_some found⟩
  · rintro ⟨stored, named⟩
    cases found : selectByKey table key with
    | none => exact absurd named (by simpa using List.find?_eq_none.mp found row stored)
    | some other =>
      have located : other.subjectKey = key := by simpa using List.find?_some found
      rw [once.eq (List.mem_of_find?_eq_some found) stored (located.trans named.symm)]

theorem selectByKey_eq_none_iff {key : SubjectKey} :
    selectByKey table key = none ↔ ∀ row ∈ table, row.subjectKey ≠ key := by
  simp [selectByKey]

theorem countP_of_once (once : KeyedOnce table) {matching : LeaseRow → Bool}
    (stored : row ∈ table) (selected : matching row = true)
    (only : ∀ other ∈ table, matching other = true → other.subjectKey = row.subjectKey) :
    table.countP matching = 1 := by
  -- A predicate that only this row can meet counts like equality with it.
  have counted : table.countP matching = table.count row := by
    refine List.countP_congr fun other storedToo => ?_
    rw [beq_iff_eq]
    constructor
    · intro met
      exact once.eq storedToo stored (only other storedToo met)
    · rintro rfl
      exact selected
  rw [counted]
  exact List.count_eq_one_of_mem (List.Nodup.of_map _ once) stored

theorem KeyedOnce.map (once : KeyedOnce table) {change : LeaseRow → LeaseRow}
    (keeps : ∀ row ∈ table, (change row).subjectKey = row.subjectKey) :
    KeyedOnce (table.map change) := by
  have keys : (table.map change).map LeaseRow.subjectKey = table.map LeaseRow.subjectKey := by
    rw [List.map_map]
    exact List.map_congr_left keeps
  unfold KeyedOnce
  rwa [keys]

theorem fencedBy_false_of_ne (once : KeyedOnce table)
    (stored : row ∈ table) {leaseId : String} (stale : row.leaseId ≠ leaseId) :
    ∀ other ∈ table, fencedBy row.subjectKey leaseId other = false := by
  intro other storedToo
  by_contra fenced
  have fenced : other.subjectKey = row.subjectKey ∧ other.leaseId = leaseId := by
    simpa [fencedBy] using fenced
  exact stale (by rw [← once.eq storedToo stored fenced.1, fenced.2])

theorem updateLease_of_none {matching : LeaseRow → Bool}
    (none_ : ∀ row ∈ table, matching row = false) (change : LeaseRow → LeaseRow) :
    updateLease table matching change = (0, table) := by
  unfold updateLease
  rw [List.countP_eq_zero.mpr fun row stored => by simp [none_ row stored],
    List.map_congr_left (g := id) fun row stored => by simp [none_ row stored], List.map_id]

theorem renewLease_of_stale (once : KeyedOnce table)
    (stored : row ∈ table) {args : RenewArgs} (named : row.subjectKey = args.subject)
    (stale : row.leaseId ≠ args.leaseId) : renewLease table args = (false, table) := by
  unfold renewLease
  rw [← named, updateLease_of_none (fencedBy_false_of_ne once stored stale)]
  rfl

theorem releaseLease_of_stale (once : KeyedOnce table)
    (stored : row ∈ table) {args : ReleaseArgs} (named : row.subjectKey = args.subject)
    (stale : row.leaseId ≠ args.leaseId) : releaseLease table args = (false, table) := by
  have unfenced := fencedBy_false_of_ne once stored stale
  rw [named] at unfenced
  unfold releaseLease
  rw [List.countP_eq_zero.mpr fun row stored => by simp [unfenced row stored],
    List.filter_eq_self.mpr fun row stored => by simp [unfenced row stored]]
  rfl

/-- The fence token an acquire would take a lease under. -/
def LeaseCall.acquiredId : LeaseCall → Option String
  | acquire args => some args.leaseId
  | _ => none

def LeaseCall.deadlineFor (subject : SubjectKey) (leaseId : String) : LeaseCall → Option String
  | acquire args =>
    if args.subject = subject ∧ args.leaseId = leaseId then some args.deadline else none
  | renew args =>
    if args.subject = subject ∧ args.leaseId = leaseId then some args.deadline else none
  | release _ => none

structure LeasesGranted (calls : List LeaseCall) (table : LeaseTable) : Prop where
  once : KeyedOnce table
  taken : ∀ row ∈ table, row.leaseId ∈ calls.filterMap LeaseCall.acquiredId
  deadline : ∀ row ∈ table,
    (calls.filterMap (LeaseCall.deadlineFor row.subjectKey row.leaseId)).getLast? =
      some row.deadline

theorem LeasesGranted.deadline_concat {calls : List LeaseCall}
    (granted : LeasesGranted calls table) (stored : row ∈ table)
    {call : LeaseCall} (unnamed : call.deadlineFor row.subjectKey row.leaseId = none) :
    ((calls ++ [call]).filterMap (LeaseCall.deadlineFor row.subjectKey row.leaseId)).getLast? =
      some row.deadline := by
  rw [List.filterMap_append]
  simpa [unnamed] using granted.deadline row stored

theorem deadline_of_last (calls : List LeaseCall) {call : LeaseCall} {subject : SubjectKey}
    {leaseId deadline : String} (named : call.deadlineFor subject leaseId = some deadline) :
    ((calls ++ [call]).filterMap (LeaseCall.deadlineFor subject leaseId)).getLast? =
      some deadline := by
  rw [List.filterMap_append]
  simp [named]

theorem LeasesGranted.taken_concat {calls : List LeaseCall}
    (granted : LeasesGranted calls table) (stored : row ∈ table) (call : LeaseCall) :
    row.leaseId ∈ (calls ++ [call]).filterMap LeaseCall.acquiredId := by
  rw [List.filterMap_append]
  exact List.mem_append_left _ (granted.taken row stored)

def replaceLease (table : LeaseTable) (cols : LeaseRow) : LeaseTable :=
  table.map fun row => if row.subjectKey = cols.subjectKey then cols else row

theorem KeyedOnce.insert (once : KeyedOnce table) {cols : LeaseRow}
    (free : selectByKey table cols.subjectKey = none) : KeyedOnce (table ++ [cols]) := by
  unfold KeyedOnce
  rw [List.map_append, List.nodup_append]
  refine ⟨once, by simp, ?_⟩
  simpa using selectByKey_eq_none_iff.mp free

theorem KeyedOnce.replace (once : KeyedOnce table) (cols : LeaseRow) :
    KeyedOnce (replaceLease table cols) := by
  refine once.map fun row _ => ?_
  split
  · next same => exact same.symm
  · rfl

section

variable [JsDate] [SqliteDate]

variable {table : LeaseTable}

theorem acquireTxn_cases (once : KeyedOnce table) (cols : LeaseRow) (now : String) :
    (selectByKey table cols.subjectKey = none ∧
        acquireTxn table cols now = (.inserted, table ++ [cols])) ∨
      (∃ existing, selectByKey table cols.subjectKey = some existing ∧
        isExpired existing.deadline now = true ∧
        SqliteDate.reached now existing.deadline = true ∧
        acquireTxn table cols now = (.stolen, replaceLease table cols)) ∨
      acquireTxn table cols now = (.contended, table) := by
  cases found : selectByKey table cols.subjectKey with
  | none =>
    have free : table.any (fun row => row.subjectKey = cols.subjectKey) = false := by
      simpa using selectByKey_eq_none_iff.mp found
    simp [acquireTxn, insertLease, free]
  | some existing =>
    obtain ⟨stored, named⟩ := (selectByKey_eq_some_iff once).mp found
    have taken : table.any (fun row => row.subjectKey = cols.subjectKey) = true :=
      List.any_eq_true.mpr ⟨existing, stored, by simpa using named⟩
    refine .inr ?_
    simp only [acquireTxn, insertLease, taken, if_true, found]
    by_cases expired : isExpired existing.deadline now = true
    · simp only [expired, if_true, Option.some.injEq, exists_eq_left', true_and]
      by_cases passed : SqliteDate.reached now existing.deadline = true
      · -- Both comparisons hold, so the one row of the subject is overwritten.
        have chosen : ∀ row ∈ table,
            (fencedBy cols.subjectKey existing.leaseId row &&
              SqliteDate.reached now row.deadline) = decide (row.subjectKey = cols.subjectKey) := by
          intro row storedToo
          by_cases same : row.subjectKey = cols.subjectKey
          · rw [once.eq storedToo stored (same.trans named.symm)]
            simp [fencedBy, named, passed]
          · simp [fencedBy, same]
        have stolen : stealLease table cols existing.leaseId now =
            (1, replaceLease table cols) := by
          unfold stealLease updateLease replaceLease
          rw [countP_of_once once stored (by rw [chosen existing stored]; simpa using named)
            fun other storedToo met => ?_]
          · congr 1
            refine List.map_congr_left fun row storedToo => ?_
            simp only [chosen row storedToo, decide_eq_true_eq]
          · rw [chosen other storedToo] at met
            exact (of_decide_eq_true met).trans named.symm
        exact .inl ⟨passed, by simp [stolen]⟩
      · -- The database disagrees about the expiry and selects no row.
        have lost : stealLease table cols existing.leaseId now = (0, table) := by
          refine updateLease_of_none (fun row storedToo => ?_) _
          by_cases same : row.subjectKey = cols.subjectKey
          · rw [once.eq storedToo stored (same.trans named.symm)]
            simp [passed]
          · simp [fencedBy, same]
        simp [lost]
    · simp [expired]

theorem acquireLease_cases {table table' : LeaseTable} (once : KeyedOnce table)
    {args : AcquireArgs} {result : AcquireResult}
    (answered : acquireLease table args = .ok (result, table')) :
    (result.acquired = true ∧ selectByKey table args.subject = none ∧
        table' = table ++ [args.cols]) ∨
      (result.acquired = true ∧ (∃ existing, selectByKey table args.subject = some existing ∧
        isExpired existing.deadline args.now = true ∧
        SqliteDate.reached args.now existing.deadline = true) ∧
        table' = replaceLease table args.cols) ∨
      (result.acquired = false ∧ table' = table) := by
  unfold acquireLease at answered
  split_ifs at answered
  rcases acquireTxn_cases once args.cols args.now with
    ⟨free, ended⟩ | ⟨existing, found, expired, passed, ended⟩ | ended <;>
  · rw [ended] at answered
    obtain ⟨rfl, rfl⟩ := Prod.mk.inj (Except.ok.inj answered)
    first
    | exact .inl ⟨rfl, free, rfl⟩
    | exact .inr (.inl ⟨rfl, ⟨existing, found, expired, passed⟩, rfl⟩)
    | exact .inr (.inr ⟨rfl, rfl⟩)

variable {calls : List LeaseCall}

theorem LeasesGranted.acquire (granted : LeasesGranted calls table) {args : AcquireArgs}
    (fresh : args.leaseId ∉ calls.filterMap LeaseCall.acquiredId) :
    LeasesGranted (calls ++ [.acquire args]) (LeaseCall.apply table (.acquire args)) := by
  -- Rows already stored are under other tokens, so the call does not name them.
  have unnamed : ∀ row ∈ table,
      (LeaseCall.acquire args).deadlineFor row.subjectKey row.leaseId = none := by
    intro row stored
    refine if_neg fun named => fresh ?_
    rw [named.2]
    exact granted.taken row stored
  have kept : LeasesGranted (calls ++ [.acquire args]) table :=
    ⟨granted.once, fun row stored => granted.taken_concat stored _,
      fun row stored => granted.deadline_concat stored (unnamed row stored)⟩
  have taken : args.leaseId ∈ (calls ++ [LeaseCall.acquire args]).filterMap LeaseCall.acquiredId := by
    simp [LeaseCall.acquiredId]
  have last : ((calls ++ [LeaseCall.acquire args]).filterMap
      (LeaseCall.deadlineFor args.subject args.leaseId)).getLast? = some args.deadline :=
    deadline_of_last calls (by simp [LeaseCall.deadlineFor])
  unfold LeaseCall.apply
  simp only
  split
  · next result table' answered =>
    rcases acquireLease_cases granted.once answered with
      ⟨-, free, rfl⟩ | ⟨-, -, rfl⟩ | ⟨-, rfl⟩
    · refine ⟨?_, fun row stored => ?_, fun row stored => ?_⟩
      · exact granted.once.insert free
      · rcases List.mem_append.mp stored with old | new
        · exact kept.taken row old
        · rw [List.mem_singleton.mp new]; exact taken
      · rcases List.mem_append.mp stored with old | new
        · exact kept.deadline row old
        · rw [List.mem_singleton.mp new]; exact last
    · -- The stolen row is replaced in place by the caller's.
      have origin : ∀ row ∈ replaceLease table args.cols, row ∈ table ∨ row = args.cols := by
        intro row stored
        obtain ⟨old, storedOld, rfl⟩ := List.mem_map.mp stored
        split
        · exact .inr rfl
        · exact .inl storedOld
      refine ⟨granted.once.replace _, fun row stored => ?_, fun row stored => ?_⟩
      · rcases origin row stored with old | rfl
        · exact kept.taken row old
        · exact taken
      · rcases origin row stored with old | rfl
        · exact kept.deadline row old
        · exact last
    · exact kept
  · exact kept

theorem LeasesGranted.renew (granted : LeasesGranted calls table) (args : RenewArgs) :
    LeasesGranted (calls ++ [.renew args]) (LeaseCall.apply table (.renew args)) := by
  refine ⟨granted.once.map fun row _ => by split <;> rfl, fun row stored => ?_,
    fun row stored => ?_⟩
  · obtain ⟨old, storedOld, rfl⟩ := List.mem_map.mp stored
    split <;> exact granted.taken_concat storedOld _
  · obtain ⟨old, storedOld, rfl⟩ := List.mem_map.mp stored
    by_cases fenced : fencedBy args.subject args.leaseId old = true
    · have named : old.subjectKey = args.subject ∧ old.leaseId = args.leaseId := by
        simpa [fencedBy] using fenced
      simp only [fenced, if_true]
      exact deadline_of_last calls (by simp [LeaseCall.deadlineFor, named])
    · have unnamed : ¬ (args.subject = old.subjectKey ∧ args.leaseId = old.leaseId) := by
        rintro ⟨same, alike⟩
        simp [fencedBy, same, alike] at fenced
      simp only [fenced, Bool.false_eq_true, if_false]
      exact granted.deadline_concat storedOld (if_neg unnamed)

theorem LeasesGranted.release (granted : LeasesGranted calls table) (args : ReleaseArgs) :
    LeasesGranted (calls ++ [.release args]) (LeaseCall.apply table (.release args)) := by
  have remains : (LeaseCall.apply table (.release args)).Sublist table := List.filter_sublist
  refine ⟨granted.once.sublist (remains.map _), fun row stored => ?_, fun row stored => ?_⟩
  · exact granted.taken_concat (remains.subset stored) _
  · exact granted.deadline_concat (remains.subset stored) rfl

theorem leasesGranted_run (calls : List LeaseCall)
    (distinct : (calls.filterMap LeaseCall.acquiredId).Nodup) :
    LeasesGranted calls (runLeaseCalls calls) := by
  -- Induction on the run from its end: one call extends the granted calls by itself.
  induction calls using List.reverseRecOn with
  | nil => exact ⟨List.nodup_nil, by simp [runLeaseCalls], by simp [runLeaseCalls]⟩
  | append_singleton calls call ih =>
    rw [List.filterMap_append] at distinct
    have granted := ih (List.Nodup.of_append_left distinct)
    unfold runLeaseCalls at granted ⊢
    rw [List.foldl_append, List.foldl_cons, List.foldl_nil]
    cases call with
    | acquire args =>
      refine granted.acquire fun taken => ?_
      exact List.disjoint_of_nodup_append distinct taken (by simp [LeaseCall.acquiredId])
    | renew args => exact granted.renew args
    | release args => exact granted.release args

/--
In every run of the store each subject has at most one row, whose deadline is the one its last
call gave it; a live lease is only taken over at or past that deadline; and a stale token
changes nothing.
-/
theorem executorLease_exclusive (calls : List LeaseCall)
    (distinct : (calls.filterMap LeaseCall.acquiredId).Nodup) :
    ((runLeaseCalls calls).map LeaseRow.subjectKey).Nodup ∧
      ∀ row ∈ runLeaseCalls calls,
        (calls.filterMap (LeaseCall.deadlineFor row.subjectKey row.leaseId)).getLast? =
            some row.deadline ∧
          (∀ args result table',
            acquireLease (runLeaseCalls calls) args = .ok (result, table') →
            result.acquired = true → args.subject = row.subjectKey →
            args.leaseId ≠ row.leaseId → JsDate.reached args.now row.deadline = true) ∧
          (∀ args : RenewArgs, args.subject = row.subjectKey → args.leaseId ≠ row.leaseId →
            renewLease (runLeaseCalls calls) args = (false, runLeaseCalls calls)) ∧
          ∀ args : ReleaseArgs, args.subject = row.subjectKey → args.leaseId ≠ row.leaseId →
            releaseLease (runLeaseCalls calls) args = (false, runLeaseCalls calls) := by
  have granted := leasesGranted_run calls distinct
  refine ⟨granted.once, fun row stored => ⟨granted.deadline row stored, ?_, ?_, ?_⟩⟩
  · intro args result table' answered acquired named _
    have found := (selectByKey_eq_some_iff granted.once).mpr ⟨stored, named.symm⟩
    rcases acquireLease_cases granted.once answered with
      ⟨-, free, -⟩ | ⟨-, ⟨existing, held, expired, -⟩, -⟩ | ⟨refused, -⟩
    · rw [found] at free
      cases free
    · rw [found] at held
      rw [Option.some.inj held]
      exact expired
    · rw [acquired] at refused
      cases refused
  · exact fun args named stale => renewLease_of_stale granted.once stored named.symm stale.symm
  · exact fun args named stale => releaseLease_of_stale granted.once stored named.symm stale.symm

end

def stolenLeaseCalls : List LeaseCall :=
  [.acquire { subject := ⟨"code-pr", "acme/app#7"⟩, holder := "first", leaseId := "lease-1"
              now := "2026-07-17T12:00:00.000Z", deadline := "2026-07-17T12:05:00.000Z" },
    .renew { subject := ⟨"code-pr", "acme/app#7"⟩, leaseId := "lease-1"
             deadline := "2026-07-17T12:10:00.000Z" },
    .acquire { subject := ⟨"code-pr", "acme/app#7"⟩, holder := "second", leaseId := "lease-2"
               now := "2026-07-17T12:10:00.000Z", deadline := "2026-07-17T12:15:00.000Z" }]

/-- The theft leaves one row, under the thief's token, which the first holder cannot release. -/
theorem executorLease_exclusive_stolen :
    letI := JsDate.isoDates
    letI := JsDate.isoSqlite
    (runLeaseCalls stolenLeaseCalls).map LeaseRow.leaseId = ["lease-2"] ∧
      releaseLease (runLeaseCalls stolenLeaseCalls) ⟨⟨"code-pr", "acme/app#7"⟩, "lease-1"⟩ =
        (false, runLeaseCalls stolenLeaseCalls) := by
  let _ := JsDate.isoDates
  let _ := JsDate.isoSqlite
  have row : { subjectKey := ⟨"code-pr", "acme/app#7"⟩, leaseId := "lease-2", holder := "second"
               revisionRef := none, acquiredAt := "2026-07-17T12:10:00.000Z"
               deadline := "2026-07-17T12:15:00.000Z"
               updatedAt := "2026-07-17T12:10:00.000Z" } ∈ runLeaseCalls stolenLeaseCalls := by
    decide +kernel
  refine ⟨by decide +kernel, ?_⟩
  exact ((executorLease_exclusive stolenLeaseCalls (by decide +kernel)).2 _ row).2.2.2 _ rfl
    (by decide +kernel)

def sinceRead (leaseId : String) (observed : List TickRecord) : List TickRecord :=
  observed.reverse.takeWhile fun record => !(record.leaseId = leaseId ∧ record.action = .read)

def TickRecord.finalizes (record : TickRecord) : Bool :=
  match record.action with
  | .append event => markOf event = some .finalized
  | _ => false

/-- What an observer must never see violated. -/
structure OneWriter (observed : List TickRecord) : Prop where
  /-- Whoever acts holds the lease. -/
  held : ∀ record ∈ observed, record.action.acts = true → record.holder = some record.leaseId
  /-- Nobody else acted since the tick that acts read the ledger. -/
  alone : ∀ before record after, observed = before ++ record :: after →
    record.action.acts = true → ∀ other ∈ sinceRead record.leaseId before,
      other.action.acts = true → other.leaseId = record.leaseId
  /-- At most one finalized event is appended. -/
  once : (observed.filter TickRecord.finalizes).length ≤ 1

def Leased (subject : SubjectKey) (leaseId : String) (world : TickWorld) : Prop :=
  leaseId ∈ world.inFlight ∧ world.holder subject = some leaseId

structure Working (subject : SubjectKey) (leaseId : String) (world : TickWorld) : Prop where
  leased : Leased subject leaseId world
  alone : ∀ other ∈ sinceRead leaseId world.observed,
    other.action.acts = true → other.leaseId = leaseId
  unfinalized : ∀ record ∈ world.observed, record.finalizes = false

/-- The stores and the observations agree. -/
structure TickInvariant (world : TickWorld) : Prop where
  keyed : KeyedOnce world.leases
  observed : OneWriter world.observed
  recorded : (∃ record ∈ world.observed, record.finalizes = true) →
    everFinalized world.ledger = true

def LeaseKept (subject : SubjectKey) (leaseId : String) (world later : TickWorld) : Prop :=
  Leased subject leaseId world → Leased subject leaseId later ∧
    ∃ extra, later.observed = world.observed ++ extra ∧
      ∀ record ∈ extra, record.action.acts = false ∧ record.leaseId ≠ leaseId

theorem sinceRead_append {leaseId : String} {observed extra : List TickRecord}
    (others : ∀ record ∈ extra, record.leaseId ≠ leaseId) :
    sinceRead leaseId (observed ++ extra) = extra.reverse ++ sinceRead leaseId observed := by
  unfold sinceRead
  rw [List.reverse_append, List.takeWhile_append_of_pos]
  intro record listed
  simp [others record (List.mem_reverse.mp listed)]

theorem Working.later {subject : SubjectKey} {leaseId : String} {world later : TickWorld}
    (working : Working subject leaseId world) (kept : LeaseKept subject leaseId world later) :
    Working subject leaseId later := by
  obtain ⟨leased, extra, grown, harmless⟩ := kept working.leased
  refine ⟨leased, ?_, ?_⟩
  · rw [grown, sinceRead_append fun record listed => (harmless record listed).2]
    intro other listed acts
    rcases List.mem_append.mp listed with new | old
    · rw [(harmless other (List.mem_reverse.mp new)).1] at acts
      cases acts
    · exact working.alone other old acts
  · rw [grown]
    intro record listed
    rcases List.mem_append.mp listed with old | new
    · exact working.unfinalized record old
    · -- A record that does not act appended nothing.
      have idle := (harmless record new).1
      unfold TickRecord.finalizes
      cases action : record.action <;> simp_all [TickAction.acts]

theorem LeaseKept.refl (subject : SubjectKey) (leaseId : String) (world : TickWorld) :
    LeaseKept subject leaseId world world :=
  fun leased => ⟨leased, [], by simp, by simp⟩

theorem LeaseKept.trans {subject : SubjectKey} {leaseId : String}
    {first second third : TickWorld} (before : LeaseKept subject leaseId first second)
    (after : LeaseKept subject leaseId second third) : LeaseKept subject leaseId first third := by
  intro leased
  obtain ⟨leased, early, grown, harmless⟩ := before leased
  obtain ⟨leased, late, grown', harmless'⟩ := after leased
  refine ⟨leased, early ++ late, by rw [grown', grown, List.append_assoc], fun record listed => ?_⟩
  rcases List.mem_append.mp listed with old | new
  · exact harmless record old
  · exact harmless' record new

theorem LeaseKept.of_eq {subject : SubjectKey} {leaseId : String} {world later : TickWorld}
    (flying : leaseId ∈ world.inFlight → leaseId ∈ later.inFlight)
    (leases : later.leases = world.leases) (observed : later.observed = world.observed) :
    LeaseKept subject leaseId world later := by
  rintro ⟨inFlight, holds⟩
  refine ⟨⟨flying inFlight, ?_⟩, [], by simp [observed], by simp⟩
  rw [← holds, TickWorld.holder, leases]
  rfl

theorem LeaseKept.of_other {subject : SubjectKey} {leaseId other : String}
    {world later : TickWorld} (holds : world.holder subject = some leaseId)
    (apart : other ≠ leaseId) : LeaseKept subject other world later := by
  rintro ⟨-, too⟩
  rw [holds] at too
  exact absurd (Option.some.inj too).symm apart

theorem OneWriter.note_idle {observed : List TickRecord} (fine : OneWriter observed)
    {record : TickRecord} (idle : record.action.acts = false) :
    OneWriter (observed ++ [record]) := by
  refine ⟨fun listed member acts => ?_, fun before middle after split acts => ?_, ?_⟩
  · rcases List.mem_append.mp member with old | new
    · exact fine.held listed old acts
    · rw [List.mem_singleton.mp new, idle] at acts
      cases acts
  · -- The acting record is one of the earlier ones.
    rcases List.eq_nil_or_concat' after with rfl | ⟨rest, last, rfl⟩
    · have same := (List.append_inj' split rfl).2
      rw [← List.singleton_inj.mp same, idle] at acts
      cases acts
    · rw [← List.cons_append, ← List.append_assoc] at split
      exact fine.alone before middle rest (List.append_inj' split rfl).1 acts
  · have silent : record.finalizes = false := by
      unfold TickRecord.finalizes
      cases action : record.action <;> simp_all [TickAction.acts]
    simpa [List.filter_append, silent] using fine.once

theorem OneWriter.note_act {observed : List TickRecord} (fine : OneWriter observed)
    {record : TickRecord} (held : record.holder = some record.leaseId)
    (alone : ∀ other ∈ sinceRead record.leaseId observed,
      other.action.acts = true → other.leaseId = record.leaseId)
    (first : record.finalizes = true → ∀ earlier ∈ observed, earlier.finalizes = false) :
    OneWriter (observed ++ [record]) := by
  refine ⟨fun listed member acts => ?_, fun before middle after split acts => ?_, ?_⟩
  · rcases List.mem_append.mp member with old | new
    · exact fine.held listed old acts
    · rw [List.mem_singleton.mp new]
      exact held
  · rcases List.eq_nil_or_concat' after with rfl | ⟨rest, last, rfl⟩
    · obtain ⟨earlier, same⟩ := List.append_inj' split rfl
      rw [← List.singleton_inj.mp same, ← earlier]
      exact alone
    · rw [← List.cons_append, ← List.append_assoc] at split
      exact fine.alone before middle rest (List.append_inj' split rfl).1 acts
  · rw [List.filter_append, List.length_append]
    cases finalizes : record.finalizes with
    | false => simpa [finalizes] using fine.once
    | true =>
      rw [List.filter_eq_nil_iff.mpr fun earlier listed => by
        simp [first finalizes earlier listed]]
      simp [finalizes]

def CallsOut : {β : Type} → TickEffect β → Prop
  | _, .call _ => True
  | _, .checkIdentity _ _ => True
  | _, _ => False

def Appends : {β : Type} → TickEffect β → Prop
  | _, .append _ => True
  | _, _ => False

def AppendsLast {α : Type} : Prog TickEffect α → Prop
  | .pure _ => True
  | .fail _ => True
  | .step effect next =>
    (CallsOut effect ∧ ∀ answer, AppendsLast (next answer)) ∨
      (Appends effect ∧ ∀ answer, (next answer).Uses fun _ => False)

theorem AppendsLast.bind {α β : Type} {prog : Prog TickEffect α} {next : α → Prog TickEffect β}
    (first : prog.Uses CallsOut) (second : ∀ value, AppendsLast (next value)) :
    AppendsLast (prog.bind next) := by
  induction prog with
  | pure value => exact second value
  | fail message => trivial
  | step effect rest ih => exact .inl ⟨first.1, fun answer => ih answer (first.2 answer)⟩

theorem appendsLast_append (event : FinalizationEvent) (outcome : ExecutionOutcome) :
    AppendsLast ((append event).bind fun _ => .pure outcome) := by
  refine .inr ⟨trivial, fun answer => ?_⟩
  cases answer <;> trivial

theorem appendsLast_recordKillSwitchEscalation (subject : SubjectKey)
    (decision : EligibilityDecision) (state : LedgerState) (observedAt : String) :
    AppendsLast (recordKillSwitchEscalation subject decision state observedAt) := by
  unfold recordKillSwitchEscalation
  split
  · exact appendsLast_append _ _
  · trivial

theorem appendsLast_applyFinalizeNow (config : ExecutorConfig) (subject : SubjectKey)
    (decision : EligibilityDecision) (state : LedgerState) (head observedAt : String) :
    AppendsLast (applyFinalizeNow config subject decision state head observedAt) := by
  unfold applyFinalizeNow
  simp only
  split
  · exact appendsLast_recordKillSwitchEscalation subject decision state observedAt
  · refine AppendsLast.bind ?_ fun idv => ?_
    · unfold checkIdentityAttestation
      split
      · refine ⟨trivial, fun answer => ?_⟩
        simp only [Prog.pure_bind]
        split <;> trivial
      · trivial
    · split
      · split
        · trivial
        · exact appendsLast_append _ _
      · split
        · exact appendsLast_append _ _
        · refine AppendsLast.bind ?_ fun answer => ?_
          · unfold laneMerge
            split
            · exact ⟨trivial, fun _ => trivial⟩
            · trivial
          · split
            · trivial
            · split
              · trivial
              · split
                · split
                  · exact appendsLast_append _ _
                  · trivial
                · exact appendsLast_append _ _

theorem appendsLast_applyRemediate (config : ExecutorConfig) (subject : SubjectKey)
    (decision : EligibilityDecision) (state : LedgerState) (head observedAt : String) :
    AppendsLast (applyRemediate config subject decision state head observedAt) := by
  unfold applyRemediate
  simp only
  split
  · trivial
  · split
    · exact appendsLast_recordKillSwitchEscalation subject decision state observedAt
    · split
      · refine .inl ⟨trivial, fun answer => ?_⟩
        simp only [Prog.pure_bind]
        split
        · trivial
        · exact appendsLast_append _ _
      · exact appendsLast_append _ _

theorem appendsLast_applyClose (config : ExecutorConfig) (subject : SubjectKey)
    (decision : EligibilityDecision) (state : LedgerState) (head observedAt : String) :
    AppendsLast (applyClose config subject decision state head observedAt) := by
  unfold applyClose
  simp only
  split
  · exact appendsLast_recordKillSwitchEscalation subject decision state observedAt
  · split
    · refine .inl ⟨trivial, fun answer => ?_⟩
      simp only [Prog.pure_bind]
      split
      · trivial
      · exact appendsLast_append _ _
    · exact appendsLast_append _ _

theorem appendsLast_applyDecision (config : ExecutorConfig) (subject : SubjectKey)
    (decision : EligibilityDecision) (state : LedgerState) (observedAt : String) :
    AppendsLast (applyDecision config subject decision state observedAt) := by
  unfold applyDecision
  simp only
  split
  · trivial
  · split
    · exact appendsLast_applyFinalizeNow config subject decision state _ observedAt
    · exact appendsLast_applyRemediate config subject decision state _ observedAt
    · exact appendsLast_applyClose config subject decision state _ observedAt
    · trivial
    all_goals
      unfold applyMark
      split
      · exact appendsLast_append _ _
      · trivial

theorem everFinalized_append {events : List FinalizationEvent} (ended : everFinalized events = true)
    (later : List FinalizationEvent) : everFinalized (events ++ later) = true := by
  simp only [everFinalized, List.any_append, Bool.or_eq_true] at ended ⊢
  exact .inl ended

theorem TickInvariant.append {world : TickWorld} (fine : TickInvariant world)
    (events : List FinalizationEvent) : TickInvariant (world.append events) :=
  ⟨fine.keyed, fine.observed, fun seen => everFinalized_append (fine.recorded seen) events⟩

theorem note_keeps {subject : SubjectKey} {leaseId : String} {world : TickWorld}
    (fine : TickInvariant world) (working : Working subject leaseId world) {action : TickAction}
    {ledger : List FinalizationEvent}
    (recorded : ∀ event, action = .append event → markOf event = some .finalized →
      everFinalized ledger = true) :
    TickInvariant { world.note subject leaseId action with ledger } ∧
      Leased subject leaseId { world.note subject leaseId action with ledger } := by
  refine ⟨⟨fine.keyed, ?_, ?_⟩, working.leased⟩
  · exact fine.observed.note_act working.leased.2 working.alone
      fun _ earlier listed => working.unfinalized earlier listed
  · rintro ⟨record, listed, finalizes⟩
    rcases List.mem_append.mp listed with old | new
    · rw [working.unfinalized record old] at finalizes
      cases finalizes
    · rw [List.mem_singleton.mp new] at finalizes
      unfold TickRecord.finalizes at finalizes
      split at finalizes
      · next event acted => exact recorded event acted (of_decide_eq_true finalizes)
      · cases finalizes

theorem Working.call {subject : SubjectKey} {leaseId : String} {world : TickWorld}
    (working : Working subject leaseId world) (fine : TickInvariant world) (surface : SurfaceCall)
    (meanwhile : List FinalizationEvent) :
    TickInvariant ((world.note subject leaseId (.call surface)).append meanwhile) ∧
      Working subject leaseId ((world.note subject leaseId (.call surface)).append meanwhile) := by
  obtain ⟨inv, leased⟩ := note_keeps fine working (by simp : ∀ event,
    TickAction.call surface = .append event → markOf event = some .finalized →
      everFinalized (world.ledger ++ meanwhile) = true)
  refine ⟨inv, leased, ?_, ?_⟩
  · intro other listed acts
    -- The newest record is the call itself, and it is not a read.
    have newest : sinceRead leaseId ((world.note subject leaseId (.call surface)).append
        meanwhile).observed = { leaseId, holder := world.holder subject, action := .call surface } ::
          sinceRead leaseId world.observed := by
      simp [sinceRead, TickWorld.note, TickWorld.append]
    rw [newest] at listed
    rcases List.mem_cons.mp listed with rfl | old
    · rfl
    · exact working.alone other old acts
  · intro record listed
    rcases List.mem_append.mp listed with old | new
    · exact working.unfinalized record old
    · rw [List.mem_singleton.mp new]
      rfl

section

variable [JsDate] [SqliteDate]

def NoTheft : SurfaceAnswers → String → {β : Type} → TickEffect β → TickWorld → Prop
  | _, _, _, .acquire args, world =>
    ∀ row ∈ selectByKey world.leases args.subject, row.leaseId ∈ world.inFlight →
      (isExpired row.deadline args.now && SqliteDate.reached args.now row.deadline) = false
  | _, _, _, _, _ => True

instance (answers : SurfaceAnswers) (leaseId : String) {β : Type} (effect : TickEffect β)
    (world : TickWorld) : Decidable (NoTheft answers leaseId effect world) := by
  cases effect <;> unfold NoTheft <;> infer_instance

def leaseDiscipline (subject : SubjectKey) : Interleaved.Discipline (tickSystem subject) where
  allowed := NoTheft
  inv := TickInvariant
  rely := LeaseKept subject
  rely_refl := LeaseKept.refl subject
  rely_trans := LeaseKept.trans
  external_ok := fun events _ fine => ⟨fine.append events, fun _ => .of_eq id rfl rfl⟩
  crash_ok := fun leaseId world fine => by
    refine ⟨⟨fine.keyed, fine.observed, fine.recorded⟩, fun other apart => .of_eq ?_ rfl rfl⟩
    intro flying
    exact List.mem_filter.mpr ⟨flying, by simpa using apart⟩

variable {subject : SubjectKey} {answers : SurfaceAnswers} {leaseId : String} {world : TickWorld}

theorem read_keeps (subject : SubjectKey) (answers : SurfaceAnswers) (leaseId : String)
    (fine : TickInvariant world) :
    TickInvariant (performTick subject answers leaseId .readLedger world).2 ∧
      (∀ other, other ≠ leaseId →
        LeaseKept subject other world (performTick subject answers leaseId .readLedger world).2) ∧
      (Leased subject leaseId world →
        Leased subject leaseId (performTick subject answers leaseId .readLedger world).2) ∧
      sinceRead leaseId (performTick subject answers leaseId .readLedger world).2.observed = [] := by
  refine ⟨⟨fine.keyed, fine.observed.note_idle rfl, fun seen => fine.recorded ?_⟩, ?_, id, ?_⟩
  · obtain ⟨record, listed, finalizes⟩ := seen
    rcases List.mem_append.mp listed with old | new
    · exact ⟨record, old, finalizes⟩
    · rw [List.mem_singleton.mp new] at finalizes
      cases finalizes
  · rintro other apart ⟨flying, holds⟩
    refine ⟨⟨flying, holds⟩, _, rfl, fun record listed => ?_⟩
    rw [List.mem_singleton.mp listed]
    exact ⟨rfl, apart.symm⟩
  · simp [sinceRead, performTick, TickWorld.note]

theorem acquire_keeps (answers : SurfaceAnswers) (args : AcquireArgs) (fine : TickInvariant world)
    (clean : NoTheft answers leaseId (.acquire args) world) (named : args.subject = subject)
    (own : args.leaseId = leaseId) :
    TickInvariant (performTick subject answers leaseId (.acquire args) world).2 ∧
      (∀ other, other ≠ leaseId →
        LeaseKept subject other world
          (performTick subject answers leaseId (.acquire args) world).2) ∧
      ∀ result, (performTick subject answers leaseId (.acquire args) world).1 = .ok result →
        result.acquired = true →
          Leased subject leaseId (performTick subject answers leaseId (.acquire args) world).2 := by
  subst named
  simp only [performTick]
  cases answered : acquireLease world.leases args with
  | error refusal => exact ⟨fine, fun other _ => .refl _ _ _, by simp⟩
  | ok granted =>
    obtain ⟨result, leases⟩ := granted
    simp only [Except.ok.injEq]
    -- Whoever wins is in flight and named by the one row of the subject.
    have wins : KeyedOnce leases → args.cols ∈ leases → result.acquired = true →
        Leased args.subject leaseId { world with
          leases
          inFlight := if result.acquired then leaseId :: world.inFlight
            else world.inFlight } := by
      intro once stored acquired
      refine ⟨by simp [acquired], ?_⟩
      have found : selectByKey leases args.subject = some args.cols :=
        (selectByKey_eq_some_iff once).mpr ⟨stored, rfl⟩
      simp [TickWorld.holder, found, AcquireArgs.cols, own]
    rcases acquireLease_cases fine.keyed answered with
      ⟨acquired, free, rfl⟩ | ⟨acquired, ⟨existing, held, expired, passed⟩, rfl⟩ | ⟨refused, rfl⟩
    · have once : KeyedOnce (world.leases ++ [args.cols]) := fine.keyed.insert free
      refine ⟨⟨once, fine.observed, fine.recorded⟩, fun other _ => ?_, ?_⟩
      · rintro ⟨-, holds⟩
        simp [TickWorld.holder, free] at holds
      · rintro _ rfl -
        exact wins once (by simp) acquired
    · have once := fine.keyed.replace args.cols
      refine ⟨⟨once, fine.observed, fine.recorded⟩, fun other _ => ?_, ?_⟩
      · rintro ⟨flying, holds⟩
        -- A lease in flight is not stolen.
        have holder : existing.leaseId = other := by
          simpa [TickWorld.holder, held] using holds
        have kept := clean existing held (holder ▸ flying)
        simp [expired, passed] at kept
      · rintro _ rfl -
        refine wins once ?_ acquired
        obtain ⟨stored, same⟩ := (selectByKey_eq_some_iff fine.keyed).mp held
        exact List.mem_map.mpr ⟨existing, stored, if_pos same⟩
    · refine ⟨⟨fine.keyed, fine.observed, fine.recorded⟩, fun other _ => .of_eq ?_ rfl rfl, ?_⟩
      · simp [refused]
      · rintro _ rfl acquired
        rw [refused] at acquired
        cases acquired

theorem release_keeps (answers : SurfaceAnswers) (fine : TickInvariant world) {args : ReleaseArgs}
    (own : args.leaseId = leaseId) :
    TickInvariant (performTick subject answers leaseId (.release args) world).2 ∧
      ∀ other, other ≠ leaseId →
        LeaseKept subject other world
          (performTick subject answers leaseId (.release args) world).2 := by
  have remains : (releaseLease world.leases args).2.Sublist world.leases := List.filter_sublist
  have once : KeyedOnce (releaseLease world.leases args).2 :=
    fine.keyed.sublist (remains.map _)
  refine ⟨⟨once, fine.observed, fine.recorded⟩, ?_⟩
  rintro other apart ⟨flying, holds⟩
  obtain ⟨row, held, named⟩ := Option.map_eq_some_iff.mp holds
  obtain ⟨stored, same⟩ := (selectByKey_eq_some_iff fine.keyed).mp held
  -- The holder's row is under another token than the one released.
  have kept : row ∈ (releaseLease world.leases args).2 := by
    refine List.mem_filter.mpr ⟨stored, ?_⟩
    simp [fencedBy, named, own, apart]
  refine ⟨⟨List.mem_filter.mpr ⟨flying, by simpa using apart⟩, ?_⟩, [], by simp [performTick],
    by simp⟩
  exact Option.map_eq_some_iff.mpr
    ⟨row, (selectByKey_eq_some_iff once).mpr ⟨kept, same⟩, named⟩

theorem append_keeps (answers : SurfaceAnswers) (fine : TickInvariant world)
    (working : Working subject leaseId world) (event : FinalizationEvent) :
    TickInvariant (performTick subject answers leaseId (.append event) world).2 ∧
      Leased subject leaseId (performTick subject answers leaseId (.append event) world).2 := by
  simp only [performTick]
  cases appended : appendToLedger world.ledger event with
  | error refusal => exact ⟨fine, working.leased⟩
  | ok ledger =>
    simp only
    split
    · exact ⟨fine, working.leased⟩
    · next inserted =>
      refine note_keeps fine working fun stored same marked => ?_
      cases same
      rcases appendToLedger_cases appended with ⟨unchanged, -⟩ | ⟨rfl, -⟩
      · exact absurd unchanged inserted
      · simp [everFinalized, marked]

theorem safe_idle {α : Type} {prog : Prog TickEffect α} (idle : prog.Uses fun _ => False)
    (leased : Leased subject leaseId world) :
    Interleaved.Safe (leaseDiscipline subject) leaseId prog
      (fun _ ended => Leased subject leaseId ended) world := by
  cases prog with
  | pure value => exact fun later kept => (kept leased).1
  | fail message => exact fun later kept => (kept leased).1
  | step effect next => exact idle.1.elim

theorem safe_appendsLast {α : Type} {prog : Prog TickEffect α} (last : AppendsLast prog)
    (working : Working subject leaseId world) :
    Interleaved.Safe (leaseDiscipline subject) leaseId prog
      (fun _ ended => Leased subject leaseId ended) world := by
  -- Induction on the program: a call leaves the tick at work, the append ends it.
  induction prog generalizing world with
  | pure value => exact fun later kept => (kept working.leased).1
  | fail message => exact fun later kept => (kept working.leased).1
  | step effect next ih =>
    intro later kept fine answers clean
    have working := working.later kept
    have alone : ∀ other, other ≠ leaseId → ∀ after, LeaseKept subject other later after :=
      fun other apart after => .of_other working.leased.2 apart
    rcases last with ⟨calls, rest⟩ | ⟨appends, rest⟩
    · cases effect with
      | call surface =>
        obtain ⟨inv, working⟩ := working.call fine surface answers.meanwhile
        exact ⟨inv, fun other apart => alone other apart _, ih _ (rest _) working⟩
      | checkIdentity head decision =>
        refine ⟨fine.append _, fun other apart => alone other apart _, ih _ (rest _) ?_⟩
        exact ⟨working.leased, working.alone, working.unfinalized⟩
      | _ => exact calls.elim
    · cases effect with
      | append event =>
        obtain ⟨inv, leased⟩ := append_keeps answers fine working event
        refine ⟨inv, fun other apart => alone other apart _, ?_⟩
        exact safe_idle (rest _) leased
      | _ => exact appends.elim

theorem safe_leasedTick (config : ExecutorConfig) (observedAt : String)
    (leased : Leased subject leaseId world) :
    Interleaved.Safe (leaseDiscipline subject) leaseId (leasedTick config subject observedAt)
      (fun _ ended => Leased subject leaseId ended) world := by
  intro later kept fine answers clean
  obtain ⟨inv, others, keeps, read⟩ := read_keeps subject answers leaseId fine
  have leased := keeps (kept leased).1
  refine ⟨inv, others, ?_⟩
  change Interleaved.Safe (leaseDiscipline subject) leaseId
    ((Prog.raise (eligible (fold later.ledger) config.policy (some observedAt))).bind
      fun decision => execute config decision subject observedAt
        (some (fold later.ledger).eventCount) (some (fold later.ledger))) _
    (performTick subject answers leaseId .readLedger later).2
  cases eligible (fold later.ledger) config.policy (some observedAt) with
  | error refusal => exact fun last kept => (kept leased).1
  | ok decision =>
    simp only [Prog.raise_ok, Prog.pure_bind, execute, Prog.bind_eq, Prog.pure_eq]
    split
    · exact fun last kept => (kept leased).1
    · by_cases done : (fold later.ledger).finalized.isSome = true ∨
          (fold later.ledger).terminal.map TerminalState.kind = some .closed
      · obtain ⟨outcome, skipped⟩ := applyDecision_of_done done config subject decision observedAt
        rw [skipped]
        exact fun last kept => (kept leased).1
      · refine safe_appendsLast (appendsLast_applyDecision _ _ _ _ _) ⟨leased, by simp [read], ?_⟩
        -- A finalized append would stand in the ledger that was just read.
        intro record listed
        rw [Bool.eq_false_iff]
        intro finalizes
        have ended : everFinalized later.ledger = true := inv.recorded ⟨record, listed, finalizes⟩
        exact done (.inl (by rw [fold_finalized_isSome, ended]))

theorem safe_acquire {α : Type} {args : AcquireArgs} (named : args.subject = subject)
    (own : args.leaseId = leaseId) {next : Except String AcquireResult → Prog TickEffect α}
    {ends : Except String α → TickWorld → Prop}
    (goes : ∀ answer after, (∀ result, answer = .ok result → result.acquired = true →
      Leased subject leaseId after) →
        Interleaved.Safe (leaseDiscipline subject) leaseId (next answer) ends after) :
    Interleaved.Safe (leaseDiscipline subject) leaseId (.step (.acquire args) next) ends world := by
  intro later _ fine answers clean
  obtain ⟨inv, others, wins⟩ := acquire_keeps answers args fine clean named own
  exact ⟨inv, others, goes _ _ wins⟩

theorem safe_release {args : ReleaseArgs} (own : args.leaseId = leaseId)
    {ends : Except String Unit → TickWorld → Prop} (reached : ∀ after, ends (.ok ()) after) :
    Interleaved.Safe (leaseDiscipline subject) leaseId
      (.step (.release args) fun _ => .pure ()) ends world := by
  intro later _ fine answers _
  obtain ⟨inv, others⟩ := release_keeps answers fine own
  exact ⟨inv, others, fun after _ => reached after⟩

theorem safe_acquired {config : ExecutorConfig} {observedAt : String}
    {contended : AcquireResult → ExecutionOutcome} (answer : Except String AcquireResult)
    (wins : ∀ result, answer = .ok result → result.acquired = true →
      Leased subject leaseId world) :
    Interleaved.Safe (leaseDiscipline subject) leaseId
      ((Prog.raise answer).bind fun acq =>
        if acq.acquired then
          (leasedTick config subject observedAt).finally_
            (.step (.release { subject, leaseId }) fun _ => .pure ())
        else .pure (contended acq))
      (fun _ _ => True) world := by
  cases answer with
  | error refusal => exact fun _ _ => trivial
  | ok result =>
    simp only [Prog.raise_ok, Prog.pure_bind]
    split
    · next acquired =>
      refine Interleaved.Safe.finally_ ((safe_leasedTick config observedAt
        (wins result rfl acquired)).mono fun ended after _ => ?_)
      refine safe_release (by rfl) fun _ => ?_
      cases ended <;> trivial
    · exact fun _ _ => trivial

theorem safe_tick (config : ExecutorConfig) (subject : SubjectKey) (observedAt leaseId : String)
    (world : TickWorld) :
    Interleaved.Safe (leaseDiscipline subject) leaseId (tick config subject observedAt leaseId)
      (fun _ _ => True) world := by
  unfold tick
  cases resolveSubjectKey subject with
  | error refusal => exact fun _ _ => trivial
  | ok key =>
    simp only [Prog.raise_ok, Prog.bind_eq, Prog.pure_bind, Prog.pure_eq]
    split
    · exact fun _ _ => trivial
    split
    · exact fun _ _ => trivial
    cases isoAdd observedAt config.leaseTtlMs with
    | error refusal => exact fun _ _ => trivial
    | ok deadline =>
      -- The tick reads, asks for the lease, and goes on only if it won.
      intro first _ fine answers _
      obtain ⟨inv, others, -, -⟩ := read_keeps subject answers leaseId fine
      refine ⟨inv, others, ?_⟩
      simp only [Prog.pure_bind, Prog.bind_eq, Prog.perform_bind, Prog.pure_eq]
      refine safe_acquire (by rfl) (by rfl) fun answer after wins => ?_
      exact safe_acquired answer wins

/--
In every interleaving of ticks of a subject, with events appended and ticks dying anywhere, in
which no lease is stolen from a tick in flight: whoever acts holds the lease, nobody else acted
since it read the ledger, and at most one finalized event is appended.
-/
theorem ticks_oneWriter (subject : SubjectKey) (calls : String → ExecutorConfig × String)
    (world : TickWorld) (keyed : KeyedOnce world.leases) (unobserved : world.observed = [])
    (moves : List (Interleaved.Move String SurfaceAnswers (List FinalizationEvent)))
    (clean : (tickSystem subject).Meets NoTheft (startTicks subject calls world) moves) :
    OneWriter
      ((tickSystem subject).runMoves (startTicks subject calls world) moves).shared.observed := by
  have started : Interleaved.AllSafe (leaseDiscipline subject) (startTicks subject calls world) := by
    refine ⟨⟨keyed, ?_, ?_⟩, fun leaseId => Interleaved.Safe.bind ?_⟩
    · simp only [startTicks, unobserved]
      exact ⟨by simp, by simp, by simp⟩
    · simp [startTicks, unobserved]
    · refine (safe_tick _ subject _ leaseId world).mono fun result last _ => ?_
      cases result with
      | ok outcome => exact fun _ _ => trivial
      | error message => trivial
  exact (started.runMoves clean).inv.observed

end

def liveTickAt (observedAt : String) : ExecutorConfig × String :=
  ({ enabled := true, laneRouting := true, holderId := "executor"
     holder_named := executor_named }, observedAt)

def steps (leaseId : String) (count : Nat) :
    List (Interleaved.Move String SurfaceAnswers (List FinalizationEvent)) :=
  List.replicate count (.run leaseId {})

/-- A second tick that asks for the lease while it is held leaves the first one to its work. -/
theorem ticks_oneWriter_contended :
    OneWriter ((@tickSystem JsDate.isoDates JsDate.isoSqlite ⟨"code-pr", "acme/app#7"⟩).runMoves
      (@startTicks JsDate.isoDates ⟨"code-pr", "acme/app#7"⟩
        (fun _ => liveTickAt "2026-07-17T12:01:00.000Z") { ledger := approvedLedger })
      (steps "lease-1" 2 ++ steps "lease-2" 2 ++ steps "lease-1" 4)).shared.observed :=
  @ticks_oneWriter JsDate.isoDates JsDate.isoSqlite ⟨"code-pr", "acme/app#7"⟩
    (fun _ => liveTickAt "2026-07-17T12:01:00.000Z") { ledger := approvedLedger } List.nodup_nil
    rfl (steps "lease-1" 2 ++ steps "lease-2" 2 ++ steps "lease-1" 4) (by decide +kernel)

def twoTicks (leaseId : String) : ExecutorConfig × String :=
  liveTickAt (if leaseId = "lease-1" then "2026-07-17T12:01:00.000Z"
    else "2026-07-17T12:07:00.000Z")

/-- The second tick steals the lease while the first one is waiting for its merge. -/
theorem stolen_lease_finalizes_twice :
    letI := JsDate.isoDates
    letI := JsDate.isoSqlite
    let subject : SubjectKey := ⟨"code-pr", "acme/app#7"⟩
    let ended := ((tickSystem subject).runMoves
      (startTicks subject twoTicks { ledger := approvedLedger })
      (steps "lease-1" 4 ++ steps "lease-2" 6 ++ steps "lease-1" 2)).shared
    ended.observed.map (fun record => (record.leaseId, record.holder, record.action.acts)) =
        [("lease-1", none, false), ("lease-1", some "lease-1", false),
          ("lease-1", some "lease-1", true), ("lease-2", some "lease-1", false),
          ("lease-2", some "lease-2", false), ("lease-2", some "lease-2", true),
          ("lease-2", some "lease-2", true), ("lease-1", none, true)] ∧
      (ended.observed.filter TickRecord.finalizes).length = 2 ∧
      (ended.ledger.filter fun event => markOf event = some .finalized).length = 2 := by
  decide +kernel

end AdversarialReview
