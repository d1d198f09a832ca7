import AdversarialReview.Ama.LeaseOwners
import AdversarialReview.Proofs.Ama.CloserLease

/-! A lease carried from head to head: it stays the only one, and when it is found. -/

namespace AdversarialReview.Ama

def CommitHash (head : String) : Prop :=
  head ≠ "" ∧ ∀ char ∈ head.toList, char.isAlphanum = true

def LiveLease (lease : CloserLease) : Prop :=
  lease.status = some (.str pending) ∨ lease.status = some (.str dispatched)

def ownerMembers : List String := ["acquiredAt", "lrqId", "watcherPid", "status"]

structure SoleLease (start head : String) (lease : CloserLease) (files : LeaseDirectory) :
    Prop where
  only : files.entries.filter (fun entry => leaseNamed start entry.1) =
    [(start ++ head ++ ".json", lease)]
  keyed : lease.get? "headSha" = some (.str head)
  live : LiveLease lease

section

variable [JsText] {lease : CloserLease} {head : String} {repo prNumber now : Option Json}
  {fromHead toHead clock : String}

def rekeyCall (repo prNumber now : Option Json) (fromHead toHead : String) : LeaseRekey where
  repo := repo
  prNumber := prNumber
  fromHeadSha := some (.str fromHead)
  toHeadSha := some (.str toHead)
  now := now

theorem carried_headSha : ((rekeyCall repo prNumber now fromHead toHead).carried lease clock).get?
    "headSha" = some (.str toHead) := by
  simp [LeaseRekey.carried, rekeyCall, CloserLease.get?_set_of_ne, shown]

theorem carried_member {key : String} (kept : key ∈ ownerMembers) :
    ((rekeyCall repo prNumber now fromHead toHead).carried lease clock).get? key =
      lease.get? key := by
  simp only [ownerMembers, List.mem_cons, List.not_mem_nil, or_false] at kept
  rcases kept with rfl | rfl | rfl | rfl <;>
    simp [LeaseRekey.carried, rekeyCall, CloserLease.get?_set_of_ne]

theorem carried_live (live : LiveLease lease) :
    LiveLease ((rekeyCall repo prNumber now fromHead toHead).carried lease clock) := by
  unfold LiveLease CloserLease.status at live ⊢
  rw [carried_member (by decide)]
  exact live

theorem mem_supersededHeadsFor : head ∈ supersededHeadsFor lease ↔
    ∃ value, (value ∈ (Json.items? (lease.get? "supersededHeads")).getD [] ∨
      lease.get? "rekeyedFromHeadSha" = some value) ∧ Json.truthy (some value) = true ∧
        shown (some value) = head := by
  simp only [supersededHeadsFor, List.mem_eraseDups, List.mem_map, List.mem_append,
    List.mem_filter, Option.mem_toList, or_and_right, and_assoc]

theorem mem_superseded_carried (named : head ≠ "") (source : fromHead ≠ "") :
    head ∈ supersededHeadsFor ((rekeyCall repo prNumber now fromHead toHead).carried lease clock) ↔
      head ∈ supersededHeadsFor lease ∨ head = fromHead := by
  have listed : ((rekeyCall repo prNumber now fromHead toHead).carried lease clock).get?
      "supersededHeads" =
        some (.arr ((supersededHeadsFor lease ++ [fromHead]).map Json.str)) := by
    simp [LeaseRekey.carried, rekeyCall, CloserLease.get?_set_of_ne, shown]
  have rekeyed : ((rekeyCall repo prNumber now fromHead toHead).carried lease clock).get?
      "rekeyedFromHeadSha" = some (.str fromHead) := by
    simp [LeaseRekey.carried, rekeyCall, CloserLease.get?_set_of_ne, shown]
  rw [mem_supersededHeadsFor, mem_supersededHeadsFor, listed, rekeyed]
  simp only [Json.items?, Option.getD_some, List.mem_map, List.mem_append, List.mem_singleton,
    Option.some.injEq]
  constructor
  · rintro ⟨value, (⟨text, old | rfl, rfl⟩ | rfl), -, rfl⟩
    · exact .inl (mem_supersededHeadsFor.1 old)
    · exact .inr rfl
    · exact .inr rfl
  · rintro (old | rfl)
    · exact ⟨.str head, .inl ⟨head, .inl (mem_supersededHeadsFor.2 old), rfl⟩,
        by simp [Json.truthy, named], rfl⟩
    · exact ⟨.str head, .inr rfl, by simp [Json.truthy, source], rfl⟩

end

section

variable {start head other : String} {lease : CloserLease} {files : LeaseDirectory}

theorem leaseNamed_file (start head : String) :
    leaseNamed start (start ++ head ++ ".json") = true := by
  have suffix : ".json".toList <:+ start.toList ++ (head.toList ++ ".json".toList) :=
    ⟨start.toList ++ head.toList, by simp⟩
  simpa [leaseNamed, List.append_assoc] using suffix

theorem file_inj : start ++ head ++ ".json" = start ++ other ++ ".json" ↔ head = other := by
  constructor
  · intro same
    have texts := congrArg String.toList same
    simpa [String.toList_inj] using texts
  · rintro rfl
    rfl

theorem SoleLease.get? (sole : SoleLease start head lease files) {name : String}
    (named : leaseNamed start name = true) :
    files.get? name = if start ++ head ++ ".json" = name then some lease else none := by
  have found := congrArg (List.find? fun entry => entry.1 = name) sole.only
  rw [List.find?_filter] at found
  have same : (fun entry : String × CloserLease => leaseNamed start entry.1 &&
      decide (entry.1 = name)) = fun entry => decide (entry.1 = name) := by
    funext entry
    by_cases equal : entry.1 = name
    · simp [equal, named]
    · simp [equal]
  simp only [Bool.decide_and, Bool.decide_eq_true, decide_eq_true_eq] at found
  rw [same] at found
  rw [OrderedMap.get?, found]
  split
  next own => simp [own]
  next other => simp [other]

theorem SoleLease.read (sole : SoleLease start head lease files) :
    files.get? (start ++ head ++ ".json") = some lease := by
  rw [sole.get? (leaseNamed_file start head), if_pos rfl]

theorem entries_set_fresh {name : String} (fresh : files.get? name = none) (lease : CloserLease) :
    (files.set name lease).entries = files.entries ++ [(name, lease)] := by
  obtain ⟨entries, distinct⟩ := files
  simp only [OrderedMap.get?, Option.map_eq_none_iff, List.find?_eq_none] at fresh
  simp only [OrderedMap.set]
  clear distinct
  induction entries with
  | nil => rfl
  | cons entry rest ih =>
    have other : entry.1 ≠ name := by simpa using fresh entry (by simp)
    have later := ih fun entry listed => fresh entry (List.mem_cons_of_mem _ listed)
    simp [OrderedMap.setEntries, other, later]

theorem SoleLease.moved (sole : SoleLease start head lease files) (apart : head ≠ other)
    {next : CloserLease} (keyed : next.get? "headSha" = some (.str other)) (live : LiveLease next) :
    SoleLease start other next
      ((files.set (start ++ other ++ ".json") next).erase (start ++ head ++ ".json")) := by
  have different : start ++ head ++ ".json" ≠ start ++ other ++ ".json" := fun same =>
    apart (file_inj.1 same)
  have fresh : files.get? (start ++ other ++ ".json") = none := by
    rw [sole.get? (leaseNamed_file start other), if_neg different]
  refine ⟨?_, keyed, live⟩
  simp only [OrderedMap.erase, entries_set_fresh fresh]
  rw [List.filter_filter]
  -- Which of the two conditions is asked first makes no difference.
  have swap : (fun entry : String × CloserLease =>
      leaseNamed start entry.1 && decide (entry.1 ≠ start ++ head ++ ".json")) =
      fun entry => decide (entry.1 ≠ start ++ head ++ ".json") && leaseNamed start entry.1 := by
    funext entry
    exact Bool.and_comm _ _
  have own : ([(start ++ other ++ ".json", next)] : List (String × CloserLease)).filter
      (fun entry => leaseNamed start entry.1) = [(start ++ other ++ ".json", next)] := by
    simp [leaseNamed_file]
  rw [swap, ← List.filter_filter, List.filter_append, sole.only, own]
  have gone : start ++ other ≠ start ++ head := fun same => different (by rw [same])
  simp [gone]

end

section

theorem sanitizeSegment_hash {head : String} (hash : CommitHash head) :
    sanitizeSegment head = head := by
  have same : head.toList.map (fun char =>
      if char.isAlphanum || char = '.' || char = '_' || char = '-' then char else '-') =
        head.toList := by
    conv_rhs => rw [← List.map_id head.toList]
    refine List.map_congr_left ?_
    intro char listed
    simp [hash.2 char listed]
  rw [sanitizeSegment, same, String.ofList_toList]

variable [JsText] [RepositoryNames] {repo prNumber now : Option Json}
  {start fromHead toHead clock : String} {lease : CloserLease} {files : LeaseDirectory}

theorem file_of_hash (named : leasePrefix repo prNumber = .ok start) {head : String}
    (hash : CommitHash head) :
    amaCloserLeaseFilePath ⟨repo, prNumber, some (.str head)⟩ =
      .ok (start ++ head ++ ".json") := by
  simp [amaCloserLeaseFilePath, named, Json.truthy, hash.1, Json.nullishText,
    sanitizeSegment_hash hash, bind, Except.bind, pure, Except.pure]

omit [RepositoryNames] in
theorem shown_live (live : LiveLease lease) : shown lease.status ≠ terminal := by
  rcases live with status | status <;> rw [status] <;> simp [shown, pending, dispatched, terminal]

section

variable (named : leasePrefix repo prNumber = .ok start) (from_ : CommitHash fromHead)
  (to_ : CommitHash toHead) (apart : fromHead ≠ toHead)
  (sole : SoleLease start fromHead lease files)

include named from_ to_ apart sole

theorem rekey_run :
    ((rekeyAmaCloserLease (rekeyCall repo prNumber now fromHead toHead)).run (directoryStep clock)
      files).2 = (files.set (start ++ toHead ++ ".json")
        ((rekeyCall repo prNumber now fromHead toHead).carried lease clock)).erase
          (start ++ fromHead ++ ".json") := by
  have different : start ++ fromHead ++ ".json" ≠ start ++ toHead ++ ".json" := fun same =>
    apart (file_inj.1 same)
  have source := file_of_hash named from_
  have destination := file_of_hash named to_
  have alive := shown_live sole.live
  have fresh : files.get? (start ++ toHead ++ ".json") = none := by
    rw [sole.get? (leaseNamed_file start toHead), if_neg different]
  have one : Json.truthy (some (.str fromHead)) = true := by simp [Json.truthy, from_.1]
  have two : Json.truthy (some (.str toHead)) = true := by simp [Json.truthy, to_.1]
  have texts : shown (some (.str fromHead)) ≠ shown (some (.str toHead)) := apart
  simp [rekeyAmaCloserLease, rekeyCall, attempt, directoryStep, one, two, texts, source,
    destination, sole.read, alive, fresh, Prog.bind]

theorem rekey_crashed :
    beforeRemoval clock (rekeyAmaCloserLease (rekeyCall repo prNumber now fromHead toHead)) files =
      files.set (start ++ toHead ++ ".json")
        ((rekeyCall repo prNumber now fromHead toHead).carried lease clock) := by
  have different : start ++ fromHead ++ ".json" ≠ start ++ toHead ++ ".json" := fun same =>
    apart (file_inj.1 same)
  have source := file_of_hash named from_
  have destination := file_of_hash named to_
  have alive := shown_live sole.live
  have fresh : files.get? (start ++ toHead ++ ".json") = none := by
    rw [sole.get? (leaseNamed_file start toHead), if_neg different]
  have one : Json.truthy (some (.str fromHead)) = true := by simp [Json.truthy, from_.1]
  have two : Json.truthy (some (.str toHead)) = true := by simp [Json.truthy, to_.1]
  have texts : shown (some (.str fromHead)) ≠ shown (some (.str toHead)) := apart
  simp [rekeyAmaCloserLease, rekeyCall, attempt, directoryStep, one, two, texts, source,
    destination, sole.read, alive, fresh, Prog.bind, beforeRemoval]

theorem rekey_resumed (retryClock : String) :
    let next := (rekeyCall repo prNumber now fromHead toHead).carried lease clock
    ((rekeyAmaCloserLease (rekeyCall repo prNumber now fromHead toHead)).run
      (directoryStep retryClock) (files.set (start ++ toHead ++ ".json") next)).2 =
        (files.set (start ++ toHead ++ ".json") next).erase (start ++ fromHead ++ ".json") := by
  intro next
  have different : start ++ toHead ++ ".json" ≠ start ++ fromHead ++ ".json" := fun same =>
    apart (file_inj.1 same).symm
  have source := file_of_hash named from_
  have destination := file_of_hash named to_
  have alive := shown_live sole.live
  have old : (files.set (start ++ toHead ++ ".json") next).get? (start ++ fromHead ++ ".json") =
      some lease := by
    rw [OrderedMap.get?_set_of_ne _ different, sole.read]
  have new : (files.set (start ++ toHead ++ ".json") next).get? (start ++ toHead ++ ".json") =
      some next := OrderedMap.get?_set_self _ _ _
  have one : Json.truthy (some (.str fromHead)) = true := by simp [Json.truthy, from_.1]
  have two : Json.truthy (some (.str toHead)) = true := by simp [Json.truthy, to_.1]
  have texts : shown (some (.str fromHead)) ≠ shown (some (.str toHead)) := apart
  have resumes : (rekeyCall repo prNumber now fromHead toHead).resumes next = true := by
    have head : next.get? "headSha" = some (.str toHead) := carried_headSha
    have left : fromHead ∈ supersededHeadsFor next :=
      (mem_superseded_carried from_.1 from_.1).mpr (.inr rfl)
    simp [LeaseRekey.resumes, head, Json.orTruthy, rekeyCall, two, leaseSupersedesHead, one]
    simpa [shown] using left
  unfold rekeyCall at resumes
  simp [rekeyAmaCloserLease, rekeyCall, attempt, directoryStep, one, two, texts, source,
    destination, old, new, alive, resumes, Prog.bind]

end

theorem Carry.carried (named : leasePrefix repo prNumber = .ok start) {carry : Carry}
    (from_ : CommitHash fromHead) (to_ : CommitHash carry.toHead) (apart : fromHead ≠ carry.toHead)
    (sole : SoleLease start fromHead lease files) :
    SoleLease start carry.toHead
      ((rekeyCall repo prNumber carry.now fromHead carry.toHead).carried lease carry.clock)
      (carry.after repo prNumber fromHead files) := by
  have moved : SoleLease start carry.toHead
      ((rekeyCall repo prNumber carry.now fromHead carry.toHead).carried lease carry.clock)
      ((files.set (start ++ carry.toHead ++ ".json")
        ((rekeyCall repo prNumber carry.now fromHead carry.toHead).carried lease
          carry.clock)).erase (start ++ fromHead ++ ".json")) :=
    sole.moved apart carried_headSha (carried_live sole.live)
  unfold Carry.after
  cases crashed : carry.crashed with
  | false =>
    simp only [Bool.false_eq_true, if_false]
    rw [← rekey_run named from_ to_ apart sole] at moved
    exact moved
  | true =>
    simp only [if_true]
    rw [← rekey_resumed named from_ to_ apart sole carry.retryClock,
      ← rekey_crashed named from_ to_ apart sole] at moved
    exact moved

/-- The heads that a lease was keyed to, the last of them its present one. -/
def headsOf (first : String) (carries : List Carry) : List String :=
  first :: carries.map Carry.toHead

theorem carriedAll (named : leasePrefix repo prNumber = .ok start) {carries : List Carry}
    (from_ : CommitHash fromHead) (hashes : ∀ carry ∈ carries, CommitHash carry.toHead)
    (moves : (headsOf fromHead carries).IsChain (· ≠ ·))
    (sole : SoleLease start fromHead lease files) :
    ∃ last, SoleLease start ((headsOf fromHead carries).getLast (by simp [headsOf])) last
        (carryAll repo prNumber fromHead carries files) ∧
      (∀ key ∈ ownerMembers, last.get? key = lease.get? key) ∧
      ∀ head, head ≠ "" → (head ∈ supersededHeadsFor last ↔
        head ∈ supersededHeadsFor lease ∨ head ∈ (headsOf fromHead carries).dropLast) := by
  induction carries generalizing fromHead lease files with
  | nil => exact ⟨lease, by simpa [headsOf, carryAll] using sole, fun _ _ => rfl, by simp [headsOf]⟩
  | cons carry rest ih =>
    obtain ⟨apart, later⟩ := List.isChain_cons_cons.mp moves
    have to_ : CommitHash carry.toHead := hashes carry (by simp)
    obtain ⟨last, only, members, left⟩ := ih to_
      (fun other listed => hashes other (List.mem_cons_of_mem _ listed)) later
      (Carry.carried named from_ to_ apart sole)
    refine ⟨last, ?_, ?_, ?_⟩
    · simpa [headsOf, carryAll] using only
    · intro key listed
      rw [members key listed, carried_member listed]
    · intro head given
      rw [left head given, mem_superseded_carried given from_.1]
      simp only [headsOf, List.map_cons, List.dropLast_cons_cons, List.mem_cons]
      tauto

end

section

variable [JsText] [RepositoryNames] {repo prNumber : Option Json} {start clock : String}
  {files : LeaseDirectory}

omit [JsText] [RepositoryNames] in
theorem leaseCandidates_run {part : List (String × CloserLease)}
    (read : ∀ entry ∈ part, files.get? entry.1 = some entry.2) :
    (leaseCandidates start (part.map Prod.fst)).run (directoryStep clock) files =
      (.ok (part.filter fun entry => leaseNamed start entry.1), files) := by
  induction part with
  | nil => rfl
  | cons entry rest ih =>
    have later := ih fun other listed => read other (List.mem_cons_of_mem _ listed)
    have own := read entry (by simp)
    cases named : leaseNamed start entry.1 with
    | false =>
      simp only [List.map_cons, leaseCandidates, named, Bool.not_false, if_true]
      rw [later, List.filter_cons_of_neg (by simp [named])]
    | true =>
      simp [leaseCandidates, named, attempt, Prog.bind, directoryStep, own, Prog.run_bind, later]

omit [JsText] [RepositoryNames] in
theorem get?_of_mem {entry : String × CloserLease} (listed : entry ∈ files.entries) :
    files.get? entry.1 = some entry.2 := by
  have found := List.find?_isSome.mpr
    (⟨entry, listed, by simp⟩ : ∃ other ∈ files.entries, decide (other.1 = entry.1) = true)
  obtain ⟨other, at_⟩ := Option.isSome_iff_exists.mp found
  have same : other.1 = entry.1 := by simpa using List.find?_some at_
  have one := List.inj_on_of_nodup_map files.nodup (List.mem_of_find?_eq_some at_) listed same
  rw [OrderedMap.get?, at_, one]
  rfl

theorem findLive_run [LocaleOrder] (named : leasePrefix repo prNumber = .ok start) :
    ((findLiveAmaCloserLease repo prNumber).run (directoryStep clock) files).1 =
      .ok (pickLiveLease (files.entries.filter fun entry => leaseNamed start entry.1)) := by
  have repo_ : Json.truthy repo = true := by
    by_contra absent
    have none_ : Json.truthy repo = false := by simpa using absent
    simp [leasePrefix, none_, bind, Except.bind, throw, throwThe, MonadExceptOf.throw] at named
  have number : ((prNumber.bind JsText.number).isNone) = false := by
    cases given : prNumber.bind JsText.number with
    | none =>
      simp [leasePrefix, repo_, given, throw, throwThe, MonadExceptOf.throw] at named
    | some value => rfl
  have run := @leaseCandidates_run start clock files files.entries
    fun entry listed => get?_of_mem listed
  simp [findLiveAmaCloserLease, attempt, Prog.bind, directoryStep, repo_, number, named,
    Prog.run_bind, run]

omit [RepositoryNames] in
theorem pickLiveLease_sole [LocaleOrder] {head : String} {lease : CloserLease}
    (given : head ≠ "") (sole : SoleLease start head lease files) :
    pickLiveLease (files.entries.filter fun entry => leaseNamed start entry.1) =
      if head ∈ supersededHeadsFor lease then none
      else some (start ++ head ++ ".json", lease) := by
  have working : [terminal, handedToReview].contains (shown lease.status) = false := by
    rcases sole.live with status | status <;> rw [status] <;>
      simp [shown, pending, dispatched, terminal, handedToReview]
  have text : shown (Json.orTruthy (lease.get? "headSha") (some (.str ""))) = head := by
    simp [sole.keyed, Json.orTruthy, Json.truthy, given, shown]
  rw [sole.only]
  simp only [pickLiveLease, List.flatMap_cons, List.flatMap_nil, List.append_nil,
    List.mergeSort_singleton, List.find?_cons, text, working]
  by_cases left : head ∈ supersededHeadsFor lease
  · simp [left]
  · simp [left]

end

section

variable [JsText] [RepositoryNames] [LocaleOrder]

/--
A live lease that is carried along with the branch stays the one lease file of its pull request,
with its own members. It is found exactly where the branch does not end at a head that the lease
left behind.
-/
theorem carried_lease_found_iff {repo prNumber : Option Json} {start fromHead : String}
    {lease : CloserLease} {files : LeaseDirectory} {carries : List Carry}
    (named : leasePrefix repo prNumber = .ok start) (from_ : CommitHash fromHead)
    (hashes : ∀ carry ∈ carries, CommitHash carry.toHead)
    (moves : (headsOf fromHead carries).IsChain (· ≠ ·))
    (sole : SoleLease start fromHead lease files) (clock : String) :
    let lastHead := (headsOf fromHead carries).getLast (by simp [headsOf])
    let left := carryAll repo prNumber fromHead carries files
    (∃ last, SoleLease start lastHead last left ∧
        (∀ key ∈ ownerMembers, last.get? key = lease.get? key) ∧
        ((findLiveAmaCloserLease repo prNumber).run (directoryStep clock) left).1 =
          .ok (some (start ++ lastHead ++ ".json", last))) ↔
      lastHead ∉ supersededHeadsFor lease ∧ lastHead ∉ (headsOf fromHead carries).dropLast := by
  intro lastHead left
  obtain ⟨last, only, members, behind⟩ := carriedAll named from_ hashes moves sole
  have given : lastHead ≠ "" := by
    have listed := List.getLast_mem (l := headsOf fromHead carries) (by simp [headsOf])
    simp only [headsOf, List.mem_cons, List.mem_map] at listed
    rcases listed with first | ⟨carry, member, same⟩
    · exact fun empty => from_.1 (first ▸ empty)
    · exact fun empty => (hashes carry member).1 (same.trans empty)
  have found := @findLive_run _ _ _ _ _ clock left _ named
  rw [pickLiveLease_sole given only] at found
  have apart : lastHead ∈ supersededHeadsFor last ↔
      lastHead ∈ supersededHeadsFor lease ∨ lastHead ∈ (headsOf fromHead carries).dropLast :=
    behind lastHead given
  by_cases named_ : lastHead ∈ supersededHeadsFor last
  · rw [if_pos named_] at found
    constructor
    · rintro ⟨other, -, -, answer⟩
      rw [found] at answer
      cases answer
    · rintro ⟨one, two⟩
      exact absurd (apart.mp named_) (by tauto)
  · rw [if_neg named_] at found
    constructor
    · intro _
      exact not_or.mp fun either => named_ (apart.mpr either)
    · intro _
      exact ⟨last, only, members, found⟩

end

@[reducible] def plainOrder : LocaleOrder where
  localeCompare first second := if first = second then 0 else if first < second then -1 else 1

def dispatchedLease : CloserLease where
  members := [("headSha", .str "a1"), ("acquiredAt", .str "2026-10-01T00:00:00.000Z"),
    ("watcherPid", .num 7), ("lrqId", .str "lrq"), ("status", .str dispatched)]

def oneLeaseDirectory : LeaseDirectory :=
  OrderedMap.single "own__repo-pr-7-a1.json" dispatchedLease

theorem sole_dispatched : SoleLease "own__repo-pr-7-" "a1" dispatchedLease oneLeaseDirectory :=
  ⟨by rfl, by rfl, .inr (by rfl)⟩

theorem commitHash_a1 : CommitHash "a1" :=
  ⟨by decide, List.all_eq_true.mp (by decide)⟩

theorem commitHash_b2 : CommitHash "b2" :=
  ⟨by decide, List.all_eq_true.mp (by decide)⟩

/-- After one move, with a crash half-way, the lease is found. -/
theorem carried_lease_found_once :
    letI := JsText.wholes; letI := plainNames; letI := plainOrder
    ∃ last, ((findLiveAmaCloserLease (some (.str "own/repo")) (some (.num 7))).run
      (directoryStep "") (carryAll (some (.str "own/repo")) (some (.num 7)) "a1"
        [{ toHead := "b2", crashed := true }] oneLeaseDirectory)).1 =
          .ok (some ("own__repo-pr-7-" ++ "b2" ++ ".json", last)) := by
  let _ := JsText.wholes
  let _ := plainNames
  let _ := plainOrder
  have named : leasePrefix (some (.str "own/repo")) (some (.num 7)) = .ok "own__repo-pr-7-" := by
    decide
  have hashes : ∀ carry ∈ [({ toHead := "b2", crashed := true } : Carry)],
      CommitHash carry.toHead := by
    intro carry listed
    rw [List.mem_singleton.mp listed]
    exact commitHash_b2
  have moves : (headsOf "a1" [{ toHead := "b2", crashed := true }]).IsChain (· ≠ ·) :=
    .cons_cons (by decide) (.singleton _)
  have found := carried_lease_found_iff named commitHash_a1 hashes moves sole_dispatched ""
  obtain ⟨last, -, -, answer⟩ := found.mpr (by decide)
  exact ⟨last, answer⟩

/-- A branch that moves back to the head it came from leaves a lease that is not found. -/
theorem carried_lease_lost :
    letI := JsText.wholes; letI := plainNames; letI := plainOrder
    SoleLease "own__repo-pr-7-" "a1" dispatchedLease oneLeaseDirectory ∧
      ((findLiveAmaCloserLease (some (.str "own/repo")) (some (.num 7))).run
        (directoryStep "") (carryAll (some (.str "own/repo")) (some (.num 7)) "a1"
          [{ toHead := "b2" }, { toHead := "a1" }] oneLeaseDirectory)).1 = .ok none := by
  let _ := JsText.wholes
  let _ := plainNames
  let _ := plainOrder
  refine ⟨sole_dispatched, ?_⟩
  have named : leasePrefix (some (.str "own/repo")) (some (.num 7)) = .ok "own__repo-pr-7-" := by
    decide
  have hashes : ∀ carry ∈ [({ toHead := "b2" } : Carry), { toHead := "a1" }],
      CommitHash carry.toHead := by
    intro carry listed
    simp only [List.mem_cons, List.not_mem_nil, or_false] at listed
    rcases listed with rfl | rfl
    · exact commitHash_b2
    · exact commitHash_a1
  have moves : (headsOf "a1" [{ toHead := "b2" }, { toHead := "a1" }]).IsChain (· ≠ ·) :=
    .cons_cons (by decide) (.cons_cons (by decide) (.singleton _))
  obtain ⟨last, only, -, behind⟩ := carriedAll named commitHash_a1 hashes moves sole_dispatched
  have own : "a1" ∈ supersededHeadsFor last := (behind "a1" (by decide)).mpr (.inr (by decide))
  rw [findLive_run named, pickLiveLease_sole (by decide) only]
  exact congrArg Except.ok (if_pos own)

example :
    letI := JsText.wholes; letI := plainNames; letI := plainOrder
    ((findLiveAmaCloserLease (some (.str "own/repo")) (some (.num 7))).run (directoryStep "")
      (carryAll (some (.str "own/repo")) (some (.num 7)) "a1" [{ toHead := "b2" }]
        oneLeaseDirectory)).1.toOption.map (Option.map Prod.fst) =
      some (some "own__repo-pr-7-b2.json") := by
  decide +kernel

end AdversarialReview.Ama
