import AdversarialReview.Ama.CloserLease

/-! Calls on a closer's lease, one after another: what of the lease can change. -/

namespace AdversarialReview.Ama

def statusPlace (status : Option Json) : Option Nat :=
  (validStatuses.findIdx? fun text => Json.isText status text)

def fixedMembers : List String := ["acquiredAt", "watcherPid", "holderHost", "headSha"]

/-- How a lease may change. -/
structure Forward (before after : CloserLease) : Prop where
  advances : ∀ place, statusPlace before.status = some place →
    ∃ later, statusPlace after.status = some later ∧ place ≤ later
  keepsOutcome : Json.isText before.status terminal = true →
    after.get? "terminalOutcome" = before.get? "terminalOutcome"
  keepsOwner : ∀ key ∈ fixedMembers, after.get? key = before.get? key

def Onward (before after : LeaseFiles) : Prop :=
  ∀ file lease, before file = some lease →
    ∃ later, after file = some later ∧ Forward lease later

section

variable [JsText] [RepositoryNames]

def AsksBack (files : LeaseFiles) (update : LeaseUpdate) : Prop :=
  (isOneOf update.status [pending, dispatched] = true) ∧
    ∃ file lease, amaCloserLeaseFilePath update.toLeaseIdentity = .ok file ∧
      files file = some lease ∧ Json.isText lease.status handedToReview = true

def NamesLoosely (update : LeaseUpdate) : Prop :=
  isOneOf update.status validStatuses = false ∧
    ∃ name ∈ validStatuses, textOrEmpty update.status = .ok name

def NeverAsksBack (files : LeaseFiles) : List (LeaseHost × LeaseCall) → Prop
  | [] => True
  | call :: rest =>
    (∀ update, call.2 = .update update → ¬AsksBack files update ∧ ¬NamesLoosely update) ∧
      NeverAsksBack (call.2.perform call.1 files).2 rest

end

theorem Forward.refl (lease : CloserLease) : Forward lease lease where
  advances place found := ⟨place, found, le_refl place⟩
  keepsOutcome _ := rfl
  keepsOwner _ _ := rfl

variable {status : Option Json}

theorem statusPlace_eq_three :
    statusPlace status = some 3 ↔ Json.isText status terminal = true := by
  constructor
  · intro placed
    obtain ⟨inside, meets, -⟩ := List.findIdx?_eq_some_iff_getElem.mp placed
    exact meets
  · intro named
    have value : status.bind Json.text? = some terminal := by
      simpa [Json.isText] using named
    simp [statusPlace, validStatuses, List.findIdx?_cons, Json.isText, value, pending, dispatched,
      handedToReview, terminal]

theorem statusPlace_le {place : Nat} (placed : statusPlace status = some place) : place ≤ 3 := by
  obtain ⟨inside, -, -⟩ := List.findIdx?_eq_some_iff_getElem.mp placed
  simp only [validStatuses, List.length_cons, List.length_nil] at inside
  omega

theorem statusPlace_cases {place : Nat} (placed : statusPlace status = some place) :
    (place = 0 ∧ Json.isText status pending = true) ∨
    (place = 1 ∧ Json.isText status dispatched = true) ∨
    (place = 2 ∧ Json.isText status handedToReview = true) ∨
    (place = 3 ∧ Json.isText status terminal = true) := by
  obtain ⟨inside, meets, -⟩ := List.findIdx?_eq_some_iff_getElem.mp placed
  have bound := statusPlace_le placed
  match place, bound with
  | 0, _ => exact .inl ⟨rfl, meets⟩
  | 1, _ => exact .inr (.inl ⟨rfl, meets⟩)
  | 2, _ => exact .inr (.inr (.inl ⟨rfl, meets⟩))
  | 3, _ => exact .inr (.inr (.inr ⟨rfl, meets⟩))

theorem exists_statusPlace (named : isOneOf status validStatuses = true) :
    ∃ place, statusPlace status = some place := by
  simp only [isOneOf, List.any_eq_true] at named
  obtain ⟨text, listed, is⟩ := named
  have found : (statusPlace status).isSome = true := by
    simp only [statusPlace, List.findIdx?_isSome, List.any_eq_true]
    exact ⟨text, listed, is⟩
  exact Option.isSome_iff_exists.mp found

theorem Forward.trans {first second third : CloserLease} (one : Forward first second)
    (two : Forward second third) : Forward first third where
  advances place found := by
    obtain ⟨between, reached, up⟩ := one.advances place found
    obtain ⟨last, ended, more⟩ := two.advances between reached
    exact ⟨last, ended, up.trans more⟩
  keepsOutcome named := by
    -- A terminal lease stays at the last place, so the second step keeps its outcome too.
    obtain ⟨later, reached, up⟩ := one.advances 3 (statusPlace_eq_three.mpr named)
    have last : later = 3 := le_antisymm (statusPlace_le reached) up
    rw [last] at reached
    exact (two.keepsOutcome (statusPlace_eq_three.mp reached)).trans (one.keepsOutcome named)
  keepsOwner key fixed := (two.keepsOwner key fixed).trans (one.keepsOwner key fixed)

theorem Onward.refl (files : LeaseFiles) : Onward files files :=
  fun _ lease held => ⟨lease, held, Forward.refl lease⟩

theorem Onward.trans {first second third : LeaseFiles} (one : Onward first second)
    (two : Onward second third) : Onward first third := by
  intro file lease held
  obtain ⟨between, kept, forward⟩ := one file lease held
  obtain ⟨later, still, further⟩ := two file between kept
  exact ⟨later, still, forward.trans further⟩

theorem Onward.update {files : LeaseFiles} {file : String} {lease next : CloserLease}
    (held : files file = some lease) (forward : Forward lease next) :
    Onward files (Function.update files file (some next)) := by
  intro other found here
  by_cases same : other = file
  · subst same
    rw [held] at here
    cases here
    exact ⟨next, Function.update_self .., forward⟩
  · exact ⟨found, by rw [Function.update_of_ne same, here], Forward.refl found⟩

namespace CloserLease

@[simp] theorem get?_set_self (lease : CloserLease) (key : String) (value : Json) :
    (lease.set key value).get? key = some value := by
  simp [get?, toJson, set, Json.get?, OrderedMap.find?_setEntries]

theorem get?_set_of_ne (lease : CloserLease) {key other : String} (apart : key ≠ other)
    (value : Json) : (lease.set key value).get? other = lease.get? other := by
  simp [get?, toJson, set, Json.get?, OrderedMap.find?_setEntries, apart]

end CloserLease

theorem get?_withDispatch {update : LeaseUpdate} {existing next : CloserLease}
    {updatedAt : Json} {lrqId workerId key : String}
    (other : key ∉ ["lrqId", "workerId", "dispatchedAt"]) :
    (withDispatch update existing updatedAt lrqId workerId next).get? key = next.get? key := by
  simp only [List.mem_cons, List.not_mem_nil, or_false, not_or] at other
  obtain ⟨launch, worker, time⟩ := other
  unfold withDispatch
  dsimp only
  split_ifs <;>
    simp [CloserLease.get?_set_of_ne, Ne.symm launch, Ne.symm worker, Ne.symm time]

section

variable [JsText] {update : LeaseUpdate} {existing next : CloserLease} {clock : String}

theorem nextLease_get? (wrote : nextLease update existing clock = .ok next) {key : String}
    (other : key ∉ ["status", "updatedAt", "lrqId", "workerId", "dispatchedAt",
      "terminalOutcome"]) : next.get? key = existing.get? key := by
  simp only [List.mem_cons, List.not_mem_nil, or_false, not_or] at other
  obtain ⟨status, updated, launch, worker, time, outcome⟩ := other
  unfold nextLease at wrote
  dsimp only at wrote
  split_ifs at wrote
  · obtain ⟨lrqId, -, wrote⟩ := Except.bind_ok wrote
    obtain ⟨workerId, -, wrote⟩ := Except.bind_ok wrote
    cases wrote
    rw [get?_withDispatch (by simp [launch, worker, time])]
    simp [CloserLease.get?_set_of_ne, Ne.symm status, Ne.symm updated]
  · obtain ⟨outcomeText, -, wrote⟩ := Except.bind_ok wrote
    cases wrote
    simp [CloserLease.get?_set_of_ne, Ne.symm status, Ne.symm updated, Ne.symm outcome]
  · cases wrote
    simp [CloserLease.get?_set_of_ne, Ne.symm status, Ne.symm updated]

theorem nextLease_status (wrote : nextLease update existing clock = .ok next) :
    next.status = some (update.status.getD .null) := by
  unfold nextLease at wrote
  dsimp only at wrote
  unfold CloserLease.status
  split_ifs at wrote
  · obtain ⟨lrqId, -, wrote⟩ := Except.bind_ok wrote
    obtain ⟨workerId, -, wrote⟩ := Except.bind_ok wrote
    cases wrote
    rw [get?_withDispatch (by simp), CloserLease.get?_set_of_ne _ (by simp),
      CloserLease.get?_set_self]
  · obtain ⟨outcomeText, -, wrote⟩ := Except.bind_ok wrote
    cases wrote
    rw [CloserLease.get?_set_of_ne _ (by simp), CloserLease.get?_set_of_ne _ (by simp),
      CloserLease.get?_set_self]
  · cases wrote
    rw [CloserLease.get?_set_of_ne _ (by simp), CloserLease.get?_set_self]

theorem named_of_check (checked : checkLeaseUpdate update = .ok ()) :
    ∃ name ∈ validStatuses, textOrEmpty update.status = .ok name := by
  unfold checkLeaseUpdate at checked
  obtain ⟨name, read, checked⟩ := Except.bind_ok checked
  by_cases valid : name ∈ validStatuses
  · exact ⟨name, valid, read⟩
  · simp only [valid, not_false_eq_true, if_true] at checked
    cases checked

theorem replace_cases {file : String} {found : Option CloserLease}
    (decided : decideLeaseUpdate update file clock found = .ok (.replace next)) :
    ∃ existing, found = some existing ∧ nextLease update existing clock = .ok next ∧
      Json.isText existing.status terminal = false ∧
      ¬(Json.isText existing.status dispatched = true ∧
        Json.isText update.status pending = true) := by
  unfold decideLeaseUpdate at decided
  split_ifs at decided
  · cases decided
  cases found with
  | none => cases decided
  | some existing =>
    dsimp only at decided
    split at decided
    · cases decided
    split at decided
    next ended => split at decided <;> cases decided
    next ended =>
      split at decided
      · cases decided
      next back =>
        obtain ⟨written, wrote, decided⟩ := Except.bind_ok decided
        cases decided
        exact ⟨existing, rfl, wrote, by simpa using ended, by simpa using back⟩

theorem forward_of_replace {update : LeaseUpdate} {file clock : String}
    {existing next : CloserLease} (checked : checkLeaseUpdate update = .ok ())
    (decided : decideLeaseUpdate update file clock (some existing) = .ok (.replace next))
    (notLoose : ¬NamesLoosely update)
    (notBack : ¬(isOneOf update.status [pending, dispatched] = true ∧
      Json.isText existing.status handedToReview = true)) :
    Forward existing next := by
  obtain ⟨found, same, wrote, notEnded, notReverted⟩ := replace_cases decided
  cases same
  -- The status asked for is one of the four texts, and it is the one that is written.
  have named : isOneOf update.status validStatuses = true := by
    by_contra loose
    exact notLoose ⟨by simpa using loose, named_of_check checked⟩
  have written : next.status = update.status := by
    rw [nextLease_status wrote]
    cases asked : update.status with
    | none => simp [asked, isOneOf, Json.isText, validStatuses] at named
    | some value => rfl
  obtain ⟨later, placed⟩ := exists_statusPlace named
  refine ⟨fun place before => ⟨later, by rw [written, placed], ?_⟩, fun ended => ?_, ?_⟩
  · rcases statusPlace_cases before with ⟨rfl, -⟩ | ⟨rfl, is⟩ | ⟨rfl, is⟩ | ⟨rfl, is⟩
    · exact Nat.zero_le later
    · rcases statusPlace_cases placed with ⟨rfl, asks⟩ | ⟨rfl, -⟩ | ⟨rfl, -⟩ | ⟨rfl, -⟩
      · exact absurd ⟨is, asks⟩ notReverted
      all_goals decide
    · rcases statusPlace_cases placed with ⟨rfl, asks⟩ | ⟨rfl, asks⟩ | ⟨rfl, -⟩ | ⟨rfl, -⟩
      · exact absurd ⟨by simp [isOneOf, asks], is⟩ notBack
      · exact absurd ⟨by simp [isOneOf, asks], is⟩ notBack
      all_goals decide
    · rw [notEnded] at is
      cases is
  · rw [notEnded] at ended
    cases ended
  · intro key fixed
    refine nextLease_get? wrote ?_
    simp only [fixedMembers, List.mem_cons, List.not_mem_nil, or_false] at fixed
    rcases fixed with rfl | rfl | rfl | rfl <;> simp

end

section

variable {host : LeaseHost} {files : LeaseFiles}

theorem run_attempt {α : Type} (effect : LeaseEffect (Except String α)) (files : LeaseFiles) :
    (attempt effect).run host.answer files = host.answer effect files := by
  simp only [attempt, Prog.perform_bind, Prog.run_step]
  rcases host.answer effect files with ⟨_ | _, after⟩ <;> rfl

theorem run_raise {α : Type} (result : Except String α) (files : LeaseFiles) :
    (Prog.raise result : LeaseProg α).run host.answer files = (result, files) := by
  cases result <;> rfl

theorem answer_read (file : String) (files : LeaseFiles) :
    (∃ message, host.answer (.read file) files = (.error message, files)) ∨
      host.answer (.read file) files = (.ok (files file), files) := by
  simp only [LeaseHost.answer]
  cases host.readFault file with
  | none => exact .inr rfl
  | some message => exact .inl ⟨message, rfl⟩

theorem answer_write (file : String) (lease : CloserLease) (files : LeaseFiles) :
    (∃ message, host.answer (.write file lease) files = (.error message, files)) ∨
      host.answer (.write file lease) files =
        (.ok (), Function.update files file (some lease)) := by
  simp only [LeaseHost.answer]
  cases host.writeFault with
  | none => exact .inr rfl
  | some message => exact .inl ⟨message, rfl⟩

/-- The steps that change no file. -/
def ReadsOnly : {β : Type} → LeaseEffect β → Prop
  | _, .write .. | _, .create .. | _, .remove .. => False
  | _, _ => True

theorem run_readsOnly {α : Type} {prog : LeaseProg α} (uses : prog.Uses ReadsOnly)
    (files : LeaseFiles) : (prog.run host.answer files).2 = files := by
  refine (uses.run (fun before after => after = before)
    (fun _ => rfl) (fun one two => two.trans one) ?_ files)
  intro β effect state reads
  cases effect with
  | read file =>
    rcases @answer_read host file state with ⟨message, failed⟩ | read
    · rw [failed]
    · rw [read]
  | write _ _ => exact reads.elim
  | create _ _ => exact reads.elim
  | remove _ => exact reads.elim
  | _ => rfl

theorem run_catching {α : Type} (fallback : α) (prog : LeaseProg α) (files : LeaseFiles) :
    ((catching fallback prog).run host.answer files).2 = (prog.run host.answer files).2 ∧
    ∃ value, ((catching fallback prog).run host.answer files).1 = .ok value := by
  induction prog generalizing files with
  | pure value => exact ⟨rfl, value, rfl⟩
  | fail message => exact ⟨rfl, fallback, rfl⟩
  | step effect next ih => exact ih _ _

theorem readsOnly_attempt {α : Type} {effect : LeaseEffect (Except String α)}
    (reads : ReadsOnly effect) : (attempt effect).Uses ReadsOnly :=
  ⟨reads, fun _ => Prog.uses_raise _⟩

theorem onward_bind_reads {α β : Type} {prog : LeaseProg α} (reads : prog.Uses ReadsOnly)
    {next : α → LeaseProg β}
    (later : ∀ value, Onward files ((next value).run host.answer files).2) :
    Onward files ((prog.bind next).run host.answer files).2 := by
  rw [Prog.run_bind]
  have kept := @run_readsOnly host _ _ reads files
  rcases ran : prog.run host.answer files with ⟨result, after⟩
  rw [ran] at kept
  dsimp only at kept
  subst kept
  cases result with
  | error message => exact Onward.refl after
  | ok value => exact later value

end

theorem readsOnly_scanLeases [JsText] (start : String) (launchRequestId headSha : Option Json)
    (names : List String) : (scanLeases start launchRequestId headSha names).Uses ReadsOnly := by
  induction names with
  | nil => trivial
  | cons name rest ih =>
    unfold scanLeases
    split_ifs with skipped
    · exact ih
    · refine (@readsOnly_attempt _ (.read name) trivial).bind fun found => ?_
      cases found with
      | none => exact ih
      | some lease =>
        dsimp only
        split_ifs with mine
        · trivial
        · exact ih

section

variable [JsText] [RepositoryNames] {host : LeaseHost} {files : LeaseFiles}

def Replaces (update : LeaseUpdate) (host : LeaseHost) (files : LeaseFiles)
    (result : Except String CloserLease) (after : LeaseFiles) : Prop :=
  after = files ∨ ∃ file existing next, amaCloserLeaseFilePath update.toLeaseIdentity = .ok file ∧
    files file = some existing ∧
    decideLeaseUpdate update file host.clock (some existing) = .ok (.replace next) ∧
    result = .ok next ∧ after = Function.update files file (some next)

theorem run_updateLocked (update : LeaseUpdate) {file : String}
    (named : amaCloserLeaseFilePath update.toLeaseIdentity = .ok file) (files : LeaseFiles) :
    Replaces update host files ((updateLocked update file).run host.answer files).1
      ((updateLocked update file).run host.answer files).2 := by
  unfold updateLocked
  rw [Prog.bind_eq, Prog.run_bind, run_attempt]
  rcases @answer_read host file files with ⟨message, failed⟩ | read
  · rw [failed]
    exact .inl rfl
  rw [read]
  dsimp only
  rw [Prog.bind_eq, Prog.perform_bind, Prog.run_step, Prog.bind_eq, Prog.run_bind, run_raise]
  cases decided : decideLeaseUpdate update file (host.answer .clock files).1 (files file) with
  | error message => exact .inl rfl
  | ok change =>
    cases change with
    | keep lease => exact .inl rfl
    | replace next =>
      dsimp only
      rw [Prog.bind_eq, Prog.run_bind, run_attempt]
      obtain ⟨existing, found, -⟩ := replace_cases decided
      rcases @answer_write host file next (host.answer .clock files).2 with
        ⟨message, failed⟩ | wrote
      · rw [failed]
        exact .inl rfl
      · rw [wrote]
        rw [found] at decided
        exact .inr ⟨file, existing, next, named, found, decided, rfl, rfl⟩

theorem run_update (update : LeaseUpdate) (files : LeaseFiles) :
    (((updateAmaCloserLeaseWithinRepositoryState update).run host.answer files).2 = files) ∨
    (checkLeaseUpdate update = .ok () ∧ Replaces update host files
      ((updateAmaCloserLeaseWithinRepositoryState update).run host.answer files).1
      ((updateAmaCloserLeaseWithinRepositoryState update).run host.answer files).2) := by
  unfold updateAmaCloserLeaseWithinRepositoryState
  rw [Prog.bind_eq, Prog.run_bind, run_raise]
  cases checked : checkLeaseUpdate update with
  | error message => exact .inl rfl
  | ok _ =>
    dsimp only
    rw [Prog.bind_eq, Prog.run_bind, run_raise]
    cases named : amaCloserLeaseFilePath update.toLeaseIdentity with
    | error message => exact .inl rfl
    | ok file =>
      dsimp only
      unfold underLock
      rw [Prog.bind_eq, Prog.run_bind, run_attempt]
      have kept : (host.answer (.tryLock (file ++ ".reclaim.lock")) files).2 = files := rfl
      rcases answered : host.answer (.tryLock (file ++ ".reclaim.lock")) files with ⟨got, after⟩
      rw [answered] at kept
      dsimp only at kept
      subst kept
      cases got with
      | error message => exact .inl rfl
      | ok got =>
        cases got with
        | false => exact .inl rfl
        | true =>
          dsimp only
          rw [if_pos rfl, Prog.run_finally]
          exact .inr ⟨rfl, run_updateLocked update named after⟩

theorem readsOnly_readAmaCloserDispatchLease (identity : LeaseIdentity)
    (launchRequestId : Option Json) :
    (readAmaCloserDispatchLease identity launchRequestId).Uses ReadsOnly := by
  unfold readAmaCloserDispatchLease
  split
  · trivial
  · refine (Prog.uses_raise _).bind fun file => ?_
    refine (@readsOnly_attempt _ (.read file) trivial).bind fun found => ?_
    cases found with
    | some exact_ => trivial
    | none =>
      dsimp only
      split
      · trivial
      · refine ⟨trivial, fun names => ?_⟩
        exact (Prog.uses_raise _).bind fun start => readsOnly_scanLeases start _ _ names

theorem onward_update {update : LeaseUpdate} (notLoose : ¬NamesLoosely update)
    (notBack : ¬AsksBack files update) :
    Onward files
      ((updateAmaCloserLeaseWithinRepositoryState update).run host.answer files).2 := by
  rcases @run_update _ _ host update files with same | ⟨checked, same | replaced⟩
  · rw [same]
    exact Onward.refl files
  · rw [same]
    exact Onward.refl files
  · obtain ⟨file, existing, next, named, found, decided, -, after⟩ := replaced
    rw [after]
    refine Onward.update found (forward_of_replace checked decided notLoose ?_)
    exact fun asks => notBack ⟨asks.1, file, existing, named, found, asks.2⟩

theorem release_not_back (release : LeaseRelease) (lease : CloserLease) (outcome : String)
    (files : LeaseFiles) : ¬NamesLoosely (release.update lease outcome) ∧
      ¬AsksBack files (release.update lease outcome) := by
  constructor
  · rintro ⟨loose, -⟩
    simp [LeaseRelease.update, isOneOf, Json.isText, Json.text?, validStatuses, terminal] at loose
  · rintro ⟨asks, -⟩
    simp [LeaseRelease.update, isOneOf, Json.isText, Json.text?, terminal, pending,
      dispatched] at asks

theorem onward_releaseFound (release : LeaseRelease) (outcome : String)
    (found : Option CloserLease) :
    Onward files ((releaseFound release outcome found).run host.answer files).2 := by
  unfold releaseFound
  cases found with
  | none => exact Onward.refl files
  | some lease =>
    dsimp only
    split
    · exact Onward.refl files
    split
    · exact Onward.refl files
    obtain ⟨notLoose, notBack⟩ := release_not_back release lease outcome files
    rw [Prog.bind_eq, Prog.run_bind]
    have onward := @onward_update _ _ host files _ notLoose notBack
    rcases ran : (updateAmaCloserLeaseWithinRepositoryState
      (release.update lease outcome)).run host.answer files with ⟨result, after⟩
    rw [ran] at onward
    cases result with
    | error message => exact onward
    | ok _ => exact onward

theorem onward_release (release : LeaseRelease) :
    Onward files ((releaseRetryableWithinRepositoryState release).run host.answer files).2 := by
  unfold releaseRetryableWithinRepositoryState
  cases retryableAmaCloserDeferralOutcome release.attempt with
  | none => exact Onward.refl files
  | some outcome =>
    dsimp only
    split
    · exact Onward.refl files
    refine onward_bind_reads (readsOnly_readAmaCloserDispatchLease _ _) fun first => ?_
    -- The second head is only read where the first one has no lease of this launch.
    split
    · refine onward_bind_reads (readsOnly_readAmaCloserDispatchLease _ _) fun found => ?_
      exact onward_releaseFound release outcome found
    · exact onward_releaseFound release outcome first

theorem onward_call {call : LeaseCall}
    (forward : ∀ update, call = .update update → ¬AsksBack files update ∧ ¬NamesLoosely update) :
    Onward files (call.perform host files).2 := by
  cases call with
  | update update =>
    obtain ⟨notBack, notLoose⟩ := forward update rfl
    simp only [LeaseCall.perform, updateAmaCloserLease, Prog.bind_eq, Prog.run_bind, run_attempt,
      LeaseHost.answer]
    cases host.entered with
    | error message => exact Onward.refl files
    | ok _ =>
      have onward := @onward_update _ _ host files _ notLoose notBack
      rcases ran : (updateAmaCloserLeaseWithinRepositoryState update).run host.answer files with
        ⟨result, after⟩
      rw [ran] at onward
      simp only [ran]
      cases result <;> exact onward
  | release release =>
    simp only [LeaseCall.perform, releaseRetryableAmaCloserLease, Prog.run_bind]
    obtain ⟨same, value, ended⟩ := @run_catching host _ false
      ((attempt LeaseEffect.enter).bind fun _ => releaseRetryableWithinRepositoryState release)
      files
    have entered : Onward files (((attempt LeaseEffect.enter).bind fun _ =>
        releaseRetryableWithinRepositoryState release).run host.answer files).2 :=
      onward_bind_reads (@readsOnly_attempt _ (.enter) trivial) fun _ =>
        onward_release release
    rw [← same] at entered
    rcases ran : (catching false ((attempt LeaseEffect.enter).bind fun _ =>
      releaseRetryableWithinRepositoryState release)).run host.answer files with ⟨result, after⟩
    rw [ran] at entered
    cases result <;> exact entered

theorem throw_keeps {call : LeaseCall} {message : String}
    (threw : (call.perform host files).1 = .error message) :
    (call.perform host files).2 = files := by
  cases call with
  | update update =>
    simp only [LeaseCall.perform, updateAmaCloserLease, Prog.bind_eq, Prog.run_bind, run_attempt,
      LeaseHost.answer] at threw ⊢
    cases entered : host.entered with
    | error _ => rfl
    | ok _ =>
      simp only [entered] at threw ⊢
      have replaced := @run_update _ _ host update files
      rcases ran : (updateAmaCloserLeaseWithinRepositoryState update).run host.answer files with
        ⟨result, after⟩
      rw [ran] at threw replaced
      cases result with
      | ok _ => cases threw
      | error thrown =>
        rcases replaced with same | ⟨-, same | ⟨_, _, _, -, -, -, wrote, -⟩⟩
        · exact same
        · exact same
        · cases wrote
  | release release =>
    -- Whatever a release throws is caught.
    simp only [LeaseCall.perform, releaseRetryableAmaCloserLease, Prog.run_bind] at threw ⊢
    obtain ⟨-, value, ended⟩ := @run_catching host _ false
      ((attempt LeaseEffect.enter).bind fun _ => releaseRetryableWithinRepositoryState release)
      files
    rcases ran : (catching false ((attempt LeaseEffect.enter).bind fun _ =>
      releaseRetryableWithinRepositoryState release)).run host.answer files with ⟨result, after⟩
    rw [ran] at ended
    dsimp only at ended
    subst ended
    simp only [Prog.bind_eq, ran] at threw
    cases threw

theorem onward_runLeaseCalls {calls : List (LeaseHost × LeaseCall)} {files : LeaseFiles}
    (forward : NeverAsksBack files calls) : Onward files (runLeaseCalls files calls) := by
  induction calls generalizing files with
  | nil => exact Onward.refl files
  | cons call rest ih => exact (onward_call forward.1).trans (ih forward.2)

theorem neverAsksBack_append {first second : List (LeaseHost × LeaseCall)} {files : LeaseFiles}
    (forward : NeverAsksBack files (first ++ second)) :
    NeverAsksBack (runLeaseCalls files first) second := by
  induction first generalizing files with
  | nil => exact forward
  | cons call rest ih => exact ih forward.2

end

/--
In a run of updates and releases that never asks a lease back from its review, every lease keeps
its owner and only moves forward, and a call that throws changes no file.
-/
theorem closer_lease_forward [JsText] [RepositoryNames] (files : LeaseFiles)
    (first second : List (LeaseHost × LeaseCall))
    (forward : NeverAsksBack files (first ++ second)) :
    Onward (runLeaseCalls files first) (runLeaseCalls files (first ++ second)) ∧
    ∀ (host : LeaseHost) (call : LeaseCall) (message : String),
      (call.perform host (runLeaseCalls files first)).1 = .error message →
      (call.perform host (runLeaseCalls files first)).2 = runLeaseCalls files first := by
  refine ⟨?_, fun host call message threw => throw_keeps threw⟩
  have later := onward_runLeaseCalls (neverAsksBack_append forward)
  simpa only [runLeaseCalls, List.foldl_append] using later

@[reducible] def plainNames : RepositoryNames := ⟨id⟩

def acquiredSample : CloserLease :=
  ⟨[("repo", .str "o/r"), ("prNumber", .num 7), ("headSha", .str "h"),
    ("acquiredAt", .str "2026-01-01T00:00:00.000Z"), ("watcherPid", .num 41),
    ("holderHost", .str "a"), ("lrqId", .null), ("status", .str pending),
    ("terminalOutcome", .null)]⟩

def acquiredFiles : LeaseFiles := fun name =>
  if name = "o__r-pr-7-h.json" then some acquiredSample else none

def sampleCall (status launch outcome : String) : LeaseHost × LeaseCall :=
  ({ clock := "2026-01-01T00:01:00.000Z" }, .update {
    repo := some (.str "o/r")
    prNumber := some (.num 7)
    headSha := some (.str "h")
    status := some (.str status)
    lrqId := some (.str launch)
    terminalOutcome := some (.str outcome) })

/-- A lease that went to review is dispatched to another launch by an update that asks for it. -/
theorem handed_lease_dispatched :
    letI := JsText.wholes; letI := plainNames
    ¬Onward
      (runLeaseCalls acquiredFiles [sampleCall dispatched "l1" "",
        sampleCall handedToReview "l1" ""])
      (runLeaseCalls acquiredFiles ([sampleCall dispatched "l1" "",
        sampleCall handedToReview "l1" ""] ++ [sampleCall dispatched "l2" ""])) := by
  let _ := JsText.wholes
  let _ := plainNames
  intro onward
  have handed : ((runLeaseCalls acquiredFiles [sampleCall dispatched "l1" "",
      sampleCall handedToReview "l1" ""]) "o__r-pr-7-h.json").map
      (fun lease => statusPlace lease.status) = some (some 2) := by decide
  have back : ((runLeaseCalls acquiredFiles ([sampleCall dispatched "l1" "",
      sampleCall handedToReview "l1" ""] ++ [sampleCall dispatched "l2" ""]))
      "o__r-pr-7-h.json").map (fun lease => statusPlace lease.status) = some (some 1) := by
    decide
  obtain ⟨before, held, placed⟩ := Option.map_eq_some_iff.mp handed
  obtain ⟨after, found, forward⟩ := onward _ before held
  obtain ⟨later, reached, up⟩ := forward.advances 2 placed
  rw [found, Option.map_some, reached] at back
  cases back
  omega

/-- A lease that is handed to review and then ended. -/
theorem closer_lease_forward_sample :
    letI := JsText.wholes; letI := plainNames
    Onward (runLeaseCalls acquiredFiles [sampleCall handedToReview "l1" ""])
      (runLeaseCalls acquiredFiles
        ([sampleCall handedToReview "l1" ""] ++ [sampleCall terminal "l1" "succeeded"])) := by
  let _ := JsText.wholes
  let _ := plainNames
  refine (closer_lease_forward acquiredFiles [sampleCall handedToReview "l1" ""]
    [sampleCall terminal "l1" "succeeded"] ⟨?_, ?_, trivial⟩).1
  · rintro update ⟨⟩
    exact ⟨fun asks => absurd asks.1 (by decide), fun loose => absurd loose.1 (by decide)⟩
  · rintro update ⟨⟩
    exact ⟨fun asks => absurd asks.1 (by decide), fun loose => absurd loose.1 (by decide)⟩

end AdversarialReview.Ama
