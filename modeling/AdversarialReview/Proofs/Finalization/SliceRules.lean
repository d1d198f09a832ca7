import AdversarialReview.Finalization.QueueMerge
import AdversarialReview.Finalization.QueueRebase
import AdversarialReview.Proofs.Finalization.QueueStore

/-! Which phases the execution slices ask for, and what makes their programs legal: none throws a
refusal of the phase it asks for. -/

namespace AdversarialReview

open Transaction Slices

def phaseRefusals : List String :=
  ["invalid queue transition", "invalid merged transition", "recovery requires readmission",
    "invalid readmission"]

def mayMove (source target : QueuePhase) (readmits : Bool) : Bool :=
  if readmits then !source.actionable && target = .ready
  else if target.actionable then
    source.actionable && (target.rank = source.rank + 1 || target = source || target = .rebasing ||
      source = .finalizing && target = .waitingChecks)
  else target ≠ .merged || source = .finalizing

theorem progressRefusal_of_mayMove {entry : QueueEntry} {phase : QueuePhase} {readmits : Bool}
    (moves : mayMove entry.phase phase readmits) {turn : Option String} {refusal : String}
    (refused : progressRefusal entry phase readmits false turn = some refusal) :
    refusal ∉ phaseRefusals := by
  simp only [progressRefusal] at refused
  unfold mayMove at moves
  split at refused
  · -- Only a readmission makes an entry active again.
    cases readmits <;> simp_all
  split at refused
  · cases refused
    decide
  split at refused
  · cases readmits <;> simp_all
  split at refused
  · cases readmits <;> simp_all
  split at refused
  · cases readmits <;> simp_all [QueuePhase.actionable, queueActionablePhases, queuePhases]
  · cases refused

theorem queueTime_error [JsDate] {value message : String}
    (failed : queueTime value = .error message) : message ∉ phaseRefusals := by
  unfold queueTime at failed
  split at failed
  · cases failed
    decide
  · unfold JsDate.shift at failed
    split at failed
    · cases failed
    · cases failed
      decide

theorem queueId_error {value message : String} (failed : queueId value = .error message) :
    message ∉ phaseRefusals := by
  have same : message = "invalid queue identity" := by
    simp only [queueId] at failed
    split at failed <;> split at failed <;> simp_all
  rw [same]
  decide

theorem resolveLaneKey_error {lane : LaneKey} {message : String}
    (failed : resolveLaneKey lane = .error message) : message ∉ phaseRefusals := by
  unfold resolveLaneKey at failed
  split at failed
  · cases failed
    decide
  · split at failed
    · cases failed
      decide
    · cases failed

theorem assertFence_throws [JsDate] (fence : QueueFence) (now : String) (host : Host)
    (db : QueueDb) : (assertFence fence now).Throws host db (· ∉ phaseRefusals) := by
  unfold assertFence
  simp only [throws_bind, throws_raise, throws_read, throws_refuse, commits_raise, commits_read,
    commits_refuse]
  refine ⟨fun _ => resolveLaneKey_error, fun lane _ => ⟨trivial, fun _ => by decide, fun _ =>
    ⟨trivial, ?_⟩⟩⟩
  split
  · exact (throws_throw _).mpr (by decide)
  · simp only [throws_bind, throws_refuse, commits_refuse]
    refine ⟨fun _ => by decide, fun _ => ?_⟩
    split
    · exact (throws_throw _).mpr (by decide)
    · simp only [throws_bind, throws_raise, throws_refuse, throws_pure, commits_raise,
        commits_refuse]
      exact ⟨fun _ => queueTime_error, fun _ _ => ⟨fun _ => by decide, fun _ => trivial⟩⟩

theorem progressSubject_phase {args : ProgressArgs} {entry : QueueEntry}
    (expected : args.expectedEntry = some entry) (lane : LaneKey) (host : Host) (db : QueueDb) :
    (progressSubject args lane).Commits host db fun stored _ => stored.phase = entry.phase := by
  unfold progressSubject
  simp only [commits_bind, commits_raise, commits_read]
  intro _ _
  split
  · exact (commits_throw _).mpr trivial
  · simp only [commits_bind, commits_read, commits_refuse, commits_pure, expected, Option.any_some]
    intro _ same _ _
    simp only [QueueEntry.deepEq, Bool.not_eq_true', Bool.not_eq_false, Bool.and_eq_true,
      decide_eq_true_eq] at same
    simp [same]

theorem progressSubject_throws (args : ProgressArgs) (lane : LaneKey) (host : Host) (db : QueueDb) :
    (progressSubject args lane).Throws host db (· ∉ phaseRefusals) := by
  unfold progressSubject
  simp only [throws_bind, throws_raise, throws_read, commits_raise, commits_read]
  refine ⟨fun _ => queueId_error, fun _ _ => ⟨trivial, ?_⟩⟩
  split
  · exact (throws_throw _).mpr (by decide)
  · simp only [throws_bind, throws_refuse, throws_read, throws_pure, commits_refuse, commits_read]
    exact ⟨fun _ => by decide, fun _ => ⟨fun _ => by decide, fun _ => ⟨trivial, fun _ => by decide,
      fun _ => ⟨fun _ => by decide, fun _ => trivial⟩⟩⟩⟩

theorem readmission_throws (readmits : Bool) (lane : LaneKey) (host : Host) (db : QueueDb) :
    (readmission readmits lane).Throws host db (· ∉ phaseRefusals) := by
  unfold readmission
  split
  · simp only [nextReadiness, throws_bind, throws_modify, throws_read, throws_pure, commits_modify,
      commits_read]
    refine ⟨⟨trivial, trivial, ?_⟩, fun _ _ _ => trivial⟩
    split
    · exact throws_pure _
    · exact (throws_throw _).mpr (by decide)
  · exact throws_pure _

theorem writeEntry_throws (entry : QueueEntry) (host : Host) (db : QueueDb) :
    (writeEntry entry).Throws host db (· ∉ phaseRefusals) := by
  simp only [writeEntry, throws_bind, throws_read, throws_refuse, throws_modify, commits_read,
    commits_refuse]
  exact ⟨trivial, fun _ => by decide, fun _ => trivial⟩

theorem replayIntent_throws (args : QueueOwner.IssueArgs) (lane : LaneKey) (row : OperationRow)
    (host : Host) (db : QueueDb) :
    (QueueOwner.replayIntent args lane row).Throws host db (· ∉ phaseRefusals) := by
  unfold QueueOwner.replayIntent
  simp only [throws_bind, throws_read, throws_refuse, throws_pure, commits_read, commits_refuse]
  exact ⟨fun _ => by decide, fun _ => ⟨trivial, fun _ => by decide, fun _ => trivial⟩⟩

section

variable [JsDate]

theorem append_throws (lane : LaneKey) (recordedAt : String) (body : QueueEventBody)
    (host : Host) (db : QueueDb) :
    (QueueStore.append lane recordedAt body).Throws host db (· ∉ phaseRefusals) := by
  unfold QueueStore.append
  simp only [throws_bind, throws_refuse, throws_modify, commits_refuse]
  exact ⟨fun _ => by decide, fun _ => trivial⟩

theorem progress_throws {args : ProgressArgs} {entry : QueueEntry}
    (expected : args.expectedEntry = some entry) (plain : args.recoveryObservation = none)
    (moves : mayMove entry.phase args.phase args.readmits) (host : Host) (db : QueueDb) :
    (progress args).Throws host db (· ∉ phaseRefusals) := by
  have resolved : ∀ stored, args.resolve stored = .ok (args.phase, args.patch) := by
    intro stored
    simp [ProgressArgs.resolve, plain]
  have unrecovering : args.recovering = false := by
    simp [ProgressArgs.recovering, plain, Json.truthy]
  unfold progress
  simp only [throws_bind, throws_raise, throws_refuse, throws_read, commits_raise, commits_refuse,
    commits_read, resolved, unrecovering]
  refine ⟨fun _ => queueTime_error, fun updatedAt _ => ⟨fun _ => by decide, fun _ =>
    ⟨assertFence_throws _ _ _ _, fun _ after _ => ⟨fun _ => resolveLaneKey_error, fun lane _ =>
    ⟨progressSubject_throws _ _ _ _, ?_⟩⟩⟩⟩⟩
  refine (progressSubject_phase expected lane host after).mono ?_
  intro stored later same
  refine ⟨fun _ failed => (by cases failed), fun asked given => ?_⟩
  cases given
  refine ⟨trivial, ?_⟩
  split
  · next refusal refused =>
    rw [← same] at moves
    exact (throws_throw _).mpr (progressRefusal_of_mayMove moves refused)
  · simp only [throws_bind, throws_refuse, throws_pure, commits_refuse]
    exact ⟨fun _ => by decide, fun _ => ⟨readmission_throws _ _ _ _, fun _ _ _ =>
      ⟨writeEntry_throws _ _ _, fun _ _ _ => ⟨append_throws _ _ _ _ _, fun _ _ _ => trivial⟩⟩⟩⟩

theorem progress_phase {args : ProgressArgs} (plain : args.recoveryObservation = none)
    (host : Host) (db : QueueDb) :
    (progress args).Commits host db fun moved _ => moved.phase = args.phase := by
  have resolved : ∀ stored, args.resolve stored = .ok (args.phase, args.patch) := by
    intro stored
    simp [ProgressArgs.resolve, plain]
  unfold progress
  simp only [commits_bind, commits_raise, commits_refuse, commits_read, resolved]
  intro updatedAt _ _ _ _ _ lane _ stored later _ asked given
  cases given
  split
  · exact (commits_throw _).mpr trivial
  · simp only [commits_bind, commits_refuse, commits_pure]
    intro _ _ _ _ _ _ _ _ _ _
    rfl

theorem queueWaitMs_error {loadAware : Int → Int → Int} {nominalMs ceilingMs : Int}
    {until_ : Option (String × String)} {message : String}
    (failed : queueWaitMs loadAware nominalMs ceilingMs until_ = .error message) :
    message ∉ phaseRefusals := by
  simp only [queueWaitMs] at failed
  split at failed
  · cases failed
  · split at failed
    · cases failed
    · cases failed
      decide

theorem after_error {now message : String} {ms : Int} (failed : after now ms = .error message) :
    message ∉ phaseRefusals := by
  unfold after at failed
  split at failed
  · cases failed
    decide
  · unfold JsDate.shift at failed
    split at failed
    · cases failed
    · cases failed
      decide

/-- What a slice throws of its own says nothing about phases. -/
structure Service.Quiet (service : Service) : Prop where
  superseded : service.superseded ∉ phaseRefusals
  undrained : service.undrained ∉ phaseRefusals
  stamp : ∀ value message, service.stamp value = .error message → message ∉ phaseRefusals

theorem currentTx_throws {service : Service} {entry : QueueEntry} {fence : QueueFence}
    (quiet : Service.Quiet service) (checkedAt : String) (host : Host) (db : QueueDb) :
    (currentTx service entry fence checkedAt).Throws host db (· ∉ phaseRefusals) := by
  unfold currentTx
  simp only [throws_bind, throws_raise, throws_read, throws_refuse, commits_raise, commits_read,
    commits_refuse]
  exact ⟨assertFence_throws _ _ _ _, fun _ _ _ => ⟨fun _ => queueId_error, fun _ _ => ⟨trivial,
    fun _ => quiet.superseded, fun _ => ⟨trivial, fun _ => quiet.undrained⟩⟩⟩⟩

theorem releaseTx_throws (fence : QueueFence) (lane : LaneKey) (host : Host) (db : QueueDb) :
    (QueueOwner.releaseTx fence lane).Throws host db (· ∉ phaseRefusals) := by
  unfold QueueOwner.releaseTx QueueOwner.timeInside
  simp only [throws_bind, throws_ask, throws_raise, throws_read, throws_refuse, throws_modify,
    throws_pure, commits_ask, commits_bind, commits_raise, commits_read, commits_refuse,
    commits_modify]
  exact ⟨⟨trivial, fun _ => queueTime_error⟩, fun _ _ => ⟨assertFence_throws _ _ _ _, fun _ _ _ =>
    ⟨trivial, fun _ => by decide, fun _ => ⟨trivial, trivial, append_throws _ _ _ _ _, fun _ _ _ =>
    trivial⟩⟩⟩⟩

theorem prepare_throws (args : QueueOwner.IssueArgs) (lane : LaneKey) (issuedAt : String)
    (host : Host) (db : QueueDb) :
    (QueueOwner.prepare args lane issuedAt).Throws host db (· ∉ phaseRefusals) := by
  unfold QueueOwner.prepare
  simp only [throws_bind, throws_read, commits_read]
  refine ⟨assertFence_throws _ _ _ _, fun _ after _ => ⟨trivial, ?_⟩⟩
  split
  · exact replayIntent_throws _ _ _ _ _
  · simp only [throws_bind, throws_read, throws_raise, throws_refuse, commits_read, commits_raise,
      commits_refuse]
    refine ⟨trivial, fun _ => by decide, fun _ => ⟨fun _ => queueId_error, fun _ _ => ⟨trivial,
      trivial, ?_⟩⟩⟩
    split
    · exact (throws_throw _).mpr (by decide)
    · simp only [throws_bind, throws_ask, throws_raise, throws_refuse, throws_modify, throws_pure,
        commits_ask, commits_raise, commits_refuse, commits_modify]
      exact ⟨fun _ => by decide, fun _ => ⟨trivial, fun _ => queueWaitMs_error, fun _ _ =>
        ⟨fun _ => by decide, fun _ => ⟨trivial, append_throws _ _ _ _ _, fun _ _ _ => trivial⟩⟩⟩⟩

theorem settleIssued_throws (fence : QueueFence) (lane : LaneKey) (operationId : String)
    (result : Json) (host : Host) (db : QueueDb) :
    (QueueOwner.settleIssued fence lane operationId result).Throws host db
      (· ∉ phaseRefusals) := by
  unfold QueueOwner.settleIssued QueueOwner.timeInside QueueOwner.settle
  simp only [throws_bind, throws_ask, throws_raise, throws_refuse, throws_modify, commits_ask,
    commits_bind, commits_raise, commits_refuse, commits_modify]
  exact ⟨⟨trivial, fun _ => queueTime_error⟩, fun _ _ => ⟨assertFence_throws _ _ _ _, fun _ _ _ =>
    ⟨⟨trivial, fun _ => queueTime_error⟩, fun _ _ => ⟨fun _ => by decide, fun _ => ⟨trivial,
    append_throws _ _ _ _ _⟩⟩⟩⟩⟩

end

open Transaction Json Slices

section

variable [JsText] [SlicePolicies]

/--
An observation that makes the rebase ask for a phase its entry cannot move to.

Either the candidate of an entry that went back to be rebased stands on its branch at its exact
base, or the branch of an entry that waits for checks is back at the head before the candidate.
-/
def stranded (entry : QueueEntry) (receipt : AdmissionReceipt) (live : Option Json) :
    Reading → Bool
  | .placement =>
    entry.phase = .rebasing && Json.truthy (entry.field? "candidate") &&
      QueueRebase.candidateLive nonempty entry live &&
      QueueRebase.preflight false entry receipt live (entry.field? "candidate")
        (!strictEq (entry.field? "candidate") (textOf entry.head)) = .ready
  | .publication =>
    if QueueRebase.candidateLive Json.truthy entry live then
      entry.phase = .rebasing && QueueRebase.preflight false entry receipt live
        (entry.field? "candidate") (!strictEq (entry.field? "candidate") (textOf entry.head)) =
          .ready
    else
      entry.phase = .waitingChecks && QueueRebase.preflight false entry receipt live
        (entry.field? "expectedOldHead")
        (!strictEq (entry.field? "expectedOldHead") (textOf entry.head)) = .ready &&
      strictEq (member (subjectOf live) "baseSha") (entry.field? "exactBase") &&
      !QueueRebase.branchMoved entry live
  | _ => false

/--
What the effects of a slice may be answered.

A transaction is answered by what it comes to on some database, whatever others did to it.
The receipt of an admission is immutable, and no observation strands its entry.
-/
def Answers (receiptOf : QueueEntry → Option AdmissionReceipt) :
    {β : Type} → SliceEffect β → β → Prop
  | _, .tx body, answer => ∃ host db, answer = (body host db).map Prod.fst
  | _, .enterCycle, answer => ∀ message, answer = .error message → message ∉ phaseRefusals
  | _, .tryLock _, answer => ∀ message, answer = .error message → message ∉ phaseRefusals
  | _, .receipt entry, answer => answer = receiptOf entry
  | _, .observe entry reading _, answer => ∀ live, answer = .ok live → ∀ receipt,
      receiptOf entry = some receipt → stranded entry receipt live reading = false
  | _, _, _ => True

variable (receiptOf : QueueEntry → Option AdmissionReceipt)

abbrev Legal {α : Type} (prog : Prog SliceEffect α) (ends : α → Prop) : Prop :=
  prog.Plays (Answers receiptOf) (· ∉ phaseRefusals) ends

end

section

variable [JsText] [SlicePolicies]
variable {receiptOf : QueueEntry → Option AdmissionReceipt} {α : Type}

theorem legal_commit {body : Tx α} {ends : α → Prop}
    (throws : ∀ host db, body.Throws host db (· ∉ phaseRefusals))
    (commits : ∀ host db, body.Commits host db fun value _ => ends value) :
    Legal receiptOf (commit body) ends := by
  rintro answer ⟨host, db, rfl⟩
  cases done : body host db with
  | error message => exact throws host db message done
  | ok pair => exact commits host db pair.1 pair.2 done

theorem legal_read {reader : QueueDb → α} :
    Legal receiptOf (commit (.read reader)) fun _ => True :=
  legal_commit (fun _ _ => throws_read reader) fun _ _ => (commits_read reader).mpr trivial

theorem legal_raise {result : Except String α}
    (failed : ∀ message, result = .error message → message ∉ phaseRefusals) :
    Legal receiptOf (Prog.raise result) fun _ => True :=
  Prog.plays_raise failed fun _ _ => trivial

theorem legal_perform {effect : SliceEffect α} :
    Legal receiptOf (Prog.perform effect) (Answers receiptOf effect) :=
  fun _ given => given

theorem legal_enterCycle :
    Legal receiptOf ((Prog.perform .enterCycle).bind Prog.raise) fun _ => True :=
  fun _ given => legal_raise given

theorem legal_tryLock {lane : LaneKey} :
    Legal receiptOf ((Prog.perform (.tryLock lane)).bind Prog.raise) fun _ => True :=
  fun _ given => legal_raise given

theorem legal_readStored {entryId : String} :
    Legal receiptOf (readStored entryId) fun _ => True :=
  (legal_raise fun _ => queueId_error).bind fun _ _ => legal_read

variable {service : Service} {entry : QueueEntry} {fence : QueueFence}

theorem legal_stampNow (quiet : Service.Quiet service) :
    Legal receiptOf (stampNow service) fun _ => True :=
  fun _ _ => legal_raise fun message => quiet.stamp _ message

theorem legal_locked {lane : LaneKey} {action : LaneKey → Prog SliceEffect QueueReply}
    (legal : ∀ resolved, Legal receiptOf (action resolved) fun _ => True) :
    Legal receiptOf (locked lane action) fun _ => True := by
  refine legal_enterCycle.bind fun _ _ =>
    (legal_raise fun _ => resolveLaneKey_error).bind fun resolved _ =>
    legal_tryLock.bind fun acquired _ => ?_
  split
  · exact (legal resolved).finally_ fun _ _ => trivial
  · trivial

theorem legal_subject {entryId foreign : String} (quiet : foreign ∉ phaseRefusals) :
    Legal receiptOf (subject fence entryId foreign) fun _ => True := by
  refine legal_readStored.bind fun stored _ => ?_
  split
  · exact quiet
  · refine (legal_raise fun _ => resolveLaneKey_error).bind fun lane _ => ?_
    split
    · exact quiet
    · trivial

variable [JsDate]

theorem legal_waitUntil {nominalMs ceilingMs : Int} {deadline : Option String} :
    Legal receiptOf (waitUntil nominalMs ceilingMs deadline) fun _ => True :=
  fun _ _ _ _ => legal_raise fun _ => queueWaitMs_error

theorem legal_after {now : String} {ms : Int} :
    Legal receiptOf (Prog.raise (after now ms)) fun _ => True :=
  legal_raise fun _ => after_error

theorem legal_expired {deadline : String} :
    Legal receiptOf (expired deadline) fun _ => True :=
  fun _ _ => trivial

theorem legal_assertFence {now : String} :
    Legal receiptOf (commit (assertFence fence now)) fun _ => True :=
  legal_commit (fun host db => assertFence_throws fence now host db) fun _ _ _ _ _ => trivial

theorem legal_current (quiet : Service.Quiet service) :
    Legal receiptOf (current service entry fence) fun _ => True :=
  (legal_stampNow quiet).bind fun checkedAt _ =>
    legal_commit (currentTx_throws quiet checkedAt) fun _ _ _ _ _ => trivial

theorem legal_request (quiet : Service.Quiet service) {phase : QueuePhase} {reason : Option Json}
    {patch : List (String × Option Json)} {readmits : Bool}
    (moves : mayMove entry.phase phase readmits) :
    Legal receiptOf (request service entry fence phase reason patch readmits)
      fun moved => moved.phase = phase := by
  refine (legal_current quiet).bind fun _ _ => legal_waitUntil.bind fun _ _ =>
    (legal_stampNow quiet).bind fun progressedAt _ => legal_commit ?_ ?_
  · intro host db
    exact progress_throws rfl rfl moves host db
  · intro host db
    exact progress_phase rfl host db

theorem legal_conclude (quiet : Service.Quiet service) {phase : QueuePhase} {reason : Option Json}
    {patch : List (String × Option Json)} {readmits : Bool}
    (moves : mayMove entry.phase phase readmits) :
    Legal receiptOf (conclude service entry fence phase reason patch readmits) fun _ => True :=
  (legal_request quiet moves).bind fun _ _ => trivial

theorem legal_release {deferred : String} (quiet : deferred ∉ phaseRefusals) :
    Legal receiptOf (release fence deferred) fun _ => True := by
  refine (legal_locked fun lane => legal_commit (releaseTx_throws fence lane)
    fun _ _ _ _ _ => trivial).bind fun reply _ => ?_
  split
  · exact quiet
  · trivial

theorem legal_issue {args : QueueOwner.IssueArgs} {invoke : OperationIntent → Prog SliceEffect Json}
    (legal : ∀ intent, Legal receiptOf (invoke intent) fun _ => True) :
    Legal receiptOf (issue args invoke) fun _ => True := by
  refine (legal_raise fun _ => queueId_error).bind fun _ _ => legal_locked fun lane => ?_
  refine legal_perform.bind fun now _ => ?_
  refine (legal_raise fun _ => queueTime_error).bind fun issuedAt _ =>
    (legal_commit (prepare_throws args lane issuedAt) fun _ _ _ _ _ => trivial).bind
      fun (prepared : OperationRow × Bool) (_ : True) => ?_
  obtain ⟨operation, fresh⟩ := prepared
  dsimp only
  split
  · trivial
  · split
    · show "operation requires reconciliation" ∉ phaseRefusals
      decide
    · exact (legal operation.intent).bind fun result _ =>
        (legal_commit (settleIssued_throws _ lane _ result) fun _ _ _ _ _ => trivial).bind
          fun (_ : Unit) (_ : True) => trivial

end

theorem mayMove_target {source : QueuePhase} (active : source.actionable) (target : SliceTarget) :
    mayMove source target.phase false := by
  cases source <;> cases target <;> first | rfl | cases active

theorem readDisposition_error {disposition : Option Json} {message : String}
    (found : readDisposition disposition = some (.error message)) :
    message = "invalid queue phase" := by
  unfold readDisposition at found
  split at found
  · cases found
  · split at found
    · cases found
    · cases found
      rfl

end AdversarialReview
