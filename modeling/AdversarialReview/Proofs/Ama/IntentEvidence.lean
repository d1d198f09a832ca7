import AdversarialReview.Ama.PreReceiptIntent
import AdversarialReview.Proofs.Ama.CloserLease

/-! What the absence of an interrupted closer launch rests on, read off the evidence for it. -/

namespace AdversarialReview.Ama

/-- What a reconciliation was answered so far, each kind of answer in order. -/
structure Seen where
  records : List (Except String (Option String)) := []
  leases : List (Except String (Option CloserLease)) := []
  clock : Option String := none
  pullRequest : Option Json := none
  alive : Option Bool := none
  processes : Option SubmitterProbe := none
  lookups : List (Json × Option Json) := []

namespace Seen

def learn : {β : Type} → IntentEffect β → β → Seen → Seen
  | _, .readRecord, answer, seen => { seen with records := seen.records ++ [answer] }
  | _, .readLease _, answer, seen => { seen with leases := seen.leases ++ [answer] }
  | _, .clock, answer, seen => { seen with clock := some answer }
  | _, .readPullRequest, .ok answer, seen => { seen with pullRequest := answer }
  | _, .pidAlive _, answer, seen => { seen with alive := answer }
  | _, .probeSubmitter _ _, answer, seen => { seen with processes := some answer }
  | _, .lookup query, .ok answer, seen => { seen with lookups := seen.lookups ++ [(query, answer)] }
  | _, _, _, seen => seen

def Answered (seen : Seen) (query : Json) (rows : List Json) : Prop :=
  ∃ answer, (query, answer) ∈ seen.lookups ∧ answeredRows answer = some rows

def pr (call : IntentCall) (seen : Seen) : Option Json :=
  if Json.truthy call.prMetadata then call.prMetadata else seen.pullRequest

end Seen

section

variable [JsText] [JsDate] [JsJson] [IntentEngine]

def DeadlinePassed (call : IntentCall) (seen : Seen) (record : Json) : Prop :=
  ∃ now deadline, call.now.or seen.clock = some now ∧
    intentDeadline record now = .ok deadline ∧ deadline.passed = true

def HolderDead (call : IntentCall) (seen : Seen) (held : CloserLease) : Prop :=
  held.pendingUnlaunched = true ∧ held.isLocal call.hostname = true ∧ seen.alive = some false

def TicketEmpty (call : IntentCall) (seen : Seen) (record : Json) : Prop :=
  call.operatorSettlement = true ∧ DeadlinePassed call seen record ∧
    seen.Answered (IntentEvidence.ticketQuery record call.timeoutMs) []

def Misattributed (call : IntentCall) (seen : Seen) (record : Json) (held : CloserLease) : Prop :=
  TicketEmpty call seen record ∧ Json.strictEq (record.get? "launchRequestId") (held.get? "lrqId") ∧
    ∃ row ticket, seen.Answered (IntentEvidence.keyQuery record call.timeoutMs) [row] ∧
      Json.strictEq (row.get? "launch_request_id") (held.get? "lrqId") ∧
      row.get? "ticket_ref" = some (.str ticket) ∧ ticket ≠ closerTicket record

inductive KeyFinal (call : IntentCall) (seen : Seen) (record : Json) (lease : Option CloserLease) :
    Prop
  | deadline (passed : DeadlinePassed call seen record)
  | submitter (probe : SubmitterProbe) (probed : seen.processes = some probe)
      (gone : probe.submitterGone = true)
  | prepared (held : CloserLease) (owned : lease = some held)
      (phase : Json.isText (record.get? "dispatchPhase") "prepared" = true)
      (over_ : HolderDead call seen held ∨ held.deferredUnlaunched = true)

/-- The ledger answers that prove a launch absent. -/
inductive NegativeProof (call : IntentCall) (seen : Seen) (record : Json)
    (lease : Option CloserLease) : Prop
  | keyed (key : Json.truthy (record.get? "dispatchIdempotencyKey") = true)
      (empty : seen.Answered (IntentEvidence.keyQuery record call.timeoutMs) [])
      (final : KeyFinal call seen record lease)
  | legacy (keyless : Json.truthy (record.get? "dispatchIdempotencyKey") = false)
      (empty : seen.Answered (IntentEvidence.ticketQuery record call.timeoutMs) [])
  | operator (empty : TicketEmpty call seen record)

/-- What the absence of a launch rests on, apart from the two snapshots. -/
structure AbsenceEvidence (call : IntentCall) (seen : Seen) (record : Json)
    (lease : Option CloserLease) : Prop where
  owned : ∀ held, lease = some held →
    Json.strictEq (held.get? "acquiredAt") (record.get? "lastAttemptedAt") = true
  launch : ∀ held, lease = some held → Json.truthy (held.get? "lrqId") = true →
    Misattributed call seen record held
  noneLive : ∀ probe, seen.processes = some probe → probe.anyLive = false
  noReceipt : ∀ lookup ∈ seen.lookups, lookedUp lookup.2 = true →
    ∀ rows, answeredRows lookup.2 = some rows → ∀ row ∈ rows,
      closerLaunchMatches record (some row) ≠ .ok true
  negative : NegativeProof call seen record lease

/-- A launch is absent on proof: what was read first still held when it was read last. -/
structure AbsenceProven (call : IntentCall) (seen : Seen) (record : Json)
    (lease : Option CloserLease) : Prop extends AbsenceEvidence call seen record lease where
  recordUnchanged : ∃ bytes, IntentEngine.parse bytes = .ok record ∧
    seen.records = List.replicate 3 (.ok (some bytes))
  leaseUnchanged : ∃ second third, seen.leases = [.ok lease, .ok second, .ok third] ∧
    sameLease second lease = true ∧ sameLease third lease = true
  observedOpen : isOpenPullRequest (seen.pr call) = true ∧
    isTerminalCloserPullRequest (seen.pr call) = false

def WrittenOnProof (call : IntentCall) : {β : Type} → IntentEffect β → Seen → Prop
  | _, .writeRecord next, seen => Json.isText (next.get? "state") "no-dispatch" = true →
      ∃ record lease, AbsenceProven call seen record lease
  | _, _, _ => True

structure Sound (call : IntentCall) (evidence : IntentEvidence) (seen : Seen) : Prop where
  settlement : evidence.operatorSettlement = call.operatorSettlement
  pr : evidence.pr = seen.pr call
  now : call.now.or seen.clock = some evidence.now
  deadline : intentDeadline evidence.record evidence.now = .ok evidence.deadline
  dead : evidence.localDead = true → ∃ held, evidence.lease = some held ∧ HolderDead call seen held
  processes : evidence.processes = seen.processes
  probed : evidence.processes.isSome = true →
    evidence.legacy = false ∧ evidence.canProbeSubmitter = true
  rows : ∀ rows, evidence.rows = some rows → seen.Answered
    (if evidence.legacy then IntentEvidence.ticketQuery evidence.record call.timeoutMs
      else IntentEvidence.keyQuery evidence.record call.timeoutMs) rows
  operator : evidence.operatorAbsence = true → call.operatorSettlement = true ∧
    evidence.deadline.passed = true ∧
    seen.Answered (IntentEvidence.ticketQuery evidence.record call.timeoutMs) []
  lookups : ∀ lookup ∈ seen.lookups, lookedUp lookup.2 = true →
    answeredRows lookup.2 = evidence.rows ∨ (evidence.legacy = false ∧
      call.operatorSettlement = true ∧
        (evidence.operatorAbsence = true → answeredRows lookup.2 = some []))

end

namespace IntentEvidence

variable {evidence : IntentEvidence}

variable {held : CloserLease}

theorem matchingLease_of_own (own : evidence.foreignLease = false)
    (owned : evidence.lease = some held) : evidence.matchingLease = true := by
  simp only [foreignLease, owned, Option.isSome_some, Bool.true_and, Bool.and_eq_false_iff,
    Bool.not_eq_false', Bool.and_eq_true] at own
  rcases own with ((waiting | dead) | settled) | promoted
  · simp only [matchingPendingLease, Bool.and_eq_true] at waiting
    exact waiting.1.2
  · exact dead.1
  · simp only [settledNoLaunch, Bool.and_eq_true] at settled
    exact settled.1
  · simp only [promotedLease, Bool.and_eq_true] at promoted
    exact promoted.1.2

theorem unlaunched_of_pending (waits : held.pendingUnlaunched = true) :
    Json.truthy (held.get? "lrqId") = false := by
  simp only [CloserLease.pendingUnlaunched, Bool.and_eq_true, Bool.not_eq_true'] at waits
  exact waits.2

theorem unlaunched_of_deferred (settled : held.deferredUnlaunched = true) :
    Json.truthy (held.get? "lrqId") = false := by
  simp only [CloserLease.deferredUnlaunched, Bool.and_eq_true, Bool.not_eq_true'] at settled
  exact settled.2

theorem unlaunched_of_settled (settled : evidence.settledNoLaunch = true)
    (owned : evidence.lease = some held) : held.deferredUnlaunched = true := by
  simp only [settledNoLaunch, owned, Option.any_some, Bool.and_eq_true] at settled
  exact settled.2

theorem unlaunched_of_canProbe (probes : evidence.canProbeSubmitter = true)
    (owned : evidence.lease = some held) : Json.truthy (held.get? "lrqId") = false := by
  simp only [canProbeSubmitter, Bool.or_eq_true, Bool.and_eq_true] at probes
  rcases probes with waiting | ⟨settled, -⟩
  · simp only [matchingPendingLease, owned, Option.any_some, Bool.and_eq_true] at waiting
    exact unlaunched_of_pending waiting.2
  · exact unlaunched_of_deferred (unlaunched_of_settled settled owned)

theorem rows_of_noRows (empty : evidence.noRows = true) : evidence.rows = some [] := by
  simp only [noRows] at empty
  cases listed : evidence.rows with
  | none => simp [listed] at empty
  | some rows =>
    rw [listed, Option.any_some, List.isEmpty_iff] at empty
    rw [empty]

end IntentEvidence

section

variable [JsText] {call : IntentCall} {evidence : IntentEvidence} {seen : Seen}

namespace IntentEvidence

theorem provesAbsence_cases (proves : evidence.provesAbsence = true) :
    evidence.foreignLease = false ∧ evidence.processes.any SubmitterProbe.anyLive = false ∧
      ((evidence.legacy = true ∧ evidence.noRows = true) ∨
        (evidence.legacy = false ∧ evidence.keyedAbsenceAllowed = true ∧
          (((evidence.promotedLease = false ∨ evidence.misattributedLease = true) ∧
            evidence.deadline.passed = true ∧
              (evidence.noRows = true ∨ evidence.operatorAbsence = true)) ∨
          (evidence.deadSubmitter = true ∧ evidence.noRows = true) ∨
          (evidence.matchingLease = true ∧
            (evidence.localDead = true ∨ evidence.settledNoLaunch = true) ∧
            Json.isText (evidence.record.get? "dispatchPhase") "prepared" = true ∧
            evidence.noRows = true)))) := by
  simp only [provesAbsence, Bool.and_eq_true, Bool.or_eq_true, Bool.not_eq_true'] at proves
  obtain ⟨⟨own, quiet⟩, ((old | expired) | gone) | prepared⟩ := proves
  · exact ⟨own, quiet, .inl ⟨old.1.1, old.1.2⟩⟩
  · obtain ⟨⟨⟨⟨keyed, allowed⟩, lease⟩, passed⟩, empty⟩ := expired
    exact ⟨own, quiet, .inr ⟨keyed, allowed, .inl ⟨lease, passed, empty⟩⟩⟩
  · obtain ⟨⟨⟨keyed, allowed⟩, dead⟩, empty⟩ := gone
    exact ⟨own, quiet, .inr ⟨keyed, allowed, .inr (.inl ⟨dead, empty⟩)⟩⟩
  · obtain ⟨⟨⟨⟨⟨keyed, allowed⟩, same⟩, ended⟩, phase⟩, empty⟩ := prepared
    exact ⟨own, quiet, .inr ⟨keyed, allowed, .inr (.inr ⟨same, ended, phase, empty⟩)⟩⟩

theorem foreignReceipt_spec (foreign : evidence.foreignReceipt = true) :
    ∃ row ticket, evidence.rows = some [row] ∧ evidence.receipt = some row ∧
      row.get? "ticket_ref" = some (.str ticket) ∧ ticket ≠ closerTicket evidence.record := by
  simp only [foreignReceipt, Bool.and_eq_true] at foreign
  obtain ⟨-, named⟩ := foreign
  rw [Option.any_eq_true] at named
  obtain ⟨ticket, read, apart⟩ := named
  rw [Option.bind_eq_some_iff] at read
  obtain ⟨value, member, text⟩ := read
  simp only [Json.member, Option.bind_eq_some_iff] at member
  obtain ⟨row, received, field⟩ := member
  have only : evidence.rows = some [row] := by
    unfold receipt at received
    split at received
    · cases received
      assumption
    · cases received
  refine ⟨row, ticket, only, received, ?_, (of_decide_eq_true apart).2⟩
  cases value with
  | str value =>
    cases text
    exact field
  | _ => cases text

end IntentEvidence

theorem closerLaunchMatches_of_ticket {record row : Json} {ticket : String}
    (named : row.get? "ticket_ref" = some (.str ticket)) (apart : ticket ≠ closerTicket record) :
    closerLaunchMatches record (some row) ≠ .ok true := by
  have other : Json.isText (row.get? "ticket_ref") (closerTicket record) = false := by
    simp [named, Json.isText, Json.text?, apart]
  intro matched
  simp only [closerLaunchMatches, Json.member, Option.bind_some, other, Bool.not_false,
    Bool.or_true, if_true] at matched
  cases matched

namespace Sound

variable [JsDate] [IntentEngine]

section

variable (sound : Sound call evidence seen)
include sound

theorem deadlinePassed
    (passed : evidence.deadline.passed = true) : DeadlinePassed call seen evidence.record :=
  ⟨evidence.now, evidence.deadline, sound.now, sound.deadline, passed⟩

theorem ticketEmpty
    (absent : evidence.operatorAbsence = true) : TicketEmpty call seen evidence.record := by
  obtain ⟨settles, passed, empty⟩ := sound.operator absent
  exact ⟨settles, sound.deadlinePassed passed, empty⟩

theorem operatorAbsence_of_allowed
    (allowed : evidence.keyedAbsenceAllowed = true) (settles : call.operatorSettlement = true) :
    evidence.operatorAbsence = true ∧
      (evidence.rows.all List.isEmpty = true ∨ evidence.foreignReceipt = true) := by
  simp only [IntentEvidence.keyedAbsenceAllowed, sound.settlement, settles, Bool.not_true,
    Bool.false_or, Bool.and_eq_true, Bool.or_eq_true] at allowed
  exact ⟨allowed.1.2, allowed.2⟩

theorem harmless (proves : evidence.provesAbsence = true)
    {rows : List Json} (listed : evidence.rows = some rows) :
    ∀ row ∈ rows, closerLaunchMatches evidence.record (some row) ≠ .ok true := by
  obtain ⟨-, -, proof⟩ := IntentEvidence.provesAbsence_cases proves
  -- An empty answer has no row at all.
  have empty (none_ : evidence.noRows = true) :
      ∀ row ∈ rows, closerLaunchMatches evidence.record (some row) ≠ .ok true := by
    have nothing := IntentEvidence.rows_of_noRows none_
    rw [listed] at nothing
    cases nothing
    simp
  rcases proof with ⟨-, none_⟩ | ⟨-, allowed, proof⟩
  · exact empty none_
  · rcases proof with ⟨-, -, none_ | absent⟩ | ⟨-, none_⟩ | ⟨-, -, -, none_⟩
    · exact empty none_
    · have settles := (sound.operator absent).1
      rcases (sound.operatorAbsence_of_allowed allowed settles).2 with none_ | foreign
      · rw [listed, Option.all_some, List.isEmpty_iff] at none_
        simp [none_]
      · obtain ⟨row, ticket, only, -, named, apart⟩ :=
          IntentEvidence.foreignReceipt_spec foreign
        rw [listed] at only
        cases only
        intro other among
        rw [List.mem_singleton] at among
        rw [among]
        exact closerLaunchMatches_of_ticket named apart
    · exact empty none_
    · exact empty none_

theorem noReceipt (proves : evidence.provesAbsence = true) :
    ∀ lookup ∈ seen.lookups, lookedUp lookup.2 = true →
      ∀ rows, answeredRows lookup.2 = some rows → ∀ row ∈ rows,
        closerLaunchMatches evidence.record (some row) ≠ .ok true := by
  intro lookup listed answered rows given
  rcases sound.lookups lookup listed answered with own | ⟨keyed, settles, ticket⟩
  · exact sound.harmless proves (own.symm.trans given)
  · -- The operator's lookup of the whole ticket has to be empty too.
    obtain ⟨-, -, proof⟩ := IntentEvidence.provesAbsence_cases proves
    rcases proof with ⟨old, -⟩ | ⟨-, allowed, -⟩
    · rw [keyed] at old
      cases old
    · have nothing := ticket (sound.operatorAbsence_of_allowed allowed settles).1
      rw [given] at nothing
      cases nothing
      simp

theorem misattributed (wrong : evidence.misattributedLease = true) {held : CloserLease}
    (owned : evidence.lease = some held) : Misattributed call seen evidence.record held := by
  simp only [IntentEvidence.misattributedLease, IntentEvidence.leaseLaunch, owned,
    Option.bind_some, Bool.and_eq_true] at wrong
  obtain ⟨⟨⟨⟨⟨-, absent⟩, promoted⟩, named⟩, received⟩, foreign⟩ := wrong
  obtain ⟨row, ticket, only, receipt, field, apart⟩ := IntentEvidence.foreignReceipt_spec foreign
  have keyed : evidence.legacy = false := by
    simp only [IntentEvidence.promotedLease, Bool.and_eq_true, Bool.not_eq_true'] at promoted
    exact promoted.1.1
  have answered := sound.rows _ only
  rw [keyed, if_neg (by simp)] at answered
  rw [receipt] at received
  exact ⟨sound.ticketEmpty absent, named, row, ticket, answered, received, field, apart⟩

theorem launch (proves : evidence.provesAbsence = true)
    {held : CloserLease} (owned : evidence.lease = some held)
    (carried : Json.truthy (held.get? "lrqId") = true) :
    Misattributed call seen evidence.record held := by
  obtain ⟨own, -, proof⟩ := IntentEvidence.provesAbsence_cases proves
  have unlaunched (bare : Json.truthy (held.get? "lrqId") = false) : False := by
    rw [carried] at bare
    cases bare
  have waits (pending_ : held.pendingUnlaunched = true) : False :=
    unlaunched (IntentEvidence.unlaunched_of_pending pending_)
  have alive (dead : evidence.localDead = true) : False := by
    obtain ⟨other, same, holder⟩ := sound.dead dead
    rw [owned] at same
    cases same
    exact waits holder.1
  have settles (settled : evidence.settledNoLaunch = true) : False :=
    unlaunched (IntentEvidence.unlaunched_of_deferred
      (IntentEvidence.unlaunched_of_settled settled owned))
  -- Only a promoted lease that is no foreign one can carry a launch.
  have promoted : evidence.promotedLease = true := by
    simp only [IntentEvidence.foreignLease, owned, Option.isSome_some, Bool.true_and,
      Bool.and_eq_false_iff, Bool.not_eq_false', Bool.and_eq_true] at own
    rcases own with ((waiting | dead) | settled) | promoted
    · simp only [IntentEvidence.matchingPendingLease, owned, Option.any_some,
        Bool.and_eq_true] at waiting
      exact (waits waiting.2).elim
    · exact (alive dead.2).elim
    · exact (settles settled).elim
    · exact promoted
  rcases proof with ⟨old, -⟩ | ⟨-, -, proof⟩
  · simp only [IntentEvidence.promotedLease, old, Bool.not_true, Bool.false_and] at promoted
    cases promoted
  · rcases proof with ⟨bare | wrong, -⟩ | ⟨gone, -⟩ | ⟨-, dead | settled, -⟩
    · rw [promoted] at bare
      cases bare
    · exact sound.misattributed wrong owned
    · have probed : evidence.processes.isSome = true := by
        simp only [IntentEvidence.deadSubmitter, Option.any_eq_true] at gone
        obtain ⟨probe, some_, -⟩ := gone
        simp [some_]
      exact (unlaunched (IntentEvidence.unlaunched_of_canProbe (sound.probed probed).2
        owned)).elim
    · exact (alive dead).elim
    · exact (settles settled).elim

theorem negative (proves : evidence.provesAbsence = true) :
    NegativeProof call seen evidence.record evidence.lease := by
  obtain ⟨-, -, proof⟩ := IntentEvidence.provesAbsence_cases proves
  have answered (none_ : evidence.noRows = true) :=
    sound.rows [] (IntentEvidence.rows_of_noRows none_)
  rcases proof with ⟨old, none_⟩ | ⟨keyed, -, proof⟩
  · have given := answered none_
    rw [if_pos old] at given
    simp only [IntentEvidence.legacy, Bool.not_eq_true'] at old
    exact .legacy old given
  · have key : Json.truthy (evidence.record.get? "dispatchIdempotencyKey") = true := by
      simpa only [IntentEvidence.legacy, Bool.not_eq_false'] using keyed
    rw [keyed, if_neg (by simp)] at answered
    rcases proof with ⟨-, passed, none_ | absent⟩ | ⟨gone, none_⟩ | ⟨-, ended, phase, none_⟩
    · exact .keyed key (answered none_) (.deadline (sound.deadlinePassed passed))
    · exact .operator (sound.ticketEmpty absent)
    · simp only [IntentEvidence.deadSubmitter, Option.any_eq_true] at gone
      obtain ⟨probe, some_, dead⟩ := gone
      rw [sound.processes] at some_
      exact .keyed key (answered none_) (.submitter probe some_ dead)
    · rcases ended with dead | settled
      · obtain ⟨held, owned, holder⟩ := sound.dead dead
        exact .keyed key (answered none_) (.prepared held owned phase (.inl holder))
      · have held : ∃ held, evidence.lease = some held := by
          cases owned : evidence.lease with
          | some held => exact ⟨held, rfl⟩
          | none => simp [IntentEvidence.settledNoLaunch, owned] at settled
        obtain ⟨held, owned⟩ := held
        exact .keyed key (answered none_) (.prepared held owned phase
          (.inr (IntentEvidence.unlaunched_of_settled settled owned)))

theorem absenceEvidence (proves : evidence.provesAbsence = true) :
    AbsenceEvidence call seen evidence.record evidence.lease where
  owned := by
    intro held owned
    obtain ⟨own, -, -⟩ := IntentEvidence.provesAbsence_cases proves
    have same := IntentEvidence.matchingLease_of_own own owned
    simpa only [IntentEvidence.matchingLease, owned, Option.bind_some] using same
  launch := fun held owned carried => sound.launch proves owned carried
  noneLive := by
    intro probe probed
    obtain ⟨-, quiet, -⟩ := IntentEvidence.provesAbsence_cases proves
    rw [sound.processes, probed, Option.any_some] at quiet
    exact quiet
  noReceipt := sound.noReceipt proves
  negative := sound.negative proves

end

end Sound

end

end AdversarialReview.Ama
