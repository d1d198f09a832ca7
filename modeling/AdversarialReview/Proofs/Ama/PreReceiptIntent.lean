import AdversarialReview.Proofs.Ama.IntentEvidence

/-! An interrupted closer launch is declared absent only on proof. -/

namespace AdversarialReview.Ama

theorem writes_kept {record next : Json} (kept : next.get? "state" = record.get? "state")
    (interrupted : isPreReceiptIntent (some record) = true) :
    Json.isText (next.get? "state") "no-dispatch" = false := by
  rw [kept]
  simp only [isPreReceiptIntent, isOneOf, Json.member, Option.bind_some, List.any_cons,
    List.any_nil, Bool.or_false, Bool.or_eq_true, Json.isText] at interrupted
  rcases interrupted with dispatching | stopped
  · simp [Json.isText, of_decide_eq_true dispatching]
  · simp [Json.isText, of_decide_eq_true stopped]

section

variable [JsText] [JsDate] [JsJson] [IntentEngine]

variable {α β : Type} {call : IntentCall} {seen : Seen}

abbrev ProvenRest (call : IntentCall) (ends : Except String α → Seen → Prop)
    (prog : IntentProg α) (seen : Seen) : Prop :=
  prog.Guarded (WrittenOnProof call) Seen.learn ends seen

abbrev Proven (call : IntentCall) (prog : IntentProg α) (seen : Seen) : Prop :=
  ProvenRest call (fun _ _ => True) prog seen

theorem proven_raise_bind {result : Except String α} {next : α → IntentProg β}
    {ends : Except String β → Seen → Prop} (thrown : ∀ message, ends (.error message) seen)
    (then_ : ∀ value, result = .ok value → ProvenRest call ends (next value) seen) :
    ProvenRest call ends ((Prog.raise result).bind next) seen := by
  cases result with
  | error message => exact thrown message
  | ok value => exact then_ value rfl

theorem proven_throwIfAborted_bind {next : Unit → IntentProg β}
    {ends : Except String β → Seen → Prop} (thrown : ∀ message, ends (.error message) seen)
    (then_ : ProvenRest call ends (next ()) seen) :
    ProvenRest call ends (throwIfAborted.bind next) seen := by
  refine ⟨trivial, fun answer => ?_⟩
  cases answer with
  | none => exact then_
  | some message => exact thrown message

theorem proven_onLease (prog : LeaseProg α) :
    ProvenRest call (fun _ after => after = seen) (onLease prog) seen := by
  induction prog with
  | pure value => rfl
  | fail message => rfl
  | step effect next ih => exact ⟨trivial, fun answer => ih answer⟩

theorem proven_unlessRaced {prog : IntentProg α} {view : Seen}
    (quiet : ProvenRest call (fun _ after => after = seen) prog view) :
    ProvenRest call (fun _ after => after = seen) (unlessRaced prog) view := by
  induction prog generalizing view with
  | pure value => exact quiet
  | fail message =>
    simp only [unlessRaced]
    split
    · exact quiet
    · exact quiet
  | step effect next ih => exact ⟨quiet.1, fun answer => ih answer (quiet.2 answer)⟩

theorem proven_quiet_bind {prog : IntentProg α} {next : α → IntentProg β}
    (quiet : ProvenRest call (fun _ after => after = seen) prog seen)
    (then_ : ∀ value, Proven call (next value) seen) : Proven call (prog.bind next) seen := by
  apply Prog.Guarded.bind quiet (fun _ _ _ => trivial)
  intro value view same
  rw [same]
  exact then_ value

def Seen.snapshot (seen : Seen) (bytes : String) (lease : Option CloserLease) : Seen :=
  { seen with
    records := seen.records ++ [.ok (some bytes)]
    leases := seen.leases ++ [.ok lease] }

theorem proven_snapshot_bind {bytes : String} {identity : LeaseIdentity}
    {lease : Option CloserLease} {next : Bool → IntentProg β}
    (changed : ∀ view, Proven call (next false) view) (then_ : ∀ now, sameLease now lease = true →
      Proven call (next true) (seen.snapshot bytes now)) :
    Proven call ((intentSnapshotMatches bytes identity lease).bind next) seen := by
  refine ⟨trivial, fun answer => ?_⟩
  cases answer with
  | error message => exact changed _
  | ok current =>
    by_cases same : current = some bytes
    · subst same
      simp only [Prog.pure_bind, Prog.bind_eq, Prog.perform_bind, ne_eq, not_true_eq_false,
        if_false]
      refine ⟨trivial, fun answer => ?_⟩
      cases answer with
      | error message => exact changed _
      | ok now =>
        change Proven call (next (sameLease now lease)) (seen.snapshot bytes now)
        cases matches_ : sameLease now lease with
        | false => exact changed _
        | true => exact then_ now matches_
    · simp only [Prog.pure_bind, ne_eq, same, not_false_eq_true, if_true]
      exact changed _

end

section

variable {call : IntentCall} {seen view : Seen} {query : Json}

def Tried (query : Json) (view : Seen) (answer : Option Json) (after : Seen) : Prop :=
  after = { view with lookups := view.lookups ++ [(query, answer)] } ∨
    (after = view ∧ answeredRows answer = none ∧ lookedUp answer = false)

/-- The tries so far were all to be repeated. -/
structure Retrying (seen view : Seen) : Prop where
  rest : view = { seen with lookups := view.lookups }
  tries : ∃ added, view.lookups = seen.lookups ++ added ∧
    ∀ lookup ∈ added, lookedUp lookup.2 = false

structure LookedUp (query : Json) (seen : Seen) (probe : LedgerProbe) (after : Seen) : Prop where
  rest : after = { seen with lookups := after.lookups }
  tries : ∃ added, after.lookups = seen.lookups ++ added ∧
    ∀ lookup ∈ added, lookedUp lookup.2 = true → lookup.2 = probe.answer
  found : ∀ rows, answeredRows probe.answer = some rows → after.Answered query rows

theorem Retrying.tried (retrying : Retrying seen view) {answer : Option Json} {after : Seen}
    (tried : Tried query view answer after) (again : lookedUp answer = false) :
    Retrying seen after := by
  obtain ⟨rest, added, listed, vain⟩ := retrying
  rcases tried with rfl | ⟨rfl, -, -⟩
  · constructor
    · rw [rest]
    · refine ⟨added ++ [(query, answer)], by simp [listed], fun lookup among => ?_⟩
      rcases List.mem_append.mp among with early | last
      · exact vain lookup early
      · rw [List.mem_singleton] at last
        rw [last]
        exact again
  · exact ⟨rest, added, listed, vain⟩

theorem Retrying.ended (retrying : Retrying seen view) {answer : Option Json} {after : Seen}
    (tried : Tried query view answer after) (attempts : List Json) :
    LookedUp query seen ⟨answer, attempts⟩ after := by
  obtain ⟨rest, added, listed, vain⟩ := retrying
  rcases tried with rfl | ⟨rfl, none_, -⟩
  · constructor
    · rw [rest]
    · refine ⟨added ++ [(query, answer)], by simp [listed], fun lookup among answered => ?_⟩
      rcases List.mem_append.mp among with early | last
      · rw [vain lookup early] at answered
        cases answered
      · rw [List.mem_singleton] at last
        rw [last]
    · intro rows given
      exact ⟨answer, by simp, given⟩
  · constructor
    · exact rest
    · refine ⟨added, listed, fun lookup among answered => ?_⟩
      rw [vain lookup among] at answered
      cases answered
    · intro rows given
      rw [none_] at given
      cases given

variable [JsText] [JsDate] [IntentEngine]

structure Unasked (call : IntentCall) (found : IntentEvidence) (seen : Seen) : Prop
    extends Sound call found seen where
  rowless : found.rows = none
  ticketless : found.operatorAbsence = false
  silent : seen.lookups = []

structure GatheredOn (call : IntentCall) (record : Json) (lease : Option CloserLease) (seen : Seen)
    (evidence : IntentEvidence) (after : Seen) : Prop where
  sound : Sound call evidence after
  record : evidence.record = record
  lease : evidence.lease = lease
  records : after.records = seen.records
  leases : after.leases = seen.leases
  pullRequest : after.pullRequest = seen.pullRequest

theorem Sound.asked {found : IntentEvidence} (sound : Sound call found seen) {after : Seen}
    (rest : after = { seen with lookups := after.lookups }) {rows : Option (List Json)}
    {operatorAbsence : Bool} {written : Json} (listed : ∀ given, rows = some given → after.Answered
      (if found.legacy then IntentEvidence.ticketQuery found.record call.timeoutMs
        else IntentEvidence.keyQuery found.record call.timeoutMs) given)
    (operator : operatorAbsence = true → call.operatorSettlement = true ∧
      found.deadline.passed = true ∧
        after.Answered (IntentEvidence.ticketQuery found.record call.timeoutMs) [])
    (lookups : ∀ lookup ∈ after.lookups, lookedUp lookup.2 = true →
      answeredRows lookup.2 = rows ∨ (found.legacy = false ∧ call.operatorSettlement = true ∧
        (operatorAbsence = true → answeredRows lookup.2 = some []))) :
    Sound call { found with rows, operatorAbsence, query := written } after where
  settlement := sound.settlement
  pr := by
    rw [rest]
    exact sound.pr
  now := by
    rw [rest]
    exact sound.now
  deadline := sound.deadline
  dead := by
    rw [rest]
    exact sound.dead
  processes := by
    rw [rest]
    exact sound.processes
  probed := sound.probed
  rows := listed
  operator := operator
  lookups := lookups

variable [JsJson]

theorem proven_tryLookup :
    ProvenRest call (fun result after => ∀ answer, result = .ok answer →
      Tried query view answer after) (tryLookup query) view := by
  apply proven_throwIfAborted_bind
  · intro message answer failed
    cases failed
  · refine ⟨trivial, fun answer => ?_⟩
    cases answer with
    | ok answer =>
      intro given same
      cases same
      exact .inl rfl
    | error fault =>
      apply proven_throwIfAborted_bind
      · intro message answer failed
        cases failed
      · intro given same
        cases same
        -- A throw is not an answer of the ledger.
        exact .inr ⟨rfl, rfl, rfl⟩

theorem proven_lookupFrom (earlier : List Json) (left : Nat) (retrying : Retrying seen view) :
    ProvenRest call (fun result after => ∀ probe, result = .ok probe →
      LookedUp query seen probe after) (lookupFrom query earlier left) view := by
  have failed {after : Seen} (message : String) : ∀ probe : LedgerProbe,
      (Except.error message : Except String LedgerProbe) = .ok probe →
        LookedUp query seen probe after := by
    intro probe same
    cases same
  induction left generalizing earlier view with
  | zero =>
    apply Prog.Guarded.bind proven_tryLookup (fun message after _ => failed message)
    intro answer after tried probe same
    cases same
    exact retrying.ended (tried answer rfl) _
  | succ left ih =>
    apply Prog.Guarded.bind proven_tryLookup (fun message after _ => failed message)
    intro answer after tried
    by_cases over_ : (lookedUp answer || !Json.truthy (Json.member answer "transient")) = true
    · simp only [over_, if_true]
      intro probe same
      cases same
      exact retrying.ended (tried answer rfl) _
    · simp only [over_]
      have again : lookedUp answer = false := by
        simp only [Bool.or_eq_true, not_or, Bool.not_eq_true] at over_
        exact over_.1
      refine ⟨trivial, fun done => ?_⟩
      cases done with
      | error message => exact failed message
      | ok done => exact ih _ (retrying.tried (tried answer rfl) again)

theorem proven_lookupReceipt :
    ProvenRest call (fun result after => ∀ probe, result = .ok probe →
      LookedUp query seen probe after) (lookupReceipt query) seen :=
  proven_lookupFrom [] 2 ⟨rfl, [], by simp⟩

theorem proven_lookUpEvidence {found : IntentEvidence} (unasked : Unasked call found seen) :
    ProvenRest call (fun result after => ∀ evidence, result = .ok evidence →
      GatheredOn call found.record found.lease seen evidence after)
      (lookUpEvidence call found) seen := by
  have sound := unasked.toSound
  unfold lookUpEvidence
  by_cases foreign : found.foreignLease = true
  · simp only [foreign, if_true]
    intro evidence same
    cases same
    refine ⟨?_, rfl, rfl, rfl, rfl, rfl⟩
    have listed := sound.rows
    exact sound.asked rfl listed sound.operator sound.lookups
  · simp only [foreign]
    apply Prog.Guarded.bind proven_lookupReceipt
    · intro message after _ evidence same
      cases same
    intro probe after looked
    have first := looked probe rfl
    obtain ⟨added, grown, answers⟩ := first.tries
    rw [unasked.silent, List.nil_append] at grown
    by_cases asks : (!found.legacy && call.operatorSettlement && found.deadline.passed) = true
    · simp only [asks, if_true]
      simp only [Bool.and_eq_true, Bool.not_eq_true'] at asks
      obtain ⟨⟨keyed, settles⟩, passed⟩ := asks
      apply Prog.Guarded.bind proven_lookupReceipt
      · intro message after _ evidence same
        cases same
      intro ticketProbe last looked evidence same
      cases same
      have second := looked ticketProbe rfl
      obtain ⟨more, regrown, ticketAnswers⟩ := second.tries
      have rest : last = { seen with lookups := last.lookups } := by
        rw [second.rest, first.rest]
      have kept : after.lookups ⊆ last.lookups := by
        rw [regrown]
        exact List.subset_append_left _ _
      refine ⟨?_, rfl, rfl, by rw [rest], by rw [rest], by rw [rest]⟩
      apply sound.asked rest
      · intro given listed
        obtain ⟨answer, among, rows⟩ := first.found given listed
        exact ⟨answer, kept among, rows⟩
      · intro empty
        refine ⟨settles, passed, ?_⟩
        simp only [Option.any_eq_true, List.isEmpty_iff] at empty
        obtain ⟨rows, given, rfl⟩ := empty
        exact second.found [] given
      · intro lookup among answered
        rw [regrown, grown] at among
        rcases List.mem_append.mp among with early | late
        · exact .inl (congrArg answeredRows (answers lookup early answered))
        · -- The ticket's answer decides whether the operator may settle.
          refine .inr ⟨keyed, settles, fun empty => ?_⟩
          rw [ticketAnswers lookup late answered]
          simp only [Option.any_eq_true, List.isEmpty_iff] at empty
          obtain ⟨rows, given, rfl⟩ := empty
          exact given
    · simp only [asks]
      intro evidence same
      cases same
      refine ⟨?_, rfl, rfl, by rw [first.rest], by rw [first.rest], by rw [first.rest]⟩
      apply sound.asked first.rest first.found
      · intro empty
        rw [unasked.ticketless] at empty
        cases empty
      · intro lookup among answered
        rw [grown] at among
        exact .inl (congrArg answeredRows (answers lookup among answered))

end

theorem json_get?_set_of_ne (value : Json) {key other : String} (apart : key ≠ other)
    (written : Json) : (value.set key written).get? other = value.get? other := by
  cases value with
  | obj members => exact CloserLease.get?_set_of_ne ⟨members⟩ apart written
  | _ => rfl

theorem json_get?_set_self (value : Json) (key : String) (written : Json) :
    (value.set key written).get? key = some written ∨ (value.set key written).get? key = none := by
  cases value with
  | obj members => exact .inl (CloserLease.get?_set_self ⟨members⟩ key written)
  | _ => exact .inr rfl

section

variable [JsText] [JsDate] [JsJson] [IntentEngine]

variable {call : IntentCall} {seen : Seen}

/-- What the process of a pending lease was found to be. -/
def HolderSeen (call : IntentCall) (lease : Option CloserLease) (seen : Seen) (dead : Bool)
    (after : Seen) : Prop :=
  after = { seen with alive := after.alive } ∧
    (dead = true → ∃ held, lease = some held ∧ HolderDead call after held)

theorem proven_holderGone {lease : Option CloserLease} :
    ProvenRest call (fun result after => ∀ dead, result = .ok dead →
      HolderSeen call lease seen dead after) (holderGone call lease) seen := by
  cases lease with
  | none =>
    intro dead same
    cases same
    exact ⟨rfl, by simp⟩
  | some held =>
    by_cases asks : (held.pendingUnlaunched && held.isLocal call.hostname) = true
    · simp only [holderGone, asks, if_true]
      refine ⟨trivial, fun answer => ?_⟩
      intro dead same
      cases same
      simp only [Bool.and_eq_true] at asks
      exact ⟨rfl, fun gone => ⟨held, rfl, asks.1, asks.2, of_decide_eq_true gone⟩⟩
    · simp only [holderGone, asks]
      intro dead same
      cases same
      exact ⟨rfl, by simp⟩

def ProcessesSeen (found : IntentEvidence) (seen : Seen) (processes : Option SubmitterProbe)
    (after : Seen) : Prop :=
  after = { seen with processes := processes } ∧
    (processes.isSome = true → found.legacy = false ∧ found.canProbeSubmitter = true)

theorem proven_submitterProcesses {found : IntentEvidence} (unprobed : seen.processes = none) :
    ProvenRest call (fun result after => ∀ processes, result = .ok processes →
      ProcessesSeen found seen processes after) (submitterProcesses found) seen := by
  have bare : ∀ processes : Option SubmitterProbe,
      (Except.ok none : Except String (Option SubmitterProbe)) = .ok processes →
        ProcessesSeen found seen processes seen := by
    intro processes same
    cases same
    constructor
    · rw [← unprobed]
    · simp
  unfold submitterProcesses
  split
  · exact bare
  · split
    · rename_i probes
      refine ⟨trivial, fun answer => ?_⟩
      intro processes same
      cases same
      simp only [Bool.and_eq_true, Bool.not_eq_true'] at probes
      exact ⟨rfl, fun _ => probes⟩
    · exact bare

theorem proven_gatherEvidence {record : Json} {lease : Option CloserLease} {now : String}
    (known : call.now.or seen.clock = some now) (unprobed : seen.processes = none)
    (silent : seen.lookups = []) :
    ProvenRest call (fun result after => ∀ evidence, result = .ok evidence →
      GatheredOn call record lease seen evidence after)
      (gatherEvidence call record lease now (seen.pr call)) seen := by
  have failed {after : Seen} (message : String) : ∀ evidence : IntentEvidence,
      (Except.error message : Except String IntentEvidence) = .ok evidence →
        GatheredOn call record lease seen evidence after := by
    intro evidence same
    cases same
  apply Prog.Guarded.bind proven_holderGone (fun message after _ => failed message)
  intro dead after asked
  obtain ⟨rest, holder⟩ := asked dead rfl
  apply proven_raise_bind (fun message => failed message)
  intro deadline due
  apply proven_raise_bind (fun message => failed message)
  intro started begun
  apply Prog.Guarded.bind (proven_submitterProcesses (by rw [rest, unprobed]))
    (fun message last _ => failed message)
  intro processes last probed
  obtain ⟨same, probes⟩ := probed processes rfl
  have whole : last = { seen with alive := after.alive, processes := processes } := by
    rw [same, rest]
  have unasked : Unasked call
      { knownEvidence call record lease now (seen.pr call) dead deadline started with
        processes := processes } last :=
    { settlement := rfl
      pr := by rw [whole]; rfl
      now := by rw [whole]; exact known
      deadline := due
      dead := by
        intro gone
        obtain ⟨held, owned, waits, near, dead⟩ := holder gone
        exact ⟨held, owned, waits, near, by rw [whole]; exact dead⟩
      processes := by rw [whole]
      probed := probes
      rows := by simp [knownEvidence]
      operator := by simp [knownEvidence]
      lookups := by rw [whole, silent]; simp
      rowless := rfl
      ticketless := rfl
      silent := by rw [whole]; exact silent }
  apply (proven_lookUpEvidence unasked).mono
  intro result final gathered evidence same
  have found := gathered evidence same
  exact ⟨found.sound, found.record, found.lease, by rw [found.records, whole],
    by rw [found.leases, whole], by rw [found.pullRequest, whole]⟩

theorem proven_writeSettled {record : Json} {next : Option Json} {status : String} {noted : Json}
    (allowed : ∀ written, next = some written →
      WrittenOnProof call (.writeRecord written) seen) :
    Proven call (writeSettled call record next status noted) seen := by
  unfold writeSettled
  cases next with
  | none => trivial
  | some written =>
    by_cases dry : call.dryRun = true
    · simp only [dry]
      trivial
    · simp only [dry]
      refine ⟨allowed written rfl, fun answer => ?_⟩
      cases answer <;> trivial

theorem proven_alertAndWrite {evidence : IntentEvidence} {bytes : String}
    {identity : LeaseIdentity} {next : Option Json} {status : String} {noted : Json}
    (kept : ∀ written : Json, written.get? "state" = (next.getD evidence.record).get? "state" →
      Json.isText (written.get? "state") "no-dispatch" = false) :
    Proven call (alertAndWrite call evidence bytes identity next status noted) seen := by
  have allowed {view : Seen} {settled : Option Json} (same : ∀ written : Json,
      settled = some written →
      written.get? "state" = (next.getD evidence.record).get? "state") :
      ∀ written, settled = some written → WrittenOnProof call (.writeRecord written) view := by
    intro written given absent
    rw [kept written (same written given)] at absent
    cases absent
  have own : ∀ written : Json, next = some written →
      written.get? "state" = (next.getD evidence.record).get? "state" := by
    intro written given
    rw [given, Option.getD_some]
  simp only [alertAndWrite]
  split
  · refine ⟨trivial, fun alerted => ?_⟩
    apply proven_snapshot_bind
    · exact fun view => trivial
    · intro now same
      apply proven_writeSettled
      apply allowed
      intro written given
      -- The page adds when it was sent, and leaves the state.
      cases alerted with
      | error message => exact own written given
      | ok done =>
        cases given
        exact json_get?_set_of_ne _ (by decide) _
  · exact proven_writeSettled (allowed own)

end

theorem isText_status_set (value : Json) (first : List (String × Json)) {status other : String}
    (apart : status ≠ other) :
    Json.isText (Json.member ((value.set "preReceiptReconciliation"
      (.obj (("status", .str status) :: first))).get? "preReceiptReconciliation") "status")
        other = false := by
  rcases json_get?_set_self value "preReceiptReconciliation"
    (.obj (("status", .str status) :: first)) with read | read
  · rw [read]
    simp [Json.member, Json.get?, Json.isText, Json.text?, apart]
  · simp [read, Json.member, Json.isText]

theorem recoveredRecord_state (evidence : IntentEvidence) (noted : Json) :
    Json.isText ((evidence.recoveredRecord noted).get? "state") "no-dispatch" = false := by
  simp only [IntentEvidence.recoveredRecord]
  rw [json_get?_set_of_ne _ (by decide), json_get?_set_of_ne _ (by decide),
    json_get?_set_of_ne _ (by decide), json_get?_set_of_ne _ (by decide),
    json_get?_set_of_ne _ (by decide), json_get?_set_of_ne _ (by decide),
    json_get?_set_of_ne _ (by decide)]
  rcases json_get?_set_self evidence.record "state" (.str dispatched) with read | read
  · rw [read]
    simp [Json.isText, Json.text?, dispatched]
  · rw [read]
    rfl

section

variable [JsText] [JsDate] [JsJson] [IntentEngine]

variable {call : IntentCall} {seen : Seen} {evidence : IntentEvidence} {bytes : String}
  {identity : LeaseIdentity} {noted : Json}

theorem proven_settled_absence [RepositoryNames]
    (proven : ∃ record lease, AbsenceProven call seen record lease) :
    Proven call (alertAndWrite call evidence bytes identity (some (evidence.absentRecord noted))
      "no-launch" noted) seen := by
  have unpaged : Json.isText (Json.member ((evidence.absentRecord noted).get?
      "preReceiptReconciliation") "status") "inspection-required" = false :=
    isText_status_set _ _ (by decide)
  simp only [alertAndWrite, Option.getD_some, unpaged, Bool.and_false, Bool.false_and,
    Bool.false_eq_true, if_false]
  exact proven_writeSettled fun _ _ _ => proven

theorem proven_settleAbsence [RepositoryNames]
    (proven : ∃ record lease, AbsenceProven call seen record lease) :
    Proven call (settleAbsence call evidence bytes identity noted) seen := by
  have settled := @proven_settled_absence _ _ _ _ call seen evidence bytes identity noted _ proven
  simp only [settleAbsence]
  split
  · exact settled
  · refine ⟨trivial, fun answer => ?_⟩
    cases answer with
    | error message => trivial
    | ok done =>
      simp only [Prog.raise_ok, Prog.pure_bind]
      split
      · exact settled
      · split
        · apply proven_quiet_bind (proven_onLease _)
          intro deleted
          split
          · exact settled
          · trivial
        · apply proven_quiet_bind (proven_unlessRaced (proven_onLease _))
          intro updated
          cases updated with
          | none => trivial
          | some lease => exact settled

theorem proven_recoverReceipt [RepositoryNames] :
    Proven call (recoverReceipt call evidence bytes identity noted) seen := by
  have settled : Proven call (alertAndWrite call evidence bytes identity
      (some (evidence.recoveredRecord noted)) "receipt-recovered" noted) seen := by
    apply proven_alertAndWrite
    intro written same
    rw [same, Option.getD_some]
    exact recoveredRecord_state _ _
  simp only [recoverReceipt]
  split
  · split
    · apply proven_quiet_bind (proven_unlessRaced (proven_onLease _))
      intro updated
      cases updated with
      | none => trivial
      | some lease => exact settled
    · exact settled
  · exact settled

theorem proven_chargeRetry {recoverable : Bool} :
    ProvenRest call (fun _ after => after = seen) (chargeRetry call evidence recoverable) seen := by
  unfold chargeRetry
  split
  · exact ⟨trivial, fun _ => rfl⟩
  · rfl

theorem proven_settleIntent [RepositoryNames]
    (interrupted : isPreReceiptIntent (some evidence.record) = true)
    (proven : evidence.provesAbsence = true → isOpenPullRequest evidence.pr = true →
      ∃ record lease, AbsenceProven call seen record lease) :
    Proven call (settleIntent call evidence bytes identity) seen := by
  apply proven_raise_bind (fun _ => trivial)
  intro matching decided
  simp only []
  split
  · trivial
  apply proven_quiet_bind proven_chargeRetry
  intro budgetUnreadable
  split
  · trivial
  split
  · exact proven_recoverReceipt
  split
  · rename_i closed unrecovered proves
    apply proven_settleAbsence
    apply proven proves
    -- A receipt that is not recovered needs an open pull request.
    by_contra shut
    simp only [Bool.not_eq_true] at shut
    simp only [shut, Bool.not_false, Bool.and_true, Bool.or_eq_true, Bool.not_eq_true'] at closed
    simp only [Bool.and_eq_true, Bool.not_eq_true'] at unrecovered
    rcases h : evidence.recoverable matching with _ | _
    · exact closed (.inl h)
    · exact unrecovered ⟨h, by simpa using fun charged => closed (.inr charged)⟩
  · apply proven_raise_bind (fun _ => trivial)
    intro repeated _
    apply proven_alertAndWrite
    intro written same
    apply writes_kept _ interrupted
    rw [same]
    split
    · rfl
    · exact json_get?_set_of_ne _ (by decide) _

end

theorem retiredRecord_state (record : Json) (now : String) :
    Json.isText ((retiredRecord record now).get? "state") "no-dispatch" = false := by
  simp only [retiredRecord]
  rw [json_get?_set_of_ne _ (by decide), json_get?_set_of_ne _ (by decide)]
  rcases json_get?_set_self record "state" (.str "completed") with read | read
  · rw [read]
    simp [Json.isText, Json.text?]
  · rw [read]
    rfl

section

variable [JsText] [JsDate] [IntentEngine] {call : IntentCall} {seen : Seen}

theorem Sound.snapshot {evidence : IntentEvidence} (sound : Sound call evidence seen)
    (bytes : String) (lease : Option CloserLease) :
    Sound call evidence (seen.snapshot bytes lease) where
  settlement := sound.settlement
  pr := sound.pr
  now := sound.now
  deadline := sound.deadline
  dead := sound.dead
  processes := sound.processes
  probed := sound.probed
  rows := sound.rows
  operator := sound.operator
  lookups := sound.lookups

variable [JsJson]

theorem proven_nowOf :
    ProvenRest call (fun result after => ∀ now, result = .ok now →
      call.now.or after.clock = some now ∧ after = { seen with clock := after.clock })
      (nowOf call) seen := by
  unfold nowOf
  cases named : call.now with
  | some now =>
    intro given same
    cases same
    exact ⟨by simp, rfl⟩
  | none =>
    refine ⟨trivial, fun answer => ?_⟩
    intro given same
    cases same
    exact ⟨by simp [Seen.learn], rfl⟩

theorem proven_pullRequestOf (unread : seen.pullRequest = none) :
    ProvenRest call (fun result after => ∀ pr, result = .ok pr →
      pr = after.pr call ∧ after = { seen with pullRequest := after.pullRequest })
      (pullRequestOf call) seen := by
  unfold pullRequestOf
  by_cases known : Json.truthy call.prMetadata = true
  · simp only [known, if_true]
    intro given same
    cases same
    exact ⟨by simp [Seen.pr, known], rfl⟩
  · simp only [known]
    refine ⟨trivial, fun answer => ?_⟩
    cases answer with
    | error message =>
      intro given same
      cases same
      exact ⟨by simp [Seen.pr, known, Seen.learn, unread, Except.toOption], rfl⟩
    | ok answer =>
      intro given same
      cases same
      exact ⟨by simp [Seen.pr, known, Seen.learn, Except.toOption], rfl⟩

variable [RepositoryNames]

theorem proven_reconcileIntent {bytes : String} {record : Json} {identity : LeaseIdentity}
    {lease : Option CloserLease} (parsed : IntentEngine.parse bytes = .ok record)
    (interrupted : isPreReceiptIntent (some record) = true) :
    Proven call (reconcileIntent call bytes record identity lease)
      { records := [.ok (some bytes)], leases := [.ok lease] } := by
  apply Prog.Guarded.bind proven_nowOf (fun _ _ _ => trivial)
  intro now first named
  obtain ⟨known, clocked⟩ := named now rfl
  apply Prog.Guarded.bind (proven_pullRequestOf (by rw [clocked])) (fun _ _ _ => trivial)
  intro pr second found
  obtain ⟨rfl, read⟩ := found pr rfl
  apply proven_throwIfAborted_bind (fun _ => trivial)
  apply proven_snapshot_bind
  · exact fun _ => trivial
  intro once sameOnce
  simp only [if_true]
  split
  · split
    · trivial
    · split
      · refine ⟨?_, fun answer => ?_⟩
        · intro absent
          rw [retiredRecord_state] at absent
          cases absent
        · cases answer <;> trivial
      · trivial
  rename_i going
  have open_ : isTerminalCloserPullRequest (second.pr call) = false := by simpa using going
  have gathers : ProvenRest call (fun result after => ∀ evidence, result = .ok evidence →
      GatheredOn call record lease (second.snapshot bytes once) evidence after)
        (gatherEvidence call record lease now (second.pr call)) (second.snapshot bytes once) := by
    apply proven_gatherEvidence
    · rw [read]
      exact known
    · rw [read, clocked]
      rfl
    · rw [read, clocked]
      rfl
  apply Prog.Guarded.bind gathers (fun _ _ _ => trivial)
  intro evidence third gathered
  have sound := gathered evidence rfl
  apply proven_snapshot_bind
  · exact fun _ => trivial
  intro twice sameTwice
  simp only [if_true]
  apply proven_throwIfAborted_bind (fun _ => trivial)
  apply proven_settleIntent
  · rw [sound.record]
    exact interrupted
  · intro proves opened
    -- Both snapshots were compared with what was read first.
    have records : third.records = List.replicate 2 (.ok (some bytes)) := by
      rw [sound.records, Seen.snapshot, read, clocked]
      rfl
    have leases : third.leases = [.ok lease, .ok once] := by
      rw [sound.leases, Seen.snapshot, read, clocked]
      rfl
    have held := sound.lease
    have given := sound.record
    have resting := sound.sound.snapshot bytes twice
    have seenOpen := resting.pr
    rw [← given] at parsed
    rw [← held] at sameOnce sameTwice leases
    refine ⟨evidence.record, evidence.lease, resting.absenceEvidence proves, ?_, ?_, ?_⟩
    · refine ⟨bytes, parsed, ?_⟩
      rw [Seen.snapshot, records]
      rfl
    · refine ⟨once, twice, ?_, sameOnce, sameTwice⟩
      rw [Seen.snapshot, leases]
      rfl
    · have same : third.pr call = second.pr call := by
        simp only [Seen.pr, sound.pullRequest, Seen.snapshot]
      rw [← seenOpen]
      refine ⟨opened, ?_⟩
      rw [sound.sound.pr, same]
      exact open_

theorem proven_reconcileLocked : Proven call (reconcileLocked call) {} := by
  refine ⟨trivial, fun answer => ?_⟩
  cases answer with
  | error message => trivial
  | ok found =>
    cases found with
    | none => trivial
    | some bytes =>
      simp only [Prog.raise_ok, Prog.pure_bind]
      split
      · trivial
      apply proven_raise_bind (fun _ => trivial)
      intro record parsed
      split
      · trivial
      rename_i interrupted
      split
      · trivial
      refine ⟨trivial, fun answer => ?_⟩
      cases answer with
      | error message => trivial
      | ok lease =>
        simp only [Prog.pure_bind]
        split
        · exact proven_reconcileIntent parsed (by simpa using interrupted)
        · trivial

/-- Whatever a reconciliation is answered at any of its steps, it writes a record as never
dispatched only on proof. -/
theorem absent_only_on_proof :
    (reconcilePreReceiptIntent call).Guarded (WrittenOnProof call) Seen.learn
      (fun _ _ => True) {} := by
  refine ⟨trivial, fun locked => ?_⟩
  cases locked with
  | error message => trivial
  | ok locked =>
    simp only [Prog.raise_ok, Prog.pure_bind]
    split
    · exact proven_reconcileLocked.finally_ fun _ => ⟨trivial, fun _ => trivial⟩
    · trivial

end

end AdversarialReview.Ama
