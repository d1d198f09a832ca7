import Mathlib.Data.List.Perm.Subperm
import Mathlib.Data.Set.Function
import AdversarialReview.Proofs.Finalization.AdmissionBooks
import AdversarialReview.Ama.HammerAdjudication
import AdversarialReview.Library.JsNumber

/-! Submissions are admitted once, and accepted evidence disposes of each listed finding once. -/

namespace AdversarialReview

open Transaction Json

theorem Handoff.of_body {body : Json} {handoff : Handoff} (made : Handoff.of body = .ok handoff) :
    handoff.body = body := by
  unfold Handoff.of at made
  split at made
  · cases made
    rfl
  · cases made

theorem closer_of_handoff {input : Json} {handoff : Handoff}
    (normalized : normalizeQueueHandoff input = .ok handoff) :
    handoff.body.get? "closer" ≠ none := by
  obtain ⟨body, -, normalized⟩ := ok_of_bind normalized
  obtain ⟨made, stated, normalized⟩ := ok_of_bind normalized
  obtain ⟨_, checked, normalized⟩ := ok_of_bind normalized
  obtain ⟨_, identities, -⟩ := ok_of_bind checked
  cases normalized
  rw [Handoff.of_body stated]
  intro absent
  -- Without a closer there is no closer's identity.
  have unnamed : statesIdentity (body.get? "closer") = false := by
    rw [absent]
    decide
  rw [unnamed, Bool.and_false] at identities
  cases identities

theorem closer_of_cleanReview {input : Json} {review : Handoff}
    (normalized : normalizeCleanReview input = .ok review) :
    review.body.get? "closer" = none := by
  unfold normalizeCleanReview at normalized
  split at normalized
  · cases normalized
  · obtain ⟨body, -, normalized⟩ := ok_of_bind normalized
    obtain ⟨made, -, normalized⟩ := ok_of_bind normalized
    obtain ⟨-, -, normalized⟩ := ok_of_bind normalized
    split at normalized
    · cases normalized
    · rw [Handoff.of_body normalized]
      exact get?_erase_of_none (get?_erase_self body "closer") "dispositions"

section

variable [HandoffDigest] [JsDate] [FencedEvidence]

/-- What an accepted submission leaves behind. -/
def AckStands (payload : Handoff) (db : AdmissionDb) : Acknowledgement → Prop
  | .handoff ack => HandoffStands payload ack db ∧ payload.body.get? "closer" ≠ none
  | .cleanReview entry => CleanReviewStands payload entry db ∧ payload.body.get? "closer" = none

variable {ack : Acknowledgement}

omit [JsDate] [FencedEvidence] in
theorem AckStands.grows {payload : Handoff} {db later : AdmissionDb}
    (stands : AckStands payload db ack) (grown : Grows db later) :
    AckStands payload later ack := by
  cases ack with
  | handoff ack =>
    obtain ⟨⟨row, listed, agrees⟩, closed⟩ := stands
    exact ⟨⟨row, grown.handoffs row listed, agrees⟩, closed⟩
  | cleanReview entry =>
    obtain ⟨⟨stored, describes, row, listed, named⟩, open_⟩ := stands
    exact ⟨⟨grown.entries entry stored, describes, row, grown.cleanReviews row listed, named⟩,
      open_⟩

variable {db : AdmissionDb}

omit [JsDate] in
theorem AdmissionBooks.entryOf (books : AdmissionBooks db) {payload : Handoff}
    (stands : AckStands payload db ack) :
    ∃ entry ∈ db.queue.entries, Stands payload entry := by
  cases ack with
  | handoff ack =>
    obtain ⟨⟨row, listed, -, key, named, digest⟩, -⟩ := stands
    obtain ⟨entry, kept⟩ := books.handoffs row listed
    have agrees := kept.consistent
    simp only [HandoffRow.consistent, Bool.and_eq_true, decide_eq_true_eq] at agrees
    refine ⟨entry, kept.stored, kept.key.trans key, kept.handoffId.trans named, ?_⟩
    rw [agrees.1.1.2, digest]
  | cleanReview entry => exact ⟨entry, stands.1.1, stands.1.2.1⟩

omit [HandoffDigest] in
theorem prepareHandoff_normalizes {args : HandoffInput} {host : Host} {handoff : Handoff}
    (prepared : prepareHandoff args host = .ok handoff) :
    normalizeQueueHandoff args.input = .ok handoff := by
  obtain ⟨normal, normalized, prepared⟩ := ok_of_bind prepared
  obtain ⟨-, -, prepared⟩ := ok_of_bind prepared
  obtain ⟨now, -, prepared⟩ := ok_of_bind prepared
  obtain ⟨waitMs, -, prepared⟩ := ok_of_bind prepared
  split at prepared
  · cases prepared
  · cases prepared
    exact normalized

omit [HandoffDigest] [JsDate] in
theorem prepareCleanReview_normalizes {args : CleanReviewInput} {review : Handoff}
    (prepared : prepareCleanReview args = .ok review) :
    normalizeCleanReview args.input = .ok review := by
  obtain ⟨normal, normalized, prepared⟩ := ok_of_bind prepared
  obtain ⟨-, -, prepared⟩ := ok_of_bind prepared
  cases prepared
  exact normalized

theorem commit_commits (books : AdmissionBooks db) (submission : Submission) (host : Host) :
    submission.commit.Commits host db fun ack later =>
      AdmissionBooks later ∧ Grows db later ∧
        ∃ payload, submission.payload = .ok payload ∧ AckStands payload later ack := by
  cases submission with
  | handoff args =>
    simp only [Submission.commit, commits_bind, commits_pure]
    refine (commitHandoff_commits books args host).mono ?_
    rintro ack later ⟨kept, grown, handoff, prepared, stands⟩
    have normalized := prepareHandoff_normalizes prepared
    exact ⟨kept, grown, handoff, normalized, stands, closer_of_handoff normalized⟩
  | cleanReview args =>
    simp only [Submission.commit, commits_bind, commits_pure]
    refine (commitCleanReview_commits books args host).mono ?_
    rintro entry later ⟨kept, grown, review, prepared, stands⟩
    have normalized := prepareCleanReview_normalizes prepared
    exact ⟨kept, grown, review, normalized, stands, closer_of_cleanReview normalized⟩

omit [JsDate] in
theorem AdmissionBooks.empty : AdmissionBooks {} :=
  ⟨EntryBooks.empty, by simp, by simp, by simp, by simp, by simp⟩

theorem submit_books (books : AdmissionBooks db) (submitted : Submission × Host) :
    AdmissionBooks (submit db submitted) ∧ Grows db (submit db submitted) := by
  unfold submit
  split
  · next ack later accepted =>
    obtain ⟨kept, grown, -⟩ := commit_commits books submitted.1 submitted.2 ack later accepted
    exact ⟨kept, grown⟩
  · exact ⟨books, Grows.refl db⟩

theorem submissions_books (books : AdmissionBooks db) (log : List (Submission × Host)) :
    AdmissionBooks (log.foldl submit db) ∧ Grows db (log.foldl submit db) := by
  -- Induction on what is submitted, first to last.
  induction log generalizing db with
  | nil => exact ⟨books, Grows.refl db⟩
  | cons submitted rest ih =>
    obtain ⟨kept, grown⟩ := submit_books books submitted
    obtain ⟨last, further⟩ := ih kept
    exact ⟨last, grown.trans further⟩

structure AdmittedOnce (db : AdmissionDb) : Prop where
  entries : ∀ key, (db.queue.entries.filter fun entry => entry.key = key).length ≤ 1
  handoffs : ∀ key, (db.handoffs.filter fun row => row.key = key).length ≤ 1
  cleanReviews : ∀ key, (db.cleanReviews.filter fun row => row.input.key = key).length ≤ 1
  acknowledges : ∀ row ∈ db.handoffs, ∃ entry ∈ db.queue.entries,
    entry.key = row.key ∧ entry.ackId = row.ack.ackId

omit [JsDate] in
theorem AdmissionBooks.once (books : AdmissionBooks db) : AdmittedOnce db := by
  refine ⟨?_, ?_, ?_, ?_⟩
  · intro key
    refine Table.length_filter_le_one books.entries.distinct ?_
    intro first one second two chosen other
    exact books.entries.eq_of_key one two
      ((of_decide_eq_true chosen).trans (of_decide_eq_true other).symm)
  · intro key
    refine Table.length_filter_le_one books.oneHandoff ?_
    intro first one second two chosen other
    exact books.apart first one second two
      (.inr (.inr ((of_decide_eq_true chosen).trans (of_decide_eq_true other).symm)))
  · intro key
    refine Table.length_filter_le_one books.oneCleanReview ?_
    intro first one second two chosen other
    obtain ⟨entry, kept⟩ := books.cleanReviews first one
    obtain ⟨owner, keptOther⟩ := books.cleanReviews second two
    have agrees := kept.consistent
    have agreesOther := keptOther.consistent
    simp only [CleanReviewRow.consistent, Bool.and_eq_true, decide_eq_true_eq] at agrees agreesOther
    -- Both reviews belong to the key's entry, which has one review.
    have same : entry = owner := by
      refine books.entries.eq_of_key kept.stored keptOther.stored ?_
      rw [agrees.2, agreesOther.2, of_decide_eq_true chosen, of_decide_eq_true other]
    refine List.inj_on_of_nodup_map books.oneCleanReview one two ?_
    rw [← kept.entryId, ← keptOther.entryId, same]
  · intro row listed
    obtain ⟨entry, kept⟩ := books.handoffs row listed
    have agrees := kept.consistent
    simp only [HandoffRow.consistent, Bool.and_eq_true, decide_eq_true_eq] at agrees
    exact ⟨entry, kept.stored, kept.key, agrees.1.1.1.1.2.symm⟩

def Submission.check (host : Host) : Submission → Except String Unit
  | handoff args => do
    let _ ← prepareHandoff args host
    pure ()
  | cleanReview args => do
    let _ ← prepareCleanReview args
    let _ ← queueTime args.acknowledgedAt
    pure ()

/-- A submission uses a name that another one has: its admission, its identity in its lane, or,
between two handoffs, its identity in any lane. -/
def Reuses (earlier next : Submission) (accepted payload : Handoff) : Prop :=
  payload.key = accepted.key ∨
    payload.key.lane = accepted.key.lane ∧ payload.handoffId = accepted.handoffId ∨
    (∃ first second, earlier = .handoff first ∧ next = .handoff second) ∧
      payload.handoffId = accepted.handoffId

variable {accepted payload : Handoff}

theorem commit_again (books : AdmissionBooks db)
    (stands : AckStands accepted db ack) {next : Submission} {host : Host}
    (restated : next.payload = .ok payload) (same : payload.body = accepted.body)
    (ready : next.check host = .ok ()) : next.commit host db = .ok (ack, db) := by
  cases next with
  | handoff args =>
    obtain ⟨handoff, prepared, -⟩ := ok_of_bind ready
    have normalized := prepareHandoff_normalizes prepared
    cases Except.ok.inj (restated.symm.trans normalized)
    cases ack with
    | handoff ack =>
      have committed := commitHandoff_again books stands.1 prepared same
      simp only [Submission.commit]
      rw [bind_of_ok committed]
      rfl
    | cleanReview entry =>
      -- A handoff names a closer, a clean review does not.
      exact absurd (same ▸ stands.2) (closer_of_handoff normalized)
  | cleanReview args =>
    obtain ⟨review, prepared, timed⟩ := ok_of_bind ready
    obtain ⟨time, timed, -⟩ := ok_of_bind timed
    have normalized := prepareCleanReview_normalizes prepared
    cases Except.ok.inj (restated.symm.trans normalized)
    cases ack with
    | handoff ack => exact absurd (same ▸ closer_of_cleanReview normalized) stands.2
    | cleanReview entry =>
      have committed := commitCleanReview_again books stands.1 host prepared timed same
      simp only [Submission.commit]
      rw [bind_of_ok committed]
      rfl

omit [JsDate] in
theorem AdmissionBooks.digest_of_reuse (books : AdmissionBooks db)
    {earlier next : Submission} {ack again : Acknowledgement}
    (stands : AckStands accepted db ack) (standing : AckStands payload db again)
    (earlierKind : ∀ args, earlier = .handoff args → ∃ given, ack = .handoff given)
    (nextKind : ∀ args, next = .handoff args → ∃ given, again = .handoff given)
    (reused : Reuses earlier next accepted payload) : accepted.digest = payload.digest := by
  obtain ⟨entry, stored, describes⟩ := books.entryOf stands
  obtain ⟨other, otherStored, otherDescribes⟩ := books.entryOf standing
  -- One entry cannot stand for two digests.
  have digests : other = entry → accepted.digest = payload.digest := by
    rintro rfl
    exact Option.some.inj (describes.handoffDigest.symm.trans otherDescribes.handoffDigest)
  rcases reused with key | ⟨lane, named⟩ | ⟨⟨first, second, one, two⟩, named⟩
  · refine digests (books.entries.eq_of_key otherStored stored ?_)
    rw [otherDescribes.key, describes.key, key]
  · refine digests (books.entries.eq_of_handoff otherStored stored ?_ ?_)
    · exact (congrArg AdmissionKey.lane otherDescribes.key).trans
        (lane.trans (congrArg AdmissionKey.lane describes.key).symm)
    · rw [otherDescribes.handoffId, describes.handoffId, named]
  · obtain ⟨given, rfl⟩ := earlierKind first one
    obtain ⟨givenAgain, rfl⟩ := nextKind second two
    obtain ⟨⟨row, listed, -, -, rowNamed, digest⟩, -⟩ := stands
    obtain ⟨⟨otherRow, otherListed, -, -, otherNamed, otherDigest⟩, -⟩ := standing
    have same : row = otherRow :=
      books.apart row listed otherRow otherListed (.inl (by rw [rowNamed, otherNamed, named]))
    rw [← digest, ← otherDigest, same]

theorem commit_kind {submission : Submission} {host : Host} {db later : AdmissionDb}
    (accepts : submission.commit host db = .ok (ack, later)) :
    ∀ args, submission = .handoff args → ∃ given, ack = .handoff given := by
  rintro args rfl
  have shown : (Submission.commit (.handoff args)).Commits host db fun ack _ =>
      ∃ given, ack = .handoff given := by
    simp only [Submission.commit, commits_bind, commits_pure]
    intro given later _
    exact ⟨given, rfl⟩
  exact shown ack later accepts

theorem commit_refuses (books : AdmissionBooks db) {earlier next : Submission}
    (stands : AckStands accepted db ack)
    (earlierKind : ∀ args, earlier = .handoff args → ∃ given, ack = .handoff given) (host : Host)
    (restated : next.payload = .ok payload) (other : accepted.digest ≠ payload.digest)
    (reused : Reuses earlier next accepted payload) :
    ∃ message, next.commit host db = .error message := by
  refine throws_of_commits ?_
  intro again later accepts
  obtain ⟨kept, grown, stated, states, standing⟩ :=
    commit_commits books next host again later accepts
  cases Except.ok.inj (restated.symm.trans states)
  exact other (kept.digest_of_reuse (stands.grows grown) standing earlierKind (commit_kind accepts)
    reused)

/-- For every sequence of handoffs and clean reviews, a key has one entry and one acknowledgement;
an accepted payload is answered again as it was, and its names are refused to any other payload,
while nothing changes either way. -/
theorem submissions_admit_once (log : List (Submission × Host)) :
    AdmittedOnce (submitAll log) ∧
      ∀ (before after : List (Submission × Host)) (accepted : Submission) (arrival : Host)
        (ack : Acknowledgement) (later : AdmissionDb) (first : Handoff),
        log = before ++ (accepted, arrival) :: after →
        accepted.commit arrival (submitAll before) = .ok (ack, later) →
        accepted.payload = .ok first →
        ∀ (next : Submission) (host : Host) (second : Handoff), next.payload = .ok second →
          (second.body = first.body → next.check host = .ok () →
            next.commit host (submitAll log) = .ok (ack, submitAll log)) ∧
          (second.body ≠ first.body → (first.digest = second.digest → first.body = second.body) →
            Reuses accepted next first second →
            (∃ message, next.commit host (submitAll log) = .error message) ∧
              submit (submitAll log) (next, host) = submitAll log) := by
  have books : AdmissionBooks (submitAll log) := (submissions_books AdmissionBooks.empty log).1
  refine ⟨books.once, ?_⟩
  rintro before after accepted arrival ack later first rfl accepts stated next host second restated
  -- What the accepted submission left behind is still there after the rest of the log.
  have early := (submissions_books AdmissionBooks.empty before).1
  obtain ⟨kept, -, payload, states, stood⟩ :=
    commit_commits early accepted arrival ack later accepts
  cases Except.ok.inj (stated.symm.trans states)
  have resumed : submitAll (before ++ (accepted, arrival) :: after) = after.foldl submit later := by
    have one : submit (submitAll before) (accepted, arrival) = later := by
      simp only [submit, accepts]
    rw [submitAll, List.foldl_append, List.foldl_cons, ← one]
    rfl
  have stands : AckStands first (submitAll (before ++ (accepted, arrival) :: after)) ack := by
    rw [resumed]
    exact stood.grows (submissions_books kept after).2
  refine ⟨fun same ready => commit_again books stands restated same ready, ?_⟩
  intro other faithful reused
  have apart : first.digest ≠ second.digest := fun same => other (faithful same).symm
  obtain ⟨message, refused⟩ :=
    commit_refuses books stands (commit_kind accepts) host restated apart reused
  exact ⟨⟨message, refused⟩, by simp only [submit, refused]⟩

end

def sampleHead : String := "aaaaaaaaaaaaaaaaaaaaaaaaaaaaaaaaaaaaaaaa"

def textMembers (members : List (String × String)) : Json :=
  .obj (members.map fun (key, value) => (key, .str value))

def sampleReview (base intent : String) : Json :=
  .obj [("schemaVersion", .num 1),
    ("lane", textMembers [("repository", "acme/app"), ("base", base)]),
    ("handoffId", .str "handoff-1"), ("prNumber", .num 7), ("head", .str sampleHead),
    ("admissionGeneration", .num 1),
    ("worker", textMembers [("workerId", "worker-1"), ("workerClass", "codex"),
      ("launchRequestId", "launch-1")]),
    ("sourceReview", textMembers [("id", "review-1"), ("commitId", sampleHead)]),
    ("attestations", textMembers [("produced", "produced-1"), ("reviewed", "reviewed-1")]),
    ("primaryChange", textMembers [("intent", intent), ("sourceRef", "pr:7")]),
    ("localValidation", textMembers [("head", sampleHead), ("sourceRef", "ci:1")]),
    ("publication", textMembers [("head", sampleHead), ("sourceRef", "push:1")])]

def sampleAttestation (kind producer : String) : Json :=
  .obj [("valid", .bool true), ("ref", .str (kind ++ "-1")), ("sourceRef", .str "attest:1"),
    ("record", .obj [("repo", .str "acme/app"), ("pr_number", .num 7), ("kind", .str kind),
      ("head_sha", .str sampleHead),
      ("signature", textMembers [("algorithm", "ed25519"), ("digest", "d"), ("subject", "s")]),
      ("producer_identity", .str producer),
      ("payload", textMembers [("launch_request_id", "launch-1"), ("worker_class", "codex")])])]

def sampleEvidence (base intent : String) : Json :=
  .obj [("subject", .obj [("state", .str "open"),
      ("lane", textMembers [("repository", "acme/app"), ("base", base)]), ("prNumber", .num 7),
      ("head", .str sampleHead), ("sourceRef", .str "pr:7")]),
    ("review", .obj [("complete", .bool true), ("id", .str "review-1"),
      ("commitId", .str sampleHead), ("reviewerIdentity", .str "reviewer-1"),
      ("sourceRef", .str "review:1"), ("verdict", .str "settled-success"), ("findings", .arr [])]),
    ("currency", .obj [("current", .bool true), ("reviewedHead", .str sampleHead),
      ("currentHead", .str sampleHead), ("proof", .str "exact-head"), ("sourceRef", .str "git:1")]),
    ("identities", .obj [("ok", .bool true), ("sourceRef", .str "ids:1"),
      ("worker", textMembers [("workerId", "worker-1"), ("workerClass", "codex"),
        ("launchRequestId", "launch-1")])]),
    ("attestations", .obj [("produced", sampleAttestation "produced" "worker-1"),
      ("reviewed", sampleAttestation "reviewed" "reviewer-1")]),
    ("primaryChange", .obj [("ok", .bool true), ("head", .str sampleHead),
      ("sourceRef", .str "pr:7"), ("intent", .str intent)]),
    ("localValidation", .obj [("ok", .bool true), ("head", .str sampleHead),
      ("sourceRef", .str "ci:1")]),
    ("publication", .obj [("ok", .bool true), ("head", .str sampleHead),
      ("sourceRef", .str "push:1")])]

def sampleSubmission (base intent : String) : Submission :=
  .cleanReview { input := sampleReview base intent, evidence := sampleEvidence base intent
                 acknowledgedAt := "2026-07-17T12:00:00.000Z" }

def sampleKey (base : String) : AdmissionKey :=
  { lane := { repository := "acme/app", base }, prNumber := 7, head := sampleHead
    admissionGeneration := 1 }

def sampleDigests : List (Json × String) :=
  [((sampleKey "main").json, "06a7dbad0ed093c02a3d309a5be437b1e8e33984f52c1a1f383350d3aa970c09"),
    ((sampleKey "next").json, "b7e0b3f848e3f1d4447f10dac6372bb8e7c6de5f8ce2efc63ee20a99a435157f"),
    (sampleReview "main" "fix", "7f555a65a3e8424a6abbe76e95d5e12d7bf9fbd78f4473cc15e35f19963fb11e"),
    (sampleReview "main" "rework",
      "c8992ce0e1cf6d4be173b5c2f277ae2194be892a636caef7e3b98b00d573b85e"),
    (sampleReview "next" "fix", "ca91bc86be46bb469fddec59826ea04880c42ed8ed676cec7b5f71e42b47a243")]

@[reducible] def sampleDigest : HandoffDigest where
  handoffDigest value := ((sampleDigests.find? fun row => deepEq row.1 value).map Prod.snd).getD ""

@[reducible] def sampleFences : FencedEvidence where
  hasConcreteExactHeadEvidence _ := false

def sampleHost : Host where
  clock _ := "2026-07-17T12:00:00.000Z"
  loadAwareTimeoutMs nominal _ := nominal
  uuid := "sample"

/-- An accepted clean review is answered again, and refused under a new intent. -/
theorem submissions_admit_once_sample :
    letI := sampleDigest
    letI := JsDate.isoDates
    letI := sampleFences
    ∃ ack, (sampleSubmission "main" "fix").commit sampleHost
        (submitAll [(sampleSubmission "main" "fix", sampleHost)]) =
          .ok (ack, submitAll [(sampleSubmission "main" "fix", sampleHost)]) ∧
      ∃ message, (sampleSubmission "main" "rework").commit sampleHost
        (submitAll [(sampleSubmission "main" "fix", sampleHost)]) = .error message := by
  let _ := sampleDigest
  let _ := JsDate.isoDates
  let _ := sampleFences
  obtain ⟨⟨ack, later⟩, accepts⟩ := exists_of_isOk (show ((sampleSubmission "main" "fix").commit
    sampleHost (submitAll [])).isOk = true by decide +kernel)
  obtain ⟨first, stated⟩ := exists_of_isOk
    (show (sampleSubmission "main" "fix").payload.isOk = true by decide +kernel)
  obtain ⟨second, restated⟩ := exists_of_isOk
    (show (sampleSubmission "main" "rework").payload.isOk = true by decide +kernel)
  obtain ⟨_, ready⟩ := exists_of_isOk
    (show ((sampleSubmission "main" "fix").check sampleHost).isOk = true by decide +kernel)
  have apart : (sampleSubmission "main" "fix").payload.toOption.map Handoff.digest ≠
      (sampleSubmission "main" "rework").payload.toOption.map Handoff.digest := by
    decide +kernel
  have keys : (sampleSubmission "main" "rework").payload.toOption.map Handoff.key =
      (sampleSubmission "main" "fix").payload.toOption.map Handoff.key := by
    decide +kernel
  rw [stated, restated] at apart keys
  simp only [Except.toOption, Option.map_some, Option.some.injEq, ne_eq] at apart keys
  have admitted := (submissions_admit_once [(sampleSubmission "main" "fix", sampleHost)]).2
    [] [] _ _ ack later first rfl accepts stated
  refine ⟨ack, (admitted _ sampleHost first stated).1 rfl ready, ?_⟩
  refine ((admitted _ sampleHost second restated).2 ?_ (fun same => absurd same apart)
    (.inl keys)).1
  intro same
  exact apart (by rw [Handoff.digest, Handoff.digest, same])

/-- Two clean reviews of one identity are both admitted, each in its own lane. -/
theorem handoffId_shared_between_lanes :
    letI := sampleDigest
    letI := JsDate.isoDates
    letI := sampleFences
    (submitAll [(sampleSubmission "main" "fix", sampleHost),
        (sampleSubmission "next" "fix", sampleHost)]).queue.entries.map
          (fun entry => (entry.lane.base, entry.handoffId)) =
      [("main", "handoff-1"), ("next", "handoff-1")] := by
  decide +kernel

open Json

@[simp] theorem requireFact_eq_ok {condition : Bool} {reason : String} :
    requireFact condition reason = .ok () ↔ condition = true := by
  cases condition <;> simp [requireFact]

theorem requireFact_then {condition : Bool} {reason : String} {next : Except String Unit}
    (accepted : (do requireFact condition reason; next) = .ok ()) :
    condition = true ∧ next = .ok () := by
  obtain ⟨_, stated, later⟩ := Except.bind_ok accepted
  exact ⟨requireFact_eq_ok.mp stated, later⟩

def HasKey (finding : Json) : Prop :=
  ∃ review commit name : String,
    findingKey finding = (some (.str review), some (.str commit), some (.str name))

theorem sameFinding_iff {other finding : Json} (named : HasKey finding) :
    sameFinding other finding = true ↔ findingKey other = findingKey finding := by
  obtain ⟨review, commit, name, key⟩ := named
  have one (value : Option Json) (text : String) :
      sameValue value (some (.str text)) = true ↔ value = some (.str text) := by
    cases value with
    | none => simp [sameValue]
    | some value => cases value <;> simp [sameValue, deepEq]
  rw [sameFinding, key, Prod.ext_iff, Prod.ext_iff]
  simp only [Bool.and_eq_true, one, and_assoc]

theorem isText_of_hasText {value : Option Json} (stated : hasText value = true) :
    ∃ text, value = some (.str text) := by
  simp only [hasText, decide_eq_true_eq] at stated
  unfold text at stated
  split at stated
  · exact ⟨_, rfl⟩
  · exact absurd rfl stated

theorem isText_of_isSha {value : Option Json} (stated : isSha value = true) :
    ∃ text, value = some (.str text) := by
  unfold isSha at stated
  split at stated
  · exact ⟨_, rfl⟩
  · cases stated

structure Listed (handoff finding : Json) : Prop where
  named : HasKey finding
  current : currentAt handoff (finding.get? "currency") (finding.get? "reviewCommitId") = true
  severity : ∃ text, finding.get? "severity" = some (.str text)

theorem checkInventory_ok {handoff : Json} {findings : List Json} :
    ∀ {listed : List Json}, (∀ finding ∈ listed, HasKey finding) →
      checkInventory handoff listed findings = .ok () →
      (∀ finding ∈ findings, Listed handoff finding) ∧ (findings.map findingKey).Nodup ∧
        ∀ finding ∈ findings, findingKey finding ∉ listed.map findingKey := by
  induction findings with
  | nil => simp
  | cons finding rest ih =>
    intro listed named accepted
    rw [checkInventory] at accepted
    obtain ⟨formed, accepted⟩ := requireFact_then accepted
    obtain ⟨fresh, accepted⟩ := requireFact_then accepted
    simp only [Bool.and_eq_true, Bool.not_eq_true', List.any_eq_false] at formed fresh
    obtain ⟨⟨⟨⟨⟨name, review⟩, commit⟩, severity⟩, -⟩, current⟩ := formed
    obtain ⟨name, hasName⟩ := isText_of_hasText name
    obtain ⟨review, hasReview⟩ := isText_of_hasText review
    obtain ⟨commit, hasCommit⟩ := isText_of_isSha commit
    have key : HasKey finding :=
      ⟨review, commit, name, by rw [findingKey, hasName, hasReview, hasCommit]⟩
    have graded : ∃ text, finding.get? "severity" = some (.str text) := by
      simp only [oneOf, Option.any_eq_true] at severity
      obtain ⟨text, found, -⟩ := severity
      obtain ⟨value, stated, isText⟩ := Option.bind_eq_some_iff.mp found
      cases value <;> cases isText
      exact ⟨text, stated⟩
    obtain ⟨all, distinct, new⟩ := ih (List.forall_mem_cons.mpr ⟨key, named⟩) accepted
    simp only [List.map_cons, List.mem_cons, not_or] at new
    refine ⟨List.forall_mem_cons.mpr ⟨⟨key, current, graded⟩, all⟩, ?_, ?_⟩
    · rw [List.map_cons, List.nodup_cons]
      refine ⟨?_, distinct⟩
      intro again
      obtain ⟨other, among, same⟩ := List.mem_map.mp again
      exact (new other among).1 same
    · refine List.forall_mem_cons.mpr ⟨?_, fun other among => (new other among).2⟩
      intro again
      obtain ⟨other, among, same⟩ := List.mem_map.mp again
      exact fresh other among ((sameFinding_iff (named other among)).mpr same.symm)

def Settles (handoff : Json) (findings : List Json) (disposition : Json) : Prop :=
  (∃ finding ∈ findings, findingKey disposition = findingKey finding ∧
    disposition.get? "severity" = finding.get? "severity") ∧
  strictEq (disposition.get? "head") (handoff.get? "head") = true

section

variable [FencedEvidence]

theorem checkDispositions_ok {handoff : Json} {findings : List Json}
    (known : ∀ finding ∈ findings, Listed handoff finding) {dispositions : List Json} :
    ∀ {seen : List Json}, checkDispositions handoff findings seen dispositions = .ok () →
      (∀ disposition ∈ dispositions, Settles handoff findings disposition) ∧
        (dispositions.map findingKey).Nodup ∧
        (∀ disposition ∈ dispositions, findingKey disposition ∉ seen.map findingKey) ∧
        seen.length + dispositions.length = findings.length := by
  induction dispositions with
  | nil =>
    intro seen accepted
    simpa [checkDispositions] using accepted
  | cons disposition rest ih =>
    intro seen accepted
    rw [checkDispositions] at accepted
    obtain ⟨settles, accepted⟩ := requireFact_then accepted
    obtain ⟨shown, accepted⟩ := requireFact_then accepted
    obtain ⟨-, accepted⟩ := requireFact_then accepted
    simp only [Bool.and_eq_true, Bool.not_eq_true', List.any_eq_false] at settles shown
    obtain ⟨⟨found, fresh⟩, graded⟩ := settles
    obtain ⟨finding, found⟩ := Option.isSome_iff_exists.mp found
    have among := List.mem_of_find?_eq_some found
    have same : findingKey disposition = findingKey finding :=
      (sameFinding_iff (known finding among).named).mp
        (by simpa using List.find?_some found)
    -- Both ways on, by the kind of resolution, end in the rest of the loop.
    have later : checkDispositions handoff findings (disposition :: seen) rest = .ok () := by
      split at accepted <;> exact (requireFact_then accepted).2
    obtain ⟨all, distinct, new, count⟩ := ih later
    simp only [List.map_cons, List.mem_cons, not_or] at new
    have severity : disposition.get? "severity" = finding.get? "severity" := by
      obtain ⟨text, stated⟩ := (known finding among).severity
      rw [found, member, Option.bind_some, stated] at graded
      rw [stated]
      cases own : disposition.get? "severity" with
      | none => simp [own, strictEq] at graded
      | some value => cases value <;> simp_all [strictEq]
    refine ⟨List.forall_mem_cons.mpr ⟨⟨⟨finding, among, same, severity⟩, shown.1.1⟩, all⟩,
      ?_, ?_, ?_⟩
    · rw [List.map_cons, List.nodup_cons]
      refine ⟨?_, distinct⟩
      intro again
      obtain ⟨other, listed, equal⟩ := List.mem_map.mp again
      exact (new other listed).1 equal
    · refine List.forall_mem_cons.mpr ⟨?_, fun other listed => (new other listed).2⟩
      intro again
      obtain ⟨other, listed, equal⟩ := List.mem_map.mp again
      obtain ⟨review, commit, name, key⟩ := (known finding among).named
      have named : HasKey other := ⟨review, commit, name, by rw [equal, same, key]⟩
      exact absurd ((sameFinding_iff named).mpr equal.symm) (by simpa using fresh other listed)
    · simpa [Nat.add_assoc, Nat.add_comm 1] using count

def dispositionsOf (handoff : Json) : List Json :=
  (items? (handoff.get? "dispositions")).getD []

def findingsOf (evidence : Json) : List Json :=
  (items? (member (evidence.get? "review") "findings")).getD []

theorem validateQueueHandoff_loops {handoff evidence : Json}
    (accepted : validateQueueHandoff handoff evidence = .ok ()) :
    checkInventory handoff [] (findingsOf evidence) = .ok () ∧
      checkDispositions handoff (findingsOf evidence) [] (dispositionsOf handoff) = .ok () := by
  simp only [validateQueueHandoff] at accepted
  iterate 11 replace accepted := (requireFact_then accepted).2
  cases listed : items? (member (evidence.get? "review") "findings") with
  | none => simp [listed] at accepted
  | some findings =>
    rw [listed] at accepted
    obtain ⟨_, inventory, dispositions⟩ := Except.bind_ok accepted
    simp only [findingsOf, dispositionsOf, listed, Option.getD_some]
    exact ⟨inventory, dispositions⟩

/--
Accepted evidence covers a handoff exactly.

The places of the handoff's dispositions stand for the keys of the listed findings one to one, and
no two findings share a key. Each disposition has its finding's severity and names the handoff's
head; each finding is current up to that head.
-/
theorem validateQueueHandoff_covers {handoff evidence : Json}
    (accepted : validateQueueHandoff handoff evidence = .ok ()) :
    Set.BijOn (fun place : Fin (dispositionsOf handoff).length =>
        findingKey ((dispositionsOf handoff).get place)) Set.univ
        {key | key ∈ (findingsOf evidence).map findingKey} ∧
      ((findingsOf evidence).map findingKey).Nodup ∧
      (∀ disposition ∈ dispositionsOf handoff,
        Settles handoff (findingsOf evidence) disposition) ∧
      ∀ finding ∈ findingsOf evidence, reviewCurrencyCovers (finding.get? "currency")
        (finding.get? "reviewCommitId") (handoff.get? "head") = true := by
  obtain ⟨inventory, dispositions⟩ := validateQueueHandoff_loops accepted
  obtain ⟨known, distinct, -⟩ := checkInventory_ok (by simp) inventory
  obtain ⟨settle, once, -, count⟩ := checkDispositions_ok known dispositions
  have into : (dispositionsOf handoff).map findingKey ⊆ (findingsOf evidence).map findingKey := by
    intro key among
    obtain ⟨disposition, listed, rfl⟩ := List.mem_map.mp among
    obtain ⟨⟨finding, stands, same, -⟩, -⟩ := settle disposition listed
    exact same ▸ List.mem_map_of_mem stands
  -- As many distinct keys as there are findings, all of them keys of findings.
  have exact_ : ((dispositionsOf handoff).map findingKey).Perm
      ((findingsOf evidence).map findingKey) := by
    refine (List.subperm_of_subset once into).perm_of_length_le ?_
    simp only [List.length_map, List.length_nil, Nat.zero_add] at count ⊢
    exact count.ge
  refine ⟨⟨?_, ?_, ?_⟩, distinct, settle, ?_⟩
  · intro place _
    exact into (List.mem_map_of_mem (List.get_mem _ place))
  · intro first _ second _ same
    have equal := List.inj_on_of_nodup_map once (List.get_mem _ first) (List.get_mem _ second) same
    exact List.nodup_iff_injective_get.mp (List.Nodup.of_map _ once) equal
  · intro key listed
    obtain ⟨disposition, stands, rfl⟩ := List.mem_map.mp (exact_.mem_iff.mpr listed)
    obtain ⟨place, rfl⟩ := List.get_of_mem stands
    exact ⟨place, trivial, rfl⟩
  · intro finding listed
    have current := (known finding listed).current
    simp only [currentAt, Bool.and_eq_true] at current
    exact current.1.1.1

end

@[reducible] def fencedEvidence : FencedEvidence where
  hasConcreteExactHeadEvidence value := (value.bind text?).any fun body =>
    Ama.HammerAdjudication.hasConcreteExactHeadEvidence body.toList

def sampleFinding : List (String × Json) :=
  [("reviewId", .str "review-1"), ("reviewCommitId", .str sampleHead), ("findingId", .str "f1"),
    ("severity", .str "non-blocking"), ("sourceRef", .str "review:1")]

def sampleHandoff : Json :=
  (asHandoff (sampleReview "main" "fix")).set "dispositions" (.arr [.obj (sampleFinding ++
    [("head", .str sampleHead), ("evidence", .str "\x60\x60\x60\nok\n\x60\x60\x60"),
      ("resolution", .str "fixed"), ("paths", .arr [.str "src/a.mjs"])])])

def sampleHandoffEvidence : Json :=
  let evidence := sampleEvidence "main" "fix"
  let identities := (evidence.get? "identities").getD .null
  let review := (evidence.get? "review").getD .null
  (evidence.set "identities" (identities.set "closer"
    ((identities.get? "worker").getD .null))).set "review" (review.set "findings" (.arr
      [.obj (sampleFinding ++ [("currency", (evidence.get? "currency").getD .null)])]))

theorem validateQueueHandoff_covers_sample :
    letI := fencedEvidence
    validateQueueHandoff sampleHandoff sampleHandoffEvidence = .ok () ∧
      ((findingsOf sampleHandoffEvidence).map findingKey).Nodup := by
  let _ := fencedEvidence
  have accepted : validateQueueHandoff sampleHandoff sampleHandoffEvidence = .ok () := by
    decide +kernel
  exact ⟨accepted, (validateQueueHandoff_covers accepted).2.1⟩

end AdversarialReview
