import AdversarialReview.Proofs.NextAction.DaemonSafety

/-! Which lost observations can grant a merge: every one that only ever blocks it. -/

namespace AdversarialReview.NextAction

open Json Rung

structure Loses (lost : List Source) (snapshot after : Json) : Prop where
  head : after.get? "head" = snapshot.get? "head"
  observedAt : after.get? "observedAt" = snapshot.get? "observedAt"
  anchors : after.get? "anchors" = snapshot.get? "anchors"
  kept : ∀ source, source ∉ lost → observation after source = observation snapshot source
  dropped : ∀ source, source ∈ lost → (observation after source).state ≠ .complete

/-- The observations without which nothing is merged. -/
def gatingSources : List Source := [.pr, .checks, .reviews, .leases, .policy]

/-- The observations that only ever block a merge. -/
def blockingSources : List Source := [.candidate, .remediation, .launches, .controls, .progress]

theorem observation_content {snapshot : Json} {source : Source}
    (incomplete : (observation snapshot source).state ≠ .complete) :
    (observation snapshot source).content = .obj [] := by
  unfold observation at incomplete ⊢
  simp only at incomplete ⊢
  split at incomplete
  · exact absurd rfl incomplete
  · rfl
  · rfl

section

variable [JsDate]

variable {snapshot after : Json}

theorem anchorFor_congr (anchors : after.get? "anchors" = snapshot.get? "anchors") :
    anchorFor after = anchorFor snapshot := by
  funext observedMs extraMs
  simp only [anchorFor, anchors]

theorem deadline_congr (anchors : after.get? "anchors" = snapshot.get? "anchors") :
    deadline after = deadline snapshot := by
  funext observedMs kind atMs extraMs
  simp only [deadline, anchorFor_congr anchors]

variable [JsText] [CheckRollups]

theorem checksFacts_known {snapshot : Json} {checks : ChecksFacts}
    (reading : checksFacts (observation snapshot .checks) = some checks)
    (green : checks.state = .success) : (observation snapshot .checks).state = .complete := by
  by_contra incomplete
  have unknown : (observation snapshot .checks).known = false := decide_eq_false incomplete
  have empty := observation_content incomplete
  -- Without content nothing is concluded, and what is not concluded is not green.
  have inconclusive : ∀ rows, checksConclusion (observation snapshot .checks) rows = some none := by
    intro rows
    have unstated : upperOr ((observation snapshot .checks).content.get? "conclusion") = none := by
      simp [empty, get?, upperOr, upper, text, JsText.toUpperCase_empty]
    simp only [checksConclusion, unstated, unknown]
  simp only [checksFacts, inconclusive, Option.bind_eq_bind, Option.bind_some, Option.pure_def]
    at reading
  obtain ⟨pending, -, reading⟩ := Option.bind_eq_some_iff.mp reading
  obtain ⟨infrastructure, -, reading⟩ := Option.bind_eq_some_iff.mp reading
  rw [← Option.some.inj reading] at green
  simp only [CheckState.ofConclusion] at green
  split at green
  · cases green
  · split at green <;> cases green

variable [LaunchSdk]

def Merges (snapshot : Json) : Prop :=
  (nextAction snapshot).map (·.actor) = some .daemon

instance (snapshot : Json) : Decidable (Merges snapshot) :=
  inferInstanceAs (Decidable ((nextAction snapshot).map (·.actor) = some .daemon))

theorem nextAction_congr {lost : List Source}
    (loses : Loses lost snapshot after) (only : ∀ source ∈ lost, source = .history) :
    nextAction after = nextAction snapshot := by
  have kept : ∀ source, source ≠ .history →
      observation after source = observation snapshot source := by
    intro source other
    exact loses.kept source fun listed => other (only source listed)
  have facts : snapshotFacts after = snapshotFacts snapshot := by
    simp only [snapshotFacts, loses.head, loses.observedAt, kept _ (by decide : Source.pr ≠ _),
      kept _ (by decide : Source.candidate ≠ _), kept _ (by decide : Source.checks ≠ _),
      kept _ (by decide : Source.reviews ≠ _), kept _ (by decide : Source.remediation ≠ _),
      kept _ (by decide : Source.launches ≠ _), kept _ (by decide : Source.leases ≠ _),
      kept _ (by decide : Source.controls ≠ _), kept _ (by decide : Source.policy ≠ _),
      kept _ (by decide : Source.progress ≠ _)]
  have due := deadline_congr loses.anchors
  simp only [nextAction, decide?, decided, expired, facts, due]

theorem Merges.gated {snapshot : Json} (merges : Merges snapshot) :
    ∀ source ∈ gatingSources, (observation snapshot source).state = .complete := by
  obtain ⟨decision, decides, actor⟩ := Option.map_eq_some_iff.mp merges
  obtain ⟨-, facts, timed, cleared, -⟩ := nextAction_cleared decides actor
  have reads := timedFacts_reads timed
  have safe := reads.safe cleared
  intro source listed
  simp only [gatingSources, List.mem_cons, List.not_mem_nil, or_false] at listed
  rcases listed with rfl | rfl | rfl | rfl | rfl
  · exact safe.observed
  · exact checksFacts_known (timedFacts_checks timed) safe.green
  · exact reads.reviews cleared.work.known
  · exact safe.leasesObserved
  · exact safe.enabled.1

theorem Loses.merges {lost : List Source}
    (loses : Loses lost snapshot after) (merges : Merges after)
    (harmless : (∃ gate ∈ gatingSources, gate ∈ lost) ∨
      ∀ blocker ∈ blockingSources, blocker ∉ lost) : Merges snapshot := by
  by_cases gated : ∃ gate ∈ gatingSources, gate ∈ lost
  · obtain ⟨gate, gates, listed⟩ := gated
    exact absurd (merges.gated gate gates) (loses.dropped gate listed)
  · have unblocked := harmless.resolve_left gated
    -- What is neither gating nor blocking is the history.
    have only : ∀ source ∈ lost, source = .history := by
      intro source listed
      cases source with
      | history => rfl
      | pr | checks | reviews | leases | policy =>
        exact absurd ⟨_, by decide, listed⟩ gated
      | candidate | remediation | launches | controls | progress =>
        exact absurd listed (unblocked _ (by decide))
    unfold Merges
    rw [← nextAction_congr loses only]
    exact merges

end

/-- What each blocking observation may show to hold the clean pull request. -/
def blocker : Source → Json
  | .candidate => seen [("labels", .arr [.obj [("name", .str "do-not-merge")]])]
  | .remediation => seen [("job", .obj [("live", .bool true), ("status", .str "in_progress")])]
  | .launches => seen [("closer", .obj [("headSha", .str "a1"), ("status", .str "running")])]
  | .controls => seen [("stop", .obj [("deterministic", .bool true)])]
  | _ => seen [("diffEmpty", .bool true)]

theorem Source.key_injective : Function.Injective Source.key := by
  intro first second same
  cases first <;> cases second <;> first | rfl | exact absurd same (by decide)

theorem observation_other {source other : Source} (different : source ≠ other) (made : Json)
    (observations : List (Source × Json)) :
    observation (observedSnapshot ((source, made) :: observations)) other =
      observation (observedSnapshot observations) other := by
  have keys : ¬source.key = other.key := fun same => different (Source.key_injective same)
  simp [observation, observedSnapshot, get?, member, keys]

theorem loses_blocker {lost : List Source} {source : Source} (listed : source ∈ lost)
    (ungated : ∀ gate ∈ gatingSources, gate ∉ lost) :
    Loses lost (observedSnapshot ((source, blocker source) :: cleanObservations))
      (observedSnapshot cleanObservations) := by
  refine ⟨rfl, rfl, rfl, ?_, ?_⟩
  · intro other unlisted
    have different : source ≠ other := fun same => unlisted (same ▸ listed)
    exact (observation_other different _ _).symm
  · -- Only the gating observations were made.
    intro other dropped
    cases other with
    | pr | checks | reviews | leases | policy => exact absurd dropped (ungated _ (by decide))
    | candidate | remediation | launches | controls | progress | history => decide

theorem blocked_then_merges :
    letI := JsText.ascii; letI := JsDate.isoDates
    letI := concludedRollups; letI := publishedStatuses
    Merges (observedSnapshot cleanObservations) ∧ ∀ source ∈ blockingSources,
      ¬Merges (observedSnapshot ((source, blocker source) :: cleanObservations)) := by
  refine ⟨by decide +kernel, ?_⟩
  intro source listed
  simp only [blockingSources, List.mem_cons, List.not_mem_nil, or_false] at listed
  rcases listed with rfl | rfl | rfl | rfl | rfl <;> decide +kernel

end AdversarialReview.NextAction
