import AdversarialReview.NextAction.Table

/-! The rows that grant the daemon: what every earlier row must have declined. -/

namespace AdversarialReview.NextAction

open Json Rung

def Row.Daemon (row : Row) : Prop :=
  row.actor = .daemon

namespace Facts

variable {facts : Facts} {row : Row}

theorem ownerRungs_only (facts : Facts) :
    ∀ rung ∈ facts.ownerRungs, Only (fun row => ¬row.Daemon) rung := by
  intro rung listed
  simp only [ownerRungs, List.mem_cons, List.not_mem_nil, or_false] at listed
  rcases listed with rfl | rfl | rfl | rfl | rfl | rfl | rfl | rfl | rfl | rfl | rfl
  case inr.inr.inr.inr.inr.inr.inr.inr.inr.inr =>
    -- A lease is its holder's or the recovery owner's.
    simp only [leased, only_when, leasedRow]
    intro _
    split <;> simp [Row.Daemon, ownerRow, recoveryRow]
  all_goals
    simp [prUnknown, terminalRow, explicitHold, draft, executionDisabled, liveLaunch, liveJob,
      liveReviewer, leaseUnreadable, launchUnreadable, Row.Daemon, refresh, holdRow, ownerRow,
      recoveryRow]

theorem exactHeadReview_not_daemon (facts : Facts) (reason : String) :
    ¬(facts.exactHeadReview reason).Daemon := by
  unfold exactHeadReview
  split <;> simp [Row.Daemon, hammerRow]

structure Supersedes (facts : Facts) (recordedMs : Option Rat) : Prop where
  known : facts.review.known = true
  clean : facts.review.clean = true
  onHead : facts.reviewedOnHead = true
  newer : ∃ recorded posted, recordedMs = some recorded ∧ facts.review.postedMs = some posted ∧
    recorded < posted

variable {forHead : Bool} {recordedMs : Option Rat} {reselected : Option (Rung Row)}

theorem stopped_daemon {base : Row}
    (decides : facts.stopped reselected base recordedMs forHead = .row row)
    (daemon : row.Daemon) (retained : ¬base.Daemon) :
    reselected = some (.row row) ∧ forHead = true ∧ facts.Supersedes recordedMs := by
  have kept : ∀ {other : Row}, (.row other : Rung Row) = .row row → other = base → False := by
    intro other same base
    exact retained (base ▸ Rung.row.inj same ▸ daemon)
  unfold stopped at decides
  split at decides
  · next next recorded posted timed =>
    split at decides
    · next fires =>
      simp only [Bool.and_eq_true, decide_eq_true_eq] at fires
      obtain ⟨⟨⟨⟨head, known⟩, clean⟩, exact_⟩, newer⟩ := fires
      split at decides
      · next chosen =>
        split at decides
        · -- The reselection granted the daemon, and that row stands.
          exact ⟨by rw [Rung.row.inj decides], head, known, clean, exact_, _, _, rfl, timed, newer⟩
        · exact (kept decides rfl).elim
      · cases decides
      · exact (kept decides rfl).elim
    · exact (kept decides rfl).elim
  · exact (kept decides rfl).elim

theorem stopped_ne_pass {base : Row}
    : facts.stopped reselected base recordedMs forHead ≠ .pass := by
  unfold stopped
  split
  · split
    · split <;> simp
    · simp
  · simp

def Intended (row : Row) : Prop :=
  row.Daemon → row.queue = .daemon

theorem stopped_intended {base : Row} (again : ∀ next, reselected = some next → Only Intended next)
    (retained : ¬base.Daemon) :
    Only Intended (facts.stopped reselected base recordedMs forHead) := by
  intro decided decides daemon
  obtain ⟨same, -, -⟩ := stopped_daemon decides daemon retained
  exact again _ same decided rfl daemon

theorem infrastructure_only (facts : Facts) :
    Only (fun row => ¬row.Daemon) facts.infrastructure := by
  simp only [infrastructure, only_when]
  intro _
  split <;> simp [Row.Daemon, hammerRow]

theorem approvalRow_only (facts : Facts) (reselecting : Bool) :
    Only (fun row => ¬row.Daemon) (facts.approvalRow reselecting) := by
  simp [approvalRow, Row.Daemon, hammerRow]

section

variable [JsText]

theorem structuralRungs_only (facts : Facts) :
    ∀ rung ∈ facts.structuralRungs, Only (fun row => ¬row.Daemon) rung := by
  intro rung listed
  simp only [structuralRungs, List.mem_cons, List.not_mem_nil, or_false] at listed
  rcases listed with rfl | rfl | rfl | rfl | rfl
  · simp [policyUnknown, Row.Daemon, refresh]
  · simp [emptyDiff, Row.Daemon, recoveryRow]
  · unfold safety
    split
    · intro decided thrown
      cases thrown
    · simp [Row.Daemon, recoveryRow]
  · simp only [primary, only_when, primaryRow]
    intro _
    split
    · simp [Row.Daemon, recoveryRow]
    · split <;> simp [Row.Daemon, hammerRow, refresh]
  · simp [receipted, Row.Daemon, recoveryRow]

def repairRungs (facts : Facts) (reselecting : Bool) : List (Rung Row) :=
  (facts.workRungs reselecting).take 10

def reviewRungs (facts : Facts) (reselecting : Bool) : List (Rung Row) :=
  ((facts.workRungs reselecting).drop 11).take 7

theorem workRungs_eq (facts : Facts) (reselecting : Bool) :
    facts.workRungs reselecting = facts.repairRungs reselecting ++
      facts.approved :: (facts.reviewRungs reselecting ++ [facts.daemonMerge, facts.otherwise]) :=
  rfl

theorem repairRungs_only (facts : Facts) (reselecting : Bool) :
    ∀ rung ∈ facts.repairRungs reselecting, Only (fun row => ¬row.Daemon) rung := by
  intro rung listed
  simp only [repairRungs, workRungs, List.take_succ_cons, List.take_zero, List.mem_cons,
    List.not_mem_nil, or_false] at listed
  rcases listed with rfl | rfl | rfl | rfl | rfl | rfl | rfl | rfl | rfl | rfl
  · intro decided resumes
    unfold resumed at resumes
    split at resumes
    · cases resumes
    · split at resumes
      · cases resumes
        simp [Row.Daemon, hammerRow]
      · split at resumes
        · cases resumes
          simp [Row.Daemon, pendingRow]
        · obtain ⟨-, rfl⟩ := when_eq_row resumes
          simp [Row.Daemon, hammerRow]
  · simp [exhaustedApproved, Row.Daemon, hammerRow]
  · simp [retryNoMerge, Row.Daemon, hammerRow]
  · intro decided holds
    unfold labelFindings at holds
    simp only at holds
    split at holds
    · split at holds
      · cases holds
      · cases holds
      · cases holds
        simp [Row.Daemon, holdRow]
    · cases holds
  · simp only [ciRed, only_when, ciRedRow]
    intro _
    split
    · simp [Row.Daemon, hammerRow]
    · split
      · simp [Row.Daemon, refresh]
      · simp [Row.Daemon, hammerRow]
      · split <;> simp [Row.Daemon, hammerRow]
  · simp [conflict, Row.Daemon, hammerRow]
  · simp [pending, Row.Daemon, pendingRow]
  · simp [finalPush, Row.Daemon, hammerRow]
  · simp [reviewsUnknown, Row.Daemon, refresh]
  · simp [daemonFailedClosed, Row.Daemon, hammerRow]

theorem reviewRungs_only (facts : Facts) (reselecting : Bool) :
    ∀ rung ∈ facts.reviewRungs reselecting, Only (fun row => ¬row.Daemon) rung := by
  intro rung listed
  simp only [reviewRungs, workRungs, List.drop_succ_cons, List.drop_zero, List.take_succ_cons,
    List.take_zero, List.mem_cons, List.not_mem_nil, or_false] at listed
  rcases listed with rfl | rfl | rfl | rfl | rfl | rfl | rfl
  · simp only [attestationInvalid, only_when]
    exact fun _ => exactHeadReview_not_daemon facts _
  · simp only [closerRereview, only_when]
    exact fun _ => exactHeadReview_not_daemon facts _
  · simp [hammerOwned, Row.Daemon, hammerRow]
  · simp only [verdictAbsent, only_when]
    exact fun _ => exactHeadReview_not_daemon facts _
  · simp [verdictUnknown, Row.Daemon, refresh]
  · simp only [findings, only_when, findingsRow]
    intro _
    split
    · simp [Row.Daemon, hammerRow]
    · split <;> simp [Row.Daemon, hammerRow, refresh]
  · simp only [declined, only_when]
    intro _
    split <;> simp [Row.Daemon, hammerRow, refresh]

/-- What the two rows that grant the daemon have seen declined. -/
structure WorkCleared (facts : Facts) : Prop where
  known : facts.review.known = true
  green : facts.greenMergeable = true
  clean : facts.conflicted = false
  attested : facts.attested .invalid = false
  covered : facts.review.operatorOverride = true ∨
    (facts.review.currentHeadVerdictAbsent = true → facts.carried = true) ∧
      (facts.review.clean = true ∨ facts.terminalHead = true)

theorem workCleared {reselecting : Bool}
    (climbed : climb (facts.workRungs reselecting) = .row row) (daemon : row.Daemon) :
    facts.WorkCleared := by
  rw [workRungs_eq] at climbed
  obtain ⟨repairs, above⟩ := climb_skip_all climbed (facts.repairRungs_only reselecting) daemon
  have passed : ∀ rung, rung ∈ facts.repairRungs reselecting → rung = .pass := repairs
  have known : facts.review.known = true := by
    have := passed facts.reviewsUnknown (by simp [repairRungs, workRungs])
    simpa [reviewsUnknown] using this
  have clean : facts.conflicted = false := by
    have := passed facts.conflict (by simp [repairRungs, workRungs])
    simpa [conflict] using this
  rcases climb_cases above with granted | ⟨-, above⟩
  · -- An operator approved this very head.
    obtain ⟨approves, -⟩ := when_eq_row granted
    simp only [approvedHead, Bool.and_eq_true, ne_eq, decide_not, Bool.not_eq_true',
      decide_eq_false_iff_not] at approves
    obtain ⟨⟨⟨-, override⟩, valid⟩, green⟩ := approves
    exact ⟨known, green, clean, by simpa [Facts.attested] using valid, .inl override⟩
  · obtain ⟨reviews, above⟩ := climb_skip_all above (facts.reviewRungs_only reselecting) daemon
    have reviewed : ∀ rung, rung ∈ facts.reviewRungs reselecting → rung = .pass := reviews
    have valid : facts.attested .invalid = false := by
      have := reviewed facts.attestationInvalid (by simp [reviewRungs, workRungs])
      simpa [attestationInvalid] using this
    have absent : facts.review.currentHeadVerdictAbsent = true → facts.carried = true := by
      have := reviewed facts.verdictAbsent (by simp [reviewRungs, workRungs])
      simpa [verdictAbsent] using this
    have found : facts.review.clean = true ∨ facts.terminalHead = true := by
      have declined := reviewed facts.findings (by simp [reviewRungs, workRungs])
      have : facts.review.clean = false → facts.terminalHead = true := by
        simpa [findings] using declined
      cases clean : facts.review.clean with
      | true => exact .inl rfl
      | false => exact .inr (this clean)
    rcases climb_cases above with granted | ⟨-, last⟩
    · obtain ⟨grants, -⟩ := when_eq_row granted
      have green : facts.greenMergeable = true := by
        simp only [Bool.and_eq_true] at grants
        exact grants.1
      exact ⟨known, green, clean, valid, .inr ⟨absent, found⟩⟩
    · -- The last row refreshes.
      have same : row = _ := (Rung.row.inj last).symm
      rw [same] at daemon
      cases daemon

theorem workRungs_intended (facts : Facts) (reselecting : Bool) :
    ∀ rung ∈ facts.workRungs reselecting, Only Intended rung := by
  intro rung listed
  have others : ∀ row, ¬row.Daemon → Intended row := fun row other daemon => absurd daemon other
  rw [workRungs_eq] at listed
  simp only [List.mem_append, List.mem_cons, List.not_mem_nil, or_false] at listed
  rcases listed with repair | rfl | review | rfl | rfl
  · exact (facts.repairRungs_only reselecting rung repair).mono others
  · simp [approved, Intended, daemonRow]
  · exact (facts.reviewRungs_only reselecting rung review).mono others
  · simp [daemonMerge, Intended, daemonRow]
  · intro decided decides
    cases decides
    simp [Intended, Row.Daemon, refresh]

variable [JsDate]

def stopRecords (facts : Facts) : List (Option Rat) :=
  (if facts.stopDeterministic && facts.forHead (member facts.stop "headSha") then
    [timeMs (member facts.stop "recordedAt")] else []) ++
  (if facts.capExhausted then [timeMs (member facts.hammerCap "recordedAt")] else []) ++
  if facts.endedNoMerge false then [facts.launch.terminalMs] else []

/-- What the facts are whenever the daemon is granted. -/
structure Cleared (facts : Facts) : Prop where
  owners : ∀ rung ∈ facts.ownerRungs, rung = .pass
  structural : ∀ rung ∈ facts.structuralRungs, rung = .pass
  unheld : facts.holdLabel = none
  work : facts.WorkCleared

theorem ladder_below {reselected : Option (Rung Row)}
    (climbed : climb (facts.ladder reselected) = .row row) (daemon : row.Daemon) :
    (∀ rung ∈ facts.ownerRungs, rung = .pass) ∧ (∀ rung ∈ facts.structuralRungs, rung = .pass) ∧
      climb (facts.stopRungs reselected ++ facts.workRungs reselected.isNone) = .row row := by
  unfold ladder at climbed
  rw [List.append_assoc, List.append_assoc] at climbed
  obtain ⟨owners, above⟩ := climb_skip_all climbed facts.ownerRungs_only daemon
  obtain ⟨structural, above⟩ := climb_skip_all above facts.structuralRungs_only daemon
  exact ⟨owners, structural, above⟩

theorem reselect_cleared (selected : facts.reselect = .row row) (daemon : row.Daemon) :
    facts.Cleared := by
  obtain ⟨owners, structural, above⟩ := ladder_below selected daemon
  unfold stopRungs at above
  simp only [List.cons_append, List.nil_append] at above
  -- While reselecting, only a hold label is left of the stops.
  rcases climb_cases above with held | ⟨passed, above⟩
  · unfold automatedStop at held
    split at held
    · obtain ⟨nothing, -⟩ := stopped_daemon held daemon (by simp [Row.Daemon, recoveryRow])
      cases nothing
    · cases held
  · have unheld : facts.holdLabel = none := by
      unfold automatedStop at passed
      split at passed
      · exact absurd passed stopped_ne_pass
      · next free => simpa using free
    obtain ⟨-, above⟩ := climb_skip above facts.infrastructure_only daemon
    obtain ⟨-, above⟩ := climb_skip above (facts.approvalRow_only _) daemon
    have capped : facts.capStop none = .pass := by simp [capStop]
    have final : facts.finalStop none = .pass := by simp [finalStop]
    rw [capped, final] at above
    exact ⟨owners, structural, unheld, workCleared above daemon⟩

/-- The daemon is granted only where everything declined and the first stop is superseded. -/
theorem selectRow_cleared (selected : facts.selectRow = .row row) (daemon : row.Daemon) :
    facts.Cleared ∧ ∀ first ∈ facts.stopRecords.head?, facts.Supersedes first := by
  obtain ⟨owners, structural, above⟩ := ladder_below selected daemon
  unfold stopRungs at above
  simp only [List.cons_append, List.nil_append] at above
  rcases climb_cases above with held | ⟨passed, above⟩
  · -- The deterministic stop is the first record, and a newer review supersedes it.
    unfold automatedStop at held
    split at held
    · obtain ⟨again, head, newer⟩ := stopped_daemon held daemon (by simp [Row.Daemon, recoveryRow])
      refine ⟨reselect_cleared (Option.some.inj again) daemon, ?_⟩
      simp only [Bool.and_eq_true] at head
      intro first listed
      simp only [stopRecords, head.1.2, head.2, Bool.and_self, if_true, List.cons_append,
        List.nil_append, List.head?_cons, Option.mem_def, Option.some.injEq] at listed
      exact listed ▸ newer
    · cases held
  · obtain ⟨unstopped, unheld⟩ : facts.stopDeterministic = false ∧ facts.holdLabel = none := by
      unfold automatedStop at passed
      split at passed
      · exact absurd passed stopped_ne_pass
      · next free => simpa using free
    obtain ⟨-, above⟩ := climb_skip above facts.infrastructure_only daemon
    obtain ⟨-, above⟩ := climb_skip above (facts.approvalRow_only _) daemon
    rcases climb_cases above with capped | ⟨passed, above⟩
    · unfold capStop at capped
      split at capped
      · next spent =>
        obtain ⟨again, -, newer⟩ :=
          stopped_daemon capped daemon (by simp [Row.Daemon, recoveryRow])
        refine ⟨reselect_cleared (Option.some.inj again) daemon, ?_⟩
        have exhausted : facts.capExhausted = true := by simpa using spent
        intro first listed
        simp only [stopRecords, unstopped, Bool.false_and, Bool.false_eq_true, if_false,
          List.nil_append, exhausted, if_true, List.cons_append, List.head?_cons, Option.mem_def,
          Option.some.injEq] at listed
        exact listed ▸ newer
      · cases capped
    · have uncapped : facts.capExhausted = false := by
        unfold capStop at passed
        split at passed
        · exact absurd passed stopped_ne_pass
        · next free => simpa using free
      rcases climb_cases above with final | ⟨passed, above⟩
      · unfold finalStop at final
        split at final
        · next ended =>
          obtain ⟨again, -, newer⟩ :=
            stopped_daemon final daemon (by simp [Row.Daemon, recoveryRow])
          refine ⟨reselect_cleared (Option.some.inj again) daemon, ?_⟩
          have noMerge : facts.endedNoMerge false = true := by simpa using ended
          intro first listed
          simp only [stopRecords, unstopped, Bool.false_and, Bool.false_eq_true, if_false,
            List.nil_append, uncapped, noMerge, if_true, List.head?_cons, Option.mem_def,
            Option.some.injEq] at listed
          exact listed ▸ newer
        · cases final
      · have unended : facts.endedNoMerge false = false := by
          unfold finalStop at passed
          split at passed
          · exact absurd passed stopped_ne_pass
          · next free => simpa using free
        refine ⟨⟨owners, structural, unheld, workCleared above daemon⟩, ?_⟩
        intro first listed
        simp [stopRecords, unstopped, uncapped, unended] at listed

theorem ladder_intended (facts : Facts) {reselected : Option (Rung Row)}
    (again : ∀ next, reselected = some next → Only Intended next) :
    Only Intended (climb (facts.ladder reselected)) := by
  have others : ∀ row, ¬row.Daemon → Intended row := fun row other daemon => absurd daemon other
  apply only_climb
  intro rung listed
  simp only [ladder, List.mem_append] at listed
  rcases listed with ((owner | structural) | stop) | work
  · exact (facts.ownerRungs_only rung owner).mono others
  · exact (facts.structuralRungs_only rung structural).mono others
  · have none : Only Intended (.pass : Rung Row) := fun decided decides => by cases decides
    simp only [stopRungs, List.mem_cons, List.not_mem_nil, or_false] at stop
    rcases stop with rfl | rfl | rfl | rfl | rfl
    · unfold automatedStop
      split
      · exact stopped_intended again (by simp [Row.Daemon, recoveryRow])
      · exact none
    · exact facts.infrastructure_only.mono others
    · exact (facts.approvalRow_only _).mono others
    · unfold capStop
      split
      · exact stopped_intended again (by simp [Row.Daemon, recoveryRow])
      · exact none
    · unfold finalStop
      split
      · exact stopped_intended again (by simp [Row.Daemon, recoveryRow])
      · exact none
  · exact facts.workRungs_intended _ rung work

theorem selectRow_intended (facts : Facts) : Only Intended facts.selectRow := by
  apply ladder_intended
  intro next same
  cases same
  exact ladder_intended facts (fun _ nothing => by cases nothing)

end

end Facts

end AdversarialReview.NextAction
