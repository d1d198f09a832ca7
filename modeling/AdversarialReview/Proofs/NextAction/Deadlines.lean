import AdversarialReview.Proofs.NextAction.DaemonSafety

/-! What the rows of the table are dated by, when a decision is returned, and that its deadline does
not slide. -/

namespace AdversarialReview.NextAction

open Json Rung

def Row.dates (row : Row) : Option DeadlineKind × Option Rat × List (Option Rat) :=
  (row.deadlineKind, row.deadlineAtMs, row.extraAnchorMs)

def admissionDates : Option DeadlineKind × Option Rat × List (Option Rat) :=
  (some .admission, none, [])

structure Row.Fits (facts : Facts) (row : Row) : Prop where
  extra : ∀ ms ∈ row.extraAnchorMs, row.row = .pending ∧ ms = facts.checks.progressMs
  retry : row.row = .retry → row.dates = admissionDates
  daemon : row.Daemon → row.dates = admissionDates ∧
    row.row ≠ .stop ∧ row.row ≠ .refresh
  undated : row.deadlineKind = none → row.actor ≠ .closureRecovery ∧
    (row.action = .done ∨ row.action = .operatorHold)

namespace Facts

theorem refresh_fits (facts : Facts) (reason : String) : (refresh reason).Fits facts := by
  constructor <;> simp [refresh, Row.Daemon]

theorem hammerRow_fits (facts : Facts) (row : RowName) (reason : String) :
    (hammerRow row reason).Fits facts := by
  constructor <;> simp [hammerRow, Row.Daemon, Row.dates, admissionDates]

theorem recoveryRow_fits (facts : Facts) {row : RowName} (other : row ≠ .retry)
    (reason : String) : (recoveryRow row reason).Fits facts := by
  constructor <;> simp [recoveryRow, Row.Daemon, other]

theorem holdRow_fits (facts : Facts) (reason : Option Json) : (holdRow reason).Fits facts := by
  constructor <;> simp [holdRow, Row.Daemon]

theorem pendingRow_fits (facts : Facts) (reason : String) :
    (facts.pendingRow reason).Fits facts := by
  constructor <;> simp [pendingRow, Row.Daemon]

theorem daemonRow_fits (facts : Facts) {row : RowName} (one : row = .approvedHead ∨ row = .daemon)
    (reason : String) : (daemonRow row reason).Fits facts := by
  rcases one with rfl | rfl <;>
    constructor <;> simp [daemonRow, Row.dates, admissionDates]

theorem exactHeadReview_fits (facts : Facts) (reason : String) :
    (facts.exactHeadReview reason).Fits facts := by
  unfold exactHeadReview
  split
  · exact hammerRow_fits facts _ _
  · constructor <;> simp [Row.Daemon]

theorem ownerRungs_fit (facts : Facts) :
    ∀ rung ∈ facts.ownerRungs, Only (Row.Fits facts) rung := by
  intro rung listed
  simp only [ownerRungs, List.mem_cons, List.not_mem_nil, or_false] at listed
  rcases listed with rfl | rfl | rfl | rfl | rfl | rfl | rfl | rfl | rfl | rfl | rfl
  · exact only_when.2 fun _ => refresh_fits facts _
  · exact only_when.2 fun _ => by constructor <;> simp [Row.Daemon]
  · exact only_when.2 fun _ => holdRow_fits facts _
  · exact only_when.2 fun _ => holdRow_fits facts _
  · exact only_when.2 fun _ => holdRow_fits facts _
  · exact only_when.2 fun _ => by constructor <;> simp [ownerRow, Row.Daemon]
  · exact only_when.2 fun _ => by constructor <;> simp [ownerRow, Row.Daemon]
  · exact only_when.2 fun _ => by constructor <;> simp [ownerRow, Row.Daemon]
  · exact only_when.2 fun _ => recoveryRow_fits facts (by decide) _
  · exact only_when.2 fun _ => recoveryRow_fits facts (by decide) _
  · -- A lease is its holder's while its window is open, and the recovery owner's after it.
    refine only_when.2 fun _ => ?_
    unfold leasedRow
    split
    · constructor <;> simp [ownerRow, Row.Daemon]
    · exact recoveryRow_fits facts (by decide) _

theorem findingsRow_fits (facts : Facts) : facts.findingsRow.Fits facts := by
  unfold findingsRow
  split
  · exact hammerRow_fits facts _ _
  · split
    · exact refresh_fits facts _
    · constructor <;> simp [Row.Daemon]
    · exact hammerRow_fits facts _ _

theorem ciRedRow_fits (facts : Facts) : facts.ciRedRow.Fits facts := by
  unfold ciRedRow
  split
  · exact hammerRow_fits facts _ _
  · split
    · exact refresh_fits facts _
    · exact hammerRow_fits facts _ _
    · split
      · constructor <;> simp [Row.Daemon]
      · exact hammerRow_fits facts _ _

theorem resumed_fits (facts : Facts) : Only (Row.Fits facts) facts.resumed := by
  intro decided resumes
  unfold resumed at resumes
  split at resumes
  · cases resumes
  · split at resumes
    · cases resumes
      exact hammerRow_fits facts _ _
    · split at resumes
      · cases resumes
        exact pendingRow_fits facts _
      · obtain ⟨-, rfl⟩ := when_eq_row resumes
        exact hammerRow_fits facts _ _

theorem labelFindings_fits (facts : Facts) : Only (Row.Fits facts) facts.labelFindings := by
  intro decided holds
  unfold labelFindings at holds
  simp only at holds
  split at holds
  · split at holds
    · cases holds
    · cases holds
    · cases holds
      exact holdRow_fits facts _
  · cases holds

variable {forHead : Bool} {recordedMs : Option Rat}

theorem stopped_cases {facts : Facts} {reselected : Option (Rung Row)} {base row : Row}
    (decides : facts.stopped reselected base recordedMs forHead = .row row) :
    row = base ∨ row.Daemon ∧ reselected = some (.row row) := by
  unfold stopped at decides
  split at decides
  · split at decides
    · split at decides
      · split at decides
        · next granted =>
          cases decides
          simp only [Bool.and_eq_true, decide_eq_true_eq] at granted
          exact .inr ⟨granted.2, rfl⟩
        · exact .inl (Rung.row.inj decides).symm
      · cases decides
      · exact .inl (Rung.row.inj decides).symm
    · exact .inl (Rung.row.inj decides).symm
  · exact .inl (Rung.row.inj decides).symm

theorem stopped_fits {facts : Facts} {reselected : Option (Rung Row)} {base : Row}
    (again : ∀ next, reselected = some next → Only (Row.Fits facts) next) (own : base.Fits facts) :
    Only (Row.Fits facts) (facts.stopped reselected base recordedMs forHead) := by
  intro row decides
  rcases stopped_cases decides with rfl | ⟨-, next⟩
  · exact own
  · exact again _ next row rfl

theorem recoverLapsedRow_dates (facts : Facts) (row : Row) :
    (facts.recoverLapsedRow row).row = row.row ∧
      (facts.recoverLapsedRow row).dates = row.dates := by
  unfold recoverLapsedRow
  split
  · exact ⟨rfl, rfl⟩
  · split <;> exact ⟨rfl, rfl⟩

/-- Two selections of the same facts at two times: one row has one deadline, and a refresh is of
both or of neither. -/
def Agree : Rung Row → Rung Row → Prop
  | .row first, .row second => first.row = second.row → first.dates = second.dates
  | .row first, _ => first.row ≠ .refresh
  | _, .row second => second.row ≠ .refresh
  | _, _ => True

theorem Agree.refl (rung : Rung Row) : Agree rung rung := by
  cases rung <;> simp [Agree]

structure Together (first second : Rung Row) : Prop where
  passes : first = .pass ↔ second = .pass
  agrees : Agree first second

theorem Together.refl (rung : Rung Row) : Together rung rung :=
  ⟨Iff.rfl, .refl rung⟩

theorem climb_agree {first second firstAbove secondAbove : List (Rung Row)}
    (together : List.Forall₂ Together first second)
    (above : Agree (climb firstAbove) (climb secondAbove)) :
    Agree (climb (first ++ firstAbove)) (climb (second ++ secondAbove)) := by
  induction together with
  | nil => exact above
  | @cons one other _ _ here _ ih =>
    -- Two rungs that decide end the climb in both; two that pass leave it to the rest.
    obtain ⟨passes, agrees⟩ := here
    cases one with
    | pass =>
      cases passes.mp rfl
      exact ih
    | row decided =>
      cases other with
      | pass => cases passes.mpr rfl
      | row _ => exact agrees
      | throws => exact agrees
    | throws =>
      cases other with
      | pass => cases passes.mpr rfl
      | row _ => exact agrees
      | throws => exact agrees

theorem forall₂_refl (rungs : List (Rung Row)) : List.Forall₂ Together rungs rungs :=
  List.forall₂_same.mpr fun rung _ => .refl rung

variable {facts : Facts} {observedMs : Option Rat} {admissionExpired recoveryExpired : Bool}

def at' (facts : Facts) (observedMs : Option Rat) (admissionExpired recoveryExpired : Bool) :
    Facts :=
  { facts with observedMs, admissionExpired, recoveryExpired }

theorem together_when {condition : Bool} {first second : Row}
    (same : first.row = second.row → first.dates = second.dates) :
    Together (.when condition first) (.when condition second) := by
  cases condition
  · exact .refl _
  · exact ⟨by simp [when], same⟩

theorem leased_together :
    Together facts.leased (facts.at' observedMs admissionExpired recoveryExpired).leased := by
  refine together_when ?_
  unfold leasedRow
  -- The window may have lapsed in between; then the two rows have different names.
  cases facts.leaseLive <;>
    cases (facts.at' observedMs admissionExpired recoveryExpired).leaseLive
  · exact fun _ => rfl
  · exact fun same => by cases same
  · exact fun same => by cases same
  · exact fun _ => rfl

theorem ciRedRow_dates (facts : Facts) : facts.ciRedRow.dates =
    if !facts.checks.runnerless && facts.remediation.roundsLeft.isNone then
      (some .refresh, none, []) else admissionDates := by
  unfold ciRedRow
  cases facts.checks.runnerless
  · rcases facts.remediation.roundsLeft with - | - | -
    · rfl
    · rfl
    · simp only [Bool.false_eq_true, if_false]
      split <;> rfl
  · rfl

theorem ciRed_together :
    Together facts.ciRed (facts.at' observedMs admissionExpired recoveryExpired).ciRed := by
  refine together_when fun _ => ?_
  rw [ciRedRow_dates, ciRedRow_dates]
  rfl

theorem stopped_together {first second : Rung Row} {base : Row} (stops : base.row = .stop)
    (firstFits : Only (Row.Fits facts) first) (secondFits : Only (Row.Fits facts) second) :
    Together (facts.stopped (some first) base recordedMs forHead)
      (facts.stopped (some second) base recordedMs forHead) := by
  refine ⟨iff_of_false stopped_ne_pass stopped_ne_pass, ?_⟩
  -- What a stop decides is its own row, or a row of the daemon.
  have cases_ {next : Rung Row} (fits : Only (Row.Fits facts) next) {row : Row}
      (decides : facts.stopped (some next) base recordedMs forHead = .row row) :
      row = base ∨ row.dates = admissionDates ∧ row.row ≠ .stop ∧ row.row ≠ .refresh := by
    rcases stopped_cases decides with same | ⟨daemon, same⟩
    · exact .inl same
    · exact .inr ((fits row (Option.some.inj same)).daemon daemon)
  have unrefreshed {next : Rung Row} (fits : Only (Row.Fits facts) next) {row : Row}
      (decides : facts.stopped (some next) base recordedMs forHead = .row row) :
      row.row ≠ .refresh := by
    rcases cases_ fits decides with rfl | ⟨-, -, other⟩
    · simp [stops]
    · exact other
  cases one : facts.stopped (some first) base recordedMs forHead with
  | pass => exact absurd one stopped_ne_pass
  | throws =>
    cases other : facts.stopped (some second) base recordedMs forHead with
    | pass => exact absurd other stopped_ne_pass
    | throws => trivial
    | row decided => exact unrefreshed secondFits other
  | row decided =>
    cases other : facts.stopped (some second) base recordedMs forHead with
    | pass => exact absurd other stopped_ne_pass
    | throws => exact unrefreshed firstFits one
    | row next =>
      intro same
      rcases cases_ firstFits one with rfl | ⟨dated, unstopped, -⟩ <;>
        rcases cases_ secondFits other with rfl | ⟨dates, unstopped', -⟩
      · rfl
      · exact absurd (same.symm.trans stops) unstopped'
      · exact absurd (same.trans stops) unstopped
      · rw [dated, dates]

section

variable [JsText]

theorem structuralRungs_fit (facts : Facts) :
    ∀ rung ∈ facts.structuralRungs, Only (Row.Fits facts) rung := by
  intro rung listed
  simp only [structuralRungs, List.mem_cons, List.not_mem_nil, or_false] at listed
  rcases listed with rfl | rfl | rfl | rfl | rfl
  · exact only_when.2 fun _ => refresh_fits facts _
  · exact only_when.2 fun _ => recoveryRow_fits facts (by decide) _
  · unfold safety
    split
    · intro decided throws
      cases throws
    · exact only_when.2 fun _ => recoveryRow_fits facts (by decide) _
  · refine only_when.2 fun _ => ?_
    unfold primaryRow
    split
    · exact recoveryRow_fits facts (by decide) _
    · split
      · exact hammerRow_fits facts _ _
      · exact refresh_fits facts _
  · refine only_when.2 fun _ => ?_
    constructor <;> simp [recoveryRow, Row.Daemon]

theorem workRungs_fit (facts : Facts) (reselecting : Bool) :
    ∀ rung ∈ facts.workRungs reselecting, Only (Row.Fits facts) rung := by
  intro rung listed
  simp only [workRungs, List.mem_cons, List.not_mem_nil, or_false] at listed
  rcases listed with rfl | rfl | rfl | rfl | rfl | rfl | rfl | rfl | rfl | rfl | rfl | rfl | rfl |
    rfl | rfl | rfl | rfl | rfl | rfl | rfl
  · exact resumed_fits facts
  · exact only_when.2 fun _ => hammerRow_fits facts _ _
  · -- The attempt of a retry is no part of its deadline.
    exact only_when.2 fun _ => by
      constructor <;> simp [hammerRow, Row.Daemon, Row.dates, admissionDates]
  · exact labelFindings_fits facts
  · exact only_when.2 fun _ => ciRedRow_fits facts
  · exact only_when.2 fun _ => hammerRow_fits facts _ _
  · exact only_when.2 fun _ => pendingRow_fits facts _
  · exact only_when.2 fun _ => hammerRow_fits facts _ _
  · exact only_when.2 fun _ => refresh_fits facts _
  · exact only_when.2 fun _ => hammerRow_fits facts _ _
  · exact only_when.2 fun _ => daemonRow_fits facts (by decide) _
  · exact only_when.2 fun _ => exactHeadReview_fits facts _
  · exact only_when.2 fun _ => exactHeadReview_fits facts _
  · exact only_when.2 fun _ => by
      constructor <;> simp [hammerRow, Row.Daemon, Row.dates, admissionDates]
  · exact only_when.2 fun _ => exactHeadReview_fits facts _
  · exact only_when.2 fun _ => refresh_fits facts _
  · exact only_when.2 fun _ => findingsRow_fits facts
  · refine only_when.2 fun _ => ?_
    split
    · exact hammerRow_fits facts _ _
    · exact refresh_fits facts _
  · exact only_when.2 fun _ => daemonRow_fits facts (by decide) _
  · intro decided decides
    cases decides
    exact refresh_fits facts _

variable [JsDate]

theorem ladder_fits (facts : Facts) {reselected : Option (Rung Row)}
    (again : ∀ next, reselected = some next → Only (Row.Fits facts) next) :
    Only (Row.Fits facts) (climb (facts.ladder reselected)) := by
  apply only_climb
  intro rung listed
  simp only [ladder, List.mem_append] at listed
  have none : Only (Row.Fits facts) (.pass : Rung Row) := fun decided decides => by cases decides
  rcases listed with ((owner | structural) | stop) | work
  · exact facts.ownerRungs_fit rung owner
  · exact facts.structuralRungs_fit rung structural
  · simp only [stopRungs, List.mem_cons, List.not_mem_nil, or_false] at stop
    rcases stop with rfl | rfl | rfl | rfl | rfl
    · unfold automatedStop
      split
      · exact stopped_fits again (recoveryRow_fits facts (by decide) _)
      · exact none
    · refine only_when.2 fun _ => ?_
      split
      · exact hammerRow_fits facts _ _
      · constructor <;> simp [Row.Daemon]
    · exact only_when.2 fun _ => hammerRow_fits facts _ _
    · unfold capStop
      split
      · exact stopped_fits again (recoveryRow_fits facts (by decide) _)
      · exact none
    · unfold finalStop
      split
      · refine stopped_fits again ?_
        constructor <;> simp [recoveryRow, Row.Daemon]
      · exact none
  · exact facts.workRungs_fit _ rung work

theorem reselect_fits (facts : Facts) : Only (Row.Fits facts) facts.reselect :=
  ladder_fits facts fun _ nothing => by cases nothing

theorem selectRow_fits (facts : Facts) : Only (Row.Fits facts) facts.selectRow :=
  ladder_fits facts fun next same => by
    cases same
    exact reselect_fits facts

omit [JsText] in
theorem stopRungs_together {first second : Rung Row} (firstFits : Only (Row.Fits facts) first)
    (secondFits : Only (Row.Fits facts) second) :
    List.Forall₂ Together (facts.stopRungs (some first))
      ((facts.at' observedMs admissionExpired recoveryExpired).stopRungs (some second)) := by
  refine .cons ?_ (.cons (.refl _) (.cons (.refl _) (.cons ?_ (.cons ?_ .nil))))
  -- Nothing that a stop reads of the facts changes with the observation.
  · change Together _ (facts.automatedStop (some second))
    unfold automatedStop
    simp only [Option.isSome_some]
    split
    · exact stopped_together rfl firstFits secondFits
    · exact .refl _
  · change Together _ (facts.capStop (some second))
    unfold capStop
    simp only [Option.isSome_some]
    split
    · exact stopped_together rfl firstFits secondFits
    · exact .refl _
  · change Together _ (facts.finalStop (some second))
    unfold finalStop
    simp only [Option.isSome_some]
    split
    · exact stopped_together rfl firstFits secondFits
    · exact .refl _

omit [JsDate] in
theorem workRungs_above_agree (reselecting : Bool) :
    Agree (climb ((facts.workRungs reselecting).drop 3))
      (climb (((facts.at' observedMs admissionExpired recoveryExpired).workRungs
        reselecting).drop 3)) := by
  have together : List.Forall₂ Together ((facts.workRungs reselecting).drop 3)
      (((facts.at' observedMs admissionExpired recoveryExpired).workRungs reselecting).drop 3) :=
    .cons (.refl _) (.cons ciRed_together (forall₂_refl _))
  have climbed := @climb_agree _ _ [] [] together (.refl _)
  rwa [List.append_nil, List.append_nil] at climbed

omit [JsDate] in
theorem retry_agree (read : Facts) {row : Row} (named : row.row = .retry)
    (dated : row.dates = admissionDates) :
    Agree (.row row) (climb ((read.workRungs false).drop 3)) ∧
      Agree (climb ((read.workRungs false).drop 3)) (.row row) := by
  have fits : Only (Row.Fits read) (climb ((read.workRungs false).drop 3)) :=
    only_climb fun rung listed => workRungs_fit read false rung (List.mem_of_mem_drop listed)
  cases above : climb ((read.workRungs false).drop 3) with
  | pass => exact ⟨by simp [Agree, named], by simp [Agree, named]⟩
  | throws => exact ⟨by simp [Agree, named], by simp [Agree, named]⟩
  | row other =>
    have again : other.row = .retry → other.dates = admissionDates := (fits other above).retry
    exact ⟨fun same => by rw [dated, again (same.symm.trans named)],
      fun same => by rw [dated, again (same.trans named)]⟩

omit [JsDate] in
theorem workRungs_agree : Agree (climb (facts.workRungs false))
    (climb ((facts.at' observedMs admissionExpired recoveryExpired).workRungs false)) := by
  let later := facts.at' observedMs admissionExpired recoveryExpired
  have reached : Agree (climb (facts.retryNoMerge false :: (facts.workRungs false).drop 3))
      (climb (later.retryNoMerge false :: (later.workRungs false).drop 3)) := by
    unfold retryNoMerge Rung.when
    split <;> split
    -- The recovery may have expired between the two observations, in either order.
    · exact fun _ => rfl
    · exact (retry_agree later rfl rfl).1
    · exact (retry_agree facts rfl rfl).2
    · exact workRungs_above_agree false
  exact climb_agree (forall₂_refl [facts.resumed, facts.exhaustedApproved]) reached

theorem selectRow_agree : Agree facts.selectRow
    (facts.at' observedMs admissionExpired recoveryExpired).selectRow := by
  have owners : List.Forall₂ Together facts.ownerRungs
      (facts.at' observedMs admissionExpired recoveryExpired).ownerRungs := by
    refine .cons (.refl _) (.cons (.refl _) (.cons (.refl _) (.cons (.refl _) (.cons (.refl _)
      (.cons (.refl _) (.cons (.refl _) (.cons (.refl _) (.cons (.refl _) (.cons (.refl _)
      (.cons leased_together .nil))))))))))
  have structural : List.Forall₂ Together facts.structuralRungs
      (facts.at' observedMs admissionExpired recoveryExpired).structuralRungs := forall₂_refl _
  have stops : List.Forall₂ Together (facts.stopRungs (some facts.reselect))
      ((facts.at' observedMs admissionExpired recoveryExpired).stopRungs
        (some (facts.at' observedMs admissionExpired recoveryExpired).reselect)) :=
    stopRungs_together facts.reselect_fits
      ((facts.at' observedMs admissionExpired recoveryExpired).reselect_fits.mono
        fun _ fits => ⟨fits.extra, fits.retry, fits.daemon, fits.undated⟩)
  unfold selectRow ladder
  rw [List.append_assoc, List.append_assoc, List.append_assoc, List.append_assoc]
  exact climb_agree owners (climb_agree structural (climb_agree stops workRungs_agree))

end

end Facts

section

variable [JsDate]

def anchorTimes (snapshot : Json) : List Rat :=
  match snapshot.get? "anchors" with
  | some (.obj members) => members.filterMap fun anchor => timeMs (some anchor.2)
  | _ => []

structure Reobserved (snapshot after : Json) (observed later : Rat) : Prop where
  kept : ∀ name, name ≠ "observedAt" → after.get? name = snapshot.get? name
  first : timeMs (snapshot.get? "observedAt") = some observed
  second : timeMs (after.get? "observedAt") = some later
  ordered : observed ≤ later
  anchored : ∃ ms ∈ anchorTimes snapshot, ms ≤ observed
  unseen : ∀ ms ∈ anchorTimes snapshot, ms ≤ later → ms ≤ observed

variable {snapshot after : Json} {observed later : Rat}

theorem anchorFor_eq (snapshot : Json) (observedMs : Option Rat) (extraMs : List Rat) :
    anchorFor snapshot observedMs extraMs =
      (maxMs ((anchorTimes snapshot ++ extraMs).filter fun ms => observedMs.all (ms ≤ ·))).elim
        (observedMs, if observedMs.isNone then .none else .observed)
        fun ms => (some ms, .durable) := by
  unfold anchorFor anchorTimes
  rcases snapshot.get? "anchors" with - | anchors
  · dsimp only
    generalize maxMs _ = latest
    cases latest <;> rfl
  · cases anchors <;> dsimp only <;> generalize maxMs _ = latest <;> cases latest <;> rfl

theorem Reobserved.anchorFor (again : Reobserved snapshot after observed later)
    {extraMs : List Rat} (extra : ∀ ms ∈ extraMs, ms ≤ later → ms ≤ observed) :
    NextAction.anchorFor after (some later) extraMs =
      NextAction.anchorFor snapshot (some observed) extraMs := by
  have visible : (anchorTimes snapshot ++ extraMs).filter
      (fun ms => (some later).all (ms ≤ ·)) =
      (anchorTimes snapshot ++ extraMs).filter fun ms => (some observed).all (ms ≤ ·) := by
    apply List.filter_congr
    intro ms listed
    have before : ms ≤ later ↔ ms ≤ observed := by
      refine ⟨?_, fun early => early.trans again.ordered⟩
      rcases List.mem_append.mp listed with anchor | progress
      · exact again.unseen ms anchor
      · exact extra ms progress
    simp [before]
  have same : anchorTimes after = anchorTimes snapshot := by
    unfold anchorTimes
    rw [again.kept _ (by decide)]
  -- The anchor that was visible is still visible, so the observation itself never anchors.
  obtain ⟨ms, listed, early⟩ := again.anchored
  have some_ : maxMs ((anchorTimes snapshot ++ extraMs).filter
      fun ms => (some observed).all (ms ≤ ·)) ≠ none := by
    have member : ms ∈ (anchorTimes snapshot ++ extraMs).filter
        (fun ms => (some observed).all (ms ≤ ·)) :=
      List.mem_filter.mpr ⟨List.mem_append_left _ listed, by simpa using early⟩
    intro nothing
    cases held : (anchorTimes snapshot ++ extraMs).filter
        (fun ms => (some observed).all (ms ≤ ·)) with
    | nil => rw [held] at member; cases member
    | cons first rest => rw [held] at nothing; cases nothing
  obtain ⟨latest, found⟩ := Option.ne_none_iff_exists'.mp some_
  rw [anchorFor_eq, anchorFor_eq, same, visible, found]
  rfl

theorem Reobserved.deadline (again : Reobserved snapshot after observed later)
    {extraMs : List Rat} (extra : ∀ ms ∈ extraMs, ms ≤ later → ms ≤ observed)
    (kind : DeadlineKind) (atMs : Option Rat) :
    NextAction.deadline after (some later) kind atMs extraMs =
      NextAction.deadline snapshot (some observed) kind atMs extraMs := by
  simp only [NextAction.deadline, again.anchorFor extra]

variable [CheckRollups] [JsText]

def progressTimes (snapshot : Json) : List Rat :=
  ((checksFacts (observation snapshot .checks)).bind (·.progressMs)).toList

variable [LaunchSdk]

theorem Reobserved.snapshotFacts (again : Reobserved snapshot after observed later) :
    NextAction.snapshotFacts after =
      (NextAction.snapshotFacts snapshot).map fun read =>
        { read with observedMs := some later } := by
  have seen (source : Source) : observation after source = observation snapshot source := by
    simp only [observation, again.kept "observations" (by decide)]
  simp only [NextAction.snapshotFacts, seen, again.kept "head" (by decide), again.second,
    Option.bind_eq_bind, Option.pure_def, Option.map_bind, Function.comp_def, Option.map_some]

def outcome (snapshot : Json) : Rung Row :=
  match decide? snapshot with
  | some (_, selected) => .row selected
  | none => .throws

omit [CheckRollups] [JsText] [LaunchSdk] in
theorem expired_eq (snapshot : Json) (observedMs : Option Rat) (kind : DeadlineKind) :
    expired snapshot observedMs kind = (NextAction.deadline snapshot observedMs kind none []).map
      fun due => match observedMs, due.dueAt with
        | some observed, some dueAt => (timeMs (some (.str dueAt))).getD 0 ≤ observed
        | _, _ => false := by
  unfold expired
  cases NextAction.deadline snapshot observedMs kind none [] <;> rfl

def Facts.outcome (facts : Facts) : Rung Row :=
  match facts.selectRow with
  | .row selected => .row (facts.recoverLapsedRow selected)
  | _ => .throws

omit [CheckRollups] [LaunchSdk] in
theorem Facts.outcome_agree (facts : Facts) (observedMs : Option Rat)
    (admissionExpired recoveryExpired : Bool) :
    Facts.Agree facts.outcome (facts.at' observedMs admissionExpired recoveryExpired).outcome := by
  have agrees : Facts.Agree facts.selectRow
      (facts.at' observedMs admissionExpired recoveryExpired).selectRow := Facts.selectRow_agree
  unfold Facts.outcome
  cases one : facts.selectRow <;>
    cases other : (facts.at' observedMs admissionExpired recoveryExpired).selectRow <;>
      rw [one, other] at agrees
  case row.row first second =>
    intro same
    obtain ⟨name, dates⟩ := facts.recoverLapsedRow_dates first
    obtain ⟨name', dates'⟩ :=
      (facts.at' observedMs admissionExpired recoveryExpired).recoverLapsedRow_dates second
    rw [dates, dates']
    exact agrees (by rw [← name, ← name', same])
  case row.throws first =>
    exact fun same => agrees ((facts.recoverLapsedRow_dates first).1.symm.trans same)
  case row.pass first =>
    exact fun same => agrees ((facts.recoverLapsedRow_dates first).1.symm.trans same)
  case throws.row second =>
    exact fun same => agrees (((facts.at' observedMs admissionExpired
      recoveryExpired).recoverLapsedRow_dates second).1.symm.trans same)
  case pass.row second =>
    exact fun same => agrees (((facts.at' observedMs admissionExpired
      recoveryExpired).recoverLapsedRow_dates second).1.symm.trans same)
  all_goals trivial

theorem outcome_eq (snapshot : Json) : outcome snapshot =
    match timedFacts snapshot with
    | some facts => facts.outcome
    | none => .throws := by
  unfold outcome decide? timedFacts
  cases NextAction.snapshotFacts snapshot with
  | none => rfl
  | some read =>
    simp only [Option.bind_eq_bind, Option.bind_some]
    cases expired snapshot read.observedMs .admission with
    | none => rfl
    | some admission =>
      simp only [Option.bind_some]
      cases expired snapshot read.observedMs .recovery with
      | none => rfl
      | some recovery =>
        simp only [Option.bind_some, Option.pure_def, Facts.outcome]
        cases Facts.selectRow { read with
          admissionExpired := admission, recoveryExpired := recovery } <;> rfl

theorem snapshotFacts_observed {read : Facts}
    (reads : NextAction.snapshotFacts snapshot = some read) :
    read.observedMs = timeMs (snapshot.get? "observedAt") := by
  simp only [NextAction.snapshotFacts, Option.bind_eq_bind, Option.bind_eq_some_iff,
    Option.pure_def, Option.some.injEq] at reads
  obtain ⟨checks, -, review, -, launch, -, rfl⟩ := reads
  rfl

theorem Reobserved.outcome (again : Reobserved snapshot after observed later) :
    Facts.Agree (NextAction.outcome snapshot) (NextAction.outcome after) := by
  have due (kind : DeadlineKind) : NextAction.deadline after (some later) kind none [] =
      NextAction.deadline snapshot (some observed) kind none [] :=
    again.deadline (fun _ listed => by cases listed) kind none
  rw [outcome_eq, outcome_eq]
  unfold timedFacts
  rw [again.snapshotFacts]
  cases facts : NextAction.snapshotFacts snapshot with
  | none => trivial
  | some read =>
    have first : read.observedMs = some observed := snapshotFacts_observed facts ▸ again.first
    -- The two expiries throw together, as they are made from the same anchors.
    simp only [Option.map_some, Option.bind_eq_bind, Option.bind_some, expired_eq, due, first]
    cases NextAction.deadline snapshot (some observed) .admission none [] with
    | none => trivial
    | some admission =>
      cases NextAction.deadline snapshot (some observed) .recovery none [] with
      | none => trivial
      | some recovery => exact Facts.outcome_agree _ _ _ _

variable {decision : Decision}

omit [CheckRollups] [JsText] [LaunchSdk] in
theorem decided_eq_some {snapshot : Json} {head : Option String} {observedMs : Option Rat}
    {deferredBy : Option Deferral} {selected : Row}
    (decides : decided snapshot head observedMs deferredBy selected = some decision) :
    decision.row = selected.row ∧ decision.action = selected.action ∧
      match selected.deadlineKind with
      | none => decision.deadline = none
      | some kind => decision.deadline.isSome = true ∧
          NextAction.deadline snapshot observedMs kind selected.deadlineAtMs
            (selected.extraAnchorMs.filterMap id) = decision.deadline := by
  unfold decided at decides
  cases dated : selected.deadlineKind with
  | none =>
    rw [dated] at decides
    cases decides
    exact ⟨rfl, rfl, rfl⟩
  | some kind =>
    rw [dated] at decides
    cases due : NextAction.deadline snapshot observedMs kind selected.deadlineAtMs
        (selected.extraAnchorMs.filterMap id) with
    | none =>
      simp only [due] at decides
      cases decides
    | some due_ =>
      simp only [due] at decides
      cases decides
      exact ⟨rfl, rfl, rfl, due⟩

theorem nextAction_some (decides : nextAction snapshot = some decision) :
    (∃ facts selected, timedFacts snapshot = some facts ∧ facts.selectRow = .row selected ∧
      NextAction.outcome snapshot = .row (facts.recoverLapsedRow selected) ∧
      ∃ deferredBy, decided snapshot facts.head facts.observedMs deferredBy
        (facts.recoverLapsedRow selected) = some decision) ∨
    NextAction.outcome snapshot = .throws ∧
      decided snapshot none none none (refresh "snapshot-malformed") = some decision := by
  unfold nextAction at decides
  split at decides
  · next facts selected chosen =>
    have selects : NextAction.outcome snapshot = .row selected := by
      unfold NextAction.outcome
      rw [chosen]
    obtain ⟨_, -, decides⟩ := Option.bind_eq_some_iff.mp decides
    simp only [decide?, Option.bind_eq_bind, Option.bind_eq_some_iff] at chosen
    obtain ⟨read, reads, admission, admits, recovery, recovers, rest⟩ := chosen
    have timed : timedFacts snapshot = some { read with
        admissionExpired := admission, recoveryExpired := recovery } := by
      simp [timedFacts, reads, admits, recovers]
    split at rest
    · next row_ rows =>
      simp only [Option.pure_def, Option.some.injEq, Prod.mk.injEq] at rest
      obtain ⟨rfl, rfl⟩ := rest
      exact .inl ⟨_, row_, timed, rows, selects, _, decides⟩
    · cases rest
  · next nothing =>
    refine .inr ⟨?_, decides⟩
    unfold NextAction.outcome
    rw [nothing]

theorem timedFacts_observed {facts : Facts} (timed : timedFacts snapshot = some facts) :
    facts.observedMs = timeMs (snapshot.get? "observedAt") := by
  simp only [timedFacts, Option.bind_eq_bind, Option.bind_eq_some_iff, Option.pure_def,
    Option.some.injEq] at timed
  obtain ⟨read, reads, _, -, _, -, rfl⟩ := timed
  have first := snapshotFacts_observed reads
  exact first

theorem extra_progress {facts : Facts} {selected : Row}
    (timed : timedFacts snapshot = some facts) (selects : facts.selectRow = .row selected) :
    ∀ ms ∈ (facts.recoverLapsedRow selected).extraAnchorMs.filterMap id,
      (facts.recoverLapsedRow selected).row = .pending ∧ ms ∈ progressTimes snapshot := by
  intro ms listed
  obtain ⟨named, dates⟩ := facts.recoverLapsedRow_dates selected
  have same : (facts.recoverLapsedRow selected).extraAnchorMs = selected.extraAnchorMs :=
    congrArg (·.2.2) dates
  rw [same] at listed
  obtain ⟨stated, member, found⟩ := List.mem_filterMap.mp listed
  obtain ⟨pending, progress⟩ := (facts.selectRow_fits selected selects).extra stated member
  simp only [id_eq] at found
  refine ⟨named.trans pending, ?_⟩
  simp [progressTimes, timedFacts_checks timed, ← progress, found]

theorem Reobserved.unslid (again : Reobserved snapshot after observed later)
    {decision next : Decision} (decides : nextAction snapshot = some decision)
    (decidesNext : nextAction after = some next) (same : next.row = decision.row)
    (still : decision.row = .pending →
      ∀ ms ∈ progressTimes snapshot, ms ≤ later → ms ≤ observed) :
    next.deadline = decision.deadline := by
  have agrees := again.outcome
  rcases nextAction_some decides with ⟨facts, selected, timed, selects, one, _, made⟩ | ⟨one, made⟩
  · obtain ⟨named, -, due⟩ := decided_eq_some made
    rcases nextAction_some decidesNext with
      ⟨factsNext, selectedNext, timedNext, selectsNext, other, _, madeNext⟩ | ⟨other, madeNext⟩
    · obtain ⟨namedNext, -, dueNext⟩ := decided_eq_some madeNext
      rw [one, other] at agrees
      -- Both rows were selected; one name has one kind, one owner's deadline, the same anchors.
      have dates := agrees (by rw [← named, ← namedNext, same])
      obtain ⟨kinds, at_, extras⟩ : _ ∧ _ ∧ _ := by simpa [Row.dates] using dates
      rw [timedFacts_observed timed, again.first] at due
      rw [timedFacts_observed timedNext, again.second, ← kinds, ← at_, ← extras] at dueNext
      cases kind : (facts.recoverLapsedRow selected).deadlineKind with
      | none =>
        rw [kind] at due dueNext
        rw [due, dueNext]
      | some kind_ =>
        rw [kind] at due dueNext
        rw [← due.2, ← dueNext.2]
        refine again.deadline (fun ms listed => ?_) kind_ _
        obtain ⟨pending, progress⟩ := extra_progress timed selects ms listed
        exact still (named.trans pending) ms progress
    · -- A refresh is of malformed evidence at both observations or at neither.
      obtain ⟨namedNext, -⟩ := decided_eq_some madeNext
      rw [one, other] at agrees
      exact absurd (named.symm.trans (same.symm.trans namedNext)) agrees
  · obtain ⟨named, -, due⟩ := decided_eq_some made
    rcases nextAction_some decidesNext with
      ⟨factsNext, selectedNext, timedNext, selectsNext, other, _, madeNext⟩ | ⟨other, madeNext⟩
    · obtain ⟨namedNext, -⟩ := decided_eq_some madeNext
      rw [one, other] at agrees
      exact absurd (namedNext.symm.trans (same.trans named)) agrees
    · -- Malformed evidence is dated by every anchor, at whatever observation.
      obtain ⟨-, -, dueNext⟩ := decided_eq_some madeNext
      have anchors := again.kept "anchors" (by decide)
      rw [← due.2, ← dueNext.2]
      simp only [NextAction.deadline, NextAction.anchorFor, anchors]

def nextActions : List Action :=
  [.waitForCI, .review, .remediate, .hammer, .daemonMerge, .operatorHold, .done]

def nextActionActors : List Actor :=
  [.ci, .watcher, .reviewer, .remediator, .hammer, .daemon, .closureRecovery, .operator, .none]

/-- A decision is returned in the declared words, only a closed one has no deadline, and no later
observation of the same row moves the deadline. -/
structure Settles (snapshot : Json) : Prop where
  decides : ∃ decision, nextAction snapshot = some decision ∧
    decision.action ∈ nextActions ∧ decision.actor ∈ nextActionActors ∧
    (decision.deadline = none → decision.action = .done ∨ decision.action = .operatorHold)
  unslid : ∀ after observed later decision next, Reobserved snapshot after observed later →
    nextAction snapshot = some decision → nextAction after = some next →
    next.row = decision.row →
    (decision.row = .pending → ∀ ms ∈ progressTimes snapshot, ms ≤ later → ms ≤ observed) →
    next.deadline.map (·.dueAt) = decision.deadline.map (·.dueAt)

def inDateRange (ms : Rat) : Bool :=
  (ms.num.tdiv ms.den).natAbs ≤ 8640000000000000

def Row.datable (snapshot : Json) (observedMs : Option Rat) (selected : Row) : Bool :=
  selected.deadlineKind.all fun kind =>
    let anchorMs := (anchorFor snapshot observedMs (selected.extraAnchorMs.filterMap id)).1
    (selected.deadlineAtMs.or (anchorMs.map (· + kind.budgetMs))).all inDateRange &&
      anchorMs.all inDateRange

def Row.deferrable (facts : Facts) (selected : Row) : Bool :=
  let drain := plain (member facts.policy "drain")
  !(selected.queue = .dispatch && selected.actor.dispatchKey.isSome &&
      isBool (member drain "active") true) ||
    (Json.nullishText (member drain "epoch")).isOk

/-- What is selected can be dated, and its deferral can be written down. -/
def answerable (snapshot : Json) : Bool :=
  match decide? snapshot with
  | some (facts, selected) =>
    selected.deferrable facts && selected.datable snapshot facts.observedMs
  | none => (refresh "snapshot-malformed").datable snapshot none

omit [JsDate] [CheckRollups] [LaunchSdk] in
theorem isSome_constraintFor (facts : Facts) (selected : Row) :
    (constraintFor facts selected).isSome = selected.deferrable facts := by
  unfold constraintFor Row.deferrable
  cases selected.queue with
  | dispatch =>
    cases selected.actor.dispatchKey with
    | none => rfl
    | some key =>
      by_cases active : isBool (member (plain (member facts.policy "drain")) "active") true = true
      · simp only [active, if_true]
        cases Json.nullishText (member (plain (member facts.policy "drain")) "epoch") <;> rfl
      · simp only [active, Bool.false_eq_true, if_false, Bool.and_false, Bool.not_false,
          Bool.true_or]
        split <;> rfl
  | _ => rfl

omit [CheckRollups] [JsText] [LaunchSdk] in
theorem isSome_iso (range : ∀ ms, (JsDate.toISOString ms).isSome = true ↔
    ms.natAbs ≤ 8640000000000000) (ms : Option Rat) :
    (iso ms).isSome = ms.all inDateRange := by
  cases ms with
  | none => rfl
  | some ms =>
    rw [Bool.eq_iff_iff]
    simp [iso, inDateRange, range]

omit [CheckRollups] [JsText] [LaunchSdk] in
theorem isSome_deadline (range : ∀ ms, (JsDate.toISOString ms).isSome = true ↔
    ms.natAbs ≤ 8640000000000000) (observedMs : Option Rat) (kind : DeadlineKind)
    (atMs : Option Rat) (extraMs : List Rat) :
    (NextAction.deadline snapshot observedMs kind atMs extraMs).isSome =
      ((atMs.or ((NextAction.anchorFor snapshot observedMs extraMs).1.map
        (· + kind.budgetMs))).all inDateRange &&
        (NextAction.anchorFor snapshot observedMs extraMs).1.all inDateRange) := by
  rw [← isSome_iso range, ← isSome_iso range]
  unfold NextAction.deadline
  simp only [Option.bind_eq_bind, Option.pure_def]
  cases iso (atMs.or ((NextAction.anchorFor snapshot observedMs extraMs).1.map
      (· + kind.budgetMs))) <;>
    cases iso (NextAction.anchorFor snapshot observedMs extraMs).1 <;> rfl

omit [CheckRollups] [JsText] [LaunchSdk] in
theorem isSome_decided (head : Option String) (observedMs : Option Rat)
    (deferredBy : Option Deferral) (selected : Row) :
    (decided snapshot head observedMs deferredBy selected).isSome =
      selected.deadlineKind.all fun kind => (NextAction.deadline snapshot observedMs kind
        selected.deadlineAtMs (selected.extraAnchorMs.filterMap id)).isSome := by
  unfold decided
  cases selected.deadlineKind with
  | none => rfl
  | some kind =>
    simp only [Option.all_some, Option.bind_eq_bind, Option.pure_def]
    cases NextAction.deadline snapshot observedMs kind selected.deadlineAtMs
      (selected.extraAnchorMs.filterMap id) <;> rfl

/-- A decision is returned exactly where its deadline has the text of a date and its deferral
has one. -/
theorem isSome_nextAction (range : ∀ ms, (JsDate.toISOString ms).isSome = true ↔
    ms.natAbs ≤ 8640000000000000) (snapshot : Json) :
    (nextAction snapshot).isSome = true ↔ answerable snapshot = true := by
  have dated (head : Option String) (observedMs : Option Rat) (deferredBy : Option Deferral)
      (selected : Row) : (decided snapshot head observedMs deferredBy selected).isSome =
        selected.datable snapshot observedMs := by
    rw [isSome_decided]
    simp only [isSome_deadline range]
    rfl
  rw [Bool.coe_iff_coe]
  unfold nextAction answerable
  cases decide? snapshot with
  | none => exact dated none none none _
  | some found =>
    obtain ⟨facts, selected⟩ := found
    have readable := isSome_constraintFor facts selected
    cases deferral : constraintFor facts selected with
    | none =>
      rw [deferral] at readable
      simp [deferral, ← readable]
    | some deferredBy =>
      rw [deferral] at readable
      simp [deferral, ← readable, dated]

theorem undated_closed (decides : nextAction snapshot = some decision)
    (undated : decision.deadline = none) :
    decision.action = .done ∨ decision.action = .operatorHold := by
  rcases nextAction_some decides with ⟨facts, selected, timed, selects, -, _, made⟩ | ⟨-, made⟩
  · obtain ⟨-, action, due⟩ := decided_eq_some made
    have kinds : (facts.recoverLapsedRow selected).deadlineKind = selected.deadlineKind :=
      congrArg (·.1) (facts.recoverLapsedRow_dates selected).2
    cases kind : selected.deadlineKind with
    | none =>
      obtain ⟨actor, closed⟩ := (facts.selectRow_fits selected selects).undated kind
      -- A closed row is not the recovery owner's, so no lapse reopens it.
      have kept : facts.recoverLapsedRow selected = selected := by
        unfold Facts.recoverLapsedRow
        rw [if_pos (by simp [actor])]
      rw [action, kept]
      exact closed
    | some kind_ =>
      rw [kinds, kind] at due
      rw [undated] at due
      cases due.1
  · obtain ⟨-, -, due⟩ := decided_eq_some made
    rw [undated] at due
    cases due.1

/-- A snapshot is settled exactly where what it selects can be dated and deferred. -/
theorem nextAction_settles_iff (range : ∀ ms, (JsDate.toISOString ms).isSome = true ↔
    ms.natAbs ≤ 8640000000000000) (snapshot : Json) :
    Settles snapshot ↔ answerable snapshot = true := by
  rw [← isSome_nextAction range]
  constructor
  · rintro ⟨⟨decision, decides, -⟩, -⟩
    rw [decides]
    rfl
  · intro some_
    obtain ⟨decision, decides⟩ := Option.isSome_iff_exists.mp some_
    refine ⟨⟨decision, decides, ?_, ?_, undated_closed decides⟩, ?_⟩
    · cases decision.action <;> decide
    · cases decision.actor <;> decide
    · intro after observed later first next again decidesFirst decidesNext same still
      rw [again.unslid decidesFirst decidesNext same still]

end

theorem isoDates_range (ms : Int) :
    (JsDate.formatIso ms).isSome = true ↔ ms.natAbs ≤ 8640000000000000 := by
  unfold JsDate.formatIso
  split <;> simp_all

/-- The clean pull request is settled. -/
theorem nextAction_settles_clean :
    letI := JsText.ascii; letI := JsDate.isoDates
    letI := concludedRollups; letI := publishedStatuses
    Settles (observedSnapshot cleanObservations) := by
  let _ := JsText.ascii
  let _ := JsDate.isoDates
  let _ := concludedRollups
  let _ := publishedStatuses
  exact (nextAction_settles_iff isoDates_range _).mpr (by decide +kernel)

/-- An anchor that no date can hold makes the call throw. -/
theorem far_anchor_throws :
    letI := JsText.ascii; letI := JsDate.isoDates
    letI := concludedRollups; letI := publishedStatuses
    ¬Settles (.obj [("anchors", .obj [("a", .num 9000000000000000)])]) := by
  let _ := JsText.ascii
  let _ := JsDate.isoDates
  let _ := concludedRollups
  let _ := publishedStatuses
  rintro ⟨⟨decision, decides, -⟩, -⟩
  have throws : (nextAction (.obj [("anchors",
      .obj [("a", .num 9000000000000000)])])).isSome = false := by
    decide +kernel
  rw [decides] at throws
  cases throws

end AdversarialReview.NextAction
