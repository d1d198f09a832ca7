import Mathlib

/-! The remediation rounds of one pull request: those that spawn a worker stay within the budget,
while no spent job is archived. -/

namespace AdversarialReview.FollowUp

/-- The folders of the jobs of a pull request. -/
inductive JobFolder where
  | pending | inProgress | completed | failed | stopped | stoppedArchived
  deriving DecidableEq

/-- `remediationWorker`, where a job has one: an object with its state, or another shape. -/
inductive RemediationWorker where
  | spawned | neverSpawned | malformed
  deriving DecidableEq

structure RoundJob where
  folder : JobFolder := .pending
  currentRound : Nat
  maxRounds : Nat
  remediationWorker : Option RemediationWorker := none
  /-- `singleReview.applied`: the review of a super-small pull request was its only round. -/
  singleReview : Bool := false
  /-- The rounds without a blocking finding reached their own cap before this job. -/
  nonBlockingCapped : Bool := false
  settledReview : Bool := false
  stopCode : Option String := none
  /-- How many claims of the job reached a spawn, how many rounds it gave back, and whether
  its last claim reached a spawn; no step of the code reads them. -/
  spawns : Nat := 0
  refunds : Nat := 0
  reachedSpawn : Bool := false

def JobFolder.terminal : JobFolder → Bool
  | .completed | .failed | .stopped => true
  | _ => false

def RoundJob.active (job : RoundJob) : Bool :=
  job.folder = .pending || job.folder = .inProgress

def RoundJob.neverSpawned (job : RoundJob) : Bool :=
  job.remediationWorker ≠ some .spawned

def RoundJob.isSingleReviewStop (job : RoundJob) : Bool :=
  job.singleReview && (job.folder = .stopped || job.folder = .stoppedArchived) &&
    job.stopCode = some "max-rounds-reached"

def RoundJob.completedRounds (job : RoundJob) : Nat :=
  if job.folder.terminal && !job.neverSpawned then job.currentRound
  else if (job.folder.terminal || job.folder = .stoppedArchived) && job.neverSpawned &&
      job.isSingleReviewStop then job.currentRound
  else 0

def completedRoundsForPR (jobs : List RoundJob) : Nat :=
  jobs.foldr (fun job rounds => max job.completedRounds rounds) 0

/-- What a claim finds of the branch of a job, and of the caps of its round. -/
inductive BranchAnswer where
  | resolved | blocked | unresolved
  deriving DecidableEq

/-- How a job leaves its folder for a terminal one. -/
inductive Ending where
  | completed | failed | stopped (code : String)

def Ending.folder : Ending → JobFolder
  | .completed => .completed
  | .failed => .failed
  | .stopped _ => .stopped

inductive RoundStep where
  | create (singleReview nonBlockingCapped settledReview : Bool)
  | claim (index : Nat) (branch : BranchAnswer)
  | spawn (index : Nat)
  /-- A terminal move, with the worker that its caller records; none keeps the recorded one. -/
  | finish (index : Nat) (ending : Ending) (worker : Option RemediationWorker)
  | requeueForRetry (index : Nat) (worker : Option RemediationWorker)
  | releaseInfrastructureCiStop (index : Nat)
  | archive (index : Nat)

def RoundJob.finish (job : RoundJob) (ending : Ending) (worker : Option RemediationWorker) :
    RoundJob :=
  { job with
    folder := ending.folder
    remediationWorker := worker <|> job.remediationWorker
    stopCode := match ending with
      | .stopped code => some code
      | .completed => none
      | .failed => job.stopCode }

def RoundJob.claim (budget : Nat) (branch : BranchAnswer) (job : RoundJob) : RoundJob :=
  match branch with
  | .blocked => job
  | .unresolved => job.finish (.stopped "branch-unresolved") none
  | .resolved =>
    let maxRounds := if job.maxRounds < budget then budget else job.maxRounds
    let raised := { job with maxRounds }
    if job.settledReview then raised.finish (.stopped "no-remediation-required") none
    else if maxRounds ≤ job.currentRound || job.nonBlockingCapped || job.singleReview then
      raised.finish (.stopped "max-rounds-reached") none
    else
      { raised with
        folder := .inProgress
        currentRound := job.currentRound + 1
        stopCode := none
        reachedSpawn := false }

/-- `markFollowUpJobSpawned`. -/
def RoundJob.spawn (job : RoundJob) : RoundJob :=
  { job with
    remediationWorker := some .spawned
    spawns := if job.reachedSpawn then job.spawns else job.spawns + 1
    reachedSpawn := true }

def RoundJob.refund (job : RoundJob) (worker : Option RemediationWorker) : RoundJob :=
  { job with
    folder := .pending
    currentRound := job.currentRound - 1
    remediationWorker := worker
    stopCode := none
    refunds := job.refunds + 1
    reachedSpawn := false }

def newRoundJob (budget : Nat) (jobs : List RoundJob)
    (singleReview nonBlockingCapped settledReview : Bool) : RoundJob :=
  let seeded := completedRoundsForPR jobs
  { currentRound := if singleReview then max seeded budget else seeded
    maxRounds := budget
    singleReview, nonBlockingCapped, settledReview }

def changeJob (jobs : List RoundJob) (index : Nat) (starts : RoundJob → Bool)
    (change : RoundJob → RoundJob) : List RoundJob :=
  jobs.modify index fun job => if starts job then change job else job

def performRound (budget : Nat) (jobs : List RoundJob) : RoundStep → List RoundJob
  | .create singleReview nonBlockingCapped settledReview =>
    jobs ++ [newRoundJob budget jobs singleReview nonBlockingCapped settledReview]
  | .claim index branch => changeJob jobs index (·.folder = .pending) (·.claim budget branch)
  | .spawn index => changeJob jobs index (·.folder = .inProgress) (·.spawn)
  | .finish index ending worker =>
    changeJob jobs index
      (fun job => job.folder ≠ ending.folder && job.folder ≠ .stoppedArchived)
      (·.finish ending worker)
  | .requeueForRetry index worker => changeJob jobs index (·.folder = .inProgress) (·.refund worker)
  | .releaseInfrastructureCiStop index =>
    changeJob jobs index (fun job => job.folder = .stopped || job.folder = .failed) (·.refund none)
  | .archive index =>
    changeJob jobs index (·.folder = .stopped) fun job => { job with folder := .stoppedArchived }

def recordsWorker (jobs : List RoundJob) : RoundStep → Prop
  | .finish index _ worker => ∀ job, jobs[index]? = some job → job.reachedSpawn = true →
      worker = none ∨ worker = some .spawned
  | _ => True

def sparesSpawned (jobs : List RoundJob) : RoundStep → Prop
  | .archive index => ∀ job, jobs[index]? = some job → job.folder = .stopped →
      job.neverSpawned = true
  | _ => True

def OneActive (jobs : List RoundJob) : Prop :=
  (jobs.filter (·.active)).length ≤ 1

instance (jobs : List RoundJob) : Decidable (OneActive jobs) :=
  inferInstanceAs (Decidable (_ ≤ 1))

def InScope (budget : Nat) (jobs : List RoundJob) : List RoundStep → Prop
  | [] => True
  | step :: rest => recordsWorker jobs step ∧ OneActive (performRound budget jobs step) ∧
      InScope budget (performRound budget jobs step) rest

def SparesSpawned (budget : Nat) (jobs : List RoundJob) : List RoundStep → Prop
  | [] => True
  | step :: rest => sparesSpawned jobs step ∧
      SparesSpawned budget (performRound budget jobs step) rest

def runRounds (budget : Nat) (jobs : List RoundJob) (steps : List RoundStep) : List RoundJob :=
  steps.foldl (performRound budget) jobs

/-- The claims that reached a spawn, less the rounds that were given back. -/
def netSpawns (jobs : List RoundJob) : Int :=
  (jobs.map fun job => (job.spawns : Int) - job.refunds).sum

section

def RoundJob.spent (job : RoundJob) : Bool := job.refunds < job.spawns

def RoundJob.weighs (job : RoundJob) : Bool :=
  job.spent || (job.active && job.spawns = job.refunds && !job.reachedSpawn)

def RoundJob.slot (job : RoundJob) : Nat :=
  if job.folder = .pending then job.currentRound + 1 else job.currentRound

/-- What holds of every job by itself. -/
structure JobOk (budget : Nat) (job : RoundJob) : Prop where
  maxRounds : job.maxRounds = budget
  once : job.spawns ≤ job.refunds + 1
  spent : job.spent = true → job.reachedSpawn = true ∧ job.remediationWorker = some .spawned ∧
    job.folder ≠ .pending ∧ job.folder ≠ .stoppedArchived ∧
    1 ≤ job.currentRound ∧ job.currentRound ≤ budget
  running : job.folder = .inProgress → 1 ≤ job.currentRound ∧ job.currentRound ≤ budget
  waiting : job.folder = .pending → job.reachedSpawn = false

/-- A job after a step: no more than before it counts, and in the same round. -/
structure Continues (budget : Nat) (later job : RoundJob) : Prop where
  ok : JobOk budget later
  weighs : later.weighs = true → job.weighs = true ∧ later.slot = job.slot

/-- Two jobs that count are in different rounds. -/
def Apart (job other : RoundJob) : Prop :=
  job.weighs = true → other.weighs = true → job.slot ≠ other.slot

structure RoundsInv (budget : Nat) (jobs : List RoundJob) : Prop where
  ok : ∀ job ∈ jobs, JobOk budget job
  apart : jobs.Pairwise Apart

variable {budget : Nat} {jobs : List RoundJob}

theorem continues_refl {job : RoundJob} (ok : JobOk budget job) : Continues budget job job :=
  ⟨ok, fun weighs => ⟨weighs, rfl⟩⟩

theorem continues_mem {later : List RoundJob}
    (goesOn : List.Forall₂ (Continues budget) later jobs) {next : RoundJob}
    (present : next ∈ later) : ∃ job ∈ jobs, Continues budget next job := by
  induction goesOn with
  | nil => cases present
  | cons head _ ih =>
    rcases List.mem_cons.mp present with rfl | present
    · exact ⟨_, List.mem_cons_self .., head⟩
    · obtain ⟨job, listed, goes⟩ := ih present
      exact ⟨job, List.mem_cons_of_mem _ listed, goes⟩

theorem rounds_continue {later : List RoundJob} (inv : RoundsInv budget jobs)
    (goesOn : List.Forall₂ (Continues budget) later jobs) : RoundsInv budget later := by
  obtain ⟨-, apart⟩ := inv
  induction goesOn with
  | nil => exact ⟨fun job present => (by cases present), .nil⟩
  | @cons next job laterRest rest goes others ih =>
    obtain ⟨apartRest, apart⟩ := List.pairwise_cons.mp apart
    obtain ⟨ok, apartLater⟩ := ih apart
    refine ⟨?_, List.pairwise_cons.mpr ⟨fun other present weighs otherWeighs => ?_, apartLater⟩⟩
    · intro other present
      rcases List.mem_cons.mp present with rfl | present
      · exact goes.ok
      · exact ok other present
    · -- The other job goes on from one that was apart from this one.
      obtain ⟨before, listed, otherGoes⟩ := continues_mem others present
      obtain ⟨weighed, slot⟩ := goes.weighs weighs
      obtain ⟨otherWeighed, otherSlot⟩ := otherGoes.weighs otherWeighs
      rw [slot, otherSlot]
      exact apartRest before listed weighed otherWeighed

theorem modify_continues {change : RoundJob → RoundJob} (index : Nat)
    (ok : ∀ job ∈ jobs, JobOk budget job)
    (goes : ∀ job, jobs[index]? = some job → JobOk budget job →
      Continues budget (change job) job) :
    List.Forall₂ (Continues budget) (jobs.modify index change) jobs := by
  induction jobs generalizing index with
  | nil => cases index <;> exact .nil
  | cons job rest ih =>
    have okJob := ok job (List.mem_cons_self ..)
    have okRest : ∀ other ∈ rest, JobOk budget other := fun other listed =>
      ok other (List.mem_cons_of_mem _ listed)
    cases index with
    | zero =>
      refine .cons (goes job rfl okJob) ?_
      exact List.forall₂_same.mpr fun other listed => continues_refl (okRest other listed)
    | succ index => exact .cons (continues_refl okJob) (ih index okRest fun other => goes other)

theorem rounds_change (inv : RoundsInv budget jobs) (index : Nat) {starts : RoundJob → Bool}
    {change : RoundJob → RoundJob}
    (goes : ∀ job, jobs[index]? = some job → starts job = true → JobOk budget job →
      Continues budget (change job) job) :
    RoundsInv budget (changeJob jobs index starts change) := by
  refine rounds_continue inv (modify_continues index inv.ok fun job there ok => ?_)
  split
  · exact goes job there ‹_› ok
  · exact continues_refl ok

end

section

variable {budget : Nat} {job : RoundJob}

theorem finish_continues (ok : JobOk budget job) (ending : Ending)
    (worker : Option RemediationWorker)
    (records : job.reachedSpawn = true → worker = none ∨ worker = some .spawned)
    (running : job.spent = true → job.folder ≠ .pending) :
    Continues budget (job.finish ending worker) job := by
  have notPending : ending.folder ≠ .pending := by cases ending <;> simp [Ending.folder]
  have notRunning : ending.folder ≠ .inProgress := by cases ending <;> simp [Ending.folder]
  have notArchived : ending.folder ≠ .stoppedArchived := by cases ending <;> simp [Ending.folder]
  refine ⟨⟨ok.maxRounds, ok.once, fun spent => ?_, fun isRunning => absurd isRunning notRunning,
    fun isPending => absurd isPending notPending⟩, fun weighs => ?_⟩
  · obtain ⟨reached, isSpawned, -, -, round⟩ := ok.spent spent
    refine ⟨reached, ?_, notPending, notArchived, round⟩
    rcases records reached with rfl | rfl
    · simpa [RoundJob.finish] using isSpawned
    · rfl
  · have spent : job.spent = true := by
      simpa [RoundJob.weighs, RoundJob.finish, RoundJob.active, notPending, notRunning,
        RoundJob.spent] using weighs
    refine ⟨by simp [RoundJob.weighs, spent], ?_⟩
    simp [RoundJob.slot, RoundJob.finish, notPending, running spent]

theorem spawn_continues (ok : JobOk budget job) (running : job.folder = .inProgress) :
    Continues budget job.spawn job := by
  have round := ok.running running
  have sameSlot : job.spawn.slot = job.slot := rfl
  cases reached : job.reachedSpawn with
  | true =>
    refine ⟨⟨ok.maxRounds, by simpa [RoundJob.spawn, reached] using ok.once, fun _ =>
      ⟨rfl, rfl, by simp [RoundJob.spawn, running], by simp [RoundJob.spawn, running], round⟩,
      ok.running, fun isPending => by simp [RoundJob.spawn, running] at isPending⟩,
      fun weighs => ?_⟩
    refine ⟨?_, sameSlot⟩
    simpa [RoundJob.weighs, RoundJob.spawn, RoundJob.spent, RoundJob.active, reached] using weighs
  | false =>
    -- A job that did not spawn in this claim is not spent.
    have unspent : job.spawns ≤ job.refunds := by
      by_contra more
      have spent : job.spent = true := by simpa [RoundJob.spent] using more
      rw [(ok.spent spent).1] at reached
      cases reached
    refine ⟨⟨ok.maxRounds, by simp [RoundJob.spawn, reached, unspent], fun _ =>
      ⟨rfl, rfl, by simp [RoundJob.spawn, running], by simp [RoundJob.spawn, running], round⟩,
      ok.running, fun isPending => by simp [RoundJob.spawn, running] at isPending⟩,
      fun weighs => ?_⟩
    have same : job.spawns = job.refunds := by
      simp only [RoundJob.weighs, RoundJob.spawn, RoundJob.spent, RoundJob.active, reached,
        Bool.or_eq_true, Bool.and_eq_true, decide_eq_true_eq] at weighs
      simp at weighs
      omega
    exact ⟨by simp [RoundJob.weighs, RoundJob.active, running, same, reached], sameSlot⟩

theorem refund_continues (ok : JobOk budget job) (worker : Option RemediationWorker)
    (notPending : job.folder ≠ .pending) : Continues budget (job.refund worker) job := by
  have unspent : (job.refund worker).spent = false := by
    refine decide_eq_false fun more => ?_
    have := ok.once
    have more : job.refunds + 1 < job.spawns := more
    omega
  refine ⟨⟨ok.maxRounds, ?_, fun spent => ?_, fun running => ?_, fun _ => rfl⟩, fun weighs => ?_⟩
  · have := ok.once
    simp only [RoundJob.refund]
    omega
  · rw [unspent] at spent
    cases spent
  · cases running
  · have spent : job.spent = true := by
      rw [RoundJob.weighs, unspent] at weighs
      simp only [RoundJob.refund, Bool.false_or, Bool.and_eq_true] at weighs
      have same : job.spawns = job.refunds + 1 := of_decide_eq_true weighs.1.2
      exact decide_eq_true (by omega)
    have round := (ok.spent spent).2.2.2.2.1
    refine ⟨by simp [RoundJob.weighs, spent], ?_⟩
    simp only [RoundJob.slot, RoundJob.refund, notPending, if_true, if_false]
    omega

theorem claim_continues (ok : JobOk budget job) (branch : BranchAnswer)
    (pending : job.folder = .pending) : Continues budget (job.claim budget branch) job := by
  have unspent : job.spent = true → job.folder ≠ .pending := fun spent => (ok.spent spent).2.2.1
  have unreached := ok.waiting pending
  have raised : (if job.maxRounds < budget then budget else job.maxRounds) = job.maxRounds := by
    simp [ok.maxRounds]
  cases branch with
  | blocked => exact continues_refl ok
  | unresolved => exact finish_continues ok _ none (fun _ => .inl rfl) unspent
  | resolved =>
    simp only [RoundJob.claim, raised]
    split
    · exact finish_continues ok _ none (fun _ => .inl rfl) unspent
    · split
      · exact finish_continues ok _ none (fun _ => .inl rfl) unspent
      · rename_i free
        have below : job.currentRound < budget := by
          have := ok.maxRounds
          simp at free
          omega
        refine ⟨⟨ok.maxRounds, ok.once, fun spent => absurd pending (unspent spent), fun _ =>
          ⟨Nat.succ_pos _, below⟩, fun isPending => by cases isPending⟩, fun weighs => ?_⟩
        refine ⟨?_, by simp [RoundJob.slot, pending]⟩
        simpa [RoundJob.weighs, RoundJob.active, RoundJob.spent, pending, unreached] using weighs

theorem archive_continues (ok : JobOk budget job) (spared : job.neverSpawned = true) :
    Continues budget { job with folder := .stoppedArchived } job := by
  have unspent : job.spent = false := by
    by_contra spent
    have isSpawned := (ok.spent (by simpa using spent)).2.1
    simp [RoundJob.neverSpawned, isSpawned] at spared
  refine ⟨⟨ok.maxRounds, ok.once, fun spent => ?_, (fun running => by cases running),
    (fun pending => by cases pending)⟩, fun weighs => ?_⟩
  · exact absurd (spent.symm.trans unspent) (by simp)
  · have spent : job.spent = true := by
      simpa [RoundJob.weighs, RoundJob.active, RoundJob.spent] using weighs
    rw [unspent] at spent
    cases spent

end

section

variable {budget : Nat} {jobs : List RoundJob}

theorem completedRounds_le {job : RoundJob} (listed : job ∈ jobs) :
    job.completedRounds ≤ completedRoundsForPR jobs := by
  induction jobs with
  | nil => cases listed
  | cons other rest ih =>
    simp only [completedRoundsForPR, List.foldr_cons]
    rcases List.mem_cons.mp listed with rfl | listed
    · exact Nat.le_max_left ..
    · exact Nat.le_trans (ih listed) (Nat.le_max_right ..)

theorem rounds_create (inv : RoundsInv budget jobs) (singleReview nonBlockingCapped settled : Bool)
    (one : OneActive (jobs ++
      [newRoundJob budget jobs singleReview nonBlockingCapped settled])) :
    RoundsInv budget
      (jobs ++ [newRoundJob budget jobs singleReview nonBlockingCapped settled]) := by
  let created := newRoundJob budget jobs singleReview nonBlockingCapped settled
  have isActive : created.active = true := rfl
  have idle : ∀ job ∈ jobs, job.active = false := by
    unfold OneActive at one
    rw [List.filter_append, List.length_append] at one
    have newOne : ([created].filter (·.active)).length = 1 := by simp [isActive]
    have none_ : (jobs.filter (·.active)).length = 0 := by
      change (jobs.filter (·.active)).length + ([created].filter (·.active)).length ≤ 1 at one
      omega
    intro job listed
    by_contra active
    have there := List.mem_filter.mpr ⟨listed, by simpa using active⟩
    rw [List.length_eq_zero_iff.mp none_] at there
    cases there
  have seeded : completedRoundsForPR jobs < created.slot := by
    simp only [created, RoundJob.slot, newRoundJob, if_true]
    split <;> omega
  refine ⟨fun job listed => ?_, List.pairwise_append.mpr ⟨inv.apart, List.pairwise_singleton ..,
    fun job listed other isNew weighs _ => ?_⟩⟩
  · rcases List.mem_append.mp listed with listed | isNew
    · exact inv.ok job listed
    · rw [List.mem_singleton.mp isNew]
      exact ⟨rfl, Nat.zero_le _, (fun spent => by cases spent), (fun running => by cases running),
        fun _ => rfl⟩
  · rw [List.mem_singleton.mp isNew]
    -- An old job that counts is spent and has ended, so the ledger has its round.
    have spent : job.spent = true := by
      simpa [RoundJob.weighs, idle job listed] using weighs
    obtain ⟨-, isSpawned, notPending, notArchived, -⟩ := (inv.ok job listed).spent spent
    have notActive := idle job listed
    have terminal : job.folder.terminal = true := by
      cases folder : job.folder <;>
        simp_all [RoundJob.active, JobFolder.terminal]
    have counted : job.completedRounds = job.currentRound := by
      simp [RoundJob.completedRounds, terminal, RoundJob.neverSpawned, isSpawned]
    have slot : job.slot = job.currentRound := by simp [RoundJob.slot, notPending]
    have inLedger := completedRounds_le listed
    rw [counted] at inLedger
    change job.slot ≠ created.slot
    omega

theorem rounds_step (inv : RoundsInv budget jobs) {step : RoundStep}
    (records : recordsWorker jobs step)
    (one : OneActive (performRound budget jobs step)) (spares : sparesSpawned jobs step) :
    RoundsInv budget (performRound budget jobs step) := by
  cases step with
  | create singleReview nonBlockingCapped settledReview => exact rounds_create inv _ _ _ one
  | claim index branch =>
    exact rounds_change inv index fun job _ pending ok =>
      claim_continues ok branch (of_decide_eq_true pending)
  | spawn index =>
    exact rounds_change inv index fun job _ running ok =>
      spawn_continues ok (of_decide_eq_true running)
  | finish index ending worker =>
    exact rounds_change inv index fun job there _ ok =>
      finish_continues ok ending worker (records job there) fun spent => (ok.spent spent).2.2.1
  | requeueForRetry index worker =>
    refine rounds_change inv index fun job _ running ok => refund_continues ok worker ?_
    rw [of_decide_eq_true running]
    decide
  | releaseInfrastructureCiStop index =>
    refine rounds_change inv index fun job _ ended ok => refund_continues ok none ?_
    rintro pending
    simp [pending] at ended
  | archive index =>
    exact rounds_change inv index fun job there stopped ok =>
      archive_continues ok (spares job there (of_decide_eq_true stopped))

theorem rounds_run {steps : List RoundStep} (inv : RoundsInv budget jobs)
    (inScope : InScope budget jobs steps) (spares : SparesSpawned budget jobs steps) :
    RoundsInv budget (runRounds budget jobs steps) := by
  induction steps generalizing jobs with
  | nil => exact inv
  | cons step rest ih =>
    obtain ⟨records, one, inScope⟩ := inScope
    obtain ⟨spared, spares⟩ := spares
    exact ih (rounds_step inv records one spared) inScope spares

end

section

variable {budget : Nat} {jobs : List RoundJob}

theorem spent_le_budget (inv : RoundsInv budget jobs) :
    (jobs.filter (·.spent)).length ≤ budget := by
  have distinct : ((jobs.filter (·.spent)).map (·.currentRound)).Nodup := by
    refine List.pairwise_map.mpr ((inv.apart.filter _).imp_of_mem ?_)
    intro job other listed otherListed apart
    obtain ⟨present, spent⟩ := List.mem_filter.mp listed
    obtain ⟨otherPresent, otherSpent⟩ := List.mem_filter.mp otherListed
    have round : job.slot = job.currentRound := by
      simp [RoundJob.slot, ((inv.ok job present).spent spent).2.2.1]
    have otherRound : other.slot = other.currentRound := by
      simp [RoundJob.slot, ((inv.ok other otherPresent).spent otherSpent).2.2.1]
    rw [← round, ← otherRound]
    exact apart (by simp [RoundJob.weighs, spent]) (by simp [RoundJob.weighs, otherSpent])
  have within : ((jobs.filter (·.spent)).map (·.currentRound)).toFinset ⊆ Finset.Icc 1 budget := by
    intro round listed
    obtain ⟨job, isSpent, rfl⟩ := List.mem_map.mp (List.mem_toFinset.mp listed)
    obtain ⟨present, spent⟩ := List.mem_filter.mp isSpent
    exact Finset.mem_Icc.mpr ((inv.ok job present).spent spent).2.2.2.2
  have counted := Finset.card_le_card within
  rw [List.toFinset_card_of_nodup distinct, List.length_map, Nat.card_Icc] at counted
  omega

theorem net_le_spent (ok : ∀ job ∈ jobs, JobOk budget job) :
    netSpawns jobs ≤ (jobs.filter (·.spent)).length := by
  induction jobs with
  | nil => exact Int.le_refl 0
  | cons job rest ih =>
    have others := ih fun other listed => ok other (List.mem_cons_of_mem _ listed)
    have once := (ok job (List.mem_cons_self ..)).once
    simp only [netSpawns, List.map_cons, List.sum_cons] at others ⊢
    cases spent : job.spent with
    | true =>
      simp only [List.filter_cons, spent, if_true, List.length_cons]
      omega
    | false =>
      have unspent : ¬ job.refunds < job.spawns := of_decide_eq_false spent
      simp only [List.filter_cons, spent, Bool.false_eq_true, if_false]
      omega

/-- Where no sweep archives a job that was spawned, the rounds stay within the budget. -/
theorem spawns_within_budget (budget : Nat) (steps : List RoundStep)
    (inScope : InScope budget [] steps) (spares : SparesSpawned budget [] steps) :
    netSpawns (runRounds budget [] steps) ≤ budget := by
  have start : RoundsInv budget [] := ⟨fun job listed => (by cases listed), .nil⟩
  have inv := rounds_run start inScope spares
  have spent := spent_le_budget inv
  have net := net_le_spent inv.ok
  omega

/-- A round is given back and spent again; the next job starts with the budget spent. -/
def retriedRound : List RoundStep :=
  [.create false false false, .claim 0 .resolved, .spawn 0, .requeueForRetry 0 none,
    .claim 0 .resolved, .spawn 0, .finish 0 .completed none, .create false false false,
    .claim 1 .resolved]

theorem spawns_within_budget_retried :
    InScope 1 [] retriedRound ∧ SparesSpawned 1 [] retriedRound ∧
      netSpawns (runRounds 1 [] retriedRound) ≤ (1 : Nat) := by
  have inScope : InScope 1 [] retriedRound :=
    ⟨trivial, by decide, trivial, by decide, trivial, by decide, trivial, by decide, trivial,
      by decide, trivial, by decide, fun _ _ _ => .inl rfl, by decide, trivial, by decide,
      trivial, by decide, trivial⟩
  have spares : SparesSpawned 1 [] retriedRound :=
    ⟨trivial, trivial, trivial, trivial, trivial, trivial, trivial, trivial, trivial, trivial⟩
  exact ⟨inScope, spares, spawns_within_budget 1 retriedRound inScope spares⟩

/-- A job whose worker was spawned is stopped and archived, and the next job starts anew. -/
def archivedRound : List RoundStep :=
  [.create false false false, .claim 0 .resolved, .spawn 0,
    .finish 0 (.stopped "stale-review-head") none, .archive 0, .create false false false,
    .claim 1 .resolved, .spawn 1]

theorem archived_round_spent_again : ¬ ∀ budget steps, InScope budget [] steps →
    netSpawns (runRounds budget [] steps) ≤ (budget : Nat) := by
  intro bounded
  have inScope : InScope 1 [] archivedRound :=
    ⟨trivial, by decide, trivial, by decide, trivial, by decide, fun _ _ _ => .inl rfl, by decide,
      trivial, by decide, trivial, by decide, trivial, by decide, trivial, by decide, trivial⟩
  have spawned : netSpawns (runRounds 1 [] archivedRound) = 2 := by
    decide
  have within := bounded 1 archivedRound inScope
  omega

end

end AdversarialReview.FollowUp
