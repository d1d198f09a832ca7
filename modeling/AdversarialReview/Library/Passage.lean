import Mathlib.Data.List.Pairwise

/-! Procedures that a crash may cut between two of their steps, and that are started over. -/

/-- One course of a procedure: the states that its steps left one after another, and its end. -/
structure Passage (σ : Type) where
  visited : List σ := []
  outcome : Except String σ

namespace Passage

variable {σ τ : Type}

/-- No step was taken. -/
def quiet (state : σ) : Passage σ := { outcome := .ok state }

def throws (message : String) : Passage σ := { outcome := .error message }

def step (state : σ) : Passage σ := { visited := [state], outcome := .ok state }

/-- Go on from the state where a course ended; a throw skips what follows. -/
def andThen (passage : Passage σ) (next : σ → Passage σ) : Passage σ :=
  match passage.outcome with
  | .ok state =>
    { visited := passage.visited ++ (next state).visited, outcome := (next state).outcome }
  | .error message => { passage with outcome := .error message }

def each (run : τ → σ → Passage σ) : List τ → σ → Passage σ
  | [], state => quiet state
  | task :: rest, state => (run task state).andThen (each run rest)

@[simp] theorem quiet_andThen (state : σ) (next : σ → Passage σ) :
    (quiet state).andThen next = next state := rfl

theorem andThen_ok {passage : Passage σ} {state : σ} (ended : passage.outcome = .ok state)
    (next : σ → Passage σ) : passage.andThen next =
      { visited := passage.visited ++ (next state).visited
        outcome := (next state).outcome } := by
  simp [andThen, ended]

end Passage

section

variable {σ τ : Type}

structure Restartable (run : σ → Passage σ) (states : σ → Prop) (final : σ) : Prop where
  atEnd : states final
  ends : ∀ {state}, states state → (run state).outcome = .ok final
  stays : ∀ {state}, states state → ∀ after ∈ (run state).visited, states after

/-- A state that is reached by courses of a procedure that were cut. -/
def Interrupted (run : σ → Passage σ) : σ → σ → Prop :=
  Relation.ReflTransGen fun state after => after ∈ (run state).visited

variable {states : σ → Prop}

theorem Restartable.interrupted {run : σ → Passage σ} {final start state : σ}
    (restartable : Restartable run states final) (from_ : states start)
    (cut : Interrupted run start state) : states state := by
  induction cut with
  | refl => exact from_
  | tail _ visited ih => exact restartable.stays ih _ visited

theorem Restartable.idle {run : σ → Passage σ} {state : σ} (quiet : run state = .quiet state) :
    Restartable run (· = state) state where
  atEnd := rfl
  ends := by
    rintro _ rfl
    rw [quiet]
    rfl
  stays := by
    rintro _ rfl after visited
    rw [quiet] at visited
    cases visited

theorem Restartable.preceded {run : σ → Passage σ} {start next final : σ}
    (runs : Restartable run states final) (inStates : states next)
    (steps : run start = (Passage.step next).andThen run) :
    Restartable run (fun state => state = start ∨ states state) final where
  atEnd := .inr runs.atEnd
  ends := by
    rintro state (rfl | isState)
    · rw [steps]
      exact runs.ends inStates
    · exact runs.ends isState
  stays := by
    rintro state (rfl | isState) after visited
    · rw [steps] at visited
      rcases List.mem_append.mp visited with visited | visited
      · rw [List.mem_singleton.mp visited]
        exact .inr inStates
      · exact .inr (runs.stays inStates after visited)
    · exact .inr (runs.stays isState after visited)

theorem Restartable.andThen {first second : σ → Passage σ} {before after : σ → Prop}
    {middle final : σ} (firstRuns : Restartable first before middle)
    (secondRuns : Restartable second after final) (meets : after middle)
    (settled : ∀ {state}, after state → first state = .quiet state) :
    Restartable (fun state => (first state).andThen second)
      (fun state => before state ∨ after state) final where
  atEnd := .inr secondRuns.atEnd
  ends := by
    rintro state (inBefore | inAfter)
    · rw [Passage.andThen_ok (firstRuns.ends inBefore)]
      exact secondRuns.ends meets
    · rw [settled inAfter]
      exact secondRuns.ends inAfter
  stays := by
    rintro state (inBefore | inAfter) next visited
    · rw [Passage.andThen_ok (firstRuns.ends inBefore)] at visited
      rcases List.mem_append.mp visited with visited | visited
      · exact .inl (firstRuns.stays inBefore next visited)
      · exact .inr (secondRuns.stays meets next visited)
    · rw [settled inAfter] at visited
      exact .inr (secondRuns.stays inAfter next visited)

theorem Restartable.marked {run : σ → Passage σ} {final : σ}
    (runs : Restartable run states final) (recover : σ → Passage σ) (clear : σ → σ)
    (standing : ∀ {state}, states state →
      recover state = (run state).andThen fun state => .step (clear state))
    (gone : recover (clear final) = .quiet (clear final)) :
    Restartable recover (fun state => states state ∨ state = clear final) (clear final) where
  atEnd := .inr rfl
  ends := by
    rintro state (inStates | rfl)
    · rw [standing inStates, Passage.andThen_ok (runs.ends inStates)]
      rfl
    · rw [gone]
      rfl
  stays := by
    rintro state (inStates | rfl) next visited
    · rw [standing inStates, Passage.andThen_ok (runs.ends inStates)] at visited
      rcases List.mem_append.mp visited with visited | visited
      · exact .inl (runs.stays inStates next visited)
      · exact .inr (List.mem_singleton.mp visited)
    · rw [gone] at visited
      cases visited

structure RestartableTasks (run : τ → σ → Passage σ) (ready done : τ → σ → Prop)
    (moves : τ → σ → σ → Prop) (apart : τ → τ → Prop) : Prop where
  /-- A done task has nothing to do. -/
  settled : ∀ {task state}, done task state → run task state = .quiet state
  /-- A task that can start can be cut, stays in its own part and gets done. -/
  starts : ∀ {task state}, ready task state → ∃ states final,
    Restartable (run task) states final ∧ states state ∧ done task final ∧
      ∀ {after}, states after → moves task state after
  /-- A task that is apart from the one that moves stays ready. -/
  staysReady : ∀ {task other state after}, apart other task → moves other state after →
    ready task state → ready task after
  /-- A task stays done while a later one moves. -/
  staysDone : ∀ {task other state after}, apart task other → moves other state after →
    done task state → done task after

def Moves (moves : τ → σ → σ → Prop) (tasks : List τ) : σ → σ → Prop :=
  Relation.ReflTransGen fun state after => ∃ task ∈ tasks, moves task state after

variable {run : τ → σ → Passage σ} {ready done : τ → σ → Prop} {moves : τ → σ → σ → Prop}
  {apart : τ → τ → Prop}

variable {state after : σ} {tasks : List τ}

theorem Moves.keeps_done (rules : RestartableTasks run ready done moves apart) {task : τ}
    (separate : ∀ other ∈ tasks, apart task other)
    (moved : Moves moves tasks state after) (isDone : done task state) : done task after := by
  induction moved with
  | refl => exact isDone
  | tail _ step ih =>
    obtain ⟨other, listed, step⟩ := step
    exact rules.staysDone (separate other listed) step ih

theorem Moves.widen {tasks more : List τ} (subset : tasks ⊆ more)
    (moved : Moves moves tasks state after) : Moves moves more state after :=
  Relation.ReflTransGen.mono (fun _ _ ⟨task, listed, step⟩ => ⟨task, subset listed, step⟩) _ _ moved

theorem Moves.keeps {kept : σ → σ → Prop} (same : ∀ state, kept state state)
    (composes : ∀ {state next after}, kept state next → kept next after → kept state after)
    (keeps : ∀ {task state after}, moves task state after → kept state after)
    (moved : Moves moves tasks state after) : kept state after := by
  induction moved with
  | refl => exact same state
  | tail _ step ih =>
    obtain ⟨_, _, step⟩ := step
    exact composes ih (keeps step)

theorem each_settled (rules : RestartableTasks run ready done moves apart)
    {state : σ} (allDone : ∀ task ∈ tasks, done task state) :
    Passage.each run tasks state = .quiet state := by
  induction tasks with
  | nil => rfl
  | cons task rest ih =>
    rw [Passage.each, rules.settled (allDone task (List.mem_cons_self ..))]
    exact ih fun other listed => allDone other (List.mem_cons_of_mem _ listed)

theorem each_restartable (rules : RestartableTasks run ready done moves apart)
    {start : σ} (separate : tasks.Pairwise apart) (allReady : ∀ task ∈ tasks, ready task start) :
    ∃ states final, Restartable (Passage.each run tasks) states final ∧ states start ∧
      (∀ task ∈ tasks, done task final) ∧
        ∀ {after}, states after → Moves moves tasks start after := by
  induction tasks generalizing start with
  | nil =>
    refine ⟨(· = start), start, ⟨rfl, ?_, ?_⟩, rfl, (fun _ listed => by cases listed), ?_⟩
    · rintro _ rfl
      rfl
    · rintro _ rfl _ visited
      cases visited
    · rintro _ rfl
      exact .refl
  | cons task rest ih =>
    obtain ⟨apartRest, separate⟩ := List.pairwise_cons.mp separate
    obtain ⟨states, middle, runs, atStart, taskDone, stepsFrom⟩ :=
      rules.starts (allReady task (List.mem_cons_self ..))
    -- The first task leaves the others ready, and they leave it done.
    have restReady : ∀ other ∈ rest, ready other middle := fun other listed =>
      rules.staysReady (apartRest other listed) (stepsFrom runs.atEnd)
        (allReady other (List.mem_cons_of_mem _ listed))
    obtain ⟨restStates, final, restRuns, atMiddle, restDone, restMoves⟩ := ih separate restReady
    have staysDone {state : σ} (inRest : restStates state) : done task state :=
      Moves.keeps_done rules apartRest (restMoves inRest) taskDone
    have first {state : σ} (moved : moves task start state) :
        Moves moves (task :: rest) start state :=
      .single ⟨task, List.mem_cons_self .., moved⟩
    refine ⟨_, final, runs.andThen restRuns atMiddle fun inRest =>
      rules.settled (staysDone inRest), .inl atStart, ?_, ?_⟩
    · intro other listed
      rcases List.mem_cons.mp listed with rfl | listed
      · exact staysDone restRuns.atEnd
      · exact restDone other listed
    · rintro after (inStates | inRest)
      · exact first (stepsFrom inStates)
      · exact (first (stepsFrom runs.atEnd)).trans
          ((restMoves inRest).widen (List.subset_cons_self ..))

end
