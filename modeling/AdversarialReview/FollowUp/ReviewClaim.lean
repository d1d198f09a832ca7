import Mathlib.Data.List.Sort

/-! The claim files of a review's follow-up, created and taken over, and when there is one follow-up. -/

namespace AdversarialReview.FollowUp

structure ClaimFile where
  gen : Nat
  token : Nat
  deriving DecidableEq

def followUpFolders : List String :=
  ["pending", "in-progress", "completed", "failed", "stopped", "stopped-archived"]

structure ReviewJob where
  creator : Nat
  folder : Nat

/-- How a call of `createFollowUpJob` ends. -/
inductive CreateResult where
  | created | duplicateOf | threw
  deriving DecidableEq

inductive CreateCall where
  | idle
  /-- `findFollowUpForReview`, before the claim. -/
  | finding (folder : Nat)
  /-- `claimGenerations`, for the highest one. -/
  | listing
  | reading (gen : Nat)
  /-- `abandonedReason` of the claim that was read. -/
  | judging (held : ClaimFile)
  /-- The exclusive write of a generation, with the claim that it takes over. -/
  | creating (gen : Nat) (held : Option ClaimFile)
  /-- Whether the generation that was written is the highest. -/
  | checking (gen : Nat)
  | yielding (gen : Nat)
  /-- `findFollowUpForReview`, under the claim. -/
  | refinding (gen : Nat) (folder : Nat)
  /-- The claim is held; the job is next. -/
  | writing (gen : Nat)
  /-- `releaseClaim`: its list, its token check and its removals. -/
  | releasing (gen : Nat) (result : CreateResult)
  | verifying (gen : Nat) (generations : List Nat) (result : CreateResult)
  | removing (lower : List Nat) (gen : Nat) (result : CreateResult)
  | done (result : CreateResult)
  | crashed

def CreateCall.running : CreateCall → Bool
  | .done _ | .crashed => false
  | _ => true

structure ClaimWorld where
  chain : List ClaimFile := []
  jobs : List ReviewJob := []
  calls : Nat → CreateCall := fun _ => .idle

/-- What a call meets at a step that may go one way or another. -/
inductive Answer where
  | proceeds
  /-- A claim whose holder does not run looks abandoned. -/
  | abandoned
  /-- The longest wait is over. -/
  | timesOut
  /-- The write of the job throws. -/
  | fails
  deriving DecidableEq

inductive ClaimStep where
  | advance (call : Nat) (answer : Answer := .proceeds)
  | crash (call : Nat)
  /-- The jobs of a call go forward to a later folder. -/
  | move (creator : Nat) (folder : Nat)

def highest : List ClaimFile → Option ClaimFile
  | [] => none
  | file :: rest =>
    match highest rest with
    | none => some file
    | some other => if other.gen < file.gen then some file else some other

def ClaimWorld.file (world : ClaimWorld) (gen : Nat) : Option ClaimFile :=
  world.chain.find? (·.gen = gen)

def ClaimWorld.set (world : ClaimWorld) (call : Nat) (state : CreateCall) : ClaimWorld :=
  { world with calls := Function.update world.calls call state }

/-- `rmSync` of a generation, whoever made it. -/
def ClaimWorld.remove (world : ClaimWorld) (gen : Nat) : ClaimWorld :=
  { world with chain := world.chain.filter (·.gen ≠ gen) }

def ClaimWorld.search (world : ClaimWorld) (call folder : Nat) (found : CreateCall)
    (next : Nat → CreateCall) (none : CreateCall) : ClaimWorld :=
  if folder < followUpFolders.length then
    if world.jobs.any (·.folder = folder) then world.set call found
    else world.set call (next (folder + 1))
  else world.set call none

def ClaimWorld.advance (world : ClaimWorld) (call : Nat) (answer : Answer) : ClaimWorld :=
  match world.calls call with
  | .idle => world.set call (.finding 0)
  | .finding folder =>
    world.search call folder (.done .duplicateOf) .finding .listing
  | .listing =>
    match highest world.chain with
    | none => world.set call (.creating 0 none)
    | some tail => world.set call (.reading tail.gen)
  | .reading gen =>
    match world.file gen with
    | none => world.set call (.finding 0)
    | some held => world.set call (.judging held)
  | .judging held =>
    match answer with
    -- A holder that runs never looks abandoned.
    | .abandoned =>
      if (world.calls held.token).running then world.set call (.finding 0)
      else world.set call (.creating (held.gen + 1) (some held))
    | .timesOut => world.set call (.done .threw)
    | _ => world.set call (.finding 0)
  | .creating gen _ =>
    match world.file gen with
    | some _ => world.set call (.finding 0)
    | none => { world.set call (.checking gen) with chain := world.chain ++ [⟨gen, call⟩] }
  | .checking gen =>
    if (highest world.chain).map (·.gen) = some gen then world.set call (.refinding gen 0)
    else world.set call (.yielding gen)
  | .yielding gen => (world.remove gen).set call (.finding 0)
  | .refinding gen folder =>
    world.search call folder (.releasing gen .duplicateOf) (.refinding gen) (.writing gen)
  | .writing gen =>
    if answer = .fails then world.set call (.releasing gen .threw)
    else { world.set call (.releasing gen .created) with jobs := world.jobs ++ [⟨call, 0⟩] }
  | .releasing gen result =>
    match world.file gen with
    | none => world.set call (.done result)
    | some _ =>
      let generations := (world.chain.map (·.gen)).insertionSort (· ≤ ·)
      world.set call (.verifying gen generations result)
  | .verifying gen generations result =>
    if (world.file gen).map (·.token) ≠ some call then world.set call (.done result)
    else if generations.getLast? = some gen then
      world.set call (.removing (generations.filter (· < gen)) gen result)
    else world.set call (.removing [] gen result)
  | .removing (other :: lower) gen result =>
    (world.remove other).set call (.removing lower gen result)
  | .removing [] gen result => (world.remove gen).set call (.done result)
  | .done _ => world
  | .crashed => world

def ClaimWorld.perform (world : ClaimWorld) : ClaimStep → ClaimWorld
  | .advance call answer => world.advance call answer
  | .crash call =>
    if (world.calls call).running then world.set call .crashed else world
  | .move creator folder =>
    { world with
      jobs := world.jobs.map fun job =>
        if job.creator = creator ∧ job.folder ≤ folder ∧ folder < followUpFolders.length then
          { job with folder }
        else job }

/-- A call acts on the files that it looked at, where the code does not look again. -/
def carefulStep (world : ClaimWorld) : ClaimStep → Bool
  | .advance call _ =>
    match world.calls call with
    -- A take-over finds the claim that it judged still there.
    | .creating gen (some held) => (world.file gen).isSome || world.chain.contains held
    -- The highest generation, where it has the number of the own one, is the own one.
    | .checking gen =>
      (highest world.chain).map (·.gen) ≠ some gen || world.chain.contains ⟨gen, call⟩
    -- A generation that is given up is the own one, or gone.
    | .yielding gen => world.chain.all fun file => file.gen ≠ gen || file.token = call
    | _ => true
  | _ => true

def carefulRun (world : ClaimWorld) : List ClaimStep → Bool
  | [] => true
  | step :: rest => carefulStep world step && carefulRun (world.perform step) rest

def ClaimWorld.run (world : ClaimWorld) (steps : List ClaimStep) : ClaimWorld :=
  steps.foldl ClaimWorld.perform world

def CreateCall.result : CreateCall → Option CreateResult
  | .releasing _ result | .verifying _ _ result | .removing _ _ result | .done result =>
    some result
  | _ => none

structure OneFollowUp (world : ClaimWorld) : Prop where
  atMostOne : world.jobs.length ≤ 1
  created : ∀ call, world.calls call = .done .created → ∃ job ∈ world.jobs, job.creator = call
  duplicateOf : ∀ call, world.calls call = .done .duplicateOf → world.jobs ≠ []
  threw : ∀ call, world.calls call = .done .threw → ∀ job ∈ world.jobs, job.creator ≠ call

def CreateCall.holds : CreateCall → Option Nat
  | .refinding gen _ | .writing gen | .releasing gen _ | .verifying gen _ _ | .removing _ gen _ =>
    some gen
  | _ => none

structure Fits (world : ClaimWorld) (call : Nat) (state : CreateCall) : Prop where
  /-- The generation that a call holds is there and the highest. -/
  holder : ∀ gen, state.holds = some gen →
    ⟨gen, call⟩ ∈ world.chain ∧ ∀ file ∈ world.chain, file.gen ≤ gen
  judged : ∀ gen held, state = .creating gen (some held) →
    gen = held.gen + 1 ∧ (world.calls held.token).running = false
  first : ∀ gen, state = .creating gen none → gen = 0
  /-- The jobs are in folders that the search has still before it. -/
  ahead : ∀ gen folder, state = .refinding gen folder → ∀ job ∈ world.jobs, folder ≤ job.folder
  clear : ∀ gen, state = .writing gen → world.jobs = []
  lower : ∀ others gen result, state = .removing others gen result → ∀ other ∈ others, other < gen
  created : state.result = some .created → ∃ job ∈ world.jobs, job.creator = call
  duplicateOf : state.result = some .duplicateOf → world.jobs ≠ []
  threw : state.result = some .threw → ∀ job ∈ world.jobs, job.creator ≠ call
  unwritten : state.running = true → state.result = none → ∀ job ∈ world.jobs, job.creator ≠ call

structure ClaimInv (world : ClaimWorld) : Prop where
  distinct : ∀ file ∈ world.chain, ∀ other ∈ world.chain, file.gen = other.gen → file = other
  folders : ∀ job ∈ world.jobs, job.folder < followUpFolders.length
  atMostOne : world.jobs.length ≤ 1
  calls : ∀ call, Fits world call (world.calls call)

theorem ClaimInv.oneFollowUp {world : ClaimWorld} (inv : ClaimInv world) : OneFollowUp world where
  atMostOne := inv.atMostOne
  created call ended := (inv.calls call).created (by rw [ended]; rfl)
  duplicateOf call ended := (inv.calls call).duplicateOf (by rw [ended]; rfl)
  threw call ended := (inv.calls call).threw (by rw [ended]; rfl)

theorem holds_running {state : CreateCall} {gen : Nat} (holds : state.holds = some gen) :
    state.running = true := by
  cases state <;> first | rfl | cases holds

theorem holder_unique {world : ClaimWorld} (inv : ClaimInv world) {call other gen otherGen : Nat}
    (holds : (world.calls call).holds = some gen)
    (otherHolds : (world.calls other).holds = some otherGen) : call = other := by
  obtain ⟨present, highest⟩ := (inv.calls call).holder gen holds
  obtain ⟨otherPresent, otherHighest⟩ := (inv.calls other).holder otherGen otherHolds
  have same : gen = otherGen := Nat.le_antisymm (otherHighest _ present) (highest _ otherPresent)
  have files := inv.distinct _ present _ otherPresent same
  exact congrArg ClaimFile.token files

theorem highest_spec {chain : List ClaimFile} {tail : ClaimFile}
    (found : highest chain = some tail) :
    tail ∈ chain ∧ ∀ file ∈ chain, file.gen ≤ tail.gen := by
  induction chain generalizing tail with
  | nil => cases found
  | cons file rest ih =>
    simp only [highest] at found
    split at found
    · rename_i empty
      obtain rfl := Option.some.inj found
      have none_ : rest = [] := by
        cases rest with
        | nil => rfl
        | cons next others =>
          simp only [highest] at empty
          split at empty <;> (try split at empty) <;> cases empty
      subst none_
      simp
    · rename_i other isOther
      obtain ⟨listed, below⟩ := ih isOther
      split at found
      · obtain rfl := Option.some.inj found
        refine ⟨List.mem_cons_self .., fun next present => ?_⟩
        rcases List.mem_cons.mp present with rfl | present
        · exact Nat.le_refl _
        · have := below next present
          omega
      · obtain rfl := Option.some.inj found
        refine ⟨List.mem_cons_of_mem _ listed, fun next present => ?_⟩
        rcases List.mem_cons.mp present with rfl | present
        · omega
        · exact below next present

theorem Fits.of_set {world : ClaimWorld} {call moved : Nat} {state next : CreateCall}
    (fits : Fits world call state) (running : (world.calls moved).running = true) :
    Fits (world.set moved next) call state := by
  refine { fits with judged := fun gen held isCreating => ?_ }
  obtain ⟨follows, stopped⟩ := fits.judged gen held isCreating
  refine ⟨follows, ?_⟩
  have differ : held.token ≠ moved := by
    rintro rfl
    rw [running] at stopped
    cases stopped
  simpa only [ClaimWorld.set, Function.update_of_ne differ] using stopped

theorem ClaimInv.set {world : ClaimWorld} {call : Nat} {next : CreateCall} (inv : ClaimInv world)
    (running : (world.calls call).running = true) (fits : Fits world call next) :
    ClaimInv (world.set call next) := by
  refine { inv with calls := fun other => ?_ }
  by_cases same : other = call
  · subst same
    simpa only [ClaimWorld.set, Function.update_self] using fits.of_set running
  · simpa only [ClaimWorld.set, Function.update_of_ne same] using
      (inv.calls other).of_set running

theorem ClaimInv.files {world : ClaimWorld} {chain : List ClaimFile} (inv : ClaimInv world)
    (distinct : ∀ file ∈ chain, ∀ other ∈ chain, file.gen = other.gen → file = other)
    (holders : ∀ call gen, (world.calls call).holds = some gen →
      ⟨gen, call⟩ ∈ chain ∧ ∀ file ∈ chain, file.gen ≤ gen) :
    ClaimInv { world with chain } :=
  { inv with
    distinct
    calls := fun call => { inv.calls call with holder := holders call } }

theorem ClaimInv.remove {world : ClaimWorld} {gen : Nat} (inv : ClaimInv world)
    (unheld : ∀ call other, (world.calls call).holds = some other → other ≠ gen) :
    ClaimInv (world.remove gen) := by
  refine inv.files ?_ fun call other holds => ?_
  · intro file present other otherPresent
    exact inv.distinct file (List.mem_of_mem_filter present) other
      (List.mem_of_mem_filter otherPresent)
  · obtain ⟨present, highest⟩ := (inv.calls call).holder other holds
    refine ⟨List.mem_filter.mpr ⟨present, by simpa using unheld call other holds⟩,
      fun file listed => highest file (List.mem_of_mem_filter listed)⟩

theorem fits_plain {world : ClaimWorld} {call : Nat} {state : CreateCall}
    (unwritten : ∀ job ∈ world.jobs, job.creator ≠ call) (unheld : state.holds = none)
    (noWrite : ∀ gen held, state ≠ .creating gen held) (noResult : state.result = none) :
    Fits world call state where
  holder gen holds := by simp [unheld] at holds
  judged gen held isCreating := absurd isCreating (noWrite gen _)
  first gen isCreating := absurd isCreating (noWrite gen _)
  ahead gen folder isRefinding := by simp [isRefinding, CreateCall.holds] at unheld
  clear gen isWriting := by simp [isWriting, CreateCall.holds] at unheld
  lower others gen result isRemoving := by simp [isRemoving, CreateCall.holds] at unheld
  created ended := by simp [noResult] at ended
  duplicateOf ended := by simp [noResult] at ended
  threw ended := by simp [noResult] at ended
  unwritten _ _ := unwritten

theorem fits_done {world : ClaimWorld} {call : Nat} {state : CreateCall} {result : CreateResult}
    (fits : Fits world call state) (ended : state.result = some result) :
    Fits world call (.done result) where
  holder gen holds := by cases holds
  judged gen held isCreating := by cases isCreating
  first gen isCreating := by cases isCreating
  ahead gen folder isRefinding := by cases isRefinding
  clear gen isWriting := by cases isWriting
  lower others gen last isRemoving := by cases isRemoving
  created isResult := fits.created (ended.trans isResult)
  duplicateOf isResult := fits.duplicateOf (ended.trans isResult)
  threw isResult := fits.threw (ended.trans isResult)
  unwritten running := by cases running

theorem fits_release {world : ClaimWorld} {call gen : Nat} {state next : CreateCall}
    (fits : Fits world call state) (holds : state.holds = some gen)
    (stillHolds : next.holds = some gen) (sameResult : next.result = state.result)
    (ended : ∃ result, state.result = some result)
    (lower : ∀ others other result, next = .removing others other result →
      ∀ below ∈ others, below < other) :
    Fits world call next where
  holder other otherHolds := by
    obtain rfl : gen = other := Option.some.inj (stillHolds.symm.trans otherHolds)
    exact fits.holder gen holds
  judged other held isCreating := by simp [isCreating, CreateCall.holds] at stillHolds
  first other isCreating := by simp [isCreating, CreateCall.holds] at stillHolds
  ahead other folder isRefinding := by
    obtain ⟨result, ended⟩ := ended
    rw [isRefinding, ended] at sameResult
    cases sameResult
  clear other isWriting := by
    obtain ⟨result, ended⟩ := ended
    rw [isWriting, ended] at sameResult
    cases sameResult
  lower := lower
  created isResult := fits.created (sameResult.symm.trans isResult)
  duplicateOf isResult := fits.duplicateOf (sameResult.symm.trans isResult)
  threw isResult := fits.threw (sameResult.symm.trans isResult)
  unwritten _ noResult := by
    obtain ⟨result, ended⟩ := ended
    rw [sameResult, ended] at noResult
    cases noResult

theorem search_spec {world : ClaimWorld} {call folder : Nat} {found none_ : CreateCall}
    {next : Nat → CreateCall} :
    (world.search call folder found next none_ = world.set call found ∧ world.jobs ≠ []) ∨
    (world.search call folder found next none_ = world.set call (next (folder + 1)) ∧
      ∀ job ∈ world.jobs, job.folder ≠ folder) ∨
    (world.search call folder found next none_ = world.set call none_ ∧
      followUpFolders.length ≤ folder) := by
  unfold ClaimWorld.search
  split
  · split
    · rename_i there
      refine .inl ⟨rfl, ?_⟩
      rintro empty
      simp [empty] at there
    · rename_i absent
      exact .inr (.inl ⟨rfl, by simpa using absent⟩)
  · exact .inr (.inr ⟨rfl, by omega⟩)

section

variable {world : ClaimWorld} {call : Nat}

section

variable (inv : ClaimInv world)
include inv

theorem create_below {gen other heldGen : Nat} {held : Option ClaimFile}
    (creating : world.calls call = .creating gen held) (fresh : world.file gen = none)
    (careful : carefulStep world (.advance call .proceeds) = true)
    (holds : (world.calls other).holds = some heldGen) : gen ≤ heldGen := by
  cases held with
  | none =>
    rw [(inv.calls call).first gen creating]
    exact Nat.zero_le _
  | some held =>
    obtain ⟨rfl, stopped⟩ := (inv.calls call).judged gen held creating
    have there : held ∈ world.chain := by
      simpa [carefulStep, creating, fresh] using careful
    obtain ⟨present, highest⟩ := (inv.calls other).holder heldGen holds
    rcases Nat.lt_or_eq_of_le (highest held there) with below | same
    · exact below
    · -- The highest generation is that of a call that runs, which nobody takes over.
      have files := inv.distinct held there _ present same
      rw [files, holds_running holds] at stopped
      cases stopped

theorem inv_create {gen : Nat} {held : Option ClaimFile}
    (creating : world.calls call = .creating gen held) (fresh : world.file gen = none)
    (careful : carefulStep world (.advance call .proceeds) = true) :
    ClaimInv { world.set call (.checking gen) with chain := world.chain ++ [⟨gen, call⟩] } := by
  have running : (world.calls call).running = true := by rw [creating]; rfl
  have unused : ∀ file ∈ world.chain, file.gen ≠ gen := by
    simpa [ClaimWorld.file] using fresh
  have checked := inv.set running (fits_plain
    ((inv.calls call).unwritten running (by rw [creating]; rfl)) rfl nofun rfl :
      Fits world call (.checking gen))
  refine checked.files ?_ fun other heldGen holds => ?_
  · intro file present other otherPresent same
    rcases List.mem_append.mp present with present | isNew <;>
      rcases List.mem_append.mp otherPresent with otherPresent | otherNew
    · exact inv.distinct file present other otherPresent same
    · rw [List.mem_singleton.mp otherNew] at same
      exact absurd same (unused file present)
    · rw [List.mem_singleton.mp isNew] at same
      exact absurd same.symm (unused other otherPresent)
    · rw [List.mem_singleton.mp isNew, List.mem_singleton.mp otherNew]
  · obtain ⟨present, highest⟩ := (checked.calls other).holder heldGen holds
    refine ⟨List.mem_append_left _ present, fun file listed => ?_⟩
    rcases List.mem_append.mp listed with listed | isNew
    · exact highest file listed
    · obtain rfl := List.mem_singleton.mp isNew
      by_cases own : other = call
      · subst own
        simp [ClaimWorld.set, CreateCall.holds] at holds
      · simp only [ClaimWorld.set, Function.update_of_ne own] at holds
        exact create_below inv creating fresh careful holds

theorem inv_check {gen : Nat} (checking : world.calls call = .checking gen)
    (isHighest : (highest world.chain).map (·.gen) = some gen)
    (careful : carefulStep world (.advance call .proceeds) = true) :
    ClaimInv (world.set call (.refinding gen 0)) := by
  have running : (world.calls call).running = true := by rw [checking]; rfl
  have own : ⟨gen, call⟩ ∈ world.chain := by
    simpa [carefulStep, checking, isHighest] using careful
  obtain ⟨tail, isTail, tailGen⟩ := Option.map_eq_some_iff.mp isHighest
  refine inv.set running ?_
  exact {
    holder := by
      rintro other holds
      obtain rfl := Option.some.inj holds
      exact ⟨own, fun file listed => tailGen ▸ (highest_spec isTail).2 file listed⟩
    judged := nofun
    first := nofun
    ahead := by
      rintro other folder isRefinding
      obtain ⟨rfl, rfl⟩ := CreateCall.refinding.inj isRefinding
      exact fun _ _ => Nat.zero_le _
    clear := nofun
    lower := nofun
    created := nofun
    duplicateOf := nofun
    threw := nofun
    unwritten := fun _ _ => (inv.calls call).unwritten running (by rw [checking]; rfl) }

theorem inv_write {gen : Nat} (writing : world.calls call = .writing gen) :
    ClaimInv { world.set call (.releasing gen .created) with
      jobs := world.jobs ++ [⟨call, 0⟩] } := by
  have running : (world.calls call).running = true := by rw [writing]; rfl
  have holds : (world.calls call).holds = some gen := by rw [writing]; rfl
  have none_ : world.jobs = [] := (inv.calls call).clear gen writing
  rw [none_, List.nil_append]
  refine ⟨inv.distinct, ?_, Nat.le_refl 1, fun other => ?_⟩
  · intro job listed
    rw [List.mem_singleton.mp listed]
    exact (by decide : 0 < followUpFolders.length)
  · by_cases own : other = call
    · subst own
      simp only [ClaimWorld.set, Function.update_self]
      exact {
        holder := by
          rintro next nextHolds
          obtain rfl := Option.some.inj nextHolds
          exact (inv.calls other).holder gen holds
        judged := nofun
        first := nofun
        ahead := nofun
        clear := nofun
        lower := nofun
        created := fun _ => ⟨⟨other, 0⟩, List.mem_singleton_self _, rfl⟩
        duplicateOf := fun _ => List.cons_ne_nil _ _
        threw := nofun
        unwritten := nofun }
    · have fits : Fits (world.set call (.releasing gen .created)) other (world.calls other) :=
        (inv.calls other).of_set running
      have notHolder {heldGen : Nat} (otherHolds : (world.calls other).holds = some heldGen) :
          False := own (holder_unique inv otherHolds holds)
      simp only [ClaimWorld.set, Function.update_of_ne own]
      have created {job : ReviewJob} (listed : job ∈ [(⟨call, 0⟩ : ReviewJob)]) :
          job.creator ≠ other := by
        rw [List.mem_singleton.mp listed]
        exact Ne.symm own
      exact { fits with
        ahead := fun _ _ isRefinding => (notHolder (by rw [isRefinding]; rfl)).elim
        clear := fun _ isWriting => (notHolder (by rw [isWriting]; rfl)).elim
        created := fun isResult => by
          obtain ⟨job, listed, -⟩ := (inv.calls other).created isResult
          rw [none_] at listed
          cases listed
        duplicateOf := fun _ => List.cons_ne_nil _ _
        threw := fun _ _ listed => created listed
        unwritten := fun _ _ _ listed => created listed }

theorem inv_plain {next : CreateCall}
    (running : (world.calls call).running = true) (noResult : (world.calls call).result = none)
    (unheld : next.holds = none) (noWrite : ∀ gen held, next ≠ .creating gen held)
    (stillNone : next.result = none) : ClaimInv (world.set call next) :=
  inv.set running
    (fits_plain ((inv.calls call).unwritten running noResult) unheld noWrite stillNone)

theorem inv_finding {folder : Nat} (finding : world.calls call = .finding folder) :
    ClaimInv (world.search call folder (.done .duplicateOf) .finding .listing) := by
  have running : (world.calls call).running = true := by rw [finding]; rfl
  have noResult : (world.calls call).result = none := by rw [finding]; rfl
  rcases @search_spec world call folder _ _ _ with ⟨searched, there⟩ | ⟨searched, -⟩ | ⟨searched, -⟩
  · rw [searched]
    refine inv.set running ?_
    exact {
      holder := nofun
      judged := nofun
      first := nofun
      ahead := nofun
      clear := nofun
      lower := nofun
      created := nofun
      duplicateOf := fun _ => there
      threw := nofun
      unwritten := fun stillRuns => by cases stillRuns }
  · rw [searched]
    exact inv_plain inv running noResult rfl nofun rfl
  · rw [searched]
    exact inv_plain inv running noResult rfl nofun rfl

/-- The search under the claim misses no job: the jobs only go forward. -/
theorem inv_refinding {gen folder : Nat} (refinding : world.calls call = .refinding gen folder) :
    ClaimInv (world.search call folder (.releasing gen .duplicateOf) (.refinding gen)
      (.writing gen)) := by
  have running : (world.calls call).running = true := by rw [refinding]; rfl
  have noResult : (world.calls call).result = none := by rw [refinding]; rfl
  have fits := inv.calls call
  have unwritten := fits.unwritten running noResult
  have ahead := fits.ahead gen folder refinding
  have holder : ∀ other, some gen = some other →
      ⟨other, call⟩ ∈ world.chain ∧ ∀ file ∈ world.chain, file.gen ≤ other := by
    rintro other same
    obtain rfl := Option.some.inj same
    exact fits.holder gen (by rw [refinding]; rfl)
  rcases @search_spec world call folder _ _ _ with ⟨searched, there⟩ | ⟨searched, absent⟩ |
    ⟨searched, beyond⟩
  · rw [searched]
    refine inv.set running ?_
    exact {
      holder := holder
      judged := nofun
      first := nofun
      ahead := nofun
      clear := nofun
      lower := nofun
      created := nofun
      duplicateOf := fun _ => there
      threw := nofun
      unwritten := fun _ _ => unwritten }
  · rw [searched]
    refine inv.set running ?_
    exact {
      holder := holder
      judged := nofun
      first := nofun
      ahead := by
        rintro other next isNext job listed
        obtain ⟨-, rfl⟩ := CreateCall.refinding.inj isNext
        exact Nat.lt_of_le_of_ne (ahead job listed) (Ne.symm (absent job listed))
      clear := nofun
      lower := nofun
      created := nofun
      duplicateOf := nofun
      threw := nofun
      unwritten := fun _ _ => unwritten }
  · -- Every folder was read: a job would be in a folder beyond the last.
    have none_ : world.jobs = [] := by
      refine List.eq_nil_iff_forall_not_mem.mpr fun job listed => ?_
      have := ahead job listed
      have := inv.folders job listed
      omega
    rw [searched]
    refine inv.set running ?_
    exact {
      holder := holder
      judged := nofun
      first := nofun
      ahead := nofun
      clear := fun _ _ => none_
      lower := nofun
      created := nofun
      duplicateOf := nofun
      threw := nofun
      unwritten := fun _ _ => unwritten }

theorem inv_remove {gen other : Nat} {next : CreateCall}
    (holds : (world.calls call).holds = some gen) (fits : Fits world call next)
    (apart : next.holds = none ∨ next.holds = some gen ∧ other < gen) :
    ClaimInv ((world.remove other).set call next) := by
  have running := holds_running holds
  have moved := inv.set running fits
  refine moved.remove fun holder heldGen holderHolds => ?_
  by_cases own : holder = call
  · subst own
    simp only [ClaimWorld.set, Function.update_self] at holderHolds
    rcases apart with unheld | ⟨stillHolds, below⟩
    · rw [unheld] at holderHolds
      cases holderHolds
    · rw [stillHolds] at holderHolds
      obtain rfl := Option.some.inj holderHolds
      omega
  · simp only [ClaimWorld.set, Function.update_of_ne own] at holderHolds
    exact absurd (holder_unique inv holderHolds holds) own

theorem inv_advance (answer : Answer)
    (careful : carefulStep world (.advance call .proceeds) = true) :
    ClaimInv (world.advance call answer) := by
  have fits := inv.calls call
  unfold ClaimWorld.advance
  cases state : world.calls call with
  | idle => exact inv_plain inv (by rw [state]; rfl) (by rw [state]; rfl) rfl nofun rfl
  | finding folder => exact inv_finding inv state
  | listing =>
    have running : (world.calls call).running = true := by rw [state]; rfl
    have noResult : (world.calls call).result = none := by rw [state]; rfl
    dsimp only
    split
    · refine inv.set running ?_
      exact { @fits_plain world call .listing (fits.unwritten running noResult) rfl nofun rfl with
        judged := nofun
        first := fun gen isCreating => (CreateCall.creating.inj isCreating).1.symm
        ahead := nofun
        clear := nofun
        lower := nofun }
    · exact inv_plain inv running noResult rfl nofun rfl
  | reading gen =>
    dsimp only
    split <;> exact inv_plain inv (by rw [state]; rfl) (by rw [state]; rfl) rfl nofun rfl
  | judging held =>
    have running : (world.calls call).running = true := by rw [state]; rfl
    have noResult : (world.calls call).result = none := by rw [state]; rfl
    cases answer with
    | abandoned =>
      dsimp only
      split
      · exact inv_plain inv running noResult rfl nofun rfl
      · rename_i stopped
        refine inv.set running ?_
        exact { @fits_plain world call .listing (fits.unwritten running noResult) rfl nofun rfl with
          judged := by
            rintro gen other isCreating
            obtain ⟨rfl, same⟩ := CreateCall.creating.inj isCreating
            obtain rfl := Option.some.inj same
            exact ⟨rfl, by simpa using stopped⟩
          first := nofun
          ahead := nofun
          clear := nofun
          lower := nofun }
    | timesOut =>
      refine inv.set running ?_
      exact {
        holder := nofun
        judged := nofun
        first := nofun
        ahead := nofun
        clear := nofun
        lower := nofun
        created := nofun
        duplicateOf := nofun
        threw := fun _ => fits.unwritten running noResult
        unwritten := fun stillRuns => by cases stillRuns }
    | proceeds => exact inv_plain inv running noResult rfl nofun rfl
    | fails => exact inv_plain inv running noResult rfl nofun rfl
  | creating gen held =>
    dsimp only
    split
    · exact inv_plain inv (by rw [state]; rfl) (by rw [state]; rfl) rfl nofun rfl
    · rename_i fresh
      exact inv_create inv state fresh careful
  | checking gen =>
    dsimp only
    split
    · rename_i isHighest
      exact inv_check inv state isHighest careful
    · exact inv_plain inv (by rw [state]; rfl) (by rw [state]; rfl) rfl nofun rfl
  | yielding gen =>
    have running : (world.calls call).running = true := by rw [state]; rfl
    have noResult : (world.calls call).result = none := by rw [state]; rfl
    have moved : ClaimInv (world.set call (.finding 0)) :=
      inv_plain inv running noResult rfl nofun rfl
    refine moved.remove fun holder heldGen holds same => ?_
    -- The generation that is given up is no holder's: it is the own one, or gone.
    have own : holder ≠ call := by
      rintro rfl
      simp [ClaimWorld.set, CreateCall.holds] at holds
    simp only [ClaimWorld.set, Function.update_of_ne own] at holds
    have owned : ∀ file ∈ world.chain, file.gen = gen → file.token = call := by
      simpa [carefulStep, state, imp_iff_not_or] using careful
    exact own (owned _ ((inv.calls holder).holder heldGen holds).1 same)
  | refinding gen folder => exact inv_refinding inv state
  | writing gen =>
    dsimp only
    split
    · have running : (world.calls call).running = true := by rw [state]; rfl
      have noResult : (world.calls call).result = none := by rw [state]; rfl
      refine inv.set running ?_
      exact {
        holder := by
          rintro other holds
          obtain rfl := Option.some.inj holds
          exact fits.holder gen (by rw [state]; rfl)
        judged := nofun
        first := nofun
        ahead := nofun
        clear := nofun
        lower := nofun
        created := nofun
        duplicateOf := nofun
        threw := fun _ => fits.unwritten running noResult
        unwritten := fun _ _ => fits.unwritten running noResult }
    · exact inv_write inv state
  | releasing gen result =>
    have running : (world.calls call).running = true := by rw [state]; rfl
    rw [state] at fits
    dsimp only
    split
    · exact inv.set running (fits_done fits rfl)
    · exact inv.set running (fits_release fits rfl rfl rfl ⟨result, rfl⟩ nofun)
  | verifying gen generations result =>
    have running : (world.calls call).running = true := by rw [state]; rfl
    rw [state] at fits
    dsimp only
    split
    · exact inv.set running (fits_done fits rfl)
    · split
      · refine inv.set running (fits_release fits rfl rfl rfl ⟨result, rfl⟩ ?_)
        rintro others other last isRemoving below listed
        obtain ⟨rfl, rfl, -⟩ := CreateCall.removing.inj isRemoving
        simpa using (List.mem_filter.mp listed).2
      · refine inv.set running (fits_release fits rfl rfl rfl ⟨result, rfl⟩ ?_)
        rintro others other last isRemoving below listed
        obtain ⟨rfl, -⟩ := CreateCall.removing.inj isRemoving
        cases listed
  | removing lower gen result =>
    have holds : (world.calls call).holds = some gen := by rw [state]; rfl
    rw [state] at fits
    cases lower with
    | nil => exact inv_remove inv holds (fits_done fits rfl) (.inl rfl)
    | cons other lower =>
      have below := fits.lower (other :: lower) gen result rfl
      refine inv_remove inv holds (fits_release fits rfl rfl rfl ⟨result, rfl⟩ ?_)
        (.inr ⟨rfl, below other (List.mem_cons_self ..)⟩)
      rintro others next last isRemoving next' listed
      obtain ⟨rfl, rfl, -⟩ := CreateCall.removing.inj isRemoving
      exact below next' (List.mem_cons_of_mem _ listed)
  | done result => exact inv
  | crashed => exact inv

theorem inv_crash (running : (world.calls call).running = true) :
    ClaimInv (world.set call .crashed) := by
  refine inv.set running ?_
  exact {
    holder := nofun
    judged := nofun
    first := nofun
    ahead := nofun
    clear := nofun
    lower := nofun
    created := nofun
    duplicateOf := nofun
    threw := nofun
    unwritten := fun stillRuns => by cases stillRuns }

theorem inv_move (creator folder : Nat) :
    ClaimInv (world.perform (.move creator folder)) := by
  let moved (job : ReviewJob) : ReviewJob :=
    if job.creator = creator ∧ job.folder ≤ folder ∧ folder < followUpFolders.length then
      { job with folder }
    else job
  have sameCreator (job : ReviewJob) : (moved job).creator = job.creator := by
    simp only [moved]
    split <;> rfl
  have further (job : ReviewJob) : job.folder ≤ (moved job).folder := by
    simp only [moved]
    split
    · rename_i goes
      exact goes.2.1
    · exact Nat.le_refl _
  have mapped : (world.perform (.move creator folder)).jobs = world.jobs.map moved := rfl
  have before {job : ReviewJob} (listed : job ∈ (world.perform (.move creator folder)).jobs) :
      ∃ earlier ∈ world.jobs, moved earlier = job := by
    rw [mapped] at listed
    exact List.mem_map.mp listed
  refine ⟨inv.distinct, ?_, by rw [mapped, List.length_map]; exact inv.atMostOne, fun call => ?_⟩
  · intro job listed
    obtain ⟨earlier, present, rfl⟩ := before listed
    simp only [moved]
    split
    · rename_i goes
      exact goes.2.2
    · exact inv.folders earlier present
  · have fits := inv.calls call
    have unwritten (absent : ∀ job ∈ world.jobs, job.creator ≠ call) :
        ∀ job ∈ (world.perform (.move creator folder)).jobs, job.creator ≠ call := by
      intro job listed
      obtain ⟨earlier, present, rfl⟩ := before listed
      rw [sameCreator]
      exact absent earlier present
    exact {
      holder := fits.holder
      judged := fits.judged
      first := fits.first
      ahead := by
        intro gen next isRefinding job listed
        obtain ⟨earlier, present, rfl⟩ := before listed
        exact Nat.le_trans (fits.ahead gen next isRefinding earlier present) (further earlier)
      clear := fun gen isWriting => by rw [mapped, fits.clear gen isWriting, List.map_nil]
      lower := fits.lower
      created := by
        intro ended
        obtain ⟨job, present, isCreator⟩ := fits.created ended
        refine ⟨moved job, ?_, (sameCreator job).trans isCreator⟩
        rw [mapped]
        exact List.mem_map_of_mem present
      duplicateOf := fun ended => by
        rw [mapped, ne_eq, List.map_eq_nil_iff]
        exact fits.duplicateOf ended
      threw := fun ended => unwritten (fits.threw ended)
      unwritten := fun runs noResult => unwritten (fits.unwritten runs noResult) }

theorem inv_perform {step : ClaimStep} (careful : carefulStep world step = true) :
    ClaimInv (world.perform step) := by
  cases step with
  | advance call answer => exact inv_advance inv answer careful
  | crash call =>
    simp only [ClaimWorld.perform]
    split
    · rename_i running
      exact inv_crash inv running
    · exact inv
  | move creator folder => exact inv_move inv creator folder

end

theorem inv_start : ClaimInv {} where
  distinct file present := by cases present
  folders job present := by cases present
  atMostOne := Nat.zero_le _
  calls call := fits_plain (fun job present => by cases present) rfl nofun rfl

end

theorem inv_run {world : ClaimWorld} (inv : ClaimInv world) {steps : List ClaimStep}
    (careful : carefulRun world steps = true) : ClaimInv (world.run steps) := by
  induction steps generalizing world with
  | nil => exact inv
  | cons step rest ih =>
    obtain ⟨carefulFirst, carefulRest⟩ := Bool.and_eq_true_iff.mp careful
    exact ih (inv_perform inv carefulFirst) carefulRest

/-- In a run of careful steps a review gets one follow-up at most, and every call tells so. -/
theorem one_follow_up (steps : List ClaimStep) (careful : carefulRun {} steps = true) :
    OneFollowUp (ClaimWorld.run {} steps) :=
  (inv_run inv_start careful).oneFollowUp

def advances (call count : Nat) : List ClaimStep := List.replicate count (.advance call)

def createAndWait : List ClaimStep :=
  advances 0 12 ++ advances 1 20 ++ advances 0 10 ++ advances 1 2

theorem one_follow_up_create_and_wait :
    carefulRun {} createAndWait = true ∧ OneFollowUp (ClaimWorld.run {} createAndWait) :=
  have careful : carefulRun {} createAndWait = true := by decide
  ⟨careful, one_follow_up createAndWait careful⟩

def lateTakeOver : List ClaimStep :=
  advances 0 10 ++ [.crash 0] ++
    advances 1 10 ++ [.advance 1 .abandoned] ++ advances 2 10 ++ [.advance 2 .abandoned] ++
    advances 1 9 ++ [.advance 1 .fails] ++ advances 1 4 ++
    advances 3 18 ++ advances 2 9 ++ advances 3 1 ++ advances 2 1

theorem two_follow_ups : ¬ ∀ steps, OneFollowUp (ClaimWorld.run {} steps) := by
  intro one
  have created : (ClaimWorld.run {} lateTakeOver).jobs.length = 2 := by
    decide +kernel
  have atMostOne := (one lateTakeOver).atMostOne
  omega

end AdversarialReview.FollowUp
