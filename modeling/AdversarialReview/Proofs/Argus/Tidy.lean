import AdversarialReview.Argus.Store

/-! What a step on the queue's files may not do, and what the files keep where none does it. -/

namespace AdversarialReview.Argus

theorem mem_argusJobBuckets (bucket : JobBucket) : bucket ∈ argusJobBuckets := by
  cases bucket <;> decide

namespace Disk

def holds (disk : Disk) (bucket : JobBucket) (name : String) : Bool :=
  (disk.names bucket name).isSome

def elsewhere (disk : Disk) (bucket : JobBucket) (name : String) : Bool :=
  argusJobBuckets.any fun other => other ≠ bucket && disk.holds other name

def onlyIn (disk : Disk) (source target : JobBucket) (name : String) : Bool :=
  argusJobBuckets.all fun other => other = source || other = target || !disk.holds other name

def ownFile (disk : Disk) (bucket : JobBucket) (name : String) : Bool :=
  argusJobBuckets.all fun other =>
    other = bucket || disk.names other name ≠ disk.names bucket name

def Present (disk : Disk) (name : String) : Prop :=
  ∃ bucket, disk.names bucket name ≠ none

theorem elsewhere_iff {disk : Disk} {bucket : JobBucket} {name : String} :
    disk.elsewhere bucket name = true ↔
      ∃ other, other ≠ bucket ∧ disk.names other name ≠ none := by
  simp only [elsewhere, List.any_eq_true, Bool.and_eq_true, decide_eq_true_eq, holds,
    Option.isSome_iff_ne_none]
  exact ⟨fun ⟨other, _, rest⟩ => ⟨other, rest⟩,
    fun ⟨other, rest⟩ => ⟨other, mem_argusJobBuckets other, rest⟩⟩

theorem onlyIn_iff {disk : Disk} {source target : JobBucket} {name : String} :
    disk.onlyIn source target name = true ↔
      ∀ other, other ≠ source → other ≠ target → disk.names other name = none := by
  simp only [onlyIn, List.all_eq_true, Bool.or_eq_true, decide_eq_true_eq, holds,
    Bool.not_eq_true', Option.isSome_eq_false_iff, Option.isNone_iff_eq_none]
  constructor
  · intro all other apart away
    rcases all other (mem_argusJobBuckets other) with (same | same) | none
    · exact absurd same apart
    · exact absurd same away
    · exact none
  · intro all other _
    by_cases same : other = source
    · exact .inl (.inl same)
    · by_cases reached : other = target
      · exact .inl (.inr reached)
      · exact .inr (all other same reached)

theorem ownFile_iff {disk : Disk} {bucket : JobBucket} {name : String} :
    disk.ownFile bucket name = true ↔
      ∀ other, other ≠ bucket → disk.names other name ≠ disk.names bucket name := by
  simp only [ownFile, List.all_eq_true, Bool.or_eq_true, decide_eq_true_eq]
  exact ⟨fun all other apart => (all other (mem_argusJobBuckets other)).resolve_left apart,
    fun all other _ => Classical.or_iff_not_imp_left.mpr (all other)⟩

theorem setName_names (disk : Disk) (bucket other : JobBucket) (name wanted : String)
    (file : Option Nat) :
    (disk.setName bucket name file).names other wanted =
      if other = bucket ∧ wanted = name then file else disk.names other wanted := by
  by_cases same : wanted = name
  · subst same
    by_cases own : other = bucket
    · subst own
      simp
    · simp [setName, own]
  · simp [setName_other_name same, same]

end Disk

/--
A step that cannot lose, double or revive a record.

The last name of a record is not removed; a pending record is taken only where no third bucket
has one; a record is rewritten only where it is, and under no second name; and a look finds what
is there.
-/
def mayStep (disk : Disk) {β : Type} (effect : QueueEffect β) : Bool :=
  match effect with
  | .unlink bucket name => !disk.holds bucket name || disk.elsewhere bucket name
  | .link source target name => source = .pending && disk.onlyIn source target name
  | .rename source target name =>
    target = .pending || source = .inProgress ||
      (source = .pending && disk.onlyIn source target name)
  | .write bucket name _ => disk.holds bucket name && disk.ownFile bucket name
  | _ => true

def orderly (answers : DiskAnswers) {β : Type} (effect : StoreEffect β) (disk : Disk) : Bool :=
  match effect with
  | .queue effect => answers.failure.isSome || mayStep disk effect
  | .exists_ bucket name => answers.failure.isNone || !disk.holds bucket name
  | .remove name =>
    answers.failure.isSome || !disk.holds .pending name || disk.elsewhere .pending name
  | _ => true

/--
At most one bucket besides pending has a record, and a pending one beside it is the same file,
unless somebody is about to settle it.
-/
structure Tidy (settling : String → JobBucket → Prop) (disk : Disk) : Prop where
  bounded : ∀ bucket name file, disk.names bucket name = some file → file < disk.fresh
  single : ∀ name first second, first ≠ .pending → second ≠ .pending →
    disk.names first name ≠ none → disk.names second name ≠ none → first = second
  same : ∀ name bucket, bucket ≠ .pending → disk.names .pending name ≠ none →
    disk.names bucket name ≠ none →
    disk.names bucket name = disk.names .pending name ∨ settling name bucket

section

variable {settling : String → JobBucket → Prop} {disk : Disk} {name : String}

section

variable (tidy : Tidy settling disk)
include tidy

theorem Tidy.drop (bucket : JobBucket) :
    Tidy settling (disk.setName bucket name none) := by
  have fewer : ∀ other wanted, (disk.setName bucket name none).names other wanted ≠ none →
      disk.names other wanted = (disk.setName bucket name none).names other wanted := by
    intro other wanted held
    rw [Disk.setName_names] at held ⊢
    split at held
    · exact absurd rfl held
    next apart => rw [if_neg apart]
  constructor
  · intro other wanted file held
    refine tidy.bounded other wanted file ?_
    rw [fewer other wanted (by simp [held]), held]
  · intro wanted first second one two heldFirst heldSecond
    refine tidy.single wanted first second one two ?_ ?_
    · rwa [fewer first wanted heldFirst]
    · rwa [fewer second wanted heldSecond]
  · intro wanted other apart pending held
    rw [← fewer other wanted held, ← fewer .pending wanted pending]
    refine tidy.same wanted other apart ?_ ?_
    · rwa [fewer .pending wanted pending]
    · rwa [fewer other wanted held]

theorem Tidy.double {target : JobBucket} {file : Nat}
    (away : target ≠ .pending) (pending : disk.names .pending name = some file)
    (alone : ∀ other, other ≠ .pending → other ≠ target → disk.names other name = none) :
    Tidy settling (disk.setName target name (some file)) := by
  constructor
  · intro other wanted found held
    rw [Disk.setName_names] at held
    split at held
    · exact tidy.bounded .pending name found (pending.trans held)
    · exact tidy.bounded other wanted found held
  · intro wanted first second one two heldFirst heldSecond
    rw [Disk.setName_names] at heldFirst heldSecond
    by_cases same : wanted = name
    · subst same
      -- Every bucket but the two has no record of this name.
      have only : ∀ other, other ≠ JobBucket.pending →
          (if other = target ∧ wanted = wanted then some file else disk.names other wanted) ≠ none →
          other = target := by
        intro other apart held
        by_contra differs
        exact held (by simp [differs, alone other apart differs])
      exact (only first one heldFirst).trans (only second two heldSecond).symm
    · simp only [same, and_false, if_false] at heldFirst heldSecond
      exact tidy.single wanted first second one two heldFirst heldSecond
  · intro wanted other apart pendingHeld held
    simp only [Disk.setName_names, away.symm, false_and, if_false] at pendingHeld held ⊢
    by_cases same : other = target ∧ wanted = name
    · obtain ⟨rfl, rfl⟩ := same
      exact .inl (by simp [pending])
    · rw [if_neg same] at held ⊢
      exact tidy.same wanted other apart pendingHeld held

theorem Tidy.handBack {source : JobBucket} {file : Nat}
    (away : source ≠ .pending) (found : disk.names source name = some file) :
    Tidy settling ((disk.setName .pending name (some file)).setName source name none) := by
  constructor
  · intro other wanted held heldAt
    simp only [Disk.setName_names] at heldAt
    split at heldAt
    · cases heldAt
    · split at heldAt
      · exact tidy.bounded source name held (found.trans heldAt)
      · exact tidy.bounded other wanted held heldAt
  · intro wanted first second one two heldFirst heldSecond
    have before : ∀ other, other ≠ JobBucket.pending →
        ((disk.setName .pending name (some file)).setName source name none).names other wanted
          ≠ none → disk.names other wanted ≠ none := by
      intro other apart held
      simp only [Disk.setName_names, apart, false_and, if_false] at held
      split at held
      · exact absurd rfl held
      · exact held
    exact tidy.single wanted first second one two (before first one heldFirst)
      (before second two heldSecond)
  · intro wanted other apart pending held
    simp only [Disk.setName_names, apart, away.symm, false_and, if_false, true_and]
      at pending held ⊢
    by_cases same : wanted = name
    · -- The record was in its old bucket only, so nothing is beside it now.
      subst same
      by_cases own : other = source
      · simp [own] at held
      · simp only [own, false_and, if_false] at held
        exact absurd (tidy.single wanted other source apart away held (by simp [found])) own
    · simp only [same, and_false, if_false] at pending held ⊢
      exact tidy.same wanted other apart pending held

theorem Tidy.advance {target : JobBucket} {file : Nat}
    (away : target ≠ .pending) (forward : settling name .inProgress → settling name target)
    (found : disk.names .inProgress name = some file) :
    Tidy settling ((disk.setName target name (some file)).setName .inProgress name none) := by
  have only : ∀ other, other ≠ JobBucket.pending → disk.names other name ≠ none →
      other = .inProgress := fun other apart held =>
    tidy.single name other .inProgress apart (by decide) held (by simp [found])
  constructor
  · intro other wanted held heldAt
    simp only [Disk.setName_names] at heldAt
    split at heldAt
    · cases heldAt
    · split at heldAt
      · exact tidy.bounded .inProgress name held (found.trans heldAt)
      · exact tidy.bounded other wanted held heldAt
  · intro wanted first second one two heldFirst heldSecond
    by_cases same : wanted = name
    · subst same
      have moved : ∀ other, other ≠ JobBucket.pending →
          ((disk.setName target wanted (some file)).setName .inProgress wanted none).names other
            wanted ≠ none → other = target := by
        intro other apart held
        simp only [Disk.setName_names, and_true] at held
        by_contra differs
        split at held
        · exact held rfl
        next elsewhere => exact elsewhere (only other apart held)
      exact (moved first one heldFirst).trans (moved second two heldSecond).symm
    · simp only [Disk.setName_names, same, and_false, if_false] at heldFirst heldSecond
      exact tidy.single wanted first second one two heldFirst heldSecond
  · intro wanted other apart pending held
    have still : JobBucket.pending ≠ .inProgress := by decide
    simp only [Disk.setName_names, away.symm, still, false_and, if_false] at pending held ⊢
    by_cases same : wanted = name
    · subst same
      simp only [and_true] at held ⊢
      split at held
      · exact absurd rfl held
      next elsewhere =>
        rw [if_neg elsewhere]
        by_cases own : other = target
        · subst own
          rw [if_pos rfl]
          exact (tidy.same wanted .inProgress (by decide) pending (by simp [found])).imp
            (fun equal => found.symm.trans equal) forward
        · rw [if_neg own] at held
          exact absurd (only other apart held) elsewhere
    · simp only [same, and_false, if_false] at held ⊢
      exact tidy.same wanted other apart pending held

theorem Tidy.rewrite {bucket : JobBucket} (record : Json) (held : disk.names bucket name ≠ none)
    (own : ∀ other, other ≠ bucket → disk.names other name ≠ disk.names bucket name) :
    Tidy settling (disk.write bucket name record) := by
  have names : ∀ other wanted, (disk.write bucket name record).names other wanted =
      if other = bucket ∧ wanted = name then some disk.fresh else disk.names other wanted :=
    fun other wanted => Disk.setName_names disk bucket other name wanted _
  have before : ∀ other wanted, (disk.write bucket name record).names other wanted ≠ none →
      disk.names other wanted ≠ none := by
    intro other wanted heldAt
    rw [names] at heldAt
    split at heldAt
    next same => rwa [same.1, same.2]
    · exact heldAt
  constructor
  · intro other wanted file heldAt
    show file < disk.fresh + 1
    rw [names] at heldAt
    split at heldAt
    · have : disk.fresh = file := Option.some.inj heldAt
      omega
    · have := tidy.bounded other wanted file heldAt
      omega
  · intro wanted first second one two heldFirst heldSecond
    exact tidy.single wanted first second one two (before _ _ heldFirst) (before _ _ heldSecond)
  · intro wanted other apart pending heldAt
    have settled := tidy.same wanted other apart (before _ _ pending) (before _ _ heldAt)
    rw [names, names]
    by_cases same : wanted = name
    · subst same
      -- Two names of one file stand for it no longer only if neither is rewritten.
      rcases settled with equal | settled
      · by_cases rewritten : other = bucket
        · subst rewritten
          exact absurd equal.symm (own .pending apart.symm)
        · by_cases pendingOne : JobBucket.pending = bucket
          · subst pendingOne
            exact absurd equal (own other apart)
          · simp [rewritten, pendingOne, equal]
      · exact .inr settled
    · simpa [same] using settled

theorem Tidy.create {later : String → JobBucket → Prop}
    (record : Json) (more : ∀ wanted bucket, settling wanted bucket → later wanted bucket)
    (settles : ∀ bucket, bucket ≠ .pending → later name bucket) :
    Tidy later (disk.write .pending name record) := by
  have names : ∀ other wanted, (disk.write .pending name record).names other wanted =
      if other = .pending ∧ wanted = name then some disk.fresh else disk.names other wanted :=
    fun other wanted => Disk.setName_names disk .pending other name wanted _
  constructor
  · intro other wanted file held
    show file < disk.fresh + 1
    rw [names] at held
    split at held
    · have : disk.fresh = file := Option.some.inj held
      omega
    · have := tidy.bounded other wanted file held
      omega
  · intro wanted first second one two heldFirst heldSecond
    simp only [names, one, two, false_and, if_false] at heldFirst heldSecond
    exact tidy.single wanted first second one two heldFirst heldSecond
  · intro wanted other apart pending held
    by_cases same : wanted = name
    · subst same
      exact .inr (settles other apart)
    · simp only [names, same, and_false, if_false] at pending held ⊢
      exact (tidy.same wanted other apart pending held).imp_right (more wanted other)

theorem Tidy.mono {later : String → JobBucket → Prop}
    (enough : ∀ wanted bucket, bucket ≠ .pending → disk.names .pending wanted ≠ none →
      disk.names bucket wanted ≠ none → settling wanted bucket → later wanted bucket) :
    Tidy later disk :=
  ⟨tidy.bounded, tidy.single, fun wanted bucket apart pending held =>
    (tidy.same wanted bucket apart pending held).imp_right
      (enough wanted bucket apart pending held)⟩

theorem Tidy.performDisk {β : Type} (forward : ∀ wanted, settling wanted .inProgress →
      settling wanted .completed ∧ settling wanted .failed)
    (answers : DiskAnswers) (effect : QueueEffect β)
    (may : (answers.failure.isSome || mayStep disk effect) = true) :
    Tidy settling (performDisk answers effect disk).2 := by
  cases failing : answers.failure with
  | some message => cases effect <;> simpa [Argus.performDisk, failing] using tidy
  | none =>
    have may : mayStep disk effect = true := by simpa [failing] using may
    cases effect with
    | unlink bucket name =>
      simp only [Argus.performDisk, failing, Disk.unlink]
      split
      · exact tidy
      · exact tidy.drop bucket
    | link source target name =>
      simp only [mayStep, Bool.and_eq_true, decide_eq_true_eq, Disk.onlyIn_iff] at may
      obtain ⟨rfl, alone⟩ := may
      simp only [Argus.performDisk, failing, Disk.link]
      split
      · exact tidy
      next file found =>
        split
        · exact tidy
        next free =>
          refine tidy.double ?_ found alone
          rintro rfl
          exact free (by simp [found])
    | rename source target name =>
      simp only [mayStep, Bool.or_eq_true, Bool.and_eq_true, decide_eq_true_eq,
        Disk.onlyIn_iff] at may
      simp only [Argus.performDisk, failing, Disk.rename]
      split
      · exact tidy
      next file found =>
        split
        · exact tidy
        next moves =>
          have apart : source ≠ target := by
            rintro rfl
            exact moves found
          rcases may with (rfl | rfl) | ⟨rfl, alone⟩
          · exact tidy.handBack apart found
          · by_cases back : target = .pending
            · subst back
              exact tidy.handBack apart found
            · refine tidy.advance back (fun settled => ?_) found
              cases target with
              | pending => exact absurd rfl back
              | inProgress => exact settled
              | completed => exact (forward name settled).1
              | failed => exact (forward name settled).2
          · exact (tidy.double apart.symm found alone).drop .pending
    | write bucket name record =>
      simp only [mayStep, Bool.and_eq_true, Disk.ownFile_iff, Disk.holds,
        Option.isSome_iff_ne_none] at may
      simpa [Argus.performDisk, failing] using tidy.rewrite record may.1 may.2
    | _ => simpa [Argus.performDisk, failing] using tidy

end

end

section

variable {disk : Disk} {name wanted : String}

section

variable (present : disk.Present wanted)
include present

theorem Disk.Present.setName_some (bucket : JobBucket)
    (file : Nat) : (disk.setName bucket name (some file)).Present wanted := by
  obtain ⟨other, held⟩ := present
  refine ⟨other, ?_⟩
  rw [Disk.setName_names]
  split
  · simp
  · exact held

theorem Disk.Present.drop {bucket : JobBucket}
    (may : disk.elsewhere bucket name = true) : (disk.setName bucket name none).Present wanted := by
  by_cases same : wanted = name
  · subst same
    obtain ⟨other, apart, held⟩ := Disk.elsewhere_iff.mp may
    exact ⟨other, by simpa [Disk.setName_names, apart] using held⟩
  · obtain ⟨other, held⟩ := present
    exact ⟨other, by simpa [Disk.setName_names, same] using held⟩

theorem Disk.Present.move {source target : JobBucket} {file : Nat} (apart : source ≠ target) :
    ((disk.setName target name (some file)).setName source name none).Present wanted :=
  (present.setName_some target file).drop
    (Disk.elsewhere_iff.mpr ⟨target, apart.symm, by simp⟩)

theorem Disk.Present.unlink {bucket : JobBucket}
    (may : (!disk.holds bucket name || disk.elsewhere bucket name) = true) :
    (disk.unlink bucket name).2.Present wanted := by
  unfold Disk.unlink
  split
  · exact present
  next file found =>
    refine present.drop ?_
    simpa [Disk.holds, found] using may

theorem Disk.Present.performDisk {β : Type} (answers : DiskAnswers) (effect : QueueEffect β)
    (may : (answers.failure.isSome || mayStep disk effect) = true) :
    (performDisk answers effect disk).2.Present wanted := by
  cases failing : answers.failure with
  | some message => cases effect <;> simpa [Argus.performDisk, failing] using present
  | none =>
    have may : mayStep disk effect = true := by simpa [failing] using may
    cases effect with
    | unlink bucket name => simpa [Argus.performDisk, failing] using present.unlink may
    | link source target name =>
      simp only [Argus.performDisk, failing, Disk.link]
      split
      · exact present
      · split
        · exact present
        · exact present.setName_some target _
    | rename source target name =>
      simp only [Argus.performDisk, failing, Disk.rename]
      split
      · exact present
      next file found =>
        split
        · exact present
        next moves =>
          refine present.move ?_
          rintro rfl
          exact moves found
    | write bucket name record =>
      simp only [Argus.performDisk, failing]
      exact present.setName_some bucket disk.fresh
    | _ => simpa [Argus.performDisk, failing] using present

end

end

end AdversarialReview.Argus
