import Mathlib.Data.List.Forall2
import AdversarialReview.Library.Utf16

/-! The files of a merge lane, named after its repository and its base branch, and when two lanes
share one. -/

namespace AdversarialReview.MergeLease

def nameUnit (code : Nat) : Bool :=
  ('A'.toNat ≤ code && code ≤ 'Z'.toNat) || ('a'.toNat ≤ code && code ≤ 'z'.toNat) ||
    ('0'.toNat ≤ code && code ≤ '9'.toNat) ||
    code ∈ ['.'.toNat, '_'.toNat, '-'.toNat]

def sanitizeUnit (code : Nat) : Char :=
  if nameUnit code then Char.ofNat code else '-'

def sanitizeSegment (value : String) : String :=
  String.ofList ((Utf16.codes value).map sanitizeUnit)

def unslashed (repo : String) : String :=
  String.ofList (repo.toList.flatMap fun char => if char = '/' then ['_', '_'] else [char])

structure LeaseKey where
  repo : String
  base : String
  key : String
  repoSlug : String
  baseSlug : String
  fileSlug : String

def deriveLeaseKey (repo base : String) : Except String LeaseKey := do
  if repo = "" then throw "deriveLeaseKey: repo is required"
  if base = "" then throw "deriveLeaseKey: base is required"
  let repoSlug := sanitizeSegment (unslashed repo)
  let baseSlug := sanitizeSegment base
  return {
    repo, base, repoSlug, baseSlug
    key := repo ++ "::" ++ base
    fileSlug := repoSlug ++ "__" ++ baseSlug }

def validateIdentity (rootDir repo base : String) : Except String Unit := do
  if rootDir = "" then throw "merge lease: rootDir is required"
  if repo = "" then throw "merge lease: repo is required"
  if base = "" then throw "merge lease: base is required"

/-- A file of the lease directory; the repository goes by its current name here. -/
def leaseFile (rootDir repo base suffix : String) : Except String String := do
  validateIdentity rootDir repo base
  let key ← deriveLeaseKey repo base
  return rootDir ++ "/data/merge-leases/" ++ (key.fileSlug ++ suffix)

def mergeLeaseFilePath (rootDir repo base : String) : Except String String :=
  leaseFile rootDir repo base ".json"

def mergeLeaseWaitersFilePath (rootDir repo base : String) : Except String String :=
  leaseFile rootDir repo base ".waiters.json"

def mergeLeaseAttemptsFilePath (rootDir repo base : String) : Except String String :=
  leaseFile rootDir repo base ".attempts.json"

def replaceEnding (text ending replacement : String) : String :=
  if ending.toList <:+ text.toList then
    String.ofList (text.toList.take (text.toList.length - ending.toList.length)) ++ replacement
  else text

def mergeLeaseHistoryFilePath (rootDir repo base : String) : Except String String := do
  return replaceEnding (← mergeLeaseFilePath rootDir repo base) ".json" ".history.jsonl"

def mutationLockPath (leasePath : String) : String :=
  leasePath ++ ".mutation.lock"

def laneFiles (rootDir repo base : String) : Except String (List String) := do
  let lease ← mergeLeaseFilePath rootDir repo base
  let waiters ← mergeLeaseWaitersFilePath rootDir repo base
  let history ← mergeLeaseHistoryFilePath rootDir repo base
  let attempts ← mergeLeaseAttemptsFilePath rootDir repo base
  return [lease, waiters, history, attempts, mutationLockPath lease, mutationLockPath attempts]

def Dashed (code : Nat) : Prop :=
  code = '-'.toNat ∨ nameUnit code = false

def Alike (first second : List Nat) : Prop :=
  List.Forall₂ (fun one two => one = two ∨ (Dashed one ∧ Dashed two)) first second

def laneText (repo base : String) : List Nat :=
  Utf16.codes (unslashed repo) ++ Utf16.codes "__" ++ Utf16.codes base

def sidecars : List String :=
  ["", ".waiters", ".attempts"]

def Confusable (first second : List Nat) : Prop :=
  ∃ tail ∈ sidecars, Alike first (second ++ Utf16.codes tail) ∨
    Alike second (first ++ Utf16.codes tail)

theorem toNat_ofNat_of_nameUnit {code : Nat} (kept : nameUnit code = true) :
    (Char.ofNat code).toNat = code := by
  have small : code < 128 := by
    simp [nameUnit] at kept
    omega
  have valid : code.isValidChar := .inl (by omega)
  rw [Char.ofNat, dif_pos valid]
  rfl

theorem sanitizeUnit_eq_dash {code : Nat} : sanitizeUnit code = '-' ↔ Dashed code := by
  unfold sanitizeUnit Dashed
  cases kept : nameUnit code with
  | false => simp
  | true =>
    simp only [if_true, Bool.true_eq_false, or_false]
    constructor
    · intro dash
      rw [← toNat_ofNat_of_nameUnit kept, dash]
    · intro dash
      rw [dash]
      rfl

theorem sanitizeUnit_inj {one two : Nat} :
    sanitizeUnit one = sanitizeUnit two ↔ one = two ∨ (Dashed one ∧ Dashed two) := by
  constructor
  · intro same
    by_cases dashed : Dashed one
    · exact .inr ⟨dashed, sanitizeUnit_eq_dash.1 (same ▸ sanitizeUnit_eq_dash.2 dashed)⟩
    · have other : ¬ Dashed two := fun held =>
        dashed (sanitizeUnit_eq_dash.1 (same.trans (sanitizeUnit_eq_dash.2 held)))
      have keptOne : nameUnit one = true := by simpa using (not_or.mp dashed).2
      have keptTwo : nameUnit two = true := by simpa using (not_or.mp other).2
      simp only [sanitizeUnit, keptOne, keptTwo, if_true] at same
      exact .inl (by rw [← toNat_ofNat_of_nameUnit keptOne, same, toNat_ofNat_of_nameUnit keptTwo])
  · rintro (rfl | ⟨dashOne, dashTwo⟩)
    · rfl
    · rw [sanitizeUnit_eq_dash.2 dashOne, sanitizeUnit_eq_dash.2 dashTwo]

theorem map_sanitizeUnit_inj {first second : List Nat} :
    first.map sanitizeUnit = second.map sanitizeUnit ↔ Alike first second := by
  rw [← List.forall₂_eq_eq_eq, List.forall₂_map_left_iff, List.forall₂_map_right_iff]
  simp only [sanitizeUnit_inj, Alike]

theorem fileSlug_toList (repo base : String) :
    (sanitizeSegment (unslashed repo) ++ "__" ++ sanitizeSegment base).toList =
      (laneText repo base).map sanitizeUnit := by
  have underscores : (Utf16.codes "__").map sanitizeUnit = "__".toList := by decide
  simp [sanitizeSegment, laneText, underscores]

/-- What the file names of a lane end in. -/
def suffixes : List String :=
  [".json", ".waiters.json", ".history.jsonl", ".attempts.json", ".json.mutation.lock",
    ".attempts.json.mutation.lock"]

theorem suffix_difference : ∀ one ∈ suffixes, ∀ two ∈ suffixes,
    one.toList <:+ two.toList → ∃ tail ∈ sidecars,
      two.toList.take (two.toList.length - one.toList.length) = tail.toList := by
  decide

theorem tail_of_append {one two : String} {between : List Char} (listed : one ∈ suffixes)
    (other : two ∈ suffixes) (same : two.toList = between ++ one.toList) :
    ∃ tail ∈ sidecars, between = tail.toList := by
  obtain ⟨tail, member, taken⟩ := suffix_difference one listed two other ⟨between, same.symm⟩
  refine ⟨tail, member, ?_⟩
  rw [← taken, same]
  simp

theorem exists_shared_iff (first second : List Char) :
    (∃ one ∈ suffixes, ∃ two ∈ suffixes, first ++ one.toList = second ++ two.toList) ↔
      ∃ tail ∈ sidecars, first = second ++ tail.toList ∨ second = first ++ tail.toList := by
  constructor
  · rintro ⟨one, listed, two, other, same⟩
    rcases List.append_eq_append_iff.mp same with ⟨between, rest, ending⟩ | ⟨between, rest, ending⟩
    · obtain ⟨tail, member, rfl⟩ := tail_of_append other listed ending
      exact ⟨tail, member, .inr rest⟩
    · obtain ⟨tail, member, rfl⟩ := tail_of_append listed other ending
      exact ⟨tail, member, .inl rest⟩
  · rintro ⟨tail, member, rest⟩
    have listed : tail ++ ".json" ∈ suffixes := by
      simp only [sidecars, List.mem_cons, List.not_mem_nil, or_false] at member
      rcases member with rfl | rfl | rfl <;> decide
    rcases rest with rfl | rfl
    · exact ⟨".json", by decide, tail ++ ".json", listed, by simp⟩
    · exact ⟨tail ++ ".json", listed, ".json", by decide, by simp⟩

theorem replaceEnding_append (name : String) :
    replaceEnding (name ++ ".json") ".json" ".history.jsonl" = name ++ ".history.jsonl" := by
  apply String.toList_inj.mp
  simp [replaceEnding]

theorem laneFiles_eq {rootDir repo base : String} {files : List String}
    (accepted : laneFiles rootDir repo base = .ok files) :
    files = suffixes.map fun suffix => rootDir ++ "/data/merge-leases/" ++
      (sanitizeSegment (unslashed repo) ++ "__" ++ sanitizeSegment base ++ suffix) := by
  by_cases noRoot : rootDir = ""
  · simp [laneFiles, mergeLeaseFilePath, leaseFile, validateIdentity, noRoot, throw, throwThe,
      MonadExceptOf.throw, bind, Except.bind] at accepted
  by_cases noRepo : repo = ""
  · simp [laneFiles, mergeLeaseFilePath, leaseFile, validateIdentity, noRoot, noRepo, throw,
      throwThe, MonadExceptOf.throw, bind, Except.bind] at accepted
  by_cases noBase : base = ""
  · simp [laneFiles, mergeLeaseFilePath, leaseFile, validateIdentity, noRoot, noRepo, noBase,
      throw, throwThe, MonadExceptOf.throw, bind, Except.bind] at accepted
  have file (suffix : String) : leaseFile rootDir repo base suffix =
      .ok (rootDir ++ "/data/merge-leases/" ++
        (sanitizeSegment (unslashed repo) ++ "__" ++ sanitizeSegment base ++ suffix)) := by
    simp [leaseFile, validateIdentity, deriveLeaseKey, noRoot, noRepo, noBase, bind, Except.bind,
      pure, Except.pure]
  simp only [laneFiles, mergeLeaseFilePath, mergeLeaseWaitersFilePath, mergeLeaseAttemptsFilePath,
    mergeLeaseHistoryFilePath, file, bind, Except.bind, pure, Except.pure, Except.ok.injEq]
    at accepted
  rw [← accepted]
  simp only [suffixes, List.map_cons, List.map_nil, mutationLockPath, ← String.append_assoc,
    replaceEnding_append]
  simp [String.append_assoc]

/--
Two lanes share no file exactly where their texts are not confusable: not alike once every unit
that no name keeps stands as a dash, and neither like the other with a sidecar's tail.
-/
theorem lane_files_disjoint_iff {rootDir repo base otherRepo otherBase : String}
    {files otherFiles : List String} (accepted : laneFiles rootDir repo base = .ok files)
    (otherAccepted : laneFiles rootDir otherRepo otherBase = .ok otherFiles) :
    (∀ path ∈ files, path ∉ otherFiles) ↔
      ¬ Confusable (laneText repo base) (laneText otherRepo otherBase) := by
  have named := fileSlug_toList repo base
  have otherNamed := fileSlug_toList otherRepo otherBase
  rw [laneFiles_eq accepted, laneFiles_eq otherAccepted]
  generalize sanitizeSegment (unslashed repo) ++ "__" ++ sanitizeSegment base = slug at named ⊢
  generalize sanitizeSegment (unslashed otherRepo) ++ "__" ++ sanitizeSegment otherBase = other
    at otherNamed ⊢
  have shared : (∃ path ∈ suffixes.map fun suffix =>
        rootDir ++ "/data/merge-leases/" ++ (slug ++ suffix),
      path ∈ suffixes.map fun suffix => rootDir ++ "/data/merge-leases/" ++ (other ++ suffix)) ↔
      ∃ one ∈ suffixes, ∃ two ∈ suffixes,
        slug.toList ++ one.toList = other.toList ++ two.toList := by
    constructor
    · rintro ⟨path, member, second⟩
      obtain ⟨one, listed, rfl⟩ := List.mem_map.mp member
      obtain ⟨two, otherListed, same⟩ := List.mem_map.mp second
      refine ⟨one, listed, two, otherListed, ?_⟩
      have texts := congrArg String.toList same
      simpa using texts.symm
    · rintro ⟨one, listed, two, otherListed, same⟩
      refine ⟨_, List.mem_map_of_mem listed, List.mem_map.mpr ⟨two, otherListed, ?_⟩⟩
      apply String.toList_inj.mp
      simp [same]
  have tails : ∀ tail ∈ sidecars, (Utf16.codes tail).map sanitizeUnit = tail.toList := by decide
  have confused : (∃ tail ∈ sidecars,
        slug.toList = other.toList ++ tail.toList ∨ other.toList = slug.toList ++ tail.toList) ↔
      Confusable (laneText repo base) (laneText otherRepo otherBase) := by
    unfold Confusable
    apply exists_congr
    intro tail
    apply and_congr_right
    intro member
    rw [named, otherNamed, ← tails tail member, ← List.map_append, ← List.map_append,
      map_sanitizeUnit_inj, map_sanitizeUnit_inj]
  rw [← confused, ← exists_shared_iff, ← shared]
  push Not
  rfl

/-- A slash of a branch reads like a dash. -/
theorem lane_files_shared :
    ∃ files otherFiles, laneFiles "/root" "owner/name" "release/2" = .ok files ∧
      laneFiles "/root" "owner/name" "release-2" = .ok otherFiles ∧
      ¬ ∀ path ∈ files, path ∉ otherFiles := by
  refine ⟨_, _, rfl, rfl, ?_⟩
  decide

/-- Two plain branches are told apart. -/
theorem lane_files_disjoint_plain :
    ∃ files otherFiles, laneFiles "/root" "owner/name" "main" = .ok files ∧
      laneFiles "/root" "owner/name" "next" = .ok otherFiles ∧
      ((∀ path ∈ files, path ∉ otherFiles) ↔
        ¬ Confusable (laneText "owner/name" "main") (laneText "owner/name" "next")) := by
  have first : laneFiles "/root" "owner/name" "main" = .ok _ := rfl
  have second : laneFiles "/root" "owner/name" "next" = .ok _ := rfl
  exact ⟨_, _, first, second, lane_files_disjoint_iff first second⟩

end AdversarialReview.MergeLease
