import Mathlib.Data.List.Forall2

/-! The mask that is laid over fenced code, by the code units of a text, and the offsets it keeps. -/

namespace AdversarialReview.FenceMask

abbrev UnitLine := List Nat

def lineFeed : Nat := 10

def carriageReturn : Nat := 13

def fenceUnit (unit : Nat) : Bool := unit = 0x60 || unit = 0x7e

def blankUnit (unit : Nat) : Bool := unit = 32 || unit = 9

/-- What `trim` takes off a text. -/
def spaceUnit (unit : Nat) : Bool :=
  (9 ≤ unit && unit ≤ 13) || (0x2000 ≤ unit && unit ≤ 0x200a) ||
    [0x20, 0xa0, 0x1680, 0x2028, 0x2029, 0x202f, 0x205f, 0x3000, 0xfeff].contains unit

abbrev Fence := Nat × Nat

def marker (line : UnitLine) : Option (Fence × UnitLine) :=
  match line.dropWhile blankUnit with
  | unit :: rest =>
    let run := 1 + (rest.takeWhile (· = unit)).length
    if fenceUnit unit && 3 ≤ run then some ((unit, run), rest.dropWhile (· = unit)) else none
  | [] => none

def closesFence (fence : Fence) (line : UnitLine) : Bool :=
  (marker line).any fun (own, rest) =>
    own.1 = fence.1 && fence.2 ≤ own.2 && rest.all spaceUnit

def fenceAfter (fence : Option Fence) (line : UnitLine) : Option Fence :=
  match fence with
  | some opened => if closesFence opened line then none else some opened
  | none => (marker line).map Prod.fst

def unfenced (fence : Option Fence) (line : UnitLine) : Bool :=
  fence.isNone && (marker line).isNone

section

variable (transform fencedTransform : UnitLine → UnitLine)

def mapLines : Option Fence → List UnitLine → List UnitLine
  | _, [] => []
  | fence, line :: rest =>
    (if unfenced fence line then transform line else fencedTransform line) ::
      mapLines (fenceAfter fence line) rest

def mapUnfencedReviewLines (text : List Nat) : List Nat :=
  [lineFeed].intercalate (mapLines transform fencedTransform none (text.splitOn lineFeed))

end

def maskLine (line : UnitLine) : UnitLine :=
  line.map fun unit => if unit = carriageReturn then unit else 32

def maskReviewFences (text : List Nat) : List Nat :=
  mapUnfencedReviewLines id maskLine text

def unfencedLine (text : List Nat) (number : Nat) : Bool :=
  let lines := text.splitOn lineFeed
  (lines[number]?).any (unfenced ((lines.take number).foldl fenceAfter none))

section

variable {transform fencedTransform : UnitLine → UnitLine}

theorem mapLines_length (fence : Option Fence) (lines : List UnitLine) :
    (mapLines transform fencedTransform fence lines).length = lines.length := by
  induction lines generalizing fence with
  | nil => rfl
  | cons line rest ih => simp [mapLines, ih]

theorem mapLines_append (fence : Option Fence) (before after : List UnitLine) :
    mapLines transform fencedTransform fence (before ++ after) =
      mapLines transform fencedTransform fence before ++
        mapLines transform fencedTransform (before.foldl fenceAfter fence) after := by
  induction before generalizing fence with
  | nil => rfl
  | cons line rest ih => simp [mapLines, ih]

theorem mapLines_forall₂ (related : UnitLine → UnitLine → Prop) {lines : List UnitLine}
    (plain : ∀ line ∈ lines, related (transform line) line)
    (fenced : ∀ line ∈ lines, related (fencedTransform line) line) (fence : Option Fence) :
    List.Forall₂ related (mapLines transform fencedTransform fence lines) lines := by
  induction lines generalizing fence with
  | nil => exact .nil
  | cons line rest ih =>
    refine .cons ?_ (ih (fun one listed => plain one (.tail _ listed))
      (fun one listed => fenced one (.tail _ listed)) _)
    split
    · exact plain line (.head _)
    · exact fenced line (.head _)

end

theorem intercalate_map {sep : Nat} {marked : Nat → Bool} {first second : List UnitLine}
    (same : List.Forall₂ (fun one two => one.map marked = two.map marked) first second) :
    ([sep].intercalate first).map marked = ([sep].intercalate second).map marked := by
  induction same with
  | nil => rfl
  | cons own rest ih =>
    cases rest with
    | nil => simpa using own
    | cons _ _ =>
      rw [List.intercalate_cons_cons, List.intercalate_cons_cons, List.map_append,
        List.map_append, List.map_append, List.map_append, own, ih]

theorem intercalate_append {sep : List Nat} {first second : List UnitLine} (some_first : first ≠ [])
    (some_second : second ≠ []) :
    sep.intercalate (first ++ second) =
      sep.intercalate first ++ (sep ++ sep.intercalate second) := by
  induction first with
  | nil => exact absurd rfl some_first
  | cons line rest ih =>
    match rest with
    | [] =>
      rw [List.singleton_append, List.intercalate_cons_of_ne_nil some_second,
        List.intercalate_singleton, List.append_assoc]
    | next :: more =>
      have later := ih (List.cons_ne_nil next more)
      simp only [List.cons_append] at later ⊢
      simp only [List.intercalate_cons_cons, later, List.append_assoc]

theorem splitOn_whole (text : List Nat) : ∀ line ∈ text.splitOn lineFeed, lineFeed ∉ line := by
  induction text with
  | nil => simp
  | cons unit rest ih =>
    rw [List.splitOn_cons_eq_if_modifyHead]
    split
    · simpa using ih
    · next other =>
      have apart : lineFeed ≠ unit := fun same => other (by simp [same])
      cases lines : rest.splitOn lineFeed with
      | nil => simp
      | cons line more =>
        rw [lines] at ih
        simp only [List.modifyHead_cons, List.mem_cons, forall_eq_or_imp, not_or] at ih ⊢
        exact ⟨⟨apart, ih.1⟩, ih.2⟩

theorem splitOn_length (text : List Nat) :
    (text.splitOn lineFeed).length = text.count lineFeed + 1 := by
  induction text with
  | nil => simp
  | cons unit rest ih =>
    rw [List.splitOn_cons_eq_if_modifyHead, List.count_cons]
    split <;> simp [ih]

section

theorem marker_maskLine (line : UnitLine) : marker (maskLine line) = none := by
  have none_fence : ∀ unit ∈ maskLine line, fenceUnit unit = false := by
    intro unit listed
    obtain ⟨own, -, rfl⟩ := List.mem_map.mp listed
    by_cases carriage : own = carriageReturn
    · simp [carriage, fenceUnit, carriageReturn]
    · simp [carriage, fenceUnit]
  unfold marker
  split
  · next unit rest led =>
    have listed : unit ∈ maskLine line :=
      (List.dropWhile_sublist _).subset (led ▸ List.mem_cons_self)
    simp [none_fence unit listed]
  · rfl

theorem marker_masked (fence : Option Fence) (lines : List UnitLine) :
    ∀ line ∈ mapLines id maskLine fence lines, marker line = none := by
  induction lines generalizing fence with
  | nil => simp [mapLines]
  | cons line rest ih =>
    intro masked listed
    simp only [mapLines, List.mem_cons] at listed
    rcases listed with rfl | later
    · split
      · next outside =>
        simp only [unfenced, Bool.and_eq_true, Option.isNone_iff_eq_none] at outside
        exact outside.2
      · exact marker_maskLine line
    · exact ih _ masked later

theorem mapLines_unmarked {lines : List UnitLine} (plain : ∀ line ∈ lines, marker line = none) :
    mapLines id maskLine none lines = lines := by
  induction lines with
  | nil => rfl
  | cons line rest ih =>
    have own := plain line (.head _)
    have after : fenceAfter none line = none := by simp [fenceAfter, own]
    simp only [mapLines, unfenced, own, after, Option.isNone_none, Bool.and_self, if_true, id,
      ih fun one listed => plain one (.tail _ listed)]

theorem maskLine_feeds {line : UnitLine} (whole : lineFeed ∉ line) :
    (maskLine line).map (fun unit => decide (unit = lineFeed)) =
      line.map fun unit => decide (unit = lineFeed) := by
  rw [maskLine, List.map_map]
  refine List.map_congr_left fun unit listed => ?_
  have other : unit ≠ lineFeed := fun same => whole (same ▸ listed)
  by_cases carriage : unit = carriageReturn
  · simp [carriage]
  · have space : (32 : Nat) ≠ lineFeed := by decide
    simp [carriage, other, space]

variable (text : List Nat)

theorem maskReviewFences_feeds :
    (maskReviewFences text).map (fun unit => decide (unit = lineFeed)) =
      text.map fun unit => decide (unit = lineFeed) := by
  have lines := mapLines_forall₂ (fun one two : UnitLine =>
      one.map (fun unit => decide (unit = lineFeed)) =
        two.map fun unit => decide (unit = lineFeed))
    (fun (line : UnitLine) (_ : line ∈ text.splitOn lineFeed) => congrArg _ (id_eq line))
    (fun line listed => maskLine_feeds (splitOn_whole text line listed)) none
  rw [maskReviewFences, mapUnfencedReviewLines, intercalate_map lines, List.intercalate_splitOn]

theorem mapLines_some (fence : Option Fence) :
    mapLines id maskLine fence (text.splitOn lineFeed) ≠ [] := by
  intro nothing
  have counted := congrArg List.length nothing
  rw [mapLines_length, splitOn_length] at counted
  cases counted

theorem splitOn_masked :
    (maskReviewFences text).splitOn lineFeed =
      mapLines id maskLine none (text.splitOn lineFeed) := by
  refine List.splitOn_intercalate _ ?_ ?_
  · -- A masked line has its line feeds where the line had them, so it has none.
    intro masked listed
    have fenced : ∀ line ∈ text.splitOn lineFeed, lineFeed ∉ line → lineFeed ∉ maskLine line := by
      intro line _ whole feed
      have there : true ∈ (maskLine line).map fun unit => decide (unit = lineFeed) :=
        List.mem_map.mpr ⟨lineFeed, feed, by simp⟩
      rw [maskLine_feeds whole] at there
      obtain ⟨unit, own, same⟩ := List.mem_map.mp there
      exact whole (of_decide_eq_true same ▸ own)
    have lines : List.Forall₂ _
        (mapLines id maskLine none (text.splitOn lineFeed)) (text.splitOn lineFeed) :=
      mapLines_forall₂ (fun one two => lineFeed ∉ two → lineFeed ∉ one) (fun _ _ => id) fenced none
    obtain ⟨place, bound, rfl⟩ := List.getElem_of_mem listed
    have both := (List.forall₂_iff_get.mp lines).2 place bound (lines.length_eq ▸ bound)
    exact both (splitOn_whole text _ (List.getElem_mem _))
  · exact mapLines_some text none

theorem maskReviewFences_idem :
    maskReviewFences (maskReviewFences text) = maskReviewFences text := by
  conv_lhs => rw [maskReviewFences, mapUnfencedReviewLines, splitOn_masked]
  rw [mapLines_unmarked (marker_masked none _)]
  rfl

theorem mapLines_unfenced {fence : Option Fence} {lines : List UnitLine} {number : Nat}
    {line : UnitLine} (at_ : lines[number]? = some line)
    (outside : unfenced ((lines.take number).foldl fenceAfter fence) line = true) :
    (mapLines id maskLine fence lines)[number]? = some line := by
  induction lines generalizing fence number with
  | nil => simp at at_
  | cons first rest ih =>
    cases number with
    | zero =>
      obtain rfl : first = line := by simpa using at_
      simp only [List.take_zero, List.foldl_nil] at outside
      simp [mapLines, outside]
    | succ number =>
      simp only [mapLines, List.getElem?_cons_succ]
      exact ih (by simpa using at_) (by simpa using outside)

theorem maskReviewFences_suffix {before after : List Nat}
    (starts : before = [] ∨ before.getLast? = some lineFeed)
    (outside : unfencedLine (before ++ after) (before.count lineFeed) = true) :
    maskReviewFences after = (maskReviewFences (before ++ after)).drop before.length := by
  rcases starts with rfl | last
  · simp
  · obtain ⟨pre, rfl⟩ : ∃ pre, before = pre ++ [lineFeed] :=
      ⟨before.dropLast, (List.dropLast_append_getLast? _ last).symm⟩
    have lines : (pre ++ [lineFeed] ++ after).splitOn lineFeed =
        pre.splitOn lineFeed ++ after.splitOn lineFeed := by
      rw [List.append_assoc, List.singleton_append, List.splitOn_append_cons_self]
    have number : (pre ++ [lineFeed]).count lineFeed = (pre.splitOn lineFeed).length := by
      rw [splitOn_length, List.count_append, List.count_singleton_self]
    -- No fence is open where the suffix starts.
    have closed : (pre.splitOn lineFeed).foldl fenceAfter none = none := by
      rw [unfencedLine, lines, number, List.take_left] at outside
      cases at_ : (pre.splitOn lineFeed ++ after.splitOn lineFeed)[(pre.splitOn lineFeed).length]? with
      | none => simp [at_] at outside
      | some line =>
        simp only [at_, Option.any_some, unfenced, Bool.and_eq_true,
          Option.isNone_iff_eq_none] at outside
        exact outside.1
    have kept := congrArg List.length (maskReviewFences_feeds pre)
    rw [List.length_map, List.length_map] at kept
    conv_rhs => rw [maskReviewFences, mapUnfencedReviewLines, lines, mapLines_append, closed]
    rw [intercalate_append (mapLines_some pre none) (mapLines_some after none), ← List.append_assoc]
    change _ = List.drop _ (maskReviewFences pre ++ [lineFeed] ++ maskReviewFences after)
    rw [show (pre ++ [lineFeed]).length = (maskReviewFences pre ++ [lineFeed]).length by
      simp [kept], List.drop_left]

theorem maskReviewFences_offsets :
    (maskReviewFences text).length = text.length ∧
      (∀ place : Nat, (maskReviewFences text)[place]? = some lineFeed ↔
        text[place]? = some lineFeed) ∧
      (∀ number : Nat, unfencedLine text number = true →
        ((maskReviewFences text).splitOn lineFeed)[number]? = (text.splitOn lineFeed)[number]?) ∧
      maskReviewFences (maskReviewFences text) = maskReviewFences text ∧
      ∀ before after, text = before ++ after →
        (before = [] ∨ before.getLast? = some lineFeed) →
        unfencedLine text (before.count lineFeed) = true →
        maskReviewFences after = (maskReviewFences text).drop before.length := by
  have feeds := maskReviewFences_feeds text
  refine ⟨by simpa using congrArg List.length feeds, fun place => ?_, fun number outside => ?_,
    maskReviewFences_idem text, ?_⟩
  · have own := congrArg (fun marks : List Bool => marks[place]?) feeds
    simp only [List.getElem?_map] at own
    cases masked : (maskReviewFences text)[place]? <;> cases plain : text[place]? <;>
      simp [masked, plain] at own ⊢
    exact own
  · rw [splitOn_masked]
    unfold unfencedLine at outside
    cases at_ : (text.splitOn lineFeed)[number]? with
    | none => simp [at_] at outside
    | some line => exact mapLines_unfenced at_ (by simpa [at_] using outside)
  · rintro before after rfl starts outside
    exact maskReviewFences_suffix starts outside

end

end AdversarialReview.FenceMask
