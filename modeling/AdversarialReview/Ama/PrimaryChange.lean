import Mathlib.Data.Nat.Notation

/-! Projecting a region of a base text through the patch of its file onto the head text, and where
that takes the lines that a unified patch keeps or replaces. -/

namespace AdversarialReview.PrimaryChange

abbrev Line := List Char

/-- A line of a patch: a hunk's header with its starts and counts, a changed or a kept line, or one
that is passed over. -/
inductive PatchLine where
  | header (oldStart : Nat) (oldCount : Option Nat) (newStart : Nat) (newCount : Option Nat)
  | removed (text : Line)
  | added (text : Line)
  | context (text : Line)
  | other (text : Line)

def firstLine (start : Nat) (count : Option Nat) : Nat :=
  start + if count = some 0 then 1 else 0

/-- A maximal run of removed and added lines, in base and head lines. -/
structure Segment where
  old : Nat
  next : Nat
  oldEnd : Nat
  nextEnd : Nat
  lines : List PatchLine

structure PatchState where
  old : Nat := 0
  next : Nat := 0
  closed : List Segment := []
  segment : Option Segment := none

def PatchState.segments (state : PatchState) : List Segment :=
  state.closed ++ state.segment.toList

def PatchState.extend (state : PatchState) (line : PatchLine) (removed added : Nat) : PatchState :=
  let segment := state.segment.getD
    { old := state.old, next := state.next, oldEnd := state.old, nextEnd := state.next, lines := [] }
  { state with
    old := state.old + removed
    next := state.next + added
    segment := some { segment with
      oldEnd := state.old + removed
      nextEnd := state.next + added
      lines := segment.lines ++ [line] } }

def readLine (state : PatchState) (line : PatchLine) : PatchState :=
  match line with
  | .header oldStart oldCount newStart newCount =>
    { old := firstLine oldStart oldCount
      next := firstLine newStart newCount
      closed := state.segments }
  | .removed _ => state.extend line 1 0
  | .added _ => state.extend line 0 1
  | .context _ =>
    { old := state.old + 1, next := state.next + 1, closed := state.segments }
  | .other _ => state

def patchSegments (patch : List PatchLine) : List Segment :=
  (patch.foldl readLine {}).segments

def project (line : Nat) (ends : Bool) : Int → List Segment → Int
  | offset, [] => line + offset
  | offset, segment :: rest =>
    if line < segment.old then line + offset
    else if line < segment.oldEnd ∨ (segment.old = segment.oldEnd ∧ line = segment.old) then
      -- Replacements of equal length map by position, others onto their whole span.
      if (segment.oldEnd : Int) - segment.old = segment.nextEnd - segment.next then
        segment.next + line - segment.old
      else if ends then max segment.next (segment.nextEnd - 1)
      else segment.next
    else project line ends (segment.nextEnd - segment.oldEnd) rest

/-- A file of a comparison. -/
structure DiffFile where
  filename : String
  previousFilename : Option String := none
  status : String
  /-- Its blob has a commit-like name. -/
  isSha : Bool := false
  additions : Nat
  deletions : Nat
  /-- The lines of its patch. -/
  patch : Option (List PatchLine)

def DiffFile.path (file : DiffFile) : String :=
  (file.previousFilename.filter (· ≠ "")).getD file.filename

def countLines (placed : Bool) (additions deletions : Nat) :
    List PatchLine → Except String (Nat × Nat)
  | [] => .ok (additions, deletions)
  | .header _ _ _ _ :: rest => countLines true additions deletions rest
  | .added _ :: rest =>
    if placed then countLines placed (additions + 1) deletions rest
    else .error "missing hunk header"
  | .removed _ :: rest =>
    if placed then countLines placed additions (deletions + 1) rest
    else .error "missing hunk header"
  | _ :: rest => countLines placed additions deletions rest

def checkFile (file : DiffFile) : Except String Unit := do
  if file.filename = "" then .error "missing filename"
  else if file.patch.isNone && file.isSha &&
      ["added", "modified", "removed", "renamed"].contains file.status then return
  else if file.patch.isNone &&
      (file.status ≠ "renamed" || file.additions ≠ 0 || file.deletions ≠ 0) then
    .error "unsupported or missing patch"
  else
    let counts ← countLines false 0 0 (file.patch.getD [])
    if counts = (file.additions, file.deletions) then return
    else .error "truncated patch"

structure Region where
  start : Nat
  end_ : Nat

structure Projection where
  start : Int
  end_ : Int
  filename : String

def projectRegion (files : List DiffFile) (path : String) (region : Region) :
    Except String Projection := do
  files.forM checkFile
  match files.find? fun file => file.path = path with
  | none => return { start := region.start, end_ := region.end_, filename := path }
  | some file =>
    match file.patch with
    | none => .error "opaque authorization"
    | some patch =>
      let segments := patchSegments patch
      return {
        start := project region.start false 0 segments
        end_ := project (max region.start (region.end_ - 1)) true 0 segments
        filename := file.filename }

/-- A line as a patch shows it; the last one of a text may lack its line feed. -/
structure Shown where
  text : Line
  unended : Bool := false

structure Change where
  removed : Bool
  shown : Shown

/-- Changed lines without a kept one between them. -/
structure Run where
  first : Change
  more : List Change

/-- A run and the kept lines behind it. -/
structure Block where
  run : Run
  first : Shown
  more : List Shown

structure Hunk where
  lead : List Shown
  blocks : List Block
  tail : Option Run
  /-- The count of a single line is left out. -/
  bareOld : Bool := false
  bareNew : Bool := false

/-- The hunks of a patch, each with the lines between it and the one before. -/
structure Patch where
  hunks : List (List Line × Hunk)
  trailing : List Line

inductive Step where
  | keep (lines : List Line)
  | change (run : Run)

def Run.changes (run : Run) : List Change := run.first :: run.more

def textsOf (removed : Bool) (changes : List Change) : List Line :=
  (changes.filter fun change => change.removed = removed).map fun change => change.shown.text

def Step.base : Step → List Line
  | .keep lines => lines
  | .change run => textsOf true run.changes

def Step.head : Step → List Line
  | .keep lines => lines
  | .change run => textsOf false run.changes

def baseText (steps : List Step) : List Line := steps.flatMap Step.base

def headText (steps : List Step) : List Line := steps.flatMap Step.head

def Block.shown (block : Block) : List Shown := block.first :: block.more

def Block.steps (block : Block) : List Step :=
  [.change block.run, .keep (block.shown.map Shown.text)]

def Hunk.steps (hunk : Hunk) : List Step :=
  .keep (hunk.lead.map Shown.text) :: (hunk.blocks.flatMap Block.steps ++
    hunk.tail.toList.map Step.change)

def stepsOf (hunks : List (List Line × Hunk)) : List Step :=
  hunks.flatMap fun (gap, hunk) => .keep gap :: hunk.steps

def Patch.steps (patch : Patch) : List Step :=
  stepsOf patch.hunks ++ [.keep patch.trailing]

def insertsBefore (line : Nat) : List Step → Nat → Prop
  | [], _ => False
  | .keep lines :: rest, old => insertsBefore line rest (old + lines.length)
  | .change run :: rest, old =>
    ((Step.change run).base = [] ∧ old = line) ∨
      insertsBefore line rest (old + (Step.change run).base.length)

def Shown.render (shown : Shown) (line : PatchLine) : List PatchLine :=
  line :: if shown.unended then [.other " No newline at end of file".toList] else []

def Change.line (change : Change) : PatchLine :=
  if change.removed then .removed change.shown.text else .added change.shown.text

def Change.render (change : Change) : List PatchLine := change.shown.render change.line

def Run.render (run : Run) : List PatchLine := run.changes.flatMap Change.render

def contextLines (lines : List Shown) : List PatchLine :=
  lines.flatMap fun shown => shown.render (.context shown.text)

def Block.render (block : Block) : List PatchLine :=
  block.run.render ++ contextLines block.shown

def Hunk.body (hunk : Hunk) : List PatchLine :=
  contextLines hunk.lead ++ (hunk.blocks.flatMap Block.render ++ hunk.tail.toList.flatMap Run.render)

def startOf (first count : Nat) : Nat := if count = 0 then first - 1 else first

def countOf (count : Nat) (bare : Bool) : Option Nat := if bare && count = 1 then none else some count

def Hunk.header (hunk : Hunk) (old next : Nat) : PatchLine :=
  let removed := (baseText hunk.steps).length
  let added := (headText hunk.steps).length
  .header (startOf old removed) (countOf removed hunk.bareOld)
    (startOf next added) (countOf added hunk.bareNew)

def renderHunks : List (List Line × Hunk) → Nat → Nat → List PatchLine
  | [], _, _ => []
  | (gap, hunk) :: rest, old, next =>
    hunk.header (old + gap.length) (next + gap.length) :: (hunk.body ++
      renderHunks rest (old + gap.length + (baseText hunk.steps).length)
        (next + gap.length + (headText hunk.steps).length))

def Patch.lines (patch : Patch) : List PatchLine := renderHunks patch.hunks 1 1

section

theorem firstLine_written {first count : Nat} {bare : Bool} (from_one : 1 ≤ first) :
    firstLine (startOf first count) (countOf count bare) = first := by
  unfold firstLine startOf countOf
  by_cases nothing : count = 0
  · subst nothing
    simp
    omega
  · rw [if_neg nothing]
    split <;> simp [nothing]

theorem foldl_shown (state : PatchState) (shown : Shown) (line : PatchLine) :
    (shown.render line).foldl readLine state = readLine state line := by
  unfold Shown.render
  split <;> rfl

theorem foldl_change (state : PatchState) (change : Change) :
    change.render.foldl readLine state =
      state.extend change.line (if change.removed then 1 else 0)
        (if change.removed then 0 else 1) := by
  rw [Change.render, foldl_shown, Change.line]
  split <;> rfl

def Run.segment (run : Run) (old next : Nat) : Segment :=
  { old, next
    oldEnd := old + (textsOf true run.changes).length
    nextEnd := next + (textsOf false run.changes).length
    lines := run.changes.map Change.line }

theorem textsOf_cons (removed : Bool) (change : Change) (more : List Change) :
    (textsOf removed (change :: more)).length =
      (if change.removed = removed then 1 else 0) + (textsOf removed more).length := by
  unfold textsOf
  by_cases same : change.removed = removed
  · simp [same]
    omega
  · simp [same]

theorem foldl_changes (state : PatchState) (segment : Segment) (changes : List Change)
    (opened : state.segment = some segment) (oldEnd : segment.oldEnd = state.old)
    (nextEnd : segment.nextEnd = state.next) :
    (changes.flatMap Change.render).foldl readLine state =
      { state with
        old := state.old + (textsOf true changes).length
        next := state.next + (textsOf false changes).length
        segment := some { segment with
          oldEnd := state.old + (textsOf true changes).length
          nextEnd := state.next + (textsOf false changes).length
          lines := segment.lines ++ changes.map Change.line } } := by
  induction changes generalizing state segment with
  | nil =>
    obtain ⟨old, next, closed, current⟩ := state
    obtain ⟨first, second, third, fourth, lines⟩ := segment
    simp only at opened oldEnd nextEnd
    subst opened oldEnd nextEnd
    simp [textsOf]
  | cons change more ih =>
    rw [List.flatMap_cons, List.foldl_append, foldl_change,
      ih (state.extend change.line _ _) _ rfl rfl rfl, textsOf_cons, textsOf_cons]
    cases change.removed <;> simp [PatchState.extend, opened, Nat.add_assoc]

variable {state : PatchState}

theorem foldl_run (closed : state.segment = none) (run : Run) :
    run.render.foldl readLine state =
      { state with
        old := state.old + (textsOf true run.changes).length
        next := state.next + (textsOf false run.changes).length
        segment := some (run.segment state.old state.next) } := by
  unfold Run.render Run.changes
  rw [List.flatMap_cons, List.foldl_append, foldl_change,
    foldl_changes (state.extend run.first.line _ _) _ run.more rfl rfl rfl, textsOf_cons,
    textsOf_cons]
  cases kind : run.first.removed <;>
    simp [PatchState.extend, closed, kind, Run.segment, Run.changes, textsOf_cons, Nat.add_assoc]

theorem foldl_context (lines : List Shown) (closes : lines = [] → state.segment = none) :
    (contextLines lines).foldl readLine state =
      { old := state.old + lines.length
        next := state.next + lines.length
        closed := state.segments } := by
  induction lines generalizing state with
  | nil =>
    obtain ⟨old, next, closed, current⟩ := state
    have none_ : current = none := closes rfl
    subst none_
    simp [contextLines, PatchState.segments]
  | cons shown more ih =>
    rw [contextLines, List.flatMap_cons, List.foldl_append, foldl_shown]
    change (contextLines more).foldl readLine _ = _
    rw [ih fun _ => rfl]
    simp only [readLine, PatchState.segments, Option.toList_none, List.append_nil, List.length_cons,
      PatchState.mk.injEq, and_true]
    omega

def segmentsOf : List Step → Nat → Nat → List Segment
  | [], _, _ => []
  | .keep lines :: rest, old, next => segmentsOf rest (old + lines.length) (next + lines.length)
  | .change run :: rest, old, next =>
    run.segment old next ::
      segmentsOf rest (old + (textsOf true run.changes).length)
        (next + (textsOf false run.changes).length)

theorem segmentsOf_append (before after : List Step) (old next : Nat) :
    segmentsOf (before ++ after) old next = segmentsOf before old next ++
      segmentsOf after (old + (baseText before).length) (next + (headText before).length) := by
  induction before generalizing old next with
  | nil => simp [segmentsOf, baseText, headText]
  | cons step rest ih =>
    cases step <;>
      simp [segmentsOf, ih, baseText, headText, Step.base, Step.head, Nat.add_assoc]

theorem foldl_blocks (closed : state.segment = none) (blocks : List Block) :
    (blocks.flatMap Block.render).foldl readLine state =
      { old := state.old + (baseText (blocks.flatMap Block.steps)).length
        next := state.next + (headText (blocks.flatMap Block.steps)).length
        closed := state.closed ++ segmentsOf (blocks.flatMap Block.steps) state.old state.next } := by
  induction blocks generalizing state with
  | nil =>
    obtain ⟨old, next, segments, current⟩ := state
    have none_ : current = none := closed
    subst none_
    simp [baseText, headText, segmentsOf]
  | cons block rest ih =>
    rw [List.flatMap_cons, List.foldl_append, Block.render, List.foldl_append, foldl_run closed,
      foldl_context block.shown fun nothing => absurd nothing (List.cons_ne_nil _ _), ih rfl]
    simp only [List.flatMap_cons, Block.steps, PatchState.segments, Option.toList_some,
      segmentsOf_append]
    simp [segmentsOf, baseText, headText, Step.base, Step.head, Nat.add_assoc]

theorem foldl_hunk {hunk : Hunk} {old next : Nat} (oldFrom : 1 ≤ old) (nextFrom : 1 ≤ next) :
    ((hunk.header old next :: hunk.body).foldl readLine state).segments =
      state.segments ++ segmentsOf hunk.steps old next := by
  have header : readLine state (hunk.header old next) =
      { old, next, closed := state.segments } := by
    simp only [readLine, Hunk.header, firstLine_written oldFrom, firstLine_written nextFrom]
  rw [List.foldl_cons, header, Hunk.body, List.foldl_append, List.foldl_append,
    foldl_context hunk.lead fun _ => rfl, foldl_blocks rfl]
  cases tail : hunk.tail with
  | none => simp [Hunk.steps, tail, segmentsOf, PatchState.segments]
  | some run =>
    rw [Option.toList_some, List.flatMap_singleton, foldl_run rfl]
    simp [Hunk.steps, tail, segmentsOf, segmentsOf_append, PatchState.segments]

theorem foldl_hunks (hunks : List (List Line × Hunk)) (state : PatchState) {old next : Nat}
    (oldFrom : 1 ≤ old) (nextFrom : 1 ≤ next) :
    ((renderHunks hunks old next).foldl readLine state).segments =
      state.segments ++ segmentsOf (stepsOf hunks) old next := by
  induction hunks generalizing state old next with
  | nil => simp [renderHunks, stepsOf, segmentsOf]
  | cons entry rest ih =>
    obtain ⟨gap, hunk⟩ := entry
    rw [renderHunks, ← List.cons_append, List.foldl_append, ih _ (by omega) (by omega),
      foldl_hunk (by omega) (by omega)]
    simp [stepsOf, segmentsOf, segmentsOf_append]

theorem patchSegments_lines (patch : Patch) :
    patchSegments patch.lines = segmentsOf patch.steps 1 1 := by
  have read := foldl_hunks patch.hunks {} (Nat.le_refl 1) (Nat.le_refl 1)
  simpa [patchSegments, Patch.lines, Patch.steps, segmentsOf_append, segmentsOf,
    PatchState.segments] using read

end

section

variable {line : Nat} {ends : Bool}

theorem insertsBefore_append (before after : List Step) (old : Nat) :
    insertsBefore line (before ++ after) old ↔ insertsBefore line before old ∨
      insertsBefore line after (old + (baseText before).length) := by
  induction before generalizing old with
  | nil => simp [insertsBefore, baseText]
  | cons step rest ih =>
    cases step <;>
      simp [insertsBefore, ih, baseText, Step.base, or_assoc, Nat.add_assoc]

theorem not_insertsBefore {steps : List Step} {old : Nat} (passed : line < old) :
    ¬ insertsBefore line steps old := by
  induction steps generalizing old with
  | nil => exact id
  | cons step rest ih =>
    cases step with
    | keep lines => exact ih (by omega)
    | change run =>
      rintro (⟨-, same⟩ | later)
      · omega
      · exact ih (by omega) later

theorem added_of_none {run : Run} (none_ : textsOf true run.changes = []) :
    0 < (textsOf false run.changes).length := by
  have first : (textsOf true run.changes).length = 0 := by rw [none_]; rfl
  rw [Run.changes, textsOf_cons] at first ⊢
  cases kind : run.first.removed
  · simp <;> omega
  · simp [kind] at first

theorem project_skip {run : Run} {old next : Nat} {offset : Int} {later : List Segment}
    (behind : old + (textsOf true run.changes).length ≤ line)
    (apart : ¬ (textsOf true run.changes = [] ∧ old = line)) :
    project line ends offset (run.segment old next :: later) =
      project line ends (((next + (textsOf false run.changes).length : Nat) : Int) -
        (old + (textsOf true run.changes).length : Nat)) later := by
  have outside : ¬ (line < (run.segment old next).oldEnd ∨
      ((run.segment old next).old = (run.segment old next).oldEnd ∧
        line = (run.segment old next).old)) := by
    simp only [Run.segment]
    rintro (inside | ⟨pure, same⟩)
    · omega
    · exact apart ⟨List.eq_nil_of_length_eq_zero (by omega), same.symm⟩
  rw [project, if_neg (by simp only [Run.segment]; omega), if_neg outside]
  rfl

theorem project_past {before : List Step} (old next : Nat) (later : List Segment)
    (behind : old + (baseText before).length ≤ line) (plain : ¬ insertsBefore line before old) :
    project line ends ((next : Int) - old) (segmentsOf before old next ++ later) =
      project line ends
        (((next + (headText before).length : Nat) : Int) - (old + (baseText before).length : Nat))
        later := by
  induction before generalizing old next with
  | nil => simp [segmentsOf, baseText, headText]
  | cons step rest ih =>
    cases step with
    | keep lines =>
      simp only [baseText, headText, List.flatMap_cons, Step.base, Step.head, List.length_append]
        at behind ⊢
      have moved := ih (old + lines.length) (next + lines.length) (by unfold baseText; omega) plain
      rw [show ((next + lines.length : Nat) : Int) - (old + lines.length : Nat) =
        (next : Int) - old by omega] at moved
      simp only [segmentsOf, moved, headText, baseText, Nat.add_assoc]
    | change run =>
      simp only [insertsBefore, not_or, not_and, Step.base] at plain
      simp only [baseText, headText, List.flatMap_cons, Step.base, Step.head, List.length_append]
        at behind ⊢
      have moved := ih (old + (textsOf true run.changes).length)
          (next + (textsOf false run.changes).length)
        (by unfold baseText; omega) plain.2
      rw [segmentsOf, List.cons_append, project_skip (by omega) fun own => plain.1 own.1 own.2]
      simp only [headText, baseText, Nat.add_assoc] at moved ⊢
      exact moved

theorem project_inserted {before : List Step} (old next : Nat) (later : List Segment)
    (behind : old + (baseText before).length ≤ line) (inserted : insertsBefore line before old) :
    project line false ((next : Int) - old) (segmentsOf before old next ++ later) <
      (next + (headText before).length : Nat) := by
  induction before generalizing old next with
  | nil => exact absurd inserted id
  | cons step rest ih =>
    cases step with
    | keep lines =>
      simp only [baseText, headText, List.flatMap_cons, Step.base, Step.head, List.length_append]
        at behind ⊢
      have moved := ih (old + lines.length) (next + lines.length) (by unfold baseText; omega) inserted
      rw [show ((next + lines.length : Nat) : Int) - (old + lines.length : Nat) =
        (next : Int) - old by omega] at moved
      simpa only [segmentsOf, headText, Nat.add_assoc] using moved
    | change run =>
      simp only [baseText, headText, List.flatMap_cons, Step.base, Step.head, List.length_append]
        at behind ⊢
      by_cases own : textsOf true run.changes = [] ∧ old = line
      · obtain ⟨none_, rfl⟩ := own
        have some_line := added_of_none none_
        rw [segmentsOf, List.cons_append, project, if_neg (by simp only [Run.segment]; omega),
          if_pos (by simp [Run.segment, none_]), if_neg (by simp [Run.segment, none_]; omega),
          if_neg Bool.false_ne_true]
        simp only [Run.segment]
        omega
      · have moved := ih (old + (textsOf true run.changes).length)
          (next + (textsOf false run.changes).length)
          (by unfold baseText; omega) (inserted.resolve_left own)
        rw [segmentsOf, List.cons_append, project_skip (by omega) own]
        simpa only [headText, Nat.add_assoc] using moved

theorem project_before {steps : List Step} {old next : Nat} {offset : Int} (ahead : line < old) :
    project line ends offset (segmentsOf steps old next) = line + offset := by
  induction steps generalizing old next with
  | nil => rfl
  | cons step rest ih =>
    cases step with
    | keep lines => exact ih (by omega)
    | change run => exact if_pos ahead

section

variable {files : List DiffFile} {file : DiffFile} {patch : Patch}

def Projects (files : List DiffFile) (file : DiffFile) (line start end_ : Nat) : Prop :=
  projectRegion files file.path { start := line, end_ := line + 1 } =
    .ok { start, end_, filename := file.filename }

theorem projectRegion_line (checked : files.forM checkFile = .ok ())
    (found : (files.find? fun other => other.path = file.path) = some file)
    (shown : file.patch = some patch.lines) (line : Nat) :
    projectRegion files file.path { start := line, end_ := line + 1 } = .ok
      { start := project line false 0 (segmentsOf patch.steps 1 1)
        end_ := project line true 0 (segmentsOf patch.steps 1 1)
        filename := file.filename } := by
  have same : max line (line + 1 - 1) = line := by omega
  simp only [projectRegion, checked, found, shown, patchSegments_lines, same]
  rfl

/-- A line behind some steps goes where the steps from there on take it, unless lines are inserted
right before it. -/
theorem projectRegion_iff (checked : files.forM checkFile = .ok ())
    (found : (files.find? fun other => other.path = file.path) = some file)
    (shown : file.patch = some patch.lines) {before rest : List Step}
    (steps : patch.steps = before ++ rest) {line start end_ : Nat}
    (behind : 1 + (baseText before).length ≤ line) (after : 1 + (headText before).length ≤ start)
    (alone : ¬ insertsBefore line rest (1 + (baseText before).length))
    (exact_ : ∀ ends, project line ends
      (((1 + (headText before).length : Nat) : Int) - (1 + (baseText before).length : Nat))
      (segmentsOf rest (1 + (baseText before).length) (1 + (headText before).length)) =
        if ends then (end_ : Int) else start) :
    Projects files file line start end_ ↔ ¬ insertsBefore line patch.steps 1 := by
  rw [Projects, projectRegion_line checked found shown, steps, insertsBefore_append, segmentsOf_append]
  simp only [alone, or_false]
  by_cases inserted : insertsBefore line before 1
  · have moved := project_inserted 1 1 (segmentsOf rest (1 + (baseText before).length)
      (1 + (headText before).length)) behind inserted
    simp only [inserted, not_true, iff_false]
    intro same
    have first : project line false 0 _ = start := congrArg Projection.start (Except.ok.inj same)
    rw [show ((1 : Nat) : Int) - (1 : Nat) = 0 from rfl, first] at moved
    omega
  · have past : ∀ ends, project line ends (((1 : Nat) : Int) - (1 : Nat)) _ = _ := fun ends =>
      (project_past 1 1 _ behind inserted).trans (exact_ ends)
    rw [show ((1 : Nat) : Int) - (1 : Nat) = 0 from rfl] at past
    simp [past, inserted]

end

end

/-- A kept line is projected onto itself, a replaced one onto the line at its place or onto the
whole span, exactly where the patch inserts nothing right before it. -/
theorem projectRegion_exact_iff {files : List DiffFile} {file : DiffFile} {patch : Patch}
    (checked : files.forM checkFile = .ok ())
    (found : (files.find? fun other => other.path = file.path) = some file)
    (shown : file.patch = some patch.lines) :
    (∀ before earlier text later after,
      patch.steps = before ++ .keep (earlier ++ text :: later) :: after →
      let line := 1 + (baseText before).length + earlier.length
      let place := 1 + (headText before).length + earlier.length
      Projects files file line place place ↔ ¬ insertsBefore line patch.steps 1) ∧
      ∀ before run after index, patch.steps = before ++ .change run :: after →
        index < (textsOf true run.changes).length →
        let line := 1 + (baseText before).length + index
        let first := 1 + (headText before).length
        let added := (textsOf false run.changes).length
        ((textsOf true run.changes).length = added →
          (Projects files file line (first + index) (first + index) ↔
            ¬ insertsBefore line patch.steps 1)) ∧
        ((textsOf true run.changes).length ≠ added → 0 < added →
          (Projects files file line first (first + added - 1) ↔
            ¬ insertsBefore line patch.steps 1)) := by
  constructor
  · intro before earlier text later after steps line place
    have ahead : line < 1 + (baseText before).length + (earlier ++ text :: later).length := by
      rw [List.length_append, List.length_cons]
      omega
    refine projectRegion_iff checked found shown steps (by omega) (by omega)
      (show ¬ insertsBefore line after _ from not_insertsBefore ahead) fun ends => ?_
    rw [segmentsOf, project_before ahead]
    split <;> omega
  · intro before run after index steps inside line first added
    have alone : ¬ insertsBefore line (.change run :: after) (1 + (baseText before).length) := by
      rintro (⟨none_, -⟩ | later)
      · have length : (textsOf true run.changes).length = 0 := congrArg List.length none_
        omega
      · exact not_insertsBefore (by change _ < _ + (textsOf true run.changes).length; omega) later
    have own : ∀ ends, project line ends
        (((1 + (headText before).length : Nat) : Int) - (1 + (baseText before).length : Nat))
        (segmentsOf (.change run :: after) (1 + (baseText before).length)
          (1 + (headText before).length)) =
        if (textsOf true run.changes).length = added then ((first + index : Nat) : Int)
        else if ends then max (first : Int) (first + added - 1) else first := by
      intro ends
      rw [segmentsOf, project, if_neg (by simp only [Run.segment]; omega),
        if_pos (Or.inl (by simp only [Run.segment]; omega))]
      simp only [Run.segment]
      cases ends
      · simp only [Bool.false_eq_true, if_false]
        split <;> split <;> omega
      · simp only [if_true]
        split <;> split <;> omega
    constructor
    · intro equal
      refine projectRegion_iff checked found shown steps (by omega) (by omega) alone fun ends => ?_
      rw [own, if_pos equal, ite_self]
    · intro unequal some_line
      refine projectRegion_iff checked found shown steps (by omega) (by omega) alone fun ends => ?_
      rw [own, if_neg unequal]
      split <;> omega

def sampleRun : Run := { first := { removed := false, shown := { text := ['x'] } }, more := [] }

def samplePatch : Patch where
  hunks :=
    [([], { lead := []
            blocks :=
              [{ run := sampleRun
                 first := { text := ['a'] }
                 more := [{ text := ['b'] }] }]
            tail := none })]
  trailing := []

def sampleFile : DiffFile where
  filename := "a.mjs"
  status := "modified"
  additions := 1
  deletions := 0
  patch := some samplePatch.lines

/-- The line behind an insertion is projected onto the inserted line. -/
theorem projectRegion_insertion :
    ¬ ∀ (patch : Patch) (file : DiffFile), checkFile file = .ok () →
      file.patch = some patch.lines → ∀ before earlier text later after,
      patch.steps = before ++ .keep (earlier ++ text :: later) :: after →
      let line := 1 + (baseText before).length + earlier.length
      let place := 1 + (headText before).length + earlier.length
      Projects [file] file line place place := by
  intro exact_
  have own := exact_ samplePatch sampleFile (by rfl) rfl
    [.keep [], .keep [], .change sampleRun] [] ['a'] [['b']] [.keep []] rfl
  have starts : ((projectRegion [sampleFile] sampleFile.path { start := 1, end_ := 2 }).toOption.map
      Projection.start) = some 1 := by decide
  have expected := congrArg (fun answer => (answer.toOption.map Projection.start)) own
  exact absurd (starts.symm.trans expected) (by decide)

/-- The line after that is projected onto itself. -/
theorem projectRegion_kept :
    Projects [sampleFile] sampleFile 2 3 3 ↔ ¬ insertsBefore 2 samplePatch.steps 1 := by
  have checked : [sampleFile].forM checkFile = .ok () := by rfl
  have found : ([sampleFile].find? fun other => other.path = sampleFile.path) =
      some sampleFile := by rfl
  exact (projectRegion_exact_iff checked found (show sampleFile.patch = some samplePatch.lines
    from rfl)).1 [.keep [], .keep [], .change sampleRun] [['a']] ['b'] [] [.keep []] rfl

end AdversarialReview.PrimaryChange
