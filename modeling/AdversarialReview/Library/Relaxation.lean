import Mathlib.Data.List.Chain
import AdversarialReview.Library.OrderedMap

/-! Relaxing a list of edges, pass by pass: what is reached, and by which path. -/

/-- An edge from one place to another. -/
structure Edge (α : Type) where
  base : α
  head : α

namespace Edge

variable {α : Type} {edges : List (Edge α)} {source : α}

def Path (edges : List (Edge α)) (source : α) (path : List α) : Prop :=
  (source :: path).IsChain fun base head => ⟨base, head⟩ ∈ edges

def SimplePath (edges : List (Edge α)) (source : α) (path : List α) : Prop :=
  Path edges source path ∧ (source :: path).Nodup

theorem Path.append {path : List α} {base head : α} (walked : Path edges source path)
    (last : (source :: path).getLast (by simp) = base) (edge : ⟨base, head⟩ ∈ edges) :
    Path edges source (path ++ [head]) := by
  unfold Path at walked ⊢
  rw [← List.cons_append, List.isChain_append]
  refine ⟨walked, by simp, ?_⟩
  intro first listed second only
  rw [List.getLast?_eq_some_getLast (by simp)] at listed
  cases listed
  simp only [List.head?_cons, Option.mem_def, Option.some.injEq] at only
  rw [last, ← only]
  exact edge

variable [DecidableEq α]

abbrev Reached (α : Type) := OrderedMap α (List α)

def relaxEdge (state : Bool × Reached α) (edge : Edge α) : Bool × Reached α :=
  match state.2.get? edge.base, state.2.get? edge.head with
  | some path, none => (true, state.2.set edge.head (path ++ [edge.head]))
  | _, _ => state

def relaxPass (edges : List (Edge α)) (reached : Reached α) : Bool × Reached α :=
  edges.foldl relaxEdge (false, reached)

/-- Passes until one changes nothing, or their number is used up. -/
def relaxPasses (edges : List (Edge α)) : Nat → Reached α → Reached α
  | 0, reached => reached
  | passes + 1, reached =>
    match relaxPass edges reached with
    | (true, next) => relaxPasses edges passes next
    | (false, next) => next

def relax (edges : List (Edge α)) (source : α) : Reached α :=
  relaxPasses edges edges.length (OrderedMap.single source [])

section

variable {reached : Reached α} {place : α} {path : List α}

def Known (reached : Reached α) (place : α) : Prop :=
  (reached.get? place).isSome = true

def Sound (edges : List (Edge α)) (source : α) (reached : Reached α) : Prop :=
  ∀ place path, reached.get? place = some path →
    SimplePath edges source path ∧ (source :: path).getLast (by simp) = place ∧
      ∀ passed ∈ source :: path, Known reached passed

def Closed (edges : List (Edge α)) (reached : Reached α) : Prop :=
  ∀ edge ∈ edges, Known reached edge.base → Known reached edge.head

def openEdges (edges : List (Edge α)) (reached : Reached α) : Nat :=
  edges.countP fun edge => (reached.get? edge.head).isNone

variable {edge : Edge α} {state : Bool × Reached α}

theorem relaxEdge_known (known : Known state.2 place) :
    Known (relaxEdge state edge).2 place := by
  unfold relaxEdge
  split
  next path_ base head =>
    unfold Known at known ⊢
    rw [OrderedMap.get?_set]
    split
    · rfl
    · exact known
  next => exact known

theorem Sound.relaxEdge (sound : Sound edges source state.2) (listed : edge ∈ edges) :
    Sound edges source (relaxEdge state edge).2 := by
  intro place path found
  have kept : ∀ passed, Known state.2 passed → Known (Edge.relaxEdge state edge).2 passed :=
    fun passed => relaxEdge_known
  unfold Edge.relaxEdge at found
  split at found
  next before base head =>
    rw [OrderedMap.get?_set] at found
    split at found
    next same =>
      -- The new path ends in the head, which was on no path before.
      simp only [Option.some.injEq] at found
      subst same found
      obtain ⟨⟨walked, distinct⟩, last, passed⟩ := sound _ _ base
      have new : edge.head ∉ source :: before := by
        intro on
        have known := passed _ on
        rw [Known, head] at known
        cases known
      have reachedHead : Known (Edge.relaxEdge state edge).2 edge.head := by
        unfold Known Edge.relaxEdge
        rw [base, head]
        simp
      refine ⟨⟨walked.append last (by cases edge; exact listed), ?_⟩, ?_, ?_⟩
      · rw [← List.cons_append, List.nodup_append]
        refine ⟨distinct, List.nodup_singleton _, ?_⟩
        intro one member two only same
        rw [List.mem_singleton.mp only] at same
        exact new (same ▸ member)
      · simp
      · intro other member
        rw [← List.cons_append] at member
        rcases List.mem_append.mp member with old | only
        · exact kept other (passed other old)
        · rw [List.mem_singleton.mp only]
          exact reachedHead
    next =>
      obtain ⟨simple, last, passed⟩ := sound _ _ found
      exact ⟨simple, last, fun other member => kept other (passed other member)⟩
  next =>
    obtain ⟨simple, last, passed⟩ := sound _ _ found
    exact ⟨simple, last, fun other member => kept other (passed other member)⟩

variable {some_ : List (Edge α)}

theorem relaxFold_known
    (known : Known state.2 place) : Known (some_.foldl relaxEdge state).2 place := by
  induction some_ generalizing state with
  | nil => exact known
  | cons edge rest ih => exact ih (relaxEdge_known known)

theorem Sound.relaxFold (sound : Sound edges source state.2) (listed : some_ ⊆ edges) :
    Sound edges source (some_.foldl Edge.relaxEdge state).2 := by
  induction some_ generalizing state with
  | nil => exact sound
  | cons edge rest ih =>
    exact ih (sound.relaxEdge (listed (by simp))) fun other member =>
      listed (List.mem_cons_of_mem _ member)

theorem relaxFold_unchanged (same : (some_.foldl relaxEdge state).1 = false) :
    (some_.foldl relaxEdge state).2 = state.2 ∧ state.1 = false ∧ Closed some_ state.2 := by
  induction some_ generalizing state with
  | nil => exact ⟨rfl, same, by simp [Closed]⟩
  | cons edge rest ih =>
    obtain ⟨kept, flag, closed⟩ := ih same
    unfold relaxEdge at kept flag closed
    split at flag
    next => cases flag
    next other =>
      have idle : relaxEdge state edge = state := by
        unfold relaxEdge
        split
        next path base head => exact absurd head (other path base)
        next => rfl
      rw [List.foldl_cons, idle]
      have restSame : (rest.foldl relaxEdge state).1 = false := by
        rw [List.foldl_cons, idle] at same
        exact same
      have next := ih restSame
      refine ⟨next.1, flag, ?_⟩
      intro one listed base
      rcases List.mem_cons.mp listed with rfl | member
      · cases head : state.2.get? one.head with
        | some path => simp [Known, head]
        | none =>
          obtain ⟨path, at_⟩ := Option.isSome_iff_exists.mp base
          exact absurd head (other path at_)
      · exact next.2.2 one member base

theorem countP_lt {β : Type} {items : List β} {before after : β → Bool} {item : β}
    (fewer : ∀ other ∈ items, after other = true → before other = true) (listed : item ∈ items)
    (taken : before item = true) (left : after item = false) :
    items.countP after < items.countP before := by
  induction items with
  | nil => cases listed
  | cons first rest ih =>
    have restFewer : ∀ other ∈ rest, after other = true → before other = true :=
      fun other member => fewer other (List.mem_cons_of_mem _ member)
    have le := List.countP_mono_left restFewer
    rcases List.mem_cons.mp listed with rfl | member
    · simp only [List.countP_cons, taken, left, if_true]
      simp
      omega
    · have less := ih restFewer member
      have head := fewer first (by simp)
      simp only [List.countP_cons]
      by_cases now : after first = true
      · simp only [now, head now, if_true]
        omega
      · simp only [now, Bool.false_eq_true, if_false]
        omega

theorem openEdges_mono {next : Reached α} (kept : ∀ place, Known reached place → Known next place) :
    openEdges edges next ≤ openEdges edges reached := by
  refine List.countP_mono_left ?_
  intro edge _ still
  by_contra known
  have later := kept edge.head (by simpa [Known, Option.isSome_iff_ne_none] using known)
  simp only [Known] at later
  simp [Option.isNone_iff_eq_none] at still
  simp [still] at later

theorem openEdges_relaxEdge (listed : edge ∈ edges) (new : (relaxEdge state edge).1 = true) :
    state.1 = true ∨ openEdges edges (relaxEdge state edge).2 < openEdges edges state.2 := by
  cases base : state.2.get? edge.base with
  | none =>
    simp only [relaxEdge, base] at new
    exact .inl new
  | some path =>
    cases head : state.2.get? edge.head with
    | some other =>
      simp only [relaxEdge, base, head] at new
      exact .inl new
    | none =>
      refine .inr (countP_lt ?_ listed (by simp [head]) (by simp [relaxEdge, base, head]))
      intro other _ still
      by_contra known
      have later : Known (relaxEdge state edge).2 other.head := relaxEdge_known
        (show Known state.2 other.head by
          simpa [Known, Option.isSome_iff_ne_none] using known)
      simp only [Known] at later
      simp [Option.isNone_iff_eq_none] at still
      simp [still] at later

theorem openEdges_relaxFold
    (listed : some_ ⊆ edges) (new : (some_.foldl relaxEdge state).1 = true) :
    state.1 = true ∨ openEdges edges (some_.foldl relaxEdge state).2 < openEdges edges state.2 := by
  induction some_ generalizing state with
  | nil => exact .inl new
  | cons edge rest ih =>
    have first : edge ∈ edges := listed (by simp)
    have le : openEdges edges (rest.foldl relaxEdge (relaxEdge state edge)).2 ≤
        openEdges edges (relaxEdge state edge).2 :=
      openEdges_mono fun place => relaxFold_known
    have step : openEdges edges (relaxEdge state edge).2 ≤ openEdges edges state.2 :=
      openEdges_mono fun place => relaxEdge_known
    rcases ih (fun other member => listed (List.mem_cons_of_mem _ member)) new with early | fewer
    · rcases openEdges_relaxEdge first early with before | less
      · exact .inl before
      · exact .inr (Nat.lt_of_le_of_lt le less)
    · exact .inr (Nat.lt_of_lt_of_le fewer step)

end

section

variable {reached : Reached α} {place : α} {path : List α}

theorem relaxPasses_closed {passes : Nat} (enough : openEdges edges reached ≤ passes) :
    Closed edges (relaxPasses edges passes reached) := by
  induction passes generalizing reached with
  | zero =>
    intro edge listed _
    have none_ := List.countP_eq_zero.mp (Nat.le_zero.mp enough) edge listed
    simpa [Known, Option.isSome_iff_ne_none, relaxPasses] using none_
  | succ passes ih =>
    unfold relaxPasses
    cases pass : relaxPass edges reached with
    | mk changed next =>
      have fold : edges.foldl relaxEdge (false, reached) = (changed, next) := pass
      cases changed with
      | true =>
        have fewer := openEdges_relaxFold (List.Subset.refl edges)
          (show (edges.foldl relaxEdge (false, reached)).1 = true by rw [fold])
        rw [fold] at fewer
        have less : openEdges edges next < openEdges edges reached :=
          fewer.resolve_left (by simp)
        exact ih (by omega)
      | false =>
        have idle := relaxFold_unchanged
          (show (edges.foldl relaxEdge (false, reached)).1 = false by rw [fold])
        rw [fold] at idle
        have same : next = reached := idle.1
        dsimp only
        rw [same]
        exact idle.2.2

theorem relaxPasses_sound {passes : Nat} (sound : Sound edges source reached) :
    Sound edges source (relaxPasses edges passes reached) := by
  induction passes generalizing reached with
  | zero => exact sound
  | succ passes ih =>
    have pass : Sound edges source (relaxPass edges reached).2 :=
      show Sound edges source (edges.foldl relaxEdge (false, reached)).2 from
        Sound.relaxFold sound (List.Subset.refl edges)
    unfold relaxPasses
    split
    next next at_ => exact ih (by rw [at_] at pass; exact pass)
    next next at_ => rw [at_] at pass; exact pass

theorem relaxPasses_known {passes : Nat} (known : Known reached place) :
    Known (relaxPasses edges passes reached) place := by
  induction passes generalizing reached with
  | zero => exact known
  | succ passes ih =>
    have pass : Known (relaxPass edges reached).2 place :=
      show Known (edges.foldl relaxEdge (false, reached)).2 place from relaxFold_known known
    unfold relaxPasses
    split
    next next at_ => exact ih (by rw [at_] at pass; exact pass)
    next next at_ => rw [at_] at pass; exact pass

theorem relax_sound (found : (relax edges source).get? place = some path) :
    SimplePath edges source path ∧ (source :: path).getLast (by simp) = place := by
  have start : Sound edges source (OrderedMap.single source []) := by
    intro other path at_
    have both : source = other ∧ [] = path := by
      by_cases same : source = other
      · exact ⟨same, by simpa [OrderedMap.single, OrderedMap.get?, same] using at_⟩
      · simp [OrderedMap.single, OrderedMap.get?, same] at at_
    obtain ⟨rfl, rfl⟩ := both
    refine ⟨⟨by simp [Path], by simp⟩, by simp, ?_⟩
    intro passed member
    rw [List.mem_singleton.mp member]
    simp [Known, OrderedMap.single, OrderedMap.get?]
  have walked : Sound edges source (relaxPasses edges edges.length (OrderedMap.single source [])) :=
    relaxPasses_sound start
  obtain ⟨simple, last, -⟩ := walked place path found
  exact ⟨simple, last⟩

theorem relax_complete (walked : Path edges source path) (on : place ∈ source :: path) :
    ∃ found, (relax edges source).get? place = some found := by
  have closed : Closed edges (relax edges source) := relaxPasses_closed List.countP_le_length
  have start : Known (relax edges source) source :=
    relaxPasses_known (by simp [Known, OrderedMap.single, OrderedMap.get?])
  -- One edge after the other, from the source on.
  have along : ∀ (rest : List α) (from_ : α), Known (relax edges source) from_ →
      Path edges from_ rest → ∀ passed ∈ from_ :: rest, Known (relax edges source) passed := by
    intro rest
    induction rest with
    | nil =>
      intro from_ known _ passed member
      rw [List.mem_singleton.mp member]
      exact known
    | cons next rest ih =>
      intro from_ known walked passed member
      obtain ⟨edge, later⟩ := List.isChain_cons_cons.mp walked
      rcases List.mem_cons.mp member with rfl | inside
      · exact known
      · exact ih next (closed _ edge known) later passed inside
  exact Option.isSome_iff_exists.mp (along path source start walked place on)

end

end Edge
