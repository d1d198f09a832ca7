import Mathlib.Data.List.Basic

/-! Marks that a machine makes once: what asks for one, what stores it and what loses it. -/

def afterCalls {State Call : Type} (perform : State → Call → Bool × State) (state : State)
    (calls : List Call) : State :=
  calls.foldl (fun state call => (perform state call).2) state

/-- A mark that a machine makes unless its state holds it already. -/
structure Latch {State Call : Type} (perform : State → Call → Bool × State) where
  held : State → Bool
  asks : Call → Bool
  /-- What asks for the mark may still fail to store it. -/
  stores : Call → Bool
  loses : Call → Bool
  marked : ∀ {state call}, asks call = true → (perform state call).1 = !held state
  asked : ∀ {state call}, asks call = true →
    held (perform state call).2 = (held state || stores call)
  lost : ∀ {state call}, asks call = false → loses call = true →
    held (perform state call).2 = false
  kept : ∀ {state call}, asks call = false → loses call = false →
    held (perform state call).2 = held state

namespace Latch

variable {State Call : Type} {perform : State → Call → Bool × State} (latch : Latch perform)

@[simp] def marks (state : State) : List Call → Nat
  | [] => 0
  | call :: rest => (if latch.asks call && (perform state call).1 then 1 else 0) +
      marks (perform state call).2 rest

def Steady (calls : List Call) : Prop :=
  ∀ front first middle last back, calls = front ++ first :: (middle ++ last :: back) →
    (∀ call ∈ front, latch.asks call = false) → latch.asks first = true →
    latch.asks last = true →
    latch.stores first = true ∧ ∀ call ∈ middle, latch.asks call = false →
      latch.loses call = false

variable {latch}

theorem marks_append (state : State) (front back : List Call) :
    latch.marks state (front ++ back) = latch.marks state front +
      latch.marks (afterCalls perform state front) back := by
  induction front generalizing state with
  | nil => simp [marks, afterCalls]
  | cons call front ih =>
    simp only [List.cons_append, marks, ih, afterCalls, List.foldl_cons]
    omega

variable {calls : List Call}

theorem marks_eq_zero (none : ∀ call ∈ calls, latch.asks call = false)
    (state : State) : latch.marks state calls = 0 := by
  induction calls generalizing state with
  | nil => rfl
  | cons call rest ih =>
    rw [List.forall_mem_cons] at none
    simp [marks, none.1, ih none.2]

variable {state : State}

theorem marks_of_held (held : latch.held state = true)
    (safe : ∀ middle last back, calls = middle ++ last :: back → latch.asks last = true →
      ∀ call ∈ middle, latch.asks call = false → latch.loses call = false) :
    latch.marks state calls = 0 := by
  induction calls generalizing state with
  | nil => rfl
  | cons call rest ih =>
    have later : ∀ middle last back, rest = middle ++ last :: back → latch.asks last = true →
        ∀ other ∈ middle, latch.asks other = false → latch.loses other = false := by
      intro middle last back split asks other among
      exact safe (call :: middle) last back (by simp [split]) asks other
        (List.mem_cons_of_mem call among)
    by_cases asks : latch.asks call = true
    · rw [marks, latch.marked asks, ih (by rw [latch.asked asks, held, Bool.true_or]) later]
      simp [held]
    · rw [Bool.not_eq_true] at asks
      by_cases loses : latch.loses call = true
      · -- A call that loses the mark is followed by no request.
        have none : ∀ other ∈ rest, latch.asks other = false := by
          intro other among
          by_contra asked
          obtain ⟨middle, back, split⟩ := List.append_of_mem among
          have kept := safe (call :: middle) other back (by simp [split])
            (by simpa using asked) call List.mem_cons_self asks
          rw [kept] at loses
          cases loses
        rw [marks, marks_eq_zero none]
        simp [asks]
      · rw [Bool.not_eq_true] at loses
        rw [marks, ih (by rw [latch.kept asks loses, held]) later]
        simp [asks]

theorem marks_pos (open_ : latch.held state = false)
    {last : Call} (among : last ∈ calls) (asks : latch.asks last = true) :
    1 ≤ latch.marks state calls := by
  induction calls generalizing state with
  | nil => cases among
  | cons call rest ih =>
    by_cases first : latch.asks call = true
    · simp [marks, first, latch.marked first, open_]
    · rw [Bool.not_eq_true] at first
      have still : latch.held (perform state call).2 = false := by
        cases loses : latch.loses call with
        | true => exact latch.lost first loses
        | false => rw [latch.kept first loses, open_]
      rcases List.mem_cons.mp among with rfl | among
      · rw [asks] at first
        cases first
      · have one := ih still among
        simp only [marks]
        omega

theorem held_afterCalls (none : ∀ call ∈ calls, latch.asks call = false)
    (open_ : latch.held state = false) :
    latch.held (afterCalls perform state calls) = false := by
  induction calls generalizing state with
  | nil => exact open_
  | cons call rest ih =>
    rw [List.forall_mem_cons] at none
    refine ih none.2 ?_
    cases loses : latch.loses call with
    | true => exact latch.lost none.1 loses
    | false => rw [latch.kept none.1 loses, open_]

theorem Steady.marks_le_one (steady : latch.Steady calls) (state : State) :
    latch.marks state calls ≤ 1 := by
  by_cases some : ∃ call ∈ calls, latch.asks call = true
  · -- The calls are split at the first request.
    obtain ⟨front, first, rest, rfl, none, asks⟩ : ∃ front first rest,
        calls = front ++ first :: rest ∧ (∀ call ∈ front, latch.asks call = false) ∧
          latch.asks first = true := by
      obtain ⟨first, found⟩ := Option.isSome_iff_exists.mp (List.find?_isSome.mpr some)
      obtain ⟨asks, front, rest, split, none⟩ := List.find?_eq_some_iff_append.mp found
      exact ⟨front, first, rest, split, fun call among => by simpa using none call among, asks⟩
    have split := fun middle last back (same : rest = middle ++ last :: back) =>
      steady front first middle last back (by rw [same]) none asks
    rw [marks_append, marks_eq_zero none, marks]
    have later : ∀ state, latch.marks (perform state first).2 rest = 0 := by
      intro state
      by_cases more : ∃ last ∈ rest, latch.asks last = true
      · obtain ⟨last, among, again⟩ := more
        obtain ⟨middle, back, same⟩ := List.append_of_mem among
        refine marks_of_held ?_ fun middle last back same again =>
          (split middle last back same again).2
        rw [latch.asked asks, (split middle last back same again).1, Bool.or_true]
      · refine marks_eq_zero ?_ _
        intro call among
        by_contra again
        exact more ⟨call, among, by simpa using again⟩
    rw [later]
    split <;> omega
  · rw [marks_eq_zero]
    · omega
    · intro call among
      by_contra asks
      exact some ⟨call, among, by simpa using asks⟩

theorem marks_le_one_iff {start : State} (open_ : latch.held start = false)
    : (∀ state, latch.marks state calls ≤ 1) ↔ latch.Steady calls := by
  refine ⟨fun once => ?_, fun steady => steady.marks_le_one⟩
  intro front first middle last back same none asks again
  have once := once start
  subst same
  constructor
  · by_contra fails
    rw [Bool.not_eq_true] at fails
    -- The first request is answered and forgotten, so the last one is answered too.
    have still := held_afterCalls none open_
    have one : 1 ≤ latch.marks (perform (afterCalls perform start front) first).2
        (middle ++ last :: back) := by
      refine marks_pos ?_ (by simp) again
      rw [latch.asked asks, still, fails, Bool.or_false]
    rw [marks_append, marks, latch.marked asks, still, asks] at once
    simp only [Bool.not_false, Bool.and_self, if_true] at once
    omega
  · intro call among silent
    by_contra loses
    rw [Bool.not_eq_false] at loses
    obtain ⟨before, after, rfl⟩ := List.append_of_mem among
    have split : front ++ first :: (before ++ call :: after ++ last :: back) =
        (front ++ first :: before) ++ call :: (after ++ last :: back) := by simp
    rw [split, marks_append, marks] at once
    have one : 1 ≤ latch.marks start (front ++ first :: before) :=
      marks_pos open_ (by simp) asks
    have two : 1 ≤ latch.marks
        (perform (afterCalls perform start (front ++ first :: before)) call).2
        (after ++ last :: back) :=
      marks_pos (latch.lost silent loses) (by simp) again
    omega

end Latch
