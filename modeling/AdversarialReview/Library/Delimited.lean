import Mathlib.Data.List.Basic

/-! Texts joined by marks, and when they fall apart again in one way only. -/

namespace Delimited

variable {α : Type} {mark : α} {first second tail rest : List α}

theorem last_mark_inj (tailFree : mark ∉ tail) (restFree : mark ∉ rest)
    (same : first ++ mark :: tail = second ++ mark :: rest) : first = second ∧ tail = rest := by
  rcases List.append_eq_append_iff.mp same with ⟨between, longer, after⟩ | ⟨between, longer, after⟩
  all_goals
    cases between with
    | nil => simp_all
    | cons head more =>
      -- A longer front would put the other mark into the tail.
      obtain ⟨_, inside⟩ := List.cons.inj after
      simp_all

def NoDouble (mark : α) (text : List α) : Prop :=
  ¬ [mark, mark] <:+: text ++ [mark]

instance [DecidableEq α] (text : List α) : Decidable (NoDouble mark text) :=
  inferInstanceAs (Decidable (¬ _))

theorem NoDouble.map {rename : α → α} {text : List α} (single : NoDouble mark text)
    (fixed : rename mark = mark) (keeps : ∀ item ∈ text, rename item = mark → item = mark) :
    NoDouble mark (text.map rename) := by
  rintro ⟨before, after, doubled⟩
  have whole : (text ++ [mark]).map rename = before ++ [mark, mark] ++ after := by
    rw [doubled]
    simp [fixed]
  obtain ⟨front, last, joined, frontMap, -⟩ := List.map_eq_append_iff.mp whole
  obtain ⟨start, pair, rfl, -, pairMap⟩ := List.map_eq_append_iff.mp frontMap
  -- Whatever was renamed to a mark was one.
  have mine : ∀ item ∈ pair, item = mark := by
    intro item listed
    have renamed : rename item = mark := by
      have listed := List.mem_map_of_mem (f := rename) listed
      rw [pairMap] at listed
      simpa using listed
    have stands : item ∈ text ++ [mark] := by
      rw [joined]
      simp [listed]
    rcases List.mem_append.mp stands with inside | last
    · exact keeps item inside renamed
    · exact List.mem_singleton.mp last
  have pairEq : pair = [mark, mark] := by
    have size : pair.length = 2 := by simpa using congrArg List.length pairMap
    exact (List.eq_replicate_iff.mpr ⟨size, mine⟩)
  exact single ⟨start, last, by rw [joined, pairEq]⟩

theorem NoDouble.not_longer {between after : List α} (single : NoDouble mark (first ++ between))
    (goesOn : mark :: mark :: tail = between ++ after) : between = [] := by
  match between, goesOn with
  | [], _ => rfl
  | [head], goesOn =>
    obtain ⟨rfl, -⟩ := List.cons.inj goesOn
    exact absurd ⟨first, [], by simp⟩ single
  | head :: next :: more, goesOn =>
    obtain ⟨rfl, follows⟩ := List.cons.inj goesOn
    obtain ⟨rfl, -⟩ := List.cons.inj follows
    exact absurd ⟨first, more ++ [mark], by simp⟩ single

theorem double_mark_inj (single : NoDouble mark first) (other : NoDouble mark second)
    (same : first ++ mark :: mark :: tail = second ++ mark :: mark :: rest) :
    first = second ∧ tail = rest := by
  rcases List.append_eq_append_iff.mp same with ⟨between, longer, after⟩ | ⟨between, longer, after⟩
  · have empty : between = [] := (longer ▸ other).not_longer after
    simp_all
  · have empty : between = [] := (longer ▸ single).not_longer after
    simp_all

end Delimited
