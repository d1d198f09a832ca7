import Mathlib.Data.List.Basic
import Mathlib.Data.List.Nodup
/-! Tables as lists of rows: what a keyed update and an insert change, and what they leave. -/

namespace Table

variable {α κ : Type} {key : α → κ} {rows : List α}

variable {row : α}

theorem nodup_insert (distinct : (rows.map key).Nodup)
    (fresh : ∀ other ∈ rows, key other ≠ key row) : ((rows ++ [row]).map key).Nodup := by
  rw [List.map_append, List.nodup_append]
  refine ⟨distinct, List.nodup_singleton _, ?_⟩
  intro first listed second inserted
  obtain ⟨other, member, rfl⟩ := List.mem_map.mp listed
  have named : second = key row := by simpa using inserted
  rw [named]
  exact fresh other member

variable {selects : α → Bool}

theorem first_of_sorted {sorted : α → α → Prop} (ordered : rows.Pairwise sorted)
    {first other : α} (found : rows.find? selects = some first)
    (listed : other ∈ rows) (selected : selects other = true) :
    other = first ∨ sorted first other := by
  induction rows with
  | nil => cases listed
  | cons row rest ih =>
    obtain ⟨least, ordered⟩ := List.pairwise_cons.mp ordered
    cases chosen : selects row with
    | true =>
      -- The head is the one found, and everything after it is larger.
      have head : row = first := by simpa [chosen] using found
      subst head
      rcases List.mem_cons.mp listed with same | later
      · exact .inl same
      · exact .inr (least other later)
    | false =>
      have below : rest.find? selects = some first := by simpa [chosen] using found
      rcases List.mem_cons.mp listed with same | later
      · rw [same, chosen] at selected
        cases selected
      · exact ih ordered below later

theorem length_filter_le_one (distinct : (rows.map key).Nodup)
    (same : ∀ first ∈ rows, ∀ second ∈ rows, selects first = true → selects second = true →
      first = second) : (rows.filter selects).length ≤ 1 := by
  -- The selected rows are distinct and all the same.
  have apart : (rows.filter selects).Nodup := (List.Nodup.of_map key distinct).filter _
  match listed : rows.filter selects with
  | [] => simp
  | [row] => simp
  | first :: second :: rest =>
    rw [listed] at apart
    have one : first ∈ rows.filter selects := by simp [listed]
    have two : second ∈ rows.filter selects := by simp [listed]
    have equal := same first (List.mem_filter.mp one).1 second (List.mem_filter.mp two).1
      (List.mem_filter.mp one).2 (List.mem_filter.mp two).2
    simp [equal] at apart

theorem find?_of_only (listed : row ∈ rows) (selected : selects row = true)
    (only : ∀ other ∈ rows, selects other = true → other = row) :
    rows.find? selects = some row := by
  cases found : rows.find? selects with
  | none => simp [List.find?_eq_none.mp found row listed] at selected
  | some other =>
    rw [only other (List.mem_of_find?_eq_some found) (List.find?_some found)]

theorem filter_of_only (distinct : (rows.map key).Nodup)
    (listed : row ∈ rows) (selected : selects row = true)
    (only : ∀ other ∈ rows, selects other = true → other = row) :
    rows.filter selects = [row] := by
  have few : (rows.filter selects).length ≤ 1 := length_filter_le_one distinct
    fun first one second two chosen other =>
      (only first one chosen).trans (only second two other).symm
  have kept : row ∈ rows.filter selects := List.mem_filter.mpr ⟨listed, selected⟩
  -- At most one row is left, and this one is.
  match remaining : rows.filter selects with
  | [] => simp [remaining] at kept
  | [other] =>
    rw [remaining, List.mem_singleton] at kept
    rw [kept]
  | first :: second :: rest => simp [remaining] at few

variable [DecidableEq κ]

theorem find?_update {edit : α → α} (keeps : ∀ row, key (edit row) = key row) (target wanted : κ) :
    (rows.map fun row => if key row = target then edit row else row).find?
        (fun row => key row = wanted) =
      (rows.find? fun row => key row = wanted).map fun row =>
        if target = wanted then edit row else row := by
  induction rows with
  | nil => rfl
  | cons row rest ih =>
    simp only [List.map_cons]
    -- The row that is read is the first with the key, before and after the update.
    by_cases found : key row = wanted
    · by_cases hit : key row = target
      · have same : target = wanted := hit.symm.trans found
        simp [hit, same, keeps]
      · have apart : target ≠ wanted := fun same => hit (found.trans same.symm)
        simp [found, apart, apart.symm]
    · by_cases hit : key row = target
      · simpa [List.find?_cons, hit, keeps, hit ▸ found] using ih
      · simpa [List.find?_cons, hit, found] using ih

theorem find?_insert (key : α → κ) (row : α)
    (fresh : rows.find? (fun other => key other = key row) = none) (wanted : κ) :
    (rows ++ [row]).find? (fun other => key other = wanted) =
      if key row = wanted then some row else rows.find? fun other => key other = wanted := by
  rw [List.find?_append]
  by_cases same : key row = wanted
  · subst same
    simp [fresh]
  · simp [same]

theorem find?_of_mem (distinct : (rows.map key).Nodup) (listed : row ∈ rows) :
    rows.find? (fun other => key other = key row) = some row := by
  induction rows with
  | nil => cases listed
  | cons first rest ih =>
    obtain ⟨fresh, distinct⟩ := List.nodup_cons.mp distinct
    rcases List.mem_cons.mp listed with rfl | later
    · simp
    · -- An earlier row with this key would have it twice.
      have apart : key first ≠ key row := fun same =>
        fresh (same ▸ List.mem_map_of_mem later)
      simpa [apart] using ih distinct later

end Table
