import Mathlib.Data.List.Nodup
import Mathlib.Data.List.Induction

/-! Insertion-ordered maps: writing a known key keeps its place, and a new key goes last. -/

universe u v

structure OrderedMap (κ : Type u) (ν : Type v) where
  entries : List (κ × ν)
  nodup : (entries.map Prod.fst).Nodup

namespace OrderedMap

variable {κ : Type u} {ν : Type v}

def empty : OrderedMap κ ν where
  entries := []
  nodup := List.nodup_nil

def values (map : OrderedMap κ ν) : List ν :=
  map.entries.map Prod.snd

variable [DecidableEq κ]

def get? (map : OrderedMap κ ν) (key : κ) : Option ν :=
  (map.entries.find? fun entry => entry.1 = key).map Prod.snd

def setEntries (key : κ) (value : ν) : List (κ × ν) → List (κ × ν)
  | [] => [(key, value)]
  | entry :: rest =>
    if entry.1 = key then (key, value) :: rest else entry :: setEntries key value rest

theorem mem_keys_setEntries {key other : κ} {value : ν} {entries : List (κ × ν)}
    (member : other ∈ (setEntries key value entries).map Prod.fst) :
    other = key ∨ other ∈ entries.map Prod.fst := by
  induction entries with
  | nil => exact .inl (by simpa [setEntries] using member)
  | cons entry rest ih =>
    by_cases same : entry.1 = key
    · simp only [setEntries, same, if_true, List.map_cons, List.mem_cons] at member ⊢
      tauto
    · simp only [setEntries, same, if_false, List.map_cons, List.mem_cons] at member ⊢
      rcases member with head | tail
      · exact .inr (.inl head)
      · rcases ih tail with written | listed
        · exact .inl written
        · exact .inr (.inr listed)

theorem nodup_setEntries (key : κ) (value : ν) {entries : List (κ × ν)}
    (nodup : (entries.map Prod.fst).Nodup) :
    ((setEntries key value entries).map Prod.fst).Nodup := by
  induction entries with
  | nil => simp [setEntries]
  | cons entry rest ih =>
    obtain ⟨fresh, tail⟩ := List.nodup_cons.mp nodup
    by_cases same : entry.1 = key
    · simpa [setEntries, same] using nodup
    · simp only [setEntries, same, if_false, List.map_cons, List.nodup_cons]
      refine ⟨fun member => ?_, ih tail⟩
      rcases mem_keys_setEntries member with written | listed
      · exact same written
      · exact fresh listed

def set (map : OrderedMap κ ν) (key : κ) (value : ν) : OrderedMap κ ν where
  entries := setEntries key value map.entries
  nodup := nodup_setEntries key value map.nodup

def erase (map : OrderedMap κ ν) (key : κ) : OrderedMap κ ν where
  entries := map.entries.filter fun entry => entry.1 ≠ key
  nodup := (List.filter_sublist.map Prod.fst).nodup map.nodup

def single (key : κ) (value : ν) : OrderedMap κ ν where
  entries := [(key, value)]
  nodup := List.nodup_singleton key

@[simp] theorem get?_empty (key : κ) : (empty : OrderedMap κ ν).get? key = none := rfl

theorem find?_setEntries (key other : κ) (value : ν) (entries : List (κ × ν)) :
    ((setEntries key value entries).find? fun entry => entry.1 = other).map Prod.snd =
      if key = other then some value
      else (entries.find? fun entry => entry.1 = other).map Prod.snd := by
  -- The walk that writes and the walk that reads stop at the same entry.
  induction entries with
  | nil => by_cases same : key = other <;> simp [setEntries, same]
  | cons entry rest ih =>
    by_cases written : entry.1 = key
    · by_cases same : key = other
      · simp [setEntries, written, same]
      · simp [setEntries, written, same]
    · by_cases found : entry.1 = other
      · have apart : key ≠ other := fun same => written (found.trans same.symm)
        simp [setEntries, found, apart, apart.symm]
      · simpa [setEntries, written, found] using ih
theorem get?_set (map : OrderedMap κ ν) (key other : κ) (value : ν) :
    (map.set key value).get? other = if key = other then some value else map.get? other :=
  find?_setEntries key other value map.entries

@[simp] theorem get?_set_self (map : OrderedMap κ ν) (key : κ) (value : ν) :
    (map.set key value).get? key = some value := by
  simp [get?_set]

theorem get?_set_of_ne (map : OrderedMap κ ν) {key other : κ} (apart : key ≠ other) (value : ν) :
    (map.set key value).get? other = map.get? other := by
  simp [get?_set, apart]

theorem mem_values_iff (map : OrderedMap κ ν) (value : ν) :
    value ∈ map.values ↔ ∃ key, map.get? key = some value := by
  -- Each key stands once, so the first entry found under a key is its only one.
  obtain ⟨entries, nodup⟩ := map
  simp only [values, get?]
  induction entries with
  | nil => simp
  | cons entry rest ih =>
    obtain ⟨fresh, tail⟩ := List.nodup_cons.mp nodup
    rw [List.map_cons, List.mem_cons, ih tail]
    constructor
    · rintro (rfl | ⟨key, found⟩)
      · exact ⟨entry.1, by simp⟩
      · refine ⟨key, ?_⟩
        have apart : entry.1 ≠ key := by
          intro same
          obtain ⟨pair, located, -⟩ := Option.map_eq_some_iff.mp found
          have named : pair.1 = key := by simpa using List.find?_some located
          exact fresh (List.mem_map.mpr
            ⟨pair, List.mem_of_find?_eq_some located, named.trans same.symm⟩)
        simpa [List.find?_cons, apart] using found
    · rintro ⟨key, found⟩
      by_cases same : entry.1 = key
      · exact .inl (by simpa [List.find?_cons, same] using found.symm)
      · exact .inr ⟨key, by simpa [List.find?_cons, same] using found⟩

theorem get?_index {α : Type v} (keyOf : α → κ) (items : List α) (key : κ) :
    (items.foldl (fun map item => map.set (keyOf item) item) empty).get? key =
      (items.filter fun item => keyOf item = key).getLast? := by
  -- The last element written under a key overwrites every earlier one.
  induction items using List.reverseRecOn with
  | nil => rfl
  | append_singleton items item ih =>
    rw [List.foldl_append, List.foldl_cons, List.foldl_nil, get?_set, ih, List.filter_append]
    by_cases same : keyOf item = key <;> simp [same]

end OrderedMap
