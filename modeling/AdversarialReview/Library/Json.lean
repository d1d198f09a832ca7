import Mathlib.Data.Rat.Defs
import AdversarialReview.Library.OrderedMap

/-! JSON values and the ways JavaScript reads them: members, truthiness and two equalities. -/

inductive Json where
  | null
  | bool (value : Bool)
  | num (value : Rat)
  | str (value : String)
  | arr (items : List Json)
  | obj (members : List (String × Json))

namespace Json

def get? : Json → String → Option Json
  | obj members, key => (members.find? fun member => member.1 = key).map Prod.snd
  | _, _ => none

def set : Json → String → Json → Json
  | obj members, key, value => obj (OrderedMap.setEntries key value members)
  | other, _, _ => other

def erase : Json → String → Json
  | obj members, key => obj (members.filter fun member => member.1 ≠ key)
  | other, _ => other

theorem get?_erase_self (value : Json) (key : String) : (value.erase key).get? key = none := by
  cases value with
  | obj members => simp [erase, get?]
  | _ => rfl

theorem get?_erase_of_none {value : Json} {key : String} (absent : value.get? key = none)
    (other : String) : (value.erase other).get? key = none := by
  cases value with
  | obj members =>
    simp only [get?, Option.map_eq_none_iff, List.find?_eq_none, decide_eq_true_eq] at absent
    simp only [erase, get?, Option.map_eq_none_iff, List.find?_eq_none, decide_eq_true_eq]
    intro member listed
    exact absent member (List.mem_filter.mp listed).1
  | _ => rfl

theorem get?_set_self (members : List (String × Json)) (key : String) (value : Json) :
    ((obj members).set key value).get? key = some value := by
  change ((OrderedMap.setEntries key value members).find? _).map Prod.snd = some value
  induction members with
  | nil => simp [OrderedMap.setEntries]
  | cons entry rest ih =>
    by_cases same : entry.1 = key
    · simp [OrderedMap.setEntries, same]
    · simp [OrderedMap.setEntries, same, ih]

theorem get?_set_of_ne (value : Json) {key other : String} (apart : other ≠ key) (new : Json) :
    (value.set key new).get? other = value.get? other := by
  cases value with
  | obj members =>
    simp only [set, get?]
    congr 1
    induction members with
    | nil => simp [OrderedMap.setEntries, apart.symm]
    | cons entry rest ih =>
      by_cases same : entry.1 = key
      · have away : entry.1 ≠ other := fun named => apart (named.symm.trans same)
        simp [OrderedMap.setEntries, same, apart.symm]
      · by_cases found : entry.1 = other
        · simp [OrderedMap.setEntries, found, apart]
        · simp [OrderedMap.setEntries, same, found, ih]
  | _ => rfl

def text? : Json → Option String
  | str value => some value
  | _ => none

def truthy : Option Json → Bool
  | none | some null => false
  | some (bool value) => value
  | some (num value) => value ≠ 0
  | some (str value) => value ≠ ""
  | some (arr _) | some (obj _) => true

/-- Strict equality; two parsed objects are never the same object. -/
def strictEq : Option Json → Option Json → Bool
  | none, none => true
  | some null, some null => true
  | some (bool first), some (bool second) => first = second
  | some (num first), some (num second) => first = second
  | some (str first), some (str second) => first = second
  | _, _ => false

mutual

def deepEq : Json → Json → Bool
  | null, null => true
  | bool first, bool second => first = second
  | num first, num second => first = second
  | str first, str second => first = second
  | arr first, arr second => deepEqItems first second
  | obj first, obj second => first.length = second.length && deepEqMembers first second
  | _, _ => false

def deepEqItems : List Json → List Json → Bool
  | [], [] => true
  | first :: rest, second :: others => deepEq first second && deepEqItems rest others
  | _, _ => false

def deepEqMembers : List (String × Json) → List (String × Json) → Bool
  | [], _ => true
  | (key, value) :: rest, members =>
    (match members.find? fun member => member.1 = key with
      | some member => deepEq value member.2
      | none => false) && deepEqMembers rest members

end

end Json
