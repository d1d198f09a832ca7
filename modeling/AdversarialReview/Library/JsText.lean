import Mathlib.Data.List.DropRight
import AdversarialReview.Library.Json

/-! Reading untyped values as JavaScript does: trimmed texts, plain objects, arrays and numbers. -/

/-- The conversions whose tables and formats are the engine's. -/
class JsText where
  toUpperCase : String → String
  toUpperCase_empty : toUpperCase "" = ""
  toLowerCase : String → String
  /-- The text of a value, absent where converting it throws. -/
  string : Json → Option String
  /-- The number of a value, absent where it is not finite. -/
  number : Json → Option Rat

/-- The white space of a JavaScript pattern. -/
def jsSpace (char : Char) : Bool :=
  let code := char.toNat
  (9 ≤ code && code ≤ 13) || (0x2000 ≤ code && code ≤ 0x200a) ||
    code ∈ [0x20, 0xa0, 0x1680, 0x2028, 0x2029, 0x202f, 0x205f, 0x3000, 0xfeff]

def jsTrim (text : String) : String :=
  String.ofList ((text.toList.dropWhile jsSpace).reverse.dropWhile jsSpace).reverse

theorem jsTrim_jsTrim (text : String) : jsTrim (jsTrim text) = jsTrim text := by
  have trimmed (text : String) : (jsTrim text).toList =
      List.rdropWhile jsSpace (text.toList.dropWhile jsSpace) := by
    simp [jsTrim, List.rdropWhile]
  -- What the end loses leaves the first character, which is no space.
  have front : List.dropWhile jsSpace (List.rdropWhile jsSpace (text.toList.dropWhile jsSpace)) =
      List.rdropWhile jsSpace (text.toList.dropWhile jsSpace) := by
    rw [List.dropWhile_eq_self_iff]
    intro nonempty space
    have kept := List.rdropWhile_prefix jsSpace (l := text.toList.dropWhile jsSpace)
    have longer : 0 < (text.toList.dropWhile jsSpace).length := nonempty.trans_le kept.length_le
    refine List.dropWhile_get_zero_not jsSpace text.toList longer ?_
    rw [List.get_eq_getElem, ← kept.getElem nonempty]
    exact space
  have same : (jsTrim (jsTrim text)).toList = (jsTrim text).toList := by
    rw [trimmed (jsTrim text), trimmed text, front, List.rdropWhile_idempotent]
  exact String.toList_inj.mp same

namespace Json

def member (value : Option Json) (key : String) : Option Json :=
  value.bind fun value => value.get? key

def text : Option Json → String
  | some (.str value) => jsTrim value
  | _ => ""

def textOr (value : Option Json) : Option String :=
  if text value = "" then none else some (text value)

/-- The value, where it is an object and no array. -/
def plain : Option Json → Option Json
  | some (.obj members) => some (.obj members)
  | _ => none

def items? : Option Json → Option (List Json)
  | some (.arr items) => some items
  | _ => none

def finite : Option Json → Option Rat
  | some (.num value) => some value
  | _ => none

def bool? : Option Json → Option Bool
  | some (.bool value) => some value
  | _ => none

def isBool (value : Option Json) (wanted : Bool) : Bool :=
  bool? value = some wanted

def isText (value : Option Json) (wanted : String) : Bool :=
  value.bind text? = some wanted

def orElse (value : Option Json) (other : Option Json) : Option Json :=
  match value with
  | none | some .null => other
  | some value => some value

def orTruthy (value : Option Json) (other : Option Json) : Option Json :=
  if truthy value then value else other

def spread (value : Option Json) : Option (List Json) :=
  if !truthy value then some []
  else match value with
    | some (.arr items) => some items
    | some (.str text) => some (text.toList.map fun char => .str (String.singleton char))
    | _ => none

section

variable [JsText]

def upper (value : Option Json) : String :=
  JsText.toUpperCase (text value)

def lower (value : Option Json) : String :=
  JsText.toLowerCase (text value)

def lowerOr (value : Option Json) : Option String :=
  if lower value = "" then none else some (lower value)

/-- A raised text, absent where it is empty. -/
def upperOr (value : Option Json) : Option String :=
  if upper value = "" then none else some (upper value)

def stringOr (value : Option Json) : Option String :=
  if truthy value then value.bind JsText.string else some ""

def looseLower (value : Option Json) : Option String :=
  (stringOr value).map fun text => JsText.toLowerCase (jsTrim text)

end

end Json

@[reducible] def JsText.ascii : JsText where
  toUpperCase text := String.ofList (text.toList.map Char.toUpper)
  toUpperCase_empty := by simp
  toLowerCase text := String.ofList (text.toList.map Char.toLower)
  string
    | .str value => some value
    | .bool value => some (if value then "true" else "false")
    | .null => some "null"
    | _ => none
  number
    | .num value => some value
    | .bool value => some (if value then 1 else 0)
    | .null => some 0
    | _ => none

/-- The same, with whole numbers written out. -/
@[reducible] def JsText.wholes : JsText where
  __ := JsText.ascii
  string value :=
    match value with
    | .num value => if value.den = 1 then some (toString value.num) else none
    | other => JsText.ascii.string other
