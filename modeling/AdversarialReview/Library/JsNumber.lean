import Mathlib.Data.Rat.Floor
import Mathlib.Algebra.Order.Field.Rat
import AdversarialReview.Library.JsText

/-! The numbers of JavaScript: sums of doubles, exact rationals rounded to the nearest one, and the
texts written for counts and for values as a whole. -/

/-- A number of JavaScript, by its exact value. -/
inductive JsDouble where
  | finite (value : Rat)
  | infinite (negative : Bool)
  | nan
  deriving DecidableEq

namespace JsDouble

/-- A power of two. -/
def pow2 (exponent : Int) : Rat :=
  if 0 ≤ exponent then 2 ^ exponent.toNat else 1 / 2 ^ (-exponent).toNat

def exponentOf (magnitude : Rat) : Int :=
  let estimate : Int := (Nat.log2 magnitude.num.natAbs : Int) - Nat.log2 magnitude.den
  if pow2 estimate ≤ magnitude then estimate else estimate - 1

def spacing (magnitude : Rat) : Rat :=
  pow2 (max (-1074) (exponentOf magnitude - 52))

def roundEven (value : Rat) : Int :=
  let rest := value - value.floor
  if rest < 1 / 2 ∨ (rest = 1 / 2 ∧ value.floor % 2 = 0) then value.floor else value.floor + 1

def largest : Rat := (2 ^ 53 - 1) * 2 ^ 971

def round (exact : Rat) : JsDouble :=
  let magnitude := |exact|
  let rounded := roundEven (magnitude / spacing magnitude) * spacing magnitude
  if largest < rounded then .infinite (exact < 0)
  else .finite (if exact < 0 then -rounded else rounded)

def neg : JsDouble → JsDouble
  | finite value => finite (-value)
  | infinite negative => infinite !negative
  | nan => nan

def add : JsDouble → JsDouble → JsDouble
  | finite first, finite second => round (first + second)
  | infinite one, infinite two => if one = two then infinite one else nan
  | infinite one, finite _ => infinite one
  | finite _, infinite two => infinite two
  | nan, _ | _, nan => nan

def sub (first second : JsDouble) : JsDouble :=
  first.add second.neg

def atLeast : JsDouble → Rat → Bool
  | finite value, bound => bound ≤ value
  | infinite negative, _ => !negative
  | nan, _ => false

def below : JsDouble → Rat → Bool
  | finite value, bound => value < bound
  | infinite negative, _ => negative
  | nan, _ => false

example : (finite (3 / 10)).add (finite (1 / 10)) ≠ finite (4 / 10) := by decide +kernel

end JsDouble

/-- The texts whose digits the engine shortens. -/
class JsNumber where
  /-- The text of an integer that is written with an exponent. -/
  exponential : Nat → String
  exponential_injective : Function.Injective exponential
  exponential_marked : ∀ value, 'e' ∈ (exponential value).toList
  exponential_dashless : ∀ value, '-' ∉ (exponential value).toList

namespace JsNumber

theorem isDigit_of_mem_toString {value : Nat} {char : Char}
    (listed : char ∈ (toString value).toList) : char.isDigit = true := by
  rw [Nat.toString_eq_ofList_toDigits, String.toList_ofList] at listed
  exact Nat.isDigit_of_mem_toDigits (by decide) (by decide) listed

theorem toString_injective : Function.Injective (toString : Nat → String) := by
  intro first second same
  have digits : Nat.toDigits 10 first = Nat.toDigits 10 second := by
    have texts := congrArg String.toList same
    simpa only [Nat.toString_eq_ofList_toDigits, String.toList_ofList] using texts
  have values := congrArg (fun digits => Nat.ofDigitChars 10 digits 0) digits
  simpa only [Nat.ofDigitChars_ten_toDigits] using values

variable [JsNumber]

def countText (value : Nat) : String :=
  if value < 1000000000000000000000 then toString value else exponential value

theorem countText_dashless (value : Nat) : '-' ∉ (countText value).toList := by
  unfold countText
  split
  · intro listed
    exact absurd (isDigit_of_mem_toString listed) (by decide)
  · exact exponential_dashless value

theorem countText_injective : Function.Injective countText := by
  -- A text with an exponent is no run of digits.
  have apart : ∀ small large : Nat, toString small ≠ exponential large := by
    intro small large same
    have marked := exponential_marked large
    rw [← same] at marked
    exact absurd (isDigit_of_mem_toString marked) (by decide)
  intro first second same
  simp only [countText] at same
  split at same <;> split at same
  · exact toString_injective same
  · exact absurd same (apart _ _)
  · exact absurd same.symm (apart _ _)
  · exact exponential_injective same

end JsNumber

/-- Exponents written after all the digits. -/
@[reducible] def JsNumber.unshortened : JsNumber where
  exponential value := toString value ++ "e+0"
  exponential_injective := by
    intro first second same
    have texts := congrArg String.toList same
    simp only [String.toList_append, List.append_cancel_right_eq] at texts
    exact JsNumber.toString_injective (String.toList_inj.mp texts)
  exponential_marked := by simp
  exponential_dashless := by
    intro value listed
    rw [String.toList_append, List.mem_append] at listed
    rcases listed with digit | tail
    · exact absurd (JsNumber.isDigit_of_mem_toString digit) (by decide)
    · exact absurd tail (by decide)

/-- The text of a value written out as JSON. -/
class JsJson where
  stringify : Json → String

theorem Except.bind_ok {ε α β : Type} {first : Except ε α} {next : α → Except ε β} {value : β}
    (both : (first >>= next) = .ok value) :
    ∃ between, first = .ok between ∧ next between = .ok value := by
  cases first with
  | error message => cases both
  | ok between => exact ⟨between, rfl, both⟩

def conversionError : String := "Cannot convert object to primitive value"

namespace Json

variable [JsText]

def nullishText (value : Option Json) : Except String String :=
  match value with
  | none | some .null => .ok ""
  | some (.str text) => .ok text
  | some value =>
    match JsText.string value with
    | some text => .ok text
    | none => .error conversionError

def nullishLower (value : Option Json) : Except String String := do
  return JsText.toLowerCase (jsTrim (← nullishText value))

def jsonText [JsJson] : Option Json → String
  | none => "undefined"
  | some value => JsJson.stringify value

end Json
