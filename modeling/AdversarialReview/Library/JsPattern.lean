import AdversarialReview.Library.JsText

/-! Patterns of characters, matched by trying their ways in order. -/

/-- Where a match stands: the character before, and what is left. -/
structure JsCursor where
  before : Option Char
  rest : List Char

def JsPattern : Type := JsCursor → List JsCursor

namespace JsPattern

def one (kind : Char → Bool) : JsPattern := fun at_ =>
  match at_.rest with
  | char :: rest => if kind char then [{ before := some char, rest }] else []
  | [] => []

def then_ (first second : JsPattern) : JsPattern := fun at_ => (first at_).flatMap second

def or_ (first second : JsPattern) : JsPattern := fun at_ => first at_ ++ second at_

def nothing : JsPattern := fun at_ => [at_]

def seq (patterns : List JsPattern) : JsPattern := patterns.foldr then_ nothing

def oneOf (patterns : List JsPattern) : JsPattern := patterns.foldr or_ fun _ => []

def optional (pattern : JsPattern) : JsPattern := or_ pattern nothing

def upTo (kind : Char → Bool) : Nat → JsPattern
  | 0 => nothing
  | limit + 1 => or_ (then_ (one kind) (upTo kind limit)) nothing

def many (kind : Char → Bool) : JsPattern := fun at_ => upTo kind at_.rest.length at_

def many1 (kind : Char → Bool) : JsPattern := then_ (one kind) (many kind)

def text (wanted : String) : JsPattern :=
  seq (wanted.toList.map fun char => one (· = char))

def anyCase (wanted : String) : JsPattern :=
  seq (wanted.toList.map fun char => one fun other => other.toLower = char.toLower)

def isWord (char : Char) : Bool := char.isAlphanum || char = '_'

def boundary : JsPattern := fun at_ =>
  if at_.before.any isWord = (at_.rest.head?).any isWord then [] else [at_]

def inLine (char : Char) : Bool := char.toNat ∉ [10, 13, 0x2028, 0x2029]

def start : JsPattern := fun at_ => if at_.before = none then [at_] else []

def lineStart : JsPattern := fun at_ =>
  if at_.before.all fun char => !inLine char then [at_] else []

def ending : JsPattern := fun at_ => if at_.rest.isEmpty then [at_] else []

def lineEnd : JsPattern := fun at_ =>
  if at_.rest.head?.all fun char => !inLine char then [at_] else []

def places (before : Option Char) : List Char → List JsCursor
  | [] => [{ before, rest := [] }]
  | char :: rest => { before, rest := char :: rest } :: places (some char) rest

def test (pattern : JsPattern) (text : String) : Bool :=
  (places none text.toList).any fun place => !(pattern place).isEmpty

def leaves (pattern : JsPattern) (text : List Char) : List (List Char) :=
  (pattern { before := none, rest := text }).map JsCursor.rest

def leads (pattern : JsPattern) (text : List Char) : Bool := !(leaves pattern text).isEmpty

def search (pattern : JsPattern) (before : Option Char) :
    List Char → Option (List Char × List Char)
  | [] => (pattern { before, rest := [] }).head?.map fun found => ([], found.rest)
  | char :: rest =>
    match (pattern { before, rest := char :: rest }).head? with
    | some found => some ([], found.rest)
    | none => (search pattern (some char) rest).map fun (skipped, left) => (char :: skipped, left)

end JsPattern
