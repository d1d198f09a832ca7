import Mathlib.Tactic.FinCases
import Mathlib.Tactic.IntervalCases
import AdversarialReview.Library.OrderedMap

/-! JSON texts as lists of code units: values, what writes them, and what reads them back. -/

abbrev CodeUnit : Type := Fin 65536

abbrev UnitText : Type := List CodeUnit

namespace JsonText

def unit (char : Char) : CodeUnit := Fin.ofNat _ char.toNat

def units (text : String) : UnitText := text.toList.map unit

def isDigit (code : CodeUnit) : Bool := unit '0' ≤ code && code ≤ unit '9'

def inNumber (code : CodeUnit) : Bool :=
  isDigit code || code ∈ units "+-.eE"

def isSpace (code : CodeUnit) : Bool :=
  code ∈ [9, 10, 13, 32]

end JsonText

open JsonText in
/-- The engine's texts of finite numbers, the two zeros being one. -/
class NumberText (ν : Type) where
  write : ν → UnitText
  read : UnitText → Option (ν × UnitText)
  write_head (number : ν) : ∃ head rest, write number = head :: rest ∧
    (isDigit head = true ∨ head = unit '-')
  read_write (number : ν) (rest : UnitText) (ends : ∀ code ∈ rest.head?, inNumber code = false) :
    read (write number ++ rest) = some (number, rest)

inductive ObjectKind where
  | plain
  /-- With members under symbols, or not enumerable. -/
  | withHidden
  /-- Of a class. -/
  | ofClass
  deriving DecidableEq

inductive JsValue (ν : Type) where
  | null
  | bool (value : Bool)
  | num (value : ν)
  | str (value : UnitText)
  /-- Plain: of no other class, and with no members but its items. -/
  | arr (plain : Bool) (items : List (JsValue ν))
  | obj (kind : ObjectKind) (members : List (UnitText × JsValue ν))
  /-- Nothing, a function, a symbol, a big or an infinite number, or no number; also a hole. -/
  | noData

namespace JsonText

def isHigh (code : CodeUnit) : Bool := 0xd800 ≤ code && code ≤ 0xdbff

def isLow (code : CodeUnit) : Bool := 0xdc00 ≤ code && code ≤ 0xdfff

def hexDigit (digit : Nat) : CodeUnit :=
  Fin.ofNat _ (if digit < 10 then 48 + digit else 87 + digit)

def hexValue (code : CodeUnit) : Option Nat :=
  if 48 ≤ code.val ∧ code.val ≤ 57 then some (code.val - 48)
  else if 97 ≤ code.val ∧ code.val ≤ 102 then some (code.val - 87)
  else if 65 ≤ code.val ∧ code.val ≤ 70 then some (code.val - 55)
  else none

def hexEscape (code : CodeUnit) : UnitText :=
  [unit '\\', unit 'u', hexDigit (code.val / 4096), hexDigit (code.val / 256 % 16),
    hexDigit (code.val / 16 % 16), hexDigit (code.val % 16)]

def letterEscapes : List (CodeUnit × CodeUnit) :=
  [(unit 'b', 8), (unit 't', 9), (unit 'n', 10), (unit 'f', 12), (unit 'r', 13),
    (unit '"', unit '"'), (unit '\\', unit '\\')]

def escapeUnit (code : CodeUnit) : UnitText :=
  match letterEscapes.find? fun entry => entry.2 = code with
  | some entry => [unit '\\', entry.1]
  | none => if code < 32 then hexEscape code else [code]

/-- The units between the quotes; a surrogate is written as it is only in a pair. -/
@[simp] def quoteUnits (completes : Bool) : UnitText → UnitText
  | [] => []
  | code :: rest =>
    let opens := !completes && isHigh code && rest.head?.any isLow
    (if completes || opens then [code]
      else if isHigh code || isLow code then hexEscape code else escapeUnit code) ++
      quoteUnits opens rest

def quote (text : UnitText) : UnitText :=
  unit '"' :: (quoteUnits false text ++ [unit '"'])

def hexCode (first second third fourth : CodeUnit) : Option CodeUnit :=
  match hexValue first, hexValue second, hexValue third, hexValue fourth with
  | some one, some two, some three, some four =>
    some (Fin.ofNat _ (((one * 16 + two) * 16 + three) * 16 + four))
  | _, _, _, _ => none

@[simp] def readUnits : UnitText → Option (UnitText × UnitText)
  | [] => none
  | code :: rest =>
    if code = unit '"' then some ([], rest)
    else if code = unit '\\' then
      match rest with
      | [] => none
      | letter :: more =>
        if letter = unit 'u' then
          match more with
          | first :: second :: third :: fourth :: after =>
            (hexCode first second third fourth).bind fun read =>
              (readUnits after).map fun text => (read :: text.1, text.2)
          | _ => none
        else
          ((letterEscapes ++ [(unit '/', unit '/')]).find? fun entry => entry.1 = letter).bind
            fun entry => (readUnits more).map fun text => (entry.2 :: text.1, text.2)
    else if code < 32 then none
    else (readUnits rest).map fun text => (code :: text.1, text.2)

section

variable {ν : Type}

@[simp] def commas : List UnitText → UnitText
  | [] => []
  | [piece] => piece
  | piece :: rest => piece ++ unit ',' :: commas rest

def literal (word : String) (text : UnitText) : Option UnitText :=
  if (units word).isPrefixOf text then some (text.drop (units word).length) else none

def skip (text : UnitText) : UnitText := text.dropWhile isSpace

variable [NumberText ν]

mutual

@[simp] def readValue : Nat → UnitText → Option (JsValue ν × UnitText)
  | 0, _ => none
  | fuel + 1, text =>
    match skip text with
    | [] => none
    | head :: rest =>
      if head = unit '"' then (readUnits rest).map fun read => (.str read.1, read.2)
      else if head = unit '[' then
        match skip rest with
        | [] => none
        | next :: after =>
          if next = unit ']' then some (.arr true [], after)
          else (readItems fuel (next :: after)).map fun read => (.arr true read.1, read.2)
      else if head = unit '{' then
        match skip rest with
        | [] => none
        | next :: after =>
          if next = unit '}' then some (.obj .plain [], after)
          else (readMembers fuel (next :: after)).map fun read =>
            (.obj .plain (read.1.foldl (fun members member =>
              OrderedMap.setEntries member.1 member.2 members) []), read.2)
      else if let some after := literal "null" (head :: rest) then some (.null, after)
      else if let some after := literal "true" (head :: rest) then some (.bool true, after)
      else if let some after := literal "false" (head :: rest) then some (.bool false, after)
      else (NumberText.read (head :: rest)).map fun read => (.num read.1, read.2)

@[simp] def readItems : Nat → UnitText → Option (List (JsValue ν) × UnitText)
  | 0, _ => none
  | fuel + 1, text =>
    (readValue fuel text).bind fun read =>
      match skip read.2 with
      | [] => none
      | next :: after =>
        if next = unit ']' then some ([read.1], after)
        else if next = unit ',' then
          (readItems fuel after).map fun items => (read.1 :: items.1, items.2)
        else none

@[simp] def readMembers : Nat → UnitText → Option (List (UnitText × JsValue ν) × UnitText)
  | 0, _ => none
  | fuel + 1, text =>
    match skip text with
    | [] => none
    | opening :: inside =>
      if opening = unit '"' then
        (readUnits inside).bind fun key =>
          match skip key.2 with
          | [] => none
          | colon :: written =>
            if colon = unit ':' then
              (readValue fuel written).bind fun read =>
                match skip read.2 with
                | [] => none
                | next :: after =>
                  if next = unit '}' then some ([(key.1, read.1)], after)
                  else if next = unit ',' then
                    (readMembers fuel after).map fun members =>
                      ((key.1, read.1) :: members.1, members.2)
                  else none
            else none
      else none

end

def parse (text : UnitText) : Option (JsValue ν) :=
  (readValue text.length text).bind fun read => if skip read.2 = [] then some read.1 else none

end

theorem hexValue_hexDigit {digit : Nat} (small : digit < 16) :
    hexValue (hexDigit digit) = some digit := by
  interval_cases digit <;> rfl

theorem hexCode_digits (code : CodeUnit) :
    hexCode (hexDigit (code.val / 4096)) (hexDigit (code.val / 256 % 16))
      (hexDigit (code.val / 16 % 16)) (hexDigit (code.val % 16)) = some code := by
  have bound := code.isLt
  simp only [hexCode, hexValue_hexDigit (by omega : code.val / 4096 < 16),
    hexValue_hexDigit (Nat.mod_lt (code.val / 256) (by decide : 0 < 16)),
    hexValue_hexDigit (Nat.mod_lt (code.val / 16) (by decide : 0 < 16)),
    hexValue_hexDigit (Nat.mod_lt code.val (by decide : 0 < 16))]
  refine congrArg Option.some (Fin.ext ?_)
  simp only [Fin.val_ofNat]
  omega

def Writes (piece : UnitText) (code : CodeUnit) : Prop :=
  ∀ rest, readUnits (piece ++ rest) = (readUnits rest).map fun text => (code :: text.1, text.2)

theorem writes_hexEscape (code : CodeUnit) : Writes (hexEscape code) code := by
  intro rest
  have one : unit '\\' ≠ unit '"' := by decide
  simp only [hexEscape, List.cons_append, List.nil_append, readUnits, if_neg one, if_true]
  rw [hexCode_digits]
  rfl

theorem writes_raw {code : CodeUnit} (quoted : code ≠ unit '"') (slash : code ≠ unit '\\')
    (printed : ¬code < 32) : Writes [code] code := by
  intro rest
  rw [List.singleton_append]
  conv_lhs => unfold readUnits
  rw [if_neg quoted, if_neg slash, if_neg printed]

theorem writes_escapeUnit (code : CodeUnit) : Writes (escapeUnit code) code := by
  unfold escapeUnit
  split
  · next entry found =>
    intro rest
    have same : entry.2 = code := by simpa using List.find?_some found
    have listed := List.mem_of_find?_eq_some found
    subst same
    have one : unit '\\' ≠ unit '"' := by decide
    have all : (letterEscapes.all fun entry => decide (entry.1 ≠ unit 'u') &&
        decide (((letterEscapes ++ [(unit '/', unit '/')]).find? fun other =>
          other.1 = entry.1) = some entry)) = true := by decide
    have both := List.all_eq_true.mp all entry listed
    rw [Bool.and_eq_true, decide_eq_true_eq, decide_eq_true_eq] at both
    obtain ⟨letter, read⟩ := both
    simp only [List.cons_append, List.nil_append]
    conv_lhs => unfold readUnits
    simp only [if_neg one, if_true, if_neg letter, read, Option.bind_some]
  · next absent =>
    rw [List.find?_eq_none] at absent
    split
    · exact writes_hexEscape code
    · next printed =>
      have quoted := absent (unit '"', unit '"') (by decide)
      have slash := absent (unit '\\', unit '\\') (by decide)
      simp only [decide_eq_true_eq] at quoted slash
      exact writes_raw (Ne.symm quoted) (Ne.symm slash) printed

theorem writes_surrogate {code : CodeUnit} (surrogate : isHigh code = true ∨ isLow code = true) :
    Writes [code] code := by
  have large : 0xd800 ≤ code.val := by
    rcases surrogate with high | low
    · simp only [isHigh, Bool.and_eq_true, decide_eq_true_eq, Fin.le_def] at high
      exact high.1
    · simp only [isLow, Bool.and_eq_true, decide_eq_true_eq, Fin.le_def] at low
      exact le_trans (by decide) low.1
  refine writes_raw ?_ ?_ ?_
  · rintro rfl
    exact absurd large (by decide)
  · rintro rfl
    exact absurd large (by decide)
  · intro control
    rw [Fin.lt_def] at control
    have : code.val < 32 := control
    omega

theorem readUnits_quoteUnits (rest : UnitText) :
    ∀ (text : UnitText) (completes : Bool),
      (completes = true → ∀ code ∈ text.head?, isLow code = true) →
      readUnits (quoteUnits completes text ++ unit '"' :: rest) = some (text, rest)
  | [], _, _ => by
    rw [quoteUnits, List.nil_append]
    conv_lhs => unfold readUnits
    rw [if_pos rfl]
  | code :: more, completes, follows => by
    have low : completes = true → isLow code = true := fun goes => follows goes code (by simp)
    have later := readUnits_quoteUnits rest more
      (!completes && isHigh code && more.head?.any isLow) (fun opens next first => by
        simp only [Bool.and_eq_true] at opens
        rw [Option.mem_def.mp first] at opens
        exact opens.2)
    have piece : Writes (if completes || (!completes && isHigh code && more.head?.any isLow)
        then [code]
        else if isHigh code || isLow code then hexEscape code else escapeUnit code) code := by
      split
      · next raw =>
        refine writes_surrogate ?_
        simp only [Bool.or_eq_true, Bool.and_eq_true] at raw
        exact raw.elim (fun goes => .inr (low goes)) fun opens => .inl opens.1.2
      · split
        · exact writes_hexEscape code
        · exact writes_escapeUnit code
    rw [quoteUnits, List.append_assoc, piece, later]
    rfl

theorem readUnits_quote (text rest : UnitText) :
    readUnits (quoteUnits false text ++ unit '"' :: rest) = some (text, rest) :=
  readUnits_quoteUnits rest text false (by simp)

section

variable {ν : Type} [NumberText ν]

def Stops (rest : UnitText) : Prop :=
  ∀ code ∈ rest.head?, inNumber code = false

theorem stops_cons {code : CodeUnit} (rest : UnitText) (ends : inNumber code = false) :
    Stops (code :: rest) := by
  intro other first
  cases first
  exact ends

def Starts (text : UnitText) : Prop :=
  ∃ head rest, text = head :: rest ∧ isSpace head = false ∧ head ≠ unit ']'

def Reads (text : UnitText) (value : JsValue ν) : Prop :=
  Starts text ∧ ∀ fuel rest, text.length ≤ fuel → Stops rest →
    readValue fuel (text ++ rest) = some (value, rest)

theorem skip_cons {code : CodeUnit} (rest : UnitText) (inked : isSpace code = false) :
    skip (code :: rest) = code :: rest := by
  simp [skip, inked]

theorem readValue_cons {head : CodeUnit} (fuel : Nat) (rest : UnitText)
    (inked : isSpace head = false) :
    (readValue (fuel + 1) (head :: rest) : Option (JsValue ν × UnitText)) =
      if head = unit '"' then (readUnits rest).map fun read => (.str read.1, read.2)
      else if head = unit '[' then
        match skip rest with
        | [] => none
        | next :: after =>
          if next = unit ']' then some (.arr true [], after)
          else (readItems fuel (next :: after)).map fun read => (.arr true read.1, read.2)
      else if head = unit '{' then
        match skip rest with
        | [] => none
        | next :: after =>
          if next = unit '}' then some (.obj .plain [], after)
          else (readMembers fuel (next :: after)).map fun read =>
            (.obj .plain (read.1.foldl (fun members member =>
              OrderedMap.setEntries member.1 member.2 members) []), read.2)
      else if let some after := literal "null" (head :: rest) then some (.null, after)
      else if let some after := literal "true" (head :: rest) then some (.bool true, after)
      else if let some after := literal "false" (head :: rest) then some (.bool false, after)
      else (NumberText.read (head :: rest)).map fun read => (.num read.1, read.2) := by
  rw [readValue, skip_cons rest inked]

theorem literal_none (word : String) {first head : CodeUnit} {tail : UnitText}
    (shape : units word = first :: tail) (other : first ≠ head) (rest : UnitText) :
    literal word (head :: rest) = none := by
  simp [literal, shape, other]

theorem reads_null : Reads (units "null") (.null : JsValue ν) := by
  refine ⟨⟨_, _, rfl, by decide, by decide⟩, ?_⟩
  rintro (_ | fuel) rest enough -
  · cases enough
  · exact (readValue_cons fuel _ (by decide)).trans rfl

theorem reads_bool (value : Bool) :
    Reads (units (if value then "true" else "false")) (.bool value : JsValue ν) := by
  cases value <;> refine ⟨⟨_, _, rfl, by decide, by decide⟩, ?_⟩ <;>
    rintro (_ | fuel) rest enough -
  · cases enough
  · exact (readValue_cons fuel _ (by decide)).trans rfl
  · cases enough
  · exact (readValue_cons fuel _ (by decide)).trans rfl

theorem reads_num (number : ν) : Reads (NumberText.write number) (.num number) := by
  obtain ⟨head, tail, shape, digit⟩ := NumberText.write_head number
  have apart {other : CodeUnit} (plain : isDigit other = false) (minus : other ≠ unit '-') :
      head ≠ other := by
    rintro rfl
    rcases digit with digit | digit
    · rw [plain] at digit
      cases digit
    · exact minus digit
  have inked : isSpace head = false := by
    rw [isSpace, decide_eq_false_iff_not]
    intro space
    fin_cases space <;> exact absurd rfl (apart (by decide) (by decide))
  refine ⟨⟨head, tail, shape, inked, apart (by decide) (by decide)⟩, ?_⟩
  rintro (_ | fuel) rest enough stops
  · rw [shape] at enough
    cases enough
  · have read := NumberText.read_write number rest stops
    rw [shape, List.cons_append] at read ⊢
    rw [readValue_cons fuel _ inked, if_neg (apart (by decide) (by decide)),
      if_neg (apart (by decide) (by decide)), if_neg (apart (by decide) (by decide)),
      literal_none "null" rfl (apart (by decide) (by decide)).symm,
      literal_none "true" rfl (apart (by decide) (by decide)).symm,
      literal_none "false" rfl (apart (by decide) (by decide)).symm, read]
    rfl

theorem reads_str (value : UnitText) : Reads (quote value) (.str value : JsValue ν) := by
  refine ⟨⟨_, _, rfl, by decide, by decide⟩, ?_⟩
  rintro (_ | fuel) rest enough -
  · cases enough
  · rw [quote, List.cons_append, List.append_assoc, readValue_cons fuel _ (by decide), if_pos rfl]
    exact congrArg (Option.map _) (readUnits_quote value rest)

variable {texts : List UnitText} {values : List (JsValue ν)}

theorem readItems_commas (reads : List.Forall₂ Reads texts values) (some_ : texts ≠ []) :
    ∀ fuel rest, (commas texts).length + 1 ≤ fuel →
      readItems fuel (commas texts ++ unit ']' :: rest) = some (values, rest) := by
  induction reads with
  | nil => exact absurd rfl some_
  | @cons text value texts values first others ih =>
    rintro (_ | fuel) rest enough
    · cases enough
    cases others with
    | nil =>
      rw [readItems, commas, first.2 fuel _ (by simpa [commas] using enough)
        (stops_cons _ (by decide)), Option.bind_some, skip_cons _ (by decide)]
      exact if_pos rfl
    | @cons next other nexts rest' reads more =>
      have shorter : text.length + (commas (next :: nexts)).length + 1 ≤ fuel := by
        simp only [commas, List.length_append, List.length_cons] at enough
        omega
      have later := ih (by simp) fuel rest (by omega)
      simp only [commas, List.append_assoc, List.cons_append]
      rw [readItems, first.2 fuel _ (by omega) (stops_cons _ (by decide)), Option.bind_some,
        skip_cons _ (by decide)]
      refine (if_neg (by decide)).trans ((if_pos rfl).trans ?_)
      rw [later]
      rfl

theorem starts_commas
    (reads : List.Forall₂ Reads texts values) (some_ : texts ≠ []) : Starts (commas texts) := by
  cases reads with
  | nil => exact absurd rfl some_
  | @cons text value texts values first others =>
    obtain ⟨head, tail, rfl, inked, bracket⟩ := first.1
    cases texts with
    | nil => exact ⟨head, tail, rfl, inked, bracket⟩
    | cons next more => exact ⟨head, _, rfl, inked, bracket⟩

theorem reads_arr (reads : List.Forall₂ Reads texts values) :
    Reads (unit '[' :: (commas texts ++ [unit ']'])) (.arr true values) := by
  refine ⟨⟨_, _, rfl, by decide, by decide⟩, ?_⟩
  rintro (_ | fuel) rest enough -
  · cases enough
  rw [List.cons_append, List.append_assoc, readValue_cons fuel _ (by decide), if_neg (by decide),
    if_pos rfl]
  by_cases empty : texts = []
  · subst empty
    cases reads
    rw [commas, List.nil_append, List.singleton_append, skip_cons _ (by decide)]
    rfl
  · obtain ⟨head, tail, shape, inked, bracket⟩ := starts_commas reads empty
    have read := readItems_commas reads empty fuel rest (by
      simp only [List.length_cons, List.length_append, List.length_nil] at enough
      omega)
    rw [shape, List.cons_append] at read ⊢
    rw [skip_cons _ inked]
    simp only [if_neg bracket, List.singleton_append, read, Option.map_some]

end

section

variable {ν : Type} [NumberText ν]

def written (member : UnitText × UnitText) : UnitText :=
  quote member.1 ++ unit ':' :: member.2

def ReadsMember (piece : UnitText × UnitText) (member : UnitText × JsValue ν) : Prop :=
  piece.1 = member.1 ∧ Reads piece.2 member.2

theorem readMembers_written {piece : UnitText × UnitText} {member : UnitText × JsValue ν}
    (reads : ReadsMember piece member) {fuel : Nat} {next : CodeUnit} {after : UnitText}
    (enough : (written piece).length ≤ fuel) (inked : isSpace next = false)
    (stops : inNumber next = false) :
    readMembers (fuel + 1) (written piece ++ next :: after) =
      if next = unit '}' then some ([member], after)
      else if next = unit ',' then
        (readMembers fuel after).map fun members => (member :: members.1, members.2)
      else none := by
  obtain ⟨key, text⟩ := piece
  obtain ⟨name, value⟩ := member
  obtain ⟨rfl, reads⟩ := reads
  have short : text.length ≤ fuel := by
    simp only [written, List.length_append, List.length_cons] at enough
    omega
  rw [written, quote, List.append_assoc, List.cons_append, List.append_assoc, readMembers,
    skip_cons _ (by decide)]
  refine (if_pos rfl).trans ?_
  rw [List.singleton_append, readUnits_quote, Option.bind_some, List.cons_append,
    skip_cons _ (by decide)]
  refine (if_pos rfl).trans ?_
  rw [reads.2 fuel _ short (stops_cons _ stops), Option.bind_some, skip_cons _ inked]

variable {members : List (UnitText × JsValue ν)}

theorem readMembers_commas {pieces : List (UnitText × UnitText)}
    (reads : List.Forall₂ ReadsMember pieces members) (some_ : pieces ≠ []) :
    ∀ fuel rest, (commas (pieces.map written)).length + 1 ≤ fuel →
      readMembers fuel (commas (pieces.map written) ++ unit '}' :: rest) =
        some (members, rest) := by
  induction reads with
  | nil => exact absurd rfl some_
  | @cons piece member pieces members first others ih =>
    rintro (_ | fuel) rest enough
    · cases enough
    cases others with
    | nil =>
      rw [List.map_singleton, commas, readMembers_written first
        (by simpa [commas] using enough) (by decide) (by decide), if_pos rfl]
    | @cons next other nexts others reads more =>
      have shorter : (written piece).length +
          (commas ((next :: nexts).map written)).length + 1 ≤ fuel := by
        simp only [List.map_cons, commas, List.length_append, List.length_cons] at enough ⊢
        omega
      have later := ih (by simp) fuel rest (by omega)
      simp only [List.map_cons, commas, List.append_assoc, List.cons_append] at later ⊢
      rw [readMembers_written first (by omega) (by decide) (by decide), if_neg (by decide),
        if_pos rfl, later]
      rfl

omit [NumberText ν] in
theorem setEntries_fresh {key : UnitText} {value : JsValue ν} (fresh : key ∉ members.map Prod.fst) :
    OrderedMap.setEntries key value members = members ++ [(key, value)] := by
  induction members with
  | nil => rfl
  | cons member rest ih =>
    simp only [List.map_cons, List.mem_cons, not_or] at fresh
    rw [OrderedMap.setEntries, if_neg (Ne.symm fresh.1), ih fresh.2]
    rfl

omit [NumberText ν] in
theorem foldl_setEntries (members : List (UnitText × JsValue ν)) :
    ∀ kept : List (UnitText × JsValue ν), ((kept ++ members).map Prod.fst).Nodup →
      members.foldl (fun members member => OrderedMap.setEntries member.1 member.2 members) kept =
        kept ++ members := by
  induction members with
  | nil => intro kept _; simp
  | cons member rest ih =>
    intro kept nodup
    have fresh : member.1 ∉ kept.map Prod.fst := by
      intro listed
      rw [List.map_append, List.map_cons] at nodup
      exact (List.nodup_append.mp nodup).2.2 _ listed _ (by simp) rfl
    rw [List.foldl_cons, setEntries_fresh fresh, ih _ (by simpa using nodup)]
    simp

theorem reads_obj {pieces : List (UnitText × UnitText)}
    (reads : List.Forall₂ ReadsMember pieces members) (nodup : (members.map Prod.fst).Nodup) :
    Reads (unit '{' :: (commas (pieces.map written) ++ [unit '}'])) (.obj .plain members) := by
  refine ⟨⟨_, _, rfl, by decide, by decide⟩, ?_⟩
  rintro (_ | fuel) rest enough -
  · cases enough
  rw [List.cons_append, List.append_assoc, readValue_cons fuel _ (by decide), if_neg (by decide),
    if_neg (by decide), if_pos rfl]
  cases reads with
  | nil =>
    rw [List.map_nil, commas, List.nil_append, List.singleton_append, skip_cons _ (by decide)]
    rfl
  | @cons piece member pieces members first others =>
    have read := readMembers_commas (.cons first others) (by simp) fuel rest (by
      simp only [List.length_cons, List.length_append, List.length_nil] at enough
      omega)
    have opens : ∃ tail, commas ((piece :: pieces).map written) = unit '"' :: tail := by
      cases pieces <;> exact ⟨_, rfl⟩
    obtain ⟨tail, shape⟩ := opens
    rw [shape, List.cons_append] at read ⊢
    rw [skip_cons _ (by decide)]
    simp only [if_neg (by decide : unit '"' ≠ unit '}'), List.singleton_append, read,
      Option.map_some]
    rw [foldl_setEntries _ [] (by simpa using nodup)]
    rfl

theorem Reads.parse {text : UnitText} {value : JsValue ν} (reads : Reads text value) :
    parse text = some value := by
  have read := reads.2 text.length [] le_rfl (by simp [Stops])
  rw [List.append_nil] at read
  rw [JsonText.parse, read]
  rfl

end

end JsonText
