import Mathlib.Data.List.Lex
import Mathlib.Order.Fin.Basic
import AdversarialReview.Library.JsonText

/-! The canonical text of a handoff: what it is thrown at, and that it tells values apart. -/

namespace AdversarialReview.Handoff

open JsonText

variable {ν : Type}

section

def keyUpTo {α : Type} (first second : UnitText × α) : Bool :=
  first.1 ≤ second.1

variable [NumberText ν]

mutual

@[simp] def handoffJson : JsValue ν → Option UnitText
  | .null => some (units "null")
  | .bool value => some (units (if value then "true" else "false"))
  | .num value => some (NumberText.write value)
  | .str value => some (quote value)
  | .arr _ items => (itemTexts items).map fun texts => unit '[' :: (commas texts ++ [unit ']'])
  | .obj kind members =>
    if kind = .ofClass then none
    else (memberTexts members).map fun pieces =>
      unit '{' :: (commas ((pieces.mergeSort keyUpTo).map written) ++ [unit '}'])
  | .noData => none

@[simp] def itemTexts : List (JsValue ν) → Option (List UnitText)
  | [] => some []
  | item :: rest => (handoffJson item).bind fun text => (itemTexts rest).map (text :: ·)

@[simp] def memberTexts : List (UnitText × JsValue ν) → Option (List (UnitText × UnitText))
  | [] => some []
  | (key, value) :: rest =>
    (handoffJson value).bind fun text => (memberTexts rest).map ((key, text) :: ·)

end

end

mutual

@[simp] def canonical : JsValue ν → JsValue ν
  | .arr plain items => .arr plain (canonicalItems items)
  | .obj kind members => .obj kind ((canonicalMembers members).mergeSort keyUpTo)
  | .null => .null
  | .bool value => .bool value
  | .num value => .num value
  | .str value => .str value
  | .noData => .noData

@[simp] def canonicalItems : List (JsValue ν) → List (JsValue ν)
  | [] => []
  | item :: rest => canonical item :: canonicalItems rest

@[simp] def canonicalMembers : List (UnitText × JsValue ν) → List (UnitText × JsValue ν)
  | [] => []
  | (key, value) :: rest => (key, canonical value) :: canonicalMembers rest

end

mutual

@[simp] def anyPart (test : JsValue ν → Bool) : JsValue ν → Bool
  | .arr plain items => test (.arr plain items) || anyItem test items
  | .obj kind members => test (.obj kind members) || anyMember test members
  | value => test value

@[simp] def anyItem (test : JsValue ν → Bool) : List (JsValue ν) → Bool
  | [] => false
  | item :: rest => anyPart test item || anyItem test rest

@[simp] def anyMember (test : JsValue ν → Bool) : List (UnitText × JsValue ν) → Bool
  | [] => false
  | (_, value) :: rest => anyPart test value || anyMember test rest

end

/-- Nothing, a function, a number that is not finite or a hole, or an object of a class. -/
def unwritten : JsValue ν → Bool
  | .noData => true
  | .obj kind _ => kind = .ofClass
  | _ => false

/-- An array of a class or with more than items, or an object with members that no key lists. -/
def lossy : JsValue ν → Bool
  | .arr plain _ => !plain
  | .obj kind _ => kind = .withHidden
  | _ => false

def repeatsKey : JsValue ν → Bool
  | .obj _ members => !decide (members.map Prod.fst).Nodup
  | _ => false

def isJson (value : JsValue ν) : Bool :=
  !anyPart unwritten value && !anyPart lossy value

theorem keyUpTo_trans {α : Type} (first second third : UnitText × α) :
    keyUpTo first second = true → keyUpTo second third = true → keyUpTo first third = true := by
  simp only [keyUpTo, decide_eq_true_eq]
  exact le_trans

theorem keyUpTo_total {α : Type} (first second : UnitText × α) :
    (keyUpTo first second || keyUpTo second first) = true := by
  simp only [keyUpTo, Bool.or_eq_true, decide_eq_true_eq]
  exact le_total _ _

theorem forall₂_mergeSort {α β : Type} {R : UnitText × α → UnitText × β → Prop}
    (keyed : ∀ one two, R one two → one.1 = two.1) {firsts : List (UnitText × α)}
    {seconds : List (UnitText × β)} (agree : List.Forall₂ R firsts seconds) :
    List.Forall₂ R (firsts.mergeSort keyUpTo) (seconds.mergeSort keyUpTo) := by
  obtain ⟨pairs, rfl, rfl, related⟩ : ∃ pairs : List ((UnitText × α) × (UnitText × β)),
      pairs.map Prod.fst = firsts ∧ pairs.map Prod.snd = seconds ∧
        ∀ pair ∈ pairs, R pair.1 pair.2 := by
    induction agree with
    | nil => exact ⟨[], rfl, rfl, by simp⟩
    | @cons one two firsts seconds here _ ih =>
      obtain ⟨pairs, rfl, rfl, related⟩ := ih
      exact ⟨(one, two) :: pairs, rfl, rfl, List.forall_mem_cons.mpr ⟨here, related⟩⟩
  let order (one two : (UnitText × α) × (UnitText × β)) : Bool := keyUpTo one.1 two.1
  have left : (pairs.mergeSort order).map Prod.fst = (pairs.map Prod.fst).mergeSort keyUpTo :=
    List.map_mergeSort fun _ _ _ _ => rfl
  have right : (pairs.mergeSort order).map Prod.snd = (pairs.map Prod.snd).mergeSort keyUpTo := by
    refine List.map_mergeSort fun one first two second => ?_
    simp only [order, keyUpTo, keyed _ _ (related one first), keyed _ _ (related two second)]
  rw [← left, ← right, List.forall₂_map_left_iff, List.forall₂_map_right_iff, List.forall₂_same]
  exact fun pair listed => related pair ((List.mergeSort_perm pairs order).mem_iff.mp listed)

variable [NumberText ν]

/-! ### What is thrown at -/

mutual

theorem handoffJson_none : ∀ value : JsValue ν,
    handoffJson value = none ↔ anyPart unwritten value = true
  | .null => by simp [handoffJson, anyPart, unwritten]
  | .bool _ => by simp [handoffJson, anyPart, unwritten]
  | .num _ => by simp [handoffJson, anyPart, unwritten]
  | .str _ => by simp [handoffJson, anyPart, unwritten]
  | .noData => by simp [handoffJson, anyPart, unwritten]
  | .arr plain items => by
    simp [handoffJson, anyPart, unwritten, itemTexts_none items]
  | .obj kind members => by
    by_cases own : kind = .ofClass <;>
      simp [handoffJson, anyPart, unwritten, own, memberTexts_none members]

theorem itemTexts_none : ∀ items : List (JsValue ν),
    itemTexts items = none ↔ anyItem unwritten items = true
  | [] => by simp [itemTexts, anyItem]
  | item :: rest => by
    have here := handoffJson_none item
    have later := itemTexts_none rest
    cases text : handoffJson item <;> simp_all [itemTexts, anyItem]

theorem memberTexts_none : ∀ members : List (UnitText × JsValue ν),
    memberTexts members = none ↔ anyMember unwritten members = true
  | [] => by simp [memberTexts, anyMember]
  | (key, value) :: rest => by
    have here := handoffJson_none value
    have later := memberTexts_none rest
    cases text : handoffJson value <;> simp_all [memberTexts, anyMember]

end

/-! ### What is written reads back -/

omit [NumberText ν] in
theorem canonicalMembers_keys : ∀ members : List (UnitText × JsValue ν),
    (canonicalMembers members).map Prod.fst = members.map Prod.fst
  | [] => rfl
  | (key, value) :: rest => by
    rw [canonicalMembers, List.map_cons, canonicalMembers_keys rest]
    rfl

mutual

theorem handoffJson_reads : ∀ (value : JsValue ν) {text : UnitText},
    handoffJson value = some text → anyPart lossy value = false →
      anyPart repeatsKey value = false → Reads text (canonical value)
  | .null, _, rfl, _, _ => reads_null
  | .bool value, _, rfl, _, _ => reads_bool value
  | .num value, _, rfl, _, _ => reads_num value
  | .str value, _, rfl, _, _ => reads_str value
  | .arr plain items, text, wrote, whole, distinct => by
    simp only [anyPart, lossy, Bool.or_eq_false_iff, Bool.not_eq_false'] at whole
    simp only [anyPart, repeatsKey, Bool.false_or] at distinct
    obtain ⟨texts, inside, rfl⟩ := Option.map_eq_some_iff.mp wrote
    rw [whole.1]
    exact reads_arr (itemTexts_reads items inside whole.2 distinct)
  | .obj kind members, text, wrote, whole, distinct => by
    simp only [anyPart, lossy, Bool.or_eq_false_iff, decide_eq_false_iff_not] at whole
    simp only [anyPart, repeatsKey, Bool.or_eq_false_iff, Bool.not_eq_false',
      decide_eq_true_eq] at distinct
    rw [handoffJson] at wrote
    split at wrote
    · cases wrote
    · next other =>
      obtain ⟨pieces, inside, rfl⟩ := Option.map_eq_some_iff.mp wrote
      have plain : kind = .plain := by
        cases kind with
        | plain => rfl
        | withHidden => exact absurd rfl whole.1
        | ofClass => exact absurd rfl other
      rw [plain]
      refine reads_obj (forall₂_mergeSort (fun _ _ same => same.1)
        (memberTexts_reads members inside whole.2 distinct.2)) ?_
      rw [((List.mergeSort_perm _ _).map Prod.fst).nodup_iff, canonicalMembers_keys]
      exact distinct.1

theorem itemTexts_reads : ∀ (items : List (JsValue ν)) {texts : List UnitText},
    itemTexts items = some texts → anyItem lossy items = false →
      anyItem repeatsKey items = false → List.Forall₂ Reads texts (canonicalItems items)
  | [], _, rfl, _, _ => .nil
  | item :: rest, texts, wrote, whole, distinct => by
    simp only [anyItem, Bool.or_eq_false_iff] at whole distinct
    obtain ⟨text, here, wrote⟩ := Option.bind_eq_some_iff.mp wrote
    obtain ⟨others, later, rfl⟩ := Option.map_eq_some_iff.mp wrote
    exact .cons (handoffJson_reads item here whole.1 distinct.1)
      (itemTexts_reads rest later whole.2 distinct.2)

theorem memberTexts_reads : ∀ (members : List (UnitText × JsValue ν))
    {pieces : List (UnitText × UnitText)},
    memberTexts members = some pieces → anyMember lossy members = false →
      anyMember repeatsKey members = false →
        List.Forall₂ ReadsMember pieces (canonicalMembers members)
  | [], _, rfl, _, _ => .nil
  | (key, value) :: rest, pieces, wrote, whole, distinct => by
    simp only [anyMember, Bool.or_eq_false_iff] at whole distinct
    obtain ⟨text, here, wrote⟩ := Option.bind_eq_some_iff.mp wrote
    obtain ⟨others, later, rfl⟩ := Option.map_eq_some_iff.mp wrote
    exact .cons ⟨rfl, handoffJson_reads value here whole.1 distinct.1⟩
      (memberTexts_reads rest later whole.2 distinct.2)

end

/-! ### The order of members makes no difference -/

def WrittenAs (member : UnitText × JsValue ν) (piece : UnitText × UnitText) : Prop :=
  member.1 = piece.1 ∧ handoffJson member.2 = some piece.2

theorem memberTexts_iff : ∀ {members : List (UnitText × JsValue ν)}
    {pieces : List (UnitText × UnitText)},
    memberTexts members = some pieces ↔ List.Forall₂ WrittenAs members pieces
  | [], pieces => by
    rw [memberTexts, List.forall₂_nil_left_iff, Option.some.injEq, eq_comm]
  | (key, value) :: rest, pieces => by
    rw [memberTexts, List.forall₂_cons_left_iff, Option.bind_eq_some_iff]
    constructor
    · rintro ⟨text, here, wrote⟩
      obtain ⟨others, later, rfl⟩ := Option.map_eq_some_iff.mp wrote
      exact ⟨(key, text), others, ⟨rfl, here⟩, memberTexts_iff.1 later, rfl⟩
    · rintro ⟨⟨name, text⟩, others, ⟨rfl, here⟩, later, rfl⟩
      exact ⟨text, here, by rw [memberTexts_iff.2 later]; rfl⟩

mutual

theorem handoffJson_canonical : ∀ (value : JsValue ν) {text : UnitText},
    handoffJson value = some text → handoffJson (canonical value) = some text
  | .null, _, wrote => wrote
  | .bool _, _, wrote => wrote
  | .num _, _, wrote => wrote
  | .str _, _, wrote => wrote
  | .arr plain items, text, wrote => by
    obtain ⟨texts, inside, rfl⟩ := Option.map_eq_some_iff.mp wrote
    rw [canonical, handoffJson, itemTexts_canonical items inside]
    rfl
  | .obj kind members, text, wrote => by
    rw [handoffJson] at wrote
    rw [canonical, handoffJson]
    split at wrote
    · cases wrote
    · next other =>
      obtain ⟨pieces, inside, rfl⟩ := Option.map_eq_some_iff.mp wrote
      have ordered : memberTexts ((canonicalMembers members).mergeSort keyUpTo) =
          some (pieces.mergeSort keyUpTo) :=
        memberTexts_iff.2 (forall₂_mergeSort (fun _ _ same => same.1)
          (memberTexts_iff.1 (memberTexts_canonical members inside)))
      rw [if_neg other, ordered, Option.map_some, List.mergeSort_of_pairwise
        (List.pairwise_mergeSort keyUpTo_trans keyUpTo_total pieces)]

theorem itemTexts_canonical : ∀ (items : List (JsValue ν)) {texts : List UnitText},
    itemTexts items = some texts → itemTexts (canonicalItems items) = some texts
  | [], _, wrote => wrote
  | item :: rest, texts, wrote => by
    obtain ⟨text, here, wrote⟩ := Option.bind_eq_some_iff.mp wrote
    obtain ⟨others, later, rfl⟩ := Option.map_eq_some_iff.mp wrote
    rw [canonicalItems, itemTexts, handoffJson_canonical item here, Option.bind_some,
      itemTexts_canonical rest later]
    rfl

theorem memberTexts_canonical : ∀ (members : List (UnitText × JsValue ν))
    {pieces : List (UnitText × UnitText)},
    memberTexts members = some pieces → memberTexts (canonicalMembers members) = some pieces
  | [], _, wrote => wrote
  | (key, value) :: rest, pieces, wrote => by
    obtain ⟨text, here, wrote⟩ := Option.bind_eq_some_iff.mp wrote
    obtain ⟨others, later, rfl⟩ := Option.map_eq_some_iff.mp wrote
    rw [canonicalMembers, memberTexts, handoffJson_canonical value here, Option.bind_some,
      memberTexts_canonical rest later]
    rfl

end

/-! ### The canonical text as a whole -/

/-- A text that tells a value from all others, up to order, and that gives it back. -/
def Faithful (value : JsValue ν) : Prop :=
  ∃ text, handoffJson value = some text ∧ parse text = some (canonical value) ∧
    ∀ other : JsValue ν, anyPart repeatsKey other = false → isJson other = true →
      (handoffJson other = some text ↔ canonical other = canonical value)

theorem exists_written {value : JsValue ν} (data : isJson value = true)
    (distinct : anyPart repeatsKey value = false) :
    ∃ text, handoffJson value = some text ∧ parse text = some (canonical value) := by
  simp only [isJson, Bool.and_eq_true, Bool.not_eq_true'] at data
  cases wrote : handoffJson value with
  | none =>
    rw [handoffJson_none, data.1] at wrote
    cases wrote
  | some text => exact ⟨text, rfl, (handoffJson_reads value wrote data.2 distinct).parse⟩

theorem faithful_of_isJson {value : JsValue ν} (data : isJson value = true)
    (distinct : anyPart repeatsKey value = false) : Faithful value := by
  obtain ⟨text, wrote, read⟩ := exists_written data distinct
  refine ⟨text, wrote, read, fun other apart plain => ?_⟩
  obtain ⟨others, wroteOther, readOther⟩ := exists_written plain apart
  constructor
  · intro same
    rw [wroteOther, Option.some.injEq] at same
    rw [same, read] at readOther
    exact (Option.some.inj readOther).symm
  · intro same
    have one := handoffJson_canonical value wrote
    have two := handoffJson_canonical other wroteOther
    rw [same, one] at two
    rw [wroteOther, two]

/--
Data are written faithfully, and anything else is thrown at, exactly if no part loses anything.

An array of a class or an object with hidden members is written all the same, unless something
else in the value is thrown at.
-/
theorem handoffJson_faithful_iff (value : JsValue ν) (distinct : anyPart repeatsKey value = false) :
    ((isJson value = true → Faithful value) ∧
      (isJson value = false → handoffJson value = none)) ↔
    (anyPart lossy value = true → anyPart unwritten value = true) := by
  rw [and_iff_right fun data => faithful_of_isJson data distinct, handoffJson_none, isJson]
  cases anyPart unwritten value <;> cases anyPart lossy value <;> simp

/-- Numbers of one digit. -/
instance digitText : NumberText (Fin 10) where
  write number := [hexDigit number.val]
  read
    | [] => none
    | code :: rest =>
      if isDigit code then some (Fin.ofNat _ (code.val - 48), rest) else none
  write_head number := ⟨_, [], rfl, .inl (by revert number; decide)⟩
  read_write number rest _ := by
    have digit : isDigit (hexDigit number.val) = true := by revert number; decide
    have same : Fin.ofNat 10 ((hexDigit number.val).val - 48) = number := by revert number; decide
    rw [List.singleton_append]
    simp only [digit, if_true, same]

def sampleValue : JsValue (Fin 10) :=
  .obj .plain [(units "head", .str (units "c0ffee")), (units "findings", .arr true [.num 7, .null])]

theorem handoffJson_faithful_sample : isJson sampleValue = true ∧ Faithful sampleValue := by
  have data : isJson sampleValue = true := by decide
  have faithful := (handoffJson_faithful_iff sampleValue (by decide)).mpr fun lost => by
    rw [show anyPart lossy sampleValue = false by decide] at lost
    cases lost
  exact ⟨data, faithful.1 data⟩

/-- An array of a class is written as if it were a plain one. -/
theorem classArray_written :
    isJson (.arr false [] : JsValue (Fin 10)) = false ∧
      handoffJson (.arr false [] : JsValue (Fin 10)) = some (units "[]") := by
  decide

end AdversarialReview.Handoff
