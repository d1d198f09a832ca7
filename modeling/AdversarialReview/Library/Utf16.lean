import Mathlib.Data.List.Lex

/-! The order of texts in JavaScript, by their UTF-16 code units. -/

namespace Utf16

def units (char : Char) : List Nat :=
  if char.toNat < 0x10000 then [char.toNat]
  else [0xd800 + (char.toNat - 0x10000) / 1024, 0xdc00 + (char.toNat - 0x10000) % 1024]

def codes (text : String) : List Nat :=
  text.toList.flatMap units

theorem not_surrogate (char : Char) : char.toNat < 0xd800 ∨ 0xdfff < char.toNat := by
  have valid := char.valid
  simp only [UInt32.isValidChar, Nat.isValidChar] at valid
  simp only [Char.toNat]
  omega

theorem units_append_inj {first second : Char} {rest other : List Nat}
    (same : units first ++ rest = units second ++ other) : first = second ∧ rest = other := by
  have one := not_surrogate first
  have two := not_surrogate second
  have top : ∀ char : Char, char.toNat < 0x110000 := by
    intro char
    have valid := char.valid
    simp only [UInt32.isValidChar, Nat.isValidChar] at valid
    simp only [Char.toNat]
    omega
  have topOne := top first
  have topTwo := top second
  have equal : first.toNat = second.toNat → first = second := fun codes => by
    rw [← Char.ofNat_toNat first, codes, Char.ofNat_toNat]
  unfold units at same
  -- A high surrogate is no character, so both take as many units.
  split at same <;> split at same <;>
    simp only [List.cons_append, List.nil_append, List.cons.injEq] at same
  · exact ⟨equal same.1, same.2⟩
  · omega
  · omega
  · exact ⟨equal (by omega), same.2.2⟩

theorem codes_injective : Function.Injective codes := by
  have general : ∀ first second : List Char,
      first.flatMap units = second.flatMap units → first = second := by
    intro first
    induction first with
    | nil =>
      intro second same
      cases second with
      | nil => rfl
      | cons char rest =>
        simp only [List.flatMap_nil, List.flatMap_cons, units] at same
        split at same <;> cases same
    | cons char rest ih =>
      intro second same
      cases second with
      | nil =>
        simp only [List.flatMap_nil, List.flatMap_cons, units] at same
        split at same <;> cases same
      | cons other more =>
        obtain ⟨rfl, tails⟩ := units_append_inj same
        rw [ih more tails]
  intro first second same
  exact String.toList_inj.mp (general _ _ same)

def upTo (first second : String) : Bool :=
  codes first ≤ codes second

theorem upTo_refl (text : String) : upTo text text = true := by
  simp [upTo]

theorem upTo_trans {first second third : String} (one : upTo first second = true)
    (two : upTo second third = true) : upTo first third = true := by
  simp only [upTo, decide_eq_true_eq] at one two ⊢
  exact le_trans one two

theorem upTo_total (first second : String) :
    upTo first second = true ∨ upTo second first = true := by
  simp only [upTo, decide_eq_true_eq]
  exact le_total _ _

theorem upTo_antisymm {first second : String} (one : upTo first second = true)
    (two : upTo second first = true) : first = second := by
  simp only [upTo, decide_eq_true_eq] at one two
  exact codes_injective (le_antisymm one two)

end Utf16
