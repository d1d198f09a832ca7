import AdversarialReview.Library.JsText

/-! White space and normal forms of texts: runs of space as one, and edges that trimming removes. -/

/-- The normal form of compatible characters. -/
class JsNormal where
  nfkc : String → String
  /-- White space composes with nothing, so at an edge of a text it stays at that edge. -/
  nfkc_edges (front text back : List Char) :
    (∀ char ∈ front, jsSpace char = true) → (∀ char ∈ back, jsSpace char = true) →
    ∃ before after : List Char, (∀ char ∈ before, jsSpace char = true) ∧
      (∀ char ∈ after, jsSpace char = true) ∧
      (nfkc (String.ofList (front ++ text ++ back))).toList =
        before ++ (nfkc (String.ofList text)).toList ++ after

namespace JsNormal

/-- The normal form of texts whose characters are their own. -/
@[reducible] def plain : JsNormal where
  nfkc text := text
  nfkc_edges front text back spaceFront spaceBack :=
    ⟨front, back, spaceFront, spaceBack, by simp⟩

def collapse (spaced : Bool) : List Char → List Char
  | [] => []
  | char :: rest =>
    if jsSpace char then
      if spaced then collapse true rest else ' ' :: collapse true rest
    else char :: collapse false rest

theorem collapse_front {front : List Char} (space : ∀ char ∈ front, jsSpace char = true)
    (spaced : Bool) (text : List Char) :
    (collapse spaced (front ++ text)).dropWhile jsSpace =
      (collapse false text).dropWhile jsSpace := by
  -- Whether a space was written before matters to a leading run only, which is dropped.
  have either : ∀ spaced, (collapse spaced text).dropWhile jsSpace =
      (collapse false text).dropWhile jsSpace := by
    intro spaced
    cases spaced with
    | false => rfl
    | true =>
      cases text with
      | nil => rfl
      | cons char rest =>
        by_cases gap : jsSpace char = true
        · have own : jsSpace ' ' = true := by decide
          simp [collapse, gap, own]
        · simp [collapse, gap]
  induction front generalizing spaced with
  | nil => exact either spaced
  | cons char rest ih =>
    have gap := space char List.mem_cons_self
    have others := fun spaced => ih (fun char listed => space char (List.mem_cons_of_mem _ listed))
      spaced
    have own : jsSpace ' ' = true := by decide
    cases spaced with
    | false => simpa [collapse, gap, List.dropWhile_cons, own] using others true
    | true => simpa [collapse, gap] using others true

variable {back : List Char}

theorem collapse_back (space : ∀ char ∈ back, jsSpace char = true)
    (spaced : Bool) (text : List Char) :
    ∃ after, (∀ char ∈ after, jsSpace char = true) ∧
      collapse spaced (text ++ back) = collapse spaced text ++ after := by
  induction text generalizing spaced with
  | nil =>
    refine ⟨collapse spaced back, ?_, rfl⟩
    have blank : ∀ (back : List Char) (spaced : Bool), (∀ char ∈ back, jsSpace char = true) →
        ∀ char ∈ collapse spaced back, jsSpace char = true := by
      intro back
      induction back with
      | nil => simp [collapse]
      | cons char rest ih =>
        intro spaced space
        have gap := space char List.mem_cons_self
        have others := ih true fun char listed => space char (List.mem_cons_of_mem _ listed)
        cases spaced with
        | false =>
          simp only [collapse, gap, if_true, Bool.false_eq_true, if_false, List.mem_cons]
          rintro char (rfl | listed)
          · decide
          · exact others char listed
        | true => simpa [collapse, gap] using others
    exact blank back spaced space
  | cons char rest ih =>
    by_cases gap : jsSpace char = true
    · obtain ⟨after, blank, same⟩ := ih true
      cases spaced with
      | false => exact ⟨after, blank, by simp [collapse, gap, same]⟩
      | true => exact ⟨after, blank, by simp [collapse, gap, same]⟩
    · obtain ⟨after, blank, same⟩ := ih false
      exact ⟨after, blank, by simp [collapse, gap, same]⟩

theorem trim_back (space : ∀ char ∈ back, jsSpace char = true) (text : List Char) :
    ((text ++ back).reverse.dropWhile jsSpace).reverse =
      (text.reverse.dropWhile jsSpace).reverse := by
  rw [List.reverse_append, List.dropWhile_append_of_pos]
  simpa using space

theorem dropWhile_append_blank (space : ∀ char ∈ back, jsSpace char = true)
    (text : List Char) : ∃ after, (∀ char ∈ after, jsSpace char = true) ∧
      (text ++ back).dropWhile jsSpace = text.dropWhile jsSpace ++ after := by
  induction text with
  | nil =>
    refine ⟨back.dropWhile jsSpace, ?_, rfl⟩
    exact fun char listed => space char ((List.dropWhile_suffix jsSpace).subset listed)
  | cons char rest ih =>
    by_cases gap : jsSpace char = true
    · simpa [List.dropWhile_cons, gap] using ih
    · exact ⟨back, space, by simp [gap]⟩

theorem trim_collapse {front back : List Char} (spaceFront : ∀ char ∈ front, jsSpace char = true)
    (spaceBack : ∀ char ∈ back, jsSpace char = true) (text : List Char) :
    jsTrim (String.ofList (collapse false (front ++ text ++ back))) =
      jsTrim (String.ofList (collapse false text)) := by
  have lead := collapse_front spaceFront false (text ++ back)
  obtain ⟨after, blank, same⟩ := collapse_back spaceBack false text
  obtain ⟨tail, blankTail, rest⟩ := dropWhile_append_blank blank (collapse false text)
  unfold jsTrim
  rw [String.toList_ofList, String.toList_ofList, List.append_assoc, lead, same, rest,
    trim_back blankTail]

theorem exists_trim (text : String) : ∃ front back : List Char,
    (∀ char ∈ front, jsSpace char = true) ∧ (∀ char ∈ back, jsSpace char = true) ∧
      text.toList = front ++ (jsTrim text).toList ++ back := by
  refine ⟨text.toList.takeWhile jsSpace,
    ((text.toList.dropWhile jsSpace).reverse.takeWhile jsSpace).reverse, ?_, ?_, ?_⟩
  · exact fun char listed => List.mem_takeWhile_imp listed
  · intro char listed
    exact List.mem_takeWhile_imp (List.mem_reverse.mp listed)
  · rw [jsTrim, String.toList_ofList, List.append_assoc, ← List.reverse_append,
      List.takeWhile_append_dropWhile, List.reverse_reverse, List.takeWhile_append_dropWhile]

end JsNormal
