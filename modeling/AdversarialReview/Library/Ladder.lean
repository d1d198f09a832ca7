import Mathlib.Data.List.Basic

/-! Ladders of guarded rows: the first rung that does not pass decides. -/

inductive Rung (ρ : Type) where
  | row (decided : ρ)
  | throws
  | pass

namespace Rung

variable {ρ : Type}

def climb : List (Rung ρ) → Rung ρ
  | [] => .pass
  | .pass :: rest => climb rest
  | rung :: _ => rung

def when (condition : Bool) (decided : ρ) : Rung ρ :=
  if condition then .row decided else .pass

def Only (meets : ρ → Prop) (rung : Rung ρ) : Prop :=
  ∀ decided, rung = .row decided → meets decided

@[simp] theorem climb_row (decided : ρ) (rest : List (Rung ρ)) :
    climb (.row decided :: rest) = .row decided := rfl

variable {condition : Bool}

theorem when_eq_row {first second : ρ}
    (decides : when condition first = .row second) : condition = true ∧ first = second := by
  unfold when at decides
  split at decides
  · next holds => exact ⟨holds, Rung.row.inj decides⟩
  · cases decides

variable {decided : ρ}

@[simp] theorem when_eq_pass :
    when condition decided = .pass ↔ condition = false := by
  unfold when
  split <;> simp_all

variable {meets : ρ → Prop}

@[simp] theorem only_when :
    Only meets (when condition decided) ↔ (condition = true → meets decided) := by
  constructor
  · intro only holds
    exact only decided (by simp [when, holds])
  · intro given other decides
    obtain ⟨holds, rfl⟩ := when_eq_row decides
    exact given holds

variable {rung : Rung ρ}

theorem Only.mono {meets wider : ρ → Prop} (only : Only meets rung)
    (widens : ∀ decided, meets decided → wider decided) : Only wider rung :=
  fun decided decides => widens decided (only decided decides)

theorem climb_skip {rest : List (Rung ρ)}
    (climbed : climb (rung :: rest) = .row decided) (only : Only (fun row => ¬meets row) rung)
    (wanted : meets decided) : rung = .pass ∧ climb rest = .row decided := by
  cases rung with
  | row other =>
    have same : other = decided := Rung.row.inj climbed
    exact absurd wanted (same ▸ only other rfl)
  | throws => cases climbed
  | pass => exact ⟨rfl, climbed⟩

theorem climb_cases {rest : List (Rung ρ)} (climbed : climb (rung :: rest) = .row decided) :
    rung = .row decided ∨ rung = .pass ∧ climb rest = .row decided := by
  cases rung with
  | row other => exact .inl climbed
  | throws => cases climbed
  | pass => exact .inr ⟨rfl, climbed⟩

theorem climb_skip_all {lower rest : List (Rung ρ)} (climbed : climb (lower ++ rest) = .row decided)
    (only : ∀ rung ∈ lower, Only (fun row => ¬meets row) rung) (wanted : meets decided) :
    (∀ rung ∈ lower, rung = .pass) ∧ climb rest = .row decided := by
  induction lower with
  | nil => exact ⟨by simp, climbed⟩
  | cons rung others ih =>
    obtain ⟨passed, above⟩ := climb_skip climbed (only rung List.mem_cons_self) wanted
    obtain ⟨all, last⟩ := ih above fun other listed => only other (List.mem_cons_of_mem rung listed)
    refine ⟨?_, last⟩
    intro other listed
    rcases List.mem_cons.mp listed with rfl | later
    · exact passed
    · exact all other later

theorem climb_append {lower rest : List (Rung ρ)} (climbed : climb (lower ++ rest) = .row decided) :
    climb lower = .row decided ∨ (∀ rung ∈ lower, rung = .pass) ∧ climb rest = .row decided := by
  induction lower with
  | nil => exact .inr ⟨by simp, climbed⟩
  | cons rung others ih =>
    rcases climb_cases climbed with here | ⟨rfl, above⟩
    · exact .inl (by rw [here, climb_row])
    · rcases ih above with below | ⟨all, last⟩
      · exact .inl below
      · refine .inr ⟨?_, last⟩
        intro other listed
        rcases List.mem_cons.mp listed with rfl | later
        · rfl
        · exact all other later

theorem only_climb {rungs : List (Rung ρ)}
    (only : ∀ rung ∈ rungs, Only meets rung) : Only meets (climb rungs) := by
  induction rungs with
  | nil =>
    intro decided climbed
    cases climbed
  | cons rung rest ih =>
    intro decided climbed
    rcases climb_cases climbed with here | ⟨-, above⟩
    · exact only rung List.mem_cons_self decided here
    · exact ih (fun other listed => only other (List.mem_cons_of_mem rung listed)) decided above

end Rung
