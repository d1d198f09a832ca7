import AdversarialReview.Cascade.State
import AdversarialReview.Library.Latch

/-! When an operator is alerted once: each alert's mark is a latch, lost with a recorded failure. -/

namespace AdversarialReview.Cascade

variable [JsDate] (configured : Option Int) (config : HoldConfig)

def Call.records : Call → Bool
  | .failure _ | .refusal _ => true
  | .cap _ | .operator _ => false

def Call.isCap : Call → Bool
  | .cap _ => true
  | _ => false

def Call.head? : Call → Option (Option String)
  | .operator call => some (given call.headSha)
  | _ => none

theorem perform_records {call : Call} (records : call.records = true) (state : CascadeState) :
    (perform configured config state call).2.capExhaustedAlertedAt = none ∧
      (perform configured config state call).2.operatorDecisionAlertedHeadSha = none := by
  cases call with
  | failure call => exact ⟨rfl, rfl⟩
  | refusal call =>
    simp only [perform, recordTokenRefreshHold]
    split <;> exact ⟨rfl, rfl⟩
  | cap call => cases records
  | operator call => cases records

def capLatch : Latch (perform configured config) where
  held state := (given state.capExhaustedAlertedAt).isSome
  asks := Call.isCap
  stores
    | .cap call => call.alertedAt ≠ ""
    | _ => true
  loses := Call.records
  marked := by
    intro state call asks
    cases call <;> cases asks
    simp only [perform, markCascadeCapExhaustedAlerted]
    split <;> simp_all
  asked := by
    intro state call asks
    cases call <;> cases asks
    simp only [perform, markCascadeCapExhaustedAlerted]
    split <;> simp_all [given, Option.isSome_filter]
  lost := by
    intro state call _ loses
    rw [(perform_records configured config loses state).1]
    rfl
  kept := by
    intro state call silent keeps
    cases call with
    | failure call => cases keeps
    | refusal call => cases keeps
    | cap call => cases silent
    | operator call =>
      simp only [perform, markOperatorDecisionRequiredAlerted]
      split <;> rfl

def headLatch (head : Option String) : Latch (perform configured config) where
  held state := state.operatorDecisionAlertedHeadSha = some head
  asks call := call.head? = some head
  stores _ := true
  loses call := call.records || call.head?.isSome
  marked := by
    intro state call asks
    cases call <;>
      simp only [Call.head?, decide_eq_true_eq, Option.some.injEq, reduceCtorEq] at asks
    subst asks
    simp only [perform, markOperatorDecisionRequiredAlerted]
    split <;> simp_all
  asked := by
    intro state call asks
    cases call <;>
      simp only [Call.head?, decide_eq_true_eq, Option.some.injEq, reduceCtorEq] at asks
    subst asks
    simp only [perform, markOperatorDecisionRequiredAlerted]
    split <;> simp_all
  lost := by
    intro state call other loses
    cases records : call.records with
    | true => simp [(perform_records configured config records state).2]
    | false =>
      cases call with
      | failure call => cases records
      | refusal call => cases records
      | cap call => cases loses
      | operator call =>
        simp only [Call.head?, decide_eq_false_iff_not, Option.some.injEq] at other
        simp only [perform, markOperatorDecisionRequiredAlerted]
        split <;> simp_all
  kept := by
    intro state call _ keeps
    cases call with
    | failure call => cases keeps
    | refusal call => cases keeps
    | cap call =>
      simp only [perform, markCascadeCapExhaustedAlerted]
      split <;> rfl
    | operator call => cases keeps

def HeadsNeverReturn (calls : List Call) : Prop :=
  ∀ front first middle last back, calls = front ++ first :: (middle ++ last :: back) →
    first.head?.isSome → last.head? = first.head? →
    ∀ call ∈ middle, call.head?.isSome → call.head? = first.head?

def CapMarksKept (calls : List Call) : Prop :=
  ∀ front first middle last back,
    calls = front ++ .cap first :: (middle ++ .cap last :: back) →
    (∀ call ∈ front, call.isCap = false) →
    first.alertedAt ≠ "" ∧ ∀ call ∈ middle, call.records = false

def HeadMarksKept (calls : List Call) : Prop :=
  ∀ front first middle last back, calls = front ++ first :: (middle ++ last :: back) →
    first.head?.isSome → last.head? = first.head? → ∀ call ∈ middle, call.records = false

theorem capLatch_steady (calls : List Call) :
    (capLatch configured config).Steady calls ↔ CapMarksKept calls := by
  constructor
  · intro steady front first middle last back split none
    obtain ⟨stores, safe⟩ := steady front _ middle _ back split none rfl rfl
    refine ⟨by simpa [capLatch] using stores, ?_⟩
    intro call among
    cases asks : call.isCap with
    | false => exact safe call among asks
    | true => cases call <;> first | rfl | cases asks
  · intro kept front first middle last back split none asks again
    cases first <;> cases asks
    cases last <;> cases again
    obtain ⟨stores, safe⟩ := kept front _ middle _ back split none
    exact ⟨by simpa [capLatch] using stores, fun call among _ => safe call among⟩

theorem headLatch_steady {calls : List Call} (heads : HeadsNeverReturn calls) :
    (∀ head, (headLatch configured config head).Steady calls) ↔ HeadMarksKept calls := by
  constructor
  · intro steady front first middle last back split isHead same call among
    obtain ⟨head, stated⟩ := Option.isSome_iff_exists.mp isHead
    by_contra records
    rw [Bool.not_eq_false] at records
    -- The earliest mark of that head comes before the recorded failure too.
    obtain ⟨early, found⟩ := Option.isSome_iff_exists.mp (List.find?_isSome.mpr
      ⟨first, List.mem_append_right front List.mem_cons_self, by simpa using stated⟩ :
        ((front ++ [first]).find? fun call => decide (call.head? = some head)).isSome)
    obtain ⟨asks, before, after, whole, none⟩ := List.find?_eq_some_iff_append.mp found
    have parts : calls = before ++ early :: ((after ++ middle) ++ last :: back) := by
      have : front ++ first :: (middle ++ last :: back) =
          (front ++ [first]) ++ (middle ++ last :: back) := by simp
      rw [split, this, whole]
      simp
    have silent : (headLatch configured config head).asks call = false := by
      cases call with
      | failure call => simp [headLatch, Call.head?]
      | refusal call => simp [headLatch, Call.head?]
      | cap call => cases records
      | operator call => cases records
    have keeps := ((steady head) before early (after ++ middle) last back parts
      (fun other listed => by simpa [headLatch] using none other listed) asks
      (by simp [headLatch, same, stated])).2 call (List.mem_append_right after among) silent
    simp [headLatch, records] at keeps
  · intro kept head front first middle last back split _ asks again
    simp only [headLatch, decide_eq_true_eq] at asks again
    have some_ : first.head?.isSome := by simp [asks]
    have same : last.head? = first.head? := by rw [asks, again]
    refine ⟨rfl, ?_⟩
    intro call among silent
    have safe := kept front first middle last back split some_ same call among
    simp only [headLatch, decide_eq_false_iff_not] at silent
    simp only [headLatch, safe, Bool.false_or]
    by_contra other
    exact silent ((heads front first middle last back split some_ same call among
      (by simpa [Option.isSome_iff_ne_none] using other)).trans asks)

/--
From every stored state, some calls mark the cap's alert once at most, and each head's alert once
at most where heads never return.

That is so exactly if no failure or refusal is recorded between two marks of the same alert, and
the first mark of the cap has a time that is not empty.
-/
theorem alerts_once_iff (calls : List Call) :
    (∀ state, (capLatch configured config).marks state calls ≤ 1 ∧
      (HeadsNeverReturn calls →
        ∀ head, (headLatch configured config head).marks state calls ≤ 1)) ↔
    CapMarksKept calls ∧ (HeadsNeverReturn calls → HeadMarksKept calls) := by
  have cap := (Latch.marks_le_one_iff (rfl : (capLatch configured config).held {} = false)).trans
    (capLatch_steady configured config calls)
  have heads (never : HeadsNeverReturn calls) :
      (∀ head state, (headLatch configured config head).marks state calls ≤ 1) ↔
        HeadMarksKept calls := by
    rw [← headLatch_steady configured config never]
    exact forall_congr' fun head => Latch.marks_le_one_iff
      (rfl : (headLatch configured config head).held {} = false)
  rw [← cap]
  constructor
  · intro once
    exact ⟨fun state => (once state).1,
      fun never => (heads never).mp fun head state => (once state).2 never head⟩
  · rintro ⟨first, rest⟩ state
    exact ⟨first state, fun never head => (heads never).mpr (rest never) head state⟩

omit [JsDate] in
/-- A failure is recorded between two marks, and both alerts are made again. -/
theorem alerts_repeated :
    letI := JsDate.isoDates
    let failure : Failure := { failedAt := some 0, now := 0, reviewerBuildId := "build" }
    let head : OperatorMark := { headSha := some "head", alertedAt := "2026-07-17T12:00:00.000Z" }
    let cap : CapMark := { alertedAt := "2026-07-17T12:00:00.000Z" }
    let calls := [.cap cap, .operator head, .failure failure, .cap cap, .operator head]
    let config : HoldConfig := { maxHoldMs := 1800000, bridgeRefreshWindowMs := 1800000 }
    (capLatch none config).marks {} calls = 2 ∧
      (headLatch none config (some "head")).marks {} calls = 2 := by
  decide

end AdversarialReview.Cascade
