import Mathlib.Data.List.Pairwise
import AdversarialReview.Library.JsDate
import AdversarialReview.ReviewState.Rereview
import AdversarialReview.Library.Table

/-! Explicit review requests, from their record to their settlement, and that each is granted once. -/

namespace AdversarialReview.ReviewState

inductive ReceiptState where
  | pending | coalesced | consumed | refused
  deriving DecidableEq

/-- A row of `explicit_review_intents`. -/
structure Receipt where
  requestId : String
  headSha : String
  actor : String
  requestedAt : String
  expiresAt : String
  state : ReceiptState := .pending
  settledAt : Option String := none
  reason : Option String := none
  reviewerSessionUuid : Option String := none
  notifiedAt : Option String := none
  deriving DecidableEq

/-- What the database keeps of the pull request. -/
structure ReceiptStore where
  row : Option ReviewRow
  receipts : List Receipt := []

def Receipt.refuse (receipt : Receipt) (now reason : String) : Receipt :=
  { receipt with state := .refused, settledAt := some now, reason := some reason }

def deadlinePassed : String := "reviewer-unavailable-before-dispatch-deadline"

def findExplicitReviewRequest (receipts : List Receipt) (requestId : String) : Option Receipt :=
  receipts.find? (·.requestId = requestId)

def refuseExpired (receipts : List Receipt) (now : String) : List Receipt :=
  receipts.map fun receipt =>
    if receipt.state = .pending ∧ receipt.expiresAt ≤ now then receipt.refuse now deadlinePassed
    else receipt

def insertReceipt (receipts : List Receipt) (receipt : Receipt) : Except String (List Receipt) :=
  if receipts.any (·.requestId = receipt.requestId) then
    .error "UNIQUE constraint failed: explicit_review_intents.request_id"
  else if receipt.state = .pending &&
      receipts.any (fun other => other.state = .pending && other.headSha = receipt.headSha) then
    .error "UNIQUE constraint failed: explicit_review_intents.head_sha"
  else .ok (receipts ++ [receipt])

def rereviewMaxWaitSeconds : Rat := 900

def receiptDeadline [JsDate] (requestedAt : String) (maxWaitSeconds : Rat) :
    Except String String :=
  let waitSeconds := if maxWaitSeconds = 0 then rereviewMaxWaitSeconds else maxWaitSeconds
  match JsDate.parse requestedAt with
  | none => .error "Invalid time value"
  | some start =>
    let due : Rat := start + waitSeconds * 1000
    match JsDate.toISOString (due.num.tdiv due.den) with
    | some text => .ok text
    | none => .error "Invalid time value"

def newReceipt (existing : Option Receipt) (request : ExplicitReviewRequest)
    (headSha requestedAt deadline : String) : Receipt where
  requestId := request.requestId
  headSha := headSha
  actor := request.actor
  requestedAt := requestedAt
  expiresAt := ((existing.map (·.expiresAt)).filter (· ≠ "")).getD deadline
  state := if existing.isSome then .coalesced else .pending
  reason := existing.map fun receipt => "coalesced:" ++ receipt.requestId

def recordExplicitReviewIntent [JsDate] (receipts : List Receipt) (request : ExplicitReviewRequest)
    (headSha requestedAt : String) (maxWaitSeconds : Rat) :
    Except String (Option Receipt × List Receipt) := do
  let live := refuseExpired receipts requestedAt
  let existing := live.find? fun receipt => receipt.headSha = headSha && receipt.state = .pending
  let deadline ← receiptDeadline requestedAt maxWaitSeconds
  let recorded ← insertReceipt live (newReceipt existing request headSha requestedAt deadline)
  return (existing.or (findExplicitReviewRequest recorded request.requestId), recorded)

def updateReceipt (receipts : List Receipt) (requestId : String) (holds : Receipt → Bool)
    (edit : Receipt → Receipt) : Bool × List Receipt :=
  ((receipts.filter fun receipt => receipt.requestId = requestId && holds receipt).length = 1,
    receipts.map fun receipt =>
      if receipt.requestId = requestId && holds receipt then edit receipt else receipt)

def settleExplicitReviewIntent (receipts : List Receipt) (intent : Receipt) (reason now : String) :
    Bool × List Receipt :=
  updateReceipt receipts intent.requestId (·.state = .pending) (·.refuse now reason)

def holdsReviewing (row : Option ReviewRow) (session headSha : Option String) : Bool :=
  row.any fun row => row.reviewStatus = .reviewing && sqlEq row.reviewerSessionUuid session &&
    sqlEq row.reviewerHeadSha headSha

def consumeExplicitReviewIntent (store : ReceiptStore) (intent : Receipt)
    (headSha sessionUuid : Option String) (now : String) : Bool × List Receipt :=
  updateReceipt store.receipts intent.requestId
    (fun receipt => sqlEq (some receipt.headSha) headSha && receipt.state = .pending &&
      now < receipt.expiresAt && holdsReviewing store.row sessionUuid headSha)
    fun receipt =>
      { receipt with
        state := .consumed
        settledAt := some now
        reviewerSessionUuid := sessionUuid }

def refuseFailedExplicitReviewDispatch (receipts : List Receipt) (intent : Receipt)
    (sessionUuid : Option String) (now : String) : Bool × List Receipt :=
  updateReceipt receipts intent.requestId
    (fun receipt => receipt.state = .consumed && sqlEq receipt.reviewerSessionUuid sessionUuid)
    (·.refuse now "reviewer-dispatch-failed")

/-- The refusals of a reconciliation, written before any notice goes out. -/
def reconcileExplicitReviewIntents (receipts : List Receipt) (headSha : Option String)
    (terminal : Bool) (now : String) : List Receipt :=
  receipts.map fun receipt =>
    let moved := headSha.any (receipt.headSha ≠ ·)
    if receipt.state = .pending ∧ (terminal ∨ moved ∨ receipt.expiresAt ≤ now) then
      receipt.refuse now
        (if terminal then "pr-terminal" else if moved then "head-changed" else deadlinePassed)
    else receipt

/-- A notice went out. -/
def markNotified (receipts : List Receipt) (intent : Receipt) (now : String) : List Receipt :=
  (updateReceipt receipts intent.requestId (·.notifiedAt = none)
    fun receipt => { receipt with notifiedAt := some now }).2

structure RereviewResult where
  triggered : Bool
  status : String
  reason : String
  reviewRow : Option ReviewRow
  explicitReviewIntent : Option Receipt := none

def buildBlockedRereviewResult (reason : String) (reviewRow : Option ReviewRow) : RereviewResult :=
  { triggered := false, status := "blocked", reason, reviewRow }

def ReceiptState.text : ReceiptState → String
  | .pending => "pending"
  | .coalesced => "coalesced"
  | .consumed => "consumed"
  | .refused => "refused"

def replayed (store : ReceiptStore) (call : RereviewCall) (request : ExplicitReviewRequest)
    (receipt : Receipt) : Except String RereviewResult :=
  if call.normalizedTargetRevisionRef ≠ some receipt.headSha ∨ receipt.actor ≠ request.actor then
    .ok (buildBlockedRereviewResult "explicit-review-request-identity-mismatch" store.row)
  else
    -- A coalesced receipt answers with the state of the one it joined.
    let joined := if receipt.state = .coalesced then
        findExplicitReviewRequest store.receipts
          (String.ofList ((receipt.reason.getD "").toList.drop "coalesced:".length))
      else some receipt
    match joined with
    | none => .error "Cannot read properties of undefined (reading 'state')"
    | some receipt => .ok
      { triggered := false
        status :=
          if receipt.state = .pending ∧ call.requestedAt < receipt.expiresAt then "already-pending"
          else "blocked"
        reason := s!"explicit-review-request-{receipt.state.text}"
        reviewRow := store.row
        explicitReviewIntent := some receipt }

def acceptExplicitRequest [JsDate] (store : ReceiptStore) (call : RereviewCall)
    (result : RereviewResult) : Except String (RereviewResult × ReceiptStore) :=
  match call.explicitReviewRequest with
  | none => .ok (result, store)
  | some request => do
    let (intent, receipts) ← recordExplicitReviewIntent store.receipts request
      (call.normalizedTargetRevisionRef.getD "") call.requestedAt call.reviewMaxWaitSeconds
    return ({ result with explicitReviewIntent := intent }, { store with receipts := receipts })

def requestRow [JsDate] (store : ReceiptStore) (call : RereviewCall) :
    Except String (RereviewResult × ReceiptStore) :=
  match rereviewRow store.row call with
  | .blocked reason => .ok (buildBlockedRereviewResult reason store.row, store)
  | .triggered row => acceptExplicitRequest { store with row := some row } call
      { triggered := true, status := "pending", reason := "review-status-reset",
        reviewRow := some row }
  | .alreadyPending row => acceptExplicitRequest { store with row := some row } call
      { triggered := false, status := "already-pending", reason := "review-already-pending",
        reviewRow := some row }

def requestReviewRereview [JsDate] (store : ReceiptStore) (call : RereviewCall) :
    Except String (RereviewResult × ReceiptStore) :=
  if call.reviewerFamily.any (· ∉ ["claude", "codex", "gemini"]) then
    .error "invalid reviewer family"
  else
    match call.explicitReviewRequest with
    | none => requestRow store call
    | some request =>
      if call.normalizedTargetRevisionRef = none ∨ request.requestId = "" ∨ request.actor = "" ∨
          JsDate.parse call.requestedAt = none then
        .ok (buildBlockedRereviewResult "invalid-explicit-review-request" store.row, store)
      else
        match findExplicitReviewRequest store.receipts request.requestId with
        | some receipt => do return (← replayed store call request receipt, store)
        | none => requestRow store call

section

/-- The statements on the receipts of a pull request, and whatever else writes its row. -/
inductive ReceiptStep where
  | requestReviewRereview (call : RereviewCall)
  | consumeExplicitReviewIntent (intent : Receipt) (headSha sessionUuid : Option String)
      (now : String)
  | refuseFailedExplicitReviewDispatch (intent : Receipt) (sessionUuid : Option String)
      (now : String)
  | settleExplicitReviewIntent (intent : Receipt) (reason now : String)
  | reconcileExplicitReviewIntents (headSha : Option String) (terminal : Bool) (now : String)
  | markNotified (intent : Receipt) (now : String)
  | writeRow (row : Option ReviewRow)

variable [JsDate]

def ReceiptStore.perform (store : ReceiptStore) : ReceiptStep → ReceiptStore
  | .requestReviewRereview call =>
    match ReviewState.requestReviewRereview store call with
    | .ok (_, committed) => committed
    | .error _ => store
  | .consumeExplicitReviewIntent intent headSha sessionUuid now =>
    { store with
      receipts :=
        (ReviewState.consumeExplicitReviewIntent store intent headSha sessionUuid now).2 }
  | .refuseFailedExplicitReviewDispatch intent sessionUuid now =>
    { store with
      receipts := (ReviewState.refuseFailedExplicitReviewDispatch store.receipts intent
        sessionUuid now).2 }
  | .settleExplicitReviewIntent intent reason now =>
    { store with
      receipts := (ReviewState.settleExplicitReviewIntent store.receipts intent reason now).2 }
  | .reconcileExplicitReviewIntents headSha terminal now =>
    { store with
      receipts :=
        ReviewState.reconcileExplicitReviewIntents store.receipts headSha terminal now }
  | .markNotified intent now =>
    { store with receipts := ReviewState.markNotified store.receipts intent now }
  | .writeRow row => { store with row := row }

def ReceiptStore.run (store : ReceiptStore) (steps : List ReceiptStep) : ReceiptStore :=
  steps.foldl ReceiptStore.perform store

def ReceiptStore.spent (store : ReceiptStore) (requestId : String) : Bool :=
  store.receipts.any fun receipt => receipt.requestId = requestId && receipt.state = .consumed

def ReceiptStore.consumed (store : ReceiptStore) (step : ReceiptStep) : List String :=
  ((store.perform step).receipts.filter fun receipt =>
    receipt.state = .consumed && !store.spent receipt.requestId).map (·.requestId)

def ReceiptStore.consumptions (store : ReceiptStore) : List ReceiptStep → List String
  | [] => []
  | step :: steps => store.consumed step ++ (store.perform step).consumptions steps

end

structure Receipt.Follows (before after : Receipt) : Prop where
  requestId : after.requestId = before.requestId
  headSha : after.headSha = before.headSha
  expiresAt : after.expiresAt = before.expiresAt
  pending : after.state = .pending → before.state = .pending
  coalesced : after.state = .coalesced ↔ before.state = .coalesced
  reason : before.state = .coalesced → after.reason = before.reason

def Granted [JsDate] (store : ReceiptStore) (step : ReceiptStep) (receipt : Receipt) : Prop :=
  ∃ intent sessionUuid now row,
    step = .consumeExplicitReviewIntent intent (some receipt.headSha) (some sessionUuid) now ∧
    intent.requestId = receipt.requestId ∧ receipt.state = .pending ∧ now < receipt.expiresAt ∧
    store.row = some row ∧ row.reviewStatus = .reviewing ∧
    row.reviewerSessionUuid = some sessionUuid ∧ row.reviewerHeadSha = some receipt.headSha

structure Receipt.Joins (receipts : List Receipt) (receipt : Receipt) : Prop where
  new : ∀ other ∈ receipts, other.requestId ≠ receipt.requestId
  unspent : receipt.state ≠ .consumed
  pending : receipt.state = .pending →
    ∀ other ∈ receipts, other.state = .pending → other.headSha ≠ receipt.headSha
  coalesced : receipt.state = .coalesced → ∃ named ∈ receipts, named.state = .pending ∧
    receipt.reason = some ("coalesced:" ++ named.requestId) ∧ receipt.expiresAt = named.expiresAt

namespace Receipt.Follows

theorem refl (receipt : Receipt) : receipt.Follows receipt :=
  ⟨rfl, rfl, rfl, id, Iff.rfl, fun _ => rfl⟩

theorem trans {first second third : Receipt} (one : first.Follows second)
    (two : second.Follows third) : first.Follows third where
  requestId := two.requestId.trans one.requestId
  headSha := two.headSha.trans one.headSha
  expiresAt := two.expiresAt.trans one.expiresAt
  pending waits := one.pending (two.pending waits)
  coalesced := two.coalesced.trans one.coalesced
  reason joined := (two.reason (one.coalesced.mpr joined)).trans (one.reason joined)

theorem refuse {receipt : Receipt} (alone : receipt.state ≠ .coalesced) (now reason : String) :
    receipt.Follows (receipt.refuse now reason) where
  requestId := rfl
  headSha := rfl
  expiresAt := rfl
  pending waits := nomatch waits
  coalesced := ⟨(nomatch ·), fun joined => absurd joined alone⟩
  reason joined := absurd joined alone

end Receipt.Follows

structure Edits (edit : Receipt → Receipt) : Prop where
  follows : ∀ receipt : Receipt, receipt.Follows (edit receipt)
  unspent : ∀ receipt : Receipt, (edit receipt).state = .consumed → receipt.state = .consumed

theorem edits_refuse {holds : Receipt → Prop} [DecidablePred holds]
    (alone : ∀ receipt, holds receipt → receipt.state ≠ .coalesced) (now : String)
    (reason : Receipt → String) :
    Edits fun receipt => if holds receipt then receipt.refuse now (reason receipt)
      else receipt where
  follows receipt := by
    by_cases refused : holds receipt
    · simpa [refused] using Receipt.Follows.refuse (alone receipt refused) now (reason receipt)
    · simpa [refused] using Receipt.Follows.refl receipt
  unspent receipt spent := by
    by_cases refused : holds receipt
    · simp [refused, Receipt.refuse] at spent
    · simpa [refused] using spent

theorem edits_id : Edits id := ⟨Receipt.Follows.refl, fun _ => id⟩

theorem edits_refuseExpired (now : String) : Edits fun receipt =>
    if receipt.state = .pending ∧ receipt.expiresAt ≤ now then receipt.refuse now deadlinePassed
    else receipt :=
  edits_refuse (fun receipt due joined => by simp [joined] at due) now fun _ => deadlinePassed

section

theorem empty_le (text : String) : "" ≤ text :=
  fun before => List.not_lt_nil text.toList before

theorem live_expiresAt_ne_empty {receipts : List Receipt} {now : String} {receipt : Receipt}
    (live : receipt ∈ refuseExpired receipts now) (waits : receipt.state = .pending) :
    receipt.expiresAt ≠ "" := by
  -- An empty deadline has come at any moment, so the receipt would have been refused.
  intro empty
  obtain ⟨before, -, rfl⟩ := List.mem_map.mp live
  by_cases due : before.state = .pending ∧ before.expiresAt ≤ now
  · simp [due, Receipt.refuse] at waits
  · rw [if_neg due] at waits empty
    exact due ⟨waits, empty ▸ empty_le now⟩

theorem insertReceipt_ok {receipts inserted : List Receipt} {receipt : Receipt}
    (done : insertReceipt receipts receipt = .ok inserted) :
    inserted = receipts ++ [receipt] ∧ (∀ other ∈ receipts, other.requestId ≠ receipt.requestId) ∧
      (receipt.state = .pending →
        ∀ other ∈ receipts, other.state = .pending → other.headSha ≠ receipt.headSha) := by
  unfold insertReceipt at done
  split at done
  · cases done
  · rename_i new
    split at done
    · cases done
    · rename_i alone
      simp only [List.any_eq_true, decide_eq_true_eq, not_exists, not_and] at new
      simp only [Bool.and_eq_true, List.any_eq_true, decide_eq_true_eq, not_exists, not_and]
        at alone
      cases done
      exact ⟨rfl, new, fun waits other listed pending => alone waits other listed pending⟩

variable [JsDate]

theorem record_writes {receipts recorded : List Receipt} {request : ExplicitReviewRequest}
    {headSha requestedAt : String} {maxWaitSeconds : Rat} {intent : Option Receipt}
    (done : recordExplicitReviewIntent receipts request headSha requestedAt maxWaitSeconds =
      .ok (intent, recorded)) :
    ∃ receipt, recorded = refuseExpired receipts requestedAt ++ [receipt] ∧
      receipt.Joins (refuseExpired receipts requestedAt) := by
  -- The deadline is computed, then the receipt is inserted; either may throw.
  cases due : receiptDeadline requestedAt maxWaitSeconds with
  | error message => simp [recordExplicitReviewIntent, due, bind, Except.bind] at done
  | ok deadline =>
    simp only [recordExplicitReviewIntent, due, bind, Except.bind, pure, Except.pure] at done
    generalize found : (refuseExpired receipts requestedAt).find? (fun receipt =>
      receipt.headSha = headSha && receipt.state = .pending) = existing at done
    cases inserted : insertReceipt (refuseExpired receipts requestedAt)
        (newReceipt existing request headSha requestedAt deadline) with
    | error message => simp [inserted] at done
    | ok rows =>
      simp only [inserted, Except.ok.injEq, Prod.mk.injEq] at done
      obtain ⟨-, rfl⟩ := done
      obtain ⟨appended, new, alone⟩ := insertReceipt_ok inserted
      refine ⟨_, appended, new, ?_, alone, ?_⟩
      · simp only [newReceipt]
        split <;> exact fun spent => nomatch spent
      · -- It joins a receipt only where one was found pending at the head.
        intro joined
        cases existing with
        | none => simp [newReceipt] at joined
        | some named =>
          have listed := List.mem_of_find?_eq_some found
          have chosen := List.find?_some found
          simp only [Bool.and_eq_true, decide_eq_true_eq] at chosen
          have deadline := live_expiresAt_ne_empty listed chosen.2
          exact ⟨named, listed, chosen.2, rfl, by simp [newReceipt, Option.filter, deadline]⟩

end

section

variable [JsDate]

structure Advance (store : ReceiptStore) (step : ReceiptStep) (after : List Receipt) where
  edit : Receipt → Receipt
  fresh : List Receipt
  receipts : after = store.receipts.map edit ++ fresh
  follows : ∀ receipt : Receipt, receipt.Follows (edit receipt)
  spends : ∀ receipt, (edit receipt).state = .consumed →
    receipt.state = .consumed ∨ Granted store step receipt
  joins : ∀ receipt ∈ fresh, fresh = [receipt] ∧ receipt.Joins (store.receipts.map edit)

def Advance.ofEdits {store : ReceiptStore} {step : ReceiptStep} {edit : Receipt → Receipt}
    (edits : Edits edit) : Advance store step (store.receipts.map edit) where
  edit := edit
  fresh := []
  receipts := by simp
  follows := edits.follows
  spends receipt spent := .inl (edits.unspent receipt spent)
  joins _ listed := absurd listed List.not_mem_nil

theorem Advance.unchanged (store : ReceiptStore) (step : ReceiptStep) :
    Nonempty (Advance store step store.receipts) := by
  have same : Nonempty (Advance store step (store.receipts.map id)) := ⟨.ofEdits edits_id⟩
  rwa [List.map_id] at same

variable {call : RereviewCall} {result : RereviewResult} {store committed : ReceiptStore}

theorem requestRow_advances (step : ReceiptStep)
    (done : requestRow store call = .ok (result, committed))
    : Nonempty (Advance store step committed.receipts) := by
  -- Whichever row the request left, its receipts are those of the store.
  have accepted (row : ReviewRow) (told : RereviewResult)
      (done : acceptExplicitRequest { store with row := some row } call told =
        .ok (result, committed)) : Nonempty (Advance store step committed.receipts) := by
    unfold acceptExplicitRequest at done
    cases explicit : call.explicitReviewRequest with
    | none =>
      simp only [explicit, Except.ok.injEq, Prod.mk.injEq] at done
      obtain ⟨-, rfl⟩ := done
      exact Advance.unchanged store step
    | some request =>
      simp only [explicit] at done
      cases recorded : recordExplicitReviewIntent store.receipts request
          (call.normalizedTargetRevisionRef.getD "") call.requestedAt
          call.reviewMaxWaitSeconds with
      | error message => simp [recorded, bind, Except.bind] at done
      | ok written =>
        obtain ⟨intent, receipts⟩ := written
        simp only [recorded, bind, Except.bind, pure, Except.pure, Except.ok.injEq,
          Prod.mk.injEq] at done
        obtain ⟨-, rfl⟩ := done
        obtain ⟨receipt, rows, joins⟩ := record_writes recorded
        exact ⟨{
          edit := _
          fresh := [receipt]
          receipts := rows
          follows := (edits_refuseExpired call.requestedAt).follows
          spends := fun other spent =>
            .inl ((edits_refuseExpired call.requestedAt).unspent other spent)
          joins := fun other listed => by
            rw [List.mem_singleton.mp listed]
            exact ⟨rfl, joins⟩ }⟩
  unfold requestRow at done
  split at done
  · simp only [Except.ok.injEq, Prod.mk.injEq] at done
    obtain ⟨-, rfl⟩ := done
    exact Advance.unchanged store step
  · exact accepted _ _ done
  · exact accepted _ _ done

theorem requestReviewRereview_replay {request : ExplicitReviewRequest}
    (explicit : call.explicitReviewRequest = some request)
    (known : (findExplicitReviewRequest store.receipts request.requestId).isSome = true)
    (done : requestReviewRereview store call = .ok (result, committed)) : committed = store := by
  obtain ⟨receipt, found⟩ := Option.isSome_iff_exists.mp known
  simp only [requestReviewRereview, explicit, found] at done
  split at done
  · cases done
  · split at done
    · simp only [Except.ok.injEq, Prod.mk.injEq] at done
      exact done.2.symm
    · cases told : replayed store call request receipt with
      | error message => simp [told, bind, Except.bind] at done
      | ok answer =>
        simp only [told, bind, Except.bind, pure, Except.pure, Except.ok.injEq,
          Prod.mk.injEq] at done
        exact done.2.symm

theorem requestReviewRereview_advances (step : ReceiptStep)
    (done : requestReviewRereview store call = .ok (result, committed)) :
    Nonempty (Advance store step committed.receipts) := by
  -- Past the checks, only the request on the row writes.
  have same (unwritten : committed = store) : Nonempty (Advance store step committed.receipts) := by
    rw [unwritten]
    exact Advance.unchanged store step
  cases explicit : call.explicitReviewRequest with
  | none =>
    simp only [requestReviewRereview, explicit] at done
    split at done
    · cases done
    · exact requestRow_advances step done
  | some request =>
    cases known : findExplicitReviewRequest store.receipts request.requestId with
    | some receipt => exact same (requestReviewRereview_replay explicit (by simp [known]) done)
    | none =>
      simp only [requestReviewRereview, explicit, known] at done
      split at done
      · cases done
      · split at done
        · simp only [Except.ok.injEq, Prod.mk.injEq] at done
          exact same done.2.symm
        · exact requestRow_advances step done

omit [JsDate] in
theorem edits_update {holds : Receipt → Bool} {edit : Receipt → Receipt} (requestId : String)
    (follows : ∀ receipt : Receipt, holds receipt = true → receipt.Follows (edit receipt))
    (unspent : ∀ receipt : Receipt, (edit receipt).state = .consumed → receipt.state = .consumed) :
    Edits fun receipt => if receipt.requestId = requestId && holds receipt then edit receipt
      else receipt where
  follows receipt := by
    split
    · rename_i chosen
      exact follows receipt (by simp_all)
    · exact .refl receipt
  unspent receipt := by
    split
    · exact unspent receipt
    · exact id

omit [JsDate] in
theorem edits_reconcile (headSha : Option String) (terminal : Bool) (now : String) :
    ∃ edit, Edits edit ∧ ∀ receipts : List Receipt,
      reconcileExplicitReviewIntents receipts headSha terminal now = receipts.map edit :=
  ⟨_, @edits_refuse (fun receipt => receipt.state = .pending ∧
      (terminal = true ∨ headSha.any (receipt.headSha ≠ ·) = true ∨ receipt.expiresAt ≤ now)) _
    (fun receipt due joined => by simp [joined] at due) now _, fun receipts => rfl⟩

omit [JsDate] in
theorem sqlEq_some {α : Type} [DecidableEq α] {first second : Option α}
    (same : sqlEq first second = true) : ∃ value, first = some value ∧ second = some value := by
  simp only [sqlEq, Bool.and_eq_true, decide_eq_true_eq] at same
  obtain ⟨value, found⟩ := Option.isSome_iff_exists.mp same.1
  exact ⟨value, found, same.2 ▸ found⟩

theorem granted_of_selected {store : ReceiptStore} {step : ReceiptStep} {intent receipt : Receipt}
    {headSha sessionUuid : Option String} {now : String}
    (consumes : step = .consumeExplicitReviewIntent intent headSha sessionUuid now)
    (selected : (decide (receipt.requestId = intent.requestId) &&
      (sqlEq (some receipt.headSha) headSha && decide (receipt.state = .pending) &&
        decide (now < receipt.expiresAt) && holdsReviewing store.row sessionUuid headSha)) = true) :
    Granted store step receipt := by
  simp only [Bool.and_eq_true, decide_eq_true_eq] at selected
  obtain ⟨named, ⟨⟨atHead, waits⟩, inTime⟩, held⟩ := selected
  obtain ⟨head, same, rfl⟩ := sqlEq_some atHead
  cases same
  obtain ⟨row, found, held⟩ := (Option.any_eq_true _ _).mp held
  simp only [Bool.and_eq_true, decide_eq_true_eq] at held
  obtain ⟨⟨reviewing, own⟩, onHead⟩ := held
  obtain ⟨session, holder, rfl⟩ := sqlEq_some own
  obtain ⟨head, reviewed, same⟩ := sqlEq_some onHead
  cases same
  exact ⟨intent, session, now, row, consumes, named.symm, waits, inTime, found, reviewing, holder,
    reviewed⟩

theorem perform_advances (store : ReceiptStore) (step : ReceiptStep) :
    Nonempty (Advance store step (store.perform step).receipts) := by
  cases step with
  | requestReviewRereview call =>
    simp only [ReceiptStore.perform]
    split
    · rename_i done
      exact requestReviewRereview_advances _ done
    · exact Advance.unchanged store _
  | consumeExplicitReviewIntent intent headSha sessionUuid now =>
    refine ⟨{
      edit := _
      fresh := []
      receipts := (List.append_nil _).symm
      follows := ?_
      spends := ?_
      joins := fun _ listed => absurd listed List.not_mem_nil }⟩
    · intro receipt
      simp only
      split
      · rename_i chosen
        simp only [Bool.and_eq_true, decide_eq_true_eq] at chosen
        exact ⟨rfl, rfl, rfl, (nomatch ·), ⟨(nomatch ·), fun joined => by simp [joined] at chosen⟩,
          fun _ => rfl⟩
      · exact .refl receipt
    · intro receipt spent
      simp only at spent
      split at spent
      · rename_i chosen
        -- The condition of the statement is what grants the receipt.
        exact .inr (granted_of_selected rfl chosen)
      · exact .inl spent
  | refuseFailedExplicitReviewDispatch intent sessionUuid now =>
    refine ⟨Advance.ofEdits (edits_update _ ?_ ?_)⟩
    · intro receipt chosen
      simp only [Bool.and_eq_true, decide_eq_true_eq] at chosen
      exact .refuse (by simp [chosen]) _ _
    · exact fun receipt spent => nomatch spent
  | settleExplicitReviewIntent intent reason now =>
    refine ⟨Advance.ofEdits (edits_update _ ?_ ?_)⟩
    · intro receipt chosen
      exact .refuse (by simp_all) _ _
    · exact fun receipt spent => nomatch spent
  | reconcileExplicitReviewIntents headSha terminal now =>
    obtain ⟨edit, edits, rows⟩ := edits_reconcile headSha terminal now
    simp only [ReceiptStore.perform, rows]
    exact ⟨Advance.ofEdits edits⟩
  | markNotified intent now =>
    refine ⟨Advance.ofEdits (edits_update _ ?_ ?_)⟩
    · exact fun receipt chosen => ⟨rfl, rfl, rfl, id, Iff.rfl, fun _ => rfl⟩
    · exact fun receipt spent => spent
  | writeRow row => exact Advance.unchanged store _

end

section

def PendingApart (first second : Receipt) : Prop :=
  first.state = .pending → second.state = .pending → first.headSha ≠ second.headSha

instance : Std.Symm PendingApart where
  symm _ _ apart two one := (apart one two).symm

/-- The receipts of a pull request as they stand between two statements. -/
structure Books (receipts : List Receipt) : Prop where
  distinct : (receipts.map (·.requestId)).Nodup
  onePending : receipts.Pairwise PendingApart
  named : ∀ receipt ∈ receipts, receipt.state = .coalesced → ∃ named ∈ receipts,
    receipt.reason = some ("coalesced:" ++ named.requestId) ∧ named.state ≠ .coalesced ∧
      receipt.expiresAt = named.expiresAt

theorem books_nil : Books [] where
  distinct := List.nodup_nil
  onePending := .nil
  named _ listed := absurd listed List.not_mem_nil

theorem Books.map {receipts : List Receipt} (books : Books receipts) {edit : Receipt → Receipt}
    (follows : ∀ receipt : Receipt, receipt.Follows (edit receipt)) :
    Books (receipts.map edit) where
  distinct := by
    have same : (receipts.map edit).map (·.requestId) = receipts.map (·.requestId) := by
      rw [List.map_map]
      exact List.map_congr_left fun receipt _ => (follows receipt).requestId
    rw [same]
    exact books.distinct
  onePending := by
    rw [List.pairwise_map]
    refine books.onePending.imp ?_
    intro first second apart one two
    rw [(follows first).headSha, (follows second).headSha]
    exact apart ((follows first).pending one) ((follows second).pending two)
  named receipt listed joined := by
    obtain ⟨before, was, rfl⟩ := List.mem_map.mp listed
    have coalesced := (follows before).coalesced.mp joined
    obtain ⟨named, there, reason, alone, deadline⟩ := books.named before was coalesced
    refine ⟨edit named, List.mem_map_of_mem there, ?_, ?_, ?_⟩
    · rw [(follows before).reason coalesced, reason, (follows named).requestId]
    · exact fun joined => alone ((follows named).coalesced.mp joined)
    · rw [(follows before).expiresAt, deadline, (follows named).expiresAt]

theorem Books.append {receipts : List Receipt} (books : Books receipts) {receipt : Receipt}
    (joins : receipt.Joins receipts) : Books (receipts ++ [receipt]) where
  distinct := Table.nodup_insert books.distinct joins.new
  onePending := by
    refine List.pairwise_append.mpr ⟨books.onePending, List.pairwise_singleton _ _, ?_⟩
    intro other listed second inserted one two
    rw [List.mem_singleton.mp inserted] at two ⊢
    exact joins.pending two other listed one
  named other listed joined := by
    rcases List.mem_append.mp listed with old | new
    · obtain ⟨named, there, rest⟩ := books.named other old joined
      exact ⟨named, List.mem_append_left _ there, rest⟩
    · rw [List.mem_singleton.mp new] at joined ⊢
      obtain ⟨named, there, waits, reason, deadline⟩ := joins.coalesced joined
      exact ⟨named, List.mem_append_left _ there, reason, by simp [waits], deadline⟩

variable [JsDate]

theorem books_perform {store : ReceiptStore} (books : Books store.receipts) (step : ReceiptStep) :
    Books (store.perform step).receipts := by
  obtain ⟨advance⟩ := perform_advances store step
  have kept := books.map advance.follows
  rw [advance.receipts]
  -- At most one receipt is new, and it joins what the others became.
  match fresh : advance.fresh with
  | [] => simpa using kept
  | receipt :: rest =>
    obtain ⟨only, joins⟩ := advance.joins receipt (by simp [fresh])
    rw [← fresh, only]
    exact kept.append joins

theorem books_run {store : ReceiptStore} (books : Books store.receipts)
    (steps : List ReceiptStep) : Books (store.run steps).receipts := by
  induction steps generalizing store with
  | nil => exact books
  | cons step steps ih => exact ih (books_perform books step)

end

section

variable [JsDate]

variable {receipt : Receipt} {store : ReceiptStore}

theorem follows_perform (listed : receipt ∈ store.receipts) (step : ReceiptStep) :
    ∃ after ∈ (store.perform step).receipts, receipt.Follows after := by
  obtain ⟨edit, fresh, rows, follows, -, -⟩ := perform_advances store step
  refine ⟨edit receipt, ?_, follows receipt⟩
  rw [rows]
  exact List.mem_append_left _ (List.mem_map_of_mem listed)

theorem follows_run (listed : receipt ∈ store.receipts) (steps : List ReceiptStep) :
    ∃ after ∈ (store.run steps).receipts, receipt.Follows after := by
  induction steps generalizing store receipt with
  | nil => exact ⟨receipt, listed, .refl receipt⟩
  | cons step steps ih =>
    obtain ⟨next, there, first⟩ := follows_perform listed step
    obtain ⟨last, later, second⟩ := ih there
    exact ⟨last, later, first.trans second⟩

theorem granted_of_consumed {step : ReceiptStep} {requestId : String}
    (consumed : requestId ∈ store.consumed step) :
    ∃ receipt ∈ store.receipts, receipt.requestId = requestId ∧ Granted store step receipt := by
  obtain ⟨after, listed, rfl⟩ := List.mem_map.mp consumed
  obtain ⟨there, spent⟩ := List.mem_filter.mp listed
  simp only [Bool.and_eq_true, decide_eq_true_eq, Bool.not_eq_true', ReceiptStore.spent,
    List.any_eq_false, not_and] at spent
  obtain ⟨advance⟩ := perform_advances store step
  rw [advance.receipts] at there
  rcases List.mem_append.mp there with old | new
  · obtain ⟨before, was, rfl⟩ := List.mem_map.mp old
    have same := (advance.follows before).requestId
    rcases advance.spends before spent.1 with already | granted
    · exact absurd already (spent.2 before was same.symm)
    · exact ⟨before, was, same.symm, granted⟩
  · -- A new receipt is never a consumed one.
    exact absurd spent.1 (advance.joins after new).2.unspent

theorem not_consumed_of_left (books : Books store.receipts)
    (listed : receipt ∈ store.receipts) (left : receipt.state ≠ .pending)
    (steps : List ReceiptStep) : receipt.requestId ∉ store.consumptions steps := by
  induction steps generalizing store receipt with
  | nil => exact List.not_mem_nil
  | cons step steps ih =>
    intro consumed
    rcases List.mem_append.mp consumed with now | later
    · -- What is consumed now is pending, and no other receipt has its id.
      obtain ⟨other, there, same, -, -, -, -, -, -, waits, -⟩ := granted_of_consumed now
      have equal := List.inj_on_of_nodup_map books.distinct there listed same
      exact left (equal ▸ waits)
    · obtain ⟨after, there, follows⟩ := follows_perform listed step
      rw [← follows.requestId] at later
      exact ih (books_perform books step) there (fun waits => left (follows.pending waits)) later

theorem consumed_nodup (books : Books store.receipts)
    (step : ReceiptStep) : (store.consumed step).Nodup :=
  ((books_perform books step).distinct).sublist (List.filter_sublist.map _)

theorem consumptions_nodup (books : Books store.receipts)
    (steps : List ReceiptStep) : (store.consumptions steps).Nodup := by
  induction steps generalizing store with
  | nil => exact List.nodup_nil
  | cons step steps ih =>
    have kept := books_perform books step
    refine List.nodup_append.mpr ⟨consumed_nodup books step, ih kept, ?_⟩
    rintro requestId now other later rfl
    -- After this step the receipt is consumed, so it has left `pending` for good.
    obtain ⟨after, listed, rfl⟩ := List.mem_map.mp now
    obtain ⟨there, spent⟩ := List.mem_filter.mp listed
    simp only [Bool.and_eq_true, decide_eq_true_eq] at spent
    exact not_consumed_of_left kept there (by simp [spent.1]) steps later

theorem perform_replay {call : RereviewCall}
    {request : ExplicitReviewRequest} (explicit : call.explicitReviewRequest = some request)
    (known : (findExplicitReviewRequest store.receipts request.requestId).isSome = true) :
    store.perform (.requestReviewRereview call) = store := by
  simp only [ReceiptStore.perform]
  split
  · rename_i done
    exact requestReviewRereview_replay explicit known done
  · rfl

end

section

variable [JsDate]

/-- However its statements are ordered, an explicit request is granted at most once. -/
theorem explicit_request_granted_once (row : Option ReviewRow) (steps : List ReceiptStep) :
    let start : ReceiptStore := { row := row }
    let store := start.run steps
    (store.receipts.map (·.requestId)).Nodup ∧
    (∀ headSha, (store.receipts.filter fun receipt =>
      receipt.state = .pending && receipt.headSha = headSha).length ≤ 1) ∧
    (start.consumptions steps).Nodup ∧
    (∀ step, ∀ requestId ∈ store.consumed step,
      ∃ receipt ∈ store.receipts, receipt.requestId = requestId ∧ Granted store step receipt) ∧
    (∀ receipt ∈ store.receipts, ∀ later, ∃ after ∈ (store.run later).receipts,
      after.requestId = receipt.requestId ∧ after.expiresAt = receipt.expiresAt ∧
        (after.state = .pending → receipt.state = .pending)) ∧
    (∀ receipt ∈ store.receipts, receipt.state = .coalesced → ∃ named ∈ store.receipts,
      receipt.reason = some ("coalesced:" ++ named.requestId) ∧ named.state ≠ .coalesced ∧
        receipt.expiresAt ≤ named.expiresAt) ∧
    (∀ call request, call.explicitReviewRequest = some request →
      (findExplicitReviewRequest store.receipts request.requestId).isSome = true →
        store.perform (.requestReviewRereview call) = store) := by
  intro start store
  have opening : Books start.receipts := books_nil
  have books : Books store.receipts := books_run opening steps
  refine ⟨books.distinct, ?_, consumptions_nodup opening steps, ?_, ?_, ?_, ?_⟩
  · intro headSha
    refine Table.length_filter_le_one books.distinct ?_
    intro first one second two waits waiting
    simp only [Bool.and_eq_true, decide_eq_true_eq] at waits waiting
    by_contra apart
    exact books.onePending.forall one two apart waits.1 waiting.1 (waits.2.trans waiting.2.symm)
  · exact fun step requestId consumed => granted_of_consumed consumed
  · intro receipt listed later
    obtain ⟨after, there, follows⟩ := follows_run listed later
    exact ⟨after, there, follows.requestId, follows.expiresAt, follows.pending⟩
  · intro receipt listed joined
    obtain ⟨named, there, reason, alone, deadline⟩ := books.named receipt listed joined
    exact ⟨named, there, reason, alone, deadline ▸ String.le_refl _⟩
  · exact fun call request explicit known => perform_replay explicit known

end

end AdversarialReview.ReviewState
