import AdversarialReview.Ama.HammerLedger
import AdversarialReview.Library.JsDate

/-! The document of a hammer ledger as its file has it, and what the cap reads from it. -/

namespace AdversarialReview.Ama.LedgerDocument

open Json

/-- The numbers of texts, lists and objects; converting an object may throw. -/
class JsNumeric where
  number : Json → Except String JsDouble
  number_le {value : Json} {count : Rat} :
    number value = .ok (.finite count) → |count| ≤ JsDouble.largest

inductive LedgerFile where
  | absent
  | unreadable (code : String)
  /-- The parsed content, absent where it is no JSON; a number beyond the largest double stands
  for an infinite one. -/
  | content (parsed : Option Json)

/-- The ledger that stands for a file that cannot be read or parsed: every stop is stated. -/
def corruptLedgerSentinel (reason : String) : Json :=
  .obj [("__corrupt", .bool true), ("corruptReason", .str reason), ("suppressed", .bool true),
    ("attemptCount", .num hammerRetryCapTotalDispatches), ("lifetimeSuppressed", .bool true),
    ("lifetimeAttemptCount", .num hammerRetryCapLifetimeTotalDispatches), ("jobKey", .null)]

def readHammerRetryCapLedger : LedgerFile → Json
  | .absent => .null
  | .unreadable code => corruptLedgerSentinel ("read:" ++ code)
  | .content none => corruptLedgerSentinel "parse"
  | .content (some document) => document

def trunc (value : Rat) : Int :=
  value.num.tdiv value.den

/-- No less than zero; what is no number stays none. -/
def atLeastZero : JsDouble → JsDouble
  | .finite value => .finite (max 0 value)
  | .infinite true => .finite 0
  | other => other

def exceeds : JsDouble → Rat → Bool
  | .finite value, bound => bound < value
  | .infinite negative, _ => !negative
  | .nan, _ => false

def plusOne (count : JsDouble) : JsDouble :=
  count.add (.finite 1)

def normalizeHammerLifetimeDispatchCeiling : JsDouble → Int
  | .finite value =>
    if 0 ≤ trunc value then trunc value else hammerRetryCapLifetimeTotalDispatches
  | _ => hammerRetryCapLifetimeTotalDispatches

def isSafeInteger : Option Json → Bool
  | some (.num value) => value.den = 1 && value.num.natAbs ≤ 9007199254740991
  | _ => false

def isCount (value : Option Json) : Bool :=
  isSafeInteger value && (finite value).any fun count => 0 ≤ count

section

variable [JsText] [JsNumeric] [JsDate]

def literal (value : Rat) : JsDouble :=
  if JsDouble.largest < |value| then .infinite (value < 0) else .finite value

def toNumber : Option Json → Except String JsDouble
  | none => .ok .nan
  | some .null => .ok (.finite 0)
  | some (.bool value) => .ok (.finite (if value then 1 else 0))
  | some (.num value) => .ok (literal value)
  | some value => JsNumeric.number value

def normalizeKey (value : Option Json) : Except String (Option String) := do
  let trimmed := jsTrim (← nullishText value)
  return if trimmed = "" then none else some trimmed

def dateParse (value : Option Json) : Except String (Option Int) := do
  match value with
  | none => return JsDate.parse "undefined"
  | some .null => return JsDate.parse "null"
  | value => return JsDate.parse (← nullishText value)

def memberInstant (document : Option Json) (key : String) : Except String (Option Int) :=
  dateParse (orTruthy (member document key) (some (.str "")))

def sanitizeLifetimeCount (rawValue : Option Json) (ceiling : Int) : Except String Int := do
  match rawValue with
  | none | some .null => return 0
  | rawValue =>
    match ← toNumber rawValue with
    | .finite value => return max 0 (trunc value)
    | _ => return ceiling

/-- The count over all series; an older document has only the series' own. -/
def lifetimeCount (document : Json) : Option Json :=
  orElse (document.get? "lifetimeAttemptCount") (document.get? "attemptCount")

def chargeEntries (document : Json) : Option (List (String × Json)) :=
  match document.get? "dispatchCharges" with
  | some (.obj charges) => some charges
  | _ => none

def provenCharge (charge : Json) (launches : List String) :
    Except String (Option (String × Int)) := do
  let charged := charge.get? "chargedAt"
  let at_ ← memberInstant (some charge) "chargedAt"
  let launch ← normalizeKey (charge.get? "launchRequestId")
  match launch, at_, charged with
  | some launch, some instant, some (.str _) =>
    if launches.contains launch then return none
    if (finite (charge.get? "consumerVersion") ≠ some 1) ||
        (finite (charge.get? "attempt") ≠ some 1) then return none
    if (← normalizeKey (charge.get? "jobKey")).isNone then return none
    if (← normalizeKey (charge.get? "headSha")).isNone then return none
    match charge.get? "refundedBudgets" with
    | some (.obj budgets) =>
      match (Json.obj budgets).get? "lifetime" with
      | none | some (.bool _) => return some (launch, instant)
      | _ => return none
    | _ => return none
  | _, _, _ => return none

def lifetimeRefunded (charge : Json) : Bool :=
  isBool (member (charge.get? "refundedBudgets") "lifetime") true

def chargesFold : List Json → List String → Rat → Option Int →
    Except String (Option (Rat × Option Int))
  | [], _, count, latest => return some (count, latest)
  | charge :: rest, launches, count, latest => do
    match ← provenCharge charge launches with
    | none => return none
    | some (launch, instant) =>
      chargesFold rest (launches ++ [launch]) (if lifetimeRefunded charge then count else count + 1)
        (some (max (latest.getD instant) instant))

/-- When the lifetime budget was spent, as far as complete charges prove it. -/
def lifetimeChargeTime (document : Json) (ceiling : Int) : Except String (Option Int) := do
  if Json.truthy (document.get? "__corrupt") || ceiling ≤ 0 ||
      !Json.truthy (document.get? "lifetimeSuppressed") ||
      !isSafeInteger (document.get? "lifetimeAttemptCount") ||
      !((finite (document.get? "lifetimeAttemptCount")).any fun count => (ceiling : Rat) ≤ count)
  then return none
  match chargeEntries document with
  | none => return none
  | some charges =>
    match ← chargesFold (charges.map Prod.snd) [] 0 none with
    | none => return none
    | some (count, latest) =>
      return if finite (document.get? "lifetimeAttemptCount") = some count then latest else none

def spreadMembers : Option Json → List (String × Json)
  | some (.obj members) => members
  | some (.arr items) => items.zipIdx.map fun item => (toString item.2, item.1)
  | some (.str text) =>
    text.toList.zipIdx.map fun char => (toString char.2, .str (String.singleton char.1))
  | _ => []

def entryOf (value : Option Json) (key : String) : Option Json :=
  ((spreadMembers value).find? fun entry => entry.1 = key).map Prod.snd

def operatorApprovalApplied (document : Json) (jobKey headSha : Option String)
    (jobKeyChanged : Bool) (ceiling : Int) : Except String Bool := do
  match jobKey, headSha with
  | some key, some head =>
    let approval := entryOf (document.get? "operatorApprovalRearms") head
    if !Json.truthy (document.get? "__corrupt") && 0 < ceiling && !jobKeyChanged &&
        isText (document.get? "lastDispatchedHeadSha") head &&
        isText (member approval "state") "pending" &&
        isText (member approval "reason") "operator-approval-applied" &&
        isText (member approval "jobKey") key then
      let granted ← dateParse (member approval "grantedAt")
      return granted.isSome && isCount (document.get? "attemptCount") &&
        isCount (lifetimeCount document) &&
        isCount (orElse (document.get? "targetAttemptCount") (some (.num 0)))
    else return false
  | _, _ => return false

structure CapDecision where
  recordedAt : Option Int
  operatorApprovalApplied : Bool
  jobKeyChanged : Bool
  priorAttemptCount : JsDouble
  nextAttemptCount : JsDouble
  priorLifetimeCount : Int
  nextLifetimeCount : JsDouble
  priorTargetAttemptCount : JsDouble
  nextTargetAttemptCount : JsDouble
  lifetimeDispatchCeiling : Int
  alreadySuppressed : Bool
  lifetimeAlreadySuppressed : Bool
  lifetimeCapExhausted : Bool
  targetShaChanged : Bool
  targetAlreadySuppressed : Bool
  targetRedriveCapExhausted : Bool
  capExhausted : Bool
  seriesAlertAlreadyEmitted : Bool
  lifetimeAlertAlreadyEmitted : Bool
  targetAlertAlreadyEmitted : Bool
  resetFromJobKey : Option String
  headSha : Option String

/-- The latest of some instants, if all of them are known. -/
def latestOf (times : List (Option Int)) : Option Int :=
  if times.isEmpty then none
  else (times.foldl (fun latest time => do
    let latest ← latest
    let time ← time
    pure (some (latest.elim time (max time)))) (some none)).join

/-- When the present stop was recorded. -/
def recordedAt (document : Json) (ceiling : Int) (suppressed targetSuppressed : Bool) :
    Except String (Option Int) := do
  let charged ← lifetimeChargeTime document ceiling
  let series ← match charged with
    | some instant => pure [some instant]
    | none => if suppressed then do pure [← memberInstant (some document) "alertedAt"] else pure []
  let target ← if targetSuppressed then do pure [← memberInstant (some document) "targetAlertedAt"]
    else pure []
  return latestOf (series ++ target)

def priorCount (document : Json) (anew : Bool) (value : Option Json) : Except String JsDouble :=
  if !Json.truthy (some document) || anew then .ok (.finite 0)
  else (toNumber value).map atLeastZero

def targetCount (document : Json) (ledgerTargetSha : Option String) : Option Json :=
  if ledgerTargetSha.isSome then orElse (document.get? "targetAttemptCount") (some (.num 0))
  else some (.num 0)

def evaluateHammerRetryCap (document : Json) (jobKey headSha : Option String)
    (lifetimeDispatchCeiling : JsDouble) : Except String CapDecision := do
  let lifetimeCeiling := normalizeHammerLifetimeDispatchCeiling lifetimeDispatchCeiling
  let incomingJobKey := Ama.normalizeKey jobKey
  let ledgerJobKey ← normalizeKey (document.get? "jobKey")
  let jobKeyChanged := keyChanged ledgerJobKey incomingJobKey
  let priorAttemptCount ← priorCount document jobKeyChanged
    (orTruthy (document.get? "attemptCount") (some (.num 0)))
  let alreadySuppressed := Json.truthy (document.get? "suppressed") && !jobKeyChanged
  let priorLifetimeCount ← sanitizeLifetimeCount (lifetimeCount document) lifetimeCeiling
  let lifetimeAlreadySuppressed := Json.truthy (document.get? "lifetimeSuppressed")
  let lifetimeCapExhausted := lifetimeAlreadySuppressed ||
    exceeds (plusOne (.finite priorLifetimeCount)) lifetimeCeiling
  let incomingTargetSha := Ama.normalizeKey headSha
  let ledgerTargetSha ← normalizeKey (document.get? "targetRemediationSha")
  let targetShaChanged := keyChanged ledgerTargetSha incomingTargetSha
  let priorTargetAttemptCount ← priorCount document targetShaChanged
    (targetCount document ledgerTargetSha)
  let targetAlreadySuppressed := Json.truthy (document.get? "targetSuppressed") && !targetShaChanged
  let targetRedriveCapExhausted := targetAlreadySuppressed ||
    exceeds (plusOne priorTargetAttemptCount) hammerRetryCapTotalDispatches
  let capExhausted := alreadySuppressed ||
    exceeds (plusOne priorAttemptCount) hammerRetryCapTotalDispatches ||
    targetRedriveCapExhausted || lifetimeCapExhausted
  let approved ← operatorApprovalApplied document incomingJobKey incomingTargetSha jobKeyChanged
    lifetimeCeiling
  let recorded ← recordedAt document lifetimeCeiling
    (alreadySuppressed || lifetimeAlreadySuppressed) targetAlreadySuppressed
  let alerted := Json.truthy (document.get? "alertedAt")
  return {
    recordedAt := recorded
    operatorApprovalApplied := approved
    jobKeyChanged, priorAttemptCount, priorLifetimeCount, priorTargetAttemptCount
    nextAttemptCount := plusOne priorAttemptCount
    nextLifetimeCount := plusOne (.finite priorLifetimeCount)
    nextTargetAttemptCount := plusOne priorTargetAttemptCount
    lifetimeDispatchCeiling := lifetimeCeiling
    alreadySuppressed, lifetimeAlreadySuppressed
    lifetimeCapExhausted := !approved && lifetimeCapExhausted
    targetShaChanged, targetAlreadySuppressed, targetRedriveCapExhausted
    capExhausted := !approved && capExhausted
    seriesAlertAlreadyEmitted := alreadySuppressed && alerted
    lifetimeAlertAlreadyEmitted := lifetimeAlreadySuppressed && alerted
    targetAlertAlreadyEmitted :=
      targetAlreadySuppressed && Json.truthy (document.get? "targetAlertedAt")
    resetFromJobKey := if jobKeyChanged then ledgerJobKey else none
    headSha := incomingTargetSha }

end

end AdversarialReview.Ama.LedgerDocument
