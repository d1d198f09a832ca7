import AdversarialReview.Library.JsDate
import AdversarialReview.Library.JsNumber

/-! The rate-limit windows of the GitHub budgets, merged over runs of readings: when a reported
exhaustion holds until its end. -/

namespace AdversarialReview.Throttle

open Json

def defaultResource : String := "core"

def parseInt (text : String) : Option Int :=
  let trimmed := text.toList.dropWhile jsSpace
  let negative := trimmed.head? = some '-'
  let digits := (if negative ∨ trimmed.head? = some '+' then trimmed.tail else trimmed).takeWhile
    (·.isDigit)
  match digits with
  | [] => none
  | digits =>
    -- A run of digits too long for a finite double is no integer.
    match JsDouble.round ((JsDate.digits? digits).getD 0 : Int) with
    | .finite value => some (if negative then -value.floor else value.floor)
    | _ => none

/-- A reading of one budget; its times are the instants their canonical texts stand for. -/
structure Observation where
  resource : String
  credential : Option Json := none
  credentialSelector : Option Json := none
  remaining : Nat
  limit : Option Nat := none
  resetAt : Int
  observedAt : Int
  rateLimitedCalls : Option Rat := none
  resetUnknown : Bool := false
  /-- Only the end of an exhaustion is ever a guess. -/
  guessed : resetUnknown = true → remaining = 0

section

variable [JsDate] [JsText]

def instant (ms : Rat) : Except String Int :=
  let clipped := ms.num.tdiv ms.den
  if (JsDate.toISOString clipped).isSome then .ok clipped else .error "Invalid time value"

def epoch (value : Rat) : Rat :=
  if value < 1000000000000 then value * 1000 else value

def normalizeTimestamp (value : Option Json) : Except String (Option Int) := do
  match value with
  | none | some .null | some (.str "") => return none
  | some (.num value) => return some (← instant (epoch value))
  | value =>
    let trimmed := jsTrim (← nullishText value)
    if trimmed ≠ "" ∧ trimmed.toList.all (·.isDigit) then
      match parseInt trimmed with
      | some parsed => return some (← instant (epoch parsed))
      | none => .error "Invalid time value"
    else return JsDate.parse trimmed

def normalizeResource (value : Option Json) : Except String String := do
  let resource := JsText.toLowerCase (jsTrim
    (← if Json.truthy value then nullishText value else pure ""))
  return if resource = "" then defaultResource else resource

/-- A reading as it is stored, absent where it states no balance or no reset. -/
def normalizeObservation (observation : Option Json) (now : Int) :
    Except String (Option Observation) := do
  let normalizedRemaining := parseInt (← nullishText (member observation "remaining"))
  let normalizedLimit := parseInt (← nullishText (member observation "limit"))
  let normalizedResetAt ← normalizeTimestamp (member observation "resetAt")
  let normalizedObservedAt ← match member observation "observedAt" with
    | none => pure (some now)
    | stated => normalizeTimestamp stated
  match normalizedRemaining, normalizedResetAt, normalizedObservedAt with
  | some remaining, some resetAt, some observedAt =>
    if remaining < 0 then return none
    let credential := member observation "credential"
    let selector := member observation "credentialSelector"
    let unknown := isBool (member observation "resetUnknown") true && remaining = 0
    return some {
      resource := ← normalizeResource (member observation "resource")
      credential :=
        if Json.truthy credential ∧ !isText credential "default" then credential else none
      credentialSelector := if Json.truthy selector then selector else none
      remaining := remaining.toNat
      limit := (normalizedLimit.filter (0 < ·)).map Int.toNat
      resetAt, observedAt
      rateLimitedCalls := (finite (member observation "rateLimitedCalls")).filter
        fun calls => calls.den = 1 ∧ 0 < calls
      resetUnknown := unknown
      guessed := by
        intro held
        have zero : remaining = 0 := by simpa [unknown] using (Bool.and_eq_true_iff.mp held).2
        simp [zero] }
  | _, _, _ => return none

end

/-- A reading whose window has not ended; what is stored already normalizes to itself. -/
def sanitizeObservation (observation : Option Observation) (now : Int) : Option Observation :=
  observation.filter fun observation => now < observation.resetAt

/-- Two readings of one balance until one instant. -/
def joinObservations (left right : Observation) : Observation where
  resource := left.resource
  credential := left.credential
  credentialSelector := right.credentialSelector.or left.credentialSelector
  remaining := min left.remaining right.remaining
  limit := right.limit.or left.limit
  resetAt := left.resetAt
  observedAt := if left.observedAt < right.observedAt then right.observedAt else left.observedAt
  rateLimitedCalls :=
    let calls := max (left.rateLimitedCalls.getD 0) (right.rateLimitedCalls.getD 0)
    if 0 < calls then some calls else none
  resetUnknown := left.resetUnknown && right.resetUnknown
  guessed := by
    intro held
    simp [left.guessed (Bool.and_eq_true_iff.mp held).1]

/-- The older reading and the newer one, as one reading. -/
def mergeResourceObservations (current incoming : Option Observation) (now : Int) :
    Option Observation :=
  match sanitizeObservation current now, sanitizeObservation incoming now with
  | none, right => right
  | some left, none => some left
  | some left, some right =>
    -- Only a guessed window gives way to a healthy balance.
    if left.remaining = 0 ∧ 0 < right.remaining then
      some (if left.resetUnknown then right else left)
    else if right.remaining = 0 ∧ 0 < left.remaining then
      some { right with limit := right.limit.or left.limit }
    else if left.resetAt < right.resetAt then some right
    else if right.resetAt < left.resetAt then some left
    else some (joinObservations left right)

section

variable [JsDate] [JsText]

/-- A reading as a caller states it, and when it is recorded. -/
structure Reading where
  now : Int
  observation : Option Json

def record (stored : Option Observation) (reading : Reading) : Option Observation :=
  match normalizeObservation reading.observation reading.now with
  | .ok incoming => mergeResourceObservations stored incoming reading.now
  | .error _ => stored

def recordAll (stored : Option Observation) (readings : List Reading) : Option Observation :=
  readings.foldl record stored

end

/-- An exhausted balance until that instant or a later one. -/
def HeldUntil (reset : Int) (stored : Option Observation) : Prop :=
  ∃ held, stored = some held ∧ held.remaining = 0 ∧ reset ≤ held.resetAt

def OpenWindow (observation : Option Observation) (now : Int) : Prop :=
  ∃ held, observation = some held ∧ held.remaining = 0 ∧ now < held.resetAt

def GuessGivesWay (stored incoming : Option Observation) (now : Int) : Prop :=
  ∃ held healthy, stored = some held ∧ incoming = some healthy ∧ held.remaining = 0 ∧
    held.resetUnknown = true ∧ now < held.resetAt ∧ 0 < healthy.remaining ∧ now < healthy.resetAt

def KeepsWindow (stored incoming : Option Observation) (now : Int) : Prop :=
  (OpenWindow stored now ∨ OpenWindow incoming now) ∧ ¬ GuessGivesWay stored incoming now

section

variable {observation : Option Observation} {now : Int}

variable {held : Observation}

theorem sanitizeObservation_of_open (open_ : now < held.resetAt) :
    sanitizeObservation (some held) now = some held := by
  simp [sanitizeObservation, Option.filter, open_]

theorem sanitizeObservation_some (kept : sanitizeObservation observation now = some held) :
    observation = some held ∧ now < held.resetAt := by
  simpa [sanitizeObservation, Option.filter_eq_some_iff] using kept

theorem sanitizeObservation_none (gone : sanitizeObservation observation now = none) :
    ∀ held, observation = some held → held.resetAt ≤ now := by
  intro held stated
  subst stated
  by_contra later
  have kept := @sanitizeObservation_of_open now held (by omega)
  rw [kept] at gone
  exact absurd gone (by simp)

theorem not_openWindow_of_gone (gone : sanitizeObservation observation now = none) :
    ¬ OpenWindow observation now := by
  rintro ⟨held, stated, -, later⟩
  have ended := sanitizeObservation_none gone held stated
  omega

theorem openWindow_iff (kept : sanitizeObservation observation now = some held) :
    OpenWindow observation now ↔ held.remaining = 0 := by
  obtain ⟨stated, later⟩ := sanitizeObservation_some kept
  constructor
  · rintro ⟨other, named, empty, -⟩
    rw [stated] at named
    cases named
    exact empty
  · intro empty
    exact ⟨held, stated, empty, later⟩

end

section

variable {stored incoming : Option Observation} {now reset : Int}

theorem heldUntil_some {held : Observation} :
    HeldUntil reset (some held) ↔ held.remaining = 0 ∧ reset ≤ held.resetAt := by
  simp [HeldUntil]

theorem guessGivesWay_iff {left right : Observation}
    (older : sanitizeObservation stored now = some left)
    (newer : sanitizeObservation incoming now = some right) :
    GuessGivesWay stored incoming now ↔
      left.remaining = 0 ∧ left.resetUnknown = true ∧ 0 < right.remaining := by
  obtain ⟨stated, leftLater⟩ := sanitizeObservation_some older
  obtain ⟨given, rightLater⟩ := sanitizeObservation_some newer
  constructor
  · rintro ⟨held, healthy, held_, healthy_, empty, unknown, -, some_, -⟩
    rw [stated] at held_
    rw [given] at healthy_
    cases held_
    cases healthy_
    exact ⟨empty, unknown, some_⟩
  · rintro ⟨empty, unknown, full⟩
    exact ⟨left, right, stated, given, empty, unknown, leftLater, full, rightLater⟩

theorem heldUntil_merge {left right : Observation}
    (older : sanitizeObservation stored now = some left)
    (newer : sanitizeObservation incoming now = some right)
    (held : (left.remaining = 0 ∧ reset ≤ left.resetAt) ∨
      (right.remaining = 0 ∧ reset ≤ right.resetAt)) :
    HeldUntil reset (mergeResourceObservations stored incoming now) ↔
      ¬ GuessGivesWay stored incoming now := by
  rw [guessGivesWay_iff older newer, mergeResourceObservations, older, newer]
  dsimp only
  -- One case for each rule of the merge, in its order.
  split_ifs with healthy guess exhausted later sooner
  · simp only [heldUntil_some]
    have full := healthy.2
    simp [healthy.1, guess, full]
    omega
  · simp only [heldUntil_some]
    have empty := healthy.1
    have full := healthy.2
    simp [empty, guess]
    omega
  · simp only [heldUntil_some]
    have full := exhausted.2
    simp [exhausted.1]
    omega
  · simp only [heldUntil_some]
    omega
  · simp only [heldUntil_some]
    omega
  · simp only [heldUntil_some, joinObservations]
    omega

/--
A reading keeps the window exactly where an open window is among the two and no guess gives way.

The window is either stored already or the one that is being recorded.
-/
theorem heldUntil_merge_iff (inTime : now ≤ reset) (window : HeldUntil reset stored ∨
      ∃ known, incoming = some known ∧ known.remaining = 0 ∧ known.resetAt = reset) :
    HeldUntil reset (mergeResourceObservations stored incoming now) ↔
      KeepsWindow stored incoming now := by
  cases older : sanitizeObservation stored now with
  | none =>
    have gone := not_openWindow_of_gone older
    have still : ¬ GuessGivesWay stored incoming now := by
      rintro ⟨held, healthy, stated, -, empty, -, later, -⟩
      exact gone ⟨held, stated, empty, later⟩
    cases newer : sanitizeObservation incoming now with
    | none =>
      simp [mergeResourceObservations, older, newer, KeepsWindow, gone,
        not_openWindow_of_gone newer, HeldUntil]
    | some right =>
      obtain ⟨given, later⟩ := sanitizeObservation_some newer
      -- A stored window that ended by now ends exactly now.
      have reaches : reset ≤ right.resetAt := by
        rcases window with ⟨held, listed, empty, within⟩ | ⟨known, listed, empty, rfl⟩
        · have ended := sanitizeObservation_none older held listed
          omega
        · rw [given] at listed
          cases listed
          exact le_refl _
      simp only [mergeResourceObservations, older, newer, heldUntil_some, KeepsWindow, gone,
        openWindow_iff newer, still]
      simp [reaches]
  | some left =>
    obtain ⟨stated, leftLater⟩ := sanitizeObservation_some older
    cases newer : sanitizeObservation incoming now with
    | none =>
      have gone := not_openWindow_of_gone newer
      have still : ¬ GuessGivesWay stored incoming now := by
        rintro ⟨held, healthy, -, given, -, -, -, -, later⟩
        have ended := sanitizeObservation_none newer healthy given
        omega
      have reaches : reset ≤ left.resetAt := by
        rcases window with ⟨held, listed, empty, within⟩ | ⟨known, listed, empty, rfl⟩
        · rw [stated] at listed
          cases listed
          exact within
        · have ended := sanitizeObservation_none newer known listed
          omega
      simp only [mergeResourceObservations, older, newer, heldUntil_some, KeepsWindow, gone,
        openWindow_iff older, still]
      simp [reaches]
    | some right =>
      obtain ⟨given, rightLater⟩ := sanitizeObservation_some newer
      have held : (left.remaining = 0 ∧ reset ≤ left.resetAt) ∨
          (right.remaining = 0 ∧ reset ≤ right.resetAt) := by
        rcases window with ⟨held, listed, empty, later⟩ | ⟨known, listed, empty, rfl⟩
        · rw [stated] at listed
          cases listed
          exact .inl ⟨empty, later⟩
        · rw [given] at listed
          cases listed
          exact .inr ⟨empty, le_refl _⟩
      rw [heldUntil_merge older newer held, KeepsWindow, openWindow_iff older, openWindow_iff newer]
      have exhausted : left.remaining = 0 ∨ right.remaining = 0 := by omega
      simp [exhausted]

end

section

variable [JsDate] [JsText] {stored : Option Observation} {reset : Int}

/-- A reading meets the condition, or is none that is recorded. -/
def Reading.Keeps (reading : Reading) (stored : Option Observation) : Prop :=
  match normalizeObservation reading.observation reading.now with
  | .ok incoming => KeepsWindow stored incoming reading.now
  | .error _ => True

theorem heldUntil_record {reading : Reading} (inTime : reading.now ≤ reset)
    (window : HeldUntil reset stored) :
    HeldUntil reset (record stored reading) ↔ reading.Keeps stored := by
  cases read : normalizeObservation reading.observation reading.now with
  | error message => simp [record, Reading.Keeps, read, window]
  | ok incoming =>
    simp only [record, Reading.Keeps, read]
    exact heldUntil_merge_iff inTime (.inl window)

theorem heldUntil_recordAll (later : List Reading) (inTime : ∀ reading ∈ later, reading.now ≤ reset)
    (window : HeldUntil reset stored) :
    (∀ front back, later = front ++ back → HeldUntil reset (recordAll stored front)) ↔
      ∀ front reading back, later = front ++ reading :: back →
        reading.Keeps (recordAll stored front) := by
  induction later generalizing stored with
  | nil =>
    constructor
    · intro _ front reading back split
      exact absurd split (by simp)
    · intro _ front back split
      have empty : front = [] := (List.append_eq_nil_iff.mp split.symm).1
      simpa [empty, recordAll] using window
  | cons reading later ih =>
    have step := heldUntil_record (inTime reading (by simp)) window
    have rest := fun held => @ih (record stored reading)
      (fun other listed => inTime other (List.mem_cons_of_mem _ listed)) held
    constructor
    · intro held front other back split
      have next : HeldUntil reset (record stored reading) := by
        simpa [recordAll] using held [reading] later rfl
      cases front with
      | nil =>
        simp only [List.nil_append, List.cons.injEq] at split
        obtain ⟨rfl, rfl⟩ := split
        exact step.mp next
      | cons first front =>
        simp only [List.cons_append, List.cons.injEq] at split
        obtain ⟨rfl, split⟩ := split
        refine (rest next).mp ?_ front other back split
        intro front back split
        simpa [recordAll] using held (reading :: front) back (by rw [split]; rfl)
    · intro keeps front back split
      have next : HeldUntil reset (record stored reading) := step.mpr (keeps [] reading later rfl)
      cases front with
      | nil => simpa [recordAll] using window
      | cons first front =>
        simp only [List.cons_append, List.cons.injEq] at split
        obtain ⟨rfl, split⟩ := split
        have later_ := (rest next).mpr (fun front other back split =>
          keeps (reading :: front) other back (by rw [split]; rfl)) front back split
        simpa [recordAll] using later_

/--
An exhaustion is held until its reset in every state from its recording on, exactly where no
reading comes at the very end of the held window without a further one and no guess gives way.
-/
theorem reported_window_held_iff (earlier later : List Reading) (reading : Reading)
    (known : Observation)
    (recorded : normalizeObservation reading.observation reading.now = .ok (some known))
    (exhausted : known.remaining = 0)
    (inTime : ∀ other ∈ reading :: later, other.now ≤ known.resetAt) :
    (∀ front back, later = front ++ back →
        HeldUntil known.resetAt (recordAll stored (earlier ++ reading :: front))) ↔
      reading.Keeps (recordAll stored earlier) ∧
      ∀ front other back, later = front ++ other :: back →
        other.Keeps (recordAll stored (earlier ++ reading :: front)) := by
  have split (front : List Reading) : recordAll stored (earlier ++ reading :: front) =
      recordAll (record (recordAll stored earlier) reading) front := by
    simp [recordAll, List.foldl_append]
  have first : HeldUntil known.resetAt (record (recordAll stored earlier) reading) ↔
      reading.Keeps (recordAll stored earlier) := by
    simp only [record, Reading.Keeps, recorded]
    exact heldUntil_merge_iff (inTime reading (by simp)) (.inr ⟨known, rfl, exhausted, rfl⟩)
  have others : ∀ other ∈ later, other.now ≤ known.resetAt :=
    fun other listed => inTime other (List.mem_cons_of_mem _ listed)
  simp only [split]
  constructor
  · intro held
    have window : HeldUntil known.resetAt (record (recordAll stored earlier) reading) := by
      simpa [recordAll] using held [] later rfl
    exact ⟨first.mp window, (heldUntil_recordAll later others window).mp held⟩
  · rintro ⟨keeps, rest⟩
    exact (heldUntil_recordAll later others (first.mpr keeps)).mpr rest

def reportedReading : Reading where
  now := 2000
  observation := some (.obj [("remaining", .str "0"), ("resetAt", .num 100)])

/-- A refusal without headers, whose end is guessed a minute ahead. -/
def guessedReading : Reading where
  now := 50000
  observation := some (.obj [("remaining", .str "0"), ("resetAt", .num 110),
    ("resetUnknown", .bool true)])

def healthyReading : Reading where
  now := 51000
  observation := some (.obj [("remaining", .str "4000"), ("resetAt", .num 3600)])

omit [JsDate] [JsText] in
theorem reported_reading :
    letI := JsDate.isoDates
    letI := JsText.ascii
    ∃ known, normalizeObservation reportedReading.observation reportedReading.now =
      .ok (some known) ∧ known.remaining = 0 ∧ known.resetUnknown = false ∧
      known.resetAt = 100000 := by
  let _ := JsDate.isoDates
  let _ := JsText.ascii
  have read : (normalizeObservation reportedReading.observation reportedReading.now).toOption.any
      (fun stored => stored.any fun known =>
        known.remaining = 0 && !known.resetUnknown && known.resetAt = 100000) = true := by
    decide +kernel
  cases stated : normalizeObservation reportedReading.observation reportedReading.now with
  | error message => simp [stated, Except.toOption] at read
  | ok incoming =>
    cases incoming with
    | none => simp [stated, Except.toOption] at read
    | some known =>
      rw [stated] at read
      simp only [Except.toOption, Option.any_some, Bool.and_eq_true, decide_eq_true_eq,
        Bool.not_eq_true'] at read
      exact ⟨known, rfl, read.1.1, read.1.2, read.2⟩

omit [JsDate] [JsText] in
/-- A healthy balance alone never replaces the reported window. -/
theorem reported_window_held_healthy :
    letI := JsDate.isoDates
    letI := JsText.ascii
    (∀ front back, [healthyReading] = front ++ back →
        HeldUntil 100000 (recordAll none ([] ++ reportedReading :: front))) ↔
      reportedReading.Keeps (recordAll none []) ∧
      ∀ front other back, [healthyReading] = front ++ other :: back →
        other.Keeps (recordAll none ([] ++ reportedReading :: front)) := by
  let _ := JsDate.isoDates
  let _ := JsText.ascii
  obtain ⟨known, recorded, exhausted, -, reset⟩ := reported_reading
  have held := @reported_window_held_iff _ _ none [] [healthyReading] reportedReading known
    recorded exhausted (by rw [reset]; decide)
  rwa [reset] at held

omit [JsDate] [JsText] in
/-- A guess that ends later hides the report, and a healthy balance replaces the guess. -/
theorem reported_window_forgotten :
    letI := JsDate.isoDates
    letI := JsText.ascii
    (∃ known, normalizeObservation reportedReading.observation reportedReading.now =
      .ok (some known) ∧ known.remaining = 0 ∧ known.resetUnknown = false ∧
      known.resetAt = 100000) ∧
      (∀ reading ∈ [reportedReading, guessedReading, healthyReading], reading.now < 100000) ∧
      ¬ HeldUntil 100000 (recordAll none [reportedReading, guessedReading, healthyReading]) := by
  let _ := JsDate.isoDates
  let _ := JsText.ascii
  have final : (recordAll none [reportedReading, guessedReading, healthyReading]).map
      (·.remaining) = some 4000 := by
    decide +kernel
  refine ⟨reported_reading, by decide, ?_⟩
  rintro ⟨held, stored, empty, -⟩
  rw [stored] at final
  simp [empty] at final

end

end AdversarialReview.Throttle
