import AdversarialReview.Library.JsDate
import AdversarialReview.Library.JsText

/-! Check rollups: when one is green by each check's latest run, in every order of the items. -/

namespace AdversarialReview.Gate

section

/-- An identifier as GitHub sends it. -/
inductive Scalar where
  | number (value : Rat)
  | text (value : String)
  deriving DecidableEq

/-- An item of a rollup; an absent field, a null one and a null item's all read the same. -/
structure CheckItem where
  typename : Option String := none
  context : Option String := none
  name : Option String := none
  workflowName : Option String := none
  createdAt : Option String := none
  startedAt : Option String := none
  updatedAt : Option String := none
  completedAt : Option String := none
  id : Option Scalar := none
  databaseId : Option Scalar := none
  appDatabaseId : Option Scalar := none
  appId : Option Scalar := none
  appSlug : Option Scalar := none
  status : Option String := none
  state : Option String := none
  conclusion : Option String := none
  rollupState : Option String := none

def firstText (texts : List (Option String)) : String :=
  (texts.findSome? fun text => text.filter (· ≠ "")).getD ""

def successfulCheckStates : List String := ["SUCCESS", "NEUTRAL", "SKIPPED"]

def pendingCheckStates : List String :=
  ["PENDING", "IN_PROGRESS", "QUEUED", "EXPECTED", "WAITING", "REQUESTED"]

def digitsOf : Scalar → Option Nat
  | .number value => if value.den = 1 ∧ 0 ≤ value.num ∧ value.num < 1000000000000000000000 then
      some value.num.toNat else none
  | .text value => if value ≠ "" ∧ value.toList.all Char.isDigit then
      some (value.toList.foldl (fun number char => 10 * number + (char.toNat - '0'.toNat)) 0)
      else none

def numericCheckId (item : CheckItem) : Option Nat :=
  (item.id.bind digitsOf) <|> (item.databaseId.bind digitsOf)

variable [JsText]

def checkIdentity (item : CheckItem) : String :=
  JsText.toLowerCase (jsTrim (firstText [item.context, item.name, item.workflowName]))

/-- What tells the runs of one check from those of another. -/
structure CheckKey where
  kind : String
  producer : Option Scalar
  name : String
  deriving DecidableEq

def checkKey (item : CheckItem) : Option CheckKey :=
  let name := checkIdentity item
  let kind := item.typename.getD (if firstText [item.context] = "" then "CheckRun"
    else "StatusContext")
  let producer := if kind = "CheckRun" then
    item.appDatabaseId <|> item.appId <|> item.appSlug else none
  if name = "" then none else some { kind, producer, name }

def isAdversarialOwnStatusContext (item : CheckItem) (excludeContexts : List String) : Bool :=
  let context := JsText.toLowerCase (jsTrim (firstText [item.context]))
  if firstText [item.typename] ≠ "" ∧ item.typename ≠ some "StatusContext" then false
  else context ≠ "" && excludeContexts.contains context

def checkItemState (item : CheckItem) : String :=
  let status := JsText.toUpperCase (jsTrim (firstText [item.status]))
  if status ≠ "" ∧ status ≠ "COMPLETED" ∧ status ∉ successfulCheckStates then
    if status ∈ pendingCheckStates then "PENDING" else status
  else
    let raw := if item.typename = some "StatusContext" then
        firstText [item.state, item.status, item.conclusion]
      else firstText [item.conclusion, item.status, item.state, item.rollupState]
    JsText.toUpperCase (jsTrim raw)

end

section

variable [JsText] [JsDate]

def checkTimestampMs (item : CheckItem) : Option Int :=
  [item.createdAt, item.startedAt, item.updatedAt, item.completedAt].findSome? fun value =>
    JsDate.parse (value.getD "")

/-- The identity and the time of an item that can be ordered among other runs. -/
def checkRun (item : CheckItem) : Option (CheckKey × Int) :=
  match checkKey item, checkTimestampMs item with
  | some key, some timestampMs => some (key, timestampMs)
  | _, _ => none

def replaces (timestampMs : Int) (item : CheckItem) (priorMs : Int) (prior : CheckItem) : Bool :=
  priorMs < timestampMs || (timestampMs = priorMs &&
    match numericCheckId prior, numericCheckId item with
    | some priorId, some nextId => priorId ≤ nextId
    | _, _ => true)

/-- A place in the result, with the run that its map entry points at. -/
structure Slot where
  run : Option (CheckKey × Int)
  item : CheckItem

def place (key : CheckKey) (timestampMs : Int) (item : CheckItem) : List Slot → List Slot
  | [] => [{ run := some (key, timestampMs), item }]
  | slot :: rest =>
    match slot.run.filter fun run => run.1 = key with
    | none => slot :: place key timestampMs item rest
    | some (_, priorMs) =>
      if replaces timestampMs item priorMs slot.item then
        { run := some (key, timestampMs), item } :: rest
      else slot :: rest

def addItem (slots : List Slot) (item : CheckItem) : List Slot :=
  match checkRun item with
  | some (key, timestampMs) => place key timestampMs item slots
  | none => slots ++ [{ run := none, item }]

def latestCheckRollupItems (items : List CheckItem) : List CheckItem :=
  (items.foldl addItem []).map Slot.item

omit [JsDate] in
def settleStates (sawPending : Bool) : List CheckItem → String
  | [] => if sawPending then "PENDING" else "SUCCESS"
  | item :: rest =>
    let state := checkItemState item
    if state = "" ∨ state ∈ pendingCheckStates then settleStates true rest
    else if state ∈ successfulCheckStates then settleStates sawPending rest
    else state

def requiredNames (requiredContexts : List String) : List String :=
  (requiredContexts.map fun context => JsText.toLowerCase (jsTrim context)).filter (· ≠ "")

def remaining (items : List CheckItem) (excludeContexts : Option (List String)) :
    List CheckItem :=
  excludeContexts.elim items fun contexts =>
    items.filter fun item => !isAdversarialOwnStatusContext item contexts

/-- The class of a rollup, absent where it is unknown; one that is no array is unknown too. -/
def classifyCheckRollup (rollup : Option (List CheckItem)) (requiredContexts : List String)
    (excludeContexts : Option (List String)) : Option String :=
  rollup.bind fun items =>
    let required := requiredNames requiredContexts
    let relevant := latestCheckRollupItems (remaining items excludeContexts)
    if relevant.isEmpty then if required.isEmpty then none else some "PENDING"
    else
      let reported := (relevant.map checkIdentity).filter (· ≠ "")
      some (settleStates (required.any fun context => context ∉ reported) relevant)

end

variable [JsText] [JsDate]

def SameCheck (first second : CheckItem) : Prop :=
  (checkRun first).isSome ∧ (checkRun first).map Prod.fst = (checkRun second).map Prod.fst

def idBelow : Option Nat → Option Nat → Bool
  | some low, some high => low < high
  | _, _ => false

def Later (first second : CheckItem) : Prop :=
  ∃ key early late, checkRun first = some (key, late) ∧ checkRun second = some (key, early) ∧
    (early < late ∨
      (early = late ∧ idBelow (numericCheckId second) (numericCheckId first) = true))

def SameRun (first second : CheckItem) : Prop :=
  (checkRun first).isSome ∧ checkRun first = checkRun second

def TiesComparable (items : List CheckItem) : Prop :=
  ∀ first ∈ items, ∀ second ∈ items, SameRun first second →
    (numericCheckId first).isSome = (numericCheckId second).isSome

def TiesDistinct (items : List CheckItem) : Prop :=
  items.Pairwise fun first second => SameRun first second →
    ∃ low high, numericCheckId first = some low ∧ numericCheckId second = some high ∧ low ≠ high

def IsLatest (items : List CheckItem) (item : CheckItem) : Prop :=
  ∃ place, items[place]? = some item ∧ (checkRun item).isSome ∧
    ∀ (other : CheckItem) (at_ : Nat), items[at_]? = some other → SameCheck item other →
      (at_ < place → ¬ Later other item) ∧ (place < at_ → Later item other)

variable {first second : CheckItem}

theorem later_iff {key : CheckKey} {early late : Int}
    (one : checkRun first = some (key, late)) (two : checkRun second = some (key, early)) :
    Later first second ↔ early < late ∨
      (early = late ∧ idBelow (numericCheckId second) (numericCheckId first) = true) := by
  refine ⟨?_, fun later => ⟨key, early, late, one, two, later⟩⟩
  rintro ⟨_, _, _, first_, second_, later⟩
  cases one.symm.trans first_
  cases two.symm.trans second_
  exact later

theorem SameCheck.runs (same : SameCheck first second) :
    ∃ key one two, checkRun first = some (key, one) ∧ checkRun second = some (key, two) := by
  obtain ⟨stated, keys⟩ := same
  obtain ⟨⟨key, one⟩, run⟩ := Option.isSome_iff_exists.mp stated
  rw [run] at keys
  obtain ⟨⟨_, two⟩, other, rfl⟩ := Option.map_eq_some_iff.mp keys.symm
  exact ⟨_, one, two, run, other⟩

theorem Later.same (later : Later first second) :
    SameCheck first second := by
  obtain ⟨key, early, late, one, two, -⟩ := later
  simp [SameCheck, one, two]

theorem Later.asymm (later : Later first second) :
    ¬ Later second first := by
  obtain ⟨key, late, early, one, two⟩ := later.same.runs
  rw [later_iff one two] at later
  rw [later_iff two one]
  revert later
  cases numericCheckId first <;> cases numericCheckId second <;> simp [idBelow] <;> omega

theorem replaces_iff {item prior : CheckItem} {key : CheckKey} {timestampMs priorMs : Int}
    (run : checkRun item = some (key, timestampMs))
    (priorRun : checkRun prior = some (key, priorMs)) :
    replaces timestampMs item priorMs prior = true ↔ ¬ Later prior item := by
  rw [later_iff priorRun run, replaces]
  cases numericCheckId prior <;> cases numericCheckId item <;> simp [idBelow] <;> omega

theorem not_later_trans {items : List CheckItem} (ties : TiesComparable items)
    {first second third : CheckItem} (one : first ∈ items) (two : second ∈ items)
    (here : SameCheck first second) (there : SameCheck second third)
    (before : ¬ Later first second) (after : ¬ Later second third) : ¬ Later first third := by
  obtain ⟨key, early, middle, firstRun, secondRun⟩ := here.runs
  obtain ⟨_, _, late, again, thirdRun⟩ := there.runs
  cases secondRun.symm.trans again
  rw [later_iff firstRun secondRun] at before
  rw [later_iff secondRun thirdRun] at after
  rw [later_iff firstRun thirdRun]
  have comparable := ties first one second two
  simp only [SameRun, firstRun, secondRun, Option.isSome_some, true_and, Option.some.injEq,
    Prod.mk.injEq] at comparable
  revert before after comparable
  cases numericCheckId first <;> cases numericCheckId second <;> cases numericCheckId third <;>
    simp [idBelow] <;> omega

section

variable {items : List CheckItem} {item other : CheckItem}

omit [JsText] [JsDate] in
theorem getElem?_snoc {at_ : Nat} (found : (items ++ [item])[at_]? = some other) :
    (at_ < items.length ∧ items[at_]? = some other) ∨ (at_ = items.length ∧ other = item) := by
  rcases lt_trichotomy at_ items.length with inside | rfl | outside
  · exact .inl ⟨inside, by rwa [List.getElem?_append_left inside] at found⟩
  · simp only [List.getElem?_concat_length, Option.some.injEq] at found
    exact .inr ⟨rfl, found.symm⟩
  · rw [List.getElem?_eq_none (by simp; omega)] at found
    cases found

theorem IsLatest.snoc (latest : IsLatest items other)
    (stays : SameCheck other item → Later other item) : IsLatest (items ++ [item]) other := by
  obtain ⟨place, stands, run, best⟩ := latest
  have inside := (List.getElem?_eq_some_iff.mp stands).1
  refine ⟨place, by rw [List.getElem?_append_left inside, stands], run, ?_⟩
  intro third at_ found same
  rcases getElem?_snoc found with ⟨_, found⟩ | ⟨rfl, rfl⟩
  · exact best third at_ found same
  · exact ⟨by omega, fun _ => stays same⟩

theorem IsLatest.replace (ties : TiesComparable (items ++ [item])) (latest : IsLatest items other)
    (same : SameCheck other item) (newer : ¬ Later other item) :
    IsLatest (items ++ [item]) item := by
  obtain ⟨place, stands, run, best⟩ := latest
  have among : other ∈ items ++ [item] := List.mem_append_left _ (List.mem_of_getElem? stands)
  refine ⟨items.length, by simp, by rw [← Option.isSome_map (f := Prod.fst), ← same.2]; simpa, ?_⟩
  intro third at_ found with_
  rcases getElem?_snoc found with ⟨inside, found⟩ | ⟨rfl, rfl⟩
  · refine ⟨fun _ => ?_, by omega⟩
    have through : SameCheck other third := ⟨run, same.2.trans with_.2⟩
    have back : SameCheck third other :=
      ⟨by rw [← Option.isSome_map (f := Prod.fst), ← through.2]; simpa, through.2.symm⟩
    refine not_later_trans ties (List.mem_append_left _ (List.mem_of_getElem? found)) among back
      same ?_ newer
    rcases lt_trichotomy at_ place with before | rfl | after
    · exact (best third at_ found through).1 before
    · cases stands.symm.trans found
      exact fun later => later.asymm later
    · exact ((best third at_ found through).2 after).asymm
  · exact ⟨by omega, by omega⟩

theorem isLatest_first (run : (checkRun item).isSome)
    (fresh : ∀ other ∈ items, ¬ SameCheck item other) : IsLatest (items ++ [item]) item := by
  refine ⟨items.length, by simp, run, ?_⟩
  intro third at_ found same
  rcases getElem?_snoc found with ⟨_, found⟩ | ⟨rfl, rfl⟩
  · exact absurd same (fresh third (List.mem_of_getElem? found))
  · exact ⟨by omega, by omega⟩

theorem IsLatest.unique (one : IsLatest items item) (two : IsLatest items other)
    (same : SameCheck item other) : item = other := by
  obtain ⟨place, stands, run, best⟩ := one
  obtain ⟨spot, found, again, better⟩ := two
  have back : SameCheck other item := ⟨again, same.2.symm⟩
  rcases lt_trichotomy place spot with before | rfl | after
  · exact absurd ((best other spot found same).2 before)
      ((better item place stands back).1 before)
  · cases stands.symm.trans found
    rfl
  · exact absurd ((better item place stands back).2 after) ((best other spot found same).1 after)

def Slot.key (slot : Slot) : Option CheckKey :=
  slot.run.map Prod.fst

omit [JsText] [JsDate] in
theorem place_cases (key : CheckKey) (timestampMs : Int) (item : CheckItem) (slots : List Slot) :
    (∃ front slot back priorMs, slots = front ++ slot :: back ∧ slot.run = some (key, priorMs) ∧
      place key timestampMs item slots = front ++ (if replaces timestampMs item priorMs slot.item
        then { run := some (key, timestampMs), item } else slot) :: back) ∨
    ((∀ slot ∈ slots, slot.key ≠ some key) ∧ place key timestampMs item slots =
      slots ++ [{ run := some (key, timestampMs), item }]) := by
  induction slots with
  | nil => exact .inr ⟨by simp, rfl⟩
  | cons slot rest ih =>
    by_cases here : slot.key = some key
    · obtain ⟨⟨_, priorMs⟩, run, rfl⟩ := Option.map_eq_some_iff.mp here
      refine .inl ⟨[], slot, rest, priorMs, rfl, run, ?_⟩
      simp only [place, run, Option.filter_some, decide_true, if_true, List.nil_append]
      split <;> rfl
    · have passed : place key timestampMs item (slot :: rest) =
          slot :: place key timestampMs item rest := by
        have none : slot.run.filter (fun run => run.1 = key) = none := by
          cases run : slot.run with
          | none => rfl
          | some known => simpa [Slot.key, run] using here
        rw [place, none]
      rcases ih with ⟨front, found, back, priorMs, rfl, run, placed⟩ | ⟨fresh, placed⟩
      · exact .inl ⟨slot :: front, found, back, priorMs, rfl, run, by rw [passed, placed]; rfl⟩
      · exact .inr ⟨List.forall_mem_cons.mpr ⟨here, fresh⟩, by rw [passed, placed]; rfl⟩

structure Kept (items : List CheckItem) (slots : List Slot) : Prop where
  runs : ∀ slot ∈ slots, slot.run = checkRun slot.item
  latest : ∀ slot ∈ slots, slot.run.isSome → IsLatest items slot.item
  plain : ∀ slot ∈ slots, slot.run = none → slot.item ∈ items
  keys : (slots.filterMap Slot.key).Nodup
  listed : ∀ item ∈ items, ∃ slot ∈ slots, slot.key = (checkRun item).map Prod.fst ∧
    (checkRun item = none → slot.item = item)

variable {slots : List Slot}

theorem Kept.stays (kept : Kept items slots) {slot : Slot}
    (among : slot ∈ slots) (run : slot.run.isSome)
    (apart : slot.key ≠ (checkRun item).map Prod.fst) : IsLatest (items ++ [item]) slot.item := by
  refine (kept.latest slot among run).snoc fun same => absurd ?_ apart
  rw [Slot.key, kept.runs slot among, same.2]

variable (item) in
theorem Kept.append (kept : Kept items slots)
    (fresh : ∀ slot ∈ slots, slot.key ≠ none → slot.key ≠ (checkRun item).map Prod.fst) :
    Kept (items ++ [item]) (slots ++ [{ run := checkRun item, item }]) := by
  have keyed {slot : Slot} (run : slot.run.isSome) : slot.key ≠ none := by
    simpa [Slot.key, Option.isSome_iff_ne_none] using run
  refine ⟨?_, ?_, ?_, ?_, ?_⟩
  · exact List.forall_mem_append.mpr ⟨kept.runs, by simp⟩
  · refine List.forall_mem_append.mpr ⟨fun slot among run =>
      kept.stays among run (fresh slot among (keyed run)), ?_⟩
    refine List.forall_mem_singleton.mpr fun run => isLatest_first run ?_
    intro other among same
    obtain ⟨slot, stands, key, -⟩ := kept.listed other among
    refine fresh slot stands ?_ (key.trans same.2.symm)
    rw [key, ← same.2]
    simpa [Option.isSome_iff_ne_none] using run
  · refine List.forall_mem_append.mpr ⟨fun slot among none =>
      List.mem_append_left _ (kept.plain slot among none), by simp⟩
  · rw [List.filterMap_append, List.nodup_append]
    refine ⟨kept.keys, ?_, ?_⟩
    · rw [List.filterMap_cons]
      split
      · exact List.nodup_nil
      · exact List.nodup_singleton _
    · intro key among other new same
      obtain ⟨slot, stands, stated⟩ := List.mem_filterMap.mp among
      obtain ⟨_, listed, one⟩ := List.mem_filterMap.mp new
      obtain rfl := List.mem_singleton.mp listed
      exact fresh slot stands (by simp [stated]) (by rw [stated, same]; exact one.symm)
  · refine List.forall_mem_append.mpr ⟨?_, ?_⟩
    · intro other among
      obtain ⟨slot, stands, facts⟩ := kept.listed other among
      exact ⟨slot, List.mem_append_left _ stands, facts⟩
    · exact List.forall_mem_singleton.mpr ⟨_, List.mem_append_right _ List.mem_cons_self, rfl,
        fun _ => rfl⟩

/-- A slot keeps its check, with the prior run or the next one, whichever is later. -/
theorem Kept.settle {front back : List Slot} {slot : Slot} {key : CheckKey}
    {priorMs timestampMs : Int} (kept : Kept items (front ++ slot :: back))
    (prior : slot.run = some (key, priorMs)) (run : checkRun item = some (key, timestampMs))
    (ties : TiesComparable (items ++ [item])) :
    Kept (items ++ [item]) (front ++ (if replaces timestampMs item priorMs slot.item
      then { run := some (key, timestampMs), item } else slot) :: back) := by
  have among : slot ∈ front ++ slot :: back := by simp
  have priorRun : checkRun slot.item = some (key, priorMs) := by rw [← kept.runs slot among, prior]
  have same : SameCheck slot.item item := by simp [SameCheck, priorRun, run]
  have latest := kept.latest slot among (by simp [prior])
  -- The slot that is kept in this place is the latest run of its check.
  obtain ⟨next, chosen, nextRun, nextKey, best⟩ : ∃ next : Slot,
      (if replaces timestampMs item priorMs slot.item then
        { run := some (key, timestampMs), item } else slot) = next ∧
      next.run = checkRun next.item ∧ next.key = some key ∧
      IsLatest (items ++ [item]) next.item := by
    by_cases newer : replaces timestampMs item priorMs slot.item = true
    · exact ⟨_, if_pos newer, run.symm, rfl,
        latest.replace ties same ((replaces_iff run priorRun).mp newer)⟩
    · exact ⟨_, if_neg newer, by rw [prior, priorRun], by rw [Slot.key, prior]; rfl,
        latest.snoc fun _ => not_not.mp ((replaces_iff run priorRun).not.mp newer)⟩
  rw [chosen]
  have slotKey : slot.key = some key := by rw [Slot.key, prior]; rfl
  have others : ∀ other ∈ front ++ back, other.key ≠ some key := by
    intro other listed again
    have nodup := kept.keys
    rw [List.filterMap_append, List.filterMap_cons_some slotKey] at nodup
    have twice := (List.nodup_middle.mp nodup)
    rw [List.nodup_cons, ← List.filterMap_append] at twice
    exact twice.1 (List.mem_filterMap.mpr ⟨other, listed, again⟩)
  have rest : ∀ other ∈ front ++ back, other ∈ front ++ slot :: back := by
    intro other listed
    simp only [List.mem_append, List.mem_cons] at listed ⊢
    tauto
  have split {motive : Slot → Prop} (here : motive next)
      (there : ∀ other ∈ front ++ back, motive other) :
      ∀ other ∈ front ++ next :: back, motive other := by
    intro other listed
    rcases List.mem_append.mp listed with before | after
    · exact there other (List.mem_append_left _ before)
    · rcases List.mem_cons.mp after with rfl | after
      · exact here
      · exact there other (List.mem_append_right _ after)
  refine ⟨split nextRun fun other listed => kept.runs other (rest other listed),
    split (fun _ => best) fun other listed isRun => kept.stays (rest other listed) isRun ?_,
    split (fun none => ?_) fun other listed none =>
      List.mem_append_left _ (kept.plain other (rest other listed) none), ?_, ?_⟩
  · rw [run]
    exact others other listed
  · rw [Slot.key, none] at nextKey
    cases nextKey
  · have nodup := kept.keys
    rwa [List.filterMap_append, List.filterMap_cons_some slotKey,
      ← List.filterMap_cons_some nextKey, ← List.filterMap_append] at nodup
  · refine List.forall_mem_append.mpr ⟨?_, List.forall_mem_singleton.mpr
      ⟨next, by simp, by rw [nextKey, run]; rfl, fun none => by simp [run] at none⟩⟩
    intro other listed
    obtain ⟨found, stands, named, plain⟩ := kept.listed other listed
    by_cases here : found = slot
    · subst here
      refine ⟨next, by simp, by rw [nextKey, ← slotKey, named], fun none => ?_⟩
      rw [none, slotKey] at named
      cases named
    · refine ⟨found, ?_, named, plain⟩
      simp only [List.mem_append, List.mem_cons] at stands ⊢
      tauto

theorem Kept.step (kept : Kept items slots)
    (ties : TiesComparable (items ++ [item])) : Kept (items ++ [item]) (addItem slots item) := by
  unfold addItem
  cases run : checkRun item with
  | none => simpa only [run] using kept.append item (by simp [run])
  | some known =>
    obtain ⟨key, timestampMs⟩ := known
    rcases place_cases key timestampMs item slots with
      ⟨front, slot, back, priorMs, rfl, prior, placed⟩ | ⟨fresh, placed⟩
    · simpa only [placed] using kept.settle prior run ties
    · simpa only [placed, run] using kept.append item
        fun slot among _ => by simpa [run] using fresh slot among

theorem kept_fold (ties : TiesComparable items) : Kept items (items.foldl addItem []) := by
  induction items using List.reverseRecOn with
  | nil => exact ⟨by simp, by simp, by simp, List.nodup_nil, by simp⟩
  | append_singleton items item ih =>
    rw [List.foldl_append]
    refine (ih ?_).step ties
    intro first one second two same
    exact ties first (List.mem_append_left _ one) second (List.mem_append_left _ two) same

theorem mem_latestCheckRollupItems (ties : TiesComparable items) :
    item ∈ latestCheckRollupItems items ↔
      (item ∈ items ∧ checkRun item = none) ∨ IsLatest items item := by
  have kept := kept_fold ties
  rw [latestCheckRollupItems, List.mem_map]
  constructor
  · rintro ⟨slot, among, rfl⟩
    cases run : slot.run with
    | none => exact .inl ⟨kept.plain slot among run, by rw [← kept.runs slot among, run]⟩
    | some known => exact .inr (kept.latest slot among (by simp [run]))
  · rintro (⟨among, none⟩ | latest)
    · obtain ⟨slot, stands, -, plain⟩ := kept.listed item among
      exact ⟨slot, stands, plain none⟩
    · have whole := latest
      obtain ⟨place, stands, run, -⟩ := latest
      obtain ⟨slot, among, key, -⟩ := kept.listed item (List.mem_of_getElem? stands)
      rw [Slot.key, kept.runs slot among] at key
      have same : SameCheck item slot.item := ⟨run, key.symm⟩
      refine ⟨slot, among, (IsLatest.unique whole (kept.latest slot among ?_) same).symm⟩
      rw [kept.runs slot among, ← Option.isSome_map (f := Prod.fst), key]
      simpa using run

end

omit [JsDate] in
theorem settleStates_success (sawPending : Bool) (items : List CheckItem) :
    settleStates sawPending items = "SUCCESS" ↔
      sawPending = false ∧ ∀ item ∈ items, checkItemState item ∈ successfulCheckStates := by
  induction items generalizing sawPending with
  | nil => cases sawPending <;> simp [settleStates]
  | cons item rest ih =>
    rw [settleStates, List.forall_mem_cons]
    split_ifs with pending successful
    · have fails : checkItemState item ∉ successfulCheckStates := by
        rcases pending with empty | pending
        · rw [empty]
          decide
        · revert pending
          generalize checkItemState item = state
          simp only [pendingCheckStates, successfulCheckStates, List.mem_cons, List.not_mem_nil]
          rintro (rfl | rfl | rfl | rfl | rfl | rfl | ⟨⟨⟩⟩) <;> decide
      simp [ih, fails]
    · simp [ih, successful]
    · have fails : checkItemState item ≠ "SUCCESS" := fun same => successful (by simp [same,
        successfulCheckStates])
      simp [fails, successful]

structure Green (items : List CheckItem) (requiredContexts : List String) : Prop where
  some : items ≠ []
  required : ∀ context ∈ requiredNames requiredContexts, ∃ item,
    ((item ∈ items ∧ checkRun item = none) ∨ IsLatest items item) ∧ checkIdentity item = context
  plain : ∀ item ∈ items, checkRun item = none → checkItemState item ∈ successfulCheckStates
  latest : ∀ item, IsLatest items item → checkItemState item ∈ successfulCheckStates

theorem classify_success {items : List CheckItem} {requiredContexts : List String}
    {excludeContexts : Option (List String)}
    (ties : TiesComparable (remaining items excludeContexts)) :
    classifyCheckRollup (some items) requiredContexts excludeContexts = some "SUCCESS" ↔
      Green (remaining items excludeContexts) requiredContexts := by
  have kept := kept_fold ties
  have empty : latestCheckRollupItems (remaining items excludeContexts) = [] ↔
      remaining items excludeContexts = [] := by
    refine ⟨fun none => List.eq_nil_iff_forall_not_mem.mpr fun item among => ?_,
      fun none => by rw [none]; rfl⟩
    obtain ⟨slot, stands, -⟩ := kept.listed item among
    rw [latestCheckRollupItems, List.map_eq_nil_iff] at none
    rw [none] at stands
    cases stands
  by_cases none : remaining items excludeContexts = []
  · have := fun green : Green (remaining items excludeContexts) requiredContexts => green.some none
    simp only [classifyCheckRollup, Option.bind_some, empty.mpr none, List.isEmpty_nil, if_true]
    refine iff_of_false ?_ this
    split <;> simp
  · have stands : (latestCheckRollupItems (remaining items excludeContexts)).isEmpty = false := by
      simpa using empty.not.mpr none
    simp only [classifyCheckRollup, Option.bind_some, stands, Bool.false_eq_true, if_false,
      Option.some.injEq, settleStates_success]
    have named : ∀ context ∈ requiredNames requiredContexts, context ≠ "" := by
      intro context listed
      simpa using (List.mem_filter.mp listed).2
    have reported : ((requiredNames requiredContexts).any fun context => decide (context ∉
        ((latestCheckRollupItems (remaining items excludeContexts)).map checkIdentity).filter
          (· ≠ ""))) = false ↔ ∀ context ∈ requiredNames requiredContexts, ∃ item,
        item ∈ latestCheckRollupItems (remaining items excludeContexts) ∧
          checkIdentity item = context := by
      rw [List.any_eq_false]
      refine forall₂_congr fun context listed => ?_
      simp [named context listed]
    rw [reported]
    simp only [mem_latestCheckRollupItems ties]
    constructor
    · rintro ⟨required, successful⟩
      exact ⟨none, required, fun item among plain => successful item (.inl ⟨among, plain⟩),
        fun item latest => successful item (.inr latest)⟩
    · rintro ⟨-, required, plain, latest⟩
      exact ⟨required, fun item => (·.elim (fun known => plain item known.1 known.2) (latest item))⟩

theorem TiesDistinct.comparable {items : List CheckItem} (ties : TiesDistinct items) :
    TiesComparable items := by
  have pairs {first second : CheckItem} (known : SameRun first second → ∃ low high,
      numericCheckId first = some low ∧ numericCheckId second = some high ∧ low ≠ high)
      (same : SameRun first second) :
      (numericCheckId first).isSome = (numericCheckId second).isSome := by
    obtain ⟨low, high, one, two, -⟩ := known same
    rw [one, two]
    rfl
  intro first one second two
  refine List.Pairwise.forall_of_forall_of_flip
    (R := fun first second => SameRun first second →
      (numericCheckId first).isSome = (numericCheckId second).isSome)
    (fun _ _ _ => rfl) (ties.imp pairs) (ties.imp fun known same => ?_) one two
  exact (pairs known ⟨by rw [← same.2]; exact same.1, same.2.symm⟩).symm

theorem isLatest_iff {items : List CheckItem} (ties : TiesDistinct items) {item : CheckItem} :
    IsLatest items item ↔
      item ∈ items ∧ (checkRun item).isSome ∧ ∀ other ∈ items, ¬ Later other item := by
  constructor
  · rintro ⟨place, stands, run, best⟩
    refine ⟨List.mem_of_getElem? stands, run, ?_⟩
    intro other among later
    obtain ⟨at_, found⟩ := List.getElem?_of_mem among
    have same : SameCheck item other := ⟨run, later.same.2.symm⟩
    rcases lt_trichotomy at_ place with before | rfl | after
    · exact (best other at_ found same).1 before later
    · cases stands.symm.trans found
      exact later.asymm later
    · exact ((best other at_ found same).2 after).asymm later
  · rintro ⟨among, run, best⟩
    obtain ⟨place, stands⟩ := List.getElem?_of_mem among
    refine ⟨place, stands, run, ?_⟩
    intro other at_ found same
    have calm := best other (List.mem_of_getElem? found)
    refine ⟨fun _ => calm, fun after => ?_⟩
    obtain ⟨key, one, two, itemRun, otherRun⟩ := same.runs
    rw [later_iff otherRun itemRun] at calm
    rw [later_iff itemRun otherRun]
    by_cases tie : one = two
    · subst tie
      obtain ⟨inside, rfl⟩ := List.getElem?_eq_some_iff.mp stands
      obtain ⟨within, rfl⟩ := List.getElem?_eq_some_iff.mp found
      obtain ⟨low, high, first, second, apart⟩ := List.pairwise_iff_getElem.mp ties place at_
        inside within after ⟨by simp [itemRun], by rw [itemRun, otherRun]⟩
      simp only [first, second, idBelow, decide_eq_true_eq, true_and] at calm ⊢
      omega
    · omega

theorem TiesDistinct.perm {items others : List CheckItem} (ties : TiesDistinct items)
    (same : items.Perm others) : TiesDistinct others := by
  refine (same.pairwise_iff ?_).mp ties
  intro first second known again
  obtain ⟨low, high, one, two, apart⟩ := known ⟨by rw [← again.2]; exact again.1, again.2.symm⟩
  exact ⟨high, low, two, one, apart.symm⟩

theorem Green.perm {items others : List CheckItem} {requiredContexts : List String}
    (ties : TiesDistinct items) (same : items.Perm others) (green : Green items requiredContexts) :
    Green others requiredContexts := by
  have latest (item : CheckItem) : IsLatest others item ↔ IsLatest items item := by
    rw [isLatest_iff ties, isLatest_iff (ties.perm same)]
    simp only [same.mem_iff]
  refine ⟨fun none => green.some ?_, ?_, ?_, ?_⟩
  · rw [none] at same
    exact same.eq_nil
  · intro context listed
    obtain ⟨item, stands, named⟩ := green.required context listed
    exact ⟨item, by rwa [← same.mem_iff, latest], named⟩
  · exact fun item among => green.plain item (same.mem_iff.mpr among)
  · exact fun item known => green.latest item ((latest item).mp known)

omit [JsDate] in
theorem remaining_perm {items others : List CheckItem} (same : items.Perm others)
    (excludeContexts : Option (List String)) :
    (remaining items excludeContexts).Perm (remaining others excludeContexts) := by
  cases excludeContexts with
  | none => exact same
  | some contexts => exact same.filter _

/--
A rollup is classified as successful exactly where it is green.

That is so where, of the runs of a check at one time, all or none have numeric ids; and it does
not depend on the order of the items where those runs have distinct numeric ids.
-/
theorem classifyCheckRollup_success_iff (items : List CheckItem) (requiredContexts : List String)
    (excludeContexts : Option (List String)) :
    (TiesComparable (remaining items excludeContexts) →
      (classifyCheckRollup (some items) requiredContexts excludeContexts = some "SUCCESS" ↔
        Green (remaining items excludeContexts) requiredContexts)) ∧
    (TiesDistinct items → ∀ others, items.Perm others →
      (classifyCheckRollup (some items) requiredContexts excludeContexts = some "SUCCESS" ↔
        classifyCheckRollup (some others) requiredContexts excludeContexts = some "SUCCESS")) := by
  refine ⟨classify_success, ?_⟩
  intro ties others same
  have less (list : List CheckItem) (ties : TiesDistinct list) :
      TiesDistinct (remaining list excludeContexts) := by
    cases excludeContexts with
    | none => exact ties
    | some contexts => exact ties.sublist List.filter_sublist
  have moved := remaining_perm same excludeContexts
  have here := less items ties
  have there := less others (ties.perm same)
  rw [classify_success here.comparable, classify_success there.comparable]
  exact ⟨Green.perm here moved, Green.perm there moved.symm⟩

def sampleRun (id : Option Scalar) (conclusion : String) : CheckItem where
  name := some "ci"
  startedAt := some "2026-07-17T12:00:00.000Z"
  id
  conclusion := some conclusion

omit [JsText] [JsDate] in
theorem classifyCheckRollup_success_sample :
    letI := JsText.ascii
    letI := JsDate.isoDates
    classifyCheckRollup (some [sampleRun (some (.number 3)) "SUCCESS",
        sampleRun (some (.text "5")) "FAILURE"]) [] none ≠ some "SUCCESS" := by
  let _ := JsText.ascii
  let _ := JsDate.isoDates
  have ties : TiesDistinct [sampleRun (some (.number 3)) "SUCCESS",
      sampleRun (some (.text "5")) "FAILURE"] := by
    refine List.pairwise_pair.mpr fun _ => ⟨3, 5, by decide +kernel, by decide +kernel, by decide⟩
  rw [Ne, ((classifyCheckRollup_success_iff _ [] none).2 ties _ (List.Perm.swap _ _ _))]
  decide +kernel

omit [JsText] [JsDate] in
/-- A run without an id between them lets a run take the place of one with a greater id. -/
theorem older_run_wins_tie :
    letI := JsText.ascii
    letI := JsDate.isoDates
    let items := [sampleRun (some (.number 5)) "FAILURE", sampleRun none "FAILURE",
      sampleRun (some (.number 3)) "SUCCESS"]
    classifyCheckRollup (some items) [] none = some "SUCCESS" ∧
      items.map numericCheckId = [some 5, none, some 3] ∧
      (items.map checkRun).dedup.length = 1 := by
  decide +kernel

end AdversarialReview.Gate
