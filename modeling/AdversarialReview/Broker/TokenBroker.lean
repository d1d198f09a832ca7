import Mathlib.Tactic.Linarith
import AdversarialReview.Library.JsText

/-! The token broker: the grant it keeps for each role, the mints that calls share, and what a
call may still be given. -/

namespace AdversarialReview.TokenBroker

section

/-- What a role is mapped to, as far as a grant names it. -/
structure RoleEntry where
  role : String
  provider : String
  deriving DecidableEq

structure BrokerConfig where
  roles : List RoleEntry
  refreshLeadSeconds : Rat

/-- A grant; `mint` is the mint that it comes from, mints being numbered as they start. -/
structure Grant where
  entry : RoleEntry
  mint : Nat
  expiresAt : Option Rat
  deriving DecidableEq

/-- A mint under way. -/
structure Minting where
  id : Nat
  entry : RoleEntry
  deriving DecidableEq

/-- A call that waits for a mint. No grant of a mint before `floor` may be given to it. -/
structure Waiting where
  key : String
  mint : Nat
  forceRefresh : Bool
  floor : Nat

/-- A grant that a call was given, and the time where it did not wait for a mint. -/
structure Served where
  key : String
  floor : Nat
  grant : Grant
  at_ : Option Rat
  deriving DecidableEq

structure Broker where
  cache : String → Option Grant := fun _ => none
  inflight : String → Option Nat := fun _ => none
  mints : List Minting := []
  started : Nat := 0
  waiting : List Waiting := []
  /-- The first mint whose grant a later call may still be given. -/
  floor : String → Nat := fun _ => 0
  served : List Served := []

variable (config : BrokerConfig) (world : Broker)

def BrokerConfig.entry (role : String) : Option RoleEntry :=
  config.roles.find? fun entry => entry.role = role

def BrokerConfig.isFresh (grant : Grant) (nowSeconds : Rat) : Bool :=
  grant.expiresAt.any fun expiresAt => nowSeconds < expiresAt - config.refreshLeadSeconds

def Broker.mintGrant (entry : RoleEntry) (forceRefresh : Bool) : Broker :=
  { world with
    mints := world.mints ++ [{ id := world.started, entry }]
    started := world.started + 1
    inflight := Function.update world.inflight entry.role (some world.started)
    waiting := world.waiting ++
      [⟨entry.role, world.started, forceRefresh, world.floor entry.role⟩] }

def Broker.joinOrMint (entry : RoleEntry) : Broker :=
  match world.inflight entry.role with
  | some pending =>
    { world with
      waiting := world.waiting ++ [⟨entry.role, pending, false, world.floor entry.role⟩] }
  | none => world.mintGrant entry false

/-- A role without a mapping throws, and changes nothing. -/
def Broker.resolveToken (role : String) (forceRefresh : Bool) (nowSeconds : Rat) :
    Broker :=
  let key := jsTrim role
  match if key = "" then none else config.entry key with
  | none => world
  | some entry =>
    if forceRefresh then world.mintGrant entry true
    else
      match world.cache key with
      | some cached =>
        if config.isFresh cached nowSeconds then
          { world with served := world.served ++ [⟨key, world.floor key, cached, some nowSeconds⟩] }
        else { world with cache := Function.update world.cache key none }.joinOrMint entry
      | none => world.joinOrMint entry

def Broker.invalidate (role : String) : Broker :=
  { world with
    cache := Function.update world.cache (jsTrim role) none
    floor := Function.update world.floor (jsTrim role) world.started }

/-- A mint ends: its grant, if any, is kept, and given to the calls that wait for it. -/
def Broker.completed (mint : Minting) (expiresAt : Option (Option Rat)) : Broker :=
  let key := mint.entry.role
  let grant := expiresAt.map fun expiresAt => (⟨mint.entry, mint.id, expiresAt⟩ : Grant)
  let own := world.waiting.filter fun call => call.mint = mint.id
  { world with
    cache := grant.elim world.cache fun grant => Function.update world.cache key (some grant)
    mints := world.mints.filter fun other => other ≠ mint
    inflight := if world.inflight key = some mint.id then Function.update world.inflight key none
      else world.inflight
    waiting := world.waiting.filter fun call => call.mint ≠ mint.id
    floor := if grant.isSome && own.any (·.forceRefresh) then
        Function.update world.floor key (max (world.floor key) mint.id)
      else world.floor
    served := world.served ++ grant.toList.flatMap fun grant =>
      own.map fun call => ⟨call.key, call.floor, grant, none⟩ }

inductive BrokerEvent where
  | resolveToken (role : String) (forceRefresh : Bool) (nowSeconds : Rat)
  | invalidate (role : String)
  /-- A mint ends, with the time its grant expires at or with an error. -/
  | completed (id : Nat) (expiresAt : Option (Option Rat))

def Broker.step : BrokerEvent → Broker
  | .resolveToken role forceRefresh nowSeconds =>
    world.resolveToken config role forceRefresh nowSeconds
  | .invalidate role => world.invalidate role
  | .completed id expiresAt =>
    (world.mints.find? fun mint => mint.id = id).elim world fun mint =>
      world.completed mint expiresAt

/-- No role is invalidated, or refreshed by force, while a mint of it is under way. -/
def Broker.careful : BrokerEvent → Bool
  | .resolveToken role true _ | .invalidate role =>
    world.mints.all fun mint => mint.entry.role ≠ jsTrim role
  | _ => true

def Careful : Broker → List BrokerEvent → Prop
  | _, [] => True
  | world, event :: events =>
    world.careful event = true ∧ Careful (world.step config event) events

end

/-- A call got a grant of its own role's entry, not of an older mint, and not a stale one. -/
structure Served.Sound (config : BrokerConfig) (served : Served) : Prop where
  own : config.entry served.key = some served.grant.entry
  current : served.floor ≤ served.grant.mint
  fresh : ∀ nowSeconds, served.at_ = some nowSeconds → ∃ expiresAt,
    served.grant.expiresAt = some expiresAt ∧
      config.refreshLeadSeconds < expiresAt - nowSeconds

/-- A mint is its role's only one, and young enough for every later call. -/
structure MintFits (config : BrokerConfig) (floor : String → Nat) (inflight : String → Option Nat)
    (started : Nat) (mint : Minting) : Prop where
  named : config.entry mint.entry.role = some mint.entry
  current : floor mint.entry.role ≤ mint.id
  landed : inflight mint.entry.role = some mint.id
  begun : mint.id < started

/-- A call may wait for a mint under a role's name. -/
def MayWait (mints : List Minting) (key : String) (floor id : Nat) : Prop :=
  floor ≤ id ∧ ∃ mint ∈ mints, mint.id = id ∧ mint.entry.role = key

/-- What holds while no mint of a role overlaps another, or an invalidation of the role. -/
structure BrokerInv (config : BrokerConfig) (world : Broker) : Prop where
  mints : ∀ mint ∈ world.mints, MintFits config world.floor world.inflight world.started mint
  distinct : ∀ one ∈ world.mints, ∀ two ∈ world.mints, one.id = two.id → one = two
  flight : ∀ role id, world.inflight role = some id → MayWait world.mints role (world.floor role) id
  waits : ∀ call ∈ world.waiting, MayWait world.mints call.key call.floor call.mint
  kept : ∀ role grant, world.cache role = some grant →
    config.entry role = some grant.entry ∧ world.floor role ≤ grant.mint
  floors : ∀ role, world.floor role ≤ world.started
  sound : ∀ served ∈ world.served, served.Sound config

namespace BrokerInv

variable {config : BrokerConfig} {world : Broker} {entry : RoleEntry} {mint : Minting}

theorem mintGrant (inv : BrokerInv config world) (named : config.entry entry.role = some entry)
    (free : ∀ mint ∈ world.mints, mint.entry.role ≠ entry.role) (forceRefresh : Bool) :
    BrokerInv config (world.mintGrant entry forceRefresh) := by
  have newest : (⟨world.started, entry⟩ : Minting) ∈ (world.mintGrant entry forceRefresh).mints :=
    List.mem_append_right _ List.mem_cons_self
  have own : MayWait (world.mintGrant entry forceRefresh).mints entry.role (world.floor entry.role)
      world.started := ⟨inv.floors _, _, newest, rfl, rfl⟩
  have still {key : String} {floor id : Nat} (may : MayWait world.mints key floor id) :
      MayWait (world.mintGrant entry forceRefresh).mints key floor id :=
    may.imp_right fun ⟨mint, old, rest⟩ => ⟨mint, List.mem_append_left _ old, rest⟩
  have begun (mint) (old : mint ∈ world.mints) := Nat.ne_of_lt (inv.mints mint old).begun
  refine { inv with mints := ?_, distinct := ?_, flight := ?_, waits := ?_, floors := ?_ }
  · intro mint there
    rcases List.mem_append.mp there with old | new
    · have fits := inv.mints mint old
      exact { fits with
        landed := (Function.update_of_ne (free mint old) ..).trans fits.landed
        begun := Nat.lt_succ_of_lt fits.begun }
    · obtain rfl := List.mem_singleton.mp new
      exact ⟨named, inv.floors _, Function.update_self .., Nat.lt_succ_self _⟩
  · simp only [Broker.mintGrant, List.mem_append, List.mem_singleton]
    rintro one (first | rfl) two (second | rfl) same
    · exact inv.distinct one first two second same
    · exact absurd same (begun one first)
    · exact absurd same.symm (begun two second)
    · rfl
  · intro role id shared
    by_cases same : role = entry.role
    · subst same
      obtain rfl : world.started = id := by simpa [Broker.mintGrant] using shared
      exact own
    · exact still (inv.flight role id ((Function.update_of_ne same ..).symm.trans shared))
  · intro call there
    rcases List.mem_append.mp there with old | new
    · exact still (inv.waits call old)
    · obtain rfl := List.mem_singleton.mp new
      exact own
  · exact fun role => Nat.le_succ_of_le (inv.floors role)

theorem joinOrMint (inv : BrokerInv config world) (named : config.entry entry.role = some entry) :
    BrokerInv config (world.joinOrMint entry) := by
  unfold Broker.joinOrMint
  split
  · rename_i pending shared
    refine { inv with waits := fun call there => ?_ }
    rcases List.mem_append.mp there with old | new
    · exact inv.waits call old
    · obtain rfl := List.mem_singleton.mp new
      exact inv.flight _ _ shared
  · rename_i none_
    refine inv.mintGrant named (fun mint there same => ?_) false
    rw [← same, (inv.mints mint there).landed] at none_
    cases none_

theorem drop (inv : BrokerInv config world) (key : String) :
    BrokerInv config { world with cache := Function.update world.cache key none } where
  __ := inv
  kept role grant stored := by
    by_cases own : role = key
    · simp [own] at stored
    · exact inv.kept role grant (by simpa [own] using stored)

theorem invalidate (inv : BrokerInv config world) {role : String}
    (careful : ∀ mint ∈ world.mints, mint.entry.role ≠ jsTrim role) :
    BrokerInv config (world.invalidate role) := by
  have kept (other : String) : world.floor other = (world.invalidate role).floor other ∨
      other = jsTrim role := by
    by_cases own : other = jsTrim role
    · exact .inr own
    · exact .inl (Function.update_of_ne own ..).symm
  refine { inv.drop (jsTrim role) with
    mints := ?_, flight := ?_, kept := ?_, floors := ?_ }
  · intro mint there
    have fits := inv.mints mint there
    refine { fits with current := ?_ }
    rw [← (kept mint.entry.role).resolve_right (careful mint there)]
    exact fits.current
  · intro other id shared
    have may := inv.flight other id shared
    obtain same | rfl := kept other
    · rw [← same]
      exact may
    · obtain ⟨-, mint, there, -, own⟩ := may
      exact absurd own (careful mint there)
  · intro other grant stored
    have dropped := (inv.drop (jsTrim role)).kept other grant stored
    obtain same | rfl := kept other
    · rw [← same]
      exact dropped
    · simp [Broker.invalidate] at stored
  · intro other
    obtain same | rfl := kept other
    · rw [← same]
      exact inv.floors other
    · exact (Function.update_self ..).le

theorem resolveToken (inv : BrokerInv config world) {role : String} {forceRefresh : Bool}
    (careful : forceRefresh = true → ∀ mint ∈ world.mints, mint.entry.role ≠ jsTrim role)
    (nowSeconds : Rat) :
    BrokerInv config (world.resolveToken config role forceRefresh nowSeconds) := by
  unfold Broker.resolveToken
  dsimp only
  split
  · exact inv
  · rename_i entry found
    have found : config.entry (jsTrim role) = some entry := by
      split at found
      · cases found
      · exact found
    have own : entry.role = jsTrim role := by simpa using List.find?_some found
    have named : config.entry entry.role = some entry := own.symm ▸ found
    split
    · rename_i force
      exact inv.mintGrant named (own.symm ▸ careful force) true
    split
    · rename_i cached stored
      split
      · rename_i fresh
        refine { inv with sound := ?_ }
        simp only [List.mem_append, List.mem_singleton]
        rintro served (old | rfl)
        · exact inv.sound served old
        · have kept := inv.kept _ _ stored
          refine ⟨kept.1, kept.2, ?_⟩
          rintro _ ⟨⟩
          obtain ⟨expiresAt, same, later⟩ := (Option.any_eq_true _ _).mp fresh
          refine ⟨expiresAt, same, ?_⟩
          simp only [decide_eq_true_eq] at later
          linarith
      · exact (inv.drop _).joinOrMint named
    · exact inv.joinOrMint named

theorem completed (inv : BrokerInv config world) (there : mint ∈ world.mints)
    (expiresAt : Option (Option Rat)) : BrokerInv config (world.completed mint expiresAt) := by
  have fits := inv.mints mint there
  have single {other : Minting} (listed : other ∈ world.mints) (apart : other ≠ mint) :
      other.entry.role ≠ mint.entry.role := fun same => apart <| inv.distinct other listed mint
    there (Option.some.inj ((inv.mints other listed).landed.symm.trans (same ▸ fits.landed)))
  have left {other : Minting} (listed : other ∈ (world.completed mint expiresAt).mints) :
      other ∈ world.mints ∧ other.entry.role ≠ mint.entry.role := by
    obtain ⟨listed, apart⟩ := List.mem_filter.mp listed
    exact ⟨listed, single listed (by simpa using apart)⟩
  have elsewhere {role : String} (apart : role ≠ mint.entry.role) :
      (world.completed mint expiresAt).inflight role = world.inflight role ∧
        (world.completed mint expiresAt).floor role = world.floor role := by
    simp only [Broker.completed]
    constructor <;> split <;> first | exact Function.update_of_ne apart .. | rfl
  have floor : (world.completed mint expiresAt).floor mint.entry.role ≤ mint.id := by
    simp only [Broker.completed]
    split
    · rw [Function.update_self]
      exact max_le fits.current le_rfl
    · exact fits.current
  have still {key : String} {floor id : Nat} (may : MayWait world.mints key floor id)
      (apart : id ≠ mint.id) : MayWait (world.completed mint expiresAt).mints key floor id := by
    obtain ⟨young, other, listed, rfl, rfl⟩ := may
    have differs : other ≠ mint := fun same => apart (congrArg Minting.id same)
    exact ⟨young, other, List.mem_filter.mpr ⟨listed, by simpa using differs⟩, rfl, rfl⟩
  constructor
  · intro other listed
    obtain ⟨old, apart⟩ := left listed
    have fits := inv.mints other old
    refine ⟨fits.named, ?_, ?_, fits.begun⟩
    · rw [(elsewhere apart).2]
      exact fits.current
    · rw [(elsewhere apart).1]
      exact fits.landed
  · exact fun one first two second => inv.distinct one (left first).1 two (left second).1
  · intro role id shared
    by_cases own : role = mint.entry.role
    · subst own
      simp [Broker.completed, fits.landed] at shared
    · rw [(elsewhere own).1] at shared
      rw [(elsewhere own).2]
      have may := inv.flight role id shared
      refine still may fun same => own ?_
      obtain ⟨-, other, listed, ofId, rfl⟩ := may
      rw [inv.distinct other listed mint there (ofId.trans same)]
  · intro call listed
    obtain ⟨listed, apart⟩ := List.mem_filter.mp listed
    exact still (inv.waits call listed) (by simpa using apart)
  · intro role grant stored
    by_cases own : role = mint.entry.role
    · subst own
      cases expiresAt with
      | none => exact inv.kept _ grant stored
      | some expiresAt =>
        obtain rfl : ⟨mint.entry, mint.id, expiresAt⟩ = grant := by
          simpa [Broker.completed] using stored
        exact ⟨fits.named, floor⟩
    · rw [(elsewhere own).2]
      refine inv.kept role grant ?_
      cases expiresAt with
      | none => exact stored
      | some expiresAt => exact (Function.update_of_ne own ..).symm.trans stored
  · intro role
    by_cases own : role = mint.entry.role
    · subst own
      exact floor.trans fits.begun.le
    · rw [(elsewhere own).2]
      exact inv.floors role
  · intro served listed
    obtain old | new := List.mem_append.mp listed
    · exact inv.sound served old
    obtain ⟨grant, given, new⟩ := List.mem_flatMap.mp new
    obtain ⟨call, waited, rfl⟩ := List.mem_map.mp new
    obtain ⟨waited, same⟩ := List.mem_filter.mp waited
    obtain ⟨young, other, there', ofId, ofKey⟩ := inv.waits call waited
    have same : call.mint = mint.id := by simpa using same
    rw [inv.distinct other there' mint there (ofId.trans same)] at ofKey
    cases expiresAt with
    | none => cases given
    | some expiresAt =>
      obtain rfl := List.mem_singleton.mp given
      exact ⟨ofKey ▸ fits.named, same ▸ young, fun _ none_ => nomatch none_⟩

theorem step (inv : BrokerInv config world) {event : BrokerEvent}
    (careful : world.careful event = true) : BrokerInv config (world.step config event) := by
  cases event with
  | resolveToken role forceRefresh nowSeconds =>
    refine inv.resolveToken (fun force mint there => ?_) nowSeconds
    subst force
    simpa using List.all_eq_true.mp careful mint there
  | invalidate role =>
    exact inv.invalidate fun mint there => by simpa using List.all_eq_true.mp careful mint there
  | completed id expiresAt =>
    simp only [Broker.step]
    cases found : world.mints.find? fun mint => mint.id = id with
    | none => exact inv
    | some mint => exact inv.completed (List.mem_of_find?_eq_some found) expiresAt

theorem run (inv : BrokerInv config world) {events : List BrokerEvent}
    (careful : Careful config world events) :
    BrokerInv config (events.foldl (Broker.step config) world) := by
  induction events generalizing world with
  | nil => exact inv
  | cons event events ih => exact ih (inv.step careful.1) careful.2

end BrokerInv

/-- Once a role was invalidated, or refreshed by force, no later call is given the grant of a mint
that began before; every grant is of its role's own entry, and one from the cache is fresh. -/
theorem grants_current (config : BrokerConfig) (events : List BrokerEvent)
    (careful : Careful config {} events) :
    ∀ served ∈ (events.foldl (Broker.step config) {}).served, served.Sound config := by
  have start : BrokerInv config {} := by constructor <;> simp
  exact (start.run careful).sound

def reviewers : BrokerConfig where
  roles := [{ role := "claude-reviewer", provider := "github_app" },
    { role := "the-hammer", provider := "github_app" }]
  refreshLeadSeconds := 60

def quietInvalidation : List BrokerEvent :=
  [.resolveToken "the-hammer" false 0, .completed 0 (some (some 3600)),
    .invalidate "the-hammer", .resolveToken "the-hammer" false 5]

theorem grants_current_invalidated : Careful reviewers {} quietInvalidation ∧
    ∀ served ∈ (quietInvalidation.foldl (Broker.step reviewers) {}).served,
      served.Sound reviewers := by
  have careful : Careful reviewers {} quietInvalidation := by
    refine ⟨rfl, rfl, ?_, rfl, trivial⟩
    decide
  exact ⟨careful, grants_current reviewers _ careful⟩

/-- A call joins the mint that was under way when its role was invalidated. -/
theorem invalidated_grant_served :
    ¬ ∀ events : List BrokerEvent, ∀ served ∈ (events.foldl (Broker.step reviewers) {}).served,
      served.Sound reviewers := by
  intro sound
  have second : ⟨"the-hammer", 1, ⟨⟨"the-hammer", "github_app"⟩, 0, some 3600⟩, none⟩ ∈
      ([.resolveToken "the-hammer" false 0, .invalidate "the-hammer",
        .resolveToken "the-hammer" false 1, .completed 0 (some (some 3600))].foldl
          (Broker.step reviewers) {}).served := by
    decide
  exact absurd (sound _ _ second).current (by decide)

end AdversarialReview.TokenBroker
