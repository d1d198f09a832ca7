import Mathlib.Logic.Basic
import Mathlib.Order.Defs.Unbundled

/-! Transactions: they commit one new state or throw and commit none, and a rule per construct. -/

def Transaction (ρ σ α : Type) : Type :=
  ρ → σ → Except String (α × σ)

namespace Transaction

variable {ρ σ α β : Type}

instance : Monad (Transaction ρ σ) where
  pure value := fun _ state => .ok (value, state)
  bind first next := fun host state =>
    match first host state with
    | .ok (value, after) => next value host after
    | .error message => .error message

def throw (message : String) : Transaction ρ σ α :=
  fun _ _ => .error message

def refuse (condition : Prop) [Decidable condition] (message : String) : Transaction ρ σ Unit :=
  fun _ state => if condition then .error message else .ok ((), state)

def read (reader : σ → α) : Transaction ρ σ α :=
  fun _ state => .ok (reader state, state)

def ask (reader : ρ → α) : Transaction ρ σ α :=
  fun host state => .ok (reader host, state)

def modify (change : σ → σ) : Transaction ρ σ Unit :=
  fun _ state => .ok ((), change state)

def raise : Except String α → Transaction ρ σ α
  | .ok value => pure value
  | .error message => throw message

def each (body : α → Transaction ρ σ Unit) : List α → Transaction ρ σ Unit
  | [] => pure ()
  | item :: rest => do body item; each body rest

def Commits (tx : Transaction ρ σ α) (host : ρ) (state : σ) (post : α → σ → Prop) : Prop :=
  ∀ value after, tx host state = .ok (value, after) → post value after

theorem ok_of_bind {first : Except String β} {next : β → Except String α} {last : α}
    (done : (first >>= next) = .ok last) : ∃ value, first = .ok value ∧ next value = .ok last := by
  cases first with
  | error message => cases done
  | ok value => exact ⟨value, rfl, done⟩

theorem exists_of_isOk {result : Except String α} (fine : result.isOk = true) :
    ∃ value, result = .ok value := by
  cases result with
  | error message => cases fine
  | ok value => exact ⟨value, rfl⟩

section

variable {host : ρ} {state : σ} {post : α → σ → Prop}

@[simp] theorem commits_pure (value : α) :
    (pure value : Transaction ρ σ α).Commits host state post ↔ post value state := by
  constructor
  · intro commits
    exact commits value state rfl
  · intro holds committed after done
    cases done
    exact holds

@[simp] theorem commits_bind (first : Transaction ρ σ β) (next : β → Transaction ρ σ α) :
    (first >>= next).Commits host state post ↔
      first.Commits host state fun value after => (next value).Commits host after post := by
  constructor
  · intro commits value after done last final ended
    -- The whole commits what its second half commits from where the first one committed.
    refine commits last final ?_
    show (match first host state with
      | .ok (value, after) => next value host after
      | .error message => .error message) = _
    rw [done]
    exact ended
  · intro commits last final done
    change (match first host state with
      | .ok (value, after) => next value host after
      | .error message => .error message) = _ at done
    cases began : first host state with
    | error message => rw [began] at done; cases done
    | ok pair =>
      rw [began] at done
      exact commits pair.1 pair.2 began last final done

@[simp] theorem commits_throw (message : String) :
    (throw message : Transaction ρ σ α).Commits host state post ↔ True := by
  refine iff_true_intro ?_
  intro value after done
  cases done

@[simp] theorem commits_refuse (condition : Prop) [Decidable condition] (message : String)
    {post : Unit → σ → Prop} :
    (refuse condition message : Transaction ρ σ Unit).Commits host state post ↔
      (¬condition → post () state) := by
  by_cases holds : condition
  · -- A refused transaction commits nothing.
    refine iff_of_true ?_ fun fails => absurd holds fails
    intro value after done
    simp only [refuse, if_pos holds] at done
    cases done
  · constructor
    · intro commits _
      exact commits () state (by simp only [refuse, if_neg holds])
    · intro given value after done
      simp only [refuse, if_neg holds] at done
      cases done
      exact given holds

@[simp] theorem commits_read (reader : σ → α) :
    (read reader : Transaction ρ σ α).Commits host state post ↔ post (reader state) state := by
  constructor
  · intro commits
    exact commits (reader state) state rfl
  · intro holds value after done
    cases done
    exact holds

@[simp] theorem commits_ask (reader : ρ → α) :
    (ask reader : Transaction ρ σ α).Commits host state post ↔ post (reader host) state := by
  constructor
  · intro commits
    exact commits (reader host) state rfl
  · intro holds value after done
    cases done
    exact holds

@[simp] theorem commits_modify (change : σ → σ) {post : Unit → σ → Prop} :
    (modify change : Transaction ρ σ Unit).Commits host state post ↔ post () (change state) := by
  constructor
  · intro commits
    exact commits () (change state) rfl
  · intro holds value after done
    cases done
    exact holds

@[simp] theorem commits_raise (result : Except String α) :
    (raise result : Transaction ρ σ α).Commits host state post ↔
      ∀ value, result = .ok value → post value state := by
  cases result with
  | ok value => simp [raise]
  | error message => simp [raise]

@[simp] theorem commits_ite (condition : Prop) [Decidable condition]
    (first second : Transaction ρ σ α) :
    (if condition then first else second).Commits host state post ↔
      (condition → first.Commits host state post) ∧
        (¬condition → second.Commits host state post) := by
  by_cases holds : condition <;> simp [holds]

theorem Commits.mono {tx : Transaction ρ σ α} {weaker : α → σ → Prop}
    (commits : tx.Commits host state post) (implies : ∀ value after, post value after →
      weaker value after) : tx.Commits host state weaker :=
  fun value after done => implies value after (commits value after done)

end

section

variable {host : ρ} {state : σ} {post : String → Prop}

def Throws (tx : Transaction ρ σ α) (host : ρ) (state : σ) (post : String → Prop) : Prop :=
  ∀ message, tx host state = .error message → post message

@[simp] theorem throws_pure (value : α) :
    (pure value : Transaction ρ σ α).Throws host state post := by
  rintro message ⟨⟩

@[simp] theorem throws_throw (message : String) :
    (throw message : Transaction ρ σ α).Throws host state post ↔ post message := by
  constructor
  · exact fun throws => throws message rfl
  · rintro holds _ ⟨⟩
    exact holds

@[simp] theorem throws_read (reader : σ → α) :
    (read reader : Transaction ρ σ α).Throws host state post := by
  rintro message ⟨⟩

@[simp] theorem throws_ask (reader : ρ → α) :
    (ask reader : Transaction ρ σ α).Throws host state post := by
  rintro message ⟨⟩

@[simp] theorem throws_modify (change : σ → σ) :
    (modify change : Transaction ρ σ Unit).Throws host state post := by
  rintro message ⟨⟩

@[simp] theorem throws_refuse (condition : Prop) [Decidable condition] (message : String) :
    (refuse condition message : Transaction ρ σ Unit).Throws host state post ↔
      (condition → post message) := by
  unfold Throws refuse
  by_cases holds : condition <;> simp [holds]

@[simp] theorem throws_raise (result : Except String α) :
    (raise result : Transaction ρ σ α).Throws host state post ↔
      ∀ message, result = .error message → post message := by
  cases result with
  | ok value => exact ⟨fun _ _ failed => (by cases failed), fun _ => throws_pure value⟩
  | error message => simp [raise]

@[simp] theorem throws_bind {first : Transaction ρ σ β} {next : β → Transaction ρ σ α} :
    (first >>= next).Throws host state post ↔
      first.Throws host state post ∧
        first.Commits host state fun value after => (next value).Throws host after post := by
  change (∀ message, (match first host state with
    | .ok (value, after) => next value host after
    | .error message => .error message) = .error message → post message) ↔ _
  cases done : first host state with
  | error failed =>
    constructor
    · intro throws
      refine ⟨fun message same => throws message (by simpa [done] using same), ?_⟩
      intro value after committed
      rw [done] at committed
      cases committed
    · rintro ⟨throws, -⟩ message same
      exact throws message (by simpa [done] using same)
  | ok pair =>
    constructor
    · intro throws
      refine ⟨fun message same => ?_, ?_⟩
      · rw [done] at same
        cases same
      · intro value after committed
        rw [done] at committed
        cases committed
        exact throws
    · rintro ⟨-, follows⟩
      exact follows pair.1 pair.2 done

end

section

variable {host : ρ} {state : σ} {next : β → Transaction ρ σ α}

theorem bind_of_ok {first : Transaction ρ σ β} {value : β} {after : σ}
    (done : first host state = .ok (value, after)) :
    (first >>= next) host state = next value host after := by
  change (match first host state with
    | .ok (value, after) => next value host after
    | .error message => .error message) = _
  rw [done]

@[simp] theorem bind_raise_ok (value : β) :
    ((raise (.ok value) : Transaction ρ σ β) >>= next) host state = next value host state := rfl

@[simp] theorem bind_read (reader : σ → β) :
    ((read reader : Transaction ρ σ β) >>= next) host state = next (reader state) host state := rfl

@[simp] theorem bind_ask (reader : ρ → β) :
    ((ask reader : Transaction ρ σ β) >>= next) host state = next (reader host) host state := rfl

@[simp] theorem bind_modify (change : σ → σ) {next : Unit → Transaction ρ σ α} :
    ((modify change : Transaction ρ σ Unit) >>= next) host state =
      next () host (change state) := rfl

theorem bind_refuse {condition : Prop} [Decidable condition] {message : String}
    {next : Unit → Transaction ρ σ α} (holds : ¬condition) :
    ((refuse condition message : Transaction ρ σ Unit) >>= next) host state =
      next () host state :=
  bind_of_ok (by simp only [refuse, if_neg holds])

@[simp] theorem pure_apply (value : α) :
    (pure value : Transaction ρ σ α) host state = .ok (value, state) := rfl

theorem throws_of_commits {tx : Transaction ρ σ α}
    (never : tx.Commits host state fun _ _ => False) :
    ∃ message, tx host state = .error message := by
  cases done : tx host state with
  | error message => exact ⟨message, rfl⟩
  | ok pair => exact (never pair.1 pair.2 done).elim

end

def Keeps (relates : σ → σ → Prop) (tx : Transaction ρ σ α) : Prop :=
  ∀ host state, tx.Commits host state fun _ after => relates state after

section

variable {relates : σ → σ → Prop}

theorem Keeps.throw (message : String) :
    Keeps relates (Transaction.throw message : Transaction ρ σ α) := by
  intro host state
  simp

theorem Keeps.modify {change : σ → σ} (related : ∀ state, relates state (change state)) :
    Keeps relates (Transaction.modify change : Transaction ρ σ Unit) := by
  intro host state
  simpa using related state

theorem Keeps.bind [IsTrans σ relates] {first : Transaction ρ σ β} {next : β → Transaction ρ σ α}
    (early : Keeps relates first) (late : ∀ value, Keeps relates (next value)) :
    Keeps relates (first >>= next) := by
  intro host state
  rw [commits_bind]
  refine (early host state).mono ?_
  intro value middle began
  refine (late value host middle).mono ?_
  intro last after ended
  exact IsTrans.trans state middle after began ended

variable [Std.Refl relates]

theorem Keeps.pure (value : α) : Keeps relates (pure value : Transaction ρ σ α) := by
  intro host state
  simpa using Std.Refl.refl state

theorem Keeps.read (reader : σ → α) :
    Keeps relates (Transaction.read reader : Transaction ρ σ α) := by
  intro host state
  simpa using Std.Refl.refl state

theorem Keeps.ask (reader : ρ → α) :
    Keeps relates (Transaction.ask reader : Transaction ρ σ α) := by
  intro host state
  simpa using Std.Refl.refl state

theorem Keeps.refuse (condition : Prop) [Decidable condition] (message : String) :
    Keeps relates (Transaction.refuse condition message : Transaction ρ σ Unit) := by
  intro host state
  simpa using fun _ => Std.Refl.refl state

theorem Keeps.raise (result : Except String α) :
    Keeps relates (Transaction.raise result : Transaction ρ σ α) := by
  intro host state
  simpa using fun _ _ => Std.Refl.refl state

theorem Keeps.each [IsTrans σ relates] {body : α → Transaction ρ σ Unit}
    (kept : ∀ item, Keeps relates (body item))
    (items : List α) : Keeps relates (Transaction.each body items) := by
  induction items with
  | nil => exact Keeps.pure ()
  | cons item rest ih => exact Keeps.bind (kept item) fun _ => ih

end

end Transaction
