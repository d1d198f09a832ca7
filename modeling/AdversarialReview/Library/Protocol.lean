import AdversarialReview.Library.Interleaving

/-! Protocols: the stages of interleaved threads, and what the shared state says of each. -/

universe u

namespace Interleaved

variable {ι Env Ext σ V : Type} {E : Type → Type u}

/-- Which effects a stage allows, where an answer leads, and what the state owes a thread in it. -/
structure Protocol (sys : Interleaved ι Env Ext σ E) (V : Type) where
  allowed : {β : Type} → E β → V → Prop
  next : {β : Type} → E β → β → V → V
  fits : σ → ι → V → Prop
  own : ∀ {β : Type} (effect : E β) {env thread state stage}, allowed effect stage →
    fits state thread stage → fits (sys.perform env thread effect state).2 thread
      (next effect (sys.perform env thread effect state).1 stage)
  others : ∀ {β : Type} (effect : E β) {env thread other state stage}, other ≠ thread →
    fits state other stage → fits (sys.perform env thread effect state).2 other stage
  external : ∀ {change thread state stage}, fits state thread stage →
    fits (sys.external change state) thread stage
  dead : ∀ thread state, ∃ stage, fits (sys.crash thread state) thread stage
  bereft : ∀ {thread other state stage}, other ≠ thread → fits state other stage →
    fits (sys.crash thread state) other stage

variable {sys : Interleaved ι Env Ext σ E}

/-- Every thread is in a stage that the state fits and that its program goes on from. -/
def Follows (protocol : Protocol sys V) (config : Config ι σ E) : Prop :=
  ∀ thread, ∃ stage, protocol.fits config.shared thread stage ∧
    (config.threads thread).Guarded protocol.allowed protocol.next (fun _ _ => True) stage

variable [DecidableEq ι] {protocol : Protocol sys V} {config : Config ι σ E}

theorem Follows.move (follows : Follows protocol config) (choice : Move ι Env Ext) :
    Follows protocol (sys.move config choice) := by
  intro other
  obtain ⟨seen, fits, guarded⟩ := follows other
  cases choice with
  | external change => exact ⟨seen, protocol.external fits, guarded⟩
  | crash thread =>
    by_cases same : other = thread
    · subst same
      obtain ⟨stage, fits⟩ := protocol.dead other config.shared
      exact ⟨stage, fits, by simp [Interleaved.move, Prog.Guarded]⟩
    · exact ⟨seen, protocol.bereft same fits, by simpa [Interleaved.move, same] using guarded⟩
  | run thread env =>
    obtain ⟨stage, fitsToo, own⟩ := follows thread
    cases running : config.threads thread with
    | step effect rest =>
      rw [running] at own
      simp only [Interleaved.move, running]
      by_cases same : other = thread
      · subst same
        exact ⟨_, protocol.own effect own.1 fitsToo, by simpa using own.2 _⟩
      · exact ⟨seen, protocol.others effect same fits, by simpa [same] using guarded⟩
    | _ => exact ⟨seen, by simpa only [Interleaved.move, running] using ⟨fits, guarded⟩⟩

theorem Follows.runMoves (follows : Follows protocol config) (moves : List (Move ι Env Ext)) :
    Follows protocol (sys.runMoves config moves) := by
  induction moves generalizing config with
  | nil => exact follows
  | cons first moves ih => exact ih (follows.move first)

end Interleaved
