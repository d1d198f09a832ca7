import AdversarialReview.Library.Relaxation
import AdversarialReview.Ama.Evidence

/-! Attestation chains: a chain from a reviewed head to the current one is found exactly where a path
of attested steps exists. -/

namespace AdversarialReview.Ama

def provenanceValues (body key : String) : List String :=
  (linesMarked (key ++ ":") body).map fun line =>
    jsTrim (String.ofList (line.toList.drop (key.length + 1)))

def hammerProvenanceEdge (comment : AuditComment) : Option (Edge String) :=
  if plainLogin comment.author = "clio-airlock" ∨
      hamAuditCommentAuthorMatches comment.author = false then none
  else
    let bases := provenanceValues comment.body "HAM-Base-Head"
    let validated := provenanceValues comment.body "HAM-Validated-Head"
    let pushed := provenanceValues comment.body "HAM-Pushed-Head"
    match bases, validated, pushed with
    | [base], [head], [] =>
      if base ≠ "" ∧ head ≠ "" ∧ exactHammerValidation (some comment) head = true then
        some ⟨base, head⟩
      else none
    | [base], [], [head] => if base ≠ "" ∧ head ≠ "" then some ⟨base, head⟩ else none
    | _, _, _ => none

structure RemediationRound where
  state : String
  startHeadSha : String := ""
  resultingHeadSha : String := ""

def completedRoundEdge (round : RemediationRound) : Option (Edge String) :=
  if round.state = "completed" ∧ round.startHeadSha ≠ "" ∧ round.resultingHeadSha ≠ "" then
    some ⟨round.startHeadSha, round.resultingHeadSha⟩
  else none

def attestationEdges (comments : List AuditComment) (currentHead : String)
    (remediationRounds : List RemediationRound) : List (Edge String) :=
  comments.filterMap hammerProvenanceEdge ++
    (remediationRounds.filterMap completedRoundEdge).filter fun edge => edge.head ≠ currentHead

def hammerAttestationChain (comments : List AuditComment) (reviewedHead currentHead : String)
    (remediationRounds : List RemediationRound) : Option (List String) :=
  if reviewedHead = "" ∨ currentHead = "" ∨ currentHead = reviewedHead then none
  else
    let trusted := Edge.relax (attestationEdges comments currentHead remediationRounds) reviewedHead
    match trusted.get? currentHead with
    | some (first :: rest) => some (first :: rest)
    | _ => none

def HammerStep (comments : List AuditComment) (base head : String) : Prop :=
  ∃ comment ∈ comments, hammerProvenanceEdge comment = some ⟨base, head⟩

def AttestedStep (comments : List AuditComment) (rounds : List RemediationRound)
    (base head : String) : Prop :=
  HammerStep comments base head ∨ ∃ round ∈ rounds, completedRoundEdge round = some ⟨base, head⟩

/--
A path of attested steps from one head to another, the last of them a hammer's.

No head is on it twice; so the current one is only entered at the end.
-/
def AttestedPath (comments : List AuditComment) (rounds : List RemediationRound)
    (reviewedHead currentHead : String) (path : List String) : Prop :=
  (reviewedHead :: path).IsChain (AttestedStep comments rounds) ∧ (reviewedHead :: path).Nodup ∧
    ∃ front base, reviewedHead :: path = front ++ [base, currentHead] ∧
      HammerStep comments base currentHead

section

variable {comments : List AuditComment} {rounds : List RemediationRound} {currentHead : String}

theorem mem_attestationEdges {base head : String} :
    ⟨base, head⟩ ∈ attestationEdges comments currentHead rounds ↔
      HammerStep comments base head ∨
        head ≠ currentHead ∧ ∃ round ∈ rounds, completedRoundEdge round = some ⟨base, head⟩ := by
  simp [attestationEdges, HammerStep, and_comm]

theorem attestedStep_of_mem {base head : String}
    (listed : ⟨base, head⟩ ∈ attestationEdges comments currentHead rounds) :
    AttestedStep comments rounds base head := by
  rcases mem_attestationEdges.1 listed with hammer | ⟨-, round⟩
  · exact .inl hammer
  · exact .inr round

variable {path : List String}

theorem chain_of_away (walked : path.IsChain (AttestedStep comments rounds))
    (away : currentHead ∉ path) :
    path.IsChain fun base head => ⟨base, head⟩ ∈ attestationEdges comments currentHead rounds := by
  induction path with
  | nil => exact .nil
  | cons first rest ih =>
    cases rest with
    | nil => exact .singleton _
    | cons second rest =>
      obtain ⟨step, later⟩ := List.isChain_cons_cons.mp walked
      refine List.isChain_cons_cons.mpr ⟨mem_attestationEdges.2 ?_, ih later ?_⟩
      · rcases step with hammer | round
        · exact .inl hammer
        · refine .inr ⟨?_, round⟩
          rintro rfl
          exact away (by simp)
      · exact fun inside => away (List.mem_cons_of_mem _ inside)

theorem AttestedPath.walked {reviewedHead : String}
    (attested : AttestedPath comments rounds reviewedHead currentHead path) :
    Edge.Path (attestationEdges comments currentHead rounds) reviewedHead path ∧
      currentHead ∈ reviewedHead :: path := by
  obtain ⟨steps, distinct, front, base, split, last⟩ := attested
  unfold Edge.Path
  rw [split] at steps distinct ⊢
  have shape : front ++ [base, currentHead] = (front ++ [base]) ++ [currentHead] := by simp
  rw [shape] at steps distinct ⊢
  -- Before the end the path stays away from the current head.
  have away : currentHead ∉ front ++ [base] := by
    intro inside
    exact (List.nodup_append.mp distinct).2.2 currentHead inside currentHead (by simp) rfl
  refine ⟨List.isChain_append.mpr ⟨chain_of_away (List.isChain_append.mp steps).1 away, by simp,
    ?_⟩, by simp⟩
  intro one listed two only
  simp only [List.getLast?_append, List.getLast?_singleton, Option.some_or, Option.mem_def,
    Option.some.injEq] at listed
  simp only [List.head?_cons, Option.mem_def, Option.some.injEq] at only
  rw [← listed, ← only]
  exact mem_attestationEdges.2 (.inl last)

theorem attestedPath_of_simple {reviewedHead : String} (apart : reviewedHead ≠ currentHead)
    (simple : Edge.SimplePath (attestationEdges comments currentHead rounds) reviewedHead path)
    (last : (reviewedHead :: path).getLast (by simp) = currentHead) :
    AttestedPath comments rounds reviewedHead currentHead path := by
  obtain ⟨walked, distinct⟩ := simple
  refine ⟨walked.imp fun _ _ => attestedStep_of_mem, distinct, ?_⟩
  have nonempty : path ≠ [] := by
    rintro rfl
    exact apart (by simpa using last)
  have front := List.dropLast_append_getLast nonempty
  have ends : path.getLast nonempty = currentHead := by
    rw [← last, List.getLast_cons nonempty]
  rw [ends] at front
  obtain ⟨before, base, split⟩ : ∃ before base, reviewedHead :: path.dropLast = before ++ [base] :=
    ⟨_, _, (List.dropLast_append_getLast (by simp)).symm⟩
  have shape : reviewedHead :: path = before ++ [base, currentHead] := by
    rw [← front, ← List.cons_append, split]
    simp
  refine ⟨before, base, shape, ?_⟩
  unfold Edge.Path at walked
  rw [shape, List.isChain_append_cons_cons] at walked
  rcases mem_attestationEdges.1 walked.2.1 with hammer | ⟨other, -⟩
  · exact hammer
  · exact absurd rfl other

end

theorem AttestedPath.perm {comments others : List AuditComment}
    {rounds otherRounds : List RemediationRound} {reviewedHead currentHead : String}
    {path : List String} (sameComments : comments.Perm others)
    (sameRounds : rounds.Perm otherRounds)
    (attested : AttestedPath comments rounds reviewedHead currentHead path) :
    AttestedPath others otherRounds reviewedHead currentHead path := by
  have hammer : ∀ base head, HammerStep comments base head → HammerStep others base head := by
    rintro base head ⟨comment, listed, edge⟩
    exact ⟨comment, sameComments.mem_iff.mp listed, edge⟩
  obtain ⟨steps, distinct, front, base, split, last⟩ := attested
  refine ⟨steps.imp ?_, distinct, front, base, split, hammer _ _ last⟩
  rintro one two (step | ⟨round, listed, edge⟩)
  · exact .inl (hammer _ _ step)
  · exact .inr ⟨round, sameRounds.mem_iff.mp listed, edge⟩

section

variable {comments : List AuditComment} {rounds : List RemediationRound}
  {reviewedHead currentHead : String}

theorem attestedPath_of_chain {chain : List String}
    (found : hammerAttestationChain comments reviewedHead currentHead rounds = some chain) :
    AttestedPath comments rounds reviewedHead currentHead chain := by
  unfold hammerAttestationChain at found
  split_ifs at found with refused
  have apart : reviewedHead ≠ currentHead := fun same => refused (.inr (.inr same.symm))
  dsimp only at found
  split at found
  next first rest at_ =>
    cases found
    obtain ⟨simple, last⟩ := Edge.relax_sound at_
    exact attestedPath_of_simple apart simple last
  next => cases found

theorem exists_chain_of_path (named : reviewedHead ≠ "") (current : currentHead ≠ "")
    (apart : reviewedHead ≠ currentHead) {path : List String}
    (attested : AttestedPath comments rounds reviewedHead currentHead path) :
    ∃ chain, hammerAttestationChain comments reviewedHead currentHead rounds = some chain := by
  obtain ⟨walked, on⟩ := attested.walked
  obtain ⟨found, at_⟩ := Edge.relax_complete walked on
  have accepted : ¬ (reviewedHead = "" ∨ currentHead = "" ∨ currentHead = reviewedHead) := by
    simp [named, current, apart.symm]
  cases found with
  | nil =>
    obtain ⟨-, last⟩ := Edge.relax_sound at_
    exact absurd (by simpa using last) apart
  | cons first rest => exact ⟨first :: rest, by simp [hammerAttestationChain, accepted, at_]⟩

/--
A chain is found exactly where attested steps lead from the reviewed head to the current one and
the last is a hammer's. It is such a path, and the order of comments and rounds decides nothing.
-/
theorem hammerAttestationChain_iff_path (comments : List AuditComment)
    (rounds : List RemediationRound) (named : reviewedHead ≠ "") (current : currentHead ≠ "")
    (apart : reviewedHead ≠ currentHead) :
    ((hammerAttestationChain comments reviewedHead currentHead rounds).isSome = true ↔
      ∃ path, AttestedPath comments rounds reviewedHead currentHead path) ∧
    (∀ chain, hammerAttestationChain comments reviewedHead currentHead rounds = some chain →
      AttestedPath comments rounds reviewedHead currentHead chain) ∧
    ∀ others otherRounds, comments.Perm others → rounds.Perm otherRounds →
      (hammerAttestationChain others reviewedHead currentHead otherRounds).isSome =
        (hammerAttestationChain comments reviewedHead currentHead rounds).isSome := by
  have found (comments : List AuditComment) (rounds : List RemediationRound) :
      (hammerAttestationChain comments reviewedHead currentHead rounds).isSome = true ↔
        ∃ path, AttestedPath comments rounds reviewedHead currentHead path := by
    constructor
    · intro some_
      obtain ⟨chain, at_⟩ := Option.isSome_iff_exists.mp some_
      exact ⟨chain, attestedPath_of_chain at_⟩
    · rintro ⟨path, attested⟩
      exact Option.isSome_iff_exists.mpr (exists_chain_of_path named current apart attested)
  refine ⟨found comments rounds, fun chain at_ => attestedPath_of_chain at_, ?_⟩
  intro others otherRounds sameComments sameRounds
  rw [Bool.eq_iff_iff, found, found]
  constructor
  · rintro ⟨path, attested⟩
    exact ⟨path, attested.perm sameComments.symm sameRounds.symm⟩
  · rintro ⟨path, attested⟩
    exact ⟨path, attested.perm sameComments sameRounds⟩

end

def pushComment : AuditComment where
  author := "hammer-worker"
  body := "HAM-Base-Head: b\nHAM-Pushed-Head: c"

theorem attestationChain_of_push :
    ((hammerAttestationChain [pushComment] "a" "c" [⟨"completed", "a", "b"⟩]).isSome = true ↔
      ∃ path, AttestedPath [pushComment] [⟨"completed", "a", "b"⟩] "a" "c" path) ∧
    (∀ chain, hammerAttestationChain [pushComment] "a" "c" [⟨"completed", "a", "b"⟩] = some chain →
      AttestedPath [pushComment] [⟨"completed", "a", "b"⟩] "a" "c" chain) ∧
    ∀ others otherRounds, [pushComment].Perm others →
      ([⟨"completed", "a", "b"⟩] : List RemediationRound).Perm otherRounds →
      (hammerAttestationChain others "a" "c" otherRounds).isSome =
        (hammerAttestationChain [pushComment] "a" "c" [⟨"completed", "a", "b"⟩]).isSome :=
  hammerAttestationChain_iff_path [pushComment] [⟨"completed", "a", "b"⟩] (by decide) (by decide)
    (by decide)

example : hammerAttestationChain [pushComment] "a" "c" [⟨"completed", "a", "b"⟩] =
    some ["b", "c"] := by decide +kernel

end AdversarialReview.Ama
