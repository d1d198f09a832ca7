import Mathlib.Data.List.Nodup
import AdversarialReview.Library.Passage

/-! The rename of a repository: its journal, the steps that finish it, and their recovery from any
crash. -/

namespace AdversarialReview.Repository

/-- One file of the plan: a text to write in place, then the name to move it to. -/
structure FileEntry where
  source : String
  target : String
  beforeHash : String
  after : Option String

structure RenameJournal where
  operationId : String
  repositoryId : String
  oldName : String
  newName : String
  nodeId : Option String
  renamedAt : String
  files : List FileEntry
  databases : List String

section

structure Identity where
  repositoryId : String
  nodeId : Option String
  fullName : String
  observedAt : String

structure NameRecord where
  repositoryId : String
  fullName : String
  observedAt : String

structure RenameAudit (Counts : Type) where
  operationId : String
  repositoryId : String
  oldName : String
  newName : String
  renamedAt : String
  counts : Counts

structure Database (Rows Counts : Type) where
  rows : Rows
  /-- Whether the tables of identities were created. -/
  schema : Bool := false
  identities : List Identity := []
  /-- The primary key of the identities. -/
  distinct : (identities.map (·.repositoryId)).Nodup := by simp
  history : List NameRecord := []
  audits : List (RenameAudit Counts) := []
  /-- How often a rewrite of the rows was committed; no step reads it. -/
  rekeys : Nat := 0

def sameName (name other : String) : Bool :=
  name.toList.map Char.toLower = other.toList.map Char.toLower

structure PublishedName where
  name : String
  repositoryId : String
  current : String

variable {Rows Counts : Type}

def Database.audited (db : Database Rows Counts) (operationId : String) : Bool :=
  db.audits.any (·.operationId = operationId)

def Database.ensureRepositoryIdentitySchema (db : Database Rows Counts) : Database Rows Counts :=
  { db with schema := true }

def publishedNames (db : Database Rows Counts) : List PublishedName :=
  db.history.flatMap fun record =>
    (db.identities.filter (·.repositoryId = record.repositoryId)).map fun identity =>
      ⟨record.fullName, record.repositoryId, identity.fullName⟩

end

structure RenameRecipes (Rows Counts : Type) where
  repositoryStateDigest : String → String
  /-- The rows under the new name, and how many changed; it may throw. -/
  rekeyRepositoryDatabase : Rows → String → String → Except String (Rows × Counts)
  /-- The files that get an entry in the plan, in its order. -/
  planned : (String → Option String) → String → String → List String
  /-- Where a file moves to. -/
  targetOf : (String → Option String) → String → String → String → String
  /-- The text that a file gets; none for a file that is no text. -/
  afterOf : (String → Option String) → String → String → String → Option String

structure RenameWorld (Rows Counts : Type) where
  /-- The content of each state file, by its path from the root. -/
  files : String → Option String
  stores : String → Option (Database Rows Counts)
  main : Database Rows Counts
  names : Option (List PublishedName)
  pending : Option RenameJournal

section

variable {Rows Counts : Type} (recipes : RenameRecipes Rows Counts)

def FileEntry.afterHash (entry : FileEntry) : String :=
  match entry.after with
  | none => entry.beforeHash
  | some text => recipes.repositoryStateDigest text

def RenameWorld.setFile (world : RenameWorld Rows Counts) (path : String)
    (content : Option String) : RenameWorld Rows Counts :=
  { world with files := Function.update world.files path content }

def rewriteSource (entry : FileEntry) (current : String) (world : RenameWorld Rows Counts) :
    Passage (RenameWorld Rows Counts) :=
  match entry.after with
  | some text =>
    if current ≠ entry.afterHash recipes then .step (world.setFile entry.source (some text))
    else .quiet world
  | none => .quiet world

def moveSource (entry : FileEntry) (world : RenameWorld Rows Counts) :
    Passage (RenameWorld Rows Counts) :=
  if entry.source = entry.target then .quiet world
  else
    .step ((world.setFile entry.target (world.files entry.source)).setFile entry.source none)

/-- One entry of the plan, from wherever a crash left it. -/
def applyFileEntry (entry : FileEntry) (world : RenameWorld Rows Counts) :
    Passage (RenameWorld Rows Counts) :=
  let afterHash := entry.afterHash recipes
  let targetHash := (world.files entry.target).map recipes.repositoryStateDigest
  match world.files entry.source with
  | none =>
    if targetHash ≠ some afterHash then
      .throws s!"Repository rename recovery cannot verify {entry.target}"
    else .quiet world
  | some content =>
    let current := recipes.repositoryStateDigest content
    if current ≠ entry.beforeHash ∧ current ≠ afterHash then
      .throws s!"Repository rename source changed: {entry.source}"
    else if entry.source ≠ entry.target ∧ targetHash.isSome then
      if targetHash ≠ some afterHash then
        .throws s!"Repository rename destination changed: {entry.target}"
      else .step (world.setFile entry.source none)
    else (rewriteSource recipes entry current world).andThen (moveSource entry)

def applyRepositoryStateFiles (plan : List FileEntry) (world : RenameWorld Rows Counts) :
    Passage (RenameWorld Rows Counts) :=
  Passage.each (applyFileEntry recipes) plan world

def Database.rekeyed (journal : RenameJournal) (db : Database Rows Counts) :
    Except String (Database Rows Counts) := do
  let (rows, counts) ← recipes.rekeyRepositoryDatabase db.rows journal.oldName journal.newName
  return { db with
    rows
    audits := db.audits ++ [⟨journal.operationId, journal.repositoryId, journal.oldName,
      journal.newName, journal.renamedAt, counts⟩]
    rekeys := db.rekeys + 1 }

def RenameWorld.setStore (world : RenameWorld Rows Counts) (path : String)
    (db : Database Rows Counts) : RenameWorld Rows Counts :=
  { world with stores := Function.update world.stores path (some db) }

def rekeyStore (journal : RenameJournal) (path : String) (db : Database Rows Counts)
    (world : RenameWorld Rows Counts) : Passage (RenameWorld Rows Counts) :=
  if db.audited journal.operationId then .quiet world
  else
    match db.rekeyed recipes journal with
    | .ok rekeyed => .step (world.setStore path rekeyed)
    | .error message => .throws message

def ensureStore (path : String) (db : Database Rows Counts) (world : RenameWorld Rows Counts) :
    Passage (RenameWorld Rows Counts) :=
  if db.schema then .quiet world
  else .step (world.setStore path db.ensureRepositoryIdentitySchema)

def finishStore (journal : RenameJournal) (path : String) (world : RenameWorld Rows Counts) :
    Passage (RenameWorld Rows Counts) :=
  match world.stores path with
  | none => .throws "unable to open database file"
  | some db =>
    (ensureStore path db world).andThen
      (rekeyStore recipes journal path db.ensureRepositoryIdentitySchema)

def Identity.renames (journal : RenameJournal) (identity : Identity) : Bool :=
  identity.repositoryId = journal.repositoryId && sameName identity.fullName journal.oldName

def Identity.renamed (journal : RenameJournal) (identity : Identity) : Identity :=
  if identity.renames journal then
    { identity with
      fullName := journal.newName
      nodeId := journal.nodeId <|> identity.nodeId
      observedAt := journal.renamedAt }
  else identity

@[simp] theorem Identity.renamed_repositoryId (journal : RenameJournal) (identity : Identity) :
    (identity.renamed journal).repositoryId = identity.repositoryId := by
  unfold Identity.renamed
  split <;> rfl

def Database.renamed (journal : RenameJournal) (db : Database Rows Counts) :
    Except String (Database Rows Counts) :=
  if db.identities.any (·.renames journal) &&
      db.identities.any (fun identity => !identity.renames journal &&
        sameName identity.fullName journal.newName) then
    .error "UNIQUE constraint failed: repository_identities.full_name"
  else
    let known := db.history.any fun record =>
      record.repositoryId = journal.repositoryId && sameName record.fullName journal.newName
    .ok { db with
      identities := db.identities.map (·.renamed journal)
      distinct := by simpa [Function.comp_def] using db.distinct
      history := if known then db.history
        else db.history ++ [⟨journal.repositoryId, journal.newName, journal.renamedAt⟩] }

def finishMain (journal : RenameJournal) (world : RenameWorld Rows Counts) :
    Passage (RenameWorld Rows Counts) :=
  if world.main.audited journal.operationId then .quiet world
  else
    match world.main.rekeyed recipes journal >>= Database.renamed journal with
    | .ok main => .step { world with main }
    | .error message => .throws message

def publishNames (world : RenameWorld Rows Counts) : Passage (RenameWorld Rows Counts) :=
  .step { world with names := some (publishedNames world.main) }

/-- `unlinkSync` of the marker. -/
def RenameWorld.cleared (world : RenameWorld Rows Counts) : RenameWorld Rows Counts :=
  { world with pending := none }

/-- Every participant in turn, up to the marker. -/
def finishParticipants (journal : RenameJournal) (world : RenameWorld Rows Counts) :
    Passage (RenameWorld Rows Counts) :=
  (((applyRepositoryStateFiles recipes journal.files world).andThen
    (Passage.each (finishStore recipes journal) journal.databases)).andThen
      (finishMain recipes journal)).andThen publishNames

def finishRename (journal : RenameJournal) (world : RenameWorld Rows Counts) :
    Passage (RenameWorld Rows Counts) :=
  (finishParticipants recipes journal world).andThen fun world => .step world.cleared

def recoverRepositoryRename (world : RenameWorld Rows Counts) :
    Passage (RenameWorld Rows Counts) :=
  match world.pending with
  | none => .quiet world
  | some journal => finishRename recipes journal world

end

section

variable {Rows Counts : Type} (recipes : RenameRecipes Rows Counts)

def planEntries (files : String → Option String) (oldName newName : String) :
    List String → Except String (List FileEntry)
  | [] => .ok []
  | path :: rest =>
    let target := recipes.targetOf files oldName newName path
    match files path with
    | none => .error s!"ENOENT: no such file or directory, open '{path}'"
    | some content =>
      if target ≠ path ∧ (files target).isSome then
        .error s!"Repository state destination already exists: {target}"
      else do
        let plan ← planEntries files oldName newName rest
        return ⟨path, target, recipes.repositoryStateDigest content,
          recipes.afterOf files oldName newName path⟩ :: plan

def planRepositoryStateFiles (files : String → Option String) (oldName newName : String) :
    Except String (List FileEntry) :=
  planEntries recipes files oldName newName (recipes.planned files oldName newName)

/-- A store is rewritten on trial, and rolled back. -/
def preflightStores (world : RenameWorld Rows Counts) (oldName newName : String) :
    List String → Except String Unit
  | [] => .ok ()
  | path :: rest => do
    match world.stores path with
    | none => .error "unable to open database file"
    | some db => let _ ← recipes.rekeyRepositoryDatabase db.rows oldName newName
    preflightStores world oldName newName rest

def operationText (repositoryId oldName newName renamedAt : String) : String :=
  "[\"" ++ String.intercalate "\",\"" [repositoryId, oldName, newName, renamedAt] ++ "\"]"

/-- What GitHub says of a repository. -/
structure ObservedIdentity where
  id : String
  fullName : String
  nodeId : Option String

def observeIdentity (world : RenameWorld Rows Counts) (identity : ObservedIdentity)
    (now : String) : Except String (RenameWorld Rows Counts × RenameJournal) := do
  if world.pending.isSome then .error "EEXIST: file already exists"
  else if world.main.identities.any (fun other =>
      sameName other.fullName identity.fullName && other.repositoryId ≠ identity.id) then
    .error s!"Repository name {identity.fullName} is still owned by a different recorded id"
  else
    match world.main.identities.find? (·.repositoryId = identity.id) with
    | none => .error "no rename was observed"
    | some current =>
      if current.fullName = identity.fullName then .error "no rename was observed"
      else
        let oldName := current.fullName
        let newName := identity.fullName
        let _ ← recipes.rekeyRepositoryDatabase world.main.rows oldName newName
        let databases := ["data/ham-primary-change-refusals.db"].filter fun path =>
          (world.stores path).isSome
        preflightStores recipes world oldName newName databases
        let files ← planRepositoryStateFiles recipes world.files oldName newName
        let journal : RenameJournal :=
          { operationId := recipes.repositoryStateDigest
              (operationText identity.id oldName newName now)
            repositoryId := identity.id
            oldName, newName
            nodeId := identity.nodeId
            renamedAt := now
            files, databases }
        return ({ world with pending := some journal }, journal)

end

variable {Rows Counts : Type} (recipes : RenameRecipes Rows Counts)

section

def FileEntry.Ready (entry : FileEntry) (world : RenameWorld Rows Counts) : Prop :=
  (world.files entry.source).map recipes.repositoryStateDigest = some entry.beforeHash ∧
    (entry.source = entry.target ∨ world.files entry.target = none)

def FileEntry.Done (entry : FileEntry) (world : RenameWorld Rows Counts) : Prop :=
  (world.files entry.target).map recipes.repositoryStateDigest = some (entry.afterHash recipes) ∧
    (entry.source = entry.target ∨ world.files entry.source = none)

def FileEntry.Moves (entry : FileEntry) (world after : RenameWorld Rows Counts) : Prop :=
  ∃ files, after = { world with files } ∧
    ∀ path, path ≠ entry.source → path ≠ entry.target → files path = world.files path

def FileEntry.Apart (entry other : FileEntry) : Prop :=
  entry.source ≠ other.source ∧ entry.source ≠ other.target ∧
    entry.target ≠ other.source ∧ entry.target ≠ other.target

variable {recipes}

theorem fileMoves_refl (entry : FileEntry) (world : RenameWorld Rows Counts) :
    entry.Moves world world :=
  ⟨world.files, rfl, fun _ _ _ => rfl⟩

variable {entry : FileEntry}

theorem fileMoves_set {world after : RenameWorld Rows Counts} {path : String}
    (moved : entry.Moves world after) (own : path = entry.source ∨ path = entry.target)
    (content : Option String) : entry.Moves world (after.setFile path content) := by
  obtain ⟨files, rfl, kept⟩ := moved
  refine ⟨Function.update files path content, rfl, fun other notSource notTarget => ?_⟩
  have differ : other ≠ path := by
    rintro rfl
    exact own.elim notSource notTarget
  rw [Function.update_of_ne differ]
  exact kept other notSource notTarget

variable {world : RenameWorld Rows Counts}

theorem applyFileEntry_current
    (current : (world.files entry.source).map recipes.repositoryStateDigest =
      some (entry.afterHash recipes))
    (free : entry.source = entry.target ∨ world.files entry.target = none) :
    applyFileEntry recipes entry world = moveSource entry world := by
  obtain ⟨content, present, isCurrent⟩ := Option.map_eq_some_iff.mp current
  have notBoth : ¬ (entry.source ≠ entry.target ∧
      ((world.files entry.target).map recipes.repositoryStateDigest).isSome = true) := by
    rintro ⟨differ, exists_⟩
    rcases free with same | absent
    · exact differ same
    · simp [absent] at exists_
  have noRewrite : rewriteSource recipes entry (entry.afterHash recipes) world =
      .quiet world := by
    unfold rewriteSource
    split <;> simp
  simp only [applyFileEntry, present, isCurrent, ne_eq, not_true_eq_false, and_false, if_false]
  rw [if_neg notBoth, noRewrite, Passage.quiet_andThen]

theorem applyFileEntry_done
    (done : entry.Done recipes world) : applyFileEntry recipes entry world = .quiet world := by
  obtain ⟨atTarget, inPlace | gone⟩ := done
  · rw [applyFileEntry_current (by rw [inPlace]; exact atTarget) (.inl inPlace), moveSource,
      if_pos inPlace]
  · simp [applyFileEntry, gone, atTarget]

theorem move_restartable (current : (world.files entry.source).map recipes.repositoryStateDigest =
      some (entry.afterHash recipes))
    (free : entry.source = entry.target ∨ world.files entry.target = none) :
    ∃ states final, Restartable (applyFileEntry recipes entry) states final ∧ states world ∧
      entry.Done recipes final ∧ ∀ {after}, states after → entry.Moves world after := by
  by_cases inPlace : entry.source = entry.target
  · have done : entry.Done recipes world := ⟨inPlace ▸ current, .inl inPlace⟩
    refine ⟨_, world, .idle (applyFileEntry_done done), rfl, done, ?_⟩
    rintro after rfl
    exact fileMoves_refl entry _
  · let moved := (world.setFile entry.target (world.files entry.source)).setFile entry.source none
    have steps : applyFileEntry recipes entry world = .step moved := by
      rw [applyFileEntry_current current free, moveSource, if_neg inPlace]
    have done : entry.Done recipes moved := by
      refine ⟨?_, .inr ?_⟩
      · simpa [moved, RenameWorld.setFile, Function.update_of_ne (Ne.symm inPlace)] using current
      · simp [moved, RenameWorld.setFile]
    have quiet := applyFileEntry_done done
    refine ⟨_, moved, (Restartable.idle quiet).preceded rfl ?_, .inl rfl, done, ?_⟩
    · rw [steps, Passage.andThen_ok rfl, quiet]
      rfl
    · rintro after (rfl | rfl)
      · exact fileMoves_refl entry _
      · exact fileMoves_set (fileMoves_set (fileMoves_refl entry world) (.inr rfl) _) (.inl rfl) _

theorem file_restartable (ready : entry.Ready recipes world) :
    ∃ states final, Restartable (applyFileEntry recipes entry) states final ∧ states world ∧
      entry.Done recipes final ∧ ∀ {after}, states after → entry.Moves world after := by
  obtain ⟨recorded, free⟩ := ready
  by_cases same : entry.afterHash recipes = entry.beforeHash
  · -- Nothing is written: the recorded content is that of the entry.
    exact move_restartable (by rw [same]; exact recorded) free
  · obtain ⟨content, present, isBefore⟩ := Option.map_eq_some_iff.mp recorded
    obtain ⟨text, hasText⟩ : ∃ text, entry.after = some text := by
      rw [← Option.ne_none_iff_exists']
      rintro absent
      exact same (by simp [FileEntry.afterHash, absent])
    have afterHash : entry.afterHash recipes = recipes.repositoryStateDigest text := by
      simp [FileEntry.afterHash, hasText]
    let written := world.setFile entry.source (some text)
    have current : (written.files entry.source).map recipes.repositoryStateDigest =
        some (entry.afterHash recipes) := by
      simp [written, RenameWorld.setFile, afterHash]
    have stillFree : entry.source = entry.target ∨ written.files entry.target = none := by
      by_cases inPlace : entry.source = entry.target
      · exact .inl inPlace
      · refine .inr ?_
        simpa [written, RenameWorld.setFile, Function.update_of_ne (Ne.symm inPlace)]
          using free.resolve_left inPlace
    obtain ⟨states, final, runs, atWritten, done, moves⟩ := move_restartable current stillFree
    have steps : applyFileEntry recipes entry world =
        (Passage.step written).andThen (applyFileEntry recipes entry) := by
      have notBoth : ¬ (entry.source ≠ entry.target ∧
          ((world.files entry.target).map recipes.repositoryStateDigest).isSome = true) := by
        rintro ⟨differ, exists_⟩
        simp [free.resolve_left differ] at exists_
      have rewrites : rewriteSource recipes entry entry.beforeHash world = .step written := by
        simp [rewriteSource, hasText, Ne.symm same, written]
      rw [Passage.andThen_ok rfl, applyFileEntry_current current stillFree]
      simp only [applyFileEntry, present, isBefore, ne_eq, not_true_eq_false, false_and, if_false]
      rw [if_neg notBoth, rewrites, Passage.andThen_ok rfl]
    refine ⟨_, final, runs.preceded atWritten steps, .inl rfl, done, ?_⟩
    rintro after (rfl | inStates)
    · exact fileMoves_refl entry _
    · obtain ⟨files, rfl, kept⟩ := moves inStates
      refine ⟨files, rfl, fun path notSource notTarget => ?_⟩
      rw [kept path notSource notTarget]
      exact Function.update_of_ne notSource ..

theorem file_tasks : RestartableTasks (applyFileEntry recipes)
    (fun entry world => entry.Ready recipes (world : RenameWorld Rows Counts))
    (FileEntry.Done recipes) FileEntry.Moves
    FileEntry.Apart where
  settled := applyFileEntry_done
  starts := file_restartable
  staysReady := by
    rintro entry other world after ⟨sources, sourceTarget, targetSource, targets⟩
      ⟨files, rfl, kept⟩ ready
    simpa only [FileEntry.Ready, kept _ sources.symm targetSource.symm,
      kept _ sourceTarget.symm targets.symm] using ready
  staysDone := by
    rintro entry other world after ⟨sources, sourceTarget, targetSource, targets⟩
      ⟨files, rfl, kept⟩ done
    simpa only [FileEntry.Done, kept _ sources sourceTarget, kept _ targetSource targets]
      using done

end

section

variable (journal : RenameJournal)

/-- A rewrite of a database goes with its audit, and is done once for it. -/
structure Database.Accounted (operationId : String) (db after : Database Rows Counts) : Prop where
  schema : db.schema = true → after.schema = true
  audited : db.audited operationId = true → after.audited operationId = true
  rows : after.audited operationId = true ∨ after.rows = db.rows
  rekeys : after.rekeys + (db.audited operationId).toNat =
    db.rekeys + (after.audited operationId).toNat

theorem accounted_refl (operationId : String) (db : Database Rows Counts) :
    db.Accounted operationId db :=
  ⟨id, id, .inr rfl, rfl⟩

theorem accounted_ensured (operationId : String) (db : Database Rows Counts) :
    db.Accounted operationId db.ensureRepositoryIdentitySchema :=
  ⟨fun _ => rfl, id, .inr rfl, rfl⟩

theorem Database.Accounted.trans {operationId : String} {db after last : Database Rows Counts}
    (first : db.Accounted operationId after) (second : after.Accounted operationId last) :
    db.Accounted operationId last where
  schema ensured := second.schema (first.schema ensured)
  audited known := second.audited (first.audited known)
  rows := by
    rcases second.rows with audited | same
    · exact .inl audited
    · exact first.rows.imp second.audited same.trans
  rekeys := by
    have := first.rekeys
    have := second.rekeys
    omega

variable {recipes journal}

theorem rekeyed_spec {db after : Database Rows Counts}
    (rekeyed : db.rekeyed recipes journal = .ok after) :
    after.audited journal.operationId = true ∧ after.schema = db.schema ∧
      after.rekeys = db.rekeys + 1 ∧ after.identities = db.identities := by
  simp only [Database.rekeyed, bind, Except.bind, pure, Except.pure] at rekeyed
  split at rekeyed
  · cases rekeyed
  · obtain rfl := Except.ok.inj rekeyed
    simp [Database.audited]

theorem accounted_rekeyed {db after : Database Rows Counts}
    (fresh : db.audited journal.operationId = false)
    (rekeyed : db.rekeyed recipes journal = .ok after) :
    db.Accounted journal.operationId after := by
  obtain ⟨audited, schema, rekeys, -⟩ := rekeyed_spec rekeyed
  refine ⟨fun ensured => schema.trans ensured, fun _ => audited, .inl audited, ?_⟩
  simp [audited, fresh, rekeys]

/-- A store whose rows can be rewritten, where they were not yet. -/
def StoreReady (recipes : RenameRecipes Rows Counts) (journal : RenameJournal) (path : String)
    (world : RenameWorld Rows Counts) : Prop :=
  ∃ db, world.stores path = some db ∧ (db.audited journal.operationId = true ∨
    ∃ result, recipes.rekeyRepositoryDatabase db.rows journal.oldName journal.newName =
      .ok result)

def StoreDone (journal : RenameJournal) (path : String) (world : RenameWorld Rows Counts) : Prop :=
  ∃ db, world.stores path = some db ∧ db.schema = true ∧ db.audited journal.operationId = true

def StoreMoves (journal : RenameJournal) (path : String)
    (world after : RenameWorld Rows Counts) : Prop :=
  ∃ db next, world.stores path = some db ∧ after = world.setStore path next ∧
    db.Accounted journal.operationId next

variable {db : Database Rows Counts}

theorem ensured_self (schema : db.schema = true) :
    db.ensureRepositoryIdentitySchema = db := by
  simp [Database.ensureRepositoryIdentitySchema, ← schema]

variable {path : String} {world : RenameWorld Rows Counts}

theorem setStore_self (present : world.stores path = some db) :
    world.setStore path db = world := by
  simp [RenameWorld.setStore, ← present]

@[simp] theorem setStore_stores (world : RenameWorld Rows Counts) (path : String)
    (db : Database Rows Counts) : (world.setStore path db).stores path = some db := by
  simp [RenameWorld.setStore]

theorem finishStore_ensured (present : world.stores path = some db) (schema : db.schema = true) :
    finishStore recipes journal path world = rekeyStore recipes journal path db world := by
  simp [finishStore, present, ensureStore, schema, ensured_self schema]

theorem finishStore_done (done : StoreDone journal path world) :
    finishStore recipes journal path world = .quiet world := by
  obtain ⟨db, present, schema, audited⟩ := done
  rw [finishStore_ensured present schema, rekeyStore, if_pos audited]

theorem storeMoves_self (present : world.stores path = some db) :
    StoreMoves journal path world world :=
  ⟨db, db, present, (setStore_self present).symm, accounted_refl _ db⟩

theorem ensured_restartable (present : world.stores path = some db)
    (schema : db.schema = true) (ready : StoreReady recipes journal path world) :
    ∃ states final, Restartable (finishStore recipes journal path) states final ∧
      states world ∧ StoreDone journal path final ∧
        ∀ {after}, states after → StoreMoves journal path world after := by
  obtain ⟨other, isOther, ready⟩ := ready
  obtain rfl : db = other := Option.some.inj (present.symm.trans isOther)
  cases audited : db.audited journal.operationId with
  | true =>
    have done : StoreDone journal path world := ⟨db, present, schema, audited⟩
    refine ⟨_, world, .idle (finishStore_done done), rfl, done, ?_⟩
    rintro after rfl
    exact storeMoves_self present
  | false =>
    obtain ⟨⟨rows, counts⟩, accepted⟩ := ready.resolve_left (by simp [audited])
    obtain ⟨next, rekeyed⟩ : ∃ next, db.rekeyed recipes journal = .ok next := by
      simp [Database.rekeyed, accepted, bind, Except.bind, pure, Except.pure]
    obtain ⟨isAudited, sameSchema, -⟩ := rekeyed_spec rekeyed
    have done : StoreDone journal path (world.setStore path next) :=
      ⟨next, setStore_stores .., sameSchema.trans schema, isAudited⟩
    have quiet : finishStore recipes journal path _ = _ := finishStore_done done
    refine ⟨_, _, (Restartable.idle quiet).preceded rfl ?_, .inl rfl, done, ?_⟩
    · rw [finishStore_ensured present schema, rekeyStore, audited, if_neg (by simp), rekeyed,
        Passage.andThen_ok rfl, quiet]
      rfl
    · rintro after (rfl | rfl)
      · exact storeMoves_self present
      · exact ⟨db, next, present, rfl, accounted_rekeyed audited rekeyed⟩

theorem store_restartable (ready : StoreReady recipes journal path world) :
    ∃ states final, Restartable (finishStore recipes journal path) states final ∧
      states world ∧ StoreDone journal path final ∧
        ∀ {after}, states after → StoreMoves journal path world after := by
  obtain ⟨db, present, accepted⟩ := id ready
  cases schema : db.schema with
  | true => exact ensured_restartable present schema ready
  | false =>
    -- The first step creates the tables of identities.
    let ensured := db.ensureRepositoryIdentitySchema
    have atEnsured : (world.setStore path ensured).stores path = some ensured :=
      setStore_stores ..
    obtain ⟨states, final, runs, atStart, done, moves⟩ :=
      ensured_restartable atEnsured rfl ⟨ensured, atEnsured, accepted⟩
    have steps : finishStore recipes journal path world =
        (Passage.step (world.setStore path ensured)).andThen
          (finishStore recipes journal path) := by
      rw [Passage.andThen_ok rfl, finishStore_ensured atEnsured rfl]
      simp only [finishStore, present, ensureStore, schema]
      rfl
    refine ⟨_, final, runs.preceded atStart steps, .inl rfl, done, ?_⟩
    rintro after (rfl | inStates)
    · exact storeMoves_self present
    · obtain ⟨other, next, isOther, rfl, accounted⟩ := moves inStates
      obtain rfl : ensured = other := Option.some.inj (atEnsured.symm.trans isOther)
      refine ⟨db, next, present, ?_, (accounted_ensured _ db).trans accounted⟩
      simp [RenameWorld.setStore]

theorem store_tasks : RestartableTasks (finishStore recipes journal)
    (StoreReady recipes journal) (StoreDone journal) (StoreMoves journal) fun _ _ => True where
  settled := finishStore_done
  starts := store_restartable
  staysReady := by
    rintro path other world after - ⟨db, next, present, rfl, accounted⟩ ⟨known, isKnown, ready⟩
    by_cases same : path = other
    · subst same
      obtain rfl : db = known := Option.some.inj (present.symm.trans isKnown)
      refine ⟨next, setStore_stores .., ?_⟩
      rcases accounted.rows with audited | sameRows
      · exact .inl audited
      · exact ready.imp accounted.audited fun accepted => sameRows ▸ accepted
    · exact ⟨known, by simpa [RenameWorld.setStore, Function.update_of_ne same], ready⟩
  staysDone := by
    rintro path other world after - ⟨db, next, present, rfl, accounted⟩
      ⟨known, isKnown, schema, audited⟩
    by_cases same : path = other
    · subst same
      obtain rfl : db = known := Option.some.inj (present.symm.trans isKnown)
      exact ⟨next, setStore_stores .., accounted.schema schema, accounted.audited audited⟩
    · exact ⟨known, by simpa [RenameWorld.setStore, Function.update_of_ne same], schema, audited⟩

end

section

variable {recipes} {journal : RenameJournal}

/-- What a rename does to the databases, and the marker that stands all the while. -/
structure RenameProgress (journal : RenameJournal) (world after : RenameWorld Rows Counts) :
    Prop where
  pending : after.pending = world.pending
  main : world.main.Accounted journal.operationId after.main
  stores : ∀ path db, world.stores path = some db → ∃ next, after.stores path = some next ∧
    db.Accounted journal.operationId next

theorem progress_refl (world : RenameWorld Rows Counts) : RenameProgress journal world world :=
  ⟨rfl, accounted_refl _ _, fun _ db present => ⟨db, present, accounted_refl _ db⟩⟩

theorem RenameProgress.trans {world after last : RenameWorld Rows Counts}
    (first : RenameProgress journal world after) (second : RenameProgress journal after last) :
    RenameProgress journal world last where
  pending := second.pending.trans first.pending
  main := first.main.trans second.main
  stores path db present := by
    obtain ⟨middle, isMiddle, toMiddle⟩ := first.stores path db present
    obtain ⟨next, isNext, toNext⟩ := second.stores path middle isMiddle
    exact ⟨next, isNext, toMiddle.trans toNext⟩

variable {world after : RenameWorld Rows Counts}

theorem fileMoves_progress {entry : FileEntry}
    (moved : entry.Moves world after) : RenameProgress journal world after := by
  obtain ⟨files, rfl, -⟩ := moved
  exact ⟨rfl, accounted_refl _ _, fun _ db present => ⟨db, present, accounted_refl _ db⟩⟩

theorem storeMoves_progress {path : String}
    (moved : StoreMoves journal path world after) : RenameProgress journal world after := by
  obtain ⟨db, next, present, rfl, accounted⟩ := moved
  refine ⟨rfl, accounted_refl _ _, fun other known isKnown => ?_⟩
  by_cases same : other = path
  · subst same
    obtain rfl : db = known := Option.some.inj (present.symm.trans isKnown)
    exact ⟨next, setStore_stores .., accounted⟩
  · exact ⟨known, by simpa [RenameWorld.setStore, Function.update_of_ne same],
      accounted_refl _ known⟩

theorem renamed_spec {db after : Database Rows Counts} (renamed : db.renamed journal = .ok after) :
    after.audits = db.audits ∧ after.schema = db.schema ∧ after.rekeys = db.rekeys := by
  simp only [Database.renamed] at renamed
  split at renamed
  · cases renamed
  · obtain rfl := Except.ok.inj renamed
    exact ⟨rfl, rfl, rfl⟩

theorem main_restartable {world : RenameWorld Rows Counts}
    (ready : world.main.audited journal.operationId = true ∨
      ∃ main, world.main.rekeyed recipes journal >>= Database.renamed journal = .ok main) :
    ∃ states final, Restartable (finishMain recipes journal) states final ∧ states world ∧
      final.main.audited journal.operationId = true ∧ ∀ {after}, states after → ∃ main, 
        after = { world with main } ∧ world.main.Accounted journal.operationId main := by
  cases audited : world.main.audited journal.operationId with
  | true =>
    refine ⟨_, world, .idle (by rw [finishMain, if_pos audited]), rfl, audited, ?_⟩
    rintro after rfl
    exact ⟨after.main, rfl, accounted_refl _ _⟩
  | false =>
    obtain ⟨main, accepted⟩ := ready.resolve_left (by simp [audited])
    obtain ⟨rekeyed, isRekeyed, renamed⟩ : ∃ rekeyed,
        world.main.rekeyed recipes journal = .ok rekeyed ∧
          rekeyed.renamed journal = .ok main := by
      cases isRekeyed : world.main.rekeyed recipes journal with
      | error message => simp [isRekeyed, bind, Except.bind] at accepted
      | ok rekeyed => exact ⟨rekeyed, rfl, by simpa [isRekeyed, bind, Except.bind] using accepted⟩
    have account := accounted_rekeyed audited isRekeyed
    obtain ⟨audits, schema, rekeys⟩ := renamed_spec renamed
    have sameAudited : main.audited journal.operationId =
        rekeyed.audited journal.operationId := by
      rw [Database.audited, audits, Database.audited]
    have isAudited : main.audited journal.operationId = true :=
      sameAudited.trans (rekeyed_spec isRekeyed).1
    have quiet : finishMain recipes journal { world with main } = .quiet { world with main } := by
      simp [finishMain, isAudited]
    refine ⟨_, _, (Restartable.idle quiet).preceded rfl ?_, .inl rfl, isAudited, ?_⟩
    · rw [Passage.andThen_ok rfl, quiet]
      simp only [finishMain, audited, accepted, Bool.false_eq_true, if_false]
      rfl
    · rintro after (rfl | rfl)
      · exact ⟨after.main, rfl, accounted_refl _ _⟩
      · refine ⟨main, rfl, fun known => ?_, fun _ => isAudited, .inl isAudited, ?_⟩
        · exact schema.trans (account.schema known)
        · rw [sameAudited, rekeys]
          exact account.rekeys

theorem fileMoves_databases {entries : List FileEntry}
    (moved : Moves FileEntry.Moves entries world after) :
    after.stores = world.stores ∧ after.main = world.main := by
  induction moved with
  | refl => exact ⟨rfl, rfl⟩
  | tail _ step ih =>
    obtain ⟨_, _, files, rfl, -⟩ := step
    exact ih

theorem storeMoves_files {paths : List String}
    (moved : Moves (StoreMoves journal) paths world after) :
    after.files = world.files ∧ after.main = world.main := by
  induction moved with
  | refl => exact ⟨rfl, rfl⟩
  | tail _ step ih =>
    obtain ⟨_, _, _, next, _, rfl, -⟩ := step
    exact ih

/-- A journal that can be finished from a world on: nothing of it was done to the files yet. -/
structure JournalReady (recipes : RenameRecipes Rows Counts) (journal : RenameJournal)
    (world : RenameWorld Rows Counts) : Prop where
  separate : journal.files.Pairwise FileEntry.Apart
  files : ∀ entry ∈ journal.files, entry.Ready recipes world
  stores : ∀ path ∈ journal.databases, StoreReady recipes journal path world
  main : world.main.audited journal.operationId = true ∨
    ∃ main, world.main.rekeyed recipes journal >>= Database.renamed journal = .ok main
  pending : world.pending = some journal

theorem participants_restartable {world : RenameWorld Rows Counts}
    (ready : JournalReady recipes journal world) :
    ∃ states final, Restartable (finishParticipants recipes journal) states final ∧
      states world ∧ final.main.audited journal.operationId = true ∧
        (∀ path ∈ journal.databases, StoreDone journal path final) ∧
          ∀ {after}, states after → RenameProgress journal world after := by
  obtain ⟨fileStates, filesDone, fileRuns, atFiles, allFiles, fileMoves⟩ :=
    each_restartable file_tasks ready.separate ready.files
  have fileProgress {after} (inStates : fileStates after) : RenameProgress journal world after :=
    (fileMoves inStates).keeps progress_refl .trans fileMoves_progress
  obtain ⟨stillStores, stillMain⟩ := fileMoves_databases (fileMoves fileRuns.atEnd)
  have storesReady : ∀ path ∈ journal.databases, StoreReady recipes journal path filesDone := by
    intro path listed
    unfold StoreReady
    rw [stillStores]
    exact ready.stores path listed
  obtain ⟨storeStates, storesDone, storeRuns, atStores, allStores, storeMoves⟩ :=
    each_restartable store_tasks (List.pairwise_of_forall fun _ _ => trivial) storesReady
  have storeProgress {after} (inStates : storeStates after) :
      RenameProgress journal world after :=
    (fileProgress fileRuns.atEnd).trans
      ((storeMoves inStates).keeps progress_refl .trans storeMoves_progress)
  have filesQuiet {after : RenameWorld Rows Counts} (same : after.files = filesDone.files) :
      Passage.each (applyFileEntry recipes) journal.files after = .quiet after := by
    refine each_settled file_tasks fun entry listed => ?_
    simpa only [FileEntry.Done, same] using allFiles entry listed
  have storesQuiet {after : RenameWorld Rows Counts} (same : after.stores = storesDone.stores) :
      Passage.each (finishStore recipes journal) journal.databases after = .quiet after := by
    refine each_settled store_tasks fun path listed => ?_
    simpa only [StoreDone, same] using allStores path listed
  obtain ⟨stillFiles, mainKept⟩ := storeMoves_files (storeMoves storeRuns.atEnd)
  have firstRuns := fileRuns.andThen storeRuns atStores fun inStates =>
    filesQuiet (storeMoves_files (storeMoves inStates)).1
  obtain ⟨mainStates, mainDone, mainRuns, atMain, audited, mainMoves⟩ :=
    @main_restartable _ _ recipes journal storesDone
      (by rw [mainKept, stillMain]; exact ready.main)
  have bothQuiet {after : RenameWorld Rows Counts} (sameFiles : after.files = storesDone.files)
      (sameStores : after.stores = storesDone.stores) :
      (Passage.each (applyFileEntry recipes) journal.files after).andThen
        (Passage.each (finishStore recipes journal) journal.databases) = .quiet after := by
    rw [filesQuiet (sameFiles.trans stillFiles), Passage.quiet_andThen, storesQuiet sameStores]
  have secondRuns := firstRuns.andThen mainRuns atMain fun inStates => by
    obtain ⟨main, rfl, -⟩ := mainMoves inStates
    exact bothQuiet rfl rfl
  have mainProgress {after} (inStates : mainStates after) : RenameProgress journal world after := by
    obtain ⟨main, rfl, accounted⟩ := mainMoves inStates
    exact (storeProgress storeRuns.atEnd).trans
      ⟨rfl, accounted, fun _ db present => ⟨db, present, accounted_refl _ db⟩⟩
  -- The names are published again after a crash, the same names.
  let published : RenameWorld Rows Counts :=
    { mainDone with names := some (publishedNames mainDone.main) }
  have publishRuns : Restartable publishNames
      (fun after => after = mainDone ∨ after = published) published := by
    refine ⟨.inr rfl, ?_, ?_⟩
    · rintro after (rfl | rfl) <;> rfl
    · rintro after (rfl | rfl) next visited <;> exact .inr (List.mem_singleton.mp visited)
  obtain ⟨main, isDone, -⟩ := mainMoves mainRuns.atEnd
  have thirdRuns := secondRuns.andThen publishRuns (.inl rfl) fun {after} inStates => by
    obtain ⟨sameFiles, sameStores, sameMain⟩ : after.files = storesDone.files ∧
        after.stores = storesDone.stores ∧ after.main = mainDone.main := by
      rcases inStates with rfl | rfl <;> simp [published, isDone]
    rw [bothQuiet sameFiles sameStores, Passage.quiet_andThen, finishMain, sameMain,
      if_pos audited]
  refine ⟨_, published, thirdRuns, .inl (.inl (.inl atFiles)), audited, ?_, ?_⟩
  · intro path listed
    simpa [StoreDone, published, isDone] using allStores path listed
  rintro after (((inStates | inStates) | inStates) | inStates)
  · exact fileProgress inStates
  · exact storeProgress inStates
  · exact mainProgress inStates
  · have atEnd := mainProgress mainRuns.atEnd
    rcases inStates with rfl | rfl
    · exact atEnd
    · exact ⟨atEnd.pending, atEnd.main, atEnd.stores⟩

/-- How a database was rewritten from one world to another: once, unless it was before. -/
structure RekeyedOnce (operationId : String) (db after : Database Rows Counts) : Prop where
  audited : after.audited operationId = true
  rekeys : after.rekeys = db.rekeys + if db.audited operationId then 0 else 1

theorem Database.Accounted.once {operationId : String} {db after : Database Rows Counts}
    (accounted : db.Accounted operationId after) (audited : after.audited operationId = true) :
    RekeyedOnce operationId db after where
  audited := audited
  rekeys := by
    have account := accounted.rekeys
    rw [audited] at account
    cases known : db.audited operationId <;> simp_all

theorem rename_restartable {world : RenameWorld Rows Counts}
    (ready : JournalReady recipes journal world) :
    ∃ states final, Restartable (recoverRepositoryRename recipes) states final ∧ states world ∧
      RekeyedOnce journal.operationId world.main final.main ∧
        ∀ path ∈ journal.databases, ∃ db next, world.stores path = some db ∧
          final.stores path = some next ∧ RekeyedOnce journal.operationId db next := by
  obtain ⟨states, final, runs, atWorld, audited, allStores, progress⟩ :=
    participants_restartable ready
  have recovers := runs.marked (recoverRepositoryRename recipes) RenameWorld.cleared
    (fun inStates => by
      rw [recoverRepositoryRename, (progress inStates).pending, ready.pending]
      rfl)
    rfl
  have atEnd := progress runs.atEnd
  refine ⟨_, _, recovers, .inl atWorld, atEnd.main.once audited, fun path listed => ?_⟩
  obtain ⟨db, present, -⟩ := ready.stores path listed
  obtain ⟨next, isNext, accounted⟩ := atEnd.stores path db present
  obtain ⟨done, isDone, -, doneAudited⟩ := allStores path listed
  obtain rfl : next = done := Option.some.inj (isNext.symm.trans isDone)
  exact ⟨db, next, present, isNext, accounted.once doneAudited⟩

end

section

variable {recipes}

variable {oldName newName : String}

theorem mem_planEntries {files : String → Option String}
    {paths : List String} {plan : List FileEntry}
    (planned : planEntries recipes files oldName newName paths = .ok plan)
    {entry : FileEntry} (listed : entry ∈ plan) :
    entry.target = recipes.targetOf files oldName newName entry.source ∧
      (files entry.source).map recipes.repositoryStateDigest = some entry.beforeHash ∧
        (entry.source = entry.target ∨ files entry.target = none) := by
  induction paths generalizing plan with
  | nil =>
    cases planned
    cases listed
  | cons path rest ih =>
    simp only [planEntries, bind, Except.bind, pure, Except.pure] at planned
    split at planned
    · cases planned
    rename_i content present
    split at planned
    · cases planned
    rename_i free
    split at planned
    · cases planned
    rename_i others isRest
    obtain rfl := Except.ok.inj planned
    rcases List.mem_cons.mp listed with rfl | listed
    · refine ⟨rfl, by simp [present], ?_⟩
      rw [not_and_or, not_not] at free
      exact free.imp Eq.symm fun absent => by simpa using absent
    · exact ih isRest listed

theorem planned_apart {files : String → Option String} {plan : List FileEntry}
    (planned : planRepositoryStateFiles recipes files oldName newName = .ok plan)
    (targets : (plan.map (·.target)).Nodup) : plan.Pairwise FileEntry.Apart := by
  have differ : plan.Pairwise fun entry other => entry.target ≠ other.target :=
    List.pairwise_map.mp targets
  refine differ.imp_of_mem fun {entry other} listed otherListed targets => ?_
  obtain ⟨isTarget, recorded, free⟩ := mem_planEntries planned listed
  obtain ⟨otherTarget, otherRecorded, otherFree⟩ := mem_planEntries planned otherListed
  -- A source has a content, which a target that is not its own source has not.
  have sources : entry.source ≠ other.source := fun same =>
    targets (by rw [isTarget, otherTarget, same])
  refine ⟨sources, fun same => ?_, fun same => ?_, targets⟩
  · rcases otherFree with inPlace | absent
    · exact sources (same.trans inPlace.symm)
    · rw [same, absent] at recorded
      cases recorded
  · rcases free with inPlace | absent
    · exact sources (inPlace.trans same)
    · rw [← same, absent] at otherRecorded
      cases otherRecorded

theorem preflight_ready {world : RenameWorld Rows Counts} {paths : List String}
    (passed : preflightStores recipes world oldName newName paths = .ok ()) {path : String}
    (listed : path ∈ paths) : ∃ db, world.stores path = some db ∧
      ∃ result, recipes.rekeyRepositoryDatabase db.rows oldName newName = .ok result := by
  induction paths with
  | nil => cases listed
  | cons first rest ih =>
    simp only [preflightStores, bind, Except.bind] at passed
    split at passed
    · cases passed
    · rename_i db present
      split at passed
      · cases passed
      · rename_i result accepted
        rcases List.mem_cons.mp listed with rfl | listed
        · exact ⟨db, present, result, accepted⟩
        · exact ih passed listed

theorem main_ready {world : RenameWorld Rows Counts} {journal : RenameJournal}
    {current : Identity} {result : Rows × Counts}
    (found : world.main.identities.find? (·.repositoryId = journal.repositoryId) = some current)
    (oldName : current.fullName = journal.oldName) (free : world.main.identities.any (fun other =>
      sameName other.fullName journal.newName && other.repositoryId ≠ journal.repositoryId) =
        false)
    (accepted : recipes.rekeyRepositoryDatabase world.main.rows journal.oldName journal.newName =
      .ok result) :
    ∃ main, world.main.rekeyed recipes journal >>= Database.renamed journal = .ok main := by
  obtain ⟨rekeyed, isRekeyed⟩ : ∃ rekeyed, world.main.rekeyed recipes journal = .ok rekeyed := by
    simp [Database.rekeyed, accepted, bind, Except.bind, pure, Except.pure]
  have present := List.mem_of_find?_eq_some found
  have isCurrent : current.repositoryId = journal.repositoryId := by
    simpa using List.find?_some found
  -- Only the row of the repository holds the new name, and that row is renamed.
  have noOther : rekeyed.identities.any (fun identity => !identity.renames journal &&
      sameName identity.fullName journal.newName) = false := by
    rw [(rekeyed_spec isRekeyed).2.2.2, List.any_eq_false]
    intro identity listed
    by_cases own : identity.repositoryId = journal.repositoryId
    · obtain rfl : identity = current :=
        List.inj_on_of_nodup_map world.main.distinct listed present (own.trans isCurrent.symm)
      simp [Identity.renames, own, oldName, sameName]
    · have named := List.any_eq_false.mp free identity listed
      simp only [ne_eq, own, not_false_eq_true, decide_true, Bool.and_true] at named
      simp [named]
  simp [isRekeyed, bind, Except.bind, Database.renamed, noOther]

theorem observed_ready {world planned : RenameWorld Rows Counts} {journal : RenameJournal}
    {identity : ObservedIdentity} {now : String}
    (observed : observeIdentity recipes world identity now = .ok (planned, journal))
    (targets : (journal.files.map (·.target)).Nodup) : JournalReady recipes journal planned := by
  simp only [observeIdentity, bind, Except.bind, pure, Except.pure] at observed
  split at observed
  · cases observed
  split at observed
  · cases observed
  rename_i free
  split at observed
  · cases observed
  rename_i current found
  split at observed
  · cases observed
  split at observed
  · cases observed
  rename_i result accepted
  split at observed
  · cases observed
  rename_i preflight
  split at observed
  · cases observed
  rename_i files plan
  obtain ⟨rfl, rfl⟩ := Prod.mk.inj (Except.ok.inj observed)
  exact {
    separate := planned_apart plan targets
    files := fun entry listed => (mem_planEntries plan listed).2
    stores := fun path listed => by
      obtain ⟨db, present, result⟩ := preflight_ready preflight listed
      exact ⟨db, present, .inr result⟩
    main := .inr (main_ready found rfl (by simpa using free) accepted)
    pending := rfl }

end

/-- Wherever crashes cut the rename and its recoveries, the next recovery ends as the uncut
rename does, and each database is rewritten once. -/
theorem rename_crash_safe {world planned : RenameWorld Rows Counts} {journal : RenameJournal}
    {identity : ObservedIdentity} {now : String}
    (observed : observeIdentity recipes world identity now = .ok (planned, journal))
    (targets : (journal.files.map (·.target)).Nodup) :
    ∃ final, (finishRename recipes journal planned).outcome = .ok final ∧
      (∀ state, Interrupted (recoverRepositoryRename recipes) planned state →
        (recoverRepositoryRename recipes state).outcome = .ok final) ∧
      RekeyedOnce journal.operationId planned.main final.main ∧
      ∀ path ∈ journal.databases, ∃ db next, planned.stores path = some db ∧
        final.stores path = some next ∧ RekeyedOnce journal.operationId db next := by
  have ready := observed_ready observed targets
  obtain ⟨states, final, runs, atPlanned, once⟩ := rename_restartable ready
  -- The marker is there, so the recovery of the planned world is the rename itself.
  have same : recoverRepositoryRename recipes planned = finishRename recipes journal planned := by
    rw [recoverRepositoryRename, ready.pending]
  refine ⟨final, ?_, fun state cut => runs.ends (runs.interrupted atPlanned cut), once⟩
  rw [← same]
  exact runs.ends atPlanned

/-- Texts are their own digests; one file is rewritten in place and one is moved. -/
def sampleRecipes : RenameRecipes (List String) Nat where
  repositoryStateDigest text := text
  rekeyRepositoryDatabase rows oldName newName :=
    .ok (rows.map fun row => if row = oldName then newName else row, rows.count oldName)
  planned _ _ _ := ["jobs/1.json", "leases/o__old.json"]
  targetOf _ _ _ path := if path = "leases/o__old.json" then "leases/o__new.json" else path
  afterOf _ _ newName _ := some newName

def sampleWorld : RenameWorld (List String) Nat where
  files path := if path = "jobs/1.json" ∨ path = "leases/o__old.json" then some "o/old" else none
  stores path := if path = "data/ham-primary-change-refusals.db" then some { rows := ["o/old"] }
    else none
  main := { rows := ["o/old", "o/x"], identities := [⟨"7", none, "o/old", "s"⟩] }
  names := none
  pending := none

theorem rename_crash_safe_sample : ∃ planned journal,
    observeIdentity sampleRecipes sampleWorld ⟨"7", "o/new", none⟩ "t" =
      .ok (planned, journal) ∧
    ∃ final, (finishRename sampleRecipes journal planned).outcome = .ok final ∧
      (∀ state, Interrupted (recoverRepositoryRename sampleRecipes) planned state →
        (recoverRepositoryRename sampleRecipes state).outcome = .ok final) ∧
      RekeyedOnce journal.operationId planned.main final.main ∧
      ∀ path ∈ journal.databases, ∃ db next, planned.stores path = some db ∧
        final.stores path = some next ∧ RekeyedOnce journal.operationId db next := by
  have distinct : (observeIdentity sampleRecipes sampleWorld ⟨"7", "o/new", none⟩ "t").toOption.map
      (fun result => decide (result.2.files.map (·.target)).Nodup) = some true := by
    decide +kernel
  cases observed : observeIdentity sampleRecipes sampleWorld ⟨"7", "o/new", none⟩ "t" with
  | error message =>
    rw [observed] at distinct
    cases distinct
  | ok result =>
    rw [observed] at distinct
    have targets : (result.2.files.map (·.target)).Nodup := by
      simpa [Except.toOption] using distinct
    exact ⟨result.1, result.2, rfl, rename_crash_safe sampleRecipes observed targets⟩

end AdversarialReview.Repository
