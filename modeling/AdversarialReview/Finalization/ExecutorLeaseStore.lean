import AdversarialReview.Library.JsDate
import AdversarialReview.Finalization.LedgerFold

/-! The app-store lease that admits one executor per subject, fenced by its lease id. -/

namespace AdversarialReview

structure LeaseRow where
  subjectKey : SubjectKey
  leaseId : String
  holder : String
  revisionRef : Option String
  acquiredAt : String
  deadline : String
  updatedAt : String
  deriving DecidableEq

abbrev LeaseTable := List LeaseRow

structure AcquireArgs where
  subject : SubjectKey
  holder : String
  leaseId : String
  revisionRef : Option String := none
  now : String
  deadline : String

/-- What a caller supplies to extend its lease. -/
structure RenewArgs where
  subject : SubjectKey
  leaseId : String
  revisionRef : Option String := none
  deadline : String
  now : Option String := none

/-- What a caller supplies to give its lease back. -/
structure ReleaseArgs where
  subject : SubjectKey
  leaseId : String

inductive AcquireReason where
  | inserted
  | stolen
  | contended
  deriving DecidableEq

/-- The answer to an acquire: the lease now held, or the live holder in the way. -/
structure AcquireResult where
  acquired : Bool
  lease : Option LeaseRow
  reason : String
  existing : Option LeaseRow

/-- The row a caller would store. -/
def AcquireArgs.cols (args : AcquireArgs) : LeaseRow :=
  { subjectKey := args.subject, leaseId := args.leaseId, holder := args.holder
    revisionRef := args.revisionRef, acquiredAt := args.now, deadline := args.deadline
    updatedAt := args.now }

def selectByKey (table : LeaseTable) (key : SubjectKey) : Option LeaseRow :=
  table.find? fun row => row.subjectKey = key

def insertLease (table : LeaseTable) (cols : LeaseRow) : Nat × LeaseTable :=
  if table.any fun row => row.subjectKey = cols.subjectKey then (0, table)
  else (1, table ++ [cols])

def updateLease (table : LeaseTable) (matching : LeaseRow → Bool)
    (change : LeaseRow → LeaseRow) : Nat × LeaseTable :=
  (table.countP matching, table.map fun row => if matching row then change row else row)

def fencedBy (subject : SubjectKey) (leaseId : String) (row : LeaseRow) : Bool :=
  row.subjectKey = subject ∧ row.leaseId = leaseId

def renewLease (table : LeaseTable) (args : RenewArgs) : Bool × LeaseTable :=
  let (changes, updated) := updateLease table (fencedBy args.subject args.leaseId) fun row =>
    { row with deadline := args.deadline, updatedAt := args.now.getD args.deadline
               revisionRef := args.revisionRef.or row.revisionRef }
  (changes = 1, updated)

def releaseLease (table : LeaseTable) (args : ReleaseArgs) : Bool × LeaseTable :=
  (table.countP (fencedBy args.subject args.leaseId) = 1,
    table.filter fun row => !fencedBy args.subject args.leaseId row)

section

variable [JsDate] [SqliteDate]

def isExpired (deadline now : String) : Bool :=
  JsDate.reached now deadline

/-- Replace the observed holder's row, if the database too finds its deadline passed. -/
def stealLease (table : LeaseTable) (cols : LeaseRow) (prevLeaseId now : String) :
    Nat × LeaseTable :=
  updateLease table
    (fun row => fencedBy cols.subjectKey prevLeaseId row && SqliteDate.reached now row.deadline)
    fun _ => cols

def acquireTxn (table : LeaseTable) (cols : LeaseRow) (now : String) :
    AcquireReason × LeaseTable :=
  match insertLease table cols with
  | (1, inserted) => (.inserted, inserted)
  | (_, table) =>
    match selectByKey table cols.subjectKey with
    | some existing =>
      if isExpired existing.deadline now then
        match stealLease table cols existing.leaseId now with
        | (1, stolen) => (.stolen, stolen)
        | (_, unstolen) => (.contended, unstolen)
      else (.contended, table)
    | none => (.contended, table)

def acquireLease (table : LeaseTable) (args : AcquireArgs) :
    Except String (AcquireResult × LeaseTable) :=
  if args.holder = "" then .error "lease acquire requires a holder identity"
  else if args.leaseId = "" then .error "lease acquire requires a leaseId fence token"
  else if args.now = "" ∨ args.deadline = "" then
    .error "lease acquire requires now + deadline timestamps"
  else match acquireTxn table args.cols args.now with
    | (.contended, table) =>
      .ok ({ acquired := false, lease := none, reason := "held"
             existing := selectByKey table args.subject }, table)
    | (.inserted, table) =>
      .ok ({ acquired := true, lease := selectByKey table args.subject, reason := "inserted"
             existing := none }, table)
    | (.stolen, table) =>
      .ok ({ acquired := true, lease := selectByKey table args.subject, reason := "stolen"
             existing := none }, table)

inductive LeaseCall where
  | acquire (args : AcquireArgs)
  | renew (args : RenewArgs)
  | release (args : ReleaseArgs)

def LeaseCall.apply (table : LeaseTable) : LeaseCall → LeaseTable
  | acquire args =>
    match acquireLease table args with
    | .ok (_, table) => table
    | .error _ => table
  | renew args => (renewLease table args).2
  | release args => (releaseLease table args).2

def runLeaseCalls (calls : List LeaseCall) : LeaseTable :=
  calls.foldl LeaseCall.apply []

end

end AdversarialReview
