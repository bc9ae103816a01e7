import Mathlib.Data.List.Sort
import Obulus.Research.Schema

namespace Obulus.Research

open Foundation Store ReadCommitted

structure Input where
  now : Nat
  newId : String

structure Environment where
  encoding : Encoding
  hexDigest : String → String

abbrev Statement (α τ : Type) := Outcome view (Except StoreError α) τ

def writing {α τ : Type} (changes : List Change) (place : τ) : Statement α τ :=
  .next [] (changes.map Change.write) place

def locking {α τ : Type} (rows : List Row) (place : τ) : Statement α τ := .next rows [] place

def noRows : StoreError := .database "Query returned no rows"

structure Citation where
  handle : String
  shelf : String
  excerpt : String
  price : Nat
  deriving DecidableEq, Repr

structure JobStatus where
  id : String
  queryId : String
  payer : Option String
  payTo : String
  network : String
  asset : String
  amountAtomic : Nat
  spentAtomic : Nat
  refundableAtomic : Nat
  status : BundleStatus
  transactionSignature : Option String
  failureReason : Option String
  createdAt : Nat
  fundedAt : Option Nat
  completedAt : Option Nat
  citations : List Citation
  pendingHandles : List String
  deriving DecidableEq, Repr

variable (jobId : String)

def documentsOf (db : Database) : List BundleDocument :=
  (db.bundleDocuments.rows.filter fun d => d.quoteId = jobId).insertionSort fun d e => d.rank ≤ e.rank

def isDelivered (db : Database) (d : BundleDocument) : Bool :=
  (d.payShQuoteId.bind db.paymentQuotes.get?).any fun q => q.status = .delivered

def addSpent (krwPerUsdc spent priceKrw : Nat) : Except StoreError Nat := do
  let atomic ← Funds.krwToUsdcAtomic priceKrw krwPerUsdc
  reject (u64Max < spent + atomic) (.validation "research job spend overflow")
  return spent + atomic

def spentAtomic (db : Database) (krwPerUsdc : Nat) (documents : List BundleDocument) :
    Except StoreError Nat :=
  ((documents.filter (isDelivered db)).map fun d => d.priceKrw).foldlM (addSpent krwPerUsdc) 0

-- the statements of load_research_job_status
inductive Reading
  | job
  | krwPerUsdc (job : Job) (transactionSignature : Option String)
  | documents (job : Job) (transactionSignature : Option String) (krwPerUsdc : Nat)

def loadResearchJobStatus (db : Database) : Reading → Except StoreError (Reading ⊕ JobStatus)
  | .job => do
    let job ← orReject (db.bundleQuotes.get? jobId) (.notFound "research job")
    return .inl (.krwPerUsdc job
      ((db.bundleChainSettlements.get? jobId).map Funds.ChainSettlement.transactionSignature))
  | .krwPerUsdc job signature => do
    let row ← orReject (db.bundleQuotes.get? jobId) noRows
    return .inl (.documents job signature row.krwPerUsdc)
  | .documents job signature krwPerUsdc => do
    let documents := documentsOf jobId db
    let spent ← spentAtomic db krwPerUsdc documents
    return .inr
      { id := job.id
        queryId := job.queryId
        payer := job.payerWallet
        payTo := job.payTo
        network := job.network
        asset := job.asset
        amountAtomic := job.amountAtomic
        spentAtomic := spent
        refundableAtomic := job.amountAtomic - spent
        status := job.status
        transactionSignature := signature
        failureReason := job.failureReason
        createdAt := job.createdAt
        fundedAt := job.settledAt
        completedAt := job.deliveredAt
        citations := (documents.filter (isDelivered db)).map fun d =>
          ⟨d.documentHandle, d.shelfSnapshot, d.contentSnapshot, d.priceKrw⟩
        pendingHandles := (documents.filter fun d => !isDelivered db d).map fun d => d.documentHandle }

-- the status is read on its way to the caller
def report {τ : Type} (place : Reading → τ) (db : Database) (reading : Reading) :
    Statement JobStatus τ :=
  statement do
    match ← loadResearchJobStatus jobId db reading with
    | .inl reading => return .next [] [] (place reading)
    | .inr status => return .finish (.ok status)

end Obulus.Research
