import Obulus.Research.Status

namespace Obulus.Research

open Foundation Store ReadCommitted

inductive FailPlace
  | start
  | reading (reading : Reading)
  | fundingSource (current : JobStatus)
  | credit (current : JobStatus) (payer : String)
  | balance (current : JobStatus) (payer : String)
  | ledger (current : JobStatus) (payer : String) (balanceAtomic : Nat)
  | released (current : JobStatus)
  | price (current : JobStatus) (payer : String) (pending : List String) (amountKrw : Nat)
  | claim (current : JobStatus) (payer : String) (amountKrw : Nat)
  | closed (refundClaimId : Option String)
  | commit
  | report (reading : Reading)

structure FailRequest where
  jobId : String
  error : String
  deriving DecidableEq, Repr

namespace Fail

variable (env : Environment) (request : FailRequest) (input : Input) (db : Database)

def reason : String := trim request.error

def accountOf (current : JobStatus) (payer : String) : Funds.AccountKey :=
  ⟨payer, current.payTo, current.network, current.asset⟩

def check : Except StoreError Unit :=
  reject (reason request = "" ∨ 1000 < (reason request).utf8ByteSize)
    (.validation "research job error must be between 1 and 1000 characters")

def consider (current : JobStatus) : Statement JobStatus FailPlace :=
  if current.status ∈ [.completed, .refundPending, .balanceRefunded] then .finish (.ok current)
  else if current.status ∈ [.funded, .processing] then .next [] [] (.fundingSource current)
  else .finish (.error (.conflict s!"research job cannot fail from status {current.status.text}"))

def openRefund (job : Job) (current : JobStatus) : Except StoreError (Statement JobStatus FailPlace) :=
  if job.fundingSource = .prepaid then do
    let payer ← orReject current.payer (.conflict "prepaid research job has no payer wallet")
    return .next [] [] (if 0 < current.refundableAtomic then .credit current payer else .released current)
  else if 0 < current.refundableAtomic then do
    let payer ← orReject current.payer (.conflict "research refund has no payer wallet")
    return .next [] [] (.price current payer current.pendingHandles 0)
  else
    return .next [] [] (.closed none)

-- insert_payout_claim for the buyer of the job
def refundClaim (jobId : String) (current : JobStatus) (payer : String) (amountKrw : Nat) :
    Payout.PayoutClaim where
  id := input.newId
  earningEventId := none
  openCallId := none
  beneficiaryUserId := "research-refund:" ++ jobId
  kind := "research_refund"
  escrowWallet := current.payTo
  recipientWallet := payer
  asset := current.asset
  network := current.network
  amountAtomic := current.refundableAtomic
  amountKrw := amountKrw
  status := .pending
  leaseOwner := none
  leaseExpiresAt := none
  transactionSignature := none
  signedTransactionBase64 := none
  recentBlockhash := none
  lastValidBlockHeight := none
  preparedAt := none
  absenceObservedAt := none
  attemptCount := 0
  lastError := none
  createdAt := input.now
  updatedAt := input.now
  confirmedAt := none

def closedJob (refundClaimId : Option String) (job : Job) : Job :=
  { job with
    status := if refundClaimId.isSome then .refundPending else .completed
    failureReason := reason request
    refundClaimId := refundClaimId }

def releasedJob (current : JobStatus) (job : Job) : Job :=
  { job with
    status := .balanceRefunded
    failureReason := reason request
    balanceReleaseAtomic := current.refundableAtomic }

-- UPDATE payment_bundle_quotes .. WHERE id = job
def updateJob (f : Job → Job) : List Change :=
  (db.bundleQuotes.get? (trim request.jobId)).toList.map fun job => .job (f job)

def run : FailPlace → Statement JobStatus FailPlace
  | .start => statement do
    check request
    return .next [] [] (.reading .job)
  | .reading reading => statement do
    match ← loadResearchJobStatus (trim request.jobId) db reading with
    | .inl reading => return .next [] [] (.reading reading)
    | .inr current => return consider current
  | .fundingSource current => statement do
    let job ← orReject (db.bundleQuotes.get? (trim request.jobId)) noRows
    openRefund job current
  | .credit current payer => statement do
    let amount ← asI64 current.refundableAtomic
    let account ← orReject (db.prepaidAccounts.get? (accountOf current payer))
      (.conflict "prepaid account no longer exists")
    reject (i64Max < account.availableAtomic + amount) (.database "integer out of range")
    return writing [.account ⟨account.key, account.availableAtomic + amount⟩] (.balance current payer)
  | .balance current payer =>
    .next [] [] (.ledger current payer
      (((db.prepaidAccounts.get? (accountOf current payer)).map
        Funds.PrepaidAccount.availableAtomic).getD 0))
  | .ledger current payer balance => statement do
    let amount ← asI64 current.refundableAtomic
    let balance ← asI64 balance
    let entry : Funds.LedgerEntry := ⟨input.newId, accountOf current payer, .researchRelease,
      trim request.jobId, amount, balance, input.now⟩
    reject (db.prepaidLedger.rows.any (fun e => decide (e.id = entry.id)) = true)
      (.database "UNIQUE constraint failed: prepaid_ledger.id")
    reject ((db.prepaidLedger.get? entry.reference).isSome = true)
      (.database "UNIQUE constraint failed: prepaid_ledger.kind, prepaid_ledger.reference_id")
    return writing [.ledger entry] (.released current)
  | .released current => statement do
    let _ ← asI64 current.refundableAtomic
    return writing (updateJob request db (releasedJob request current)) .commit
  | .price current payer [] amountKrw => .next [] [] (.claim current payer amountKrw)
  | .price current payer (handle :: pending) amountKrw => statement do
    let document ← orReject (db.bundleDocuments.rows.find? fun d =>
      d.quoteId = trim request.jobId ∧ d.documentHandle = handle) noRows
    reject (u64Max < amountKrw + document.priceKrw) (.validation "research refund is too large")
    return .next [] [] (.price current payer pending (amountKrw + document.priceKrw))
  | .claim current payer amountKrw => statement do
    reject (current.refundableAtomic = 0)
      (.validation "payout claim amount must be greater than zero")
    reject (validSolanaAddress env.encoding current.payTo = false ∨
      validSolanaAddress env.encoding payer = false)
      (.validation "payout claim wallets must be valid Solana addresses")
    let _ ← asI64 current.refundableAtomic
    let _ ← asI64 amountKrw
    reject ((db.payoutClaims.get? input.newId).isSome = true)
      (.database "UNIQUE constraint failed: payout_claims.id")
    return writing [.claim (refundClaim input (trim request.jobId) current payer amountKrw)]
      (.closed input.newId)
  | .closed refundClaimId => writing (updateJob request db (closedJob request refundClaimId)) .commit
  | .commit => .commit (.report .job)
  | .report reading => report (trim request.jobId) .report db reading

end Fail

end Obulus.Research
