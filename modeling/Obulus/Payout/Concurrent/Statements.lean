import Mathlib.Data.List.Sort
import Obulus.Foundation.ReadCommitted
import Obulus.Payout.Operations

namespace Obulus.Payout.Concurrent

open Foundation Store ReadCommitted

-- the tables that the backend processes share
structure Shared where
  payoutClaims : Table PayoutClaim.id
  earningEvents : Table EarningEvent.id
  researchJobs : Table ResearchJob.id
  recoveryHolds : List RecoveryHold

inductive Row
  | claim (id : String)
  | earning (id : String)
  | job (id : String)
  -- the unique index of payout_claims
  | signature (text : String)
  deriving DecidableEq, Repr

inductive Cell
  | claim (row : Option PayoutClaim)
  | earning (row : Option EarningEvent)
  | job (row : Option ResearchJob)
  | index

def view : Row → Shared → Cell
  | .claim id, db => .claim (db.payoutClaims.get? id)
  | .earning id, db => .earning (db.earningEvents.get? id)
  | .job id, db => .job (db.researchJobs.get? id)
  | .signature _, _ => .index

inductive Change
  | claim (row : PayoutClaim)
  | earning (row : EarningEvent)
  | job (row : ResearchJob)

def Change.rows : Change → List Row
  | .claim row => .claim row.id :: row.transactionSignature.toList.map .signature
  | .earning row => [.earning row.id]
  | .job row => [.job row.id]

def Change.run (db : Shared) : Change → Shared
  | .claim row => { db with payoutClaims := db.payoutClaims.put row }
  | .earning row => { db with earningEvents := db.earningEvents.put row }
  | .job row => { db with researchJobs := db.researchJobs.put row }

theorem Change.frame (c : Change) (db : Shared) (k : Row) (hk : k ∉ c.rows) :
    view k (c.run db) = view k db := by
  cases c <;> cases k <;> first
    | rfl
    | simp only [view, run]
      rw [Table.get?_put_other (by simp_all [rows])]

def Change.write (c : Change) : Write view := ⟨c.rows, fun db => c.run db, c.frame⟩

abbrev Statement (α τ : Type) := Outcome view (Except StoreError α) τ

def writing {α τ : Type} (changes : List Change) (place : τ) : Statement α τ :=
  .next [] (changes.map Change.write) place

structure Input where
  now : Nat

section Reads

variable (db : Shared)

def blocked : Bool := db.recoveryHolds.any fun hold => hold.resolvedAt.isNone

def loadClaim (claimId : String) : Except StoreError PayoutClaim :=
  orReject (db.payoutClaims.get? (trim claimId)) (.notFound "payout claim")

-- an UPDATE of one claim, with the trigger and the unique index of the table
def updateClaim (old new : PayoutClaim) : Except StoreError Change := do
  reject (old.status ≠ .prepared ∧ new.status = .prepared ∧ blocked db = true)
    (.database "rollback recovery blocks new external side effects")
  reject (db.payoutClaims.rows.any (fun r => decide (r.id ≠ new.id) &&
    r.transactionSignature.isSome && decide (r.transactionSignature = new.transactionSignature)) = true)
    (.database "UNIQUE constraint failed: payout_claims.transaction_signature")
  return .claim new

def updateById (claimId : String) (f : PayoutClaim → PayoutClaim) :
    Except StoreError (List Change) :=
  match db.payoutClaims.get? claimId with
  | none => .ok []
  | some row => do
    let change ← updateClaim db row (f row)
    return [change]

end Reads

section Lease

inductive LeasePlace
  | start
  | expire (now : Nat)
  | select (now : Nat)
  | take (now : Nat) (ids : List String) (taken : List PayoutClaim)
  | load (now : Nat) (id : String) (ids : List String) (taken : List PayoutClaim)
  | done (taken : List PayoutClaim)

variable (enc : Encoding) (request : LeaseRequest) (input : Input) (db : Shared)

def validateLease : Except StoreError Unit := do
  reject (¬(3 ≤ (trim request.workerId).utf8ByteSize ∧ (trim request.workerId).utf8ByteSize ≤ 128))
    (.validation "workerId must be between 3 and 128 characters")
  reject (¬(1 ≤ request.limit ∧ request.limit ≤ 100) ∨
      ¬(10000 ≤ request.leaseMs ∧ request.leaseMs ≤ payoutMaxLeaseMs))
    (.validation "payout lease requires limit 1..100 and leaseMs 10000..600000")
  reject (validSolanaAddress enc (trim request.escrowWallet) = false ∨ trim request.network = "")
    (.validation "a valid escrowWallet and network are required for payout leasing")

def canLease (now : Nat) (r : PayoutClaim) : Bool :=
  leasable now (trim request.escrowWallet) (trim request.network) r

def selectIds (now : Nat) : List String :=
  (((db.payoutClaims.rows.filter (canLease request now)).insertionSort
    fun a b => leaseOrder a b = true).take request.limit).map PayoutClaim.id

def leaseUntil (now : Nat) : Nat := saturatingAdd now request.leaseMs

def takeFor (now : Nat) : PayoutClaim → PayoutClaim :=
  takeLease (trim request.workerId) (leaseUntil request now) now

def runLease : LeasePlace → Statement (List PayoutClaim) LeasePlace
  | .start => statement do
    validateLease enc request
    return .next [] [] (.expire input.now)
  | .expire now => statement do
    let _ ← asI64 now
    let changes ← (db.payoutClaims.rows.filter (leaseExpired now)).mapM fun r =>
      updateClaim db r (expireLease now r)
    return writing changes (.select now)
  | .select now => .next [] [] (.take now (selectIds request db now) [])
  | .take _ [] taken => .commit (.done taken)
  | .take now (id :: ids) taken => statement do
    let _ ← asI64 (leaseUntil request now)
    let changes ← updateById db id (takeFor request now)
    return writing changes (.load now id ids taken)
  | .load now id ids taken => statement do
    let claim ← loadClaim db id
    return .next [] [] (.take now ids (taken ++ [claim]))
  | .done taken => .finish (.ok taken)

end Lease

section Prepare

inductive PreparePlace
  | start
  | read (now : Nat)
  | replay
  | holds (now : Nat)
  | update (now : Nat)
  | load
  | commit (claim : PayoutClaim)
  | done (claim : PayoutClaim)

variable (enc : Encoding) (request : PrepareRequest) (input : Input) (db : Shared)

def isReplay (row : PayoutClaim) : Bool :=
  decide (row.status = .prepared ∧ row.transactionSignature = some (trim request.transactionSignature) ∧
    row.signedTransactionBase64 = some (trim request.signedTransactionBase64))

def considerPrepare (now : Nat) (row : PayoutClaim) :
    Except StoreError (Statement PayoutClaim PreparePlace) := do
  requireActivePayoutLease request.workerId row.leaseOwner row.leaseExpiresAt now
  if isReplay request row then return .next [] [] .replay
  else do
    reject (row.status = .prepared)
      (.conflict "payout claim already has a different prepared transaction")
    reject (row.status ≠ .leased) (.conflict "payout claim must be leased before preparation")
    return .next [] [] (.holds now)

def runPrepare : PreparePlace → Statement PayoutClaim PreparePlace
  | .start => statement do
    validatePrepare enc request
    return .next [] [] (.read input.now)
  | .read now => statement do
    let row ← orReject (db.payoutClaims.get? (trim request.claimId)) (.notFound "payout claim")
    considerPrepare request now row
  | .replay => .finish (loadClaim db request.claimId)
  | .holds now => statement do
    reject (blocked db = true) (.conflict
      "rollback recovery is holding new external side effects until receipt reconciliation")
    return .next [] [] (.update now)
  | .update now => statement do
    let lastValidBlockHeight ← asI64 request.lastValidBlockHeight
    let now ← asI64 now
    let changes ← updateById db (trim request.claimId) (recordPrepared request lastValidBlockHeight now)
    return writing changes .load
  | .load => statement do
    let claim ← loadClaim db request.claimId
    return .next [] [] (.commit claim)
  | .commit claim => .commit (.done claim)
  | .done claim => .finish (.ok claim)

end Prepare

section Complete

inductive CompletePlace
  | start
  | load (now : Nat)
  | readLease (now : Nat) (claim : PayoutClaim)
  | update (now : Nat) (claim : PayoutClaim)
  | earning (now : Nat) (claim : PayoutClaim)
  | refundJob (again : Bool) (now : Nat) (claim : PayoutClaim)
  | closeJob (again : Bool) (now : Nat) (claim : PayoutClaim) (jobId : String)
  | reload (again : Bool)
  | commit (again : Bool) (completed : PayoutClaim)
  | done (completed : PayoutClaim)

variable (request : CompleteRequest) (input : Input) (db : Shared)

def payEarning (claim : PayoutClaim) : List Change :=
  (claim.earningEventId.bind db.earningEvents.get?).toList.map fun e =>
    .earning { e with payoutStatus := .paid }

-- the SELECT of finalize_research_refund_job
def refundJob (again : Bool) (now : Nat) (claim : PayoutClaim) :
    Except StoreError (Statement PayoutClaim CompletePlace) :=
  if claim.kind ≠ "research_refund" then return .next [] [] (.reload again)
  else do
    let jobId ← orReject (refundJobId claim.beneficiaryUserId)
      (.conflict "research refund claim has no immutable parent job reference")
    let job ← orReject
      ((db.researchJobs.get? jobId).filter fun job => job.refundClaimId = some claim.id)
      (.conflict "research refund claim does not match its parent job")
    if job.status = "balance_refunded" then return .next [.job jobId] [] (.reload again)
    else do
      reject (job.status ≠ "refund_pending")
        (.conflict s!"research refund cannot complete parent job from status {job.status}")
      return .next [.job jobId] [] (.closeJob again now claim jobId)

def closeJob (now : Nat) (claim : PayoutClaim) (jobId : String) : Except StoreError (List Change) := do
  let confirmedAt ← asI64 now
  let job ← orReject ((db.researchJobs.get? jobId).filter fun job =>
      job.refundClaimId = some claim.id ∧ job.status = "refund_pending")
    (.conflict "research refund parent changed before completion")
  return [.job { job with
    status := "balance_refunded"
    deliveredAt := job.deliveredAt <|> some confirmedAt }]

def considerComplete (now : Nat) (claim row : PayoutClaim) :
    Except StoreError (Statement PayoutClaim CompletePlace) := do
  requireActivePayoutLease request.workerId row.leaseOwner row.leaseExpiresAt now
  reject (claim.status ≠ .prepared ∨
      claim.transactionSignature ≠ some (trim request.transactionSignature))
    (.conflict "confirmed signature does not match the prepared payout")
  return .next [] [] (.update now claim)

def loadForComplete (now : Nat) (claim : PayoutClaim) :
    Except StoreError (Statement PayoutClaim CompletePlace) :=
  if claim.status = .confirmed then do
    reject (claim.transactionSignature ≠ some (trim request.transactionSignature))
      (.conflict "payout claim was confirmed with another signature")
    return .next [] [] (.refundJob true now claim)
  else return .next [] [] (.readLease now claim)

def runComplete : CompletePlace → Statement PayoutClaim CompletePlace
  | .start => .next [] [] (.load input.now)
  | .load now => statement do
    let claim ← loadClaim db request.claimId
    loadForComplete request now claim
  | .readLease now claim => statement do
    let row ← orReject (db.payoutClaims.get? (trim request.claimId))
      (.database "Query returned no rows")
    considerComplete request now claim row
  | .update now claim => statement do
    let confirmedAt ← asI64 now
    let changes ← updateById db (trim request.claimId) (recordConfirmed confirmedAt)
    return writing changes (.earning now claim)
  | .earning now claim => writing (payEarning db claim) (.refundJob false now claim)
  | .refundJob again now claim => statement (refundJob db again now claim)
  | .closeJob again now claim jobId => statement do
    let changes ← closeJob db now claim jobId
    return writing changes (.reload again)
  | .reload again => statement do
    let completed ← loadClaim db request.claimId
    return .next [] [] (.commit again completed)
  | .commit _ completed => .commit (.done completed)
  | .done completed => .finish (.ok completed)

end Complete

section Fail

inductive FailPlace
  | start
  | load (now : Nat)
  | readLease (now : Nat) (claim : PayoutClaim)
  | update (now : Nat) (claim : PayoutClaim)
  | reload
  | commit (failed : PayoutClaim)
  | done (failed : PayoutClaim)

variable (request : FailRequest) (input : Input) (db : Shared)

def validateFail : Except StoreError Unit :=
  reject (trim request.error = "" ∨ 1000 < (trim request.error).length)
    (.validation "payout failure error must be between 1 and 1000 characters")

def checkAbandon (now preparedAt : Nat) (claim : PayoutClaim) : Except StoreError Unit := do
  reject (claim.status ≠ .prepared ∨ claim.transactionSignature = none ∨
      claim.signedTransactionBase64 = none)
    (.conflict "only an exact prepared payout can enter absence confirmation")
  reject (claim.absenceObservedAt.any fun observedAt =>
      decide (observedAt < preparedAt ∨ now < observedAt))
    (.conflict "payout absence observation is outside the prepared transaction lifetime")

def considerFail (now : Nat) (claim row : PayoutClaim) :
    Except StoreError (Statement PayoutClaim FailPlace) := do
  requireActivePayoutLease request.workerId row.leaseOwner row.leaseExpiresAt now
  if claim.status = .confirmed then return .finish (.ok claim)
  else if request.abandonPreparedTransaction then do
    checkAbandon now (row.preparedAt.getD row.createdAt) claim
    return .next [] [] (.update now claim)
  else return .next [] [] (.update now claim)

def failRow (now : Nat) (claim : PayoutClaim) : PayoutClaim → PayoutClaim :=
  if request.abandonPreparedTransaction then abandonRow claim (trim request.error) now
  else recordFailure (trim request.error) now

def runFail : FailPlace → Statement PayoutClaim FailPlace
  | .start => statement do
    validateFail request
    return .next [] [] (.load input.now)
  | .load now => statement do
    let claim ← loadClaim db request.claimId
    return .next [] [] (.readLease now claim)
  | .readLease now claim => statement do
    let row ← orReject (db.payoutClaims.get? (trim request.claimId))
      (.database "Query returned no rows")
    considerFail request now claim row
  | .update now claim => statement do
    let now ← asI64 now
    let changes ← updateById db (trim request.claimId) (failRow request now claim)
    return writing changes .reload
  | .reload => statement do
    let failed ← loadClaim db request.claimId
    return .next [] [] (.commit failed)
  | .commit failed => .commit (.done failed)
  | .done failed => .finish (.ok failed)

end Fail

inductive Request
  | lease (request : LeaseRequest)
  | prepare (request : PrepareRequest)
  | complete (request : CompleteRequest)
  | fail (request : FailRequest)

inductive Place
  | lease (request : LeaseRequest) (place : LeasePlace)
  | prepare (request : PrepareRequest) (place : PreparePlace)
  | complete (request : CompleteRequest) (place : CompletePlace)
  | fail (request : FailRequest) (place : FailPlace)

abbrev Reply := Except StoreError (List PayoutClaim)

def program (enc : Encoding) : Program view Request Reply Input Place where
  entry
    | .lease request => .lease request .start
    | .prepare request => .prepare request .start
    | .complete request => .complete request .start
    | .fail request => .fail request .start
  statement input place db :=
    match place with
    | .lease request place => (runLease enc request input db place).map id (.lease request)
    | .prepare request place =>
      (runPrepare enc request input db place).map (.map fun claim => [claim]) (.prepare request)
    | .complete request place =>
      (runComplete request input db place).map (.map fun claim => [claim]) (.complete request)
    | .fail request place =>
      (runFail request input db place).map (.map fun claim => [claim]) (.fail request)

end Obulus.Payout.Concurrent
