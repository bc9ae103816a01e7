import Obulus.Payout.Claims

namespace Obulus.Payout

open Foundation Store

section Lease

def expireLease (now : Nat) (r : PayoutClaim) : PayoutClaim :=
  { r with
    status := if r.signedTransactionBase64 = none then .pending else .prepared
    leaseOwner := none
    leaseExpiresAt := none
    updatedAt := now }

def leaseExpired (now : Nat) (r : PayoutClaim) : Bool :=
  decide (r.status = .leased) && r.leaseExpiresAt.any fun expiry => decide (expiry ≤ now)

def freshEvidence (r : PayoutClaim) : Bool :=
  decide (r.status = .pending ∨ r.status = .failed) && r.transactionSignature.isNone &&
    r.signedTransactionBase64.isNone && r.recentBlockhash.isNone &&
    r.lastValidBlockHeight.isNone && r.absenceObservedAt.isNone

def preparedEvidence (r : PayoutClaim) : Bool :=
  decide (r.status = .prepared) && r.transactionSignature.isSome &&
    r.signedTransactionBase64.isSome && r.recentBlockhash.isSome &&
    r.lastValidBlockHeight.isSome && decide (0 < r.attemptCount)

def leasable (now : Nat) (escrowWallet network : String) (r : PayoutClaim) : Bool :=
  r.confirmedAt.isNone && decide (r.attemptCount < 10) &&
    decide (r.escrowWallet = escrowWallet) && decide (r.network = network) &&
    (r.leaseExpiresAt.all fun expiry => decide (expiry ≤ now)) &&
    (freshEvidence r || preparedEvidence r)

def leaseRank (r : PayoutClaim) : Nat :=
  if r.status = .prepared then 0 else 1

def leaseOrder (a b : PayoutClaim) : Bool :=
  decide (leaseRank a < leaseRank b) || (decide (leaseRank a = leaseRank b) &&
    (decide (a.createdAt < b.createdAt) || (decide (a.createdAt = b.createdAt) &&
      decide (a.id ≤ b.id))))

def leasableIds (db : Database) (now : Nat) (escrowWallet network : String) (limit : Nat) :
    List String :=
  (((db.payoutClaims.rows.filter (leasable now escrowWallet network)).mergeSort leaseOrder).take
    limit).map PayoutClaim.id

def takeLease (workerId : String) (leaseExpiresAt now : Nat) (r : PayoutClaim) : PayoutClaim :=
  { r with
    status := if r.signedTransactionBase64 = none then .leased else .prepared
    leaseOwner := some workerId
    leaseExpiresAt := some leaseExpiresAt
    updatedAt := now }

def leaseEach (workerId : String) (leaseExpiresAt now : Nat) :
    Database → List String → Except StoreError (Database × List PayoutClaim)
  | db, [] => .ok (db, [])
  | db, id :: ids => do
    let expiry ← asI64 leaseExpiresAt
    let db ← updateClaims db (fun r => r.id = id) (takeLease workerId expiry now) (fun _ => rfl)
      (fun _ => rfl)
    let claim ← loadPayoutClaim db id
    let (db, claims) ← leaseEach workerId leaseExpiresAt now db ids
    return (db, claim :: claims)

structure LeaseRequest where
  workerId : String
  escrowWallet : String
  network : String
  limit : Nat
  leaseMs : Nat
  deriving DecidableEq, Repr

def leasePayoutClaims (enc : Encoding) (db : Database) (now : Nat) (req : LeaseRequest) :
    Except StoreError (Database × List PayoutClaim) := do
  let workerId := trim req.workerId
  reject (¬(3 ≤ workerId.utf8ByteSize ∧ workerId.utf8ByteSize ≤ 128))
    (.validation "workerId must be between 3 and 128 characters")
  reject (¬(1 ≤ req.limit ∧ req.limit ≤ 100) ∨
      ¬(10000 ≤ req.leaseMs ∧ req.leaseMs ≤ payoutMaxLeaseMs))
    (.validation "payout lease requires limit 1..100 and leaseMs 10000..600000")
  reject (validSolanaAddress enc (trim req.escrowWallet) = false ∨ trim req.network = "")
    (.validation "a valid escrowWallet and network are required for payout leasing")
  let leaseExpiresAt := saturatingAdd now req.leaseMs
  let now ← asI64 now
  let db ← updateClaims db (leaseExpired now) (expireLease now) (fun _ => rfl) (fun _ => rfl)
  leaseEach workerId leaseExpiresAt now db
    (leasableIds db now (trim req.escrowWallet) (trim req.network) req.limit)

end Lease

section Prepare

structure PrepareRequest where
  claimId : String
  workerId : String
  transactionSignature : String
  signedTransactionBase64 : String
  recentBlockhash : String
  lastValidBlockHeight : Nat
  deriving DecidableEq, Repr

def base64Character (value : Char) : Bool :=
  isAsciiAlphanumeric value || value == '+' || value == '/' || value == '='

def validatePrepare (enc : Encoding) (req : PrepareRequest) : Except StoreError Unit := do
  let transactionSignature := trim req.transactionSignature
  let signedTransactionBase64 := trim req.signedTransactionBase64
  reject (¬(enc.base58Decode transactionSignature).any fun decoded => decoded.length == 64)
    (.validation "transactionSignature must be a base58 Solana signature")
  reject (¬(32 ≤ signedTransactionBase64.utf8ByteSize ∧
      signedTransactionBase64.utf8ByteSize ≤ 32768) ∨
      ¬signedTransactionBase64.toList.all base64Character)
    (.validation "signedTransactionBase64 must be a bounded base64 transaction")
  let signedTransaction ← orReject (enc.base64Decode signedTransactionBase64)
    (.validation "signedTransactionBase64 must be canonical base64")
  reject (fullySignedSolanaTransactionSignature enc signedTransaction ≠ some transactionSignature)
    (.validation "payout transactionSignature must match the exact signed transaction")
  reject (validSolanaAddress enc req.recentBlockhash = false ∨ req.lastValidBlockHeight = 0)
    (.validation "recentBlockhash and lastValidBlockHeight are required")

def recordPrepared (req : PrepareRequest) (lastValidBlockHeight now : Nat) (r : PayoutClaim) :
    PayoutClaim :=
  { r with
    status := .prepared
    transactionSignature := some (trim req.transactionSignature)
    signedTransactionBase64 := some (trim req.signedTransactionBase64)
    recentBlockhash := some (trim req.recentBlockhash)
    lastValidBlockHeight := some lastValidBlockHeight
    attemptCount := r.attemptCount + 1
    preparedAt := some now
    absenceObservedAt := none
    lastError := none
    updatedAt := now }

def prepareLeased (db : Database) (now : Nat) (req : PrepareRequest) :
    Except StoreError (Database × PayoutClaim) := do
  requireNoRollbackRecoveryHolds db
  let lastValidBlockHeight ← asI64 req.lastValidBlockHeight
  let now ← asI64 now
  let db ← updateClaims db (fun r => r.id = trim req.claimId)
    (recordPrepared req lastValidBlockHeight now) (fun _ => rfl) (fun _ => rfl)
  let claim ← loadPayoutClaim db (trim req.claimId)
  return (db, claim)

def resendPrepared (db : Database) (req : PrepareRequest) (row : PayoutClaim) :
    Except StoreError (Database × PayoutClaim) := do
  reject (¬(row.transactionSignature = some (trim req.transactionSignature) ∧
      row.signedTransactionBase64 = some (trim req.signedTransactionBase64)))
    (.conflict "payout claim already has a different prepared transaction")
  let claim ← loadPayoutClaim db (trim req.claimId)
  return (db, claim)

def preparePayoutClaim (enc : Encoding) (db : Database) (now : Nat) (req : PrepareRequest) :
    Except StoreError (Database × PayoutClaim) := do
  validatePrepare enc req
  let row ← orReject (db.payoutClaims.get? (trim req.claimId)) (.notFound "payout claim")
  requireActivePayoutLease req.workerId row.leaseOwner row.leaseExpiresAt now
  if row.status = .prepared then resendPrepared db req row
  else do
    reject (row.status ≠ .leased) (.conflict "payout claim must be leased before preparation")
    prepareLeased db now req

end Prepare

section Complete

def recordConfirmed (now : Nat) (r : PayoutClaim) : PayoutClaim :=
  { r with
    status := .confirmed
    signedTransactionBase64 := none
    leaseOwner := none
    leaseExpiresAt := none
    lastError := none
    absenceObservedAt := none
    confirmedAt := some now
    updatedAt := now }

structure CompleteRequest where
  claimId : String
  workerId : String
  transactionSignature : String
  deriving DecidableEq, Repr

def recompleteConfirmed (db : Database) (now : Nat) (claim : PayoutClaim)
    (req : CompleteRequest) : Except StoreError (Database × PayoutClaim) := do
  reject (claim.transactionSignature ≠ some (trim req.transactionSignature))
    (.conflict "payout claim was confirmed with another signature")
  let db ← finalizeResearchRefundJob db claim now
  let completed ← loadPayoutClaim db (trim req.claimId)
  return (db, completed)

def completePrepared (db : Database) (now : Nat) (claim : PayoutClaim)
    (req : CompleteRequest) : Except StoreError (Database × PayoutClaim) := do
  requireActivePayoutLease req.workerId claim.leaseOwner claim.leaseExpiresAt now
  reject (claim.status ≠ .prepared ∨
      claim.transactionSignature ≠ some (trim req.transactionSignature))
    (.conflict "confirmed signature does not match the prepared payout")
  let confirmedAt ← asI64 now
  let db ← updateClaims db (fun r => r.id = trim req.claimId) (recordConfirmed confirmedAt)
    (fun _ => rfl) (fun _ => rfl)
  let db ← finalizeResearchRefundJob (markEarningPaid db claim.earningEventId) claim now
  let completed ← loadPayoutClaim db (trim req.claimId)
  return (db, completed)

def completePayoutClaim (db : Database) (now : Nat) (req : CompleteRequest) :
    Except StoreError (Database × PayoutClaim) := do
  let claim ← loadPayoutClaim db (trim req.claimId)
  if claim.status = .confirmed then recompleteConfirmed db now claim req
  else completePrepared db now claim req

end Complete

section Fail

def recordAbandoned (error : String) (now : Nat) (r : PayoutClaim) : PayoutClaim :=
  { r with
    status := .failed
    transactionSignature := none
    signedTransactionBase64 := none
    recentBlockhash := none
    lastValidBlockHeight := none
    preparedAt := none
    absenceObservedAt := none
    leaseOwner := none
    leaseExpiresAt := none
    lastError := some error
    updatedAt := now }

def recordAbsence (error : String) (now : Nat) (r : PayoutClaim) : PayoutClaim :=
  { r with
    status := .prepared
    absenceObservedAt := r.absenceObservedAt <|> some now
    leaseOwner := none
    leaseExpiresAt := none
    lastError := some error
    updatedAt := now }

def recordFailure (error : String) (now : Nat) (r : PayoutClaim) : PayoutClaim :=
  { r with
    status := if r.signedTransactionBase64 = none then .failed else .prepared
    leaseOwner := none
    leaseExpiresAt := none
    absenceObservedAt := none
    attemptCount := r.attemptCount + if r.signedTransactionBase64 = none then 1 else 0
    lastError := some error
    updatedAt := now }

def absenceConfirmed (claim : PayoutClaim) (now : Nat) : Bool :=
  claim.absenceObservedAt.any fun observedAt =>
    decide (saturatingAdd observedAt payoutAbsenceConfirmationMs ≤ now)

def abandonRow (claim : PayoutClaim) (error : String) (now : Nat) : PayoutClaim → PayoutClaim :=
  if absenceConfirmed claim now then recordAbandoned error now else recordAbsence error now

theorem abandonRow_id (claim : PayoutClaim) (error : String) (now : Nat) (r : PayoutClaim) :
    (abandonRow claim error now r).id = r.id := by
  unfold abandonRow
  split <;> rfl

theorem abandonRow_earningEventId (claim : PayoutClaim) (error : String) (now : Nat)
    (r : PayoutClaim) : (abandonRow claim error now r).earningEventId = r.earningEventId := by
  unfold abandonRow
  split <;> rfl

def abandonPrepared (db : Database) (now : Nat) (claim : PayoutClaim) (claimId error : String) :
    Except StoreError Database := do
  reject (claim.status ≠ .prepared ∨ claim.transactionSignature = none ∨
      claim.signedTransactionBase64 = none)
    (.conflict "only an exact prepared payout can enter absence confirmation")
  reject (claim.absenceObservedAt.any fun observedAt =>
      decide (observedAt < claim.preparedAt.getD claim.createdAt ∨ now < observedAt))
    (.conflict "payout absence observation is outside the prepared transaction lifetime")
  let now ← asI64 now
  updateClaims db (fun r => r.id = trim claimId) (abandonRow claim error now)
    (abandonRow_id claim error now) (abandonRow_earningEventId claim error now)

def retainPrepared (db : Database) (now : Nat) (claimId error : String) :
    Except StoreError Database := do
  let now ← asI64 now
  updateClaims db (fun r => r.id = trim claimId) (recordFailure error now) (fun _ => rfl)
    (fun _ => rfl)

structure FailRequest where
  claimId : String
  workerId : String
  error : String
  abandonPreparedTransaction : Bool
  deriving DecidableEq, Repr

def recordFail (db : Database) (now : Nat) (claim : PayoutClaim) (req : FailRequest)
    (error : String) : Except StoreError Database :=
  if req.abandonPreparedTransaction then abandonPrepared db now claim req.claimId error
  else retainPrepared db now req.claimId error

def failUnconfirmed (db : Database) (now : Nat) (claim : PayoutClaim) (req : FailRequest)
    (error : String) : Except StoreError (Database × PayoutClaim) := do
  let db ← recordFail db now claim req error
  let failed ← loadPayoutClaim db (trim req.claimId)
  return (db, failed)

def failPayoutClaim (db : Database) (now : Nat) (req : FailRequest) :
    Except StoreError (Database × PayoutClaim) := do
  let error := trim req.error
  reject (error = "" ∨ 1000 < error.length)
    (.validation "payout failure error must be between 1 and 1000 characters")
  let claim ← loadPayoutClaim db (trim req.claimId)
  requireActivePayoutLease req.workerId claim.leaseOwner claim.leaseExpiresAt now
  if claim.status = .confirmed then .ok (db, claim)
  else failUnconfirmed db now claim req error

end Fail

end Obulus.Payout
