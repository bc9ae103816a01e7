import Obulus.Foundation.Table
import Obulus.Store.Error
import Obulus.Store.Solana

namespace Obulus.Payout

open Foundation Store

def payoutAbsenceConfirmationMs : Nat := 2 * 60 * 1000
def payoutMaxLeaseMs : Nat := 10 * 60 * 1000

inductive ClaimStatus
  | pending
  | leased
  | prepared
  | failed
  | confirmed
  deriving DecidableEq, Repr

structure PayoutClaim where
  id : String
  earningEventId : Option String
  openCallId : Option String
  beneficiaryUserId : String
  kind : String
  escrowWallet : String
  recipientWallet : String
  asset : String
  network : String
  amountAtomic : Nat
  amountKrw : Nat
  status : ClaimStatus
  leaseOwner : Option String
  leaseExpiresAt : Option Nat
  transactionSignature : Option String
  signedTransactionBase64 : Option String
  recentBlockhash : Option String
  lastValidBlockHeight : Option Nat
  preparedAt : Option Nat
  absenceObservedAt : Option Nat
  attemptCount : Nat
  lastError : Option String
  createdAt : Nat
  updatedAt : Nat
  confirmedAt : Option Nat
  deriving DecidableEq, Repr

inductive PayoutStatus
  | held
  | accrued
  | onchain
  | claimable
  | paid
  deriving DecidableEq, Repr

structure EarningEvent where
  id : String
  payoutStatus : PayoutStatus
  deriving DecidableEq, Repr

structure ResearchJob where
  id : String
  refundClaimId : Option String
  status : String
  deliveredAt : Option Nat
  deriving DecidableEq, Repr

structure RecoveryHold where
  id : String
  resolvedAt : Option Nat
  deriving DecidableEq, Repr

def signaturesOf (claims : Table PayoutClaim.id) : List String :=
  claims.rows.filterMap PayoutClaim.transactionSignature

def earningEventsOf (claims : Table PayoutClaim.id) : List String :=
  claims.rows.filterMap PayoutClaim.earningEventId

structure Database where
  payoutClaims : Table PayoutClaim.id
  uniqueSignatures : (signaturesOf payoutClaims).Nodup
  uniqueEarningEvents : (earningEventsOf payoutClaims).Nodup
  earningEvents : Table EarningEvent.id
  researchJobs : Table ResearchJob.id
  recoveryHolds : List RecoveryHold

def Database.empty : Database where
  payoutClaims := .empty
  uniqueSignatures := .nil
  uniqueEarningEvents := .nil
  earningEvents := .empty
  researchJobs := .empty
  recoveryHolds := []

def Database.rollbackRecoveryBlocked (db : Database) : Bool :=
  db.recoveryHolds.any fun hold => hold.resolvedAt.isNone

def requireNoRollbackRecoveryHolds (db : Database) : Except StoreError Unit :=
  reject (db.rollbackRecoveryBlocked = true) (.conflict
    "rollback recovery is holding new external side effects until receipt reconciliation")

def loadPayoutClaim (db : Database) (claimId : String) : Except StoreError PayoutClaim :=
  orReject (db.payoutClaims.get? (trim claimId)) (.notFound "payout claim")

section Update

variable (db : Database) (p : PayoutClaim → Bool) (f : PayoutClaim → PayoutClaim)
  (hid : ∀ r, (f r).id = r.id) (hevent : ∀ r, (f r).earningEventId = r.earningEventId)

include hevent in
theorem earningEventsOf_update :
    earningEventsOf (db.payoutClaims.update p f hid) = earningEventsOf db.payoutClaims := by
  simp only [earningEventsOf, Table.update, List.filterMap_map]
  apply List.filterMap_congr
  intro r _
  simp only [Function.comp]
  split
  · exact hevent r
  · rfl

-- the guard_payout_rollback_recovery trigger
def guardRollbackRecovery : Except StoreError Unit :=
  reject
    (db.rollbackRecoveryBlocked = true ∧
      (db.payoutClaims.rows.any fun r =>
        p r && decide (r.status ≠ .prepared ∧ (f r).status = .prepared)) = true)
    (.database "rollback recovery blocks new external side effects")

def updateClaims : Except StoreError Database := do
  guardRollbackRecovery db p f
  if unique : (signaturesOf (db.payoutClaims.update p f hid)).Nodup then
    .ok { db with
      payoutClaims := db.payoutClaims.update p f hid
      uniqueSignatures := unique
      uniqueEarningEvents := earningEventsOf_update db p f hid hevent ▸ db.uniqueEarningEvents }
  else
    .error (.database "UNIQUE constraint failed: payout_claims.transaction_signature")

variable {db p f hid hevent} {db' : Database}

theorem updateClaims_ok (h : updateClaims db p f hid hevent = .ok db') :
    db'.payoutClaims = db.payoutClaims.update p f hid ∧ db'.earningEvents = db.earningEvents ∧
      db'.researchJobs = db.researchJobs ∧ db'.recoveryHolds = db.recoveryHolds := by
  simp only [updateClaims, bind_eq_ok] at h
  obtain ⟨_, _, h⟩ := h
  split at h
  · cases h
    exact ⟨rfl, rfl, rfl, rfl⟩
  · cases h

end Update

def markEarningPaid (db : Database) (earningEventId : Option String) : Database :=
  match earningEventId with
  | none => db
  | some id =>
    { db with
      earningEvents := db.earningEvents.update (fun e => e.id = id)
        (fun e => { e with payoutStatus := .paid }) (fun _ => rfl) }

def requireActivePayoutLease (workerId : String) (leaseOwner : Option String)
    (leaseExpiresAt : Option Nat) (now : Nat) : Except StoreError Unit :=
  reject (leaseOwner ≠ some (trim workerId) ∨ leaseExpiresAt.all fun expiry => expiry ≤ now)
    (.conflict "payout claim is not actively leased by this worker")

def refundPrefix : String := "research-refund:"

def refundJobId (beneficiaryUserId : String) : Option String :=
  if refundPrefix.toList <+: beneficiaryUserId.toList then
    let jobId := String.ofList (beneficiaryUserId.toList.drop refundPrefix.length)
    if jobId.isEmpty then none else some jobId
  else none

def completeResearchJob (db : Database) (claim : PayoutClaim) (jobId : String) (status : String)
    (confirmedAt : Nat) : Except StoreError Database :=
  if status = "balance_refunded" then .ok db
  else do
    reject (status ≠ "refund_pending")
      (.conflict s!"research refund cannot complete parent job from status {status}")
    let confirmedAt ← asI64 confirmedAt
    let updated := fun job : ResearchJob =>
      decide (job.id = jobId ∧ job.refundClaimId = some claim.id ∧ job.status = "refund_pending")
    reject ((db.researchJobs.rows.filter updated).length ≠ 1)
      (.conflict "research refund parent changed before completion")
    return { db with
      researchJobs := db.researchJobs.update updated
        (fun job => { job with
          status := "balance_refunded"
          deliveredAt := job.deliveredAt <|> some confirmedAt })
        (fun _ => rfl) }

def finalizeResearchRefundJob (db : Database) (claim : PayoutClaim) (confirmedAt : Nat) :
    Except StoreError Database :=
  if claim.kind ≠ "research_refund" then .ok db
  else do
    let jobId ← orReject (refundJobId claim.beneficiaryUserId)
      (.conflict "research refund claim has no immutable parent job reference")
    let job ← orReject
      ((db.researchJobs.get? jobId).filter fun job => job.refundClaimId = some claim.id)
      (.conflict "research refund claim does not match its parent job")
    completeResearchJob db claim jobId job.status confirmedAt

end Obulus.Payout
