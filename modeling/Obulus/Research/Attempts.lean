import Obulus.Hosted.Commitment
import Obulus.Research.Status

namespace Obulus.Research

open Foundation Store

def researchPaymentPrepareDeadlineMs : Nat := 60 * 1000
def paymentAttemptReconcileAfterMs : Nat := 60 * 1000

structure PaymentReconciliation where
  jobId : String
  quoteId : String
  attemptId : String
  status : AttemptStatus
  reconcileAfter : Nat
  createdAt : Int
  preparedAt : Option Int
  payer : String
  network : String
  asset : String
  amountAtomic : Nat
  ownerAmountAtomic : Nat
  platformAmountAtomic : Nat
  recipientWallet : String
  platformRecipientWallet : Option String
  signedTransactionBase64 : Option String
  recentBlockhash : Option String
  challengeId : Option String
  externalId : Option String
  challengeExpiresAt : Option Int
  absenceObservedAt : Option Nat
  deriving DecidableEq, Repr

def validateResearchAttemptId (attemptId : String) : Except StoreError Unit :=
  reject (isHexDigest attemptId = false)
    (.validation "research payment attempt id must be 32 bytes of lowercase hex")

section Reads

variable (db : Database)

def reconciliationOf (attempt : PaymentAttempt) (quote : PaymentQuote) : PaymentReconciliation where
  jobId := attempt.jobId
  quoteId := attempt.quoteId
  attemptId := attempt.attemptId
  status := attempt.status
  reconcileAfter := attempt.reconcileAfter
  createdAt := attempt.createdAt
  preparedAt := attempt.preparedAt
  payer := attempt.payerWallet.getD ""
  network := quote.network
  asset := quote.asset
  amountAtomic := quote.amountAtomic
  ownerAmountAtomic := (Hosted.evidencePaymentSplit quote.amountAtomic).1
  platformAmountAtomic := (Hosted.evidencePaymentSplit quote.amountAtomic).2
  recipientWallet := quote.payTo
  platformRecipientWallet := attempt.platformRecipientWallet
  signedTransactionBase64 := attempt.signedTransactionBase64
  recentBlockhash := attempt.recentBlockhash
  challengeId := attempt.challengeId
  externalId := attempt.externalId
  challengeExpiresAt := attempt.challengeExpiresAt
  absenceObservedAt := attempt.absenceObservedAt

-- research_payment_attempts JOIN payment_bundle_quotes JOIN payment_quotes
def researchPaymentAttempt (attemptId : String) : Except StoreError PaymentReconciliation := do
  validateResearchAttemptId attemptId
  let attempt ← orReject (db.paymentAttempts.get? attemptId) (.notFound "research payment attempt")
  reject ((db.bundleQuotes.get? attempt.jobId).isNone = true) (.notFound "research payment attempt")
  let quote ← orReject (db.paymentQuotes.get? attempt.quoteId) (.notFound "research payment attempt")
  reject (quote.amountAtomic < 2)
    (.database "research Pay.sh amount must contain owner and platform shares")
  return reconciliationOf attempt quote

end Reads

section Writes

variable (db : Database)

def isActive (status : AttemptStatus) : Bool := status ∈ [.claimed, .prepared, .ambiguous]

def triggerError (x : Except String Guards.Fences) : Except StoreError Guards.Fences :=
  match x with
  | .ok fences => .ok fences
  | .error message => .error (.database message)

def fenceChanges (fences : Guards.Fences) (quoteId : String) : List Change :=
  if fences.get? quoteId = db.quoteFences.get? quoteId then []
  else match fences.get? quoteId with
    | some fence => [.fence fence]
    | none => [.freeFence quoteId]

def insertAttempt (row : PaymentAttempt) : Except StoreError (List Change) := do
  let fences ← triggerError
    (Guards.Postgres.apply db.surroundings (.insertResearch row.toResearchAttempt))
  reject ((db.paymentAttempts.get? row.attemptId).isSome = true)
    (.database "UNIQUE constraint failed: research_payment_attempts.attempt_id")
  reject (isActive row.status = true ∧ db.paymentAttempts.rows.any (fun a =>
    decide (a.jobId = row.jobId) && isActive a.status) = true)
    (.database "UNIQUE constraint failed: research_payment_attempts.job_id")
  return .attempt row :: fenceChanges db fences row.quoteId

def isBound (challengeId externalId : Option String) (challengeExpiresAt : Option Int)
    (quoteId : String) (kind : Guards.AttemptKind) (owner : String) : Bool :=
  db.challengeBindings.any fun b => decide (some b.challengeId = challengeId ∧ b.quoteId = quoteId ∧
    some b.externalId = externalId ∧ some (b.challengeExpiresAt : Int) = challengeExpiresAt ∧
    b.bindingKind = kind ∧ b.bindingOwner = owner)

-- the triggers that a status change adds to those of the attempts themselves
def statusTriggers (old new : PaymentAttempt) : Except StoreError Unit := do
  reject (old.status = .claimed ∧ new.status = .prepared ∧
    isBound db new.challengeId new.externalId new.challengeExpiresAt new.quoteId .research
      new.attemptId = false)
    (.database "Pay.sh challenge is not quote-bound")
  reject (old.status ≠ .prepared ∧ new.status = .prepared ∧ db.holdsUnresolved = true)
    (.database "rollback recovery blocks new external side effects")

def updateAttempt (assigned : List Guards.Column) (old new : PaymentAttempt) :
    Except StoreError (List Change) := do
  let fences ← triggerError (Guards.Postgres.apply db.surroundings
    (.updateResearch assigned old.toResearchAttempt new.toResearchAttempt))
  statusTriggers db old new
  return .attempt new :: fenceChanges db fences new.quoteId

end Writes

end Obulus.Research
