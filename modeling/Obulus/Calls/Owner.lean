import Obulus.Calls.Matching

namespace Obulus.Calls

open Foundation Store Funds

variable (app : Appraisal) (db : Database)

section Disputes

structure ReviewDisputeRequest where
  decision : String
  note : String
  deriving DecidableEq, Repr

variable (ids : AnswerIds) (now : Nat) (reviewerId memoryId : String) (request : ReviewDisputeRequest)

-- OPEN_ADMIN_CONSOLE_TO_ALL_ACCOUNTS
def requireAdmin : Except StoreError Unit :=
  reject ((db.users.get? reviewerId).any (fun u => !u.deleted) = false)
    (.unauthorized "an active signed-in account is required")

def checkReview : Except StoreError Unit := do
  reject (request.decision ∉ ["approved", "rejected"])
    (.validation "decision must be approved or rejected")
  reject ((trim request.note).length < 5 ∨ 1000 < (trim request.note).length)
    (.validation "review note must be between 5 and 1000 characters")

-- `dispute_events` is keyed by the user; a memory has one owner, so its rows are keyed by memory too
def submitDispute (userId reason : String) : Except StoreError Database := do
  reject ((trim reason).length < 20 ∨ 1000 < (trim reason).length)
    (.validation "dispute reason must be between 20 and 1000 characters")
  reject (db.disputes.rows.any (fun d => decide (d.userId = userId)) = true)
    (.conflict "this account has already used its dispute")
  let memory ← orReject ((db.memoryEntries.get? memoryId).filter fun m => decide (m.userId = userId))
    (.notFound "memory entry")
  reject (memory.status ≠ .voided) (.conflict "only a voided answer can be disputed")
  let _ ← asI64 now
  let disputes ← orReject (db.disputes.insert? ⟨memoryId, userId, .pending, none, none, none⟩)
    (.database "UNIQUE constraint failed: dispute_events.user_id")
  return { db with disputes := disputes }

def disputedMemory (dispute : Dispute) : Option (MemoryEntry × String) :=
  ((db.memoryEntries.get? memoryId).filter fun m => decide (m.userId = dispute.userId)).bind fun m =>
    (m.openCallId.filter fun callId => (db.openCalls.get? callId).isSome).map fun callId => (m, callId)

def restoredDocument (m : MemoryEntry) (call : StoredCall) : Document where
  id := ids.document
  handle := app.handleFromId ids.document
  authorId := m.userId
  shelf := m.shelf
  category := call.category
  content := m.answer
  priceKrw := call.unitPriceKrw
  createdAt := m.createdAt
  locked := false
  version := 1

def disputeDraw : DrawErrors where
  guardsKrw := true
  onchain := .conflict "the funded call no longer has enough escrow"
  prepaid := .conflict "the original call no longer has enough escrow"

def restoreMemory (krw : Nat) : Database :=
  { db with
    memoryEntries := db.memoryEntries.update (fun m => decide (m.id = memoryId))
      (fun m => { m with
        status := .settled
        documentId := some ids.document
        earnedKrw := krw }) (fun _ => rfl) }

def restoreAnswer (m : MemoryEntry) (call : StoredCall) : Except StoreError Database := do
  reject (m.status ≠ .voided ∨ takesAnswers call = false)
    (.conflict "the original answer can no longer fill this call")
  reject (call.escrowRemainingKrw < call.unitPriceKrw)
    (.conflict "the original call no longer has enough escrow")
  let profile ← orReject (loadProfile db m.userId) (.notFound "profile")
  let payout ← onchainPayout app call profile
    (.conflict "verify a Devnet payout wallet before restoring this funded answer")
  let krw ← asI64 call.unitPriceKrw
  let db := restoreMemory (insertDocument db (restoredDocument app ids m call)) ids memoryId krw
  let db ← drawEscrow db call disputeDraw payout
  payAnswer app db call ids payout m.userId memoryId ids.document "dispute_restored"
    "open_call_dispute_restored" krw now

def approveDispute (dispute : Dispute) : Except StoreError Database := do
  let memory ← orReject (disputedMemory db memoryId dispute) (.notFound "memory entry")
  let call ← loadCall db memory.2
  restoreAnswer app db ids now memoryId memory.1 call

def decideDispute (dispute : Dispute) : Except StoreError Database :=
  if request.decision = "approved" then approveDispute app db ids now memoryId dispute else .ok db

def recordReview (reviewedAt : Nat) (dispute : Dispute) : Database :=
  { db with
    disputes := db.disputes.put { dispute with
      status := if request.decision = "approved" then .approved else .rejected
      reviewerId := some reviewerId
      reviewNote := some (trim request.note)
      reviewedAt := some reviewedAt } }

def reviewDispute : Except StoreError Database := do
  requireAdmin db reviewerId
  checkReview request
  let dispute ← orReject (db.disputes.get? memoryId) (.notFound "dispute")
  reject (dispute.status ≠ .pending) (.conflict "this dispute has already been reviewed")
  let db ← decideDispute app db ids now memoryId request dispute
  let reviewedAt ← asI64 now
  return recordReview db reviewerId request reviewedAt dispute

end Disputes

section Cancellation

variable (refundId : String) (now : Nat) (userId openCallId : String) (call : StoredCall)

def withFunds (funds : Except StoreError Funds.Database) : Except StoreError Database := do
  let funds ← funds
  return { db with funds := funds }

def refundKey : Except StoreError AccountKey := do
  let wallet ← orReject call.payerWallet (.conflict "prepaid-funded call has no funding wallet")
  let payTo ← orReject call.escrowWallet (.conflict "prepaid-funded call has no recipient")
  let asset ← orReject call.escrowAsset (.conflict "prepaid-funded call has no asset")
  let network ← orReject call.escrowNetwork (.conflict "prepaid-funded call has no network")
  return ⟨wallet, payTo, network, asset⟩

def refundOpenCallPrepaid (refundAtomic : Nat) : Except StoreError Database := do
  let key ← refundKey call
  let amount ← asI64 refundAtomic
  let now ← asI64 now
  let funds ← creditAccount (ensurePrepaidAccount db.funds key) key amount
  withFunds db (recordLedger funds key refundId .openCallRefund call.id amount now)

def refundOnchain (refundAtomic : Nat) : Except StoreError Database := do
  let escrowWallet ← orReject call.escrowWallet (.conflict "funded call has no escrow wallet")
  let recipientWallet ← orReject call.payerWallet (.conflict "funded call has no payer wallet")
  let asset ← orReject call.escrowAsset (.conflict "funded call has no escrow asset")
  let network ← orReject call.escrowNetwork (.conflict "funded call has no escrow network")
  insertPayoutClaim app db
    { id := refundId
      earningEventId := none
      openCallId := some call.id
      beneficiaryUserId := userId
      kind := "open_call_refund"
      escrowWallet := escrowWallet
      recipientWallet := recipientWallet
      asset := asset
      network := network
      amountAtomic := refundAtomic
      amountKrw := call.escrowRemainingKrw
      createdAt := now }

-- the retired internal reservation of a sandbox call
def refundSandbox : Except StoreError Database := do
  let refund ← asI64 call.escrowRemainingKrw
  reject ((db.balances.get? userId).any (fun b => decide (refund ≤ b.reservedKrw)) = false ∧ 0 < refund)
    (.conflict "reserved balance is inconsistent with this call")
  return { db with
    balances := db.balances.update (fun b => decide (b.userId = userId ∧ refund ≤ b.reservedKrw))
      (fun b => { b with
        availableKrw := b.availableKrw + refund
        reservedKrw := b.reservedKrw - refund }) (fun _ => rfl) }

def refundCall : Except StoreError Database :=
  match call.escrowMode with
  | .x402SolanaEscrow =>
    if 0 < call.escrowRemainingAtomic.getD 0 then
      refundOnchain app db refundId now userId call (call.escrowRemainingAtomic.getD 0)
    else .ok db
  | .prepaid =>
    if 0 < call.escrowRemainingAtomic.getD 0 then
      refundOpenCallPrepaid db refundId now call (call.escrowRemainingAtomic.getD 0)
    else .ok db
  | .sandbox => refundSandbox db userId call

def cancelled : StoredCall :=
  { call with
    status := .cancelled
    escrowRemainingKrw := 0
    escrowRemainingAtomic := call.escrowRemainingAtomic.map fun _ => 0 }

def cancelOpenCall : Except StoreError Database := do
  let call ← loadCall db openCallId
  reject (call.ownerId ≠ userId) (.notFound "open call")
  reject (call.status ≠ .opened) (.conflict "only an open call can be cancelled")
  let db ← refundCall app db refundId now userId call
  return deleteReservations { db with openCalls := db.openCalls.put (cancelled call) } openCallId

end Cancellation

end Obulus.Calls
