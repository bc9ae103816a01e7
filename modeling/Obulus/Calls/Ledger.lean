import Obulus.Calls.Schema

namespace Obulus.Calls

open Foundation Store Funds

variable (app : Appraisal) (db : Database)

def strikes (userId : String) : Nat :=
  db.memoryEntries.rows.countP fun m => decide (m.userId = userId ∧ m.status = .voided)

def loadProfile (userId : String) : Option UserProfile :=
  (db.profiles.get? userId).map fun p =>
    { p with autoMatch := p.autoMatch && decide (strikes db userId < autoMatchStrikeLimit) }

def insertMemory (m : MemoryEntry) : Except StoreError Database := do
  let memoryEntries ← orReject (db.memoryEntries.insert? m)
    (.database "UNIQUE constraint failed: memory_entries.id")
  return { db with memoryEntries := memoryEntries }

-- INSERT OR IGNORE
def insertDocument (d : Document) : Database :=
  if db.documents.rows.any (fun d' => decide (d'.handle = d.handle)) then db
  else { db with documents := (db.documents.insert? d).getD db.documents }

section Earnings

variable (id : String) (settlementId memoryId documentId : Option String) (authorId source : String)
  (amountKrw createdAt : Nat)

def addBalance (held : Bool) (amountAtomic : Nat) (b : Balance) : Balance :=
  if held then
    { b with heldKrw := b.heldKrw + amountKrw, heldAtomic := b.heldAtomic + amountAtomic }
  else
    { b with
      availableKrw := b.availableKrw + amountKrw
      availableAtomic := b.availableAtomic + amountAtomic }

def insertEarning (e : EarningEvent) : Except StoreError Database := do
  let earningEvents ← orReject (db.earningEvents.insert? e)
    (.database "UNIQUE constraint failed: earning_events.id")
  return { db with earningEvents := earningEvents }

def overflows (b : Balance) : Bool :=
  decide (i64Max < b.availableKrw ∨ i64Max < b.heldKrw ∨ i64Max < b.availableAtomic ∨
    i64Max < b.heldAtomic)

def accrue (held : Bool) (amountAtomic : Nat) : Except StoreError Database := do
  reject ((db.balances.get? authorId).any
    (fun b => overflows (addBalance amountKrw held amountAtomic b)) = true)
    (.database "integer out of range")
  return { db with
    balances := db.balances.update (fun b => decide (b.userId = authorId))
      (addBalance amountKrw held amountAtomic) (fun _ => by unfold addBalance; split <;> rfl) }

def insertEarningEvent : Except StoreError Database := do
  let held := decide (autoMatchStrikeLimit ≤ strikes db authorId)
  let amountAtomic ← krwToAtomicPinned amountKrw
  let krw ← asI64 amountKrw
  let atomic ← asI64 amountAtomic
  let availableAt ← asI64 (if held then saturatingAdd createdAt payoutHoldMs else createdAt)
  let db ← insertEarning db
    { id := id
      settlementId := settlementId
      memoryId := memoryId
      documentId := documentId
      authorId := authorId
      source := source
      amountKrw := krw
      amountAtomic := atomic
      recipientWallet := (db.profiles.get? authorId).bind UserProfile.wallet
      payoutStatus := if held then .held else .accrued
      availableAt := availableAt
      createdAt := createdAt }
  accrue db authorId krw held atomic

-- an event paid outside the balances
def insertOutsideEarning (payoutStatus : EarningStatus) (recipientWallet : String) :
    Except StoreError Database := do
  let krw ← asI64 amountKrw
  let amountAtomic ← krwToAtomicPinned amountKrw
  let atomic ← asI64 amountAtomic
  let createdAt ← asI64 createdAt
  insertEarning db
    { id := id
      settlementId := settlementId
      memoryId := memoryId
      documentId := documentId
      authorId := authorId
      source := source
      amountKrw := krw
      amountAtomic := atomic
      recipientWallet := some recipientWallet
      payoutStatus := payoutStatus
      availableAt := createdAt
      createdAt := createdAt }

end Earnings

def insertOnchainEarningEvent (id settlementId : String) (memoryId : Option String)
    (documentId authorId : String) (amountKrw : Nat) (recipientWallet : String) (createdAt : Nat) :
    Except StoreError Database :=
  insertOutsideEarning db id (some settlementId) memoryId (some documentId) authorId "document_open"
    amountKrw createdAt .onchain recipientWallet

def insertOpenCallOnchainEarningEvent (id : String) (memoryId documentId : Option String)
    (authorId : String) (amountKrw : Nat) (recipientWallet : String) (createdAt : Nat) :
    Except StoreError Database :=
  insertOutsideEarning db id none memoryId documentId authorId "open_call_onchain" amountKrw createdAt
    .claimable recipientWallet

def insertPayoutClaim (c : Payout.NewClaim) : Except StoreError Database := do
  reject (c.amountAtomic = 0) (.validation "payout claim amount must be greater than zero")
  reject (validSolanaAddress app.encoding c.escrowWallet = false ∨
      validSolanaAddress app.encoding c.recipientWallet = false)
    (.validation "payout claim wallets must be valid Solana addresses")
  let amountAtomic ← asI64 c.amountAtomic
  let amountKrw ← asI64 c.amountKrw
  let createdAt ← asI64 c.createdAt
  reject (c.earningEventId.isSome = true ∧
      db.payoutClaims.rows.any (fun c' => decide (c'.earningEventId = c.earningEventId)) = true)
    (.database "UNIQUE constraint failed: payout_claims.earning_event_id")
  let payoutClaims ← orReject (db.payoutClaims.insert? { c with
      amountAtomic := amountAtomic
      amountKrw := amountKrw
      createdAt := createdAt })
    (.database "UNIQUE constraint failed: payout_claims.id")
  return { db with payoutClaims := payoutClaims }

section Escrow

variable (call : StoredCall)

def openCallAnswerAtomic : Except StoreError Nat := do
  let total ← orReject call.escrowTotalAtomic
    (.conflict "funded call has no on-chain escrow total")
  reject (call.target = 0) (.conflict "funded call has an invalid answer target")
  let amount := total / call.target + if call.answered < total % call.target then 1 else 0
  reject (amount = 0 ∨ call.escrowRemainingAtomic.all (fun remaining => decide (remaining < amount)) =
    true) (.conflict "open-call on-chain escrow is exhausted")
  return amount

-- the wallet an answer to a funded call is paid to, and its amount
structure OnchainPayout where
  recipientWallet : String
  payoutAtomic : Nat
  deriving DecidableEq, Repr

def payoutWallet (profile : UserProfile) : Option String :=
  profile.wallet.filter fun wallet => profile.walletVerified && validSolanaAddress app.encoding wallet

def onchainPayout (profile : UserProfile) (error : StoreError) :
    Except StoreError (Option OnchainPayout) :=
  if call.escrowMode = .x402SolanaEscrow then do
    let recipientWallet ← orReject (payoutWallet app profile) error
    let payoutAtomic ← openCallAnswerAtomic call
    return some ⟨recipientWallet, payoutAtomic⟩
  else .ok none

def counted (row : StoredCall) (escrowRemainingAtomic : Option Nat) : StoredCall :=
  { row with
    answered := row.answered + 1
    escrowRemainingKrw := row.escrowRemainingKrw - row.unitPriceKrw
    escrowRemainingAtomic := escrowRemainingAtomic
    status := if row.target ≤ row.answered + 1 then .filled else row.status }

def takesAnswers (row : StoredCall) : Bool :=
  decide (row.status = .opened ∧ row.answered < row.target)

-- the errors of the two UPDATEs, and whether the first one looks at the KRW left
structure DrawErrors where
  guardsKrw : Bool
  onchain : StoreError
  prepaid : StoreError

def drawOnchain (errors : DrawErrors) (payoutAtomic : Nat) : Except StoreError Database := do
  let payout ← asI64 payoutAtomic
  let row ← orReject ((db.openCalls.get? call.id).filter fun row =>
      takesAnswers row && (!errors.guardsKrw || decide (row.unitPriceKrw ≤ row.escrowRemainingKrw)) &&
        row.escrowRemainingAtomic.any fun remaining => decide (payout ≤ remaining))
    errors.onchain
  return { db with
    openCalls := db.openCalls.put (counted row (row.escrowRemainingAtomic.map fun r => r - payout)) }

def drawPrepaid (errors : DrawErrors) : Except StoreError Database := do
  let answerAtomic ← krwToAtomicPinned call.unitPriceKrw
  let answer ← asI64 answerAtomic
  let row ← orReject ((db.openCalls.get? call.id).filter fun row =>
      takesAnswers row && decide (row.unitPriceKrw ≤ row.escrowRemainingKrw))
    errors.prepaid
  return { db with
    openCalls := db.openCalls.put (counted row
      (if answer ≤ row.escrowRemainingAtomic.getD 0 then
        row.escrowRemainingAtomic.map fun r => r - answer
      else some 0)) }

def drawEscrow (errors : DrawErrors) : Option OnchainPayout → Except StoreError Database
  | some payout => drawOnchain db call errors payout.payoutAtomic
  | none => drawPrepaid db call errors

-- the identifiers `new_id` hands to an answer
structure AnswerIds where
  memory : String
  document : String
  earning : String
  claim : String
  deriving DecidableEq, Repr

-- the earning of an answer, and the claim of one paid on chain
def payAnswer (ids : AnswerIds) (payout : Option OnchainPayout) (userId memoryId documentId : String)
    (source kind : String) (amountKrw now : Nat) : Except StoreError Database :=
  match payout with
  | none =>
    insertEarningEvent db ids.earning none (some memoryId) (some documentId) userId source amountKrw now
  | some payout => do
    let db ← insertOpenCallOnchainEarningEvent db ids.earning (some memoryId) (some documentId) userId
      amountKrw payout.recipientWallet now
    let escrowWallet ← orReject call.escrowWallet (.conflict "funded call has no escrow wallet")
    let asset ← orReject call.escrowAsset (.conflict "funded call has no escrow asset")
    let network ← orReject call.escrowNetwork (.conflict "funded call has no escrow network")
    insertPayoutClaim app db
      { id := ids.claim
        earningEventId := some ids.earning
        openCallId := some call.id
        beneficiaryUserId := userId
        kind := kind
        escrowWallet := escrowWallet
        recipientWallet := payout.recipientWallet
        asset := asset
        network := network
        amountAtomic := payout.payoutAtomic
        amountKrw := amountKrw
        createdAt := now }

end Escrow

end Obulus.Calls
