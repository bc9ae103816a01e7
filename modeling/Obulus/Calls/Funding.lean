import Obulus.Calls.Owner
import Obulus.Funds.Settle
import Obulus.Foundation.MachineInt
import Obulus.Foundation.Trace

namespace Obulus.Calls.Funding

open Foundation Store Funds

section Quotes

variable (ext : Externals) (db : Database) (now : Nat) (id ownerId : String)
  (request : OpenCallRequest) (policy : PaymentQuotePolicy)

def escrowRecipient : Except StoreError String := do
  let payTo ← orReject (policy.bundleRecipient.filter fun wallet =>
      validSolanaAddress ext.encoding (trim wallet))
    (.validation "the service settlement wallet is not configured for funded open calls")
  return trim payTo

-- `hashed` is whether the quote was made for this payload
def payableQuoteOf (hashed : FundingQuote → Bool) (q : FundingQuote) : Bool :=
  decide (q.ownerId = ownerId) && hashed q &&
    (decide (q.status = .quoted) && (decide (now < q.expiresAt) || fenced db.funds .openCall q.id) ||
      decide (q.status = .funded))

def insertFundingQuote (q : FundingQuote) : Except StoreError Database := do
  let quotes ← orReject (db.funds.fundingQuotes.insert? q)
    (.database "UNIQUE constraint failed: open_call_funding_quotes.id")
  return { db with funds := { db.funds with fundingQuotes := quotes } }

def createOpenCallFundingQuote (hashed : FundingQuote → Bool) : Except StoreError Database := do
  validateOpenCall request
  validatePaymentPolicy policy
  reject (request.unitPrice = 0)
    (.validation "a Devnet-funded open call must have a positive unit price")
  let payTo ← escrowRecipient ext policy
  let totalPriceKrw := request.unitPrice * request.target
  reject (u64Max < totalPriceKrw) (.validation "open-call budget is too large")
  let amountAtomic ← krwToUsdcAtomic totalPriceKrw policy.krwPerUsdc
  let expiresAt := saturatingAdd now policy.ttlMs
  let now ← asI64 now
  if db.funds.fundingQuotes.rows.any (payableQuoteOf db now ownerId hashed) then return db
  else do
    let amountAtomic ← asI64 amountAtomic
    let totalPriceKrw ← asI64 totalPriceKrw
    let _ ← asI64 policy.krwPerUsdc
    let expiresAt ← asI64 expiresAt
    insertFundingQuote db
      { id := id
        ownerId := ownerId
        request := some request
        payTo := payTo
        network := trim policy.network
        asset := trim policy.asset
        amountAtomic := amountAtomic
        totalPriceKrw := totalPriceKrw
        expiresAt := expiresAt
        status := .quoted
        openCallId := none
        payerWallet := none
        settledAt := none }

end Quotes

section Settlement

variable (ext : Externals) (db : Database) (ids : NewIds) (now : Nat)
  (request : RecordChainSettlementRequest)

def fundedCall (quote : FundingQuote) (call : OpenCallRequest) (unitPriceAtomic totalKrw amount : Nat) :
    StoredCall where
  id := ids.call
  ownerId := quote.ownerId
  unitPriceKrw := call.unitPrice
  unitPriceAtomic := unitPriceAtomic
  target := call.target
  answered := 0
  status := .opened
  escrowRemainingKrw := totalKrw
  escrowMode := .x402SolanaEscrow
  escrowWallet := some quote.payTo
  escrowAsset := some quote.asset
  escrowNetwork := some quote.network
  escrowTotalAtomic := some amount
  escrowRemainingAtomic := some amount
  fundingTransactionSignature := some (trim request.transactionSignature)
  payerWallet := some (trim request.payer)
  question := trim call.question
  shelf := trim call.shelf
  category := trim call.category
  filters := { call.filters with category := some (trim call.category), maxUnitPriceKrw := none }

def insertCall (call : StoredCall) : Except StoreError Database := do
  let openCalls ← orReject (db.openCalls.insert? call)
    (.database "UNIQUE constraint failed: open_calls.id")
  return { db with openCalls := openCalls }

def insertFundedCall (quote : FundingQuote) (call : OpenCallRequest) (amount : Nat) :
    Except StoreError Database := do
  let unitPriceAtomic ← krwToAtomicPinned call.unitPrice
  let unitPriceAtomic ← asI64 unitPriceAtomic
  let totalKrw ← asI64 quote.totalPriceKrw
  insertCall db (fundedCall ids request quote call unitPriceAtomic totalKrw amount)

def settleOpenCall (amount : Nat) : Except StoreError Database := do
  let quoteId := trim request.quoteId
  lockChainPaymentQuote db.funds .openCall quoteId
  let prepared ← verifyChainPaymentAttempt ext db.funds .openCall quoteId request.attemptId true
  let funds ← claimChainTransaction db.funds (trim request.transactionSignature) (.settlement .openCall)
    quoteId now
  let quote ← orReject (funds.fundingQuotes.get? quoteId) (.notFound "open-call funding quote")
  reject (quote.status ≠ .quoted) (.conflict "this funding quote is no longer payable")
  reject (quote.payTo ≠ trim request.payTo ∨ quote.network ≠ trim request.network ∨
      quote.amountAtomic ≠ amount)
    (.conflict "settlement does not match the open-call funding quote")
  let call ← orReject quote.request (.validation "funding quote request is not valid JSON")
  validateOpenCall call
  let amount ← asI64 amount
  let db ← insertFundedCall { db with funds := funds } ids request quote call amount
  let funds ← insertChainSettlement funds .openCall (chainRow ids now request ids.call amount prepared)
  return { db with
    funds := clearPaymentAttempt (fundQuote funds ids now request quoteId) .openCall quoteId }

def replayOpenCall (existing : ChainSettlement) : Except StoreError Database := do
  let (funds, _) ← replayLocked ext db.funds request .openCall existing
  return { db with funds := funds }

def recordOpenCallChainSettlement : Except StoreError Database := do
  let amount ← settlementAmount ext request
  match db.funds.openCallChainSettlements.get? (trim request.quoteId) with
  | some existing =>
    if sameSettlement existing request = true then replayOpenCall ext db request existing
    else .error (.conflict "this open-call funding quote has already been settled")
  | none => settleOpenCall ext db ids now request amount

end Settlement

section Deletion

variable (app : Appraisal) (db : Database) (now : Nat) (userId anonymous : String)

def refundedOnDeletion (call : StoredCall) : Bool :=
  decide (call.ownerId = userId ∧ call.status = .opened ∧ call.escrowMode = .x402SolanaEscrow ∧
    0 < call.escrowRemainingAtomic.getD 0)

def refundOnDeletion (id : String) (call : StoredCall) : Except StoreError Database := do
  let escrowWallet ← orReject call.escrowWallet (.database "InvalidColumnType")
  let recipientWallet ← orReject call.payerWallet (.database "InvalidColumnType")
  let asset ← orReject call.escrowAsset (.database "InvalidColumnType")
  let network ← orReject call.escrowNetwork (.database "InvalidColumnType")
  insertPayoutClaim app db
    { id := id
      earningEventId := none
      openCallId := some call.id
      beneficiaryUserId := userId
      kind := "open_call_account_deletion_refund"
      escrowWallet := escrowWallet
      recipientWallet := recipientWallet
      asset := asset
      network := network
      amountAtomic := call.escrowRemainingAtomic.getD 0
      amountKrw := call.escrowRemainingKrw
      createdAt := now }

def refundAll (ids : String → String) (db : Database) : List StoredCall → Except StoreError Database
  | [] => .ok db
  | call :: rest => do
    let db ← refundOnDeletion app db now userId (ids call.id) call
    refundAll ids db rest

def cancelCalls : Database :=
  { db with
    openCalls := db.openCalls.update (fun c => decide (c.ownerId = userId ∧ c.status = .opened))
      cancelled (fun _ => rfl) }

def forgetQuotes : Database :=
  { db with
    funds := { db.funds with
      fundingQuotes := db.funds.fundingQuotes.update (fun q => decide (q.ownerId = userId))
        (fun q => { q with
          ownerId := anonymous
          request := none
          status := if q.status = .quoted then .deleted else q.status }) (fun _ => rfl) } }

def disown : Database :=
  { db with
    openCalls := db.openCalls.update (fun c => decide (c.ownerId = userId))
      (fun c => { c with ownerId := anonymous }) (fun _ => rfl)
    payoutClaims := db.payoutClaims.update (fun c => decide (c.beneficiaryUserId = userId))
      (fun c => { c with beneficiaryUserId := anonymous }) (fun _ => rfl) }

-- what `delete_account` does to the calls, their claims and the funding quotes
def closeCalls (ids : String → String) : Except StoreError Database := do
  let db ← refundAll app now userId ids db (db.openCalls.rows.filter (refundedOnDeletion userId))
  return disown (forgetQuotes (cancelCalls db userId) userId anonymous) userId anonymous

end Deletion

section Migration

variable (db : Database)

def refillKrw (c : StoredCall) : StoredCall :=
  if c.escrowRemainingKrw = 0 ∧ c.status = .opened ∧ 0 < c.unitPriceKrw then
    { c with escrowRemainingKrw := c.unitPriceKrw * (c.target - c.answered) }
  else c

def cancelOrphan (c : StoredCall) : StoredCall :=
  if c.ownerId ≠ "seed-buyer" ∧ (db.users.get? c.ownerId).isNone then
    { c with
      status := .cancelled
      escrowRemainingKrw := 0 }
  else c

def backfillEscrow (c : StoredCall) : StoredCall :=
  { c with
    escrowTotalAtomic :=
      if c.escrowTotalAtomic.isNone ∧ 0 < c.unitPriceAtomic then some (c.unitPriceAtomic * c.target)
      else c.escrowTotalAtomic
    escrowRemainingAtomic :=
      if c.escrowRemainingAtomic.isNone ∧ c.status = .opened ∧ 0 < c.unitPriceAtomic ∧
          c.answered ≤ c.target then
        some (c.unitPriceAtomic * (c.target - c.answered))
      else c.escrowRemainingAtomic }

-- what a start of the service does to the calls
def migrateCall (c : StoredCall) : StoredCall := backfillEscrow (cancelOrphan db (refillKrw c))

theorem migrateCall_id (c : StoredCall) : (migrateCall db c).id = c.id := by
  unfold migrateCall backfillEscrow cancelOrphan refillKrw
  split <;> split <;> rfl

def migrateCalls : Database :=
  { db with
    openCalls := db.openCalls.update (fun _ => true) (migrateCall db) (migrateCall_id db) }

end Migration

section Runs

variable (app : Appraisal) (ext : Externals)

inductive Operation
  | quote (id ownerId : String) (request : OpenCallRequest) (policy : PaymentQuotePolicy)
      (hashed : FundingQuote → Bool)
  | fund (ids : NewIds) (request : RecordChainSettlementRequest)
  | answer (ids : AnswerIds) (reflections : List Reflection) (request : AnswerRequest)
  | runAgents (ids : String → AnswerIds) (openCallId : String)
  | review (ids : AnswerIds) (reviewerId memoryId : String) (request : ReviewDisputeRequest)
  | cancel (refundId userId openCallId : String)
  | deleteAccount (ids : String → String) (userId anonymous : String)
  | migrate

structure Event where
  now : Nat
  later : Nat
  operation : Operation

def execute (db : Database) (e : Event) : Except StoreError Database :=
  match e.operation with
  | .quote id ownerId request policy hashed =>
    createOpenCallFundingQuote ext db e.now id ownerId request policy hashed
  | .fund ids request => recordOpenCallChainSettlement ext db ids e.now request
  | .answer ids reflections request =>
    submitAnswerWithInterview app db ids reflections e.now e.later request
  | .runAgents ids openCallId => runCallAgents app db e.now ids openCallId
  | .review ids reviewerId memoryId request => reviewDispute app db ids e.now reviewerId memoryId request
  | .cancel refundId userId openCallId => cancelOpenCall app db refundId e.now userId openCallId
  | .deleteAccount ids userId anonymous => closeCalls app db e.now userId anonymous ids
  | .migrate => .ok (migrateCalls db)

def onchain (db : Database) (callId : String) : Option StoredCall :=
  (db.openCalls.get? callId).filter fun c => decide (c.escrowMode = .x402SolanaEscrow)

-- a claim made for an answer: a refund has no earning
def answers (callId : String) (c : Payout.NewClaim) : Bool :=
  decide (c.openCallId = some callId) && c.earningEventId.isSome

-- what was paid for the answers to a call, in turn
def answerPayments (db : Database) (callId : String) : List Nat :=
  (db.payoutClaims.rows.filter (answers callId)).map Payout.NewClaim.amountAtomic

-- the other operations leave the funded calls, the claims of their answers and the funding quotes
structure Elsewhere (db db' : Database) : Prop where
  calls : ∀ callId, onchain db' callId = onchain db callId
  claims : ∀ callId, answerPayments db' callId = answerPayments db callId
  quotes : ∀ q ∈ db'.funds.fundingQuotes.rows, ∃ q' ∈ db.funds.fundingQuotes.rows,
    q'.request = q.request ∧ q'.totalPriceKrw = q.totalPriceKrw

inductive Step (db : Database) : Option Event → Database → Prop
  | ok {e : Event} {db' : Database} : execute app ext db e = .ok db' → Step db (some e) db'
  | error {e : Event} {error : StoreError} : execute app ext db e = .error error → Step db (some e) db
  | elsewhere {db' : Database} : Elsewhere db db' → Step db none db'

end Runs

section Weighted

def checkedSum : UInt64 → List UInt64 → Option UInt64
  | sum, [] => some sum
  | sum, amount :: rest => (UInt64.checkedAdd sum amount).bind fun sum => checkedSum sum rest

def u128Max : Nat := 2 ^ 128 - 1

def totalWeight : Nat → List UInt64 → Option Nat
  | sum, [] => some sum
  | sum, weight :: rest =>
    if u128Max < sum + weight.toNat then none else totalWeight (sum + weight.toNat) rest

-- one unit more for each, while the remainder lasts
def spread : UInt64 → List UInt64 → List UInt64
  | _, [] => []
  | remainder, amount :: rest =>
    if remainder = 0 then amount :: rest
    else UInt64.saturatingAdd amount 1 :: spread (remainder - 1) rest

variable (totalAtomic : UInt64) (weights : List UInt64)

def allocateAtomicByWeight : Except StoreError (List UInt64) := do
  reject (totalAtomic = 0 ∨ weights = [] ∨ 0 ∈ weights)
    (.validation "payout allocation requires a positive total and positive weights")
  let weight ← orReject (totalWeight 0 weights) (.validation "payout weights are too large")
  let allocated := weights.map fun w => UInt64.ofNat (totalAtomic.toNat * w.toNat / weight)
  let floorTotal ← orReject (checkedSum 0 allocated) (.validation "payout allocation overflow")
  let allocated := spread (UInt64.saturatingSub totalAtomic floorTotal) allocated
  reject (0 ∈ allocated)
    (.validation "payment is too small to create one atomic payout per beneficiary")
  return allocated

end Weighted

end Obulus.Calls.Funding
