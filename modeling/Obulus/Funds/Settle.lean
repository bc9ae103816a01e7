import Obulus.Funds.Posting

namespace Obulus.Funds

open Foundation Store

section Requests

structure RecordChainSettlementRequest where
  quoteId : String
  attemptId : Option String
  transactionSignature : String
  payer : String
  payTo : String
  amountAtomic : String
  network : String
  rawResponseJson : String
  deriving DecidableEq, Repr

structure ChainSettlementReceipt where
  id : String
  quoteId : String
  transactionSignature : String
  payer : String
  payTo : String
  amountAtomic : String
  network : String
  confirmedAt : Nat
  deriving DecidableEq, Repr

def ChainSettlement.receipt (s : ChainSettlement) : ChainSettlementReceipt where
  id := s.id
  quoteId := s.quoteId
  transactionSignature := s.transactionSignature
  payer := s.payer
  payTo := s.payTo
  amountAtomic := toString s.amountAtomic
  network := s.network
  confirmedAt := s.confirmedAt

structure RecordPrepaidDepositRequest where
  transactionSignature : String
  payer : String
  payTo : String
  network : String
  asset : String
  amountAtomic : String
  deriving DecidableEq, Repr

structure PrepaidBalance where
  account : AccountKey
  availableAtomic : String
  deriving DecidableEq, Repr

-- the random identifiers `new_id` hands to one operation
structure NewIds where
  settlement : String
  chain : String
  earning : String
  call : String
  deposit : String
  reservation : String
  deriving DecidableEq, Repr

end Requests

section Checks

variable (ext : Externals)

def validateChainSettlementRequest (request : RecordChainSettlementRequest) :
    Except StoreError Unit := do
  let signature := trim request.transactionSignature
  reject (signature.utf8ByteSize < 64 ∨ 128 < signature.utf8ByteSize ∨ isBase58 signature = false)
    (.validation "transactionSignature must be a base58 Solana signature")
  reject (validSolanaAddress ext.encoding (trim request.payer) = false ∨
      validSolanaAddress ext.encoding (trim request.payTo) = false)
    (.validation "payer and payTo must be base58 Solana public keys")

def settlementRawJson (request : RecordChainSettlementRequest) : Except StoreError Unit :=
  reject (32768 < request.rawResponseJson.utf8ByteSize)
    (.validation "rawResponse must be at most 32768 bytes")

def settlementAmount (request : RecordChainSettlementRequest) : Except StoreError Nat := do
  validateChainSettlementRequest ext request
  let amount ← orReject (parseU64 request.amountAtomic)
    (.validation "amountAtomic must be an unsigned integer")
  settlementRawJson request
  return amount

def sameSettlement (s : ChainSettlement) (request : RecordChainSettlementRequest) : Bool :=
  decide (s.transactionSignature = trim request.transactionSignature ∧
    s.payer = trim request.payer ∧ s.payTo = trim request.payTo ∧
    toString s.amountAtomic = request.amountAtomic ∧ s.network = trim request.network)

variable (db : Database)

def verifyEvidence (activeRequired : Bool) (attempt : PaymentAttempt) :
    Except StoreError (Option String) :=
  if attempt.legacyEvidence = true then .ok none
  else
    match attempt.signedTransactionBase64 with
    | none =>
      if activeRequired = true then
        .error (.conflict "active payment attempt has no signed transaction evidence")
      else .ok none
    | some signedTransaction => do
      let bytes ← orReject (ext.encoding.base64Decode signedTransaction)
        (.conflict "active payment attempt has invalid transaction evidence")
      reject (validX402PreparedTransaction bytes = false ∨
          ext.hexDigest signedTransaction ≠ attempt.attemptId)
        (.conflict "active payment attempt does not contain the exact prepared x402 transaction")
      return some signedTransaction

def checkAttemptId : Option String → Except StoreError Unit
  | none => .ok ()
  | some attemptId => validateAttemptId attemptId

def verifyActive (attemptId : Option String) (activeRequired : Bool) :
    Option PaymentAttempt → Except StoreError (Option String)
  | none =>
    if activeRequired = true then
      .error (.conflict "settlement has no active signed payment attempt")
    else .ok none
  | some attempt => do
    reject (some attempt.attemptId ≠ attemptId)
      (.conflict "settlement does not match the active payment attempt")
    verifyEvidence ext activeRequired attempt

def verifyChainPaymentAttempt (kind : SettlementKind) (quoteId : String) (attemptId : Option String)
    (activeRequired : Bool) : Except StoreError (Option String) := do
  checkAttemptId attemptId
  verifyActive ext attemptId activeRequired (db.paymentAttempts.get? (kind, quoteId))

def quoteExists : SettlementKind → String → Bool
  | .document, quoteId => (db.paymentQuotes.get? quoteId).isSome
  | .bundle, quoteId => (db.bundleQuotes.get? quoteId).isSome
  | .openCall, quoteId => (db.fundingQuotes.get? quoteId).isSome

def lockChainPaymentQuote (kind : SettlementKind) (quoteId : String) : Except StoreError Unit :=
  reject (quoteExists db kind quoteId = false) (.notFound "payment quote")

end Checks

section Accepted

variable {ext : Externals} {request : RecordChainSettlementRequest} {signature payer payTo : String}

theorem validateChainSettlementRequest_ok (hsignature : trim request.transactionSignature = signature)
    (hpayer : trim request.payer = payer) (hpayTo : trim request.payTo = payTo)
    (hsize : 64 ≤ signature.utf8ByteSize ∧ signature.utf8ByteSize ≤ 128)
    (hbase58 : isBase58 signature = true) (hpaying : validSolanaAddress ext.encoding payer = true)
    (hpaid : validSolanaAddress ext.encoding payTo = true) :
    validateChainSettlementRequest ext request = .ok () := by
  simp only [validateChainSettlementRequest, hsignature, hpayer, hpayTo, hbase58, hpaying, hpaid,
    bind_eq_ok, reject_eq_ok, exists_const]
  simp only [Bool.true_eq_false, or_false, not_false_eq_true, and_true]
  omega

end Accepted

section Rail

variable (db : Database)

def settledOverPaySh (quoteId : String) : Bool :=
  db.settlements.rows.any fun s =>
    decide (s.mode = .paySh ∧ s.transactionSignature = "pay.sh:" ++ quoteId)

def oppositePaymentExists (quoteId : String) : PaymentRail → Bool
  | .x402 => settledOverPaySh db quoteId
  | .paySh => (db.chainSettlements.get? quoteId).isSome || fenced db .document quoteId

def setRail (quoteId : String) (rail : PaymentRail) : Database :=
  { db with
    paymentQuotes := db.paymentQuotes.update (fun q => decide (q.id = quoteId))
      (fun q => { q with paymentRail := some rail }) (fun _ => rfl) }

def bindRail (quote : PaymentQuote) (rail : PaymentRail) : Except StoreError Database :=
  match quote.paymentRail with
  | some current =>
    if current ≠ rail then
      .error (.conflict s!"this document quote is already reserved for {current.text} payment")
    else .ok db
  | none => do
    reject (db.paymentQuotes.rows.any (fun q => decide (q.queryId = quote.queryId ∧
        q.documentId = quote.documentId ∧ q.id ≠ quote.id) && q.paymentRail.isSome) = true)
      (.conflict "this query/document purchase is already reserved by another quote")
    reject (oppositePaymentExists db quote.id rail = true)
      (.conflict "this document quote already has activity on the other payment rail")
    return setRail db quote.id rail

def bindDocumentPaymentRail (quoteId : String) (rail : PaymentRail) : Except StoreError Database := do
  let quote ← orReject (db.paymentQuotes.get? (trim quoteId)) (.notFound "payment quote")
  reject (quote.queryId ∉ db.queries) (.database "Query returned no rows")
  bindRail db quote rail

end Rail

section Registry

variable (db : Database)

-- INSERT OR IGNORE under PRIMARY KEY (transaction_signature) and UNIQUE (settlement_kind, quote_id)
def registerTransaction (entry : RegistryEntry) : Table RegistryEntry.transactionSignature :=
  if db.transactionRegistry.rows.any (fun e => decide (e.funds = entry.funds)) then
    db.transactionRegistry
  else (db.transactionRegistry.insert? entry).getD db.transactionRegistry

def registered (registry : Table RegistryEntry.transactionSignature) (signature : String)
    (funds : RegistryKind × String) : Bool :=
  (registry.get? signature).any fun e => decide (e.funds = funds)

def claimTransaction (error : StoreError) (entry : RegistryEntry) : Except StoreError Database := do
  let registry := registerTransaction db entry
  reject (registered registry entry.transactionSignature entry.funds = false) error
  return { db with transactionRegistry := registry }

def claimChainTransaction (signature : String) (kind : RegistryKind) (quoteId : String)
    (now : Nat) : Except StoreError Database := do
  let now ← asI64 now
  claimTransaction db (.conflict "this transaction signature has already been recorded")
    ⟨signature, kind, quoteId, now⟩

def clashes (s r : ChainSettlement) : Bool :=
  decide (r.id = s.id ∨ r.parentId = s.parentId ∨ r.transactionSignature = s.transactionSignature)

-- the registry trigger, CHECK (amount_atomic > 0) and the UNIQUE columns
def insertChainSettlement (kind : SettlementKind) (s : ChainSettlement) :
    Except StoreError Database := do
  let db ← claimTransaction db (.database "chain transaction registry conflict")
    ⟨s.transactionSignature, .settlement kind, s.quoteId, s.confirmedAt⟩
  reject (s.amountAtomic = 0) (.database "CHECK constraint failed: amount_atomic > 0")
  reject ((db.ledger kind).rows.any (clashes s) = true) (.database "UNIQUE constraint failed")
  let ledger ← orReject ((db.ledger kind).insert? s)
    (.database "UNIQUE constraint failed: quote_id")
  return db.setLedger kind ledger

def clearPaymentAttempt (kind : SettlementKind) (quoteId : String) : Database :=
  dropAttempts db fun a => decide (a.key = (kind, quoteId))

end Registry

section Records

variable (ext : Externals) (db : Database) (ids : NewIds) (now : Nat)
  (request : RecordChainSettlementRequest)

def chainRow (parentId : String) (amount : Nat) (prepared : Option String) : ChainSettlement where
  id := ids.chain
  quoteId := trim request.quoteId
  parentId := parentId
  transactionSignature := trim request.transactionSignature
  payer := trim request.payer
  payTo := trim request.payTo
  amountAtomic := amount
  network := trim request.network
  preparedTransaction := prepared
  rawResponseJson := request.rawResponseJson
  confirmedAt := now

def insertSettlement (s : Settlement) : Except StoreError Database := do
  reject (s.queryId ∉ db.queries) (.database "FOREIGN KEY constraint failed")
  let _ ← asI64 s.totalKrw
  let settlements ← orReject (db.settlements.insert? s)
    (.database "UNIQUE constraint failed: settlements.id")
  return { db with settlements := settlements }

def settledMemory (documentId : String) : Option String :=
  (db.memoryEntries.rows.find? fun m =>
    decide (m.documentId = some documentId) && m.settled).map MemoryEntry.id

def creditMemory (documentId : String) (priceKrw : Nat) : Database :=
  { db with
    memoryEntries := db.memoryEntries.update
      (fun m => decide (m.documentId = some documentId) && m.settled)
      (fun m => { m with
        earnedKrw := m.earnedKrw + priceKrw
        accessCount := m.accessCount + 1
        lastAccessedAt := some now })
      (fun _ => rfl) }

def insertOnchainEarningEvent (settlementId : String) (memoryId : Option String)
    (documentId authorId : String) (amountKrw : Nat) (recipientWallet : String) :
    Except StoreError Database := do
  let amountAtomic ← krwToAtomicPinned amountKrw
  let amountKrw ← asI64 amountKrw
  let amountAtomic ← asI64 amountAtomic
  reject (db.earningEvents.rows.any (fun e =>
      decide (e.settlementId = some settlementId ∧ e.documentId = some documentId)) = true)
    (.database "UNIQUE constraint failed: earning_events.settlement_id, earning_events.document_id")
  let earningEvents ← orReject (db.earningEvents.insert?
      { id := ids.earning
        settlementId := some settlementId
        memoryId := memoryId
        documentId := some documentId
        authorId := authorId
        source := "document_open"
        amountKrw := amountKrw
        amountAtomic := amountAtomic
        recipientWallet := some recipientWallet
        payoutStatus := .onchain
        availableAt := now })
    (.database "UNIQUE constraint failed: earning_events.id")
  return { db with earningEvents := earningEvents }

def deliverQuote (quoteId : String) : Database :=
  { db with
    paymentQuotes := db.paymentQuotes.update (fun q => decide (q.id = quoteId))
      (fun q => { q with settledAt := some now, deliveredAt := some now, status := .delivered })
      (fun _ => rfl) }

def replayDocument (existing : ChainSettlement) :
    Except StoreError (Database × ChainSettlementReceipt) := do
  let db ← bindDocumentPaymentRail db (trim request.quoteId) .x402
  let _ ← verifyChainPaymentAttempt ext db .document (trim request.quoteId) request.attemptId false
  return (clearPaymentAttempt db .document (trim request.quoteId), existing.receipt)

def replayLocked (kind : SettlementKind) (existing : ChainSettlement) :
    Except StoreError (Database × ChainSettlementReceipt) := do
  lockChainPaymentQuote db kind (trim request.quoteId)
  let _ ← verifyChainPaymentAttempt ext db kind (trim request.quoteId) request.attemptId false
  return (clearPaymentAttempt db kind (trim request.quoteId), existing.receipt)

def settleDocument (amount : Nat) : Except StoreError (Database × ChainSettlementReceipt) := do
  let quoteId := trim request.quoteId
  let db ← bindDocumentPaymentRail db quoteId .x402
  let prepared ← verifyChainPaymentAttempt ext db .document quoteId request.attemptId true
  let db ← claimChainTransaction db (trim request.transactionSignature) (.settlement .document)
    quoteId now
  let quote ← orReject (db.paymentQuotes.get? quoteId) (.notFound "payment quote")
  let document ← orReject (db.documents.get? quote.documentId) (.notFound "payment quote")
  reject (quote.payTo ≠ trim request.payTo ∨ quote.network ≠ trim request.network ∨
      quote.amountAtomic ≠ amount)
    (.conflict "settlement does not match the payment quote")
  let amount ← asI64 amount
  let memoryId := settledMemory db quote.documentId
  let db ← insertSettlement db
    { id := ids.settlement
      queryId := quote.queryId
      payer := trim request.payer
      documentHandles := [quote.documentHandle]
      totalKrw := quote.priceKrw
      mode := .x402Solana
      transactionSignature := trim request.transactionSignature
      createdAt := now }
  let row := chainRow ids now request ids.settlement amount prepared
  let db ← insertChainSettlement db .document row
  let db := creditMemory (deliverQuote db now quoteId) now quote.documentId quote.priceKrw
  let db ← insertOnchainEarningEvent db ids now ids.settlement memoryId quote.documentId
    document.authorId quote.priceKrw quote.payTo
  return (clearPaymentAttempt db .document quoteId, row.receipt)

def recordChainSettlement : Except StoreError (Database × ChainSettlementReceipt) := do
  let amount ← settlementAmount ext request
  match db.chainSettlements.get? (trim request.quoteId) with
  | some existing =>
    if sameSettlement existing request = true then replayDocument ext db request existing
    else .error (.conflict "this payment quote has already been settled")
  | none => settleDocument ext db ids now request amount

def payerMatchesFunding (quote : BundleQuote) : Bool :=
  match quote.fundingSource with
  | .prepaid => quote.payerWallet = some (trim request.payer)
  | .agentDirect => quote.payerWallet.isNone && decide (quote.depositAtomic = quote.amountAtomic)
  | .legacyDirect => false

def BundleQuote.account (quote : BundleQuote) (wallet : String) : AccountKey :=
  ⟨wallet, quote.payTo, quote.network, quote.asset⟩

def fundPrepaid (quote : BundleQuote) : Except StoreError Database :=
  if quote.fundingSource = .prepaid then do
    let key := quote.account (trim request.payer)
    let db ← creditPrepaidDeposit db key ids.deposit (trim request.transactionSignature)
      quote.depositAtomic now
    reservePrepaidBudget db key ids.reservation quote.id quote.amountAtomic now
  else .ok db

def fundBundle (quoteId : String) : Database :=
  { db with
    bundleQuotes := db.bundleQuotes.update (fun q => decide (q.id = quoteId))
      (fun q => { q with
        settledAt := some now
        status := .funded
        payerWallet := some (trim request.payer) })
      (fun _ => rfl) }

def bundleDocumentsOf (quoteId : String) : List BundleDocument :=
  (db.bundleDocuments.rows.filter fun d => decide (d.quoteId = quoteId)).mergeSort
    fun a b => a.rank ≤ b.rank

def settleBundle (amount : Nat) : Except StoreError (Database × ChainSettlementReceipt) := do
  let quoteId := trim request.quoteId
  lockChainPaymentQuote db .bundle quoteId
  let prepared ← verifyChainPaymentAttempt ext db .bundle quoteId request.attemptId true
  let db ← claimChainTransaction db (trim request.transactionSignature) (.settlement .bundle)
    quoteId now
  let quote ← orReject (db.bundleQuotes.get? quoteId) (.notFound "payment bundle quote")
  reject (quote.status ≠ .quoted ∨ payerMatchesFunding request quote = false ∨
      quote.payTo ≠ trim request.payTo ∨ quote.network ≠ trim request.network ∨
      quote.depositAtomic ≠ amount)
    (.conflict "settlement does not match the payment bundle quote")
  let documents := bundleDocumentsOf db quoteId
  reject (documents = []) (.conflict "payment bundle is empty")
  let amount ← asI64 amount
  let db ← insertSettlement db
    { id := ids.settlement
      queryId := quote.queryId
      payer := trim request.payer
      documentHandles := documents.map BundleDocument.documentHandle
      totalKrw := quote.totalPriceKrw
      mode := .x402SolanaBundleEscrow
      transactionSignature := trim request.transactionSignature
      createdAt := now }
  let db ← fundPrepaid db ids now request quote
  let row := chainRow ids now request ids.settlement amount prepared
  let db ← insertChainSettlement db .bundle row
  return (clearPaymentAttempt (fundBundle db now request quoteId) .bundle quoteId, row.receipt)

def recordBundleChainSettlement : Except StoreError (Database × ChainSettlementReceipt) := do
  let amount ← settlementAmount ext request
  match db.bundleChainSettlements.get? (trim request.quoteId) with
  | some existing =>
    if sameSettlement existing request = true then replayLocked ext db request .bundle existing
    else .error (.conflict "this payment bundle has already been settled")
  | none => settleBundle ext db ids now request amount

def fundQuote (quoteId : String) : Database :=
  { db with
    fundingQuotes := db.fundingQuotes.update (fun q => decide (q.id = quoteId))
      (fun q => { q with
        status := .funded
        openCallId := some ids.call
        payerWallet := some (trim request.payer)
        settledAt := some now })
      (fun _ => rfl) }

def insertFundedCall (quote : FundingQuote) (call : OpenCallRequest) (amount : Nat) :
    Except StoreError Database := do
  let unitPriceAtomic ← krwToAtomicPinned call.unitPrice
  let unitPriceAtomic ← asI64 unitPriceAtomic
  let totalKrw ← asI64 quote.totalPriceKrw
  let openCalls ← orReject (db.openCalls.insert?
      { id := ids.call
        ownerId := quote.ownerId
        unitPriceKrw := call.unitPrice
        unitPriceAtomic := unitPriceAtomic
        target := call.target
        answered := 0
        status := .opened
        escrowRemainingKrw := totalKrw
        escrowMode := .x402SolanaEscrow
        escrowWallet := some quote.payTo
        escrowAsset := some quote.asset
        escrowNetwork := some quote.network
        escrowTotalAtomic := some amount
        escrowRemainingAtomic := some amount
        fundingTransactionSignature := some (trim request.transactionSignature)
        payerWallet := some (trim request.payer) })
    (.database "UNIQUE constraint failed: open_calls.id")
  return { db with openCalls := openCalls }

def settleOpenCall (amount : Nat) : Except StoreError (Database × ChainSettlementReceipt) := do
  let quoteId := trim request.quoteId
  lockChainPaymentQuote db .openCall quoteId
  let prepared ← verifyChainPaymentAttempt ext db .openCall quoteId request.attemptId true
  let db ← claimChainTransaction db (trim request.transactionSignature) (.settlement .openCall)
    quoteId now
  let quote ← orReject (db.fundingQuotes.get? quoteId) (.notFound "open-call funding quote")
  reject (quote.status ≠ .quoted) (.conflict "this funding quote is no longer payable")
  reject (quote.payTo ≠ trim request.payTo ∨ quote.network ≠ trim request.network ∨
      quote.amountAtomic ≠ amount)
    (.conflict "settlement does not match the open-call funding quote")
  let call ← orReject quote.request (.validation "funding quote request is not valid JSON")
  validateOpenCall call
  let amount ← asI64 amount
  let db ← insertFundedCall db ids request quote call amount
  let row := chainRow ids now request ids.call amount prepared
  let db ← insertChainSettlement db .openCall row
  return (clearPaymentAttempt (fundQuote db ids now request quoteId) .openCall quoteId, row.receipt)

def recordOpenCallChainSettlement : Except StoreError (Database × ChainSettlementReceipt) := do
  let amount ← settlementAmount ext request
  match db.openCallChainSettlements.get? (trim request.quoteId) with
  | some existing =>
    if sameSettlement existing request = true then replayLocked ext db request .openCall existing
    else .error (.conflict "this open-call funding quote has already been settled")
  | none => settleOpenCall ext db ids now request amount

end Records

section Deposit

variable (ext : Externals) (policy : PaymentQuotePolicy) (db : Database) (ids : NewIds) (now : Nat)
  (request : RecordPrepaidDepositRequest)

def depositAccount : AccountKey :=
  ⟨trim request.payer, trim request.payTo, trim request.network, trim request.asset⟩

def depositAmount : Except StoreError Nat := do
  validatePaymentPolicy policy
  let bundleReceiver ← orReject ((policy.bundleRecipient.map trim).filter fun wallet => !wallet.isEmpty)
    (.conflict "prepaid deposits require a configured OPENSHELF_BUNDLE_RECEIVER")
  reject ((trim request.transactionSignature).isEmpty = true)
    (.validation "transactionSignature is required")
  reject (validSolanaAddress ext.encoding (trim request.payer) = false)
    (.validation "payer must be a valid Solana address")
  reject (trim request.payTo ≠ bundleReceiver)
    (.conflict "deposit recipient does not match the configured bundle receiver")
  reject (trim request.network ≠ trim policy.network ∨ trim request.asset ≠ trim policy.asset)
    (.conflict "deposit network or asset does not match the payment policy")
  let amount ← orReject (parseU64 (trim request.amountAtomic))
    (.validation "amountAtomic must be an unsigned integer")
  reject (amount = 0) (.validation "amountAtomic must be greater than zero")
  reject (maxPrepaidTopUpAtomic < amount)
    (.validation "amountAtomic exceeds the maximum prepaid top-up")
  return amount

def depositRecorded (signature : String) : Bool :=
  (db.prepaidLedger.get? (.deposit, signature)).isSome

def applyDeposit (amount : Nat) : Except StoreError Database :=
  if depositRecorded db (trim request.transactionSignature) = true then .ok db
  else do
    let db ← claimChainTransaction db (trim request.transactionSignature) .prepaidTopup
      (trim request.transactionSignature) now
    creditPrepaidDeposit db (depositAccount request) ids.deposit (trim request.transactionSignature)
      amount now

def recordPrepaidDeposit : Except StoreError (Database × PrepaidBalance) := do
  let amount ← depositAmount ext policy request
  let db ← applyDeposit db ids now request amount
  let key := depositAccount request
  return (db, ⟨key, toString (prepaidAvailable db key)⟩)

end Deposit

end Obulus.Funds
