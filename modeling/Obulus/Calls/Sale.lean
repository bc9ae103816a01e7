import Mathlib.Data.String.Basic
import Obulus.Calls.Owner
import Obulus.Funds.Settle

namespace Obulus.Calls

open Foundation Store Funds

variable (db : Database) (now : Nat)

section Posting

variable (documentId : String) (priceKrw : Nat)

def sold (m : MemoryEntry) : Bool :=
  decide (m.documentId = some documentId ∧ m.status = .settled)

def soldMemory : Option String := (db.memoryEntries.rows.find? (sold documentId)).map fun m => m.id

-- each settled row of the document, its reuses included
def creditMemories : Database :=
  { db with
    memoryEntries := db.memoryEntries.update (sold documentId)
      (fun m => { m with earnedKrw := m.earnedKrw + priceKrw }) (fun _ => rfl) }

-- the UNIQUE (settlement_id, document_id) of earning_events
def checkEarning (settlementId : String) : Except StoreError Unit :=
  reject (db.earningEvents.rows.any (fun e =>
      decide (e.settlementId = some settlementId ∧ e.documentId = some documentId)) = true)
    (.database "UNIQUE constraint failed: earning_events.settlement_id, earning_events.document_id")

variable (earningId settlementId : String) (memoryId : Option String) (authorId : String)

def postSale : Except StoreError Database := do
  let krw ← asI64 priceKrw
  let db := creditMemories db documentId krw
  checkEarning db documentId settlementId
  insertEarningEvent db earningId (some settlementId) memoryId (some documentId) authorId
    "document_open" krw now

def postOnchainSale (recipientWallet : String) : Except StoreError Database := do
  let krw ← asI64 priceKrw
  let db := creditMemories db documentId krw
  checkEarning db documentId settlementId
  insertOnchainEarningEvent db earningId settlementId memoryId documentId authorId krw recipientWallet
    now

end Posting

section Opening

-- `new_id` for the settlement and for the earning of each document
structure SaleIds where
  settlement : String
  earning : String → String

variable (ids : SaleIds) (queryId : String) (handles : List String) (payer : Option String)

structure Opened where
  document : Document
  priceKrw : Nat
  memoryId : Option String
  deriving DecidableEq, Repr

def canonicalHandles : List String := handles.mergeSort fun a b => decide (a ≤ b)

def checkHandles : Except StoreError Unit := do
  reject (handles = [] ∨ 20 < handles.length)
    (.validation "between 1 and 20 document handles are required")
  reject (¬handles.Nodup) (.validation "document handles must be unique")

def replayed : Bool :=
  db.settlements.rows.any (fun s => decide (s.queryId = queryId ∧
    s.documentHandles = canonicalHandles handles ∧ s.payer.getD "" = payer.getD "")) ||
  db.funds.settlements.rows.any fun s => decide (s.queryId = queryId ∧
    s.documentHandles = canonicalHandles handles ∧ s.payer = payer.getD "")

def openable (d : Document) : Bool :=
  decide (d.locked = false) && (db.profiles.get? d.authorId).all UserProfile.autoMatch &&
    decide (strikes db d.authorId < autoMatchStrikeLimit)

def openDocument (handle : String) : Except StoreError Opened := do
  let quoted ← orReject (db.queryMatches.get? (queryId, handle)) .documentNotQuoted
  let d ← orReject ((db.documents.rows.find? fun d => decide (d.handle = handle)).filter (openable db))
    .documentNotQuoted
  return ⟨d, quoted.quotedPriceKrw, soldMemory db d.id⟩

def openAll : List String → Except StoreError (List Opened)
  | [] => .ok []
  | handle :: handles => do
    let opened ← openDocument db queryId handle
    let rest ← openAll handles
    return opened :: rest

def settleOpened (db : Database) : List Opened → Except StoreError Database
  | [] => .ok db
  | o :: rest => do
    let db ← postSale db now o.document.id o.priceKrw (ids.earning o.document.id) ids.settlement
      o.memoryId o.document.authorId
    settleOpened db rest

def insertDemoSettlement (total : Nat) : Except StoreError Database := do
  let total ← asI64 total
  let settlements ← orReject (db.settlements.insert?
      { id := ids.settlement
        queryId := queryId
        payer := payer
        documentHandles := canonicalHandles handles
        totalKrw := total })
    (.database "UNIQUE constraint failed: settlements.id")
  return { db with settlements := settlements }

def totalPrice (opened : List Opened) : Nat :=
  opened.foldl (fun total o => saturatingAdd total o.priceKrw) 0

def settleOpening (opened : List Opened) : Except StoreError Database := do
  let createdAt ← asI64 now
  let db ← insertDemoSettlement db ids queryId handles payer (totalPrice opened)
  settleOpened createdAt ids db opened

def openDocuments : Except StoreError Database := do
  checkHandles handles
  reject (queryId ∉ db.funds.queries) (.notFound "query")
  let opened ← openAll db queryId handles
  if replayed db queryId handles payer then return db
  else settleOpening db now ids queryId handles payer opened

end Opening

section Chain

variable (ext : Externals) (ids : NewIds) (request : RecordChainSettlementRequest)

def recordChain (funds : Funds.Database) (quote : PaymentQuote) (amount : Nat)
    (prepared : Option String) : Except StoreError Funds.Database := do
  let amount ← asI64 amount
  let funds ← Funds.insertSettlement funds
    { id := ids.settlement
      queryId := quote.queryId
      payer := trim request.payer
      documentHandles := [quote.documentHandle]
      totalKrw := quote.priceKrw
      mode := .x402Solana
      transactionSignature := trim request.transactionSignature
      createdAt := now }
  let funds ← insertChainSettlement funds .document
    (chainRow ids now request ids.settlement amount prepared)
  return deliverQuote funds now quote.id

def settleDocument (amount : Nat) : Except StoreError Database := do
  let quoteId := trim request.quoteId
  let funds ← bindDocumentPaymentRail db.funds quoteId .x402
  let prepared ← verifyChainPaymentAttempt ext funds .document quoteId request.attemptId true
  let funds ← claimChainTransaction funds (trim request.transactionSignature) (.settlement .document)
    quoteId now
  let quote ← orReject (funds.paymentQuotes.get? quoteId) (.notFound "payment quote")
  let document ← orReject (db.documents.get? quote.documentId) (.notFound "payment quote")
  reject (quote.payTo ≠ trim request.payTo ∨ quote.network ≠ trim request.network ∨
      quote.amountAtomic ≠ amount)
    (.conflict "settlement does not match the payment quote")
  let memoryId := soldMemory db quote.documentId
  let funds ← recordChain now ids request funds quote amount prepared
  let db ← postOnchainSale { db with funds := funds } now quote.documentId quote.priceKrw ids.earning
    ids.settlement memoryId document.authorId quote.payTo
  return { db with funds := clearPaymentAttempt db.funds .document quoteId }

def replayChain (existing : ChainSettlement) : Except StoreError Database := do
  let (funds, _) ← replayDocument ext db.funds request existing
  return { db with funds := funds }

def recordChainSettlement : Except StoreError Database := do
  let amount ← settlementAmount ext request
  match db.funds.chainSettlements.get? (trim request.quoteId) with
  | some existing =>
    if sameSettlement existing request = true then replayChain db ext request existing
    else .error (.conflict "this payment quote has already been settled")
  | none => settleDocument db now ext ids request amount

end Chain

section PaySh

structure PayShResource where
  quoteId : String
  queryId : String
  documentHandle : String
  recipientWallet : String
  deriving DecidableEq, Repr

inductive PayShKind
  | research
  | direct
  deriving DecidableEq, Repr

def PayShKind.mismatch : PayShKind → String
  | .research => "Pay.sh callback does not match the active research payment attempt"
  | .direct => "Pay.sh callback does not match the active direct payment attempt"

-- `active` and `closes` are what the attempt and fence tables answer at the start and at the end
structure PayShPaymentAttempt where
  kind : PayShKind
  transactionSignature : Option String
  active : Bool
  closes : Except StoreError Unit

variable (ext : Externals) (earningId : String) (resource : PayShResource)
  (attempt : Option PayShPaymentAttempt)

def checkPaySh : Except StoreError Unit := do
  reject (attempt.any (fun a => a.transactionSignature.isNone) = true)
    (.conflict "Pay.sh delivery requires a matching final transaction receipt")
  match attempt with
  | some a => reject (a.active = false) (.conflict a.kind.mismatch)
  | none => .ok ()

def payShReference : String := "pay.sh:" ++ resource.quoteId

def payShSettlementId : String := "settlement_pay_sh_" ++ ext.hexDigest resource.quoteId

def payShSettlement : Option Settlement :=
  db.funds.settlements.rows.find? fun s =>
    decide (s.queryId = resource.queryId ∧ s.documentHandles = [resource.documentHandle] ∧
      s.payer = "pay.sh" ∧ s.mode = .paySh)

def payShRecorded : Bool :=
  db.funds.settlements.rows.any fun s =>
    decide (s.mode = .paySh ∧ s.transactionSignature = payShReference resource)

def effectiveQuoteId : Option Settlement → String
  | none => resource.quoteId
  | some s => if s.transactionSignature.startsWith "pay.sh:" then (s.transactionSignature.drop 7).toString
    else resource.quoteId

def deliverPaySh (quote : PaymentQuote) (document : Document) : Except StoreError Database := do
  let createdAt ← asI64 now
  let total ← asI64 quote.priceKrw
  if payShRecorded db resource then return db
  else do
    let memoryId := soldMemory db quote.documentId
    let settlements ← orReject (db.funds.settlements.insert?
        { id := payShSettlementId ext resource
          queryId := resource.queryId
          payer := "pay.sh"
          documentHandles := [resource.documentHandle]
          totalKrw := total
          mode := .paySh
          transactionSignature := payShReference resource
          createdAt := createdAt })
      (.database "Query returned no rows")
    let funds := deliverQuote { db.funds with settlements := settlements } createdAt resource.quoteId
    postOnchainSale { db with funds := funds } createdAt quote.documentId total earningId
      (payShSettlementId ext resource) memoryId document.authorId resource.recipientWallet

def closePaySh (db : Database) : Except StoreError Database :=
  match attempt with
  | some a => do
    a.closes
    return db
  | none => .ok db

def deliverPayShQuote : Except StoreError Database := do
  checkPaySh attempt
  let existing := payShSettlement db resource
  let effective := effectiveQuoteId resource existing
  let funds ← bindDocumentPaymentRail db.funds effective .paySh
  let quote ← orReject ((funds.paymentQuotes.get? effective).filter fun q =>
    decide (q.queryId = resource.queryId ∧ q.documentHandle = resource.documentHandle)) .documentNotQuoted
  let document ← orReject (db.documents.get? quote.documentId) .documentNotQuoted
  let db := { db with funds := funds }
  match existing with
  | some _ => closePaySh attempt db
  | none => do
    let db ← deliverPaySh db now ext earningId resource quote document
    closePaySh attempt db

end PaySh

end Obulus.Calls
