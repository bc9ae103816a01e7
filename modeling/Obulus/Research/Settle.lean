import Obulus.Research.Attempts

namespace Obulus.Research

open Foundation Store ReadCommitted

def payShPriceBandsKrw : List Nat := [5, 10, 15, 25, 100, 300, 500, 700, 800, 1000]

def payShReference (quoteId : String) : String := "pay.sh:" ++ quoteId

def referencedQuote (reference : String) : Option String :=
  if "pay.sh:".toList.isPrefixOf reference.toList then some (String.ofList (reference.toList.drop 7))
  else none

-- bind_document_payment_rail
inductive RailPlace
  | quote
  | lockQuery (queryId documentId : String)
  | lockQuote (queryId documentId : String)
  | otherQuote (queryId documentId : String)
  | opposite
  | update

structure RailStep where
  locked : List Row
  changes : List Change
  place : Option RailPlace

namespace Rail

variable (quoteId : String) (rail : PaymentRail) (db : Database)

def oppositeExists : Bool :=
  match rail with
  | .x402 => db.settlements.rows.any fun s =>
      decide (s.mode = .paySh ∧ s.transactionSignature = payShReference quoteId)
  | .paySh => (db.chainSettlements.get? quoteId).isSome ||
      (db.chainPaymentAttempts.get? (.document, quoteId)).isSome

def run : RailPlace → Except StoreError RailStep
  | .quote => do
    let quote ← orReject (db.paymentQuotes.get? quoteId) (.notFound "payment quote")
    return ⟨[], [], some (.lockQuery quote.queryId quote.documentId)⟩
  | .lockQuery queryId documentId => do
    reject (queryId ∉ db.queries) noRows
    return ⟨[.query queryId], [], some (.lockQuote queryId documentId)⟩
  | .lockQuote queryId documentId => do
    let quote ← orReject (db.paymentQuotes.get? quoteId) noRows
    match quote.paymentRail with
    | some current => do
      reject (current ≠ rail)
        (.conflict s!"this document quote is already reserved for {current.text} payment")
      return ⟨[.quote quoteId], [], none⟩
    | none => return ⟨[.quote quoteId], [], some (.otherQuote queryId documentId)⟩
  | .otherQuote queryId documentId => do
    reject (db.paymentQuotes.rows.any (fun q => decide (q.queryId = queryId ∧
      q.documentId = documentId ∧ q.id ≠ quoteId ∧ q.paymentRail ≠ none)) = true)
      (.conflict "this query/document purchase is already reserved by another quote")
    return ⟨[], [], some .opposite⟩
  | .opposite => do
    reject (oppositeExists quoteId rail db = true)
      (.conflict "this document quote already has activity on the other payment rail")
    return ⟨[], [], some .update⟩
  | .update => do
    let quote ← orReject ((db.paymentQuotes.get? quoteId).filter fun q => q.paymentRail = none)
      (.conflict "this document quote was reserved by another payment rail")
    return ⟨[], [.quote { quote with paymentRail := some rail }], none⟩

end Rail

structure SettleRequest where
  jobId : String
  attemptId : String
  transactionSignature : String
  deriving DecidableEq, Repr

def SettleRequest.trimmed (r : SettleRequest) : SettleRequest :=
  ⟨trim r.jobId, trim r.attemptId, trim r.transactionSignature⟩

structure Sale where
  settlementId : String
  documentId : String
  authorId : String
  memoryId : Option String
  priceKrw : Nat
  createdAt : Nat

inductive SettlePlace
  | start
  | attempt
  | recorded
  | quote (quoteId : String)
  | bind (quote : PaymentQuote) (rail : RailPlace)
  | bound (quote : PaymentQuote)
  | lockActive (quote : PaymentQuote)
  | existing (quote : PaymentQuote)
  | rebind (quote : PaymentQuote) (existing : Option Funds.Settlement) (rail : RailPlace)
  | citation (quote : PaymentQuote) (existing : Option Funds.Settlement)
  | insertSettlement (quote : PaymentQuote) (sale : Sale)
  | ignored (quote : PaymentQuote)
  | deliverQuote (quote : PaymentQuote) (sale : Sale)
  | memory (quote : PaymentQuote) (sale : Sale)
  | access (quote : PaymentQuote) (sale : Sale)
  | earning (quote : PaymentQuote) (sale : Sale)
  | settleAttempt (quote : PaymentQuote)
  | signature (quote : PaymentQuote)
  | register (quote : PaymentQuote) (signature : String)
  | registered (quote : PaymentQuote) (signature : String)
  | clearJob (quote : PaymentQuote)
  | commit
  | report (reading : Reading)

namespace Settle

variable (env : Environment) (request : SettleRequest) (input : Input) (db : Database)

def check : Except StoreError Unit := do
  validateResearchAttemptId request.attemptId
  reject (request.transactionSignature.utf8ByteSize < 64 ∨
    128 < request.transactionSignature.utf8ByteSize ∨
    isBase58 request.transactionSignature = false)
    (.validation "transactionSignature must be a base58 Solana signature")

def consider (attempt : PaymentReconciliation) : Except StoreError (Statement JobStatus SettlePlace) := do
  reject (attempt.jobId ≠ request.jobId)
    (.conflict "research payment settlement does not match its fenced job")
  if attempt.status = .settled then return .next [] [] .recorded
  else do
    reject (attempt.status ∉ [.prepared, .ambiguous])
      (.conflict s!"research payment cannot settle from status {attemptStatusText attempt.status}")
    return .next [] [] (.quote attempt.quoteId)

-- build_pay_sh_resource, up to its binding of the quote
def buildResource (quote : PaymentQuote) : Except StoreError (Statement JobStatus SettlePlace) := do
  reject (quote.priceKrw ∉ payShPriceBandsKrw)
    (.conflict "this document price is outside the Pay.sh hackathon price bands")
  reject (quote.amountAtomic < 2)
    (.validation "Pay.sh direct split requires at least two atomic units")
  return .next [] [] (.bind quote .quote)

def ownFence (attempt : PaymentAttempt) : Bool :=
  (db.quoteFences.get? attempt.quoteId).any fun fence =>
    decide (fence.attemptKind = .research ∧ fence.attemptId = attempt.attemptId)

def fencedJob (quoteId : String) : Option Job :=
  (db.bundleQuotes.get? request.jobId).filter fun job =>
    decide (job.status ∈ [.paymentInProgress, .paymentReconciliation] ∧
      job.paymentAttemptQuoteId = some quoteId ∧ job.paymentAttemptId = some request.attemptId)

def fencedAttempt (quoteId : String) : Option PaymentAttempt :=
  (db.paymentAttempts.get? request.attemptId).filter fun attempt =>
    decide (attempt.jobId = request.jobId ∧ attempt.quoteId = quoteId ∧
      attempt.status ∈ [.prepared, .ambiguous]) && ownFence db attempt

def activePayment (quoteId : String) : Option (List Row) := do
  let job ← fencedJob request db quoteId
  let attempt ← fencedAttempt request db quoteId
  let document ← db.bundleDocuments.rows.find? fun d =>
    d.quoteId = job.id ∧ d.payShQuoteId = some quoteId
  return [.job job.id, .bundleDocument document.key, .attempt attempt.attemptId, .fence quoteId]

def existingSettlement (quote : PaymentQuote) : Option Funds.Settlement :=
  db.settlements.rows.find? fun s => s.queryId = quote.queryId ∧
    s.documentHandles = [quote.documentHandle] ∧ s.payer = "pay.sh" ∧ s.mode = .paySh

def effectiveQuote (quote : PaymentQuote) (existing : Option Funds.Settlement) : String :=
  (existing.bind fun s => referencedQuote s.transactionSignature).getD quote.id

def saleOf (quote : PaymentQuote) (existing : Option Funds.Settlement) : Except StoreError Sale := do
  let row ← orReject ((db.paymentQuotes.get? (effectiveQuote quote existing)).filter fun q =>
    q.queryId = quote.queryId ∧ q.documentHandle = quote.documentHandle) .documentNotQuoted
  let document ← orReject (db.documents.get? row.documentId) .documentNotQuoted
  let memory := db.memoryEntries.rows.find? fun m =>
    m.documentId = some row.documentId ∧ m.settled = true
  return ⟨"settlement_pay_sh_" ++ env.hexDigest quote.id, row.documentId, document.authorId,
    memory.map Funds.MemoryEntry.id, row.priceKrw, input.now⟩

-- guard_pay_sh_settlement_payment_rail, the quote as it leaves it
def settlementTrigger (quoteId : String) : Except StoreError (List Change) := do
  let quote := db.paymentQuotes.get? quoteId
  reject (quote.any (fun q => db.bundleQuotes.rows.any fun job =>
    decide (job.queryId = q.queryId) && db.bundleDocuments.rows.any (fun d =>
      decide (d.quoteId = job.id ∧ d.documentHandle = q.documentHandle)) &&
    ((db.chainPaymentAttempts.get? (.bundle, job.id)).isSome ||
      decide (job.status ∉ [.balanceRefunded, .deleted])) &&
    !(db.quoteFences.get? q.id).any fun fence => decide (fence.attemptKind = .research)) = true)
    (.database "document purchase is reserved by a research bundle")
  reject (quote.any (fun q => decide (q.paymentRail.getD .paySh = .paySh)) = false)
    (.database "document payment rail conflict")
  return (quote.filter fun q => q.paymentRail = none).toList.map fun q =>
    .quote { q with paymentRail := some .paySh }

def settlementOf (quote : PaymentQuote) (sale : Sale) : Funds.Settlement :=
  ⟨sale.settlementId, quote.queryId, "pay.sh", [quote.documentHandle], sale.priceKrw, .paySh,
    payShReference quote.id, sale.createdAt⟩

-- INSERT OR IGNORE
def insertSettlement (quote : PaymentQuote) (sale : Sale) :
    Except StoreError (Statement JobStatus SettlePlace) := do
  let changes ← settlementTrigger db quote.id
  let row := settlementOf quote sale
  if (db.settlements.get? row.id).isSome = true ∨ db.settlements.rows.any (fun s =>
      decide (s.mode = .paySh ∧ s.transactionSignature = row.transactionSignature)) = true then
    return writing changes (.ignored quote)
  else
    return writing (changes ++ [.settlement row]) (.deliverQuote quote sale)

def deliverQuote (quote : PaymentQuote) (sale : Sale) : List Change :=
  (db.paymentQuotes.get? quote.id).toList.map fun q =>
    .quote { q with
      settledAt := some sale.createdAt
      deliveredAt := some sale.createdAt
      status := .delivered }

def creditMemories (sale : Sale) : List Change :=
  (db.memoryEntries.rows.filter fun m => m.documentId = some sale.documentId ∧ m.settled = true).map
    fun m => .memory { m with
      earnedKrw := m.earnedKrw + sale.priceKrw
      accessCount := m.accessCount + 1
      lastAccessedAt := some sale.createdAt }

def accessOf (quote : PaymentQuote) (sale : Sale) : MemoryAccess :=
  ⟨input.newId, sale.memoryId, sale.documentId, quote.id, "pay.sh", "pay_sh_paid_evidence",
    sale.createdAt⟩

def earningOf (quote : PaymentQuote) (sale : Sale) (amountAtomic : Nat) : Funds.EarningEvent :=
  ⟨input.newId, some sale.settlementId, sale.memoryId, some sale.documentId, sale.authorId,
    "document_open", sale.priceKrw, amountAtomic, some quote.payTo, .onchain, sale.createdAt⟩

def insertEarning (quote : PaymentQuote) (sale : Sale) : Except StoreError (List Change) := do
  let atomic ← Funds.krwToAtomicPinned sale.priceKrw
  let amountAtomic ← asI64 atomic
  reject (db.earningEvents.rows.any (fun e => decide (e.id = input.newId)) = true)
    (.database "UNIQUE constraint failed: earning_events.id")
  reject (db.earningEvents.rows.any (fun e => decide (e.settlementId = some sale.settlementId ∧
    e.documentId = some sale.documentId)) = true)
    (.database "UNIQUE constraint failed: earning_events.settlement_id, earning_events.document_id")
  return [.earning (earningOf input quote sale amountAtomic)]

def settled (attempt : PaymentAttempt) : PaymentAttempt :=
  { attempt with
    status := .settled
    transactionSignature := some request.transactionSignature
    failureReason := none
    completedAt := some (input.now : Int) }

def settleAttempt (quote : PaymentQuote) : Except StoreError (Statement JobStatus SettlePlace) := do
  let attempt ← orReject ((fencedAttempt request db quote.id).filter fun attempt =>
    attempt.transactionSignature.getD request.transactionSignature = request.transactionSignature)
    (.conflict "research payment attempt changed before delivery committed")
  let changes ← updateAttempt db [.status, .transactionSignature, .failureReason, .completedAt]
    attempt (settled request input attempt)
  return writing changes (.signature quote)

def clearedJob (job : Job) : Job :=
  { job with
    status := .processing
    paymentAttemptQuoteId := none
    paymentAttemptId := none
    failureReason := none }

def run : SettlePlace → Statement JobStatus SettlePlace
  | .start => statement do
    check request
    return .next [] [] .attempt
  | .attempt => statement do
    let attempt ← researchPaymentAttempt db request.attemptId
    consider request attempt
  | .recorded => statement do
    let attempt ← orReject ((db.paymentAttempts.get? request.attemptId).filter fun a =>
      a.jobId = request.jobId) noRows
    reject (attempt.transactionSignature ≠ some request.transactionSignature)
      (.conflict "research payment was already settled with different evidence")
    return .next [] [] (.report .job)
  | .quote quoteId => statement do
    let quote ← orReject (db.paymentQuotes.get? (trim quoteId)) .documentNotQuoted
    buildResource quote
  | .bind quote rail => statement do
    let step ← Rail.run quote.id .paySh db rail
    return .next step.locked (step.changes.map Change.write)
      (step.place.elim (.bound quote) (.bind quote))
  | .bound quote => .commit (.lockActive quote)
  | .lockActive quote => statement do
    let rows ← orReject (activePayment request db quote.id)
      (.conflict "Pay.sh callback does not match the active research payment attempt")
    return locking rows (.existing quote)
  | .existing quote => .next [] [] (.rebind quote (existingSettlement db quote) .quote)
  | .rebind quote existing rail => statement do
    let step ← Rail.run (effectiveQuote quote existing) .paySh db rail
    return .next step.locked (step.changes.map Change.write)
      (step.place.elim (.citation quote existing) (.rebind quote existing))
  | .citation quote existing => statement do
    let sale ← saleOf env input db quote existing
    return .next [] []
      (if existing.isSome then .settleAttempt quote else .insertSettlement quote sale)
  | .insertSettlement quote sale => statement (insertSettlement db quote sale)
  | .ignored quote => statement do
    reject (db.settlements.rows.any (fun s => decide (s.mode = .paySh ∧
      s.transactionSignature = payShReference quote.id)) = false) noRows
    return .next [] [] (.settleAttempt quote)
  | .deliverQuote quote sale => writing (deliverQuote db quote sale) (.memory quote sale)
  | .memory quote sale => writing (creditMemories db sale) (.access quote sale)
  | .access quote sale => statement do
    reject ((db.memoryAccessEvents.get? input.newId).isSome = true)
      (.database "UNIQUE constraint failed: memory_access_events.id")
    return writing [.access (accessOf input quote sale)] (.earning quote sale)
  | .earning quote sale => statement do
    let changes ← insertEarning input db quote sale
    return writing changes (.settleAttempt quote)
  | .settleAttempt quote => statement (settleAttempt request input db quote)
  | .signature quote => statement do
    let attempt ← orReject (db.paymentAttempts.get? request.attemptId) noRows
    return .next [] []
      (attempt.transactionSignature.elim (.clearJob quote) (.register quote))
  | .register quote signature =>
    if (db.transactionRegistry.get? signature).isSome then .next [] [] (.registered quote signature)
    else writing [.registry ⟨signature, .payShDocument, quote.id, input.now⟩] (.clearJob quote)
  | .registered quote signature => statement do
    reject ((db.transactionRegistry.get? signature).any (fun e =>
      decide (e.settlementKind = .payShDocument ∧ e.quoteId = quote.id)) = false)
      (.conflict "this transaction signature has already been recorded")
    return .next [] [] (.clearJob quote)
  | .clearJob quote => statement do
    let job ← orReject (fencedJob request db quote.id)
      (.conflict "research payment attempt changed before delivery committed")
    return writing [.job (clearedJob job)] .commit
  | .commit => .commit (.report .job)
  | .report reading => report request.jobId .report db reading

end Settle

end Obulus.Research
