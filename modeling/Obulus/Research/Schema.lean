import Obulus.Foundation.ReadCommitted
import Obulus.Funds.Pricing
import Obulus.Guards.Postgres
import Obulus.Payout.Claims

namespace Obulus.Research

open Foundation Store

export Funds (PaymentRail QuoteStatus BundleStatus FundingSource)

abbrev AttemptStatus := Guards.AttemptStatus

def quoteStatusText : QuoteStatus → String
  | .quoted => "quoted"
  | .delivered => "delivered"
  | .deleted => "deleted"

def attemptStatusText : AttemptStatus → String
  | .claimed => "claimed"
  | .prepared => "prepared"
  | .ambiguous => "ambiguous"
  | .settled => "settled"
  | .released => "released"

-- a row of payment_bundle_quotes
structure Job extends Funds.BundleQuote where
  paymentAttemptQuoteId : Option String
  paymentAttemptId : Option String
  deriving DecidableEq, Repr

structure BundleDocument extends Funds.BundleDocument where
  shelfSnapshot : String
  contentSnapshot : String
  deriving DecidableEq, Repr

structure PaymentQuote extends Funds.PaymentQuote where
  asset : String
  krwPerUsdc : Nat
  contentHash : String
  documentVersion : Nat
  consentVersion : String
  shelfSnapshot : String
  contentSnapshot : String
  deriving DecidableEq, Repr

structure PaymentAttempt extends Guards.ResearchAttempt where
  reconcileAfter : Nat
  absenceObservedAt : Option Nat
  failureReason : Option String
  deriving DecidableEq, Repr

structure ChallengeBinding where
  challengeId : String
  quoteId : String
  externalId : String
  challengeExpiresAt : Nat
  bindingKind : Guards.AttemptKind
  bindingOwner : String
  deriving DecidableEq, Repr

structure MemoryAccess where
  id : String
  memoryId : Option String
  documentId : String
  quoteId : String
  actor : String
  purpose : String
  createdAt : Nat
  deriving DecidableEq, Repr

abbrev Fence := Guards.Fence

structure Database where
  queries : List String
  documents : Table Funds.Document.id
  memoryEntries : Table Funds.MemoryEntry.id
  memoryAccessEvents : Table MemoryAccess.id
  bundleQuotes : Table fun j : Job => j.id
  bundleDocuments : Table fun d : BundleDocument => d.key
  paymentQuotes : Table fun q : PaymentQuote => q.id
  paymentAttempts : Table fun a : PaymentAttempt => a.attemptId
  quoteFences : Guards.Fences
  challengeBindings : List ChallengeBinding
  chainSettlements : Table Funds.ChainSettlement.quoteId
  bundleChainSettlements : Table Funds.ChainSettlement.quoteId
  chainPaymentAttempts : Table Funds.PaymentAttempt.key
  settlements : Table Funds.Settlement.id
  earningEvents : Table Funds.EarningEvent.id
  transactionRegistry : Table Funds.RegistryEntry.transactionSignature
  prepaidAccounts : Table Funds.PrepaidAccount.key
  prepaidLedger : Table Funds.LedgerEntry.reference
  payoutClaims : Table Payout.PayoutClaim.id
  recoveryHolds : List Payout.RecoveryHold

def Database.empty : Database where
  queries := []
  documents := .empty
  memoryEntries := .empty
  memoryAccessEvents := .empty
  bundleQuotes := .empty
  bundleDocuments := .empty
  paymentQuotes := .empty
  paymentAttempts := .empty
  quoteFences := .empty
  challengeBindings := []
  chainSettlements := .empty
  bundleChainSettlements := .empty
  chainPaymentAttempts := .empty
  settlements := .empty
  earningEvents := .empty
  transactionRegistry := .empty
  prepaidAccounts := .empty
  prepaidLedger := .empty
  payoutClaims := .empty
  recoveryHolds := []

-- what the triggers of research_payment_attempts read
def Database.surroundings (db : Database) : Guards.Surroundings where
  paymentQuotes := db.paymentQuotes.map
    (fun q => ⟨q.id, q.queryId, q.documentHandle, quoteStatusText q.status,
      q.paymentRail.map Funds.PaymentRail.text⟩) fun _ => rfl
  bundleQuotes := db.bundleQuotes.map
    (fun j => ⟨j.id, j.queryId, j.status.text, j.paymentAttemptQuoteId, j.paymentAttemptId⟩)
    fun _ => rfl
  bundleDocuments := db.bundleDocuments.rows.map fun d => ⟨d.quoteId, d.documentHandle, d.payShQuoteId⟩
  chainAttempts := db.chainPaymentAttempts.rows.map fun a =>
    ⟨match a.settlementKind with
      | .document => "document"
      | .bundle => "bundle"
      | .openCall => "open_call", a.quoteId⟩
  settlementSignatures := db.settlements.rows.map fun s => some s.transactionSignature
  fences := db.quoteFences

def Database.holdsUnresolved (db : Database) : Bool :=
  db.recoveryHolds.any fun hold => hold.resolvedAt.isNone

inductive Row
  | query (id : String)
  | job (id : String)
  | bundleDocument (key : String × String)
  | quote (id : String)
  | attempt (id : String)
  | fence (quoteId : String)
  | account (key : Funds.AccountKey)
  | ledger (reference : Funds.LedgerKind × String)
  | claim (id : String)
  | memory (id : String)
  | access (id : String)
  | settlement (id : String)
  | earning (id : String)
  | registry (signature : String)
  -- the unique indexes of two of the tables
  | activeAttempt (jobId : String)
  | settlementReference (signature : String)
  deriving DecidableEq, Repr

inductive Cell
  | job (row : Option Job)
  | bundleDocument (row : Option BundleDocument)
  | quote (row : Option PaymentQuote)
  | attempt (row : Option PaymentAttempt)
  | fence (row : Option Fence)
  | account (row : Option Funds.PrepaidAccount)
  | ledger (row : Option Funds.LedgerEntry)
  | claim (row : Option Payout.PayoutClaim)
  | memory (row : Option Funds.MemoryEntry)
  | access (row : Option MemoryAccess)
  | settlement (row : Option Funds.Settlement)
  | earning (row : Option Funds.EarningEvent)
  | registry (row : Option Funds.RegistryEntry)
  | query (present : Bool)
  | index

def view : Row → Database → Cell
  | .query id, db => .query (id ∈ db.queries)
  | .job id, db => .job (db.bundleQuotes.get? id)
  | .bundleDocument key, db => .bundleDocument (db.bundleDocuments.get? key)
  | .quote id, db => .quote (db.paymentQuotes.get? id)
  | .attempt id, db => .attempt (db.paymentAttempts.get? id)
  | .fence quoteId, db => .fence (db.quoteFences.get? quoteId)
  | .account key, db => .account (db.prepaidAccounts.get? key)
  | .ledger reference, db => .ledger (db.prepaidLedger.get? reference)
  | .claim id, db => .claim (db.payoutClaims.get? id)
  | .memory id, db => .memory (db.memoryEntries.get? id)
  | .access id, db => .access (db.memoryAccessEvents.get? id)
  | .settlement id, db => .settlement (db.settlements.get? id)
  | .earning id, db => .earning (db.earningEvents.get? id)
  | .registry signature, db => .registry (db.transactionRegistry.get? signature)
  | .activeAttempt _, _ => .index
  | .settlementReference _, _ => .index

-- a row as a statement leaves it
inductive Change
  | job (row : Job)
  | quote (row : PaymentQuote)
  | attempt (row : PaymentAttempt)
  | fence (row : Fence)
  | freeFence (quoteId : String)
  | account (row : Funds.PrepaidAccount)
  | ledger (row : Funds.LedgerEntry)
  | claim (row : Payout.PayoutClaim)
  | memory (row : Funds.MemoryEntry)
  | access (row : MemoryAccess)
  | settlement (row : Funds.Settlement)
  | earning (row : Funds.EarningEvent)
  | registry (row : Funds.RegistryEntry)

def Change.rows : Change → List Row
  | .job row => [.job row.id]
  | .quote row => [.quote row.id]
  | .attempt row => [.attempt row.attemptId, .activeAttempt row.jobId]
  | .fence row => [.fence row.quoteId]
  | .freeFence quoteId => [.fence quoteId]
  | .account row => [.account row.key]
  | .ledger row => [.ledger row.reference]
  | .claim row => [.claim row.id]
  | .memory row => [.memory row.id]
  | .access row => [.access row.id]
  | .settlement row => [.settlement row.id, .settlementReference row.transactionSignature]
  | .earning row => [.earning row.id]
  | .registry row => [.registry row.transactionSignature]

def Change.run (db : Database) : Change → Database
  | .job row => { db with bundleQuotes := db.bundleQuotes.put row }
  | .quote row => { db with paymentQuotes := db.paymentQuotes.put row }
  | .attempt row => { db with paymentAttempts := db.paymentAttempts.put row }
  | .fence row => { db with quoteFences := db.quoteFences.put row }
  | .freeFence quoteId =>
    { db with quoteFences := db.quoteFences.delete fun fence => fence.quoteId = quoteId }
  | .account row => { db with prepaidAccounts := db.prepaidAccounts.put row }
  | .ledger row => { db with prepaidLedger := db.prepaidLedger.put row }
  | .claim row => { db with payoutClaims := db.payoutClaims.put row }
  | .memory row => { db with memoryEntries := db.memoryEntries.put row }
  | .access row => { db with memoryAccessEvents := db.memoryAccessEvents.put row }
  | .settlement row => { db with settlements := db.settlements.put row }
  | .earning row => { db with earningEvents := db.earningEvents.put row }
  | .registry row => { db with transactionRegistry := db.transactionRegistry.put row }

theorem Change.frame (c : Change) (db : Database) (k : Row) (hk : k ∉ c.rows) :
    view k (c.run db) = view k db := by
  cases c with
  | freeFence quoteId =>
    cases k with
    | fence id =>
      have hne : quoteId ≠ id := by simpa [rows, eq_comm] using hk
      exact congrArg Cell.fence (Table.get?_delete_other hne)
    | _ => rfl
  | _ =>
    cases k <;> first
      | rfl
      | simp only [view, run]
        rw [Table.get?_put_other (by simpa [rows] using hk)]

def Change.write (c : Change) : ReadCommitted.Write view :=
  ⟨c.rows, fun db => c.run db, c.frame⟩

end Obulus.Research
