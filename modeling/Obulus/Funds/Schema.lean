import Obulus.Payout.History

namespace Obulus.Funds

open Foundation Store

inductive SettlementKind
  | document
  | bundle
  | openCall
  deriving DecidableEq, Repr

def SettlementKind.parse? (text : String) : Option SettlementKind :=
  if text = "document" then some .document
  else if text = "bundle" then some .bundle
  else if text = "open_call" then some .openCall
  else none

inductive RegistryKind
  | settlement (kind : SettlementKind)
  | prepaidTopup
  | payShDocument
  | payShDirect
  deriving DecidableEq, Repr

inductive PaymentRail
  | x402
  | paySh
  deriving DecidableEq, Repr

def PaymentRail.text : PaymentRail → String
  | .x402 => "x402"
  | .paySh => "pay_sh"

inductive QuoteStatus
  | quoted
  | delivered
  | deleted
  deriving DecidableEq, Repr

inductive BundleStatus
  | quoted
  | funded
  | processing
  | paymentInProgress
  | paymentReconciliation
  | completed
  | delivered
  | refundPending
  | balanceRefunded
  | deleted
  deriving DecidableEq, Repr

def BundleStatus.text : BundleStatus → String
  | .quoted => "quoted"
  | .funded => "funded"
  | .processing => "processing"
  | .paymentInProgress => "payment_in_progress"
  | .paymentReconciliation => "payment_reconciliation"
  | .completed => "completed"
  | .delivered => "delivered"
  | .refundPending => "refund_pending"
  | .balanceRefunded => "balance_refunded"
  | .deleted => "deleted"

inductive FundingSource
  | legacyDirect
  | prepaid
  | agentDirect
  deriving DecidableEq, Repr

inductive FundingQuoteStatus
  | quoted
  | funded
  | deleted
  deriving DecidableEq, Repr

inductive CallStatus
  | opened
  | filled
  | cancelled
  deriving DecidableEq, Repr

inductive EscrowMode
  | sandbox
  | x402SolanaEscrow
  | prepaid
  deriving DecidableEq, Repr

inductive SettlementMode
  | x402Solana
  | x402SolanaBundleEscrow
  | paySh
  | sandbox
  deriving DecidableEq, Repr

structure Document where
  id : String
  handle : String
  authorId : String
  deriving DecidableEq, Repr

structure MemoryEntry where
  id : String
  documentId : Option String
  settled : Bool
  earnedKrw : Nat
  accessCount : Nat
  lastAccessedAt : Option Nat
  deriving DecidableEq, Repr

structure PaymentQuote where
  id : String
  queryId : String
  documentId : String
  documentHandle : String
  payTo : String
  network : String
  amountAtomic : Nat
  priceKrw : Nat
  expiresAt : Nat
  status : QuoteStatus
  paymentRail : Option PaymentRail
  settledAt : Option Nat
  deliveredAt : Option Nat
  deriving DecidableEq, Repr

structure BundleQuote where
  id : String
  queryId : String
  payTo : String
  network : String
  asset : String
  amountAtomic : Nat
  totalPriceKrw : Nat
  krwPerUsdc : Nat
  bundleHash : String
  expiresAt : Nat
  createdAt : Nat
  settledAt : Option Nat
  deliveredAt : Option Nat
  status : BundleStatus
  payerWallet : Option String
  depositAtomic : Nat
  minimumDepositAtomic : Nat
  fundingSource : FundingSource
  failureReason : Option String
  refundClaimId : Option String
  balanceReleaseAtomic : Nat
  deriving DecidableEq, Repr

structure BundleDocument where
  quoteId : String
  rank : Nat
  documentId : String
  documentHandle : String
  authorId : String
  recipientWallet : String
  priceKrw : Nat
  payShQuoteId : Option String
  deriving DecidableEq, Repr

def BundleDocument.key (d : BundleDocument) : String × String := (d.quoteId, d.documentId)

structure SearchFilters where
  category : Option String
  maxUnitPriceKrw : Option Nat
  ageBand : Option String
  region : Option String
  household : Option String
  field : Option String
  deriving DecidableEq, Repr

structure OpenCallRequest where
  question : String
  unitPrice : Nat
  target : Nat
  shelf : String
  category : String
  filters : SearchFilters
  deriving DecidableEq, Repr

structure FundingQuote where
  id : String
  ownerId : String
  request : Option OpenCallRequest
  payTo : String
  network : String
  asset : String
  amountAtomic : Nat
  totalPriceKrw : Nat
  expiresAt : Nat
  status : FundingQuoteStatus
  openCallId : Option String
  payerWallet : Option String
  settledAt : Option Nat
  deriving DecidableEq, Repr

structure OpenCall where
  id : String
  ownerId : String
  unitPriceKrw : Nat
  unitPriceAtomic : Nat
  target : Nat
  answered : Nat
  status : CallStatus
  escrowRemainingKrw : Nat
  escrowMode : EscrowMode
  escrowWallet : Option String
  escrowAsset : Option String
  escrowNetwork : Option String
  escrowTotalAtomic : Option Nat
  escrowRemainingAtomic : Option Nat
  fundingTransactionSignature : Option String
  payerWallet : Option String
  deriving DecidableEq, Repr

-- `parentId` is the settlement_id column, or open_call_id in the open-call table.
structure ChainSettlement where
  id : String
  quoteId : String
  parentId : String
  transactionSignature : String
  payer : String
  payTo : String
  amountAtomic : Nat
  network : String
  preparedTransaction : Option String
  rawResponseJson : String
  confirmedAt : Nat
  deriving DecidableEq, Repr

structure Settlement where
  id : String
  queryId : String
  payer : String
  documentHandles : List String
  totalKrw : Nat
  mode : SettlementMode
  transactionSignature : String
  createdAt : Nat
  deriving DecidableEq, Repr

structure EarningEvent where
  id : String
  settlementId : Option String
  memoryId : Option String
  documentId : Option String
  authorId : String
  source : String
  amountKrw : Nat
  amountAtomic : Nat
  recipientWallet : Option String
  payoutStatus : Payout.PayoutStatus
  availableAt : Nat
  deriving DecidableEq, Repr

structure RegistryEntry where
  transactionSignature : String
  settlementKind : RegistryKind
  quoteId : String
  createdAt : Nat
  deriving DecidableEq, Repr

def RegistryEntry.funds (e : RegistryEntry) : RegistryKind × String := (e.settlementKind, e.quoteId)

structure PaymentAttempt where
  settlementKind : SettlementKind
  quoteId : String
  attemptId : String
  payerWallet : Option String
  signedTransactionBase64 : Option String
  recentBlockhash : Option String
  absenceObservedAt : Option Nat
  legacyEvidence : Bool
  reconcileAfter : Nat
  createdAt : Nat
  deriving DecidableEq, Repr

def PaymentAttempt.key (a : PaymentAttempt) : SettlementKind × String := (a.settlementKind, a.quoteId)

structure AccountKey where
  wallet : String
  payTo : String
  network : String
  asset : String
  deriving DecidableEq, Repr

structure PrepaidAccount where
  key : AccountKey
  availableAtomic : Nat
  deriving DecidableEq, Repr

inductive LedgerKind
  | deposit
  | researchReservation
  | researchRelease
  | openCallReservation
  | openCallRefund
  | withdrawalReservation
  | accountDeletionWithdrawal
  deriving DecidableEq, Repr

structure LedgerEntry where
  id : String
  account : AccountKey
  kind : LedgerKind
  referenceId : String
  deltaAtomic : Int
  balanceAfterAtomic : Nat
  createdAt : Nat
  deriving DecidableEq, Repr

def LedgerEntry.reference (e : LedgerEntry) : LedgerKind × String := (e.kind, e.referenceId)

structure Database where
  queries : List String
  documents : Table Document.id
  memoryEntries : Table MemoryEntry.id
  paymentQuotes : Table PaymentQuote.id
  bundleQuotes : Table BundleQuote.id
  bundleDocuments : Table BundleDocument.key
  fundingQuotes : Table FundingQuote.id
  openCalls : Table OpenCall.id
  settlements : Table Settlement.id
  earningEvents : Table EarningEvent.id
  chainSettlements : Table ChainSettlement.quoteId
  bundleChainSettlements : Table ChainSettlement.quoteId
  openCallChainSettlements : Table ChainSettlement.quoteId
  transactionRegistry : Table RegistryEntry.transactionSignature
  paymentAttempts : Table PaymentAttempt.key
  prepaidAccounts : Table PrepaidAccount.key
  prepaidLedger : Table LedgerEntry.reference
  recoveryHolds : List Payout.RecoveryHold

def Database.ledger (db : Database) : SettlementKind → Table ChainSettlement.quoteId
  | .document => db.chainSettlements
  | .bundle => db.bundleChainSettlements
  | .openCall => db.openCallChainSettlements

def Database.setLedger (db : Database) (kind : SettlementKind) (t : Table ChainSettlement.quoteId) :
    Database :=
  match kind with
  | .document => { db with chainSettlements := t }
  | .bundle => { db with bundleChainSettlements := t }
  | .openCall => { db with openCallChainSettlements := t }

end Obulus.Funds
