import Obulus.Wallets.Sessions

namespace Obulus.Wallets

open Foundation Store Funds

variable (db : Database)

def withFunds (funds : Except StoreError Funds.Database) : Except StoreError Database := do
  let funds ← funds
  return { db with funds := funds }

section Bundles

structure BundleRequest where
  queryId : String
  handles : List String
  expectedInvoiceHash : Option String
  topUpAtomic : Option String

-- what the invoice of the documents says
structure InvoicePreview where
  totalPriceKrw : Nat
  amountAtomic : Nat
  bundleHash : String
  invoiceHash : String
  documents : List BundleDocument

-- the readers of the queries and of the documents, with what they say at the time
structure InvoiceReaders where
  access : Except StoreError Unit
  preview : Except StoreError InvoicePreview

variable (now : Nat) (request : BundleRequest) (source : FundingSource) (policy : PaymentQuotePolicy)
  (payTo : String) (invoice : InvoicePreview)

def checkBundle (ext : Externals) : Except StoreError String := do
  let handles := request.handles.map trim
  reject (handles = [] ∨ 100 < handles.length)
    (.validation "between 1 and 100 document handles are required")
  reject ("" ∈ handles ∨ ¬handles.Nodup) (.validation "document handles must be non-empty and unique")
  validatePaymentPolicy policy
  let payTo ← orReject policy.bundleRecipient
    (.conflict "multi-document payment requires OPENSHELF_BUNDLE_RECEIVER")
  reject (validSolanaAddress ext.encoding payTo = false)
    (.validation "bundle recipient must be a base58 Solana public key")
  return payTo

def touchSession (tokenHash : String) : Database :=
  { db with
    sessions := db.sessions.update (fun s => decide (s.tokenHash = tokenHash))
      (fun s => { s with lastUsedAt := some now }) (fun _ => rfl) }

def openSession (tokenHash : Option String) : Except StoreError (Database × Option String) :=
  match tokenHash with
  | none => .ok (db, none)
  | some tokenHash => do
    let session ← requirePrepaidSession db now tokenHash
    let db := withAccount (touchSession db now tokenHash) (bundleAccount session.wallet payTo policy)
    return (db, some session.wallet)

def requirePayer (payer : Option String) : Except StoreError String :=
  orReject payer (.unauthorized "prepaid wallet session is required for this funding mode")

-- the balance of a request that asks for no top-up
def prepaidOnly (payer : Option String) : Except StoreError (Option Nat) :=
  if source = .prepaid ∧ request.topUpAtomic = none then do
    let wallet ← requirePayer payer
    let available := prepaidAvailable db.funds (bundleAccount wallet payTo policy)
    let required := invoice.amountAtomic
    reject (available < required) (.conflict
      s!"prepaid USDC balance is insufficient: {available} atomic available, {required} required; top up from My Database and retry")
    return some available
  else return none

def sameTerms (q : BundleQuote) : Bool :=
  decide (q.queryId = trim request.queryId ∧ q.payTo = payTo ∧ q.network = trim policy.network ∧
    q.asset = trim policy.asset ∧ q.amountAtomic = invoice.amountAtomic ∧
    q.totalPriceKrw = invoice.totalPriceKrw ∧ q.krwPerUsdc = policy.krwPerUsdc ∧
    q.bundleHash = invoice.bundleHash)

def standing (q : BundleQuote) : Bool :=
  decide (q.status ≠ .quoted ∨ now < q.expiresAt) || fenced db.funds .bundle q.id

def existingBundle (payer : Option String) : Option BundleQuote :=
  latest BundleQuote.createdAt (db.funds.bundleQuotes.rows.filter fun q =>
    sameTerms request policy payTo invoice q && standing db now q &&
      decide (q.fundingSource = source ∧ (source = .agentDirect ∨ q.payerWallet = payer)))

def conflictingFunding : Bool :=
  db.funds.bundleQuotes.rows.any fun q =>
    sameTerms request policy payTo invoice q && standing db now q &&
      decide (q.fundingSource ≠ source ∧ q.status ≠ .balanceRefunded ∧ q.status ≠ .deleted)

-- of several quotes the newest is named; the quotes carry no date here
def activeDocumentQuote (documentHandle : String) : Option String :=
  (db.funds.paymentQuotes.rows.find? fun q =>
    decide (q.queryId = trim request.queryId ∧ q.documentHandle = documentHandle) &&
      (fenced db.funds .document q.id || decide (q.id ∈ db.payShQuoteFences) || q.paymentRail.isSome ||
        decide ((q.status = .quoted ∧ now < q.expiresAt) ∨ q.status = .delivered))).map PaymentQuote.id

def checkDocument (handle : String) : Except StoreError Unit :=
  match activeBundleReservation db.funds (trim request.queryId) handle with
  | some bundleId => .error (.conflict
      s!"document {handle} is already reserved by research bundle {bundleId}")
  | none =>
    match activeDocumentQuote db now request handle with
    | some quoteId => .error (.conflict
        s!"document {handle} already has a direct payment reservation {quoteId}")
    | none => .ok ()

def checkDocuments : List BundleDocument → Except StoreError Unit
  | [] => .ok ()
  | document :: documents => do
    checkDocument db now request document.documentHandle
    checkDocuments documents

structure BundleTerms where
  depositAtomic : Nat
  minimumDepositAtomic : Nat
  immediatelyFunded : Bool

def bundleTerms (payer : Option String) (onlyAvailable : Option Nat) :
    Except StoreError BundleTerms := do
  if source = .agentDirect then return ⟨invoice.amountAtomic, invoice.amountAtomic, false⟩
  else if onlyAvailable.isSome = true then return ⟨0, 0, true⟩
  else
    let wallet ← requirePayer payer
    let deficit := invoice.amountAtomic - prepaidAvailable db.funds (bundleAccount wallet payTo policy)
    let preferred ← orReject (parseU64 (request.topUpAtomic.getD "0"))
      (.validation "topUpAtomic must be an unsigned integer")
    let deposit := if deficit = 0 then 0 else max preferred deficit
    reject (maxPrepaidTopUpAtomic < deposit) (.validation "prepaid top-up exceeds the supported limit")
    return ⟨deposit, deficit, decide (deficit = 0)⟩

def newBundle (id : String) (payer : Option String) (terms : BundleTerms) : BundleQuote where
  id := id
  queryId := trim request.queryId
  payTo := payTo
  network := trim policy.network
  asset := trim policy.asset
  amountAtomic := invoice.amountAtomic
  totalPriceKrw := invoice.totalPriceKrw
  krwPerUsdc := policy.krwPerUsdc
  bundleHash := invoice.bundleHash
  expiresAt := saturatingAdd now policy.ttlMs
  createdAt := now
  settledAt := if terms.immediatelyFunded = true then some now else none
  deliveredAt := none
  status := if terms.immediatelyFunded = true then .funded else .quoted
  payerWallet := payer
  depositAtomic := terms.depositAtomic
  minimumDepositAtomic := terms.minimumDepositAtomic
  fundingSource := source
  failureReason := none
  refundClaimId := none
  balanceReleaseAtomic := 0

def insertBundleDocument (id : String) (db : Database) (document : BundleDocument) :
    Except StoreError Database := do
  let rows ← orReject (db.funds.bundleDocuments.insert? { document with quoteId := id })
    (.database "UNIQUE constraint failed: payment_bundle_documents")
  return { db with funds := { db.funds with bundleDocuments := rows } }

structure BundleIds where
  bundle : String
  ledger : String

def reserveBudget (ledgerId jobId : String) (payer : Option String) : Except StoreError Database := do
  let wallet ← orReject payer (.conflict "funded prepaid bundle has no payer wallet")
  withFunds db (reservePrepaidBudget db.funds (bundleAccount wallet payTo policy) ledgerId jobId
    invoice.amountAtomic now)

-- an older quote that waited for a refill is reserved from the balance
def reuseBundle (ids : BundleIds) (payer : Option String) (onlyAvailable : Option Nat)
    (existing : BundleQuote) : Except StoreError Database := do
  if onlyAvailable.isSome = true ∧ existing.status = .quoted ∧
      fenced db.funds .bundle existing.id = false then
    let db := { db with
      funds := { db.funds with
        bundleQuotes := db.funds.bundleQuotes.update
          (fun q => decide (q.id = existing.id ∧ q.status = .quoted))
          (fun q => { q with
            status := .funded
            depositAtomic := 0
            minimumDepositAtomic := 0
            settledAt := some now }) (fun _ => rfl) } }
    reserveBudget db now policy payTo invoice ids.ledger existing.id payer
  else return db

def createBundle (ids : BundleIds) (payer : Option String) (onlyAvailable : Option Nat) :
    Except StoreError Database := do
  reject (conflictingFunding db now request source policy payTo invoice = true)
    (.conflict "this research purchase is already reserved on another funding mode")
  checkDocuments db now request invoice.documents
  let terms ← bundleTerms db request source policy payTo invoice payer onlyAvailable
  let bundleQuotes ← orReject (db.funds.bundleQuotes.insert?
      (newBundle now request source policy payTo invoice ids.bundle payer terms))
    (.database "UNIQUE constraint failed: payment_bundle_quotes.id")
  let db := { db with funds := { db.funds with bundleQuotes := bundleQuotes } }
  let db ← invoice.documents.foldlM (insertBundleDocument ids.bundle) db
  if terms.immediatelyFunded = true then
    reserveBudget db now policy payTo invoice ids.ledger ids.bundle payer
  else return db

def createPaymentBundleWithFunding (ext : Externals) (readers : InvoiceReaders) (ids : BundleIds)
    (tokenHash : Option String) : Except StoreError Database := do
  let payTo ← checkBundle request policy ext
  readers.access
  let (db, payer) ← openSession db now policy payTo tokenHash
  let invoice ← readers.preview
  reject (((request.expectedInvoiceHash.map trim).filter fun hash => !hash.isEmpty).any
      (fun hash => decide (hash ≠ invoice.invoiceHash)) = true)
    (.conflict "the settlement invoice changed after it was shown; review the new invoice")
  let onlyAvailable ← prepaidOnly db request source policy payTo invoice payer
  let now ← asI64 now
  match existingBundle db now request source policy payTo invoice payer with
  | some existing => reuseBundle db now policy payTo invoice ids payer onlyAvailable existing
  | none => createBundle db now request source policy payTo invoice ids payer onlyAvailable

def createPaymentBundle (ext : Externals) (readers : InvoiceReaders) (ids : BundleIds)
    (tokenHash : String) : Except StoreError Database :=
  createPaymentBundleWithFunding db now request .prepaid policy ext readers ids (some tokenHash)

end Bundles

section Calls

structure CallIds where
  call : String
  ledger : String

def escrowRecipient (ext : Externals) (policy : PaymentQuotePolicy) : Except StoreError String :=
  orReject ((policy.bundleRecipient.map trim).filter (validSolanaAddress ext.encoding))
    (.conflict "funded open calls require a configured OPENSHELF_BUNDLE_RECEIVER")

def fundedCall (ids : CallIds) (ownerId : String) (request : OpenCallRequest) (key : AccountKey)
    (unitPriceAtomic : Nat) : OpenCall where
  id := ids.call
  ownerId := ownerId
  unitPriceKrw := request.unitPrice
  unitPriceAtomic := unitPriceAtomic
  target := request.target
  answered := 0
  status := .opened
  escrowRemainingKrw := request.unitPrice * request.target
  escrowMode := .prepaid
  escrowWallet := some key.payTo
  escrowAsset := some key.asset
  escrowNetwork := some key.network
  escrowTotalAtomic := some (unitPriceAtomic * request.target)
  escrowRemainingAtomic := some (unitPriceAtomic * request.target)
  fundingTransactionSignature := none
  payerWallet := some key.wallet

def createOpenCall (ext : Externals) (now : Nat) (ids : CallIds) (ownerId : String)
    (request : OpenCallRequest) (policy : PaymentQuotePolicy) : Except StoreError Database := do
  validateOpenCall request
  reject (u64Max < request.unitPrice * request.target) (.validation "open-call budget is too large")
  let unitPriceAtomic ← krwToAtomicPinned request.unitPrice
  let total := unitPriceAtomic * request.target
  reject (u64Max < total) (.validation "open-call budget is too large")
  reject (total = 0) (.validation "unitPrice must fund at least one USDC atomic unit")
  validatePaymentPolicy policy
  let payTo ← escrowRecipient ext policy
  let found ← userPrepaidWallet db now (trim ownerId)
  let wallet ← orReject found
    (.conflict "connect a Phantom wallet and top up USDC before funding an open call")
  let amount ← asI64 total
  let now ← asI64 now
  let key := bundleAccount wallet payTo policy
  let funds ← orReject (debitAccount db.funds key amount) (.conflict
    "prepaid USDC balance is insufficient to fund this open call; top up to continue")
  let funds ← recordLedger funds key ids.ledger .openCallReservation ids.call (-amount) now
  let openCalls ← orReject (funds.openCalls.insert? (fundedCall ids ownerId request key unitPriceAtomic))
    (.database "UNIQUE constraint failed: open_calls.id")
  return { db with funds := { funds with openCalls := openCalls } }

end Calls

section Withdrawals

structure PayoutIds where
  claim : String
  ledger : String

def insertPayoutClaim (ext : Externals) (payout : Payout) : Except StoreError Database := do
  reject (payout.amountAtomic = 0) (.validation "payout claim amount must be greater than zero")
  reject (validSolanaAddress ext.encoding payout.escrowWallet = false ∨
      validSolanaAddress ext.encoding payout.recipientWallet = false)
    (.validation "payout claim wallets must be valid Solana addresses")
  let _ ← asI64 payout.amountAtomic
  let _ ← asI64 payout.amountKrw
  let _ ← asI64 payout.createdAt
  let payouts ← orReject (db.payouts.insert? payout) (.database "UNIQUE constraint failed: payout_claims.id")
  return { db with payouts := payouts }

def requestedAmount (available : Nat) : Option String → Except StoreError Nat
  | none => .ok available
  | some text => orReject (parseU64 text) (.validation "amountAtomic must be an unsigned integer")

def createPrepaidWithdrawal (ext : Externals) (now : Nat) (ids : PayoutIds) (userId : String)
    (requestedAtomic : Option String) (policy : PaymentQuotePolicy) : Except StoreError Database := do
  validatePaymentPolicy policy
  let payTo ← orReject policy.bundleRecipient
    (.conflict "prepaid withdrawals require OPENSHELF_BUNDLE_RECEIVER")
  let userId := trim userId
  reject (activeUser db userId = false)
    (.unauthorized "sign in again before withdrawing prepaid balance")
  let found ← userPrepaidWallet db now userId
  let wallet ← orReject found (.conflict "sign in with a Phantom wallet before withdrawing")
  let key := bundleAccount wallet payTo policy
  let available := prepaidAvailable db.funds key
  let amount ← requestedAmount available requestedAtomic
  reject (amount = 0 ∨ available < amount)
    (.conflict "withdrawal must be positive and no greater than available prepaid balance")
  let db ← insertPayoutClaim db ext
    { id := ids.claim
      beneficiaryUserId := userId
      kind := "prepaid_withdrawal"
      escrowWallet := payTo
      recipientWallet := wallet
      asset := trim policy.asset
      network := trim policy.network
      amountAtomic := amount
      amountKrw := min (amount * policy.krwPerUsdc) u64Max / 1000000
      createdAt := now }
  let funds ← orReject (debitAccount db.funds key amount)
    (.conflict "prepaid balance changed before withdrawal could be reserved")
  withFunds db (recordLedger funds key ids.ledger .withdrawalReservation ids.claim (-amount) now)

end Withdrawals

section Deletion

variable (ext : Externals) (now : Nat) (userId : String)

def prepaidWallets : List String :=
  (((db.identities.rows.filter fun i =>
      decide (i.userId = userId) && !otherOwner db userId i.wallet).map Identity.wallet) ++
    (profileWallet db userId).toList ++
    ((db.sessions.rows.filter fun s =>
      decide (s.userId = userId) && !otherOwner db userId s.wallet).map Session.wallet) ++
    ((db.owners.rows.filter fun o => decide (o.userId = userId)).map Owner.wallet)).dedup

def fundedBy (wallet : String) (q : BundleQuote) : Bool :=
  decide (q.payerWallet = some wallet ∧ q.fundingSource = .prepaid)

def releaseWallet (db : Database) (wallet : String) : Except StoreError Database := do
  reject (db.funds.bundleQuotes.rows.any (fun q => fundedBy wallet q &&
      (working q.status || fenced db.funds .bundle q.id)) = true)
    (.conflict "wait for active prepaid research jobs before deleting the account")
  return dropQuotes db (fundedBy wallet) "buyer account deleted"

def callAccount (call : OpenCall) : Option AccountKey := do
  let payTo ← call.escrowWallet
  let wallet ← call.payerWallet
  let asset ← call.escrowAsset
  let network ← call.escrowNetwork
  return ⟨wallet, payTo, network, asset⟩

def refundCall (newId : String → String) (db : Database) (call : OpenCall) :
    Except StoreError Database :=
  match callAccount call with
  | none => .ok db
  | some key => do
    let amount ← asI64 (call.escrowRemainingAtomic.getD 0)
    let now ← asI64 now
    let funds ← creditAccount (ensurePrepaidAccount db.funds key) key amount
    withFunds db (recordLedger funds key (newId call.id) .openCallRefund call.id amount now)

def prepaidCalls : List OpenCall :=
  db.funds.openCalls.rows.filter fun call =>
    decide (call.ownerId = userId ∧ call.status = .opened ∧ call.escrowMode = .prepaid ∧
      0 < call.escrowRemainingAtomic.getD 0)

-- the accounts of one wallet that hold value
def fundedAccounts (wallet : String) : List PrepaidAccount :=
  db.funds.prepaidAccounts.rows.filter fun a =>
    decide (a.key.wallet = wallet ∧ 0 < a.availableAtomic)

def sweepAccount (newIds : AccountKey → PayoutIds) (db : Database) (account : PrepaidAccount) :
    Except StoreError Database := do
  let ids := newIds account.key
  let db ← insertPayoutClaim db ext
    { id := ids.claim
      beneficiaryUserId := userId
      kind := "prepaid_account_deletion_withdrawal"
      escrowWallet := account.key.payTo
      recipientWallet := account.key.wallet
      asset := account.key.asset
      network := account.key.network
      amountAtomic := account.availableAtomic
      amountKrw := 0
      createdAt := now }
  let amount ← asI64 account.availableAtomic
  let funds ← orReject (debitAccount db.funds account.key amount) (.conflict
    "prepaid balance changed during account deletion; retry after reconciliation")
  withFunds db (recordLedger funds account.key ids.ledger .accountDeletionWithdrawal ids.claim
    (-amount) now)

def sweepWallet (newIds : AccountKey → PayoutIds) (db : Database) (wallet : String) :
    Except StoreError Database :=
  (fundedAccounts db wallet).foldlM (sweepAccount ext now userId newIds) db

def onchainCalls : List OpenCall :=
  db.funds.openCalls.rows.filter fun call =>
    decide (call.ownerId = userId ∧ call.status = .opened ∧ call.escrowMode = .x402SolanaEscrow ∧
      0 < call.escrowRemainingAtomic.getD 0)

def returnEscrow (newId : String → String) (db : Database) (call : OpenCall) :
    Except StoreError Database := do
  let key ← orReject (callAccount call) (.database "InvalidColumnType")
  insertPayoutClaim db ext
    { id := newId call.id
      beneficiaryUserId := userId
      kind := "open_call_account_deletion_refund"
      escrowWallet := key.payTo
      recipientWallet := key.wallet
      asset := key.asset
      network := key.network
      amountAtomic := call.escrowRemainingAtomic.getD 0
      amountKrw := call.escrowRemainingKrw
      createdAt := now }

section Forgetting

variable (funds : Funds.Database) (anonymous : String)

def cancelCalls : Funds.Database :=
  { funds with
    openCalls := funds.openCalls.update (fun call => decide (call.ownerId = userId ∧ call.status = .opened))
      (fun call => { call with
        status := .cancelled
        escrowRemainingKrw := 0
        escrowRemainingAtomic := call.escrowRemainingAtomic.map fun _ => 0 }) (fun _ => rfl) }

def forgotten (quote : FundingQuote) : FundingQuote :=
  { quote with
    ownerId := anonymous
    request := none
    status := if quote.status = .quoted then .deleted else quote.status }

def disownCalls : Funds.Database :=
  { funds with
    fundingQuotes := funds.fundingQuotes.update (fun q => decide (q.ownerId = userId))
      (forgotten anonymous) (fun _ => rfl)
    openCalls := funds.openCalls.update (fun call => decide (call.ownerId = userId))
      (fun call => { call with ownerId := anonymous }) (fun _ => rfl) }

def writes (documentId : String) : Bool :=
  funds.documents.rows.any fun d => decide (d.id = documentId ∧ d.authorId = userId)

def withdrawWriting : Funds.Database :=
  let handles := (funds.documents.rows.filter fun d => decide (d.authorId = userId)).map Document.handle
  { funds with
    settlements := funds.settlements.update (fun _ => true)
      (fun s => { s with
        documentHandles := s.documentHandles.filter fun handle => decide (handle ∉ handles)
        payer := if s.payer = userId then anonymous else s.payer }) (fun _ => rfl)
    bundleQuotes := funds.bundleQuotes.update (fun q => decide (q.status = .quoted) &&
        funds.bundleDocuments.rows.any fun d => decide (d.quoteId = q.id ∧ d.authorId = userId))
      (fun q => { q with
        status := .deleted
        failureReason := some "seller account deleted" }) (fun _ => rfl)
    bundleDocuments := funds.bundleDocuments.delete fun d => decide (d.authorId = userId)
    paymentQuotes := funds.paymentQuotes.update (fun q => writes userId funds q.documentId)
      (fun q => { q with
        documentId := "deleted:" ++ q.id
        documentHandle := "deleted:" ++ q.id
        payTo := ""
        status := .deleted }) (fun _ => rfl)
    earningEvents := funds.earningEvents.update (fun e => decide (e.authorId = userId))
      (fun e => { e with
        memoryId := none
        documentId := none
        authorId := anonymous
        recipientWallet := none }) (fun _ => rfl)
    documents := funds.documents.delete fun d => decide (d.authorId = userId) }

end Forgetting

-- ON DELETE CASCADE of the user row
def removeUser : Database :=
  { db with
    users := db.users.delete fun u => decide (u.id = userId)
    identities := db.identities.delete fun i => decide (i.userId = userId)
    profiles := db.profiles.delete fun p => decide (p.userId = userId)
    owners := db.owners.delete fun o => decide (o.userId = userId)
    sessions := db.sessions.delete fun s => decide (s.userId = userId)
    challenges := db.challenges.delete fun c => decide (c.userId = userId)
    siwxChallenges := db.siwxChallenges.delete fun c => decide (c.userId = userId) }

structure DeletionIds where
  refund : String → String
  sweep : AccountKey → PayoutIds
  escrow : String → String
  anonymous : String

-- `others` is what the checks of the tables outside this state say; the memories of this state carry no
-- user, so theirs stay
def deleteAccount (others : Except StoreError Unit) (ids : DeletionIds) :
    Except StoreError Database := do
  reject (activeUser db userId = false) (.notFound "user")
  let wallets := prepaidWallets db userId
  let db ← wallets.foldlM releaseWallet db
  others
  let db ← (prepaidCalls db userId).foldlM (refundCall now ids.refund) db
  let db ← wallets.foldlM (sweepWallet ext now userId ids.sweep) db
  let db ← (onchainCalls db userId).foldlM (returnEscrow ext now userId ids.escrow) db
  let funds := disownCalls userId (cancelCalls userId db.funds) ids.anonymous
  return removeUser { db with funds := withdrawWriting userId funds ids.anonymous } userId

end Deletion

end Obulus.Wallets
