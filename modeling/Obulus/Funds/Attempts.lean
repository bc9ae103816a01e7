import Obulus.Funds.Pricing

namespace Obulus.Funds

open Foundation Store

def paymentAttemptReconcileAfterMs : Nat := 60 * 1000
def paymentAttemptRetryAfterMs : Nat := 5 * 60 * 1000

structure Externals where
  encoding : Encoding
  hexDigest : String → String

structure ClaimPaymentAttemptRequest where
  settlementKind : String
  quoteId : String
  attemptId : String
  payer : Option String
  signedTransactionBase64 : Option String
  recentBlockhash : Option String
  absenceObserved : Bool
  deriving DecidableEq, Repr

structure PaymentAttemptFence where
  settlementKind : SettlementKind
  quoteId : String
  attemptId : String
  reconcileAfter : Nat
  deriving DecidableEq, Repr

def validateAttemptId (attemptId : String) : Except StoreError Unit :=
  reject (attemptId.utf8ByteSize ≠ 64 ∨ attemptId.toList.all (fun c =>
      (48 ≤ c.toNat && c.toNat ≤ 57) || (97 ≤ c.toNat && c.toNat ≤ 102)) = false)
    (.validation "attemptId must be a SHA-256 hex digest")

def validatePaymentAttemptIdentity (request : ClaimPaymentAttemptRequest) :
    Except StoreError SettlementKind := do
  let kind ← orReject (SettlementKind.parse? request.settlementKind)
    (.validation "settlementKind must be document, bundle, or open_call")
  reject ((trim request.quoteId).isEmpty = true ∨ 160 < request.quoteId.utf8ByteSize)
    (.validation "quoteId must be between 1 and 160 characters")
  validateAttemptId request.attemptId
  return kind

section Validation

variable (ext : Externals)

structure ChainEvidence where
  payer : String
  signedTransaction : String
  recentBlockhash : String

def chainEvidence (request : ClaimPaymentAttemptRequest) : Except StoreError ChainEvidence :=
  match request.payer, request.signedTransactionBase64, request.recentBlockhash with
  | none, none, none =>
    .error (.validation "new payment attempts require exact x402 chain evidence")
  | some payer, some signedTransaction, some recentBlockhash =>
    .ok ⟨payer, signedTransaction, recentBlockhash⟩
  | _, _, _ => .error (.validation "payment attempt chain evidence must be complete")

def validatePaymentAttemptRequest (request : ClaimPaymentAttemptRequest) :
    Except StoreError SettlementKind := do
  let kind ← validatePaymentAttemptIdentity request
  let evidence ← chainEvidence request
  reject (validSolanaAddress ext.encoding evidence.payer = false ∨
      validSolanaAddress ext.encoding evidence.recentBlockhash = false ∨
      trim evidence.signedTransaction ≠ evidence.signedTransaction)
    (.validation "payment attempt chain evidence is invalid")
  let transaction ← orReject (ext.encoding.base64Decode evidence.signedTransaction)
    (.validation "payment attempt transaction must be canonical base64")
  reject (transaction.length < 100 ∨ 2048 < transaction.length ∨
      ext.hexDigest evidence.signedTransaction ≠ request.attemptId ∨
      validX402PreparedTransaction transaction = false)
    (.validation "payment attempt transaction is not the exact partially signed x402 payload or does not match its attempt id")
  return kind

end Validation

section Accepted

variable {ext : Externals} {claim : ClaimPaymentAttemptRequest} {kind : SettlementKind}
  {payer signedTransaction recentBlockhash : String} {bytes : Bytes}

theorem validatePaymentAttemptRequest_ok (hidentity : validatePaymentAttemptIdentity claim = .ok kind)
    (hevidence : chainEvidence claim = .ok ⟨payer, signedTransaction, recentBlockhash⟩)
    (hpayer : validSolanaAddress ext.encoding payer = true)
    (hblockhash : validSolanaAddress ext.encoding recentBlockhash = true)
    (htrim : trim signedTransaction = signedTransaction)
    (hread : ext.encoding.base64Decode signedTransaction = some bytes)
    (hsize : 100 ≤ bytes.length ∧ bytes.length ≤ 2048)
    (hdigest : ext.hexDigest signedTransaction = claim.attemptId)
    (hprepared : validX402PreparedTransaction bytes = true) :
    validatePaymentAttemptRequest ext claim = .ok kind := by
  simp only [validatePaymentAttemptRequest, hidentity, hevidence, ok_bind, bind_eq_ok, orReject_eq_ok,
    reject_eq_ok, exists_const]
  refine ⟨?_, bytes, hread, ?_, rfl⟩
  · simp [hpayer, hblockhash, htrim]
  · rw [hdigest, hprepared, not_or, not_lt, not_or, not_lt]
    exact ⟨hsize.1, hsize.2, by simp⟩

end Accepted

section Claim

variable (db : Database)

def Database.rollbackRecoveryBlocked : Bool :=
  db.recoveryHolds.any fun hold => hold.resolvedAt.isNone

def requireNoRollbackRecoveryHolds : Except StoreError Unit :=
  reject (db.rollbackRecoveryBlocked = true) (.conflict
    "rollback recovery is holding new external side effects until receipt reconciliation")

def latest {α : Type} (createdAt : α → Nat) : List α → Option α
  | [] => none
  | a :: rest =>
    match latest createdAt rest with
    | none => some a
    | some b => if createdAt b ≤ createdAt a then some a else some b

def fenced (kind : SettlementKind) (quoteId : String) : Bool :=
  (db.paymentAttempts.get? (kind, quoteId)).isSome

def reservesDocument (queryId documentHandle : String) (quote : BundleQuote) : Bool :=
  decide (quote.queryId = queryId) &&
    (db.bundleDocuments.rows.any fun d =>
      decide (d.quoteId = quote.id ∧ d.documentHandle = documentHandle)) &&
    (fenced db .bundle quote.id ||
      decide (quote.status ≠ .balanceRefunded ∧ quote.status ≠ .deleted))

def activeBundleReservation (queryId documentHandle : String) : Option String :=
  (latest BundleQuote.createdAt
    (db.bundleQuotes.rows.filter (reservesDocument db queryId documentHandle))).map BundleQuote.id

def matchingChainPaymentAttempt (kind : SettlementKind) (request : ClaimPaymentAttemptRequest) :
    Except StoreError (Option PaymentAttemptFence) :=
  match db.paymentAttempts.get? (kind, trim request.quoteId) with
  | none => .ok none
  | some attempt =>
    if attempt.attemptId ≠ request.attemptId ∨ attempt.payerWallet ≠ request.payer ∨
        attempt.signedTransactionBase64 ≠ request.signedTransactionBase64 ∨
        attempt.recentBlockhash ≠ request.recentBlockhash then
      .error (.conflict
        "this payment resource already has a different verified payment in progress")
    else .ok (some ⟨kind, trim request.quoteId, attempt.attemptId, attempt.reconcileAfter⟩)

structure PayableQuote where
  quoted : Bool
  expiresAt : Nat
  -- the query, the document handle and the rail of a document quote
  purchase : Option (String × String × Option PaymentRail)

def payableQuote (kind : SettlementKind) (quoteId : String) : Except StoreError PayableQuote :=
  match kind with
  | .document => do
    let quote ← orReject (db.paymentQuotes.get? quoteId) (.notFound "payment quote")
    reject (quote.queryId ∉ db.queries) (.database "Query returned no rows")
    return ⟨quote.status = .quoted, quote.expiresAt,
      some (quote.queryId, quote.documentHandle, quote.paymentRail)⟩
  | .bundle => do
    let quote ← orReject (db.bundleQuotes.get? quoteId) (.notFound "payment bundle quote")
    return ⟨quote.status = .quoted, quote.expiresAt, none⟩
  | .openCall => do
    let quote ← orReject (db.fundingQuotes.get? quoteId) (.notFound "open-call funding quote")
    return ⟨quote.status = .quoted, quote.expiresAt, none⟩

def requireUnreservedDocument : Option (String × String × Option PaymentRail) →
    Except StoreError Unit
  | none => .ok ()
  | some (queryId, documentHandle, rail) => do
    reject (rail ≠ some .x402) (.conflict "this document quote is not reserved for x402 payment")
    match activeBundleReservation db queryId documentHandle with
    | none => .ok ()
    | some bundleId => .error (.conflict
        s!"this document purchase is reserved by research bundle {bundleId}")

-- the exact-evidence trigger, then PRIMARY KEY (settlement_kind, quote_id) and UNIQUE (attempt_id);
-- `none` when INSERT OR IGNORE skips the row
def insertAttempt (attempt : PaymentAttempt) :
    Except StoreError (Option (Table PaymentAttempt.key)) := do
  reject (attempt.legacyEvidence = true ∨ attempt.payerWallet.getD "" = "" ∨
      attempt.signedTransactionBase64.getD "" = "" ∨ attempt.recentBlockhash.getD "" = "")
    (.database "new chain attempt requires exact evidence")
  return if db.paymentAttempts.rows.any (fun a => a.attemptId = attempt.attemptId) then none
    else db.paymentAttempts.insert? attempt

def openAttempt (now : Nat) (kind : SettlementKind) (request : ClaimPaymentAttemptRequest)
    (quote : PayableQuote) : Except StoreError (Database × PaymentAttemptFence) := do
  let reconcileAfter := saturatingAdd now paymentAttemptReconcileAfterMs
  requireUnreservedDocument db quote.purchase
  reject (quote.quoted = false) (.conflict "this payment resource is no longer payable")
  reject (quote.expiresAt ≤ now) (.conflict "this payment quote expired before settlement began")
  requireNoRollbackRecoveryHolds db
  let _ ← asI64 reconcileAfter
  let _ ← asI64 now
  let attempt : PaymentAttempt :=
    { settlementKind := kind
      quoteId := trim request.quoteId
      attemptId := request.attemptId
      payerWallet := request.payer
      signedTransactionBase64 := request.signedTransactionBase64
      recentBlockhash := request.recentBlockhash
      absenceObservedAt := none
      legacyEvidence := false
      reconcileAfter := reconcileAfter
      createdAt := now }
  let inserted ← insertAttempt db attempt
  let attempts ← orReject inserted
    (.conflict "this payment resource already has a verified payment in progress")
  return ({ db with paymentAttempts := attempts },
    ⟨kind, trim request.quoteId, request.attemptId, reconcileAfter⟩)

def claimOrMatch (now : Nat) (kind : SettlementKind) (request : ClaimPaymentAttemptRequest)
    (quote : PayableQuote) :
    Option PaymentAttemptFence → Except StoreError (Database × PaymentAttemptFence)
  | some existing => .ok (db, existing)
  | none => openAttempt db now kind request quote

def claimPaymentAttempt (ext : Externals) (now : Nat) (request : ClaimPaymentAttemptRequest) :
    Except StoreError (Database × PaymentAttemptFence) := do
  let kind ← validatePaymentAttemptRequest ext request
  let quote ← payableQuote db kind (trim request.quoteId)
  let existing ← matchingChainPaymentAttempt db kind request
  claimOrMatch db now kind request quote existing

end Claim

section Release

variable (db : Database)

def dropAttempts (p : PaymentAttempt → Bool) : Database :=
  { db with paymentAttempts := db.paymentAttempts.delete p }

def isAttempt (kind : SettlementKind) (request : ClaimPaymentAttemptRequest) (a : PaymentAttempt) :
    Bool :=
  decide (a.settlementKind = kind ∧ a.quoteId = trim request.quoteId ∧
    a.attemptId = request.attemptId)

def releasePaymentAttempt (request : ClaimPaymentAttemptRequest) :
    Except StoreError (Database × Bool) := do
  let kind ← validatePaymentAttemptIdentity request
  return (dropAttempts db (isAttempt kind request),
    db.paymentAttempts.rows.any (isAttempt kind request))

def observeAbsence (observed : Bool) (now : Nat) (a : PaymentAttempt) : Option Nat :=
  if observed then a.absenceObservedAt <|> some now else a.absenceObservedAt

def reschedule (reconcileAfter : Nat) (observed : Bool) (now : Nat) (a : PaymentAttempt) :
    PaymentAttempt :=
  { a with reconcileAfter := reconcileAfter, absenceObservedAt := observeAbsence observed now a }

theorem reschedule_key (reconcileAfter : Nat) (observed : Bool) (now : Nat) (a : PaymentAttempt) :
    (reschedule reconcileAfter observed now a).key = a.key := rfl

def deferPaymentAttemptReconciliation (now : Nat) (request : ClaimPaymentAttemptRequest) :
    Except StoreError (Database × PaymentAttemptFence) := do
  let kind ← validatePaymentAttemptIdentity request
  let reconcileAfter ← asI64 (saturatingAdd now paymentAttemptRetryAfterMs)
  let now ← asI64 now
  reject ((db.paymentAttempts.rows.filter (isAttempt kind request)).length ≠ 1)
    (.notFound "payment attempt")
  return ({ db with
      paymentAttempts := db.paymentAttempts.update (isAttempt kind request)
        (reschedule reconcileAfter request.absenceObserved now)
        (reschedule_key reconcileAfter request.absenceObserved now) },
    ⟨kind, trim request.quoteId, request.attemptId, reconcileAfter⟩)

def absenceConfirmed (now : Nat) (a : PaymentAttempt) : Bool :=
  a.absenceObservedAt.any fun observed =>
    decide (a.createdAt ≤ observed ∧ observed ≤ now ∧ observed + paymentAttemptRetryAfterMs ≤ now)

def releaseReconciledPaymentAttempt (now : Nat) (request : ClaimPaymentAttemptRequest) :
    Except StoreError (Database × Bool) := do
  let kind ← validatePaymentAttemptIdentity request
  let now ← asI64 now
  let absent := fun a => isAttempt kind request a && absenceConfirmed now a
  reject (db.paymentAttempts.rows.any absent = false)
    (.conflict "payment attempt needs two separated absence proofs before release")
  return (dropAttempts db absent, true)

end Release

end Obulus.Funds
