import Obulus.Research.Attempts

namespace Obulus.Research

open Foundation Store ReadCommitted

structure BeginRequest where
  jobId : String
  quoteId : String
  attemptId : String
  deriving DecidableEq, Repr

def BeginRequest.trimmed (request : BeginRequest) : BeginRequest :=
  ⟨trim request.jobId, trim request.quoteId, trim request.attemptId⟩

inductive BeginPlace
  | start
  | queryId
  | lockQuery (queryId : String)
  | lockJob
  | replay
  | payable
  | competing
  | insert
  | update
  | commit
  | report (reading : Reading)

namespace Begin

variable (request : BeginRequest) (input : Input) (db : Database)

def check : Except StoreError Unit := do
  reject (request.jobId = "" ∨ request.quoteId = "")
    (.validation "research job and quote ids are required")
  validateResearchAttemptId request.attemptId

def consider (job : Job) : Except StoreError (Statement JobStatus BeginPlace) :=
  if job.status = .paymentInProgress ∧ job.paymentAttemptQuoteId = some request.quoteId ∧
      job.paymentAttemptId = some request.attemptId then
    return locking [.job request.jobId] .replay
  else do
    reject (job.status ≠ .processing)
      (.conflict s!"research payment cannot begin from status {job.status.text}")
    return locking [.job request.jobId] .payable

def ownsAttempt : Bool :=
  (db.paymentAttempts.get? request.attemptId).any fun a =>
    decide (a.jobId = request.jobId ∧ a.quoteId = request.quoteId) && isActive a.status

def isPayable : Bool :=
  (db.paymentQuotes.get? request.quoteId).any fun q =>
    decide (q.status = .quoted ∧ q.paymentRail = some .paySh ∧ input.now < q.expiresAt) &&
      db.bundleDocuments.rows.any fun d =>
        decide (d.quoteId = request.jobId ∧ d.payShQuoteId = some request.quoteId)

def attempt : PaymentAttempt where
  attemptId := request.attemptId
  jobId := request.jobId
  quoteId := request.quoteId
  status := .claimed
  challengeId := none
  externalId := none
  payerWallet := none
  platformRecipientWallet := none
  signedTransactionBase64 := none
  recentBlockhash := none
  challengeExpiresAt := none
  transactionSignature := none
  createdAt := input.now
  preparedAt := none
  completedAt := none
  reconcileAfter := saturatingAdd input.now researchPaymentPrepareDeadlineMs
  absenceObservedAt := none
  failureReason := none

def inProgress (job : Job) : Job :=
  { job with
    status := .paymentInProgress
    paymentAttemptQuoteId := some request.quoteId
    paymentAttemptId := some request.attemptId
    failureReason := none }

def run : BeginPlace → Statement JobStatus BeginPlace
  | .start => statement do
    check request
    return .next [] [] .queryId
  | .queryId => statement do
    let job ← orReject (db.bundleQuotes.get? request.jobId) (.notFound "research job")
    return .next [] [] (.lockQuery job.queryId)
  | .lockQuery queryId => statement do
    reject (queryId ∉ db.queries) noRows
    return locking [.query queryId] .lockJob
  | .lockJob => statement do
    let job ← orReject (db.bundleQuotes.get? request.jobId) (.notFound "research job")
    consider request job
  | .replay => statement do
    reject (ownsAttempt request db = false)
      (.conflict "research job fence has no matching durable payment attempt")
    return .next [] [] .commit
  | .payable => statement do
    reject (isPayable request input db = false)
      (.conflict "research payment quote is not pending for this job")
    return .next [] [] .competing
  | .competing => statement do
    reject ((db.quoteFences.get? request.quoteId).isSome = true)
      (.conflict "another Pay.sh credential already owns this quote")
    return .next [] [] .insert
  | .insert => statement do
    let _ ← asI64 (attempt request input).reconcileAfter
    let changes ← insertAttempt db (attempt request input)
    return writing changes .update
  | .update => statement do
    let job ← orReject ((db.bundleQuotes.get? request.jobId).filter fun job =>
      job.status = .processing ∧ job.paymentAttemptQuoteId = none ∧ job.paymentAttemptId = none)
      (.conflict "another research payment attempt already owns this job")
    return writing [.job (inProgress request job)] .commit
  | .commit => .commit (.report .job)
  | .report reading => report request.jobId .report db reading

end Begin

structure PrepareRequest where
  jobId : String
  attemptId : String
  quoteId : String
  payer : String
  challengeId : String
  externalId : String
  challengeExpiresAt : Nat
  signedTransactionBase64 : String
  recentBlockhash : String
  platformRecipientWallet : String
  deriving DecidableEq, Repr

def PrepareRequest.trimmed (r : PrepareRequest) : PrepareRequest where
  jobId := trim r.jobId
  attemptId := trim r.attemptId
  quoteId := trim r.quoteId
  payer := trim r.payer
  challengeId := trim r.challengeId
  externalId := trim r.externalId
  challengeExpiresAt := r.challengeExpiresAt
  signedTransactionBase64 := trim r.signedTransactionBase64
  recentBlockhash := trim r.recentBlockhash
  platformRecipientWallet := trim r.platformRecipientWallet

inductive PreparePlace
  | start
  | lockAttempt
  | binding (current : PaymentAttempt)
  | owner
  | holds
  | update
  | commit
  | read

namespace Prepare

variable (env : Environment) (request : PrepareRequest) (input : Input) (db : Database)

def check : Except StoreError Unit := do
  validateResearchAttemptId request.attemptId
  reject (request.quoteId = "" ∨ request.challengeId = "" ∨ 256 < request.challengeId.utf8ByteSize ∨
    request.externalId = "" ∨ 566 < request.externalId.utf8ByteSize ∨
    validSolanaAddress env.encoding request.payer = false ∨
    validSolanaAddress env.encoding request.recentBlockhash = false ∨
    validSolanaAddress env.encoding request.platformRecipientWallet = false)
    (.validation "research payment preparation metadata is invalid")
  let transaction ← orReject (env.encoding.base64Decode request.signedTransactionBase64)
    (.validation "research payment transaction must be valid base64")
  reject (transaction.length < 100 ∨ 2048 < transaction.length)
    (.validation "research payment transaction has an invalid size")
  reject (request.challengeExpiresAt ≤ input.now ∨
    saturatingAdd input.now (15 * 60 * 1000) < request.challengeExpiresAt)
    (.validation "research payment challenge expiry is invalid")

def transactionSignature : Option String :=
  (env.encoding.base64Decode request.signedTransactionBase64).bind
    (fullySignedSolanaTransactionSignature env.encoding)

def isReplay (current : PaymentAttempt) : Bool :=
  decide (current.status = .prepared ∧ current.challengeId = some request.challengeId ∧
    current.externalId = some request.externalId ∧
    current.signedTransactionBase64 = some request.signedTransactionBase64 ∧
    current.recentBlockhash = some request.recentBlockhash ∧
    current.challengeExpiresAt = some (request.challengeExpiresAt : Int) ∧
    current.payerWallet = some request.payer ∧
    current.platformRecipientWallet = some request.platformRecipientWallet)

def consider (current : PaymentAttempt) :
    Except StoreError (Statement PaymentReconciliation PreparePlace) :=
  if isReplay request current then return .next [] [] .commit
  else do
    reject (current.status ≠ .claimed)
      (.conflict s!"research payment cannot be prepared from status {attemptStatusText current.status}")
    return .next [] [] .owner

def ownsJob : Bool :=
  (db.bundleQuotes.get? request.jobId).any fun job => decide (job.status = .paymentInProgress ∧
    job.paymentAttemptQuoteId = some request.quoteId ∧ job.paymentAttemptId = some request.attemptId)

def prepared (current : PaymentAttempt) : PaymentAttempt :=
  { current with
    status := .prepared
    challengeId := some request.challengeId
    externalId := some request.externalId
    payerWallet := some request.payer
    signedTransactionBase64 := some request.signedTransactionBase64
    recentBlockhash := some request.recentBlockhash
    challengeExpiresAt := some (request.challengeExpiresAt : Int)
    platformRecipientWallet := some request.platformRecipientWallet
    preparedAt := some (input.now : Int)
    reconcileAfter := saturatingAdd input.now paymentAttemptReconcileAfterMs
    transactionSignature := transactionSignature env request }

def assigned : List Guards.Column :=
  [.status, .challengeId, .externalId, .payerWallet, .signedTransactionBase64, .recentBlockhash,
    .challengeExpiresAt, .platformRecipientWallet, .preparedAt, .reconcileAfter,
    .transactionSignature]

def run : PreparePlace → Statement PaymentReconciliation PreparePlace
  | .start => statement do
    check env request input
    return .next [] [] .lockAttempt
  | .lockAttempt => statement do
    let current ← orReject (db.paymentAttempts.get? request.attemptId)
      (.notFound "research payment attempt")
    reject (current.jobId ≠ request.jobId ∨ current.quoteId ≠ request.quoteId)
      (.conflict "research payment preparation does not match its fenced job and quote")
    return locking [.attempt request.attemptId] (.binding current)
  | .binding current => statement do
    let _ ← asI64 request.challengeExpiresAt
    reject (isBound db (some request.challengeId) (some request.externalId)
      (some (request.challengeExpiresAt : Int)) request.quoteId .research request.attemptId = false)
      (.conflict "Pay.sh credential challenge was not issued for this quote")
    consider request current
  | .owner => statement do
    reject (ownsJob request db = false)
      (.conflict "research payment attempt no longer owns the job")
    return .next [] [] .holds
  | .holds => statement do
    reject (db.holdsUnresolved = true) (.conflict
      "rollback recovery is holding new external side effects until receipt reconciliation")
    return .next [] [] .update
  | .update =>
    match (db.paymentAttempts.get? request.attemptId).filter fun a => a.status = .claimed with
    | none => .next [] [] .commit
    | some current => statement do
      let _ ← asI64 (saturatingAdd input.now paymentAttemptReconcileAfterMs)
      let changes ← updateAttempt db assigned current (prepared env request input current)
      return writing changes .commit
  | .commit => .commit .read
  | .read => .finish (researchPaymentAttempt db request.attemptId)

end Prepare

end Obulus.Research
