import Obulus.Foundation.Trace
import Obulus.Research.Payment

namespace Obulus.Research

open Foundation Store

def researchPaymentRetryAfterMs : Nat := 5 * 60 * 1000
def researchPaymentAbsenceConfirmationMs : Nat := 2 * 60 * 1000
def recoveryScheduleClockSkewMs : Nat := 60 * 1000

def runChanges (changes : List Change) (db : Database) : Database := changes.foldl Change.run db

structure ReleaseRequest where
  jobId : String
  attemptId : String
  expectedStatus : String
  reason : String
  deriving DecidableEq, Repr

-- the operations one at a time, each up to its commit; the status read afterwards changes nothing
namespace Sequential

variable (env : Environment) (db : Database) (now later : Nat)

section Begin

variable (request : BeginRequest)

def startAttempt : Except StoreError Database := do
  reject (Begin.isPayable request ⟨now, ""⟩ db = false)
    (.conflict "research payment quote is not pending for this job")
  reject ((db.quoteFences.get? request.quoteId).isSome = true)
    (.conflict "another Pay.sh credential already owns this quote")
  let _ ← asI64 (Begin.attempt request ⟨now, ""⟩).reconcileAfter
  let changes ← insertAttempt db (Begin.attempt request ⟨now, ""⟩)
  let job ← orReject (((runChanges changes db).bundleQuotes.get? request.jobId).filter fun job =>
    job.status = .processing ∧ job.paymentAttemptQuoteId = none ∧ job.paymentAttemptId = none)
    (.conflict "another research payment attempt already owns this job")
  return runChanges [.job (Begin.inProgress request job)] (runChanges changes db)

def beginFrom (job : Job) : Except StoreError Database :=
  if job.status = .paymentInProgress ∧ job.paymentAttemptQuoteId = some request.quoteId ∧
      job.paymentAttemptId = some request.attemptId then do
    reject (Begin.ownsAttempt request db = false)
      (.conflict "research job fence has no matching durable payment attempt")
    return db
  else do
    reject (job.status ≠ .processing)
      (.conflict s!"research payment cannot begin from status {job.status.text}")
    startAttempt db now request

def begin : Except StoreError Database := do
  Begin.check request
  let job ← orReject (db.bundleQuotes.get? request.jobId) (.notFound "research job")
  reject (job.queryId ∉ db.queries) noRows
  beginFrom db now request job

end Begin

section Prepare

variable (request : PrepareRequest)

def prepareFrom (current : PaymentAttempt) : Except StoreError Database :=
  if Prepare.isReplay request current then return db
  else do
    reject (current.status ≠ .claimed)
      (.conflict s!"research payment cannot be prepared from status {attemptStatusText current.status}")
    reject (Prepare.ownsJob request db = false)
      (.conflict "research payment attempt no longer owns the job")
    reject (db.holdsUnresolved = true) (.conflict
      "rollback recovery is holding new external side effects until receipt reconciliation")
    let _ ← asI64 (saturatingAdd now paymentAttemptReconcileAfterMs)
    let changes ← updateAttempt db Prepare.assigned current
      (Prepare.prepared env request ⟨now, ""⟩ current)
    return runChanges changes db

def prepare : Except StoreError Database := do
  Prepare.check env request ⟨now, ""⟩
  let current ← orReject (db.paymentAttempts.get? request.attemptId)
    (.notFound "research payment attempt")
  reject (current.jobId ≠ request.jobId ∨ current.quoteId ≠ request.quoteId)
    (.conflict "research payment preparation does not match its fenced job and quote")
  let _ ← asI64 request.challengeExpiresAt
  reject (isBound db (some request.challengeId) (some request.externalId)
    (some (request.challengeExpiresAt : Int)) request.quoteId .research request.attemptId = false)
    (.conflict "Pay.sh credential challenge was not issued for this quote")
  prepareFrom env db now request current

end Prepare

section Defer

variable (jobId attemptId : String) (absenceObserved : Bool)

def deferred (reconcileAfter observedAt : Nat) (current : PaymentAttempt) : PaymentAttempt :=
  { current with
    reconcileAfter := reconcileAfter
    absenceObservedAt :=
      if absenceObserved then some (current.absenceObservedAt.getD observedAt)
      else current.absenceObservedAt }

def defer : Except StoreError Database := do
  validateResearchAttemptId (trim attemptId)
  let reconcileAfter ← asI64 (saturatingAdd now researchPaymentRetryAfterMs)
  let observedAt ← asI64 later
  let current ← orReject ((db.paymentAttempts.get? (trim attemptId)).filter fun a =>
    decide (a.jobId = trim jobId) && isActive a.status)
    (.conflict "research payment attempt is no longer reconcilable")
  let changes ← updateAttempt db [.reconcileAfter, .absenceObservedAt] current
    (deferred absenceObserved reconcileAfter observedAt current)
  return runChanges changes db

end Defer

section Hold

variable (jobId reason : String)

def ownsActiveAttempt (quoteId attemptId : String) : Bool :=
  (db.paymentAttempts.get? attemptId).any fun a =>
    decide (a.jobId = jobId ∧ a.quoteId = quoteId) && isActive a.status

def heldAttempt (current : PaymentAttempt) : PaymentAttempt :=
  { current with
    status := .ambiguous
    failureReason := some reason
    reconcileAfter := min current.reconcileAfter now }

-- the UPDATE of a prepared attempt of the job
def holdAttempt (attemptId : String) (p : PaymentAttempt → Bool) : Except StoreError Database :=
  match (db.paymentAttempts.get? attemptId).filter fun a =>
      decide (a.jobId = jobId ∧ a.status = .prepared) && p a with
  | none => .ok db
  | some current => do
    let changes ← updateAttempt db [.status, .failureReason, .reconcileAfter] current
      (heldAttempt now reason current)
    return runChanges changes db

def holdAgain (job : Job) : Except StoreError Database := do
  let owner ← orReject (job.paymentAttemptQuoteId.bind fun quoteId =>
      job.paymentAttemptId.bind fun attemptId =>
        if ownsActiveAttempt db jobId quoteId attemptId then some attemptId else none)
    (.conflict "research reconciliation state has no matching durable payment attempt")
  let now ← asI64 now
  holdAttempt db now jobId reason owner fun _ => true

def holdInProgress (job : Job) : Except StoreError Database := do
  let quoteId ← orReject job.paymentAttemptQuoteId
    (.conflict "research payment state has no durable attempt owner")
  let attemptId ← orReject job.paymentAttemptId
    (.conflict "research payment state has no durable attempt owner")
  reject (ownsActiveAttempt db jobId quoteId attemptId = false)
    (.conflict "research payment state has no matching durable attempt")
  let held := runChanges
    [.job { job with status := .paymentReconciliation, failureReason := some reason }] db
  let now ← asI64 now
  holdAttempt held now jobId reason attemptId fun a => a.quoteId = quoteId

def holdFrom (job : Job) : Except StoreError Database :=
  if job.status = .paymentReconciliation then holdAgain db now jobId reason job
  else if job.status = .funded ∨ job.status = .processing then
    .ok (runChanges [.job { job with failureReason := some reason }] db)
  else do
    reject (job.status ≠ .paymentInProgress)
      (.conflict s!"research job cannot be held from status {job.status.text}")
    holdInProgress db now jobId reason job

def hold (jobId error : String) : Except StoreError Database := do
  reject (trim error = "" ∨ 1000 < (trim error).utf8ByteSize)
    (.validation "research job error must be between 1 and 1000 characters")
  let job ← orReject (db.bundleQuotes.get? (trim jobId)) (.notFound "research job")
  holdFrom db now (trim jobId) (trim error) job

end Hold

section Release

def hasPreparedEvidence (a : PaymentAttempt) : Bool :=
  decide (a.challengeId ≠ none ∨ a.externalId ≠ none ∨ a.payerWallet ≠ none ∨
    a.platformRecipientWallet ≠ none ∨ a.signedTransactionBase64 ≠ none ∨ a.recentBlockhash ≠ none ∨
    a.challengeExpiresAt ≠ none ∨ a.transactionSignature ≠ none ∨ a.preparedAt ≠ none)

def checkAbsence (a : PaymentAttempt) : Except StoreError Unit := do
  let observedAt ← orReject a.absenceObservedAt
    (.conflict "research payment release requires a prior finalized absence observation")
  reject ((observedAt : Int) < a.preparedAt.getD a.createdAt ∨ now < observedAt) (.conflict
    "research payment absence observation is outside the prepared transaction lifetime")
  reject (now < saturatingAdd observedAt researchPaymentAbsenceConfirmationMs) (.conflict
    "research payment absence must be confirmed in a later reconciliation pass")

def checkRelease (expectedStatus : String) (a : PaymentAttempt) : Except StoreError Unit := do
  -- as_u64 of COALESCE(prepared_at, created_at)
  reject (a.preparedAt.getD a.createdAt < 0) (.database "out of range integral type conversion attempted")
  reject (attemptStatusText a.status ≠ expectedStatus) (.conflict
    s!"research payment release expected {expectedStatus} but found {attemptStatusText a.status}")
  reject (expectedStatus = "claimed" ∧ hasPreparedEvidence a = true) (.conflict
    "claimed research payment contains prepared evidence and cannot be released")
  if expectedStatus = "claimed" then return () else checkAbsence now a

def isReserved (status : BundleStatus) : Bool :=
  status ∈ [.paymentInProgress, .paymentReconciliation]

def released (reason : String) (a : PaymentAttempt) : PaymentAttempt :=
  { a with status := .released, failureReason := some reason, completedAt := some (later : Int) }

def releaseJob (job : Job) : Job :=
  { job with
    status := .processing
    paymentAttemptQuoteId := none
    paymentAttemptId := none
    failureReason := none }

def releaseFrom (expectedStatus reason : String) (a : PaymentAttempt) : Except StoreError Database := do
  checkRelease now expectedStatus a
  let job ← orReject ((db.bundleQuotes.get? a.jobId).filter fun job =>
    decide (job.paymentAttemptQuoteId = some a.quoteId ∧ job.paymentAttemptId = some a.attemptId) &&
      isReserved job.status)
    (.conflict "research payment attempt no longer owns the job")
  let freed := runChanges [.job (releaseJob job)] db
  let later ← asI64 later
  let changes ← updateAttempt freed [.status, .failureReason, .completedAt] a (released later reason a)
  return runChanges changes freed

def release (request : ReleaseRequest) : Except StoreError Database := do
  let attemptId := trim request.attemptId
  let expectedStatus := trim request.expectedStatus
  let reason := trim request.reason
  validateResearchAttemptId attemptId
  reject (expectedStatus ∉ ["claimed", "prepared", "ambiguous"])
    (.validation "research payment release status is invalid")
  reject (reason = "" ∨ 1000 < reason.utf8ByteSize)
    (.validation "research payment release reason must be between 1 and 1000 characters")
  let a ← orReject ((db.paymentAttempts.get? attemptId).filter fun a => a.jobId = trim request.jobId)
    (.notFound "research payment attempt")
  releaseFrom db now later expectedStatus reason a

end Release

end Sequential

section Runs

inductive Operation
  | begin (request : BeginRequest)
  | defer (jobId attemptId : String) (absenceObserved : Bool)
  | prepare (request : PrepareRequest)
  | hold (jobId error : String)
  | release (request : ReleaseRequest)

-- the clock as the call reads it first and last
structure Call where
  now : Nat
  later : Nat
  operation : Operation

structure Desk where
  db : Database
  clock : Nat

def execute (env : Environment) (db : Database) (call : Call) : Except StoreError Database :=
  match call.operation with
  | .begin request => Sequential.begin db call.now request.trimmed
  | .defer jobId attemptId absenceObserved =>
    Sequential.defer db call.now call.later jobId attemptId absenceObserved
  | .prepare request => Sequential.prepare env db call.now request.trimmed
  | .hold jobId error => Sequential.hold db call.now jobId error
  | .release request => Sequential.release db call.now call.later request

inductive DeskStep (env : Environment) (w : Desk) (call : Call) : Desk → Prop
  | ok {db' : Database} : w.clock ≤ call.now → call.now ≤ call.later →
      execute env w.db call = .ok db' → DeskStep env w call ⟨db', call.later⟩
  | error {e : StoreError} : w.clock ≤ call.now → call.now ≤ call.later →
      execute env w.db call = .error e → DeskStep env w call ⟨w.db, call.later⟩

-- an attempt that ready() takes for hidden from its due scan, by the absence observed
def absenceHidden (now : Nat) (a : PaymentAttempt) : Bool :=
  isActive a.status && a.absenceObservedAt.any fun (observedAt : Nat) =>
    decide ((observedAt : Int) < a.preparedAt.getD a.createdAt ∨
      saturatingAdd now recoveryScheduleClockSkewMs < observedAt)

end Runs

end Obulus.Research
