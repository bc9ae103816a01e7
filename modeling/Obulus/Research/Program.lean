import Obulus.Research.Fail
import Obulus.Research.Payment
import Obulus.Research.Settle

namespace Obulus.Research

open Foundation Store

inductive Request
  | fail (request : FailRequest)
  | begin (request : BeginRequest)
  | prepare (request : PrepareRequest)
  | settle (request : SettleRequest)

inductive Place
  | fail (request : FailRequest) (place : FailPlace)
  | begin (request : BeginRequest) (place : BeginPlace)
  | prepare (request : PrepareRequest) (place : PreparePlace)
  | settle (request : SettleRequest) (place : SettlePlace)

abbrev Reply := Except StoreError (JobStatus ⊕ PaymentReconciliation)

def program (env : Environment) : ReadCommitted.Program view Request Reply Input Place where
  entry
    | .fail request => .fail request .start
    | .begin request => .begin request.trimmed .start
    | .prepare request => .prepare request.trimmed .start
    | .settle request => .settle request.trimmed .start
  statement input place db :=
    match place with
    | .fail request place => (Fail.run env request input db place).map (.map .inl) (.fail request)
    | .begin request place => (Begin.run request input db place).map (.map .inl) (.begin request)
    | .prepare request place =>
      (Prepare.run env request input db place).map (.map .inr) (.prepare request)
    | .settle request place =>
      (Settle.run env request input db place).map (.map .inl) (.settle request)

-- a job is failed with money to give back only while it is funded or processing
def Steady (_ : Input) (place : Place) (db : Database) : Prop :=
  match place with
  | .fail request (.released current) => 0 < current.refundableAtomic →
    (db.bundleQuotes.get? (trim request.jobId)).any
      (fun job => job.status ∈ [.funded, .processing]) = true
  | .fail request (.closed (some _)) =>
    (db.bundleQuotes.get? (trim request.jobId)).any
      (fun job => job.status ∈ [.funded, .processing]) = true
  | _ => True

instance (input : Input) (place : Place) (db : Database) : Decidable (Steady input place db) := by
  unfold Steady
  split <;> infer_instance

variable (db : Database) (jobId : String)

def activeAttempts : Nat :=
  db.paymentAttempts.rows.countP fun a => decide (a.jobId = jobId) && isActive a.status

def releases : Nat :=
  db.prepaidLedger.rows.countP fun e => decide (e.kind = .researchRelease ∧ e.referenceId = jobId)

def refundClaims : Nat :=
  db.payoutClaims.rows.countP fun c =>
    decide (c.kind = "research_refund" ∧ c.beneficiaryUserId = "research-refund:" ++ jobId)

def refunds : Nat := releases db jobId + refundClaims db jobId

def RefundExclusive : Prop :=
  ∀ jobId, refunds db jobId ≤ 1 ∧
    ((∃ a ∈ db.paymentAttempts.rows, a.jobId = jobId ∧ isActive a.status = true) →
      refunds db jobId = 0)

structure Consistent : Prop where
  load : ∀ jobId, activeAttempts db jobId + refunds db jobId ≤ 1
  idle : ∀ jobId job, db.bundleQuotes.get? jobId = some job → job.status ∈ [.funded, .processing] →
    activeAttempts db jobId + refunds db jobId = 0

end Obulus.Research
