import Obulus.Research.Program

namespace Obulus.Research

open Foundation Store ReadCommitted

variable {d u v : Database} {c : Change} {changes : List Change} {jobId : String} {n : Nat}
  {α τ : Type} {locked : List Row}
  {writes : List (Write view)} {place place' : τ}

section Statements

theorem writing_eq_next : (writing changes place' : Statement α τ) = .next locked writes place ↔
    [] = locked ∧ changes.map Change.write = writes ∧ place' = place := by
  simp [writing]

theorem locking_eq_next {rows : List Row} : (locking rows place' : Statement α τ) =
    .next locked writes place ↔ rows = locked ∧ [] = writes ∧ place' = place := by
  simp [locking]

@[simp] theorem run_write : c.write.run d = c.run d := rfl

theorem view_job {id : String} (h : view (.job id) d = view (.job id) u) :
    d.bundleQuotes.get? id = u.bundleQuotes.get? id :=
  Cell.job.inj h

theorem view_attempt {id : String} (h : view (.attempt id) d = view (.attempt id) u) :
    d.paymentAttempts.get? id = u.paymentAttempts.get? id :=
  Cell.attempt.inj h

end Statements

section Quiet

-- nothing that a refund or an attempt depends on
structure Quiet (d v : Database) : Prop where
  jobs : v.bundleQuotes = d.bundleQuotes
  attempts : v.paymentAttempts = d.paymentAttempts
  ledger : v.prepaidLedger = d.prepaidLedger
  claims : v.payoutClaims = d.payoutClaims

theorem Quiet.refl (d : Database) : Quiet d d := ⟨rfl, rfl, rfl, rfl⟩

theorem Quiet.trans (h : Quiet d u) (h' : Quiet u v) : Quiet d v :=
  ⟨h'.jobs.trans h.jobs, h'.attempts.trans h.attempts, h'.ledger.trans h.ledger,
    h'.claims.trans h.claims⟩

def Change.isQuiet : Change → Bool
  | .job _ | .attempt _ | .ledger _ | .claim _ => false
  | _ => true

theorem Change.quiet (h : c.isQuiet = true) : Quiet d (c.run d) := by
  cases c <;> first | exact ⟨rfl, rfl, rfl, rfl⟩ | simp [isQuiet] at h

theorem quiet_changes (h : ∀ c ∈ changes, c.isQuiet = true) :
    Quiet d (runWrites (changes.map Change.write) d) := by
  induction changes generalizing d with
  | nil => exact .refl d
  | cons c changes ih =>
    have hfirst := c.quiet (d := d) (h c (by simp))
    exact hfirst.trans (ih fun c' hc' => h c' (by simp [hc']))

theorem fenceChanges_quiet {fences : Guards.Fences} {quoteId : String} :
    ∀ c ∈ fenceChanges d fences quoteId, c.isQuiet = true := by
  intro c hc
  unfold fenceChanges at hc
  split at hc
  · simp at hc
  · split at hc <;> simp only [List.mem_singleton] at hc <;> subst hc <;> rfl

end Quiet

section Counts

variable {attempt old : PaymentAttempt} {job : Job}

theorem Quiet.activeAttempts (h : Quiet d v) : activeAttempts v jobId = activeAttempts d jobId := by
  simp only [Research.activeAttempts, h.attempts]

theorem Quiet.refunds (h : Quiet d v) : refunds v jobId = refunds d jobId := by
  simp only [Research.refunds, releases, refundClaims, h.ledger, h.claims]

theorem Quiet.consistent (h : Quiet d v) (hd : Consistent d) : Consistent v := by
  refine ⟨?_, ?_⟩
  · intro jobId
    rw [h.activeAttempts, h.refunds]
    exact hd.load jobId
  · intro jobId job hjob hstatus
    rw [h.jobs] at hjob
    rw [h.activeAttempts, h.refunds]
    exact hd.idle jobId job hjob hstatus

def counted (attempt : PaymentAttempt) (jobId : String) : Nat :=
  if attempt.jobId = jobId ∧ isActive attempt.status = true then 1 else 0

theorem activeAttempts_put (hold : d.paymentAttempts.get? attempt.attemptId = some old)
    (hv : v.paymentAttempts = d.paymentAttempts.put attempt) :
    activeAttempts v jobId + counted old jobId = activeAttempts d jobId + counted attempt jobId := by
  have hput := Table.countP_put (t := d.paymentAttempts) (r := attempt)
    (P := fun a => decide (a.jobId = jobId) && isActive a.status)
  rw [hold] at hput
  simpa [activeAttempts, counted, hv] using hput

theorem activeAttempts_put_le (hv : v.paymentAttempts = d.paymentAttempts.put attempt) :
    activeAttempts v jobId ≤ activeAttempts d jobId + counted attempt jobId := by
  have hput := Table.countP_put (t := d.paymentAttempts) (r := attempt)
    (P := fun a => decide (a.jobId = jobId) && isActive a.status)
  simp only [Bool.and_eq_true, decide_eq_true_eq] at hput
  simp only [activeAttempts, counted, hv]
  omega

theorem releases_put {entry : Funds.LedgerEntry} (hv : v.prepaidLedger = d.prepaidLedger.put entry) :
    releases v jobId ≤ releases d jobId + if entry.referenceId = jobId then 1 else 0 := by
  have hput := Table.countP_put (t := d.prepaidLedger) (r := entry)
    (P := fun e => decide (e.kind = .researchRelease ∧ e.referenceId = jobId))
  have hle : (if decide (entry.kind = .researchRelease ∧ entry.referenceId = jobId) = true then 1
      else 0) ≤ if entry.referenceId = jobId then 1 else 0 := by
    by_cases h : entry.referenceId = jobId <;> by_cases hk : entry.kind = .researchRelease <;>
      simp [h, hk]
  simp only [releases, hv]
  omega

theorem refundClaims_put {claim : Payout.PayoutClaim}
    (hv : v.payoutClaims = d.payoutClaims.put claim) (hclaim : claim.beneficiaryUserId =
      "research-refund:" ++ jobId) (id : String) :
    refundClaims v id ≤ refundClaims d id + if jobId = id then 1 else 0 := by
  have hput := Table.countP_put (t := d.payoutClaims) (r := claim) (P := fun c =>
    decide (c.kind = "research_refund" ∧ c.beneficiaryUserId = "research-refund:" ++ id))
  have hle : (if decide (claim.kind = "research_refund" ∧ claim.beneficiaryUserId =
      "research-refund:" ++ id) = true then 1 else 0) ≤ if jobId = id then 1 else 0 := by
    rw [hclaim]
    by_cases h : jobId = id
    · simp only [h, if_true]
      split <;> omega
    · have hne : ¬"research-refund:" ++ jobId = "research-refund:" ++ id :=
        fun heq => h ((String.append_right_inj _).mp heq)
      simp [hne]
  simp only [refundClaims, hv]
  omega

end Counts

end Obulus.Research
