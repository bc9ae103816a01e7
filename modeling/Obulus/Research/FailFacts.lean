import Obulus.Research.Effects

namespace Obulus.Research

open Foundation Store ReadCommitted

variable {env : Environment} {input : Input} {d d' u v : Database} {jobId : String} {n : Nat}
  {locked : List Row} {writes writes' : List (Write view)}

-- at most n refunds of the job, and nothing else a refund or an attempt depends on
structure Refunded (jobId : String) (n : Nat) (d v : Database) : Prop where
  jobs : v.bundleQuotes = d.bundleQuotes
  attempts : v.paymentAttempts = d.paymentAttempts
  refunds : ∀ id, refunds v id ≤ Research.refunds d id + if id = jobId then n else 0

theorem Refunded.of_quiet (h : Quiet d v) : Refunded jobId n d v := by
  refine ⟨h.jobs, h.attempts, ?_⟩
  intro id
  rw [h.refunds]
  omega

theorem Refunded.sameAttempts (h : Refunded jobId n d v) (id : String) :
    activeAttempts v id = activeAttempts d id := by
  simp only [activeAttempts, h.attempts]

theorem Refunded.ledger (h : Quiet d u) (entry : Funds.LedgerEntry) (hjob : entry.referenceId = jobId) :
    Refunded jobId 1 d ((Change.ledger entry).run u) := by
  refine ⟨h.jobs, h.attempts, ?_⟩
  intro id
  have hput : releases ((Change.ledger entry).run u) id ≤ releases u id + _ :=
    releases_put (v := (Change.ledger entry).run u) rfl
  have hclaims : refundClaims ((Change.ledger entry).run u) id = refundClaims u id := rfl
  have hquiet : Research.refunds u id = Research.refunds d id := h.refunds
  have hsame : (if entry.referenceId = id then 1 else 0) = if id = jobId then 1 else 0 := by
    rw [hjob]
    simp only [eq_comm]
  simp only [Research.refunds] at hquiet ⊢
  omega

theorem Refunded.claim (claim : Payout.PayoutClaim)
    (hjob : claim.beneficiaryUserId = "research-refund:" ++ jobId) :
    Refunded jobId 1 d ((Change.claim claim).run d) := by
  refine ⟨rfl, rfl, ?_⟩
  intro id
  have hput : refundClaims ((Change.claim claim).run d) id ≤ refundClaims d id + _ :=
    refundClaims_put rfl hjob id
  have hreleases : releases ((Change.claim claim).run d) id = releases d id := rfl
  have hsame : (if jobId = id then 1 else 0) = if id = jobId then 1 else 0 := by
    simp only [eq_comm]
  simp only [Research.refunds]
  omega

-- the job row an operation closes is no longer funded or processing
theorem Refunded.consistent {job : Job} (h : Refunded jobId n d u) (hn : n ≤ 1) (hd : Consistent d)
    (hfree : n ≠ 0 → ∃ job, d.bundleQuotes.get? jobId = some job ∧ job.status ∈ [.funded, .processing])
    (hjob : job.id = jobId) (hclosed : job.status ∉ [.funded, .processing]) :
    Consistent ((Change.job job).run u) := by
  have hload (id : String) : activeAttempts ((Change.job job).run u) id = activeAttempts d id :=
    h.sameAttempts id
  have hrefunds (id : String) := h.refunds id
  refine ⟨?_, ?_⟩
  · intro id
    have hone := hd.load id
    have hle : Research.refunds ((Change.job job).run u) id ≤ _ := hrefunds id
    rw [hload]
    by_cases hid : id = jobId
    · subst hid
      simp only [if_true] at hle
      by_cases hzero : n = 0
      · omega
      · obtain ⟨row, hrow, hstatus⟩ := hfree hzero
        have hidle := hd.idle id row hrow hstatus
        omega
    · simp only [hid, if_false] at hle
      omega
  · intro id row hrow hstatus
    have hle : Research.refunds ((Change.job job).run u) id ≤ _ := hrefunds id
    have hget : (u.bundleQuotes.put job).get? id = some row := hrow
    rw [Table.get?_put] at hget
    rw [hload]
    by_cases hid : id = jobId
    · subst hid
      rw [if_pos hjob, Option.some.injEq] at hget
      exact absurd (hget ▸ hstatus) hclosed
    · have hne : ¬job.id = id := fun heq => hid (heq.symm.trans hjob)
      rw [if_neg hne, h.jobs] at hget
      have hidle := hd.idle id row hget hstatus
      simp only [hid, if_false] at hle
      omega

theorem Refunded.consistent_missing (h : Refunded jobId n d u) (hzero : n = 0) (hd : Consistent d) :
    Consistent u := by
  subst hzero
  refine ⟨?_, ?_⟩
  · intro id
    have hone := hd.load id
    have hle := h.refunds id
    simp only [ite_self] at hle
    rw [h.sameAttempts]
    omega
  · intro id row hrow hstatus
    rw [h.jobs] at hrow
    have hidle := hd.idle id row hrow hstatus
    have hle := h.refunds id
    simp only [ite_self] at hle
    rw [h.sameAttempts]
    omega

namespace Fail

variable {request : FailRequest} {place place' : FailPlace}

def facts (request : FailRequest) (place : FailPlace) (writes : List (Write view)) (d : Database) :
    Prop :=
  match place with
  | .credit current _ | .balance current _ | .ledger current _ _ =>
    0 < current.refundableAtomic ∧ Quiet d (runWrites writes d)
  | .released current =>
    Refunded (trim request.jobId) (if 0 < current.refundableAtomic then 1 else 0) d
      (runWrites writes d)
  | .closed refundClaimId =>
    Refunded (trim request.jobId) (if refundClaimId.isSome then 1 else 0) d (runWrites writes d)
  | .commit => Consistent d → Consistent (runWrites writes d)
  | .start | .reading _ | .fundingSource _ | .price _ _ _ _ | .claim _ _ _ | .report _ => writes = []

theorem updateJob_consistent {f : Job → Job} (h : Refunded (trim request.jobId) n d (runWrites writes d))
    (h' : Refunded (trim request.jobId) n d' (runWrites writes d')) (hn : n ≤ 1)
    (hsteady : n ≠ 0 → ((runWrites writes d).bundleQuotes.get? (trim request.jobId)).any
      (fun job => job.status ∈ [.funded, .processing]) = true)
    (hf : ∀ job, (f job).id = job.id ∧ (f job).status ∉ [.funded, .processing])
    (hagree : ∀ k ∈ rowsOf ((updateJob request (runWrites writes d) f).map Change.write),
      view k d' = view k d) (hd' : Consistent d') :
    Consistent (runWrites (writes ++ (updateJob request (runWrites writes d) f).map Change.write) d') := by
  rw [runWrites_append]
  cases hjob : (runWrites writes d).bundleQuotes.get? (trim request.jobId) with
  | none =>
    have hzero : n = 0 := by
      by_contra hne
      have hany := hsteady hne
      rw [hjob] at hany
      cases hany
    simp only [updateJob, hjob, Option.toList_none, List.map_nil, runWrites_nil]
    exact h'.consistent_missing hzero hd'
  | some job =>
    have hkey := Table.get?_key hjob
    have hid : job.id = trim request.jobId := hkey
    simp only [updateJob, hjob, Option.toList_some, List.map_cons, List.map_nil, runWrites_cons,
      runWrites_nil, run_write] at hagree ⊢
    refine h'.consistent hn hd' ?_ ((hf job).1.trans hid) (hf job).2
    intro hne
    have hany := hsteady hne
    rw [hjob, Option.any_some, decide_eq_true_eq] at hany
    have hrow : view (.job (trim request.jobId)) d' = view (.job (trim request.jobId)) d := by
      apply hagree
      rw [← hid, ← (hf job).1]
      simp [rowsOf, Change.write, Change.rows]
    rw [h.jobs] at hjob
    exact ⟨job, (view_job hrow).trans hjob, hany⟩

theorem next (hhere : facts request place writes d) (hthere : facts request place writes d')
    (hsteady : Steady input (.fail request place) (runWrites writes d))
    (hrun : run env request input (runWrites writes d) place = .next locked writes' place')
    (hagree : ∀ k ∈ locked ++ rowsOf writes', view k d' = view k d) :
    facts request place' (writes ++ writes') d' := by
  cases place with
  | start =>
    simp only [run, statement_eq_next, bind_eq_ok, pure_eq_ok, Outcome.next.injEq] at hrun
    obtain ⟨-, -, -, rfl, rfl⟩ := hrun
    simpa [facts] using hthere
  | reading reading =>
    simp only [facts] at hthere
    subst hthere
    simp only [run, statement_eq_next, bind_eq_ok] at hrun
    obtain ⟨result, -, hrun⟩ := hrun
    cases result with
    | inl reading =>
      simp only [pure_eq_ok, Outcome.next.injEq] at hrun
      obtain ⟨-, rfl, rfl⟩ := hrun
      rfl
    | inr current =>
      simp only [pure_eq_ok, consider] at hrun
      split at hrun
      · cases hrun
      · split at hrun
        · cases hrun
          rfl
        · cases hrun
  | fundingSource current =>
    simp only [facts] at hthere
    subst hthere
    simp only [run, statement_eq_next, bind_eq_ok, openRefund] at hrun
    obtain ⟨job, -, hrun⟩ := hrun
    split at hrun
    · simp only [bind_eq_ok, pure_eq_ok, Outcome.next.injEq] at hrun
      obtain ⟨payer, -, -, rfl, rfl⟩ := hrun
      split
      · next hpositive => exact ⟨hpositive, .refl d'⟩
      · exact .of_quiet (.refl d')
    · split at hrun
      · simp only [bind_eq_ok, pure_eq_ok, Outcome.next.injEq] at hrun
        obtain ⟨payer, -, -, rfl, rfl⟩ := hrun
        rfl
      · simp only [pure_eq_ok, Outcome.next.injEq] at hrun
        obtain ⟨-, rfl, rfl⟩ := hrun
        exact .of_quiet (.refl d')
  | credit current payer =>
    simp only [run, statement_eq_next, bind_eq_ok, pure_eq_ok, writing_eq_next] at hrun
    obtain ⟨amount, -, account, -, -, -, -, rfl, rfl⟩ := hrun
    simp only [facts, runWrites_append] at hthere ⊢
    refine ⟨hthere.1, hthere.2.trans (quiet_changes ?_)⟩
    simp [Change.isQuiet]
  | balance current payer =>
    simp only [run, Outcome.next.injEq] at hrun
    obtain ⟨-, rfl, rfl⟩ := hrun
    simpa [facts] using hthere
  | ledger current payer balance =>
    simp only [run, statement_eq_next, bind_eq_ok, pure_eq_ok, writing_eq_next] at hrun
    obtain ⟨amount, -, balance, -, -, -, -, -, -, rfl, rfl⟩ := hrun
    simp only [facts, runWrites_append, if_pos hthere.1] at hthere ⊢
    exact .ledger hthere.2 _ rfl
  | released current =>
    simp only [run, statement_eq_next, bind_eq_ok, pure_eq_ok, writing_eq_next] at hrun
    obtain ⟨-, -, -, rfl, rfl⟩ := hrun
    refine updateJob_consistent hhere hthere ?_ ?_ ?_ ?_
    · split <;> omega
    · intro hne
      have hpositive : 0 < current.refundableAtomic := by
        by_contra hzero
        exact hne (if_neg hzero)
      exact hsteady hpositive
    · intro job
      exact ⟨rfl, by simp [releasedJob]⟩
    · intro k hk
      exact hagree k (List.mem_append_right _ hk)
  | price current payer pending amountKrw =>
    simp only [facts] at hthere
    subst hthere
    cases pending with
    | nil =>
      simp only [run, Outcome.next.injEq] at hrun
      obtain ⟨-, rfl, rfl⟩ := hrun
      rfl
    | cons handle pending =>
      simp only [run, statement_eq_next, bind_eq_ok, pure_eq_ok, Outcome.next.injEq] at hrun
      obtain ⟨document, -, -, -, -, rfl, rfl⟩ := hrun
      rfl
  | claim current payer amountKrw =>
    simp only [facts] at hthere
    subst hthere
    simp only [run, statement_eq_next, bind_eq_ok, pure_eq_ok, writing_eq_next] at hrun
    obtain ⟨-, -, -, -, -, -, -, -, -, -, -, rfl, rfl⟩ := hrun
    exact .claim _ rfl
  | closed refundClaimId =>
    simp only [run, writing_eq_next] at hrun
    obtain ⟨-, rfl, rfl⟩ := hrun
    refine updateJob_consistent hhere hthere ?_ ?_ ?_ ?_
    · split <;> omega
    · intro hne
      cases refundClaimId with
      | none => simp at hne
      | some id => exact hsteady
    · intro job
      refine ⟨rfl, ?_⟩
      simp only [closedJob]
      split <;> simp
    · intro k hk
      exact hagree k (List.mem_append_right _ hk)
  | commit => cases hrun
  | report reading =>
    simp only [facts] at hthere
    subst hthere
    simp only [run, Research.report, statement_eq_next, bind_eq_ok] at hrun
    obtain ⟨result, -, hrun⟩ := hrun
    cases result with
    | inl reading =>
      simp only [pure_eq_ok, Outcome.next.injEq] at hrun
      obtain ⟨-, rfl, rfl⟩ := hrun
      rfl
    | inr current =>
      simp only [pure_eq_ok] at hrun
      cases hrun

theorem commits (hrun : run env request input d place = .commit place') :
    place = .commit ∧ place' = .report .job := by
  cases place with
  | commit =>
    cases hrun
    exact ⟨rfl, rfl⟩
  | reading reading =>
    simp only [run, statement_eq_commit, bind_eq_ok] at hrun
    obtain ⟨result, -, hrun⟩ := hrun
    cases result with
    | inl reading => simp [pure_eq_ok] at hrun
    | inr current =>
      simp only [pure_eq_ok, consider] at hrun
      split at hrun
      · cases hrun
      · split at hrun <;> cases hrun
  | fundingSource current =>
    simp only [run, statement_eq_commit, bind_eq_ok, openRefund] at hrun
    obtain ⟨job, -, hrun⟩ := hrun
    split at hrun
    · simp only [bind_eq_ok, pure_eq_ok, reduceCtorEq, and_false, exists_false] at hrun
    · split at hrun <;> simp only [bind_eq_ok, pure_eq_ok, reduceCtorEq, and_false, exists_false] at hrun
  | report reading =>
    simp only [run, Research.report, statement_eq_commit, bind_eq_ok] at hrun
    obtain ⟨result, -, hrun⟩ := hrun
    cases result <;> simp [pure_eq_ok] at hrun
  | price current payer pending amountKrw =>
    cases pending <;> simp only [run, statement_eq_commit, bind_eq_ok, pure_eq_ok, reduceCtorEq, and_false,
      exists_false] at hrun
  | _ => simp only [run, statement_eq_commit, bind_eq_ok, pure_eq_ok, writing, reduceCtorEq,
      and_false, exists_false] at hrun

theorem commit (hinv : Consistent d) (hhere : facts request place writes d)
    (hrun : run env request input (runWrites writes d) place = .commit place') :
    Consistent (runWrites writes d) ∧ ∀ d', facts request place' [] d' := by
  obtain ⟨rfl, rfl⟩ := commits hrun
  exact ⟨hhere hinv, fun _ => rfl⟩

end Fail

end Obulus.Research
