import Obulus.Research.Effects

namespace Obulus.Research

open Foundation Store ReadCommitted

variable {env : Environment} {input : Input} {d d' u v : Database} {locked : List Row}
  {writes writes' : List (Write view)} {changes : List Change} {row : PaymentAttempt}

section Attempts

theorem insertAttempt_changes (h : insertAttempt d row = .ok changes) :
    ∃ fences, changes = .attempt row :: fenceChanges d fences row.quoteId := by
  simp only [insertAttempt, bind_eq_ok, pure_eq_ok] at h
  obtain ⟨fences, -, -, -, -, -, rfl⟩ := h
  exact ⟨fences, rfl⟩

theorem updateAttempt_changes {assigned : List Guards.Column} {old : PaymentAttempt}
    (h : updateAttempt d assigned old row = .ok changes) :
    ∃ fences, changes = .attempt row :: fenceChanges d fences row.quoteId := by
  simp only [updateAttempt, bind_eq_ok, pure_eq_ok] at h
  obtain ⟨fences, -, -, -, rfl⟩ := h
  exact ⟨fences, rfl⟩

-- the attempt row is written, and nothing else a refund or an attempt depends on
structure AttemptWritten (row : PaymentAttempt) (d v : Database) : Prop where
  jobs : v.bundleQuotes = d.bundleQuotes
  attempts : v.paymentAttempts = d.paymentAttempts.put row
  ledger : v.prepaidLedger = d.prepaidLedger
  claims : v.payoutClaims = d.payoutClaims

theorem AttemptWritten.trans (h : AttemptWritten row d u) (h' : Quiet u v) : AttemptWritten row d v :=
  ⟨h'.jobs.trans h.jobs, h'.attempts.trans h.attempts, h'.ledger.trans h.ledger,
    h'.claims.trans h.claims⟩

theorem AttemptWritten.after (h : Quiet d u) (h' : AttemptWritten row u v) : AttemptWritten row d v :=
  ⟨h'.jobs.trans h.jobs, h'.attempts.trans (by rw [h.attempts]), h'.ledger.trans h.ledger,
    h'.claims.trans h.claims⟩

theorem attemptWritten_changes (hquiet : ∀ c ∈ changes, c.isQuiet = true) :
    AttemptWritten row d (runWrites ((Change.attempt row :: changes).map Change.write) d) := by
  have hfirst : AttemptWritten row d ((Change.attempt row).run d) := ⟨rfl, rfl, rfl, rfl⟩
  exact hfirst.trans (quiet_changes hquiet)

theorem AttemptWritten.refunds (h : AttemptWritten row d v) (id : String) :
    refunds v id = Research.refunds d id := by
  simp only [Research.refunds, releases, refundClaims, h.ledger, h.claims]

-- an attempt that stays active, or ends, keeps what holds of its job
theorem AttemptWritten.consistent {old : PaymentAttempt} (h : AttemptWritten row d v)
    (hold : d.paymentAttempts.get? row.attemptId = some old) (hjob : row.jobId = old.jobId)
    (hactive : isActive row.status = true → isActive old.status = true) (hd : Consistent d) :
    Consistent v := by
  have hle (id : String) : activeAttempts v id ≤ activeAttempts d id := by
    have hput : activeAttempts v id + counted old id = activeAttempts d id + counted row id :=
      activeAttempts_put hold h.attempts
    have hcounted : counted row id ≤ counted old id := by
      simp only [counted, hjob]
      split
      · next hrow => rw [if_pos ⟨hrow.1, hactive hrow.2⟩]
      · omega
    omega
  refine ⟨?_, ?_⟩
  · intro id
    have hone := hd.load id
    have hless := hle id
    rw [h.refunds]
    omega
  · intro id job hrow hstatus
    rw [h.jobs] at hrow
    have hidle := hd.idle id job hrow hstatus
    have hless := hle id
    rw [h.refunds]
    omega

end Attempts

namespace Begin

variable {request : BeginRequest} {place place' : BeginPlace}

def Processing (request : BeginRequest) (d : Database) : Prop :=
  ∃ job, d.bundleQuotes.get? request.jobId = some job ∧ job.status = .processing

def facts (request : BeginRequest) (place : BeginPlace) (writes : List (Write view)) (d : Database) :
    Prop :=
  match place with
  | .payable | .competing | .insert => writes = [] ∧ Processing request d
  | .update => Processing request d ∧ ∃ row : PaymentAttempt, row.jobId = request.jobId ∧
    AttemptWritten row d (runWrites writes d)
  | .commit => Consistent d → Consistent (runWrites writes d)
  | .start | .queryId | .lockQuery _ | .lockJob | .replay | .report _ => writes = []

theorem inProgress_consistent {job : Job} (hd : Consistent d) (hprocessing : Processing request d)
    (hrow : row.jobId = request.jobId) (h : AttemptWritten row d u) (hid : job.id = request.jobId)
    (hstatus : job.status = .paymentInProgress) : Consistent ((Change.job job).run u) := by
  obtain ⟨old, hold, hprocessing⟩ := hprocessing
  have hfree := hd.idle request.jobId old hold (by simp [hprocessing])
  have hcount (id : String) : activeAttempts ((Change.job job).run u) id ≤ _ :=
    activeAttempts_put_le h.attempts
  have hrefunds (id : String) : refunds ((Change.job job).run u) id = refunds d id := h.refunds id
  have hother (id : String) (hne : id ≠ request.jobId) : counted row id = 0 := by
    have hjob : ¬row.jobId = id := fun heq => hne (heq.symm.trans hrow)
    simp [counted, hjob]
  refine ⟨?_, ?_⟩
  · intro id
    have hle := hcount id
    rw [hrefunds]
    by_cases hid : id = request.jobId
    · subst hid
      have hone : counted row request.jobId ≤ 1 := by
        simp only [counted]
        split <;> omega
      omega
    · have hzero := hother id hid
      have hone := hd.load id
      omega
  · intro id next hnext hopen
    have hget : (u.bundleQuotes.put job).get? id = some next := hnext
    rw [Table.get?_put] at hget
    by_cases hid' : id = request.jobId
    · subst hid'
      rw [if_pos hid, Option.some.injEq] at hget
      rw [← hget, hstatus] at hopen
      simp at hopen
    · have hne : ¬job.id = id := fun heq => hid' (heq.symm.trans hid)
      rw [if_neg hne, h.jobs] at hget
      have hidle := hd.idle id next hget hopen
      have hzero := hother id hid'
      have hle := hcount id
      rw [hrefunds]
      omega

theorem next (hhere : facts request place writes d) (hthere : facts request place writes d')
    (hrun : run request input (runWrites writes d) place = .next locked writes' place')
    (hagree : ∀ k ∈ locked ++ rowsOf writes', view k d' = view k d) :
    facts request place' (writes ++ writes') d' := by
  cases place with
  | start =>
    simp only [facts] at hthere
    subst hthere
    simp only [run, statement_eq_next, bind_eq_ok, pure_eq_ok, Outcome.next.injEq] at hrun
    obtain ⟨-, -, -, rfl, rfl⟩ := hrun
    rfl
  | queryId =>
    simp only [facts] at hthere
    subst hthere
    simp only [run, statement_eq_next, bind_eq_ok, pure_eq_ok, Outcome.next.injEq] at hrun
    obtain ⟨job, -, -, rfl, rfl⟩ := hrun
    rfl
  | lockQuery queryId =>
    simp only [facts] at hthere
    subst hthere
    simp only [run, statement_eq_next, bind_eq_ok, pure_eq_ok, locking_eq_next] at hrun
    obtain ⟨-, -, -, rfl, rfl⟩ := hrun
    rfl
  | lockJob =>
    simp only [facts] at hthere
    subst hthere
    simp only [run, statement_eq_next, bind_eq_ok, orReject_eq_ok, consider] at hrun
    obtain ⟨job, hjob, hrun⟩ := hrun
    split at hrun
    · simp only [pure_eq_ok, locking_eq_next] at hrun
      obtain ⟨-, rfl, rfl⟩ := hrun
      rfl
    · simp only [bind_eq_ok, reject_eq_ok, not_not, pure_eq_ok, locking_eq_next] at hrun
      obtain ⟨-, hstatus, rfl, rfl, rfl⟩ := hrun
      have hrow := view_job (hagree (.job request.jobId) (by simp))
      exact ⟨rfl, job, hrow.trans hjob, hstatus⟩
  | replay =>
    simp only [facts] at hthere
    subst hthere
    simp only [run, statement_eq_next, bind_eq_ok, pure_eq_ok, Outcome.next.injEq] at hrun
    obtain ⟨-, -, -, rfl, rfl⟩ := hrun
    exact fun hd => hd
  | payable =>
    simp only [run, statement_eq_next, bind_eq_ok, pure_eq_ok, Outcome.next.injEq] at hrun
    obtain ⟨-, -, -, rfl, rfl⟩ := hrun
    simpa [facts] using hthere
  | competing =>
    simp only [run, statement_eq_next, bind_eq_ok, pure_eq_ok, Outcome.next.injEq] at hrun
    obtain ⟨-, -, -, rfl, rfl⟩ := hrun
    simpa [facts] using hthere
  | insert =>
    obtain ⟨rfl, hprocessing⟩ := hthere
    simp only [run, statement_eq_next, bind_eq_ok, pure_eq_ok, writing_eq_next] at hrun
    obtain ⟨-, -, changes, hchanges, -, rfl, rfl⟩ := hrun
    obtain ⟨fences, rfl⟩ := insertAttempt_changes hchanges
    exact ⟨hprocessing, _, rfl, attemptWritten_changes fenceChanges_quiet⟩
  | update =>
    obtain ⟨hprocessing, row, hrow, hwritten⟩ := hthere
    simp only [run, statement_eq_next, bind_eq_ok, orReject_eq_ok, pure_eq_ok, writing_eq_next,
      Option.filter_eq_some_iff] at hrun
    obtain ⟨job, ⟨hjob, -⟩, -, rfl, rfl⟩ := hrun
    have hkey := Table.get?_key hjob
    intro hd
    rw [runWrites_append]
    exact inProgress_consistent hd hprocessing hrow hwritten hkey rfl
  | commit => cases hrun
  | report reading =>
    simp only [facts] at hthere
    subst hthere
    simp only [run, Research.report, statement_eq_next, bind_eq_ok] at hrun
    obtain ⟨result, -, hrun⟩ := hrun
    cases result with
    | inl reading =>
      simp only [pure_eq_ok, Outcome.next.injEq] at hrun
      obtain ⟨-, rfl, rfl⟩ := hrun
      rfl
    | inr current =>
      simp only [pure_eq_ok] at hrun
      cases hrun

theorem commits (hrun : run request input d place = .commit place') :
    place = .commit ∧ place' = .report .job := by
  cases place with
  | commit =>
    cases hrun
    exact ⟨rfl, rfl⟩
  | lockJob =>
    simp only [run, statement_eq_commit, bind_eq_ok, consider] at hrun
    obtain ⟨job, -, hrun⟩ := hrun
    split at hrun <;> simp only [bind_eq_ok, pure_eq_ok, locking, reduceCtorEq, and_false,
      exists_false] at hrun
  | report reading =>
    simp only [run, Research.report, statement_eq_commit, bind_eq_ok] at hrun
    obtain ⟨result, -, hrun⟩ := hrun
    cases result <;> simp [pure_eq_ok] at hrun
  | _ =>
    simp only [run, statement_eq_commit, bind_eq_ok, pure_eq_ok, writing, locking, reduceCtorEq,
      and_false, exists_false] at hrun

theorem commit (hinv : Consistent d) (hhere : facts request place writes d)
    (hrun : run request input (runWrites writes d) place = .commit place') :
    Consistent (runWrites writes d) ∧ ∀ d', facts request place' [] d' := by
  obtain ⟨rfl, rfl⟩ := commits hrun
  exact ⟨hhere hinv, fun _ => rfl⟩

end Begin

namespace Prepare

variable {request : PrepareRequest} {place place' : PreparePlace}

def facts (place : PreparePlace) (writes : List (Write view)) (d : Database) : Prop :=
  match place with
  | .commit => Consistent d → Consistent (runWrites writes d)
  | .start | .lockAttempt | .binding _ | .owner | .holds | .update | .read => writes = []

theorem next (hthere : facts place writes d')
    (hrun : run env request input (runWrites writes d) place = .next locked writes' place')
    (hagree : ∀ k ∈ locked ++ rowsOf writes', view k d' = view k d) :
    facts place' (writes ++ writes') d' := by
  cases place with
  | start =>
    simp only [facts] at hthere
    subst hthere
    simp only [run, statement_eq_next, bind_eq_ok, pure_eq_ok, Outcome.next.injEq] at hrun
    obtain ⟨-, -, -, rfl, rfl⟩ := hrun
    rfl
  | lockAttempt =>
    simp only [facts] at hthere
    subst hthere
    simp only [run, statement_eq_next, bind_eq_ok, pure_eq_ok, locking_eq_next] at hrun
    obtain ⟨current, -, -, -, -, rfl, rfl⟩ := hrun
    rfl
  | binding current =>
    simp only [facts] at hthere
    subst hthere
    simp only [run, statement_eq_next, bind_eq_ok, consider] at hrun
    obtain ⟨-, -, -, -, hrun⟩ := hrun
    split at hrun
    · simp only [pure_eq_ok, Outcome.next.injEq] at hrun
      obtain ⟨-, rfl, rfl⟩ := hrun
      exact fun hd => hd
    · simp only [bind_eq_ok, pure_eq_ok, Outcome.next.injEq] at hrun
      obtain ⟨-, -, -, rfl, rfl⟩ := hrun
      rfl
  | owner =>
    simp only [facts] at hthere
    subst hthere
    simp only [run, statement_eq_next, bind_eq_ok, pure_eq_ok, Outcome.next.injEq] at hrun
    obtain ⟨-, -, -, rfl, rfl⟩ := hrun
    rfl
  | holds =>
    simp only [facts] at hthere
    subst hthere
    simp only [run, statement_eq_next, bind_eq_ok, pure_eq_ok, Outcome.next.injEq] at hrun
    obtain ⟨-, -, -, rfl, rfl⟩ := hrun
    rfl
  | update =>
    simp only [facts] at hthere
    subst hthere
    simp only [run] at hrun
    split at hrun
    · simp only [Outcome.next.injEq] at hrun
      obtain ⟨-, rfl, rfl⟩ := hrun
      exact fun hd => hd
    · next current hcurrent =>
      simp only [statement_eq_next, bind_eq_ok, pure_eq_ok, writing_eq_next] at hrun
      obtain ⟨-, -, changes, hchanges, -, rfl, rfl⟩ := hrun
      obtain ⟨fences, rfl⟩ := updateAttempt_changes hchanges
      simp only [runWrites_nil, Option.filter_eq_some_iff, decide_eq_true_eq] at hcurrent
      have hkey := Table.get?_key hcurrent.1
      have hrow : d'.paymentAttempts.get? current.attemptId = some current := by
        have hview := hagree (.attempt current.attemptId)
          (by simp [rowsOf, Change.write, Change.rows, prepared])
        have hget := hcurrent.1
        rw [← hkey] at hget
        exact (view_attempt hview).trans hget
      intro hd
      refine (attemptWritten_changes fenceChanges_quiet).consistent hrow rfl ?_ hd
      intro _
      simp [isActive, hcurrent.2]
  | commit => cases hrun
  | read => cases hrun

theorem commits (hrun : run env request input d place = .commit place') :
    place = .commit ∧ place' = .read := by
  cases place with
  | commit =>
    cases hrun
    exact ⟨rfl, rfl⟩
  | binding current =>
    simp only [run, statement_eq_commit, bind_eq_ok, consider] at hrun
    obtain ⟨-, -, -, -, hrun⟩ := hrun
    split at hrun <;> simp only [bind_eq_ok, pure_eq_ok, reduceCtorEq, and_false,
      exists_false] at hrun
  | update =>
    simp only [run] at hrun
    split at hrun <;> simp only [statement_eq_commit, bind_eq_ok, pure_eq_ok, writing, reduceCtorEq,
      and_false, exists_false] at hrun
  | read => cases hrun
  | _ =>
    simp only [run, statement_eq_commit, bind_eq_ok, pure_eq_ok, locking, reduceCtorEq, and_false,
      exists_false] at hrun

theorem commit (hinv : Consistent d) (hhere : facts place writes d)
    (hrun : run env request input (runWrites writes d) place = .commit place') :
    Consistent (runWrites writes d) ∧ ∀ d', facts place' [] d' := by
  obtain ⟨rfl, rfl⟩ := commits hrun
  exact ⟨hhere hinv, fun _ => rfl⟩

end Prepare

end Obulus.Research
