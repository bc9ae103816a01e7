import Obulus.Research.PaymentFacts

namespace Obulus.Research

open Foundation Store ReadCommitted

namespace Rail

variable {quoteId : String} {rail : PaymentRail} {db : Database} {place : RailPlace} {step : RailStep}

theorem quiet (h : run quoteId rail db place = .ok step) : ∀ c ∈ step.changes, c.isQuiet = true := by
  cases place with
  | update =>
    simp only [run, bind_eq_ok, pure_eq_ok] at h
    obtain ⟨quote, -, rfl⟩ := h
    simp [Change.isQuiet]
  | lockQuote queryId documentId =>
    simp only [run, bind_eq_ok] at h
    obtain ⟨quote, -, h⟩ := h
    split at h
    · simp only [bind_eq_ok, pure_eq_ok] at h
      obtain ⟨-, -, rfl⟩ := h
      simp
    · simp only [pure_eq_ok] at h
      subst h
      simp
  | _ =>
    simp only [run, bind_eq_ok, pure_eq_ok] at h
    obtain ⟨-, -, rfl⟩ := h
    simp

end Rail

namespace Settle

variable {env : Environment} {request : SettleRequest} {input : Input} {d d' u v : Database}
  {locked : List Row} {writes writes' : List (Write view)} {place place' : SettlePlace}
  {quote : PaymentQuote} {sale : Sale} {changes : List Change}

section Changes

theorem settlementTrigger_quiet (h : settlementTrigger d quote.id = .ok changes) :
    ∀ c ∈ changes, c.isQuiet = true := by
  simp only [settlementTrigger, bind_eq_ok, pure_eq_ok] at h
  obtain ⟨-, -, -, -, rfl⟩ := h
  intro c hc
  obtain ⟨q, -, rfl⟩ := List.mem_map.mp hc
  rfl

theorem insertEarning_quiet (h : insertEarning input d quote sale = .ok changes) :
    ∀ c ∈ changes, c.isQuiet = true := by
  simp only [insertEarning, bind_eq_ok, pure_eq_ok] at h
  obtain ⟨-, -, -, -, -, -, -, -, rfl⟩ := h
  simp [Change.isQuiet]

theorem deliverQuote_quiet : ∀ c ∈ deliverQuote d quote sale, c.isQuiet = true := by
  intro c hc
  obtain ⟨q, -, rfl⟩ := List.mem_map.mp hc
  rfl

theorem creditMemories_quiet : ∀ c ∈ creditMemories d sale, c.isQuiet = true := by
  intro c hc
  obtain ⟨m, -, rfl⟩ := List.mem_map.mp hc
  rfl

end Changes

section Facts

def Owned (request : SettleRequest) (d : Database) : Prop :=
  ∃ a, d.paymentAttempts.get? request.attemptId = some a ∧ a.jobId = request.jobId ∧
    isActive a.status = true

def Ended (request : SettleRequest) (d v : Database) : Prop :=
  ∃ row : PaymentAttempt, row.attemptId = request.attemptId ∧ row.jobId = request.jobId ∧
    isActive row.status = false ∧ AttemptWritten row d v

theorem Ended.trans (h : Ended request d u) (h' : Quiet u v) : Ended request d v := by
  obtain ⟨row, hid, hjob, hended, hwritten⟩ := h
  exact ⟨row, hid, hjob, hended, hwritten.trans h'⟩

def facts (request : SettleRequest) (place : SettlePlace) (writes : List (Write view)) (d : Database) :
    Prop :=
  match place with
  | .bind _ _ | .bound _ => Quiet d (runWrites writes d)
  | .existing _ | .rebind _ _ _ | .citation _ _ | .insertSettlement _ _ | .ignored _
  | .deliverQuote _ _ | .memory _ _ | .access _ _ | .earning _ _ | .settleAttempt _ =>
    Owned request d ∧ Quiet d (runWrites writes d)
  | .signature _ | .register _ _ | .registered _ _ | .clearJob _ =>
    Owned request d ∧ Ended request d (runWrites writes d)
  | .commit => Consistent d → Consistent (runWrites writes d)
  | .start | .attempt | .recorded | .quote _ | .lockActive _ | .report _ => writes = []

theorem cleared_consistent {job : Job} (hd : Consistent d) (howned : Owned request d)
    (hended : Ended request d u) (hid : job.id = request.jobId) :
    Consistent ((Change.job job).run u) := by
  obtain ⟨old, hold, hjob, hactive⟩ := howned
  obtain ⟨row, hrow, hrowJob, hrowEnded, hwritten⟩ := hended
  rw [← hrow] at hold
  have hcount (id : String) : activeAttempts ((Change.job job).run u) id + counted old id =
      activeAttempts d id + counted row id := activeAttempts_put hold hwritten.attempts
  have hrefunds (id : String) : refunds ((Change.job job).run u) id = refunds d id :=
    hwritten.refunds id
  have hzero (id : String) : counted row id = 0 := by simp [counted, hrowEnded]
  refine ⟨?_, ?_⟩
  · intro id
    have hone := hd.load id
    have hsum := hcount id
    rw [hrefunds]
    have hnone := hzero id
    omega
  · intro id next hnext hopen
    have hget : (u.bundleQuotes.put job).get? id = some next := hnext
    rw [Table.get?_put] at hget
    have hsum := hcount id
    have hnone := hzero id
    rw [hrefunds]
    by_cases hid' : id = request.jobId
    · subst hid'
      have hone := hd.load request.jobId
      have hcounted : counted old request.jobId = 1 := by simp [counted, hjob, hactive]
      omega
    · have hne : ¬job.id = id := fun heq => hid' (heq.symm.trans hid)
      rw [if_neg hne, hwritten.jobs] at hget
      have hidle := hd.idle id next hget hopen
      omega

theorem fencedAttempt_spec {quoteId : String} {a : PaymentAttempt}
    (h : fencedAttempt request d quoteId = some a) :
    d.paymentAttempts.get? request.attemptId = some a ∧ a.jobId = request.jobId ∧
      isActive a.status = true ∧ a.attemptId = request.attemptId := by
  simp only [fencedAttempt, Option.filter_eq_some_iff, Bool.and_eq_true, decide_eq_true_eq] at h
  obtain ⟨hget, ⟨hjob, -, hstatus⟩, -⟩ := h
  have hkey := Table.get?_key hget
  refine ⟨hget, hjob, ?_, hkey⟩
  simp only [List.mem_cons, List.not_mem_nil, or_false] at hstatus
  rcases hstatus with hstatus | hstatus <;> simp [isActive, hstatus]

theorem owned_of_active {rows : List Row} {quoteId : String}
    (h : activePayment request d quoteId = some rows) (hagree : ∀ k ∈ rows, view k d' = view k d) :
    Owned request d' := by
  simp only [activePayment, Option.bind_eq_bind, Option.bind_eq_some_iff, Option.pure_def,
    Option.some.injEq] at h
  obtain ⟨job, -, a, ha, document, -, rfl⟩ := h
  obtain ⟨hget, hjob, hactive, hkey⟩ := fencedAttempt_spec ha
  have hrow := view_attempt (hagree (.attempt a.attemptId) (by simp))
  rw [hkey] at hrow
  exact ⟨a, hrow.trans hget, hjob, hactive⟩

end Facts

section Outline

theorem keep (hthere : Owned request d' ∧ Quiet d' (runWrites writes d'))
    (hchanges : ∀ c ∈ changes, c.isQuiet = true) :
    Owned request d' ∧ Quiet d' (runWrites (writes ++ changes.map Change.write) d') := by
  refine ⟨hthere.1, ?_⟩
  rw [runWrites_append]
  exact hthere.2.trans (quiet_changes hchanges)

theorem next (hhere : facts request place writes d) (hthere : facts request place writes d')
    (hrun : run env request input (runWrites writes d) place = .next locked writes' place')
    (hagree : ∀ k ∈ locked ++ rowsOf writes', view k d' = view k d) :
    facts request place' (writes ++ writes') d' := by
  cases place with
  | start =>
    simp only [facts] at hthere
    subst hthere
    simp only [run, statement_eq_next, bind_eq_ok, pure_eq_ok, Outcome.next.injEq] at hrun
    obtain ⟨-, -, -, rfl, rfl⟩ := hrun
    rfl
  | attempt =>
    simp only [facts] at hthere
    subst hthere
    simp only [run, statement_eq_next, bind_eq_ok, consider] at hrun
    obtain ⟨attempt, -, -, -, hrun⟩ := hrun
    split at hrun
    · simp only [pure_eq_ok, Outcome.next.injEq] at hrun
      obtain ⟨-, rfl, rfl⟩ := hrun
      rfl
    · simp only [bind_eq_ok, pure_eq_ok, Outcome.next.injEq] at hrun
      obtain ⟨-, -, -, rfl, rfl⟩ := hrun
      rfl
  | recorded =>
    simp only [facts] at hthere
    subst hthere
    simp only [run, statement_eq_next, bind_eq_ok, pure_eq_ok, Outcome.next.injEq] at hrun
    obtain ⟨-, -, -, -, -, rfl, rfl⟩ := hrun
    rfl
  | quote quoteId =>
    simp only [facts] at hthere
    subst hthere
    simp only [run, statement_eq_next, bind_eq_ok, buildResource, pure_eq_ok,
      Outcome.next.injEq] at hrun
    obtain ⟨quote, -, -, -, -, -, -, rfl, rfl⟩ := hrun
    exact .refl d'
  | bind quote rail =>
    simp only [run, statement_eq_next, bind_eq_ok, pure_eq_ok, Outcome.next.injEq] at hrun
    obtain ⟨step, hstep, -, rfl, rfl⟩ := hrun
    simp only [facts] at hthere
    have hquiet : Quiet d' (runWrites (writes ++ step.changes.map Change.write) d') := by
      rw [runWrites_append]
      exact hthere.trans (quiet_changes (Rail.quiet hstep))
    cases step.place <;> exact hquiet
  | bound quote => cases hrun
  | lockActive quote =>
    simp only [facts] at hhere hthere
    subst hhere
    simp only [run, statement_eq_next, bind_eq_ok, orReject_eq_ok, pure_eq_ok, locking_eq_next] at hrun
    obtain ⟨rows, hrows, rfl, rfl, rfl⟩ := hrun
    refine ⟨owned_of_active hrows fun k hk => hagree k (List.mem_append_left _ hk), .refl d'⟩
  | existing quote =>
    simp only [run, Outcome.next.injEq] at hrun
    obtain ⟨-, rfl, rfl⟩ := hrun
    simpa [facts] using hthere
  | rebind quote existing rail =>
    simp only [run, statement_eq_next, bind_eq_ok, pure_eq_ok, Outcome.next.injEq] at hrun
    obtain ⟨step, hstep, -, rfl, rfl⟩ := hrun
    have hkeep := keep hthere (Rail.quiet hstep)
    cases step.place <;> exact hkeep
  | citation quote existing =>
    simp only [run, statement_eq_next, bind_eq_ok, pure_eq_ok, Outcome.next.injEq] at hrun
    obtain ⟨sale, -, -, rfl, rfl⟩ := hrun
    rw [List.append_nil]
    cases existing <;> exact hthere
  | insertSettlement quote sale =>
    simp only [run, statement_eq_next, insertSettlement, bind_eq_ok] at hrun
    obtain ⟨changes, hchanges, hrun⟩ := hrun
    split at hrun
    · simp only [pure_eq_ok, writing_eq_next] at hrun
      obtain ⟨-, rfl, rfl⟩ := hrun
      exact keep hthere (settlementTrigger_quiet hchanges)
    · simp only [pure_eq_ok, writing_eq_next] at hrun
      obtain ⟨-, rfl, rfl⟩ := hrun
      refine keep hthere ?_
      intro c hc
      rcases List.mem_append.mp hc with hc | hc
      · exact settlementTrigger_quiet hchanges c hc
      · simp only [List.mem_singleton] at hc
        subst hc
        rfl
  | ignored quote =>
    simp only [run, statement_eq_next, bind_eq_ok, pure_eq_ok, Outcome.next.injEq] at hrun
    obtain ⟨-, -, -, rfl, rfl⟩ := hrun
    simpa [facts] using hthere
  | deliverQuote quote sale =>
    simp only [run, writing_eq_next] at hrun
    obtain ⟨-, rfl, rfl⟩ := hrun
    exact keep hthere deliverQuote_quiet
  | memory quote sale =>
    simp only [run, writing_eq_next] at hrun
    obtain ⟨-, rfl, rfl⟩ := hrun
    exact keep hthere creditMemories_quiet
  | access quote sale =>
    simp only [run, statement_eq_next, bind_eq_ok, pure_eq_ok, writing_eq_next] at hrun
    obtain ⟨-, -, -, rfl, rfl⟩ := hrun
    exact keep hthere (by simp [Change.isQuiet])
  | earning quote sale =>
    simp only [run, statement_eq_next, bind_eq_ok, pure_eq_ok, writing_eq_next] at hrun
    obtain ⟨changes, hchanges, -, rfl, rfl⟩ := hrun
    exact keep hthere (insertEarning_quiet hchanges)
  | settleAttempt quote =>
    simp only [run, statement_eq_next, settleAttempt, bind_eq_ok, orReject_eq_ok, pure_eq_ok,
      writing_eq_next, Option.filter_eq_some_iff] at hrun
    obtain ⟨attempt, ⟨hattempt, -⟩, changes, hchanges, -, rfl, rfl⟩ := hrun
    obtain ⟨fences, rfl⟩ := updateAttempt_changes hchanges
    obtain ⟨-, hjob, -, hkey⟩ := fencedAttempt_spec hattempt
    refine ⟨hthere.1, settled request input attempt, hkey, hjob, ?_, ?_⟩
    · simp [isActive, settled]
    · rw [runWrites_append]
      exact (attemptWritten_changes fenceChanges_quiet).after hthere.2
  | signature quote =>
    simp only [run, statement_eq_next, bind_eq_ok, pure_eq_ok, Outcome.next.injEq] at hrun
    obtain ⟨attempt, -, -, rfl, rfl⟩ := hrun
    simp only [List.append_nil]
    cases attempt.transactionSignature <;> exact hthere
  | register quote signature =>
    simp only [run] at hrun
    split at hrun
    · simp only [Outcome.next.injEq] at hrun
      obtain ⟨-, rfl, rfl⟩ := hrun
      simpa [facts] using hthere
    · simp only [writing_eq_next] at hrun
      obtain ⟨-, rfl, rfl⟩ := hrun
      refine ⟨hthere.1, ?_⟩
      rw [runWrites_append]
      exact hthere.2.trans (quiet_changes (by simp [Change.isQuiet]))
  | registered quote signature =>
    simp only [run, statement_eq_next, bind_eq_ok, pure_eq_ok, Outcome.next.injEq] at hrun
    obtain ⟨-, -, -, rfl, rfl⟩ := hrun
    simpa [facts] using hthere
  | clearJob quote =>
    simp only [run, statement_eq_next, bind_eq_ok, orReject_eq_ok, pure_eq_ok, writing_eq_next,
      fencedJob, Option.filter_eq_some_iff] at hrun
    obtain ⟨job, ⟨hjob, -⟩, -, rfl, rfl⟩ := hrun
    have hkey := Table.get?_key hjob
    intro hd
    rw [runWrites_append]
    exact cleared_consistent hd hthere.1 hthere.2 hkey
  | commit => cases hrun
  | report reading =>
    simp only [facts] at hthere
    subst hthere
    simp only [run, Research.report, statement_eq_next, bind_eq_ok] at hrun
    obtain ⟨result, -, hrun⟩ := hrun
    cases result with
    | inl reading =>
      simp only [pure_eq_ok, Outcome.next.injEq] at hrun
      obtain ⟨-, rfl, rfl⟩ := hrun
      rfl
    | inr current =>
      simp only [pure_eq_ok] at hrun
      cases hrun

theorem commits (hrun : run env request input d place = .commit place') :
    (∃ quote, place = .bound quote ∧ place' = .lockActive quote) ∨
      (place = .commit ∧ place' = .report .job) := by
  cases place with
  | commit =>
    cases hrun
    exact .inr ⟨rfl, rfl⟩
  | bound quote =>
    cases hrun
    exact .inl ⟨quote, rfl, rfl⟩
  | attempt =>
    simp only [run, statement_eq_commit, bind_eq_ok, consider] at hrun
    obtain ⟨attempt, -, -, -, hrun⟩ := hrun
    split at hrun <;> simp only [bind_eq_ok, pure_eq_ok, reduceCtorEq, and_false,
      exists_false] at hrun
  | insertSettlement quote sale =>
    simp only [run, statement_eq_commit, insertSettlement, bind_eq_ok] at hrun
    obtain ⟨changes, -, hrun⟩ := hrun
    split at hrun <;> simp only [pure_eq_ok, writing, reduceCtorEq] at hrun
  | register quote signature =>
    simp only [run] at hrun
    split at hrun <;> simp only [writing, reduceCtorEq] at hrun
  | report reading =>
    simp only [run, Research.report, statement_eq_commit, bind_eq_ok] at hrun
    obtain ⟨result, -, hrun⟩ := hrun
    cases result <;> simp [pure_eq_ok] at hrun
  | _ =>
    simp only [run, statement_eq_commit, bind_eq_ok, pure_eq_ok, writing, locking, buildResource,
      settleAttempt, reduceCtorEq, and_false, exists_false] at hrun

theorem commit (hinv : Consistent d) (hhere : facts request place writes d)
    (hrun : run env request input (runWrites writes d) place = .commit place') :
    Consistent (runWrites writes d) ∧ ∀ d', facts request place' [] d' := by
  rcases commits hrun with ⟨quote, rfl, rfl⟩ | ⟨rfl, rfl⟩
  · exact ⟨hhere.consistent hinv, fun _ => rfl⟩
  · exact ⟨hhere hinv, fun _ => rfl⟩

end Outline

end Settle

end Obulus.Research
