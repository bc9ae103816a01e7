import Obulus.Research.Reconciliation

namespace Obulus.Research

open Foundation Store

variable {env : Environment} {db db' d : Database} {a b a' : PaymentAttempt} {clock clock' now later : Nat}

section Changes

variable {changes : List Change} {assigned : List Guards.Column} {fences : Guards.Fences}
  {quoteId : String}

theorem runChanges_fences : (runChanges (fenceChanges d fences quoteId) db).paymentAttempts =
      db.paymentAttempts ∧
    (runChanges (fenceChanges d fences quoteId) db).bundleQuotes = db.bundleQuotes := by
  unfold fenceChanges
  split
  · exact ⟨rfl, rfl⟩
  · split <;> exact ⟨rfl, rfl⟩

-- the shape of an attempt that may yet be paid, as the triggers see it
structure Complete (a : PaymentAttempt) : Prop where
  core : ¬(Guards.Postgres.coreComplete (Guards.Postgres.ofResearch a.toResearchAttempt)).fails
  unfinished : a.completedAt = none

theorem updateAttempt_effect (h : updateAttempt db assigned a a' = .ok changes) :
    (runChanges changes db).paymentAttempts = db.paymentAttempts.put a' ∧
      (runChanges changes db).bundleQuotes = db.bundleQuotes := by
  simp only [updateAttempt, bind_eq_ok, pure_eq_ok] at h
  obtain ⟨fences, -, -, -, rfl⟩ := h
  exact runChanges_fences

theorem triggerError_eq_ok {x : Except String Guards.Fences} :
    triggerError x = .ok fences ↔ x = .ok fences := by
  cases x <;> simp [triggerError]

theorem complete_of_update (h : updateAttempt db assigned a a' = .ok changes)
    (hstatus : a'.status = .prepared ∨ a'.status = .ambiguous) : Complete a' := by
  simp only [updateAttempt, bind_eq_ok, triggerError_eq_ok, Guards.Postgres.apply,
    Guards.Postgres.updateRow, Guards.raise_eq_ok] at h
  obtain ⟨_, ⟨_, -, _, -, _, -, _, -, _, hshape, -⟩, -⟩ := h
  simp only [Truth.holds_or, Truth.holds_not, not_or, Guards.Postgres.settledShape] at hshape
  have hopen := hshape.2
  have hnot : ¬(Truth.all [.is ((Guards.Postgres.ofResearch a'.toResearchAttempt).status = .settled),
      .not (Guards.Postgres.deliveredQuote db.surroundings
        (Guards.Postgres.ofResearch a'.toResearchAttempt).quoteId)]).holds := by
    rcases hstatus with hs | hs <;> simp [Guards.Postgres.ofResearch, hs]
  rw [if_neg hnot] at hopen
  rcases hstatus with hs | hs
  · simp only [Guards.Postgres.shapeValid, Guards.Postgres.ofResearch, hs] at hopen
    simp at hopen
    exact ⟨hopen.1, hopen.2⟩
  · simp only [Guards.Postgres.shapeValid, Guards.Postgres.ofResearch, hs] at hopen
    simp at hopen
    exact ⟨hopen.1, hopen.2⟩

-- a change of no column that a trigger guards but the status
theorem updateAttempt_progress (hassigned : ∀ c ∈ assigned,
      c ∈ [.status, .failureReason, .completedAt, .reconcileAfter, .absenceObservedAt])
    (hclaim : Guards.Postgres.claimOnStatus db.surroundings .research assigned
      (Guards.Postgres.ofResearch a'.toResearchAttempt) = .ok fences)
    (htransition : ¬(Guards.Postgres.transitionValid .research
      (Guards.Postgres.ofResearch a.toResearchAttempt)
      (Guards.Postgres.ofResearch a'.toResearchAttempt)).fails)
    (hshape : ¬(Guards.Postgres.settledShape .research
      (Guards.Postgres.ofResearch a'.toResearchAttempt) db.surroundings).fails)
    (hold : a.status = .prepared ∨ a'.status ≠ .prepared) :
    ∃ changes, updateAttempt db assigned a a' = .ok changes := by
  have hother (columns : List Guards.Column) (trigger : Except String Unit) (hcolumns : ∀ c ∈ columns,
      c ∉ [.status, .failureReason, .completedAt, .reconcileAfter, .absenceObservedAt]) :
      Guards.onUpdateOf assigned columns trigger = .ok () := by
    rw [Guards.onUpdateOf, if_neg]
    rintro ⟨c, hc, hc'⟩
    exact hcolumns c hc (hassigned c hc')
  have hevidence := hother Guards.Postgres.evidenceColumns
  have hidentity := hother (Guards.Postgres.identityColumns .research)
  have hreceipt := hother [.transactionSignature]
  have hvalid : ¬(Truth.or (.not (Guards.Postgres.transitionValid .research
      (Guards.Postgres.ofResearch a.toResearchAttempt)
      (Guards.Postgres.ofResearch a'.toResearchAttempt)))
      (.not (Guards.Postgres.settledShape .research
        (Guards.Postgres.ofResearch a'.toResearchAttempt) db.surroundings))).holds := by
    simp [htransition, hshape]
  have hfirst : ¬(a.status = .claimed ∧ a'.status = .prepared ∧
      isBound db a'.challengeId a'.externalId a'.challengeExpiresAt a'.quoteId .research
        a'.attemptId = false) := by
    rintro ⟨hclaimed, hprepared, -⟩
    rcases hold with hold | hold
    · rw [hold] at hclaimed
      cases hclaimed
    · exact hold hprepared
  have hsecond : ¬(a.status ≠ .prepared ∧ a'.status = .prepared ∧ db.holdsUnresolved = true) := by
    rintro ⟨hne, hprepared, -⟩
    rcases hold with hold | hold
    · exact hne hold
    · exact hold hprepared
  simp only [updateAttempt, bind_eq_ok, triggerError_eq_ok, Guards.Postgres.apply,
    Guards.Postgres.updateRow, Guards.raise_eq_ok, statusTriggers, reject_eq_ok, exists_const,
    pure_eq_ok]
  exact ⟨_, _, ⟨fences, hclaim, (), hevidence _ (by decide), (), hidentity _ (by decide), (),
    hreceipt _ (by decide), hvalid, rfl⟩, ⟨hfirst, hsecond⟩, rfl⟩

theorem updateAttempt_same (hstatus : a.status = .prepared ∨ a.status = .ambiguous) (ha : Complete a)
    (hrow : a'.toResearchAttempt = a.toResearchAttempt) :
    ∃ changes, updateAttempt db [.reconcileAfter, .absenceObservedAt] a a' = .ok changes := by
  have hcore := ha.core
  have hopen := ha.unfinished
  apply @updateAttempt_progress db a a' [.reconcileAfter, .absenceObservedAt] db.surroundings.fences
  · decide
  · rfl
  · rw [hrow]
    simp [Guards.Postgres.transitionValid]
  · rw [hrow]
    simp only [Guards.Postgres.settledShape]
    rcases hstatus with hs | hs
    · rw [if_neg (by simp [Guards.Postgres.ofResearch, hs])]
      simp [Guards.Postgres.shapeValid, Guards.Postgres.ofResearch, hs, hopen]
      exact hcore
    · rw [if_neg (by simp [Guards.Postgres.ofResearch, hs])]
      simp [Guards.Postgres.shapeValid, Guards.Postgres.ofResearch, hs, hopen]
      exact hcore
  · have hsame : a'.status = a.status := congrArg Guards.ResearchAttempt.status hrow
    rcases hstatus with hs | hs
    · exact .inl hs
    · right
      rw [hsame, hs]
      decide

theorem updateAttempt_release (hstatus : a.status = .prepared ∨ a.status = .ambiguous)
    (ha : Complete a) {reason : String} (hlater : a.createdAt ≤ later) :
    ∃ changes, updateAttempt db [.status, .failureReason, .completedAt] a
      (Sequential.released later reason a) = .ok changes := by
  have hcore := ha.core
  apply @updateAttempt_progress db a (Sequential.released later reason a)
    [.status, .failureReason, .completedAt] db.surroundings.fences
  · decide
  · rfl
  · rcases hstatus with hs | hs <;>
      simp [Guards.Postgres.transitionValid, Guards.Postgres.ofResearch, Sequential.released, hs]
  · simp only [Guards.Postgres.settledShape]
    rw [if_neg (by simp [Guards.Postgres.ofResearch, Sequential.released])]
    simp [Guards.Postgres.shapeValid, Guards.Postgres.ofResearch, Sequential.released, hlater]
    intro _
    exact hcore
  · right
    simp [Sequential.released]

end Changes

section Invariant

def Owned (db : Database) (a : PaymentAttempt) : Prop :=
  ∃ job, db.bundleQuotes.get? a.jobId = some job ∧ job.paymentAttemptQuoteId = some a.quoteId ∧
    job.paymentAttemptId = some a.attemptId ∧ Sequential.isReserved job.status = true

-- what is known of an attempt that may yet be paid
structure AttemptOk (clock : Nat) (db : Database) (a : PaymentAttempt) : Prop where
  hex : isHexDigest a.attemptId = true
  created : 0 ≤ a.createdAt ∧ a.createdAt ≤ clock
  unprepared : a.status = .claimed → a.preparedAt = none
  complete : a.status ≠ .claimed → Complete a
  prepared : 0 ≤ a.preparedAt.getD a.createdAt ∧ a.preparedAt.getD a.createdAt ≤ clock
  observed : ∀ t, a.absenceObservedAt = some t → t ≤ clock ∧ a.preparedAt.getD a.createdAt ≤ t
  stored : ∀ t, a.absenceObservedAt = some t → t ≤ i64Max
  owned : Owned db a

def Good (clock : Nat) (db : Database) : Prop :=
  ∀ a, db.paymentAttempts.get? a.attemptId = some a → isActive a.status = true → AttemptOk clock db a

theorem AttemptOk.mono (h : AttemptOk clock db a) (hle : clock ≤ clock') : AttemptOk clock' db a := by
  refine ⟨h.hex, ⟨h.created.1, ?_⟩, h.unprepared, h.complete, ⟨h.prepared.1, ?_⟩, ?_, h.stored,
    h.owned⟩
  · have hcreated := h.created.2
    omega
  · have hprepared := h.prepared.2
    omega
  · intro t ht
    obtain ⟨hclock, hprepared⟩ := h.observed t ht
    exact ⟨hclock.trans hle, hprepared⟩

theorem Good.mono (h : Good clock db) (hle : clock ≤ clock') : Good clock' db :=
  fun a ha hactive => (h a ha hactive).mono hle

-- one attempt is written, and the jobs of the others stay theirs
theorem Good.put (h : Good clock db) (hle : clock ≤ clock')
    (hattempts : db'.paymentAttempts = db.paymentAttempts.put a')
    (hothers : ∀ b, db.paymentAttempts.get? b.attemptId = some b → isActive b.status = true →
      b.attemptId ≠ a'.attemptId → Owned db' b)
    (hnew : isActive a'.status = true → AttemptOk clock' db' a') : Good clock' db' := by
  intro b hb hactive
  rw [hattempts, Table.get?_put] at hb
  by_cases hid : a'.attemptId = b.attemptId
  · rw [if_pos hid, Option.some.injEq] at hb
    subst hb
    exact hnew hactive
  · rw [if_neg hid] at hb
    have hok := (h b hb hactive).mono hle
    exact ⟨hok.hex, hok.created, hok.unprepared, hok.complete, hok.prepared, hok.observed, hok.stored,
      hothers b hb hactive (Ne.symm hid)⟩

theorem Good.jobs (h : Good clock db) (hattempts : db'.paymentAttempts = db.paymentAttempts)
    (howned : ∀ b, db.paymentAttempts.get? b.attemptId = some b → isActive b.status = true →
      Owned db' b) : Good clock db' := by
  intro b hb hactive
  rw [hattempts] at hb
  have hok := h b hb hactive
  exact ⟨hok.hex, hok.created, hok.unprepared, hok.complete, hok.prepared, hok.observed, hok.stored,
    howned b hb hactive⟩

theorem Owned.congr (h : Owned db a) (hjobs : db'.bundleQuotes = db.bundleQuotes)
    (hjob : b.jobId = a.jobId) (hquote : b.quoteId = a.quoteId) (hid : b.attemptId = a.attemptId) :
    Owned db' b := by
  obtain ⟨job, hget, hquoteId, hattemptId, hreserved⟩ := h
  exact ⟨job, by rw [hjobs, hjob, hget], by rw [hquoteId, hquote], by rw [hattemptId, hid], hreserved⟩

-- a job keeps its attempt
theorem Owned.job {job job' : Job} (h : Owned db a) (hget : db.bundleQuotes.get? job.id = some job)
    (hjobs : db'.bundleQuotes = db.bundleQuotes.put job') (hid : job'.id = job.id)
    (hkeeps : Sequential.isReserved job.status = true →
      job'.paymentAttemptQuoteId = job.paymentAttemptQuoteId ∧
        job'.paymentAttemptId = job.paymentAttemptId ∧ Sequential.isReserved job'.status = true) :
    Owned db' a := by
  obtain ⟨owner, howner, hquoteId, hattemptId, hreserved⟩ := h
  by_cases hjob : job.id = a.jobId
  · rw [hjob] at hget
    rw [hget, Option.some.injEq] at howner
    subst howner
    obtain ⟨hquote, hattempt, hstill⟩ := hkeeps hreserved
    refine ⟨job', ?_, hquote.trans hquoteId, hattempt.trans hattemptId, hstill⟩
    rw [hjobs, Table.get?_put, if_pos (hid.trans hjob)]
  · refine ⟨owner, ?_, hquoteId, hattemptId, hreserved⟩
    rw [hjobs, Table.get?_put, if_neg (by rwa [hid]), howner]

end Invariant

section Operations

variable {changes : List Change}

theorem job_key {job : Job} {id : String} (h : db.bundleQuotes.get? id = some job) : job.id = id :=
  @Table.get?_key _ _ (fun j : Job => j.id) _ _ _ _ h

theorem attempt_key {id : String} (h : db.paymentAttempts.get? id = some a) : a.attemptId = id :=
  @Table.get?_key _ _ (fun a : PaymentAttempt => a.attemptId) _ _ _ _ h

theorem insertAttempt_effect (h : insertAttempt db a = .ok changes) (hactive : isActive a.status = true) :
    (runChanges changes db).paymentAttempts = db.paymentAttempts.put a ∧
      (runChanges changes db).bundleQuotes = db.bundleQuotes ∧
      ∀ b, db.paymentAttempts.get? b.attemptId = some b → isActive b.status = true →
        b.jobId ≠ a.jobId := by
  simp only [insertAttempt, bind_eq_ok, pure_eq_ok, reject_eq_ok, exists_const] at h
  obtain ⟨fences, -, -, hnone, rfl⟩ := h
  refine ⟨runChanges_fences.1, runChanges_fences.2, ?_⟩
  intro b hb hbactive hjob
  apply hnone
  refine ⟨hactive, List.any_eq_true.mpr ⟨b, Table.get?_mem hb, ?_⟩⟩
  simp [hjob, hbactive]

theorem begin_good {request : BeginRequest} (h : Good clock db) (hle : clock ≤ now)
    (hbegin : Sequential.begin db now request = .ok db') : Good now db' := by
  simp only [Sequential.begin, bind_eq_ok, reject_eq_ok, orReject_eq_ok, exists_const, Begin.check,
    validateResearchAttemptId, Bool.not_eq_false] at hbegin
  obtain ⟨⟨-, hhex⟩, job, hjob, -, hbegin⟩ := hbegin
  unfold Sequential.beginFrom at hbegin
  split at hbegin
  · simp only [bind_eq_ok, reject_eq_ok, exists_const, pure_eq_ok] at hbegin
    rw [← hbegin.2]
    exact h.mono hle
  · simp only [Sequential.startAttempt, bind_eq_ok, reject_eq_ok, orReject_eq_ok, exists_const,
      pure_eq_ok, Option.filter_eq_some_iff, decide_eq_true_eq] at hbegin
    obtain ⟨-, -, -, -, -, changes, hinsert, owner, ⟨howner, hprocessing, -, -⟩, rfl⟩ := hbegin
    obtain ⟨hattempts, hjobs, hother⟩ := insertAttempt_effect hinsert rfl
    have hid : owner.id = request.jobId := job_key howner
    rw [hjobs, ← hid] at howner
    have hwrote : (runChanges [.job (Begin.inProgress request owner)]
        (runChanges changes db)).bundleQuotes = db.bundleQuotes.put (Begin.inProgress request owner) := by
      rw [← hjobs]
      rfl
    refine h.put hle hattempts ?_ ?_
    · intro b hb hactive _
      refine (h b hb hactive).owned.job howner hwrote rfl ?_
      intro hreserved
      rw [hprocessing] at hreserved
      cases hreserved
    · intro _
      refine ⟨hhex, ⟨by simp [Begin.attempt], by simp [Begin.attempt]⟩, fun _ => rfl, ?_,
        ⟨by simp [Begin.attempt], by simp [Begin.attempt]⟩, ?_, ?_, ?_⟩
      · intro hne
        exact absurd rfl hne
      · intro t ht
        cases ht
      · intro t ht
        cases ht
      · refine ⟨Begin.inProgress request owner, ?_, rfl, rfl, rfl⟩
        rw [hwrote, Table.get?_put, if_pos]
        exact hid

theorem prepare_good {request : PrepareRequest} (h : Good clock db) (hle : clock ≤ now)
    (hprepare : Sequential.prepare env db now request = .ok db')
    (hobserved : ∀ a t, db.paymentAttempts.get? request.attemptId = some a → a.status = .claimed →
      a.absenceObservedAt = some t → now ≤ t) : Good now db' := by
  simp only [Sequential.prepare, bind_eq_ok, reject_eq_ok, orReject_eq_ok, exists_const,
    exists_and_right] at hprepare
  obtain ⟨-, current, hcurrent, -, -, -, hprepare⟩ := hprepare
  unfold Sequential.prepareFrom at hprepare
  split at hprepare
  · rw [pure_eq_ok] at hprepare
    rw [← hprepare]
    exact h.mono hle
  · simp only [bind_eq_ok, reject_eq_ok, exists_const, pure_eq_ok, not_not] at hprepare
    obtain ⟨hclaimed, -, -, -, -, changes, hupdate, rfl⟩ := hprepare
    obtain ⟨hattempts, hjobs⟩ := updateAttempt_effect hupdate
    have hid : current.attemptId = request.attemptId := attempt_key hcurrent
    have hactive : isActive current.status = true := by rw [hclaimed]; rfl
    have hok := h current (hid ▸ hcurrent) hactive
    refine h.put hle hattempts ?_ ?_
    · intro b hb hbactive _
      exact (h b hb hbactive).owned.congr hjobs rfl rfl rfl
    · intro _
      have hcreated := hok.created
      refine ⟨hok.hex, ⟨hcreated.1, ?_⟩, ?_, fun _ => complete_of_update hupdate (.inl rfl), ?_, ?_,
        hok.stored, hok.owned.congr hjobs rfl rfl rfl⟩
      · change current.createdAt ≤ now
        omega
      · intro hne
        cases hne
      · simp [Prepare.prepared]
      · intro t ht
        have ht' : current.absenceObservedAt = some t := ht
        have hearlier := (hok.observed t ht').1
        have hlater := hobserved current t hcurrent hclaimed ht'
        refine ⟨by omega, ?_⟩
        simp [Prepare.prepared, hlater]

theorem defer_good {jobId attemptId : String} {absenceObserved : Bool} (h : Good clock db)
    (hle : clock ≤ later)
    (hdefer : Sequential.defer db now later jobId attemptId absenceObserved = .ok db') :
    Good later db' := by
  simp only [Sequential.defer, bind_eq_ok, orReject_eq_ok, pure_eq_ok, asI64_eq_ok,
    Option.filter_eq_some_iff, Bool.and_eq_true] at hdefer
  obtain ⟨_, -, reconcileAfter, -, observedAt, ⟨hrange, hnow⟩, current, ⟨hcurrent, -, hactive⟩,
    changes, hupdate, rfl⟩ := hdefer
  rw [hnow] at hupdate
  obtain ⟨hattempts, hjobs⟩ := updateAttempt_effect hupdate
  have hid : current.attemptId = trim attemptId := attempt_key hcurrent
  have hok := h current (hid ▸ hcurrent) hactive
  have hcreated := hok.created
  have hprepared := hok.prepared
  refine h.put hle hattempts ?_ ?_
  · intro b hb hbactive _
    exact (h b hb hbactive).owned.congr hjobs rfl rfl rfl
  · intro _
    refine ⟨hok.hex, ⟨hcreated.1, ?_⟩, hok.unprepared, ?_, ⟨hprepared.1, ?_⟩, ?_,
      ?_, hok.owned.congr hjobs rfl rfl rfl⟩
    · change current.createdAt ≤ later
      omega
    · intro hne
      exact ⟨(hok.complete hne).core, (hok.complete hne).unfinished⟩
    · change current.preparedAt.getD current.createdAt ≤ later
      omega
    · intro t ht
      change t ≤ later ∧ current.preparedAt.getD current.createdAt ≤ t
      simp only [Sequential.deferred] at ht
      split at ht
      · rw [Option.some.injEq] at ht
        subst ht
        cases hold : current.absenceObservedAt with
        | none =>
          simp only [Option.getD_none, le_refl, true_and]
          omega
        | some t =>
          have hobserved := hok.observed t hold
          simp only [Option.getD_some]
          omega
      · have hobserved := hok.observed t ht
        omega
    · intro t ht
      simp only [Sequential.deferred] at ht
      split at ht
      · rw [Option.some.injEq] at ht
        subst ht
        cases hold : current.absenceObservedAt with
        | none => exact hrange
        | some t => exact hok.stored t hold
      · exact hok.stored t ht

theorem holdAttempt_good {jobId reason attemptId : String} {p : PaymentAttempt → Bool}
    (h : Good clock db) (hhold : Sequential.holdAttempt db now jobId reason attemptId p = .ok db') :
    Good clock db' := by
  unfold Sequential.holdAttempt at hhold
  split at hhold
  · cases hhold
    exact h
  · next current hfound =>
    simp only [bind_eq_ok, pure_eq_ok] at hhold
    obtain ⟨changes, hupdate, rfl⟩ := hhold
    simp only [Option.filter_eq_some_iff, Bool.and_eq_true, decide_eq_true_eq] at hfound
    obtain ⟨hcurrent, ⟨-, hprepared⟩, -⟩ := hfound
    obtain ⟨hattempts, hjobs⟩ := updateAttempt_effect hupdate
    have hid : current.attemptId = attemptId := attempt_key hcurrent
    have hok := h current (hid ▸ hcurrent) (by rw [hprepared]; rfl)
    refine h.put (le_refl clock) hattempts ?_ ?_
    · intro b hb hbactive _
      exact (h b hb hbactive).owned.congr hjobs rfl rfl rfl
    · intro _
      refine ⟨hok.hex, hok.created, ?_, fun _ => complete_of_update hupdate (.inr rfl), hok.prepared,
        hok.observed, hok.stored, hok.owned.congr hjobs rfl rfl rfl⟩
      intro hne
      cases hne

theorem hold_good {jobId error : String} (h : Good clock db)
    (hhold : Sequential.hold db now jobId error = .ok db') : Good clock db' := by
  simp only [Sequential.hold, bind_eq_ok, reject_eq_ok, orReject_eq_ok, exists_const] at hhold
  obtain ⟨-, job, hjob, hhold⟩ := hhold
  have hkey : job.id = trim jobId := job_key hjob
  rw [← hkey] at hjob
  unfold Sequential.holdFrom at hhold
  split at hhold
  · simp only [Sequential.holdAgain, bind_eq_ok, orReject_eq_ok] at hhold
    obtain ⟨owner, -, _, -, hhold⟩ := hhold
    exact holdAttempt_good h hhold
  · split at hhold
    · cases hhold
      refine h.jobs rfl ?_
      intro b hb hactive
      exact (h b hb hactive).owned.job hjob rfl rfl fun hreserved => ⟨rfl, rfl, hreserved⟩
    · simp only [Sequential.holdInProgress, bind_eq_ok, reject_eq_ok, orReject_eq_ok,
        exists_const] at hhold
      obtain ⟨-, quoteId, -, attemptId, -, -, _, -, hhold⟩ := hhold
      apply holdAttempt_good _ hhold
      refine h.jobs rfl ?_
      intro b hb hactive
      exact (h b hb hactive).owned.job hjob rfl rfl fun _ => ⟨rfl, rfl, rfl⟩

theorem release_good {request : ReleaseRequest} (h : Good clock db)
    (hrelease : Sequential.release db now later request = .ok db') : Good clock db' := by
  simp only [Sequential.release, Sequential.releaseFrom, bind_eq_ok, reject_eq_ok, orReject_eq_ok,
    exists_const, pure_eq_ok, Option.filter_eq_some_iff, Bool.and_eq_true,
    decide_eq_true_eq] at hrelease
  obtain ⟨_, -, -, -, a, ⟨ha, -⟩, _, -, job, ⟨hjob, ⟨hquote, hattempt⟩, -⟩, _, -, changes, hupdate,
    rfl⟩ := hrelease
  obtain ⟨hattempts, hjobs⟩ := updateAttempt_effect hupdate
  have hkey : job.id = a.jobId := job_key hjob
  refine h.put (le_refl clock) hattempts ?_ ?_
  · intro b hb hactive hne
    obtain ⟨owner, howner, hbquote, hbattempt, hreserved⟩ := (h b hb hactive).owned
    have hother : job.id ≠ b.jobId := by
      intro heq
      rw [← heq, hkey, hjob, Option.some.injEq] at howner
      subst howner
      rw [hattempt, Option.some.injEq] at hbattempt
      exact hne hbattempt.symm
    refine ⟨owner, ?_, hbquote, hbattempt, hreserved⟩
    rw [hjobs]
    change (db.bundleQuotes.put (Sequential.releaseJob job)).get? b.jobId = some owner
    rw [Table.get?_put, if_neg, howner]
    exact hother
  · intro hactive
    cases hactive

end Operations

section Runs

variable {w w' : Desk} {call : Call} {calls : List Call}

-- no preparation is accepted that leaves behind it an absence observed before
def Unobserved (env : Environment) (w : Desk) (call : Call) : Prop :=
  ∀ request, call.operation = .prepare request → (execute env w.db call).isOk = true →
    ∀ a t, w.db.paymentAttempts.get? (trim request.attemptId) = some a → a.status = .claimed →
      a.absenceObservedAt = some t → call.now ≤ t

theorem DeskStep.good (h : Good w.clock w.db) (hstep : DeskStep env w call w')
    (hunobserved : Unobserved env w call) : Good w'.clock w'.db := by
  cases hstep with
  | error hnow hlater _ => exact h.mono (hnow.trans hlater)
  | @ok db' hnow hlater hexecute =>
    have hle : w.clock ≤ call.later := hnow.trans hlater
    have haccepted : (execute env w.db call).isOk = true := by
      rw [hexecute]
      rfl
    change Good call.later db'
    unfold execute at hexecute
    split at hexecute
    · exact (begin_good h hnow hexecute).mono hlater
    · exact defer_good h hle hexecute
    · next request hoperation =>
      exact (prepare_good h hnow hexecute (hunobserved request hoperation haccepted)).mono hlater
    · exact (hold_good h hexecute).mono hle
    · exact (release_good h hexecute).mono hle

end Runs

section Progress

variable {request : ReleaseRequest} {jobId attemptId : String} {t : Nat}

theorem defer_progress (h : Good clock db) (hlater : now ≤ later)
    (hrange : later + researchPaymentRetryAfterMs ≤ i64Max)
    (ha : db.paymentAttempts.get? (trim attemptId) = some a) (hjob : a.jobId = trim jobId)
    (hstatus : a.status = .prepared ∨ a.status = .ambiguous) :
    ∃ db', Sequential.defer db now later jobId attemptId true = .ok db' ∧
      db'.paymentAttempts.get? (trim attemptId) = some (Sequential.deferred true
        (now + researchPaymentRetryAfterMs) later a) := by
  have hid : a.attemptId = trim attemptId := attempt_key ha
  have hactive : isActive a.status = true := by rcases hstatus with hs | hs <;> rw [hs] <;> rfl
  have hok := h a (hid ▸ ha) hactive
  have hne : a.status ≠ .claimed := by rcases hstatus with hs | hs <;> rw [hs] <;> decide
  have hafter : saturatingAdd now researchPaymentRetryAfterMs = now + researchPaymentRetryAfterMs := by
    simp only [saturatingAdd, i64Max, u64Max] at hrange ⊢
    omega
  obtain ⟨changes, hupdate⟩ := @updateAttempt_same db a
    (Sequential.deferred true (now + researchPaymentRetryAfterMs) later a) hstatus (hok.complete hne) rfl
  obtain ⟨hattempts, -⟩ := updateAttempt_effect hupdate
  refine ⟨runChanges changes db, ?_, ?_⟩
  · simp only [Sequential.defer, bind_eq_ok, orReject_eq_ok, pure_eq_ok, asI64_eq_ok, hafter,
      Option.filter_eq_some_iff, Bool.and_eq_true, decide_eq_true_eq, validateResearchAttemptId,
      reject_eq_ok]
    refine ⟨(), ?_, now + researchPaymentRetryAfterMs, ⟨by omega, rfl⟩, later, ⟨by omega, rfl⟩, a,
      ⟨ha, hjob, hactive⟩, changes, hupdate, rfl⟩
    rw [← hid, hok.hex]
    decide
  · rw [hattempts, Table.get?_put, if_pos]
    exact hid

theorem release_progress (h : Good clock db) (hnow : clock ≤ now) (hlater : now ≤ later)
    (hrange : later ≤ i64Max) (ha : db.paymentAttempts.get? (trim request.attemptId) = some a)
    (hjob : a.jobId = trim request.jobId) (hstatus : a.status = .prepared ∨ a.status = .ambiguous)
    (hexpected : trim request.expectedStatus = attemptStatusText a.status)
    (hreason : trim request.reason ≠ "" ∧ (trim request.reason).utf8ByteSize ≤ 1000)
    (hobserved : a.absenceObservedAt = some t)
    (hwait : t + researchPaymentAbsenceConfirmationMs ≤ now) :
    ∃ db', Sequential.release db now later request = .ok db' ∧
      (db'.paymentAttempts.get? (trim request.attemptId)).any (fun a => a.status = .released) = true := by
  have hid : a.attemptId = trim request.attemptId := attempt_key ha
  have hactive : isActive a.status = true := by rcases hstatus with hs | hs <;> rw [hs] <;> rfl
  have hok := h a (hid ▸ ha) hactive
  have hne : a.status ≠ .claimed := by rcases hstatus with hs | hs <;> rw [hs] <;> decide
  have hunclaimed : attemptStatusText a.status ≠ "claimed" := by
    rcases hstatus with hs | hs <;> rw [hs] <;> decide
  obtain ⟨job, hget, hquote, hattempt, hreserved⟩ := hok.owned
  have hcreated := hok.created
  obtain ⟨hclock, hprepared⟩ := hok.observed t hobserved
  have hpositive := hok.prepared.1
  set freed := runChanges [.job (Sequential.releaseJob job)] db with hfreed
  obtain ⟨changes, hupdate⟩ := @updateAttempt_release freed a later hstatus (hok.complete hne)
    (trim request.reason) (by omega)
  obtain ⟨hattempts, -⟩ := updateAttempt_effect hupdate
  refine ⟨runChanges changes freed, ?_, ?_⟩
  · simp only [Sequential.release, Sequential.releaseFrom, bind_eq_ok, reject_eq_ok, orReject_eq_ok,
      exists_const, pure_eq_ok, asI64_eq_ok, Option.filter_eq_some_iff, Bool.and_eq_true,
      decide_eq_true_eq, validateResearchAttemptId]
    refine ⟨?_, ?_, ?_, a, ⟨ha, hjob⟩, (), ?_, job, ⟨hget, ⟨hquote, hattempt⟩, hreserved⟩, later,
      ⟨hrange, rfl⟩, changes, hupdate, rfl⟩
    · rw [← hid, hok.hex]
      decide
    · rw [hexpected]
      rcases hstatus with hs | hs <;> rw [hs] <;> decide
    · rintro (hempty | hlong)
      · exact hreason.1 hempty
      · omega
    · have hsaturated : ¬now < saturatingAdd t researchPaymentAbsenceConfirmationMs := by
        simp only [saturatingAdd]
        omega
      simp only [Sequential.checkRelease, bind_eq_ok, reject_eq_ok, exists_const, hexpected,
        if_neg hunclaimed, Sequential.checkAbsence, orReject_eq_ok]
      refine ⟨by omega, by simp, fun hclaimed => hunclaimed hclaimed.1, t, hobserved, ?_, hsaturated⟩
      rintro (hearly | hlate) <;> omega
  · rw [hattempts]
    change ((db.paymentAttempts.put (Sequential.released later (trim request.reason) a)).get?
      (trim request.attemptId)).any _ = true
    rw [Table.get?_put, if_pos]
    · rfl
    · exact hid

end Progress

section History

variable {call : Call} {calls : List Call} {w w' : Desk} {b : PaymentAttempt} {id : String}

-- where the two times of a row come from
inductive Origin (call : Call) (db : Database) (b : PaymentAttempt) : Prop
  | started : b.preparedAt = none → b.absenceObservedAt = none → Origin call db b
  | kept {a : PaymentAttempt} : db.paymentAttempts.get? b.attemptId = some a →
      b.preparedAt = a.preparedAt → b.absenceObservedAt = a.absenceObservedAt → Origin call db b
  | prepared {a : PaymentAttempt} {request : PrepareRequest} :
      db.paymentAttempts.get? b.attemptId = some a → call.operation = .prepare request →
      trim request.attemptId = b.attemptId → b.preparedAt = some (call.now : Int) →
      b.absenceObservedAt = a.absenceObservedAt → Origin call db b
  | observed {a : PaymentAttempt} {jobId attemptId : String} :
      db.paymentAttempts.get? b.attemptId = some a → call.operation = .defer jobId attemptId true →
      trim attemptId = b.attemptId → b.preparedAt = a.preparedAt →
      b.absenceObservedAt = some (a.absenceObservedAt.getD call.later) → Origin call db b

def Originates (call : Call) (db db' : Database) : Prop :=
  ∀ b, db'.paymentAttempts.get? b.attemptId = some b → Origin call db b

theorem originates_same (hattempts : db'.paymentAttempts = db.paymentAttempts) :
    Originates call db db' := by
  intro b hb
  rw [hattempts] at hb
  exact .kept hb rfl rfl

theorem originates_put (hattempts : db'.paymentAttempts = db.paymentAttempts.put a)
    (horigin : Origin call db a) : Originates call db db' := by
  intro b hb
  rw [hattempts, Table.get?_put] at hb
  split at hb
  · rw [Option.some.injEq] at hb
    subst hb
    exact horigin
  · exact .kept hb rfl rfl

theorem begin_originates {request : BeginRequest}
    (hbegin : Sequential.begin db now request = .ok db') : Originates call db db' := by
  simp only [Sequential.begin, bind_eq_ok, reject_eq_ok, orReject_eq_ok, exists_const] at hbegin
  obtain ⟨_, -, job, -, -, hbegin⟩ := hbegin
  unfold Sequential.beginFrom at hbegin
  split at hbegin
  · simp only [bind_eq_ok, reject_eq_ok, exists_const, pure_eq_ok] at hbegin
    obtain ⟨-, rfl⟩ := hbegin
    exact originates_same rfl
  · simp only [Sequential.startAttempt, bind_eq_ok, reject_eq_ok, orReject_eq_ok, exists_const,
      pure_eq_ok] at hbegin
    obtain ⟨-, -, -, -, -, changes, hinsert, owner, -, rfl⟩ := hbegin
    exact originates_put (insertAttempt_effect hinsert rfl).1 (.started rfl rfl)

theorem prepare_originates {request : PrepareRequest} (hcall : call.operation = .prepare request)
    (hprepare : Sequential.prepare env db call.now request.trimmed = .ok db') :
    Originates call db db' := by
  simp only [Sequential.prepare, bind_eq_ok, reject_eq_ok, orReject_eq_ok, exists_const,
    exists_and_right] at hprepare
  obtain ⟨-, current, hcurrent, -, -, -, hprepare⟩ := hprepare
  unfold Sequential.prepareFrom at hprepare
  split at hprepare
  · rw [pure_eq_ok] at hprepare
    rw [← hprepare]
    exact originates_same rfl
  · simp only [bind_eq_ok, reject_eq_ok, exists_const, pure_eq_ok] at hprepare
    obtain ⟨-, -, -, -, -, changes, hupdate, rfl⟩ := hprepare
    have hid : current.attemptId = trim request.attemptId := attempt_key hcurrent
    have hheld : db.paymentAttempts.get? current.attemptId = some current := by rwa [hid]
    refine originates_put (updateAttempt_effect hupdate).1 ?_
    exact .prepared hheld hcall hid.symm rfl rfl

theorem defer_originates {jobId attemptId : String} {absenceObserved : Bool}
    (hcall : call.operation = .defer jobId attemptId absenceObserved)
    (hdefer : Sequential.defer db call.now call.later jobId attemptId absenceObserved = .ok db') :
    Originates call db db' := by
  simp only [Sequential.defer, bind_eq_ok, orReject_eq_ok, pure_eq_ok, asI64_eq_ok,
    Option.filter_eq_some_iff] at hdefer
  obtain ⟨_, -, reconcileAfter, -, observedAt, ⟨-, hlater⟩, current, ⟨hcurrent, -⟩, changes, hupdate,
    rfl⟩ := hdefer
  rw [hlater] at hupdate
  have hid : current.attemptId = trim attemptId := attempt_key hcurrent
  have hheld : db.paymentAttempts.get? current.attemptId = some current := by rwa [hid]
  refine originates_put (updateAttempt_effect hupdate).1 ?_
  cases absenceObserved with
  | false => exact .kept hheld rfl rfl
  | true => exact .observed hheld hcall hid.symm rfl rfl

theorem holdAttempt_originates {jobId reason attemptId : String} {p : PaymentAttempt → Bool}
    (hhold : Sequential.holdAttempt db now jobId reason attemptId p = .ok db') :
    Originates call db db' := by
  unfold Sequential.holdAttempt at hhold
  split at hhold
  · cases hhold
    exact originates_same rfl
  · next current hfound =>
    simp only [bind_eq_ok, pure_eq_ok] at hhold
    obtain ⟨changes, hupdate, rfl⟩ := hhold
    rw [Option.filter_eq_some_iff] at hfound
    have hheld : db.paymentAttempts.get? current.attemptId = some current := by
      rw [attempt_key hfound.1]
      exact hfound.1
    refine originates_put (updateAttempt_effect hupdate).1 ?_
    exact .kept hheld rfl rfl

theorem hold_originates {jobId error : String}
    (hhold : Sequential.hold db now jobId error = .ok db') : Originates call db db' := by
  simp only [Sequential.hold, bind_eq_ok, reject_eq_ok, orReject_eq_ok, exists_const] at hhold
  obtain ⟨-, job, -, hhold⟩ := hhold
  unfold Sequential.holdFrom at hhold
  split at hhold
  · simp only [Sequential.holdAgain, bind_eq_ok, orReject_eq_ok] at hhold
    obtain ⟨owner, -, _, -, hhold⟩ := hhold
    exact holdAttempt_originates hhold
  · split at hhold
    · cases hhold
      exact originates_same rfl
    · simp only [Sequential.holdInProgress, bind_eq_ok, reject_eq_ok, orReject_eq_ok,
        exists_const] at hhold
      obtain ⟨-, quoteId, -, attemptId, -, -, _, -, hhold⟩ := hhold
      intro b hb
      have horigin := @holdAttempt_originates _ _ _ call _ _ _ _ hhold b hb
      cases horigin with
      | started hp ho => exact .started hp ho
      | kept ha hp ho => exact .kept ha hp ho
      | prepared ha hc hi hp ho => exact .prepared ha hc hi hp ho
      | observed ha hc hi hp ho => exact .observed ha hc hi hp ho

theorem release_originates {request : ReleaseRequest}
    (hrelease : Sequential.release db now later request = .ok db') : Originates call db db' := by
  simp only [Sequential.release, Sequential.releaseFrom, bind_eq_ok, reject_eq_ok, orReject_eq_ok,
    exists_const, pure_eq_ok, Option.filter_eq_some_iff] at hrelease
  obtain ⟨_, -, -, -, a, ⟨ha, -⟩, _, -, job, -, _, -, changes, hupdate, rfl⟩ := hrelease
  have hheld : db.paymentAttempts.get? a.attemptId = some a := by
    rw [attempt_key ha]
    exact ha
  refine originates_put (updateAttempt_effect hupdate).1 ?_
  exact .kept hheld rfl rfl

theorem execute_originates (h : execute env db call = .ok db') : Originates call db db' := by
  unfold execute at h
  split at h
  · exact begin_originates h
  · next hoperation => exact defer_originates hoperation h
  · next hoperation => exact prepare_originates hoperation h
  · exact hold_originates h
  · exact release_originates h

def PreparedAt (calls : List Call) (id : String) (t : Int) : Prop :=
  ∃ call ∈ calls, ∃ request, call.operation = .prepare request ∧ trim request.attemptId = id ∧
    (call.now : Int) = t

def ObservedAt (calls : List Call) (id : String) (t : Nat) : Prop :=
  ∃ call ∈ calls, ∃ jobId attemptId, call.operation = .defer jobId attemptId true ∧
    trim attemptId = id ∧ call.later = t

structure Told (calls : List Call) (db : Database) : Prop where
  prepared : ∀ a t, db.paymentAttempts.get? a.attemptId = some a → a.preparedAt = some t →
    PreparedAt calls a.attemptId t
  observed : ∀ a t, db.paymentAttempts.get? a.attemptId = some a → a.absenceObservedAt = some t →
    ObservedAt calls a.attemptId t

theorem PreparedAt.snoc {t : Int} (h : PreparedAt calls id t) : PreparedAt (calls ++ [call]) id t := by
  obtain ⟨c, hc, hcall⟩ := h
  exact ⟨c, List.mem_append_left _ hc, hcall⟩

theorem ObservedAt.snoc {t : Nat} (h : ObservedAt calls id t) : ObservedAt (calls ++ [call]) id t := by
  obtain ⟨c, hc, hcall⟩ := h
  exact ⟨c, List.mem_append_left _ hc, hcall⟩

theorem Told.snoc (h : Told calls db) (horigin : Originates call db db') :
    Told (calls ++ [call]) db' := by
  have hlast : call ∈ calls ++ [call] := List.mem_append_right _ (List.mem_singleton_self call)
  constructor
  · intro b t hb ht
    cases horigin b hb with
    | started hprepared _ =>
      rw [hprepared] at ht
      cases ht
    | prepared _ hcall hid hprepared _ =>
      rw [hprepared, Option.some.injEq] at ht
      exact ⟨call, hlast, _, hcall, hid, ht⟩
    | kept ha hprepared _ | observed ha _ _ hprepared _ =>
      rw [hprepared] at ht
      have hid := attempt_key ha
      rw [← hid] at ha ⊢
      exact (h.prepared _ _ ha ht).snoc
  · intro b t hb ht
    cases horigin b hb with
    | started _ hobserved =>
      rw [hobserved] at ht
      cases ht
    | kept ha _ hobserved | prepared ha _ _ _ hobserved =>
      rw [hobserved] at ht
      have hid := attempt_key ha
      rw [← hid] at ha ⊢
      exact (h.observed _ _ ha ht).snoc
    | @observed a _ _ ha hcall htarget _ hobserved =>
      rw [hobserved, Option.some.injEq] at ht
      have hid := attempt_key ha
      cases hearlier : a.absenceObservedAt with
      | none =>
        rw [hearlier] at ht
        exact ⟨call, hlast, _, _, hcall, htarget, ht⟩
      | some t' =>
        rw [hearlier] at ht
        obtain rfl : t' = t := ht
        rw [← hid] at ha ⊢
        exact (h.observed _ _ ha hearlier).snoc

theorem run_told (hfresh : w.db.paymentAttempts.rows = []) (run : Trace (DeskStep env) w calls w') :
    Told calls w'.db := by
  refine run.history (P := fun calls w => Told calls w.db) ?_ ?_
  · constructor <;>
    · intro a t ha _
      have hmem := Table.get?_mem ha
      rw [hfresh] at hmem
      cases hmem
  · intro calls u call v _ htold hstep
    cases hstep with
    | ok _ _ hexecute => exact htold.snoc (execute_originates hexecute)
    | error _ _ _ =>
      constructor
      · intro a t ha ht
        exact (htold.prepared a t ha ht).snoc
      · intro a t ha ht
        exact (htold.observed a t ha ht).snoc

end History

end Obulus.Research
