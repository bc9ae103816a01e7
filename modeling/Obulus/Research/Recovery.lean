import Obulus.Research.Exclusion
import Obulus.Research.Reconcilable

namespace Obulus.Research

open Foundation Store

variable {env : Environment} {db db' : Database} {a : PaymentAttempt} {w w' start mid mid' : Desk}
  {call : Call} {calls : List Call} {clock : Nat}

section Guarantee

-- what ready() asks of the absences observed
def Visible (clock : Nat) (db : Database) : Prop :=
  ∀ now, clock ≤ now → ∀ a ∈ db.paymentAttempts.rows, absenceHidden now a = false

def InFlight (a : PaymentAttempt) : Prop := a.status = .prepared ∨ a.status = .ambiguous

structure ReleaseRequest.Names (request : ReleaseRequest) (a : PaymentAttempt) : Prop where
  job : trim request.jobId = a.jobId
  attempt : trim request.attemptId = a.attemptId
  status : trim request.expectedStatus = attemptStatusText a.status
  reason : trim request.reason ≠ "" ∧ (trim request.reason).utf8ByteSize ≤ 1000

def Guarded (env : Environment) (calls : List Call) (w : Desk) : Prop :=
  ∀ call request a, call.operation = .release request → w.clock ≤ call.now →
    call.now ≤ call.later → (execute env w.db call).isOk = true →
    w.db.paymentAttempts.get? (trim request.attemptId) = some a → InFlight a →
    ∃ p t, a.preparedAt = some p ∧ PreparedAt calls a.attemptId p ∧
      ObservedAt calls a.attemptId t ∧ p ≤ t ∧
      t + researchPaymentAbsenceConfirmationMs ≤ call.now

def Releases (env : Environment) (clock : Nat) (db : Database) (a : PaymentAttempt) : Prop :=
  ∀ request now later, request.Names a → clock + researchPaymentAbsenceConfirmationMs ≤ now →
    now ≤ later → later ≤ i64Max →
    ∃ db', execute env db ⟨now, later, .release request⟩ = .ok db' ∧ Visible later db' ∧
      (db'.paymentAttempts.get? a.attemptId).any (fun a => a.status = .released) = true

def Releasable (env : Environment) (w : Desk) : Prop :=
  ∀ a, w.db.paymentAttempts.get? a.attemptId = some a → InFlight a →
    ∀ jobId attemptId now later, trim jobId = a.jobId → trim attemptId = a.attemptId →
      w.clock ≤ now → now ≤ later → later + researchPaymentRetryAfterMs ≤ i64Max →
      ∃ db', execute env w.db ⟨now, later, .defer jobId attemptId true⟩ = .ok db' ∧
        Visible later db' ∧ Releases env later db' a

structure Reconcilable (env : Environment) (calls : List Call) (w : Desk) : Prop where
  guarded : Guarded env calls w
  visible : Visible w.clock w.db
  releasable : Releasable env w

def ReconcilableThroughout (env : Environment) (start : Desk) (calls : List Call) (w : Desk) : Prop :=
  ∀ as bs mid, calls = as ++ bs → Trace (DeskStep env) start as mid →
    Trace (DeskStep env) mid bs w → Reconcilable env as mid

def UnobservedThroughout (env : Environment) (start : Desk) (calls : List Call) (w : Desk) : Prop :=
  ∀ as call bs mid mid', calls = as ++ call :: bs → Trace (DeskStep env) start as mid →
    DeskStep env mid call mid' → Trace (DeskStep env) mid' bs w → Unobserved env mid call

theorem visible_of_good (h : Good clock db) : Visible clock db := by
  intro now hle a ha
  cases hactive : isActive a.status with
  | false => simp [absenceHidden, hactive]
  | true =>
    have hok := h a (Table.get?_of_mem ha) hactive
    simp only [absenceHidden, hactive, Bool.true_and]
    cases hobserved : a.absenceObservedAt with
    | none => rfl
    | some t =>
      obtain ⟨hclock, hprepared⟩ := hok.observed t hobserved
      have hrange := hok.stored t hobserved
      simp only [i64Max] at hrange
      have hlate : ¬saturatingAdd now recoveryScheduleClockSkewMs < t := by
        simp only [saturatingAdd, u64Max]
        omega
      apply decide_eq_false
      rintro (hearly | h)
      · omega
      · exact hlate h

theorem Complete.prepared (h : Complete a) : ∃ p, a.preparedAt = some p := by
  have hcore := h.core
  cases hp : a.preparedAt with
  | some p => exact ⟨p, rfl⟩
  | none =>
    exfalso
    apply hcore
    simp [Guards.Postgres.coreComplete, Guards.Postgres.ofResearch, hp]

theorem isActive_of_inFlight (h : InFlight a) : isActive a.status = true := by
  rcases h with h | h <;> rw [h] <;> rfl

theorem not_claimed_of_inFlight (h : InFlight a) : a.status ≠ .claimed := by
  rcases h with h | h <;> rw [h] <;> decide

theorem checkRelease_absence {expectedStatus : String} {now : Nat} (hopen : InFlight a)
    (h : Sequential.checkRelease now expectedStatus a = .ok ()) :
    ∃ t, a.absenceObservedAt = some t ∧ a.preparedAt.getD a.createdAt ≤ t ∧
      saturatingAdd t researchPaymentAbsenceConfirmationMs ≤ now := by
  have hunclaimed : attemptStatusText a.status ≠ "claimed" := by
    rcases hopen with hs | hs <;> rw [hs] <;> decide
  simp only [Sequential.checkRelease, bind_eq_ok, reject_eq_ok, exists_const, not_not] at h
  obtain ⟨-, hexpected, -, h⟩ := h
  rw [if_neg (hexpected ▸ hunclaimed)] at h
  simp only [Sequential.checkAbsence, bind_eq_ok, reject_eq_ok, orReject_eq_ok, exists_const,
    not_or] at h
  obtain ⟨t, ht, ⟨hearly, -⟩, hwait⟩ := h
  exact ⟨t, ht, by omega, by omega⟩

theorem guarded_of_good (h : Good w.clock w.db) (htold : Told calls w.db) : Guarded env calls w := by
  intro call request a hcall _ hlater hok ha hopen
  have hid : a.attemptId = trim request.attemptId := attempt_key ha
  have hheld : w.db.paymentAttempts.get? a.attemptId = some a := by rwa [hid]
  obtain ⟨db', hexecute⟩ := ok_of_isOk hok
  simp only [execute, hcall, Sequential.release, Sequential.releaseFrom, bind_eq_ok, reject_eq_ok,
    orReject_eq_ok, exists_const, asI64_eq_ok, Option.filter_eq_some_iff] at hexecute
  obtain ⟨_, -, -, -, b, ⟨hb, -⟩, _, hcheck, job, -, _, ⟨hrange, -⟩, -⟩ := hexecute
  rw [ha, Option.some.injEq] at hb
  subst hb
  obtain ⟨t, hobserved, hafter, hwait⟩ := checkRelease_absence hopen hcheck
  obtain ⟨p, hp⟩ := ((h a hheld (isActive_of_inFlight hopen)).complete
    (not_claimed_of_inFlight hopen)).prepared
  refine ⟨p, t, hp, htold.prepared a p hheld hp, htold.observed a t hheld hobserved, ?_, ?_⟩
  · rwa [hp] at hafter
  · simp only [saturatingAdd, u64Max, i64Max] at hwait hrange
    omega

theorem releasable_of_good (h : Good w.clock w.db) : Releasable env w := by
  intro a ha hopen jobId attemptId now later hjob hattempt hnow hlater hrange
  have hrowId : w.db.paymentAttempts.get? (trim attemptId) = some a := by
    rw [hattempt]
    exact ha
  obtain ⟨db', hdefer, hrow⟩ := defer_progress h hlater hrange hrowId hjob.symm hopen
  have hgood : Good later db' := defer_good h (hnow.trans hlater) hdefer
  refine ⟨db', hdefer, visible_of_good hgood, ?_⟩
  intro request now' later' hnames hwait hlater' hrange'
  have hok := h a ha (isActive_of_inFlight hopen)
  have hobserved : a.absenceObservedAt.getD later ≤ later := by
    cases ht : a.absenceObservedAt with
    | none => exact le_refl later
    | some t =>
      have hclock := (hok.observed t ht).1
      simp only [Option.getD_some]
      omega
  have htarget : trim request.attemptId = trim attemptId := hnames.attempt.trans hattempt.symm
  rw [← htarget] at hrow
  obtain ⟨db'', hrelease, hreleased⟩ := @release_progress db' (Sequential.deferred true
    (now + researchPaymentRetryAfterMs) later a) later now' later' request
    (a.absenceObservedAt.getD later) hgood (by omega) hlater' hrange' hrow hnames.job.symm hopen
    hnames.status hnames.reason rfl (by omega)
  refine ⟨db'', hrelease, visible_of_good ((release_good hgood hrelease).mono (by omega)), ?_⟩
  rwa [hnames.attempt] at hreleased

theorem reconcilable_of_good (h : Good w.clock w.db) (htold : Told calls w.db) :
    Reconcilable env calls w :=
  ⟨guarded_of_good h htold, visible_of_good h, releasable_of_good h⟩

-- an absence observed before the preparation stays on the row, out of the payment's lifetime
theorem hidden_of_observed (h : DeskStep env w call w') (hobserved : ¬Unobserved env w call) :
    ¬Visible w'.clock w'.db := by
  simp only [Unobserved, not_forall, not_le] at hobserved
  obtain ⟨request, hcall, haccepted, a, t, ha, hclaimed, ht, hearlier⟩ := hobserved
  intro hvisible
  cases h with
  | error _ _ hexecute =>
    rw [hexecute] at haccepted
    cases haccepted
  | @ok db' hnow hlater hexecute =>
    simp only [execute, hcall, Sequential.prepare, bind_eq_ok, reject_eq_ok, orReject_eq_ok,
      exists_const, exists_and_right] at hexecute
    obtain ⟨-, current, hcurrent, -, -, -, hprepare⟩ := hexecute
    have hsame : some a = some current := ha.symm.trans hcurrent
    rw [Option.some.injEq] at hsame
    subst hsame
    have hnew : Prepare.isReplay request.trimmed a = false := by simp [Prepare.isReplay, hclaimed]
    simp only [Sequential.prepareFrom, hnew, Bool.false_eq_true, if_false, bind_eq_ok, reject_eq_ok,
      exists_const, pure_eq_ok] at hprepare
    obtain ⟨-, -, -, -, -, changes, hupdate, rfl⟩ := hprepare
    obtain ⟨hattempts, -⟩ := updateAttempt_effect hupdate
    set prepared := Prepare.prepared env request.trimmed ⟨call.now, ""⟩ a with hprepared
    have hmem : prepared ∈ (runChanges changes w.db).paymentAttempts.rows := by
      have hget : (runChanges changes w.db).paymentAttempts.get? prepared.attemptId =
          some prepared := by rw [hattempts, Table.get?_put, if_pos rfl]
      exact Table.get?_mem hget
    have hhidden : absenceHidden call.later prepared = true := by
      have hobservedAt : prepared.absenceObservedAt = some t := ht
      have hpreparedAt : prepared.preparedAt = some (call.now : Int) := rfl
      have hstatus : isActive prepared.status = true := rfl
      simp only [absenceHidden, hobservedAt, hpreparedAt, hstatus, Bool.true_and, Option.any_some,
        Option.getD_some, decide_eq_true_eq]
      omega
    have hshown := hvisible call.later (le_refl _) prepared hmem
    rw [hhidden] at hshown
    cases hshown

theorem payments_reconcilable_iff (hfresh : start.db.paymentAttempts.rows = [])
    (run : Trace (DeskStep env) start calls w) :
    ReconcilableThroughout env start calls w ↔ UnobservedThroughout env start calls w := by
  constructor
  · rintro h as call bs mid mid' rfl hbefore hstep hafter
    by_contra hobserved
    apply hidden_of_observed hstep hobserved
    have hsplit : as ++ call :: bs = (as ++ [call]) ++ bs := by simp
    exact (h (as ++ [call]) bs mid' hsplit (.snoc hbefore hstep) hafter).visible
  · rintro h as bs mid rfl hbefore hafter
    apply reconcilable_of_good _ (run_told hfresh hbefore)
    have hstrong := @Trace.strengthen _ _ _ _ _ _ (Unobserved env) hbefore fun cs call ds u v has
        hcs hstep hds => by
      refine h cs call (ds ++ bs) u v ?_ hcs hstep (Trace.append_iff.mpr ⟨mid, hds, hafter⟩)
      rw [has, List.append_assoc, List.cons_append]
    refine hstrong.invariant (P := fun w => Good w.clock w.db) ?_ ?_
    · intro a ha _
      have hmem := Table.get?_mem ha
      rw [hfresh] at hmem
      cases hmem
    · intro u call v hgood hstep
      exact hstep.1.good hgood hstep.2

end Guarantee

section Accepted

variable {env : Environment} {request : PrepareRequest} {input : Input} {bytes : Bytes}

theorem check_ok (hattempt : validateResearchAttemptId request.attemptId = .ok ())
    (hnamed : ¬(request.quoteId = "" ∨ request.challengeId = "" ∨ 256 < request.challengeId.utf8ByteSize ∨
      request.externalId = "" ∨ 566 < request.externalId.utf8ByteSize))
    (hpayer : validSolanaAddress env.encoding request.payer = true)
    (hblockhash : validSolanaAddress env.encoding request.recentBlockhash = true)
    (hplatform : validSolanaAddress env.encoding request.platformRecipientWallet = true)
    (hread : env.encoding.base64Decode request.signedTransactionBase64 = some bytes)
    (hsize : 100 ≤ bytes.length ∧ bytes.length ≤ 2048)
    (hexpiry : input.now < request.challengeExpiresAt ∧
      request.challengeExpiresAt ≤ saturatingAdd input.now (15 * 60 * 1000)) :
    Prepare.check env request input = .ok () := by
  simp only [Prepare.check, hattempt, ok_bind, bind_eq_ok, reject_eq_ok, orReject_eq_ok, exists_const]
  refine ⟨?_, bytes, hread, ?_, ?_⟩
  · rw [hpayer, hblockhash, hplatform]
    simpa using hnamed
  · omega
  · omega

end Accepted

section Samples

-- a step all of whose calls are accepted
def accept (env : Environment) (w : Desk) (call : Call) : Option Desk :=
  if w.clock ≤ call.now ∧ call.now ≤ call.later then
    (execute env w.db call).toOption.map fun db => ⟨db, call.later⟩
  else none

theorem accept_step (h : accept env w call = some w') : DeskStep env w call w' := by
  unfold accept at h
  split at h
  · next hclock =>
    obtain ⟨db', hexecute, rfl⟩ := Option.map_eq_some_iff.mp h
    rw [toOption_eq_some] at hexecute
    exact .ok hclock.1 hclock.2 hexecute
  · cases h

theorem accept_trace (h : runWith (accept env) w calls = some w') :
    Trace (DeskStep env) w calls w' := by
  have hstep : ∀ w call w', accept env w call = some w' → DeskStep env w call w' :=
    fun _ _ _ => accept_step
  exact runWith_trace hstep h

def sampleAttemptId : String := "aaaaaaaaaaaaaaaaaaaaaaaaaaaaaaaaaaaaaaaaaaaaaaaaaaaaaaaaaaaaaaaa"

def sampleDesk : Desk where
  db := { sampleDatabase with
    challengeBindings := [⟨"challenge", "quote", "external", 600000, .research, sampleAttemptId⟩] }
  clock := 1000

def beginCall : Call := ⟨1000, 1000, .begin ⟨"job", "quote", sampleAttemptId⟩⟩

def samplePreparation : PrepareRequest where
  jobId := "job"
  attemptId := sampleAttemptId
  quoteId := "quote"
  payer := sampleWallet
  challengeId := "challenge"
  externalId := "external"
  challengeExpiresAt := 600000
  signedTransactionBase64 := String.ofList (List.replicate 136 'A')
  recentBlockhash := sampleWallet
  platformRecipientWallet := sampleWallet

def prepareCall : Call := ⟨1300, 1300, .prepare samplePreparation⟩

def deferCall (t : Nat) : Call := ⟨t, t, .defer "job" sampleAttemptId true⟩

def releaseCall (t : Nat) : Call :=
  ⟨t, t, .release ⟨"job", sampleAttemptId, "prepared", "no transaction landed"⟩⟩

-- the absence is observed after the preparation
def sampleCalls : List Call := [beginCall, prepareCall, deferCall 1400, releaseCall 121400]

-- and here before it
def observedFirst : List Call := [beginCall, deferCall 1200, prepareCall]

theorem unobserved_of_told (htold : Told calls w.db)
    (hnone : ∀ c ∈ calls, ∀ jobId attemptId, c.operation ≠ .defer jobId attemptId true) :
    Unobserved env w call := by
  intro request _ _ a t ha _ ht
  have hid := attempt_key ha
  rw [← hid] at ha
  obtain ⟨c, hc, jobId, attemptId, hcall, -⟩ := htold.observed a t ha ht
  exact absurd hcall (hnone c hc jobId attemptId)

theorem sampleDesk_fresh : sampleDesk.db.paymentAttempts.rows = [] := rfl

theorem sampleCalls_unobserved :
    UnobservedThroughout sampleEnvironment sampleDesk sampleCalls w := by
  intro as call bs mid mid' hsplit hbefore _ _
  rcases as with _ | ⟨_, _ | ⟨_, _ | ⟨_, _ | ⟨_, as⟩⟩⟩⟩ <;>
    simp only [sampleCalls, List.nil_append, List.cons_append, List.cons.injEq] at hsplit
  · obtain ⟨rfl, -⟩ := hsplit
    exact fun request hcall => by cases hcall
  · obtain ⟨rfl, rfl, -⟩ := hsplit
    apply unobserved_of_told (run_told sampleDesk_fresh hbefore)
    intro c hc jobId attemptId hdefer
    rw [List.mem_singleton.mp hc] at hdefer
    cases hdefer
  · obtain ⟨-, -, rfl, -⟩ := hsplit
    exact fun request hcall => by cases hcall
  · obtain ⟨-, -, -, rfl, -⟩ := hsplit
    exact fun request hcall => by cases hcall
  · simp at hsplit

theorem trim_sampleAttemptId : trim sampleAttemptId = sampleAttemptId := trim_ofList (by decide)

theorem trim_sampleWallet : trim sampleWallet = sampleWallet := trim_ofList (by decide)

theorem sampleTexts_valid : validSolanaAddress .standard sampleWallet = true ∧
    validateResearchAttemptId sampleAttemptId = .ok () := by
  decide +kernel

theorem sampleWallet_valid : validSolanaAddress .standard sampleWallet = true := sampleTexts_valid.1

theorem sampleAttemptId_valid : validateResearchAttemptId sampleAttemptId = .ok () := sampleTexts_valid.2

theorem sampleBegin_trimmed :
    BeginRequest.trimmed ⟨"job", "quote", sampleAttemptId⟩ = ⟨"job", "quote", sampleAttemptId⟩ := by
  rw [BeginRequest.trimmed, trim_sampleAttemptId]
  decide

theorem samplePreparation_trimmed : samplePreparation.trimmed = samplePreparation := by
  have htransaction : trim (String.ofList (List.replicate 136 'A')) =
      String.ofList (List.replicate 136 'A') := trim_ofList (by decide)
  have hjob : trim "job" = "job" := trim_ofList (by decide)
  have hquote : trim "quote" = "quote" := trim_ofList (by decide)
  have hchallenge : trim "challenge" = "challenge" := trim_ofList (by decide)
  have hexternal : trim "external" = "external" := trim_ofList (by decide)
  simp only [PrepareRequest.trimmed, samplePreparation, hjob, hquote, hchallenge, hexternal, htransaction,
    trim_sampleAttemptId, trim_sampleWallet]

theorem samplePreparation_read :
    Encoding.standard.base64Decode samplePreparation.signedTransactionBase64 =
      some (List.replicate 102 0) :=
  (base64Decode_ofList (List.replicate 136 'A')).trans (by decide +kernel)

theorem samplePreparation_named : ¬(samplePreparation.quoteId = "" ∨ samplePreparation.challengeId = "" ∨
    256 < samplePreparation.challengeId.utf8ByteSize ∨ samplePreparation.externalId = "" ∨
    566 < samplePreparation.externalId.utf8ByteSize) := by
  decide

theorem samplePreparation_checked :
    Prepare.check sampleEnvironment samplePreparation ⟨1300, ""⟩ = .ok () :=
  check_ok sampleAttemptId_valid samplePreparation_named sampleWallet_valid sampleWallet_valid
    sampleWallet_valid samplePreparation_read (by decide) (by decide)

set_option maxRecDepth 4000 in
theorem payments_reconcilable_sample :
    ∃ w, Trace (DeskStep sampleEnvironment) sampleDesk sampleCalls w ∧
      (w.db.paymentAttempts.get? sampleAttemptId).any (fun a => a.status = .released) = true ∧
      ReconcilableThroughout sampleEnvironment sampleDesk sampleCalls w := by
  have hrun : (runWith (accept sampleEnvironment) sampleDesk sampleCalls).any (fun w =>
      (w.db.paymentAttempts.get? sampleAttemptId).any fun a => a.status = .released) = true := by
    simp only [sampleCalls, beginCall, prepareCall, deferCall, releaseCall, runWith, accept, execute,
      sampleBegin_trimmed, samplePreparation_trimmed, Sequential.begin, Begin.check, sampleAttemptId_valid,
      Sequential.prepare, samplePreparation_checked]
    decide +kernel
  obtain ⟨w, hw, hreleased⟩ := (Option.any_eq_true _ _).mp hrun
  have htrace := accept_trace hw
  exact ⟨w, htrace, hreleased,
    (payments_reconcilable_iff sampleDesk_fresh htrace).mpr sampleCalls_unobserved⟩

set_option maxRecDepth 4000 in
theorem payment_frozen :
    sampleDesk.db.paymentAttempts.rows = [] ∧
      ∃ w, Trace (DeskStep sampleEnvironment) sampleDesk observedFirst w ∧
        ¬ReconcilableThroughout sampleEnvironment sampleDesk observedFirst w := by
  refine ⟨rfl, ?_⟩
  have hrun : (runWith (accept sampleEnvironment) sampleDesk observedFirst).any (fun w =>
      w.db.paymentAttempts.rows.any (absenceHidden w.clock)) = true := by
    simp only [observedFirst, beginCall, prepareCall, deferCall, runWith, accept, execute, sampleBegin_trimmed,
      samplePreparation_trimmed, Sequential.begin, Begin.check, sampleAttemptId_valid, Sequential.prepare,
      samplePreparation_checked]
    decide +kernel
  obtain ⟨w, hw, hhidden⟩ := (Option.any_eq_true _ _).mp hrun
  have htrace := accept_trace hw
  refine ⟨w, htrace, ?_⟩
  intro hthroughout
  have hvisible := (hthroughout observedFirst [] w (by simp) htrace .nil).visible
  obtain ⟨a, ha, hbad⟩ := List.any_eq_true.mp hhidden
  rw [hvisible w.clock (le_refl _) a ha] at hbad
  cases hbad

end Samples

end Obulus.Research
