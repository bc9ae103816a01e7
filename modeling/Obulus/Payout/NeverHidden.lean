import Obulus.Payout.Recovery
import Obulus.Payout.Guarantees

namespace Obulus.Payout

open Foundation Store

variable {enc : Encoding} {db db' : Database} {now now' : Nat} {c : String} {r r' : PayoutClaim}
  {q : LeaseRequest} {req : Request} {w w' start mid : Desk} {ev : DeskEvent} {es : List DeskEvent}

section Refunds

structure SameTerms (r r' : PayoutClaim) : Prop where
  id : r'.id = r.id
  kind : r'.kind = r.kind
  beneficiary : r'.beneficiaryUserId = r.beneficiaryUserId
  wallet : r'.escrowWallet = r.escrowWallet
  network : r'.network = r.network

theorem lapse_terms (now : Nat) (r : PayoutClaim) : SameTerms r (lapse now r) := by
  unfold lapse
  split <;> exact ⟨rfl, rfl, rfl, rfl, rfl⟩

theorem Effect.terms (h : Effect now req r r') : SameTerms r r' := by
  cases h with
  | lapsed => exact lapse_terms now r
  | leased _ =>
    obtain ⟨hid, hkind, hbeneficiary, hwallet, hnetwork⟩ := lapse_terms now r
    exact ⟨hid, hkind, hbeneficiary, hwallet, hnetwork⟩
  | abandoned _ _ _ _ _ =>
    unfold abandonRow
    split <;> exact ⟨rfl, rfl, rfl, rfl, rfl⟩
  | _ => exact ⟨rfl, rfl, rfl, rfl, rfl⟩

theorem Effect.confirmed (h : Effect now req r r') (hr : Sound r) (hs : r.status = .confirmed) :
    r'.status = .confirmed := by
  obtain ⟨hsound, hmove⟩ := h.move hr
  obtain ⟨S, hS⟩ : ∃ S, r.transactionSignature = some S := by
    unfold Sound at hr
    simp only [hs] at hr
    exact Option.ne_none_iff_exists'.mp hr.1
  have hphase := hmove.confirmed_forever ((phase_confirmed_iff hr).mpr ⟨hs, hS⟩)
  exact ((phase_confirmed_iff hsound).mp hphase).1

-- the refund jobs of the claims stay where they are or are completed
def JobsAdvance (db db' : Database) : Prop :=
  ∀ j job, db.researchJobs.get? j = some job → ∃ job', db'.researchJobs.get? j = some job' ∧
    job'.refundClaimId = job.refundClaimId ∧
    (job'.status = job.status ∨ job'.status = "balance_refunded")

theorem jobsAdvance_of_eq (h : db'.researchJobs = db.researchJobs) : JobsAdvance db db' := by
  intro j job hjob
  exact ⟨job, by rw [h]; exact hjob, rfl, .inl rfl⟩

theorem finalize_jobs {claim : PayoutClaim}
    (h : finalizeResearchRefundJob db claim now = .ok db') : JobsAdvance db db' := by
  unfold finalizeResearchRefundJob at h
  split at h
  · cases h
    exact jobsAdvance_of_eq rfl
  · simp only [bind_eq_ok] at h
    obtain ⟨jobId, -, job, -, h⟩ := h
    unfold completeResearchJob at h
    split at h
    · cases h
      exact jobsAdvance_of_eq rfl
    · simp only [bind_eq_ok, pure_eq_ok] at h
      obtain ⟨_, _, _, _, _, _, rfl⟩ := h
      intro j job' hjob'
      simp only [Table.get?_update, hjob', Option.map_some]
      refine ⟨_, rfl, ?_⟩
      split
      · exact ⟨rfl, .inr rfl⟩
      · exact ⟨rfl, .inl rfl⟩

theorem execute_jobs {response : Response} (hdb : AllHealthy enc now db)
    (h : execute enc db now req = .ok (db', response)) : JobsAdvance db db' := by
  cases req with
  | lease q =>
    obtain ⟨⟨_, claims⟩, hlease, heq⟩ := map_eq_ok.mp h
    cases heq
    exact jobsAdvance_of_eq (leasePayoutClaims_taken hdb hlease).jobs
  | prepare q =>
    obtain ⟨⟨_, _⟩, hprepare, heq⟩ := map_eq_ok.mp h
    cases heq
    simp only [preparePayoutClaim, bind_eq_ok] at hprepare
    obtain ⟨_, -, row, -, _, -, hprepare⟩ := hprepare
    split at hprepare
    · simp only [resendPrepared, bind_eq_ok, pure_eq_ok, Prod.mk.injEq] at hprepare
      obtain ⟨_, _, _, _, rfl, _⟩ := hprepare
      exact jobsAdvance_of_eq rfl
    · simp only [bind_eq_ok, prepareLeased, pure_eq_ok, Prod.mk.injEq] at hprepare
      obtain ⟨_, _, _, _, _, _, _, _, mid, hupdate, _, _, rfl, _⟩ := hprepare
      exact jobsAdvance_of_eq (updateClaims_ok hupdate).2.2.1
  | complete q =>
    obtain ⟨⟨_, _⟩, hcomplete, heq⟩ := map_eq_ok.mp h
    cases heq
    simp only [completePayoutClaim, bind_eq_ok] at hcomplete
    obtain ⟨row, -, hcomplete⟩ := hcomplete
    split at hcomplete
    · simp only [recompleteConfirmed, bind_eq_ok, pure_eq_ok, Prod.mk.injEq] at hcomplete
      obtain ⟨_, _, last, hlast, _, _, rfl, _⟩ := hcomplete
      exact finalize_jobs hlast
    · simp only [completePrepared, bind_eq_ok, pure_eq_ok, Prod.mk.injEq] at hcomplete
      obtain ⟨_, _, _, _, _, _, mid, hmid, last, hlast, _, _, rfl, _⟩ := hcomplete
      have hjobs : (markEarningPaid mid row.earningEventId).researchJobs = db.researchJobs := by
        unfold markEarningPaid
        split
        · exact (updateClaims_ok hmid).2.2.1
        · exact (updateClaims_ok hmid).2.2.1
      intro j job hjob
      exact finalize_jobs hlast j job (by rw [hjobs]; exact hjob)
  | fail q =>
    obtain ⟨⟨_, _⟩, hfail, heq⟩ := map_eq_ok.mp h
    cases heq
    simp only [failPayoutClaim, bind_eq_ok] at hfail
    obtain ⟨_, -, row, -, _, -, hfail⟩ := hfail
    split at hfail
    · cases hfail
      exact jobsAdvance_of_eq rfl
    · simp only [failUnconfirmed, bind_eq_ok, pure_eq_ok, Prod.mk.injEq] at hfail
      obtain ⟨mid, hmid, _, _, rfl, _⟩ := hfail
      unfold recordFail at hmid
      split at hmid
      · simp only [abandonPrepared, bind_eq_ok] at hmid
        obtain ⟨_, _, _, _, _, _, hupdate⟩ := hmid
        exact jobsAdvance_of_eq (updateClaims_ok hupdate).2.2.1
      · simp only [retainPrepared, bind_eq_ok] at hmid
        obtain ⟨_, _, hupdate⟩ := hmid
        exact jobsAdvance_of_eq (updateClaims_ok hupdate).2.2.1

theorem AwaitsRefund.advance (h : AwaitsRefund db r) (hjobs : JobsAdvance db db')
    (hterms : SameTerms r r') : AwaitsRefund db' r' := by
  obtain ⟨jobId, job, hid, hjob, hrefund, hstatus⟩ := h
  obtain ⟨job', hjob', hrefund', hstatus'⟩ := hjobs jobId job hjob
  refine ⟨jobId, job', by rw [hterms.beneficiary, hid], hjob', by rw [hrefund', hrefund, hterms.id], ?_⟩
  rcases hstatus' with hsame | hdone
  · rw [hsame]
    exact hstatus
  · exact .inr hdone

theorem execute_refunds {response : Response} (hdb : AllHealthy enc now db)
    (hp : RefundsPending db) (h : execute enc db now req = .ok (db', response)) :
    RefundsPending db' := by
  intro c r' hr' hs hkind
  have hchanged := execute_changed h
  cases hr : db.payoutClaims.get? c with
  | none =>
    rw [hchanged.absent c hr] at hr'
    cases hr'
  | some r =>
    obtain ⟨r'', hr'', heffect⟩ := hchanged.claim c r hr
    obtain rfl : r'' = r' := Option.some.inj (hr''.symm.trans hr')
    have hterms := heffect.terms
    have hopen : r.status ≠ .confirmed := fun hconfirmed =>
      hs (heffect.confirmed (hdb c r hr).sound hconfirmed)
    exact (hp c r hr hopen (hterms.kind ▸ hkind)).advance (execute_jobs hdb h) hterms

end Refunds

section Desks

theorem execute_healthy {response : Response} (hdb : AllHealthy enc now db)
    (h : execute enc db now req = .ok (db', response)) : AllHealthy enc now db' := by
  intro c r' hr'
  have hchanged := execute_changed h
  cases hr : db.payoutClaims.get? c with
  | none =>
    rw [hchanged.absent c hr] at hr'
    cases hr'
  | some r =>
    obtain ⟨r'', hr'', heffect⟩ := hchanged.claim c r hr
    obtain rfl : r'' = r' := Option.some.inj (hr''.symm.trans hr')
    refine heffect.healthy (hdb c r hr) ?_
    rintro q rfl
    obtain ⟨⟨_, claims⟩, hlease, heq⟩ := map_eq_ok.mp h
    cases heq
    exact (leasePayoutClaims_taken hdb hlease).duration.2

theorem newClaim_healthy {n : NewClaim} (h : insertPayoutClaim enc db n = .ok db')
    (hregular : n.Regular) (htime : 0 < n.createdAt ∧ n.createdAt ≤ now) :
    Healthy enc now n.row := by
  simp only [insertPayoutClaim, bind_eq_ok, reject_eq_ok, exists_const, not_or,
    Bool.not_eq_false] at h
  obtain ⟨-, ⟨hwallet, -⟩, -⟩ := h
  exact ⟨newClaim_sound n, fun _ => ⟨rfl, rfl⟩, by simp [NewClaim.row], by simp [NewClaim.row],
    by simp [NewClaim.row], htime, by simp [NewClaim.row], by simp [NewClaim.row], hwallet,
    hregular.id, hregular.network, by simp [NewClaim.row]⟩

structure Settled (enc : Encoding) (w : Desk) : Prop where
  healthy : AllHealthy enc w.clock.1 w.db
  refunds : RefundsPending w.db

theorem DeskStep.settled (h : DeskStep enc w ev w') (hw : Settled enc w) : Settled enc w' := by
  cases h with
  | @tick clock hle =>
    exact ⟨fun c r hr => (hw.healthy c r hr).later hle, hw.refunds⟩
  | @store e db' hstep htime hregular houtside =>
    cases hstep with
    | accepted hexec =>
      obtain rfl : _ = w.clock.1 := htime
      exact ⟨execute_healthy hw.healthy hexec, execute_refunds hw.healthy hw.refunds hexec⟩
    | rejected _ => exact hw
    | enqueued hinsert _ =>
      refine ⟨?_, houtside rfl hw.refunds⟩
      intro c r hr
      rw [get?_enqueued hinsert] at hr
      split at hr
      · cases hr
        exact newClaim_healthy hinsert (hregular _ rfl) htime
      · exact hw.healthy c r hr
    | earned _ _ => exact ⟨hw.healthy, houtside rfl hw.refunds⟩
    | matured => exact ⟨hw.healthy, houtside rfl hw.refunds⟩
    | elsewhere => exact ⟨hw.healthy, houtside rfl hw.refunds⟩

def Opens (w : Desk) : Prop := w.db = .empty

theorem run_settled (hstart : Opens start) (run : DeskRun enc start es w) : Settled enc w := by
  refine run.invariant (P := Settled enc) ?_ fun _ _ _ hw hstep => hstep.settled hw
  refine ⟨?_, ?_⟩
  · intro c r hr
    rw [hstart] at hr
    cases hr
  · intro c r hr
    rw [hstart] at hr
    cases hr

end Desks

section Leasing

theorem leasable_taken {expiry : Nat} {worker escrowWallet network : String} (h : now < expiry)
    (r : PayoutClaim) :
    leasable now escrowWallet network (lapse now (takeLease worker expiry now r)) = false := by
  have hlive : leaseExpired now (takeLease worker expiry now r) = false := by
    simp only [leaseExpired, takeLease, Option.any_some, Bool.and_eq_false_iff,
      decide_eq_false_iff_not]
    omega
  have hexpiry : ¬expiry ≤ now := Nat.not_le_of_lt h
  rw [lapse, if_neg (by simp [hlive])]
  simp [leasable, takeLease, hexpiry]

theorem lapse_again (h : Sound r) : lapse now (lapse now r) = lapse now r := by
  rcases lapse_eq h with heq | ⟨heq, -⟩
  · rw [heq, heq]
  · rw [heq, lapse, if_neg (by simp [leaseExpired])]

def dueClaim (now : Nat) (escrowWallet network : String) (db : Database) (c : String) : Bool :=
  (db.payoutClaims.get? c).any fun r => leasable now escrowWallet network (lapse now r)

theorem Taken.dueClaim_after {ids : List String} (h : Taken now q db ids db')
    (hdb : AllHealthy enc now db) (c : String) :
    dueClaim now (trim q.escrowWallet) (trim q.network) db' c =
      (dueClaim now (trim q.escrowWallet) (trim q.network) db c && !decide (c ∈ ids)) := by
  unfold dueClaim
  rw [h.rows]
  cases hr : db.payoutClaims.get? c with
  | none => rfl
  | some r =>
    by_cases hc : c ∈ ids
    · have hms := h.duration
      have hclock := h.clock
      have hlive : now < saturatingAdd now q.leaseMs := by
        simp only [saturatingAdd, u64Max, i64Max] at hclock ⊢
        omega
      simp only [hc, ↓reduceIte, Option.map_some, Option.any_some, decide_true, Bool.not_true,
        Bool.and_false]
      exact leasable_taken hlive _
    · simp [hc, lapse_again (hdb c r hr).sound]

theorem LeaseCall.healthy {ids : List String} (h : LeaseCall enc now q db ids db')
    (hdb : AllHealthy enc now db) : AllHealthy enc now db' := by
  obtain ⟨claims, hlease, -⟩ := h
  have hexec : execute enc db now (.lease q) = .ok (db', .claims claims) := by
    simp [execute, hlease, Except.map]
  exact execute_healthy hdb hexec

def claimQueue (hq : q.Valid enc) (hnow : now + payoutMaxLeaseMs ≤ i64Max) :
    WorkQueue Database String where
  takes := LeaseCall enc now q
  ready := AllHealthy enc now
  keys db := db.payoutClaims.rows.map PayoutClaim.id
  due db c := dueClaim now (trim q.escrowWallet) (trim q.network) db c
  call db hdb := by
    obtain ⟨db', claims, hlease⟩ := hq.call hnow hdb
    have hcall : LeaseCall enc now q db (claims.map PayoutClaim.id) db' := ⟨claims, hlease, rfl⟩
    exact ⟨_, db', hcall, hcall.healthy hdb⟩
  keys_eq db ids db' := by
    rintro hdb ⟨claims, hlease, rfl⟩
    exact (leasePayoutClaims_taken hdb hlease).keys
  due_eq db ids db' := by
    rintro hdb ⟨claims, hlease, rfl⟩ c
    exact (leasePayoutClaims_taken hdb hlease).dueClaim_after hdb c
  progress db ids db' c := by
    rintro hdb ⟨claims, hlease, rfl⟩ - hdue
    have htaken := leasePayoutClaims_taken hdb hlease
    obtain ⟨r, hr, hl⟩ := Option.any_eq_true _ _ |>.mp hdue
    obtain ⟨first, hfirst⟩ := List.exists_mem_of_ne_nil _ (htaken.progress c r hr hl)
    obtain ⟨r', hr', hl'⟩ := htaken.due first hfirst
    refine ⟨first, hfirst, List.mem_map.mpr ⟨r', Table.get?_mem hr', Table.get?_key hr'⟩, ?_⟩
    simp [dueClaim, hr', hl']

-- the claim is free again at `now`
def Free (now : Nat) (r : PayoutClaim) : Prop :=
  ∀ t, r.leaseExpiresAt = some t → t ≤ now

theorem leasable_of_healthy (h : Healthy enc now r) (hs : r.status ≠ .confirmed)
    (hfew : r.attemptCount < 10) (hfree : Free now r) :
    leasable now r.escrowWallet r.network (lapse now r) = true := by
  have hsound := h.sound
  unfold Sound at hsound
  have hall : r.leaseExpiresAt.all (fun expiry => decide (expiry ≤ now)) = true := by
    cases ht : r.leaseExpiresAt with
    | none => rfl
    | some t => simpa using hfree t ht
  cases hst : r.status with
  | confirmed => exact absurd hst hs
  | leased =>
    simp only [hst] at hsound
    obtain ⟨hsig, hraw, hab, hconf⟩ := hsound
    obtain ⟨hblock, hheight⟩ := h.idle (.inr (.inl hst))
    obtain ⟨-, hexpiry, -⟩ := h.leased hst
    obtain ⟨t, ht⟩ := Option.ne_none_iff_exists'.mp hexpiry
    have hlapsed : leaseExpired now r = true := by simp [leaseExpired, hst, ht, hfree t ht]
    rw [lapse, if_pos hlapsed]
    simp [leasable, freshEvidence, expireLease, hsig, hraw, hab, hconf, hblock, hheight, hfew]
  | pending =>
    simp only [hst] at hsound
    obtain ⟨hsig, hraw, hab, hconf⟩ := hsound
    obtain ⟨hblock, hheight⟩ := h.idle (.inl hst)
    rw [lapse, if_neg (by simp [leaseExpired, hst])]
    simp [leasable, freshEvidence, hst, hsig, hraw, hab, hconf, hblock, hheight, hfew, hall]
  | failed =>
    simp only [hst] at hsound
    obtain ⟨hsig, hraw, hab, hconf⟩ := hsound
    obtain ⟨hblock, hheight⟩ := h.idle (.inr (.inr hst))
    rw [lapse, if_neg (by simp [leaseExpired, hst])]
    simp [leasable, freshEvidence, hst, hsig, hraw, hab, hconf, hblock, hheight, hfew, hall]
  | prepared =>
    simp only [hst] at hsound
    obtain ⟨hsig, hraw, hconf⟩ := hsound
    obtain ⟨hblock, hheight, hpos⟩ := h.prepared hst
    rw [lapse, if_neg (by simp [leaseExpired, hst])]
    simp [leasable, preparedEvidence, hst, hconf, hfew, hall, hpos, Option.isSome_iff_ne_none, hsig,
      hraw, hblock, hheight]

-- Lease calls for the claim's wallet and network reach it, and a claim holding a signature can
-- then be completed with it.
def Recoverable (enc : Encoding) (db : Database) (now : Nat) (c : String) (r : PayoutClaim) : Prop :=
  Free now r → ∀ q : LeaseRequest, q.Valid enc → trim q.escrowWallet = r.escrowWallet →
    trim q.network = r.network → ∃ ts ids db', Trace (LeaseCall enc now q) db (ts ++ [ids]) db' ∧
      c ∈ ids ∧ ∀ S, r.status = .prepared → r.transactionSignature = some S →
        ∃ result, completePayoutClaim db' now ⟨c, q.workerId, S⟩ = .ok result

-- what lease calls leave alone
structure Kept (r r' : PayoutClaim) : Prop where
  terms : SameTerms r r'
  attempts : r'.attemptCount = r.attemptCount
  prepared : r.status = .prepared →
    r'.status = .prepared ∧ r'.transactionSignature = r.transactionSignature

theorem Kept.trans {s : PayoutClaim} (h : Kept r r') (h' : Kept r' s) : Kept r s := by
  obtain ⟨⟨hid, hkind, hbeneficiary, hwallet, hnetwork⟩, hattempts, hprepared⟩ := h
  obtain ⟨⟨hid', hkind', hbeneficiary', hwallet', hnetwork'⟩, hattempts', hprepared'⟩ := h'
  refine ⟨⟨hid'.trans hid, hkind'.trans hkind, hbeneficiary'.trans hbeneficiary,
    hwallet'.trans hwallet, hnetwork'.trans hnetwork⟩, hattempts'.trans hattempts, fun hs => ?_⟩
  obtain ⟨hs', hsig⟩ := hprepared hs
  obtain ⟨hs'', hsig'⟩ := hprepared' hs'
  exact ⟨hs'', hsig'.trans hsig⟩

theorem lapse_kept (now : Nat) (r : PayoutClaim) : Kept r (lapse now r) := by
  refine ⟨lapse_terms now r, ?_, fun hs => ?_⟩
  · unfold lapse
    split <;> rfl
  · rw [lapse, if_neg (by simp [leaseExpired, hs])]
    exact ⟨hs, rfl⟩

theorem takeLease_kept {worker : String} {expiry : Nat} (h : Sound r) :
    Kept r (takeLease worker expiry now r) := by
  refine ⟨⟨rfl, rfl, rfl, rfl, rfl⟩, rfl, fun hs => ⟨?_, rfl⟩⟩
  unfold Sound at h
  simp only [hs] at h
  simp [takeLease, h.2.1]

theorem LeaseCall.kept {ids : List String} (h : LeaseCall enc now q db ids db')
    (hdb : AllHealthy enc now db) (hr : db.payoutClaims.get? c = some r) :
    ∃ r', db'.payoutClaims.get? c = some r' ∧ Kept r r' ∧
      (c ∈ ids → r.attemptCount < 10 ∧ ActiveLease q.workerId now r') := by
  obtain ⟨claims, hlease, rfl⟩ := h
  have htaken := leasePayoutClaims_taken hdb hlease
  have hrow := htaken.rows c
  rw [hr, Option.map_some] at hrow
  have hsound := hdb c r hr
  refine ⟨_, hrow, ?_, ?_⟩
  · split
    · exact (lapse_kept now r).trans (takeLease_kept (lapse_sound hsound.sound).1)
    · exact lapse_kept now r
  · intro hc
    rw [if_pos hc]
    obtain ⟨r', hr', hl⟩ := htaken.due c hc
    obtain rfl : r = r' := Option.some.inj (hr.symm.trans hr')
    simp only [leasable, Bool.and_eq_true, decide_eq_true_eq] at hl
    have hfew := hl.1.1.1.1.2
    rw [(lapse_kept now r).attempts] at hfew
    refine ⟨hfew, rfl, _, rfl, ?_⟩
    have hms := htaken.duration
    have hclock := htaken.clock
    simp only [saturatingAdd, u64Max, i64Max] at hclock ⊢
    omega

theorem LeaseCall.refunds {ids : List String} (h : LeaseCall enc now q db ids db')
    (hdb : AllHealthy enc now db) (hp : RefundsPending db) : RefundsPending db' := by
  obtain ⟨claims, hlease, -⟩ := h
  have hexec : execute enc db now (.lease q) = .ok (db', .claims claims) := by
    simp [execute, hlease, Except.map]
  exact execute_refunds hdb hp hexec

structure CallsKeep (enc : Encoding) (now : Nat) (c : String) (r : PayoutClaim) (db : Database) :
    Prop where
  healthy : AllHealthy enc now db
  refunds : RefundsPending db
  row : ∃ r', db.payoutClaims.get? c = some r' ∧ Kept r r'

theorem CallsKeep.step {ids : List String} (h : CallsKeep enc now c r db)
    (hcall : LeaseCall enc now q db ids db') : CallsKeep enc now c r db' := by
  obtain ⟨s, hs, hkept⟩ := h.row
  obtain ⟨s', hs', hkept', -⟩ := hcall.kept h.healthy hs
  exact ⟨hcall.healthy h.healthy, hcall.refunds h.healthy h.refunds, s', hs', hkept.trans hkept'⟩

theorem callsKeep_of (hdb : AllHealthy enc now db) (hp : RefundsPending db)
    (hr : db.payoutClaims.get? c = some r) : CallsKeep enc now c r db :=
  ⟨hdb, hp, r, hr, ⟨rfl, rfl, rfl, rfl, rfl⟩, rfl, fun hs => ⟨hs, rfl⟩⟩

theorem calls_keep {ts : List (List String)} (h : Trace (LeaseCall enc now q) db ts db')
    (hdb : CallsKeep enc now c r db) : CallsKeep enc now c r db' :=
  h.invariant (P := CallsKeep enc now c r) hdb fun _ _ _ hk hcall => hk.step hcall

theorem recoverable_of_healthy (hdb : AllHealthy enc now db) (hp : RefundsPending db)
    (hnow : now + payoutMaxLeaseMs ≤ i64Max) (hr : db.payoutClaims.get? c = some r)
    (hs : r.status ≠ .confirmed) (hfew : r.attemptCount < 10) : Recoverable enc db now c r := by
  intro hfree q hq hwallet hnetwork
  have hhealthy := hdb c r hr
  have hl := leasable_of_healthy hhealthy hs hfew hfree
  have hdue : dueClaim now (trim q.escrowWallet) (trim q.network) db c = true := by
    simp [dueClaim, hr, hwallet, hnetwork, hl]
  have hkey : c ∈ db.payoutClaims.rows.map PayoutClaim.id :=
    List.mem_map.mpr ⟨r, Table.get?_mem hr, Table.get?_key hr⟩
  obtain ⟨ts, ids, db', hrun, hc⟩ :=
    WorkQueue.taken_eventually (q := claimQueue hq hnow) hdb hkey hdue
  refine ⟨ts, ids, db', hrun, hc, fun S hprepared hS => ?_⟩
  obtain ⟨mid, hbefore, hlast⟩ := Trace.snoc_iff.mp hrun
  have hkeep := calls_keep hbefore (callsKeep_of hdb hp hr)
  have hkeep' := hkeep.step hlast
  obtain ⟨s, hs', hkept⟩ := hkeep.row
  obtain ⟨s', hrow, hkept', hactive⟩ := hlast.kept hkeep.healthy hs'
  obtain ⟨-, hlease⟩ := hactive hc
  have hall := hkept.trans hkept'
  obtain ⟨hstatus, hsignature⟩ := hall.prepared hprepared
  have hid : trim c = c := by
    have htrim := hhealthy.id
    rw [Table.get?_key hr] at htrim
    exact htrim
  have hrow' : db'.payoutClaims.get? (trim c) = some s' := by
    rw [hid]
    exact hrow
  refine complete_total hrow' hstatus ?_ hlease (by omega) ?_
  · rw [hsignature, hS, hhealthy.signature S hS]
  · intro hkind
    exact hkeep'.refunds c s' hrow (by simp [hstatus]) hkind

theorem payoutWorker_length : 3 ≤ (trim "payout-worker").utf8ByteSize ∧
    (trim "payout-worker").utf8ByteSize ≤ 128 := by decide

theorem not_recoverable (hdb : AllHealthy enc now db) (hp : RefundsPending db)
    (hr : db.payoutClaims.get? c = some r) (hmany : 10 ≤ r.attemptCount) (hfree : Free now r) :
    ¬Recoverable enc db now c r := by
  intro h
  have hhealthy := hdb c r hr
  have hwallet : trim r.escrowWallet = r.escrowWallet := trim_address hhealthy.wallet
  have hvalid : (⟨"payout-worker", r.escrowWallet, r.network, 1, 10000⟩ : LeaseRequest).Valid enc := by
    refine ⟨payoutWorker_length, ⟨le_rfl, (by decide : 1 ≤ 100)⟩,
      ⟨le_rfl, (by decide : 10000 ≤ payoutMaxLeaseMs)⟩, ?_, ?_⟩
    · rw [hwallet]
      exact hhealthy.wallet
    · rw [hhealthy.network.1]
      exact hhealthy.network.2
  obtain ⟨ts, ids, db', hrun, hc, -⟩ := h hfree _ hvalid hwallet hhealthy.network.1
  obtain ⟨mid, hbefore, hlast⟩ := Trace.snoc_iff.mp hrun
  have hkeep := calls_keep hbefore (callsKeep_of hdb hp hr)
  obtain ⟨s, hs, hkept⟩ := hkeep.row
  obtain ⟨s', -, -, hactive⟩ := hlast.kept hkeep.healthy hs
  have hfew := (hactive hc).1
  rw [hkept.attempts] at hfew
  omega

end Leasing

section Backlogs

variable {L O : Nat}

def exhausted (r : PayoutClaim) : Bool := decide (10 ≤ r.attemptCount)

theorem not_confirmed_of_unsettled (h : Sound r) (hu : unsettled r = true) :
    r.status ≠ .confirmed := by
  intro hs
  unfold Sound at h
  simp only [hs] at h
  simp [unsettled, hs, h.2.2.2] at hu

theorem blocked_eq (h : Healthy enc now r) (hs : r.status ≠ .confirmed)
    (hlease : now + payoutMaxLeaseMs ≤ L) (htime : now ≤ O) : blocked L O r = exhausted r := by
  have hsound := h.sound
  unfold Sound at hsound
  have hevidence : lacksEvidence r = false ∧ strayEvidence r = false := by
    cases hst : r.status with
    | confirmed => exact absurd hst hs
    | prepared =>
      simp only [hst] at hsound
      obtain ⟨hblock, hheight, hpos⟩ := h.prepared hst
      simp [lacksEvidence, strayEvidence, hst, Option.isSome_iff_ne_none, hsound, hblock, hheight,
        Nat.pos_iff_ne_zero.mp hpos]
    | pending =>
      simp only [hst] at hsound
      obtain ⟨hblock, hheight⟩ := h.idle (.inl hst)
      simp [lacksEvidence, strayEvidence, hst, hsound, hblock, hheight]
    | leased =>
      simp only [hst] at hsound
      obtain ⟨hblock, hheight⟩ := h.idle (.inr (.inl hst))
      simp [lacksEvidence, strayEvidence, hst, hsound, hblock, hheight]
    | failed =>
      simp only [hst] at hsound
      obtain ⟨hblock, hheight⟩ := h.idle (.inr (.inr hst))
      simp [lacksEvidence, strayEvidence, hst, hsound, hblock, hheight]
  have hhidden : hiddenLease L r = false := by
    have hexpiry : (r.leaseExpiresAt.any fun expiry => decide (L < expiry)) = false := by
      cases ht : r.leaseExpiresAt with
      | none => rfl
      | some t =>
        have hle := h.expiry t ht
        simp only [Option.any_some, decide_eq_false_iff_not]
        omega
    have howner : (decide (r.status = .leased) &&
        (r.leaseOwner.isNone || r.leaseExpiresAt.isNone)) = false := by
      by_cases hst : r.status = .leased
      · obtain ⟨how, hex, -⟩ := h.leased hst
        simp [Option.isSome_iff_ne_none, how, hex]
      · simp [hst]
    simp [hiddenLease, hexpiry, howner]
  have htimes : impossibleTimes O r = false := by
    have hobserved : (r.absenceObservedAt.any fun observedAt =>
        decide (observedAt < r.preparedAt.getD r.createdAt ∨ O < observedAt)) = false := by
      cases ht : r.absenceObservedAt with
      | none => rfl
      | some t =>
        have hbounds := h.observed t ht
        simp only [Option.any_some, decide_eq_false_iff_not]
        omega
    have hcreated := h.created
    have hzero : r.createdAt ≠ 0 := by omega
    have hlater : ¬O < r.createdAt := by omega
    rw [impossibleTimes, hobserved]
    simp [hzero, hlater]
  simp [blocked, hevidence, hhidden, htimes, hs, exhausted]

theorem backlogs_of_healthy (hdb : AllHealthy enc now db) (hclock : now + 2 * payoutMaxLeaseMs ≤ i64Max) :
    ∃ bs, payoutClaimBacklogs db now now = .ok bs ∧ ∀ b ∈ bs, b.blockedCount =
      (db.payoutClaims.rows.filter fun r => unsettled r &&
        decide (backlogKey r = (b.escrowWallet, b.network))).countP exhausted := by
  have hmax : payoutMaxLeaseMs = 600000 := rfl
  have hskew : recoveryScheduleClockSkewMs = 60000 := rfl
  have hlease : saturatingAdd (saturatingAdd now payoutMaxLeaseMs) recoveryScheduleClockSkewMs =
      now + payoutMaxLeaseMs + recoveryScheduleClockSkewMs := by
    simp only [saturatingAdd, u64Max, i64Max] at hclock ⊢
    omega
  have htime : saturatingAdd now recoveryScheduleClockSkewMs = now + recoveryScheduleClockSkewMs := by
    simp only [saturatingAdd, u64Max, i64Max] at hclock ⊢
    omega
  have hlease' : asI64 (now + payoutMaxLeaseMs + recoveryScheduleClockSkewMs) = .ok _ :=
    asI64_eq_ok.mpr ⟨by omega, rfl⟩
  have htime' : asI64 (now + recoveryScheduleClockSkewMs) = .ok _ :=
    asI64_eq_ok.mpr ⟨by omega, rfl⟩
  simp only [payoutClaimBacklogs, hlease, htime, hlease', htime', ok_bind]
  refine ⟨_, rfl, fun b hb => ?_⟩
  obtain ⟨key, -, rfl⟩ := List.mem_map.mp (List.mem_mergeSort.mp hb)
  simp only [backlogOf, List.filter_filter]
  have hswap : (db.payoutClaims.rows.filter fun r => decide (backlogKey r = key) && unsettled r) =
      db.payoutClaims.rows.filter fun r => unsettled r && decide (backlogKey r = key) := by
    apply List.filter_congr
    intro r _
    exact Bool.and_comm _ _
  rw [hswap]
  apply List.countP_congr
  intro r hr
  obtain ⟨hmem, hpred⟩ := List.mem_filter.mp hr
  rw [Bool.and_eq_true] at hpred
  have hhealthy := hdb r.id r (Table.get?_of_mem hmem)
  rw [blocked_eq hhealthy (not_confirmed_of_unsettled hhealthy.sound hpred.1) (by omega) (by omega)]

end Backlogs

section Guarantee

structure NeverHidden (enc : Encoding) (w : Desk) : Prop where
  backlogs : ∀ now, w.clock.1 ≤ now → now + 2 * payoutMaxLeaseMs ≤ i64Max →
    ∃ bs, payoutClaimBacklogs w.db now now = .ok bs ∧ ∀ b ∈ bs, b.blockedCount =
      (w.db.payoutClaims.rows.filter fun r => unsettled r &&
        decide (backlogKey r = (b.escrowWallet, b.network))).countP exhausted
  recoverable : ∀ c r, w.db.payoutClaims.get? c = some r → r.status ≠ .confirmed →
    r.attemptCount < 10 ∨ r.status = .prepared → ∀ now, w.clock.1 ≤ now →
    now + payoutMaxLeaseMs ≤ i64Max → Recoverable enc w.db now c r

def NeverHiddenThroughout (enc : Encoding) (start : Desk) (es : List DeskEvent) (w : Desk) : Prop :=
  ∀ as bs mid, es = as ++ bs → DeskRun enc start as mid → DeskRun enc mid bs w → NeverHidden enc mid

-- a prepare that uses up the last allowed attempt
def LastPrepare (w : Desk) (ev : DeskEvent) : Prop :=
  ∃ now q r, ev = .store (.accepted now (.prepare q)) ∧
    w.db.payoutClaims.get? (trim q.claimId) = some r ∧ r.status = .leased ∧ 10 ≤ r.attemptCount + 1

def NoLastPrepare (enc : Encoding) (start : Desk) (es : List DeskEvent) (w : Desk) : Prop :=
  ∀ as ev bs mid mid', es = as ++ ev :: bs → DeskRun enc start as mid → DeskStep enc mid ev mid' →
    DeskRun enc mid' bs w → ¬LastPrepare mid ev

def Spare (db : Database) : Prop :=
  ∀ c r, db.payoutClaims.get? c = some r → r.status = .prepared → r.attemptCount < 10

theorem neverHidden_of_spare (hw : Settled enc w) (hspare : Spare w.db) : NeverHidden enc w := by
  refine ⟨?_, ?_⟩
  · intro now hle hclock
    exact backlogs_of_healthy (fun c r hr => (hw.healthy c r hr).later hle) hclock
  · intro c r hr hs hwhich now hle hclock
    have hfew : r.attemptCount < 10 := hwhich.elim id (hspare c r hr)
    exact recoverable_of_healthy (fun c r hr => (hw.healthy c r hr).later hle) hw.refunds hclock hr hs
      hfew

theorem Effect.spare (h : Effect now req r r') (hr : Sound r)
    (hspare : r.status = .prepared → r.attemptCount < 10)
    (hlast : ∀ q, req = .prepare q → trim q.claimId = r.id → r.status = .leased →
      r.attemptCount + 1 < 10) (hs : r'.status = .prepared) : r'.attemptCount < 10 := by
  cases h with
  | elsewhere _ _ => exact hspare hs
  | lapsed =>
    rcases @lapse_eq _ now hr with heq | ⟨heq, -⟩
    · rw [heq] at hs ⊢
      exact hspare hs
    · simp [heq] at hs
  | leased hl =>
    simp only [leasable, Bool.and_eq_true, decide_eq_true_eq] at hl
    exact hl.1.1.1.1.2
  | prepared hid _ hleased => exact hlast _ rfl hid hleased
  | resent _ _ _ _ _ => exact hspare hs
  | completed _ _ _ _ => simp [recordConfirmed] at hs
  | recompleted _ _ _ => exact hspare hs
  | abandoned _ _ _ ha _ =>
    unfold abandonRow at hs ⊢
    split at hs
    · simp [recordAbandoned] at hs
    · next hopen =>
      rw [if_neg hopen]
      exact hspare ha.status
  | retained _ _ _ hopen =>
    by_cases hprepared : r.status = .prepared
    · have hraw : r.signedTransactionBase64 ≠ none := by
        unfold Sound at hr
        simp only [hprepared] at hr
        exact hr.2.1
      simp only [recordFailure, hraw, ↓reduceIte, Nat.add_zero]
      exact hspare hprepared
    · simp [recordFailure, hr.unsigned hprepared] at hs
  | ignored _ _ _ => exact hspare hs

theorem DeskStep.spare (h : DeskStep enc w ev w') (hw : Settled enc w) (hspare : Spare w.db)
    (hlast : ¬LastPrepare w ev) : Spare w'.db := by
  cases h with
  | tick _ => exact hspare
  | store hstep _ _ _ =>
    cases hstep with
    | @accepted t req _ _ hexec =>
      intro c r' hr' hs
      have hchanged := execute_changed hexec
      cases hr : w.db.payoutClaims.get? c with
      | none =>
        rw [hchanged.absent c hr] at hr'
        cases hr'
      | some r =>
        obtain ⟨r'', hr'', heffect⟩ := hchanged.claim c r hr
        obtain rfl : r'' = r' := Option.some.inj (hr''.symm.trans hr')
        refine heffect.spare (hw.healthy c r hr).sound (hspare c r hr) ?_ hs
        rintro q rfl hid hleased
        by_contra hmany
        refine hlast ⟨t, q, r, rfl, ?_, hleased, by omega⟩
        rw [hid, Table.get?_key hr]
        exact hr
    | rejected _ => exact hspare
    | enqueued hinsert _ =>
      intro c r hr hs
      rw [get?_enqueued hinsert] at hr
      split at hr
      · cases hr
        simp [NewClaim.row] at hs
      · exact hspare c r hr hs
    | earned _ _ => exact hspare
    | matured => exact hspare
    | elsewhere => exact hspare

theorem spareless_of_lastPrepare (h : DeskStep enc w ev w')
    (hlast : LastPrepare w ev) : ∃ c r, w'.db.payoutClaims.get? c = some r ∧ r.status = .prepared ∧
      10 ≤ r.attemptCount := by
  obtain ⟨t, q, r, rfl, hr, hleased, hmany⟩ := hlast
  cases h with
  | store hstep _ _ _ =>
    cases hstep with
    | accepted hexec =>
      obtain ⟨r', hr', heffect⟩ := (execute_changed hexec).claim _ r hr
      refine ⟨_, r', hr', ?_⟩
      cases heffect with
      | elsewhere htarget hne =>
        simp only [Request.target, Option.some.injEq] at htarget
        rw [← htarget, Table.get?_key hr] at hne
        exact absurd rfl hne
      | prepared _ _ _ => exact ⟨rfl, hmany⟩
      | resent _ _ hprepared _ _ =>
        rw [hleased] at hprepared
        cases hprepared

theorem hidden_of_lastPrepare {as bs : List DeskEvent} {mid' : Desk} (hstart : Opens start)
    (hbefore : DeskRun enc start as mid) (hstep : DeskStep enc mid ev mid')
    (hafter : DeskRun enc mid' bs w) (hlast : LastPrepare mid ev) :
    ¬NeverHiddenThroughout enc start (as ++ ev :: bs) w := by
  intro h
  obtain ⟨c, r, hr, hs, hmany⟩ := spareless_of_lastPrepare hstep hlast
  have hbefore' : DeskRun enc start (as ++ [ev]) mid' := .snoc hbefore hstep
  have hsettled := hstep.settled (run_settled hstart hbefore)
  have hsplit : as ++ ev :: bs = (as ++ [ev]) ++ bs := by simp
  have hnever := h (as ++ [ev]) bs mid' hsplit hbefore' hafter
  have hclock := mid'.clock.2
  have hle : mid'.clock.1 ≤ mid'.clock.1 + payoutMaxLeaseMs := by omega
  have hrec := hnever.recoverable c r hr (by simp [hs]) (.inr hs)
    (mid'.clock.1 + payoutMaxLeaseMs) hle (by omega)
  refine not_recoverable (fun c r hr => (hsettled.healthy c r hr).later hle) hsettled.refunds hr
    hmany ?_ hrec
  exact (hsettled.healthy c r hr).expiry

theorem payouts_never_hidden_iff (hstart : Opens start) (run : DeskRun enc start es w) :
    NeverHiddenThroughout enc start es w ↔ NoLastPrepare enc start es w := by
  constructor
  · rintro h as ev bs mid mid' rfl hbefore hstep hafter hlast
    exact hidden_of_lastPrepare hstart hbefore hstep hafter hlast h
  · rintro h as bs mid rfl hbefore hafter
    apply neverHidden_of_spare (run_settled hstart hbefore)
    have hstrong := hbefore.strengthen (Q := fun w ev => ¬LastPrepare w ev) fun cs ev ds u v has hcs
        hstep hds => by
      refine h cs ev (ds ++ bs) u v ?_ hcs hstep (Trace.append_iff.mpr ⟨mid, hds, hafter⟩)
      rw [has, List.append_assoc, List.cons_append]
    have hboth := hstrong.invariant (P := fun w => Settled enc w ∧ Spare w.db) ⟨?_, ?_⟩
      fun _ _ _ hw hstep => ⟨hstep.1.settled hw.1, hstep.1.spare hw.1 hw.2 hstep.2⟩
    · exact hboth.2
    · exact run_settled hstart .nil
    · intro c r hr
      rw [hstart] at hr
      cases hr

end Guarantee

section Sample

-- an event that leaves no refund waiting
def Event.Plain (now : Nat) : Event → Prop
  | .accepted t _ => t = now
  | .enqueued c => c.Regular ∧ (0 < c.createdAt ∧ c.createdAt ≤ now) ∧ c.kind ≠ "research_refund"
  | _ => False

theorem jobs_enqueued {n : NewClaim} (h : insertPayoutClaim enc db n = .ok db') :
    db'.researchJobs = db.researchJobs := by
  simp only [insertPayoutClaim, bind_eq_ok] at h
  obtain ⟨_, _, _, _, _, _, _, _, _, _, h⟩ := h
  unfold insertRow at h
  split at h
  · cases h
  · split at h
    · cases h
      rfl
    · cases h

theorem deskRun_of_plain {clock : Clock} {stores : List Event}
    (hplain : ∀ e ∈ stores, e.Plain clock.1) (run : Trace (Step enc) db stores db') :
    DeskRun enc ⟨db, clock⟩ (stores.map .store) ⟨db', clock⟩ := by
  induction run with
  | nil => exact .nil
  | @snoc t u es a htrace hstep ih =>
    rw [List.map_append]
    have hlast : a.Plain clock.1 := hplain a (by simp)
    have hbefore := ih fun e he => hplain e (by simp [he])
    refine .snoc hbefore ?_
    cases hstep with
    | accepted hexec =>
      exact .store (w := ⟨t, clock⟩) (.accepted hexec) hlast (by simp) (by simp [Event.outside])
    | @enqueued n _ hinsert hearning =>
      obtain ⟨hregular, htime, hkind⟩ := hlast
      refine .store (w := ⟨t, clock⟩) (.enqueued hinsert hearning) htime ?_ ?_
      · rintro c hc
        cases hc
        exact hregular
      · intro _ hpending c r hr hs hrefund
        rw [get?_enqueued hinsert] at hr
        split at hr
        · cases hr
          exact absurd hrefund hkind
        · obtain ⟨jobId, job, hid, hjob, hawaits⟩ := hpending c r hr hs hrefund
          refine ⟨jobId, job, hid, ?_, hawaits⟩
          rw [jobs_enqueued hinsert]
          exact hjob
    | rejected _ => cases hlast
    | earned _ _ => cases hlast
    | matured => cases hlast
    | elsewhere => cases hlast

def sampleDesk : Desk := ⟨.empty, ⟨2000, by decide⟩⟩

def samplePayout : NewClaim := { sampleClaim with earningEventId := none }

def sampleAttempt : List Event :=
  [.accepted 2000 (sampleLease "worker-a"),
    .accepted 2000 (.fail ⟨"payout_1", "worker-a", "fee payer is empty", false⟩)]

def sampleAttempts (n : Nat) : List Event :=
  .enqueued samplePayout :: (List.replicate n sampleAttempt).flatten ++
    [.accepted 2000 (sampleLease "worker-a")]

def samplePrepare : Event := .accepted 2000 (.prepare (firstPrepare "worker-a"))

theorem samplePrepare_plain : samplePrepare.Plain 2000 := rfl

theorem sampleAttempts_plain (n : Nat) : ∀ e ∈ sampleAttempts n, e.Plain 2000 := by
  intro e he
  simp only [sampleAttempts, List.cons_append, List.mem_cons, List.mem_append,
    List.mem_flatten, List.mem_replicate] at he
  rcases he with rfl | ⟨l, ⟨-, rfl⟩, he⟩ | rfl | he
  · exact ⟨⟨by decide, by decide, by decide⟩, by decide, by decide⟩
  · simp only [sampleAttempt, List.mem_cons, List.not_mem_nil, or_false] at he
    rcases he with rfl | rfl <;> rfl
  · rfl
  · cases he

def attempted (n : Nat) (db : Database) : Bool :=
  (db.payoutClaims.get? "payout_1").any fun r =>
    decide (r.status = .leased ∧ r.attemptCount = n) &&
      (execEvent .standard db samplePrepare).isSome

theorem sampleAttempts_run :
    (runWith (execEvent .standard) .empty (sampleAttempts 9)).any (attempted 9) = true := by
  simp only [sampleAttempts, sampleAttempt, samplePayout, List.replicate, List.flatten_cons,
    List.flatten_nil, List.cons_append, List.nil_append, runWith, execEvent, execute, sampleLease,
    leasePayoutClaims, sampleClaim, insertPayoutClaim, trim_sampleWallet, trim_sampleNetwork,
    sampleWallet_valid]
  decide +kernel

theorem sample_first_prepare :
    (runWith (execEvent .standard) .empty (sampleAttempts 0 ++ [samplePrepare])).isSome = true := by
  simp only [sampleAttempts, samplePayout, samplePrepare, List.replicate,
    List.flatten_nil, List.cons_append, List.nil_append, runWith, execEvent, execute, sampleLease,
    leasePayoutClaims, sampleClaim, insertPayoutClaim, trim_sampleWallet, trim_sampleNetwork,
    sampleWallet_valid, preparePayoutClaim, firstPrepare_valid]
  decide +kernel

theorem payouts_never_hidden_iff_sample :
    ∃ es w, DeskRun .standard sampleDesk es w ∧ (NeverHiddenThroughout .standard sampleDesk es w ↔
      NoLastPrepare .standard sampleDesk es w) := by
  obtain ⟨db, hdb⟩ := Option.isSome_iff_exists.mp sample_first_prepare
  have hplain : ∀ e ∈ sampleAttempts 0 ++ [samplePrepare], e.Plain sampleDesk.clock.1 := by
    intro e he
    rcases List.mem_append.mp he with he | he
    · exact sampleAttempts_plain 0 e he
    · rw [List.mem_singleton.mp he]
      exact samplePrepare_plain
  have run := deskRun_of_plain hplain (runWith_trace step_of_execEvent hdb)
  exact ⟨_, _, run, payouts_never_hidden_iff rfl run⟩

theorem tenth_prepare_hides :
    ∃ es w, DeskRun .standard sampleDesk es w ∧ Opens sampleDesk ∧
      ¬NeverHiddenThroughout .standard sampleDesk es w := by
  obtain ⟨db, hdb, hattempted⟩ := Option.any_eq_true _ _ |>.mp sampleAttempts_run
  have run : DeskRun .standard sampleDesk _ ⟨db, sampleDesk.clock⟩ :=
    deskRun_of_plain (sampleAttempts_plain 9) (runWith_trace step_of_execEvent hdb)
  obtain ⟨r, hr, hr'⟩ := Option.any_eq_true _ _ |>.mp hattempted
  rw [Bool.and_eq_true, decide_eq_true_eq] at hr'
  obtain ⟨⟨hleased, hcount⟩, hprepare⟩ := hr'
  obtain ⟨db', hdb'⟩ := Option.isSome_iff_exists.mp hprepare
  have hprepared := step_of_execEvent _ _ _ hdb'
  have hstep : DeskStep .standard ⟨db, sampleDesk.clock⟩ (.store samplePrepare)
      ⟨db', sampleDesk.clock⟩ :=
    .store hprepared rfl (by simp [samplePrepare]) (by simp [samplePrepare, Event.outside])
  refine ⟨_, _, .snoc run hstep, rfl, hidden_of_lastPrepare rfl run hstep .nil ?_⟩
  have htarget : trim (firstPrepare "worker-a").claimId = "payout_1" := by decide
  refine ⟨2000, firstPrepare "worker-a", r, rfl, ?_, hleased, by omega⟩
  rw [htarget]
  exact hr

end Sample

end Obulus.Payout
