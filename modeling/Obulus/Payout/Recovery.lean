import Obulus.Payout.Backlog

namespace Obulus.Payout

open Foundation Store

variable {enc : Encoding} {db db' : Database} {now : Nat} {c : String} {r r' : PayoutClaim}
  {q : LeaseRequest} {claims : List PayoutClaim}

def AllHealthy (enc : Encoding) (now : Nat) (db : Database) : Prop :=
  ∀ c r, db.payoutClaims.get? c = some r → Healthy enc now r

theorem AllHealthy.allSound (h : AllHealthy enc now db) : AllSound db :=
  fun c r hr => (h c r hr).sound

section Calls

structure LeaseRequest.Valid (enc : Encoding) (q : LeaseRequest) : Prop where
  worker : 3 ≤ (trim q.workerId).utf8ByteSize ∧ (trim q.workerId).utf8ByteSize ≤ 128
  batch : 1 ≤ q.limit ∧ q.limit ≤ 100
  duration : 10000 ≤ q.leaseMs ∧ q.leaseMs ≤ payoutMaxLeaseMs
  wallet : validSolanaAddress enc (trim q.escrowWallet) = true
  network : trim q.network ≠ ""

def LeaseCall (enc : Encoding) (now : Nat) (q : LeaseRequest) (db : Database) (ids : List String)
    (db' : Database) : Prop :=
  ∃ claims, leasePayoutClaims enc db now q = .ok (db', claims) ∧ ids = claims.map PayoutClaim.id

theorem updateClaims_keys {p : PayoutClaim → Bool} {f : PayoutClaim → PayoutClaim}
    {hid : ∀ r, (f r).id = r.id} {hevent : ∀ r, (f r).earningEventId = r.earningEventId}
    (h : updateClaims db p f hid hevent = .ok db') :
    db'.payoutClaims.rows.map PayoutClaim.id = db.payoutClaims.rows.map PayoutClaim.id := by
  rw [(updateClaims_ok h).1]
  exact Table.keys_update

theorem leaseEach_returns {workerId : String} {expiry : Nat} {ids : List String}
    (h : leaseEach workerId expiry now db ids = .ok (db', claims))
    (htrim : ∀ id ∈ ids, trim id = id) : claims.map PayoutClaim.id = ids ∧
      db'.payoutClaims.rows.map PayoutClaim.id = db.payoutClaims.rows.map PayoutClaim.id ∧
      db'.researchJobs = db.researchJobs := by
  induction ids generalizing db db' claims with
  | nil =>
    simp only [leaseEach, Except.ok.injEq, Prod.mk.injEq] at h
    obtain ⟨rfl, rfl⟩ := h
    exact ⟨rfl, rfl, rfl⟩
  | cons id ids ih =>
    simp only [leaseEach, bind_eq_ok, asI64_eq_ok, loadPayoutClaim_ok] at h
    obtain ⟨e, ⟨_, rfl⟩, mid, hmid, claim, hload, ⟨last, rest⟩, hrest, h⟩ := h
    cases h
    obtain ⟨hclaims, hkeys, hjobs⟩ := ih hrest fun id' hid' => htrim id' (List.mem_cons_of_mem _ hid')
    refine ⟨?_, hkeys.trans (updateClaims_keys hmid), hjobs.trans (updateClaims_ok hmid).2.2.1⟩
    simp [hclaims, Table.get?_key hload, htrim id List.mem_cons_self]

-- what a lease call does to the claims it sees
structure Taken (now : Nat) (q : LeaseRequest) (db : Database) (ids : List String)
    (db' : Database) : Prop where
  clock : now ≤ i64Max
  duration : 10000 ≤ q.leaseMs ∧ q.leaseMs ≤ payoutMaxLeaseMs
  keys : db'.payoutClaims.rows.map PayoutClaim.id = db.payoutClaims.rows.map PayoutClaim.id
  jobs : db'.researchJobs = db.researchJobs
  due : ∀ id ∈ ids, ∃ r, db.payoutClaims.get? id = some r ∧
    leasable now (trim q.escrowWallet) (trim q.network) (lapse now r) = true
  rows : ∀ c, db'.payoutClaims.get? c = (db.payoutClaims.get? c).map fun r =>
    if c ∈ ids then takeLease (trim q.workerId) (saturatingAdd now q.leaseMs) now (lapse now r)
    else lapse now r
  progress : ∀ c r, db.payoutClaims.get? c = some r →
    leasable now (trim q.escrowWallet) (trim q.network) (lapse now r) = true → ids ≠ []

theorem lapse_id (now : Nat) (r : PayoutClaim) : (lapse now r).id = r.id := by
  unfold lapse
  split <;> rfl

theorem leasableIds_ne_nil {escrowWallet network : String} {limit : Nat} (hlimit : 1 ≤ limit)
    (hr : db.payoutClaims.get? c = some r) (hl : leasable now escrowWallet network r = true) :
    leasableIds db now escrowWallet network limit ≠ [] := by
  intro h
  have hmem : r ∈ (db.payoutClaims.rows.filter (leasable now escrowWallet network)).mergeSort
      leaseOrder := List.mem_mergeSort.mpr (List.mem_filter.mpr ⟨Table.get?_mem hr, hl⟩)
  simp only [leasableIds, List.map_eq_nil_iff, List.take_eq_nil_iff] at h
  rcases h with h | h
  · omega
  · rw [h] at hmem
    cases hmem

theorem leasePayoutClaims_taken (hdb : AllHealthy enc now db)
    (h : leasePayoutClaims enc db now q = .ok (db', claims)) :
    Taken now q db (claims.map PayoutClaim.id) db' := by
  simp only [leasePayoutClaims, bind_eq_ok, reject_eq_ok, exists_const, asI64_eq_ok, not_or,
    not_not] at h
  obtain ⟨-, ⟨hlimit, hms⟩, -, t, ⟨hclock, rfl⟩, mid, hmid, h⟩ := h
  have hrow (c : String) : mid.payoutClaims.get? c = (db.payoutClaims.get? c).map (lapse t) :=
    updateClaims_get? hmid c
  have hdue (id : String)
      (hid : id ∈ leasableIds mid t (trim q.escrowWallet) (trim q.network) q.limit) :
      ∃ r, db.payoutClaims.get? id = some r ∧
        leasable t (trim q.escrowWallet) (trim q.network) (lapse t r) = true := by
    obtain ⟨r', hr', hkey⟩ := List.mem_map.mp hid
    have hmem := List.mem_mergeSort.mp (List.mem_of_mem_take hr')
    have hget : mid.payoutClaims.get? id = some r' :=
      Table.get?_eq_some.mpr ⟨(List.mem_filter.mp hmem).1, hkey⟩
    rw [hrow] at hget
    obtain ⟨r, hr, rfl⟩ := Option.map_eq_some_iff.mp hget
    exact ⟨r, hr, (List.mem_filter.mp hmem).2⟩
  have htrim (id : String)
      (hid : id ∈ leasableIds mid t (trim q.escrowWallet) (trim q.network) q.limit) :
      trim id = id := by
    obtain ⟨r, hr, -⟩ := hdue id hid
    have hhealthy := (hdb id r hr).id
    rw [Table.get?_key hr] at hhealthy
    exact hhealthy
  obtain ⟨hclaims, hkeys, hjobs⟩ := leaseEach_returns h htrim
  rw [hclaims]
  refine ⟨hclock, hms, hkeys.trans (updateClaims_keys hmid), hjobs.trans (updateClaims_ok hmid).2.2.1,
    hdue, ?_, ?_⟩
  · intro c
    rw [leaseEach_get? h c, hrow, Option.map_map]
    rfl
  · intro c r hr hl
    refine leasableIds_ne_nil hlimit.1 (c := c) (r := lapse t r) ?_ hl
    rw [hrow, hr]
    rfl

end Calls

section Totality

theorem updateClaims_total {p : PayoutClaim → Bool} {f : PayoutClaim → PayoutClaim}
    {hid : ∀ r, (f r).id = r.id} {hevent : ∀ r, (f r).earningEventId = r.earningEventId}
    (hsignature : ∀ r, (f r).transactionSignature = r.transactionSignature)
    (hstatus : ∀ r ∈ db.payoutClaims.rows, p r = true → r.status ≠ .prepared →
      (f r).status ≠ .prepared) : ∃ db', updateClaims db p f hid hevent = .ok db' := by
  have hguard : guardRollbackRecovery db p f = .ok () := by
    simp only [guardRollbackRecovery, reject_eq_ok, not_and, Bool.not_eq_true]
    intro _
    rw [List.any_eq_false]
    intro r hr
    by_cases hp : p r = true
    · have hkeep := hstatus r hr hp
      simp only [hp, Bool.true_and, decide_eq_true_eq, not_and]
      exact hkeep
    · simp [hp]
  have hunique : (signaturesOf (db.payoutClaims.update p f hid)).Nodup := by
    have hsame : signaturesOf (db.payoutClaims.update p f hid) = signaturesOf db.payoutClaims := by
      simp only [signaturesOf, Table.update, List.filterMap_map]
      apply List.filterMap_congr
      intro r _
      simp only [Function.comp]
      split
      · exact hsignature r
      · rfl
    rw [hsame]
    exact db.uniqueSignatures
  simp only [updateClaims, hguard, ok_bind, hunique, ↓reduceDIte]
  exact ⟨_, rfl⟩

def Unsigned (db : Database) : Prop :=
  ∀ c r, db.payoutClaims.get? c = some r → r.status ≠ .prepared → r.signedTransactionBase64 = none

theorem Sound.unsigned (h : Sound r) (hs : r.status ≠ .prepared) :
    r.signedTransactionBase64 = none := by
  unfold Sound at h
  cases hst : r.status with
  | prepared => exact absurd hst hs
  | pending =>
    simp only [hst] at h
    exact h.2.1
  | leased =>
    simp only [hst] at h
    exact h.2.1
  | failed =>
    simp only [hst] at h
    exact h.2.1
  | confirmed =>
    simp only [hst] at h
    exact h.2.1

theorem leaseEach_total {workerId : String} {expiry : Nat} {ids : List String}
    (hexpiry : expiry ≤ i64Max) (hdb : Unsigned db)
    (hids : ∀ id ∈ ids, trim id = id ∧ ∃ r, db.payoutClaims.get? id = some r) :
    ∃ result, leaseEach workerId expiry now db ids = .ok result := by
  induction ids generalizing db with
  | nil => exact ⟨_, rfl⟩
  | cons id ids ih =>
    obtain ⟨htrim, r, hr⟩ := hids id List.mem_cons_self
    have hexpiry' : asI64 expiry = .ok expiry := asI64_eq_ok.mpr ⟨hexpiry, rfl⟩
    have htotal : ∃ mid, updateClaims db (fun r => r.id = id) (takeLease workerId expiry now)
        (fun _ => rfl) (fun _ => rfl) = .ok mid := by
      refine updateClaims_total ?_ ?_
      · exact fun _ => rfl
      · intro r hr _ hs
        have hraw := hdb r.id r (Table.get?_of_mem hr) hs
        simp [takeLease, hraw]
    obtain ⟨mid, hmid⟩ := htotal
    have hrow (c : String) : mid.payoutClaims.get? c = (db.payoutClaims.get? c).map fun r =>
        if r.id = id then takeLease workerId expiry now r else r := by
      simpa using updateClaims_get? hmid c
    have hmid' : Unsigned mid := by
      intro c r' hr' hs
      rw [hrow] at hr'
      obtain ⟨r, hr, rfl⟩ := Option.map_eq_some_iff.mp hr'
      split at hs
      · next hid =>
        rw [if_pos hid]
        simp only [takeLease] at hs ⊢
        by_contra hraw
        simp [hraw] at hs
      · next hid =>
        rw [if_neg hid]
        exact hdb c r hr hs
    have hload : loadPayoutClaim mid id = .ok (takeLease workerId expiry now r) := by
      rw [loadPayoutClaim_ok, htrim, hrow, hr]
      simp [Table.get?_key hr]
    obtain ⟨⟨last, rest⟩, hrest⟩ := ih hmid' fun id' hid' => by
      obtain ⟨htrim', r', hr'⟩ := hids id' (List.mem_cons_of_mem _ hid')
      exact ⟨htrim', _, by rw [hrow, hr']; rfl⟩
    simp only [leaseEach, hexpiry', ok_bind, hmid, hload, hrest]
    exact ⟨_, rfl⟩

theorem lapse_unsigned (h : Sound r) (hs : (lapse now r).status ≠ .prepared) :
    (lapse now r).signedTransactionBase64 = none :=
  (lapse_sound h).1.unsigned hs

theorem LeaseRequest.Valid.call (hq : q.Valid enc) (hnow : now + payoutMaxLeaseMs ≤ i64Max)
    (hdb : AllHealthy enc now db) : ∃ db' claims, leasePayoutClaims enc db now q = .ok (db', claims) := by
  obtain ⟨hmin, hmax⟩ := hq.worker
  have hms := hq.duration
  have hnow' : asI64 now = .ok now := asI64_eq_ok.mpr ⟨by omega, rfl⟩
  have hexpiry : saturatingAdd now q.leaseMs ≤ i64Max := by
    rw [saturatingAdd_le_iff le_rfl]
    omega
  have htotal : ∃ mid, updateClaims db (leaseExpired now) (expireLease now) (fun _ => rfl)
      (fun _ => rfl) = .ok mid := by
    refine updateClaims_total ?_ ?_
    · exact fun _ => rfl
    · intro r hr _ hs
      have hraw := (hdb r.id r (Table.get?_of_mem hr)).sound.unsigned hs
      simp [expireLease, hraw]
  obtain ⟨mid, hmid⟩ := htotal
  have hrow (c : String) : mid.payoutClaims.get? c = (db.payoutClaims.get? c).map (lapse now) :=
    updateClaims_get? hmid c
  have hunsigned : Unsigned mid := by
    intro c r' hr' hs
    rw [hrow] at hr'
    obtain ⟨r, hr, rfl⟩ := Option.map_eq_some_iff.mp hr'
    exact lapse_unsigned (hdb c r hr).sound hs
  have heach : ∃ result, leaseEach (trim q.workerId) (saturatingAdd now q.leaseMs) now mid
      (leasableIds mid now (trim q.escrowWallet) (trim q.network) q.limit) = .ok result := by
    apply leaseEach_total hexpiry hunsigned
    intro id hid
    obtain ⟨r', hr', hkey⟩ := List.mem_map.mp hid
    have hmem := List.mem_mergeSort.mp (List.mem_of_mem_take hr')
    have hget : mid.payoutClaims.get? id = some r' :=
      Table.get?_eq_some.mpr ⟨(List.mem_filter.mp hmem).1, hkey⟩
    refine ⟨?_, r', hget⟩
    rw [hrow] at hget
    obtain ⟨r, hr, rfl⟩ := Option.map_eq_some_iff.mp hget
    rw [← hkey, lapse_id]
    exact (hdb id r hr).id
  obtain ⟨⟨db', claims⟩, hlease⟩ := heach
  refine ⟨db', claims, ?_⟩
  have hworker : ¬¬(3 ≤ (trim q.workerId).utf8ByteSize ∧ (trim q.workerId).utf8ByteSize ≤ 128) :=
    not_not.mpr ⟨hmin, hmax⟩
  have hbatch : ¬(¬(1 ≤ q.limit ∧ q.limit ≤ 100) ∨
      ¬(10000 ≤ q.leaseMs ∧ q.leaseMs ≤ payoutMaxLeaseMs)) :=
    fun h => h.elim (absurd hq.batch) (absurd hms)
  have hwallet : ¬(validSolanaAddress enc (trim q.escrowWallet) = false ∨ trim q.network = "") := by
    simp [hq.wallet, hq.network]
  simp only [leasePayoutClaims, reject, if_neg hworker, if_neg hbatch, if_neg hwallet, hnow', ok_bind,
    hmid]
  exact hlease

theorem finalizeResearchRefundJob_total {claim : PayoutClaim} (hnow : now ≤ i64Max)
    (h : claim.kind = "research_refund" → AwaitsRefund db claim) :
    ∃ db', finalizeResearchRefundJob db claim now = .ok db' := by
  by_cases hkind : claim.kind = "research_refund"
  · obtain ⟨jobId, job, hid, hjob, hrefund, hstatus⟩ := h hkind
    have hnow' : asI64 now = .ok now := asI64_eq_ok.mpr ⟨hnow, rfl⟩
    have hfound : (db.researchJobs.get? jobId).filter (fun job => job.refundClaimId = some claim.id) =
        some job := by simp [hjob, hrefund]
    simp only [finalizeResearchRefundJob, hkind, ne_eq, not_true_eq_false, ↓reduceIte, hid, orReject,
      ok_bind, hfound]
    rcases hstatus with hpending | hrefunded
    · have hone : (db.researchJobs.rows.filter fun job => decide (job.id = jobId ∧
          job.refundClaimId = some claim.id ∧ job.status = "refund_pending")).length = 1 := by
        simpa [Bool.decide_and] using Table.length_filter_key (P := fun job : ResearchJob =>
          decide (job.refundClaimId = some claim.id) && decide (job.status = "refund_pending"))
          hjob (by simp [hrefund, hpending])
      simp only [completeResearchJob, hpending, String.reduceEq, ↓reduceIte, hnow', ok_bind,
        reject, ne_eq, not_true_eq_false, hone]
      exact ⟨_, rfl⟩
    · simp only [completeResearchJob, hrefunded, ↓reduceIte]
      exact ⟨_, rfl⟩
  · simp only [finalizeResearchRefundJob, ne_eq, hkind, not_false_eq_true, ↓reduceIte]
    exact ⟨_, rfl⟩

theorem complete_total {q : CompleteRequest} (hr : db.payoutClaims.get? (trim q.claimId) = some r)
    (hs : r.status = .prepared) (hsignature : r.transactionSignature = some (trim q.transactionSignature))
    (hlease : ActiveLease q.workerId now r) (hnow : now ≤ i64Max)
    (hrefund : r.kind = "research_refund" → AwaitsRefund db r) :
    ∃ result, completePayoutClaim db now q = .ok result := by
  have hload : loadPayoutClaim db (trim q.claimId) = .ok r := by
    rw [loadPayoutClaim_ok, trim_trim]
    exact hr
  have hnow' : asI64 now = .ok now := asI64_eq_ok.mpr ⟨hnow, rfl⟩
  have hactive : requireActivePayoutLease q.workerId r.leaseOwner r.leaseExpiresAt now = .ok () :=
    requireActivePayoutLease_ok.mpr hlease
  have htotal : ∃ mid, updateClaims db (fun r => r.id = trim q.claimId) (recordConfirmed now)
      (fun _ => rfl) (fun _ => rfl) = .ok mid := by
    refine updateClaims_total ?_ ?_
    · exact fun _ => rfl
    · intro r _ _ _
      simp [recordConfirmed]
  obtain ⟨mid, hmid⟩ := htotal
  have hjobs : (markEarningPaid mid r.earningEventId).researchJobs = db.researchJobs := by
    unfold markEarningPaid
    split
    · exact (updateClaims_ok hmid).2.2.1
    · exact (updateClaims_ok hmid).2.2.1
  have hwaits : r.kind = "research_refund" → AwaitsRefund (markEarningPaid mid r.earningEventId) r := by
    intro hkind
    obtain ⟨jobId, job, hid, hjob, hrest⟩ := hrefund hkind
    refine ⟨jobId, job, hid, ?_, hrest⟩
    rw [hjobs]
    exact hjob
  obtain ⟨last, hlast⟩ := finalizeResearchRefundJob_total hnow hwaits
  have hclaims : last.payoutClaims = mid.payoutClaims := by
    rw [(finalizeResearchRefundJob_frame hlast).1]
    unfold markEarningPaid
    split <;> rfl
  have hafter : loadPayoutClaim last (trim q.claimId) = .ok (recordConfirmed now r) := by
    rw [loadPayoutClaim_ok, trim_trim, hclaims, updateClaims_get? hmid, hr]
    simp [Table.get?_key hr]
  simp only [completePayoutClaim, hload, ok_bind, hs, reduceCtorEq, ↓reduceIte, completePrepared, hactive,
    reject, hsignature, ne_eq, not_true_eq_false, or_self, hnow', hmid, hlast, hafter]
  exact ⟨_, rfl⟩

end Totality

end Obulus.Payout
