import Obulus.Payout.Operations

namespace Obulus.Payout

open Foundation Store

inductive Request
  | lease (req : LeaseRequest)
  | prepare (req : PrepareRequest)
  | complete (req : CompleteRequest)
  | fail (req : FailRequest)
  deriving DecidableEq, Repr

def Request.target : Request → Option String
  | .lease _ => none
  | .prepare req => some (trim req.claimId)
  | .complete req => some (trim req.claimId)
  | .fail req => some (trim req.claimId)

inductive Response
  | claims (claims : List PayoutClaim)
  | claim (claim : PayoutClaim)
  deriving DecidableEq, Repr

def execute (enc : Encoding) (db : Database) (now : Nat) : Request →
    Except StoreError (Database × Response)
  | .lease req => (leasePayoutClaims enc db now req).map fun r => (r.1, .claims r.2)
  | .prepare req => (preparePayoutClaim enc db now req).map fun r => (r.1, .claim r.2)
  | .complete req => (completePayoutClaim db now req).map fun r => (r.1, .claim r.2)
  | .fail req => (failPayoutClaim db now req).map fun r => (r.1, .claim r.2)

def lapse (now : Nat) (r : PayoutClaim) : PayoutClaim :=
  if leaseExpired now r then expireLease now r else r

structure ActiveLease (workerId : String) (now : Nat) (r : PayoutClaim) : Prop where
  owner : r.leaseOwner = some (trim workerId)
  expiry : ∃ e, r.leaseExpiresAt = some e ∧ now < e

structure Abandonable (now : Nat) (r : PayoutClaim) : Prop where
  status : r.status = .prepared
  signature : r.transactionSignature ≠ none
  raw : r.signedTransactionBase64 ≠ none
  observed : ∀ t, r.absenceObservedAt = some t → r.preparedAt.getD r.createdAt ≤ t ∧ t ≤ now

-- what an accepted request does to one claim row
inductive Effect (now : Nat) : Request → PayoutClaim → PayoutClaim → Prop
  | elsewhere {req c r} : req.target = some c → r.id ≠ c → Effect now req r r
  | lapsed {q r} : Effect now (.lease q) r (lapse now r)
  | leased {q r} : leasable now (trim q.escrowWallet) (trim q.network) (lapse now r) = true →
      Effect now (.lease q) r
        (takeLease (trim q.workerId) (saturatingAdd now q.leaseMs) now (lapse now r))
  | prepared {q r} : trim q.claimId = r.id → ActiveLease q.workerId now r → r.status = .leased →
      Effect now (.prepare q) r (recordPrepared q q.lastValidBlockHeight now r)
  | resent {q r} : trim q.claimId = r.id → ActiveLease q.workerId now r → r.status = .prepared →
      r.transactionSignature = some (trim q.transactionSignature) →
      r.signedTransactionBase64 = some (trim q.signedTransactionBase64) →
      Effect now (.prepare q) r r
  | completed {q r} : trim q.claimId = r.id → ActiveLease q.workerId now r →
      r.status = .prepared → r.transactionSignature = some (trim q.transactionSignature) →
      Effect now (.complete q) r (recordConfirmed now r)
  | recompleted {q r} : trim q.claimId = r.id → r.status = .confirmed →
      r.transactionSignature = some (trim q.transactionSignature) → Effect now (.complete q) r r
  | abandoned {q r} : trim q.claimId = r.id → ActiveLease q.workerId now r →
      q.abandonPreparedTransaction = true → Abandonable now r → now ≤ i64Max →
      Effect now (.fail q) r (abandonRow r (trim q.error) now r)
  | retained {q r} : trim q.claimId = r.id → ActiveLease q.workerId now r →
      q.abandonPreparedTransaction = false → r.status ≠ .confirmed →
      Effect now (.fail q) r (recordFailure (trim q.error) now r)
  | ignored {q r} : trim q.claimId = r.id → ActiveLease q.workerId now r →
      r.status = .confirmed → Effect now (.fail q) r r

structure Changed (now : Nat) (req : Request) (db db' : Database) : Prop where
  found : ∀ c, req.target = some c → db.payoutClaims.get? c ≠ none
  claim : ∀ c r, db.payoutClaims.get? c = some r →
    ∃ r', db'.payoutClaims.get? c = some r' ∧ Effect now req r r'
  absent : ∀ c, db.payoutClaims.get? c = none → db'.payoutClaims.get? c = none
  earnings :
    (∃ q r, req = .complete q ∧ db.payoutClaims.get? (trim q.claimId) = some r ∧
      r.status = .prepared ∧ db'.earningEvents = (markEarningPaid db r.earningEventId).earningEvents) ∨
    (db'.earningEvents = db.earningEvents ∧ ∀ q r, req = .complete q →
      db.payoutClaims.get? (trim q.claimId) = some r → r.status = .confirmed)

section Rows

variable {db db' : Database} {p : PayoutClaim → Bool} {f : PayoutClaim → PayoutClaim}
  {hid : ∀ r, (f r).id = r.id} {hevent : ∀ r, (f r).earningEventId = r.earningEventId}
  {c claimId workerId : String} {r claim : PayoutClaim} {now : Nat}

theorem updateClaims_get? (h : updateClaims db p f hid hevent = .ok db') (c : String) :
    db'.payoutClaims.get? c =
      (db.payoutClaims.get? c).map fun r => if p r then f r else r := by
  rw [(updateClaims_ok h).1, Table.get?_update]

theorem loadPayoutClaim_ok :
    loadPayoutClaim db claimId = .ok claim ↔ db.payoutClaims.get? (trim claimId) = some claim := by
  simp [loadPayoutClaim]

theorem requireActivePayoutLease_ok {u : Unit} :
    requireActivePayoutLease workerId r.leaseOwner r.leaseExpiresAt now = .ok u ↔
      ActiveLease workerId now r := by
  simp only [requireActivePayoutLease, reject_eq_ok, not_or, not_not]
  constructor
  · rintro ⟨howner, hexpiry⟩
    refine ⟨howner, ?_⟩
    cases he : r.leaseExpiresAt with
    | none => simp [he] at hexpiry
    | some e => exact ⟨e, rfl, by simpa [he] using hexpiry⟩
  · rintro ⟨howner, e, he, hlt⟩
    exact ⟨howner, by simpa [he] using hlt⟩

theorem finalizeResearchRefundJob_frame (h : finalizeResearchRefundJob db claim now = .ok db') :
    db'.payoutClaims = db.payoutClaims ∧ db'.earningEvents = db.earningEvents := by
  unfold finalizeResearchRefundJob at h
  split at h
  · cases h
    exact ⟨rfl, rfl⟩
  · simp only [bind_eq_ok] at h
    obtain ⟨_, _, _, _, h⟩ := h
    unfold completeResearchJob at h
    split at h
    · cases h
      exact ⟨rfl, rfl⟩
    · simp only [bind_eq_ok] at h
      obtain ⟨_, _, _, _, _, _, h⟩ := h
      cases h
      exact ⟨rfl, rfl⟩

end Rows

section Lease

variable {enc : Encoding} {db db' : Database} {now : Nat} {q : LeaseRequest}
  {workerId : String} {expiry : Nat} {ids : List String} {claims : List PayoutClaim}

theorem takeLease_takeLease (r : PayoutClaim) :
    takeLease workerId expiry now (takeLease workerId expiry now r) =
      takeLease workerId expiry now r := rfl

theorem leaseEach_get? (h : leaseEach workerId expiry now db ids = .ok (db', claims)) (c : String) :
    db'.payoutClaims.get? c = (db.payoutClaims.get? c).map
      fun r => if c ∈ ids then takeLease workerId expiry now r else r := by
  induction ids generalizing db db' claims with
  | nil =>
    simp only [leaseEach, Except.ok.injEq, Prod.mk.injEq] at h
    simp [← h.1]
  | cons id ids ih =>
    simp only [leaseEach, bind_eq_ok, asI64_eq_ok] at h
    obtain ⟨e, ⟨_, rfl⟩, mid, hmid, _, _, ⟨last, rest⟩, hrest, h⟩ := h
    cases h
    rw [ih hrest, updateClaims_get? hmid]
    cases hr : db.payoutClaims.get? c with
    | none => rfl
    | some r =>
      obtain rfl : r.id = c := Table.get?_key hr
      by_cases hid : r.id = id
      · simp [hid, takeLease_takeLease]
      · simp [hid]

theorem leaseEach_earningEvents (h : leaseEach workerId expiry now db ids = .ok (db', claims)) :
    db'.earningEvents = db.earningEvents := by
  induction ids generalizing db db' claims with
  | nil =>
    simp only [leaseEach, Except.ok.injEq, Prod.mk.injEq] at h
    rw [← h.1]
  | cons id ids ih =>
    simp only [leaseEach, bind_eq_ok, asI64_eq_ok] at h
    obtain ⟨e, ⟨_, rfl⟩, mid, hmid, _, _, ⟨last, rest⟩, hrest, h⟩ := h
    cases h
    rw [ih hrest, (updateClaims_ok hmid).2.1]

theorem leasable_of_mem {escrowWallet network c : String} {limit : Nat} {r : PayoutClaim}
    (hr : db.payoutClaims.get? c = some r)
    (h : c ∈ leasableIds db now escrowWallet network limit) :
    leasable now escrowWallet network r = true := by
  simp only [leasableIds, List.mem_map] at h
  obtain ⟨r', hr', hid⟩ := h
  have hmem := List.mem_mergeSort.mp (List.mem_of_mem_take hr')
  rw [List.mem_filter] at hmem
  have heq : db.payoutClaims.get? c = some r' := Table.get?_eq_some.mpr ⟨hmem.1, hid⟩
  rw [hr, Option.some.injEq] at heq
  exact heq ▸ hmem.2

theorem lease_changed (h : leasePayoutClaims enc db now q = .ok (db', claims)) :
    Changed now (.lease q) db db' := by
  simp only [leasePayoutClaims, bind_eq_ok, reject_eq_ok, exists_const, asI64_eq_ok] at h
  obtain ⟨-, -, -, t, ⟨_, rfl⟩, mid, hmid, h⟩ := h
  have hget (c : String) := leaseEach_get? h c
  refine ⟨by simp [Request.target], ?_, ?_, .inr ⟨?_, fun _ _ hq => by cases hq⟩⟩
  · intro c r hr
    have hmidr : mid.payoutClaims.get? c = some (lapse t r) := by
      rw [updateClaims_get? hmid, hr]
      rfl
    refine ⟨_, by rw [hget c, hmidr]; rfl, ?_⟩
    split
    · next hmem => exact .leased (leasable_of_mem hmidr hmem)
    · exact .lapsed
  · intro c hc
    rw [hget c, updateClaims_get? hmid, hc]
    rfl
  · rw [leaseEach_earningEvents h, (updateClaims_ok hmid).2.1]

end Lease

section Target

variable {db db' : Database} {now : Nat} {req : Request} {c : String} {r target : PayoutClaim}

theorem effect_of_target {f : PayoutClaim → PayoutClaim} (hc : req.target = some c)
    (ht : db.payoutClaims.get? c = some target) (heffect : Effect now req target (f target))
    (d : String) (r : PayoutClaim) (hr : db.payoutClaims.get? d = some r) :
    Effect now req r (if decide (r.id = c) then f r else r) := by
  by_cases hid : r.id = c
  · have hr' : db.payoutClaims.get? c = some r := by
      rw [← hid, Table.get?_key hr]
      exact hr
    rw [ht, Option.some.injEq] at hr'
    subst hr'
    simpa [hid] using heffect
  · simpa [hid] using Effect.elsewhere hc hid

theorem found_of_target (hc : req.target = some c) (ht : db.payoutClaims.get? c = some target)
    (d : String) (hd : req.target = some d) : db.payoutClaims.get? d ≠ none := by
  rw [hc, Option.some.injEq] at hd
  simp [← hd, ht]

theorem changed_of_update {f : PayoutClaim → PayoutClaim} {hid : ∀ r, (f r).id = r.id}
    {hevent : ∀ r, (f r).earningEventId = r.earningEventId} (hc : req.target = some c)
    (ht : db.payoutClaims.get? c = some target)
    (h : updateClaims db (fun r => r.id = c) f hid hevent = .ok db')
    (heffect : Effect now req target (f target)) (hreq : ∀ q, req ≠ .complete q) :
    Changed now req db db' := by
  refine ⟨found_of_target hc ht, ?_, ?_, .inr ⟨(updateClaims_ok h).2.1, fun q _ hq => absurd hq (hreq q)⟩⟩
  · intro d r hr
    refine ⟨_, ?_, effect_of_target hc ht heffect d r hr⟩
    rw [updateClaims_get? h, hr]
    rfl
  · intro d hd
    rw [updateClaims_get? h, hd]
    rfl

theorem changed_of_kept (hc : req.target = some c) (ht : db.payoutClaims.get? c = some target)
    (heffect : Effect now req target target) (hreq : ∀ q, req ≠ .complete q) :
    Changed now req db db := by
  refine ⟨found_of_target hc ht, ?_, fun _ h => h, .inr ⟨rfl, fun q _ hq => absurd hq (hreq q)⟩⟩
  intro d r hr
  refine ⟨r, hr, ?_⟩
  simpa using effect_of_target (f := id) hc ht heffect d r hr

end Target

section Requests

variable {enc : Encoding} {db db' : Database} {now : Nat} {claim : PayoutClaim}

theorem prepare_changed {q : PrepareRequest}
    (h : preparePayoutClaim enc db now q = .ok (db', claim)) : Changed now (.prepare q) db db' := by
  simp only [preparePayoutClaim, bind_eq_ok, orReject_eq_ok] at h
  obtain ⟨_, -, row, hrow, _, hlease, h⟩ := h
  rw [requireActivePayoutLease_ok] at hlease
  have hid : trim q.claimId = row.id := (Table.get?_key hrow).symm
  split at h
  · next hstatus =>
    simp only [resendPrepared, bind_eq_ok, reject_eq_ok, exists_const, not_not] at h
    obtain ⟨⟨hsig, hraw⟩, _, _, h⟩ := h
    cases h
    exact changed_of_kept rfl hrow (.resent hid hlease hstatus hsig hraw) (by simp)
  · simp only [bind_eq_ok, reject_eq_ok, exists_const, not_not, prepareLeased, asI64_eq_ok] at h
    obtain ⟨hstatus, _, _, _, ⟨_, rfl⟩, _, ⟨_, rfl⟩, _, hupdate, _, _, h⟩ := h
    cases h
    exact changed_of_update rfl hrow hupdate (.prepared hid hlease hstatus) (by simp)

theorem fail_changed {q : FailRequest} (h : failPayoutClaim db now q = .ok (db', claim)) :
    Changed now (.fail q) db db' := by
  simp only [failPayoutClaim, bind_eq_ok, reject_eq_ok, exists_const, loadPayoutClaim_ok,
    trim_trim] at h
  obtain ⟨-, row, hrow, _, hlease, h⟩ := h
  rw [requireActivePayoutLease_ok] at hlease
  have hid : trim q.claimId = row.id := (Table.get?_key hrow).symm
  split at h
  · next hstatus =>
    cases h
    exact changed_of_kept rfl hrow (.ignored hid hlease hstatus) (by simp)
  · next hstatus =>
    simp only [failUnconfirmed, bind_eq_ok] at h
    obtain ⟨mid, hmid, _, _, h⟩ := h
    cases h
    unfold recordFail at hmid
    split at hmid
    · next hflag =>
      simp only [abandonPrepared, bind_eq_ok, reject_eq_ok, exists_const, not_or, not_not,
        asI64_eq_ok] at hmid
      obtain ⟨⟨hprepared, hsig, hraw⟩, hobserved, _, ⟨hnow, rfl⟩, hupdate⟩ := hmid
      refine changed_of_update rfl hrow hupdate (.abandoned hid hlease hflag ?_ hnow) (by simp)
      refine ⟨hprepared, hsig, hraw, ?_⟩
      intro t ht
      simp only [ht, Option.any_some, decide_eq_true_eq, not_or, Nat.not_lt] at hobserved
      exact hobserved
    · next hflag =>
      simp only [retainPrepared, bind_eq_ok, asI64_eq_ok] at hmid
      obtain ⟨_, ⟨_, rfl⟩, hupdate⟩ := hmid
      exact changed_of_update rfl hrow hupdate
        (.retained hid hlease (by simpa using hflag) hstatus) (by simp)

theorem complete_changed {q : CompleteRequest}
    (h : completePayoutClaim db now q = .ok (db', claim)) : Changed now (.complete q) db db' := by
  simp only [completePayoutClaim, bind_eq_ok, loadPayoutClaim_ok, trim_trim] at h
  obtain ⟨row, hrow, h⟩ := h
  have hid : trim q.claimId = row.id := (Table.get?_key hrow).symm
  split at h
  · next hstatus =>
    simp only [recompleteConfirmed, bind_eq_ok, reject_eq_ok, exists_const, not_not] at h
    obtain ⟨hsig, last, hlast, _, _, h⟩ := h
    cases h
    obtain ⟨hclaims, hearnings⟩ := finalizeResearchRefundJob_frame hlast
    refine ⟨found_of_target rfl hrow, ?_, ?_, .inr ⟨hearnings, ?_⟩⟩
    · intro d r hr
      refine ⟨r, by rw [hclaims]; exact hr, ?_⟩
      simpa using effect_of_target (f := id) rfl hrow (.recompleted hid hstatus hsig) d r hr
    · intro d hd
      rw [hclaims]
      exact hd
    · intro q' r hq hr
      cases hq
      rw [hrow, Option.some.injEq] at hr
      exact hr ▸ hstatus
  · simp only [completePrepared, bind_eq_ok, reject_eq_ok, exists_const, not_or, not_not,
      asI64_eq_ok] at h
    obtain ⟨_, hlease, ⟨hstatus, hsig⟩, _, ⟨_, rfl⟩, mid, hmid, last, hlast, _, _, h⟩ := h
    cases h
    rw [requireActivePayoutLease_ok] at hlease
    obtain ⟨hclaims, hearnings⟩ := finalizeResearchRefundJob_frame hlast
    have hmark : (markEarningPaid mid row.earningEventId).payoutClaims = mid.payoutClaims := by
      unfold markEarningPaid
      split <;> rfl
    refine ⟨found_of_target rfl hrow, ?_, ?_, .inl ⟨q, row, rfl, hrow, hstatus, ?_⟩⟩
    · intro d r hr
      refine ⟨_, ?_, effect_of_target rfl hrow (.completed hid hlease hstatus hsig) d r hr⟩
      rw [hclaims, hmark, updateClaims_get? hmid, hr]
      rfl
    · intro d hd
      rw [hclaims, hmark, updateClaims_get? hmid, hd]
      rfl
    · rw [hearnings]
      unfold markEarningPaid
      split
      · exact (updateClaims_ok hmid).2.1
      · simp only [(updateClaims_ok hmid).2.1]

theorem execute_changed {req : Request} {response : Response}
    (h : execute enc db now req = .ok (db', response)) : Changed now req db db' := by
  cases req with
  | lease q =>
    obtain ⟨⟨_, _⟩, hr, heq⟩ := map_eq_ok.mp h
    cases heq
    exact lease_changed hr
  | prepare q =>
    obtain ⟨⟨_, _⟩, hr, heq⟩ := map_eq_ok.mp h
    cases heq
    exact prepare_changed hr
  | complete q =>
    obtain ⟨⟨_, _⟩, hr, heq⟩ := map_eq_ok.mp h
    cases heq
    exact complete_changed hr
  | fail q =>
    obtain ⟨⟨_, _⟩, hr, heq⟩ := map_eq_ok.mp h
    cases heq
    exact fail_changed hr

theorem prepare_returns {q : PrepareRequest}
    (h : preparePayoutClaim enc db now q = .ok (db', claim)) :
    db'.payoutClaims.get? (trim q.claimId) = some claim := by
  simp only [preparePayoutClaim, bind_eq_ok, orReject_eq_ok] at h
  obtain ⟨_, -, row, hrow, _, -, h⟩ := h
  split at h
  · simp only [resendPrepared, bind_eq_ok, loadPayoutClaim_ok, trim_trim] at h
    obtain ⟨_, -, _, hload, h⟩ := h
    cases h
    exact hload
  · simp only [bind_eq_ok, prepareLeased, loadPayoutClaim_ok, trim_trim] at h
    obtain ⟨_, -, _, -, _, -, _, -, _, -, _, hload, h⟩ := h
    cases h
    exact hload

theorem lease_returns {q : LeaseRequest} {claims : List PayoutClaim}
    (h : leasePayoutClaims enc db now q = .ok (db', claims)) (hlimit : q.limit = 1) :
    claims = [] ∨ ∃ claim, claims = [claim] ∧ db'.payoutClaims.get? claim.id = some claim := by
  simp only [leasePayoutClaims, bind_eq_ok, reject_eq_ok, exists_const] at h
  obtain ⟨-, -, -, t, -, mid, -, h⟩ := h
  have hlen : (leasableIds mid t (trim q.escrowWallet) (trim q.network) q.limit).length ≤ 1 := by
    simp only [leasableIds, hlimit, List.length_map]
    exact List.length_take_le 1 _
  cases hids : leasableIds mid t (trim q.escrowWallet) (trim q.network) q.limit with
  | nil =>
    rw [hids] at h
    simp only [leaseEach, Except.ok.injEq, Prod.mk.injEq] at h
    exact .inl h.2.symm
  | cons id ids =>
    rw [hids] at h hlen
    obtain rfl : ids = [] := by simpa using hlen
    simp only [leaseEach, bind_eq_ok, loadPayoutClaim_ok] at h
    obtain ⟨_, -, last, -, claim, hload, _, hnil, h⟩ := h
    cases hnil
    cases h
    exact .inr ⟨claim, rfl, by rw [Table.get?_key hload]; exact hload⟩

end Requests

end Obulus.Payout
