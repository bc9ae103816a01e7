import Obulus.Funds.History

namespace Obulus.Gateway

open Foundation Store Funds

section Fences

variable {ext : Externals} {db db' : Database} {ids : NewIds} {now : Nat} {e : Funds.Event}

-- a fence as an accepted claim opens it
structure Claimed (ext : Externals) (request : ClaimPaymentAttemptRequest) (a : PaymentAttempt) :
    Prop where
  unobserved : a.absenceObservedAt = none
  signed : a.signedTransactionBase64 = request.signedTransactionBase64
  prepared : ∃ signed bytes, a.signedTransactionBase64 = some signed ∧
    ext.hexDigest signed = a.attemptId ∧ ext.encoding.base64Decode signed = some bytes ∧
    validX402PreparedTransaction bytes = true

theorem validate_prepared {request : ClaimPaymentAttemptRequest} {kind : SettlementKind}
    (h : validatePaymentAttemptRequest ext request = .ok kind) :
    ∃ signed bytes, request.signedTransactionBase64 = some signed ∧
      ext.hexDigest signed = request.attemptId ∧ ext.encoding.base64Decode signed = some bytes ∧
      validX402PreparedTransaction bytes = true := by
  simp only [validatePaymentAttemptRequest, bind_eq_ok, reject_eq_ok, orReject_eq_ok, exists_const,
    not_or, not_not, Bool.not_eq_false] at h
  obtain ⟨_, -, evidence, hevidence, -, bytes, hbytes, ⟨-, -, hdigest, hvalid⟩, -⟩ := h
  refine ⟨evidence.signedTransaction, bytes, ?_, hdigest, hbytes, hvalid⟩
  unfold chainEvidence at hevidence
  split at hevidence
  · cases hevidence
  · next hsigned _ =>
    cases hevidence
    exact hsigned
  · cases hevidence

theorem claim_opens {request : ClaimPaymentAttemptRequest} {fence : PaymentAttemptFence}
    (h : claimPaymentAttempt db ext now request = .ok (db', fence)) :
    db' = db ∨ ∃ a attempts, Claimed ext request a ∧ db.paymentAttempts.insert? a = some attempts ∧
      db' = { db with paymentAttempts := attempts } := by
  simp only [claimPaymentAttempt, bind_eq_ok] at h
  obtain ⟨kind, hvalid, quote, _, existing, _, h⟩ := h
  cases existing with
  | some fence' =>
    cases h
    exact .inl rfl
  | none =>
    right
    simp only [claimOrMatch, openAttempt, bind_eq_ok, reject_eq_ok, orReject_eq_ok, exists_const,
      asI64_eq_ok, pure_eq_ok, Prod.mk.injEq] at h
    obtain ⟨_, _, _, _, _, _, _, _, _, _, inserted, hinsert, attempts, rfl, rfl, _⟩ := h
    exact ⟨_, attempts, ⟨rfl, rfl, validate_prepared hvalid⟩, (insertAttempt_ok hinsert).2, rfl⟩

theorem cleared_fences {mid : Database} {kind : SettlementKind} {quoteId : String}
    (hmid : mid.custody = db.custody) {k : SettlementKind × String} {a : PaymentAttempt}
    (h : (clearPaymentAttempt mid kind quoteId).custody.fence k = some a) :
    db.custody.fence k = some a := by
  rw [custody_clear, hmid] at h
  simp only [Custody.unfence, Function.update_apply] at h
  split at h
  · cases h
  · exact h

theorem receives_fences {request : RecordChainSettlementRequest} {amount : Nat} {kind : SettlementKind}
    {row : ChainSettlement} (h : Receives ext request amount kind db db' row)
    {k : SettlementKind × String} {a : PaymentAttempt} (ha : db'.custody.fence k = some a) :
    db.custody.fence k = some a := by
  have hfence : db'.custody.fence =
      Function.update db.custody.fence (kind, trim request.quoteId) none := by
    rcases h.custody with hcustody | ⟨-, _, -, hcustody⟩
    · rw [hcustody]
      rfl
    · rw [hcustody]
      rfl
  rw [hfence, Function.update_apply] at ha
  split at ha
  · cases ha
  · exact ha

theorem record_fences {request : RecordChainSettlementRequest} {kind : SettlementKind}
    {receipt : ChainSettlementReceipt}
    (h : recordSettlement ext db ids now request kind = .ok (db', receipt))
    {k : SettlementKind × String} {a : PaymentAttempt} (ha : db'.custody.fence k = some a) :
    db.custody.fence k = some a := by
  cases kind with
  | document =>
    simp only [recordSettlement, recordChainSettlement, bind_eq_ok] at h
    obtain ⟨amount, -, h⟩ := h
    split at h
    · split at h
      · simp only [replayDocument, bind_eq_ok, pure_eq_ok, Prod.mk.injEq] at h
        obtain ⟨bound, hbind, _, -, rfl, -⟩ := h
        exact cleared_fences (bindRail_custody hbind) ha
      · cases h
    · obtain ⟨row, -, hrow⟩ := settleDocument_cases h
      exact receives_fences hrow ha
  | bundle =>
    simp only [recordSettlement, recordBundleChainSettlement, bind_eq_ok] at h
    obtain ⟨amount, -, h⟩ := h
    split at h
    · split at h
      · simp only [replayLocked, bind_eq_ok, pure_eq_ok, Prod.mk.injEq] at h
        obtain ⟨_, _, _, -, rfl, -⟩ := h
        exact cleared_fences rfl ha
      · cases h
    · obtain ⟨row, -, hrow⟩ := settleBundle_cases h
      exact receives_fences hrow ha
  | openCall =>
    simp only [recordSettlement, recordOpenCallChainSettlement, bind_eq_ok] at h
    obtain ⟨amount, -, h⟩ := h
    split at h
    · split at h
      · simp only [replayLocked, bind_eq_ok, pure_eq_ok, Prod.mk.injEq] at h
        obtain ⟨_, _, _, -, rfl, -⟩ := h
        exact cleared_fences rfl ha
      · cases h
    · obtain ⟨row, -, hrow⟩ := settleOpenCall_cases h
      exact receives_fences hrow ha

-- the two operations that only a reconciliation pass calls
def Reconciles : Funds.Event → Prop
  | .accepted _ _ (.defer _) => True
  | .accepted _ _ (.releaseReconciled _) => True
  | _ => False

def submitted : Funds.Event → Option String
  | .accepted _ _ (.claim request) => request.signedTransactionBase64
  | _ => none

theorem step_fences (h : Funds.Step ext db e db') (hout : ¬Reconciles e)
    {k : SettlementKind × String} {a : PaymentAttempt} (ha : db'.custody.fence k = some a) :
    db.custody.fence k = some a ∨
      ∃ request, submitted e = request.signedTransactionBase64 ∧ Claimed ext request a := by
  cases h with
  | @accepted _ now ids operation hexec =>
    cases operation with
    | claim r =>
      obtain ⟨⟨_, _⟩, hclaim, rfl⟩ := map_eq_ok.mp hexec
      rcases claim_opens hclaim with rfl | ⟨a', attempts, hclaimed, hinsert, rfl⟩
      · exact .inl ha
      · have hget : attempts.get? k = some a := ha
        rw [Table.get?_insert? hinsert] at hget
        split at hget
        · cases hget
          exact .inr ⟨r, rfl, hclaimed⟩
        · exact .inl hget
    | release r =>
      obtain ⟨⟨_, _⟩, hrelease, rfl⟩ := map_eq_ok.mp hexec
      obtain ⟨_, p, -, rfl⟩ := release_cases hrelease
      have hget : (db.paymentAttempts.delete p).get? k = some a := ha
      rw [Table.get?_delete, Option.filter_eq_some_iff] at hget
      exact .inl hget.1
    | defer r => exact absurd trivial hout
    | releaseReconciled r => exact absurd trivial hout
    | record kind r =>
      obtain ⟨⟨_, _⟩, hrecord, rfl⟩ := map_eq_ok.mp hexec
      exact .inl (record_fences hrecord ha)
    | deposit policy r =>
      obtain ⟨⟨_, _⟩, hdeposit, rfl⟩ := map_eq_ok.mp hexec
      rcases deposit_cases hdeposit with ⟨-, rfl⟩ | ⟨mid, entry, -, -, hmid, -, -, hcustody⟩
      · exact .inl ha
      · rw [hcustody, hmid] at ha
        exact .inl ha
  | rejected => exact .inl ha
  | paidOverPaySh hkind hclaim =>
    simp only [claimChainTransaction, bind_eq_ok, asI64_eq_ok] at hclaim
    obtain ⟨_, -, hclaim⟩ := hclaim
    obtain ⟨-, hcustody, -⟩ := claimTransaction_cases hclaim
    rw [hcustody] at ha
    exact .inl ha
  | elsewhere hcustody _ =>
    rw [hcustody] at ha
    exact .inl ha

end Fences

end Obulus.Gateway
