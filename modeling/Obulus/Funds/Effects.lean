import Obulus.Funds.Custody

namespace Obulus.Funds

open Foundation Store

variable {ext : Externals} {db db' : Database} {ids : NewIds} {now : Nat}

def Database.custody (db : Database) : Custody where
  settled k := (db.ledger k.1).get? k.2
  registry S := (db.transactionRegistry.get? S).map RegistryEntry.funds
  fence k := db.paymentAttempts.get? k
  deposit S := db.prepaidLedger.get? (.deposit, S)

section Fences

variable {kind : SettlementKind} {request : ClaimPaymentAttemptRequest} {p : PaymentAttempt → Bool}
  {k : SettlementKind × String}

theorem update_of_others {κ α : Type} [DecidableEq κ] {f g : κ → α} {k : κ}
    (h : ∀ k', k' ≠ k → g k' = f k') : g = Function.update f k (g k) :=
  Function.eq_update_iff.mpr ⟨rfl, h⟩

theorem attempts_move {t : Table PaymentAttempt.key}
    (hother : ∀ k', k' ≠ k → t.get? k' = db.paymentAttempts.get? k')
    (hk : ∀ a', t.get? k = some a' →
      ∃ a, db.paymentAttempts.get? k = some a ∧ a'.legacyEvidence = a.legacyEvidence) :
    db.custody.Move ({ db with paymentAttempts := t } : Database).custody := by
  have hfence : ({ db with paymentAttempts := t } : Database).custody =
      { db.custody with fence := Function.update db.custody.fence k (t.get? k) } := by
    rw [show Function.update db.custody.fence k (t.get? k) = t.get? from
      (update_of_others hother).symm]
    rfl
  rw [hfence]
  cases ht : t.get? k with
  | none => exact .unfenced
  | some a' =>
    obtain ⟨a, ha, heq⟩ := hk a' ht
    exact .rescheduled ha heq

theorem custody_clear (db : Database) (kind : SettlementKind) (quoteId : String) :
    (clearPaymentAttempt db kind quoteId).custody = db.custody.unfence (kind, quoteId) := by
  have hfence : (clearPaymentAttempt db kind quoteId).custody.fence =
      Function.update db.custody.fence (kind, quoteId) none := by
    funext k'
    have hget : (clearPaymentAttempt db kind quoteId).custody.fence k' =
        (db.custody.fence k').filter fun a => !decide (a.key = (kind, quoteId)) := Table.get?_delete
    rw [hget]
    by_cases hk : k' = (kind, quoteId)
    · subst hk
      cases ha : db.custody.fence (kind, quoteId) with
      | none => simp
      | some a => simp [Table.get?_key ha]
    · cases ha : db.custody.fence k' with
      | none => simp [hk, ha]
      | some a =>
        have hkey : a.key = k' := Table.get?_key ha
        simp [hk, ha, hkey]
  simp only [Custody.unfence, ← hfence]
  rfl

theorem isAttempt_key {a : PaymentAttempt} (h : isAttempt kind request a = true) :
    a.key = (kind, trim request.quoteId) := by
  simp only [isAttempt, decide_eq_true_eq] at h
  exact Prod.ext h.1 h.2.1

theorem dropped_moves (hp : ∀ a, p a = true → a.key = k) :
    db.custody.Move (dropAttempts db p).custody := by
  refine attempts_move (k := k) ?_ ?_
  · intro k' hk'
    rw [Table.get?_delete]
    cases ha : db.paymentAttempts.get? k' with
    | none => rfl
    | some a =>
      have hpa : p a = false := by
        by_contra hpa
        exact hk' ((Table.get?_key ha).symm.trans (hp a (by simpa using hpa)))
      simp [hpa]
  · intro a' ha'
    rw [Table.get?_delete, Option.filter_eq_some_iff] at ha'
    exact ⟨a', ha'.1, rfl⟩

theorem release_cases {b : Bool} (h : releasePaymentAttempt db request = .ok (db', b)) :
    ∃ k p, (∀ a, p a = true → a.key = k) ∧ db' = dropAttempts db p := by
  simp only [releasePaymentAttempt, bind_eq_ok, pure_eq_ok, Prod.mk.injEq] at h
  obtain ⟨kind, _, rfl, _⟩ := h
  exact ⟨_, _, fun _ => isAttempt_key, rfl⟩

theorem releaseReconciled_cases {b : Bool}
    (h : releaseReconciledPaymentAttempt db now request = .ok (db', b)) :
    ∃ k p, (∀ a, p a = true → a.key = k) ∧ db' = dropAttempts db p := by
  simp only [releaseReconciledPaymentAttempt, bind_eq_ok, pure_eq_ok, Prod.mk.injEq] at h
  obtain ⟨kind, _, now, _, _, _, rfl, _⟩ := h
  refine ⟨(kind, trim request.quoteId), _, fun a ha => ?_, rfl⟩
  rw [Bool.and_eq_true] at ha
  exact isAttempt_key ha.1

def rescheduled (db : Database) (p : PaymentAttempt → Bool) (reconcileAfter : Nat) (observed : Bool)
    (now : Nat) : Database :=
  { db with
    paymentAttempts := db.paymentAttempts.update p (reschedule reconcileAfter observed now)
      (reschedule_key reconcileAfter observed now) }

theorem defer_cases {fence : PaymentAttemptFence}
    (h : deferPaymentAttemptReconciliation db now request = .ok (db', fence)) :
    ∃ k p reconcileAfter now', (∀ a, p a = true → a.key = k) ∧
      db' = rescheduled db p reconcileAfter request.absenceObserved now' := by
  simp only [deferPaymentAttemptReconciliation, bind_eq_ok, pure_eq_ok, Prod.mk.injEq] at h
  obtain ⟨kind, _, reconcileAfter, _, now', _, _, _, rfl, _⟩ := h
  exact ⟨_, _, _, _, fun _ => isAttempt_key, rfl⟩

theorem rescheduled_moves {reconcileAfter : Nat} {observed : Bool}
    (hp : ∀ a, p a = true → a.key = k) :
    db.custody.Move (rescheduled db p reconcileAfter observed now).custody := by
  refine attempts_move (k := k) ?_ ?_
  · intro k' hk'
    rw [Table.get?_update]
    cases ha : db.paymentAttempts.get? k' with
    | none => rfl
    | some a =>
      have hpa : p a = false := by
        by_contra hpa
        exact hk' ((Table.get?_key ha).symm.trans (hp a (by simpa using hpa)))
      simp [hpa]
  · intro a' ha'
    rw [Table.get?_update, Option.map_eq_some_iff] at ha'
    obtain ⟨a, ha, rfl⟩ := ha'
    refine ⟨a, ha, ?_⟩
    split <;> rfl

theorem insertAttempt_ok {a : PaymentAttempt} {attempts : Table PaymentAttempt.key}
    (h : insertAttempt db a = .ok (some attempts)) :
    a.legacyEvidence = false ∧ db.paymentAttempts.insert? a = some attempts := by
  simp only [insertAttempt, bind_eq_ok, reject_eq_ok, exists_const, not_or, pure_eq_ok] at h
  obtain ⟨⟨hlegacy, -⟩, h⟩ := h
  split at h
  · cases h
  · exact ⟨by simpa using hlegacy, h⟩

theorem claim_cases {fence : PaymentAttemptFence}
    (h : claimPaymentAttempt db ext now request = .ok (db', fence)) :
    db' = db ∨ ∃ a quote, payableQuote db a.settlementKind a.quoteId = .ok quote ∧
      quote.quoted = true ∧ a.legacyEvidence = false ∧ db.paymentAttempts.get? a.key = none ∧
      ∃ attempts, db.paymentAttempts.insert? a = some attempts ∧
        db' = { db with paymentAttempts := attempts } := by
  simp only [claimPaymentAttempt, bind_eq_ok] at h
  obtain ⟨kind, _, quote, hquote, existing, _, h⟩ := h
  cases existing with
  | some fence' =>
    cases h
    exact .inl rfl
  | none =>
    right
    simp only [claimOrMatch, openAttempt, bind_eq_ok, reject_eq_ok, orReject_eq_ok, exists_const,
      asI64_eq_ok, pure_eq_ok, Prod.mk.injEq] at h
    obtain ⟨_, _, hquoted, _, _, _, _, _, _, _, inserted, hinsert, attempts, rfl, rfl, _⟩ := h
    obtain ⟨hlegacy, hrow⟩ := insertAttempt_ok hinsert
    exact ⟨_, quote, hquote, by simpa using hquoted, hlegacy,
      (Table.insert?_eq_some.mp hrow).1, attempts, hrow, rfl⟩

theorem claim_moves {fence : PaymentAttemptFence}
    (h : claimPaymentAttempt db ext now request = .ok (db', fence)) :
    db.custody.Move db'.custody := by
  rcases claim_cases h with rfl | ⟨a, quote, _, _, hlegacy, hnone, attempts, hinsert, rfl⟩
  · exact .idle
  · have hfence : ({ db with paymentAttempts := attempts } : Database).custody =
        db.custody.refence a.key a := by
      have hget : attempts.get? = Function.update db.custody.fence a.key (some a) := by
        funext k
        rw [Table.get?_insert? hinsert, Function.update_apply]
        exact if_congr eq_comm rfl rfl
      simp only [Custody.refence, ← hget]
      rfl
    rw [hfence]
    exact .fenced hnone hlegacy

end Fences

end Obulus.Funds
