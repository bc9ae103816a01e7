import Obulus.Funds.Prepaid

namespace Obulus.Funds

open Foundation Store

variable {db db' mid : Database} {key : AccountKey} {id referenceId : String} {amount now : Nat}
  {kind : LedgerKind} {delta : Int} {e : LedgerEntry}

-- `db'` differs from `db` in the prepaid accounts and their ledger only
def PrepaidOnly (db db' : Database) : Prop :=
  { db with prepaidAccounts := db'.prepaidAccounts, prepaidLedger := db'.prepaidLedger } = db'

theorem PrepaidOnly.trans {db'' : Database} (h : PrepaidOnly db db') (h' : PrepaidOnly db' db'') :
    PrepaidOnly db db'' := by
  unfold PrepaidOnly at h h' ⊢
  rw [← h', ← h]

structure Posting (db db' : Database) (e : LedgerEntry) : Prop where
  only : PrepaidOnly db db'
  ledger : db.prepaidLedger.insert? e = some db'.prepaidLedger
  account : ∀ key, (prepaidAvailable db' key : Int) =
    prepaidAvailable db key + if key = e.account then e.deltaAtomic else 0
  balance : e.balanceAfterAtomic = prepaidAvailable db' e.account

section Accounts

theorem available_setAvailable (db : Database) (key k : AccountKey) (f : Nat → Nat) :
    prepaidAvailable (setAvailable db key f) k =
      if k = key then ((db.prepaidAccounts.get? key).map fun a => f a.availableAtomic).getD 0
      else prepaidAvailable db k := by
  unfold prepaidAvailable setAvailable
  rw [Table.get?_update]
  split
  · next hk =>
    subst hk
    cases ha : db.prepaidAccounts.get? k with
    | none => rfl
    | some a => simp [Table.get?_key ha]
  · next hk =>
    cases ha : db.prepaidAccounts.get? k with
    | none => rfl
    | some a =>
      have hne : a.key ≠ key := Table.get?_key ha ▸ hk
      simp [hne]

theorem ensurePrepaidAccount_cases (db : Database) (key : AccountKey) :
    PrepaidOnly db (ensurePrepaidAccount db key) ∧
      (ensurePrepaidAccount db key).prepaidLedger = db.prepaidLedger ∧
      (∀ k, prepaidAvailable (ensurePrepaidAccount db key) k = prepaidAvailable db k) ∧
      ((ensurePrepaidAccount db key).prepaidAccounts.get? key).isSome = true := by
  unfold ensurePrepaidAccount
  split
  · next accounts hinsert =>
    have hnone := (Table.insert?_eq_some.mp hinsert).1
    refine ⟨rfl, rfl, fun k => ?_, ?_⟩
    · unfold prepaidAvailable
      rw [Table.get?_insert? hinsert]
      split
      · next hk =>
        subst hk
        rw [hnone]
        rfl
      · rfl
    · simp [Table.get?_insert? hinsert]
  · next hinsert =>
    refine ⟨rfl, rfl, fun _ => rfl, ?_⟩
    cases ha : db.prepaidAccounts.get? key with
    | some a => rfl
    | none =>
      have hfresh : key ∉ db.prepaidAccounts.rows.map PrepaidAccount.key := by
        rw [Table.get?_eq_none] at ha
        simpa using ha
      simp [Table.insert?, hfresh] at hinsert

theorem debitAccount_cases {n : Nat} (h : debitAccount db key n = some mid) :
    PrepaidOnly db mid ∧ mid.prepaidLedger = db.prepaidLedger ∧ n ≤ prepaidAvailable db key ∧
      ∀ k, (prepaidAvailable mid k : Int) =
        prepaidAvailable db k + if k = key then -(n : Int) else 0 := by
  unfold debitAccount at h
  split at h
  · next hcovers =>
    cases h
    cases ha : db.prepaidAccounts.get? key with
    | none => simp [ha] at hcovers
    | some a =>
      have hle : n ≤ a.availableAtomic := by simpa [ha] using hcovers
      refine ⟨rfl, rfl, by simpa [prepaidAvailable, ha] using hle, fun k => ?_⟩
      rw [available_setAvailable]
      split
      · next hk =>
        subst hk
        simp only [ha, Option.map_some, Option.getD_some, prepaidAvailable]
        omega
      · simp
  · cases h

theorem creditAccount_cases {n : Nat} (h : creditAccount db key n = .ok mid)
    (hsome : (db.prepaidAccounts.get? key).isSome = true) :
    PrepaidOnly db mid ∧ mid.prepaidLedger = db.prepaidLedger ∧
      ∀ k, (prepaidAvailable mid k : Int) = prepaidAvailable db k + if k = key then (n : Int) else 0 := by
  simp only [creditAccount, bind_eq_ok, pure_eq_ok] at h
  obtain ⟨_, _, rfl⟩ := h
  refine ⟨rfl, rfl, fun k => ?_⟩
  rw [available_setAvailable]
  split
  · next hk =>
    subst hk
    obtain ⟨a, ha⟩ := Option.isSome_iff_exists.mp hsome
    simp [ha, prepaidAvailable]
  · simp

end Accounts

theorem recordLedger_posts (h : recordLedger mid key id kind referenceId delta now = .ok db')
    (honly : PrepaidOnly db mid) (hledger : mid.prepaidLedger = db.prepaidLedger)
    (haccount : ∀ k, (prepaidAvailable mid k : Int) =
      prepaidAvailable db k + if k = key then delta else 0) :
    Posting db db' ⟨id, key, kind, referenceId, delta, prepaidAvailable mid key, now⟩ := by
  simp only [recordLedger, insertLedger, bind_eq_ok, orReject_eq_ok, pure_eq_ok] at h
  obtain ⟨_, _, ledger, hinsert, rfl⟩ := h
  refine ⟨honly.trans rfl, ?_, haccount, rfl⟩
  rw [← hledger]
  exact hinsert

theorem reserve_posts (h : reservePrepaidBudget db key id referenceId amount now = .ok db') :
    ∃ e, Posting db db' e ∧ e.account = key ∧ e.kind = .researchReservation ∧
      e.referenceId = referenceId ∧ e.deltaAtomic = -amount := by
  simp only [reservePrepaidBudget, bind_eq_ok, asI64_eq_ok, orReject_eq_ok] at h
  obtain ⟨_, ⟨_, rfl⟩, _, ⟨_, rfl⟩, mid, hdebit, h⟩ := h
  obtain ⟨honly, hledger, -, haccount⟩ := debitAccount_cases hdebit
  exact ⟨_, recordLedger_posts h honly hledger haccount, rfl, rfl, rfl, rfl⟩

theorem credit_posts (h : creditPrepaidDeposit db key id referenceId amount now = .ok db') :
    ∃ e, Posting db db' e ∧ e.account = key ∧ e.kind = .deposit ∧ e.referenceId = referenceId ∧
      e.deltaAtomic = amount := by
  simp only [creditPrepaidDeposit, bind_eq_ok, asI64_eq_ok] at h
  obtain ⟨_, ⟨_, rfl⟩, _, ⟨_, rfl⟩, mid, hcredit, h⟩ := h
  obtain ⟨hensure, hledger, havailable, hsome⟩ := ensurePrepaidAccount_cases db key
  obtain ⟨honly, hledger', haccount⟩ := creditAccount_cases hcredit hsome
  refine ⟨_, recordLedger_posts h (hensure.trans honly) (hledger'.trans hledger) ?_, rfl, rfl, rfl, rfl⟩
  intro k
  rw [haccount, havailable]

theorem release_posts (h : releasePrepaidBudget db key id referenceId amount now = .ok db') :
    ∃ e, Posting db db' e ∧ e.account = key ∧ e.kind = .researchRelease ∧
      e.referenceId = referenceId ∧ e.deltaAtomic = amount := by
  simp only [releasePrepaidBudget, bind_eq_ok, asI64_eq_ok, reject_eq_ok, exists_const] at h
  obtain ⟨_, ⟨_, rfl⟩, _, ⟨_, rfl⟩, hsome, mid, hcredit, h⟩ := h
  obtain ⟨honly, hledger, haccount⟩ := creditAccount_cases hcredit
    (by simpa [Option.isSome_iff_ne_none] using hsome)
  exact ⟨_, recordLedger_posts h honly hledger haccount, rfl, rfl, rfl, rfl⟩

end Obulus.Funds
