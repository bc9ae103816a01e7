import Obulus.Calls.Effects
import Obulus.Calls.Owner
import Obulus.Foundation.Journal
import Obulus.Funds.Received
import Obulus.Wallets.Ownership

namespace Obulus.Wallets

open Foundation Store Funds

def columns : Journal.Columns LedgerEntry AccountKey where
  account := LedgerEntry.account
  delta := LedgerEntry.deltaAtomic
  left e := e.balanceAfterAtomic

structure Balanced (db : Funds.Database) : Prop where
  available : ∀ key, (prepaidAvailable db key : Int) = Journal.balance columns key db.prepaidLedger.rows
  running : Journal.Running columns db.prepaidLedger.rows

def Keeps (db db' : Funds.Database) : Prop := Balanced db → Balanced db'

namespace Keeps

variable {db mid db' : Funds.Database} {key : AccountKey} {id referenceId : String} {amount now : Nat}
  {kind : LedgerKind} {delta : Int}

theorem refl (db : Funds.Database) : Keeps db db := id

theorem trans (h : Keeps db mid) (h' : Keeps mid db') : Keeps db db' := h' ∘ h

theorem of_same (hledger : db'.prepaidLedger = db.prepaidLedger)
    (havailable : ∀ key, prepaidAvailable db' key = prepaidAvailable db key) : Keeps db db' := by
  intro h
  refine ⟨fun key => ?_, ?_⟩
  · rw [havailable, hledger]
    exact h.available key
  · rw [hledger]
    exact h.running

theorem of_tables (hledger : db'.prepaidLedger = db.prepaidLedger)
    (haccounts : db'.prepaidAccounts = db.prepaidAccounts) : Keeps db db' :=
  of_same hledger fun key => by rw [prepaidAvailable, prepaidAvailable, haccounts]

theorem of_posting {e : LedgerEntry} (hposting : Posting db db' e) : Keeps db db' := by
  intro h
  obtain ⟨-, hrows⟩ := Table.insert?_eq_some.mp hposting.ledger
  have havailable : ∀ key, (prepaidAvailable db' key : Int) =
      Journal.balance columns key db'.prepaidLedger.rows := by
    intro key
    rw [hposting.account, h.available, hrows, Journal.balance_append, Journal.balance_single]
    simp only [columns, eq_comm]
  refine ⟨havailable, ?_⟩
  rw [hrows]
  refine h.running.snoc ?_
  change (e.balanceAfterAtomic : Int) =
    Journal.balance columns e.account db.prepaidLedger.rows + e.deltaAtomic
  rw [hposting.balance, hposting.account, if_pos rfl, h.available]

theorem reserve (h : reservePrepaidBudget db key id referenceId amount now = .ok db') : Keeps db db' := by
  obtain ⟨e, hposting, -⟩ := reserve_posts h
  exact of_posting hposting

theorem credit (h : creditPrepaidDeposit db key id referenceId amount now = .ok db') :
    Keeps db db' := by
  obtain ⟨e, hposting, -⟩ := credit_posts h
  exact of_posting hposting

theorem release (h : releasePrepaidBudget db key id referenceId amount now = .ok db') :
    Keeps db db' := by
  obtain ⟨e, hposting, -⟩ := release_posts h
  exact of_posting hposting

theorem ensure (db : Funds.Database) (key : AccountKey) : Keeps db (ensurePrepaidAccount db key) := by
  obtain ⟨-, hledger, havailable, -⟩ := ensurePrepaidAccount_cases db key
  exact of_same hledger havailable

theorem debit (hdebit : debitAccount db key amount = some mid)
    (hrecord : recordLedger mid key id kind referenceId (-amount) now = .ok db') : Keeps db db' := by
  obtain ⟨honly, hledger, -, haccount⟩ := debitAccount_cases hdebit
  exact of_posting (recordLedger_posts hrecord honly hledger haccount)

theorem refund (hcredit : creditAccount (ensurePrepaidAccount db key) key amount = .ok mid)
    (hrecord : recordLedger mid key id kind referenceId amount now = .ok db') : Keeps db db' := by
  obtain ⟨hensure, hledger, havailable, hsome⟩ := ensurePrepaidAccount_cases db key
  obtain ⟨honly, hledger', haccount⟩ := creditAccount_cases hcredit hsome
  refine of_posting (recordLedger_posts hrecord (hensure.trans honly) (hledger'.trans hledger) ?_)
  intro k
  rw [haccount, havailable]

end Keeps

section Operations

variable {ext : Externals} {db db' mid : Database} {now : Nat} {userId wallet payTo : String}
  {policy : PaymentQuotePolicy}

theorem switch_keeps (h : preparePrepaidWalletSwitch db userId wallet = .ok db') :
    Keeps db.funds db'.funds := by
  unfold preparePrepaidWalletSwitch at h
  split at h
  · cases h
  · split at h
    · cases h
    · cases h
      exact .of_tables rfl rfl

theorem rotation_keeps (h : prepareVerifiedWalletRotation db userId wallet = .ok db') :
    Keeps db.funds db'.funds := by
  unfold prepareVerifiedWalletRotation at h
  split at h
  · cases h
    exact .refl _
  · simp only [bind_eq_ok, reject_eq_ok, exists_const, pure_eq_ok] at h
    obtain ⟨mid, hswitch, -, rfl⟩ := h
    exact switch_keeps hswitch

theorem verifyProfile_keeps (h : verifyProfileWallet db now userId wallet = .ok db') :
    Keeps db.funds db'.funds := by
  simp only [verifyProfileWallet, lockUser, bind_eq_ok, reject_eq_ok, exists_const, asI64_eq_ok,
    pure_eq_ok] at h
  obtain ⟨-, mid, hrotation, -, _, -, -, rfl⟩ := h
  have hkeeps := rotation_keeps hrotation
  exact hkeeps

theorem bind_keeps (h : bindWalletIdentity db now ext userId wallet = .ok db') :
    Keeps db.funds db'.funds := by
  obtain ⟨-, -, t, rfl, -⟩ := @bind_effect _ _ _ _ _ _ (fun _ => True) h
  exact .refl _

theorem upsert_keeps {request : UpsertProfileRequest}
    (h : upsertProfile db now userId ext request = .ok db') : Keeps db.funds db'.funds := by
  obtain ⟨-, _, _, _, -, rfl⟩ := @upsert_effect _ _ _ _ _ (fun _ => True) _ h
  exact .refl _

theorem issue_keeps {sessionId : String} {request : IssueRequest}
    (h : issuePrepaidWalletSession ext db now sessionId request policy = .ok db') :
    Keeps db.funds db'.funds := by
  simp only [issuePrepaidWalletSession, bind_eq_ok, reject_eq_ok, exists_const, asI64_eq_ok,
    pure_eq_ok] at h
  obtain ⟨payTo, -, -, -, time, -, homed, hhome, switched, hswitch, expiresAt, -, mid, hinsert, rfl⟩ := h
  have hhomed : homed.funds = db.funds := by
    rw [← (home_effect hhome).frame]
  have hmid : mid.funds = switched.funds := by
    rw [← (insertSession_effect hinsert).2.2]
    rfl
  have hkeeps := switch_keeps hswitch
  rw [hhomed, ← hmid] at hkeeps
  exact hkeeps.trans (.ensure _ _)

theorem reserveBudget_keeps {invoice : InvoicePreview} {ledgerId jobId : String}
    {payer : Option String}
    (h : reserveBudget db now policy payTo invoice ledgerId jobId payer = .ok db') :
    Keeps db.funds db'.funds := by
  simp only [reserveBudget, withFunds, bind_eq_ok, orReject_eq_ok, pure_eq_ok] at h
  obtain ⟨wallet, -, funds, hreserve, rfl⟩ := h
  exact .reserve hreserve

theorem documents_keep {id : String} {documents : List BundleDocument}
    (h : documents.foldlM (insertBundleDocument id) db = .ok db') : Keeps db.funds db'.funds := by
  induction documents generalizing db with
  | nil =>
    cases h
    exact .refl _
  | cons document documents ih =>
    simp only [List.foldlM_cons, bind_eq_ok, insertBundleDocument, orReject_eq_ok, pure_eq_ok] at h
    obtain ⟨_, ⟨rows, -, rfl⟩, h⟩ := h
    refine Keeps.trans ?_ (ih h)
    exact .of_tables rfl rfl

theorem bundle_keeps {readers : InvoiceReaders} {request : BundleRequest} {ids : BundleIds}
    {tokenHash : String}
    (h : createPaymentBundle db now request policy ext readers ids tokenHash = .ok db') :
    Keeps db.funds db'.funds := by
  simp only [createPaymentBundle, createPaymentBundleWithFunding, openSession, bind_eq_ok,
    reject_eq_ok, exists_const, asI64_eq_ok, pure_eq_ok] at h
  obtain ⟨payTo, -, _, -, _, ⟨s, -, rfl⟩, invoice, -, -, onlyAvailable, -, time, -, h⟩ := h
  have hensure := Keeps.ensure db.funds (bundleAccount s.wallet payTo policy)
  split at h
  · unfold reuseBundle at h
    split at h
    · refine hensure.trans (Keeps.trans ?_ (reserveBudget_keeps h))
      exact .of_tables rfl rfl
    · cases h
      exact hensure
  · simp only [createBundle, bind_eq_ok, reject_eq_ok, orReject_eq_ok, exists_const] at h
    obtain ⟨-, _, -, terms, -, quotes, -, listed, hdocuments, h⟩ := h
    have hlisted : Keeps db.funds listed.funds := by
      refine hensure.trans (Keeps.trans ?_ (documents_keep hdocuments))
      exact .of_tables rfl rfl
    split at h
    · exact hlisted.trans (reserveBudget_keeps h)
    · cases h
      exact hlisted

theorem openCall_keeps {ids : CallIds} {request : OpenCallRequest}
    (h : createOpenCall db ext now ids userId request policy = .ok db') :
    Keeps db.funds db'.funds := by
  simp only [createOpenCall, bind_eq_ok, reject_eq_ok, orReject_eq_ok, exists_const, pure_eq_ok] at h
  obtain ⟨_, -, -, _, -, -, -, _, -, payTo, -, found, -, wallet, -, amount, -, time, -, debited,
    hdebit, funds, hrecord, calls, -, rfl⟩ := h
  refine (Keeps.debit hdebit hrecord).trans ?_
  exact .of_tables rfl rfl

theorem withdrawal_keeps {ids : PayoutIds} {requested : Option String}
    (h : createPrepaidWithdrawal db ext now ids userId requested policy = .ok db') :
    Keeps db.funds db'.funds := by
  simp only [createPrepaidWithdrawal, withFunds, bind_eq_ok, reject_eq_ok, orReject_eq_ok,
    exists_const, pure_eq_ok] at h
  obtain ⟨_, -, payTo, -, -, found, -, wallet, -, amount, -, -, mid, hclaim, debited, hdebit, funds,
    hrecord, rfl⟩ := h
  have hfunds : mid.funds = db.funds := by
    rw [← insertPayoutClaim_effect hclaim]
  rw [hfunds] at hdebit
  exact .debit hdebit hrecord

theorem releases_keep {wallets : List String} (h : wallets.foldlM releaseWallet db = .ok db') :
    Keeps db.funds db'.funds := by
  induction wallets generalizing db with
  | nil =>
    cases h
    exact .refl _
  | cons wallet wallets ih =>
    simp only [List.foldlM_cons, bind_eq_ok, releaseWallet, reject_eq_ok, exists_const, pure_eq_ok] at h
    obtain ⟨_, ⟨-, rfl⟩, h⟩ := h
    refine Keeps.trans ?_ (ih h)
    exact .of_tables rfl rfl

theorem refunds_keep {newId : String → String} {calls : List OpenCall}
    (h : calls.foldlM (refundCall now newId) db = .ok db') : Keeps db.funds db'.funds := by
  induction calls generalizing db with
  | nil =>
    cases h
    exact .refl _
  | cons call calls ih =>
    simp only [List.foldlM_cons, bind_eq_ok] at h
    obtain ⟨mid, hrefund, h⟩ := h
    refine Keeps.trans ?_ (ih h)
    unfold refundCall at hrefund
    split at hrefund
    · cases hrefund
      exact .refl _
    · simp only [withFunds, bind_eq_ok, pure_eq_ok] at hrefund
      obtain ⟨amount, -, time, -, credited, hcredit, funds, hrecord, rfl⟩ := hrefund
      exact .refund hcredit hrecord

theorem sweepAccounts_keep {newIds : AccountKey → PayoutIds} {accounts : List PrepaidAccount}
    (h : accounts.foldlM (sweepAccount ext now userId newIds) db = .ok db') :
    Keeps db.funds db'.funds := by
  induction accounts generalizing db with
  | nil =>
    cases h
    exact .refl _
  | cons account accounts ih =>
    simp only [List.foldlM_cons, bind_eq_ok] at h
    obtain ⟨mid, hsweep, h⟩ := h
    refine Keeps.trans ?_ (ih h)
    simp only [sweepAccount, withFunds, bind_eq_ok, orReject_eq_ok, pure_eq_ok] at hsweep
    obtain ⟨claimed, hclaim, amount, -, debited, hdebit, funds, hrecord, rfl⟩ := hsweep
    have hfunds : claimed.funds = db.funds := by
      rw [← insertPayoutClaim_effect hclaim]
    rw [hfunds] at hdebit
    exact .debit hdebit hrecord

theorem sweeps_keep {newIds : AccountKey → PayoutIds} {wallets : List String}
    (h : wallets.foldlM (sweepWallet ext now userId newIds) db = .ok db') :
    Keeps db.funds db'.funds := by
  induction wallets generalizing db with
  | nil =>
    cases h
    exact .refl _
  | cons wallet wallets ih =>
    simp only [List.foldlM_cons, bind_eq_ok] at h
    obtain ⟨mid, hsweep, h⟩ := h
    exact (sweepAccounts_keep hsweep).trans (ih h)

theorem delete_keeps {others : Except StoreError Unit} {ids : DeletionIds}
    (h : deleteAccount db ext now userId others ids = .ok db') : Keeps db.funds db'.funds := by
  simp only [deleteAccount, bind_eq_ok, reject_eq_ok, exists_const, pure_eq_ok] at h
  obtain ⟨-, released, hrelease, _, -, refunded, hrefund, swept, hsweep, returned, hreturn, rfl⟩ := h
  have hswept := sweeps_keep hsweep
  have hreturned : returned.funds = swept.funds := by
    rw [← escrows_effect hreturn]
  refine ((releases_keep hrelease).trans (refunds_keep hrefund)).trans (hswept.trans ?_)
  rw [← hreturned]
  exact .of_tables rfl rfl

theorem perform_keeps {e : Event} (hlisted : ¬Elsewhere e) (h : perform ext db e = .ok db') :
    Keeps db.funds db'.funds := by
  obtain ⟨now, op⟩ := e
  cases op with
  | signUp userId =>
    simp only [perform, signUp, bind_eq_ok, orReject_eq_ok, pure_eq_ok] at h
    obtain ⟨_, -, rfl⟩ := h
    exact .refl _
  | bind userId wallet => exact bind_keeps h
  | challenge id userId wallet nonce ttlMs =>
    simp only [perform, createWalletChallenge, requireProfile, requireUser, bind_eq_ok, reject_eq_ok,
      orReject_eq_ok, exists_const, pure_eq_ok] at h
    obtain ⟨-, -, -, -, -, _, -, _, -, -, challenges, -, rfl⟩ := h
    exact .refl _
  | verify userId challengeId signature =>
    obtain ⟨challenge, mid, -, hverify, t, rfl⟩ := verify_effect h
    have hkeeps := verifyProfile_keeps hverify
    exact hkeeps
  | siwxChallenge challengeId request =>
    simp only [perform, createWalletSiwxChallenge, requireProfile, requireUser, bind_eq_ok,
      reject_eq_ok, orReject_eq_ok, exists_const, pure_eq_ok] at h
    obtain ⟨_, -, -, _, -, _, -, -, challenges, -, rfl⟩ := h
    exact .refl _
  | verifySiwx challengeId payload =>
    obtain ⟨challenge, mid, -, hverify, t, rfl⟩ := verifySiwx_effect h
    have hkeeps := verifyProfile_keeps hverify
    exact hkeeps
  | upsert userId request => exact upsert_keeps h
  | issue sessionId request policy => exact issue_keeps h
  | reserve readers ids tokenHash request policy => exact bundle_keeps h
  | openCall ids ownerId request policy => exact openCall_keeps h
  | withdraw ids userId requestedAtomic policy => exact withdrawal_keeps h
  | delete userId others ids => exact delete_keeps h
  | elsewhere funds payShQuoteFences => exact absurd ⟨funds, payShQuoteFences, rfl⟩ hlisted

end Operations

section Payments

variable {ext : Funds.Externals} {db db' : Funds.Database} {ids : NewIds} {now : Nat}
  {policy : PaymentQuotePolicy}

theorem deposit_keeps {request : RecordPrepaidDepositRequest} {balance : PrepaidBalance}
    (h : recordPrepaidDeposit ext policy db ids now request = .ok (db', balance)) : Keeps db db' := by
  simp only [recordPrepaidDeposit, bind_eq_ok, pure_eq_ok, Prod.mk.injEq] at h
  obtain ⟨amount, -, credited, hcredit, rfl, -⟩ := h
  unfold applyDeposit at hcredit
  split at hcredit
  · cases hcredit
    exact .refl _
  · simp only [claimChainTransaction, bind_eq_ok, asI64_eq_ok] at hcredit
    obtain ⟨claimed, ⟨_, -, hclaim⟩, hcredit⟩ := hcredit
    obtain ⟨-, -, hclaimed⟩ := claimTransaction_cases hclaim
    refine Keeps.trans ?_ (.credit hcredit)
    rw [← hclaimed]
    exact .of_tables rfl rfl

theorem fundPrepaid_keeps {request : RecordChainSettlementRequest} {quote : BundleQuote}
    (h : fundPrepaid db ids now request quote = .ok db') : Keeps db db' := by
  unfold fundPrepaid at h
  split at h
  · simp only [bind_eq_ok] at h
    obtain ⟨mid, hcredit, hreserve⟩ := h
    exact (Keeps.credit hcredit).trans (.reserve hreserve)
  · cases h
    exact .refl _

theorem settleBundle_keeps {request : RecordChainSettlementRequest} {amount : Nat}
    {receipt : ChainSettlementReceipt}
    (h : settleBundle ext db ids now request amount = .ok (db', receipt)) : Keeps db db' := by
  simp only [settleBundle, claimChainTransaction, bind_eq_ok, reject_eq_ok, orReject_eq_ok,
    exists_const, pure_eq_ok, asI64_eq_ok, Prod.mk.injEq] at h
  obtain ⟨_, -, prepared, -, claimed, ⟨_, -, hclaim⟩, quote, -, -, -, _, -, settled, hsettlement,
    funded, hfund, listed, hrow, rfl, -⟩ := h
  obtain ⟨-, -, hclaimed⟩ := claimTransaction_cases hclaim
  obtain ⟨settlements, rfl⟩ := insertSettlement_cases hsettlement
  obtain ⟨-, -, registry, ledger, rfl⟩ := insertChainSettlement_cases hrow
  have hbefore : Keeps db { claimed with settlements := settlements } := by
    rw [← hclaimed]
    exact .of_tables rfl rfl
  refine (hbefore.trans (fundPrepaid_keeps hfund)).trans ?_
  exact .of_tables rfl rfl

theorem fundBundle_keeps {request : RecordChainSettlementRequest} {receipt : ChainSettlementReceipt}
    (h : recordBundleChainSettlement ext db ids now request = .ok (db', receipt)) : Keeps db db' := by
  simp only [recordBundleChainSettlement, bind_eq_ok] at h
  obtain ⟨amount, -, h⟩ := h
  split at h
  · split at h
    · simp only [replayLocked, bind_eq_ok, pure_eq_ok, Prod.mk.injEq] at h
      obtain ⟨_, -, _, -, rfl, -⟩ := h
      exact .of_tables rfl rfl
    · cases h
  · exact settleBundle_keeps h

theorem cancel_keeps {app : Calls.Appraisal} {calls calls' : Calls.Database}
    {refundId userId openCallId : String}
    (h : Calls.cancelOpenCall app calls refundId now userId openCallId = .ok calls') :
    Keeps calls.funds calls'.funds := by
  simp only [Calls.cancelOpenCall, bind_eq_ok, reject_eq_ok, exists_const, pure_eq_ok] at h
  obtain ⟨call, -, -, -, refunded, hrefund, rfl⟩ := h
  change Keeps calls.funds refunded.funds
  unfold Calls.refundCall at hrefund
  split at hrefund
  · split at hrefund
    · simp only [Calls.refundOnchain, bind_eq_ok] at hrefund
      obtain ⟨_, -, _, -, _, -, _, -, hrefund⟩ := hrefund
      obtain ⟨t, rfl⟩ := Calls.insertPayoutClaim_frame hrefund
      exact .refl _
    · cases hrefund
      exact .refl _
  · split at hrefund
    · simp only [Calls.refundOpenCallPrepaid, Calls.withFunds, bind_eq_ok, pure_eq_ok] at hrefund
      obtain ⟨key, -, amount, -, time, -, credited, hcredit, funds, hrecord, rfl⟩ := hrefund
      exact .refund hcredit hrecord
    · cases hrefund
      exact .refl _
  · simp only [Calls.refundSandbox, bind_eq_ok, reject_eq_ok, exists_const, pure_eq_ok] at hrefund
    obtain ⟨_, -, -, rfl⟩ := hrefund
    exact .refl _

end Payments

section Runs

inductive Movement
  | wallet (e : Event)
  | deposit (policy : PaymentQuotePolicy) (ids : NewIds) (now : Nat)
    (request : RecordPrepaidDepositRequest)
  | bundle (ids : NewIds) (now : Nat) (request : RecordChainSettlementRequest)
  | failJob (key : AccountKey) (id jobId : String) (refundAtomic now : Nat)
  | cancel (app : Calls.Appraisal) (calls : Calls.Database) (refundId : String) (now : Nat)
    (userId openCallId : String)
  | elsewhere (funds : Funds.Database)

inductive Moves (ext : Externals) (payments : Funds.Externals) (db : Database) :
    Movement → Database → Prop
  | wallet {e : Event} {db' : Database} : ¬Elsewhere e → perform ext db e = .ok db' →
      Moves ext payments db (.wallet e) db'
  | deposit {policy : PaymentQuotePolicy} {ids : NewIds} {now : Nat}
      {request : RecordPrepaidDepositRequest} {funds : Funds.Database} {balance : PrepaidBalance} :
      recordPrepaidDeposit payments policy db.funds ids now request = .ok (funds, balance) →
      Moves ext payments db (.deposit policy ids now request) { db with funds := funds }
  | bundle {ids : NewIds} {now : Nat} {request : RecordChainSettlementRequest}
      {funds : Funds.Database} {receipt : ChainSettlementReceipt} :
      recordBundleChainSettlement payments db.funds ids now request = .ok (funds, receipt) →
      Moves ext payments db (.bundle ids now request) { db with funds := funds }
  | failJob {key : AccountKey} {id jobId : String} {refundAtomic now : Nat} {funds : Funds.Database} :
      releasePrepaidBudget db.funds key id jobId refundAtomic now = .ok funds →
      Moves ext payments db (.failJob key id jobId refundAtomic now) { db with funds := funds }
  | cancel {app : Calls.Appraisal} {calls calls' : Calls.Database} {refundId : String} {now : Nat}
      {userId openCallId : String} : calls.funds = db.funds →
      Calls.cancelOpenCall app calls refundId now userId openCallId = .ok calls' →
      Moves ext payments db (.cancel app calls refundId now userId openCallId)
        { db with funds := calls'.funds }
  | elsewhere {funds : Funds.Database} : funds.prepaidAccounts = db.funds.prepaidAccounts →
      funds.prepaidLedger = db.funds.prepaidLedger →
      Moves ext payments db (.elsewhere funds) { db with funds := funds }
  | refused {m : Movement} : Moves ext payments db m db

variable {ext : Externals} {payments : Funds.Externals} {db db' start : Database}
  {movements : List Movement}

theorem moves_keep {m : Movement} (h : Moves ext payments db m db') : Keeps db.funds db'.funds := by
  cases h with
  | wallet hlisted hperform => exact perform_keeps hlisted hperform
  | deposit hdeposit => exact deposit_keeps hdeposit
  | bundle hbundle => exact fundBundle_keeps hbundle
  | failJob hrelease => exact .release hrelease
  | cancel hcalls hcancel =>
    have hkeeps := cancel_keeps hcancel
    rw [hcalls] at hkeeps
    exact hkeeps
  | elsewhere haccounts hledger => exact .of_tables hledger haccounts
  | refused => exact .refl _

theorem Balanced.opening {funds : Funds.Database} (haccounts : funds.prepaidAccounts = .empty)
    (hledger : funds.prepaidLedger = .empty) : Balanced funds := by
  refine ⟨fun key => ?_, ?_⟩
  · rw [prepaidAvailable, haccounts, hledger]
    rfl
  · rw [hledger]
    exact Journal.Running.nil

theorem run_balanced (h : Balanced start.funds) (hrun : Trace (Moves ext payments) start movements db) :
    Balanced db.funds := by
  induction hrun with
  | nil => exact h
  | snoc _ hstep ih => exact moves_keep hstep ih

structure Audited (db : Funds.Database) : Prop where
  available : ∀ key, (prepaidAvailable db key : Int) = Journal.balance columns key db.prepaidLedger.rows
  solvent : ∀ key earlier later, db.prepaidLedger.rows = earlier ++ later →
    0 ≤ Journal.balance columns key earlier
  running : ∀ earlier e later, db.prepaidLedger.rows = earlier ++ e :: later →
    (e.balanceAfterAtomic : Int) = Journal.balance columns e.account earlier + e.deltaAtomic
  last : ∀ earlier e later, db.prepaidLedger.rows = earlier ++ e :: later →
    (∀ e' ∈ later, e'.account ≠ e.account) → prepaidAvailable db e.account = e.balanceAfterAtomic

theorem Balanced.audited {funds : Funds.Database} (h : Balanced funds) : Audited funds := by
  refine ⟨h.available, ?_, ?_, ?_⟩
  · intro key earlier later hrows
    have hrunning : Journal.Running columns (earlier ++ later) := hrows ▸ h.running
    exact hrunning.balance_nonneg fun e _ => Int.natCast_nonneg e.balanceAfterAtomic
  · intro earlier e later hrows
    have hleft := h.running earlier e later hrows
    rw [Journal.balance_append, Journal.balance_single, if_pos rfl] at hleft
    exact hleft
  · intro earlier e later hrows hothers
    have hrunning : Journal.Running columns (earlier ++ e :: later) := hrows ▸ h.running
    have hlast := hrunning.balance_last hothers
    have havailable := h.available e.account
    rw [hrows] at havailable
    exact Int.natCast_inj.mp (havailable.trans hlast)

theorem prepaid_audited (haccounts : start.funds.prepaidAccounts = .empty)
    (hledger : start.funds.prepaidLedger = .empty)
    (hrun : Trace (Moves ext payments) start movements db) : Audited db.funds :=
  (run_balanced (.opening haccounts hledger) hrun).audited

end Runs

section Sample

def move (ext : Externals) (payments : Funds.Externals) (db : Database) : Movement → Option Database
  | .wallet e =>
    match e.op with
    | .elsewhere _ _ => none
    | _ => (perform ext db e).toOption
  | .deposit policy ids now request =>
    ((recordPrepaidDeposit payments policy db.funds ids now request).toOption).map fun answer =>
      { db with funds := answer.1 }
  | .failJob key id jobId refundAtomic now =>
    ((releasePrepaidBudget db.funds key id jobId refundAtomic now).toOption).map fun funds =>
      { db with funds := funds }
  | _ => none

theorem move_trace (h : runWith (move ext payments) start movements = some db) :
    Trace (Moves ext payments) start movements db := by
  apply runWith_trace _ h
  intro db m db' hmove
  cases m with
  | wallet e =>
    simp only [move] at hmove
    split at hmove
    · cases hmove
    · next hlisted =>
      refine .wallet ?_ (toOption_eq_some.mp hmove)
      rintro ⟨funds, fences, hop⟩
      exact hlisted funds fences hop
  | deposit policy ids now request =>
    obtain ⟨⟨funds, balance⟩, hdeposit, rfl⟩ := Option.map_eq_some_iff.mp hmove
    exact .deposit (toOption_eq_some.mp hdeposit)
  | failJob key id jobId refundAtomic now =>
    obtain ⟨funds, hrelease, rfl⟩ := Option.map_eq_some_iff.mp hmove
    exact .failJob (toOption_eq_some.mp hrelease)
  | bundle ids now request => cases hmove
  | cancel app calls refundId now userId openCallId => cases hmove
  | elsewhere funds => cases hmove

def sampleDeposit : RecordPrepaidDepositRequest where
  transactionSignature := "signature"
  payer := sampleWallet
  payTo := sampleTreasury
  network := "solana"
  asset := "USDC"
  amountAtomic := "500"

def sampleEncodings : Funds.Externals where
  encoding := .standard
  hexDigest text := text

def sampleIds : NewIds := ⟨"settlement_1", "chain_1", "earning_1", "call_1", "deposit_1", "reserve_1"⟩

def sampleDocument : BundleDocument :=
  ⟨"", 0, "document_1", "MD0001", "bob", sampleTreasury, 300, none⟩

def sampleReaders : InvoiceReaders := ⟨.ok (), .ok ⟨300, 222, "bundle", "invoice", [sampleDocument]⟩⟩

def sampleMovements : List Movement :=
  aliceOpens.map .wallet ++
    [.deposit samplePolicy sampleIds 3500 sampleDeposit,
      .wallet ⟨4000, .reserve sampleReaders ⟨"job_1", "reserve_1"⟩ sampleToken
        ⟨"query", ["MD0001"], none, none⟩ samplePolicy⟩,
      .failJob sampleAccount "release_1" "job_1" 222 5000, .wallet aliceWithdraws]

theorem prepaid_audited_sample : ∃ db,
    Trace (Moves sampleExternals sampleEncodings) sampleStart.db sampleMovements db ∧
      db.funds.prepaidLedger.rows.map LedgerEntry.deltaAtomic = [500, -222, 222, -200] ∧
      prepaidAvailable db.funds sampleAccount = 300 ∧ Audited db.funds := by
  have hrun : (runWith (move sampleExternals sampleEncodings) sampleStart.db sampleMovements).any
      (fun db => decide (db.funds.prepaidLedger.rows.map LedgerEntry.deltaAtomic = [500, -222, 222, -200]) &&
        decide (prepaidAvailable db.funds sampleAccount = 300)) = true := by
    decide +kernel
  obtain ⟨db, hdb, hafter⟩ := (Option.any_eq_true _ _).mp hrun
  simp only [Bool.and_eq_true, decide_eq_true_eq] at hafter
  have htrace := move_trace hdb
  exact ⟨db, htrace, hafter.1, hafter.2, prepaid_audited rfl rfl htrace⟩

end Sample

end Obulus.Wallets
