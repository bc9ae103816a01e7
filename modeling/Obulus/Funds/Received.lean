import Obulus.Funds.Effects

namespace Obulus.Funds

open Foundation Store

variable {ext : Externals} {db db' : Database} {ids : NewIds} {now amount : Nat}
  {S quoteId : String} {kind : SettlementKind} {request : RecordChainSettlementRequest}

section Parts

theorem custody_prepaid (h : PrepaidOnly db db') :
    db'.custody = { db.custody with deposit := fun S => db'.prepaidLedger.get? (.deposit, S) } := by
  unfold PrepaidOnly at h
  rw [← h]
  rfl

theorem Posting.custody {e : LedgerEntry} (h : Posting db db' e) :
    (e.kind ≠ .deposit ∧ db'.custody = db.custody) ∨
      (e.kind = .deposit ∧ db.custody.deposit e.referenceId = none ∧
        db'.custody = db.custody.credit e.referenceId e) := by
  rw [custody_prepaid h.only]
  by_cases hk : e.kind = .deposit
  · right
    have hkey : e.reference = (.deposit, e.referenceId) := Prod.ext hk rfl
    have hnone := (Table.insert?_eq_some.mp h.ledger).1
    rw [hkey] at hnone
    refine ⟨hk, hnone, ?_⟩
    have hget : (fun S => db'.prepaidLedger.get? (.deposit, S)) =
        Function.update db.custody.deposit e.referenceId (some e) := by
      funext S
      rw [Table.get?_insert? h.ledger, Function.update_apply, hkey]
      refine if_congr ?_ rfl rfl
      simp [eq_comm]
    rw [hget]
    rfl
  · left
    refine ⟨hk, ?_⟩
    have hget : (fun S => db'.prepaidLedger.get? (.deposit, S)) = db.custody.deposit := by
      funext S
      rw [Table.get?_insert? h.ledger]
      have hne : e.reference ≠ (.deposit, S) := fun heq => hk (congrArg Prod.fst heq)
      rw [if_neg hne]
      rfl
    rw [hget]

theorem registerTransaction_cases (db : Database) (entry : RegistryEntry) :
    registerTransaction db entry = db.transactionRegistry ∨
      db.transactionRegistry.insert? entry = some (registerTransaction db entry) := by
  unfold registerTransaction
  split
  · exact .inl rfl
  · cases db.transactionRegistry.insert? entry with
    | none => exact .inl rfl
    | some registry => exact .inr rfl

theorem claimTransaction_cases {error : StoreError} {entry : RegistryEntry}
    (h : claimTransaction db error entry = .ok db') :
    db.custody.Free entry.transactionSignature entry.funds ∧
      db'.custody = db.custody.register entry.transactionSignature entry.funds ∧
      { db with transactionRegistry := db'.transactionRegistry } = db' := by
  simp only [claimTransaction, bind_eq_ok, reject_eq_ok, exists_const, pure_eq_ok] at h
  obtain ⟨hreg, rfl⟩ := h
  simp only [registered, Bool.not_eq_false, Option.any_eq_true, decide_eq_true_eq] at hreg
  obtain ⟨e, he, hfunds⟩ := hreg
  have hregistry : ({ db with transactionRegistry := registerTransaction db entry } :
      Database).custody = { db.custody with
        registry := fun S => ((registerTransaction db entry).get? S).map RegistryEntry.funds } := rfl
  rw [hregistry]
  rcases registerTransaction_cases db entry with hold | hnew
  · rw [hold] at he ⊢
    have hsome : db.custody.registry entry.transactionSignature = some entry.funds := by
      simp [Database.custody, he, hfunds]
    refine ⟨.inr hsome, ?_, rfl⟩
    simp only [Custody.register, ← hsome, Function.update_eq_self]
    rfl
  · have hnone := (Table.insert?_eq_some.mp hnew).1
    have hget : (fun S => ((registerTransaction db entry).get? S).map RegistryEntry.funds) =
        Function.update db.custody.registry entry.transactionSignature (some entry.funds) := by
      funext S
      rw [Table.get?_insert? hnew, Function.update_apply]
      by_cases hS : entry.transactionSignature = S
      · simp [hS]
      · simp [hS, Ne.symm hS, Database.custody]
    rw [hget]
    exact ⟨.inl (by simp [Database.custody, hnone]), rfl, rfl⟩

theorem insertChainSettlement_cases {s : ChainSettlement}
    (h : insertChainSettlement db kind s = .ok db') :
    db.custody.Free s.transactionSignature (Custody.funding (kind, s.quoteId)) ∧
      db'.custody = (db.custody.register s.transactionSignature
        (Custody.funding (kind, s.quoteId))).settle (kind, s.quoteId) s ∧
      ∃ registry ledger, db' = ({ db with transactionRegistry := registry }).setLedger kind ledger := by
  simp only [insertChainSettlement, bind_eq_ok, reject_eq_ok, orReject_eq_ok, exists_const,
    pure_eq_ok] at h
  obtain ⟨mid, hclaim, -, -, ledger, hinsert, rfl⟩ := h
  obtain ⟨hfree, hcustody, hmid⟩ := claimTransaction_cases hclaim
  refine ⟨hfree, ?_, mid.transactionRegistry, ledger, by rw [hmid]⟩
  have hsettled : (fun k : SettlementKind × String => ((mid.setLedger kind ledger).ledger k.1).get? k.2) =
      Function.update mid.custody.settled (kind, s.quoteId) (some s) := by
    funext k
    obtain ⟨kind', quoteId'⟩ := k
    rw [Function.update_apply]
    by_cases hkind : kind' = kind
    · subst hkind
      have hget : ((mid.setLedger kind' ledger).ledger kind').get? quoteId' = ledger.get? quoteId' := by
        cases kind' <;> rfl
      rw [hget, Table.get?_insert? hinsert]
      refine if_congr ?_ rfl rfl
      simp [eq_comm]
    · have hne : (kind', quoteId') ≠ (kind, s.quoteId) := fun heq => hkind (congrArg Prod.fst heq)
      rw [if_neg hne]
      cases kind <;> cases kind' <;> first | exact absurd rfl hkind | rfl
  have hrest : (mid.setLedger kind ledger).custody = { mid.custody with
      settled := fun k => ((mid.setLedger kind ledger).ledger k.1).get? k.2 } := by
    cases kind <;> rfl
  rw [hrest, hsettled, hcustody]
  rfl

theorem bindRail_cases {rail : PaymentRail} (h : bindDocumentPaymentRail db quoteId rail = .ok db') :
    ∃ quote, db.paymentQuotes.get? (trim quoteId) = some quote ∧ quote.queryId ∈ db.queries ∧
      (db' = db ∧ quote.paymentRail = some rail ∨
        db' = setRail db quote.id rail ∧ quote.paymentRail = none) := by
  simp only [bindDocumentPaymentRail, bind_eq_ok, reject_eq_ok, orReject_eq_ok, exists_const,
    not_not] at h
  obtain ⟨quote, hquote, hquery, h⟩ := h
  refine ⟨quote, hquote, hquery, ?_⟩
  unfold bindRail at h
  split at h
  · next current hcurrent =>
    split at h
    · cases h
    · next hsame =>
      cases h
      exact .inl ⟨rfl, by rw [hcurrent, not_not.mp hsame]⟩
  · next hnone =>
    simp only [bind_eq_ok, reject_eq_ok, exists_const, pure_eq_ok] at h
    obtain ⟨-, -, rfl⟩ := h
    exact .inr ⟨rfl, hnone⟩

theorem bindRail_custody {rail : PaymentRail} (h : bindDocumentPaymentRail db quoteId rail = .ok db') :
    db'.custody = db.custody := by
  obtain ⟨quote, _, _, ⟨rfl, _⟩ | ⟨rfl, _⟩⟩ := bindRail_cases h
  · rfl
  · rfl

-- The fence an accepted new settlement stands behind.
def ActiveFence (ext : Externals) (attemptId : Option String) (prepared : Option String)
    (a : PaymentAttempt) : Prop :=
  some a.attemptId = attemptId ∧
    (a.legacyEvidence = false → ∃ signed bytes, prepared = some signed ∧
      a.signedTransactionBase64 = some signed ∧ ext.hexDigest signed = a.attemptId ∧
      ext.encoding.base64Decode signed = some bytes ∧ validX402PreparedTransaction bytes = true)

theorem verify_active {attemptId prepared : Option String}
    (h : verifyChainPaymentAttempt ext db kind quoteId attemptId true = .ok prepared) :
    checkAttemptId attemptId = .ok () ∧
      ∃ a, db.custody.fence (kind, quoteId) = some a ∧ ActiveFence ext attemptId prepared a := by
  simp only [verifyChainPaymentAttempt, bind_eq_ok] at h
  obtain ⟨_, hcheck, h⟩ := h
  refine ⟨hcheck, ?_⟩
  change verifyActive ext attemptId true (db.custody.fence (kind, quoteId)) = _ at h
  cases ha : db.custody.fence (kind, quoteId) with
  | none =>
    rw [ha] at h
    cases h
  | some a =>
    rw [ha] at h
    simp only [verifyActive, bind_eq_ok, reject_eq_ok, exists_const, not_not] at h
    obtain ⟨hid, h⟩ := h
    refine ⟨a, rfl, hid, fun hlegacy => ?_⟩
    simp only [verifyEvidence, hlegacy, Bool.false_eq_true, ↓reduceIte] at h
    split at h
    · cases h
    · next signed hsigned =>
      simp only [bind_eq_ok, reject_eq_ok, orReject_eq_ok, exists_const, not_or, pure_eq_ok,
        not_not] at h
      obtain ⟨bytes, hbytes, ⟨hvalid, hdigest⟩, rfl⟩ := h
      exact ⟨signed, bytes, rfl, hsigned, hdigest, hbytes, by simpa using hvalid⟩

theorem insertSettlement_cases {s : Settlement} (h : insertSettlement db s = .ok db') :
    ∃ settlements, db' = { db with settlements := settlements } := by
  simp only [insertSettlement, bind_eq_ok, orReject_eq_ok, pure_eq_ok] at h
  obtain ⟨_, _, _, _, settlements, _, rfl⟩ := h
  exact ⟨settlements, rfl⟩

theorem insertEarning_cases {settlementId documentId authorId recipientWallet : String}
    {memoryId : Option String} {amountKrw : Nat}
    (h : insertOnchainEarningEvent db ids now settlementId memoryId documentId authorId amountKrw
      recipientWallet = .ok db') : ∃ events, db' = { db with earningEvents := events } := by
  simp only [insertOnchainEarningEvent, bind_eq_ok, orReject_eq_ok, pure_eq_ok] at h
  obtain ⟨_, _, _, _, _, _, _, _, events, _, rfl⟩ := h
  exact ⟨events, rfl⟩

theorem insertFundedCall_cases {quote : FundingQuote} {call : OpenCallRequest}
    (h : insertFundedCall db ids request quote call amount = .ok db') :
    ∃ calls, db' = { db with openCalls := calls } := by
  simp only [insertFundedCall, bind_eq_ok, orReject_eq_ok, pure_eq_ok] at h
  obtain ⟨_, _, _, _, _, _, calls, _, rfl⟩ := h
  exact ⟨calls, rfl⟩

theorem fundPrepaid_cases {quote : BundleQuote} (h : fundPrepaid db ids now request quote = .ok db') :
    PrepaidOnly db db' ∧ (db'.custody = db.custody ∨
      ∃ e, db.custody.deposit (trim request.transactionSignature) = none ∧
        db'.custody = db.custody.credit (trim request.transactionSignature) e) := by
  unfold fundPrepaid at h
  split at h
  · simp only [bind_eq_ok] at h
    obtain ⟨mid, hcredit, hreserve⟩ := h
    obtain ⟨e, hpost, -, hkind, href, -⟩ := credit_posts hcredit
    obtain ⟨e', hpost', -, hkind', -, -⟩ := reserve_posts hreserve
    refine ⟨hpost.only.trans hpost'.only, .inr ⟨e, ?_⟩⟩
    obtain ⟨_, hsame⟩ := hpost'.custody.resolve_right (by simp [hkind'])
    obtain ⟨-, hnone, hcustody⟩ := hpost.custody.resolve_left (by simp [hkind])
    rw [hsame, ← href]
    exact ⟨hnone, hcustody⟩
  · cases h
    exact ⟨rfl, .inl rfl⟩

end Parts

section Settling

variable {receipt : ChainSettlementReceipt}

def Spent (db : Database) : SettlementKind → String → Prop
  | .document, quoteId => ∃ q, db.paymentQuotes.get? quoteId = some q ∧ q.status ≠ .quoted ∧
      q.paymentRail = some .x402 ∧ q.queryId ∈ db.queries
  | .bundle, quoteId => ∃ q, db.bundleQuotes.get? quoteId = some q ∧ q.status ≠ .quoted
  | .openCall, quoteId => ∃ q, db.fundingQuotes.get? quoteId = some q ∧ q.status ≠ .quoted

-- `row` is the settlement row an accepted request adds
structure Recorded (request : RecordChainSettlementRequest) (amount : Nat)
    (row : ChainSettlement) : Prop where
  quoteId : row.quoteId = trim request.quoteId
  signature : row.transactionSignature = trim request.transactionSignature
  payer : row.payer = trim request.payer
  payTo : row.payTo = trim request.payTo
  amountAtomic : row.amountAtomic = amount
  network : row.network = trim request.network

theorem recorded_chainRow {parentId : String} {prepared : Option String} :
    Recorded request amount (chainRow ids now request parentId amount prepared) :=
  ⟨rfl, rfl, rfl, rfl, rfl, rfl⟩

structure Receives (ext : Externals) (request : RecordChainSettlementRequest) (amount : Nat)
    (kind : SettlementKind) (db db' : Database) (row : ChainSettlement) : Prop where
  recorded : Recorded request amount row
  attempt : checkAttemptId request.attemptId = .ok ()
  fence : ∃ a, db.custody.fence (kind, trim request.quoteId) = some a ∧
    ActiveFence ext request.attemptId row.preparedTransaction a
  free : db.custody.Free row.transactionSignature (Custody.funding (kind, trim request.quoteId))
  custody : db'.custody = db.custody.receive (kind, trim request.quoteId) row ∨
    kind = .bundle ∧ ∃ e, db.custody.deposit row.transactionSignature = none ∧
      db'.custody = (db.custody.receive (kind, trim request.quoteId) row).credit
        row.transactionSignature e
  spent : Spent db' kind (trim request.quoteId)
  keepsSpent : ∀ kind' quoteId', Spent db kind' quoteId' → Spent db' kind' quoteId'

theorem Spent.congr {kind' : SettlementKind} {quoteId' : String} (h : Spent db kind' quoteId')
    (hpayment : db'.paymentQuotes = db.paymentQuotes) (hqueries : db'.queries = db.queries)
    (hbundle : db'.bundleQuotes = db.bundleQuotes) (hfunding : db'.fundingQuotes = db.fundingQuotes) :
    Spent db' kind' quoteId' := by
  unfold Spent at h ⊢
  rw [hpayment, hqueries, hbundle, hfunding]
  exact h

theorem Spent.setRail {kind' : SettlementKind} {quoteId' : String} (h : Spent db kind' quoteId') :
    Spent (setRail db quoteId .x402) kind' quoteId' := by
  cases kind' with
  | document => exact Table.update_keeps (by intro _; rfl) h fun q _ hq => ⟨hq.1, rfl, hq.2.2⟩
  | bundle => exact h
  | openCall => exact h

theorem Spent.bindRail {kind' : SettlementKind} {quoteId' : String} (h : Spent db kind' quoteId')
    (hbind : bindDocumentPaymentRail db quoteId .x402 = .ok db') : Spent db' kind' quoteId' := by
  obtain ⟨quote, _, _, ⟨rfl, _⟩ | ⟨rfl, _⟩⟩ := bindRail_cases hbind
  · exact h
  · exact h.setRail

theorem Spent.deliverQuote {kind' : SettlementKind} {quoteId' : String} (h : Spent db kind' quoteId') :
    Spent (deliverQuote db now quoteId) kind' quoteId' := by
  cases kind' with
  | document => exact Table.update_keeps (by intro _; rfl) h fun q _ hq => ⟨by simp, hq.2⟩
  | bundle => exact h
  | openCall => exact h

theorem Spent.fundBundle {kind' : SettlementKind} {quoteId' : String} (h : Spent db kind' quoteId') :
    Spent (fundBundle db now request quoteId) kind' quoteId' := by
  cases kind' with
  | document => exact h
  | bundle => exact Table.update_keeps (by intro _; rfl) h fun q _ _ => by simp
  | openCall => exact h

theorem Spent.fundQuote {kind' : SettlementKind} {quoteId' : String} (h : Spent db kind' quoteId') :
    Spent (fundQuote db ids now request quoteId) kind' quoteId' := by
  cases kind' with
  | document => exact h
  | bundle => exact h
  | openCall => exact Table.update_keeps (by intro _; rfl) h fun q _ _ => by simp

theorem spent_delivered {q : PaymentQuote} (hq : db.paymentQuotes.get? quoteId = some q)
    (hrail : q.paymentRail = some .x402) (hquery : q.queryId ∈ db.queries) :
    Spent (deliverQuote db now quoteId) .document quoteId := by
  refine ⟨_, by simp only [deliverQuote, Table.get?_update, hq]; rfl, ?_⟩
  simp [Table.get?_key hq, hrail, hquery, Funds.deliverQuote]

theorem spent_funded_quote {q : FundingQuote} (hq : db.fundingQuotes.get? quoteId = some q) :
    Spent (fundQuote db ids now request quoteId) .openCall quoteId := by
  refine ⟨_, by simp only [fundQuote, Table.get?_update, hq]; rfl, ?_⟩
  simp [Table.get?_key hq]

theorem spent_funded_bundle {q : BundleQuote} (hq : db.bundleQuotes.get? quoteId = some q) :
    Spent (fundBundle db now request quoteId) .bundle quoteId := by
  refine ⟨_, by simp only [fundBundle, Table.get?_update, hq]; rfl, ?_⟩
  simp [Table.get?_key hq]

theorem custody_settled {mid : Database} {row : ChainSettlement} (hid : row.quoteId = quoteId)
    (hcustody : db'.custody = (mid.custody.register row.transactionSignature
      (Custody.funding (kind, row.quoteId))).settle (kind, row.quoteId) row)
    (hmid : mid.custody = db.custody.register row.transactionSignature
      (Custody.funding (kind, quoteId))) :
    (clearPaymentAttempt db' kind quoteId).custody = db.custody.receive (kind, quoteId) row := by
  rw [custody_clear, hcustody, hmid, hid]
  simp only [Custody.receive, Custody.register, Function.update_idem]

theorem custody_settled_credit {mid : Database} {row : ChainSettlement} {e : LedgerEntry}
    (hid : row.quoteId = quoteId)
    (hcustody : db'.custody = (mid.custody.register row.transactionSignature
      (Custody.funding (kind, row.quoteId))).settle (kind, row.quoteId) row)
    (hmid : mid.custody = (db.custody.register row.transactionSignature
      (Custody.funding (kind, quoteId))).credit S e) :
    (clearPaymentAttempt db' kind quoteId).custody =
      (db.custody.receive (kind, quoteId) row).credit S e := by
  rw [custody_clear, hcustody, hmid, hid]
  simp only [Custody.receive, Custody.register, Custody.credit, Custody.settle, Custody.unfence,
    Function.update_idem]

theorem spent_bound {bound : Database} (hbind : bindDocumentPaymentRail db (trim quoteId) .x402 = .ok bound) :
    Spent (deliverQuote bound now (trim quoteId)) .document (trim quoteId) := by
  obtain ⟨q, hq, hquery, hbound⟩ := bindRail_cases hbind
  rw [trim_trim] at hq
  rcases hbound with ⟨rfl, hrail⟩ | ⟨rfl, -⟩
  · exact spent_delivered hq hrail hquery
  · refine spent_delivered (q := { q with paymentRail := some .x402 }) ?_ rfl hquery
    simp [setRail, hq]

theorem settleDocument_cases (h : settleDocument ext db ids now request amount = .ok (db', receipt)) :
    ∃ row, receipt = row.receipt ∧ Receives ext request amount .document db db' row := by
  simp only [settleDocument, bind_eq_ok, reject_eq_ok, orReject_eq_ok, exists_const, pure_eq_ok,
    asI64_eq_ok, Prod.mk.injEq] at h
  obtain ⟨bound, hbind, prepared, hverify, claimed, hclaim, quote, hquote, document, -, -,
    _, ⟨-, rfl⟩, settled, hsettlement, listed, hrow, earned, hearning, rfl, rfl⟩ := h
  obtain ⟨hattempt, a, ha, hactive⟩ := verify_active hverify
  simp only [claimChainTransaction, bind_eq_ok, asI64_eq_ok] at hclaim
  obtain ⟨now', ⟨-, hnow⟩, hclaim⟩ := hclaim
  obtain ⟨hfree, hclaimed, hshape⟩ := claimTransaction_cases hclaim
  obtain ⟨settlements, rfl⟩ := insertSettlement_cases hsettlement
  obtain ⟨-, hlisted, registry, ledger, rfl⟩ := insertChainSettlement_cases hrow
  obtain ⟨events, rfl⟩ := insertEarning_cases hearning
  rw [bindRail_custody hbind] at ha hfree hclaimed
  refine ⟨_, rfl, recorded_chainRow, hattempt, ⟨a, ha, hactive⟩, hfree, .inl ?_, ?_, ?_⟩
  · exact custody_settled rfl hlisted hclaimed
  · have hspent : Spent (deliverQuote bound now (trim request.quoteId)) .document
        (trim request.quoteId) := spent_bound hbind
    apply hspent.congr
    all_goals
      rw [← hshape]
      rfl
  · intro kind' quoteId' hspent
    have hspent' : Spent (deliverQuote bound now (trim request.quoteId)) kind' quoteId' :=
      (hspent.bindRail hbind).deliverQuote
    apply hspent'.congr
    all_goals
      rw [← hshape]
      rfl

theorem settleOpenCall_cases (h : settleOpenCall ext db ids now request amount = .ok (db', receipt)) :
    ∃ row, receipt = row.receipt ∧ Receives ext request amount .openCall db db' row := by
  simp only [settleOpenCall, bind_eq_ok, reject_eq_ok, orReject_eq_ok, exists_const, pure_eq_ok,
    asI64_eq_ok, Prod.mk.injEq] at h
  obtain ⟨_, -, prepared, hverify, claimed, hclaim, quote, hquote, -, -, call, -, _, -, _, ⟨-, rfl⟩,
    called, hcall, listed, hrow, rfl, rfl⟩ := h
  obtain ⟨hattempt, a, ha, hactive⟩ := verify_active hverify
  simp only [claimChainTransaction, bind_eq_ok, asI64_eq_ok] at hclaim
  obtain ⟨now', ⟨-, hnow⟩, hclaim⟩ := hclaim
  obtain ⟨hfree, hclaimed, hshape⟩ := claimTransaction_cases hclaim
  obtain ⟨calls, rfl⟩ := insertFundedCall_cases hcall
  obtain ⟨-, hlisted, registry, ledger, rfl⟩ := insertChainSettlement_cases hrow
  rw [← hshape] at hquote
  refine ⟨_, rfl, recorded_chainRow, hattempt, ⟨a, ha, hactive⟩, hfree, .inl ?_, ?_, ?_⟩
  · exact custody_settled rfl hlisted hclaimed
  · have hspent : Spent (fundQuote db ids now request (trim request.quoteId)) .openCall
        (trim request.quoteId) := spent_funded_quote hquote
    apply hspent.congr
    all_goals
      rw [← hshape]
      rfl
  · intro kind' quoteId' hspent
    have hspent' : Spent (fundQuote db ids now request (trim request.quoteId)) kind' quoteId' :=
      hspent.fundQuote
    apply hspent'.congr
    all_goals
      rw [← hshape]
      rfl

theorem settleBundle_cases (h : settleBundle ext db ids now request amount = .ok (db', receipt)) :
    ∃ row, receipt = row.receipt ∧ Receives ext request amount .bundle db db' row := by
  simp only [settleBundle, bind_eq_ok, reject_eq_ok, orReject_eq_ok, exists_const, pure_eq_ok,
    asI64_eq_ok, Prod.mk.injEq] at h
  obtain ⟨_, -, prepared, hverify, claimed, hclaim, quote, hquote, -, -, _, ⟨-, rfl⟩,
    settled, hsettlement, funded, hfund, listed, hrow, rfl, rfl⟩ := h
  obtain ⟨hattempt, a, ha, hactive⟩ := verify_active hverify
  simp only [claimChainTransaction, bind_eq_ok, asI64_eq_ok] at hclaim
  obtain ⟨now', ⟨-, hnow⟩, hclaim⟩ := hclaim
  obtain ⟨hfree, hclaimed, hshape⟩ := claimTransaction_cases hclaim
  obtain ⟨settlements, rfl⟩ := insertSettlement_cases hsettlement
  obtain ⟨honly, hdeposit⟩ := fundPrepaid_cases hfund
  obtain ⟨-, hlisted, registry, ledger, rfl⟩ := insertChainSettlement_cases hrow
  rw [← hshape] at hquote
  refine ⟨_, rfl, recorded_chainRow, hattempt, ⟨a, ha, hactive⟩, hfree, ?_, ?_, ?_⟩
  · rcases hdeposit with hsame | ⟨e, hnone, hcredit⟩
    · exact .inl (custody_settled rfl hlisted (hsame.trans hclaimed))
    · right
      have hdeposit : claimed.custody.deposit = db.custody.deposit := by
        rw [hclaimed]
        rfl
      have hcredited : funded.custody = claimed.custody.credit (trim request.transactionSignature) e :=
        hcredit
      rw [hclaimed] at hcredited
      refine ⟨rfl, e, ?_, custody_settled_credit rfl hlisted hcredited⟩
      rw [← hdeposit]
      exact hnone
  · have hspent : Spent (fundBundle db now request (trim request.quoteId)) .bundle
        (trim request.quoteId) := spent_funded_bundle hquote
    apply hspent.congr
    all_goals
      rw [← honly, ← hshape]
      rfl
  · intro kind' quoteId' hspent
    have hspent' : Spent (fundBundle db now request (trim request.quoteId)) kind' quoteId' :=
      hspent.fundBundle
    apply hspent'.congr
    all_goals
      rw [← honly, ← hshape]
      rfl

end Settling

end Obulus.Funds
