import Obulus.Foundation.Trace
import Obulus.Funds.Received

namespace Obulus.Funds

open Foundation Store

section Operations

variable (ext : Externals) (db : Database) (ids : NewIds) (now : Nat)

def recordSettlement (request : RecordChainSettlementRequest) :
    SettlementKind → Except StoreError (Database × ChainSettlementReceipt)
  | .document => recordChainSettlement ext db ids now request
  | .bundle => recordBundleChainSettlement ext db ids now request
  | .openCall => recordOpenCallChainSettlement ext db ids now request

inductive Operation
  | claim (request : ClaimPaymentAttemptRequest)
  | release (request : ClaimPaymentAttemptRequest)
  | defer (request : ClaimPaymentAttemptRequest)
  | releaseReconciled (request : ClaimPaymentAttemptRequest)
  | record (kind : SettlementKind) (request : RecordChainSettlementRequest)
  | deposit (policy : PaymentQuotePolicy) (request : RecordPrepaidDepositRequest)

def execute : Operation → Except StoreError Database
  | .claim request => (claimPaymentAttempt db ext now request).map Prod.fst
  | .release request => (releasePaymentAttempt db request).map Prod.fst
  | .defer request => (deferPaymentAttemptReconciliation db now request).map Prod.fst
  | .releaseReconciled request => (releaseReconciledPaymentAttempt db now request).map Prod.fst
  | .record kind request => (recordSettlement ext db ids now request kind).map Prod.fst
  | .deposit policy request => (recordPrepaidDeposit ext policy db ids now request).map Prod.fst

end Operations

inductive Event
  | accepted (now : Nat) (ids : NewIds) (operation : Operation)
  | rejected (now : Nat) (ids : NewIds) (operation : Operation) (error : StoreError)
  | paidOverPaySh (signature : String) (kind : RegistryKind) (quoteId : String) (now : Nat)
  | elsewhere

-- Pay.sh settlements share the signature registry; the rest of the store issues, expires and
-- deletes quotes, and never takes back the record that a quote was paid.
inductive Step (ext : Externals) : Database → Event → Database → Prop
  | accepted {db db' : Database} {now : Nat} {ids : NewIds} {operation : Operation} :
      execute ext db ids now operation = .ok db' → Step ext db (.accepted now ids operation) db'
  | rejected {db : Database} {now : Nat} {ids : NewIds} {operation : Operation}
      {error : StoreError} : execute ext db ids now operation = .error error →
      Step ext db (.rejected now ids operation error) db
  | paidOverPaySh {db db' : Database} {signature quoteId : String} {kind : RegistryKind} {now : Nat} :
      kind = .payShDocument ∨ kind = .payShDirect →
      claimChainTransaction db signature kind quoteId now = .ok db' →
      Step ext db (.paidOverPaySh signature kind quoteId now) db'
  | elsewhere {db db' : Database} : db'.custody = db.custody →
      (∀ kind quoteId, Spent db kind quoteId → Spent db' kind quoteId) →
      Step ext db .elsewhere db'

abbrev Run (ext : Externals) := Trace (Step ext)

structure Vacant (db : Database) : Prop where
  settled : ∀ k, db.custody.settled k = none
  fence : ∀ k, db.custody.fence k = none
  deposit : ∀ S, db.custody.deposit S = none

variable {ext : Externals} {db db' : Database} {ids : NewIds} {now amount : Nat} {e : Event}
  {kind : SettlementKind} {request : RecordChainSettlementRequest} {S quoteId : String}
  {receipt : ChainSettlementReceipt}

structure Settles (ext : Externals) (db : Database) (e : Event) (db' : Database)
    (k : SettlementKind × String) (s : ChainSettlement) (now : Nat) (ids : NewIds)
    (request : RecordChainSettlementRequest) (amount : Nat) : Prop where
  event : e = .accepted now ids (.record k.1 request)
  quoteId : trim request.quoteId = k.2
  unsettled : db.custody.settled k = none
  parsed : settlementAmount ext request = .ok amount
  receives : Receives ext request amount k.1 db db' s

structure Transition (ext : Externals) (db : Database) (e : Event) (db' : Database) : Prop where
  move : db.custody.Move db'.custody
  spent : ∀ kind quoteId, Spent db kind quoteId → Spent db' kind quoteId
  settled : ∀ k s, db'.custody.settled k = some s → db.custody.settled k = some s ∨
    ∃ now ids request amount, Settles ext db e db' k s now ids request amount
  fence : ∀ k a, db'.custody.fence k = some a → Spent db k.1 k.2 →
    ∃ a', db.custody.fence k = some a'

namespace Transition

theorem same (h : db'.custody = db.custody)
    (hspent : ∀ kind quoteId, Spent db kind quoteId → Spent db' kind quoteId) :
    Transition ext db e db' := by
  refine ⟨?_, hspent, ?_, ?_⟩
  · rw [h]
    exact .idle
  · rw [h]
    exact fun k s hs => .inl hs
  · rw [h]
    exact fun k a ha _ => ⟨a, ha⟩

variable {p : PaymentAttempt → Bool} {k : SettlementKind × String}

theorem dropped (hp : ∀ a, p a = true → a.key = k) : Transition ext db e (dropAttempts db p) := by
  refine ⟨dropped_moves hp, ?_, fun k s hs => .inl hs, ?_⟩
  · intro kind quoteId h
    exact h.congr rfl rfl rfl rfl
  · intro k a ha _
    have hget : (db.paymentAttempts.delete p).get? k = some a := ha
    rw [Table.get?_delete, Option.filter_eq_some_iff] at hget
    exact ⟨a, hget.1⟩

theorem rescheduled {reconcileAfter : Nat} {observed : Bool} (hp : ∀ a, p a = true → a.key = k) :
    Transition ext db e (rescheduled db p reconcileAfter observed now) := by
  refine ⟨rescheduled_moves hp, ?_, fun k s hs => .inl hs, ?_⟩
  · intro kind quoteId h
    exact h.congr rfl rfl rfl rfl
  · intro k a ha _
    have hget : ((Funds.rescheduled db p reconcileAfter observed now).paymentAttempts).get? k =
        some a := ha
    simp only [Funds.rescheduled, Table.get?_update, Option.map_eq_some_iff] at hget
    obtain ⟨a', ha', -⟩ := hget
    exact ⟨a', ha'⟩

end Transition

theorem Spent.not_payable {quote : PayableQuote} (h : Spent db kind quoteId)
    (hquote : payableQuote db kind quoteId = .ok quote) : quote.quoted = false := by
  cases kind with
  | document =>
    obtain ⟨q, hq, hstatus, -⟩ := h
    simp only [payableQuote, bind_eq_ok, orReject_eq_ok, reject_eq_ok, exists_const, pure_eq_ok] at hquote
    obtain ⟨q', hq', -, rfl⟩ := hquote
    obtain rfl : q = q' := Option.some.inj (hq.symm.trans hq')
    simpa using hstatus
  | bundle =>
    obtain ⟨q, hq, hstatus⟩ := h
    simp only [payableQuote, bind_eq_ok, orReject_eq_ok, pure_eq_ok] at hquote
    obtain ⟨q', hq', rfl⟩ := hquote
    obtain rfl : q = q' := Option.some.inj (hq.symm.trans hq')
    simpa using hstatus
  | openCall =>
    obtain ⟨q, hq, hstatus⟩ := h
    simp only [payableQuote, bind_eq_ok, orReject_eq_ok, pure_eq_ok] at hquote
    obtain ⟨q', hq', rfl⟩ := hquote
    obtain rfl : q = q' := Option.some.inj (hq.symm.trans hq')
    simpa using hstatus

theorem claim_transition {r : ClaimPaymentAttemptRequest} {fence : PaymentAttemptFence}
    (h : claimPaymentAttempt db ext now r = .ok (db', fence)) : Transition ext db e db' := by
  have hmove := claim_moves h
  rcases claim_cases h with rfl | ⟨a, quote, hquote, hquoted, -, -, attempts, hinsert, rfl⟩
  · exact .same rfl fun _ _ h => h
  · refine ⟨hmove, ?_, fun k s hs => .inl hs, ?_⟩
    · intro kind quoteId hspent
      exact hspent.congr rfl rfl rfl rfl
    · intro k a' ha' hspent
      have hget : attempts.get? k = some a' := ha'
      rw [Table.get?_insert? hinsert] at hget
      split at hget
      · next hk =>
        subst hk
        rw [hspent.not_payable hquote] at hquoted
        cases hquoted
      · exact ⟨a', hget⟩

theorem Receives.transition {k : SettlementKind × String} {row : ChainSettlement}
    (h : Receives ext request amount k.1 db db' row)
    (he : e = .accepted now ids (.record k.1 request)) (hid : trim request.quoteId = k.2)
    (hnone : db.custody.settled k = none) (hamount : settlementAmount ext request = .ok amount) :
    Transition ext db e db' := by
  have hcustody := h.custody
  obtain ⟨a, ha, -⟩ := h.fence
  have hfree := h.free
  rw [hid, show (k.1, k.2) = k from rfl] at hcustody ha hfree
  refine ⟨?_, h.keepsSpent, ?_, ?_⟩
  · rcases hcustody with hc | ⟨hk, entry, hdeposit, hc⟩
    · rw [hc]
      exact .received hnone ha hfree
    · obtain ⟨kind, quoteId⟩ := k
      simp only at hk
      subst hk
      rw [hc]
      exact .receivedDeposit hnone ha hfree hdeposit
  · intro k' s hs
    have hsettled : db'.custody.settled = Function.update db.custody.settled k (some row) := by
      rcases hcustody with hc | ⟨-, _, -, hc⟩
      · rw [hc]
        rfl
      · rw [hc]
        rfl
    rw [hsettled, Function.update_apply] at hs
    split at hs
    · next hk =>
      subst hk
      cases hs
      exact .inr ⟨now, ids, request, amount, he, hid, hnone, hamount, h⟩
    · exact .inl hs
  · intro k' a' ha' _
    have hfence : db'.custody.fence = Function.update db.custody.fence k none := by
      rcases hcustody with hc | ⟨-, _, -, hc⟩
      · rw [hc]
        rfl
      · rw [hc]
        rfl
    rw [hfence, Function.update_apply] at ha'
    split at ha'
    · cases ha'
    · exact ⟨a', ha'⟩

theorem clear_transition {mid : Database} (hcustody : mid.custody = db.custody)
    (hspent : ∀ kind quoteId, Spent db kind quoteId → Spent mid kind quoteId) :
    Transition ext db e (clearPaymentAttempt mid kind quoteId) := by
  have hcleared : (clearPaymentAttempt mid kind quoteId).custody =
      db.custody.unfence (kind, quoteId) := by rw [custody_clear, hcustody]
  refine ⟨?_, ?_, ?_, ?_⟩
  · rw [hcleared]
    exact .unfenced
  · intro kind' quoteId' h
    exact (hspent kind' quoteId' h).congr rfl rfl rfl rfl
  · rw [hcleared]
    exact fun k s hs => .inl hs
  · intro k a ha _
    rw [hcleared] at ha
    simp only [Custody.unfence, Function.update_apply] at ha
    split at ha
    · cases ha
    · exact ⟨a, ha⟩

theorem verify_attemptId {attemptId prepared : Option String} {b : Bool}
    (h : verifyChainPaymentAttempt ext db kind quoteId attemptId b = .ok prepared) :
    checkAttemptId attemptId = .ok () := by
  simp only [verifyChainPaymentAttempt, bind_eq_ok] at h
  obtain ⟨_, hcheck, -⟩ := h
  exact hcheck

theorem replay_transition {existing : ChainSettlement}
    (h : replayLocked ext db request kind existing = .ok (db', receipt)) :
    receipt = existing.receipt ∧ checkAttemptId request.attemptId = .ok () ∧
      Transition ext db e db' := by
  simp only [replayLocked, bind_eq_ok, pure_eq_ok, Prod.mk.injEq] at h
  obtain ⟨_, _, _, hverify, rfl, rfl⟩ := h
  exact ⟨rfl, verify_attemptId hverify, clear_transition rfl fun _ _ h => h⟩

theorem replayDocument_transition {existing : ChainSettlement}
    (h : replayDocument ext db request existing = .ok (db', receipt)) :
    receipt = existing.receipt ∧ checkAttemptId request.attemptId = .ok () ∧
      Transition ext db e db' := by
  simp only [replayDocument, bind_eq_ok, pure_eq_ok, Prod.mk.injEq] at h
  obtain ⟨bound, hbind, _, hverify, rfl, rfl⟩ := h
  exact ⟨rfl, verify_attemptId hverify, clear_transition (bindRail_custody hbind) fun _ _ h => h.bindRail hbind⟩

-- An accepted request for a quote finds it settled by the same payment or settles it.
inductive Outcome (ext : Externals) (db : Database) (now : Nat) (ids : NewIds)
    (request : RecordChainSettlementRequest) (k : SettlementKind × String) (db' : Database)
    (receipt : ChainSettlementReceipt) : Prop
  | replayed {s : ChainSettlement} {amount : Nat} : db.custody.settled k = some s →
      settlementAmount ext request = .ok amount → checkAttemptId request.attemptId = .ok () →
      sameSettlement s request = true → receipt = s.receipt →
      Transition ext db (.accepted now ids (.record k.1 request)) db' →
      Outcome ext db now ids request k db' receipt
  | settled {s : ChainSettlement} {amount : Nat} : receipt = s.receipt →
      Settles ext db (.accepted now ids (.record k.1 request)) db' k s now ids request amount →
      Outcome ext db now ids request k db' receipt

theorem record_outcome (h : recordSettlement ext db ids now request kind = .ok (db', receipt)) :
    Outcome ext db now ids request (kind, trim request.quoteId) db' receipt := by
  cases kind with
  | document =>
    simp only [recordSettlement, recordChainSettlement, bind_eq_ok] at h
    obtain ⟨amount, hamount, h⟩ := h
    split at h
    · next existing hexisting =>
      split at h
      · next hsame =>
        obtain ⟨hreceipt, hid, htransition⟩ := replayDocument_transition h
        exact .replayed hexisting hamount hid hsame hreceipt htransition
      · cases h
    · next hnone =>
      obtain ⟨row, hreceipt, hrow⟩ := settleDocument_cases h
      exact .settled hreceipt ⟨rfl, rfl, hnone, hamount, hrow⟩
  | bundle =>
    simp only [recordSettlement, recordBundleChainSettlement, bind_eq_ok] at h
    obtain ⟨amount, hamount, h⟩ := h
    split at h
    · next existing hexisting =>
      split at h
      · next hsame =>
        obtain ⟨hreceipt, hid, htransition⟩ := replay_transition h
        exact .replayed hexisting hamount hid hsame hreceipt htransition
      · cases h
    · next hnone =>
      obtain ⟨row, hreceipt, hrow⟩ := settleBundle_cases h
      exact .settled hreceipt ⟨rfl, rfl, hnone, hamount, hrow⟩
  | openCall =>
    simp only [recordSettlement, recordOpenCallChainSettlement, bind_eq_ok] at h
    obtain ⟨amount, hamount, h⟩ := h
    split at h
    · next existing hexisting =>
      split at h
      · next hsame =>
        obtain ⟨hreceipt, hid, htransition⟩ := replay_transition h
        exact .replayed hexisting hamount hid hsame hreceipt htransition
      · cases h
    · next hnone =>
      obtain ⟨row, hreceipt, hrow⟩ := settleOpenCall_cases h
      exact .settled hreceipt ⟨rfl, rfl, hnone, hamount, hrow⟩

theorem Settles.transition {k : SettlementKind × String} {s : ChainSettlement}
    (h : Settles ext db e db' k s now ids request amount) : Transition ext db e db' :=
  h.receives.transition h.event h.quoteId h.unsettled h.parsed

theorem record_transition (h : recordSettlement ext db ids now request kind = .ok (db', receipt)) :
    Transition ext db (.accepted now ids (.record kind request)) db' := by
  cases record_outcome h with
  | replayed _ _ _ _ _ htransition => exact htransition
  | settled _ hsettles => exact hsettles.transition

section Deposit

variable {policy : PaymentQuotePolicy} {r : RecordPrepaidDepositRequest} {balance : PrepaidBalance}

theorem deposit_cases (h : recordPrepaidDeposit ext policy db ids now r = .ok (db', balance)) :
    (db.custody.deposit (trim r.transactionSignature)).isSome = true ∧ db' = db ∨
      ∃ mid entry, db.custody.deposit (trim r.transactionSignature) = none ∧
        db.custody.Free (trim r.transactionSignature) (.prepaidTopup, trim r.transactionSignature) ∧
        mid.custody = db.custody.register (trim r.transactionSignature)
          (.prepaidTopup, trim r.transactionSignature) ∧
        { db with transactionRegistry := mid.transactionRegistry } = mid ∧ PrepaidOnly mid db' ∧
        db'.custody = mid.custody.credit (trim r.transactionSignature) entry := by
  simp only [recordPrepaidDeposit, bind_eq_ok, pure_eq_ok, Prod.mk.injEq] at h
  obtain ⟨amount, -, after, happly, rfl, -⟩ := h
  unfold applyDeposit at happly
  split at happly
  · next hrecorded =>
    cases happly
    exact .inl ⟨hrecorded, rfl⟩
  · next hfresh =>
    right
    simp only [bind_eq_ok, claimChainTransaction, asI64_eq_ok] at happly
    obtain ⟨mid, ⟨_, -, hclaim⟩, hcredit⟩ := happly
    obtain ⟨hfree, hcustody, hshape⟩ := claimTransaction_cases hclaim
    obtain ⟨entry, hpost, -, hkind, href, -⟩ := credit_posts hcredit
    obtain ⟨-, -, hcredited⟩ := hpost.custody.resolve_left (by simp [hkind])
    rw [href] at hcredited
    refine ⟨mid, entry, ?_, hfree, hcustody, hshape, hpost.only, hcredited⟩
    rw [depositRecorded, Bool.not_eq_true, Option.isSome_eq_false_iff, Option.isNone_iff_eq_none]
      at hfresh
    exact hfresh

theorem deposit_transition (h : recordPrepaidDeposit ext policy db ids now r = .ok (db', balance)) :
    Transition ext db e db' := by
  rcases deposit_cases h with ⟨-, rfl⟩ | ⟨mid, entry, hnone, hfree, hmid, hshape, honly, hcustody⟩
  · exact .same rfl fun _ _ h => h
  · rw [hmid] at hcustody
    refine ⟨?_, ?_, ?_, ?_⟩
    · rw [hcustody]
      exact .toppedUp hnone hfree
    · intro kind quoteId h
      apply h.congr
      all_goals
        rw [← honly, ← hshape]
    · rw [hcustody]
      exact fun k s hs => .inl hs
    · rw [hcustody]
      exact fun k a ha _ => ⟨a, ha⟩

end Deposit

theorem paySh_transition {k : RegistryKind} (hk : k = .payShDocument ∨ k = .payShDirect)
    (h : claimChainTransaction db S k quoteId now = .ok db') : Transition ext db e db' := by
  simp only [claimChainTransaction, bind_eq_ok, asI64_eq_ok] at h
  obtain ⟨now', -, hclaim⟩ := h
  obtain ⟨hfree, hcustody, hshape⟩ := claimTransaction_cases hclaim
  refine ⟨?_, ?_, ?_, ?_⟩
  · rw [hcustody]
    refine .paidElsewhere hfree ?_ ?_
    · intro k' hk'
      have hkind : k = .settlement k'.1 := congrArg Prod.fst hk'
      rcases hk with rfl | rfl
      · cases hkind
      · cases hkind
    · rcases hk with rfl | rfl
      · simp [RegistryEntry.funds]
      · simp [RegistryEntry.funds]
  · intro kind quoteId h
    apply h.congr
    all_goals rw [← hshape]
  · rw [hcustody]
    exact fun k s hs => .inl hs
  · rw [hcustody]
    exact fun k a ha _ => ⟨a, ha⟩

theorem Step.transition (h : Step ext db e db') : Transition ext db e db' := by
  cases h with
  | @accepted _ now ids operation hexec =>
    cases operation with
    | claim r =>
      obtain ⟨⟨_, _⟩, hclaim, rfl⟩ := map_eq_ok.mp hexec
      exact claim_transition hclaim
    | release r =>
      obtain ⟨⟨_, _⟩, hrelease, rfl⟩ := map_eq_ok.mp hexec
      obtain ⟨k, p, hp, rfl⟩ := release_cases hrelease
      exact .dropped hp
    | defer r =>
      obtain ⟨⟨_, _⟩, hdefer, rfl⟩ := map_eq_ok.mp hexec
      obtain ⟨k, p, _, _, hp, rfl⟩ := defer_cases hdefer
      exact .rescheduled hp
    | releaseReconciled r =>
      obtain ⟨⟨_, _⟩, hrelease, rfl⟩ := map_eq_ok.mp hexec
      obtain ⟨k, p, hp, rfl⟩ := releaseReconciled_cases hrelease
      exact .dropped hp
    | record kind r =>
      obtain ⟨⟨_, _⟩, hrecord, rfl⟩ := map_eq_ok.mp hexec
      exact record_transition hrecord
    | deposit policy r =>
      obtain ⟨⟨_, _⟩, hdeposit, rfl⟩ := map_eq_ok.mp hexec
      exact deposit_transition hdeposit
  | rejected => exact .same rfl fun _ _ h => h
  | paidOverPaySh hkind hclaim => exact paySh_transition hkind hclaim
  | elsewhere hcustody hspent => exact .same hcustody hspent

end Obulus.Funds
