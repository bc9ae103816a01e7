import Obulus.Settlement.Processor

namespace Obulus.Settlement

open Foundation

variable {rt : Runtime} {bank bank' : Bank} {now : Int64} {accounts : List AccountMeta}

structure Stored (rt : Runtime) (bank : Bank) (key : Pubkey) (s : InvoiceAccount) : Prop where
  owner : (bank key).owner = rt.programId
  data : (bank key).data = InvoiceAccount.codec.encode s
  magic : s.magic = invoiceMagic
  version : s.version = invoiceVersion
  pda : key = (deriveAddress rt s.payer s.invoiceHash).1
  bump : s.bump = (deriveAddress rt s.payer s.invoiceHash).2

theorem loadInvoice_stored {account : AccountMeta} {s : InvoiceAccount}
    (h : Stored rt bank account.key s) : loadInvoice rt bank account = .ok s := by
  simp [loadInvoice, reject, orReject, h.owner, h.data, Codec.tryFromSlice_encode, h.magic,
    h.version, bind, Except.bind, pure, Except.pure]

theorem Stored.unique {key : Pubkey} {s s' : InvoiceAccount} (h : Stored rt bank key s)
    (h' : Stored rt bank key s') : s = s' :=
  Codec.encode_injective _ (h.data.symm.trans h'.data)

theorem Stored.congr {key : Pubkey} {s : InvoiceAccount} (h : Stored rt bank key s)
    (ho : (bank' key).owner = (bank key).owner) (hd : (bank' key).data = (bank key).data) :
    Stored rt bank' key s :=
  ⟨ho.trans h.owner, hd.trans h.data, h.magic, h.version, h.pda, h.bump⟩

theorem loadInvoice_owner {account : AccountMeta} {s : InvoiceAccount}
    (h : loadInvoice rt bank account = .ok s) : (bank account.key).owner = rt.programId := by
  simp only [loadInvoice, bind_eq_ok, reject_eq_ok, exists_const, not_not] at h
  exact h.1

theorem encode_length (s : InvoiceAccount) :
    (InvoiceAccount.codec.encode s).length =
      383 + (InvoiceLineItem.codec.vec.encode s.lineItems).length := by
  simp only [InvoiceAccount.codec, Codec.imap, Codec.pair, Codec.refine, InvoiceStatus.codec,
    bytes32, Codec.byteArray, Codec.u8, Codec.u32, Codec.u64, Codec.i64, Codec.fixed,
    List.length_append, littleEndian_length, Vector.length_toList, List.length_singleton]
  omega

structure OthersKept (rt : Runtime) (bank bank' : Bank) (key : Pubkey) : Prop where
  owned : ∀ k, k ≠ key → (bank k).owner = rt.programId →
    (bank' k).owner = rt.programId ∧ (bank' k).data = (bank k).data
  unowned : ∀ k, k ≠ key → (bank k).owner ≠ rt.programId → (bank' k).owner ≠ rt.programId

theorem OthersKept.refl (bank : Bank) (key : Pubkey) : OthersKept rt bank bank key :=
  ⟨fun _ _ h => ⟨h, rfl⟩, fun _ _ h => h⟩

theorem OthersKept.trans {mid : Bank} {key : Pubkey} (h : OthersKept rt bank mid key)
    (h' : OthersKept rt mid bank' key) : OthersKept rt bank bank' key := by
  refine ⟨?_, ?_⟩
  · intro k hk ho
    obtain ⟨ho1, hd1⟩ := h.owned k hk ho
    obtain ⟨ho2, hd2⟩ := h'.owned k hk ho1
    exact ⟨ho2, hd2.trans hd1⟩
  · intro k hk ho
    exact h'.unowned k hk (h.unowned k hk ho)

theorem OthersKept.update (bank : Bank) (key : Pubkey) (a : Account) :
    OthersKept rt bank (Function.update bank key a) key := by
  refine ⟨?_, ?_⟩
  · intro k hk ho
    rw [Function.update_of_ne hk]
    exact ⟨ho, rfl⟩
  · intro k hk ho
    rw [Function.update_of_ne hk]
    exact ho

theorem OthersKept.of_owner_data {key : Pubkey}
    (h : ∀ k, (bank' k).owner = (bank k).owner ∧ (bank' k).data = (bank k).data) :
    OthersKept rt bank bank' key := by
  refine ⟨?_, ?_⟩
  · intro k _ ho
    exact ⟨(h k).1.trans ho, (h k).2⟩
  · intro k _ ho
    rw [(h k).1]
    exact ho

theorem MovesTokens.othersKept {source destination key : Pubkey} {amount : UInt64}
    (h : rt.MovesTokens bank source destination amount bank') : OthersKept rt bank bank' key := by
  refine ⟨?_, ?_⟩
  · intro k _ ho
    have hk : bank' k = bank k := h.eq_of_owner_ne (by
      rw [ho]
      exact rt.programId_ne_splTokenId)
    rw [hk]
    exact ⟨ho, rfl⟩
  · intro k _ ho
    by_cases hsd : source = destination
    · rw [h.self hsd]
      exact ho
    · obtain ⟨s, d, s', d', -, -, hs, hd, -⟩ := h.moved hsd
      by_cases hks : k = source
      · rw [hks, Runtime.owner_of_tokenAt hs]
        exact rt.programId_ne_splTokenId.symm
      · by_cases hkd : k = destination
        · rw [hkd, Runtime.owner_of_tokenAt hd]
          exact rt.programId_ne_splTokenId.symm
        · rw [h.frame k hks hkd]
          exact ho

theorem saveInvoice_fits {account : AccountMeta} {s : InvoiceAccount}
    (hlen : (bank account.key).data.length = (InvoiceAccount.codec.encode s).length)
    (h : saveInvoice bank account s = .ok bank') :
    bank' = Function.update bank account.key
      { bank account.key with data := InvoiceAccount.codec.encode s } := by
  simp only [saveInvoice, hlen, le_refl, if_true, Except.ok.injEq] at h
  rw [← h, List.drop_of_length_le (by omega), List.append_nil]

structure Saved (rt : Runtime) (bank bank' : Bank) (key : Pubkey) (s : InvoiceAccount) : Prop where
  stored : Stored rt bank' key s
  others : OthersKept rt bank bank' key

theorem saved_of_saveInvoice {mid : Bank} {account : AccountMeta} {s s' : InvoiceAccount}
    (hkept : OthersKept rt bank mid account.key) (hmid : Stored rt mid account.key s)
    (h : saveInvoice mid account s' = .ok bank') (hitems : s'.lineItems = s.lineItems) (hmagic : s'.magic = s.magic)
    (hversion : s'.version = s.version) (hpayer : s'.payer = s.payer)
    (hhash : s'.invoiceHash = s.invoiceHash) (hbump : s'.bump = s.bump) : Saved rt bank bank' account.key s' := by
  have hlen : (mid account.key).data.length = (InvoiceAccount.codec.encode s').length := by
    rw [hmid.data, encode_length, encode_length, hitems]
  obtain rfl := saveInvoice_fits hlen h
  refine ⟨⟨?_, ?_, ?_, ?_, ?_, ?_⟩, hkept.trans (OthersKept.update _ _ _)⟩
  · simpa using hmid.owner
  · simp
  · rw [hmagic, hmid.magic]
  · rw [hversion, hmid.version]
  · rw [hpayer, hhash]
    exact hmid.pda
  · rw [hbump, hpayer, hhash]
    exact hmid.bump

theorem payRecipients_othersKept (hl : rt.Lawful)
    {mint tokenProgram escrowToken invoice : AccountMeta} {decimals : UInt8}
    {seeds : List (List UInt8)} {pairs : List (InvoiceLineItem × AccountMeta)} {key : Pubkey}
    (h : payRecipients rt mint tokenProgram escrowToken invoice decimals seeds bank pairs =
      .ok bank') : OthersKept rt bank bank' key := by
  induction pairs generalizing bank with
  | nil =>
    simp only [payRecipients, Except.ok.injEq] at h
    subst h
    exact OthersKept.refl _ _
  | cons p rest ih =>
    obtain ⟨item, recipient⟩ := p
    simp only [payRecipients, bind_eq_ok] at h
    obtain ⟨-, -, mid, hm, h⟩ := h
    exact (MovesTokens.othersKept (hl.transferChecked hm)).trans (ih h)

theorem payRecipients_owned (hl : rt.Lawful)
    {mint tokenProgram escrowToken invoice : AccountMeta} {decimals : UInt8}
    {seeds : List (List UInt8)} {pairs : List (InvoiceLineItem × AccountMeta)} {key : Pubkey}
    (hk : (bank key).owner = rt.programId)
    (h : payRecipients rt mint tokenProgram escrowToken invoice decimals seeds bank pairs =
      .ok bank') : bank' key = bank key := by
  induction pairs generalizing bank with
  | nil =>
    simp only [payRecipients, Except.ok.injEq] at h
    rw [h]
  | cons p rest ih =>
    obtain ⟨item, recipient⟩ := p
    simp only [payRecipients, bind_eq_ok] at h
    obtain ⟨-, -, mid, hm, h⟩ := h
    have he : mid key = bank key := (hl.transferChecked hm).eq_of_owner_ne (by
      rw [hk]
      exact rt.programId_ne_splTokenId)
    rw [ih (by rw [he, hk]) h, he]

def SettlementInstruction.invoiceKey (i : SettlementInstruction) (accounts : List AccountMeta) :
    Option Pubkey :=
  match i with
  | .settle => accounts[0]?.map AccountMeta.key
  | _ => accounts[1]?.map AccountMeta.key

def leadSigner : List AccountMeta → Option Pubkey
  | [] => none
  | account :: _ => if account.isSigner then some account.key else none

-- One successful instruction, seen from the invoice it names.
inductive Changes (rt : Runtime) (now : Int64) (accounts : List AccountMeta) (key : Pubkey) :
    SettlementInstruction → Option InvoiceAccount → InvoiceAccount → Prop
  | created {args payer mint escrowToken refundToken} :
      leadSigner accounts = some payer → accounts[3]?.map AccountMeta.key = some escrowToken →
      validateArgs args now = .ok () → key = (deriveAddress rt payer args.invoiceHash).1 →
      Changes rt now accounts key (.createAndFund args) none
        (createdInvoice args payer mint escrowToken refundToken
          (deriveAddress rt payer args.invoiceHash).2 now)
  | acknowledged {s deliveryRoot} :
      leadSigner accounts = some s.authorization → isZero deliveryRoot = false →
      now < s.expiresAt → s.status = .funded →
      Changes rt now accounts key (.acknowledgeDelivery deliveryRoot) (some s)
        { s with status := .delivered, deliveryRoot := deliveryRoot, deliveredAt := now }
  | settled {s deadline} :
      s.status = .delivered → isZero s.deliveryRoot = false →
      disputeDeadline s.deliveredAt s.disputeWindowSeconds = .ok deadline → deadline ≤ now →
      Changes rt now accounts key .settle (some s)
        { s with status := .settled, settledAt := now }
  | disputed {s deadline} :
      leadSigner accounts = some s.payer → s.status = .delivered →
      disputeDeadline s.deliveredAt s.disputeWindowSeconds = .ok deadline → now < deadline →
      Changes rt now accounts key .dispute (some s) { s with status := .disputed }
  | resolved {s approve} :
      leadSigner accounts = some s.disputeResolver → s.status = .disputed →
      Changes rt now accounts key (.resolveDispute approve) (some s)
        { s with status := if approve then .refundApproved else .delivered }
  | refunded {s} :
      refundIsAllowed s.status s.expiresAt now = true →
      Changes rt now accounts key .refund (some s) { s with status := .refunded }

def PdaStored (rt : Runtime) (bank : Bank) : Prop :=
  ∀ payer invoiceHash, (bank (deriveAddress rt payer invoiceHash).1).owner = rt.programId →
    ∃ s, Stored rt bank (deriveAddress rt payer invoiceHash).1 s

theorem stored_of_load {account : AccountMeta} {s : InvoiceAccount} (hb : PdaStored rt bank)
    (hload : loadInvoice rt bank account = .ok s)
    (hpda : requireInvoicePda rt account s = .ok ()) : Stored rt bank account.key s := by
  simp only [requireInvoicePda, reject_eq_ok, not_or, not_not] at hpda
  have ho := loadInvoice_owner hload
  rw [hpda.1] at ho
  obtain ⟨s', hs'⟩ := hb _ _ ho
  rw [← hpda.1] at hs'
  rw [loadInvoice_stored hs', Except.ok.injEq] at hload
  rwa [← hload]

def Before (rt : Runtime) (bank : Bank) (key : Pubkey) : Option InvoiceAccount → Prop
  | none => (bank key).owner ≠ rt.programId
  | some s => Stored rt bank key s

theorem createAndFund_effect (hl : rt.Lawful) {args : CreateInvoiceArgs}
    (h : createAndFund rt bank now accounts args = .ok bank') :
    ∃ key s, (SettlementInstruction.createAndFund args).invoiceKey accounts = some key ∧
      Before rt bank key none ∧ Changes rt now accounts key (.createAndFund args) none s ∧
      Saved rt bank bank' key s := by
  unfold createAndFund at h
  split at h
  · next payer invoice payerToken escrowToken refundToken mint tokenProgram systemProgram
      recipientAccounts =>
    simp only [bind_eq_ok, reject_eq_ok, requireSigner, custom_eq_ok, exists_const, not_or,
      not_not, Bool.not_eq_false] at h
    obtain ⟨hsigner, -, _, hargs, ⟨hkey, -, howner⟩, mintState, -, payerState, -,
      escrowState, -, refundState, -, -, -, _, -, mid1, h1, mid2, h2, mid3, h3, mid4, h4, h5⟩ := h
    set derived := deriveAddress rt payer.key args.invoiceHash with hderived
    set s := createdInvoice args payer.key mint.key escrowToken.key refundToken.key derived.2 now
      with hs
    have hk1 : OthersKept rt bank mid1 invoice.key := by
      unfold payRent at h1
      split at h1
      · exact OthersKept.of_owner_data (hl.systemTransfer h1)
      · simp only [Except.ok.injEq] at h1
        rw [← h1]
        exact OthersKept.refl _ _
    have hk2 : OthersKept rt mid1 mid2 invoice.key := by
      rw [hl.systemAllocate h2]
      exact OthersKept.update _ _ _
    have hk3 : OthersKept rt mid2 mid3 invoice.key := by
      rw [hl.systemAssign h3]
      exact OthersKept.update _ _ _
    have ho3 : (mid3 invoice.key).owner = rt.programId := by
      rw [hl.systemAssign h3]
      simp
    have hd3 : (mid3 invoice.key).data.length = (InvoiceAccount.codec.encode s).length := by
      rw [hl.systemAssign h3, hl.systemAllocate h2]
      simp
    have he4 : mid4 invoice.key = mid3 invoice.key :=
      (hl.transferChecked h4).eq_of_owner_ne (by
        rw [ho3]
        exact rt.programId_ne_splTokenId)
    have hk4 : OthersKept rt mid3 mid4 invoice.key :=
      MovesTokens.othersKept (hl.transferChecked h4)
    obtain rfl := saveInvoice_fits (by rw [he4, hd3]) h5
    refine ⟨invoice.key, s, rfl, ?_, ?_, ⟨?_, ?_, rfl, rfl, hkey, rfl⟩, ?_⟩
    · simp only [Before, howner]
      exact rt.programId_ne_systemProgramId.symm
    · exact .created (by simp [leadSigner, hsigner]) rfl hargs hkey
    · simp [he4, ho3]
    · simp
    · exact (((hk1.trans hk2).trans hk3).trans hk4).trans (OthersKept.update _ _ _)
  · simp at h

theorem returnEscrow_effect (hl : rt.Lawful)
    {mint tokenProgram escrowToken refundToken invoice : AccountMeta}
    {seeds : List (List UInt8)} {amount : UInt64} {decimals : UInt8} {key : Pubkey}
    (hk : (bank key).owner = rt.programId)
    (h : returnEscrow rt bank mint tokenProgram escrowToken refundToken invoice seeds amount
      decimals = .ok bank') : OthersKept rt bank bank' key ∧ bank' key = bank key := by
  unfold returnEscrow at h
  split at h
  · have hm := hl.transferChecked h
    exact ⟨MovesTokens.othersKept hm, hm.eq_of_owner_ne (by
      rw [hk]
      exact rt.programId_ne_splTokenId)⟩
  · simp only [Except.ok.injEq] at h
    rw [← h]
    exact ⟨OthersKept.refl _ _, rfl⟩

section Effects

variable (hl : rt.Lawful) (hb : PdaStored rt bank)

include hb

theorem acknowledgeDelivery_effect {deliveryRoot : Bytes32}
    (h : acknowledgeDelivery rt bank now accounts deliveryRoot = .ok bank') :
    ∃ key s s', accounts[1]?.map AccountMeta.key = some key ∧ Stored rt bank key s ∧
      Changes rt now accounts key (.acknowledgeDelivery deliveryRoot) (some s) s' ∧
      Saved rt bank bank' key s' := by
  unfold acknowledgeDelivery at h
  split at h
  · next authorization invoice rest =>
    simp only [bind_eq_ok, reject_eq_ok, requireSigner, exists_const, not_not, Bool.not_eq_false,
      Bool.not_eq_true] at h
    obtain ⟨hsigner, hroot, s, hload, _, hpda, hauth, hnow, hstatus, hsave⟩ := h
    have hs := stored_of_load hb hload hpda
    refine ⟨invoice.key, s, _, rfl, hs, ?_, saved_of_saveInvoice (OthersKept.refl _ _) hs
      hsave rfl rfl rfl rfl rfl rfl⟩
    exact .acknowledged (by rw [leadSigner, if_pos hsigner, hauth]) hroot (Int64.not_le.mp hnow) hstatus
  · simp at h

theorem dispute_effect (h : dispute rt bank now accounts = .ok bank') :
    ∃ key s s', accounts[1]?.map AccountMeta.key = some key ∧ Stored rt bank key s ∧
      Changes rt now accounts key .dispute (some s) s' ∧ Saved rt bank bank' key s' := by
  unfold dispute at h
  split at h
  · next payer invoice rest =>
    simp only [bind_eq_ok, reject_eq_ok, requireSigner, custom_eq_ok, exists_const, not_not,
      Bool.not_eq_false] at h
    obtain ⟨hsigner, s, hload, _, hpda, hpayer, hstatus, deadline, hd, hnow, hsave⟩ := h
    have hs := stored_of_load hb hload hpda
    refine ⟨invoice.key, s, _, rfl, hs, ?_, saved_of_saveInvoice (OthersKept.refl _ _) hs
      hsave rfl rfl rfl rfl rfl rfl⟩
    exact .disputed (by rw [leadSigner, if_pos hsigner, hpayer]) hstatus hd (Int64.not_le.mp hnow)
  · simp at h

theorem resolveDispute_effect {approve : Bool}
    (h : resolveDispute rt bank accounts approve = .ok bank') :
    ∃ key s s', accounts[1]?.map AccountMeta.key = some key ∧ Stored rt bank key s ∧
      Changes rt now accounts key (.resolveDispute approve) (some s) s' ∧
      Saved rt bank bank' key s' := by
  unfold resolveDispute at h
  split at h
  · next resolver invoice rest =>
    simp only [bind_eq_ok, reject_eq_ok, requireSigner, exists_const, not_not,
      Bool.not_eq_false] at h
    obtain ⟨hsigner, s, hload, _, hpda, hresolver, hstatus, hsave⟩ := h
    have hs := stored_of_load hb hload hpda
    refine ⟨invoice.key, s, _, rfl, hs, ?_, saved_of_saveInvoice (OthersKept.refl _ _) hs
      hsave rfl rfl rfl rfl rfl rfl⟩
    exact .resolved (by rw [leadSigner, if_pos hsigner, hresolver]) hstatus
  · simp at h

include hl

theorem settle_effect (h : settle rt bank now accounts = .ok bank') :
    ∃ key s s', accounts[0]?.map AccountMeta.key = some key ∧ Stored rt bank key s ∧
      Changes rt now accounts key .settle (some s) s' ∧ Saved rt bank bank' key s' := by
  unfold settle at h
  split at h
  · next invoice escrowToken mint tokenProgram recipientAccounts =>
    simp only [bind_eq_ok, reject_eq_ok, custom_eq_ok, exists_const, not_or, not_not,
      Bool.not_eq_true] at h
    obtain ⟨-, s, hload, _, hpda, ⟨hstatus, hroot⟩, deadline, hd, hnow, -, mintState, -,
      escrowState, -, -, -, mid, hpay, hsave⟩ := h
    have hs := stored_of_load hb hload hpda
    have hmid : mid invoice.key = bank invoice.key := payRecipients_owned hl hs.owner hpay
    refine ⟨invoice.key, s, _, rfl, hs, ?_, saved_of_saveInvoice
      (payRecipients_othersKept hl hpay) (hs.congr (by rw [hmid]) (by rw [hmid]))
      hsave rfl rfl rfl rfl rfl rfl⟩
    exact .settled hstatus hroot hd (Int64.not_lt.mp hnow)
  · simp at h

theorem refund_effect (h : refund rt bank now accounts = .ok bank') :
    ∃ key s s', accounts[1]?.map AccountMeta.key = some key ∧ Stored rt bank key s ∧
      Changes rt now accounts key .refund (some s) s' ∧ Saved rt bank bank' key s' := by
  unfold refund at h
  split at h
  · next caller invoice escrowToken refundToken mint tokenProgram rest =>
    simp only [bind_eq_ok, reject_eq_ok, exists_const, not_or, not_not, Bool.not_eq_false] at h
    obtain ⟨-, s, hload, _, hpda, -, hallowed, -, mintState, -, escrowState, -, refundState, -,
      -, mid, hret, hsave⟩ := h
    have hs := stored_of_load hb hload hpda
    obtain ⟨hkept, hmid⟩ := returnEscrow_effect hl hs.owner hret
    refine ⟨invoice.key, s, _, rfl, hs, ?_, saved_of_saveInvoice hkept
      (hs.congr (by rw [hmid]) (by rw [hmid])) hsave rfl rfl rfl rfl rfl rfl⟩
    exact .refunded hallowed
  · simp at h

theorem execute_effect {i : SettlementInstruction}
    (h : execute rt bank now accounts i = .ok bank') :
    ∃ key old s, i.invoiceKey accounts = some key ∧ Before rt bank key old ∧
      Changes rt now accounts key i old s ∧ Saved rt bank bank' key s := by
  cases i with
  | createAndFund args =>
    obtain ⟨key, s, hk, hold, hc, hs⟩ := createAndFund_effect hl h
    exact ⟨key, none, s, hk, hold, hc, hs⟩
  | acknowledgeDelivery deliveryRoot =>
    obtain ⟨key, s, s', hk, hold, hc, hs⟩ := acknowledgeDelivery_effect hb h
    exact ⟨key, some s, s', hk, hold, hc, hs⟩
  | settle =>
    obtain ⟨key, s, s', hk, hold, hc, hs⟩ := settle_effect hl hb h
    exact ⟨key, some s, s', hk, hold, hc, hs⟩
  | dispute =>
    obtain ⟨key, s, s', hk, hold, hc, hs⟩ := dispute_effect hb h
    exact ⟨key, some s, s', hk, hold, hc, hs⟩
  | resolveDispute approve =>
    obtain ⟨key, s, s', hk, hold, hc, hs⟩ := resolveDispute_effect hb h
    exact ⟨key, some s, s', hk, hold, hc, hs⟩
  | refund =>
    obtain ⟨key, s, s', hk, hold, hc, hs⟩ := refund_effect hl hb h
    exact ⟨key, some s, s', hk, hold, hc, hs⟩

end Effects

end Obulus.Settlement
