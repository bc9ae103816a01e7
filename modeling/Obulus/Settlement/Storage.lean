import Obulus.Settlement.SplRuntime

namespace Obulus.Settlement

open Foundation

variable {rt : Runtime} {bank bank' : Bank} {w w' : World} {events : List Event} {ev : Event}

section Room

variable {α : Type} {now : Int64} {accounts : List AccountMeta} {account : AccountMeta}

-- a program that this one called returned the error
def Reported (rt : Runtime) (e : ProgramError) : Prop :=
  ∃ bank metas seeds invocation, rt.invoke bank metas seeds invocation = .error e

def OutOfSpaceReported (rt : Runtime) (e : ProgramError) : Prop :=
  e = .custom .accountTooSmall → Reported rt e

theorem other_error {error : SettlementError} (h : error ≠ .accountTooSmall) :
    OutOfSpaceReported rt (.custom error) := by
  intro he
  exact absurd (ProgramError.custom.inj he) h

theorem raises_invoke {metas : List AccountMeta} {seeds : List (List UInt8)} {invocation : Invocation} :
    Raises (OutOfSpaceReported rt) (rt.invoke bank metas seeds invocation) :=
  fun _ h _ => ⟨bank, metas, seeds, invocation, h⟩

theorem raises_custom {x : Except SettlementError α} (hx : Raises (· ≠ .accountTooSmall) x) :
    Raises (OutOfSpaceReported rt) (custom x) := by
  cases x with
  | ok a => exact raises_ok
  | error e => exact raises_error.mpr (other_error (hx e rfl))

theorem raises_check {p : Prop} [Decidable p] {error : SettlementError}
    (h : error ≠ .accountTooSmall) : Raises (OutOfSpaceReported rt) (reject p (.custom error)) :=
  raises_reject fun _ => other_error h

theorem raises_tally {t : LineTotals} {items : List InvoiceLineItem} :
    Raises (· ≠ .accountTooSmall) (tally t items) := by
  induction items generalizing t with
  | nil => exact raises_ok
  | cons item items ih =>
    refine .bind ?_ fun t' _ => ih
    refine .bind (raises_reject fun _ => by decide) fun _ _ => ?_
    refine .bind (raises_reject fun _ => by decide) fun _ _ => ?_
    refine .bind (raises_orReject fun _ => by decide) fun total _ => ?_
    dsimp only
    split
    · refine .bind (raises_orReject fun _ => by decide) fun _ _ => raises_ok
    · exact raises_ok

theorem raises_validateArgs {args : CreateInvoiceArgs} :
    Raises (· ≠ .accountTooSmall) (validateArgs args now) := by
  refine .bind (raises_reject fun _ => by decide) fun _ _ => ?_
  refine .bind (raises_reject fun _ => by decide) fun _ _ => ?_
  refine .bind (raises_reject fun _ => by decide) fun _ _ => ?_
  refine .bind (raises_reject fun _ => by decide) fun _ _ => ?_
  refine .bind (raises_reject fun _ => by decide) fun _ _ => ?_
  refine .bind (raises_reject fun _ => by decide) fun _ _ => ?_
  refine .bind raises_tally fun t _ => ?_
  refine .bind (raises_reject fun _ => by decide) fun _ _ => ?_
  exact raises_reject fun _ => by decide

theorem raises_disputeDeadline {deliveredAt : Int64} {seconds : UInt32} :
    Raises (· ≠ .accountTooSmall) (disputeDeadline deliveredAt seconds) :=
  raises_orReject fun _ => by decide

theorem raises_requireSigner : Raises (OutOfSpaceReported rt) (requireSigner account) :=
  raises_check (by decide)

theorem raises_loadInvoice : Raises (OutOfSpaceReported rt) (loadInvoice rt bank account) := by
  refine .bind (raises_check (by decide)) fun _ _ => ?_
  refine .bind (raises_orReject fun _ => other_error (by decide)) fun s _ => ?_
  exact .bind (raises_check (by decide)) fun _ _ => raises_ok

theorem raises_requireInvoicePda {s : InvoiceAccount} :
    Raises (OutOfSpaceReported rt) (requireInvoicePda rt account s) :=
  raises_check (by decide)

theorem raises_unpackToken {program : Pubkey} :
    Raises (OutOfSpaceReported rt) (unpackToken rt bank account program) :=
  .bind (raises_check (by decide)) fun _ _ => raises_orReject fun _ => other_error (by decide)

theorem raises_unpackMint {program : Pubkey} :
    Raises (OutOfSpaceReported rt) (unpackMint rt bank account program) :=
  .bind (raises_check (by decide)) fun _ _ => raises_orReject fun _ => other_error (by decide)

theorem raises_checkRecipient {mint program : Pubkey} {item : InvoiceLineItem} :
    Raises (OutOfSpaceReported rt) (checkRecipient rt bank mint program item account) := by
  refine .bind (raises_check (by decide)) fun _ _ => ?_
  exact .bind raises_unpackToken fun _ _ => raises_check (by decide)

theorem raises_checkRecipients {mint program : Pubkey} {pairs : List (InvoiceLineItem × AccountMeta)} :
    Raises (OutOfSpaceReported rt) (checkRecipients rt bank mint program pairs) := by
  induction pairs with
  | nil => exact raises_ok
  | cons p pairs ih => exact .bind raises_checkRecipient fun _ _ => ih

section Recipients

variable {mint tokenProgram escrowToken refundToken invoice : AccountMeta} {decimals : UInt8}
  {seeds : List (List UInt8)}

theorem raises_payRecipients {pairs : List (InvoiceLineItem × AccountMeta)} :
    Raises (OutOfSpaceReported rt)
      (payRecipients rt mint tokenProgram escrowToken invoice decimals seeds bank pairs) := by
  induction pairs generalizing bank with
  | nil => exact raises_ok
  | cons p pairs ih =>
    exact .bind raises_checkRecipient fun _ _ => .bind raises_invoke fun _ _ => ih

theorem raises_returnEscrow {amount : UInt64} :
    Raises (OutOfSpaceReported rt)
      (returnEscrow rt bank mint tokenProgram escrowToken refundToken invoice seeds amount decimals) := by
  unfold returnEscrow
  split
  · exact raises_invoke
  · exact raises_ok

end Recipients

-- what is saved over a stored invoice has its line items, and so its size
theorem raises_saveInvoice {s s' : InvoiceAccount} (hdata : (bank account.key).data.length =
      (InvoiceAccount.codec.encode s).length) (hitems : s'.lineItems = s.lineItems) :
    Raises (OutOfSpaceReported rt) (saveInvoice bank account s') := by
  have hfits : (InvoiceAccount.codec.encode s').length ≤ (bank account.key).data.length := by
    rw [hdata, encode_length, encode_length, hitems]
  simp only [saveInvoice, if_pos hfits]
  exact raises_ok

section Instructions

variable (hl : rt.Lawful) (hb : PdaStored rt bank)

include hb

theorem raises_acknowledgeDelivery {deliveryRoot : Bytes32} :
    Raises (OutOfSpaceReported rt) (acknowledgeDelivery rt bank now accounts deliveryRoot) := by
  unfold acknowledgeDelivery
  split
  · refine .bind raises_requireSigner fun _ _ => ?_
    refine .bind (raises_check (by decide)) fun _ _ => ?_
    refine .bind raises_loadInvoice fun s hload => ?_
    refine .bind raises_requireInvoicePda fun _ hpda => ?_
    refine .bind (raises_check (by decide)) fun _ _ => ?_
    refine .bind (raises_check (by decide)) fun _ _ => ?_
    refine .bind (raises_check (by decide)) fun _ _ => ?_
    have hstored := stored_of_load hb hload hpda
    exact raises_saveInvoice (congrArg List.length hstored.data) rfl
  · exact raises_error.mpr (by rintro ⟨⟩)

theorem raises_dispute : Raises (OutOfSpaceReported rt) (dispute rt bank now accounts) := by
  unfold dispute
  split
  · refine .bind raises_requireSigner fun _ _ => ?_
    refine .bind raises_loadInvoice fun s hload => ?_
    refine .bind raises_requireInvoicePda fun _ hpda => ?_
    refine .bind (raises_check (by decide)) fun _ _ => ?_
    refine .bind (raises_check (by decide)) fun _ _ => ?_
    refine .bind (raises_custom raises_disputeDeadline) fun deadline _ => ?_
    refine .bind (raises_check (by decide)) fun _ _ => ?_
    have hstored := stored_of_load hb hload hpda
    exact raises_saveInvoice (congrArg List.length hstored.data) rfl
  · exact raises_error.mpr (by rintro ⟨⟩)

theorem raises_resolveDispute {approve : Bool} :
    Raises (OutOfSpaceReported rt) (resolveDispute rt bank accounts approve) := by
  unfold resolveDispute
  split
  · refine .bind raises_requireSigner fun _ _ => ?_
    refine .bind raises_loadInvoice fun s hload => ?_
    refine .bind raises_requireInvoicePda fun _ hpda => ?_
    refine .bind (raises_check (by decide)) fun _ _ => ?_
    refine .bind (raises_check (by decide)) fun _ _ => ?_
    have hstored := stored_of_load hb hload hpda
    exact raises_saveInvoice (congrArg List.length hstored.data) rfl
  · exact raises_error.mpr (by rintro ⟨⟩)

include hl

theorem raises_settle : Raises (OutOfSpaceReported rt) (settle rt bank now accounts) := by
  unfold settle
  split
  · refine .bind (raises_check (by decide)) fun _ _ => ?_
    refine .bind raises_loadInvoice fun s hload => ?_
    refine .bind raises_requireInvoicePda fun _ hpda => ?_
    refine .bind (raises_check (by decide)) fun _ _ => ?_
    refine .bind (raises_custom raises_disputeDeadline) fun deadline _ => ?_
    refine .bind (raises_check (by decide)) fun _ _ => ?_
    refine .bind (raises_check (by decide)) fun _ _ => ?_
    refine .bind raises_unpackMint fun mintState _ => ?_
    refine .bind raises_unpackToken fun escrowState _ => ?_
    refine .bind (raises_check (by decide)) fun _ _ => ?_
    refine .bind (raises_check (by decide)) fun _ _ => ?_
    refine .bind raises_payRecipients fun mid hpay => ?_
    have hstored := stored_of_load hb hload hpda
    have hkept := payRecipients_owned hl hstored.owner hpay
    exact raises_saveInvoice (s := s) (by rw [hkept, hstored.data]) rfl
  · exact raises_error.mpr (by rintro ⟨⟩)

theorem raises_refund : Raises (OutOfSpaceReported rt) (refund rt bank now accounts) := by
  unfold refund
  split
  · refine .bind (raises_check (by decide)) fun _ _ => ?_
    refine .bind raises_loadInvoice fun s hload => ?_
    refine .bind raises_requireInvoicePda fun _ hpda => ?_
    refine .bind (raises_check (by decide)) fun _ _ => ?_
    refine .bind (raises_check (by decide)) fun _ _ => ?_
    refine .bind (raises_check (by decide)) fun _ _ => ?_
    refine .bind raises_unpackMint fun mintState _ => ?_
    refine .bind raises_unpackToken fun escrowState _ => ?_
    refine .bind raises_unpackToken fun refundState _ => ?_
    refine .bind (raises_check (by decide)) fun _ _ => ?_
    refine .bind raises_returnEscrow fun mid hreturn => ?_
    have hstored := stored_of_load hb hload hpda
    obtain ⟨-, hkept⟩ := returnEscrow_effect hl hstored.owner hreturn
    exact raises_saveInvoice (s := s) (by rw [hkept, hstored.data]) rfl
  · exact raises_error.mpr (by rintro ⟨⟩)

omit hb in
theorem raises_createAndFund {args : CreateInvoiceArgs} :
    Raises (OutOfSpaceReported rt) (createAndFund rt bank now accounts args) := by
  unfold createAndFund
  split
  · next payer invoice payerToken escrowToken refundToken mint tokenProgram systemProgram
      recipientAccounts =>
    refine .bind raises_requireSigner fun _ _ => ?_
    refine .bind (raises_check (by decide)) fun _ _ => ?_
    refine .bind (raises_custom raises_validateArgs) fun _ _ => ?_
    refine .bind (raises_check (by decide)) fun _ _ => ?_
    refine .bind raises_unpackMint fun mintState _ => ?_
    refine .bind raises_unpackToken fun payerState _ => ?_
    refine .bind raises_unpackToken fun escrowState _ => ?_
    refine .bind raises_unpackToken fun refundState _ => ?_
    refine .bind (raises_check (by decide)) fun _ _ => ?_
    refine .bind (raises_check (by decide)) fun _ _ => ?_
    refine .bind raises_checkRecipients fun _ _ => ?_
    refine .bind ?_ fun rented _ => ?_
    · unfold payRent
      split
      · exact raises_invoke
      · exact raises_ok
    · refine .bind raises_invoke fun allocated hallocated => ?_
      refine .bind raises_invoke fun assigned hassigned => ?_
      refine .bind raises_invoke fun funded hfunded => ?_
      have howner : (assigned invoice.key).owner = rt.programId := by
        rw [hl.systemAssign hassigned]
        simp
      have hkept : funded invoice.key = assigned invoice.key :=
        (hl.transferChecked hfunded).eq_of_owner_ne (by
          rw [howner]
          exact rt.programId_ne_splTokenId)
      refine raises_saveInvoice ?_ rfl
      rw [hkept, hl.systemAssign hassigned, hl.systemAllocate hallocated]
      simp
  · exact raises_error.mpr (by rintro ⟨⟩)

theorem raises_process {data : List UInt8} :
    Raises (OutOfSpaceReported rt) (process rt bank now accounts data) := by
  refine .bind (raises_orReject fun _ => other_error (by decide)) fun i _ => ?_
  cases i with
  | createAndFund args => exact raises_createAndFund hl
  | acknowledgeDelivery deliveryRoot => exact raises_acknowledgeDelivery hb
  | settle => exact raises_settle hl hb
  | dispute => exact raises_dispute hb
  | resolveDispute approve => exact raises_resolveDispute hb
  | refund => exact raises_refund hl hb

end Instructions

end Room

section Contents

variable {s s' : InvoiceAccount} {key : Pubkey}

def Rewrites (s s' : InvoiceAccount) : Prop :=
  s' = { s with
    status := s'.status
    deliveryRoot := s'.deliveryRoot
    deliveredAt := s'.deliveredAt
    settledAt := s'.settledAt }

theorem Rewrites.trans {t : InvoiceAccount} (h : Rewrites s s') (h' : Rewrites s' t) : Rewrites s t := by
  unfold Rewrites at h h' ⊢
  rw [h'.trans (by rw [h])]

theorem Changes.rewrites {now : Int64} {accounts : List AccountMeta} {i : SettlementInstruction}
    (h : Changes rt now accounts key i (some s) s') : Rewrites s s' := by
  cases h <;> rfl

theorem Rewrites.size (h : Rewrites s s') :
    (InvoiceAccount.codec.encode s').length = (InvoiceAccount.codec.encode s).length := by
  rw [encode_length, encode_length, h]

def KeepsInvoice (rt : Runtime) (key : Pubkey) (w w' : World) : Prop :=
  ∀ s, Stored rt w.bank key s → ∃ s', Stored rt w'.bank key s' ∧ Rewrites s s'

theorem Touched.keepsInvoice (h : Touched rt w key ev w') : KeepsInvoice rt key w w' := by
  intro s hs
  cases h with
  | @deed x i old s' _ hdeed hold hchanges hstored =>
    cases old with
    | none => exact absurd hs.owner hold
    | some s0 =>
      obtain rfl := hold.unique hs
      exact ⟨s', hstored, hchanges.rewrites⟩
  | kept _ hkept _ => exact ⟨s, hkept s hs, rfl⟩

theorem run_keepsInvoice (hl : rt.Lawful) (hb : PdaStored rt w.bank)
    (hkey : ∃ payer invoiceHash, key = (deriveAddress rt payer invoiceHash).1)
    (h : Run rt w events w') : PdaStored rt w'.bank ∧ KeepsInvoice rt key w w' := by
  refine h.relates_of (P := fun w => PdaStored rt w.bank) (R := KeepsInvoice rt key) ?_ ?_ hb ?_
  · intro w s hs
    exact ⟨s, hs, rfl⟩
  · intro t u v htu huv s hs
    obtain ⟨s1, hs1, h1⟩ := htu s hs
    obtain ⟨s2, hs2, h2⟩ := huv s1 hs1
    exact ⟨s2, hs2, h1.trans h2⟩
  · intro t ev u ht hstep
    exact ⟨step_pdaStored hl ht hstep, (step_touched hl ht hkey hstep).keepsInvoice⟩

structure Readable (rt : Runtime) (key : Pubkey) (s0 : InvoiceAccount) (bank : Bank) : Prop where
  loads : ∃ s, (∀ account, account.key = key → loadInvoice rt bank account = .ok s) ∧ Rewrites s0 s
  size : (bank key).data.length = (InvoiceAccount.codec.encode s0).length
  saves : ∀ account s, account.key = key → Rewrites s0 s → ∃ bank', saveInvoice bank account s = .ok bank'
  spacious : ∀ now accounts data,
    process rt bank now accounts data = .error (.custom .accountTooSmall) →
      Reported rt (.custom .accountTooSmall)

theorem readable_of_stored (hl : rt.Lawful) (hb : PdaStored rt bank) (hs : Stored rt bank key s')
    (h : Rewrites s s') : Readable rt key s bank := by
  have hsize : (bank key).data.length = (InvoiceAccount.codec.encode s).length := by
    rw [hs.data, h.size]
  refine ⟨⟨s', ?_, h⟩, hsize, ?_, ?_⟩
  · rintro account rfl
    exact loadInvoice_stored hs
  · rintro account t rfl ht
    have hfits : (InvoiceAccount.codec.encode t).length ≤ (bank account.key).data.length := by
      rw [hsize, ht.size]
    exact ⟨_, if_pos hfits⟩
  · intro now accounts data herror
    exact raises_process hl hb _ herror rfl

theorem invoice_stays_readable (hl : rt.Lawful) {w0 w1 w2 : World} {earlier later : List Event}
    {x : Submission} {args : CreateInvoiceArgs} (hfresh : Fresh rt w.bank) (h0 : Run rt w earlier w0)
    (hcreate : Step rt w0 (.succeeded x) w1)
    (hdeed : Event.deed key (.succeeded x) = some (x, .createAndFund args)) (h : Run rt w1 later w2) :
    ∃ s0, Changes rt x.now x.accounts key (.createAndFund args) none s0 ∧
      Stored rt w1.bank key s0 ∧ Readable rt key s0 w2.bank := by
  have hb0 := run_pdaStored hl hfresh h0
  have hb1 := step_pdaStored hl hb0 hcreate
  cases hcreate with
  | @succeeded _ bank' _ hprocess =>
    simp only [process, bind_eq_ok, orReject_eq_ok] at hprocess
    obtain ⟨i, hi, hexec⟩ := hprocess
    simp only [Event.deed, Submission.instruction, hi, Option.bind_some, Option.ite_none_right_eq_some,
      Option.some.injEq, Prod.mk.injEq, true_and] at hdeed
    obtain ⟨htarget, rfl⟩ := hdeed
    obtain ⟨k, s0, hk, -, hchanges, hsaved⟩ := createAndFund_effect hl hexec
    obtain rfl : k = key := Option.some.inj (hk.symm.trans htarget)
    have hpda := hsaved.stored.pda
    obtain ⟨hb2, hkeeps⟩ := run_keepsInvoice hl hb1 ⟨_, _, hpda⟩ h
    obtain ⟨s, hs, hrewrites⟩ := hkeeps s0 hsaved.stored
    exact ⟨s0, hchanges, hsaved.stored, readable_of_stored hl hb2 hs hrewrites⟩

open SplRuntime in
theorem invoice_stays_readable_sample :
    ∃ w2, Sample.settled Sample.ownerToken = some w2 ∧
      ∃ s0, Readable Sample.rt Sample.invoice s0 w2.bank ∧ s0.createdAt = 100 := by
  obtain ⟨w2, h2⟩ := Sample.settled_ownerToken
  obtain ⟨w', -, hrun, hstep⟩ := Sample.run_settled h2
  obtain ⟨w1, hcreate, hrest⟩ := Trace.cons_iff.mp hrun
  have hdeed : Event.deed Sample.invoice (.succeeded (Sample.create Sample.ownerToken)) =
      some (Sample.create Sample.ownerToken, .createAndFund (Sample.args Sample.ownerToken)) := by
    decide +kernel
  obtain ⟨s0, hchanges, -, hreadable⟩ := invoice_stays_readable Sample.lawful Sample.fresh .nil hcreate
    hdeed (.snoc hrest hstep)
  refine ⟨w2, h2, s0, hreadable, ?_⟩
  cases hchanges with
  | created => rfl

end Contents

end Obulus.Settlement
