import Obulus.Settlement.History

namespace Obulus.Settlement

open Foundation

variable {rt : Runtime} {bank bank' : Bank} {w w' : World} {events : List Event} {ev : Event}

def credited (key : Pubkey) (items : List InvoiceLineItem) : Nat :=
  itemSum (items.filter fun item => item.recipientTokenAccount = key)

def uncredited (key : Pubkey) (items : List InvoiceLineItem) : Nat :=
  itemSum (items.filter fun item => item.recipientTokenAccount ≠ key)

theorem credited_cons (key : Pubkey) (item : InvoiceLineItem) (items : List InvoiceLineItem) :
    credited key (item :: items) =
      (if item.recipientTokenAccount = key then item.amount.toNat else 0) + credited key items := by
  by_cases h : item.recipientTokenAccount = key <;> simp [credited, itemSum, h]

theorem uncredited_cons (key : Pubkey) (item : InvoiceLineItem) (items : List InvoiceLineItem) :
    uncredited key (item :: items) =
      (if item.recipientTokenAccount = key then 0 else item.amount.toNat) +
        uncredited key items := by
  by_cases h : item.recipientTokenAccount = key <;> simp [uncredited, itemSum, h]

theorem credited_add_uncredited (key : Pubkey) (items : List InvoiceLineItem) :
    credited key items + uncredited key items = itemSum items := by
  induction items with
  | nil => rfl
  | cons item items ih =>
    rw [credited_cons, uncredited_cons]
    simp only [itemSum, List.map_cons, List.sum_cons] at ih ⊢
    split_ifs <;> omega

theorem credited_pos {key : Pubkey} {items : List InvoiceLineItem}
    (hpos : ∀ item ∈ items, 0 < item.amount.toNat)
    (h : ∃ item ∈ items, item.recipientTokenAccount = key) : 0 < credited key items := by
  induction items with
  | nil =>
    obtain ⟨item, hmem, -⟩ := h
    simp at hmem
  | cons first items ih =>
    rw [credited_cons]
    by_cases hfirst : first.recipientTokenAccount = key
    · rw [if_pos hfirst]
      exact Nat.add_pos_left (hpos first (by simp)) _
    · obtain ⟨item, hmem, hkey⟩ := h
      rcases List.mem_cons.mp hmem with rfl | hmem
      · exact absurd hkey hfirst
      · have hrest := ih (fun i hi => hpos i (List.mem_cons_of_mem _ hi)) ⟨item, hmem, hkey⟩
        exact Nat.add_pos_right _ hrest

theorem credited_eq_zero {key : Pubkey} {items : List InvoiceLineItem}
    (h : ∀ item ∈ items, item.recipientTokenAccount ≠ key) : credited key items = 0 := by
  have hnil : items.filter (fun item => item.recipientTokenAccount = key) = [] := by
    simpa [List.filter_eq_nil_iff] using h
  simp [credited, hnil, itemSum]

section Payment

variable {mint tokenProgram escrowToken invoice : AccountMeta} {decimals : UInt8}
  {seeds : List (List UInt8)} {pairs : List (InvoiceLineItem × AccountMeta)}

theorem recipient_of_checkRecipient {mintKey program : Pubkey} {item : InvoiceLineItem}
    {recipient : AccountMeta} {u : Unit}
    (h : checkRecipient rt bank mintKey program item recipient = .ok u) :
    recipient.key = item.recipientTokenAccount := by
  simp only [checkRecipient, bind_eq_ok, reject_eq_ok, exists_const, not_not] at h
  exact h.1

theorem payRecipients_escrow (hl : rt.Lawful)
    (h : payRecipients rt mint tokenProgram escrowToken invoice decimals seeds bank pairs =
      .ok bank') :
    rt.balance bank' escrowToken.key + uncredited escrowToken.key (pairs.map Prod.fst) =
      rt.balance bank escrowToken.key := by
  induction pairs generalizing bank with
  | nil =>
    simp only [payRecipients, Except.ok.injEq] at h
    simp [h, uncredited, itemSum]
  | cons p rest ih =>
    obtain ⟨item, recipient⟩ := p
    simp only [payRecipients, bind_eq_ok] at h
    obtain ⟨_, hcheck, mid, hm, h⟩ := h
    have hrec := recipient_of_checkRecipient hcheck
    have hmove := hl.transferChecked hm
    have hrest := ih h
    rw [List.map_cons, uncredited_cons]
    dsimp only
    by_cases hk : item.recipientTokenAccount = escrowToken.key
    · rw [hmove.self (by rw [hrec, hk])] at hrest
      rw [if_pos hk]
      omega
    · have hsrc := hmove.balance_source (by
        rw [hrec]
        exact Ne.symm hk)
      rw [if_neg hk]
      omega

theorem payRecipients_recipient (hl : rt.Lawful) {k : Pubkey} (hk : k ≠ escrowToken.key)
    (h : payRecipients rt mint tokenProgram escrowToken invoice decimals seeds bank pairs =
      .ok bank') :
    rt.balance bank' k = rt.balance bank k + credited k (pairs.map Prod.fst) := by
  induction pairs generalizing bank with
  | nil =>
    simp only [payRecipients, Except.ok.injEq] at h
    simp [h, credited, itemSum]
  | cons p rest ih =>
    obtain ⟨item, recipient⟩ := p
    simp only [payRecipients, bind_eq_ok] at h
    obtain ⟨_, hcheck, mid, hm, h⟩ := h
    have hrec := recipient_of_checkRecipient hcheck
    have hmove := hl.transferChecked hm
    have hrest := ih h
    rw [List.map_cons, credited_cons, hrest]
    dsimp only
    by_cases hr : item.recipientTokenAccount = k
    · have hdst := hmove.balance_destination (by
        rw [hrec, hr]
        exact Ne.symm hk)
      rw [hrec, hr] at hdst
      rw [if_pos hr]
      omega
    · have hframe := hmove.balance_frame hk (by
        rw [hrec]
        exact Ne.symm hr)
      rw [if_neg hr]
      omega

end Payment

theorem balance_saved {account : AccountMeta} {s : InvoiceAccount} {k : Pubkey}
    (ho : (bank account.key).owner = rt.programId) (h : saveInvoice bank account s = .ok bank') :
    rt.balance bank' k = rt.balance bank k := by
  simp only [saveInvoice] at h
  split at h
  · obtain rfl := Except.ok.inj h
    by_cases hk : k = account.key
    · subst hk
      simp [Runtime.balance, Runtime.tokenAt, ho, rt.programId_ne_splTokenId]
    · simp [Runtime.balance, Runtime.tokenAt, Function.update_of_ne hk]
  · simp at h

theorem settle_balances (hl : rt.Lawful) (hb : PdaStored rt bank) {now : Int64}
    {accounts : List AccountMeta} (h : settle rt bank now accounts = .ok bank') :
    ∃ key s, accounts[0]?.map AccountMeta.key = some key ∧ Stored rt bank key s ∧
      rt.balance bank' s.escrowTokenAccount + uncredited s.escrowTokenAccount s.lineItems.toList =
        rt.balance bank s.escrowTokenAccount ∧
      ∀ k, k ≠ s.escrowTokenAccount →
        rt.balance bank' k = rt.balance bank k + credited k s.lineItems.toList := by
  unfold settle at h
  split at h
  · next invoice escrowToken mint tokenProgram recipientAccounts =>
    simp only [bind_eq_ok, reject_eq_ok, custom_eq_ok, exists_const, not_or, not_not,
      Bool.not_eq_true] at h
    obtain ⟨-, s, hload, _, hpda, -, deadline, -, -, ⟨hescrow, -⟩, mintState, -,
      escrowState, -, -, hlen, mid, hpay, hsave⟩ := h
    have hs := stored_of_load hb hload hpda
    have hmid : mid invoice.key = bank invoice.key := payRecipients_owned hl hs.owner hpay
    have hfst : (s.lineItems.toList.zip recipientAccounts).map Prod.fst = s.lineItems.toList :=
      List.map_fst_zip (by omega)
    have hsaved (k : Pubkey) : rt.balance bank' k = rt.balance mid k :=
      balance_saved (by rw [hmid, hs.owner]) hsave
    refine ⟨invoice.key, s, rfl, hs, ?_, ?_⟩
    · have hpaid := payRecipients_escrow hl hpay
      rw [hfst, hescrow] at hpaid
      rw [hsaved, hpaid]
    · intro k hk
      have hpaid := payRecipients_recipient hl (by rwa [hescrow]) hpay
      rw [hfst] at hpaid
      rw [hsaved, hpaid]
  · simp at h

structure Terms (s : InvoiceAccount) (y : Submission) (args : CreateInvoiceArgs) : Prop where
  items : s.lineItems = args.lineItems
  total : s.totalAmount = args.totalAmount
  escrow : y.accounts[3]?.map AccountMeta.key = some s.escrowTokenAccount
  valid : ArgsValid args

def KeepsTerms (rt : Runtime) (key : Pubkey) (d : List Deed) (bank : Bank) : Prop :=
  ∀ s, Stored rt bank key s → ∀ y args, (y, .createAndFund args) ∈ d → Terms s y args

theorem terms_created {x : Submission} {args : CreateInvoiceArgs} {key : Pubkey}
    {s : InvoiceAccount} (h : Changes rt x.now x.accounts key (.createAndFund args) none s) :
    Terms s x args := by
  cases h with
  | created _ hescrow hargs _ => exact ⟨rfl, rfl, hescrow, argsValid_of_validateArgs hargs⟩

theorem terms_changes {x y : Submission} {i : SettlementInstruction} {args : CreateInvoiceArgs}
    {key : Pubkey} {s s' : InvoiceAccount} (ht : Terms s y args)
    (h : Changes rt x.now x.accounts key i (some s) s') : Terms s' y args := by
  cases h <;> exact ⟨ht.items, ht.total, ht.escrow, ht.valid⟩

theorem not_created {x : Submission} {i : SettlementInstruction} {key : Pubkey}
    {s s' : InvoiceAccount} (h : Changes rt x.now x.accounts key i (some s) s')
    (args : CreateInvoiceArgs) : i ≠ .createAndFund args := by
  cases h <;> simp

theorem keepsTerms_touched {key : Pubkey} (hlife : Lifecycle rt key (deeds key events) w.bank)
    (hkeep : KeepsTerms rt key (deeds key events) w.bank) (h : Touched rt w key ev w') :
    KeepsTerms rt key (deeds key (events ++ [ev])) w'.bank := by
  intro s' hs' y args hy
  rw [deeds_snoc] at hy
  cases h with
  | @deed x i old s _ hdeed hold hc hs =>
    rw [hdeed] at hy
    obtain rfl := hs'.unique hs
    cases old with
    | none =>
      rcases hlife with ⟨-, hnil⟩ | ⟨s0, hs0, -⟩
      · obtain ⟨rfl, rfl⟩ : y = x ∧ .createAndFund args = i := by simpa [hnil] using hy
        exact terms_created hc
      · exact absurd hs0.owner hold
    | some s0 =>
      rcases List.mem_append.mp hy with hy | hy
      · exact terms_changes (hkeep s0 hold y args hy) hc
      · simp only [Option.toList_some, List.mem_singleton, Prod.mk.injEq] at hy
        exact absurd hy.2.symm (not_created hc args)
  | kept hnone hstored howner =>
    rw [hnone, Option.toList_none, List.append_nil] at hy
    rcases hlife with ⟨-, hnil⟩ | ⟨s0, hs0, -⟩
    · simp [hnil] at hy
    · obtain rfl := (hstored s0 hs0).unique hs'
      exact hkeep s0 hs0 y args hy

theorem run_keepsTerms (hl : rt.Lawful) (hfresh : Fresh rt w.bank) {key : Pubkey}
    (hkey : ∃ payer invoiceHash, key = (deriveAddress rt payer invoiceHash).1)
    (h : Run rt w events w') : KeepsTerms rt key (deeds key events) w'.bank := by
  refine Trace.history (P := fun events w => KeepsTerms rt key (deeds key events) w.bank) ?_ ?_ h
  · intro s _ y args hy
    simp [deeds] at hy
  · intro events t ev u ht hkeep hs
    exact keepsTerms_touched (run_lifecycle hl hfresh hkey ht) hkeep
      (step_touched hl (run_pdaStored hl hfresh ht) hkey hs)

structure SettledInFull (rt : Runtime) (bank bank' : Bank) (escrow : Pubkey)
    (args : CreateInvoiceArgs) : Prop where
  released : rt.balance bank' escrow + args.totalAmount.toNat = rt.balance bank escrow
  paid : ∀ item ∈ args.lineItems.toList, rt.balance bank' item.recipientTokenAccount =
    rt.balance bank item.recipientTokenAccount +
      credited item.recipientTokenAccount args.lineItems.toList

theorem settledInFull_iff {escrow : Pubkey} {args : CreateInvoiceArgs} (hargs : ArgsValid args)
    (hescrow : rt.balance bank' escrow + uncredited escrow args.lineItems.toList =
      rt.balance bank escrow)
    (hothers : ∀ k, k ≠ escrow →
      rt.balance bank' k = rt.balance bank k + credited k args.lineItems.toList) :
    SettledInFull rt bank bank' escrow args ↔
      ∀ item ∈ args.lineItems.toList, item.recipientTokenAccount ≠ escrow := by
  have hsum := credited_add_uncredited escrow args.lineItems.toList
  rw [hargs.balanced] at hsum
  constructor
  · intro hfull item hitem hkey
    have hpos := credited_pos hargs.positive ⟨item, hitem, hkey⟩
    have hrel := hfull.released
    omega
  · intro hne
    rw [credited_eq_zero hne] at hsum
    exact ⟨by omega, fun item hitem => hothers _ (hne item hitem)⟩

end Obulus.Settlement
