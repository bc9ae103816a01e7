import Obulus.Settlement.Escrow
import Obulus.Settlement.SplRuntime

namespace Obulus.Settlement

open Foundation SplRuntime

variable {rt : Runtime} {w w' : World} {events : List Event}

-- Settle and Refund happen at most once together; each of the two names what came before it.
theorem invoice_settlement_discipline (hl : rt.Lawful) (hfresh : Fresh rt w.bank) {key : Pubkey}
    (hkey : ∃ payer invoiceHash, key = (deriveAddress rt payer invoiceHash).1)
    (h : Run rt w events w') :
    (payouts (deeds key events)).length ≤ 1 ∧
    ∀ ev u, Step rt w' ev u →
      (∀ x, ev = .failed x → u.bank = w'.bank) ∧
      (∀ x, Event.deed key ev = some (x, .settle) → ∃ s, Stored rt w'.bank key s ∧
        ∃ a ∈ deeds key events, Acknowledges s a ∧
          a.1.now.toInt + s.disputeWindowSeconds.toNat ≤ x.now.toInt) ∧
      (∀ x, Event.deed key ev = some (x, .refund) → ∃ s, Stored rt w'.bank key s ∧
        ((NotAcknowledged (deeds key events) ∧ s.status = .funded ∧ s.expiresAt ≤ x.now) ∨
          RefundApproved s (deeds key events))) := by
  have hlife := run_lifecycle hl hfresh hkey h
  refine ⟨?_, ?_⟩
  · rcases hlife with ⟨-, hnil⟩ | ⟨s, -, hch⟩
    · simp [hnil, payouts]
    · exact payouts_length_le hch
  · intro ev u hs
    have ht := step_touched hl (run_pdaStored hl hfresh h) hkey hs
    refine ⟨?_, ?_, ?_⟩
    · rintro x rfl
      cases hs
      rfl
    · intro x hx
      cases ht with
      | kept hnone _ _ => simp [hnone] at hx
      | @deed x' i old s _ hdeed hold hc hst =>
        rw [hdeed] at hx
        obtain ⟨rfl, rfl⟩ := Prod.mk.inj (Option.some.inj hx)
        cases hc with
        | @settled s deadline hstatus hroot hdl hnow =>
          rcases hlife with ⟨hno, -⟩ | ⟨s1, hs1, hch⟩
          · exact absurd hold.owner hno
          · obtain rfl := hs1.unique hold
            simp only [Chronicle, hstatus] at hch
            obtain ⟨-, a, ha, hack, hat⟩ := hch
            refine ⟨s1, hs1, a, ha, hack, ?_⟩
            rw [hat, ← toInt_of_disputeDeadline hdl]
            exact Int64.le_iff_toInt_le.mp hnow
    · intro x hx
      cases ht with
      | kept hnone _ _ => simp [hnone] at hx
      | @deed x' i old s _ hdeed hold hc hst =>
        rw [hdeed] at hx
        obtain ⟨rfl, rfl⟩ := Prod.mk.inj (Option.some.inj hx)
        cases hc with
        | @refunded s hallowed =>
          rcases hlife with ⟨hno, -⟩ | ⟨s1, hs1, hch⟩
          · exact absurd hold.owner hno
          · obtain rfl := hs1.unique hold
            simp only [refundIsAllowed, Bool.or_eq_true, Bool.and_eq_true,
              decide_eq_true_eq] at hallowed
            rcases hallowed with hst | ⟨hst, hnow⟩
            · simp only [Chronicle, hst] at hch
              exact ⟨s1, hs1, .inr hch.2⟩
            · simp only [Chronicle, hst] at hch
              exact ⟨s1, hs1, .inl ⟨hch.2, hst, hnow⟩⟩

theorem invoice_settlement_discipline_sample :
    ∃ w' u, Run Sample.rt ⟨Sample.bank, 0⟩ (Sample.events Sample.ownerToken) w' ∧
      Step Sample.rt w' (.succeeded (Sample.settle Sample.ownerToken)) u ∧
      ∃ s, Stored Sample.rt w'.bank Sample.invoice s ∧
        ∃ a ∈ deeds Sample.invoice (Sample.events Sample.ownerToken), Acknowledges s a ∧
          a.1.now.toInt + s.disputeWindowSeconds.toNat ≤
            (Sample.settle Sample.ownerToken).now.toInt := by
  obtain ⟨u, hu⟩ := Sample.settled_ownerToken
  obtain ⟨w', -, hrun, hstep⟩ := Sample.run_settled hu
  have h := invoice_settlement_discipline Sample.lawful Sample.fresh Sample.invoice_pda hrun
  exact ⟨w', u, hrun, hstep, (h.2 _ u hstep).2.1 (Sample.settle Sample.ownerToken)
    (by decide)⟩

-- A settlement pays everyone out of escrow exactly when no line item names the escrow account
-- itself: neither funding nor settlement compares the two.
theorem settle_pays_in_full_iff (hl : rt.Lawful) (hfresh : Fresh rt w.bank) {key : Pubkey}
    (hkey : ∃ payer invoiceHash, key = (deriveAddress rt payer invoiceHash).1)
    (h : Run rt w events w') {x y : Submission} {u : World} (hstep : Step rt w' (.succeeded x) u)
    (hx : Event.deed key (.succeeded x) = some (x, .settle)) {args : CreateInvoiceArgs}
    (hy : (y, .createAndFund args) ∈ deeds key events) :
    ∃ escrow, y.accounts[3]?.map AccountMeta.key = some escrow ∧
      (SettledInFull rt w'.bank u.bank escrow args ↔
        ∀ item ∈ args.lineItems.toList, item.recipientTokenAccount ≠ escrow) := by
  have hb := run_pdaStored hl hfresh h
  cases hstep with
  | @succeeded _ bank' hclock hp =>
    simp only [process, bind_eq_ok, orReject_eq_ok] at hp
    obtain ⟨i, hi, hexec⟩ := hp
    simp only [Event.deed, Submission.instruction, hi, Option.bind_some, Option.ite_none_right_eq_some,
      Option.some.injEq, Prod.mk.injEq, true_and] at hx
    obtain ⟨htarget, rfl⟩ := hx
    obtain ⟨k, s, hk, hs, hescrow, hothers⟩ := settle_balances hl hb hexec
    obtain rfl : k = key := Option.some.inj (hk.symm.trans htarget)
    have ht := run_keepsTerms hl hfresh hkey h s hs y args hy
    rw [ht.items] at hescrow hothers
    exact ⟨s.escrowTokenAccount, ht.escrow, settledInFull_iff ht.valid hescrow hothers⟩

theorem settle_pays_in_full_sample :
    ∃ w' u, Run Sample.rt ⟨Sample.bank, 0⟩ (Sample.events Sample.ownerToken) w' ∧
      Step Sample.rt w' (.succeeded (Sample.settle Sample.ownerToken)) u ∧
      SettledInFull Sample.rt w'.bank u.bank Sample.escrowToken
        (Sample.args Sample.ownerToken) := by
  obtain ⟨u, hu⟩ := Sample.settled_ownerToken
  obtain ⟨w', -, hrun, hstep⟩ := Sample.run_settled hu
  have hdeed : Event.deed Sample.invoice (.succeeded (Sample.settle Sample.ownerToken)) =
      some (Sample.settle Sample.ownerToken, .settle) := by decide
  have hcreate : (Sample.create Sample.ownerToken,
      SettlementInstruction.createAndFund (Sample.args Sample.ownerToken)) ∈
        deeds Sample.invoice (Sample.events Sample.ownerToken) := by decide +kernel
  obtain ⟨escrow, he, hiff⟩ := settle_pays_in_full_iff Sample.lawful Sample.fresh
    Sample.invoice_pda hrun hstep hdeed hcreate
  obtain rfl : Sample.escrowToken = escrow := Option.some.inj he
  exact ⟨w', u, hrun, hstep, hiff.mpr (by decide)⟩

theorem settle_to_escrow_keeps_money :
    ∃ w' u, Run Sample.rt ⟨Sample.bank, 0⟩ (Sample.events Sample.escrowToken) w' ∧
      Step Sample.rt w' (.succeeded (Sample.settle Sample.escrowToken)) u ∧
      Sample.rt.balance w'.bank Sample.escrowToken = 100 ∧
      Sample.rt.balance u.bank Sample.escrowToken = 90 ∧
      ¬SettledInFull Sample.rt w'.bank u.bank Sample.escrowToken
        (Sample.args Sample.escrowToken) := by
  have hbal : ((Sample.delivered Sample.escrowToken).map fun w =>
        Sample.rt.balance w.bank Sample.escrowToken) = some 100 ∧
      ((Sample.settled Sample.escrowToken).map fun w =>
        Sample.rt.balance w.bank Sample.escrowToken) = some 90 := by decide +kernel
  obtain ⟨hbefore, hafter⟩ := hbal
  obtain ⟨u, hu, hafter⟩ := Option.map_eq_some_iff.mp hafter
  obtain ⟨w', hw', hrun, hstep⟩ := Sample.run_settled hu
  rw [hw', Option.map_some, Option.some.injEq] at hbefore
  refine ⟨w', u, hrun, hstep, hbefore, hafter, ?_⟩
  intro hfull
  have hrel := hfull.released
  have htotal : (Sample.args Sample.escrowToken).totalAmount.toNat = 100 := rfl
  omega

end Obulus.Settlement
