import Obulus.Foundation.Trace
import Obulus.Settlement.Effects

namespace Obulus.Settlement

open Foundation

structure World where
  bank : Bank
  clock : Int64

structure Submission where
  now : Int64
  accounts : List AccountMeta
  data : List UInt8
  deriving DecidableEq

def Submission.instruction (x : Submission) : Option SettlementInstruction :=
  SettlementInstruction.decode x.data

inductive Event where
  | succeeded (x : Submission)
  | failed (x : Submission)
  | foreign

-- What every other program can do: accounts of this program keep owner and data, and nobody
-- else can sign for an invoice address that does not exist yet.
structure Foreign (rt : Runtime) (bank bank' : Bank) : Prop where
  owned : ∀ k, (bank k).owner = rt.programId →
    (bank' k).owner = rt.programId ∧ (bank' k).data = (bank k).data
  unowned : ∀ payer invoiceHash, (bank (deriveAddress rt payer invoiceHash).1).owner ≠ rt.programId →
    (bank' (deriveAddress rt payer invoiceHash).1).owner ≠ rt.programId

inductive Step (rt : Runtime) : World → Event → World → Prop
  | succeeded {w x bank'} : w.clock ≤ x.now →
      process rt w.bank x.now x.accounts x.data = .ok bank' →
      Step rt w (.succeeded x) ⟨bank', x.now⟩
  | failed {w x e} : w.clock ≤ x.now → process rt w.bank x.now x.accounts x.data = .error e →
      Step rt w (.failed x) ⟨w.bank, x.now⟩
  | foreign {w bank'} : Foreign rt w.bank bank' → Step rt w .foreign ⟨bank', w.clock⟩

abbrev Run (rt : Runtime) := Trace (Step rt)

def execEvent (rt : Runtime) (w : World) : Event → Option World
  | .succeeded x =>
    if w.clock ≤ x.now then
      (process rt w.bank x.now x.accounts x.data).toOption.map fun bank => ⟨bank, x.now⟩
    else none
  | _ => none

theorem step_of_execEvent {rt : Runtime} (w : World) (ev : Event) (w' : World)
    (h : execEvent rt w ev = some w') : Step rt w ev w' := by
  unfold execEvent at h
  split at h
  · next x =>
    split at h
    · next hclock =>
      simp only [Option.map_eq_some_iff] at h
      obtain ⟨bank, hp, rfl⟩ := h
      exact .succeeded hclock (toOption_eq_some.mp hp)
    · simp at h
  · simp at h

def Fresh (rt : Runtime) (bank : Bank) : Prop :=
  ∀ payer invoiceHash, (bank (deriveAddress rt payer invoiceHash).1).owner ≠ rt.programId

abbrev Deed := Submission × SettlementInstruction

def Event.deed (key : Pubkey) : Event → Option Deed
  | .succeeded x => x.instruction.bind fun i =>
      if i.invoiceKey x.accounts = some key then some (x, i) else none
  | _ => none

def deeds (key : Pubkey) (events : List Event) : List Deed :=
  events.filterMap (Event.deed key)

def payouts (d : List Deed) : List Deed :=
  d.filter fun p => p.2 = .settle ∨ p.2 = .refund

theorem deeds_snoc (key : Pubkey) (events : List Event) (ev : Event) :
    deeds key (events ++ [ev]) = deeds key events ++ (ev.deed key).toList := by
  cases h : ev.deed key <;> simp [deeds, List.filterMap_append, h]

theorem payouts_snoc (d : List Deed) (p : Deed) :
    payouts (d ++ [p]) = payouts d ++ (if p.2 = .settle ∨ p.2 = .refund then [p] else []) := by
  by_cases h : p.2 = .settle ∨ p.2 = .refund <;> simp [payouts, List.filter_append, h]

inductive Touched (rt : Runtime) (w : World) (key : Pubkey) : Event → World → Prop
  | deed {x : Submission} {i : SettlementInstruction} {old : Option InvoiceAccount}
      {s : InvoiceAccount} {w' : World} : Event.deed key (.succeeded x) = some (x, i) →
      Before rt w.bank key old → Changes rt x.now x.accounts key i old s →
      Stored rt w'.bank key s →
      Touched rt w key (.succeeded x) w'
  | kept {ev : Event} {w' : World} : Event.deed key ev = none →
      (∀ s, Stored rt w.bank key s → Stored rt w'.bank key s) →
      ((w.bank key).owner ≠ rt.programId → (w'.bank key).owner ≠ rt.programId) →
      Touched rt w key ev w'

variable {rt : Runtime} {w w' : World} {events : List Event} {ev : Event}

theorem step_touched (hl : rt.Lawful) (hb : PdaStored rt w.bank) {key : Pubkey}
    (hkey : ∃ payer invoiceHash, key = (deriveAddress rt payer invoiceHash).1)
    (h : Step rt w ev w') : Touched rt w key ev w' := by
  cases h with
  | @succeeded x bank' hclock hp =>
    simp only [process, bind_eq_ok, orReject_eq_ok] at hp
    obtain ⟨i, hi, hexec⟩ := hp
    obtain ⟨target, old, s, htarget, hold, hc, hs⟩ := execute_effect hl hb hexec
    by_cases hk : target = key
    · subst hk
      exact .deed (by simp [Event.deed, Submission.instruction, hi, htarget]) hold hc hs.stored
    · have hnone : Event.deed key (.succeeded x) = none := by
        simp [Event.deed, Submission.instruction, hi, htarget, hk]
      refine .kept hnone ?_ ?_
      · intro s' hs'
        obtain ⟨ho, hd⟩ := hs.others.owned key (Ne.symm hk) hs'.owner
        exact hs'.congr (ho.trans hs'.owner.symm) hd
      · exact hs.others.unowned key (Ne.symm hk)
  | failed hclock hp => exact .kept rfl (fun _ h => h) (fun h => h)
  | foreign hf =>
    refine .kept rfl ?_ ?_
    · intro s hs
      obtain ⟨ho, hd⟩ := hf.owned key hs.owner
      exact hs.congr (ho.trans hs.owner.symm) hd
    · obtain ⟨payer, invoiceHash, rfl⟩ := hkey
      exact hf.unowned payer invoiceHash

theorem step_pdaStored (hl : rt.Lawful) (hb : PdaStored rt w.bank) (h : Step rt w ev w') :
    PdaStored rt w'.bank := by
  intro payer invoiceHash ho
  have ht := step_touched hl hb ⟨payer, invoiceHash, rfl⟩ h
  cases ht with
  | deed _ _ _ hs => exact ⟨_, hs⟩
  | kept _ hstored howner =>
    by_cases how : (w.bank (deriveAddress rt payer invoiceHash).1).owner = rt.programId
    · obtain ⟨s, hs⟩ := hb payer invoiceHash how
      exact ⟨s, hstored s hs⟩
    · exact absurd ho (howner how)

theorem run_pdaStored (hl : rt.Lawful) (hfresh : Fresh rt w.bank) (h : Run rt w events w') :
    PdaStored rt w'.bank :=
  Trace.invariant (P := fun w => PdaStored rt w.bank)
    (fun payer invoiceHash ho => absurd ho (hfresh payer invoiceHash))
    (fun _ _ _ hp hs => step_pdaStored hl hp hs) h

def Acknowledges (s : InvoiceAccount) (p : Deed) : Prop :=
  (∃ deliveryRoot, p.2 = .acknowledgeDelivery deliveryRoot) ∧
    leadSigner p.1.accounts = some s.authorization ∧ p.1.now < s.expiresAt

def Disputes (s : InvoiceAccount) (acknowledged p : Deed) : Prop :=
  p.2 = .dispute ∧ leadSigner p.1.accounts = some s.payer ∧
    p.1.now.toInt < acknowledged.1.now.toInt + s.disputeWindowSeconds.toNat

def ApprovesRefund (s : InvoiceAccount) (p : Deed) : Prop :=
  p.2 = .resolveDispute true ∧ leadSigner p.1.accounts = some s.disputeResolver

def NotAcknowledged (d : List Deed) : Prop :=
  ∀ p ∈ d, ∀ deliveryRoot, p.2 ≠ .acknowledgeDelivery deliveryRoot

def Delivered (s : InvoiceAccount) (d : List Deed) : Prop :=
  ∃ a ∈ d, Acknowledges s a ∧ a.1.now = s.deliveredAt

def Disputed (s : InvoiceAccount) (d : List Deed) : Prop :=
  ∃ a b, [a, b].Sublist d ∧ Acknowledges s a ∧ a.1.now = s.deliveredAt ∧ Disputes s a b

def RefundApproved (s : InvoiceAccount) (d : List Deed) : Prop :=
  ∃ a b c, [a, b, c].Sublist d ∧ Acknowledges s a ∧ Disputes s a b ∧ ApprovesRefund s c

-- What the deeds on one invoice must have been, read off its stored status.
def Chronicle (s : InvoiceAccount) (d : List Deed) : Prop :=
  match s.status with
  | .funded => payouts d = [] ∧ NotAcknowledged d
  | .delivered => payouts d = [] ∧ Delivered s d
  | .disputed => payouts d = [] ∧ Disputed s d
  | .refundApproved => payouts d = [] ∧ RefundApproved s d
  | .settled => (payouts d).length = 1
  | .refunded => (payouts d).length = 1

theorem chronicle_created {x : Submission} {args : CreateInvoiceArgs} {key : Pubkey}
    {s : InvoiceAccount} (h : Changes rt x.now x.accounts key (.createAndFund args) none s) :
    Chronicle s [(x, .createAndFund args)] := by
  cases h with
  | created => simp [Chronicle, createdInvoice, payouts, NotAcknowledged]

theorem Disputed.delivered {s : InvoiceAccount} {d : List Deed} (h : Disputed s d) :
    Delivered s d := by
  obtain ⟨a, b, hsub, ha, hnow, -⟩ := h
  exact ⟨a, hsub.subset (by simp), ha, hnow⟩

theorem chronicle_changes {x : Submission} {i : SettlementInstruction} {key : Pubkey}
    {s s' : InvoiceAccount} {d : List Deed} (hd : Chronicle s d)
    (h : Changes rt x.now x.accounts key i (some s) s') : Chronicle s' (d ++ [(x, i)]) := by
  cases h with
  | @acknowledged _ deliveryRoot hsigner hroot hnow hstatus =>
    simp only [Chronicle, hstatus] at hd
    refine ⟨by simp [payouts_snoc, hd.1], (x, .acknowledgeDelivery deliveryRoot), by simp, ?_, rfl⟩
    exact ⟨⟨deliveryRoot, rfl⟩, hsigner, hnow⟩
  | settled hstatus hroot hdl hnow =>
    simp only [Chronicle, hstatus] at hd
    simp [Chronicle, payouts_snoc, hd.1]
  | @disputed _ deadline hsigner hstatus hdl hnow =>
    simp only [Chronicle, hstatus] at hd
    obtain ⟨hpay, a, ha, hack, hat⟩ := hd
    refine ⟨by simp [payouts_snoc, hpay], a, (x, .dispute), ?_, hack, hat, rfl, hsigner, ?_⟩
    · exact (List.singleton_sublist.mpr ha).append (List.Sublist.refl [(x, SettlementInstruction.dispute)])
    · rw [hat, ← toInt_of_disputeDeadline hdl]
      exact Int64.lt_iff_toInt_lt.mp hnow
  | @resolved _ approve hsigner hstatus =>
    simp only [Chronicle, hstatus] at hd
    obtain ⟨hpay, hdisp⟩ := hd
    have hnone : payouts (d ++ [(x, .resolveDispute approve)]) = [] := by
      simp [payouts_snoc, hpay]
    cases approve with
    | true =>
      obtain ⟨a, b, hsub, hack, hat, hdis⟩ := hdisp
      refine ⟨hnone, a, b, (x, .resolveDispute true), ?_, hack, hdis, rfl, hsigner⟩
      exact hsub.append (List.Sublist.refl [(x, SettlementInstruction.resolveDispute true)])
    | false =>
      obtain ⟨a, ha, hack, hat⟩ := hdisp.delivered
      exact ⟨hnone, a, List.mem_append_left _ ha, hack, hat⟩
  | refunded hallowed =>
    have hpay : payouts d = [] := by
      simp only [refundIsAllowed, Bool.or_eq_true, Bool.and_eq_true, decide_eq_true_eq] at hallowed
      rcases hallowed with hs | ⟨hs, -⟩
      · simp only [Chronicle, hs] at hd
        exact hd.1
      · simp only [Chronicle, hs] at hd
        exact hd.1
    simp [Chronicle, payouts_snoc, hpay]

def Lifecycle (rt : Runtime) (key : Pubkey) (d : List Deed) (bank : Bank) : Prop :=
  ((bank key).owner ≠ rt.programId ∧ d = []) ∨ ∃ s, Stored rt bank key s ∧ Chronicle s d

theorem lifecycle_touched {key : Pubkey} (hlife : Lifecycle rt key (deeds key events) w.bank)
    (h : Touched rt w key ev w') : Lifecycle rt key (deeds key (events ++ [ev])) w'.bank := by
  rw [deeds_snoc]
  cases h with
  | @deed x i old s _ hdeed hold hc hs =>
    rw [hdeed]
    refine .inr ⟨s, hs, ?_⟩
    cases old with
    | none =>
      rcases hlife with ⟨-, hnil⟩ | ⟨s0, hs0, -⟩
      · cases hc with
        | created h1 h2 h3 h4 =>
          rw [hnil]
          exact chronicle_created (Changes.created h1 h2 h3 h4)
      · exact absurd hs0.owner hold
    | some s0 =>
      rcases hlife with ⟨hno, -⟩ | ⟨s1, hs1, hch⟩
      · exact absurd hold.owner hno
      · rw [hs1.unique hold] at hch
        exact chronicle_changes hch hc
  | kept hnone hstored howner =>
    rw [hnone, Option.toList_none, List.append_nil]
    rcases hlife with ⟨hno, hnil⟩ | ⟨s, hs, hch⟩
    · exact .inl ⟨howner hno, hnil⟩
    · exact .inr ⟨s, hstored s hs, hch⟩

theorem run_lifecycle (hl : rt.Lawful) (hfresh : Fresh rt w.bank) {key : Pubkey}
    (hkey : ∃ payer invoiceHash, key = (deriveAddress rt payer invoiceHash).1)
    (h : Run rt w events w') : Lifecycle rt key (deeds key events) w'.bank := by
  refine Trace.history (P := fun events w => Lifecycle rt key (deeds key events) w.bank) ?_ ?_ h
  · obtain ⟨payer, invoiceHash, rfl⟩ := hkey
    exact .inl ⟨hfresh payer invoiceHash, rfl⟩
  · intro events t ev u ht hlife hs
    exact lifecycle_touched hlife (step_touched hl (run_pdaStored hl hfresh ht) hkey hs)

theorem payouts_length_le {s : InvoiceAccount} {d : List Deed} (h : Chronicle s d) :
    (payouts d).length ≤ 1 := by
  unfold Chronicle at h
  split at h <;> simp_all

end Obulus.Settlement
