import Mathlib.Logic.Function.Basic
import Obulus.Funds.Settle

namespace Obulus.Funds

open Foundation Store

section Abstract

structure Custody where
  settled : SettlementKind × String → Option ChainSettlement
  registry : String → Option (RegistryKind × String)
  fence : SettlementKind × String → Option PaymentAttempt
  deposit : String → Option LedgerEntry

theorem update_of_none {κ α : Type} [DecidableEq κ] {f : κ → Option α} {k k' : κ} {v w : α}
    (hn : f k = none) (hv : f k' = some v) : Function.update f k (some w) k' = some v := by
  have hne : k' ≠ k := by
    rintro rfl
    rw [hn] at hv
    cases hv
  simpa [hne] using hv

namespace Custody

variable {c c' : Custody} {k : SettlementKind × String} {s : ChainSettlement} {S : String}
  {f : RegistryKind × String}

def Free (c : Custody) (S : String) (f : RegistryKind × String) : Prop :=
  c.registry S = none ∨ c.registry S = some f

def register (c : Custody) (S : String) (f : RegistryKind × String) : Custody :=
  { c with registry := Function.update c.registry S (some f) }

def unfence (c : Custody) (k : SettlementKind × String) : Custody :=
  { c with fence := Function.update c.fence k none }

def refence (c : Custody) (k : SettlementKind × String) (a : PaymentAttempt) : Custody :=
  { c with fence := Function.update c.fence k (some a) }

def credit (c : Custody) (S : String) (e : LedgerEntry) : Custody :=
  { c with deposit := Function.update c.deposit S (some e) }

def settle (c : Custody) (k : SettlementKind × String) (s : ChainSettlement) : Custody :=
  { c with settled := Function.update c.settled k (some s) }

def funding (k : SettlementKind × String) : RegistryKind × String := (.settlement k.1, k.2)

-- everything a new settlement writes
def receive (c : Custody) (k : SettlementKind × String) (s : ChainSettlement) : Custody :=
  ((c.register s.transactionSignature (funding k)).settle k s).unfence k

inductive Move (c : Custody) : Custody → Prop
  | idle : Move c c
  | fenced {k : SettlementKind × String} {a : PaymentAttempt} : c.fence k = none →
      a.legacyEvidence = false → Move c (c.refence k a)
  | rescheduled {k : SettlementKind × String} {a a' : PaymentAttempt} : c.fence k = some a →
      a'.legacyEvidence = a.legacyEvidence → Move c (c.refence k a')
  | unfenced {k : SettlementKind × String} : Move c (c.unfence k)
  | paidElsewhere {S : String} {f : RegistryKind × String} : c.Free S f →
      (∀ k, f ≠ funding k) → f.1 ≠ .prepaidTopup → Move c (c.register S f)
  | toppedUp {S : String} {e : LedgerEntry} : c.deposit S = none → c.Free S (.prepaidTopup, S) →
      Move c ((c.register S (.prepaidTopup, S)).credit S e)
  | received {k : SettlementKind × String} {s : ChainSettlement} {a : PaymentAttempt} :
      c.settled k = none → c.fence k = some a → c.Free s.transactionSignature (funding k) →
      Move c (c.receive k s)
  | receivedDeposit {q : String} {s : ChainSettlement} {a : PaymentAttempt} {e : LedgerEntry} :
      c.settled (.bundle, q) = none → c.fence (.bundle, q) = some a →
      c.Free s.transactionSignature (funding (.bundle, q)) →
      c.deposit s.transactionSignature = none →
      Move c ((c.receive (.bundle, q) s).credit s.transactionSignature e)

structure Sound (c : Custody) : Prop where
  registered : ∀ k s, c.settled k = some s → c.registry s.transactionSignature = some (funding k)
  deposits : ∀ S e, c.deposit S = some e → c.registry S = some (.prepaidTopup, S) ∨
    ∃ q s, c.settled (.bundle, q) = some s ∧ s.transactionSignature = S
  exact : ∀ k a, c.fence k = some a → a.legacyEvidence = false

theorem Free.register (h : c.Free S f) {S' : String} {f' : RegistryKind × String}
    (hr : c.registry S' = some f') : (c.register S f).registry S' = some f' := by
  by_cases hS : S' = S
  · subst hS
    rcases h with hn | hf
    · rw [hn] at hr
      cases hr
    · rw [hf] at hr
      simp [Custody.register, hr]
  · simpa [Custody.register, hS] using hr

theorem Sound.register (h : c.Sound) (hf : c.Free S f) : (c.register S f).Sound := by
  refine ⟨fun k s hs => hf.register (h.registered k s hs), ?_, h.exact⟩
  intro S' e he
  rcases h.deposits S' e he with hr | hs
  · exact .inl (hf.register hr)
  · exact .inr hs

theorem Sound.unfence (h : c.Sound) (k : SettlementKind × String) : (c.unfence k).Sound := by
  refine ⟨h.registered, h.deposits, ?_⟩
  intro k' a ha
  by_cases hk : k' = k
  · simp [Custody.unfence, hk] at ha
  · exact h.exact k' a (by simpa [Custody.unfence, hk] using ha)

theorem Sound.refence {a : PaymentAttempt} (h : c.Sound) (ha : a.legacyEvidence = false) :
    (c.refence k a).Sound := by
  refine ⟨h.registered, h.deposits, ?_⟩
  intro k' a' ha'
  by_cases hk : k' = k
  · simp only [Custody.refence, hk, Function.update_self, Option.some.injEq] at ha'
    exact ha' ▸ ha
  · exact h.exact k' a' (by simpa [Custody.refence, hk] using ha')

theorem Sound.settle (h : c.Sound) (hn : c.settled k = none)
    (hr : c.registry s.transactionSignature = some (funding k)) : (c.settle k s).Sound := by
  refine ⟨?_, ?_, h.exact⟩
  · intro k' s' hs'
    by_cases hk : k' = k
    · simp only [Custody.settle, hk, Function.update_self, Option.some.injEq] at hs'
      rw [hk, ← hs']
      exact hr
    · exact h.registered k' s' (by simpa [Custody.settle, hk] using hs')
  · intro S e he
    rcases h.deposits S e he with hr' | ⟨q, s', hs', hS⟩
    · exact .inl hr'
    · exact .inr ⟨q, s', update_of_none hn hs', hS⟩

theorem Sound.credit {e : LedgerEntry} (h : c.Sound)
    (hS : c.registry S = some (.prepaidTopup, S) ∨
      ∃ q s, c.settled (.bundle, q) = some s ∧ s.transactionSignature = S) :
    (c.credit S e).Sound := by
  refine ⟨h.registered, ?_, h.exact⟩
  intro S' e' he'
  by_cases heq : S' = S
  · exact heq ▸ hS
  · exact h.deposits S' e' (by simpa [Custody.credit, heq] using he')

theorem Sound.receive (h : c.Sound) (hn : c.settled k = none)
    (hf : c.Free s.transactionSignature (funding k)) : (c.receive k s).Sound := by
  apply Sound.unfence
  apply (h.register hf).settle hn
  simp [Custody.register]

theorem Move.sound (h : c.Move c') (hs : c.Sound) : c'.Sound := by
  cases h with
  | idle => exact hs
  | fenced _ ha => exact hs.refence ha
  | rescheduled ha heq => exact hs.refence (heq.trans (hs.exact _ _ ha))
  | unfenced => exact hs.unfence _
  | paidElsewhere hf _ _ => exact hs.register hf
  | toppedUp _ hf =>
    apply (hs.register hf).credit
    exact .inl (by simp [Custody.register])
  | received hn _ hf => exact hs.receive hn hf
  | @receivedDeposit q s _ _ hn _ hf _ =>
    apply (hs.receive hn hf).credit
    exact .inr ⟨q, s, by simp [Custody.receive, Custody.settle, Custody.unfence], rfl⟩

theorem Move.settled_forever (h : c.Move c') (hs : c.settled k = some s) :
    c'.settled k = some s := by
  cases h with
  | received hn _ _ => exact update_of_none hn hs
  | receivedDeposit hn _ _ _ => exact update_of_none hn hs
  | _ => exact hs

theorem Move.registry_forever (h : c.Move c') (hr : c.registry S = some f) :
    c'.registry S = some f := by
  cases h with
  | paidElsewhere hf _ _ => exact hf.register hr
  | toppedUp _ hf => exact hf.register hr
  | received _ _ hf => exact hf.register hr
  | receivedDeposit _ _ hf _ => exact hf.register hr
  | _ => exact hr

theorem Move.credits {e : LedgerEntry} (h : c.Move c') (hn : c.deposit S = none)
    (he : c'.deposit S = some e) : c'.registry S = some (.prepaidTopup, S) ∨
      ∃ q s, c.settled (.bundle, q) = none ∧ c'.settled (.bundle, q) = some s ∧
        s.transactionSignature = S := by
  cases h with
  | @toppedUp S' e' _ _ =>
    simp only [credit, Function.update_apply] at he
    split at he
    · next hS =>
      subst hS
      exact .inl (by simp [credit, Custody.register])
    · rw [show (c.register S' _).deposit S = c.deposit S from rfl, hn] at he
      cases he
  | @receivedDeposit q s _ e' hsettled _ _ _ =>
    simp only [credit, Function.update_apply] at he
    split at he
    · next hS =>
      subst hS
      exact .inr ⟨q, s, hsettled, by simp [credit, Custody.receive, Custody.settle, unfence], rfl⟩
    · rw [show (c.receive _ s).deposit S = c.deposit S from rfl, hn] at he
      cases he
  | _ =>
    rw [show c.deposit S = some e from he] at hn
    cases hn

theorem Move.deposit_forever {e : LedgerEntry} (h : c.Move c') (he : c.deposit S = some e) :
    c'.deposit S = some e := by
  cases h with
  | toppedUp hn _ => exact update_of_none hn he
  | receivedDeposit _ _ _ hn => exact update_of_none hn he
  | _ => exact he

end Custody

end Abstract

end Obulus.Funds
