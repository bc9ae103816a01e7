import Mathlib.Data.List.Induction

namespace Obulus.Foundation

universe u v

variable {σ : Type u} {α : Type v}

inductive Trace (step : σ → α → σ → Prop) (s : σ) : List α → σ → Prop
  | nil : Trace step s [] s
  | snoc {t u : σ} {as : List α} {a : α} :
      Trace step s as t → step t a u → Trace step s (as ++ [a]) u

namespace Trace

variable {step : σ → α → σ → Prop} {s t u : σ} {as bs : List α} {a : α}

theorem nil_iff : Trace step s [] t ↔ t = s := by
  constructor
  · intro h
    generalize he : ([] : List α) = as at h
    cases h with
    | nil => rfl
    | snoc _ _ => simp at he
  · rintro rfl
    exact .nil

theorem snoc_iff : Trace step s (as ++ [a]) u ↔ ∃ t, Trace step s as t ∧ step t a u := by
  constructor
  · intro h
    generalize he : as ++ [a] = bs at h
    cases h with
    | nil => simp at he
    | snoc ht hs =>
      obtain ⟨rfl, ha⟩ := List.append_inj' he rfl
      obtain ⟨rfl, -⟩ := List.cons.inj ha
      exact ⟨_, ht, hs⟩
  · rintro ⟨t, ht, hs⟩
    exact .snoc ht hs

theorem single_iff : Trace step s [a] u ↔ step s a u := by
  have h : Trace step s ([] ++ [a]) u ↔ ∃ t, Trace step s [] t ∧ step t a u := snoc_iff
  simpa [nil_iff] using h

theorem append_iff : Trace step s (as ++ bs) u ↔ ∃ t, Trace step s as t ∧ Trace step t bs u := by
  induction bs using List.reverseRecOn generalizing u with
  | nil => simp [nil_iff]
  | append_singleton bs b ih =>
    rw [← List.append_assoc, snoc_iff]
    constructor
    · rintro ⟨v, hv, hs⟩
      obtain ⟨t, ht, hb⟩ := ih.mp hv
      exact ⟨t, ht, .snoc hb hs⟩
    · rintro ⟨t, ht, hb⟩
      obtain ⟨v, hv, hs⟩ := snoc_iff.mp hb
      exact ⟨v, ih.mpr ⟨t, ht, hv⟩, hs⟩

theorem cons_iff : Trace step s (a :: as) u ↔ ∃ t, step s a t ∧ Trace step t as u := by
  have h : Trace step s ([a] ++ as) u ↔ ∃ t, Trace step s [a] t ∧ Trace step t as u := append_iff
  rw [List.singleton_append] at h
  rw [h]
  constructor
  · rintro ⟨t, ht, hu⟩
    exact ⟨t, single_iff.mp ht, hu⟩
  · rintro ⟨t, ht, hu⟩
    exact ⟨t, single_iff.mpr ht, hu⟩

theorem invariant {P : σ → Prop} (h0 : P s)
    (hstep : ∀ t a u, P t → step t a u → P u) (h : Trace step s as t) : P t := by
  induction h with
  | nil => exact h0
  | snoc _ hs ih => exact hstep _ _ _ ih hs

theorem history {P : List α → σ → Prop} (h0 : P [] s)
    (hstep : ∀ as t a u, Trace step s as t → P as t → step t a u → P (as ++ [a]) u)
    (h : Trace step s as t) : P as t := by
  induction h with
  | nil => exact h0
  | snoc ht hs ih => exact hstep _ _ _ _ ht ih hs

theorem strengthen {Q : σ → α → Prop} (h : Trace step s as t)
    (hq : ∀ bs a cs u v, as = bs ++ a :: cs → Trace step s bs u → step u a v → Trace step v cs t →
      Q u a) : Trace (fun u a v => step u a v ∧ Q u a) s as t := by
  induction h with
  | nil => exact .nil
  | @snoc u v as a ht hs ih =>
    refine .snoc (ih ?_) ⟨hs, hq as a [] u v rfl ht hs .nil⟩
    intro bs b cs u' v' has hbs hb hcs
    refine hq bs b (cs ++ [a]) u' v' ?_ hbs hb (.snoc hcs hs)
    rw [has, List.append_assoc, List.cons_append]

theorem relates_of {P : σ → Prop} {R : σ → σ → Prop} (hrefl : ∀ s, R s s)
    (htrans : ∀ s t u, R s t → R t u → R s u) (h0 : P s)
    (hstep : ∀ t a u, P t → step t a u → P u ∧ R t u) (h : Trace step s as t) : P t ∧ R s t := by
  induction h with
  | nil => exact ⟨h0, hrefl s⟩
  | snoc _ hs ih =>
    obtain ⟨hp, hr⟩ := hstep _ _ _ ih.1 hs
    exact ⟨hp, htrans _ _ _ ih.2 hr⟩

theorem mono {step' : σ → α → σ → Prop} (hle : ∀ t a u, step t a u → step' t a u)
    (h : Trace step s as t) : Trace step' s as t := by
  induction h with
  | nil => exact .nil
  | snoc _ hs ih => exact .snoc ih (hle _ _ _ hs)

end Trace

def runWith (exec : σ → α → Option σ) : σ → List α → Option σ
  | s, [] => some s
  | s, a :: as => (exec s a).bind fun t => runWith exec t as

theorem runWith_trace {step : σ → α → σ → Prop} {exec : σ → α → Option σ}
    (hexec : ∀ s a t, exec s a = some t → step s a t) {as : List α} {s t : σ}
    (h : runWith exec s as = some t) : Trace step s as t := by
  induction as generalizing s with
  | nil =>
    simp only [runWith, Option.some.injEq] at h
    subst h
    exact .nil
  | cons a as ih =>
    simp only [runWith, Option.bind_eq_some_iff] at h
    obtain ⟨v, hv, ht⟩ := h
    exact Trace.cons_iff.mpr ⟨v, hexec _ _ _ hv, ih ht⟩

end Obulus.Foundation
