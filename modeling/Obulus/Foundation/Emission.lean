import Mathlib.Data.List.Nodup
import Mathlib.Data.List.Perm.Basic

namespace Obulus.Foundation.Emission

universe u v

variable {α : Type u} {κ : Type v} [DecidableEq κ] (key : α → κ) (needs : α → List κ)
  (order : List α → List α) (known : List κ)

def ready (emitted : List κ) (a : α) : Bool :=
  (needs a).all fun k => !known.contains k || emitted.contains k

-- one that is ready after the other; when none is, the rest as they come
def emit : Nat → List α → List κ → List α
  | 0, pending, _ => order pending
  | n + 1, pending, emitted =>
    match (order pending).find? (ready needs known emitted) with
    | none => order pending
    | some a => a :: emit n (pending.filter fun b => decide (key b ≠ key a)) (key a :: emitted)

-- each comes after what it needs
def InOrder (emitted : List κ) (out : List α) : Prop :=
  ∀ pre a post, out = pre ++ a :: post → ∀ k ∈ needs a, k ∈ known → k ∈ emitted ∨ k ∈ pre.map key

variable {key needs order known} {emitted : List κ} {pending out : List α} {a b : α} {n : Nat}

theorem ready_iff : ready needs known emitted a = true ↔ ∀ k ∈ needs a, k ∈ known → k ∈ emitted := by
  simp only [ready, List.all_eq_true, Bool.or_eq_true, Bool.not_eq_true', List.contains_eq_mem,
    decide_eq_false_iff_not, decide_eq_true_eq, ← imp_iff_not_or]

theorem perm_cons_filter (hdistinct : (pending.map key).Nodup) (ha : a ∈ pending) :
    (a :: pending.filter fun b => decide (key b ≠ key a)).Perm pending := by
  induction pending with
  | nil => cases ha
  | cons b rest ih =>
    rw [List.map_cons, List.nodup_cons] at hdistinct
    obtain ⟨hfresh, hdistinct⟩ := hdistinct
    rcases List.mem_cons.mp ha with rfl | ha
    · have hrest : rest.filter (fun b => decide (key b ≠ key a)) = rest := by
        rw [List.filter_eq_self]
        intro b hb
        rw [decide_eq_true_eq]
        intro hsame
        exact hfresh (hsame ▸ List.mem_map_of_mem hb)
      rw [List.filter_cons_of_neg (by simp), hrest]
    · have hne : key b ≠ key a := by
        intro hsame
        exact hfresh (hsame ▸ List.mem_map_of_mem ha)
      rw [List.filter_cons_of_pos (by simpa using hne)]
      exact (List.Perm.swap b a _).trans ((ih hdistinct ha).cons b)

theorem emit_perm (horder : ∀ l, (order l).Perm l) (hdistinct : (pending.map key).Nodup) :
    (emit key needs order known n pending emitted).Perm pending := by
  induction n generalizing pending emitted with
  | zero => exact horder pending
  | succ n ih =>
    unfold emit
    split
    · exact horder pending
    · next a hfind =>
      have ha : a ∈ pending := (horder pending).mem_iff.mp (List.mem_of_find?_eq_some hfind)
      have hrest : ((pending.filter fun b => decide (key b ≠ key a)).map key).Nodup :=
        hdistinct.sublist (List.filter_sublist.map key)
      exact ((ih hrest).cons a).trans (perm_cons_filter hdistinct ha)

omit [DecidableEq κ] in
theorem InOrder.nil : InOrder key needs known emitted [] := by
  intro pre a post hsplit
  simp at hsplit

theorem InOrder.head (h : InOrder key needs known emitted (a :: out)) :
    ready needs known emitted a = true := by
  rw [ready_iff]
  intro k hk hknown
  rcases h [] a out rfl k hk hknown with hemitted | hpre
  · exact hemitted
  · cases hpre

theorem InOrder.cons (h : InOrder key needs known (key a :: emitted) out)
    (ha : ready needs known emitted a = true) : InOrder key needs known emitted (a :: out) := by
  intro pre b post hsplit k hk hknown
  cases pre with
  | nil =>
    obtain ⟨rfl, -⟩ := List.cons.inj hsplit
    exact .inl (ready_iff.mp ha k hk hknown)
  | cons a' pre =>
    rw [List.cons_append, List.cons.injEq] at hsplit
    obtain ⟨rfl, hout⟩ := hsplit
    rw [List.map_cons, List.mem_cons]
    rcases h pre b post hout k hk hknown with hemitted | hpre
    · rcases List.mem_cons.mp hemitted with rfl | hemitted
      · exact .inr (.inl rfl)
      · exact .inl hemitted
    · exact .inr (.inr hpre)

-- what is emitted early leaves the others in order
theorem InOrder.filter (h : InOrder key needs known emitted out) :
    InOrder key needs known (key a :: emitted) (out.filter fun b => decide (key b ≠ key a)) := by
  intro pre b post hsplit k hk hknown
  obtain ⟨before, rest, hout, hbefore, hrest⟩ := List.filter_eq_append_iff.mp hsplit
  obtain ⟨skipped, after, rfl, hskipped, -, -⟩ := List.filter_eq_cons_iff.mp hrest
  have hout' : out = (before ++ skipped) ++ b :: after := by
    rw [hout, List.append_assoc]
  rcases h (before ++ skipped) b after hout' k hk hknown with hemitted | hpre
  · exact .inl (List.mem_cons_of_mem _ hemitted)
  · obtain ⟨c, hc, rfl⟩ := List.mem_map.mp hpre
    by_cases hsame : key c = key a
    · exact .inl (hsame ▸ List.mem_cons_self)
    · right
      rcases List.mem_append.mp hc with hc | hc
      · rw [← hbefore]
        exact List.mem_map_of_mem (List.mem_filter.mpr ⟨hc, decide_eq_true hsame⟩)
      · exact absurd (decide_eq_true hsame) (hskipped c hc)

-- an order is found whenever there is one
theorem emit_inOrder (horder : ∀ l, (order l).Perm l) (hdistinct : (pending.map key).Nodup)
    (hn : pending.length ≤ n) (hperm : out.Perm pending) (hout : InOrder key needs known emitted out) :
    InOrder key needs known emitted (emit key needs order known n pending emitted) := by
  induction n generalizing pending emitted out with
  | zero =>
    obtain rfl := List.length_eq_zero_iff.mp (Nat.le_zero.mp hn)
    rw [emit, (horder []).eq_nil]
    exact .nil
  | succ n ih =>
    unfold emit
    split
    · next hnone =>
      cases out with
      | nil =>
        obtain rfl := hperm.symm.eq_nil
        rw [(horder []).eq_nil]
        exact .nil
      | cons a out =>
        have ha : a ∈ order pending :=
          (horder pending).mem_iff.mpr (hperm.mem_iff.mp List.mem_cons_self)
        exact absurd hout.head (List.find?_eq_none.mp hnone a ha)
    · next a hfind =>
      have ha : a ∈ pending := (horder pending).mem_iff.mp (List.mem_of_find?_eq_some hfind)
      have hready : ready needs known emitted a = true := List.find?_some hfind
      have hshorter := (perm_cons_filter hdistinct ha).length_eq
      rw [List.length_cons] at hshorter
      refine InOrder.cons (ih (hdistinct.sublist (List.filter_sublist.map key)) ?_
        (hperm.filter _) hout.filter) hready
      omega

end Obulus.Foundation.Emission
