import Mathlib.Data.List.Destutter
import Mathlib.Data.List.Sort
import Mathlib.Order.Lattice

namespace Obulus.Foundation

section Firsts

variable {α κ : Type} [DecidableEq κ] {key : α → κ} {seen : List κ} {l : List α} {a : α} {p : α → Bool}

-- the elements whose key was not seen before them
def retainFirst (key : α → κ) : List κ → List α → List α
  | _, [] => []
  | seen, a :: rest =>
    if key a ∈ seen then retainFirst key seen rest else a :: retainFirst key (key a :: seen) rest

theorem mem_retainFirst : a ∈ retainFirst key seen l ↔
    key a ∉ seen ∧ l.find? (fun b => key b = key a) = some a := by
  induction l generalizing seen with
  | nil => simp [retainFirst]
  | cons b l ih =>
    rw [retainFirst, List.find?_cons]
    by_cases hseen : key b ∈ seen
    · rw [if_pos hseen, ih]
      by_cases hkey : key b = key a
      · rw [hkey] at hseen
        simp [hseen]
      · simp [hkey]
    · rw [if_neg hseen, List.mem_cons, ih]
      by_cases hkey : key b = key a
      · rw [hkey] at hseen
        simp [hkey, hseen, eq_comm]
      · have hne : a ≠ b := fun h => hkey (congrArg key h.symm)
        simp [hkey, hne, Ne.symm hkey]

theorem retainFirst_fresh : ∀ k ∈ (retainFirst key seen l).map key, k ∉ seen := by
  intro k hk
  obtain ⟨a, ha, rfl⟩ := List.mem_map.mp hk
  exact (mem_retainFirst.mp ha).1

theorem retainFirst_nodup : ((retainFirst key seen l).map key).Nodup := by
  induction l generalizing seen with
  | nil => exact List.nodup_nil
  | cons b l ih =>
    rw [retainFirst]
    split
    · exact ih
    · rw [List.map_cons, List.nodup_cons]
      refine ⟨?_, ih⟩
      intro hmem
      exact retainFirst_fresh _ hmem List.mem_cons_self

-- a filter that looks at the key alone keeps the first element of each key it passes
theorem find?_filter_key {q : κ → Bool} :
    (l.filter fun b => q (key b)).find? (fun b => key b = key a) = some a ↔
      q (key a) = true ∧ l.find? (fun b => key b = key a) = some a := by
  rw [List.find?_filter]
  by_cases hq : q (key a) = true
  · have hsame : (fun b => decide (q (key b) = true ∧ decide (key b = key a) = true)) =
        fun b => decide (key b = key a) := by
      funext b
      by_cases hkey : key b = key a
      · simp [hkey, hq]
      · simp [hkey]
    rw [hsame]
    simp [hq]
  · have hnone : l.find? (fun b => decide (q (key b) = true ∧ decide (key b = key a) = true)) = none := by
      rw [List.find?_eq_none]
      intro b _ hb
      rw [decide_eq_true_eq, decide_eq_true_eq] at hb
      exact hq (hb.2 ▸ hb.1)
    rw [hnone]
    simp [hq]

end Firsts

section Adjacent

variable {α : Type} [DecidableEq α] {a b : α} {l : List α}

-- the first of each run of equal elements
def dedupAdjacent (l : List α) : List α := l.destutter (· ≠ ·)

theorem mem_destutter_ne : a ∈ l.destutter' (· ≠ ·) b ↔ a ∈ b :: l := by
  induction l generalizing b with
  | nil => rfl
  | cons c l ih =>
    by_cases hsame : b = c
    · rw [List.destutter'_cons_neg _ (not_not.mpr hsame), ih, hsame]
      simp
    · rw [List.destutter'_cons_pos _ hsame, List.mem_cons, ih, List.mem_cons, List.mem_cons, List.mem_cons]

@[simp] theorem mem_dedupAdjacent : a ∈ dedupAdjacent l ↔ a ∈ l := by
  cases l with
  | nil => rfl
  | cons b l => exact mem_destutter_ne

theorem dedupAdjacent_nodup [LinearOrder α] (hsorted : l.Pairwise (· ≤ ·)) :
    (dedupAdjacent l).Nodup := by
  have hle : (dedupAdjacent l).Pairwise (· ≤ ·) :=
    hsorted.sublist (List.destutter_sublist (· ≠ ·) l)
  have hne : (dedupAdjacent l).IsChain (· ≠ ·) := List.isChain_destutter (· ≠ ·) l
  have hlt : (dedupAdjacent l).IsChain (· < ·) := by
    rw [List.isChain_iff_forall_rel_of_append_cons_cons] at hne ⊢
    intro a b front back hsplit
    have hab : a ≤ b := by
      rw [hsplit, List.pairwise_append] at hle
      exact List.rel_of_pairwise_cons hle.2.1 List.mem_cons_self
    exact lt_of_le_of_ne hab (hne hsplit)
  exact hlt.pairwise.imp fun h => ne_of_lt h

end Adjacent

end Obulus.Foundation
