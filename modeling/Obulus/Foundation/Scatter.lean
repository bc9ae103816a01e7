import Mathlib.Data.List.GetD
import Mathlib.Tactic.Ring
import Mathlib.Algebra.BigOperators.Group.List.Basic
import Mathlib.Algebra.Order.Field.Basic
import Mathlib.Algebra.Order.BigOperators.Group.List

namespace Obulus.Foundation

variable {K : Type} [Field K] {xs ys : List K} {moves moves' : List (Nat × K)} {c : K} {i j n : Nat}

section Sums

theorem sum_map_mul (xs : List K) (c : K) : (xs.map (c * ·)).sum = c * xs.sum := by
  induction xs with
  | nil => simp
  | cons x xs ih => rw [List.map_cons, List.sum_cons, List.sum_cons, ih, mul_add]

theorem sum_map_div (xs : List K) (c : K) : (xs.map (· / c)).sum = xs.sum / c := by
  induction xs with
  | nil => simp
  | cons x xs ih => rw [List.map_cons, List.sum_cons, List.sum_cons, ih, add_div]

theorem sum_zipWith_add (h : xs.length = ys.length) (c : K) :
    (List.zipWith (fun x y => x + c * y) xs ys).sum = xs.sum + c * ys.sum := by
  induction xs generalizing ys with
  | nil =>
    obtain rfl := List.eq_nil_of_length_eq_zero h.symm
    simp
  | cons x xs ih =>
    cases ys with
    | nil => cases h
    | cons y ys =>
      rw [List.zipWith_cons_cons, List.sum_cons, List.sum_cons, List.sum_cons,
        ih (Nat.succ_injective h)]
      ring

theorem map_getD_range (xs : List K) : (List.range xs.length).map (xs.getD · 0) = xs := by
  apply List.ext_getElem
  · simp
  · intro k _ hk
    rw [List.getElem_map, List.getElem_range, List.getD_eq_getElem xs 0 hk]

theorem getD_map (f : K → K) (hi : i < xs.length) : (xs.map f).getD i 0 = f (xs.getD i 0) := by
  rw [List.getD_eq_getElem xs 0 hi, List.getD_eq_getElem _ 0 (by simpa using hi), List.getElem_map]

end Sums

section Scatter

-- amounts added to the entries they are addressed to
def scatter (moves : List (Nat × K)) (xs : List K) : List K :=
  moves.foldl (fun xs move => xs.modify move.1 (· + move.2)) xs

theorem sum_modify (hi : i < xs.length) : (xs.modify i (· + c)).sum = xs.sum + c := by
  induction xs generalizing i with
  | nil => cases hi
  | cons x xs ih =>
    cases i with
    | zero =>
      rw [List.modify_zero_cons, List.sum_cons, List.sum_cons]
      ring
    | succ i =>
      rw [List.modify_succ_cons, List.sum_cons, List.sum_cons, ih (Nat.lt_of_succ_lt_succ hi)]
      ring

theorem modify_comm (xs : List K) (i j : Nat) (c d : K) :
    (xs.modify i (· + c)).modify j (· + d) = (xs.modify j (· + d)).modify i (· + c) := by
  apply List.ext_getElem?
  intro k
  simp only [List.getElem?_modify]
  by_cases hi : i = k <;> by_cases hj : j = k <;> cases xs[k]? <;> simp [hi, hj, add_right_comm]

theorem scatter_length (moves : List (Nat × K)) (xs : List K) :
    (scatter moves xs).length = xs.length := by
  induction moves generalizing xs with
  | nil => rfl
  | cons move moves ih => exact (ih _).trans (List.length_modify _ _ _)

theorem scatter_sum (h : ∀ move ∈ moves, move.1 < xs.length) :
    (scatter moves xs).sum = xs.sum + (moves.map Prod.snd).sum := by
  induction moves generalizing xs with
  | nil => simp [scatter]
  | cons move moves ih =>
    have hhead := h move List.mem_cons_self
    have hrest : ∀ other ∈ moves, other.1 < (xs.modify move.1 (· + move.2)).length := by
      intro other hother
      rw [List.length_modify]
      exact h other (List.mem_cons_of_mem _ hother)
    have hnext := ih hrest
    rw [sum_modify hhead, add_assoc] at hnext
    rw [List.map_cons, List.sum_cons]
    exact hnext

theorem scatter_perm (h : moves.Perm moves') (xs : List K) : scatter moves xs = scatter moves' xs :=
  h.foldl_eq' (fun _ _ _ _ _ => modify_comm _ _ _ _ _) xs

variable [LinearOrder K] [IsStrictOrderedRing K]

theorem le_modify (hc : 0 ≤ c) : xs.getD i 0 ≤ (xs.modify j (· + c)).getD i 0 := by
  rw [List.getD_eq_getElem?_getD, List.getD_eq_getElem?_getD, List.getElem?_modify]
  cases xs[i]? with
  | none => simp
  | some x =>
    by_cases hj : j = i
    · simpa [hj] using hc
    · simp [hj]

theorem le_scatter (h : ∀ move ∈ moves, 0 ≤ move.2) :
    xs.getD i 0 ≤ (scatter moves xs).getD i 0 := by
  induction moves generalizing xs with
  | nil => exact le_rfl
  | cons move moves ih =>
    have hhead := h move List.mem_cons_self
    exact (le_modify hhead).trans (ih fun other hother => h other (List.mem_cons_of_mem _ hother))

end Scatter

end Obulus.Foundation
