import Mathlib.Algebra.BigOperators.Group.List.Lemmas
import Mathlib.Algebra.Order.Ring.Nat
import Mathlib.Tactic.Ring

namespace Obulus.Foundation

section Even

variable {total parts k : Nat}

def evenShare (total parts k : Nat) : Nat := total / parts + if k < total % parts then 1 else 0

def evenShares (total parts k : Nat) : List Nat := (List.range k).map (evenShare total parts)

-- the shares from the k-th on
def evenRest (total parts k : Nat) : List Nat :=
  (List.range' k (parts - k)).map (evenShare total parts)

theorem evenShare_cases : evenShare total parts k = total / parts ∨
    evenShare total parts k = total / parts + 1 := by
  unfold evenShare
  split
  · exact .inr rfl
  · exact .inl rfl

theorem evenShare_pos (hparts : 0 < parts) (htotal : parts ≤ total) : 0 < evenShare total parts k := by
  have hdiv := Nat.div_pos htotal hparts
  rcases @evenShare_cases total parts k with h | h <;> omega

theorem evenShares_succ : evenShares total parts (k + 1) =
    evenShares total parts k ++ [evenShare total parts k] := by
  simp [evenShares, List.range_succ]

theorem sum_evenShares : (evenShares total parts k).sum = k * (total / parts) + min k (total % parts) := by
  induction k with
  | zero => simp [evenShares]
  | succ k ih =>
    rw [evenShares_succ, List.sum_append, ih, List.sum_singleton, Nat.succ_mul]
    unfold evenShare
    split <;> omega

theorem sum_evenShares_all (hparts : 0 < parts) : (evenShares total parts parts).sum = total := by
  have hdiv := Nat.div_add_mod total parts
  have hmod := Nat.mod_lt total hparts
  rw [sum_evenShares]
  omega

theorem evenRest_succ (hk : k < parts) : evenRest total parts k =
    evenShare total parts k :: evenRest total parts (k + 1) := by
  obtain ⟨left, hleft⟩ : ∃ left, parts - k = left + 1 := ⟨parts - k - 1, by omega⟩
  have hnext : parts - (k + 1) = left := by omega
  rw [evenRest, evenRest, hleft, hnext, List.range'_succ, List.map_cons]

theorem evenRest_all : evenRest total parts 0 = evenShares total parts parts := by
  rw [evenRest, evenShares, Nat.sub_zero, List.range_eq_range']

theorem sum_evenShares_rest (hk : k ≤ parts) (hparts : 0 < parts) :
    (evenShares total parts k).sum + (evenRest total parts k).sum = total := by
  have hsplit : List.range parts = List.range k ++ List.range' k (parts - k) := by
    have happend := @List.range'_append_1 0 k (parts - k)
    rw [Nat.zero_add, Nat.add_sub_cancel' hk] at happend
    rw [List.range_eq_range', List.range_eq_range', happend]
  have hall : evenShares total parts parts = evenShares total parts k ++ evenRest total parts k := by
    simp only [evenShares, evenRest, hsplit, List.map_append]
  rw [← List.sum_append, ← hall]
  exact sum_evenShares_all hparts

theorem evenRest_nil (hk : parts ≤ k) : evenRest total parts k = [] := by
  rw [evenRest, Nat.sub_eq_zero_of_le hk]
  rfl

end Even

section Weighted

variable {total weight r : Nat} {weights floors : List Nat}

def floorShares (total weight : Nat) (weights : List Nat) : List Nat :=
  weights.map fun w => total * w / weight

-- one more unit to each of the first r
def handOut : Nat → List Nat → List Nat
  | 0, floors => floors
  | _ + 1, [] => []
  | r + 1, a :: floors => (a + 1) :: handOut r floors

theorem sum_handOut (hr : r ≤ floors.length) : (handOut r floors).sum = floors.sum + r := by
  induction floors generalizing r with
  | nil =>
    obtain rfl := Nat.le_zero.mp hr
    rfl
  | cons a floors ih =>
    cases r with
    | zero => rfl
    | succ r =>
      have hrest := ih (Nat.le_of_succ_le_succ hr)
      simp only [handOut, List.sum_cons, hrest]
      omega

theorem handOut_near : List.Forall₂ (fun b a => b = a ∨ b = a + 1) (handOut r floors) floors := by
  induction floors generalizing r with
  | nil => cases r <;> exact .nil
  | cons a floors ih =>
    cases r with
    | zero => exact .cons (.inl rfl) (@ih 0)
    | succ r => exact .cons (.inr rfl) ih

theorem weight_floors : weight * (floorShares total weight weights).sum +
    (weights.map fun w => total * w % weight).sum = total * weights.sum := by
  induction weights with
  | nil => rfl
  | cons w weights ih =>
    have hdiv := Nat.div_add_mod (total * w) weight
    simp only [floorShares, List.map_cons, List.sum_cons, Nat.mul_add] at ih ⊢
    omega

theorem sum_rests_lt (hweight : 0 < weight) (hne : weights ≠ []) :
    (weights.map fun w => total * w % weight).sum < weight * weights.length := by
  induction weights with
  | nil => exact absurd rfl hne
  | cons w weights ih =>
    have hw := Nat.mod_lt (total * w) hweight
    rw [List.map_cons, List.sum_cons, List.length_cons, Nat.mul_succ]
    cases weights with
    | nil => simpa using hw
    | cons v weights =>
      have hrest := ih (List.cons_ne_nil _ _)
      omega

theorem floors_le (hweight : 0 < weights.sum) : (floorShares total weights.sum weights).sum ≤ total := by
  have h := @weight_floors total weights.sum weights
  apply Nat.le_of_mul_le_mul_left _ hweight
  rw [Nat.mul_comm weights.sum total]
  omega

theorem floors_short (hweight : 0 < weights.sum) :
    total - (floorShares total weights.sum weights).sum < weights.length := by
  have hne : weights ≠ [] := by
    rintro rfl
    exact absurd hweight (Nat.lt_irrefl 0)
  have h := @weight_floors total weights.sum weights
  have hrests := @sum_rests_lt total weights.sum weights hweight hne
  apply Nat.lt_of_mul_lt_mul_left (a := weights.sum)
  rw [Nat.mul_sub, Nat.mul_comm weights.sum total]
  omega

-- the floors and the units left over make up the total
theorem sum_weighted (hweight : 0 < weights.sum) :
    (handOut (total - (floorShares total weights.sum weights).sum)
      (floorShares total weights.sum weights)).sum = total := by
  have hle := @floors_le total weights hweight
  have hshort := @floors_short total weights hweight
  rw [sum_handOut]
  · omega
  · rw [floorShares, List.length_map]
    exact hshort.le

end Weighted

end Obulus.Foundation
