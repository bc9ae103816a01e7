import Mathlib.Algebra.Order.Ring.Int
import Mathlib.Algebra.BigOperators.Group.List.Basic
import Mathlib.Data.List.Induction

namespace Obulus.Foundation.Journal

universe u v

-- a row moves the balance of one account and says what it leaves
structure Columns (ρ : Type u) (κ : Type v) where
  account : ρ → κ
  delta : ρ → Int
  left : ρ → Int

variable {ρ : Type u} {κ : Type v} [DecidableEq κ] (c : Columns ρ κ)

def balance (k : κ) (rows : List ρ) : Int :=
  ((rows.filter fun r => decide (c.account r = k)).map c.delta).sum

def Running (rows : List ρ) : Prop :=
  ∀ pre r post, rows = pre ++ r :: post → c.left r = balance c (c.account r) (pre ++ [r])

variable {c} {k : κ} {r : ρ} {rows pre post : List ρ}

theorem balance_append {rows' : List ρ} :
    balance c k (rows ++ rows') = balance c k rows + balance c k rows' := by
  simp only [balance, List.filter_append, List.map_append, List.sum_append]

theorem balance_single : balance c k [r] = if c.account r = k then c.delta r else 0 := by
  by_cases h : c.account r = k <;> simp [balance, h]

theorem balance_of_others (h : ∀ r ∈ rows, c.account r ≠ k) : balance c k rows = 0 := by
  have hnone : rows.filter (fun r => decide (c.account r = k)) = [] := by
    rw [List.filter_eq_nil_iff]
    intro r hr
    simpa using h r hr
  rw [balance, hnone]
  rfl

theorem Running.nil : Running c [] := by
  intro pre r post h
  simp at h

theorem Running.snoc (h : Running c rows)
    (hleft : c.left r = balance c (c.account r) rows + c.delta r) : Running c (rows ++ [r]) := by
  intro pre r' post hsplit
  induction post using List.reverseRecOn with
  | nil =>
    obtain ⟨rfl, hlast⟩ := List.append_inj' hsplit rfl
    obtain rfl := (List.cons.inj hlast).1
    rw [hleft, balance_append, balance_single, if_pos rfl]
  | append_singleton post r'' _ =>
    rw [← List.cons_append, ← List.append_assoc] at hsplit
    exact h pre r' post (List.append_inj' hsplit rfl).1

theorem Running.balance_last (h : Running c (pre ++ r :: post))
    (hothers : ∀ r' ∈ post, c.account r' ≠ c.account r) :
    balance c (c.account r) (pre ++ r :: post) = c.left r := by
  have hsplit : pre ++ r :: post = (pre ++ [r]) ++ post := by simp
  rw [h pre r post rfl, hsplit, balance_append, balance_of_others hothers, add_zero]

theorem Running.balance_nonneg (h : Running c (pre ++ post)) (hleft : ∀ r ∈ pre, 0 ≤ c.left r) :
    0 ≤ balance c k pre := by
  induction pre using List.reverseRecOn generalizing post with
  | nil => exact le_refl _
  | append_singleton pre r ih =>
    rw [List.append_assoc, List.singleton_append] at h
    by_cases haccount : c.account r = k
    · rw [← haccount, ← h pre r post rfl]
      exact hleft r (List.mem_append_right _ (List.mem_singleton_self r))
    · rw [balance_append, balance_single, if_neg haccount, add_zero]
      exact ih h fun r' hr' => hleft r' (List.mem_append_left _ hr')

end Obulus.Foundation.Journal
