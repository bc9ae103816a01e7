import Mathlib.Algebra.Order.Ring.Int
import Mathlib.Algebra.BigOperators.Group.List.Basic
import Obulus.Foundation.Table

namespace Obulus.Foundation

universe u v

variable {ρ : Type u} {κ : Type v} {p q : ρ → Bool} {f g h : ρ → Nat} {c : Nat} {r : ρ}
  {rows rows' : List ρ}

-- SELECT SUM(f) FROM rows WHERE p
def total (p : ρ → Bool) (f : ρ → Nat) (rows : List ρ) : Nat := ((rows.filter p).map f).sum

@[simp] theorem total_nil : total p f [] = 0 := rfl

@[simp] theorem total_cons : total p f (r :: rows) = (if p r then f r else 0) + total p f rows := by
  unfold total
  cases hp : p r <;> simp [hp]

@[simp] theorem total_append : total p f (rows ++ rows') = total p f rows + total p f rows' := by
  simp [total]

theorem total_eq_zero (hzero : ∀ r ∈ rows, p r = true → f r = 0) : total p f rows = 0 := by
  induction rows with
  | nil => rfl
  | cons r rows ih =>
    rw [total_cons, ih fun r hr => hzero r (.tail _ hr)]
    split
    · next hp => rw [hzero r (.head _) hp]
    · rfl

theorem total_const (hconst : ∀ r ∈ rows, p r = true → f r = c) :
    total p f rows = rows.countP p * c := by
  induction rows with
  | nil => simp
  | cons r rows ih =>
    rw [total_cons, List.countP_cons, ih fun r hr => hconst r (.tail _ hr), Nat.add_mul]
    split
    · next hp =>
      rw [hconst r (.head _) hp]
      omega
    · omega

-- UPDATE rows SET .. WHERE q, where each row updated loses `g` and gains `h`
theorem total_update {change : ρ → ρ}
    (hchange : ∀ r ∈ rows, q r = true →
      (if p (change r) then f (change r) else 0) + g r = (if p r then f r else 0) + h r) :
    total p f (rows.map fun r => if q r then change r else r) + total q g rows =
      total p f rows + total q h rows := by
  induction rows with
  | nil => rfl
  | cons r rows ih =>
    have hrest := ih fun r hr => hchange r (.tail _ hr)
    have hfirst := hchange r (.head _)
    simp only [List.map_cons, total_cons]
    cases hq : q r with
    | false =>
      simp only [Bool.false_eq_true, if_false]
      omega
    | true =>
      have hrow := hfirst hq
      simp only [if_true]
      omega

end Obulus.Foundation
