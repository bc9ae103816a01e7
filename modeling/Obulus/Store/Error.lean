import Obulus.Foundation.Checks

namespace Obulus.Store

open Foundation

inductive StoreError
  | database (message : String)
  | notFound (what : String)
  | validation (message : String)
  | conflict (message : String)
  | unauthorized (message : String)
  | rateLimited (message : String)
  | documentNotQuoted
  deriving DecidableEq, Repr

def u64Max : Nat := 2 ^ 64 - 1

def i64Max : Nat := 2 ^ 63 - 1

def saturatingAdd (a b : Nat) : Nat := min (a + b) u64Max

def asI64 (value : Nat) : Except StoreError Nat := do
  reject (i64Max < value) (.validation "numeric value is too large")
  return value

variable {a b n m : Nat}

@[simp] theorem asI64_eq_ok : asI64 n = .ok m ↔ n ≤ i64Max ∧ m = n := by
  simp only [asI64, bind_eq_ok, reject_eq_ok, pure_eq_ok, exists_const, Nat.not_lt]
  exact and_congr_right fun _ => eq_comm

theorem saturatingAdd_le_iff (hn : n ≤ i64Max) : saturatingAdd a b ≤ n ↔ a + b ≤ n := by
  simp only [saturatingAdd, u64Max, i64Max] at hn ⊢
  omega

end Obulus.Store
