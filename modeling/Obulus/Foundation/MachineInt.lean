import Mathlib.Tactic.Common
import Mathlib.Algebra.Order.Ring.Nat

namespace Obulus.Foundation

def UInt64.checkedAdd (a b : UInt64) : Option UInt64 :=
  if a.toNat + b.toNat < 2 ^ 64 then some (UInt64.ofNat (a.toNat + b.toNat)) else none

theorem UInt64.toNat_of_checkedAdd {a b c : UInt64} (h : UInt64.checkedAdd a b = some c) :
    c.toNat = a.toNat + b.toNat := by
  unfold UInt64.checkedAdd at h
  split at h
  · next hlt =>
    simp only [Option.some.injEq] at h
    rw [← h]
    exact UInt64.toNat_ofNat_of_lt hlt
  · simp at h

def UInt64.saturatingMul (a b : UInt64) : UInt64 :=
  if a.toNat * b.toNat < 2 ^ 64 then UInt64.ofNat (a.toNat * b.toNat) else UInt64.ofNat (2 ^ 64 - 1)

def UInt64.saturatingSub (a b : UInt64) : UInt64 :=
  UInt64.ofNat (a.toNat - b.toNat)

theorem UInt64.toNat_saturatingSub (a b : UInt64) :
    (UInt64.saturatingSub a b).toNat = a.toNat - b.toNat := by
  have ha : a.toNat < 2 ^ 64 := a.toNat_lt
  have hsub : a.toNat - b.toNat < 2 ^ 64 := (Nat.sub_le _ _).trans_lt ha
  exact UInt64.toNat_ofNat_of_lt hsub

def UInt64.saturatingAdd (a b : UInt64) : UInt64 :=
  if a.toNat + b.toNat < 2 ^ 64 then UInt64.ofNat (a.toNat + b.toNat) else UInt64.ofNat (2 ^ 64 - 1)

theorem UInt64.toNat_saturatingAdd {a b : UInt64} (h : a.toNat + b.toNat < 2 ^ 64) :
    (UInt64.saturatingAdd a b).toNat = a.toNat + b.toNat := by
  rw [UInt64.saturatingAdd, if_pos h]
  exact UInt64.toNat_ofNat_of_lt h

def Int64.checkedAdd (a b : Int64) : Option Int64 :=
  let s := a.toInt + b.toInt
  if -2 ^ 63 ≤ s ∧ s < 2 ^ 63 then some (Int64.ofInt s) else none

theorem Int64.toInt_of_checkedAdd {a b c : Int64} (h : Int64.checkedAdd a b = some c) :
    c.toInt = a.toInt + b.toInt := by
  simp only [Int64.checkedAdd] at h
  split at h
  · next hb =>
    simp only [Option.some.injEq] at h
    rw [← h]
    exact Int64.toInt_ofInt_of_le hb.1 hb.2
  · simp at h

def Int64.saturatingAdd (a b : Int64) : Int64 :=
  let s := a.toInt + b.toInt
  if s < -2 ^ 63 then Int64.minValue else if 2 ^ 63 ≤ s then Int64.maxValue else Int64.ofInt s

def Int64.ofU32 (n : UInt32) : Int64 := Int64.ofInt n.toNat

theorem Int64.toInt_ofU32 (n : UInt32) : (Int64.ofU32 n).toInt = n.toNat := by
  have h := UInt32.toNat_lt n
  exact Int64.toInt_ofInt_of_le (by omega) (by omega)

end Obulus.Foundation
