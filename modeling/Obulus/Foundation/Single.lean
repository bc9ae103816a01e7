import Mathlib.Algebra.Order.Ring.Int
import Mathlib.Tactic.Common

-- `f32` of the source is Lean's `Float32`; here is what its standard library adds
namespace Obulus.Foundation.Single

def epsilon : Float32 := .ofBits 0x34000000

def max (a b : Float32) : Float32 :=
  if a.isNaN then b else if b.isNaN then a else if a < b then b else a

def clamp (lower upper x : Float32) : Float32 :=
  let x := if x < lower then lower else x
  if upper < x then upper else x

def sum (xs : List Float32) : Float32 :=
  xs.foldl (· + ·) (-0.0)

-- `total_cmp` compares these keys
def totalKey (x : Float32) : Int :=
  let bits : Int := x.toBits.toNat
  if bits < 2 ^ 31 then bits else 2 ^ 31 - 1 - bits

-- half way cases away from zero
def round (x : Float32) : Float32 :=
  if x.isFinite = false ∨ Float32.ofNat (2 ^ 23) ≤ x.abs then x
  else
    let whole := x.abs.toUInt32.toFloat32
    let magnitude := if x.abs - whole < 0.5 then whole else whole + 1
    if totalKey x < 0 then -magnitude else magnitude

-- the last of the elements with the greatest key
def maxBy {α : Type} (key : α → Int) : List α → Option α
  | [] => none
  | a :: as => some (as.foldl (fun best b => if key b < key best then best else b) a)

section Zero

open Float.Model (UnpackedFloat)

variable {x c : Float32}

theorem unpack_zero : (0 : Float32).toModel.unpack = .zero .positive := rfl

theorem unpack_pack_zero (s : UnpackedFloat.Sign) :
    (Float32.Model.pack (.zero s)).unpack = .zero s := by
  cases s <;> rfl

theorem unpack_of_beq_zero (h : (x == 0) = true) : ∃ s, x.toModel.unpack = .zero s := by
  have hcompare : x.toModel.unpack.compare (0 : Float32).toModel.unpack = some .eq := by
    simpa using (show (x.toModel.unpack.compare (0 : Float32).toModel.unpack == some .eq) = true from h)
  rw [unpack_zero] at hcompare
  cases hx : x.toModel.unpack with
  | zero s => exact ⟨s, rfl⟩
  | notANumber =>
    rw [hx] at hcompare
    cases hcompare
  | infinity s =>
    rw [hx] at hcompare
    cases s <;> cases hcompare
  | finite s m e hm =>
    rw [hx] at hcompare
    cases s <;> cases hcompare

theorem not_pos_of_unpack_zero {s : UnpackedFloat.Sign} (h : x.toModel.unpack = .zero s) :
    ¬0 < x := by
  intro hlt
  have hlt' : ((0 : Float32).toModel.unpack.compare x.toModel.unpack == some .lt) = true :=
    of_decide_eq_true hlt
  rw [unpack_zero, h] at hlt'
  cases hlt'

theorem not_pos_of_beq_zero (h : (x == 0) = true) : ¬0 < x := by
  obtain ⟨s, hs⟩ := unpack_of_beq_zero h
  exact not_pos_of_unpack_zero hs

theorem not_pos_mul (h : (x == 0) = true) (hc : c.isFinite = true) : ¬0 < x * c := by
  obtain ⟨s, hs⟩ := unpack_of_beq_zero h
  have hfinite : c.toModel.unpack.isFinite = true := hc
  have hmul : (x * c).toModel = .pack (.mul .binary32 x.toModel.unpack c.toModel.unpack) := rfl
  obtain ⟨s', hs'⟩ : ∃ s', (x * c).toModel.unpack = .zero s' := by
    rw [hmul, hs]
    cases hcu : c.toModel.unpack with
    | zero s₂ => exact ⟨s * s₂, unpack_pack_zero (s * s₂)⟩
    | finite s₂ m e hm => exact ⟨s * s₂, unpack_pack_zero (s * s₂)⟩
    | notANumber =>
      rw [hcu] at hfinite
      cases hfinite
    | infinity s₂ =>
      rw [hcu] at hfinite
      cases hfinite
  exact not_pos_of_unpack_zero hs'

end Zero

section Order

open Float.Model (UnpackedFloat)

variable {x y lower upper : Float32}

theorem unpacked_swap (a b : UnpackedFloat) : (a.compare b).map Ordering.swap = b.compare a := by
  cases a with
  | notANumber => cases b <;> rfl
  | infinity s =>
    cases b with
    | notANumber => cases s <;> rfl
    | _ t => cases s <;> first | rfl | (cases t <;> rfl)
  | zero s =>
    cases b with
    | finite t m e hm => cases t <;> rfl
    | infinity t => cases t <;> rfl
    | _ => rfl
  | finite s m e hm =>
    cases b with
    | finite t n f hn =>
      have hswap : ((compare e f).then (compare m n)).swap = (compare f e).then (compare n m) := by
        rw [Ordering.swap_then, Int.compare_swap, Nat.compare_swap]
      cases s <;> cases t
      · exact congrArg some (congrArg Ordering.swap hswap)
      · rfl
      · rfl
      · exact congrArg some hswap
    | infinity t => cases s <;> cases t <;> rfl
    | _ => cases s <;> rfl

theorem unpacked_comparable {a b : UnpackedFloat} (ha : a.isNaN = false) (hb : b.isNaN = false) :
    (a.compare b).isSome = true := by
  cases a with
  | notANumber => cases ha
  | infinity s =>
    cases b with
    | notANumber => cases hb
    | infinity t => rfl
    | _ => cases s <;> rfl
  | zero s =>
    cases b with
    | notANumber => cases hb
    | zero t => rfl
    | infinity t => cases t <;> rfl
    | finite t n f hn => cases t <;> rfl
  | finite s m e hm =>
    cases b with
    | notANumber => cases hb
    | zero t => cases s <;> rfl
    | infinity t => cases s <;> cases t <;> rfl
    | finite t n f hn => cases s <;> cases t <;> rfl

theorem lt_iff : x < y ↔ x.toModel.unpack.compare y.toModel.unpack = some .lt := by
  have hmodel : x < y ↔ decide (x.toModel < y.toModel) = true := Iff.rfl
  have hlt : x.toModel < y.toModel ↔ (x.toModel.unpack.compare y.toModel.unpack == some .lt) = true :=
    Iff.rfl
  rw [hmodel, decide_eq_true_iff, hlt, beq_iff_eq]

theorem le_iff : x ≤ y ↔ (x.toModel.unpack.compare y.toModel.unpack).any Ordering.isLE = true := by
  have hmodel : x ≤ y ↔ decide (x.toModel ≤ y.toModel) = true := Iff.rfl
  rw [hmodel, decide_eq_true_iff]
  rfl

theorem le_of_not_lt (hx : x.isNaN = false) (hy : y.isNaN = false) (h : ¬x < y) : y ≤ x := by
  obtain ⟨order, horder⟩ := Option.isSome_iff_exists.mp (unpacked_comparable hx hy)
  rw [lt_iff, horder, Option.some.injEq] at h
  rw [le_iff, ← unpacked_swap, horder]
  cases order with
  | lt => exact absurd rfl h
  | _ => rfl

theorem lt_irrefl (x : Float32) : ¬x < x := by
  rw [lt_iff]
  intro h
  have hswap := unpacked_swap x.toModel.unpack x.toModel.unpack
  rw [h] at hswap
  cases hswap

theorem clamp_within (hlower : lower.isNaN = false) (hupper : upper.isNaN = false)
    (hx : x.isNaN = false) (hbounds : ¬upper < lower) :
    lower ≤ clamp lower upper x ∧ clamp lower upper x ≤ upper := by
  obtain ⟨raised, hraised, hnumber, hnot⟩ : ∃ raised, (if x < lower then lower else x) = raised ∧
      raised.isNaN = false ∧ ¬raised < lower := by
    by_cases h : x < lower
    · exact ⟨lower, if_pos h, hlower, lt_irrefl lower⟩
    · exact ⟨x, if_neg h, hx, h⟩
  rw [clamp, hraised]
  split
  · exact ⟨le_of_not_lt hupper hlower hbounds, le_of_not_lt hupper hupper (lt_irrefl upper)⟩
  · next hbelow => exact ⟨le_of_not_lt hnumber hlower hnot, le_of_not_lt hupper hnumber hbelow⟩

end Order

example : round (-2.5) = -3 := by decide +kernel

end Obulus.Foundation.Single
