import Mathlib.Data.List.Basic

namespace Obulus.Foundation

variable {α β : Type}

inductive Interleaving : List α → List α → List α → Prop
  | nil : Interleaving [] [] []
  | left {a : α} {xs ys zs : List α} :
      Interleaving xs ys zs → Interleaving (a :: xs) ys (a :: zs)
  | right {a : α} {xs ys zs : List α} :
      Interleaving xs ys zs → Interleaving xs (a :: ys) (a :: zs)

namespace Interleaving

variable {xs ys zs : List α}

theorem nil_left (ys : List α) : Interleaving [] ys ys := by
  induction ys with
  | nil => exact .nil
  | cons y ys ih => exact .right ih

theorem of_nil_left (h : Interleaving [] ys zs) : zs = ys := by
  generalize hxs : ([] : List α) = xs at h
  induction h with
  | nil => rfl
  | left _ _ => cases hxs
  | right _ ih => rw [ih hxs]

theorem ne_nil (h : Interleaving xs ys zs) (hxs : xs ≠ []) : zs ≠ [] := by
  induction h with
  | nil => exact hxs
  | left _ _ => simp
  | right _ _ => simp

theorem filter (p : α → Bool) (h : Interleaving xs ys zs) :
    Interleaving (xs.filter p) (ys.filter p) (zs.filter p) := by
  induction h with
  | nil => exact .nil
  | @left a xs ys zs _ ih =>
    cases hp : p a with
    | true => simpa [hp] using ih.left
    | false => simpa [hp] using ih
  | @right a xs ys zs _ ih =>
    cases hp : p a with
    | true => simpa [hp] using ih.right
    | false => simpa [hp] using ih

-- the second list is inert for what is computed of the merge

theorem filterMap_eq {f : α → Option β} (h : Interleaving xs ys zs)
    (hf : ∀ a ∈ ys, f a = none) : zs.filterMap f = xs.filterMap f := by
  induction h with
  | nil => rfl
  | left _ ih => rw [List.filterMap_cons, List.filterMap_cons, ih hf]
  | @right a xs ys zs _ ih =>
    have ha := hf a List.mem_cons_self
    rw [List.filterMap_cons_none ha]
    exact ih fun b hb => hf b (List.mem_cons_of_mem _ hb)

theorem any_eq {p : α → Bool} (h : Interleaving xs ys zs) (hp : ∀ a ∈ ys, p a = false) :
    zs.any p = xs.any p := by
  induction h with
  | nil => rfl
  | left _ ih => rw [List.any_cons, List.any_cons, ih hp]
  | @right a xs ys zs _ ih =>
    have ha := hp a List.mem_cons_self
    rw [List.any_cons, ha, Bool.false_or]
    exact ih fun b hb => hp b (List.mem_cons_of_mem _ hb)

end Interleaving

end Obulus.Foundation
