import Mathlib.Data.List.Nodup

namespace Obulus.Foundation

section Paging

variable {α : Type} [DecidableEq α] {a b : α} {l new : List α} {before : Option α} {n : Nat}

-- what a newest-first log holds after a cursor
def older : Option α → List α → List α
  | none, l => l
  | some a, l => (l.dropWhile (· ≠ a)).tail

theorem older_split {xs ys : List α} (h : a ∉ xs) : older (some a) (xs ++ a :: ys) = ys := by
  have hdrop : (xs ++ a :: ys).dropWhile (· ≠ a) = a :: ys := by
    induction xs with
    | nil => simp
    | cons x xs ih =>
      obtain ⟨hx, hxs⟩ := not_or.mp (List.mem_cons.not.mp h)
      simpa [Ne.symm hx] using ih hxs
  simp only [older, hdrop, List.tail_cons]

theorem older_suffix (before : Option α) (l : List α) : older before l <:+ l := by
  cases before with
  | none => exact List.suffix_rfl
  | some a => exact (List.tail_suffix _).trans (List.dropWhile_suffix _)

theorem older_grow (hnodup : (new ++ l).Nodup) (ha : a ∈ l) :
    older (some a) (new ++ l) = older (some a) l := by
  obtain ⟨xs, ys, rfl⟩ := List.append_of_mem ha
  have hnew : a ∉ new ++ xs := by
    rw [← List.append_assoc] at hnodup
    exact fun h => (List.nodup_append.mp hnodup).2.2 a h a (by simp) rfl
  have hxs : a ∉ xs := fun h => hnew (List.mem_append_right new h)
  rw [← List.append_assoc, older_split hnew, older_split hxs]

theorem older_last (hnodup : l.Nodup) (ha : ((older before l).take n).getLast? = some a) :
    older (some a) l = (older before l).drop n := by
  obtain ⟨xs, hxs⟩ := older_suffix before l
  obtain ⟨ys, hys⟩ := List.getLast?_eq_some_iff.mp ha
  have hsplit : l = (xs ++ ys) ++ a :: (older before l).drop n := by
    conv_lhs => rw [← hxs, ← List.take_append_drop n (older before l), hys]
    simp
  have hnew : a ∉ xs ++ ys := by
    rw [hsplit] at hnodup
    exact fun h => (List.nodup_append.mp hnodup).2.2 a h a (by simp) rfl
  calc older (some a) l = older (some a) ((xs ++ ys) ++ a :: (older before l).drop n) := by
        rw [← hsplit]
    _ = (older before l).drop n := older_split hnew

end Paging

end Obulus.Foundation
