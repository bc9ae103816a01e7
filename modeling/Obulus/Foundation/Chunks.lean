import Mathlib.Data.List.Nodup
import Mathlib.Data.List.Pairwise
import Mathlib.Data.List.Sort

namespace Obulus.Foundation

variable {α β : Type} {xs ys : List α} {r : α → α → Prop} {p : α → Bool}

-- Rust's `chunks_exact(3)`
def chunksExact : List α → List (List α)
  | a :: b :: c :: rest => [a, b, c] :: chunksExact rest
  | _ => []

section Chunks

theorem chunksExact_short (h : xs.length < 3) : chunksExact xs = [] := by
  match xs with
  | [] => rfl
  | [_] => rfl
  | [_, _] => rfl
  | _ :: _ :: _ :: rest => simp at h; omega

theorem chunksExact_length {chunk : List α} (h : chunk ∈ chunksExact xs) : chunk.length = 3 := by
  induction xs using chunksExact.induct with
  | case1 a b c rest ih =>
    rcases List.mem_cons.mp h with rfl | hrest
    · rfl
    · exact ih hrest
  | case2 xs hshort =>
    rw [chunksExact] at h
    · cases h
    · exact hshort

-- the elements left over do not fill a chunk
theorem chunksExact_flatten (xs : List α) :
    ∃ rest, xs = (chunksExact xs).flatten ++ rest ∧ rest.length < 3 := by
  induction xs using chunksExact.induct with
  | case1 a b c rest ih =>
    obtain ⟨left, hleft, hshort⟩ := ih
    refine ⟨left, ?_, hshort⟩
    rw [chunksExact, List.flatten_cons, List.append_assoc, ← hleft]
    rfl
  | case2 xs hshort =>
    refine ⟨xs, ?_, ?_⟩
    · rw [chunksExact]
      · rfl
      · exact hshort
    · match xs with
      | [] => simp
      | [_] => simp
      | [_, _] => simp
      | a :: b :: c :: rest => exact absurd rfl (hshort a b c rest)

theorem chunksExact_append (xs ys : List α) : chunksExact xs <+: chunksExact (xs ++ ys) := by
  induction xs using chunksExact.induct with
  | case1 a b c rest ih =>
    simp only [List.cons_append, chunksExact]
    exact (List.prefix_cons_inj _).mpr ih
  | case2 xs hshort =>
    rw [chunksExact]
    · exact List.nil_prefix
    · exact hshort

theorem chunksExact_sublist (xs : List α) : (chunksExact xs).flatten.Sublist xs := by
  obtain ⟨rest, hrest, -⟩ := chunksExact_flatten xs
  conv_rhs => rw [hrest]
  exact List.sublist_append_left _ rest

theorem chunksExact_pairwise (h : xs.Pairwise r) :
    (chunksExact xs).Pairwise fun c d => ∀ a ∈ c, ∀ b ∈ d, r a b :=
  (List.pairwise_flatten.mp (h.sublist (chunksExact_sublist xs))).2

end Chunks

section Shared

theorem eq_of_shared {f : α → List β} (h : (xs.flatMap f).Nodup) {a b : α} (ha : a ∈ xs)
    (hb : b ∈ xs) {s : β} (hsa : s ∈ f a) (hsb : s ∈ f b) : a = b := by
  have hsymm : Std.Symm (Function.onFun List.Disjoint f) := ⟨fun _ _ hab _ hb ha => hab ha hb⟩
  by_contra hne
  exact (List.nodup_flatMap.mp h).2.forall ha hb hne hsa hsb

end Shared

section Sorted

-- what a sort makes of the elements that already stand in strict order
theorem filter_insertionSort [DecidableRel r] [Std.Total r] [IsTrans α r]
    (hstrict : ∀ a b, a ∈ xs → b ∈ xs → p a = true → p b = true → r a b → r b a → a = b)
    (h : (xs.filter p).Pairwise r) : (xs.insertionSort r).filter p = xs.filter p := by
  have hperm : ((xs.insertionSort r).filter p).Perm (xs.filter p) :=
    (List.perm_insertionSort r xs).filter p
  have hsorted : ((xs.insertionSort r).filter p).Pairwise r :=
    (List.pairwise_insertionSort r xs).filter p
  refine hperm.eq_of_pairwise ?_ hsorted h
  intro a b ha hb
  have ha' := List.mem_filter.mp (hperm.mem_iff.mp ha)
  have hb' := List.mem_filter.mp hb
  exact hstrict a b ha'.1 hb'.1 ha'.2 hb'.2

-- of a list with the largest first, what holds of enough elements holds of the first ones
theorem take_of_countP {key : α → Nat} (hsorted : xs.Pairwise fun a b => key b ≤ key a)
    (hup : ∀ a b, p a = true → key a ≤ key b → p b = true) {n : Nat} (h : n ≤ xs.countP p) :
    ∀ x ∈ xs.take n, p x = true := by
  induction xs generalizing n with
  | nil =>
    intro x hx
    rw [List.take_nil] at hx
    cases hx
  | cons a xs ih =>
    cases n with
    | zero =>
      intro x hx
      cases hx
    | succ n =>
      obtain ⟨hhead, htail⟩ := List.pairwise_cons.mp hsorted
      have ha : p a = true := by
        by_contra hno
        have hnone : xs.countP p = 0 := by
          rw [List.countP_eq_zero]
          intro b hb hpb
          exact hno (hup b a hpb (hhead b hb))
        rw [List.countP_cons, hnone, if_neg hno] at h
        omega
      intro x hx
      rw [List.take_succ_cons] at hx
      rcases List.mem_cons.mp hx with rfl | hx
      · exact ha
      · refine ih htail ?_ x hx
        rw [List.countP_cons, if_pos ha] at h
        omega

end Sorted

end Obulus.Foundation
