import Mathlib.Data.Nat.Choose.Basic
import Obulus.Search.Safety

namespace Obulus.Search

open Foundation

section Prune

theorem stateOrder_total (a b : SelectionState) : stateOrder a b ∨ stateOrder b a := by
  unfold stateOrder
  omega

theorem stateOrder_trans {a b c : SelectionState} (hab : stateOrder a b) (hbc : stateOrder b c) :
    stateOrder a c := by
  unfold stateOrder at *
  omega

instance : Std.Total stateOrder := ⟨stateOrder_total⟩

instance : IsTrans SelectionState stateOrder := ⟨fun _ _ _ => stateOrder_trans⟩

instance : Std.Total utilityOrder := ⟨fun s t => by
  unfold utilityOrder
  omega⟩

instance : IsTrans SelectionState utilityOrder := ⟨fun s t u hst htu => by
  unfold utilityOrder at *
  omega⟩

theorem negativeInfinity_add : negativeInfinity + 0.0001 = negativeInfinity := by
  decide +kernel

def retained (states : List SelectionState) : List SelectionState :=
  retainBetter negativeInfinity (states.insertionSort stateOrder)

-- the cheapest state is always retained, unless its utility is -∞ or no number
theorem retained_cheapest {states : List SelectionState} {state : SelectionState}
    (hnumber : ∀ s ∈ states, negativeInfinity < s.utility) (hstate : state ∈ states) :
    ∃ s ∈ retained states, s.spent ≤ state.spent := by
  have hsorted := List.pairwise_insertionSort stateOrder states
  have hmem : state ∈ states.insertionSort stateOrder := (List.mem_insertionSort stateOrder).mpr hstate
  unfold retained
  cases hsort : states.insertionSort stateOrder with
  | nil =>
    rw [hsort] at hmem
    cases hmem
  | cons first rest =>
    have hfirst : first ∈ states :=
      (List.mem_insertionSort stateOrder).mp (hsort ▸ List.mem_cons_self)
    rw [hsort] at hmem hsorted
    refine ⟨first, ?_, ?_⟩
    · rw [retainBetter, negativeInfinity_add, if_pos (hnumber first hfirst)]
      exact List.mem_cons_self
    · rcases List.mem_cons.mp hmem with rfl | hrest
      · exact le_rfl
      · have horder := (List.pairwise_cons.mp hsorted).1 state hrest
        unfold stateOrder at horder
        omega

theorem prune_untruncated {states : List SelectionState} (h : (retained states).length ≤ 512) :
    pruneStates states = retained states := by
  simp only [pruneStates]
  exact if_neg (by simpa [retained] using h)

theorem retained_subperm (states : List SelectionState) : (retained states).Subperm states :=
  (retainBetter_sublist _ _).subperm.trans (List.perm_insertionSort stateOrder states).subperm

theorem prune_subperm (states : List SelectionState) : (pruneStates states).Subperm states := by
  simp only [pruneStates]
  split
  · exact ((List.take_sublist _ _).subperm.trans (List.perm_insertionSort utilityOrder _).subperm).trans
      (retained_subperm states)
  · exact retained_subperm states

theorem prune_nonempty {states : List SelectionState}
    (hnumber : ∀ s ∈ states, negativeInfinity < s.utility) (h : states ≠ []) :
    ∃ s, s ∈ pruneStates states := by
  obtain ⟨state, hstate⟩ := List.exists_mem_of_ne_nil states h
  obtain ⟨s, hs, -⟩ := retained_cheapest hnumber hstate
  simp only [pruneStates]
  split
  · next hlong =>
    apply List.exists_mem_of_length_pos
    rw [List.length_take, List.length_insertionSort]
    omega
  · exact ⟨s, hs⟩

end Prune

section Graded

variable {states : List SelectionState} {least : SelectionState} {best : Float32}

structure Outdone (s t : SelectionState) : Prop where
  dearer : s.spent < t.spent
  better : s.utility + 0.0001 < t.utility
  ranked : Single.totalKey s.utility < Single.totalKey t.utility

theorem retainBetter_graded (hbest : ∀ s ∈ states, best + 0.0001 < s.utility)
    (hgraded : states.Pairwise Outdone) : retainBetter best states = states := by
  induction hgraded generalizing best with
  | nil => rfl
  | @cons state rest houtdone _ ih =>
    rw [retainBetter, if_pos (hbest state List.mem_cons_self), ih fun t ht => (houtdone t ht).better]

theorem retained_graded (hnumber : ∀ s ∈ states, negativeInfinity < s.utility)
    (hgraded : states.Pairwise Outdone) : retained states = states := by
  have hsorted : states.insertionSort stateOrder = states :=
    (hgraded.imp fun h => .inl h.dearer).insertionSort_eq
  rw [retained, hsorted]
  refine retainBetter_graded (fun s hs => ?_) hgraded
  rw [negativeInfinity_add]
  exact hnumber s hs

theorem prune_graded (hnumber : ∀ s ∈ states, negativeInfinity < s.utility)
    (hgraded : states.Pairwise Outdone) (hlength : states.length ≤ 512) : pruneStates states = states := by
  have hretained := retained_graded hnumber hgraded
  rw [prune_untruncated (by rwa [hretained]), hretained]

-- past 512 the cheapest state is lost
theorem prune_crowded (hnumber : ∀ s ∈ least :: states, negativeInfinity < s.utility)
    (hgraded : (least :: states).Pairwise Outdone) (hlength : 512 ≤ states.length) :
    least ∉ pruneStates (least :: states) := by
  have hretained := retained_graded hnumber hgraded
  have hprune : pruneStates (least :: states) =
      ((least :: states).insertionSort utilityOrder).take 512 := by
    rw [retained] at hretained
    simp only [pruneStates, hretained]
    exact if_pos (Nat.lt_succ_of_le hlength)
  rw [hprune]
  intro hkept
  have hperm := List.perm_insertionSort utilityOrder (least :: states)
  have hsorted := List.pairwise_insertionSort utilityOrder (least :: states)
  have hlong : 512 < ((least :: states).insertionSort utilityOrder).length := by
    rw [List.length_insertionSort, List.length_cons]
    omega
  obtain ⟨lost, hlost⟩ := List.exists_mem_of_length_pos
    (l := ((least :: states).insertionSort utilityOrder).drop 512) (by rw [List.length_drop]; omega)
  rw [← List.take_append_drop 512 ((least :: states).insertionSort utilityOrder)] at hsorted hperm
  have horder : utilityOrder least lost := (List.pairwise_append.mp hsorted).2.2 least hkept lost hlost
  have hnodup : (least :: states).Nodup := hgraded.imp fun h heq => (heq ▸ h.dearer).ne rfl
  have hdistinct : lost ≠ least := fun heq =>
    (List.nodup_append.mp (hperm.nodup_iff.mpr hnodup)).2.2 least hkept lost hlost heq.symm
  have hmem : lost ∈ least :: states := hperm.subset (List.mem_append_right _ hlost)
  have hranked := ((List.pairwise_cons.mp hgraded).1 lost (List.mem_of_ne_of_mem hdistinct hmem)).ranked
  unfold utilityOrder at horder
  omega

end Graded

section Choices

variable {k c : Nat} {xs : List Nat}

-- the lists of `c` indices below `k`, the least sum of powers first
def choices : Nat → Nat → List (List Nat)
  | _, 0 => [[]]
  | 0, _ + 1 => []
  | k + 1, c + 1 => choices k (c + 1) ++ (choices k c).map (· ++ [k])

def weight (xs : List Nat) : Nat := (xs.map (2 ^ ·)).sum

theorem weight_append (xs : List Nat) (k : Nat) : weight (xs ++ [k]) = weight xs + 2 ^ k := by
  simp [weight]

theorem choices_length (k c : Nat) : (choices k c).length = k.choose c := by
  induction k generalizing c with
  | zero => cases c <;> rfl
  | succ k ih =>
    cases c with
    | zero => rfl
    | succ c => rw [choices, List.length_append, List.length_map, ih, ih, Nat.choose_succ_succ, add_comm]

theorem choices_weight (h : xs ∈ choices k c) : weight xs < 2 ^ k := by
  induction k generalizing c xs with
  | zero =>
    cases c with
    | zero =>
      obtain rfl := List.mem_singleton.mp h
      decide
    | succ c => cases h
  | succ k ih =>
    have hdouble : 2 ^ (k + 1) = 2 ^ k + 2 ^ k := by rw [pow_succ, mul_two]
    cases c with
    | zero =>
      obtain rfl := List.mem_singleton.mp h
      exact Nat.two_pow_pos _
    | succ c =>
      rcases List.mem_append.mp h with hold | hnew
      · have hbound := ih hold
        omega
      · obtain ⟨ys, hys, rfl⟩ := List.mem_map.mp hnew
        have hbound := ih hys
        rw [weight_append]
        omega

theorem choices_sorted (k c : Nat) : (choices k c).Pairwise fun xs ys => weight xs < weight ys := by
  induction k generalizing c with
  | zero =>
    cases c with
    | zero => exact List.pairwise_singleton _ _
    | succ c => exact List.Pairwise.nil
  | succ k ih =>
    cases c with
    | zero => exact List.pairwise_singleton _ _
    | succ c =>
      refine List.pairwise_append.mpr ⟨ih (c + 1), ?_, ?_⟩
      · refine List.pairwise_map.mpr ((ih c).imp fun h => ?_)
        rw [weight_append, weight_append]
        omega
      · intro xs hxs ys hys
        obtain ⟨zs, -, rfl⟩ := List.mem_map.mp hys
        have hbound := choices_weight hxs
        rw [weight_append]
        omega

end Choices

end Obulus.Search
