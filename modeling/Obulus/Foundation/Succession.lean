import Mathlib.Logic.Relation

namespace Obulus.Foundation

open Relation

universe u

variable {α : Type u} {r : α → α → Prop} {m n x y z : α} {rank : α → Nat}

-- `n` succeeds `m`, besides what succeeded before
def Succeeding (r : α → α → Prop) (m n : α) (x y : α) : Prop := r x y ∨ (x = m ∧ y = n)

-- two of one line of succession
def Kin (r : α → α → Prop) (x y : α) : Prop := ∃ root, ReflTransGen r root x ∧ ReflTransGen r root y

section Ranks

theorem Kin.symm (h : Kin r x y) : Kin r y x := by
  obtain ⟨root, hx, hy⟩ := h
  exact ⟨root, hy, hx⟩

theorem Kin.total (hunique : Relator.RightUnique r) (h : Kin r x y) :
    ReflTransGen r x y ∨ ReflTransGen r y x := by
  obtain ⟨root, hx, hy⟩ := h
  exact ReflTransGen.total_of_right_unique hunique hx hy

theorem rank_le (hrank : ∀ x y, r x y → rank x < rank y) (h : ReflTransGen r x y) :
    x = y ∨ rank x < rank y := by
  induction h with
  | refl => exact .inl rfl
  | tail _ hstep ih =>
    right
    have hnext := hrank _ _ hstep
    rcases ih with rfl | ih
    · exact hnext
    · omega

theorem Kin.eq_of_rank (hunique : Relator.RightUnique r) (hrank : ∀ x y, r x y → rank x < rank y)
    (h : Kin r x y) (heq : rank x = rank y) : x = y := by
  rcases h.total hunique with hxy | hyx
  · rcases rank_le hrank hxy with rfl | hlt
    · rfl
    · omega
  · rcases rank_le hrank hyx with rfl | hlt
    · rfl
    · omega

end Ranks

section Extension

theorem succeeding_rightUnique (hunique : Relator.RightUnique r) (hlast : ∀ y, ¬r m y) :
    Relator.RightUnique (Succeeding r m n) := by
  rintro x y z (hxy | ⟨rfl, rfl⟩) (hxz | ⟨hx, rfl⟩)
  · exact hunique hxy hxz
  · exact absurd (hx ▸ hxy) (hlast y)
  · exact absurd hxz (hlast z)
  · rfl

variable (hin : ∀ x, ¬r x n) (hout : ∀ y, ¬r n y)

include hout in
theorem reach_succeeding : ReflTransGen (Succeeding r m n) x y ↔
    ReflTransGen r x y ∨ (y = n ∧ ReflTransGen r x m) := by
  constructor
  · intro h
    induction h with
    | refl => exact .inl .refl
    | @tail b c _ hstep ih =>
      rcases hstep with hstep | ⟨rfl, rfl⟩
      · rcases ih with ih | ⟨rfl, -⟩
        · exact .inl (ih.tail hstep)
        · exact absurd hstep (hout c)
      · rcases ih with ih | ⟨-, ih⟩
        · exact .inr ⟨rfl, ih⟩
        · exact .inr ⟨rfl, ih⟩
  · rintro (h | ⟨rfl, h⟩)
    · exact ReflTransGen.mono (fun _ _ hstep => Or.inl hstep) _ _ h
    · have hold : ReflTransGen (Succeeding r m y) x m :=
        ReflTransGen.mono (fun _ _ hstep => Or.inl hstep) _ _ h
      exact hold.tail (.inr ⟨rfl, rfl⟩)

include hin in
theorem reach_last (h : ReflTransGen r x n) : x = n := by
  rcases ReflTransGen.cases_tail h with h | ⟨b, -, hstep⟩
  · exact h.symm
  · exact absurd hstep (hin b)

include hin hout in
theorem kin_alone (h : Kin r n x) : x = n := by
  obtain ⟨root, hn, hx⟩ := h
  obtain rfl := reach_last hin hn
  rcases ReflTransGen.cases_head hx with hx | ⟨c, hstep, -⟩
  · exact hx.symm
  · exact absurd hstep (hout c)

include hin hout in
theorem kin_succeeding (h : Kin (Succeeding r m n) x y) (hx : x ≠ n) (hy : y ≠ n) : Kin r x y := by
  obtain ⟨root, hrx, hry⟩ := h
  rw [reach_succeeding hout] at hrx hry
  rcases hrx with hrx | ⟨rfl, -⟩
  · rcases hry with hry | ⟨rfl, -⟩
    · exact ⟨root, hrx, hry⟩
    · exact absurd rfl hy
  · exact absurd rfl hx

include hin hout in
theorem kin_succeeding_last (h : Kin (Succeeding r m n) x n) (hx : x ≠ n) : Kin r x m := by
  obtain ⟨root, hrx, hrn⟩ := h
  rw [reach_succeeding hout] at hrx hrn
  rcases hrx with hrx | ⟨rfl, -⟩
  · rcases hrn with hrn | ⟨-, hrn⟩
    · have hroot := reach_last hin hrn
      rcases ReflTransGen.cases_head (hroot ▸ hrx) with h | ⟨c, hstep, -⟩
      · exact absurd h.symm hx
      · exact absurd hstep (hout c)
    · exact ⟨root, hrx, hrn⟩
  · exact absurd rfl hx

theorem Kin.mono {r' : α → α → Prop} (hle : ∀ x y, r x y → r' x y) (h : Kin r x y) : Kin r' x y := by
  obtain ⟨root, hx, hy⟩ := h
  exact ⟨root, ReflTransGen.mono hle _ _ hx, ReflTransGen.mono hle _ _ hy⟩

end Extension

end Obulus.Foundation
