import Mathlib.Data.List.Nodup
import Mathlib.Data.List.Basic

namespace Obulus.Foundation

universe u v

structure Table {ρ : Type u} {κ : Type v} (key : ρ → κ) where
  rows : List ρ
  nodup : (rows.map key).Nodup

theorem eq_of_nodup_filterMap {α : Type u} {β : Type v} {f : α → Option β} {l : List α} {a b : α}
    {x : β} (hn : (l.filterMap f).Nodup) (ha : a ∈ l) (hb : b ∈ l) (hfa : f a = some x)
    (hfb : f b = some x) : a = b := by
  induction l with
  | nil => simp at ha
  | cons c l ih =>
    cases hc : f c with
    | none =>
      have hac : a ≠ c := by
        rintro rfl
        simp [hc] at hfa
      have hbc : b ≠ c := by
        rintro rfl
        simp [hc] at hfb
      rw [List.filterMap_cons_none hc] at hn
      exact ih hn (List.mem_of_ne_of_mem hac ha) (List.mem_of_ne_of_mem hbc hb)
    | some y =>
      rw [List.filterMap_cons_some hc, List.nodup_cons] at hn
      have hout (d : α) (hd : d ∈ l) (hfd : f d = some x) : y ≠ x := by
        rintro rfl
        exact hn.1 (List.mem_filterMap.mpr ⟨d, hd, hfd⟩)
      rcases List.mem_cons.mp ha with hac | hal
      · rcases List.mem_cons.mp hb with hbc | hbl
        · exact hac.trans hbc.symm
        · exact absurd (Option.some.inj (hc.symm.trans (hac ▸ hfa))) (hout b hbl hfb)
      · rcases List.mem_cons.mp hb with hbc | hbl
        · exact absurd (Option.some.inj (hc.symm.trans (hbc ▸ hfb))) (hout a hal hfa)
        · exact ih hn.2 hal hbl

namespace Table

variable {ρ : Type u} {κ : Type v} {key : ρ → κ}

def empty : Table key where
  rows := []
  nodup := by simp

theorem map_key_update (rows : List ρ) (p : ρ → Bool) {f : ρ → ρ} (hf : ∀ r, key (f r) = key r) :
    (rows.map fun r => if p r then f r else r).map key = rows.map key := by
  rw [List.map_map]
  apply List.map_congr_left
  intro r _
  simp only [Function.comp]
  split
  · exact hf r
  · rfl

def update (t : Table key) (p : ρ → Bool) (f : ρ → ρ) (hf : ∀ r, key (f r) = key r) :
    Table key where
  rows := t.rows.map fun r => if p r then f r else r
  nodup := by
    rw [map_key_update t.rows p hf]
    exact t.nodup

def delete (t : Table key) (p : ρ → Bool) : Table key where
  rows := t.rows.filter fun r => !p r
  nodup := (List.filter_sublist.map key).nodup t.nodup

def map {σ : Type u} {key' : σ → κ} (t : Table key) (f : ρ → σ) (hf : ∀ r, key' (f r) = key r) :
    Table key' where
  rows := t.rows.map f
  nodup := by
    have hkeys : key' ∘ f = key := funext hf
    rw [List.map_map, hkeys]
    exact t.nodup

variable {t t' : Table key} {k : κ} {r r' : ρ} {p : ρ → Bool} {f : ρ → ρ}
  {hf : ∀ r, key (f r) = key r}

theorem mem_update : r' ∈ (t.update p f hf).rows ↔ ∃ r ∈ t.rows, (if p r then f r else r) = r' := by
  simp [update]

theorem keys_update : (t.update p f hf).rows.map key = t.rows.map key :=
  map_key_update t.rows p hf

theorem delete_of_none (h : ∀ r ∈ t.rows, p r = false) : t.delete p = t := by
  have hrows : (t.delete p).rows = t.rows := by
    simp only [delete, List.filter_eq_self]
    intro r hr
    simp [h r hr]
  cases t
  simp only [delete, Table.mk.injEq] at hrows ⊢
  exact hrows

variable [DecidableEq κ]

def get? (t : Table key) (k : κ) : Option ρ :=
  t.rows.find? fun r => key r = k

def insert? (t : Table key) (r : ρ) : Option (Table key) :=
  if h : key r ∈ t.rows.map key then none
  else some
    { rows := t.rows ++ [r]
      nodup := by
        rw [List.map_append, List.nodup_append]
        refine ⟨t.nodup, by simp, ?_⟩
        rintro a ha b hb rfl
        simp only [List.map_cons, List.map_nil, List.mem_singleton] at hb
        exact h (hb ▸ ha) }

theorem find?_key {rows : List ρ} (hn : (rows.map key).Nodup) :
    rows.find? (fun r => key r = k) = some r ↔ r ∈ rows ∧ key r = k := by
  constructor
  · intro h
    exact ⟨List.mem_of_find?_eq_some h, by simpa using List.find?_some h⟩
  · rintro ⟨hr, rfl⟩
    induction rows with
    | nil => simp at hr
    | cons a rows ih =>
      simp only [List.map_cons, List.nodup_cons, List.mem_map, not_exists, not_and] at hn
      rcases List.mem_cons.mp hr with rfl | hr
      · simp
      · have hne : key a ≠ key r := fun h => hn.1 r hr h.symm
        rw [List.find?_cons_of_neg (by simpa using hne)]
        exact ih hn.2 hr

theorem get?_eq_some : t.get? k = some r ↔ r ∈ t.rows ∧ key r = k :=
  find?_key t.nodup

theorem get?_key (h : t.get? k = some r) : key r = k :=
  (get?_eq_some.mp h).2

theorem get?_mem (h : t.get? k = some r) : r ∈ t.rows :=
  (get?_eq_some.mp h).1

theorem get?_of_mem (h : r ∈ t.rows) : t.get? (key r) = some r :=
  get?_eq_some.mpr ⟨h, rfl⟩

theorem get?_eq_none : t.get? k = none ↔ ∀ r ∈ t.rows, key r ≠ k := by
  simp [get?]

@[simp] theorem get?_empty : (empty : Table key).get? k = none := rfl

@[simp] theorem get?_update :
    (t.update p f hf).get? k = (t.get? k).map fun r => if p r then f r else r := by
  simp only [get?, update, List.find?_map]
  have hp : ((fun r => decide (key r = k)) ∘ fun r => if p r then f r else r) =
      fun r => decide (key r = k) := by
    funext r
    simp only [Function.comp]
    split
    · rw [hf]
    · rfl
  rw [hp]

theorem update_keeps {P : ρ → Prop} (hf : ∀ r, key (f r) = key r) (h : ∃ r, t.get? k = some r ∧ P r)
    (hP : ∀ r, p r = true → P r → P (f r)) :
    ∃ r, (t.update p f hf).get? k = some r ∧ P r := by
  obtain ⟨r, hr, hPr⟩ := h
  refine ⟨if p r then f r else r, by simp [hr], ?_⟩
  split
  · next hp => exact hP r hp hPr
  · exact hPr

theorem get?_delete : (t.delete p).get? k = (t.get? k).filter fun r => !p r := by
  rcases h : t.get? k with _ | r
  · rw [get?_eq_none] at h
    simp only [Option.filter_none, get?_eq_none]
    intro r hr
    exact h r (List.mem_of_mem_filter hr)
  · cases hp : p r with
    | true =>
      simp only [Option.filter_some, hp, Bool.not_true, Bool.false_eq_true, ↓reduceIte,
        get?_eq_none]
      intro r' hr' hk
      simp only [delete, List.mem_filter, Bool.not_eq_true'] at hr'
      have h' : t.get? k = some r' := get?_eq_some.mpr ⟨hr'.1, hk⟩
      rw [h, Option.some.injEq] at h'
      subst h'
      simp [hp] at hr'
    | false =>
      simp only [Option.filter_some, hp, Bool.not_false, ↓reduceIte, get?_eq_some]
      refine ⟨?_, get?_key h⟩
      simp only [delete, List.mem_filter]
      exact ⟨get?_mem h, by simp [hp]⟩

theorem get?_delete_other {k' : κ} (h : k' ≠ k) :
    (t.delete fun r => decide (key r = k')).get? k = t.get? k := by
  rw [get?_delete]
  cases hget : t.get? k with
  | none => rfl
  | some r =>
    have hkey := get?_key hget
    have hne : ¬key r = k' := fun hk => h (hk.symm.trans hkey)
    simp [hne]

theorem insert?_eq_some : t.insert? r = some t' ↔ t.get? (key r) = none ∧ t'.rows = t.rows ++ [r] := by
  unfold insert?
  split
  · rename_i h
    simp only [reduceCtorEq, false_iff, not_and, get?_eq_none]
    intro hn
    obtain ⟨r', hr', hk⟩ := List.mem_map.mp h
    exact absurd hk (hn r' hr')
  · rename_i h
    simp only [Option.some.injEq, get?_eq_none]
    constructor
    · rintro rfl
      refine ⟨fun r' hr' hk => h (List.mem_map.mpr ⟨r', hr', hk⟩), rfl⟩
    · rintro ⟨-, hrows⟩
      cases t'
      simp only at hrows
      subst hrows
      rfl

theorem insert?_eq_none : t.insert? r = none ↔ ∃ r' ∈ t.rows, key r' = key r := by
  unfold insert?
  split
  · next h => simpa using List.mem_map.mp h
  · next h => simpa using h

theorem get?_insert? (h : t.insert? r = some t') :
    t'.get? k = if key r = k then some r else t.get? k := by
  obtain ⟨hnone, hrows⟩ := insert?_eq_some.mp h
  simp only [get?, hrows, List.find?_append]
  by_cases hk : key r = k
  · subst hk
    have hfind : (t.rows.find? fun r' => decide (key r' = key r)) = none := hnone
    rw [hfind]
    simp
  · simp [hk]

def put (t : Table key) (r : ρ) : Table key where
  rows :=
    if key r ∈ t.rows.map key then t.rows.map fun r' => if key r' = key r then r else r'
    else t.rows ++ [r]
  nodup := by
    split
    · have hkeys : (t.rows.map fun r' => if key r' = key r then r else r').map key =
          t.rows.map key := by
        rw [List.map_map]
        apply List.map_congr_left
        intro r' _
        simp only [Function.comp]
        split
        · next h => exact h.symm
        · rfl
      rw [hkeys]
      exact t.nodup
    · next h =>
      rw [List.map_append, List.nodup_append]
      refine ⟨t.nodup, by simp, ?_⟩
      rintro a ha b hb rfl
      simp only [List.map_cons, List.map_nil, List.mem_singleton] at hb
      exact h (hb ▸ ha)

theorem find?_replace {rows : List ρ} :
    (rows.map fun r' => if key r' = key r then r else r').find? (fun r' => key r' = k) =
      if key r = k then (rows.find? fun r' => key r' = k).map fun _ => r
      else rows.find? fun r' => key r' = k := by
  induction rows with
  | nil => simp
  | cons a rows ih =>
    rw [List.map_cons, List.find?_cons, List.find?_cons, ih]
    by_cases hr : key r = k
    · by_cases ha : key a = k
      · simp [hr, ha]
      · simp [hr, ha]
    · by_cases ha : key a = key r
      · simp [hr, ha]
      · by_cases hak : key a = k
        · have hne : ¬k = key r := fun h => hr h.symm
          simp [hr, hak, hne]
        · simp [hr, ha, hak]

theorem get?_put : (t.put r).get? k = if key r = k then some r else t.get? k := by
  by_cases hmem : key r ∈ t.rows.map key
  · have hrows : (t.put r).rows = t.rows.map fun r' => if key r' = key r then r else r' := if_pos hmem
    obtain ⟨r', hr', hkey⟩ := List.mem_map.mp hmem
    rw [get?, hrows, find?_replace]
    split
    · next h =>
      subst h
      have hget : t.rows.find? (fun a => decide (key a = key r)) = some r' :=
        get?_eq_some.mpr ⟨hr', hkey⟩
      rw [hget]
      rfl
    · rfl
  · have hinsert : t.insert? r = some (t.put r) := by
      rw [insert?_eq_some, get?_eq_none]
      refine ⟨fun r' hr' hkey => hmem (List.mem_map.mpr ⟨r', hr', hkey⟩), if_neg hmem⟩
    exact get?_insert? hinsert

theorem get?_put_other (h : k ≠ key r) : (t.put r).get? k = t.get? k := by
  rw [get?_put, if_neg h.symm]

theorem put_eq_insert? (h : t.get? (key r) = none) : t.insert? r = some (t.put r) := by
  have hmem : key r ∉ t.rows.map key := by
    intro hmem
    obtain ⟨r', hr', hkey⟩ := List.mem_map.mp hmem
    exact get?_eq_none.mp h r' hr' hkey
  exact insert?_eq_some.mpr ⟨h, if_neg hmem⟩

theorem countP_replace {rows : List ρ} {P : ρ → Bool} (hn : (rows.map key).Nodup) (hold : r' ∈ rows)
    (hkey : key r' = key r) :
    (rows.map fun a => if key a = key r then r else a).countP P + (if P r' then 1 else 0) =
      rows.countP P + if P r then 1 else 0 := by
  induction rows with
  | nil => simp at hold
  | cons a rows ih =>
    simp only [List.map_cons, List.nodup_cons, List.mem_map, not_exists, not_and] at hn
    rcases List.mem_cons.mp hold with rfl | hold
    · have hrest : rows.map (fun a => if key a = key r then r else a) = rows := by
        refine (List.map_congr_left ?_).trans (List.map_id rows)
        intro b hb
        have hne : ¬key b = key r := fun h => hn.1 b hb (h.trans hkey.symm)
        exact if_neg hne
      rw [List.map_cons, hrest, if_pos hkey, List.countP_cons, List.countP_cons]
      omega
    · have hne : ¬key a = key r := fun h => hn.1 r' hold (hkey.trans h.symm)
      have hrest := ih hn.2 hold
      rw [List.map_cons, if_neg hne, List.countP_cons, List.countP_cons]
      omega

theorem countP_put {P : ρ → Bool} :
    (t.put r).rows.countP P + (if (t.get? (key r)).any P then 1 else 0) =
      t.rows.countP P + if P r then 1 else 0 := by
  cases hget : t.get? (key r) with
  | none =>
    rw [(insert?_eq_some.mp (put_eq_insert? hget)).2, List.countP_append]
    simp [List.countP_cons]
  | some r' =>
    obtain ⟨hmem, hkey⟩ := get?_eq_some.mp hget
    have hrows : (t.put r).rows = t.rows.map fun a => if key a = key r then r else a :=
      if_pos (List.mem_map.mpr ⟨r', hmem, hkey⟩)
    rw [hrows]
    exact countP_replace t.nodup hmem hkey

theorem filter_key (h : t.get? k = some r) : t.rows.filter (fun r => decide (key r = k)) = [r] := by
  have hnodup : (t.rows.filter fun r => decide (key r = k)).Nodup :=
    List.filter_sublist.nodup (List.Nodup.of_map key t.nodup)
  have hall : ∀ r' ∈ t.rows.filter (fun r => decide (key r = k)), r' = r := by
    intro r' hr'
    obtain ⟨hmem, hk⟩ := List.mem_filter.mp hr'
    have hget : t.get? k = some r' := get?_eq_some.mpr ⟨hmem, by simpa using hk⟩
    rw [h, Option.some.injEq] at hget
    exact hget.symm
  have hmem : r ∈ t.rows.filter (fun r => decide (key r = k)) :=
    List.mem_filter.mpr ⟨get?_mem h, by simpa using get?_key h⟩
  obtain ⟨l, m, hsplit⟩ := List.append_of_mem hmem
  rw [hsplit] at hall hnodup ⊢
  have hnil : l = [] ∧ m = [] := by
    constructor
    · apply List.eq_nil_iff_forall_not_mem.mpr
      intro a ha
      have heq := hall a (by simp [ha])
      subst heq
      exact (List.nodup_append.mp hnodup).2.2 a ha a (by simp) rfl
    · apply List.eq_nil_iff_forall_not_mem.mpr
      intro a ha
      have heq := hall a (by simp [ha])
      subst heq
      exact (List.nodup_cons.mp (List.nodup_append.mp hnodup).2.1).1 ha
  rw [hnil.1, hnil.2]
  rfl

theorem length_filter_key {P : ρ → Bool} (h : t.get? k = some r) (hP : P r = true) :
    (t.rows.filter fun r => decide (key r = k) && P r).length = 1 := by
  have hcomm : (t.rows.filter fun r => decide (key r = k) && P r) =
      (t.rows.filter fun r => decide (key r = k)).filter P := by
    rw [List.filter_filter]
    apply List.filter_congr
    intro a _
    exact Bool.and_comm _ _
  rw [hcomm, filter_key h]
  simp [hP]

-- the rows of a key are counted apart
theorem countP_delete_key {P : ρ → Bool} :
    (t.delete fun r => decide (key r = k)).rows.countP P + (if (t.get? k).any P then 1 else 0) =
      t.rows.countP P := by
  have hsplit := List.countP_eq_countP_filter_add t.rows P fun r => !decide (key r = k)
  have hkey : (t.rows.filter fun r => decide (key r = k)).countP P =
      if (t.get? k).any P then 1 else 0 := by
    cases hget : t.get? k with
    | none =>
      have hnil : (t.rows.filter fun r => decide (key r = k)) = [] := by
        rw [List.filter_eq_nil_iff]
        intro r hr
        simpa using get?_eq_none.mp hget r hr
      rw [hnil]
      rfl
    | some r =>
      rw [filter_key hget]
      cases hP : P r <;> simp [hP]
  rw [← hkey]
  simp only [delete, Bool.not_not] at hsplit ⊢
  omega


end Table

end Obulus.Foundation
