import Mathlib.Data.String.Basic
import Mathlib.Logic.Function.Basic
import Obulus.Calls.Reflecting

namespace Obulus.Calls

open Foundation Store Funds

-- the settled rows of one contributor, and the level of each id
variable {S A B : List MemoryEntry} {lv : String → Nat} {m n e : MemoryEntry} {l k : Nat}

section Levels

structure Ranked (S : List MemoryEntry) (lv : String → Nat) : Prop where
  leaf : ∀ m ∈ S, m.memoryType ≠ .reflection → lv m.id = 0
  node : ∀ m ∈ S, m.memoryType = .reflection →
    m.sourceIds ≠ [] ∧ ∀ s ∈ m.sourceIds, lv s + 1 = lv m.id ∧ ∃ n ∈ S, n.id = s
  bounded : ∀ m ∈ S, lv m.id ≤ 5

-- the levels up to k are found
def Found (S : List MemoryEntry) (lv : String → Nat) (k : Nat) (levels : Dictionary Nat) : Prop :=
  ∀ m ∈ S, lv m.id ≤ k → levels.lookup m.id = some (lv m.id)

theorem levelOf_found {levels : Dictionary Nat} (h : Ranked S lv) (hfound : Found S lv k levels)
    (hm : m ∈ S) (htype : m.memoryType = .reflection) (hlevel : lv m.id ≤ k + 1) :
    levelOf levels m = lv m.id := by
  obtain ⟨hne, hsources⟩ := h.node m hm htype
  have hvalues : m.sourceIds.filterMap levels.lookup =
      List.replicate m.sourceIds.length (lv m.id - 1) := by
    rw [List.eq_replicate_iff]
    have hsome : ∀ s ∈ m.sourceIds, levels.lookup s = some (lv m.id - 1) := by
      intro s hs
      obtain ⟨hlv, n, hn, rfl⟩ := hsources s hs
      rw [hfound n hn (by omega), Option.some.injEq]
      omega
    rw [List.filterMap_congr hsome]
    exact ⟨by simp, by simp⟩
  obtain ⟨s, hs⟩ := List.exists_mem_of_ne_nil _ hne
  have hpos := (hsources s hs).1
  have hlength := List.length_pos_of_mem hs
  rw [levelOf, hvalues, List.max?_replicate_of_pos hlength, Option.getD_some]
  omega

theorem levelPass_found {records : List MemoryEntry} {levels : Dictionary Nat} (h : Ranked S lv)
    (hfound : Found S lv k levels) (hrecords : ∀ m ∈ records, m ∈ S) :
    Found S lv k (levelPass records levels) ∧
      ∀ m ∈ records, m.memoryType = .reflection → lv m.id ≤ k + 1 →
        (levelPass records levels).lookup m.id = some (lv m.id) := by
  induction records using List.reverseRecOn with
  | nil => exact ⟨hfound, nofun⟩
  | append_singleton records r ih =>
    obtain ⟨hkept, hdone⟩ := ih fun m hm => hrecords m (List.mem_append_left _ hm)
    have hr := hrecords r (List.mem_append_right _ (List.mem_singleton_self r))
    have hlast : levelPass (records ++ [r]) levels =
        if r.memoryType = .reflection then
          (levelPass records levels).insert r.id (levelOf (levelPass records levels) r)
        else levelPass records levels := by
      simp [levelPass]
    rw [hlast]
    by_cases htype : r.memoryType = .reflection
    · rw [if_pos htype]
      have hlookup : ∀ m : MemoryEntry, lv m.id ≤ k + 1 →
          (m.id ≠ r.id → (levelPass records levels).lookup m.id = some (lv m.id)) →
          ((levelPass records levels).insert r.id (levelOf (levelPass records levels) r)).lookup m.id =
            some (lv m.id) := by
        intro m hlevel hold
        by_cases hid : m.id = r.id
        · rw [hid, AList.lookup_insert]
          rw [hid] at hlevel
          rw [levelOf_found h hkept hr htype hlevel]
        · rw [AList.lookup_insert_ne hid]
          exact hold hid
      refine ⟨fun m hm hlevel => hlookup m (by omega) fun _ => hkept m hm hlevel, ?_⟩
      intro m hm hmtype hlevel
      refine hlookup m hlevel fun hid => ?_
      rcases List.mem_append.mp hm with hold | hnew
      · exact hdone m hold hmtype hlevel
      · exact absurd (congrArg MemoryEntry.id (List.mem_singleton.mp hnew)) hid
    · rw [if_neg htype]
      refine ⟨hkept, fun m hm hmtype hlevel => ?_⟩
      rcases List.mem_append.mp hm with hold | hnew
      · exact hdone m hold hmtype hlevel
      · rw [List.mem_singleton.mp hnew] at hmtype
        exact absurd hmtype htype

theorem Ranked.positive (h : Ranked S lv) (hm : m ∈ S) (htype : m.memoryType = .reflection) :
    0 < lv m.id := by
  obtain ⟨hne, hsources⟩ := h.node m hm htype
  obtain ⟨s, hs⟩ := List.exists_mem_of_ne_nil _ hne
  have hlv := (hsources s hs).1
  omega

theorem levels_found (h : Ranked S lv) (hids : (S.map MemoryEntry.id).Nodup)
    {records : List MemoryEntry} (hperm : records.Perm S) (hm : m ∈ S) :
    (levelsOf records).lookup m.id = some (lv m.id) := by
  have hrecords : ∀ n ∈ records, n ∈ S := fun n hn => hperm.mem_iff.mp hn
  have hstart : Found S lv 0 (Dictionary.ofEntries
      ((records.filter fun m => decide (m.memoryType ≠ .reflection)).map fun m => (m.id, 0))) := by
    intro n hn hlevel
    have htype : n.memoryType ≠ .reflection := fun htype => by
      have hpos := h.positive hn htype
      omega
    rw [h.leaf n hn htype]
    apply Dictionary.lookup_ofEntries
    · rw [List.map_map]
      exact (((hperm.map MemoryEntry.id).nodup_iff.mpr hids).sublist
        (List.filter_sublist.map MemoryEntry.id))
    · exact List.mem_map.mpr ⟨n, List.mem_filter.mpr ⟨hperm.mem_iff.mpr hn, by simpa using htype⟩, rfl⟩
  have hpasses : ∀ k, Found S lv k ((levelPass records)^[k] (Dictionary.ofEntries
      ((records.filter fun m => decide (m.memoryType ≠ .reflection)).map fun m => (m.id, 0)))) := by
    intro k
    induction k with
    | zero => exact hstart
    | succ k ih =>
      rw [Function.iterate_succ_apply']
      obtain ⟨hkept, hdone⟩ := levelPass_found h ih hrecords
      intro n hn hlevel
      by_cases htype : n.memoryType = .reflection
      · exact hdone n (hperm.mem_iff.mpr hn) htype hlevel
      · have hzero := h.leaf n hn htype
        exact hkept n hn (by omega)
  have hbound := h.bounded m hm
  exact hpasses 8 m hm (by omega)

end Levels

section Tiers

def tier (S : List MemoryEntry) (lv : String → Nat) (l : Nat) : List MemoryEntry :=
  S.filter fun m => decide (m.memoryType = .reflection ∧ lv m.id = l)

theorem mem_tier : m ∈ tier S lv l ↔ m ∈ S ∧ m.memoryType = .reflection ∧ lv m.id = l := by
  simp [tier]

theorem recordOrder_total (a b : MemoryEntry) : recordOrder a b ∨ recordOrder b a := by
  unfold recordOrder
  rcases Nat.lt_trichotomy a.createdAt b.createdAt with h | h | h
  · exact .inl (.inl h)
  · rcases le_total a.id b.id with hid | hid
    · exact .inl (.inr ⟨h, hid⟩)
    · exact .inr (.inr ⟨h.symm, hid⟩)
  · exact .inr (.inl h)

theorem recordOrder_trans {a b c : MemoryEntry} (hab : recordOrder a b) (hbc : recordOrder b c) :
    recordOrder a c := by
  rcases hab with hab | ⟨hab, hids⟩
  · rcases hbc with hbc | ⟨hbc, -⟩
    · exact .inl (hab.trans hbc)
    · exact .inl (hbc ▸ hab)
  · rcases hbc with hbc | ⟨hbc, hids'⟩
    · exact .inl (hab ▸ hbc)
    · exact .inr ⟨hab.trans hbc, hids.trans hids'⟩

instance : Std.Total recordOrder := ⟨recordOrder_total⟩

instance : IsTrans MemoryEntry recordOrder := ⟨fun _ _ _ => recordOrder_trans⟩

def Dated (xs : List MemoryEntry) : Prop :=
  xs.Pairwise fun a b => a.createdAt < b.createdAt

theorem atLevel_eq (h : Ranked S lv) (hids : (S.map MemoryEntry.id).Nodup)
    (hdated : Dated (tier S lv l)) :
    atLevel (S.insertionSort recordOrder) l = tier S lv l := by
  have hperm := List.perm_insertionSort recordOrder S
  have hsame : atLevel (S.insertionSort recordOrder) l = (S.insertionSort recordOrder).filter
      fun m => decide (m.memoryType = .reflection ∧ lv m.id = l) := by
    refine List.filter_congr fun m hm => ?_
    simp only [levels_found h hids hperm (hperm.mem_iff.mp hm), Option.some.injEq]
  rw [hsame]
  refine filter_insertionSort ?_ (hdated.imp fun hlt => .inl hlt)
  intro a b ha hb _ _ hab hba
  refine List.inj_on_of_nodup_map hids ha hb ?_
  rcases hab with hab | ⟨hab, hids⟩
  · rcases hba with hba | ⟨hba, -⟩ <;> omega
  · rcases hba with hba | ⟨-, hids'⟩
    · omega
    · exact le_antisymm hids hids'

-- a new row of no level

def ground (lv : String → Nat) (id : String) : String → Nat := Function.update lv id 0

theorem tier_ground (hleaf : m.memoryType ≠ .reflection) (hfresh : m.id ∉ (A ++ B).map MemoryEntry.id) :
    tier (A ++ m :: B) (ground lv m.id) l = tier (A ++ B) lv l := by
  have hlv : ∀ n ∈ A ++ B, ground lv m.id n.id = lv n.id := by
    intro n hn
    refine Function.update_of_ne (fun heq => hfresh ?_) _ _
    exact heq ▸ List.mem_map_of_mem hn
  unfold tier
  rw [List.filter_append, List.filter_cons, if_neg (by simp [hleaf]), ← List.filter_append]
  refine List.filter_congr fun n hn => ?_
  rw [hlv n hn]

theorem ranked_ground (h : Ranked (A ++ B) lv) (hleaf : m.memoryType ≠ .reflection)
    (hfresh : m.id ∉ (A ++ B).map MemoryEntry.id) :
    Ranked (A ++ m :: B) (ground lv m.id) := by
  have hsplit : ∀ n, n ∈ A ++ m :: B ↔ n = m ∨ n ∈ A ++ B := by
    intro n
    simp only [List.mem_append, List.mem_cons]
    tauto
  have hlv : ∀ n ∈ A ++ B, ground lv m.id n.id = lv n.id := by
    intro n hn
    refine Function.update_of_ne (fun heq => hfresh ?_) _ _
    exact heq ▸ List.mem_map_of_mem hn
  refine ⟨fun n hn htype => ?_, fun n hn htype => ?_, fun n hn => ?_⟩
  · rcases (hsplit n).mp hn with rfl | hold
    · exact Function.update_self _ _ _
    · rw [hlv n hold, h.leaf n hold htype]
  · rcases (hsplit n).mp hn with rfl | hold
    · exact absurd htype hleaf
    · obtain ⟨hne, hsources⟩ := h.node n hold htype
      refine ⟨hne, fun s hs => ?_⟩
      obtain ⟨hlevel, source, hsource, rfl⟩ := hsources s hs
      rw [hlv source hsource, hlv n hold]
      exact ⟨hlevel, source, (hsplit source).mpr (.inr hsource), rfl⟩
  · rcases (hsplit n).mp hn with rfl | hold
    · rw [ground, Function.update_self]
      omega
    · rw [hlv n hold]
      exact h.bounded n hold

-- a new reflection over rows of one level

def raise (lv : String → Nat) (id : String) (k : Nat) : String → Nat :=
  Function.update lv id (k + 1)

theorem raise_old (hfresh : e.id ∉ S.map MemoryEntry.id) (hn : n ∈ S) :
    raise lv e.id k n.id = lv n.id := by
  refine Function.update_of_ne (fun heq => hfresh ?_) _ _
  exact heq ▸ List.mem_map_of_mem hn

theorem tier_raise (htype : e.memoryType = .reflection) (hfresh : e.id ∉ S.map MemoryEntry.id) :
    tier (S ++ [e]) (raise lv e.id k) l = tier S lv l ++ if l = k + 1 then [e] else [] := by
  unfold tier
  rw [List.filter_append]
  congr 1
  · refine List.filter_congr fun n hn => ?_
    rw [raise_old hfresh hn]
  · have hlevel : raise lv e.id k e.id = k + 1 := Function.update_self _ _ _
    rw [List.filter_cons, List.filter_nil, hlevel]
    by_cases hl : l = k + 1
    · simp [hl, htype]
    · simp [hl, Ne.symm hl]

theorem ranked_raise (h : Ranked S lv) (htype : e.memoryType = .reflection)
    (hfresh : e.id ∉ S.map MemoryEntry.id) (hne : e.sourceIds ≠ []) (hk : k < 5)
    (hsources : ∀ s ∈ e.sourceIds, lv s = k ∧ ∃ n ∈ S, n.id = s) :
    Ranked (S ++ [e]) (raise lv e.id k) := by
  have hself : raise lv e.id k e.id = k + 1 := Function.update_self _ _ _
  have hsplit : ∀ n, n ∈ S ++ [e] ↔ n ∈ S ∨ n = e := fun n => by simp
  refine ⟨fun n hn hleaf => ?_, fun n hn hnode => ?_, fun n hn => ?_⟩
  · rcases (hsplit n).mp hn with hold | rfl
    · rw [raise_old hfresh hold, h.leaf n hold hleaf]
    · exact absurd htype hleaf
  · rcases (hsplit n).mp hn with hold | rfl
    · obtain ⟨hne, hsources⟩ := h.node n hold hnode
      refine ⟨hne, fun s hs => ?_⟩
      obtain ⟨hlevel, source, hsource, rfl⟩ := hsources s hs
      rw [raise_old hfresh hsource, raise_old hfresh hold]
      exact ⟨hlevel, source, List.mem_append_left _ hsource, rfl⟩
    · refine ⟨hne, fun s hs => ?_⟩
      obtain ⟨hlevel, source, hsource, rfl⟩ := hsources s hs
      rw [raise_old hfresh hsource, hlevel, hself]
      exact ⟨rfl, source, List.mem_append_left _ hsource, rfl⟩
  · rcases (hsplit n).mp hn with hold | rfl
    · rw [raise_old hfresh hold]
      exact h.bounded n hold
    · rw [hself]
      omega

end Tiers

section Tower

-- the sources and the date of a reflection, and those of the parent of a chunk
def brief (m : MemoryEntry) : List String × Nat := (m.sourceIds, m.createdAt)

def latest (chunk : List MemoryEntry) : Nat := ((chunk.map MemoryEntry.createdAt).max?).getD 0

def parentBrief (chunk : List MemoryEntry) : List String × Nat :=
  (chunk.map MemoryEntry.id, latest chunk + 1)

-- the first `full` levels are promoted as far as they go, those above to some extent
structure Rising (S : List MemoryEntry) (lv : String → Nat) (full : Nat) : Prop where
  ranked : Ranked S lv
  ids : (S.map MemoryEntry.id).Nodup
  first : ∀ m ∈ tier S lv 1, m.sourceIds.length = 3
  once : ((tier S lv 1).flatMap MemoryEntry.sourceIds).Nodup
  dated : Dated (tier S lv 1)
  via : ∀ m ∈ S, m.memoryType = .reflection → (m.via = "Reflection" ↔ lv m.id = 1)
  above : ∀ l, 0 < l → (tier S lv (l + 1)).map brief <+: (chunksExact (tier S lv l)).map parentBrief
  full : ∀ l, 0 < l → l ≤ full →
    (tier S lv (l + 1)).map brief = (chunksExact (tier S lv l)).map parentBrief

abbrev Tower (S : List MemoryEntry) (lv : String → Nat) : Prop := Rising S lv 4

theorem latest_mem {chunk : List MemoryEntry} (hne : chunk ≠ []) :
    ∃ m ∈ chunk, m.createdAt = latest chunk := by
  unfold latest
  cases hmax : (chunk.map MemoryEntry.createdAt).max? with
  | none => simp [hne] at hmax
  | some t =>
    obtain ⟨m, hm, hdate⟩ := List.mem_map.mp (List.max?_mem hmax)
    exact ⟨m, hm, hdate⟩

theorem le_latest {chunk : List MemoryEntry} (hm : m ∈ chunk) : m.createdAt ≤ latest chunk := by
  unfold latest
  cases hmax : (chunk.map MemoryEntry.createdAt).max? with
  | none => simp at hmax; simp [hmax] at hm
  | some t => exact (List.max?_eq_some_iff.mp hmax).2 _ (List.mem_map_of_mem hm)

-- the dates of a level order those of the next one
theorem dated_above {xs ys : List MemoryEntry} (h : Dated xs)
    (habove : ys.map brief <+: (chunksExact xs).map parentBrief) : Dated ys := by
  have hchunks : ((chunksExact xs).map parentBrief).Pairwise fun a b => a.2 < b.2 := by
    rw [List.pairwise_map]
    refine (chunksExact_pairwise h).imp_of_mem fun {c d} hc hd hlt => ?_
    have hc' : c ≠ [] := List.ne_nil_of_length_eq_add_one (chunksExact_length hc)
    have hd' : d ≠ [] := List.ne_nil_of_length_eq_add_one (chunksExact_length hd)
    obtain ⟨m, hm, hmax⟩ := latest_mem hc'
    obtain ⟨n, hn⟩ := List.exists_mem_of_ne_nil d hd'
    have horder := hlt m hm n hn
    have hle := le_latest hn
    simp only [parentBrief]
    omega
  have hbriefs := hchunks.sublist habove.sublist
  rw [List.pairwise_map] at hbriefs
  exact hbriefs

theorem Rising.datedAt (h : Rising S lv k) (hl : 0 < l) : Dated (tier S lv l) := by
  induction l with
  | zero => omega
  | succ l ih =>
    rcases Nat.eq_zero_or_pos l with rfl | hpos
    · exact h.dated
    · exact dated_above (ih hpos) (h.above l hpos)

theorem Rising.atLevel (h : Rising S lv k) (hl : 0 < l) :
    Obulus.Calls.atLevel (S.insertionSort recordOrder) l = tier S lv l :=
  atLevel_eq h.ranked h.ids (h.datedAt hl)

theorem Rising.ground (h : Rising (A ++ B) lv k) (hleaf : m.memoryType ≠ .reflection)
    (hfresh : m.id ∉ (A ++ B).map MemoryEntry.id) :
    Rising (A ++ m :: B) (ground lv m.id) k := by
  have htier : ∀ l, tier (A ++ m :: B) (Obulus.Calls.ground lv m.id) l = tier (A ++ B) lv l :=
    fun l => tier_ground hleaf hfresh
  refine ⟨ranked_ground h.ranked hleaf hfresh, ?_, ?_, ?_, ?_, ?_, ?_, ?_⟩
  · have hperm : ((A ++ m :: B).map MemoryEntry.id).Perm (m.id :: (A ++ B).map MemoryEntry.id) := by
      rw [← List.map_cons]
      exact List.perm_middle.map _
    exact hperm.nodup_iff.mpr (List.nodup_cons.mpr ⟨hfresh, h.ids⟩)
  · rw [htier]
    exact h.first
  · rw [htier]
    exact h.once
  · rw [htier]
    exact h.dated
  · intro n hn htype
    have hold : n ∈ A ++ B := by
      rcases List.mem_append.mp hn with hn | hn
      · exact List.mem_append_left _ hn
      · rcases List.mem_cons.mp hn with rfl | hn
        · exact absurd htype hleaf
        · exact List.mem_append_right _ hn
    have hlv : Obulus.Calls.ground lv m.id n.id = lv n.id := by
      refine Function.update_of_ne (fun heq => hfresh ?_) _ _
      exact heq ▸ List.mem_map_of_mem hold
    rw [hlv]
    exact h.via n hold htype
  · intro l hl
    rw [htier, htier]
    exact h.above l hl
  · intro l hl hle
    rw [htier, htier]
    exact h.full l hl hle

theorem Rising.fresh (h : Rising S lv k) (hfresh : e.id ∉ S.map MemoryEntry.id) :
    ((S ++ [e]).map MemoryEntry.id).Nodup := by
  rw [List.map_append, List.nodup_append]
  refine ⟨h.ids, List.nodup_singleton _, ?_⟩
  rintro a ha b hb rfl
  exact hfresh (List.mem_singleton.mp hb ▸ ha)

theorem Rising.raiseFirst (h : Tower S lv) (htype : e.memoryType = .reflection)
    (hvia : e.via = "Reflection") (hfresh : e.id ∉ S.map MemoryEntry.id)
    (hthree : e.sourceIds.length = 3) (hsources : ∀ s ∈ e.sourceIds, lv s = 0 ∧ ∃ n ∈ S, n.id = s)
    (honce : ((tier S lv 1).flatMap MemoryEntry.sourceIds ++ e.sourceIds).Nodup)
    (hdate : ∀ r ∈ tier S lv 1, r.createdAt < e.createdAt) :
    Rising (S ++ [e]) (raise lv e.id 0) 0 := by
  have hself : raise lv e.id 0 e.id = 1 := Function.update_self _ _ _
  have hone : tier (S ++ [e]) (raise lv e.id 0) 1 = tier S lv 1 ++ [e] := by
    rw [tier_raise htype hfresh, if_pos rfl]
  have hhigher : ∀ l, 0 < l → tier (S ++ [e]) (raise lv e.id 0) (l + 1) = tier S lv (l + 1) := by
    intro l hl
    rw [tier_raise htype hfresh, if_neg (by omega), List.append_nil]
  have hne : e.sourceIds ≠ [] := List.ne_nil_of_length_eq_add_one hthree
  refine ⟨ranked_raise h.ranked htype hfresh hne (by omega) hsources, h.fresh hfresh, ?_, ?_, ?_,
    ?_, ?_, ?_⟩
  · intro m hm
    rw [hone] at hm
    rcases List.mem_append.mp hm with hold | hnew
    · exact h.first m hold
    · rw [List.mem_singleton.mp hnew]
      exact hthree
  · rw [hone, List.flatMap_append, List.flatMap_singleton]
    exact honce
  · rw [hone, Dated, List.pairwise_append]
    refine ⟨h.dated, List.pairwise_singleton _ _, fun a ha b hb => ?_⟩
    rw [List.mem_singleton.mp hb]
    exact hdate a ha
  · intro n hn hnode
    rcases List.mem_append.mp hn with hold | hnew
    · rw [raise_old hfresh hold]
      exact h.via n hold hnode
    · obtain rfl := List.mem_singleton.mp hnew
      exact iff_of_true hvia hself
  · intro l hl
    rw [hhigher l hl]
    rcases Nat.lt_or_ge l 2 with hlow | hhigh
    · obtain rfl : l = 1 := by omega
      rw [hone]
      exact (h.above 1 hl).trans ((chunksExact_append _ _).map parentBrief)
    · obtain ⟨j, rfl⟩ : ∃ j, l = j + 1 := ⟨l - 1, by omega⟩
      rw [hhigher j (by omega)]
      exact h.above (j + 1) hl
  · intro l hl hle
    omega

theorem Rising.raise (h : Rising S lv k) (hl : 0 < l) (hk : k < l) (hbound : l < 5)
    (htype : e.memoryType = .reflection) (hvia : e.via ≠ "Reflection")
    (hfresh : e.id ∉ S.map MemoryEntry.id) {chunk : List MemoryEntry}
    (hchunk : chunk ∈ chunksExact (tier S lv l)) (hbrief : brief e = parentBrief chunk)
    (habove : (tier S lv (l + 1)).map brief ++ [brief e] <+:
      (chunksExact (tier S lv l)).map parentBrief) :
    Rising (S ++ [e]) (raise lv e.id l) k := by
  have hself : Obulus.Calls.raise lv e.id l e.id = l + 1 := Function.update_self _ _ _
  have hsame : ∀ j, j ≠ l + 1 → tier (S ++ [e]) (Obulus.Calls.raise lv e.id l) j = tier S lv j := by
    intro j hj
    rw [tier_raise htype hfresh, if_neg hj, List.append_nil]
  have hgrown : tier (S ++ [e]) (Obulus.Calls.raise lv e.id l) (l + 1) = tier S lv (l + 1) ++ [e] := by
    rw [tier_raise htype hfresh, if_pos rfl]
  have hids : e.sourceIds = chunk.map MemoryEntry.id := congrArg Prod.fst hbrief
  have hmembers : ∀ n ∈ chunk, n ∈ tier S lv l := fun n hn =>
    (chunksExact_sublist _).subset (List.mem_flatten.mpr ⟨chunk, hchunk, hn⟩)
  have hlength := chunksExact_length hchunk
  have hne : e.sourceIds ≠ [] := by
    refine List.ne_nil_of_length_eq_add_one (n := 2) ?_
    rw [hids, List.length_map, hlength]
  have hsources : ∀ s ∈ e.sourceIds, lv s = l ∧ ∃ n ∈ S, n.id = s := by
    intro s hs
    rw [hids] at hs
    obtain ⟨n, hn, rfl⟩ := List.mem_map.mp hs
    obtain ⟨hS, -, hlevel⟩ := mem_tier.mp (hmembers n hn)
    exact ⟨hlevel, n, hS, rfl⟩
  have hone := hsame 1 (by omega)
  refine ⟨ranked_raise h.ranked htype hfresh hne hbound hsources, h.fresh hfresh, ?_, ?_, ?_, ?_, ?_,
    ?_⟩
  · rw [hone]
    exact h.first
  · rw [hone]
    exact h.once
  · rw [hone]
    exact h.dated
  · intro n hn hnode
    rcases List.mem_append.mp hn with hold | hnew
    · rw [raise_old hfresh hold]
      exact h.via n hold hnode
    · obtain rfl := List.mem_singleton.mp hnew
      refine iff_of_false hvia ?_
      rw [hself]
      omega
  · intro j hj
    rcases Nat.lt_trichotomy j l with hlt | rfl | hgt
    · rw [hsame (j + 1) (by omega), hsame j (by omega)]
      exact h.above j hj
    · rw [hgrown, hsame j (by omega), List.map_append]
      exact habove
    · rw [hsame (j + 1) (by omega)]
      rcases Nat.lt_or_ge (l + 1) j with hlt | hle
      · rw [hsame j (by omega)]
        exact h.above j hj
      · obtain rfl : j = l + 1 := by omega
        rw [hgrown]
        exact (h.above (l + 1) hj).trans ((chunksExact_append _ _).map parentBrief)
  · intro j hj hle
    rw [hsame (j + 1) (by omega), hsame j (by omega)]
    exact h.full j hj hle

end Tower

end Obulus.Calls
