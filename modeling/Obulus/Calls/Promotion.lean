import Obulus.Calls.Tower

namespace Obulus.Calls

open Foundation Store Funds

variable {summary : Summary} {newId : Nat → String} {rows newest : List MemoryEntry} {userId : String}
  {created created' : List Reflection} {lv : String → Nat} {l : Nat} {existing : List (List String)}
  {m : MemoryEntry} {r : Reflection}

section Insertion

theorem settledOf_append (rows : List MemoryEntry) (m : MemoryEntry) :
    settledOf (rows ++ [m]) userId =
      settledOf rows userId ++ if m.userId = userId ∧ m.status = .settled then [m] else [] := by
  unfold settledOf
  rw [List.filter_append, List.filter_cons, List.filter_nil]
  by_cases h : m.userId = userId ∧ m.status = .settled
  · rw [if_pos (decide_eq_true h), if_pos h]
  · rw [if_neg (by simpa using h), if_neg h]

abbrev shelfOf (rows : List MemoryEntry) (userId : String) (created : List Reflection) :
    List MemoryEntry :=
  settledOf (withReflections rows userId created) userId

theorem shelfOf_snoc (created : List Reflection) (r : Reflection) :
    shelfOf rows userId (created ++ [r]) = shelfOf rows userId created ++ [r.entry userId] := by
  have hrows : withReflections rows userId (created ++ [r]) =
      withReflections rows userId created ++ [r.entry userId] := by
    simp [withReflections]
  rw [shelfOf, hrows, settledOf_append, if_pos ⟨rfl, rfl⟩]

theorem insertReflection_eq_ok :
    insertReflection rows userId created r = .ok created' ↔
      r.id ∉ (withReflections rows userId created).map MemoryEntry.id ∧ created ++ [r] = created' := by
  simp only [insertReflection, bind_eq_ok, reject_eq_ok, exists_const, pure_eq_ok]

theorem settled_ids {id : String} (h : id ∉ rows.map MemoryEntry.id) :
    id ∉ (settledOf rows userId).map MemoryEntry.id :=
  fun hmem => h ((List.filter_sublist.map _).subset hmem)

theorem next_of_asI64 {value time : Nat} (h : asI64 (saturatingAdd value 1) = .ok time) :
    time = value + 1 := by
  obtain ⟨hle, rfl⟩ := asI64_eq_ok.mp h
  simp only [saturatingAdd, u64Max, i64Max] at hle ⊢
  omega

end Insertion

section Chunks

theorem promoteChunk_old {chunk : List MemoryEntry} (h : chunk.map MemoryEntry.id ∈ existing) :
    promoteChunk summary newId rows userId l existing created chunk = .ok created :=
  if_pos h

theorem promoteChunk_new {chunk : List MemoryEntry} (hnew : chunk.map MemoryEntry.id ∉ existing)
    (h : promoteChunk summary newId rows userId l existing created chunk = .ok created') :
    ∃ r : Reflection, r.id ∉ (withReflections rows userId created).map MemoryEntry.id ∧
      created' = created ++ [r] ∧ r.via = "Recursive reflection" ∧
      brief (r.entry userId) = parentBrief chunk := by
  rw [promoteChunk, if_neg hnew] at h
  simp only [bind_eq_ok, insertReflection_eq_ok] at h
  obtain ⟨time, htime, hfresh, rfl⟩ := h
  refine ⟨_, hfresh, rfl, rfl, ?_⟩
  rw [next_of_asI64 htime]
  rfl

theorem skip_chunks {done : List (List MemoryEntry)}
    (h : ∀ chunk ∈ done, chunk.map MemoryEntry.id ∈ existing) :
    done.foldlM (promoteChunk summary newId rows userId l existing) created = .ok created := by
  induction done with
  | nil => rfl
  | cons chunk done ih =>
    rw [List.foldlM_cons, promoteChunk_old (h chunk List.mem_cons_self), ok_bind]
    exact ih fun c hc => h c (List.mem_cons_of_mem _ hc)

-- no two chunks of one level share a row
theorem chunk_fresh {S : List MemoryEntry} {k : Nat} {done rest : List (List MemoryEntry)}
    {chunk : List MemoryEntry} (h : Rising S lv k)
    (hchunks : chunksExact (tier S lv l) = done ++ chunk :: rest) :
    ∀ c ∈ done, c.map MemoryEntry.id ≠ chunk.map MemoryEntry.id := by
  intro c hc heq
  have hmem : chunk ∈ chunksExact (tier S lv l) := by
    rw [hchunks]
    exact List.mem_append_right _ List.mem_cons_self
  obtain ⟨m, hm⟩ := List.exists_mem_of_ne_nil chunk
    (List.ne_nil_of_length_eq_add_one (chunksExact_length hmem))
  have hids : (tier S lv l).Pairwise fun a b => a.id ≠ b.id := by
    have hsub : ((tier S lv l).map MemoryEntry.id).Nodup := h.ids.sublist (List.filter_sublist.map _)
    exact List.pairwise_map.mp hsub
  have hapart := chunksExact_pairwise hids
  rw [hchunks, List.pairwise_append] at hapart
  obtain ⟨n, hn, hid⟩ := List.mem_map.mp (heq ▸ List.mem_map_of_mem (f := MemoryEntry.id) hm)
  exact hapart.2.2 c hc chunk List.mem_cons_self n hn m hm hid

theorem promote_chunks {k : Nat} {done rest : List (List MemoryEntry)} (hl : 0 < l) (hk : k < l)
    (hbound : l < 5) (hrising : Rising (shelfOf rows userId created) lv k)
    (hchunks : chunksExact (tier (shelfOf rows userId created) lv l) = done ++ rest)
    (habove : (tier (shelfOf rows userId created) lv (l + 1)).map brief = done.map parentBrief)
    (hexisting : ∀ sources ∈ existing, ∃ c ∈ done, c.map MemoryEntry.id = sources)
    (h : rest.foldlM (promoteChunk summary newId rows userId l existing) created = .ok created') :
    ∃ lv', Rising (shelfOf rows userId created') lv' k ∧
      (tier (shelfOf rows userId created') lv' (l + 1)).map brief =
        (chunksExact (tier (shelfOf rows userId created') lv' l)).map parentBrief := by
  induction rest generalizing created done lv with
  | nil =>
    rw [List.foldlM_nil, pure_eq_ok] at h
    subst h
    rw [List.append_nil] at hchunks
    exact ⟨lv, hrising, hchunks ▸ habove⟩
  | cons chunk rest ih =>
    rw [List.foldlM_cons, bind_eq_ok] at h
    obtain ⟨mid, hmid, h⟩ := h
    have hnew : chunk.map MemoryEntry.id ∉ existing := by
      intro hmem
      obtain ⟨c, hc, heq⟩ := hexisting _ hmem
      exact chunk_fresh hrising hchunks c hc heq
    obtain ⟨r, hfresh, rfl, hvia, hbrief⟩ := promoteChunk_new hnew hmid
    have hid : (r.entry userId).id ∉ (shelfOf rows userId created).map MemoryEntry.id :=
      settled_ids hfresh
    have hmem : chunk ∈ chunksExact (tier (shelfOf rows userId created) lv l) := by
      rw [hchunks]
      exact List.mem_append_right _ List.mem_cons_self
    have hvia' : (r.entry userId).via ≠ "Reflection" := by
      change r.via ≠ _
      rw [hvia]
      decide
    have hnext : (tier (shelfOf rows userId created) lv (l + 1)).map brief ++
        [brief (r.entry userId)] <+:
          (chunksExact (tier (shelfOf rows userId created) lv l)).map parentBrief := by
      rw [habove, hbrief, hchunks, List.map_append, List.map_cons]
      exact ⟨rest.map parentBrief, by simp⟩
    have hraised := hrising.raise hl hk hbound rfl hvia' hid hmem hbrief hnext
    have hsame : tier (shelfOf rows userId (created ++ [r])) (raise lv (r.entry userId).id l) l =
        tier (shelfOf rows userId created) lv l := by
      rw [shelfOf_snoc, tier_raise rfl hid, if_neg (by omega), List.append_nil]
    have hgrown : tier (shelfOf rows userId (created ++ [r])) (raise lv (r.entry userId).id l) (l + 1) =
        tier (shelfOf rows userId created) lv (l + 1) ++ [r.entry userId] := by
      rw [shelfOf_snoc, tier_raise rfl hid, if_pos rfl]
    rw [← shelfOf_snoc] at hraised
    have hchunks' : chunksExact (tier (shelfOf rows userId (created ++ [r]))
        (raise lv (r.entry userId).id l) l) = done ++ [chunk] ++ rest := by
      rw [hsame, hchunks, List.append_assoc, List.singleton_append]
    have habove' : (tier (shelfOf rows userId (created ++ [r])) (raise lv (r.entry userId).id l)
        (l + 1)).map brief = (done ++ [chunk]).map parentBrief := by
      rw [hgrown, List.map_append, habove, List.map_append, List.map_singleton, List.map_singleton,
        hbrief]
    refine ih hraised hchunks' habove' (fun sources hsources => ?_) h
    obtain ⟨c, hc, heq⟩ := hexisting sources hsources
    exact ⟨c, List.mem_append_left _ hc, heq⟩

end Chunks

section Levels

theorem promoteLevel_rising (hl : 0 < l) (hbound : l < 5)
    (hrising : Rising (shelfOf rows userId created) lv (l - 1))
    (h : promoteLevel summary newId rows userId created l = .ok created') :
    ∃ lv', Rising (shelfOf rows userId created') lv' l := by
  have hsources : atLevel (recordsOf (withReflections rows userId created) userId) l =
      tier (shelfOf rows userId created) lv l := hrising.atLevel hl
  have hparents : atLevel (recordsOf (withReflections rows userId created) userId) (l + 1) =
      tier (shelfOf rows userId created) lv (l + 1) := hrising.atLevel (Nat.succ_pos l)
  have hfilled : ∀ {created lv}, Rising (shelfOf rows userId created) lv (l - 1) →
      (tier (shelfOf rows userId created) lv (l + 1)).map brief =
        (chunksExact (tier (shelfOf rows userId created) lv l)).map parentBrief →
      Rising (shelfOf rows userId created) lv l := by
    intro created lv hrising hfull
    refine { hrising with full := fun j hj hle => ?_ }
    rcases Nat.lt_or_ge j l with hlt | hge
    · exact hrising.full j hj (by omega)
    · obtain rfl : j = l := by omega
      exact hfull
  simp only [promoteLevel, hsources, hparents] at h
  split at h
  · next hshort =>
    cases h
    refine ⟨lv, hfilled hrising ?_⟩
    have hprefix := hrising.above l hl
    rw [chunksExact_short hshort] at hprefix ⊢
    exact List.prefix_nil.mp hprefix
  · obtain ⟨done, hdone, habove⟩ := List.prefix_map_iff.mp (hrising.above l hl)
    obtain ⟨rest, hchunks⟩ := hdone
    have hsets : (tier (shelfOf rows userId created) lv (l + 1)).map MemoryEntry.sourceIds =
        done.map fun chunk => chunk.map MemoryEntry.id := by
      have hfirst := congrArg (List.map Prod.fst) habove
      rw [List.map_map, List.map_map] at hfirst
      exact hfirst
    rw [hsets, ← hchunks, List.foldlM_append, skip_chunks (fun chunk hchunk => List.mem_map_of_mem hchunk),
      ok_bind] at h
    obtain ⟨lv', hrising', hfull⟩ := promote_chunks hl (by omega) hbound hrising hchunks.symm habove
      (fun sources hs => List.mem_map.mp hs) h
    exact ⟨lv', hfilled hrising' hfull⟩

theorem recursive_tower (hrising : Rising (shelfOf rows userId created) lv 0)
    (h : maybeCreateRecursiveReflections summary newId rows userId created = .ok created') :
    ∃ lv', Tower (shelfOf rows userId created') lv' := by
  simp only [maybeCreateRecursiveReflections, List.foldlM_cons, List.foldlM_nil, bind_eq_ok,
    pure_eq_ok] at h
  obtain ⟨c₁, h₁, c₂, h₂, c₃, h₃, c₄, h₄, rfl⟩ := h
  obtain ⟨_, hr₁⟩ := promoteLevel_rising (by omega) (by omega) hrising h₁
  obtain ⟨_, hr₂⟩ := promoteLevel_rising (by omega) (by omega) hr₁ h₂
  obtain ⟨_, hr₃⟩ := promoteLevel_rising (by omega) (by omega) hr₂ h₃
  exact promoteLevel_rising (by omega) (by omega) hr₃ h₄

end Levels

section First

variable {createdAt : Nat}

def isSource (settled : List MemoryEntry) (m : MemoryEntry) : Prop :=
  ∃ r ∈ settled, r.memoryType = .reflection ∧ m.id ∈ r.sourceIds

instance (settled : List MemoryEntry) (m : MemoryEntry) : Decidable (isSource settled m) :=
  inferInstanceAs (Decidable (∃ r ∈ settled, _))

-- dated after every observation that has been a source
def Later (rows : List MemoryEntry) (userId : String) (m : MemoryEntry) : Prop :=
  ∀ g ∈ observationsOf rows userId, isSource (settledOf rows userId) g → g.createdAt < m.createdAt

instance (rows : List MemoryEntry) (userId : String) (m : MemoryEntry) :
    Decidable (Later rows userId m) :=
  inferInstanceAs (Decidable (∀ g ∈ _, _ → _))

-- a reflection is due
def Due (rows : List MemoryEntry) (userId : String) : Prop :=
  3 ≤ (observationsOf rows userId).length ∧ (observationsOf rows userId).length % 3 = 0

structure Timely (rows : List MemoryEntry) (userId : String) (createdAt : Nat) : Prop where
  ungrouped : 3 ≤ (observationsOf rows userId).countP fun m => decide (Later rows userId m)
  last : ∀ r ∈ reflectionsOf rows userId, r.via = "Reflection" → r.createdAt ≤ createdAt

theorem shelfOf_nil : shelfOf rows userId [] = settledOf rows userId := by
  simp [shelfOf, withReflections]

theorem maybe_tower (h : Tower (settledOf rows userId) lv) (hnewest : NewestFirst rows userId newest)
    (htimely : Due rows userId → Timely rows userId createdAt)
    (hcreate : maybeCreateReflection summary newId rows userId newest createdAt = .ok created) :
    ∃ lv', Tower (shelfOf rows userId created) lv' := by
  simp only [maybeCreateReflection] at hcreate
  split at hcreate
  · cases hcreate
    rw [shelfOf_nil]
    exact ⟨lv, h⟩
  · next hdue =>
    rw [not_or, not_lt, not_not] at hdue
    obtain ⟨hungrouped, hlast⟩ := htimely hdue
    simp only [bind_eq_ok, insertReflection_eq_ok] at hcreate
    obtain ⟨time, htime, _, ⟨hfresh, rfl⟩, hrecursive⟩ := hcreate
    obtain ⟨hperm, hsorted⟩ := hnewest
    have hlater : ∀ m ∈ newest.take 3, decide (Later rows userId m) = true := by
      refine take_of_countP hsorted ?_ (hperm.countP_eq _ ▸ hungrouped)
      intro a b ha hle
      simp only [decide_eq_true_eq] at ha ⊢
      exact fun g hg hsource => (ha g hg hsource).trans_le hle
    have hobserved : ∀ m ∈ newest.take 3, m ∈ observationsOf rows userId := fun m hm =>
      hperm.mem_iff.mp (List.mem_of_mem_take hm)
    have hlength : (newest.take 3).length = 3 := by
      rw [List.length_take, hperm.length_eq]
      omega
    have hsettled : ∀ m ∈ observationsOf rows userId,
        m ∈ settledOf rows userId ∧ m.memoryType = .observation := by
      intro m hm
      have hmem := List.mem_filter.mp hm
      exact ⟨hmem.1, of_decide_eq_true hmem.2⟩
    obtain ⟨r, hid, hvia, hsources, hdate, hrecursive⟩ : ∃ r : Reflection,
        r.id ∉ (settledOf rows userId).map MemoryEntry.id ∧ r.via = "Reflection" ∧
        r.sourceIds = (newest.take 3).map MemoryEntry.id ∧ r.createdAt = createdAt + 1 ∧
        maybeCreateRecursiveReflections summary newId rows userId ([] ++ [r]) = .ok created := by
      refine ⟨_, settled_ids ?_, rfl, rfl, next_of_asI64 htime, hrecursive⟩
      simpa [withReflections] using hfresh
    have hfirst : Rising (settledOf rows userId ++ [r.entry userId])
        (raise lv (r.entry userId).id 0) 0 := by
      refine h.raiseFirst rfl hvia hid ?_ ?_ ?_ ?_
      · change r.sourceIds.length = 3
        rw [hsources, List.length_map, hlength]
      · intro s hs
        change s ∈ r.sourceIds at hs
        rw [hsources] at hs
        obtain ⟨m, hm, rfl⟩ := List.mem_map.mp hs
        obtain ⟨hin, htype⟩ := hsettled m (hobserved m hm)
        refine ⟨h.ranked.leaf m hin ?_, m, hin, rfl⟩
        rw [htype]
        decide
      · change ((tier _ lv 1).flatMap MemoryEntry.sourceIds ++ r.sourceIds).Nodup
        rw [hsources, List.nodup_append]
        refine ⟨h.once, ?_, ?_⟩
        · have hids : ((observationsOf rows userId).map MemoryEntry.id).Nodup :=
            h.ids.sublist (List.filter_sublist.map _)
          exact ((hperm.map MemoryEntry.id).nodup_iff.mpr hids).sublist
            ((List.take_sublist 3 newest).map _)
        · rintro s hs t ht rfl
          obtain ⟨m, hm, rfl⟩ := List.mem_map.mp ht
          obtain ⟨r', hr', hsource⟩ := List.mem_flatMap.mp hs
          obtain ⟨hin, htype, -⟩ := mem_tier.mp hr'
          have hlt := of_decide_eq_true (hlater m hm) m (hobserved m hm) ⟨r', hin, htype, hsource⟩
          exact absurd hlt (lt_irrefl _)
      · intro r' hr'
        change r'.createdAt < r.createdAt
        obtain ⟨hin, htype, hlevel⟩ := mem_tier.mp hr'
        have hbefore := hlast r' (List.mem_filter.mpr ⟨hin, decide_eq_true htype⟩)
          ((h.via r' hin htype).mpr hlevel)
        omega
    rw [← shelfOf_nil, ← shelfOf_snoc] at hfirst
    exact recursive_tower hfirst hrecursive

end First

end Obulus.Calls
