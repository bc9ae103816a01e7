import Obulus.Search.Exact

namespace Obulus.Search.Exact

open Foundation

variable {K : Type} [Field K] [LinearOrder K] [IsStrictOrderedRing K]
  {nodeIds : List String} {edges edges' : List (EvidenceEdge K)} {weights : Dictionary K}
  {links links' : List (Link K)} {rank teleport : List K} {next next' : List K × K} {source i : Nat}

section Spread

def amounts (mass total : K) (links : List (Link K)) : List (Nat × K) :=
  links.map fun link => (link.target, damping * mass * (link.weight / total))

def Directed (nodes : Nat) (links : List (Link K)) : Prop :=
  ∀ link ∈ links, link.target < nodes ∧ 0 < link.weight

omit [IsStrictOrderedRing K] in
theorem spread_dangling (h : (links.map Link.weight).sum ≤ epsilon) :
    spread rank next (links, source) = (next.1, next.2 + rank.getD source 0) :=
  if_pos h

omit [IsStrictOrderedRing K] in
theorem spread_linked (h : ¬(links.map Link.weight).sum ≤ epsilon) :
    spread rank next (links, source) =
      (scatter (amounts (rank.getD source 0) (links.map Link.weight).sum links) next.1, next.2) := by
  rw [scatter, amounts, List.foldl_map]
  exact if_neg h

omit [LinearOrder K] [IsStrictOrderedRing K] in
theorem amounts_sum (mass : K) {total : K} (h : (links.map Link.weight).sum = total)
    (htotal : total ≠ 0) : ((amounts mass total links).map Prod.snd).sum = damping * mass := by
  have hlist : (amounts mass total links).map Prod.snd =
      ((links.map Link.weight).map (· / total)).map (damping * mass * ·) := by
    simp [amounts]
  rw [hlist, sum_map_mul, sum_map_div, h, div_self htotal, mul_one]

-- what the pass over the nodes in `handled` makes of the start
structure Spreading (rank : List K) (handled : List Nat) (start next : List K × K) : Prop where
  length : next.1.length = start.1.length
  mass : next.1.sum + damping * next.2 =
    start.1.sum + damping * start.2 + damping * (handled.map (rank.getD · 0)).sum
  grows : ∀ i, start.1.getD i 0 ≤ next.1.getD i 0
  dangling : start.2 ≤ next.2

theorem spread_step (hlinks : Directed next.1.length links) (hmass : 0 ≤ rank.getD source 0) :
    Spreading rank [source] next (spread rank next (links, source)) := by
  by_cases hsmall : (links.map Link.weight).sum ≤ epsilon
  · rw [spread_dangling hsmall]
    refine ⟨rfl, ?_, fun _ => le_rfl, le_add_of_nonneg_right hmass⟩
    simp only [List.map_cons, List.map_nil, List.sum_singleton]
    ring
  · rw [spread_linked hsmall]
    have hpos : (0 : K) < (links.map Link.weight).sum := epsilon_pos.trans (not_le.mp hsmall)
    refine ⟨scatter_length _ _, ?_, fun i => le_scatter ?_, le_rfl⟩
    · have htargets : ∀ move ∈ amounts (rank.getD source 0) (links.map Link.weight).sum links,
          move.1 < next.1.length := by
        intro move hmove
        obtain ⟨link, hlink, rfl⟩ := List.mem_map.mp hmove
        exact (hlinks link hlink).1
      dsimp only
      rw [scatter_sum htargets, amounts_sum _ rfl hpos.ne']
      simp only [List.map_cons, List.map_nil, List.sum_singleton]
      ring
    · intro move hmove
      obtain ⟨link, hlink, rfl⟩ := List.mem_map.mp hmove
      exact mul_nonneg (mul_nonneg damping_nonneg hmass)
        (div_nonneg (hlinks link hlink).2.le hpos.le)

omit [IsStrictOrderedRing K] in
theorem Spreading.trans {handled handled' : List Nat} {start : List K × K}
    (h : Spreading rank handled start next) (h' : Spreading rank handled' next next') :
    Spreading rank (handled ++ handled') start next' := by
  refine ⟨h'.length.trans h.length, ?_, fun i => (h.grows i).trans (h'.grows i),
    h.dangling.trans h'.dangling⟩
  rw [h'.mass, h.mass, List.map_append, List.sum_append]
  ring

theorem spread_run {nodes : List (List (Link K) × Nat)}
    (hlinks : ∀ node ∈ nodes, Directed next.1.length node.1) (hrank : ∀ i, 0 ≤ rank.getD i 0) :
    Spreading rank (nodes.map Prod.snd) next (nodes.foldl (spread rank) next) := by
  induction nodes generalizing next with
  | nil => exact ⟨rfl, by simp, fun _ => le_rfl, le_rfl⟩
  | cons node nodes ih =>
    have hstep : Spreading rank [node.2] next (spread rank next node) :=
      spread_step (hlinks node List.mem_cons_self) (hrank node.2)
    refine hstep.trans (ih fun other hother => ?_)
    rw [hstep.length]
    exact hlinks other (List.mem_cons_of_mem _ hother)

end Spread

section Rank

structure Shared (teleport rank : List K) : Prop where
  length : rank.length = teleport.length
  total : rank.sum = 1
  share : ∀ i, (1 - damping) * teleport.getD i 0 ≤ rank.getD i 0

omit [IsStrictOrderedRing K] in
theorem getD_nonneg {xs : List K} (h : ∀ x ∈ xs, 0 ≤ x) (i : Nat) : 0 ≤ xs.getD i 0 := by
  by_cases hi : i < xs.length
  · rw [List.getD_eq_getElem xs 0 hi]
    exact h _ (List.getElem_mem hi)
  · rw [List.getD_eq_default xs 0 (not_lt.mp hi)]

theorem Shared.nonneg (h : Shared teleport rank) (hteleport : ∀ x ∈ teleport, 0 ≤ x) (i : Nat) :
    0 ≤ rank.getD i 0 :=
  (mul_nonneg damping_le_one (getD_nonneg hteleport i)).trans (h.share i)

theorem shared_teleport (hnonneg : ∀ x ∈ teleport, 0 ≤ x) (hsum : teleport.sum = 1) :
    Shared teleport teleport := by
  refine ⟨rfl, hsum, fun i => ?_⟩
  have hi := getD_nonneg hnonneg i
  have hdamped : (0 : K) ≤ damping * teleport.getD i 0 := mul_nonneg damping_nonneg hi
  linarith

omit [LinearOrder K] [IsStrictOrderedRing K] in
theorem getD_zipWith {xs ys : List K} (h : xs.length = ys.length) (c : K) :
    (List.zipWith (fun x y => x + c * y) xs ys).getD i 0 = xs.getD i 0 + c * ys.getD i 0 := by
  by_cases hi : i < ys.length
  · rw [List.getD_eq_getElem _ 0 (by simpa [h] using hi), List.getElem_zipWith,
      List.getD_eq_getElem xs 0 (h ▸ hi), List.getD_eq_getElem ys 0 hi]
  · rw [List.getD_eq_default _ 0 (by simpa [h] using hi), List.getD_eq_default xs 0 (by omega),
      List.getD_eq_default ys 0 (by omega), mul_zero, add_zero]

omit [LinearOrder K] [IsStrictOrderedRing K] in
theorem getD_start :
    (teleport.map fun weight => (1 - damping) * weight).getD i 0 =
      (1 - damping) * teleport.getD i 0 := by
  by_cases hi : i < teleport.length
  · exact getD_map (fun weight => (1 - damping) * weight) hi
  · rw [List.getD_eq_default _ 0 (by simpa using hi), List.getD_eq_default _ 0 (by omega), mul_zero]

theorem rankStep_shared {outgoing : List (List (Link K))} (hnonneg : ∀ x ∈ teleport, 0 ≤ x)
    (hsum : teleport.sum = 1) (hlength : outgoing.length = teleport.length)
    (hlinks : ∀ links ∈ outgoing, Directed teleport.length links) (h : Shared teleport rank) :
    Shared teleport (rankStep teleport outgoing rank) := by
  have hnodes : ∀ node ∈ outgoing.zipIdx,
      Directed (teleport.map fun weight => (1 - damping) * weight).length node.1 := by
    intro node hnode
    rw [List.length_map]
    exact hlinks node.1 (List.fst_mem_of_mem_zipIdx hnode)
  have hspread : Spreading rank (outgoing.zipIdx.map Prod.snd)
      (teleport.map fun weight => (1 - damping) * weight, 0) (outgoing.zipIdx.foldl (spread rank)
        (teleport.map fun weight => (1 - damping) * weight, 0)) :=
    spread_run hnodes (h.nonneg hnonneg)
  have hhandled : (outgoing.zipIdx.map Prod.snd).map (rank.getD · 0) = rank := by
    rw [List.zipIdx_map_snd, ← List.range_eq_range', hlength, ← h.length, map_getD_range]
  have hmass := hspread.mass
  rw [hhandled, h.total] at hmass
  simp only [sum_map_mul, hsum, mul_zero, mul_one, add_zero] at hmass
  simp only [rankStep]
  generalize outgoing.zipIdx.foldl (spread rank)
    (teleport.map fun weight => (1 - damping) * weight, 0) = next at hspread hmass ⊢
  obtain ⟨next, danglingMass⟩ := next
  have hwidth : next.length = teleport.length := by simpa using hspread.length
  have htotal : (List.zipWith (fun value probability =>
      value + damping * danglingMass * probability) next teleport).sum = 1 := by
    rw [sum_zipWith_add hwidth, hsum, mul_one]
    dsimp only at hmass
    rw [hmass]
    ring
  rw [normalise_of_sum htotal]
  refine ⟨by simp [hwidth], htotal, fun i => ?_⟩
  have hgrows := hspread.grows i
  rw [getD_start] at hgrows
  have hdangling : (0 : K) ≤ damping * danglingMass := mul_nonneg damping_nonneg hspread.dangling
  have hadded := mul_nonneg hdangling (getD_nonneg hnonneg i)
  rw [getD_zipWith hwidth]
  dsimp only at hgrows
  linarith

theorem rank_shared {outgoing : List (List (Link K))} (hnonneg : ∀ x ∈ teleport, 0 ≤ x)
    (hsum : teleport.sum = 1) (hlength : outgoing.length = teleport.length)
    (hlinks : ∀ links ∈ outgoing, Directed teleport.length links) (rounds : Nat) :
    Shared teleport ((rankStep teleport outgoing)^[rounds] teleport) := by
  induction rounds with
  | zero => exact shared_teleport hnonneg hsum
  | succ rounds ih =>
    rw [Function.iterate_succ_apply']
    exact rankStep_shared hnonneg hsum hlength hlinks ih

end Rank

section Graph

omit [IsStrictOrderedRing K] in
theorem linkOf_directed {edge : EvidenceEdge K} {link : Link K}
    (h : linkOf nodeIds edges edge = some link) :
    link.target < nodeIds.length ∧ 0 < link.weight := by
  simp only [linkOf, Option.bind_eq_bind, Option.bind_eq_some_iff, Option.guard_eq_some',
    Option.pure_def, Option.some.injEq, exists_const] at h
  obtain ⟨source, -, target, htarget, -, hweight, rfl⟩ := h
  have hmem := Dictionary.mem_of_lookup_ofEntries htarget
  exact ⟨(List.snd_lt_of_mem_zipIdx hmem).trans_eq (Nat.add_zero _), hweight⟩

omit [Field K] [LinearOrder K] [IsStrictOrderedRing K] in
theorem outgoingOf_eq (nodes : Nat) (links : List (Link K)) :
    outgoingOf nodes links =
      (List.range nodes).map fun source => links.filter fun link => link.source = source := by
  induction links using List.reverseRecOn with
  | nil =>
    apply List.ext_getElem
    · simp [outgoingOf]
    · intro k _ _
      simp [outgoingOf]
  | append_singleton links link ih =>
    have hlast : outgoingOf nodes (links ++ [link]) =
        (outgoingOf nodes links).modify link.source (· ++ [link]) := by
      simp [outgoingOf]
    rw [hlast, ih]
    apply List.ext_getElem
    · simp
    · intro k hk _
      rw [List.getElem_modify]
      by_cases hsource : link.source = k
      · simp [hsource]
      · simp [hsource]

omit [IsStrictOrderedRing K] in
theorem outgoing_directed :
    ∀ links ∈ outgoingOf nodeIds.length (edges.filterMap (linkOf nodeIds edges)),
      Directed nodeIds.length links := by
  intro links hlinks link hlink
  rw [outgoingOf_eq] at hlinks
  obtain ⟨source, -, rfl⟩ := List.mem_map.mp hlinks
  obtain ⟨edge, -, hedge⟩ := List.mem_filterMap.mp (List.mem_of_mem_filter hlink)
  exact linkOf_directed hedge

theorem teleport_nonneg : ∀ x ∈ teleportOf nodeIds weights, 0 ≤ x := by
  refine normalise_nonneg fun v hv => ?_
  obtain ⟨id, -, rfl⟩ := List.mem_map.mp hv
  exact le_max_right _ 0

omit [IsStrictOrderedRing K] in
theorem teleport_length : (teleportOf nodeIds weights).length = nodeIds.length := by
  rw [teleportOf, normalise_length, List.length_map]

-- the nodes of one id have one share
omit [IsStrictOrderedRing K] in
theorem teleport_getD {j : Nat} {id : String} (hi : nodeIds[i]? = some id)
    (hj : nodeIds[j]? = some id) :
    (teleportOf nodeIds weights).getD i 0 = (teleportOf nodeIds weights).getD j 0 := by
  have hi' := (List.getElem?_eq_some_iff.mp hi).1
  have hj' := (List.getElem?_eq_some_iff.mp hj).1
  refine normalise_getD (by simpa using hi') (by simpa using hj') ?_
  rw [List.getD_eq_getElem?_getD, List.getD_eq_getElem?_getD, List.getElem?_map, List.getElem?_map,
    hi, hj]

end Graph

section Scores

def rankOf (nodeIds : List String) (edges : List (EvidenceEdge K)) (weights : Dictionary K) :
    List K :=
  (rankStep (teleportOf nodeIds weights)
    (outgoingOf nodeIds.length (edges.filterMap (linkOf nodeIds edges))))^[iterations]
      (teleportOf nodeIds weights)

omit [IsStrictOrderedRing K] in
theorem scores_eq (h : nodeIds ≠ []) :
    personalizedPageRank nodeIds edges weights =
      Dictionary.ofEntries (nodeIds.zip (rankOf nodeIds edges weights)) :=
  if_neg h

theorem rankOf_shared (h : nodeIds ≠ []) :
    Shared (teleportOf nodeIds weights) (rankOf nodeIds edges weights) := by
  have hne : (nodeIds.map fun id => max ((weights.lookup id).getD 0) 0) ≠ [] := by simpa using h
  refine rank_shared teleport_nonneg (normalise_sum hne) ?_ ?_ iterations
  · rw [outgoingOf_eq, List.length_map, List.length_range, teleport_length]
  · rw [teleport_length]
    exact outgoing_directed

structure Distribution (nodeIds : List String) (weights scores : Dictionary K) : Prop where
  nodes : ∀ id, id ∈ scores ↔ id ∈ nodeIds
  nonneg : ∀ id score, scores.lookup id = some score → 0 ≤ score
  share : ∀ i id score, nodeIds[i]? = some id → scores.lookup id = some score →
    (1 - damping) * (teleportOf nodeIds weights).getD i 0 ≤ score
  total : nodeIds ≠ [] → nodeIds.Nodup → (scores.entries.map Sigma.snd).sum = 1

omit [IsStrictOrderedRing K] in
theorem scored (h : nodeIds ≠ []) {id : String} {score : K}
    (hscore : (personalizedPageRank nodeIds edges weights).lookup id = some score) :
    ∃ i, nodeIds[i]? = some id ∧ (rankOf nodeIds edges weights).getD i 0 = score := by
  rw [scores_eq h] at hscore
  obtain ⟨i, hi⟩ := List.mem_iff_getElem?.mp (Dictionary.mem_of_lookup_ofEntries hscore)
  obtain ⟨hid, hrank⟩ := List.getElem?_zip_eq_some.mp hi
  exact ⟨i, hid, by rw [List.getD_eq_getElem?_getD, hrank, Option.getD_some]⟩

theorem rank_distribution (nodeIds : List String) (edges : List (EvidenceEdge K))
    (weights : Dictionary K) :
    Distribution nodeIds weights (personalizedPageRank nodeIds edges weights) := by
  by_cases hne : nodeIds = []
  · subst hne
    exact ⟨fun _ => Iff.rfl, nofun, nofun, fun h => absurd rfl h⟩
  · have hshared : Shared (teleportOf nodeIds weights) (rankOf nodeIds edges weights) :=
      rankOf_shared hne
    have hlength : (rankOf nodeIds edges weights).length = nodeIds.length :=
      hshared.length.trans teleport_length
    have hkeys : (nodeIds.zip (rankOf nodeIds edges weights)).map Prod.fst = nodeIds :=
      List.map_fst_zip hlength.ge
    refine ⟨fun id => ?_, fun id score hscore => ?_, fun i id score hid hscore => ?_,
      fun _ hnodup => ?_⟩
    · rw [scores_eq hne, Dictionary.mem_ofEntries, hkeys]
    · obtain ⟨i, -, rfl⟩ := scored hne hscore
      exact hshared.nonneg teleport_nonneg i
    · obtain ⟨j, hj, rfl⟩ := scored hne hscore
      rw [teleport_getD hid hj]
      exact hshared.share j
    · rw [scores_eq hne, Dictionary.values_ofEntries (hkeys.symm ▸ hnodup),
        List.map_snd_zip hlength.le, List.sum_reverse, hshared.total]

end Scores

section Edges

omit [IsStrictOrderedRing K] in
theorem isReciprocal_perm (h : edges.Perm edges') : isReciprocal edges = isReciprocal edges' := by
  funext edge
  rw [Bool.eq_iff_iff]
  simp only [isReciprocal, List.any_eq_true, h.mem_iff]

omit [IsStrictOrderedRing K] in
theorem linkOf_reciprocal (h : isReciprocal edges = isReciprocal edges') :
    linkOf nodeIds edges = linkOf nodeIds edges' := by
  have hweight : linkWeight edges = linkWeight edges' := by
    funext edge
    rw [linkWeight, linkWeight, h]
  funext edge
  rw [linkOf, linkOf, hweight]

omit [IsStrictOrderedRing K] in
theorem spread_perm (h : links.Perm links') :
    spread rank next (links, source) = spread rank next (links', source) := by
  have htotal : (links.map Link.weight).sum = (links'.map Link.weight).sum :=
    (h.map Link.weight).sum_eq
  by_cases hsmall : (links.map Link.weight).sum ≤ epsilon
  · rw [spread_dangling hsmall, spread_dangling (htotal ▸ hsmall)]
  · rw [spread_linked hsmall, spread_linked (htotal ▸ hsmall), htotal]
    exact congrArg (·, next.2) (scatter_perm (h.map _) next.1)

omit [IsStrictOrderedRing K] in
theorem rankStep_perm {nodes : Nat} (h : links.Perm links') :
    rankStep teleport (outgoingOf nodes links) = rankStep teleport (outgoingOf nodes links') := by
  have hspread : ∀ (rank : List K) (sources : List Nat) (start : Nat) (next : List K × K),
      ((sources.map fun source => links.filter fun link => link.source = source).zipIdx start).foldl
          (spread rank) next =
        ((sources.map fun source => links'.filter fun link => link.source = source).zipIdx start).foldl
          (spread rank) next := by
    intro rank sources
    induction sources with
    | nil => intro _ _; rfl
    | cons source sources ih =>
      intro start next
      simp only [List.map_cons, List.zipIdx_cons, List.foldl_cons]
      rw [spread_perm (h.filter _), ih]
  funext rank
  simp only [rankStep, outgoingOf_eq, hspread]

omit [IsStrictOrderedRing K] in
theorem rank_links (h : (edges.filterMap (linkOf nodeIds edges)).Perm
    (edges'.filterMap (linkOf nodeIds edges'))) :
    personalizedPageRank nodeIds edges weights = personalizedPageRank nodeIds edges' weights := by
  simp only [personalizedPageRank, rankStep_perm h]

omit [IsStrictOrderedRing K] in
theorem rank_permuted (h : edges.Perm edges') :
    personalizedPageRank nodeIds edges weights = personalizedPageRank nodeIds edges' weights := by
  refine rank_links ?_
  rw [linkOf_reciprocal (isReciprocal_perm h)]
  exact h.filterMap _

def weighty (edges : List (EvidenceEdge K)) : List (EvidenceEdge K) :=
  edges.filter fun edge => effectiveWeight edge ≠ 0

omit [IsStrictOrderedRing K] in
theorem isReciprocal_weighty (edges : List (EvidenceEdge K)) :
    isReciprocal (weighty edges) = isReciprocal edges := by
  funext edge
  rw [Bool.eq_iff_iff]
  simp only [isReciprocal, weighty, List.any_eq_true, List.mem_filter, decide_eq_true_eq,
    Bool.and_eq_true]
  constructor
  · rintro ⟨other, ⟨hmem, -⟩, hends⟩
    exact ⟨other, hmem, hends⟩
  · rintro ⟨other, hmem, hends⟩
    exact ⟨other, ⟨hmem, hends.2.ne'⟩, hends⟩

omit [IsStrictOrderedRing K] in
theorem linkOf_weightless {edge : EvidenceEdge K} (h : effectiveWeight edge = 0) :
    linkOf nodeIds edges edge = none := by
  simp [linkOf, linkWeight, h, guard]

omit [IsStrictOrderedRing K] in
theorem links_weighty (edges : List (EvidenceEdge K)) :
    (weighty edges).filterMap (linkOf nodeIds (weighty edges)) =
      edges.filterMap (linkOf nodeIds edges) := by
  rw [linkOf_reciprocal (isReciprocal_weighty edges), weighty, List.filterMap_filter]
  refine List.filterMap_congr fun edge _ => ?_
  by_cases hzero : effectiveWeight edge = 0
  · rw [linkOf_weightless hzero, ite_self]
  · exact if_pos (decide_eq_true hzero)

omit [IsStrictOrderedRing K] in
theorem rank_weighty :
    personalizedPageRank nodeIds (weighty edges) weights =
      personalizedPageRank nodeIds edges weights :=
  rank_links (List.Perm.of_eq (links_weighty edges))

end Edges

theorem rank_exact (K : Type) [Field K] [LinearOrder K] [IsStrictOrderedRing K]
    (nodeIds : List String) (edges : List (EvidenceEdge K)) (weights : Dictionary K) :
    personalizedPageRank nodeIds (weighty edges) weights =
        personalizedPageRank nodeIds edges weights ∧
      (∀ edges', edges.Perm edges' → personalizedPageRank nodeIds edges weights =
        personalizedPageRank nodeIds edges' weights) ∧
      Distribution nodeIds weights (personalizedPageRank nodeIds edges weights) :=
  ⟨rank_weighty, fun _ => rank_permuted, rank_distribution nodeIds edges weights⟩

section Sample

def totalScore (nodeIds : List String) : Rat :=
  ((personalizedPageRank nodeIds [] (∅ : Dictionary Rat)).entries.map Sigma.snd).sum

theorem scores_short : totalScore [] ≠ 1 ∧ totalScore ["a", "a"] ≠ 1 := by
  decide +kernel

def sampleEdges : List (EvidenceEdge Rat) :=
  [⟨"a", "b", "cites", "organic", "tea", 1⟩, ⟨"b", "a", "endorses", "organic", "tea", 1⟩,
    ⟨"b", "c", "corroborates", "admin_verified", "tea", 2⟩, ⟨"a", "c", "cites", "paid", "tea", 2⟩]

def sampleRank (edges : List (EvidenceEdge Rat)) : Dictionary Rat :=
  personalizedPageRank ["a", "b", "c"] edges (Dictionary.ofEntries [("a", 2), ("c", 1)])

theorem rank_exact_sample : sampleRank (weighty sampleEdges) = sampleRank sampleEdges ∧
    sampleRank sampleEdges = sampleRank sampleEdges.reverse ∧
    ((sampleRank sampleEdges).entries.map Sigma.snd).sum = 1 := by
  obtain ⟨hweighty, hpermuted, hdistribution⟩ := rank_exact Rat ["a", "b", "c"] sampleEdges
    (Dictionary.ofEntries [("a", 2), ("c", 1)])
  exact ⟨hweighty, hpermuted _ sampleEdges.reverse_perm.symm,
    hdistribution.total (by decide) (by decide)⟩

end Sample

end Obulus.Search.Exact
