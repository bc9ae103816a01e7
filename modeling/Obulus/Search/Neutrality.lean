import Obulus.Foundation.Interleaving
import Obulus.Search.Resolver

namespace Obulus.Search

open Foundation

variable {std : StdLib} {edge : EvidenceEdge} {edges added added' merged : List EvidenceEdge}
  {nodeIds queryTerms : List String} {queryEmbedding : List Float32} {resolver : Resolver}
  {request : ResolveQuestionRequest} {queryId : String} {documents : List Document}
  {candidate : Candidate}

def Neutral (edge : EvidenceEdge) : Prop := (effectiveWeight edge == 0) = true

section PageRank

theorem linkWeight_neutral (h : Neutral edge) : ¬linkWeight edges edge > 0 := by
  unfold linkWeight
  split
  · exact Single.not_pos_mul h rfl
  · exact Single.not_pos_mul h rfl

theorem linkOf_neutral (h : Neutral edge) : linkOf nodeIds edges edge = none := by
  have hweight : ¬linkWeight edges edge > 0 := linkWeight_neutral h
  simp [linkOf, hweight, guard]

theorem isReciprocal_merged (h : Interleaving edges added merged) (hz : ∀ e ∈ added, Neutral e) :
    isReciprocal merged = isReciprocal edges := by
  funext edge
  refine h.any_eq fun other hother => ?_
  have hpos := Single.not_pos_of_beq_zero (hz other hother)
  have hfalse : decide (effectiveWeight other > 0) = false := decide_eq_false hpos
  rw [hfalse, Bool.and_false]

theorem linkWeight_merged (h : Interleaving edges added merged) (hz : ∀ e ∈ added, Neutral e) :
    linkWeight merged = linkWeight edges := by
  funext edge
  unfold linkWeight
  rw [isReciprocal_merged h hz]

theorem linkOf_merged (h : Interleaving edges added merged) (hz : ∀ e ∈ added, Neutral e) :
    linkOf nodeIds merged = linkOf nodeIds edges := by
  funext edge
  unfold linkOf
  rw [linkWeight_merged h hz]

theorem pageRank_merged (h : Interleaving edges added merged) (hz : ∀ e ∈ added, Neutral e)
    (teleport : Dictionary Float32) :
    personalizedPageRank nodeIds merged teleport = personalizedPageRank nodeIds edges teleport := by
  have hlinks : merged.filterMap (linkOf nodeIds merged) = edges.filterMap (linkOf nodeIds edges) := by
    rw [linkOf_merged h hz]
    exact h.filterMap_eq fun e he => linkOf_neutral (hz e he)
  simp only [personalizedPageRank, hlinks]

end PageRank

section Resolve

theorem authorityScores_of_ne (hne : edges ≠ []) :
    (resolver.withEvidenceEdges edges).authorityScores std queryEmbedding queryTerms =
      resolver.rankedScores queryEmbedding queryTerms (edges.filter (isTopical std queryTerms)) :=
  if_neg hne

theorem rankedScores_merged (h : Interleaving edges added merged) (hz : ∀ e ∈ added, Neutral e) :
    resolver.rankedScores queryEmbedding queryTerms (merged.filter (isTopical std queryTerms)) =
      resolver.rankedScores queryEmbedding queryTerms (edges.filter (isTopical std queryTerms)) := by
  have htopical := h.filter (isTopical std queryTerms)
  have hz' : ∀ e ∈ added.filter (isTopical std queryTerms), Neutral e :=
    fun e he => hz e (List.mem_of_mem_filter he)
  dsimp only [Resolver.rankedScores]
  rw [pageRank_merged htopical hz']

theorem authorityScores_merged (h : Interleaving edges added merged) (hz : ∀ e ∈ added, Neutral e)
    (hne : edges ≠ []) :
    (resolver.withEvidenceEdges merged).authorityScores std queryEmbedding queryTerms =
      (resolver.withEvidenceEdges edges).authorityScores std queryEmbedding queryTerms := by
  rw [authorityScores_of_ne (h.ne_nil hne), authorityScores_of_ne hne, rankedScores_merged h hz]

theorem score_authority {indexed : IndexedDocument} {anchorTerms : List String} {authority : Float32}
    (h : score indexed queryEmbedding queryTerms anchorTerms authority = some candidate) :
    candidate.indexed = indexed ∧ candidate.breakdown.authority = authority := by
  simp only [score, Option.ite_none_left_eq_some, Option.some.injEq] at h
  obtain ⟨-, rfl⟩ := h
  exact ⟨rfl, rfl⟩

theorem score_none {indexed : IndexedDocument} {anchorTerms : List String} {authority authority' : Float32}
    (h : score indexed queryEmbedding queryTerms anchorTerms authority = none) :
    score indexed queryEmbedding queryTerms anchorTerms authority' = none := by
  simp only [score, ite_eq_left_iff, reduceCtorEq, imp_false, not_not] at h ⊢
  exact h

def authorityOf (authority : Dictionary Float32) (document : Document) : Float32 :=
  (authority.lookup document.id).getD 0.5

theorem candidate_authority {anchorTerms : List String} {authority : Dictionary Float32}
    (h : candidate ∈ resolver.candidates request queryEmbedding queryTerms anchorTerms authority) :
    candidate.breakdown.authority = authorityOf authority candidate.indexed.document := by
  have hscored := (List.perm_insertionSort Candidate.before _).mem_iff.mp h
  obtain ⟨indexed, -, hscore⟩ := List.mem_filterMap.mp hscored
  obtain ⟨hindexed, hauthority⟩ := score_authority hscore
  rw [hauthority, hindexed, authorityOf]

theorem candidates_eq_iff {anchorTerms : List String} {authority authority' : Dictionary Float32} :
    resolver.candidates request queryEmbedding queryTerms anchorTerms authority =
        resolver.candidates request queryEmbedding queryTerms anchorTerms authority' ↔
      ∀ c ∈ resolver.candidates request queryEmbedding queryTerms anchorTerms authority',
        authorityOf authority c.indexed.document = authorityOf authority' c.indexed.document := by
  constructor
  · intro h c hc
    rw [← candidate_authority hc, candidate_authority (h ▸ hc)]
  · intro h
    unfold Resolver.candidates
    dsimp only
    congr 1
    apply List.filterMap_congr
    intro indexed hindexed
    cases hscore : score indexed queryEmbedding queryTerms anchorTerms
        ((authority'.lookup indexed.document.id).getD 0.5) with
    | none => exact score_none hscore
    | some c =>
      have hmem : c ∈ resolver.candidates request queryEmbedding queryTerms anchorTerms authority' :=
        (List.perm_insertionSort Candidate.before _).mem_iff.mpr
          (List.mem_filterMap.mpr ⟨indexed, hindexed, hscore⟩)
      have hsame := h c hmem
      rw [(score_authority hscore).1, authorityOf, authorityOf] at hsame
      rw [hsame, hscore]

theorem resolve_congr (h : (resolver.withEvidenceEdges merged).ranked std request =
      (resolver.withEvidenceEdges edges).ranked std request) :
    (resolver.withEvidenceEdges merged).resolve std request queryId =
      (resolver.withEvidenceEdges edges).resolve std request queryId := by
  simp only [Resolver.resolve, h]

theorem ranked_merged (h : Interleaving edges added merged) (hz : ∀ e ∈ added, Neutral e)
    (hne : edges ≠ []) : (resolver.withEvidenceEdges merged).ranked std request =
      (resolver.withEvidenceEdges edges).ranked std request := by
  simp only [Resolver.ranked, authorityScores_merged h hz hne]
  rfl

-- the authority of a document in a walk that no edge of the topic carries
def walkAuthority (std : StdLib) (documents : List Document) (request : ResolveQuestionRequest)
    (document : Document) : Float32 :=
  let question := trim request.question
  authorityOf ((Resolver.new std documents).rankedScores (embed std question)
    (wordTerms std question).dedup []) document

theorem ranked_neutral (hz : ∀ e ∈ added, Neutral e) (hne : added ≠ []) :
    ((Resolver.new std documents).withEvidenceEdges added).ranked std request =
        (Resolver.new std documents).ranked std request ↔
      ∀ c ∈ (Resolver.new std documents).ranked std request,
        walkAuthority std documents request c.indexed.document = 0.5 := by
  simp only [Resolver.ranked, authorityScores_of_ne hne, rankedScores_merged (.nil_left added) hz,
    List.filter_nil]
  exact candidates_eq_iff

theorem ranked_unmoved (h : Interleaving edges added merged) (hz : ∀ e ∈ added, Neutral e)
    (hcase : edges ≠ [] ∨ added = [] ∨ ∀ c ∈ (Resolver.new std documents).ranked std request,
      walkAuthority std documents request c.indexed.document = 0.5) :
    ((Resolver.new std documents).withEvidenceEdges merged).ranked std request =
      ((Resolver.new std documents).withEvidenceEdges edges).ranked std request := by
  by_cases hedges : edges = []
  · subst hedges
    rw [h.of_nil_left]
    rcases hcase with hne | hadded | hwalk
    · exact absurd rfl hne
    · rw [hadded]
    · by_cases hadded : added = []
      · rw [hadded]
      · exact (ranked_neutral hz hadded).mpr hwalk
  · exact ranked_merged h hz hedges

theorem resolve_refused {error : ResolveError} (h : validate request = .error error) :
    resolver.resolve std request queryId = .error error := by
  rw [Resolver.resolve, h]
  rfl

-- for every place the added edges may take among the stored ones
def RankingUnmoved (std : StdLib) (documents : List Document) (request : ResolveQuestionRequest)
    (queryId : String) (edges added : List EvidenceEdge) : Prop :=
  ∀ merged, Interleaving edges added merged →
    (validate request = .ok () →
      ((Resolver.new std documents).withEvidenceEdges merged).ranked std request =
        ((Resolver.new std documents).withEvidenceEdges edges).ranked std request) ∧
    ((Resolver.new std documents).withEvidenceEdges merged).resolve std request queryId =
      ((Resolver.new std documents).withEvidenceEdges edges).resolve std request queryId

theorem unmoved_of_ranked (h : ∀ merged, Interleaving edges added merged →
      ((Resolver.new std documents).withEvidenceEdges merged).ranked std request =
        ((Resolver.new std documents).withEvidenceEdges edges).ranked std request) :
    RankingUnmoved std documents request queryId edges added :=
  fun merged hmerged => ⟨fun _ => h merged hmerged, resolve_congr (h merged hmerged)⟩

theorem unmoved_of_refused {error : ResolveError} (h : validate request = .error error) :
    RankingUnmoved std documents request queryId edges added := by
  intro merged _
  refine ⟨fun hvalid => ?_, (resolve_refused h).trans (resolve_refused h).symm⟩
  rw [h] at hvalid
  cases hvalid

theorem walk_of_unmoved (hz : ∀ e ∈ added, Neutral e) (hne : added ≠ [])
    (hvalid : validate request = .ok ())
    (h : RankingUnmoved std documents request queryId [] added) :
    ∀ c ∈ (Resolver.new std documents).ranked std request,
      walkAuthority std documents request c.indexed.document = 0.5 :=
  (ranked_neutral hz hne).mp ((h added (.nil_left added)).1 hvalid)

-- the shortcut for a store without edges gives 0.5 where the walk gives its own authority
theorem ranking_unmoved_iff (hz : ∀ e ∈ added, Neutral e) :
    RankingUnmoved std documents request queryId edges added ↔
      edges ≠ [] ∨ added = [] ∨ validate request ≠ .ok () ∨
        ∀ c ∈ (Resolver.new std documents).ranked std request,
          walkAuthority std documents request c.indexed.document = 0.5 := by
  constructor
  · intro h
    by_contra hmoved
    simp only [not_or, not_not] at hmoved
    obtain ⟨rfl, hne, hvalid, hwalk⟩ := hmoved
    exact hwalk (walk_of_unmoved hz hne hvalid h)
  · intro h
    cases hvalid : validate request with
    | error error => exact unmoved_of_refused hvalid
    | ok =>
      refine unmoved_of_ranked fun merged hmerged => ranked_unmoved hmerged hz ?_
      rcases h with hne | hadded | hrefused | hwalk
      · exact .inl hne
      · exact .inr (.inl hadded)
      · exact absurd hvalid hrefused
      · exact .inr (.inr hwalk)

end Resolve

section Sample

def paidEdge : EvidenceEdge := ⟨"doc_1", "doc_1", "corroborates", "paid", "tea", 1.0⟩

def organicEdge : EvidenceEdge := ⟨"doc_1", "doc_2", "corroborates", "organic", "tea", 1.0⟩

theorem paidEdge_neutral : ∀ e ∈ [paidEdge], Neutral e := by
  intro e he
  rw [List.mem_singleton.mp he]
  unfold Neutral
  decide

-- 1 against 0.5
set_option maxRecDepth 20000 in
theorem sample_walk : ((Resolver.new sampleStd [sampleDocument]).ranked sampleStd sampleRequest).any
    (fun c => decide (walkAuthority sampleStd [sampleDocument] sampleRequest c.indexed.document ≠ 0.5)) =
      true := by
  decide +kernel

theorem ranking_unmoved_iff_sample :
    RankingUnmoved sampleStd [sampleDocument] sampleRequest "qry_1" [organicEdge] [paidEdge] :=
  (ranking_unmoved_iff paidEdge_neutral).mpr (.inl (by simp))

theorem paid_edge_moves_ranking : (∀ e ∈ [paidEdge], Neutral e) ∧
    ¬RankingUnmoved sampleStd [sampleDocument] sampleRequest "qry_1" [] [paidEdge] := by
  refine ⟨paidEdge_neutral, fun h => ?_⟩
  obtain ⟨c, hc, hwalk⟩ := List.any_eq_true.mp sample_walk
  have hvalid : validate sampleRequest = .ok () := by decide
  exact of_decide_eq_true hwalk (walk_of_unmoved paidEdge_neutral (by simp) hvalid h c hc)

end Sample

end Obulus.Search
