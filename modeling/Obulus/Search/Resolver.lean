import Obulus.Funds.Pricing
import Obulus.Search.Selection

namespace Obulus.Search

open Foundation

def maxRequestedDocuments : Nat := 20
def defaultOpenCallPriceUnits : Nat := 675

structure ResolveQuestionRequest where
  question : String
  requestedDocuments : Nat
  budgetKrw : Option Nat
  filters : Funds.SearchFilters

inductive ResolveError
  | questionTooShort
  | questionTooLong
  | invalidRequestedDocuments
  | unsupportedFilter
  deriving DecidableEq, Repr

inductive Decision
  | hit
  | miss
  deriving DecidableEq, Repr

inductive DecisionReason
  | coverageReady
  | noRelevantDocuments
  | insufficientCoverage
  | budgetTooLow
  deriving DecidableEq, Repr

inductive LiquidityState
  | aiLiquidityOnly
  | hybridCoverage
  | humanCovered
  deriving DecidableEq, Repr

structure MatchedDocument where
  handle : String
  shelfId : String
  shelf : String
  category : String
  priceKrw : Nat
  score : Float32
  scoreBreakdown : ScoreBreakdown
  demographics : Option DemographicBands
  deriving DecidableEq

structure Quote where
  currency : String
  documentCount : Nat
  totalPriceKrw : Nat
  deriving DecidableEq, Repr

structure OpenCallDraft where
  question : String
  targetAnswers : Nat
  existingMatches : Nat
  answersNeeded : Nat
  suggestedUnitPriceKrw : Nat
  suggestedBudgetKrw : Nat
  suggestedUnitPriceAtomic : String
  suggestedBudgetAtomic : String
  deriving DecidableEq, Repr

structure ResolveQuestionResponse where
  queryId : String
  decision : Decision
  reason : DecisionReason
  liquidityState : LiquidityState
  aiBaselineEligible : Bool
  requestedDocuments : Nat
  candidateCount : Nat
  matched : List MatchedDocument
  quote : Option Quote
  openCall : Option OpenCallDraft
  deriving DecidableEq

section Validation

def supported (value : Option String) (allowed : List String) : Bool :=
  value.all allowed.contains

def validate (request : ResolveQuestionRequest) : Except ResolveError Unit := do
  let questionLength := (trim request.question).length
  reject (questionLength < 2) .questionTooShort
  reject (1000 < questionLength) .questionTooLong
  reject (request.requestedDocuments < 1 ∨ maxRequestedDocuments < request.requestedDocuments)
    .invalidRequestedDocuments
  reject (¬(supported request.filters.category Funds.categoryIds ∧
      supported request.filters.ageBand Funds.ageBands ∧
      supported request.filters.region Funds.regions ∧
      supported request.filters.household Funds.households ∧
      supported request.filters.field Funds.categoryIds))
    .unsupportedFilter

def categoryMatches (indexed : IndexedDocument) (requested : Option String) : Bool :=
  requested.all fun category =>
    decide (indexed.document.category.toList.map Char.toLower = category.toList.map Char.toLower)

def bandMatches (band : String) (requested : Option String) : Bool :=
  requested.all fun value => decide (band = value)

def demographicsMatch (document : Document) (filters : Funds.SearchFilters) : Bool :=
  let targeted := filters.ageBand.isSome || filters.region.isSome || filters.household.isSome ||
    filters.field.isSome
  !targeted || document.demographics.any fun bands =>
    bandMatches bands.ageBand filters.ageBand && bandMatches bands.region filters.region &&
      bandMatches bands.household filters.household && bandMatches bands.field filters.field

end Validation

structure Resolver where
  documents : List IndexedDocument
  evidenceEdges : List EvidenceEdge

section Resolve

variable (std : StdLib)

def searchableText (document : Document) : String :=
  let tags := " ".intercalate document.tags
  s!"{document.shelf} {document.shelf} {document.category} {tags} {tags} {document.content}"

def indexDocument (document : Document) : IndexedDocument :=
  let searchable := searchableText document
  ⟨document, embed std searchable, (wordTerms std searchable).dedup⟩

def Resolver.new (documents : List Document) : Resolver :=
  ⟨documents.map (indexDocument std), []⟩

def Resolver.withEvidenceEdges (resolver : Resolver) (evidenceEdges : List EvidenceEdge) : Resolver :=
  { resolver with evidenceEdges := evidenceEdges }

-- how many documents hold the term
def Resolver.documentFrequency (resolver : Resolver) (term : String) : Nat :=
  resolver.documents.countP fun indexed => decide (term ∈ indexed.terms)

def Resolver.anchorTerms (resolver : Resolver) (question : String) (queryTerms : List String) :
    List String :=
  let known := fun term => decide (0 < resolver.documentFrequency term)
  let rareCutoff := max (resolver.documents.length / 5) 3
  let named := (capitalisedTerms std question).dedup.filter known
  let rare := queryTerms.filter fun term =>
    known term && decide (resolver.documentFrequency term ≤ rareCutoff)
  if named ≠ [] then named else if rare ≠ [] then rare else queryTerms.filter known

def isTopical (queryTerms : List String) (edge : EvidenceEdge) : Bool :=
  let topicTerms := wordTerms std edge.topic
  topicTerms.isEmpty || topicTerms.any (· ∈ queryTerms)

def teleportWeight (queryEmbedding : List Float32) (queryTerms : List String)
    (indexed : IndexedDocument) : Float32 :=
  let relevance := Single.max (cosine queryEmbedding indexed.embedding) 0.0
  let coverage := termCoverage queryTerms indexed.terms
  relevance * relevance + coverage * 0.5 + trustOf indexed.document * 0.02

def Resolver.rankedScores (resolver : Resolver) (queryEmbedding : List Float32)
    (queryTerms : List String) (topicalEdges : List EvidenceEdge) : Dictionary Float32 :=
  let nodeIds := resolver.documents.map fun indexed => indexed.document.id
  let teleport := Dictionary.ofEntries (resolver.documents.map fun indexed =>
    (indexed.document.id, teleportWeight queryEmbedding queryTerms indexed))
  let raw := personalizedPageRank nodeIds topicalEdges teleport
  let maximum := (raw.entries.map Sigma.snd).foldl Single.max 0.0
  if maximum ≤ Single.epsilon then ∅
  else Dictionary.ofEntries (raw.entries.map fun entry => (entry.1, entry.2 / maximum))

def Resolver.authorityScores (resolver : Resolver) (queryEmbedding : List Float32)
    (queryTerms : List String) : Dictionary Float32 :=
  if resolver.evidenceEdges = [] then ∅
  else
    resolver.rankedScores queryEmbedding queryTerms
      (resolver.evidenceEdges.filter (isTopical std queryTerms))

def Resolver.candidates (resolver : Resolver) (request : ResolveQuestionRequest)
    (queryEmbedding : List Float32) (queryTerms anchorTerms : List String)
    (authority : Dictionary Float32) : List Candidate :=
  let eligible := resolver.documents.filter fun indexed =>
    !indexed.document.locked && categoryMatches indexed request.filters.category &&
      demographicsMatch indexed.document request.filters &&
      request.filters.maxUnitPriceKrw.all fun most => decide (indexed.document.priceKrw ≤ most)
  (eligible.filterMap fun indexed =>
    score indexed queryEmbedding queryTerms anchorTerms
      ((authority.lookup indexed.document.id).getD 0.5)).insertionSort Candidate.before

def rounded (value : Float32) : Float32 := Single.round (value * 10000.0) / 10000.0

def Candidate.matched (candidate : Candidate) : MatchedDocument :=
  let document := candidate.indexed.document
  let breakdown := candidate.breakdown
  { handle := document.handle
    shelfId := document.shelfId
    shelf := document.shelf
    category := document.category
    priceKrw := document.priceKrw
    score := rounded candidate.score
    scoreBreakdown := ⟨rounded breakdown.relevance, rounded breakdown.termCoverage,
      rounded breakdown.authority, rounded breakdown.trust, rounded breakdown.freshness⟩
    demographics := document.demographics }

def suggestedPrice (matched : List MatchedDocument) : Nat :=
  if matched = [] then defaultOpenCallPriceUnits
  else ((matched.map MatchedDocument.priceKrw).insertionSort (· ≤ ·)).getD (matched.length / 2) 0

def atomicText (amountKrw : Nat) : String :=
  toString ((Funds.krwToAtomicPinned amountKrw).toOption.getD 0)

def coverageDecision (request : ResolveQuestionRequest) (candidateCount : Nat)
    (matched : List MatchedDocument) (budgetBlocked : Bool) : Decision × DecisionReason :=
  if request.requestedDocuments ≤ matched.length then (.hit, .coverageReady)
  else if candidateCount = 0 then (.miss, .noRelevantDocuments)
  else if matched = [] ∧ budgetBlocked then (.miss, .budgetTooLow)
  else (.miss, .insufficientCoverage)

def liquidityOf (request : ResolveQuestionRequest) (candidateCount : Nat) : LiquidityState :=
  if candidateCount = 0 then .aiLiquidityOnly
  else if candidateCount < request.requestedDocuments then .hybridCoverage
  else .humanCovered

def draftOpenCall (question : String) (request : ResolveQuestionRequest)
    (matched : List MatchedDocument) : OpenCallDraft :=
  let unitPrice := suggestedPrice matched
  let answersNeeded := request.requestedDocuments - matched.length
  let budget := unitPrice * answersNeeded % 2 ^ 64
  ⟨question, request.requestedDocuments, matched.length, answersNeeded, unitPrice, budget,
    atomicText unitPrice, atomicText budget⟩

-- the candidates in the order of their scores
def Resolver.ranked (resolver : Resolver) (request : ResolveQuestionRequest) : List Candidate :=
  let question := trim request.question
  let queryEmbedding := embed std question
  let queryTerms := (wordTerms std question).dedup
  let anchors := resolver.anchorTerms std question queryTerms
  let authority := resolver.authorityScores std queryEmbedding queryTerms
  resolver.candidates request queryEmbedding queryTerms anchors authority

-- `spent`, which wraps in a release build
def spentOn (matched : List MatchedDocument) : Nat :=
  matched.foldl (fun spent document => (spent + document.priceKrw) % 2 ^ 64) 0

-- the query id is drawn at random
def Resolver.resolve (resolver : Resolver) (request : ResolveQuestionRequest) (queryId : String) :
    Except ResolveError ResolveQuestionResponse := do
  validate request
  let candidates := resolver.ranked std request
  let selected := selectCandidateIndices candidates request.requestedDocuments request.budgetKrw
  let budgetBlocked := request.budgetKrw.isSome && !candidates.isEmpty && selected.isEmpty
  let matched := (selected.filterMap fun index => candidates[index]?).map Candidate.matched
  let (decision, reason) := coverageDecision request candidates.length matched budgetBlocked
  let liquidity := liquidityOf request candidates.length
  return {
    queryId := queryId
    decision := decision
    reason := reason
    liquidityState := liquidity
    aiBaselineEligible := decide (liquidity ≠ .humanCovered)
    requestedDocuments := request.requestedDocuments
    candidateCount := candidates.length
    matched := matched
    quote := if matched = [] then none else some ⟨"USDC", matched.length, spentOn matched⟩
    openCall := if decision = .miss then some (draftOpenCall (trim request.question) request matched)
      else none }

end Resolve

section Sample

def sampleStd : StdLib where
  toLowercase c := [c.toLower]
  lowercase term := term.map Char.toLower
  isAlphanumeric := isAsciiAlphanumeric
  isUppercase c := decide (65 ≤ c.toNat ∧ c.toNat ≤ 90)
  readOrder map := map.entries.map fun entry => (entry.1, entry.2)

def sampleDocument : Document where
  id := "doc_1"
  handle := "doc_1"
  authorId := "user_1"
  shelfId := "shelf_1"
  shelf := "tea"
  category := "food"
  content := "tea"
  tags := []
  priceKrw := 100
  ageDays := 0
  qualityScore := 0.8
  reliabilityScore := 0.8
  locked := false
  demographics := none

def sampleRequest : ResolveQuestionRequest :=
  ⟨"tea", 1, none, ⟨none, none, none, none, none, none⟩⟩

end Sample

end Obulus.Search
