import Mathlib.Data.List.Sort
import Obulus.Search.Lexicon

namespace Obulus.Search

open Foundation

structure DemographicBands where
  ageBand : String
  region : String
  household : String
  field : String
  deriving DecidableEq, Repr

structure Document where
  id : String
  handle : String
  authorId : String
  shelfId : String
  shelf : String
  category : String
  content : String
  tags : List String
  priceKrw : Nat
  ageDays : Nat
  qualityScore : Float32
  reliabilityScore : Float32
  locked : Bool
  demographics : Option DemographicBands
  deriving DecidableEq

structure IndexedDocument where
  document : Document
  embedding : List Float32
  terms : List String

structure ScoreBreakdown where
  relevance : Float32
  termCoverage : Float32
  authority : Float32
  trust : Float32
  freshness : Float32
  deriving DecidableEq

structure Candidate where
  indexed : IndexedDocument
  score : Float32
  breakdown : ScoreBreakdown

section Candidates

def minRelevance : Float32 := 0.22

def termCoverage (queryTerms terms : List String) : Float32 :=
  if queryTerms = [] then 0.0
  else Float32.ofNat (queryTerms.countP (· ∈ terms)) / Float32.ofNat queryTerms.length

def trustOf (document : Document) : Float32 :=
  (document.qualityScore + document.reliabilityScore) / 2.0

def freshnessOf (document : Document) : Float32 :=
  Single.max ((2.0 : Float32).pow (-Float32.ofNat document.ageDays / 90.0)) 0.2

def score (indexed : IndexedDocument) (queryEmbedding : List Float32)
    (queryTerms anchorTerms : List String) (authority : Float32) : Option Candidate :=
  let relevance := cosine queryEmbedding indexed.embedding
  let coverage := termCoverage queryTerms indexed.terms
  let trust := trustOf indexed.document
  let freshness := freshnessOf indexed.document
  let hasAnchor := anchorTerms.any (· ∈ indexed.terms)
  if relevance < minRelevance ∨ (coverage == 0.0) = true ∨ hasAnchor = false then none
  else some
    { indexed := indexed
      score := relevance * 0.60 + coverage * 0.12 + authority * 0.13 + trust * 0.10 + freshness * 0.05
      breakdown := ⟨relevance, coverage, authority, trust, freshness⟩ }

def Candidate.before (left right : Candidate) : Prop :=
  Single.totalKey right.score < Single.totalKey left.score ∨
    (Single.totalKey right.score = Single.totalKey left.score ∧
      left.indexed.document.handle ≤ right.indexed.document.handle)

instance : DecidableRel Candidate.before := fun _ _ => by
  unfold Candidate.before
  infer_instance

end Candidates

section Selection

structure SelectionState where
  spent : Nat
  utility : Float32
  indices : List Nat

variable (candidates : List Candidate)

def jaccard (left right : List String) : Float32 :=
  let shared := left.countP (· ∈ right)
  let union := left.length + right.length - shared
  if union = 0 then 0.0 else Float32.ofNat shared / Float32.ofNat union

def termsAt (index : Nat) : List String :=
  (candidates[index]?.map fun c => c.indexed.terms).getD []

def scoreAt (index : Nat) : Float32 := (candidates[index]?.map Candidate.score).getD 0

def priceAt (index : Nat) : Nat := (candidates[index]?.map fun c => c.indexed.document.priceKrw).getD 0

def marginalUtility (index : Nat) (chosen : List Nat) : Float32 :=
  let redundancy := (chosen.map fun other =>
    jaccard (termsAt candidates index) (termsAt candidates other)).foldl Single.max 0.0
  scoreAt candidates index - redundancy * 0.18

-- the first candidate of each author, in order
def uniqueFrom (authors : List String) (index : Nat) : List Candidate → List Nat
  | [] => []
  | candidate :: rest =>
    let author := candidate.indexed.document.authorId
    if author ∈ authors then uniqueFrom authors (index + 1) rest
    else index :: uniqueFrom (author :: authors) (index + 1) rest

def uniqueIndices : List Nat := (uniqueFrom [] 0 candidates).take 80

def chooseWithout (unique : List Nat) : Nat → List Nat → List Nat
  | 0, chosen => chosen
  | fuel + 1, chosen =>
    match Single.maxBy (fun index => Single.totalKey (marginalUtility candidates index chosen))
        (unique.filter (· ∉ chosen)) with
    | none => chosen
    | some next => chooseWithout unique fuel (chosen ++ [next])

def stateOrder (left right : SelectionState) : Prop :=
  left.spent < right.spent ∨
    (left.spent = right.spent ∧ Single.totalKey right.utility ≤ Single.totalKey left.utility)

instance : DecidableRel stateOrder := fun _ _ => by
  unfold stateOrder
  infer_instance

def utilityOrder (left right : SelectionState) : Prop :=
  Single.totalKey right.utility ≤ Single.totalKey left.utility

instance : DecidableRel utilityOrder := fun _ _ => by
  unfold utilityOrder
  infer_instance

def negativeInfinity : Float32 := .ofBits 0xff800000

def retainBetter (best : Float32) : List SelectionState → List SelectionState
  | [] => []
  | state :: rest =>
    if best + 0.0001 < state.utility then state :: retainBetter state.utility rest
    else retainBetter best rest

def pruneStates (states : List SelectionState) : List SelectionState :=
  let states := retainBetter negativeInfinity (states.insertionSort stateOrder)
  if 512 < states.length then (states.insertionSort utilityOrder).take 512 else states

def extendState (budget index : Nat) (state : SelectionState) : Option SelectionState :=
  let spent := state.spent + priceAt candidates index
  if spent ≤ budget then
    some ⟨spent, state.utility + marginalUtility candidates index state.indices,
      state.indices ++ [index]⟩
  else none

def addIndexAt (budget index count : Nat) (states : List (List SelectionState)) :
    List (List SelectionState) :=
  let additions := (states.getD count []).filterMap (extendState candidates budget index)
  states.modify (count + 1) fun bucket => pruneStates (bucket ++ additions)

def addIndex (requested budget : Nat) (states : List (List SelectionState)) (index : Nat) :
    List (List SelectionState) :=
  (List.range requested).reverse.foldl (fun states count =>
    addIndexAt candidates budget index count states) states

def bestBucket (states : List (List SelectionState)) : List Nat :=
  (states.reverse.findSome? fun bucket =>
    (Single.maxBy (fun state => Single.totalKey state.utility) bucket).map
      SelectionState.indices).getD []

def selectCandidateIndices (requested : Nat) (budget : Option Nat) : List Nat :=
  let unique := uniqueIndices candidates
  match budget with
  | none => chooseWithout candidates unique requested []
  | some budget =>
    let start := [⟨0, 0.0, []⟩] :: List.replicate requested []
    bestBucket (unique.foldl (addIndex candidates requested budget) start)

end Selection

end Obulus.Search
