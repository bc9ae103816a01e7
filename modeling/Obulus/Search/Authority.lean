import Obulus.Foundation.Dictionary
import Mathlib.Logic.Function.Iterate
import Obulus.Foundation.Single

namespace Obulus.Search

open Foundation

structure EvidenceEdge where
  sourceDocumentId : String
  targetDocumentId : String
  relation : String
  provenance : String
  topic : String
  weight : Float32

def damping : Float32 := 0.85
def iterations : Nat := 40

section Weight

def provenanceFactor (provenance : String) : Float32 :=
  if provenance = "organic" then 1.0
  else if provenance = "admin_verified" then 1.1
  else if provenance = "outcome_verified" then 1.3
  else 0.0

def relationFactor (relation : String) : Float32 :=
  if relation = "cites" then 0.8
  else if relation = "corroborates" then 1.0
  else if relation = "endorses" then 0.7
  else if relation = "verified_outcome" then 1.2
  else if relation = "contextualizes" then 0.35
  else 0.0

def effectiveWeight (edge : EvidenceEdge) : Float32 :=
  Single.clamp 0.0 2.0 edge.weight * provenanceFactor edge.provenance *
    relationFactor edge.relation

end Weight

section PageRank

def normaliseOrUniform (values : List Float32) : List Float32 :=
  let total := Single.sum values
  if total ≤ Single.epsilon then
    List.replicate values.length (1.0 / Float32.ofNat values.length)
  else values.map (· / total)

-- the index of the last node with this id
def positionOf (nodeIds : List String) (id : String) : Option Nat :=
  (Dictionary.ofEntries nodeIds.zipIdx).lookup id

def isReciprocal (edges : List EvidenceEdge) (edge : EvidenceEdge) : Bool :=
  edges.any fun other =>
    decide (other.sourceDocumentId = edge.targetDocumentId) &&
      decide (other.targetDocumentId = edge.sourceDocumentId) &&
      decide (effectiveWeight other > 0)

def linkWeight (edges : List EvidenceEdge) (edge : EvidenceEdge) : Float32 :=
  effectiveWeight edge *
    if isReciprocal edges edge ∧ edge.provenance = "organic" then 0.2 else 1.0

structure Link where
  source : Nat
  target : Nat
  weight : Float32

def linkOf (nodeIds : List String) (edges : List EvidenceEdge) (edge : EvidenceEdge) :
    Option Link := do
  let source ← positionOf nodeIds edge.sourceDocumentId
  let target ← positionOf nodeIds edge.targetDocumentId
  guard (source ≠ target)
  let weight := linkWeight edges edge
  guard (weight > 0)
  return ⟨source, target, weight⟩

def outgoingOf (nodes : Nat) (links : List Link) : List (List Link) :=
  links.foldl (fun outgoing link => outgoing.modify link.source (· ++ [link]))
    (List.replicate nodes [])

def spread (rank : List Float32) (next : List Float32 × Float32) (node : List Link × Nat) :
    List Float32 × Float32 :=
  let (links, source) := node
  let totalWeight := Single.sum (links.map Link.weight)
  let mass := rank.getD source 0
  if totalWeight ≤ Single.epsilon then (next.1, next.2 + mass)
  else
    (links.foldl (fun next link =>
      next.modify link.target (· + damping * mass * (link.weight / totalWeight))) next.1, next.2)

def rankStep (teleport : List Float32) (outgoing : List (List Link)) (rank : List Float32) :
    List Float32 :=
  let start := teleport.map fun weight => (1.0 - damping) * weight
  let (next, danglingMass) := outgoing.zipIdx.foldl (spread rank) (start, 0.0)
  normaliseOrUniform (List.zipWith (fun value probability =>
    value + damping * danglingMass * probability) next teleport)

def teleportOf (nodeIds : List String) (teleportWeights : Dictionary Float32) : List Float32 :=
  normaliseOrUniform (nodeIds.map fun id =>
    Single.max ((teleportWeights.lookup id).getD 0.0) 0.0)

def personalizedPageRank (nodeIds : List String) (edges : List EvidenceEdge)
    (teleportWeights : Dictionary Float32) : Dictionary Float32 :=
  if nodeIds = [] then ∅
  else
    let teleport := teleportOf nodeIds teleportWeights
    let outgoing := outgoingOf nodeIds.length (edges.filterMap (linkOf nodeIds edges))
    let rank := (rankStep teleport outgoing)^[iterations] teleport
    Dictionary.ofEntries (nodeIds.zip rank)

end PageRank

end Obulus.Search
