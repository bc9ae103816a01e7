import Mathlib.Logic.Function.Iterate
import Mathlib.Tactic.Linarith
import Mathlib.Tactic.NormNum
import Obulus.Foundation.Dictionary
import Obulus.Foundation.Scatter

-- the page rank of the source with its `f32` replaced by the numbers of an ordered field
namespace Obulus.Search.Exact

open Foundation

structure EvidenceEdge (K : Type) where
  sourceDocumentId : String
  targetDocumentId : String
  relation : String
  provenance : String
  topic : String
  weight : K

structure Link (K : Type) where
  source : Nat
  target : Nat
  weight : K

variable {K : Type} [Field K]

def damping : K := 17 / 20
def epsilon : K := 1 / 2 ^ 23
def iterations : Nat := 40

section Weight

def provenanceFactor (provenance : String) : K :=
  if provenance = "organic" then 1
  else if provenance = "admin_verified" then 11 / 10
  else if provenance = "outcome_verified" then 13 / 10
  else 0

def relationFactor (relation : String) : K :=
  if relation = "cites" then 8 / 10
  else if relation = "corroborates" then 1
  else if relation = "endorses" then 7 / 10
  else if relation = "verified_outcome" then 12 / 10
  else if relation = "contextualizes" then 35 / 100
  else 0

variable [LinearOrder K]

def effectiveWeight (edge : EvidenceEdge K) : K :=
  min (max edge.weight 0) 2 * provenanceFactor edge.provenance * relationFactor edge.relation

end Weight

section PageRank

variable [LinearOrder K]

def normaliseOrUniform (values : List K) : List K :=
  let total := values.sum
  if total ≤ epsilon then List.replicate values.length (1 / (values.length : K))
  else values.map (· / total)

-- the index of the last node with this id
def positionOf (nodeIds : List String) (id : String) : Option Nat :=
  (Dictionary.ofEntries nodeIds.zipIdx).lookup id

def isReciprocal (edges : List (EvidenceEdge K)) (edge : EvidenceEdge K) : Bool :=
  edges.any fun other =>
    decide (other.sourceDocumentId = edge.targetDocumentId) &&
      decide (other.targetDocumentId = edge.sourceDocumentId) &&
      decide (effectiveWeight other > 0)

def linkWeight (edges : List (EvidenceEdge K)) (edge : EvidenceEdge K) : K :=
  effectiveWeight edge *
    if isReciprocal edges edge ∧ edge.provenance = "organic" then 2 / 10 else 1

def linkOf (nodeIds : List String) (edges : List (EvidenceEdge K)) (edge : EvidenceEdge K) :
    Option (Link K) := do
  let source ← positionOf nodeIds edge.sourceDocumentId
  let target ← positionOf nodeIds edge.targetDocumentId
  guard (source ≠ target)
  let weight := linkWeight edges edge
  guard (weight > 0)
  return ⟨source, target, weight⟩

def outgoingOf (nodes : Nat) (links : List (Link K)) : List (List (Link K)) :=
  links.foldl (fun outgoing link => outgoing.modify link.source (· ++ [link]))
    (List.replicate nodes [])

def spread (rank : List K) (next : List K × K) (node : List (Link K) × Nat) : List K × K :=
  let (links, source) := node
  let totalWeight := (links.map Link.weight).sum
  let mass := rank.getD source 0
  if totalWeight ≤ epsilon then (next.1, next.2 + mass)
  else
    (links.foldl (fun next link =>
      next.modify link.target (· + damping * mass * (link.weight / totalWeight))) next.1, next.2)

def rankStep (teleport : List K) (outgoing : List (List (Link K))) (rank : List K) : List K :=
  let start := teleport.map fun weight => (1 - damping) * weight
  let (next, danglingMass) := outgoing.zipIdx.foldl (spread rank) (start, 0)
  normaliseOrUniform (List.zipWith (fun value probability =>
    value + damping * danglingMass * probability) next teleport)

def teleportOf (nodeIds : List String) (teleportWeights : Dictionary K) : List K :=
  normaliseOrUniform (nodeIds.map fun id => max ((teleportWeights.lookup id).getD 0) 0)

def personalizedPageRank (nodeIds : List String) (edges : List (EvidenceEdge K))
    (teleportWeights : Dictionary K) : Dictionary K :=
  if nodeIds = [] then ∅
  else
    let teleport := teleportOf nodeIds teleportWeights
    let outgoing := outgoingOf nodeIds.length (edges.filterMap (linkOf nodeIds edges))
    let rank := (rankStep teleport outgoing)^[iterations] teleport
    Dictionary.ofEntries (nodeIds.zip rank)

end PageRank

section Normal

variable [LinearOrder K] [IsStrictOrderedRing K] {values : List K} {i : Nat}

theorem epsilon_pos : (0 : K) < epsilon := by
  unfold epsilon
  positivity

theorem epsilon_lt_one : (epsilon : K) < 1 := by
  unfold epsilon
  norm_num

theorem damping_nonneg : (0 : K) ≤ damping := by
  unfold damping
  norm_num

theorem damping_le_one : (0 : K) ≤ 1 - damping := by
  unfold damping
  norm_num

omit [IsStrictOrderedRing K] in
theorem normalise_length (values : List K) : (normaliseOrUniform values).length = values.length := by
  simp only [normaliseOrUniform]
  split <;> simp

theorem normalise_sum (h : values ≠ []) : (normaliseOrUniform values).sum = 1 := by
  simp only [normaliseOrUniform]
  split
  · have hlength : (values.length : K) ≠ 0 :=
      Nat.cast_ne_zero.mpr (List.length_pos_iff.mpr h).ne'
    rw [List.sum_replicate, nsmul_eq_mul, mul_one_div_cancel hlength]
  · next hlarge =>
    have hpos : (0 : K) < values.sum := epsilon_pos.trans (not_le.mp hlarge)
    rw [sum_map_div, div_self hpos.ne']

theorem normalise_of_sum (h : values.sum = 1) : normaliseOrUniform values = values := by
  simp only [normaliseOrUniform, h]
  rw [if_neg (not_le.mpr epsilon_lt_one)]
  simp

theorem normalise_nonneg (h : ∀ v ∈ values, 0 ≤ v) : ∀ v ∈ normaliseOrUniform values, 0 ≤ v := by
  intro v hv
  simp only [normaliseOrUniform] at hv
  split at hv
  · rw [List.eq_of_mem_replicate hv]
    positivity
  · obtain ⟨w, hw, rfl⟩ := List.mem_map.mp hv
    exact div_nonneg (h w hw) (List.sum_nonneg h)

omit [IsStrictOrderedRing K] in
-- equal values have equal shares
theorem normalise_getD {j : Nat} (hi : i < values.length) (hj : j < values.length)
    (h : values.getD i 0 = values.getD j 0) :
    (normaliseOrUniform values).getD i 0 = (normaliseOrUniform values).getD j 0 := by
  simp only [normaliseOrUniform]
  split
  · rw [List.getD_replicate _ hi, List.getD_replicate _ hj]
  · rw [getD_map (· / values.sum) hi, getD_map (· / values.sum) hj, h]

end Normal

end Obulus.Search.Exact
