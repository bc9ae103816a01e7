import Mathlib.Data.String.Basic
import Obulus.Foundation.Distinct
import Obulus.Foundation.Json
import Obulus.Foundation.Pieces
import Obulus.Foundation.Script
import Obulus.Foundation.Single

namespace Obulus.Synthesis

open Foundation

structure Citation where
  handle : String
  deriving DecidableEq, Repr

structure SynthesizeAnswerRequest where
  citations : List Citation

structure EvidenceContribution where
  handle : String
  score : Float32
  reason : String

structure SynthesizeAnswerResponse where
  answer : String
  confidence : Float32
  consensus : List String
  disagreements : List String
  usedHandles : List String
  contributions : List EvidenceContribution
  model : String
  mode : String

section Pointer

def parseIndex (token : String) : Option Nat :=
  if isCanonicalDecimal token then some (bigInt token) else none

def pointerStep (value : Json) (token : String) : Option Json :=
  match value with
  | .object fields => Json.lookup token fields
  | .array items => (parseIndex token).bind fun index => items[index]?
  | _ => none

def pointer (value : Json) (tokens : List String) : Option Json := tokens.foldlM pointerStep value

def asArray : Json → Option (List Json)
  | .array items => some items
  | _ => none

def asText : Json → Option String
  | .string text => some text
  | _ => none

end Pointer

def SynthesizeAnswerRequest.allowed (request : SynthesizeAnswerRequest) : List String :=
  request.citations.map Citation.handle

def providerText (payload : Json) : Option String := do
  let parts ← (pointer payload ["candidates", "0", "content", "parts"]).bind asArray
  return String.join (parts.filterMap fun part => (Json.field "text" part).bind asText)

def withinLimits (parsed : SynthesizeAnswerResponse) : Bool :=
  trim parsed.answer != "" && decide (parsed.answer.length ≤ 20000) &&
    decide (parsed.consensus.length ≤ 20) && decide (parsed.disagreements.length ≤ 20) &&
    decide (parsed.usedHandles.length ≤ 20) && decide (parsed.contributions.length ≤ 20) &&
    (parsed.consensus ++ parsed.disagreements).all (fun value => decide (value.length ≤ 2000)) &&
    parsed.contributions.all fun value => decide (value.reason.length ≤ 500)

def citationIsAllowed (allowed : List String) (suffix : List Char) : Bool :=
  match splitOnce ']' suffix with
  | none => false
  | some (handle, _) =>
    let handle := trim (String.ofList handle)
    handle != "" && decide (handle ∈ allowed)

def inlineCitationsAreAllowed (answer : String) (allowed : List String) : Bool :=
  ((answer.toList.splitOn '[').drop 1).all (citationIsAllowed allowed)

def keptHandles (allowed usedHandles : List String) : List String :=
  dedupAdjacent ((usedHandles.filter fun handle => handle ∈ allowed).insertionSort (· ≤ ·))

def EvidenceContribution.clamped (contribution : EvidenceContribution) : EvidenceContribution :=
  { contribution with score := Single.clamp 0.0 1.0 contribution.score }

def keptContributions (allowed : List String) (contributions : List EvidenceContribution) :
    List EvidenceContribution :=
  (retainFirst EvidenceContribution.handle []
    (contributions.filter fun contribution => contribution.handle ∈ allowed)).map
      EvidenceContribution.clamped

-- how the deserializer reads a text
variable (fromStr : String → Option SynthesizeAnswerResponse)

def providerDraft (payload : Json) : Option SynthesizeAnswerResponse :=
  (providerText payload).bind fromStr

def parseProviderResponse (payload : Json) (request : SynthesizeAnswerRequest) (model mode : String) :
    Option SynthesizeAnswerResponse := do
  let parsed ← providerDraft fromStr payload
  guard (withinLimits parsed = true)
  guard (inlineCitationsAreAllowed parsed.answer request.allowed = true)
  return { parsed with
    confidence := Single.clamp 0.0 1.0 parsed.confidence
    usedHandles := keptHandles request.allowed parsed.usedHandles
    contributions := keptContributions request.allowed parsed.contributions
    model := model
    mode := mode }

end Obulus.Synthesis
