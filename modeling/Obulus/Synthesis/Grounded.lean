import Obulus.Synthesis.Provider

namespace Obulus.Synthesis

open Foundation

-- a handle between brackets, spaces around it aside
def Cites (text handle : String) : Prop :=
  ∃ inner, Enclosed '[' ']' inner text.toList ∧ trim (String.ofList inner) = handle

structure Grounded (request : SynthesizeAnswerRequest) (response : SynthesizeAnswerResponse) : Prop where
  answer : ∀ handle, Cites response.answer handle → handle ∈ request.allowed
  points : ∀ point ∈ response.consensus ++ response.disagreements, ∀ handle, Cites point handle →
    handle ∈ request.allowed
  reasons : ∀ contribution ∈ response.contributions, ∀ handle, Cites contribution.reason handle →
    handle ∈ request.allowed
  listed : ∀ handle, Cites response.answer handle → handle ∈ response.usedHandles
  usedHandles : (∀ handle ∈ response.usedHandles, handle ∈ request.allowed) ∧ response.usedHandles.Nodup
  contributions : (∀ contribution ∈ response.contributions, contribution.handle ∈ request.allowed) ∧
    (response.contributions.map EvidenceContribution.handle).Nodup
  confidence : 0.0 ≤ response.confidence ∧ response.confidence ≤ 1.0
  scores : ∀ contribution ∈ response.contributions, 0.0 ≤ contribution.score ∧ contribution.score ≤ 1.0

-- the provider brackets supplied handles in its points and in the reasons that count, and lists
-- what its answer brackets
structure Traceable (request : SynthesizeAnswerRequest) (draft : SynthesizeAnswerResponse) : Prop where
  points : ∀ point ∈ draft.consensus ++ draft.disagreements, ∀ handle, Cites point handle →
    handle ∈ request.allowed
  reasons : ∀ contribution ∈ draft.contributions, contribution.handle ∈ request.allowed →
    draft.contributions.find? (fun other => other.handle = contribution.handle) = some contribution →
    ∀ handle, Cites contribution.reason handle → handle ∈ request.allowed
  listed : ∀ handle, Cites draft.answer handle → handle ∈ draft.usedHandles

-- no text is read as a score that is not a number
def ReadsNumbers (fromStr : String → Option SynthesizeAnswerResponse) : Prop :=
  ∀ text draft, fromStr text = some draft → draft.confidence.isNaN = false ∧
    ∀ contribution ∈ draft.contributions, contribution.score.isNaN = false

variable {allowed usedHandles : List String} {contributions : List EvidenceContribution}
  {contribution : EvidenceContribution} {text handle : String} {x : Float32}

theorem cited_allowed (h : inlineCitationsAreAllowed text allowed = true) (hcites : Cites text handle) :
    handle ∈ allowed := by
  obtain ⟨inner, henclosed, rfl⟩ := hcites
  obtain ⟨rest, hsuffix⟩ := henclosed.split (by decide)
  have hchecked := List.all_eq_true.mp h _ hsuffix
  rw [citationIsAllowed, splitOnce_append henclosed.2.1] at hchecked
  dsimp only at hchecked
  rw [Bool.and_eq_true, decide_eq_true_eq] at hchecked
  exact hchecked.2

theorem mem_keptHandles : handle ∈ keptHandles allowed usedHandles ↔
    handle ∈ usedHandles ∧ handle ∈ allowed := by
  rw [keptHandles, mem_dedupAdjacent, List.mem_insertionSort, List.mem_filter, decide_eq_true_eq]

theorem keptHandles_nodup : (keptHandles allowed usedHandles).Nodup :=
  dedupAdjacent_nodup (List.pairwise_insertionSort (· ≤ ·) _)

theorem mem_keptContributions : contribution ∈ keptContributions allowed contributions ↔
    ∃ original, original.handle ∈ allowed ∧
      contributions.find? (fun other => other.handle = original.handle) = some original ∧
      original.clamped = contribution := by
  rw [keptContributions, List.mem_map]
  constructor
  · rintro ⟨original, hmem, hclamped⟩
    have hfirst := (mem_retainFirst.mp hmem).2
    rw [find?_filter_key (q := fun handle => decide (handle ∈ allowed)), decide_eq_true_eq] at hfirst
    exact ⟨original, hfirst.1, hfirst.2, hclamped⟩
  · rintro ⟨original, hallowed, hfirst, hclamped⟩
    refine ⟨original, mem_retainFirst.mpr ⟨List.not_mem_nil, ?_⟩, hclamped⟩
    rw [find?_filter_key (q := fun handle => decide (handle ∈ allowed)), decide_eq_true_eq]
    exact ⟨hallowed, hfirst⟩

theorem keptContributions_nodup :
    ((keptContributions allowed contributions).map EvidenceContribution.handle).Nodup := by
  rw [keptContributions, List.map_map]
  exact retainFirst_nodup

theorem clamped_unit (hx : x.isNaN = false) :
    0.0 ≤ Single.clamp 0.0 1.0 x ∧ Single.clamp 0.0 1.0 x ≤ 1.0 :=
  Single.clamp_within (by decide) (by decide +kernel) hx (by decide +kernel)

variable {fromStr : String → Option SynthesizeAnswerResponse} {payload : Json}
  {request : SynthesizeAnswerRequest} {model mode : String} {draft response : SynthesizeAnswerResponse}

theorem parse_eq_some (hdraft : providerDraft fromStr payload = some draft) :
    parseProviderResponse fromStr payload request model mode = some response ↔
      withinLimits draft = true ∧ inlineCitationsAreAllowed draft.answer request.allowed = true ∧
      response = { draft with
        confidence := Single.clamp 0.0 1.0 draft.confidence
        usedHandles := keptHandles request.allowed draft.usedHandles
        contributions := keptContributions request.allowed draft.contributions
        model := model
        mode := mode } := by
  simp only [parseProviderResponse, hdraft, Option.bind_eq_bind, Option.bind_some,
    Option.bind_eq_some_iff, Option.guard_eq_some', exists_const, Option.pure_def,
    Option.some.injEq, eq_comm (a := response)]

theorem grounded_iff (hnumbers : ReadsNumbers fromStr)
    (hdraft : providerDraft fromStr payload = some draft)
    (hparse : parseProviderResponse fromStr payload request model mode = some response) :
    Grounded request response ↔ Traceable request draft := by
  obtain ⟨-, hinline, rfl⟩ := (parse_eq_some hdraft).mp hparse
  obtain ⟨text, -, htext⟩ := Option.bind_eq_some_iff.mp hdraft
  obtain ⟨hconfidence, hscores⟩ := hnumbers text draft htext
  have hanswer : ∀ handle, Cites draft.answer handle → handle ∈ request.allowed :=
    fun handle hcites => cited_allowed hinline hcites
  constructor
  · intro h
    refine ⟨h.points, ?_, ?_⟩
    · intro contribution hmem hallowed hfirst handle hcites
      exact h.reasons contribution.clamped
        (mem_keptContributions.mpr ⟨contribution, hallowed, hfirst, rfl⟩) handle hcites
    · intro handle hcites
      exact (mem_keptHandles.mp (h.listed handle hcites)).1
  · intro h
    refine ⟨hanswer, h.points, ?_, ?_, ⟨?_, keptHandles_nodup⟩, ⟨?_, keptContributions_nodup⟩,
      clamped_unit hconfidence, ?_⟩
    · intro contribution hmem handle hcites
      obtain ⟨original, hallowed, hfirst, rfl⟩ := mem_keptContributions.mp hmem
      exact h.reasons original (List.mem_of_find?_eq_some hfirst) hallowed hfirst handle hcites
    · intro handle hcites
      exact mem_keptHandles.mpr ⟨h.listed handle hcites, hanswer handle hcites⟩
    · intro handle hmem
      exact (mem_keptHandles.mp hmem).2
    · intro contribution hmem
      obtain ⟨original, hallowed, -, rfl⟩ := mem_keptContributions.mp hmem
      exact hallowed
    · intro contribution hmem
      obtain ⟨original, -, hfirst, rfl⟩ := mem_keptContributions.mp hmem
      exact clamped_unit (hscores original (List.mem_of_find?_eq_some hfirst))

section Sample

def sampleRequest : SynthesizeAnswerRequest where
  citations := [⟨"PARISR_12"⟩]

def sampleAnswer : String := "Dinner is usually at home. [PARISR_12]"

def sampleDraft (consensus usedHandles : List String) : SynthesizeAnswerResponse where
  answer := sampleAnswer
  confidence := 2.0
  consensus := consensus
  disagreements := []
  usedHandles := usedHandles
  contributions := [⟨"INVENTED", 1.0, "hallucinated"⟩, ⟨"PARISR_12", -1.0, "direct support [PARISR_12]"⟩,
    ⟨"PARISR_12", 0.5, "duplicate"⟩]
  model := "ignored"
  mode := "ignored"

def sampleList (texts : List String) : String :=
  "[" ++ ",".intercalate (texts.map fun text => "\"" ++ text ++ "\"") ++ "]"

def sampleJson (consensus usedHandles : List String) : String :=
  "\x7b\"answer\":\"" ++ sampleAnswer ++ "\",\"confidence\":2.0,\"consensus\":" ++
    sampleList consensus ++ ",\"disagreements\":[],\"usedHandles\":" ++ sampleList usedHandles ++
    ",\"contributions\":[" ++
    "\x7b\"handle\":\"INVENTED\",\"score\":1.0,\"reason\":\"hallucinated\"\x7d," ++
    "\x7b\"handle\":\"PARISR_12\",\"score\":-1.0,\"reason\":\"direct support [PARISR_12]\"\x7d," ++
    "\x7b\"handle\":\"PARISR_12\",\"score\":0.5,\"reason\":\"duplicate\"\x7d" ++
    "],\"model\":\"ignored\",\"mode\":\"ignored\"\x7d"

def samplePayload (text : String) : Json :=
  .object [("candidates", .array [.object [("content",
    .object [("parts", .array [.object [("text", .string text)]])])]])]

-- the deserializer on the text of one draft
def sampleRead (consensus usedHandles : List String) (text : String) : Option SynthesizeAnswerResponse :=
  if text = sampleJson consensus usedHandles then some (sampleDraft consensus usedHandles) else none

variable {consensus : List String}

theorem sample_draft : providerDraft (sampleRead consensus usedHandles)
    (samplePayload (sampleJson consensus usedHandles)) = some (sampleDraft consensus usedHandles) := by
  have htext : providerText (samplePayload (sampleJson consensus usedHandles)) =
      some (sampleJson consensus usedHandles) := by
    have hindex : parseIndex "0" = some 0 := by decide
    generalize sampleJson consensus usedHandles = text
    simp [providerText, samplePayload, pointer, pointerStep, Json.lookup, Json.field, asArray, asText,
      hindex, String.join]
  rw [providerDraft, htext, Option.bind_some, sampleRead, if_pos rfl]

theorem sample_reads : ReadsNumbers (sampleRead consensus usedHandles) := by
  intro text draft hread
  rw [sampleRead, Option.ite_none_right_eq_some, Option.some.injEq] at hread
  obtain ⟨-, rfl⟩ := hread
  have hconfidence : (2.0 : Float32).isNaN = false := by decide
  have hscores : (1.0 : Float32).isNaN = false ∧ (-1.0 : Float32).isNaN = false ∧
      (0.5 : Float32).isNaN = false := by decide
  refine ⟨hconfidence, ?_⟩
  simp only [sampleDraft, List.forall_mem_cons]
  exact ⟨hscores.1, hscores.2.1, hscores.2.2, by simp⟩

theorem sample_inline : inlineCitationsAreAllowed sampleAnswer sampleRequest.allowed = true := by
  decide

theorem sample_cites : Cites sampleAnswer "PARISR_12" := by
  refine ⟨"PARISR_12".toList, ⟨by decide, by decide, "Dinner is usually at home. ".toList, [], ?_⟩, ?_⟩
  · decide
  · decide

theorem grounded_iff_sample : ∃ response,
    parseProviderResponse (sampleRead [sampleAnswer] ["INVENTED", "PARISR_12", "PARISR_12"])
      (samplePayload (sampleJson [sampleAnswer] ["INVENTED", "PARISR_12", "PARISR_12"])) sampleRequest
      "gemini-test" "test" = some response ∧ response.consensus = [sampleAnswer] ∧
    Cites sampleAnswer "PARISR_12" ∧ Grounded sampleRequest response := by
  have hdraft := @sample_draft ["INVENTED", "PARISR_12", "PARISR_12"] [sampleAnswer]
  have hparse := (@parse_eq_some _ _ sampleRequest "gemini-test" "test" _ _ hdraft).mpr
    ⟨by decide, sample_inline, rfl⟩
  refine ⟨_, hparse, rfl, sample_cites, (grounded_iff sample_reads hdraft hparse).mpr ⟨?_, ?_, ?_⟩⟩
  · intro point hpoint handle hcites
    rw [List.mem_singleton.mp hpoint] at hcites
    exact cited_allowed sample_inline hcites
  · intro contribution hmem _ _ handle hcites
    have hinline : ∀ reason ∈ ["hallucinated", "direct support [PARISR_12]", "duplicate"],
        inlineCitationsAreAllowed reason sampleRequest.allowed = true := by
      decide
    have hreason : contribution.reason ∈ ["hallucinated", "direct support [PARISR_12]",
        "duplicate"] := by
      have hmapped : contribution.reason ∈ (sampleDraft [sampleAnswer] ["INVENTED", "PARISR_12",
          "PARISR_12"]).contributions.map EvidenceContribution.reason := List.mem_map_of_mem hmem
      exact hmapped
    exact cited_allowed (hinline _ hreason) hcites
  · intro handle hcites
    have hallowed := cited_allowed sample_inline hcites
    rw [List.mem_singleton.mp hallowed]
    decide

theorem untraced_points_published : ∃ response,
    parseProviderResponse (sampleRead ["Everyone agrees. [INVENTED]"] [])
      (samplePayload (sampleJson ["Everyone agrees. [INVENTED]"] [])) sampleRequest "gemini-test"
      "test" = some response ∧
    (∃ handle, Cites response.answer handle ∧ handle ∉ response.usedHandles) ∧
    (∃ point ∈ response.consensus, ∃ handle, Cites point handle ∧ handle ∉ sampleRequest.allowed) ∧
    ¬Grounded sampleRequest response := by
  have hdraft := @sample_draft [] ["Everyone agrees. [INVENTED]"]
  have hparse := (@parse_eq_some _ _ sampleRequest "gemini-test" "test" _ _ hdraft).mpr
    ⟨by decide, sample_inline, rfl⟩
  refine ⟨_, hparse, ⟨"PARISR_12", sample_cites, List.not_mem_nil⟩, ?_, ?_⟩
  · refine ⟨_, List.mem_singleton_self _, "INVENTED", ?_, by decide⟩
    refine ⟨"INVENTED".toList, ⟨by decide, by decide, "Everyone agrees. ".toList, [], ?_⟩, ?_⟩
    · decide
    · decide
  · intro hgrounded
    exact List.not_mem_nil (hgrounded.listed "PARISR_12" sample_cites)

end Sample

end Obulus.Synthesis
