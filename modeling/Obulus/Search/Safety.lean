import Mathlib.Data.List.Nodup
import Mathlib.Data.List.Perm.Subperm
import Obulus.Search.Resolver

namespace Obulus.Search

open Foundation

variable {candidates : List Candidate} {unique prior : List Nat} {budget index requested : Nat}

def authorAt (candidates : List Candidate) (index : Nat) : Option String :=
  candidates[index]?.map fun c => c.indexed.document.authorId

def totalPrice (candidates : List Candidate) (indices : List Nat) : Nat :=
  (indices.map (priceAt candidates)).sum

structure Safe (candidates : List Candidate) (requested : Nat) (budget : Option Nat)
    (selected : List Nat) : Prop where
  inRange : ∀ i ∈ selected, i < candidates.length
  distinct : selected.Nodup
  authors : (selected.map (authorAt candidates)).Nodup
  count : selected.length ≤ requested
  affordable : ∀ b, budget = some b → totalPrice candidates selected ≤ b

section Unique

theorem mem_uniqueFrom {authors : List String} {rest : List Candidate} {i : Nat}
    (hrest : candidates.drop index = rest) (hi : i ∈ uniqueFrom authors index rest) :
    index ≤ i ∧ ∃ author, authorAt candidates i = some author ∧ author ∉ authors := by
  induction rest generalizing authors index with
  | nil => cases hi
  | cons candidate rest ih =>
    have hget : candidates[index]? = some candidate := by
      have hhead := congrArg List.head? hrest
      rwa [List.head?_drop] at hhead
    have htail : candidates.drop (index + 1) = rest := by
      rw [← List.tail_drop, hrest, List.tail_cons]
    simp only [uniqueFrom] at hi
    split at hi
    · obtain ⟨hle, hauthor⟩ := ih htail hi
      exact ⟨by omega, hauthor⟩
    · next hnew =>
      rcases List.mem_cons.mp hi with rfl | hi
      · exact ⟨le_rfl, candidate.indexed.document.authorId, by simp [authorAt, hget], hnew⟩
      · obtain ⟨hle, author, hauthor, hfresh⟩ := ih htail hi
        exact ⟨by omega, author, hauthor, fun h => hfresh (List.mem_cons_of_mem _ h)⟩

theorem uniqueFrom_authors {authors : List String} {rest : List Candidate}
    (hrest : candidates.drop index = rest) :
    ((uniqueFrom authors index rest).map (authorAt candidates)).Nodup := by
  induction rest generalizing authors index with
  | nil => exact List.nodup_nil
  | cons candidate rest ih =>
    have hget : candidates[index]? = some candidate := by
      have hhead := congrArg List.head? hrest
      rwa [List.head?_drop] at hhead
    have htail : candidates.drop (index + 1) = rest := by
      rw [← List.tail_drop, hrest, List.tail_cons]
    simp only [uniqueFrom]
    split
    · exact ih htail
    · rw [List.map_cons, List.nodup_cons]
      refine ⟨fun hmem => ?_, ih htail⟩
      obtain ⟨i, hi, hsame⟩ := List.mem_map.mp hmem
      obtain ⟨-, author, hauthor, hfresh⟩ := mem_uniqueFrom htail hi
      rw [hauthor] at hsame
      simp only [authorAt, hget, Option.map_some, Option.some.injEq] at hsame
      exact hfresh (hsame ▸ List.mem_cons_self)

theorem uniqueIndices_authors (candidates : List Candidate) :
    ((uniqueIndices candidates).map (authorAt candidates)).Nodup :=
  (uniqueFrom_authors rfl).sublist ((List.take_sublist 80 _).map _)

theorem uniqueIndices_range {i : Nat} (hi : i ∈ uniqueIndices candidates) :
    i < candidates.length := by
  obtain ⟨-, author, hauthor, -⟩ := mem_uniqueFrom rfl (List.mem_of_mem_take hi)
  simp only [authorAt, Option.map_eq_some_iff] at hauthor
  obtain ⟨candidate, hget, -⟩ := hauthor
  exact (List.getElem?_eq_some_iff.mp hget).1

theorem authors_of_subset {selected : List Nat} (hnodup : selected.Nodup)
    (hsub : selected ⊆ uniqueIndices candidates) :
    (selected.map (authorAt candidates)).Nodup :=
  hnodup.map_on fun _ hi _ hj heq =>
    List.inj_on_of_nodup_map (uniqueIndices_authors candidates) (hsub hi) (hsub hj) heq

end Unique

section Unbounded

theorem maxBy_mem {α : Type} {key : α → Int} {l : List α} {a : α} (h : Single.maxBy key l = some a) :
    a ∈ l := by
  cases l with
  | nil => cases h
  | cons b bs =>
    simp only [Single.maxBy, Option.some.injEq] at h
    subst h
    induction bs generalizing b with
    | nil => exact List.mem_singleton_self b
    | cons c cs ih =>
      simp only [List.foldl_cons]
      rcases List.mem_cons.mp (ih (if key c < key b then b else c)) with heq | hmem
      · rw [heq]
        split
        · exact List.mem_cons_self
        · exact List.mem_cons_of_mem _ List.mem_cons_self
      · exact List.mem_cons_of_mem _ (List.mem_cons_of_mem _ hmem)

theorem maxBy_isSome {α : Type} {key : α → Int} {l : List α} (h : l ≠ []) :
    ∃ a, Single.maxBy key l = some a := by
  cases l with
  | nil => exact absurd rfl h
  | cons b bs => exact ⟨_, rfl⟩

theorem chooseWithout_safe (fuel : Nat) {chosen : List Nat} (hnodup : chosen.Nodup)
    (hsub : chosen ⊆ unique) :
    (chooseWithout candidates unique fuel chosen).Nodup ∧
      chooseWithout candidates unique fuel chosen ⊆ unique ∧
      (chooseWithout candidates unique fuel chosen).length ≤ chosen.length + fuel := by
  induction fuel generalizing chosen with
  | zero => exact ⟨hnodup, hsub, le_rfl⟩
  | succ fuel ih =>
    simp only [chooseWithout]
    split
    · exact ⟨hnodup, hsub, by omega⟩
    · next next hnext =>
      have hmem := List.mem_filter.mp (maxBy_mem hnext)
      simp only [decide_eq_true_eq] at hmem
      have hnodup' : (chosen ++ [next]).Nodup := by
        rw [List.nodup_append]
        refine ⟨hnodup, List.nodup_singleton next, ?_⟩
        rintro a ha b hb rfl
        rw [List.mem_singleton] at hb
        exact hmem.2 (hb ▸ ha)
      have hsub' : chosen ++ [next] ⊆ unique :=
        List.append_subset.mpr ⟨hsub, by simpa using hmem.1⟩
      obtain ⟨h1, h2, h3⟩ := ih hnodup' hsub'
      refine ⟨h1, h2, ?_⟩
      rw [List.length_append, List.length_singleton] at h3
      omega

theorem chooseWithout_length (hunique : unique.Nodup) (fuel : Nat) {chosen : List Nat}
    (hnodup : chosen.Nodup) (hsub : chosen ⊆ unique) (hfuel : chosen.length + fuel ≤ unique.length) :
    (chooseWithout candidates unique fuel chosen).length = chosen.length + fuel := by
  induction fuel generalizing chosen with
  | zero => rfl
  | succ fuel ih =>
    obtain ⟨fresh, hfresh, hout⟩ : ∃ i ∈ unique, i ∉ chosen := by
      by_contra hall
      push Not at hall
      have hle := (hunique.subperm hall).length_le
      omega
    have hleft : unique.filter (· ∉ chosen) ≠ [] :=
      List.ne_nil_of_mem (List.mem_filter.mpr ⟨hfresh, by simpa using hout⟩)
    simp only [chooseWithout]
    split
    · next hnone =>
      obtain ⟨a, ha⟩ : ∃ a, Single.maxBy
          (fun index => Single.totalKey (marginalUtility candidates index chosen))
          (unique.filter (· ∉ chosen)) = some a := maxBy_isSome hleft
      rw [ha] at hnone
      cases hnone
    · next next hnext =>
      have hmem := List.mem_filter.mp (maxBy_mem hnext)
      simp only [decide_eq_true_eq] at hmem
      have hnodup' : (chosen ++ [next]).Nodup :=
        List.nodup_append.mpr ⟨hnodup, List.nodup_singleton next, by
          rintro a ha b hb rfl
          exact hmem.2 (List.mem_singleton.mp hb ▸ ha)⟩
      have hsub' : chosen ++ [next] ⊆ unique :=
        List.append_subset.mpr ⟨hsub, by simpa using hmem.1⟩
      have hrest := ih hnodup' hsub' (by
        rw [List.length_append, List.length_singleton]
        omega)
      rw [hrest, List.length_append, List.length_singleton]
      omega

end Unbounded

section Buckets

def utilityOf (candidates : List Candidate) (indices : List Nat) : Float32 :=
  (indices.foldl (fun taken index =>
    (taken.1 + marginalUtility candidates index taken.2, taken.2 ++ [index]))
    ((0.0 : Float32), ([] : List Nat))).1

theorem utilityOf_append (candidates : List Candidate) (indices : List Nat) (index : Nat) :
    utilityOf candidates (indices ++ [index]) =
      utilityOf candidates indices + marginalUtility candidates index indices := by
  have htaken : ∀ (indices : List Nat) (taken : Float32 × List Nat),
      (indices.foldl (fun taken index =>
        (taken.1 + marginalUtility candidates index taken.2, taken.2 ++ [index])) taken).2 =
        taken.2 ++ indices := by
    intro indices
    induction indices with
    | nil => simp
    | cons i indices ih => simp [ih]
  simp only [utilityOf, List.foldl_append, List.foldl_cons, List.foldl_nil, htaken, List.nil_append]

-- what every state kept for `count` selections is, once the indices of `prior` are handled
structure Reached (candidates : List Candidate) (budget : Nat) (prior : List Nat) (count : Nat)
    (state : SelectionState) : Prop where
  indices : state.indices.Sublist prior
  length : state.indices.length = count
  spent : state.spent = totalPrice candidates state.indices
  affordable : state.spent ≤ budget
  utility : state.utility = utilityOf candidates state.indices

theorem Reached.weaken {count : Nat} {state : SelectionState}
    (h : Reached candidates budget prior count state) (index : Nat) :
    Reached candidates budget (prior ++ [index]) count state :=
  ⟨h.indices.trans (List.sublist_append_left prior [index]), h.length, h.spent, h.affordable,
    h.utility⟩

theorem Reached.extend {count : Nat} {state state' : SelectionState}
    (h : Reached candidates budget prior count state)
    (hstep : extendState candidates budget index state = some state') :
    Reached candidates budget (prior ++ [index]) (count + 1) state' := by
  simp only [extendState, Option.ite_none_right_eq_some, Option.some.injEq] at hstep
  obtain ⟨hbudget, rfl⟩ := hstep
  refine ⟨h.indices.append (List.Sublist.refl _), by simp [h.length], ?_, hbudget, ?_⟩
  · simp [totalPrice, h.spent]
  · rw [utilityOf_append, h.utility]

theorem retainBetter_sublist (best : Float32) (states : List SelectionState) :
    (retainBetter best states).Sublist states := by
  induction states generalizing best with
  | nil => exact List.Sublist.refl []
  | cons state rest ih =>
    simp only [retainBetter]
    split
    · exact (ih _).cons_cons state
    · exact (ih _).cons state

theorem mem_pruneStates {states : List SelectionState} {state : SelectionState}
    (h : state ∈ pruneStates states) : state ∈ states := by
  have hretained : state ∈ retainBetter negativeInfinity (states.insertionSort stateOrder) := by
    simp only [pruneStates] at h
    split at h
    · exact (List.perm_insertionSort utilityOrder _).mem_iff.mp (List.mem_of_mem_take h)
    · exact h
  exact (List.perm_insertionSort stateOrder states).mem_iff.mp
    ((retainBetter_sublist _ _).subset hretained)

theorem getD_modify (f : List SelectionState → List SelectionState)
    {states : List (List SelectionState)} {i k : Nat} (hi : i < states.length) :
    (states.modify i f).getD k [] = if k = i then f (states.getD i []) else states.getD k [] := by
  rw [List.getD_eq_getElem?_getD, List.getElem?_modify]
  by_cases hk : i = k
  · subst hk
    simp [List.getElem?_eq_getElem hi]
  · simp [hk, Ne.symm hk, List.getD_eq_getElem?_getD]

-- the states of one more selection that reach `prune_states` when an index is added
def offered (candidates : List Candidate) (budget index count : Nat)
    (states : List (List SelectionState)) : List SelectionState :=
  states.getD (count + 1) [] ++ (states.getD count []).filterMap (extendState candidates budget index)

theorem addIndexAt_length (count : Nat) (states : List (List SelectionState)) :
    (addIndexAt candidates budget index count states).length = states.length := by
  simp [addIndexAt]

theorem addIndexAt_bucket {level : Nat} {states : List (List SelectionState)}
    (hlevel : level + 1 < states.length) (count : Nat) :
    (addIndexAt candidates budget index level states).getD count [] =
      if count = level + 1 then pruneStates (offered candidates budget index level states)
      else states.getD count [] := by
  rw [addIndexAt, getD_modify _ hlevel]
  rfl

-- the rounds run downwards, so each bucket is offered what its neighbours held before the index
theorem rounds_bucket (level : Nat) {states : List (List SelectionState)}
    (hlevel : level < states.length) (count : Nat) :
    ((List.range level).reverse.foldl (fun states count =>
        addIndexAt candidates budget index count states) states).getD count [] =
      if 0 < count ∧ count ≤ level then
        pruneStates (offered candidates budget index (count - 1) states)
      else states.getD count [] := by
  induction level generalizing states with
  | zero => rw [if_neg (by omega)]; rfl
  | succ level ih =>
    have hlevel' : level < (addIndexAt candidates budget index level states).length := by
      rw [addIndexAt_length]
      omega
    have hbucket := @addIndexAt_bucket candidates budget index level states hlevel
    rw [List.range_succ, List.reverse_append, List.reverse_singleton, List.singleton_append,
      List.foldl_cons, ih hlevel']
    rcases Nat.lt_trichotomy count (level + 1) with hbelow | rfl | habove
    · by_cases hpos : 0 < count
      · rw [if_pos (by omega), if_pos (by omega), offered, offered, hbucket, hbucket,
          if_neg (by omega), if_neg (by omega)]
      · rw [if_neg (by omega), if_neg (by omega), hbucket, if_neg (by omega)]
    · rw [if_neg (by omega), if_pos (by omega), hbucket, if_pos rfl, Nat.add_sub_cancel]
    · rw [if_neg (by omega), if_neg (by omega), hbucket, if_neg (by omega)]

theorem addIndex_zero {states : List (List SelectionState)} (hlength : states.length = requested + 1) :
    (addIndex candidates requested budget states index).getD 0 [] = states.getD 0 [] := by
  rw [addIndex, rounds_bucket requested (by omega), if_neg (by omega)]

theorem addIndex_succ {states : List (List SelectionState)} (hlength : states.length = requested + 1)
    {count : Nat} (hcount : count < requested) :
    (addIndex candidates requested budget states index).getD (count + 1) [] =
      pruneStates (offered candidates budget index count states) := by
  rw [addIndex, rounds_bucket requested (by omega), if_pos (by omega), Nat.add_sub_cancel]

theorem addIndex_length (states : List (List SelectionState)) (index : Nat) :
    (addIndex candidates requested budget states index).length = states.length := by
  unfold addIndex
  generalize (List.range requested).reverse = counts
  induction counts generalizing states with
  | nil => rfl
  | cons count counts ih => rw [List.foldl_cons, ih, addIndexAt_length]

def AllReached (candidates : List Candidate) (budget : Nat) (prior : List Nat)
    (states : List (List SelectionState)) : Prop :=
  ∀ count, ∀ state ∈ states.getD count [], Reached candidates budget prior count state

theorem offered_reached {states : List (List SelectionState)} {count : Nat} {state : SelectionState}
    (h : AllReached candidates budget prior states)
    (hstate : state ∈ offered candidates budget index count states) :
    Reached candidates budget (prior ++ [index]) (count + 1) state := by
  rcases List.mem_append.mp hstate with hold | hnew
  · exact (h (count + 1) state hold).weaken index
  · obtain ⟨parent, hparent, hstep⟩ := List.mem_filterMap.mp hnew
    exact (h count parent hparent).extend hstep

theorem addIndex_reached {states : List (List SelectionState)}
    (hlength : states.length = requested + 1) (h : AllReached candidates budget prior states) :
    AllReached candidates budget (prior ++ [index])
      (addIndex candidates requested budget states index) := by
  intro count state hstate
  cases count with
  | zero =>
    rw [addIndex_zero hlength] at hstate
    exact (h 0 state hstate).weaken index
  | succ count =>
    by_cases hcount : count < requested
    · rw [addIndex_succ hlength hcount] at hstate
      exact offered_reached h (mem_pruneStates hstate)
    · rw [List.getD_eq_getElem?_getD, List.getElem?_eq_none (by rw [addIndex_length]; omega)] at hstate
      cases hstate

theorem buckets_reached (unique : List Nat) {states : List (List SelectionState)}
    (hlength : states.length = requested + 1) (h : AllReached candidates budget prior states) :
    AllReached candidates budget (prior ++ unique)
      (unique.foldl (addIndex candidates requested budget) states) := by
  induction unique generalizing prior states with
  | nil =>
    rw [List.append_nil]
    exact h
  | cons index unique ih =>
    have hnext := ih ((addIndex_length states index).trans hlength)
      (addIndex_reached hlength h)
    rw [List.append_assoc] at hnext
    exact hnext

theorem buckets_length (unique : List Nat) (states : List (List SelectionState)) :
    (unique.foldl (addIndex candidates requested budget) states).length = states.length := by
  induction unique generalizing states with
  | nil => rfl
  | cons index unique ih => rw [List.foldl_cons, ih, addIndex_length]

theorem start_reached (candidates : List Candidate) (requested budget : Nat) :
    AllReached candidates budget [] ([⟨0, 0.0, []⟩] :: List.replicate requested []) := by
  intro count state hstate
  cases count with
  | zero =>
    rw [List.getD_cons_zero, List.mem_singleton] at hstate
    subst hstate
    exact ⟨List.Sublist.refl [], rfl, rfl, Nat.zero_le budget, rfl⟩
  | succ count =>
    rw [List.getD_cons_succ, List.getD_eq_getElem?_getD] at hstate
    by_cases hlt : count < requested
    · rw [List.getElem?_replicate_of_lt hlt] at hstate
      cases hstate
    · rw [List.getElem?_eq_none (by simpa using hlt)] at hstate
      cases hstate

theorem bestBucket_mem (states : List (List SelectionState)) :
    bestBucket states = [] ∨ ∃ count < states.length, ∃ state ∈ states.getD count [],
      state.indices = bestBucket states := by
  cases hfound : states.reverse.findSome? fun bucket =>
      (Single.maxBy (fun state => Single.totalKey state.utility) bucket).map
        SelectionState.indices with
  | none => exact .inl (by rw [bestBucket, hfound, Option.getD_none])
  | some found =>
    right
    obtain ⟨bucket, hbucket, hbest⟩ := List.exists_of_findSome?_eq_some hfound
    obtain ⟨state, hstate, hindices⟩ := Option.map_eq_some_iff.mp hbest
    obtain ⟨count, hcount, hget⟩ := List.getElem_of_mem (List.mem_reverse.mp hbucket)
    refine ⟨count, hcount, state, ?_, by rw [bestBucket, hfound, Option.getD_some, hindices]⟩
    rw [List.getD_eq_getElem?_getD, List.getElem?_eq_getElem hcount, hget]
    exact maxBy_mem hstate

def statesAfter (candidates : List Candidate) (requested budget : Nat) (prior : List Nat) :
    List (List SelectionState) :=
  prior.foldl (addIndex candidates requested budget)
    ([⟨0, 0.0, []⟩] :: List.replicate requested [])

theorem statesAfter_append (prior : List Nat) (index : Nat) :
    statesAfter candidates requested budget (prior ++ [index]) =
      addIndex candidates requested budget (statesAfter candidates requested budget prior)
        index := by
  rw [statesAfter, List.foldl_append]
  rfl

theorem statesAfter_length (prior : List Nat) :
    (statesAfter candidates requested budget prior).length = requested + 1 := by
  rw [statesAfter, buckets_length]
  simp

theorem statesAfter_reached (prior : List Nat) :
    AllReached candidates budget prior (statesAfter candidates requested budget prior) := by
  have hlength : ([⟨0, 0.0, []⟩] :: List.replicate requested [] :
      List (List SelectionState)).length = requested + 1 := by simp
  exact buckets_reached prior hlength (start_reached candidates requested budget)

theorem select_within (candidates : List Candidate) (requested budget : Nat) :
    selectCandidateIndices candidates requested (some budget) =
      bestBucket (statesAfter candidates requested budget (uniqueIndices candidates)) := rfl

end Buckets

section Selection

theorem select_safe (candidates : List Candidate) (requested : Nat) (budget : Option Nat) :
    Safe candidates requested budget (selectCandidateIndices candidates requested budget) := by
  cases budget with
  | none =>
    have hchosen := @chooseWithout_safe candidates _ requested _ List.nodup_nil
      (List.nil_subset (uniqueIndices candidates))
    obtain ⟨hnodup, hsub, hlength⟩ := hchosen
    rw [List.length_nil, Nat.zero_add] at hlength
    exact ⟨fun i hi => uniqueIndices_range (hsub hi), hnodup, authors_of_subset hnodup hsub, hlength,
      nofun⟩
  | some budget =>
    rw [select_within]
    rcases bestBucket_mem (statesAfter candidates requested budget (uniqueIndices candidates)) with
      hnone | ⟨count, hlt, state, hstate, hindices⟩
    · rw [hnone]
      exact ⟨nofun, List.nodup_nil, List.nodup_nil, Nat.zero_le _, by simp [totalPrice]⟩
    · have hreached := statesAfter_reached _ count state hstate
      have hcount : count ≤ requested := by
        rw [statesAfter_length] at hlt
        omega
      have hunique := List.Nodup.of_map _ (uniqueIndices_authors candidates)
      have hnodup := hunique.sublist hreached.indices
      rw [← hindices]
      refine ⟨fun i hi => uniqueIndices_range (hreached.indices.subset hi), hnodup,
        authors_of_subset hnodup hreached.indices.subset, hreached.length.trans_le hcount, ?_⟩
      intro b hb
      obtain rfl := Option.some.inj hb
      rw [← hreached.spent]
      exact hreached.affordable

end Selection

section Resolution

variable {std : StdLib} {resolver : Resolver} {request : ResolveQuestionRequest} {queryId : String}
  {response : ResolveQuestionResponse} {selected : List Nat}

-- what the claim asks of a response
structure Reported (request : ResolveQuestionRequest) (response : ResolveQuestionResponse) : Prop where
  total : ∀ quote, response.quote = some quote →
    quote.totalPriceKrw = (response.matched.map MatchedDocument.priceKrw).sum ∧
      quote.documentCount = response.matched.length
  unquoted : response.quote = none ↔ response.matched = []
  hit : response.decision = .hit ↔ response.matched.length = request.requestedDocuments

theorem spentOn_eq (matched : List MatchedDocument) :
    spentOn matched = (matched.map MatchedDocument.priceKrw).sum % 2 ^ 64 := by
  have hrun : ∀ spent, matched.foldl (fun spent document => (spent + document.priceKrw) % 2 ^ 64) spent
      % 2 ^ 64 = (spent + (matched.map MatchedDocument.priceKrw).sum) % 2 ^ 64 := by
    induction matched with
    | nil => intro spent; simp
    | cons document rest ih =>
      intro spent
      rw [List.foldl_cons, ih, Nat.mod_add_mod, List.map_cons, List.sum_cons, Nat.add_assoc]
  have hreduced : spentOn matched % 2 ^ 64 = spentOn matched := by
    cases matched using List.reverseRecOn with
    | nil => rfl
    | append_singleton rest document =>
      rw [spentOn, List.foldl_append, List.foldl_cons, List.foldl_nil, Nat.mod_mod]
  rw [← hreduced, spentOn, hrun, Nat.zero_add]

theorem matched_prices (hrange : ∀ i ∈ selected, i < candidates.length) :
    ((selected.filterMap fun i => candidates[i]?).map Candidate.matched).map
        MatchedDocument.priceKrw = selected.map (priceAt candidates) := by
  induction selected with
  | nil => rfl
  | cons i selected ih =>
    have hi := hrange i List.mem_cons_self
    have hrest := ih fun j hj => hrange j (List.mem_cons_of_mem _ hj)
    rw [List.filterMap_cons, List.getElem?_eq_getElem hi]
    simp only [List.map_cons, hrest, priceAt, List.getElem?_eq_getElem hi, Option.map_some,
      Option.getD_some, Candidate.matched]

theorem score_indexed {indexed : IndexedDocument} {queryEmbedding : List Float32}
    {queryTerms anchorTerms : List String} {authority : Float32} {candidate : Candidate}
    (h : score indexed queryEmbedding queryTerms anchorTerms authority = some candidate) :
    candidate.indexed = indexed := by
  simp only [score, Option.ite_none_left_eq_some, Option.some.injEq] at h
  obtain ⟨-, rfl⟩ := h
  rfl

theorem candidate_indexed {queryEmbedding : List Float32} {queryTerms anchorTerms : List String}
    {authority : Dictionary Float32} {candidate : Candidate}
    (h : candidate ∈ resolver.candidates request queryEmbedding queryTerms anchorTerms authority) :
    candidate.indexed ∈ resolver.documents := by
  have hscored := (List.perm_insertionSort Candidate.before _).mem_iff.mp h
  obtain ⟨indexed, hindexed, hscore⟩ := List.mem_filterMap.mp hscored
  rw [score_indexed hscore]
  exact List.mem_of_mem_filter hindexed

theorem priceAt_le {bound : Nat} (hbound : ∀ c ∈ candidates, c.indexed.document.priceKrw ≤ bound)
    (i : Nat) : priceAt candidates i ≤ bound := by
  unfold priceAt
  cases hget : candidates[i]? with
  | none => exact Nat.zero_le bound
  | some c => exact hbound c (List.mem_of_getElem? hget)

theorem totalPrice_le {bound : Nat} (hbound : ∀ c ∈ candidates, c.indexed.document.priceKrw ≤ bound)
    (selected : List Nat) : totalPrice candidates selected ≤ selected.length * bound := by
  induction selected with
  | nil => simp [totalPrice]
  | cons i selected ih =>
    have hi := priceAt_le hbound i
    simp only [totalPrice, List.map_cons, List.sum_cons, List.length_cons] at ih ⊢
    rw [Nat.succ_mul]
    omega

theorem coverage_hit {candidateCount : Nat} {matched : List MatchedDocument} {blocked : Bool} :
    (coverageDecision request candidateCount matched blocked).1 = .hit ↔
      request.requestedDocuments ≤ matched.length := by
  unfold coverageDecision
  split
  · next hle => exact iff_of_true rfl hle
  · next hle =>
    refine iff_of_false ?_ hle
    split
    · exact nofun
    · split <;> exact nofun

-- validate_open_call's bound on a unit price, above the bound on a published price
def largestPriceKrw : Nat := 10000000

-- without a budget nothing bounds the prices of what the greedy choice takes
def Quotable (std : StdLib) (resolver : Resolver) (request : ResolveQuestionRequest) : Prop :=
  request.budgetKrw = none →
    let candidates := resolver.ranked std request
    totalPrice candidates (chooseWithout candidates (uniqueIndices candidates)
      request.requestedDocuments []) < 2 ^ 64

theorem quotable_iff (hbudget : ∀ budget, request.budgetKrw = some budget → budget < 2 ^ 64) :
    Quotable std resolver request ↔
      totalPrice (resolver.ranked std request) (selectCandidateIndices (resolver.ranked std request)
        request.requestedDocuments request.budgetKrw) < 2 ^ 64 := by
  cases hrequest : request.budgetKrw with
  | none =>
    rw [Quotable, hrequest]
    exact forall_prop_of_true rfl
  | some budget =>
    have hsafe := select_safe (resolver.ranked std request) request.requestedDocuments (some budget)
    refine iff_of_true (fun hnone => ?_) ((hsafe.affordable budget rfl).trans_lt (hbudget budget hrequest))
    rw [hrequest] at hnone
    cases hnone

theorem quotable_of_priced (hvalid : validate request = .ok ())
    (hprices : ∀ indexed ∈ resolver.documents, indexed.document.priceKrw ≤ largestPriceKrw) :
    Quotable std resolver request := by
  intro hnone
  have hsafe := select_safe (resolver.ranked std request) request.requestedDocuments none
  have hpriced : ∀ c ∈ resolver.ranked std request, c.indexed.document.priceKrw ≤ largestPriceKrw :=
    fun c hc => hprices c.indexed (candidate_indexed hc)
  simp only [validate, bind_eq_ok, reject_eq_ok, exists_const, not_or, not_lt] at hvalid
  have hcount := hsafe.count.trans hvalid.2.2.1.2
  have htotal := totalPrice_le hpriced
    (selectCandidateIndices (resolver.ranked std request) request.requestedDocuments none)
  have hmost := Nat.mul_le_mul_right largestPriceKrw hcount
  have hfits : maxRequestedDocuments * largestPriceKrw < 2 ^ 64 := by decide
  exact (htotal.trans hmost).trans_lt hfits

theorem reported_iff {blocked : Bool}
    (hmatched : response.matched = ((selectCandidateIndices candidates request.requestedDocuments
      request.budgetKrw).filterMap fun i => candidates[i]?).map Candidate.matched)
    (hquote : response.quote = if response.matched = [] then none
      else some ⟨"USDC", response.matched.length, spentOn response.matched⟩)
    (hdecision : response.decision =
      (coverageDecision request candidates.length response.matched blocked).1) :
    Reported request response ↔ totalPrice candidates (selectCandidateIndices candidates
      request.requestedDocuments request.budgetKrw) < 2 ^ 64 := by
  have hsafe := select_safe candidates request.requestedDocuments request.budgetKrw
  have hprices : response.matched.map MatchedDocument.priceKrw = (selectCandidateIndices candidates
      request.requestedDocuments request.budgetKrw).map (priceAt candidates) :=
    (congrArg _ hmatched).trans (matched_prices hsafe.inRange)
  have hlength : response.matched.length =
      (selectCandidateIndices candidates request.requestedDocuments request.budgetKrw).length := by
    simpa only [List.length_map] using congrArg List.length hprices
  have hspent := spentOn_eq response.matched
  rw [totalPrice, ← hprices]
  constructor
  · intro h
    by_cases hnone : response.matched = []
    · simp [hnone]
    · rw [if_neg hnone] at hquote
      have htotal := (h.total _ hquote).1
      dsimp only at htotal
      rw [← htotal, hspent]
      exact Nat.mod_lt _ (by decide)
  · intro hfits
    refine ⟨fun quote h => ?_, ?_, ?_⟩
    · rw [hquote, Option.ite_none_left_eq_some, Option.some.injEq] at h
      obtain ⟨-, rfl⟩ := h
      exact ⟨hspent.trans (Nat.mod_eq_of_lt hfits), rfl⟩
    · rw [hquote, ite_eq_left_iff]
      simp only [reduceCtorEq, imp_false, not_not]
    · rw [hdecision, coverage_hit, hlength]
      exact ⟨fun h => le_antisymm hsafe.count h, fun h => h.ge⟩

theorem resolve_reported_iff (h : resolver.resolve std request queryId = .ok response) :
    Reported request response ↔ totalPrice (resolver.ranked std request)
      (selectCandidateIndices (resolver.ranked std request) request.requestedDocuments
        request.budgetKrw) < 2 ^ 64 := by
  simp only [Resolver.resolve, bind_eq_ok, pure_eq_ok] at h
  obtain ⟨_, -, rfl⟩ := h
  exact reported_iff rfl rfl rfl

-- distinct indices of distinct authors within the count and the budget; the quote is their total
theorem selection_safe_iff (candidates : List Candidate) (requested : Nat) (budget : Option Nat)
    (std : StdLib) (resolver : Resolver) (request : ResolveQuestionRequest) (queryId : String) :
    Safe candidates requested budget (selectCandidateIndices candidates requested budget) ∧
    ∀ response, (∀ limit, request.budgetKrw = some limit → limit < 2 ^ 64) →
      resolver.resolve std request queryId = .ok response →
        (Reported request response ↔ Quotable std resolver request) :=
  ⟨select_safe candidates requested budget, fun _ hbudget h =>
    (resolve_reported_iff h).trans (quotable_iff hbudget).symm⟩

section Sample

def pricedDocument (id : String) (priceKrw : Nat) : Document :=
  { sampleDocument with id := id, handle := id, authorId := id, priceKrw := priceKrw }

def pricedDocuments (priceKrw : Nat) : List Document :=
  [pricedDocument "doc_1" priceKrw, pricedDocument "doc_2" priceKrw, pricedDocument "doc_3" priceKrw]

def pricedRequest (requestedDocuments : Nat) (budgetKrw : Option Nat) : ResolveQuestionRequest :=
  { sampleRequest with requestedDocuments := requestedDocuments, budgetKrw := budgetKrw }

def pricedResolve (priceKrw requestedDocuments : Nat) (budgetKrw : Option Nat) :
    Except ResolveError ResolveQuestionResponse :=
  (Resolver.new sampleStd (pricedDocuments priceKrw)).resolve sampleStd
    (pricedRequest requestedDocuments budgetKrw) "qry_1"

theorem sample_terms : trim "tea" = "tea" ∧ (wordTerms sampleStd "tea").dedup = ["tea"] ∧
    (capitalisedTerms sampleStd "tea").dedup = [] ∧
    (wordTerms sampleStd (searchableText sampleDocument)).dedup = ["food", "tea"] := by
  decide +kernel

set_option maxRecDepth 20000 in
theorem sample_scored : (score (indexDocument sampleStd sampleDocument) (embed sampleStd "tea") ["tea"]
    ["tea"] 0.5).isSome = true := by
  decide +kernel

variable {priceKrw : Nat} {budgetKrw : Option Nat} {id : String} {candidate : Candidate}

-- the sample's documents differ in id, handle, author and price only
def pricedCandidate (candidate : Candidate) (priceKrw : Nat) (id : String) : Candidate :=
  { candidate with
    indexed := { indexDocument sampleStd sampleDocument with document := pricedDocument id priceKrw } }

theorem priced_indexed (id : String) (priceKrw : Nat) : indexDocument sampleStd (pricedDocument id priceKrw) =
    { indexDocument sampleStd sampleDocument with document := pricedDocument id priceKrw } := by
  simp only [indexDocument, searchableText, pricedDocument]

theorem score_document {indexed : IndexedDocument} {document : Document} {queryEmbedding : List Float32}
    {queryTerms anchorTerms : List String} {authority : Float32}
    (htrust : trustOf document = trustOf indexed.document)
    (hfresh : freshnessOf document = freshnessOf indexed.document)
    (h : score indexed queryEmbedding queryTerms anchorTerms authority = some candidate) :
    score { indexed with document := document } queryEmbedding queryTerms anchorTerms authority =
      some { candidate with indexed := { indexed with document := document } } := by
  simp only [score, Option.ite_none_left_eq_some, Option.some.injEq, htrust, hfresh] at h ⊢
  obtain ⟨hrelevant, rfl⟩ := h
  exact ⟨hrelevant, rfl⟩

theorem priced_terms : (indexDocument sampleStd (pricedDocument id priceKrw)).terms = ["food", "tea"] := by
  rw [priced_indexed]
  simp only [indexDocument, sample_terms.2.2.2]

theorem priced_anchors : (Resolver.new sampleStd (pricedDocuments priceKrw)).anchorTerms sampleStd "tea"
    ["tea"] = ["tea"] := by
  have hknown : (Resolver.new sampleStd (pricedDocuments priceKrw)).documentFrequency "tea" = 3 := by
    simp [Resolver.documentFrequency, Resolver.new, pricedDocuments, priced_terms]
  simp [Resolver.anchorTerms, sample_terms.2.2.1, hknown]

theorem candidates_unfiltered {queryEmbedding : List Float32} {queryTerms anchorTerms ids : List String}
    {document : String → IndexedDocument} {scored : String → Candidate}
    (hdocuments : resolver.documents = ids.map document)
    (hopen : ∀ id, (document id).document.locked = false)
    (hfilters : request.filters = ⟨none, none, none, none, none, none⟩)
    (hscored : ∀ id, score (document id) queryEmbedding queryTerms anchorTerms 0.5 = some (scored id))
    (hsorted : (ids.map scored).Pairwise Candidate.before) :
    resolver.candidates request queryEmbedding queryTerms anchorTerms ∅ = ids.map scored := by
  have heligible : resolver.documents.filter (fun indexed =>
      !indexed.document.locked && categoryMatches indexed request.filters.category &&
        demographicsMatch indexed.document request.filters &&
        request.filters.maxUnitPriceKrw.all fun most => decide (indexed.document.priceKrw ≤ most)) =
      ids.map document := by
    rw [hdocuments, List.filter_eq_self]
    intro indexed hindexed
    obtain ⟨id, -, rfl⟩ := List.mem_map.mp hindexed
    simp [hopen, hfilters, categoryMatches, demographicsMatch]
  rw [Resolver.candidates, heligible, List.filterMap_map, ← List.Pairwise.insertionSort_eq hsorted,
    ← List.filterMap_eq_map]
  refine congrArg (List.insertionSort Candidate.before) (List.filterMap_congr fun id _ => ?_)
  simp only [Function.comp, AList.lookup_empty, Option.getD_none, hscored]

theorem priced_documents : (Resolver.new sampleStd (pricedDocuments priceKrw)).documents =
    ["doc_1", "doc_2", "doc_3"].map fun id => indexDocument sampleStd (pricedDocument id priceKrw) := by
  simp only [Resolver.new, pricedDocuments, List.map_cons, List.map_nil]

theorem priced_scored (h : score (indexDocument sampleStd sampleDocument) (embed sampleStd "tea") ["tea"]
      ["tea"] 0.5 = some candidate) :
    score (indexDocument sampleStd (pricedDocument id priceKrw)) (embed sampleStd "tea") ["tea"] ["tea"]
      0.5 = some (pricedCandidate candidate priceKrw id) := by
  rw [priced_indexed]
  refine score_document ?_ ?_ h
  · simp only [trustOf, pricedDocument, indexDocument]
  · simp only [freshnessOf, pricedDocument, indexDocument]

theorem priced_sorted (candidate : Candidate) :
    (["doc_1", "doc_2", "doc_3"].map (pricedCandidate candidate priceKrw)).Pairwise Candidate.before := by
  simp [pricedCandidate, Candidate.before, pricedDocument]

theorem priced_ranked : ∃ candidate, (Resolver.new sampleStd (pricedDocuments priceKrw)).ranked sampleStd
    (pricedRequest requested budgetKrw) =
      ["doc_1", "doc_2", "doc_3"].map (pricedCandidate candidate priceKrw) := by
  obtain ⟨candidate, hscored⟩ := Option.isSome_iff_exists.mp sample_scored
  obtain ⟨htrim, hterms, -, -⟩ := sample_terms
  refine ⟨candidate, ?_⟩
  have hquestion : trim (pricedRequest requested budgetKrw).question = "tea" := htrim
  have hauthority : (Resolver.new sampleStd (pricedDocuments priceKrw)).authorityScores sampleStd
      (embed sampleStd "tea") ["tea"] = ∅ := by
    rw [Resolver.authorityScores]
    exact if_pos rfl
  simp only [Resolver.ranked, hquestion, hterms, priced_anchors, hauthority]
  refine candidates_unfiltered priced_documents (fun id => ?_) rfl (fun id => priced_scored hscored)
    (priced_sorted candidate)
  simp only [indexDocument, pricedDocument, sampleDocument]

theorem priced_unique (candidate : Candidate) :
    uniqueIndices (["doc_1", "doc_2", "doc_3"].map (pricedCandidate candidate priceKrw)) = [0, 1, 2] := by
  simp [uniqueIndices, uniqueFrom, pricedCandidate, pricedDocument]

-- without a budget the sample's documents are taken as far as they are asked for
theorem priced_selected (candidate : Candidate) (hfew : requested ≤ 3) :
    let candidates := ["doc_1", "doc_2", "doc_3"].map (pricedCandidate candidate priceKrw)
    (selectCandidateIndices candidates requested none).length = requested ∧
      totalPrice candidates (selectCandidateIndices candidates requested none) = requested * priceKrw := by
  intro candidates
  have hlength := @chooseWithout_length candidates [0, 1, 2] (by decide) requested []
    List.nodup_nil (List.nil_subset _) (by simpa using hfew)
  obtain ⟨-, hsub, -⟩ := @chooseWithout_safe candidates [0, 1, 2] requested []
    List.nodup_nil (List.nil_subset _)
  have hselected : selectCandidateIndices candidates requested none =
      chooseWithout candidates [0, 1, 2] requested [] := by
    simp only [selectCandidateIndices, candidates, priced_unique]
  rw [List.length_nil, Nat.zero_add] at hlength
  have hprice : ∀ i ∈ [0, 1, 2], priceAt candidates i = priceKrw := by
    simp [priceAt, candidates, pricedCandidate, pricedDocument]
  rw [hselected]
  refine ⟨hlength, ?_⟩
  rw [totalPrice, List.map_congr_left fun i hi => hprice i (hsub hi), List.map_const', List.sum_replicate_nat,
    hlength]

theorem priced_resolved (hvalid : validate (pricedRequest requested budgetKrw) = .ok ()) :
    ∃ response, pricedResolve priceKrw requested budgetKrw = .ok response := by
  rw [pricedResolve, Resolver.resolve, hvalid]
  exact ⟨_, rfl⟩

theorem selection_safe_iff_sample :
    (∃ response, pricedResolve 100 2 (some 250) = .ok response ∧
      Reported (pricedRequest 2 (some 250)) response) ∧
    ∃ response, pricedResolve 100 3 none = .ok response ∧ Reported (pricedRequest 3 none) response := by
  have hbudget : ∀ budget, (pricedRequest 2 (some 250)).budgetKrw = some budget → budget < 2 ^ 64 := by
    rintro budget ⟨⟩
    decide
  have hunbudgeted : ∀ budget, (pricedRequest 3 none).budgetKrw = some budget → budget < 2 ^ 64 := by
    rintro budget ⟨⟩
  obtain ⟨candidate, hranked⟩ := @priced_ranked 3 100 none
  obtain ⟨response, hresponse⟩ := @priced_resolved 2 100 (some 250) (by decide)
  obtain ⟨response', hresponse'⟩ := @priced_resolved 3 100 none (by decide)
  have hwithin := selection_safe_iff [candidate] 1 none sampleStd
    (Resolver.new sampleStd (pricedDocuments 100)) (pricedRequest 2 (some 250)) "qry_1"
  have hopen := selection_safe_iff [candidate] 1 (some 100) sampleStd
    (Resolver.new sampleStd (pricedDocuments 100)) (pricedRequest 3 none) "qry_1"
  refine ⟨⟨response, hresponse, ?_⟩, response', hresponse', ?_⟩
  · refine (hwithin.2 _ hbudget hresponse).mpr ?_
    rintro ⟨⟩
  · refine (hopen.2 _ hunbudgeted hresponse').mpr fun _ => ?_
    have htotal := (@priced_selected 3 100 candidate le_rfl).2
    rw [← hranked] at htotal
    exact htotal.trans_lt (by decide)

theorem quote_wraps : ∃ response, pricedResolve (2 ^ 63 - 1) 3 none = .ok response ∧
    ¬Reported (pricedRequest 3 none) response := by
  obtain ⟨candidate, hranked⟩ := @priced_ranked 3 (2 ^ 63 - 1) none
  obtain ⟨response, hresponse⟩ := @priced_resolved 3 (2 ^ 63 - 1) none (by decide)
  refine ⟨response, hresponse, fun h => ?_⟩
  have htotal := (@priced_selected 3 (2 ^ 63 - 1) candidate le_rfl).2
  rw [← hranked] at htotal
  have hfits := (resolve_reported_iff hresponse).mp h
  exact absurd (htotal.symm.trans_lt hfits) (by decide)

end Sample

end Resolution

end Obulus.Search
