import Mathlib.Data.List.Dedup
import Mathlib.Data.List.Perm.Subperm
import Mathlib.Data.List.Sublists
import Obulus.Foundation.Whole
import Obulus.Search.Pruning

namespace Obulus.Search

open Foundation

variable {candidates : List Candidate} {unique prior : List Nat} {budget index requested : Nat}

section Claim

def FewAuthors (candidates : List Candidate) : Prop :=
  (candidates.map fun c => c.indexed.document.authorId).dedup.length ≤ 80

instance : Decidable (FewAuthors candidates) := inferInstanceAs (Decidable (_ ≤ 80))

def Feasible (candidates : List Candidate) (requested : Nat) (budget : Option Nat) : Prop :=
  ∃ selected, Safe candidates requested budget selected ∧ selected.length = requested

-- an affordable request is filled
def Complete (candidates : List Candidate) (requested : Nat) (budget : Option Nat) : Prop :=
  FewAuthors candidates → Feasible candidates requested budget →
    (selectCandidateIndices candidates requested budget).length = requested

-- no earlier candidate has the same author
def FirstOfAuthor (candidates : List Candidate) (index : Nat) : Prop :=
  ∃ author, authorAt candidates index = some author ∧
    ∀ earlier < index, authorAt candidates earlier ≠ some author

end Claim

section Rounds

variable {count : Nat} {states : List (List SelectionState)}

-- a partial selection that the indices not handled yet can still fill within the budget
def Completable (candidates : List Candidate) (requested budget : Nat) (prior : List Nat) : Prop :=
  ∃ count ≤ requested, ∃ state ∈ (statesAfter candidates requested budget prior).getD count [],
    ∃ later : List Nat, later.Sublist ((uniqueIndices candidates).drop prior.length) ∧
      count + later.length = requested ∧ state.spent + totalPrice candidates later ≤ budget

-- what `prune_states` may lose: states that do not beat -∞, and whatever is past the 512th
structure Harmless (requested count : Nat) (bucket : List SelectionState) : Prop where
  numeric : ∀ state ∈ bucket, negativeInfinity < state.utility
  narrow : count < requested → (retained bucket).length ≤ 512

def HarmlessRound (candidates : List Candidate) (requested budget : Nat) (prior : List Nat)
    (index : Nat) : Prop :=
  ∀ count < requested, Harmless requested (count + 1)
    (offered candidates budget index count (statesAfter candidates requested budget prior))

theorem Harmless.kept {bucket : List SelectionState} {state : SelectionState}
    (h : Harmless requested count bucket) (hstate : state ∈ bucket) :
    ∃ kept ∈ pruneStates bucket, count < requested → kept.spent ≤ state.spent := by
  by_cases hcount : count < requested
  · obtain ⟨kept, hkept, hspent⟩ := retained_cheapest h.numeric hstate
    rw [prune_untruncated (h.narrow hcount)]
    exact ⟨kept, hkept, fun _ => hspent⟩
  · obtain ⟨kept, hkept⟩ := prune_nonempty h.numeric (List.ne_nil_of_mem hstate)
    exact ⟨kept, hkept, fun hlt => absurd hlt hcount⟩

theorem totalPrice_cons (xs : List Nat) : totalPrice candidates (index :: xs) =
    priceAt candidates index + totalPrice candidates xs := by
  simp [totalPrice]

theorem drop_leading (h : prior ++ [index] <+: unique) :
    unique.drop prior.length = index :: unique.drop (prior ++ [index]).length := by
  obtain ⟨rest, rfl⟩ := h
  simp

-- where nothing is lost, the state kept in place of a completable one is completable too
theorem completable_of_offered
    (hharmless : HarmlessRound candidates requested budget prior index) (hcount : count < requested)
    {state : SelectionState} (hstate : state ∈ offered candidates budget index count
      (statesAfter candidates requested budget prior)) {later : List Nat}
    (hlater : later.Sublist ((uniqueIndices candidates).drop (prior ++ [index]).length))
    (hlength : count + 1 + later.length = requested)
    (htotal : state.spent + totalPrice candidates later ≤ budget) :
    Completable candidates requested budget (prior ++ [index]) := by
  obtain ⟨kept, hkept, hspent⟩ := (hharmless count hcount).kept hstate
  have hbucket : kept ∈ (statesAfter candidates requested budget (prior ++ [index])).getD (count + 1) [] := by
    rw [statesAfter_append, addIndex_succ (statesAfter_length prior) hcount]
    exact hkept
  refine ⟨count + 1, hcount, kept, hbucket, later, hlater, hlength, ?_⟩
  by_cases hshort : count + 1 < requested
  · exact (Nat.add_le_add_right (hspent hshort) _).trans htotal
  · have hnil : later = [] := List.eq_nil_of_length_eq_zero (by omega)
    have hreached := statesAfter_reached _ _ _ hbucket
    rw [hnil]
    exact hreached.affordable

theorem completable_step (hprior : prior ++ [index] <+: uniqueIndices candidates)
    (hharmless : HarmlessRound candidates requested budget prior index)
    (h : Completable candidates requested budget prior) :
    Completable candidates requested budget (prior ++ [index]) := by
  obtain ⟨count, hcount, state, hstate, later, hlater, hlength, htotal⟩ := h
  rw [drop_leading hprior] at hlater
  cases hlater with
  | cons _ hrest =>
    cases count with
    | zero =>
      have hbucket : state ∈ (statesAfter candidates requested budget (prior ++ [index])).getD 0 [] := by
        rw [statesAfter_append, addIndex_zero (statesAfter_length prior)]
        exact hstate
      exact ⟨0, hcount, state, hbucket, later, hrest, hlength, htotal⟩
    | succ count =>
      exact completable_of_offered hharmless hcount (List.mem_append_left _ hstate) hrest hlength htotal
  | @cons_cons later _ _ hrest =>
    rw [List.length_cons] at hlength
    rw [totalPrice_cons] at htotal
    have hfits : state.spent + priceAt candidates index ≤ budget := by omega
    have hextended : extendState candidates budget index state = some _ := if_pos hfits
    have hoffered := List.mem_append_right
      ((statesAfter candidates requested budget prior).getD (count + 1) [])
      (List.mem_filterMap.mpr ⟨state, hstate, hextended⟩)
    refine completable_of_offered hharmless (by omega) hoffered hrest (by omega) ?_
    dsimp only
    omega

-- a selection that can be completed was so before its last index
theorem completable_before (hprior : prior ++ [index] <+: uniqueIndices candidates)
    (h : Completable candidates requested budget (prior ++ [index])) :
    Completable candidates requested budget prior := by
  obtain ⟨count, hcount, state, hstate, later, hlater, hlength, htotal⟩ := h
  have hdrop := drop_leading hprior
  rw [statesAfter_append] at hstate
  cases count with
  | zero =>
    rw [addIndex_zero (statesAfter_length prior)] at hstate
    refine ⟨0, hcount, state, hstate, later, ?_, hlength, htotal⟩
    rw [hdrop]
    exact hlater.cons index
  | succ count =>
    rw [addIndex_succ (statesAfter_length prior) hcount] at hstate
    rcases List.mem_append.mp (mem_pruneStates hstate) with hold | hnew
    · refine ⟨count + 1, hcount, state, hold, later, ?_, hlength, htotal⟩
      rw [hdrop]
      exact hlater.cons index
    · obtain ⟨parent, hparent, hstep⟩ := List.mem_filterMap.mp hnew
      simp only [extendState, Option.ite_none_right_eq_some, Option.some.injEq] at hstep
      obtain ⟨-, rfl⟩ := hstep
      refine ⟨count, Nat.le_of_succ_le hcount, parent, hparent, index :: later, ?_, ?_, ?_⟩
      · rw [hdrop]
        exact hlater.cons_cons index
      · rw [List.length_cons]
        omega
      · rw [totalPrice_cons]
        dsimp only at htotal
        omega

theorem completable_leading (h : Completable candidates requested budget (uniqueIndices candidates))
    (hprior : prior <+: uniqueIndices candidates) : Completable candidates requested budget prior := by
  obtain ⟨rest, hrest⟩ := hprior
  induction rest generalizing prior with
  | nil =>
    rw [List.append_nil] at hrest
    rwa [hrest]
  | cons index rest ih =>
    have hnext : (prior ++ [index]) ++ rest = uniqueIndices candidates := by
      rw [← hrest, List.append_assoc, List.singleton_append]
    exact completable_before ⟨rest, hnext⟩ (ih hnext)

-- a partial selection survives every round in which something may be lost
def KeepsOne (candidates : List Candidate) (requested budget : Nat) : Prop :=
  ∀ prior index, prior ++ [index] <+: uniqueIndices candidates →
    ¬HarmlessRound candidates requested budget prior index →
    Completable candidates requested budget (prior ++ [index])

theorem completable_run (hstart : Completable candidates requested budget [])
    (hkeeps : KeepsOne candidates requested budget) (hprior : prior <+: uniqueIndices candidates) :
    Completable candidates requested budget prior := by
  induction prior using List.reverseRecOn with
  | nil => exact hstart
  | append_singleton prior index ih =>
    by_cases hharmless : HarmlessRound candidates requested budget prior index
    · exact completable_step hprior hharmless (ih ((List.prefix_append prior [index]).trans hprior))
    · exact hkeeps prior index hprior hharmless

theorem bestBucket_full {states : List (List SelectionState)} (hlength : states.length = requested + 1)
    (h : states.getD requested [] ≠ []) :
    ∃ state ∈ states.getD requested [], bestBucket states = state.indices := by
  have hne : states ≠ [] := List.ne_nil_of_length_eq_add_one hlength
  have hlast : states.getD requested [] = states.getLast hne := by
    rw [List.getD_eq_getElem?_getD, List.getLast_eq_getElem, List.getElem?_eq_getElem (by omega),
      Option.getD_some]
    congr 1
    omega
  rw [hlast] at h ⊢
  obtain ⟨state, hstate⟩ : ∃ state, Single.maxBy
      (fun state : SelectionState => Single.totalKey state.utility) (states.getLast hne) =
        some state := maxBy_isSome h
  refine ⟨state, maxBy_mem hstate, ?_⟩
  have hreverse : states.reverse = states.getLast hne :: states.dropLast.reverse := by
    conv_lhs => rw [← List.dropLast_append_getLast hne]
    rw [List.reverse_append, List.reverse_singleton, List.singleton_append]
  rw [bestBucket, hreverse, List.findSome?_cons, hstate, Option.map_some, Option.getD_some]

theorem statesAfter_zero (prior : List Nat) :
    (statesAfter candidates requested budget prior).getD 0 [] = [⟨0, 0.0, []⟩] := by
  induction prior using List.reverseRecOn with
  | nil => rfl
  | append_singleton prior index ih => rw [statesAfter_append, addIndex_zero (statesAfter_length prior), ih]

theorem completable_end : Completable candidates requested budget (uniqueIndices candidates) ↔
    (selectCandidateIndices candidates requested (some budget)).length = requested := by
  rw [select_within]
  constructor
  · rintro ⟨count, -, state, hstate, later, hlater, hlength, -⟩
    rw [List.drop_length] at hlater
    rw [List.sublist_nil.mp hlater, List.length_nil, Nat.add_zero] at hlength
    subst hlength
    obtain ⟨best, hbest, hindices⟩ := bestBucket_full (statesAfter_length _) (List.ne_nil_of_mem hstate)
    rw [hindices]
    exact (statesAfter_reached _ count best hbest).length
  · intro hfull
    rcases bestBucket_mem (statesAfter candidates requested budget (uniqueIndices candidates)) with
      hnone | ⟨count, hlt, state, hstate, hindices⟩
    · rw [hnone, List.length_nil] at hfull
      subst hfull
      refine ⟨0, le_rfl, ⟨0, 0.0, []⟩, ?_, [], List.nil_sublist _, rfl, Nat.zero_le _⟩
      rw [statesAfter_zero]
      exact List.mem_singleton_self _
    · have hreached := statesAfter_reached _ count state hstate
      have hcount : count = requested := by
        rw [← hreached.length, hindices, hfull]
      subst hcount
      exact ⟨count, le_rfl, state, hstate, [], List.nil_sublist _, rfl, hreached.affordable⟩

end Rounds

section Width

variable {count : Nat}

def Distinguished (states : List (List SelectionState)) : Prop :=
  ∀ count, ((states.getD count []).map SelectionState.indices).Nodup

theorem fresh_of_nodup (h : (prior ++ [index]).Nodup) : prior.Nodup ∧ index ∉ prior := by
  obtain ⟨hprior, -, hdisjoint⟩ := List.nodup_append.mp h
  exact ⟨hprior, fun hmem => hdisjoint index hmem index (List.mem_singleton_self _) rfl⟩

theorem extended_indices (bucket : List SelectionState) : List.Sublist
    ((bucket.filterMap (extendState candidates budget index)).map SelectionState.indices)
    ((bucket.map SelectionState.indices).map (· ++ [index])) := by
  induction bucket with
  | nil => exact List.Sublist.refl []
  | cons state rest ih =>
    rw [List.filterMap_cons]
    cases hstep : extendState candidates budget index state with
    | none => exact ih.cons _
    | some next =>
      simp only [extendState, Option.ite_none_right_eq_some, Option.some.injEq] at hstep
      obtain ⟨-, rfl⟩ := hstep
      exact ih.cons_cons _

theorem offered_distinct {states : List (List SelectionState)} (hindex : index ∉ prior)
    (hreached : AllReached candidates budget prior states) (h : Distinguished states) (count : Nat) :
    ((offered candidates budget index count states).map SelectionState.indices).Nodup := by
  have hextended := @extended_indices candidates budget index (states.getD count [])
  have hinjective : Function.Injective fun indices : List Nat => indices ++ [index] :=
    fun _ _ => List.append_cancel_right
  rw [offered, List.map_append]
  refine List.nodup_append.mpr ⟨h (count + 1), ((h count).map hinjective).sublist hextended, ?_⟩
  intro old hold new hnew heq
  obtain ⟨state, hstate, rfl⟩ := List.mem_map.mp hold
  obtain ⟨parent, -, rfl⟩ := List.mem_map.mp (hextended.subset hnew)
  have hmem : index ∈ state.indices := heq ▸ List.mem_append_right _ (List.mem_singleton_self index)
  exact hindex ((hreached (count + 1) state hstate).indices.subset hmem)

theorem statesAfter_distinct (hnodup : prior.Nodup) :
    Distinguished (statesAfter candidates requested budget prior) := by
  induction prior using List.reverseRecOn with
  | nil =>
    intro count
    cases count with
    | zero => exact List.nodup_singleton _
    | succ count =>
      rw [statesAfter, List.foldl_nil, List.getD_cons_succ, List.getD_eq_getElem?_getD,
        List.getElem?_replicate]
      split <;> exact List.nodup_nil
  | append_singleton prior index ih =>
    obtain ⟨hprior, hindex⟩ := fresh_of_nodup hnodup
    intro count
    rw [statesAfter_append]
    cases count with
    | zero =>
      rw [addIndex_zero (statesAfter_length prior)]
      exact ih hprior 0
    | succ count =>
      by_cases hcount : count < requested
      · rw [addIndex_succ (statesAfter_length prior) hcount]
        have hoffered := offered_distinct hindex (statesAfter_reached prior) (ih hprior) count
        obtain ⟨kept, hkept, hsub⟩ := prune_subperm (offered candidates budget index count
          (statesAfter candidates requested budget prior))
        exact (hkept.map _).nodup_iff.mp (hoffered.sublist (hsub.map _))
      · rw [List.getD_eq_getElem?_getD,
          List.getElem?_eq_none (by rw [addIndex_length, statesAfter_length]; omega)]
        exact List.nodup_nil

theorem retained_width (hnodup : (prior ++ [index]).Nodup) (count : Nat) :
    (retained (offered candidates budget index count
      (statesAfter candidates requested budget prior))).length ≤
      (prior ++ [index]).length.choose (count + 1) := by
  obtain ⟨hprior, hindex⟩ := fresh_of_nodup hnodup
  have hreached := @statesAfter_reached candidates budget requested prior
  have hdistinct := offered_distinct hindex hreached (statesAfter_distinct hprior) count
  have hsub : (offered candidates budget index count (statesAfter candidates requested budget prior)).map
      SelectionState.indices ⊆ (prior ++ [index]).sublistsLen (count + 1) := by
    intro indices hindices
    obtain ⟨state, hstate, rfl⟩ := List.mem_map.mp hindices
    have hstate := offered_reached hreached hstate
    exact List.mem_sublistsLen.mpr ⟨hstate.indices, hstate.length⟩
  have hlength := (hdistinct.subperm hsub).length_le
  rw [List.length_map, List.length_sublistsLen] at hlength
  exact (retained_subperm _).length_le.trans hlength

-- the utility of every selection is a number above -∞
def Scored (candidates : List Candidate) : Prop :=
  ∀ indices : List Nat, indices.Sublist (uniqueIndices candidates) →
    negativeInfinity < utilityOf candidates indices

-- no count short of the request has more than 512 selections
def Narrow (candidates : List Candidate) (requested : Nat) : Prop :=
  ∀ count < requested, (uniqueIndices candidates).length.choose count ≤ 512

theorem keepsOne_of_narrow (hscored : Scored candidates) (hnarrow : Narrow candidates requested) :
    KeepsOne candidates requested budget := by
  intro prior index hprior hlossy
  refine absurd (fun count hcount => ⟨fun state hstate => ?_, fun hshort => ?_⟩) hlossy
  · have hreached := offered_reached (statesAfter_reached prior) hstate
    rw [hreached.utility]
    exact hscored _ (hreached.indices.trans hprior.sublist)
  · have hunique := List.Nodup.of_map _ (uniqueIndices_authors candidates)
    exact (retained_width (hunique.sublist hprior.sublist) count).trans
      ((Nat.choose_le_choose _ hprior.length_le).trans (hnarrow _ hshort))

end Width

section Authors

theorem authorAt_some {author : String} {i : Nat} (h : authorAt candidates i = some author) :
    author ∈ candidates.map fun c => c.indexed.document.authorId := by
  obtain ⟨candidate, hget, rfl⟩ := Option.map_eq_some_iff.mp h
  exact List.mem_map_of_mem (List.mem_of_getElem? hget)

theorem authors_length {selected : List Nat} (hrange : ∀ i ∈ selected, i < candidates.length)
    (hauthors : (selected.map (authorAt candidates)).Nodup) :
    selected.length ≤ (candidates.map fun c => c.indexed.document.authorId).dedup.length := by
  have hsub : selected.map (authorAt candidates) ⊆
      (candidates.map fun c => c.indexed.document.authorId).dedup.map some := by
    intro author hauthor
    obtain ⟨i, hi, rfl⟩ := List.mem_map.mp hauthor
    obtain ⟨candidate, hget⟩ : ∃ candidate, candidates[i]? = some candidate :=
      ⟨_, List.getElem?_eq_getElem (hrange i hi)⟩
    have hsome : authorAt candidates i = some candidate.indexed.document.authorId := by
      rw [authorAt, hget, Option.map_some]
    rw [hsome]
    exact List.mem_map_of_mem (List.mem_dedup.mpr (authorAt_some hsome))
  simpa using (hauthors.subperm hsub).length_le

theorem uniqueIndices_all (hfew : FewAuthors candidates) :
    uniqueIndices candidates = uniqueFrom [] 0 candidates := by
  have hrange : ∀ i ∈ uniqueFrom [] 0 candidates, i < candidates.length := by
    intro i hi
    obtain ⟨-, author, hauthor, -⟩ := mem_uniqueFrom rfl hi
    obtain ⟨candidate, hget, -⟩ := Option.map_eq_some_iff.mp hauthor
    exact (List.getElem?_eq_some_iff.mp hget).1
  have hlength := authors_length hrange (uniqueFrom_authors rfl)
  exact List.take_of_length_le (hlength.trans hfew)

theorem first_mem_uniqueFrom {authors : List String} {rest : List Candidate} {start i : Nat}
    (hrest : candidates.drop start = rest) (hle : start ≤ i) {author : String}
    (hauthor : authorAt candidates i = some author) (hnew : author ∉ authors)
    (hfirst : ∀ earlier, start ≤ earlier → earlier < i → authorAt candidates earlier ≠ some author) :
    i ∈ uniqueFrom authors start rest := by
  induction rest generalizing authors start with
  | nil =>
    obtain ⟨candidate, hget, -⟩ := Option.map_eq_some_iff.mp hauthor
    have hlt := (List.getElem?_eq_some_iff.mp hget).1
    have hshort := List.drop_eq_nil_iff.mp hrest
    omega
  | cons candidate rest ih =>
    have hget : candidates[start]? = some candidate := by
      have hhead := congrArg List.head? hrest
      rwa [List.head?_drop] at hhead
    have htail : candidates.drop (start + 1) = rest := by
      rw [← List.tail_drop, hrest, List.tail_cons]
    have hstart : authorAt candidates start = some candidate.indexed.document.authorId := by
      rw [authorAt, hget, Option.map_some]
    simp only [uniqueFrom]
    rcases Nat.eq_or_lt_of_le hle with rfl | hlt
    · rw [hstart, Option.some.injEq] at hauthor
      subst hauthor
      rw [if_neg hnew]
      exact List.mem_cons_self
    · have hother : candidate.indexed.document.authorId ≠ author := fun heq =>
        hfirst start le_rfl hlt (hstart.trans (congrArg some heq))
      split
      · exact ih htail hlt hnew fun earlier h => hfirst earlier (by omega)
      · refine List.mem_cons_of_mem _ (ih htail hlt ?_ fun earlier h => hfirst earlier (by omega))
        rw [List.mem_cons, not_or]
        exact ⟨hother.symm, hnew⟩

theorem first_mem_unique (hfew : FewAuthors candidates) {i : Nat}
    (h : FirstOfAuthor candidates i) : i ∈ uniqueIndices candidates := by
  obtain ⟨author, hauthor, hfirst⟩ := h
  rw [uniqueIndices_all hfew]
  exact first_mem_uniqueFrom rfl (Nat.zero_le i) hauthor (List.not_mem_nil)
    fun earlier _ => hfirst earlier

theorem unique_first {authors : List String} {rest : List Candidate} {start i : Nat}
    (hrest : candidates.drop start = rest) (hi : i ∈ uniqueFrom authors start rest) :
    ∀ earlier, start ≤ earlier → earlier < i → authorAt candidates earlier ≠ authorAt candidates i := by
  induction rest generalizing authors start with
  | nil => cases hi
  | cons candidate rest ih =>
    have hget : candidates[start]? = some candidate := by
      have hhead := congrArg List.head? hrest
      rwa [List.head?_drop] at hhead
    have htail : candidates.drop (start + 1) = rest := by
      rw [← List.tail_drop, hrest, List.tail_cons]
    have hstart : authorAt candidates start = some candidate.indexed.document.authorId := by
      rw [authorAt, hget, Option.map_some]
    intro earlier hle hlt
    obtain ⟨-, author, hauthor, hnew⟩ := mem_uniqueFrom hrest hi
    simp only [uniqueFrom] at hi
    rcases Nat.eq_or_lt_of_le hle with rfl | hafter
    · rw [hauthor, hstart]
      rintro ⟨rfl⟩
      rw [if_neg hnew] at hi
      rcases List.mem_cons.mp hi with rfl | hi
      · exact lt_irrefl _ hlt
      · obtain ⟨-, author, hauthor', hfresh⟩ := mem_uniqueFrom htail hi
        rw [hauthor, Option.some.injEq] at hauthor'
        exact hfresh (hauthor' ▸ List.mem_cons_self)
    · split at hi
      · exact ih htail hi earlier hafter hlt
      · rcases List.mem_cons.mp hi with rfl | hi
        · omega
        · exact ih htail hi earlier hafter hlt

theorem mem_unique_first {i : Nat} (hi : i ∈ uniqueIndices candidates) : FirstOfAuthor candidates i := by
  have hmem := List.mem_of_mem_take hi
  obtain ⟨-, author, hauthor, -⟩ := mem_uniqueFrom rfl hmem
  refine ⟨author, hauthor, fun earlier hlt => ?_⟩
  rw [← hauthor]
  exact unique_first rfl hmem earlier (Nat.zero_le earlier) hlt

theorem exists_first {i : Nat} {author : String} (hauthor : authorAt candidates i = some author) :
    ∃ first, FirstOfAuthor candidates first ∧ authorAt candidates first = some author := by
  induction i using Nat.strong_induction_on with
  | _ i ih =>
    by_cases hearlier : ∃ earlier < i, authorAt candidates earlier = some author
    · obtain ⟨earlier, hlt, hsame⟩ := hearlier
      exact ih earlier hlt hsame
    · push Not at hearlier
      exact ⟨i, ⟨author, hauthor, hearlier⟩, hauthor⟩

theorem authors_le_unique (hfew : FewAuthors candidates) {selected : List Nat}
    (hrange : ∀ i ∈ selected, i < candidates.length)
    (hauthors : (selected.map (authorAt candidates)).Nodup) :
    selected.length ≤ (uniqueIndices candidates).length := by
  have hsub : selected.map (authorAt candidates) ⊆
      (uniqueIndices candidates).map (authorAt candidates) := by
    intro author hauthor
    obtain ⟨i, hi, rfl⟩ := List.mem_map.mp hauthor
    obtain ⟨candidate, hget⟩ : ∃ candidate, candidates[i]? = some candidate :=
      ⟨_, List.getElem?_eq_getElem (hrange i hi)⟩
    have hsome : authorAt candidates i = some candidate.indexed.document.authorId := by
      rw [authorAt, hget, Option.map_some]
    obtain ⟨first, hfirst, hsame⟩ := exists_first hsome
    rw [hsome, ← hsame]
    exact List.mem_map_of_mem (first_mem_unique hfew hfirst)
  simpa using (hauthors.subperm hsub).length_le

theorem arranged {selected : List Nat} (hnodup : selected.Nodup)
    (hsub : selected ⊆ uniqueIndices candidates) :
    ∃ xs : List Nat, xs.Sublist (uniqueIndices candidates) ∧ xs.Perm selected := by
  have hunique := List.Nodup.of_map _ (uniqueIndices_authors candidates)
  refine ⟨(uniqueIndices candidates).filter (· ∈ selected), List.filter_sublist, ?_⟩
  rw [List.perm_ext_iff_of_nodup (hunique.filter _) hnodup]
  intro i
  simp only [List.mem_filter, decide_eq_true_eq]
  exact ⟨fun h => h.2, fun h => ⟨hsub h, h⟩⟩

end Authors

section Completeness

-- a selection of best ranked candidates, which are all the search looks at
def FeasibleFirst (candidates : List Candidate) (requested budget : Nat) : Prop :=
  ∃ selected, Safe candidates requested (some budget) selected ∧ selected.length = requested ∧
    ∀ i ∈ selected, FirstOfAuthor candidates i

theorem completable_nil (hfew : FewAuthors candidates) :
    Completable candidates requested budget [] ↔ FeasibleFirst candidates requested budget := by
  constructor
  · rintro ⟨count, -, state, hstate, later, hlater, hlength, htotal⟩
    have hreached := statesAfter_reached [] count state hstate
    have hnil := List.sublist_nil.mp hreached.indices
    have hcount : count = 0 := by rw [← hreached.length, hnil, List.length_nil]
    rw [List.length_nil, List.drop_zero] at hlater
    have hnodup := (List.Nodup.of_map _ (uniqueIndices_authors candidates)).sublist hlater
    refine ⟨later, ⟨fun i hi => uniqueIndices_range (hlater.subset hi), hnodup,
      authors_of_subset hnodup hlater.subset, by omega, ?_⟩, by omega,
      fun i hi => mem_unique_first (hlater.subset hi)⟩
    intro b hb
    obtain rfl := Option.some.inj hb
    omega
  · rintro ⟨selected, hsafe, hlength, hfirst⟩
    obtain ⟨xs, hxs, hperm⟩ := arranged hsafe.distinct fun i hi => first_mem_unique hfew (hfirst i hi)
    have htotal : totalPrice candidates xs ≤ budget := by
      rw [totalPrice, (hperm.map _).sum_nat]
      exact hsafe.affordable budget rfl
    refine ⟨0, Nat.zero_le _, ⟨0, 0.0, []⟩, List.mem_singleton_self _, xs, hxs, ?_, ?_⟩
    · rw [Nat.zero_add, hperm.length_eq, hlength]
    · rwa [Nat.zero_add]

theorem select_unbudgeted (hfew : FewAuthors candidates) :
    (selectCandidateIndices candidates requested none).length = requested ↔
      Feasible candidates requested none := by
  constructor
  · exact fun hfull => ⟨_, select_safe candidates requested none, hfull⟩
  · rintro ⟨selected, hsafe, rfl⟩
    have hunique := List.Nodup.of_map _ (uniqueIndices_authors candidates)
    have hmany := authors_le_unique hfew hsafe.inRange hsafe.authors
    have hlength := @chooseWithout_length candidates _ hunique selected.length _
      List.nodup_nil (List.nil_subset _) (by simpa using hmany)
    rwa [List.length_nil, Nat.zero_add] at hlength

theorem select_budgeted (hfew : FewAuthors candidates) :
    (selectCandidateIndices candidates requested (some budget)).length = requested ↔
      FeasibleFirst candidates requested budget ∧ KeepsOne candidates requested budget := by
  rw [← completable_end, ← completable_nil hfew]
  constructor
  · intro hend
    exact ⟨completable_leading hend (List.nil_prefix), fun prior index hprior _ =>
      completable_leading hend hprior⟩
  · rintro ⟨hstart, hkeeps⟩
    exact completable_run hstart hkeeps (List.prefix_refl _)

-- within a budget the set is one of first listed candidates and no lossy round takes the last
-- selection that could still be filled; no round is lossy while there are few selections
theorem select_complete_iff :
    (∀ candidates requested, FewAuthors candidates →
      ((selectCandidateIndices candidates requested none).length = requested ↔
        Feasible candidates requested none)) ∧
    (∀ candidates requested budget, FewAuthors candidates →
      ((selectCandidateIndices candidates requested (some budget)).length = requested ↔
        FeasibleFirst candidates requested budget ∧ KeepsOne candidates requested budget)) ∧
    ∀ candidates requested budget, FewAuthors candidates → Scored candidates →
      Narrow candidates requested →
      ((selectCandidateIndices candidates requested (some budget)).length = requested ↔
        FeasibleFirst candidates requested budget) := by
  refine ⟨fun _ _ => select_unbudgeted, fun _ _ _ => select_budgeted, ?_⟩
  intro candidates requested budget hfew hscored hnarrow
  rw [select_budgeted hfew, and_iff_left (keepsOne_of_narrow hscored hnarrow)]

end Completeness

section Sample

def sampleCandidate (author : String) (price : Nat) (score : Float32) : Candidate where
  indexed := ⟨⟨author, author, author, "", "", "", "", [], price, 0, 1, 1, false, none⟩, [], []⟩
  score := score
  breakdown := ⟨0, 0, 0, 0, 0⟩

def sampleCandidates : List Candidate :=
  [sampleCandidate "a" 90 3, sampleCandidate "b" 50 2, sampleCandidate "b" 10 2, sampleCandidate "c" 40 1]

theorem sample_unique : uniqueIndices sampleCandidates = [0, 1, 3] := by decide

theorem sample_numeric : Scored sampleCandidates := by
  have hall : ∀ indices ∈ [0, 1, 3].sublists, negativeInfinity < utilityOf sampleCandidates indices := by
    decide +kernel
  intro indices hindices
  rw [sample_unique] at hindices
  exact hall indices (List.mem_sublists.mpr hindices)

theorem sample_narrow : Narrow sampleCandidates 2 := by
  rw [Narrow, sample_unique]
  decide

theorem select_complete_iff_sample :
    (selectCandidateIndices sampleCandidates 3 none).length = 3 ∧
      (selectCandidateIndices sampleCandidates 2 (some 100)).length = 2 ∧
      (selectCandidateIndices sampleCandidates 2 (some 90)).length = 2 := by
  have hfew : FewAuthors sampleCandidates := by decide
  have hfirst (budget : Nat) (hbudget : 90 ≤ budget) : FeasibleFirst sampleCandidates 2 budget := by
    refine ⟨[1, 3], ⟨by decide, by decide, by decide, by decide, ?_⟩, rfl, fun i hi => ?_⟩
    · rintro _ ⟨rfl⟩
      exact hbudget
    · apply mem_unique_first
      rw [sample_unique]
      simp only [List.mem_cons, List.not_mem_nil, or_false] at hi ⊢
      omega
  have hkeeps : KeepsOne sampleCandidates 2 100 := keepsOne_of_narrow sample_numeric sample_narrow
  refine ⟨(select_complete_iff.1 _ _ hfew).mpr ⟨[0, 1, 3], ?_, rfl⟩,
    (select_complete_iff.2.1 _ _ _ hfew).mpr ⟨hfirst 100 (by decide), hkeeps⟩,
    (select_complete_iff.2.2 _ _ _ hfew sample_numeric sample_narrow).mpr (hfirst 90 le_rfl)⟩
  exact ⟨by decide, by decide, by decide, by decide, nofun⟩

variable {k c : Nat} {xs : List Nat}

def crowdMember (k : Nat) : Candidate :=
  sampleCandidate (toString k) (100000 + 2 ^ k) (Float32.ofNat (2048 + 2 ^ k))

-- sixteen candidates, the dearer the better, and a cheap seventeenth
def crowd : List Candidate := (List.range 16).map crowdMember ++ [sampleCandidate "cheap" 80000 1]

def crowdState (c : Nat) (xs : List Nat) : SelectionState :=
  ⟨100000 * c + weight xs, if c = 0 then 0.0 else Float32.ofNat (2048 * c + weight xs), xs⟩

theorem crowdState_succ (c : Nat) (xs : List Nat) : crowdState (c + 1) xs =
    ⟨100000 * (c + 1) + weight xs, Float32.ofNat (2048 * (c + 1) + weight xs), xs⟩ := by
  rw [crowdState, if_neg (Nat.succ_ne_zero c)]

theorem crowd_get (hk : k < 16) : crowd[k]? = some (crowdMember k) := by
  rw [crowd, List.getElem?_append_left (by simpa using hk), List.getElem?_map,
    List.getElem?_range hk, Option.map_some]

theorem crowd_terms (k : Nat) : termsAt crowd k = [] := by
  cases hget : crowd[k]? with
  | none => rw [termsAt, hget]; rfl
  | some candidate =>
    rw [termsAt, hget, Option.map_some, Option.getD_some]
    rcases List.mem_append.mp (List.mem_of_getElem? hget) with hmem | hmem
    · obtain ⟨i, -, rfl⟩ := List.mem_map.mp hmem
      rfl
    · obtain rfl := List.mem_singleton.mp hmem
      rfl

theorem crowd_price (hk : k < 16) : priceAt crowd k = 100000 + 2 ^ k := by
  rw [priceAt, crowd_get hk]
  rfl

theorem crowd_redundancy (k : Nat) (chosen : List Nat) :
    (chosen.map fun other => jaccard (termsAt crowd k) (termsAt crowd other)).foldl Single.max 0.0 = 0.0 := by
  induction chosen with
  | nil => rfl
  | cons other chosen ih =>
    rw [List.map_cons, List.foldl_cons, crowd_terms k, crowd_terms other]
    rw [crowd_terms k] at ih
    exact ih

theorem pow_le_of_lt (hk : k < 16) : 2 ^ k ≤ 2 ^ 15 := Nat.pow_le_pow_right (by decide) (by omega)

theorem crowd_utility (hk : k < 16) (chosen : List Nat) :
    marginalUtility crowd k chosen = Float32.ofNat (2048 + 2 ^ k) := by
  have hpos := Nat.two_pow_pos k
  have hpow := pow_le_of_lt hk
  have hscore : scoreAt crowd k = Float32.ofNat (2048 + 2 ^ k) := by
    rw [scoreAt, crowd_get hk]
    rfl
  have hzero : ((0.0 : Float32) * 0.18).toModel.unpack = .zero .positive := rfl
  rw [marginalUtility, crowd_redundancy, hscore]
  exact Single.ofNat_sub_zero (by omega) (by omega) hzero

theorem choices_bound (hk : k ≤ 16) (hxs : xs ∈ choices k c) : weight xs < 2 ^ 16 :=
  (choices_weight hxs).trans_le (Nat.pow_le_pow_right (by decide) hk)

theorem crowd_extend (hk : k < 16) (hc : c < 3) (hxs : xs ∈ choices k c) :
    extendState crowd 380007 k (crowdState c xs) = some (crowdState (c + 1) (xs ++ [k])) := by
  have hweight := choices_weight hxs
  have hpos := Nat.two_pow_pos k
  have hpow := pow_le_of_lt hk
  have hspent : 100000 * c + weight xs + priceAt crowd k = 100000 * (c + 1) + weight (xs ++ [k]) := by
    rw [crowd_price hk, weight_append]
    omega
  have hutility : (crowdState c xs).utility + Float32.ofNat (2048 + 2 ^ k) =
      Float32.ofNat (2048 * (c + 1) + weight (xs ++ [k])) := by
    rw [weight_append]
    cases c with
    | zero =>
      obtain rfl : xs = [] := by
        cases k <;> exact List.mem_singleton.mp hxs
      have hfirst : 2048 * (0 + 1) + (weight [] + 2 ^ k) = 2048 + 2 ^ k := by simp [weight]
      rw [hfirst]
      exact Single.zero_add_ofNat (by omega) (by omega)
    | succ c =>
      have hsum : 2048 * (c + 1 + 1) + (weight xs + 2 ^ k) =
          2048 * (c + 1) + weight xs + (2048 + 2 ^ k) := by omega
      rw [crowdState_succ, hsum]
      exact Single.ofNat_add (by omega) (by omega) (by omega)
  have hfits : 100000 * (c + 1) + weight (xs ++ [k]) ≤ 380007 := by
    rw [weight_append]
    omega
  have hstate : extendState crowd 380007 k (crowdState c xs) =
      if 100000 * c + weight xs + priceAt crowd k ≤ 380007 then
        some ⟨100000 * c + weight xs + priceAt crowd k,
          (crowdState c xs).utility + marginalUtility crowd k xs, xs ++ [k]⟩
      else none := rfl
  rw [hstate, hspent, if_pos hfits, crowd_utility hk, hutility, crowdState_succ]

theorem crowd_outdone {ys : List Nat} (hxs : weight xs < weight ys) (hys : weight ys < 2 ^ 16)
    (hc : c < 3) : Outdone (crowdState (c + 1) xs) (crowdState (c + 1) ys) where
  dearer := Nat.add_lt_add_left hxs _
  better := by
    have hsmall := @Single.ofNat_add_small (2048 * (c + 1) + weight xs) (by omega) (by omega)
    have hless := @Single.ofNat_lt (2048 * (c + 1) + weight xs) (2048 * (c + 1) + weight ys)
      (by omega) (by omega) (by omega)
    rw [← hsmall] at hless
    exact hless
  ranked := Single.totalKey_ofNat_lt (by omega) (by omega) (by omega)

theorem crowd_graded (hk : k ≤ 16) (hc : c < 3) :
    ((choices k (c + 1)).map (crowdState (c + 1))).Pairwise Outdone := by
  refine List.pairwise_map.mpr ((choices_sorted k (c + 1)).imp_of_mem fun _ hys hlt => ?_)
  exact crowd_outdone hlt (choices_bound hk hys) hc

theorem crowd_numeric (hk : k ≤ 16) (hc : c < 3) :
    ∀ s ∈ (choices k (c + 1)).map (crowdState (c + 1)), negativeInfinity < s.utility := by
  intro s hs
  obtain ⟨xs, hxs, rfl⟩ := List.mem_map.mp hs
  have hbound := choices_bound hk hxs
  have hpos : 0 < 2048 * (c + 1) + weight xs := by omega
  have hvalue : (crowdState (c + 1) xs).utility.toModel.unpack = Single.whole _ hpos :=
    Single.unpack_ofNat hpos (by omega)
  rw [Single.lt_iff, hvalue]
  rfl

theorem crowd_offered (hk : k < 16) (hc : c < 3) (hbuckets : ∀ c < 4,
      (statesAfter crowd 4 380007 (List.range k)).getD c [] = (choices k c).map (crowdState c)) :
    offered crowd 380007 k c (statesAfter crowd 4 380007 (List.range k)) =
      (choices (k + 1) (c + 1)).map (crowdState (c + 1)) := by
  have hextended : ((choices k c).map (crowdState c)).filterMap (extendState crowd 380007 k) =
      ((choices k c).map (· ++ [k])).map (crowdState (c + 1)) := by
    rw [List.filterMap_map, List.map_map, ← List.filterMap_eq_map]
    refine List.filterMap_congr fun xs hxs => ?_
    exact crowd_extend hk hc hxs
  rw [offered, hbuckets (c + 1) (by omega), hbuckets c (by omega), hextended, ← List.map_append]
  rfl

theorem choose_narrow : ∀ k < 16, ∀ c < 4, k.choose c ≤ 512 := by decide

-- up to the fifteenth member every partial selection is kept
theorem crowd_buckets (hk : k < 16) : ∀ c < 4,
    (statesAfter crowd 4 380007 (List.range k)).getD c [] = (choices k c).map (crowdState c) := by
  induction k with
  | zero =>
    intro c hc
    match c, hc with
    | 0, _ => rfl
    | 1, _ => rfl
    | 2, _ => rfl
    | 3, _ => rfl
  | succ k ih =>
    intro c hc
    rw [List.range_succ, statesAfter_append]
    cases c with
    | zero =>
      rw [addIndex_zero (statesAfter_length _), ih (by omega) 0 (by omega)]
      cases k <;> rfl
    | succ c =>
      rw [addIndex_succ (statesAfter_length _) (by omega), crowd_offered (by omega) (by omega) (ih (by omega))]
      refine prune_graded (crowd_numeric hk.le (by omega)) (crowd_graded hk.le (by omega)) ?_
      rw [List.length_map, choices_length]
      exact choose_narrow (k + 1) hk (c + 1) hc

-- the sixteenth pushes out the cheapest three
theorem crowd_dear {state : SelectionState}
    (h : state ∈ (statesAfter crowd 4 380007 (List.range 16)).getD 3 []) : 300007 < state.spent := by
  have hhead : (choices 16 3).head? = some [0, 1, 2] := by decide +kernel
  have hsplit : (choices 16 3).map (crowdState 3) =
      crowdState 3 [0, 1, 2] :: (choices 16 3).tail.map (crowdState 3) := by
    rw [← List.map_cons, ← List.eq_cons_of_mem_head? hhead]
  have hbucket : (statesAfter crowd 4 380007 (List.range 16)).getD 3 [] =
      pruneStates (crowdState 3 [0, 1, 2] :: (choices 16 3).tail.map (crowdState 3)) := by
    rw [List.range_succ, statesAfter_append, addIndex_succ (statesAfter_length _) (by decide),
      crowd_offered (by decide) (by decide) (crowd_buckets (by decide)), hsplit]
  have hnumber : ∀ s ∈ crowdState 3 [0, 1, 2] :: (choices 16 3).tail.map (crowdState 3),
      negativeInfinity < s.utility := by
    rw [← hsplit]
    exact crowd_numeric le_rfl (by decide)
  have hgraded : (crowdState 3 [0, 1, 2] :: (choices 16 3).tail.map (crowdState 3)).Pairwise Outdone := by
    rw [← hsplit]
    exact crowd_graded le_rfl (by decide)
  have hlength : 512 ≤ ((choices 16 3).tail.map (crowdState 3)).length := by
    rw [List.length_map, List.length_tail, choices_length]
    decide
  rw [hbucket] at h
  have hcut := prune_crowded hnumber hgraded hlength
  rcases List.mem_cons.mp (mem_pruneStates h) with rfl | hother
  · exact absurd h hcut
  · exact ((List.pairwise_cons.mp hgraded).1 state hother).dearer

theorem crowd_total (hxs : ∀ i ∈ xs, i < 16) : 100000 * xs.length ≤ totalPrice crowd xs := by
  induction xs with
  | nil => exact Nat.zero_le _
  | cons i xs ih =>
    have hpos := Nat.two_pow_pos i
    have hrest := ih fun j hj => hxs j (List.mem_cons_of_mem i hj)
    rw [totalPrice_cons, crowd_price (hxs i List.mem_cons_self), List.length_cons]
    omega

-- only the cheapest three leave enough for the seventeenth
theorem crowd_unfilled : (selectCandidateIndices crowd 4 (some 380007)).length ≠ 4 := by
  have hunique : uniqueIndices crowd = List.range 17 := by decide +kernel
  have hlast : priceAt crowd 16 = 80000 := rfl
  intro hfull
  have hend := completable_end.mpr hfull
  have hprefix : List.range 16 <+: uniqueIndices crowd := hunique ▸ ⟨[16], rfl⟩
  obtain ⟨count, -, state, hstate, later, hlater, hlength, htotal⟩ := completable_leading hend hprefix
  rw [hunique] at hlater
  have hrest : later.Sublist [16] := hlater
  have hreached := statesAfter_reached _ count state hstate
  have hspent := crowd_total fun i hi => List.mem_range.mp (hreached.indices.subset hi)
  rw [hreached.length, ← hreached.spent] at hspent
  rcases List.sublist_singleton.mp hrest with rfl | rfl
  · rw [List.length_nil] at hlength
    omega
  · obtain rfl : count = 3 := by
      rw [List.length_singleton] at hlength
      omega
    have hcheapest := crowd_dear hstate
    rw [totalPrice_cons, hlast] at htotal
    omega

def twiceListed : List Candidate := [sampleCandidate "a" 100 2, sampleCandidate "a" 10 1]

def unscored : List Candidate := [sampleCandidate "a" 10 (.ofBits 0x7fc00000)]

theorem select_incomplete :
    ¬Complete twiceListed 1 (some 50) ∧ ¬Complete unscored 1 (some 50) ∧
      ¬Complete crowd 4 (some 380007) := by
  refine ⟨fun h => ?_, fun h => ?_, fun h => ?_⟩
  · have hfew : FewAuthors twiceListed := by decide
    have hfeasible : Feasible twiceListed 1 (some 50) :=
      ⟨[1], ⟨by decide, by decide, by decide, by decide, by simp; decide⟩, rfl⟩
    exact absurd (h hfew hfeasible) (by decide +kernel)
  · have hfew : FewAuthors unscored := by decide
    have hfeasible : Feasible unscored 1 (some 50) :=
      ⟨[0], ⟨by decide, by decide, by decide, by decide, by simp; decide⟩, rfl⟩
    exact absurd (h hfew hfeasible) (by decide +kernel)
  · have hfew : FewAuthors crowd := by decide +kernel
    have hfeasible : Feasible crowd 4 (some 380007) :=
      ⟨[0, 1, 2, 16], ⟨by decide, by decide, by decide +kernel, by decide, by simp; decide +kernel⟩, rfl⟩
    exact crowd_unfilled (h hfew hfeasible)

end Sample

end Obulus.Search
