import Mathlib.Data.List.Count
import Obulus.Generation.Sweep

namespace Obulus.Generation

open Foundation Store

section Readiness

def Attempt.budgetKey (a : Attempt) : String × String × Nat :=
  (a.artifactKind, a.scopeId, a.windowStartedAt)

def GenerationDocument.attemptKey (d : GenerationDocument) : String × String × String :=
  (d.artifactKind, d.scopeId, d.inputHash)

def Database.attemptsOf (db : Database) (key : String × String × Nat) : Nat :=
  db.attempts.rows.countP fun a => decide (a.budgetKey = key)

def recoveryScheduleClockSkewMs : Nat := 60 * 1000

variable (db : Database) (clock : Nat)

def invalidBudget (b : Budget) : Bool :=
  decide (aiGenerationAttemptLimit b.artifactKind = none ∨
    (aiGenerationAttemptLimit b.artifactKind).getD 0 < b.attemptsUsed ∨
    clock < b.windowStartedAt ∨ b.attemptsUsed ≠ db.attemptsOf b.key)

def invalidAttempt (a : Attempt) : Bool :=
  decide (aiGenerationAttemptLimit a.artifactKind = none ∨
    a.claimedAt < a.windowStartedAt ∨ clock < a.claimedAt ∨
    (a.status = .started ∧ (a.completedAt ≠ none ∨ a.responseJson ≠ none)) ∨
    (a.status ≠ .started ∧ a.completedAt.all
      (fun time => decide (time < a.claimedAt ∨ clock < time)) = true) ∨
    (a.artifactKind = "synthesis" ∧ a.status = .completed ∧ a.responseJson = none) ∨
    (a.artifactKind ≠ "synthesis" ∧ a.responseJson ≠ none) ∨
    (a.artifactKind = "synthesis" ∧
      db.generationDocuments.rows.any (fun d => decide (d.attemptKey = a.key)) = false) ∨
    (db.budgets.get? a.budgetKey).isNone = true)

def invalidDocument (d : GenerationDocument) : Bool :=
  decide ((db.attempts.get? d.attemptKey).isNone = true ∨
    db.documents.rows.any
      (fun s => decide (s.handle = d.documentHandle ∧ s.authorId = d.authorId)) = false)

def aiGenerationInvalid : Bool :=
  db.budgets.rows.any (invalidBudget db clock) || db.attempts.rows.any (invalidAttempt db clock) ||
    db.generationDocuments.rows.any (invalidDocument db)

-- the part of `ready` about the generation tables
def generationReady (now : Nat) : Except StoreError Unit := do
  let limit ← asI64 (saturatingAdd now recoveryScheduleClockSkewMs)
  reject (aiGenerationInvalid db limit = true)
    (.conflict "AI provider generation fence or budget is inconsistent")

end Readiness

section Deletion

variable (db : Database) (now : Nat) (userId : String)

def aiGenerationInFlightMaxMs : Nat := 30 * 1000

def authored (a : Attempt) : Bool :=
  db.generationDocuments.rows.any fun d => decide (d.attemptKey = a.key ∧ d.authorId = userId)

def activeAiGeneration (cutoff : Nat) : Bool :=
  db.attempts.rows.any fun a =>
    authored db userId a && decide (a.status = .started ∧ cutoff < a.claimedAt)

def aiGenerationCleanup : List Identity :=
  (db.attempts.rows.filter (authored db userId)).map Attempt.identity

def cleanGeneration (db : Database) : Identity → Database
  | (artifactKind, scopeId, inputHash, windowStartedAt) =>
    let attempts := db.attempts.delete fun a =>
      decide (a.identity = (artifactKind, scopeId, inputHash, windowStartedAt))
    let key := (artifactKind, scopeId, windowStartedAt)
    let used := attempts.rows.countP fun a => decide (a.budgetKey = key)
    { db with
      generationDocuments := db.generationDocuments.delete fun d =>
        decide (d.attemptKey = (artifactKind, scopeId, inputHash))
      attempts := attempts
      budgets := (db.budgets.update (fun b => decide (b.key = key))
          (fun b => { b with attemptsUsed := used }) (fun _ => rfl)).delete
        fun b => decide (b.key = key ∧ b.attemptsUsed = 0) }

def deleteContributor (db : Database) : Database :=
  { db with
    documents := db.documents.delete fun s => decide (s.authorId = userId)
    attempts := db.attempts.delete fun a =>
      decide (a.artifactKind = "shelf_starters" ∧ a.scopeId = userId)
    budgets := db.budgets.delete fun b =>
      decide (b.artifactKind = "shelf_starters" ∧ b.scopeId = userId) }

-- `others` is what the rest of the transaction answers
def deleteAccount (cleanup : List Identity) (others : Except StoreError Unit) :
    Except StoreError Database := do
  let cutoff ← asI64 (now - aiGenerationInFlightMaxMs)
  reject (activeAiGeneration db userId cutoff = true)
    (.conflict "wait for active paid synthesis before deleting the contributor account")
  others
  return deleteContributor userId (cleanup.foldl cleanGeneration db)

end Deletion

variable {db db' : Database} {ids ids' : List Identity} {budgets budgets' : List Budget}
  {generated generated' : List GenerationDocument} {a : Attempt} {t u clock now window limit : Nat}
  {artifactKind scopeId inputHash userId : String} {documentHandles : List String}
  {documents : List (String × String)} {result : AiGenerationClaim} {b : Budget}

section Consistency

def Identity.budget (i : Identity) : String × String × Nat := (i.1, i.2.1, i.2.2.2)

def Identity.input (i : Identity) : String × String × String := (i.1, i.2.1, i.2.2.1)

structure Attempt.Sound (a : Attempt) (clock : Nat) : Prop where
  window : a.windowStartedAt ≤ a.claimedAt
  claimed : a.claimedAt ≤ clock
  started : a.status = .started → a.completedAt = none ∧ a.responseJson = none
  finished : a.status ≠ .started → ∃ time, a.completedAt = some time ∧ a.claimedAt ≤ time ∧ time ≤ clock
  answered : a.artifactKind = "synthesis" → a.status = .completed → a.responseJson ≠ none
  plain : a.artifactKind ≠ "synthesis" → a.responseJson = none

-- what the budgets, the attempts and the documents they read say of one another
structure Sheet (ids : List Identity) (budgets : List Budget) (generated : List GenerationDocument)
    (clock : Nat) : Prop where
  limited : ∀ b ∈ budgets, ∃ limit, aiGenerationAttemptLimit b.artifactKind = some limit ∧
    b.attemptsUsed ≤ limit
  opened : ∀ b ∈ budgets, b.windowStartedAt ≤ clock
  counted : ∀ b ∈ budgets, b.attemptsUsed = ids.countP fun i => decide (i.budget = b.key)
  budgeted : ∀ i ∈ ids, ∃ b ∈ budgets, b.key = i.budget
  sourced : ∀ i ∈ ids, i.1 = "synthesis" → ∃ d ∈ generated, d.attemptKey = i.input
  claimed : ∀ d ∈ generated, ∃ i ∈ ids, i.input = d.attemptKey
  checked : ∀ d ∈ generated, d.artifactKind = "synthesis"

structure Consistent (db : Database) (clock : Nat) : Prop where
  sound : ∀ a ∈ db.attempts.rows, a.Sound clock
  sheet : Sheet db.identities db.budgets.rows db.generationDocuments.rows clock
  written : ∀ d ∈ db.generationDocuments.rows, ∃ s ∈ db.documents.rows,
    s.handle = d.documentHandle ∧ s.authorId = d.authorId

theorem attemptsOf_identities {key : String × String × Nat} :
    db.attemptsOf key = db.identities.countP fun i => decide (i.budget = key) := by
  rw [Database.attemptsOf, Database.identities, List.countP_map]
  rfl

theorem Attempt.Sound.later (h : a.Sound t) (htu : t ≤ u) : a.Sound u := by
  refine ⟨h.window, h.claimed.trans htu, h.started, ?_, h.answered, h.plain⟩
  intro hstatus
  obtain ⟨time, hcompleted, hclaimed, htime⟩ := h.finished hstatus
  exact ⟨time, hcompleted, hclaimed, htime.trans htu⟩

theorem Sheet.later (h : Sheet ids budgets generated t) (htu : t ≤ u) :
    Sheet ids budgets generated u :=
  { h with opened := fun b hb => (h.opened b hb).trans htu }

theorem Consistent.later (h : Consistent db t) (htu : t ≤ u) : Consistent db u :=
  ⟨fun a ha => (h.sound a ha).later htu, h.sheet.later htu, h.written⟩

theorem Consistent.within (h : Consistent db clock) {kind scope : String} :
    db.attemptsOf (kind, scope, window) ≤ (aiGenerationAttemptLimit kind).getD 0 := by
  rw [attemptsOf_identities]
  by_cases hpos : 0 < db.identities.countP fun i => decide (i.budget = (kind, scope, window))
  · obtain ⟨i, hi, hkey⟩ := List.countP_pos_iff.mp hpos
    obtain ⟨b, hb, hbudget⟩ := h.sheet.budgeted i hi
    rw [of_decide_eq_true hkey] at hbudget
    obtain ⟨limit, hlimit, hused⟩ := h.sheet.limited b hb
    rw [h.sheet.counted b hb, hbudget] at hused
    simp only [Budget.key, Prod.mk.injEq] at hbudget
    rw [hbudget.1] at hlimit
    rwa [hlimit]
  · omega

theorem validBudget_iff : invalidBudget db clock b = false ↔
    (∃ limit, aiGenerationAttemptLimit b.artifactKind = some limit ∧ b.attemptsUsed ≤ limit) ∧
      b.windowStartedAt ≤ clock ∧
      b.attemptsUsed = db.identities.countP fun i => decide (i.budget = b.key) := by
  rw [invalidBudget, decide_eq_false_iff_not, attemptsOf_identities]
  cases hlimit : aiGenerationAttemptLimit b.artifactKind with
  | none => simp
  | some limit => simp [not_or]

theorem validAttempt_iff : invalidAttempt db clock a = false ↔
    aiGenerationAttemptLimit a.artifactKind ≠ none ∧ a.Sound clock ∧
      (a.artifactKind = "synthesis" →
        ∃ d ∈ db.generationDocuments.rows, d.attemptKey = a.identity.input) ∧
      ∃ b ∈ db.budgets.rows, b.key = a.identity.budget := by
  have hdocument : (db.generationDocuments.rows.any fun d => decide (d.attemptKey = a.key)) = false ↔
      ¬∃ d ∈ db.generationDocuments.rows, d.attemptKey = a.identity.input := by
    rw [List.any_eq_false]
    simp only [decide_eq_true_eq, not_exists, not_and]
    rfl
  have hbudget : (db.budgets.get? a.budgetKey).isNone = true ↔
      ¬∃ b ∈ db.budgets.rows, b.key = a.identity.budget := by
    rw [Option.isNone_iff_eq_none, Table.get?_eq_none]
    simp only [not_exists, not_and]
    rfl
  have hfinished : (a.completedAt.all fun time => decide (time < a.claimedAt ∨ clock < time)) = true ↔
      ¬∃ time, a.completedAt = some time ∧ a.claimedAt ≤ time ∧ time ≤ clock := by
    cases a.completedAt with
    | none => simp
    | some time => simp; omega
  rw [invalidAttempt, decide_eq_false_iff_not, hdocument, hbudget, hfinished]
  simp only [not_or, not_and, not_not, not_lt]
  constructor
  · rintro ⟨hkind, hwindow, hclaimed, hstarted, hdone, hanswered, hplain, hsource, hspent⟩
    exact ⟨hkind, ⟨hwindow, hclaimed, hstarted, hdone, hanswered, hplain⟩, hsource, hspent⟩
  · rintro ⟨hkind, h, hsource, hspent⟩
    exact ⟨hkind, h.window, h.claimed, h.started, h.finished, h.answered, h.plain, hsource, hspent⟩

theorem validDocument_iff {d : GenerationDocument} : invalidDocument db d = false ↔
    (∃ i ∈ db.identities, i.input = d.attemptKey) ∧
      ∃ s ∈ db.documents.rows, s.handle = d.documentHandle ∧ s.authorId = d.authorId := by
  have hattempt : (db.attempts.get? d.attemptKey).isNone = true ↔
      ¬∃ i ∈ db.identities, i.input = d.attemptKey := by
    rw [Option.isNone_iff_eq_none, Table.get?_eq_none]
    simp only [Database.identities, List.mem_map, not_exists, not_and, forall_exists_index, and_imp,
      forall_apply_eq_imp_iff₂]
    rfl
  have hdocument : (db.documents.rows.any fun s =>
        decide (s.handle = d.documentHandle ∧ s.authorId = d.authorId)) = false ↔
      ¬∃ s ∈ db.documents.rows, s.handle = d.documentHandle ∧ s.authorId = d.authorId := by
    rw [List.any_eq_false]
    simp only [decide_eq_true_eq, not_exists, not_and]
  rw [invalidDocument, decide_eq_false_iff_not, hattempt, hdocument, not_or, not_not, not_not]

theorem consistent_iff : Consistent db clock ↔ aiGenerationInvalid db clock = false ∧
    ∀ d ∈ db.generationDocuments.rows, d.artifactKind = "synthesis" := by
  simp only [aiGenerationInvalid, Bool.or_eq_false_iff, List.any_eq_false, Bool.not_eq_true,
    validBudget_iff, validAttempt_iff, validDocument_iff]
  constructor
  · intro h
    refine ⟨⟨⟨fun b hb => ⟨h.sheet.limited b hb, h.sheet.opened b hb, h.sheet.counted b hb⟩, ?_⟩, ?_⟩,
      h.sheet.checked⟩
    · intro a ha
      have hi : a.identity ∈ db.identities := List.mem_map_of_mem ha
      obtain ⟨b, hb, hkey⟩ := h.sheet.budgeted _ hi
      refine ⟨?_, h.sound a ha, h.sheet.sourced _ hi, b, hb, hkey⟩
      obtain ⟨limit, hlimit, -⟩ := h.sheet.limited b hb
      have hkind : b.artifactKind = a.artifactKind := congrArg Prod.fst hkey
      rw [← hkind, hlimit]
      exact Option.some_ne_none limit
    · intro d hd
      exact ⟨h.sheet.claimed d hd, h.written d hd⟩
  · rintro ⟨⟨⟨hbudgets, hattempts⟩, hdocuments⟩, hchecked⟩
    have hids : ∀ i ∈ db.identities, (i.1 = "synthesis" →
        ∃ d ∈ db.generationDocuments.rows, d.attemptKey = i.input) ∧
          ∃ b ∈ db.budgets.rows, b.key = i.budget := by
      intro i hi
      obtain ⟨a, ha, rfl⟩ := List.mem_map.mp hi
      exact (hattempts a ha).2.2
    exact {
      sound := fun a ha => (hattempts a ha).2.1
      sheet := {
        limited := fun b hb => (hbudgets b hb).1
        opened := fun b hb => (hbudgets b hb).2.1
        counted := fun b hb => (hbudgets b hb).2.2
        budgeted := fun i hi => (hids i hi).2
        sourced := fun i hi => (hids i hi).1
        claimed := fun d hd => (hdocuments d hd).1
        checked := hchecked }
      written := fun d hd => (hdocuments d hd).2 }

end Consistency

section Claiming

def mapping (scopeId inputHash : String) (document : String × String) : GenerationDocument :=
  ⟨"synthesis", scopeId, inputHash, document.1, document.2⟩

theorem mapM_eq_ok {α β ε : Type} {f : α → Except ε β} {l : List α} {l' : List β}
    (h : l.mapM f = .ok l') : l'.length = l.length ∧ ∀ b ∈ l', ∃ a ∈ l, f a = .ok b := by
  induction l generalizing l' with
  | nil =>
    cases h
    exact ⟨rfl, by simp⟩
  | cons a l ih =>
    simp only [List.mapM_cons, bind_eq_ok, pure_eq_ok] at h
    obtain ⟨b, hb, rest, hrest, rfl⟩ := h
    obtain ⟨hlength, hall⟩ := ih hrest
    refine ⟨by simp [hlength], ?_⟩
    intro c hc
    rcases List.mem_cons.mp hc with rfl | hc
    · exact ⟨a, List.mem_cons_self, hb⟩
    · obtain ⟨a', ha', hfa⟩ := hall c hc
      exact ⟨a', List.mem_cons_of_mem _ ha', hfa⟩

theorem spend_get {t t' : Table Budget.key} {used : Nat}
    (ht : ∀ k, t.get? k = if (artifactKind, scopeId, window) = k
      then some ⟨artifactKind, scopeId, window, used⟩ else t'.get? k) (k : String × String × Nat) :
    (t.update (fun b => decide (b.key = (artifactKind, scopeId, window)))
        (fun b => { b with attemptsUsed := b.attemptsUsed + 1 }) fun _ => rfl).get? k =
      if (artifactKind, scopeId, window) = k
        then some ⟨artifactKind, scopeId, window, used + 1⟩ else t'.get? k := by
  refine Table.get?_update.trans ?_
  rw [ht]
  by_cases hk : (artifactKind, scopeId, window) = k
  · simp [hk, Budget.key]
  · simp only [hk, if_false]
    cases hother : t'.get? k with
    | none => rfl
    | some b =>
      have hkey := Table.get?_key hother
      simp [hkey, Ne.symm hk]

theorem spendBudget_effect (h : spendBudget db artifactKind scopeId window limit = some db') :
    ∃ t, { db with budgets := t } = db' ∧ ∃ used, used < limit ∧
      ((db.budgets.get? (artifactKind, scopeId, window)).elim 0 Budget.attemptsUsed = used) ∧
      ∀ k, t.get? k = if (artifactKind, scopeId, window) = k
        then some ⟨artifactKind, scopeId, window, used + 1⟩ else db.budgets.get? k := by
  simp only [spendBudget, Option.ite_none_right_eq_some, Option.some.injEq] at h
  obtain ⟨hleft, rfl⟩ := h
  refine ⟨_, rfl, ?_⟩
  cases hget : db.budgets.get? (artifactKind, scopeId, window) with
  | none =>
    have hput : ∀ k, (db.budgets.put ⟨artifactKind, scopeId, window, 0⟩).get? k =
        if (artifactKind, scopeId, window) = k then some ⟨artifactKind, scopeId, window, 0⟩
        else db.budgets.get? k := fun k => Table.get?_put
    simp only [hget, Option.isSome_none, Bool.false_eq_true, if_false, hput, if_true,
      Option.any_some, decide_eq_true_eq] at hleft ⊢
    exact ⟨0, hleft, rfl, spend_get hput⟩
  | some b =>
    have hkey : b.key = (artifactKind, scopeId, window) := Table.get?_key hget
    simp only [hget, Option.isSome_some, if_true, Option.any_some, decide_eq_true_eq] at hleft ⊢
    refine ⟨b.attemptsUsed, hleft, rfl, spend_get ?_⟩
    intro k
    split
    · next hk =>
      simp only [Budget.key, Prod.mk.injEq] at hkey
      obtain ⟨rfl, rfl, rfl⟩ := hkey
      rw [← hk, hget]
    · rfl

theorem insertDocuments_effect (h : documents.foldlM (insertGenerationDocument scopeId inputHash) db =
      .ok db') : ∃ t, { db with generationDocuments := t } = db' ∧
        t.rows = db.generationDocuments.rows ++ documents.map (mapping scopeId inputHash) := by
  induction documents generalizing db with
  | nil =>
    cases h
    exact ⟨_, rfl, by simp⟩
  | cons document documents ih =>
    simp only [List.foldlM_cons, bind_eq_ok, insertGenerationDocument, orReject_eq_ok,
      pure_eq_ok] at h
    obtain ⟨_, ⟨rows, hinsert, rfl⟩, h⟩ := h
    obtain ⟨t, rfl, ht⟩ := ih h
    refine ⟨t, rfl, ?_⟩
    rw [ht, (Table.insert?_eq_some.mp hinsert).2, List.append_assoc]
    rfl

theorem generationDocuments_found (hn : artifactKind = "synthesis" → documentHandles ≠ [])
    (h : generationDocumentsOf db artifactKind documentHandles = .ok documents) :
    (artifactKind = "synthesis" ↔ documents ≠ []) ∧
      ∀ d ∈ documents, ∃ s ∈ db.documents.rows, s.handle = d.1 ∧ s.authorId = d.2 := by
  simp only [generationDocumentsOf] at h
  split at h
  · next hkind =>
    simp only [bind_eq_ok, reject_eq_ok, exists_const] at h
    obtain ⟨-, unlocked, hunlocked, hlocked⟩ := h
    obtain ⟨hcount, hfound⟩ := mapM_eq_ok hunlocked
    obtain ⟨hlength, hall⟩ := mapM_eq_ok hlocked
    refine ⟨⟨fun _ => ?_, fun _ => hkind⟩, ?_⟩
    · rw [← List.length_pos_iff] at hn ⊢
      have hpos := hn hkind
      simp only [List.length_insertionSort, List.length_map] at hlength hcount
      omega
    · intro d hd
      obtain ⟨u, hu, hlock⟩ := hall d hd
      obtain ⟨handle, -, hfind⟩ := hfound u ((List.mem_insertionSort _).mp hu)
      simp only [unlockedDocument, orReject_eq_ok] at hfind
      simp only [lockedAuthor, bind_eq_ok, orReject_eq_ok, reject_eq_ok, exists_const, not_not,
        pure_eq_ok] at hlock
      obtain ⟨locked, -, hauthor, rfl⟩ := hlock
      exact ⟨u, List.mem_of_find?_eq_some hfind, rfl, hauthor.symm⟩
  · next hkind =>
    cases h
    simp [hkind]

-- what an acquired claim adds
structure Granted (db db' : Database) (now : Nat) (artifactKind scopeId inputHash : String)
    (documents : List (String × String)) : Prop where
  attempts : db'.attempts.rows = db.attempts.rows ++ [newAttempt now artifactKind scopeId inputHash]
  budgets : ∃ limit used, aiGenerationAttemptLimit artifactKind = some limit ∧ used < limit ∧
    ((db.budgets.get? (artifactKind, scopeId, windowOf now)).elim 0 Budget.attemptsUsed = used) ∧
    ∀ k, db'.budgets.get? k = if (artifactKind, scopeId, windowOf now) = k
      then some ⟨artifactKind, scopeId, windowOf now, used + 1⟩ else db.budgets.get? k
  mapped : db'.generationDocuments.rows =
    db.generationDocuments.rows ++ documents.map (mapping scopeId inputHash)
  needed : artifactKind = "synthesis" ↔ documents ≠ []
  found : ∀ d ∈ documents, ∃ s ∈ db.documents.rows, s.handle = d.1 ∧ s.authorId = d.2
  same : db'.documents = db.documents

theorem checkIdentity_handles (h : checkIdentity artifactKind scopeId inputHash documentHandles = .ok ())
    (hkind : artifactKind = "synthesis") : documentHandles ≠ [] := by
  simp only [checkIdentity, reject_eq_ok, not_or] at h
  obtain ⟨-, -, -, hhandles, -⟩ := h
  rintro rfl
  exact hhandles ⟨hkind, by simp⟩

theorem claim_effect
    (h : claimAiGeneration db now artifactKind scopeId inputHash documentHandles = .ok (result, db')) :
    db' = db ∨
      ∃ documents, Granted db db' now artifactKind (trim scopeId) (trim inputHash) documents := by
  simp only [claimAiGeneration, supportedLimit, bind_eq_ok, orReject_eq_ok] at h
  obtain ⟨limit, hlimit, _, hidentity, documents, hdocuments, h⟩ := h
  obtain ⟨hneeded, hfound⟩ := generationDocuments_found (checkIdentity_handles hidentity) hdocuments
  split at h
  · cases h
    exact .inl rfl
  · simp only [startAttempt, bind_eq_ok, reject_eq_ok, exists_const, asI64_eq_ok] at h
    obtain ⟨-, _, ⟨-, rfl⟩, _, ⟨-, rfl⟩, h⟩ := h
    split at h
    · simp only [bind_eq_ok, orReject_eq_ok, pure_eq_ok, Prod.mk.injEq] at h
      obtain ⟨_, -, -, rfl⟩ := h
      exact .inl rfl
    · next attempts hinsert =>
      split at h
      · cases h
        exact .inl rfl
      · next spent hspent =>
        simp only [bind_eq_ok, pure_eq_ok, Prod.mk.injEq] at h
        obtain ⟨_, hinserted, -, rfl⟩ := h
        obtain ⟨t, rfl, hmapped⟩ := insertDocuments_effect hinserted
        obtain ⟨budgets, rfl, used, hless, hused, hbudgets⟩ := spendBudget_effect hspent
        exact .inr ⟨documents, {
          attempts := (Table.insert?_eq_some.mp hinsert).2
          budgets := ⟨limit, used, hlimit, hless, hused, hbudgets⟩
          mapped := hmapped
          needed := hneeded
          found := hfound
          same := rfl }⟩

end Claiming

section Steps

-- attempts taken out with what was mapped to them, and the budgets counted again
theorem Sheet.shrink (h : Sheet ids budgets generated clock) (hids : ∀ i ∈ ids', i ∈ ids)
    (hgenerated : ∀ d ∈ generated', d ∈ generated)
    (hkept : ∀ d ∈ generated', ∀ i ∈ ids, i.input = d.attemptKey → i ∈ ids')
    (hmapped : ∀ i ∈ ids', ∀ d ∈ generated, d.attemptKey = i.input → d ∈ generated')
    (hbudgets : ∀ b' ∈ budgets', (∃ b ∈ budgets, b.key = b'.key) ∧
      b'.attemptsUsed = ids'.countP fun i => decide (i.budget = b'.key))
    (hcount : ∀ key, (ids'.countP fun i => decide (i.budget = key)) ≤
      ids.countP fun i => decide (i.budget = key))
    (hbudgeted : ∀ i ∈ ids', ∃ b ∈ budgets', b.key = i.budget) :
    Sheet ids' budgets' generated' clock := by
  refine ⟨?_, ?_, fun b hb => (hbudgets b hb).2, hbudgeted, ?_, ?_,
    fun d hd => h.checked d (hgenerated d hd)⟩
  · intro b' hb'
    obtain ⟨⟨b, hb, hkey⟩, hused⟩ := hbudgets b' hb'
    obtain ⟨limit, hlimit, hle⟩ := h.limited b hb
    have hkind : b.artifactKind = b'.artifactKind := congrArg Prod.fst hkey
    refine ⟨limit, hkind ▸ hlimit, ?_⟩
    have hless := hcount b'.key
    rw [hused]
    rw [h.counted b hb, hkey] at hle
    exact hless.trans hle
  · intro b' hb'
    obtain ⟨⟨b, hb, hkey⟩, -⟩ := hbudgets b' hb'
    have hwindow : b.windowStartedAt = b'.windowStartedAt := congrArg (fun k => k.2.2) hkey
    exact hwindow ▸ h.opened b hb
  · intro i hi hkind
    obtain ⟨d, hd, hkey⟩ := h.sourced i (hids i hi) hkind
    exact ⟨d, hmapped i hi d hd hkey, hkey⟩
  · intro d hd
    obtain ⟨i, hi, hkey⟩ := h.claimed d (hgenerated d hd)
    exact ⟨i, hkept d hd i hi hkey, hkey⟩

theorem newAttempt_sound : (newAttempt now artifactKind scopeId inputHash).Sound now where
  window := Nat.sub_le _ _
  claimed := le_rfl
  started _ := ⟨rfl, rfl⟩
  finished h := absurd rfl h
  answered _ h := by cases h
  plain _ := rfl

theorem Consistent.granted (h : Consistent db clock) (hclock : clock ≤ now)
    (hgranted : Granted db db' now artifactKind scopeId inputHash documents) : Consistent db' now := by
  obtain ⟨hattempts, ⟨limit, used, hlimit, hless, hused, hbudgets⟩, hmapped, hneeded, hfound, hsame⟩ :=
    hgranted
  have hlater := h.later hclock
  have hids : db'.identities = db.identities ++ [(artifactKind, scopeId, inputHash, windowOf now)] := by
    rw [Database.identities, hattempts, List.map_append]
    rfl
  have hspent : used =
      db.identities.countP fun i => decide (i.budget = (artifactKind, scopeId, windowOf now)) := by
    cases hget : db.budgets.get? (artifactKind, scopeId, windowOf now) with
    | none =>
      rw [hget] at hused
      rw [← hused]
      refine (List.countP_eq_zero.mpr ?_).symm
      intro i hi hkey
      obtain ⟨b, hb, hbudget⟩ := h.sheet.budgeted i hi
      exact Table.get?_eq_none.mp hget b hb (hbudget.trans (of_decide_eq_true hkey))
    | some b =>
      rw [hget] at hused
      obtain ⟨hb, hkey⟩ := Table.get?_eq_some.mp hget
      rw [← hkey, ← h.sheet.counted b hb]
      exact hused.symm
  have hmember : ∀ b ∈ db'.budgets.rows,
      b = ⟨artifactKind, scopeId, windowOf now, used + 1⟩ ∨
        (b ∈ db.budgets.rows ∧ (artifactKind, scopeId, windowOf now) ≠ b.key) := by
    intro b hb
    have hget := Table.get?_of_mem hb
    rw [hbudgets] at hget
    split at hget
    · exact .inl (Option.some.inj hget).symm
    · next hne => exact .inr ⟨Table.get?_mem hget, hne⟩
  have hholds : ∀ key, key = (artifactKind, scopeId, windowOf now) ∨ (∃ b ∈ db.budgets.rows, b.key = key) →
      ∃ b ∈ db'.budgets.rows, b.key = key := by
    intro key hkey
    by_cases heq : (artifactKind, scopeId, windowOf now) = key
    · have hget := hbudgets key
      rw [if_pos heq] at hget
      exact ⟨_, Table.get?_mem hget, heq⟩
    · obtain ⟨b, hb, rfl⟩ := hkey.resolve_left fun h => heq h.symm
      have hget := hbudgets b.key
      rw [if_neg heq, Table.get?_of_mem hb] at hget
      exact ⟨b, Table.get?_mem hget, rfl⟩
  refine ⟨?_, ⟨?_, ?_, ?_, ?_, ?_, ?_, ?_⟩, ?_⟩
  · intro a ha
    rw [hattempts] at ha
    rcases List.mem_append.mp ha with ha | ha
    · exact hlater.sound a ha
    · obtain rfl := List.mem_singleton.mp ha
      exact newAttempt_sound
  · intro b hb
    rcases hmember b hb with rfl | ⟨hb, -⟩
    · exact ⟨limit, hlimit, hless⟩
    · exact h.sheet.limited b hb
  · intro b hb
    rcases hmember b hb with rfl | ⟨hb, -⟩
    · exact Nat.sub_le _ _
    · exact hlater.sheet.opened b hb
  · intro b hb
    rw [hids, List.countP_append, List.countP_singleton]
    rcases hmember b hb with rfl | ⟨hb, hne⟩
    · change used + 1 = (db.identities.countP fun i =>
        decide (i.budget = (artifactKind, scopeId, windowOf now))) + _
      rw [← hspent]
      simp [Identity.budget, Budget.key]
    · have hother : decide (Identity.budget (artifactKind, scopeId, inputHash, windowOf now) = b.key) =
          false := decide_eq_false hne
      rw [hother, h.sheet.counted b hb]
      rfl
  · intro i hi
    rw [hids] at hi
    rcases List.mem_append.mp hi with hi | hi
    · exact hholds _ (.inr (h.sheet.budgeted i hi))
    · obtain rfl := List.mem_singleton.mp hi
      exact hholds _ (.inl rfl)
  · intro i hi hkind
    rw [hids] at hi
    rw [hmapped]
    rcases List.mem_append.mp hi with hi | hi
    · obtain ⟨d, hd, hkey⟩ := h.sheet.sourced i hi hkind
      exact ⟨d, List.mem_append_left _ hd, hkey⟩
    · obtain rfl := List.mem_singleton.mp hi
      obtain ⟨d, hd⟩ := List.exists_mem_of_ne_nil _ (hneeded.mp hkind)
      refine ⟨_, List.mem_append_right _ (List.mem_map_of_mem hd), ?_⟩
      exact Prod.ext hkind.symm rfl
  · intro d hd
    rw [hmapped] at hd
    rw [hids]
    rcases List.mem_append.mp hd with hd | hd
    · obtain ⟨i, hi, hkey⟩ := h.sheet.claimed d hd
      exact ⟨i, List.mem_append_left _ hi, hkey⟩
    · obtain ⟨document, hdocument, rfl⟩ := List.mem_map.mp hd
      have hkind := hneeded.mpr (List.ne_nil_of_mem hdocument)
      exact ⟨_, List.mem_append_right _ (List.mem_singleton_self _), by rw [hkind]; rfl⟩
  · intro d hd
    rw [hmapped] at hd
    rcases List.mem_append.mp hd with hd | hd
    · exact h.sheet.checked d hd
    · obtain ⟨document, -, rfl⟩ := List.mem_map.mp hd
      rfl
  · intro d hd
    rw [hmapped] at hd
    rw [hsame]
    rcases List.mem_append.mp hd with hd | hd
    · exact h.written d hd
    · obtain ⟨document, hdocument, rfl⟩ := List.mem_map.mp hd
      exact hfound document hdocument

theorem Consistent.finished (h : Consistent db clock) (hclock : clock ≤ now) {status : AttemptStatus}
    (response : Option String → Option String) (hstatus : status ≠ .started)
    (hanswered : artifactKind = "synthesis" → status = .completed → response none ≠ none)
    (hplain : artifactKind ≠ "synthesis" → response none = none) :
    Consistent (finishAttempts db artifactKind scopeId inputHash window status response now) now := by
  have hlater := h.later hclock
  refine ⟨?_, ?_, h.written⟩
  · intro a ha
    obtain ⟨old, hold, rfl⟩ := List.mem_map.mp ha
    split
    · next hactive =>
      obtain ⟨hkey, -, hstarted⟩ := of_decide_eq_true hactive
      have hkind : old.artifactKind = artifactKind := congrArg Prod.fst hkey
      have hsound := hlater.sound old hold
      have hresponse := (hsound.started hstarted).2
      refine ⟨hsound.window, hsound.claimed, fun hs => absurd hs hstatus,
        fun _ => ⟨now, rfl, hsound.claimed, le_rfl⟩, ?_, ?_⟩
      · intro hkind' hdone
        simp only [hresponse]
        exact hanswered (hkind.symm.trans hkind') hdone
      · intro hkind'
        simp only [hresponse]
        exact hplain fun heq => hkind' (hkind.trans heq)
    · exact hlater.sound old hold
  · rw [finish_identities]
    exact hlater.sheet

theorem countP_identities {rows : List Attempt} {key : String × String × Nat} :
    ((rows.map Attempt.identity).countP fun i => decide (i.budget = key)) =
      rows.countP fun a => decide (a.budgetKey = key) := by
  rw [List.countP_map]
  rfl

theorem Consistent.released (h : Consistent db clock)
    (hrelease : releaseAiGenerationBeforeProvider db artifactKind scopeId inputHash window = .ok db') :
    Consistent db' clock := by
  simp only [releaseAiGenerationBeforeProvider, bind_eq_ok, reject_eq_ok, exists_const, asI64_eq_ok,
    pure_eq_ok, Bool.not_eq_false] at hrelease
  obtain ⟨_, -, -, time, ⟨-, htime⟩, hactive, -, rfl⟩ := hrelease
  obtain rfl := htime.symm
  obtain ⟨a, ha, hfound⟩ := List.any_eq_true.mp hactive
  obtain ⟨hkey, hwindow, -⟩ := of_decide_eq_true hfound
  have hget : db.attempts.get? (artifactKind, trim scopeId, trim inputHash) = some a :=
    Table.get?_eq_some.mpr ⟨ha, hkey⟩
  have honly : ∀ r ∈ db.attempts.rows, r.activeAt artifactKind scopeId inputHash window =
      decide (r.key = (artifactKind, trim scopeId, trim inputHash)) := by
    intro r hr
    by_cases hr' : r.key = (artifactKind, trim scopeId, trim inputHash)
    · have heq := (Table.get?_of_mem hr).symm.trans (hr' ▸ hget)
      rw [Option.some.inj heq, hfound, decide_eq_true hkey]
    · rw [decide_eq_false hr']
      exact decide_eq_false fun hboth => hr' hboth.1
  have hrows : (db.attempts.delete fun r => r.activeAt artifactKind scopeId inputHash window).rows =
      (db.attempts.delete fun r =>
        decide (r.key = (artifactKind, trim scopeId, trim inputHash))).rows :=
    List.filter_congr fun r hr => congrArg not (honly r hr)
  have hcount : ∀ key, ((db.attempts.delete fun r =>
        decide (r.key = (artifactKind, trim scopeId, trim inputHash))).rows.countP
          fun r => decide (r.budgetKey = key)) + (if a.budgetKey = key then 1 else 0) =
      db.attempts.rows.countP fun r => decide (r.budgetKey = key) := by
    intro key
    have hcounted := @Table.countP_delete_key _ _ _ db.attempts
      (artifactKind, trim scopeId, trim inputHash) _ fun r => decide (r.budgetKey = key)
    simpa only [hget, Option.any_some, decide_eq_true_eq] using hcounted
  have hbudget : a.budgetKey = (artifactKind, trim scopeId, window) := by
    simp only [Attempt.key, Prod.mk.injEq] at hkey
    rw [Attempt.budgetKey, hkey.1, hkey.2.1, hwindow]
  have hremains : ∀ i, i ∈ db.identities → i.input ≠ (artifactKind, trim scopeId, trim inputHash) →
      i ∈ (db.attempts.delete fun r =>
        r.activeAt artifactKind scopeId inputHash window).rows.map Attempt.identity := by
    intro i hi hother
    obtain ⟨r, hr, rfl⟩ := List.mem_map.mp hi
    refine List.mem_map_of_mem (List.mem_filter.mpr ⟨hr, ?_⟩)
    exact (congrArg not (honly r hr)).trans ((Bool.not_eq_true' _).mpr (decide_eq_false hother))
  have hgone : ∀ i ∈ (db.attempts.delete fun r =>
      r.activeAt artifactKind scopeId inputHash window).rows.map Attempt.identity,
        i.input ≠ (artifactKind, trim scopeId, trim inputHash) := by
    intro i hi
    rw [hrows] at hi
    obtain ⟨r, hr, rfl⟩ := List.mem_map.mp hi
    exact of_decide_eq_false ((Bool.not_eq_true' _).mp (List.mem_filter.mp hr).2)
  have hunmapped : ∀ d, mapped artifactKind scopeId inputHash d =
      decide (d.attemptKey = (artifactKind, trim scopeId, trim inputHash)) := by
    intro d
    simp only [mapped, GenerationDocument.attemptKey, Prod.mk.injEq]
  refine ⟨fun r hr => h.sound r (List.mem_of_mem_filter hr), ?_,
    fun d hd => h.written d (List.mem_of_mem_filter hd)⟩
  refine h.sheet.shrink ?_ (fun d hd => List.mem_of_mem_filter hd) ?_ ?_ ?_ ?_ ?_
  · intro i hi
    exact (List.filter_sublist.map _).subset hi
  · intro d hd i hi hinput
    have hnot := (List.mem_filter.mp hd).2
    rw [hunmapped, ← hinput] at hnot
    exact hremains i hi (by simpa using hnot)
  · intro i hi d hd hinput
    refine List.mem_filter.mpr ⟨hd, ?_⟩
    rw [hunmapped, hinput]
    simpa using hgone i hi
  · intro b' hb'
    obtain ⟨b, hb, rfl⟩ := List.mem_map.mp hb'
    have hused := h.sheet.counted b hb
    rw [Database.identities, countP_identities, ← hcount b.key, hbudget] at hused
    rw [Database.identities, countP_identities, hrows]
    split
    · next hmine =>
      obtain ⟨hmine, hpos⟩ := of_decide_eq_true hmine
      rw [if_pos hmine.symm] at hused
      refine ⟨⟨b, hb, rfl⟩, ?_⟩
      simp only [hused, Nat.add_sub_cancel]
      rfl
    · next hother =>
      rw [decide_eq_true_eq] at hother
      refine ⟨⟨b, hb, rfl⟩, ?_⟩
      split at hused
      · next heq => exact absurd ⟨heq.symm, by omega⟩ hother
      · exact hused
  · intro key
    exact List.Sublist.countP_le (List.filter_sublist.map _)
  · intro i hi
    obtain ⟨b, hb, hkey⟩ := h.sheet.budgeted i ((List.filter_sublist.map _).subset hi)
    refine ⟨_, List.mem_map_of_mem hb, ?_⟩
    split
    · exact hkey
    · exact hkey

end Steps

section Erasure

variable {i : Identity} {cleanup : List Identity}

theorem clean_consistent (h : Consistent db clock)
    (hlisted : ∀ j ∈ db.identities, j.input = i.input → j = i) :
    Consistent (cleanGeneration db i) clock := by
  obtain ⟨artifactKind, scopeId, inputHash, window⟩ := i
  have hkept : ∀ j ∈ db.identities, j.input ≠ (artifactKind, scopeId, inputHash) →
      j ∈ (cleanGeneration db (artifactKind, scopeId, inputHash, window)).identities := by
    intro j hj hother
    obtain ⟨a, ha, rfl⟩ := List.mem_map.mp hj
    refine List.mem_map_of_mem (List.mem_filter.mpr ⟨ha, ?_⟩)
    rw [Bool.not_eq_true', decide_eq_false_iff_not]
    intro heq
    rw [heq] at hother
    exact hother rfl
  have hgone : ∀ j ∈ (cleanGeneration db (artifactKind, scopeId, inputHash, window)).identities,
      j ∈ db.identities ∧ j ≠ (artifactKind, scopeId, inputHash, window) := by
    intro j hj
    obtain ⟨a, ha, rfl⟩ := List.mem_map.mp hj
    obtain ⟨ha, hother⟩ := List.mem_filter.mp ha
    rw [Bool.not_eq_true', decide_eq_false_iff_not] at hother
    exact ⟨List.mem_map_of_mem ha, hother⟩
  refine ⟨fun a ha => h.sound a (List.mem_of_mem_filter ha), ?_,
    fun d hd => h.written d (List.mem_of_mem_filter hd)⟩
  refine h.sheet.shrink (fun j hj => (hgone j hj).1) (fun d hd => List.mem_of_mem_filter hd)
    ?_ ?_ ?_ ?_ ?_
  · intro d hd j hj hinput
    have hother := (List.mem_filter.mp hd).2
    rw [Bool.not_eq_true', decide_eq_false_iff_not, ← hinput] at hother
    exact hkept j hj hother
  · intro j hj d hd hinput
    obtain ⟨hj, hother⟩ := hgone j hj
    refine List.mem_filter.mpr ⟨hd, ?_⟩
    rw [Bool.not_eq_true', decide_eq_false_iff_not, hinput]
    intro heq
    exact hother (hlisted j hj heq)
  · intro b' hb'
    obtain ⟨hb', -⟩ := List.mem_filter.mp hb'
    obtain ⟨b, hb, rfl⟩ := List.mem_map.mp hb'
    rw [Database.identities, countP_identities]
    split
    · next hmine =>
      rw [decide_eq_true_eq] at hmine
      exact ⟨⟨b, hb, rfl⟩, by rw [← hmine]; rfl⟩
    · next hother =>
      rw [decide_eq_true_eq] at hother
      refine ⟨⟨b, hb, rfl⟩, ?_⟩
      rw [h.sheet.counted b hb, Database.identities, countP_identities]
      change _ = (db.attempts.rows.filter _).countP _
      rw [List.countP_filter]
      refine List.countP_congr fun a _ => ?_
      simp only [decide_eq_true_eq, Bool.and_eq_true, Bool.not_eq_true', decide_eq_false_iff_not,
        iff_self_and]
      intro hkey heq
      refine hother (hkey.symm.trans ?_)
      simp only [Attempt.identity, Prod.mk.injEq] at heq
      rw [Attempt.budgetKey, heq.1, heq.2.1, heq.2.2.2]
  · intro key
    exact List.Sublist.countP_le (List.filter_sublist.map _)
  · intro j hj
    obtain ⟨b, hb, hkey⟩ := h.sheet.budgeted j (hgone j hj).1
    refine ⟨_, List.mem_filter.mpr ⟨List.mem_map_of_mem hb, ?_⟩, ?_⟩
    · rw [Bool.not_eq_true', decide_eq_false_iff_not]
      rintro ⟨hmine, hzero⟩
      split at hzero
      · have hcounted := List.countP_eq_zero.mp hzero
        obtain ⟨a, ha, rfl⟩ := List.mem_map.mp hj
        refine hcounted a ha (decide_eq_true ?_)
        split at hmine
        · exact hkey.symm.trans hmine
        · exact hkey.symm.trans hmine
      · next hother =>
        rw [if_neg hother] at hmine
        exact hother (decide_eq_true hmine)
    · split
      · exact hkey
      · exact hkey

-- after the loop no document read by a listed attempt is left
theorem cleaned (h : Consistent db clock)
    (hlisted : ∀ i ∈ cleanup, ∀ j ∈ db.identities, j.input = i.input → j = i) :
    Consistent (cleanup.foldl cleanGeneration db) clock ∧
      ∀ d ∈ (cleanup.foldl cleanGeneration db).generationDocuments.rows,
        d ∈ db.generationDocuments.rows ∧ ∀ i ∈ cleanup, d.attemptKey ≠ i.input := by
  induction cleanup generalizing db with
  | nil => exact ⟨h, fun d hd => ⟨hd, by simp⟩⟩
  | cons i cleanup ih =>
    have hnext := clean_consistent h (hlisted i List.mem_cons_self)
    obtain ⟨hlast, hleft⟩ := ih hnext (fun k hk j hj => hlisted k (List.mem_cons_of_mem _ hk) j
      ((List.filter_sublist.map Attempt.identity).subset hj))
    refine ⟨hlast, ?_⟩
    intro d hd
    obtain ⟨hmem, hother⟩ := hleft d hd
    obtain ⟨hmem, hgone⟩ := List.mem_filter.mp hmem
    rw [Bool.not_eq_true', decide_eq_false_iff_not] at hgone
    refine ⟨hmem, ?_⟩
    intro k hk
    rcases List.mem_cons.mp hk with rfl | hk
    · exact hgone
    · exact hother k hk

theorem contributor_consistent (h : Consistent db clock)
    (hunread : ∀ d ∈ db.generationDocuments.rows, d.authorId ≠ userId) :
    Consistent (deleteContributor userId db) clock := by
  have hmine : ∀ i ∈ (deleteContributor userId db).identities,
      i ∈ db.identities ∧ ¬(i.1 = "shelf_starters" ∧ i.2.1 = userId) := by
    intro i hi
    obtain ⟨a, ha, rfl⟩ := List.mem_map.mp hi
    obtain ⟨ha, hother⟩ := List.mem_filter.mp ha
    rw [Bool.not_eq_true', decide_eq_false_iff_not] at hother
    exact ⟨List.mem_map_of_mem ha, hother⟩
  have hstays : ∀ i ∈ db.identities, ¬(i.1 = "shelf_starters" ∧ i.2.1 = userId) →
      i ∈ (deleteContributor userId db).identities := by
    intro i hi hother
    obtain ⟨a, ha, rfl⟩ := List.mem_map.mp hi
    refine List.mem_map_of_mem (List.mem_filter.mpr ⟨ha, ?_⟩)
    rw [Bool.not_eq_true', decide_eq_false_iff_not]
    exact hother
  refine ⟨fun a ha => h.sound a (List.mem_of_mem_filter ha), ?_, ?_⟩
  · refine h.sheet.shrink (fun i hi => (hmine i hi).1) (fun d hd => hd) ?_ (fun i _ d hd _ => hd) ?_ ?_ ?_
    · intro d hd i hi hinput
      refine hstays i hi ?_
      rintro ⟨hkind, -⟩
      have hsynthesis : i.1 = d.artifactKind := congrArg Prod.fst hinput
      rw [hkind, h.sheet.checked d hd] at hsynthesis
      exact absurd hsynthesis (by decide)
    · intro b hb
      obtain ⟨hb, hother⟩ := List.mem_filter.mp hb
      rw [Bool.not_eq_true', decide_eq_false_iff_not] at hother
      refine ⟨⟨b, hb, rfl⟩, ?_⟩
      rw [h.sheet.counted b hb, Database.identities, Database.identities, countP_identities,
        countP_identities]
      change _ = (db.attempts.rows.filter _).countP _
      rw [List.countP_filter]
      refine List.countP_congr fun a _ => ?_
      simp only [decide_eq_true_eq, Bool.and_eq_true, Bool.not_eq_true', decide_eq_false_iff_not,
        iff_self_and]
      intro hkey
      simp only [Attempt.budgetKey, Budget.key, Prod.mk.injEq] at hkey
      rwa [hkey.1, hkey.2.1]
    · intro key
      exact List.Sublist.countP_le (List.filter_sublist.map _)
    · intro i hi
      obtain ⟨hi, hother⟩ := hmine i hi
      obtain ⟨b, hb, hkey⟩ := h.sheet.budgeted i hi
      refine ⟨b, List.mem_filter.mpr ⟨hb, ?_⟩, hkey⟩
      rw [Bool.not_eq_true', decide_eq_false_iff_not]
      simp only [Budget.key, Identity.budget, Prod.mk.injEq] at hkey
      rwa [hkey.1, hkey.2.1]
  · intro d hd
    obtain ⟨s, hs, hhandle, hauthor⟩ := h.written d hd
    refine ⟨s, List.mem_filter.mpr ⟨hs, ?_⟩, hhandle, hauthor⟩
    rw [Bool.not_eq_true', decide_eq_false_iff_not, hauthor]
    exact hunread d hd

theorem listed_input {j : Identity} (hi : i ∈ db.identities) (hj : j ∈ db.identities)
    (h : j.input = i.input) : j = i := by
  obtain ⟨a, ha, rfl⟩ := List.mem_map.mp hi
  obtain ⟨b, hb, rfl⟩ := List.mem_map.mp hj
  have hkey : b.key = a.key := h
  have hsame := (Table.get?_of_mem hb).symm.trans (hkey ▸ Table.get?_of_mem ha)
  rw [Option.some.inj hsame]

theorem deleteAccount_consistent {others : Except StoreError Unit} (h : Consistent db clock)
    (hcleanup : cleanup.Perm (aiGenerationCleanup db userId))
    (hdelete : deleteAccount db now userId cleanup others = .ok db') : Consistent db' clock := by
  simp only [deleteAccount, bind_eq_ok, pure_eq_ok] at hdelete
  obtain ⟨_, -, _, -, _, -, rfl⟩ := hdelete
  have hsub : ∀ i ∈ cleanup, i ∈ db.identities := by
    intro i hi
    exact (List.filter_sublist.map _).subset (hcleanup.mem_iff.mp hi)
  obtain ⟨hclean, hleft⟩ := cleaned h fun i hi j hj => listed_input (hsub i hi) hj
  refine contributor_consistent hclean ?_
  intro d hd hauthor
  obtain ⟨hmem, hother⟩ := hleft d hd
  obtain ⟨i, hi, hinput⟩ := h.sheet.claimed d hmem
  obtain ⟨a, ha, rfl⟩ := List.mem_map.mp hi
  refine hother _ (hcleanup.mem_iff.mpr (List.mem_map_of_mem (List.mem_filter.mpr ⟨ha, ?_⟩))) hinput.symm
  exact List.any_eq_true.mpr ⟨d, hmem, decide_eq_true ⟨hinput.symm, hauthor⟩⟩

end Erasure

section Runs

inductive Change
  | fence (op : Op)
  | deleteAccount (userId : String) (cleanup : List Identity) (others : Except StoreError Unit)

structure Moment where
  now : Nat
  change : Change

structure Service where
  world : World
  clock : Nat

inductive Happens : World → Moment → World → Prop
  | fence {w w' : World} {now : Nat} {op : Op} : Step w ⟨now, op⟩ w' →
      Happens w ⟨now, .fence op⟩ w'
  | deleted {w : World} {db' : Database} {now : Nat} {userId : String} {cleanup : List Identity}
      {others : Except StoreError Unit} : cleanup.Perm (aiGenerationCleanup w.db userId) →
      deleteAccount w.db now userId cleanup others = .ok db' →
      Happens w ⟨now, .deleteAccount userId cleanup others⟩ ⟨db', w.held⟩
  | refused {w : World} {now : Nat} {userId : String} {cleanup : List Identity}
      {others : Except StoreError Unit} {error : StoreError} :
      deleteAccount w.db now userId cleanup others = .error error →
      Happens w ⟨now, .deleteAccount userId cleanup others⟩ w

-- no other operation takes a document away or gives it another handle or author
def Keeps (db : Database) : Change → Prop
  | .fence (.elsewhere documents _) => ∀ s ∈ db.documents.rows, ∃ s' ∈ documents.rows,
      s'.handle = s.handle ∧ s'.authorId = s.authorId
  | _ => True

structure Serves (s : Service) (m : Moment) (s' : Service) : Prop where
  happens : Happens s.world m s'.world
  keeps : Keeps s.world.db m.change
  clock : s.clock ≤ m.now
  reads : s'.clock = m.now

variable {s s' s₀ : Service} {m : Moment} {moments : List Moment} {w w' : World} {op : Op}

theorem execute_consistent (h : Consistent w.db clock) (hclock : clock ≤ now) (hkeeps : Keeps w.db (.fence op))
    (hexecute : execute w ⟨now, op⟩ = .ok w') : Consistent w'.db now := by
  cases op with
  | claim artifactKind scopeId inputHash documentHandles =>
    simp only [execute, bind_eq_ok, pure_eq_ok] at hexecute
    obtain ⟨⟨result, db⟩, hclaim, rfl⟩ := hexecute
    rcases claim_effect hclaim with rfl | ⟨documents, hgranted⟩
    · exact h.later hclock
    · exact h.granted hclock hgranted
  | complete artifactKind scopeId inputHash window response =>
    simp only [execute, completeAiGeneration, bind_eq_ok, reject_eq_ok, exists_const, asI64_eq_ok,
      pure_eq_ok, not_and] at hexecute
    obtain ⟨_, ⟨_, -, hanswered, hplain, -, _, ⟨-, rfl⟩, _, -, -, rfl⟩, rfl⟩ := hexecute
    have hstatus : AttemptStatus.completed ≠ .started := by decide
    have hresponse : artifactKind ≠ "synthesis" → response = none := fun hkind =>
      not_not.mp (hplain hkind)
    exact h.finished hclock (fun _ => response) hstatus (fun hkind _ => hanswered hkind) hresponse
  | fail artifactKind scopeId inputHash window =>
    simp only [execute, failAiGeneration, bind_eq_ok, asI64_eq_ok, pure_eq_ok] at hexecute
    obtain ⟨_, ⟨_, -, _, ⟨-, rfl⟩, _, -, rfl⟩, rfl⟩ := hexecute
    have hstatus : AttemptStatus.failed ≠ .started := by decide
    refine h.finished hclock id hstatus (fun _ hdone => ?_) fun _ => rfl
    cases hdone
  | release artifactKind scopeId inputHash window =>
    simp only [execute, bind_eq_ok, pure_eq_ok] at hexecute
    obtain ⟨db, hrelease, rfl⟩ := hexecute
    exact (h.released hrelease).later hclock
  | elsewhere documents recoveryHolds =>
    cases hexecute
    refine ⟨(h.later hclock).sound, (h.later hclock).sheet, ?_⟩
    intro d hd
    obtain ⟨s, hs, hhandle, hauthor⟩ := h.written d hd
    obtain ⟨s', hs', hhandle', hauthor'⟩ := hkeeps s hs
    exact ⟨s', hs', hhandle'.trans hhandle, hauthor'.trans hauthor⟩

theorem happens_consistent (h : Consistent w.db clock) (hclock : clock ≤ m.now)
    (hkeeps : Keeps w.db m.change) (hhappens : Happens w m w') : Consistent w'.db m.now := by
  cases hhappens with
  | fence hstep =>
    cases hstep with
    | ok hexecute => exact execute_consistent h hclock hkeeps hexecute
    | failed _ => exact h.later hclock
  | deleted hcleanup hdelete => exact (deleteAccount_consistent h hcleanup hdelete).later hclock
  | refused _ => exact h.later hclock

theorem serves_consistent (h : Consistent s.world.db s.clock) (hserves : Serves s m s') :
    Consistent s'.world.db s'.clock := by
  rw [hserves.reads]
  exact happens_consistent h hserves.clock hserves.keeps hserves.happens

theorem generation_ready (hstart : aiGenerationInvalid s₀.world.db s₀.clock = false)
    (hchecked : ∀ d ∈ s₀.world.db.generationDocuments.rows, d.artifactKind = "synthesis")
    (hrun : Trace Serves s₀ moments s) :
    (∀ now, s.clock ≤ now + recoveryScheduleClockSkewMs → now + recoveryScheduleClockSkewMs ≤ i64Max →
      generationReady s.world.db now = .ok ()) ∧
    ∀ kind scope window,
      s.world.db.attemptsOf (kind, scope, window) ≤ (aiGenerationAttemptLimit kind).getD 0 := by
  have hinvariant := hrun.invariant (P := fun s => Consistent s.world.db s.clock)
    (consistent_iff.mpr ⟨hstart, hchecked⟩) fun _ _ _ h hserves => serves_consistent h hserves
  refine ⟨?_, fun kind scope window => hinvariant.within⟩
  intro now hclock hbound
  have hlimit : saturatingAdd now recoveryScheduleClockSkewMs = now + recoveryScheduleClockSkewMs := by
    simp only [saturatingAdd, u64Max, i64Max] at hbound ⊢
    omega
  have hvalid := (consistent_iff.mp (hinvariant.later hclock)).1
  simp only [generationReady, hlimit, bind_eq_ok, asI64_eq_ok, reject_eq_ok]
  exact ⟨_, ⟨hbound, rfl⟩, by simp [hvalid]⟩

-- bob's answer is read for alice, and bob deletes the account a minute later
theorem generation_ready_sample :
    ∃ (w : World) (db : Database), Trace Serves ⟨⟨emptyDatabase, []⟩, 0⟩
      [⟨90000000, .fence (.elsewhere ⟨[⟨"1", "h1", "bob"⟩], by simp⟩ [])⟩,
        ⟨90000500, .fence (.claim "synthesis" "alice" foodInput ["h1"])⟩,
        ⟨90060500, .deleteAccount "bob" [("synthesis", "alice", foodInput, 86400000)] (.ok ())⟩]
      ⟨⟨db, w.held⟩, 90060500⟩ ∧
      w.db.attempts.rows.length = 1 ∧ db.attempts.rows = [] ∧ db.budgets.rows = [] ∧
      generationReady db 90060500 = .ok () := by
  let documents : Table SourceDocument.id := ⟨[⟨"1", "h1", "bob"⟩], by simp⟩
  have hrun : (execute ⟨{ emptyDatabase with documents := documents }, []⟩
      ⟨90000500, .claim "synthesis" "alice" foodInput ["h1"]⟩).toOption.any (fun w =>
        decide (w.db.attempts.rows.length = 1 ∧
          aiGenerationCleanup w.db "bob" = [("synthesis", "alice", foodInput, 86400000)]) &&
        (deleteAccount w.db 90060500 "bob" [("synthesis", "alice", foodInput, 86400000)]
          (.ok ())).toOption.any fun db =>
            decide (db.attempts.rows = [] ∧ db.budgets.rows = [])) = true := by
    decide +kernel
  obtain ⟨w, hw, hboth⟩ := (Option.any_eq_true _ _).mp hrun
  rw [Bool.and_eq_true, decide_eq_true_eq] at hboth
  obtain ⟨⟨hone, hcleanup⟩, hdeleted⟩ := hboth
  obtain ⟨db, hdb, hempty⟩ := (Option.any_eq_true _ _).mp hdeleted
  obtain ⟨hattempts, hbudgets⟩ := of_decide_eq_true hempty
  have htrace : Trace Serves ⟨⟨emptyDatabase, []⟩, 0⟩
      [⟨90000000, .fence (.elsewhere documents [])⟩,
        ⟨90000500, .fence (.claim "synthesis" "alice" foodInput ["h1"])⟩,
        ⟨90060500, .deleteAccount "bob" [("synthesis", "alice", foodInput, 86400000)] (.ok ())⟩]
      ⟨⟨db, w.held⟩, 90060500⟩ := by
    have hstored : Serves ⟨⟨emptyDatabase, []⟩, 0⟩ ⟨90000000, .fence (.elsewhere documents [])⟩
        ⟨⟨{ emptyDatabase with documents := documents }, []⟩, 90000000⟩ := by
      refine ⟨.fence (.ok rfl), ?_, by decide, rfl⟩
      intro s hs
      cases hs
    have hclaimed : Serves ⟨⟨{ emptyDatabase with documents := documents }, []⟩, 90000000⟩
        ⟨90000500, .fence (.claim "synthesis" "alice" foodInput ["h1"])⟩ ⟨w, 90000500⟩ :=
      ⟨.fence (.ok (toOption_eq_some.mp hw)), trivial, by decide, rfl⟩
    exact Trace.cons_iff.mpr ⟨_, hstored, Trace.cons_iff.mpr ⟨_, hclaimed, Trace.single_iff.mpr
      ⟨.deleted (by rw [hcleanup]) (toOption_eq_some.mp hdb), trivial, by simp, rfl⟩⟩⟩
  have hready := generation_ready rfl (fun d hd => by cases hd) htrace
  exact ⟨w, db, htrace, hone, hattempts, hbudgets, hready.1 90060500 (Nat.le_add_right _ _) (by decide)⟩

end Runs

end Obulus.Generation
