import Mathlib.Tactic.Tauto
import Obulus.Guards.Lifecycle
import Obulus.Guards.Postgres

namespace Obulus.Guards

open Foundation Truth Postgres

variable {db : Surroundings} {assigned : List Column} {f : Fences} {q a : String} {t : Int}
  {kind : AttemptKind}

theorem settledShape_fails {new : Record} : (settledShape kind new db).fails ↔
    (shapeValid kind new).fails ∨
      (new.status = .settled ∧ (deliveredQuote db new.quoteId).fails) := by
  unfold settledShape
  split
  · next h =>
    simp only [holds_all_cons, holds_is, holds_not, holds_all_nil, and_true] at h
    exact ⟨fun _ => .inr h, fun _ => rfl⟩
  · next h =>
    simp only [holds_all_cons, holds_is, holds_not, holds_all_nil, and_true] at h
    exact ⟨.inl, fun hor => hor.resolve_right h⟩

section Research

variable {old new : ResearchAttempt}

theorem nonblank_and (x : Option String) (u : Truth) :
    (is (x ≠ none)).and ((compare Ne x (some "")).and u) = (is (nullif x "" ≠ none)).and u := by
  rcases x with _ | x
  · rfl
  · by_cases hx : x = ""
    · subst hx
      rfl
    · simp [is, Truth.compare, nullif, hx, Truth.and]

theorem evidenceComplete_eq (new : ResearchAttempt) :
    Sqlite.evidenceComplete new = coreComplete (ofResearch new) := by
  simp only [Sqlite.evidenceComplete, coreComplete, all, List.foldr_cons, nonblank_and]
  rfl

theorem evidenceEmpty_eq (new : ResearchAttempt) :
    Sqlite.evidenceEmpty new = coreEmpty (ofResearch new) :=
  rfl

theorem researchInsertShape_iff :
    (Sqlite.researchInsertShape new).holds ↔ (insertShape .research (ofResearch new)).fails := by
  simp only [Sqlite.researchInsertShape, insertShape, coreEmpty, holds_any_cons, holds_any_nil,
    fails_all_cons, fails_all_nil, holds_is, fails_is]
  simp only [ofResearch]
  tauto

theorem researchShape_iff :
    (Sqlite.researchShape new).fails ↔ (shapeValid .research (ofResearch new)).fails := by
  simp only [Sqlite.researchShape, shapeValid, evidenceComplete_eq, evidenceEmpty_eq,
    fails_any_cons, fails_any_nil, fails_all_cons, fails_all_nil, fails_is]
  have hstatus : (ofResearch new).status = new.status := rfl
  rw [hstatus]
  cases new.status with
  | claimed => simp [ofResearch]
  | prepared => simp [ofResearch]
  | ambiguous => simp [ofResearch]
  | settled => 
    simp [ofResearch]
    tauto
  | released => simp [ofResearch]

theorem researchState_iff : (Sqlite.researchState db old new).holds ↔
    (Truth.or (Truth.not (transitionValid .research (ofResearch old) (ofResearch new)))
      (Truth.not (settledShape .research (ofResearch new) db))).holds := by
  simp only [Sqlite.researchState, holds_any_cons, holds_any_nil, holds_not, holds_or,
    researchShape_iff, settledShape_fails, holds_all_cons, holds_all_nil, holds_is, or_false, and_true]
  exact Iff.rfl

theorem researchIdentity_iff : (Sqlite.researchIdentity old new).holds ↔
    (identity .research (ofResearch old) (ofResearch new)).holds := by
  simp only [Sqlite.researchIdentity, identity, holds_any_cons, holds_any_nil, holds_all_cons,
    holds_all_nil, holds_is, holds_compare]
  simp [ofResearch]
  tauto

theorem researchReceipt_iff : (Sqlite.researchReceipt old new).holds ↔
    (receipt .research (ofResearch old) (ofResearch new)).holds := by
  simp only [Sqlite.researchReceipt, receipt, holds_all_cons, holds_all_nil, fails_all_cons,
    holds_not, fails_is, not_true_eq_false, false_or]
  exact Iff.rfl

theorem researchEvidence_iff : (Sqlite.researchEvidence old new).holds ↔
    (evidence .research (ofResearch old) (ofResearch new)).holds := by
  simp only [Sqlite.researchEvidence, evidence, holds_all_cons, holds_any_cons, holds_any_nil,
    holds_is, reduceCtorEq, false_or, or_false]
  exact Iff.rfl

end Research

section Fences

theorem claimFence_eq_ok {new : Record} {inserted : Bool} :
    claimFence db kind new inserted = .ok f ↔
      (if activeAttempt kind new = true ∧ ¬(inserted = false ∧ (heldFence db kind new).holds) then
        (payable db new).holds ∧ (kind = .research → (planned db new inserted).holds) ∧
          (kind = .direct → ¬(reserved db new).holds) ∧
          Owned (insertFence db.fences ⟨new.quoteId, kind, new.attemptId, new.createdAt⟩) kind
            new.quoteId new.attemptId ∧
          insertFence db.fences ⟨new.quoteId, kind, new.attemptId, new.createdAt⟩ = f
      else db.fences = f) := by
  unfold claimFence
  by_cases hactive : activeAttempt kind new = true
  · by_cases hheld : inserted = false ∧ (heldFence db kind new).holds
    · simp [hactive, hheld, pure_eq_ok]
    · simp only [hactive, hheld, not_false_eq_true, and_self, if_true, if_false, Bool.true_eq_false,
        bind_eq_ok, raise_eq_ok, exists_const, pure_eq_ok, holds_not, holds_all_cons, holds_all_nil,
        holds_is, fails_is, and_true, not_and, payable, planned, not_not]
      exact Iff.rfl
  · simp [hactive, pure_eq_ok]

theorem claimResearch_iff {new : ResearchAttempt} :
    Sqlite.claimResearch db new = .ok f ↔ claimFence db .research (ofResearch new) true = .ok f := by
  rw [claimFence_eq_ok]
  unfold Sqlite.claimResearch
  by_cases hactive : new.status ∈ [AttemptStatus.claimed, .prepared, .ambiguous]
  · have hactive' : activeAttempt .research (ofResearch new) = true := decide_eq_true hactive
    rw [if_pos hactive, if_pos ⟨hactive', by simp⟩]
    simp only [bind_eq_ok, raise_eq_ok, exists_const, pure_eq_ok, holds_not, fails_is, not_not,
      holds_is, payable, planned, forall_const, reduceCtorEq, false_imp_iff, true_and]
    constructor
    · rintro ⟨⟨quote, hquote, hid, hquoted, hrail, hclaimed, pbd, hpbd, pbq, hpbq, hjoin, hlink, hjob,
        hprocessing⟩, ⟨fence, hfence, -, -, -, hfq, hfk, hfa, -⟩, hf⟩
      refine ⟨⟨quote, hquote, hid, hquoted, hrail⟩, ⟨pbd, hpbd, pbq, hpbq, hjoin, hlink, ?_, ?_⟩,
        ⟨fence, hfence, hfq, hfk, hfa⟩, hf⟩
      · exact congrArg some hjob
      · exact .inl ⟨hclaimed, hprocessing⟩
    · rintro ⟨⟨quote, hquote, hid, hquoted, hrail⟩, ⟨pbd, hpbd, pbq, hpbq, hjoin, hlink, hjob, hstage⟩,
        ⟨fence, hfence, hfq, hfk, hfa⟩, hf⟩
      obtain ⟨hclaimed, hprocessing⟩ : (ofResearch new).status = .claimed ∧ pbq.status = "processing" := by
        simpa using hstage
      refine ⟨⟨quote, hquote, hid, hquoted, hrail, hclaimed, pbd, hpbd, pbq, hpbq, hjoin, hlink,
        Option.some.inj hjob, hprocessing⟩, ⟨fence, hfence, quote, hquote, ?_, hfq, hfk, hfa, hquoted,
        hrail⟩, hf⟩
      exact hid.trans hfq.symm
  · have hactive' : ¬activeAttempt .research (ofResearch new) = true := by
      simpa [activeAttempt, ofResearch] using hactive
    rw [if_neg hactive, if_neg fun h => hactive' h.1]
    simp [pure_eq_ok]

theorem heldFence_owned {new : Record} (h : (heldFence db kind new).holds) :
    Owned db.fences kind new.quoteId new.attemptId := by
  simp only [heldFence, holds_is] at h
  obtain ⟨fence, hfence, -, -, -, hq, hk, ha, -⟩ := h
  exact ⟨fence, hfence, hq, hk, ha⟩

theorem reclaimResearch_iff {new : ResearchAttempt} :
    Sqlite.reclaimResearch db new = .ok f ↔
      claimFence db .research (ofResearch new) false = .ok f := by
  rw [claimFence_eq_ok]
  unfold Sqlite.reclaimResearch
  by_cases hactive : new.status ∈ [AttemptStatus.claimed, .prepared, .ambiguous]
  · have hactive' : activeAttempt .research (ofResearch new) = true := decide_eq_true hactive
    rw [if_pos hactive]
    by_cases hheld : (heldFence db .research (ofResearch new)).holds
    · have howned := heldFence_owned hheld
      have hsame : insertFence db.fences ⟨new.quoteId, .research, new.attemptId, new.createdAt⟩ =
          db.fences := insertFence_owned howned
      rw [if_neg fun h => h.2 ⟨rfl, hheld⟩]
      simp only [bind_eq_ok, raise_eq_ok, exists_const, pure_eq_ok, holds_not, holds_and, fails_is,
        not_and, not_not, hsame]
      simp only [heldFence, holds_is] at hheld
      obtain ⟨fence, hfence, quote, hquote, hjoin, hfq, hfk, hfa, hrail, hstatus, hjob⟩ := hheld
      obtain ⟨job, hmem, hid, hjob⟩ := hjob.resolve_left (by simp)
      refine ⟨fun h => h.2.2, fun h => ⟨fun hnone => ?_, howned, h⟩⟩
      refine absurd ⟨fence, hfence, quote, hquote, hjoin, hfq, hfk, hfa, ?_, hrail, job, hmem,
        Option.some.inj hid, hjob⟩ hnone
      exact hstatus.resolve_right (by simp)
    · rw [if_pos ⟨hactive', fun h => hheld h.2⟩]
      simp only [bind_eq_ok, raise_eq_ok, exists_const, pure_eq_ok, holds_not, holds_and, fails_is,
        not_and, not_not, payable, planned, holds_is, forall_const, reduceCtorEq, false_imp_iff,
        true_and, false_and, false_or]
      constructor
      · rintro ⟨hsale, howned, hf⟩
        obtain ⟨quote, hquote, hid, hquoted, hrail, pbd, hpbd, pbq, hpbq, hjoin, hlink, hjob, hstage⟩ :=
          hsale (by
            rintro ⟨fence, hfence, quote, hquote, hjoin, hfq, hfk, hfa, hquoted, hrail, job, hmem, hid,
              hjob⟩
            apply hheld
            simp only [heldFence, holds_is]
            exact ⟨fence, hfence, quote, hquote, hjoin, hfq, hfk, hfa, hrail, .inl hquoted,
              .inr ⟨job, hmem, congrArg some hid, hjob⟩⟩)
        exact ⟨⟨quote, hquote, hid, hquoted, hrail⟩, ⟨pbd, hpbd, pbq, hpbq, hjoin, hlink,
          congrArg some hjob, hstage⟩, howned, hf⟩
      · rintro ⟨⟨quote, hquote, hid, hquoted, hrail⟩, ⟨pbd, hpbd, pbq, hpbq, hjoin, hlink, hjob, hstage⟩,
          howned, hf⟩
        refine ⟨fun _ => ⟨quote, hquote, hid, hquoted, hrail, pbd, hpbd, pbq, hpbq, hjoin, hlink,
          Option.some.inj hjob, hstage⟩, howned, hf⟩
  · have hactive' : ¬activeAttempt .research (ofResearch new) = true := by
      simpa [activeAttempt, ofResearch] using hactive
    rw [if_neg hactive, if_neg fun h => hactive' h.1]
    simp [pure_eq_ok]

theorem forSale_iff {new : DirectAttempt} : ForSale db new.quoteId ↔
    (payable db (ofDirect new)).holds ∧ ¬(reserved db (ofDirect new)).holds := by
  simp only [payable, reserved, holds_is]
  constructor
  · rintro ⟨quote, hquote, hid, hquoted, hrail, hfree⟩
    refine ⟨⟨quote, hquote, hid, hquoted, hrail⟩, ?_⟩
    rintro ⟨quote', hquote', pbq, hpbq, pbd, hpbd, hquery, hjoin, hhandle, hid', hlive⟩
    obtain rfl : quote' = quote := by
      have hget := Table.get?_eq_some.mpr ⟨hquote, hid⟩
      have hget' := Table.get?_eq_some.mpr ⟨hquote', hid'⟩
      exact Option.some.inj (hget'.symm.trans hget)
    exact hfree ⟨pbq, hpbq, pbd, hpbd, hjoin, hquery, hhandle, hlive⟩
  · rintro ⟨⟨quote, hquote, hid, hquoted, hrail⟩, hfree⟩
    refine ⟨quote, hquote, hid, hquoted, hrail, ?_⟩
    rintro ⟨pbq, hpbq, pbd, hpbd, hjoin, hquery, hhandle, hlive⟩
    exact hfree ⟨quote, hquote, pbq, hpbq, pbd, hpbd, hquery, hjoin, hhandle, hid, hlive⟩

theorem claimDirect_iff {new : DirectAttempt} :
    Sqlite.claimDirect db new = .ok f ↔ claimFence db .direct (ofDirect new) true = .ok f := by
  rw [claimFence_eq_ok]
  unfold Sqlite.claimDirect
  by_cases hactive : new.status ∈ [AttemptStatus.prepared, .ambiguous]
  · have hactive' : activeAttempt .direct (ofDirect new) = true := decide_eq_true hactive
    rw [if_pos hactive, if_pos ⟨hactive', by simp⟩]
    simp only [bind_eq_ok, raise_eq_ok, exists_const, pure_eq_ok, holds_not, fails_is, not_not,
      forall_const, reduceCtorEq, false_imp_iff, true_and]
    rw [← and_assoc (a := (payable db (ofDirect new)).holds), ← forSale_iff]
    constructor
    · rintro ⟨hsale, ⟨fence, hfence, -, -, -, hfq, hfk, hfa, -⟩, hf⟩
      exact ⟨hsale, ⟨fence, hfence, hfq, hfk, hfa⟩, hf⟩
    · rintro ⟨hsale, ⟨fence, hfence, hfq, hfk, hfa⟩, hf⟩
      obtain ⟨quote, hquote, hid, hquoted, hrail, hfree⟩ := hsale
      refine ⟨⟨quote, hquote, hid, hquoted, hrail, hfree⟩, ⟨fence, hfence, quote, hquote, ?_, hfq, hfk,
        hfa, ?_, hrail⟩, hf⟩
      · exact hid.trans hfq.symm
      · rw [hquoted]
        simp
  · have hactive' : ¬activeAttempt .direct (ofDirect new) = true := by
      simpa [activeAttempt, ofDirect] using hactive
    rw [if_neg hactive, if_neg fun h => hactive' h.1]
    simp [pure_eq_ok]

theorem heldDirect_iff {new : DirectAttempt} : (heldFence db .direct (ofDirect new)).holds ↔
    ∃ fence ∈ db.fences.rows, ∃ quote ∈ db.paymentQuotes.rows, quote.id = fence.quoteId ∧
      fence.quoteId = new.quoteId ∧ fence.attemptKind = .direct ∧ fence.attemptId = new.attemptId ∧
      quote.status ∈ ["quoted", "delivered"] ∧ quote.paymentRail = some "pay_sh" := by
  simp only [heldFence, holds_is, true_and, true_or, and_true, List.mem_cons, List.not_mem_nil,
    or_false]
  constructor
  · rintro ⟨fence, hfence, quote, hquote, hjoin, hfq, hfk, hfa, hrail, hstatus⟩
    exact ⟨fence, hfence, quote, hquote, hjoin, hfq, hfk, hfa, hstatus, hrail⟩
  · rintro ⟨fence, hfence, quote, hquote, hjoin, hfq, hfk, hfa, hstatus, hrail⟩
    exact ⟨fence, hfence, quote, hquote, hjoin, hfq, hfk, hfa, hrail, hstatus⟩

theorem reclaimDirect_iff {new : DirectAttempt} :
    Sqlite.reclaimDirect db new = .ok f ↔ claimFence db .direct (ofDirect new) false = .ok f := by
  rw [claimFence_eq_ok]
  unfold Sqlite.reclaimDirect
  by_cases hactive : new.status ∈ [AttemptStatus.prepared, .ambiguous]
  · have hactive' : activeAttempt .direct (ofDirect new) = true := decide_eq_true hactive
    rw [if_pos hactive]
    by_cases hheld : (heldFence db .direct (ofDirect new)).holds
    · have howned := heldFence_owned hheld
      have hsame : insertFence db.fences ⟨new.quoteId, .direct, new.attemptId, new.createdAt⟩ =
          db.fences := insertFence_owned howned
      rw [if_neg fun h => h.2 ⟨rfl, hheld⟩]
      simp only [bind_eq_ok, raise_eq_ok, exists_const, pure_eq_ok, holds_not, holds_and, fails_is,
        not_and, not_not, hsame, ← heldDirect_iff]
      exact ⟨fun h => h.2.2, fun h => ⟨fun hnone => absurd hheld hnone, howned, h⟩⟩
    · rw [if_pos ⟨hactive', fun h => hheld h.2⟩]
      simp only [bind_eq_ok, raise_eq_ok, exists_const, pure_eq_ok, holds_not, holds_and, fails_is,
        not_and, not_not, ← heldDirect_iff, forall_const, reduceCtorEq, false_imp_iff, true_and]
      rw [← and_assoc (a := (payable db (ofDirect new)).holds), ← forSale_iff]
      exact and_congr_left fun _ => ⟨fun h => h hheld, fun h _ => h⟩
  · have hactive' : ¬activeAttempt .direct (ofDirect new) = true := by
      simpa [activeAttempt, ofDirect] using hactive
    rw [if_neg hactive, if_neg fun h => hactive' h.1]
    simp [pure_eq_ok]

end Fences

section Direct

variable {old new : DirectAttempt}

theorem directShape_iff : DirectShape new ↔ (new.queryTokenHash ≠ "" ∧ new.challengeId ≠ "" ∧
    new.externalId ≠ "" ∧ new.payerWallet ≠ "" ∧ new.signedTransactionBase64 ≠ "" ∧
    new.recentBlockhash ≠ "") ∧ new.platformRecipientWallet ≠ some "" ∧
    new.preparedAt < new.challengeExpiresAt ∧ 0 < new.createdAt ∧ new.createdAt ≤ new.preparedAt ∧
    new.transactionSignature ≠ some "" := by
  constructor
  · rintro ⟨htexts, hwallet, hwindow, ⟨hpos, hle⟩, hreceipt⟩
    exact ⟨by simpa using htexts, hwallet, hwindow, hpos, hle, hreceipt⟩
  · rintro ⟨htexts, hwallet, hwindow, hpos, hle, hreceipt⟩
    exact ⟨by simpa using htexts, hwallet, hwindow, ⟨hpos, hle⟩, hreceipt⟩

theorem compare_empty {x : Option String} : (Truth.compare Eq x (some "")).holds ↔ x = some "" := by
  rcases x with _ | x <;> simp

theorem sqlite_insertShape : ¬(Sqlite.directInsertShape new).holds ↔
    DirectShape new ∧ new.status = .prepared ∧ new.completedAt = none := by
  simp only [Sqlite.directInsertShape, holds_any_cons, holds_any_nil, holds_is, compare_empty,
    directShape_iff, not_or, not_not, Int.not_le, Int.not_lt, not_false_eq_true, and_true]
  tauto

theorem nullif_nonblank {x : Option String} : nullif x "" ≠ none ↔ x ≠ none ∧ x ≠ some "" := by
  rcases x with _ | x <;> simp

theorem coreComplete_direct : ¬(coreComplete (ofDirect new)).fails ∧ new.queryTokenHash ≠ "" ∧
    0 < new.createdAt ↔ DirectShape new ∧ new.platformRecipientWallet ≠ none := by
  simp only [coreComplete, fails_all_cons, fails_all_nil, fails_any_cons, fails_any_nil, fails_is,
    nullif_nonblank, not_or, not_not]
  have hreceipt : new.transactionSignature = some "" → new.transactionSignature ≠ none := by
    rintro h
    simp [h]
  simp [ofDirect, directShape_iff]
  tauto

theorem postgres_insertShape : ¬(insertShape .direct (ofDirect new)).fails ↔
    (DirectShape new ∧ new.status = .prepared ∧ new.completedAt = none) ∧
      new.platformRecipientWallet ≠ none := by
  have hcore := @coreComplete_direct new
  have htoken : nullif (ofDirect new).queryTokenHash "" ≠ none ↔ new.queryTokenHash ≠ "" := by
    simp [ofDirect]
  simp only [insertShape, fails_all_cons, fails_all_nil, fails_is, htoken, not_or, not_not]
  simp only [ofDirect] at hcore ⊢
  tauto

theorem directStep_iff {s s' : AttemptStatus} : DirectStep s s' ↔ s' = s ∨
    (s = .prepared ∧ s' ∈ [.ambiguous, .settled, .released]) ∨
    (s = .ambiguous ∧ s' ∈ [.settled, .released]) := by
  constructor
  · intro h
    cases h with
    | stay => exact .inl rfl
    | doubt => simp
    | settle => simp
    | release => simp
    | settleLate => simp
    | releaseLate => simp
  · simp only [List.mem_cons, List.not_mem_nil, or_false]
    rintro (rfl | ⟨rfl, rfl | rfl | rfl⟩ | ⟨rfl, rfl | rfl⟩)
    · exact .stay _
    · exact .doubt
    · exact .settle
    · exact .release
    · exact .settleLate
    · exact .releaseLate

theorem ended_iff {completed : Option Int} {created : Int} :
    (∃ c, completed = some c ∧ created ≤ c) ↔
      completed ≠ none ∧ ¬(Truth.compare LT.lt completed (some created)).holds := by
  rcases completed with _ | c <;> simp

theorem directTransition_fails {s s' : AttemptStatus} :
    (Sqlite.directTransition s s').fails ↔ ¬DirectStep s s' := by
  rw [directStep_iff]
  cases s <;> cases s' <;> decide

theorem sqlite_state : ¬(Sqlite.directState db old new).holds ↔ DirectState db old new := by
  have hsold : (Sqlite.deliveredQuote db new.quoteId).fails ↔ ¬Sold db new.quoteId := fails_is
  simp only [Sqlite.directState, holds_any_cons, holds_any_nil, holds_all_cons, holds_all_nil,
    holds_not, holds_is, compare_empty, hsold, directTransition_fails, and_true, or_false, not_or,
    not_and, not_not, Int.not_le, Int.not_lt, List.mem_cons, List.not_mem_nil]
  constructor
  · rintro ⟨hstep, htoken, hchallenge, hexternal, hpayer, hwallet, hsigned, hhash, hwindow, hpos, hle,
      hreceipt, hrunning, hended, hsigned', hsold⟩
    refine ⟨directShape_iff.mpr ⟨⟨htoken, hchallenge, hexternal, hpayer, hsigned, hhash⟩, hwallet,
      hwindow, hpos, hle, hreceipt⟩, hstep, hrunning, ?_, ?_⟩
    · intro h
      exact ended_iff.mpr (hended h)
    · intro h
      exact ⟨hsigned' h, hsold h⟩
  · rintro ⟨hshape, hstep, hrunning, hended, hsettled⟩
    obtain ⟨⟨htoken, hchallenge, hexternal, hpayer, hsigned, hhash⟩, hwallet, hwindow, hpos, hle,
      hreceipt⟩ := directShape_iff.mp hshape
    exact ⟨hstep, htoken, hchallenge, hexternal, hpayer, hwallet, hsigned, hhash, hwindow, hpos, hle,
      hreceipt, hrunning, fun h => ended_iff.mp (hended h), fun h => (hsettled h).1,
      fun h => (hsettled h).2⟩

theorem shapeValid_direct : ¬(shapeValid .direct (ofDirect new)).fails ↔
    (¬(coreComplete (ofDirect new)).fails ∧ new.queryTokenHash ≠ "" ∧ 0 < new.createdAt) ∧
      (new.status = .prepared ∨ new.status = .ambiguous → new.completedAt = none) ∧
      (new.status = .settled ∨ new.status = .released →
        ∃ completed, new.completedAt = some completed ∧ new.createdAt ≤ completed) ∧
      (new.status = .settled → new.transactionSignature ≠ none) := by
  have htoken : nullif (ofDirect new).queryTokenHash "" ≠ none ↔ new.queryTokenHash ≠ "" := by
    simp [ofDirect]
  have hended : ¬(Truth.compare GE.ge new.completedAt (some new.createdAt)).fails ∧
      new.completedAt ≠ none ↔ ∃ c, new.completedAt = some c ∧ new.createdAt ≤ c := by
    rcases new.completedAt with _ | c <;> simp
  have hnew := new.statusCheck
  simp only [shapeValid, fails_all_cons, fails_all_nil, fails_any_cons, fails_any_nil, fails_is,
    htoken, not_or, not_not]
  simp only [ofDirect, ← hended]
  cases hs : new.status with
  | claimed => exact absurd hs hnew
  | prepared => simp [and_assoc]
  | ambiguous => simp [and_assoc]
  | settled =>
    simp [and_assoc]
    tauto
  | released =>
    simp [and_assoc]
    tauto

theorem postgres_state :
    ¬(Truth.or (Truth.not (transitionValid .direct (ofDirect old) (ofDirect new)))
      (Truth.not (settledShape .direct (ofDirect new) db))).holds ↔
    DirectState db old new ∧ new.platformRecipientWallet ≠ none := by
  have hsold : (deliveredQuote db new.quoteId).fails ↔ ¬Sold db new.quoteId := fails_is
  have htransition : (transitionValid .direct (ofDirect old) (ofDirect new)).fails ↔
      ¬DirectStep old.status new.status := directTransition_fails
  have hsettled : (settledShape .direct (ofDirect new) db).fails ↔
      (shapeValid .direct (ofDirect new)).fails ∨
        (new.status = .settled ∧ ¬Sold db new.quoteId) := by
    rw [settledShape_fails]
    exact or_congr_right (and_congr_right fun _ => hsold)
  rw [holds_or, holds_not, holds_not, htransition, hsettled, not_or, not_not, not_or,
    shapeValid_direct, coreComplete_direct]
  constructor
  · rintro ⟨hstep, ⟨⟨hshape, hwallet⟩, hrunning, hended, hreceipt⟩, hsold⟩
    refine ⟨⟨hshape, hstep, hrunning, hended, fun h => ⟨hreceipt h, ?_⟩⟩, hwallet⟩
    by_contra hno
    exact hsold ⟨h, hno⟩
  · rintro ⟨⟨hshape, hstep, hrunning, hended, hsettle⟩, hwallet⟩
    exact ⟨hstep, ⟨⟨hshape, hwallet⟩, hrunning, hended, fun h => (hsettle h).1⟩,
      fun h => h.2 (hsettle h.1).2⟩

theorem directIdentity_iff : (Sqlite.directIdentity old new).holds ↔
    (identity .direct (ofDirect old) (ofDirect new)).holds := by
  simp only [Sqlite.directIdentity, identity, holds_any_cons, holds_any_nil, holds_all_cons,
    holds_all_nil, holds_is, holds_compare]
  simp [ofDirect]
  tauto

theorem directReceipt_iff : (Sqlite.directReceipt old new).holds ↔
    (receipt .direct (ofDirect old) (ofDirect new)).holds := by
  simp only [Sqlite.directReceipt, receipt, holds_all_cons, holds_all_nil, fails_all_cons,
    holds_not, fails_is, reduceCtorEq, not_false_eq_true, true_or, true_and]
  exact Iff.rfl

theorem directEvidence_iff : (Sqlite.directEvidence old new).holds ↔
    (evidence .direct (ofDirect old) (ofDirect new)).holds := by
  simp only [Sqlite.directEvidence, evidence, holds_all_cons, holds_all_nil, holds_any_cons,
    holds_any_nil, holds_is, true_or, true_and, and_true]
  simp [ofDirect]

end Direct

section Changes

theorem insertRow_eq_ok {new : Record} : insertRow db kind new = .ok f ↔
    claimFence db kind new true = .ok f ∧ ¬(insertShape kind new).fails := by
  simp only [insertRow, bind_eq_ok, raise_eq_ok, exists_const, pure_eq_ok, holds_not]
  constructor
  · rintro ⟨_, hclaim, hshape, rfl⟩
    exact ⟨hclaim, hshape⟩
  · rintro ⟨hclaim, hshape⟩
    exact ⟨f, hclaim, hshape, rfl⟩

-- an update in which the triggers on the columns named leave the fences `f`
def Updates (assigned : List Column) (identity state receipt evidence : Truth)
    (identityColumns : List Column) (claim : Fences → Prop) (release : Fences → Fences)
    (db : Surroundings) (f : Fences) : Prop :=
  ((∃ c ∈ identityColumns, c ∈ assigned) → ¬identity.holds) ∧ ¬state.holds ∧
    (Column.transactionSignature ∈ assigned → ¬receipt.holds) ∧
    ((∃ c ∈ Sqlite.evidenceColumns, c ∈ assigned) → ¬evidence.holds) ∧
    if .status ∈ assigned then ∃ f', claim f' ∧ release f' = f else db.fences = f

theorem updateRow_eq_ok {old new : Record} : updateRow db kind assigned old new = .ok f ↔
    Updates assigned (identity kind old new)
      (Truth.or (Truth.not (transitionValid kind old new)) (Truth.not (settledShape kind new db)))
      (receipt kind old new) (evidence kind old new) (identityColumns kind)
      (fun f' => claimFence db kind new false = .ok f') (releaseFence kind new) db f := by
  simp only [updateRow, Updates, claimOnStatus, bind_eq_ok, raise_eq_ok, onUpdateOf_eq_ok,
    exists_const, pure_eq_ok, List.mem_singleton, exists_eq_left]
  by_cases hstatus : Column.status ∈ assigned
  · simp only [if_pos hstatus]
    constructor
    · rintro ⟨f', hclaim, hevidence, hidentity, hreceipt, hstate, hf⟩
      exact ⟨hidentity, hstate, hreceipt, hevidence, f', hclaim, hf⟩
    · rintro ⟨hidentity, hstate, hreceipt, hevidence, f', hclaim, hf⟩
      exact ⟨f', hclaim, hevidence, hidentity, hreceipt, hstate, hf⟩
  · simp only [if_neg hstatus, Except.ok.injEq]
    constructor
    · rintro ⟨_, rfl, hevidence, hidentity, hreceipt, hstate, hf⟩
      exact ⟨hidentity, hstate, hreceipt, hevidence, hf⟩
    · rintro ⟨hidentity, hstate, hreceipt, hevidence, hf⟩
      exact ⟨_, rfl, hevidence, hidentity, hreceipt, hstate, hf⟩

theorem updateResearch_eq_ok {old new : ResearchAttempt} :
    Sqlite.updateResearch db assigned old new = .ok f ↔
      Updates assigned (Sqlite.researchIdentity old new) (Sqlite.researchState db old new)
        (Sqlite.researchReceipt old new) (Sqlite.researchEvidence old new)
        [.attemptId, .jobId, .quoteId, .createdAt]
        (fun f' => Sqlite.reclaimResearch db new = .ok f')
        (Sqlite.release · new.quoteId .research new.attemptId new.status) db f := by
  simp only [Sqlite.updateResearch, Updates, bind_eq_ok, raise_eq_ok, onUpdateOf_eq_ok, exists_const,
    List.mem_singleton, exists_eq_left]
  by_cases hstatus : Column.status ∈ assigned
  · simp only [if_pos hstatus, bind_eq_ok, pure_eq_ok]
  · simp only [if_neg hstatus, pure_eq_ok]

theorem updateDirect_eq_ok {old new : DirectAttempt} :
    Sqlite.updateDirect db assigned old new = .ok f ↔
      Updates assigned (Sqlite.directIdentity old new) (Sqlite.directState db old new)
        (Sqlite.directReceipt old new) (Sqlite.directEvidence old new)
        [.attemptId, .quoteId, .queryTokenHash, .createdAt]
        (fun f' => Sqlite.reclaimDirect db new = .ok f')
        (Sqlite.release · new.quoteId .direct new.attemptId new.status) db f := by
  simp only [Sqlite.updateDirect, Updates, bind_eq_ok, raise_eq_ok, onUpdateOf_eq_ok, exists_const,
    List.mem_singleton, exists_eq_left]
  by_cases hstatus : Column.status ∈ assigned
  · simp only [if_pos hstatus, bind_eq_ok, pure_eq_ok]
  · simp only [if_neg hstatus, pure_eq_ok]

theorem insertResearch_agrees {new : ResearchAttempt} :
    Sqlite.insertResearch db new = .ok f ↔ insertRow db .research (ofResearch new) = .ok f := by
  rw [insertRow_eq_ok, ← claimResearch_iff, ← researchInsertShape_iff]
  simp only [Sqlite.insertResearch, bind_eq_ok, raise_eq_ok, exists_const]
  exact and_comm

theorem updateResearch_agrees {old new : ResearchAttempt} :
    Sqlite.updateResearch db assigned old new = .ok f ↔
      updateRow db .research assigned (ofResearch old) (ofResearch new) = .ok f := by
  rw [updateResearch_eq_ok, updateRow_eq_ok]
  simp only [Updates, researchIdentity_iff, researchState_iff, researchReceipt_iff,
    researchEvidence_iff, reclaimResearch_iff]
  exact Iff.rfl

theorem insertDirect_agrees {new : DirectAttempt} :
    insertRow db .direct (ofDirect new) = .ok f ↔
      Sqlite.insertDirect db new = .ok f ∧ new.platformRecipientWallet ≠ none := by
  rw [insertRow_eq_ok, ← claimDirect_iff, postgres_insertShape, ← sqlite_insertShape]
  simp only [Sqlite.insertDirect, bind_eq_ok, raise_eq_ok, exists_const]
  rw [← and_assoc, and_comm (a := Sqlite.claimDirect db new = .ok f)]

theorem updateDirect_agrees {old new : DirectAttempt} :
    updateRow db .direct assigned (ofDirect old) (ofDirect new) = .ok f ↔
      Sqlite.updateDirect db assigned old new = .ok f ∧ new.platformRecipientWallet ≠ none := by
  rw [updateDirect_eq_ok, updateRow_eq_ok]
  simp only [Updates, directIdentity_iff, sqlite_state, postgres_state, directReceipt_iff,
    directEvidence_iff, reclaimDirect_iff]
  constructor
  · rintro ⟨hidentity, ⟨hstate, hwallet⟩, hrest⟩
    exact ⟨⟨hidentity, hstate, hrest⟩, hwallet⟩
  · rintro ⟨⟨hidentity, hstate, hrest⟩, hwallet⟩
    exact ⟨hidentity, ⟨hstate, hwallet⟩, hrest⟩

end Changes

section Admission

variable {old new : DirectAttempt}

theorem claimDirect_some (h : new.status = .prepared ∨ new.status = .ambiguous) :
    (∃ f, Sqlite.claimDirect db new = .ok f) ↔ ForSale db new.quoteId ∧
      (Owned db.fences .direct new.quoteId new.attemptId ∨
        Free db.fences new.quoteId new.attemptId) := by
  have hmem : new.status ∈ [AttemptStatus.prepared, .ambiguous] := by simpa using h
  have hactive : activeAttempt .direct (ofDirect new) = true := decide_eq_true hmem
  have hcond : activeAttempt .direct (ofDirect new) = true ∧
      ¬(true = false ∧ (heldFence db .direct (ofDirect new)).holds) := ⟨hactive, by simp⟩
  simp only [claimDirect_iff, claimFence_eq_ok, if_pos hcond, forSale_iff]
  rw [← owned_insertFence (t := new.createdAt)]
  constructor
  · rintro ⟨f, hpayable, -, hreserved, howned, -⟩
    exact ⟨⟨hpayable, hreserved trivial⟩, howned⟩
  · rintro ⟨⟨hpayable, hreserved⟩, howned⟩
    exact ⟨_, hpayable, by simp, fun _ => hreserved, howned, rfl⟩

theorem heldDirect_owned : (heldFence db .direct (ofDirect new)).holds ↔
    Owned db.fences .direct new.quoteId new.attemptId ∧ ∃ quote ∈ db.paymentQuotes.rows,
      quote.id = new.quoteId ∧ (quote.status = "quoted" ∨ quote.status = "delivered") ∧
      quote.paymentRail = some "pay_sh" := by
  rw [heldDirect_iff]
  constructor
  · rintro ⟨fence, hfence, quote, hquote, hjoin, hfq, hfk, hfa, hstatus, hrail⟩
    exact ⟨⟨fence, hfence, hfq, hfk, hfa⟩, quote, hquote, hjoin.trans hfq, by simpa using hstatus, hrail⟩
  · rintro ⟨⟨fence, hfence, hfq, hfk, hfa⟩, quote, hquote, hid, hstatus, hrail⟩
    exact ⟨fence, hfence, quote, hquote, hid.trans hfq.symm, hfq, hfk, hfa, by simpa using hstatus,
      hrail⟩

theorem reclaimDirect_some : (∃ f, Sqlite.reclaimDirect db new = .ok f) ↔
    (new.status = .prepared ∨ new.status = .ambiguous → Reclaimable db new) := by
  by_cases hactive : new.status ∈ [AttemptStatus.prepared, .ambiguous]
  · have hactive' : activeAttempt .direct (ofDirect new) = true := decide_eq_true hactive
    have hor : new.status = .prepared ∨ new.status = .ambiguous := by simpa using hactive
    simp only [reclaimDirect_iff]
    by_cases hheld : (heldFence db .direct (ofDirect new)).holds
    · refine ⟨fun _ _ => .inl (heldDirect_owned.mp hheld), fun _ => ⟨db.fences, ?_⟩⟩
      rw [claimFence_eq_ok, if_neg fun h => h.2 ⟨rfl, hheld⟩]
    · have hcond : activeAttempt .direct (ofDirect new) = true ∧
          ¬(false = false ∧ (heldFence db .direct (ofDirect new)).holds) :=
        ⟨hactive', fun h => hheld h.2⟩
      constructor
      · rintro ⟨f, hclaim⟩ -
        rw [claimFence_eq_ok, if_pos hcond] at hclaim
        obtain ⟨hpayable, -, hreserved, howned, -⟩ := hclaim
        have hsale := forSale_iff.mpr ⟨hpayable, hreserved rfl⟩
        rcases owned_insertFence.mp howned with howned | hfree
        · obtain ⟨quote, hquote, hid, hquoted, hrail, -⟩ := hsale
          exact absurd (heldDirect_owned.mpr ⟨howned, quote, hquote, hid, .inl hquoted, hrail⟩) hheld
        · exact .inr ⟨hsale, hfree⟩
      · intro h
        rcases h hor with hheld' | ⟨hsale, hfree⟩
        · exact absurd (heldDirect_owned.mpr hheld') hheld
        · obtain ⟨hpayable, hreserved⟩ := forSale_iff.mp hsale
          refine ⟨insertFence db.fences ⟨new.quoteId, .direct, new.attemptId, new.createdAt⟩, ?_⟩
          rw [claimFence_eq_ok, if_pos hcond]
          exact ⟨hpayable, by simp, fun _ => hreserved, owned_insertFence.mpr (.inr hfree), rfl⟩
  · have hactive' : ¬activeAttempt .direct (ofDirect new) = true := by
      simpa [activeAttempt, ofDirect] using hactive
    have hor : ¬(new.status = .prepared ∨ new.status = .ambiguous) := by simpa using hactive
    refine ⟨fun _ h => absurd h hor, fun _ => ⟨db.fences, ?_⟩⟩
    rw [reclaimDirect_iff, claimFence_eq_ok, if_neg fun h => hactive' h.1]

theorem insertDirect_some :
    (∃ f, Sqlite.insertDirect db new = .ok f) ↔ DirectInsert db new := by
  simp only [Sqlite.insertDirect, bind_eq_ok, raise_eq_ok, exists_const, exists_and_left,
    sqlite_insertShape]
  constructor
  · rintro ⟨⟨hshape, hinitial, hrunning⟩, hclaim⟩
    obtain ⟨hsale, hfence⟩ := (claimDirect_some (.inl hinitial)).mp hclaim
    exact ⟨hshape, hinitial, hrunning, hsale, hfence⟩
  · rintro ⟨hshape, hinitial, hrunning, hsale, hfence⟩
    exact ⟨⟨hshape, hinitial, hrunning⟩, (claimDirect_some (.inl hinitial)).mpr ⟨hsale, hfence⟩⟩

theorem sameIdentity_iff : ¬(Sqlite.directIdentity old new).holds ↔ SameIdentity old new := by
  simp only [Sqlite.directIdentity, holds_any_cons, holds_any_nil, holds_is, not_or, not_not,
    not_false_eq_true, and_true]
  constructor
  · rintro ⟨ha, hq, ht, hc⟩
    exact ⟨ha, hq, ht, hc⟩
  · rintro ⟨ha, hq, ht, hc⟩
    exact ⟨ha, hq, ht, hc⟩

theorem sameEvidence_iff : ¬(Sqlite.directEvidence old new).holds ↔ SameEvidence old new := by
  simp only [Sqlite.directEvidence, holds_any_cons, holds_any_nil, holds_is, not_or, not_not,
    not_false_eq_true, and_true]
  constructor
  · rintro ⟨hc, he, hp, hr, hs, hb, hx, ht⟩
    exact ⟨hc, he, hp, hr, hs, hb, hx, ht⟩
  · rintro ⟨hc, he, hp, hr, hs, hb, hx, ht⟩
    exact ⟨hc, he, hp, hr, hs, hb, hx, ht⟩

theorem receiptKept_iff (h : DirectState db old new) : ¬(Sqlite.directReceipt old new).holds ↔
    new.transactionSignature = old.transactionSignature ∨
      (new.status = .settled ∧ old.transactionSignature = none) := by
  have hblank := h.receipt
  have hsettled : new.status = .settled → new.transactionSignature ≠ none := fun hs => (h.settled hs).1
  have hne : (Truth.compare Ne new.transactionSignature (some "")).fails ↔
      new.transactionSignature = some "" := by
    rcases new.transactionSignature with _ | x <;> simp
  simp only [Sqlite.directReceipt, holds_all_cons, holds_all_nil, holds_not, fails_all_cons,
    fails_all_nil, holds_is, fails_is, hne, and_true, or_false, not_and, not_or, not_not]
  tauto

theorem updateDirect_some :
    (∃ f, Sqlite.updateDirect db assigned old new = .ok f) ↔ DirectUpdate db assigned old new := by
  simp only [updateDirect_eq_ok, Updates, sameIdentity_iff, sqlite_state, sameEvidence_iff]
  have hfence : (∃ f, if .status ∈ assigned then ∃ f', Sqlite.reclaimDirect db new = .ok f' ∧
      Sqlite.release f' new.quoteId .direct new.attemptId new.status = f else db.fences = f) ↔
      (Column.status ∈ assigned → new.status = .prepared ∨ new.status = .ambiguous →
        Reclaimable db new) := by
    rw [← reclaimDirect_some]
    by_cases hstatus : Column.status ∈ assigned
    · simp only [hstatus, if_true, forall_const]
      exact ⟨fun ⟨_, f', hf', _⟩ => ⟨f', hf'⟩, fun ⟨f', hf'⟩ => ⟨_, f', hf', rfl⟩⟩
    · simp only [hstatus, if_false, false_imp_iff, iff_true]
      exact ⟨_, rfl⟩
  constructor
  · rintro ⟨f, hidentity, hstate, hreceipt, hevidence, hf⟩
    exact ⟨hstate, hidentity, hevidence, fun h => (receiptKept_iff hstate).mp (hreceipt h),
      hfence.mp ⟨f, hf⟩⟩
  · rintro ⟨hstate, hidentity, hevidence, hreceipt, hclaim⟩
    obtain ⟨f, hf⟩ := hfence.mpr hclaim
    exact ⟨f, hidentity, hstate, fun h => (receiptKept_iff hstate).mpr (hreceipt h), hevidence, hf⟩

-- when the triggers of the two databases agree
def AgreeOn (db : Surroundings) : Change → Prop
  | .insertDirect new => new.platformRecipientWallet ≠ none ∨ ¬DirectInsert db new
  | .updateDirect assigned old new =>
    new.platformRecipientWallet ≠ none ∨ ¬DirectUpdate db assigned old new
  | _ => True

theorem toOption_eq_iff {ε α : Type} {x y : Except ε α} :
    x.toOption = y.toOption ↔ ∀ a, x = .ok a ↔ y = .ok a := by
  rw [Option.ext_iff]
  simp only [toOption_eq_some]

theorem refused_iff {x y : Except String Fences} {p : Prop} (h : ∀ f, y = .ok f ↔ x = .ok f ∧ p) :
    x.toOption = y.toOption ↔ p ∨ ¬∃ f, x = .ok f := by
  rw [toOption_eq_iff]
  constructor
  · intro hsame
    by_cases hsome : ∃ f, x = .ok f
    · obtain ⟨f, hf⟩ := hsome
      exact .inl ((h f).mp ((hsame f).mp hf)).2
    · exact .inr hsome
  · rintro (hp | hnone)
    · exact fun f => ⟨fun hx => (h f).mpr ⟨hx, hp⟩, fun hy => ((h f).mp hy).1⟩
    · exact fun f => ⟨fun hx => absurd ⟨f, hx⟩ hnone, fun hy => ((h f).mp hy).1⟩

theorem guards_agree_iff (db : Surroundings) (change : Change) :
    (Sqlite.apply db change).toOption = (Postgres.apply db change).toOption ↔ AgreeOn db change := by
  cases change with
  | insertResearch new =>
    simp only [AgreeOn, iff_true]
    exact toOption_eq_iff.mpr fun _ => insertResearch_agrees
  | updateResearch assigned old new =>
    simp only [AgreeOn, iff_true]
    exact toOption_eq_iff.mpr fun _ => updateResearch_agrees
  | deleteResearch old =>
    simp only [AgreeOn, iff_true]
    refine toOption_eq_iff.mpr fun f => ?_
    simp only [Sqlite.apply, Postgres.apply, Sqlite.deleteResearch, deleteRow, Sqlite.researchDelete,
      activeDelete, bind_eq_ok, raise_eq_ok, exists_const, pure_eq_ok, holds_any_cons,
      holds_any_nil, holds_all_cons, holds_all_nil, holds_is]
    simp [ofResearch]
  | insertDirect new =>
    have hagree := refused_iff fun f => @insertDirect_agrees db f new
    rw [insertDirect_some] at hagree
    exact hagree
  | updateDirect assigned old new =>
    have hagree := refused_iff fun f => @updateDirect_agrees db assigned f old new
    rw [updateDirect_some] at hagree
    exact hagree
  | deleteDirect old =>
    simp only [AgreeOn, iff_true]
    refine toOption_eq_iff.mpr fun f => ?_
    simp only [Sqlite.apply, Postgres.apply, Sqlite.deleteDirect, deleteRow, Sqlite.directDelete,
      activeDelete, bind_eq_ok, raise_eq_ok, exists_const, pure_eq_ok, holds_any_cons,
      holds_any_nil, holds_all_cons, holds_all_nil, holds_is]
    simp [ofDirect]

-- an attempt older than its platform_recipient_wallet column
def legacyAttempt (status : AttemptStatus) (h : status ≠ .claimed) : DirectAttempt :=
  ⟨"attempt", "quote", "token", status, "challenge", "external", "payer", none, "signed", "hash",
    200, none, 100, 100, none, h⟩

def legacyTables : Surroundings :=
  ⟨⟨[⟨"quote", "query", "handle", "quoted", some "pay_sh"⟩], by decide⟩, ⟨[], by decide⟩, [], [], [],
    ⟨[⟨"quote", .direct, "attempt", 100⟩], by decide⟩⟩

def legacyUpdate : Change :=
  .updateDirect [.status, .reconcileAfter, .failureReason] (legacyAttempt .prepared (by decide))
    (legacyAttempt .ambiguous (by decide))

theorem legacy_update_splits :
    (Sqlite.apply legacyTables legacyUpdate).isOk = true ∧
      (Postgres.apply legacyTables legacyUpdate).isOk = false := by
  decide

end Admission

end Obulus.Guards
