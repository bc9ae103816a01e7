import Obulus.Guards.Sqlite

namespace Obulus.Guards

open Foundation

variable {fences : Fences} {q a : String} {kind : AttemptKind} {t : Int}

section Fences

def Owned (fences : Fences) (kind : AttemptKind) (q a : String) : Prop :=
  ∃ fence ∈ fences.rows, fence.quoteId = q ∧ fence.attemptKind = kind ∧ fence.attemptId = a

def Free (fences : Fences) (q a : String) : Prop :=
  ∀ fence ∈ fences.rows, fence.quoteId ≠ q ∧ fence.attemptId ≠ a

theorem insertFence_owned (h : Owned fences kind q a) : insertFence fences ⟨q, kind, a, t⟩ = fences := by
  obtain ⟨fence, hmem, -, -, ha⟩ := h
  exact if_pos ⟨fence, hmem, ha⟩

theorem owned_insertFence :
    Owned (insertFence fences ⟨q, kind, a, t⟩) kind q a ↔ Owned fences kind q a ∨ Free fences q a := by
  by_cases hattempt : ∃ fence ∈ fences.rows, fence.attemptId = a
  · have hsame : insertFence fences ⟨q, kind, a, t⟩ = fences := if_pos hattempt
    rw [hsame]
    refine ⟨.inl, ?_⟩
    rintro (howned | hfree)
    · exact howned
    · obtain ⟨fence, hmem, ha⟩ := hattempt
      exact absurd ha (hfree fence hmem).2
  · have hinsert : insertFence fences ⟨q, kind, a, t⟩ =
        (fences.insert? ⟨q, kind, a, t⟩).getD fences := if_neg hattempt
    have hnot : ¬Owned fences kind q a := by
      rintro ⟨fence, hmem, -, -, ha⟩
      exact hattempt ⟨fence, hmem, ha⟩
    rw [hinsert]
    cases hnew : fences.insert? ⟨q, kind, a, t⟩ with
    | none =>
      rw [Option.getD_none]
      refine ⟨.inl, ?_⟩
      rintro (howned | hfree)
      · exact howned
      · obtain ⟨fence, hmem, hq⟩ := Table.insert?_eq_none.mp hnew
        exact absurd hq (hfree fence hmem).1
    | some fences' =>
      rw [Option.getD_some]
      obtain ⟨hget, hrows⟩ := Table.insert?_eq_some.mp hnew
      constructor
      · rintro -
        refine .inr fun fence hmem => ⟨Table.get?_eq_none.mp hget fence hmem, ?_⟩
        exact fun ha => hattempt ⟨fence, hmem, ha⟩
      · rintro -
        exact ⟨⟨q, kind, a, t⟩, by rw [hrows]; simp, rfl, rfl, rfl⟩

end Fences

section Direct

variable (db : Surroundings)

def ForSale (q : String) : Prop :=
  ∃ quote ∈ db.paymentQuotes.rows, quote.id = q ∧ quote.status = "quoted" ∧
    quote.paymentRail = some "pay_sh" ∧ Sqlite.unreserved db quote

def Sold (q : String) : Prop :=
  ∃ quote ∈ db.paymentQuotes.rows, quote.id = q ∧ quote.status = "delivered" ∧
    quote.paymentRail = some "pay_sh" ∧ some ("pay.sh:" ++ q) ∈ db.settlementSignatures

-- a direct attempt whose platform recipient is left open
structure DirectShape (new : DirectAttempt) : Prop where
  texts : ∀ text ∈ [new.queryTokenHash, new.challengeId, new.externalId, new.payerWallet,
    new.signedTransactionBase64, new.recentBlockhash], text ≠ ""
  wallet : new.platformRecipientWallet ≠ some ""
  window : new.preparedAt < new.challengeExpiresAt
  created : 0 < new.createdAt ∧ new.createdAt ≤ new.preparedAt
  receipt : new.transactionSignature ≠ some ""

structure DirectInsert (new : DirectAttempt) : Prop extends DirectShape new where
  initial : new.status = .prepared
  running : new.completedAt = none
  forSale : ForSale db new.quoteId
  fence : Owned db.fences .direct new.quoteId new.attemptId ∨ Free db.fences new.quoteId new.attemptId

structure SameIdentity (old new : DirectAttempt) : Prop where
  attemptId : new.attemptId = old.attemptId
  quoteId : new.quoteId = old.quoteId
  queryTokenHash : new.queryTokenHash = old.queryTokenHash
  createdAt : new.createdAt = old.createdAt

structure SameEvidence (old new : DirectAttempt) : Prop where
  challengeId : new.challengeId = old.challengeId
  externalId : new.externalId = old.externalId
  payerWallet : new.payerWallet = old.payerWallet
  platformRecipientWallet : new.platformRecipientWallet = old.platformRecipientWallet
  signedTransactionBase64 : new.signedTransactionBase64 = old.signedTransactionBase64
  recentBlockhash : new.recentBlockhash = old.recentBlockhash
  challengeExpiresAt : new.challengeExpiresAt = old.challengeExpiresAt
  preparedAt : new.preparedAt = old.preparedAt

inductive DirectStep : AttemptStatus → AttemptStatus → Prop
  | stay (s : AttemptStatus) : DirectStep s s
  | doubt : DirectStep .prepared .ambiguous
  | settle : DirectStep .prepared .settled
  | release : DirectStep .prepared .released
  | settleLate : DirectStep .ambiguous .settled
  | releaseLate : DirectStep .ambiguous .released

structure DirectState (old new : DirectAttempt) : Prop extends DirectShape new where
  step : DirectStep old.status new.status
  running : new.status = .prepared ∨ new.status = .ambiguous → new.completedAt = none
  ended : new.status = .settled ∨ new.status = .released →
    ∃ completed, new.completedAt = some completed ∧ new.createdAt ≤ completed
  settled : new.status = .settled → new.transactionSignature ≠ none ∧ Sold db new.quoteId

-- the fence of a direct attempt is its own, or its quote is on sale and free
def Reclaimable (new : DirectAttempt) : Prop :=
  (Owned db.fences .direct new.quoteId new.attemptId ∧ ∃ quote ∈ db.paymentQuotes.rows,
    quote.id = new.quoteId ∧ (quote.status = "quoted" ∨ quote.status = "delivered") ∧
    quote.paymentRail = some "pay_sh") ∨
  (ForSale db new.quoteId ∧ Free db.fences new.quoteId new.attemptId)

structure DirectUpdate (assigned : List Column) (old new : DirectAttempt) : Prop
    extends DirectState db old new where
  identity : (∃ c ∈ [.attemptId, .quoteId, .queryTokenHash, .createdAt], c ∈ assigned) →
    SameIdentity old new
  evidence : (∃ c ∈ Sqlite.evidenceColumns, c ∈ assigned) → SameEvidence old new
  receiptKept : Column.transactionSignature ∈ assigned →
    new.transactionSignature = old.transactionSignature ∨
      (new.status = .settled ∧ old.transactionSignature = none)
  fence : Column.status ∈ assigned → new.status = .prepared ∨ new.status = .ambiguous →
    Reclaimable db new

end Direct

end Obulus.Guards
