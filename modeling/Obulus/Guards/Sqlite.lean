import Obulus.Guards.Attempts

namespace Obulus.Guards.Sqlite

open Foundation Truth

section Conditions

def researchDelete (old : ResearchAttempt) : Truth :=
  is (old.status ∈ [.claimed, .prepared, .ambiguous])

def directDelete (old : DirectAttempt) : Truth := is (old.status ∈ [.prepared, .ambiguous])

def researchIdentity (old new : ResearchAttempt) : Truth :=
  any [is (new.attemptId ≠ old.attemptId), is (new.jobId ≠ old.jobId),
    is (new.quoteId ≠ old.quoteId), is (new.createdAt ≠ old.createdAt)]

def directIdentity (old new : DirectAttempt) : Truth :=
  any [is (new.attemptId ≠ old.attemptId), is (new.quoteId ≠ old.quoteId),
    is (new.queryTokenHash ≠ old.queryTokenHash), is (new.createdAt ≠ old.createdAt)]

def researchInsertShape (new : ResearchAttempt) : Truth :=
  any [is (new.status ≠ .claimed), is (new.challengeId ≠ none), is (new.externalId ≠ none),
    is (new.payerWallet ≠ none), is (new.platformRecipientWallet ≠ none),
    is (new.signedTransactionBase64 ≠ none), is (new.recentBlockhash ≠ none),
    is (new.challengeExpiresAt ≠ none), is (new.transactionSignature ≠ none),
    is (new.preparedAt ≠ none), is (new.completedAt ≠ none)]

def directInsertShape (new : DirectAttempt) : Truth :=
  any [is (new.status ≠ .prepared), is (new.queryTokenHash = ""), is (new.challengeId = ""),
    is (new.externalId = ""), is (new.payerWallet = ""),
    compare Eq new.platformRecipientWallet (some ""), is (new.signedTransactionBase64 = ""),
    is (new.recentBlockhash = ""), is (new.challengeExpiresAt ≤ new.preparedAt),
    is (new.createdAt ≤ 0), is (new.preparedAt < new.createdAt),
    compare Eq new.transactionSignature (some ""), is (new.completedAt ≠ none)]

def researchTransition (old new : AttemptStatus) : Truth :=
  any [is (new = old), all [is (old = .claimed), is (new ∈ [.prepared, .released])],
    all [is (old = .prepared), is (new ∈ [.ambiguous, .settled, .released])],
    all [is (old = .ambiguous), is (new ∈ [.settled, .released])]]

def directTransition (old new : AttemptStatus) : Truth :=
  any [is (new = old), all [is (old = .prepared), is (new ∈ [.ambiguous, .settled, .released])],
    all [is (old = .ambiguous), is (new ∈ [.settled, .released])]]

def evidenceEmpty (new : ResearchAttempt) : Truth :=
  all [is (new.challengeId = none), is (new.externalId = none), is (new.payerWallet = none),
    is (new.platformRecipientWallet = none), is (new.signedTransactionBase64 = none),
    is (new.recentBlockhash = none), is (new.challengeExpiresAt = none),
    is (new.transactionSignature = none), is (new.preparedAt = none)]

def evidenceComplete (new : ResearchAttempt) : Truth :=
  all [is (new.challengeId ≠ none), compare Ne new.challengeId (some ""),
    is (new.externalId ≠ none), compare Ne new.externalId (some ""),
    is (new.payerWallet ≠ none), compare Ne new.payerWallet (some ""),
    is (new.platformRecipientWallet ≠ none), compare Ne new.platformRecipientWallet (some ""),
    is (new.signedTransactionBase64 ≠ none), compare Ne new.signedTransactionBase64 (some ""),
    is (new.recentBlockhash ≠ none), compare Ne new.recentBlockhash (some ""),
    is (new.challengeExpiresAt ≠ none), is (new.preparedAt ≠ none),
    compare GT.gt new.challengeExpiresAt new.preparedAt,
    compare GE.ge new.preparedAt (some new.createdAt),
    any [is (new.transactionSignature = none), compare Ne new.transactionSignature (some "")]]

def researchShape (new : ResearchAttempt) : Truth :=
  any [all [is (new.status = .claimed), evidenceEmpty new, is (new.completedAt = none)],
    all [is (new.status ∈ [.prepared, .ambiguous, .settled]), evidenceComplete new,
      any [all [is (new.status ∈ [.prepared, .ambiguous]), is (new.completedAt = none)],
        all [is (new.status = .settled), is (new.completedAt ≠ none),
          is (new.transactionSignature ≠ none),
          compare GE.ge new.completedAt (some new.createdAt)]]],
    all [is (new.status = .released), is (new.completedAt ≠ none),
      compare GE.ge new.completedAt (some new.createdAt),
      any [evidenceEmpty new, evidenceComplete new]]]

def deliveredQuote (db : Surroundings) (quoteId : String) : Truth :=
  is (∃ quote ∈ db.paymentQuotes.rows, quote.id = quoteId ∧ quote.status = "delivered" ∧
    quote.paymentRail = some "pay_sh" ∧ some ("pay.sh:" ++ quoteId) ∈ db.settlementSignatures)

def researchState (db : Surroundings) (old new : ResearchAttempt) : Truth :=
  any [not (researchTransition old.status new.status), not (researchShape new),
    all [is (new.status = .settled), not (deliveredQuote db new.quoteId)]]

def directState (db : Surroundings) (old new : DirectAttempt) : Truth :=
  any [not (directTransition old.status new.status), is (new.queryTokenHash = ""),
    is (new.challengeId = ""), is (new.externalId = ""), is (new.payerWallet = ""),
    compare Eq new.platformRecipientWallet (some ""), is (new.signedTransactionBase64 = ""),
    is (new.recentBlockhash = ""), is (new.challengeExpiresAt ≤ new.preparedAt),
    is (new.createdAt ≤ 0), is (new.preparedAt < new.createdAt),
    compare Eq new.transactionSignature (some ""),
    all [is (new.status ∈ [.prepared, .ambiguous]), is (new.completedAt ≠ none)],
    all [is (new.status ∈ [.settled, .released]),
      any [is (new.completedAt = none), compare LT.lt new.completedAt (some new.createdAt)]],
    all [is (new.status = .settled), is (new.transactionSignature = none)],
    all [is (new.status = .settled), not (deliveredQuote db new.quoteId)]]

def researchReceipt (old new : ResearchAttempt) : Truth :=
  all [is (new.transactionSignature ≠ old.transactionSignature),
    not (all [is (old.status = .claimed), is (new.status = .prepared),
      is (old.transactionSignature = none)]),
    not (all [is (new.status = .settled), is (old.transactionSignature = none),
      is (new.transactionSignature ≠ none), compare Ne new.transactionSignature (some "")])]

def directReceipt (old new : DirectAttempt) : Truth :=
  all [is (new.transactionSignature ≠ old.transactionSignature),
    not (all [is (new.status = .settled), is (old.transactionSignature = none),
      is (new.transactionSignature ≠ none), compare Ne new.transactionSignature (some "")])]

def directEvidence (old new : DirectAttempt) : Truth :=
  any [is (new.challengeId ≠ old.challengeId), is (new.externalId ≠ old.externalId),
    is (new.payerWallet ≠ old.payerWallet),
    is (new.platformRecipientWallet ≠ old.platformRecipientWallet),
    is (new.signedTransactionBase64 ≠ old.signedTransactionBase64),
    is (new.recentBlockhash ≠ old.recentBlockhash),
    is (new.challengeExpiresAt ≠ old.challengeExpiresAt), is (new.preparedAt ≠ old.preparedAt)]

def researchEvidence (old new : ResearchAttempt) : Truth :=
  all [not (all [is (old.status = .claimed), is (new.status = .prepared)]),
    any [is (new.challengeId ≠ old.challengeId), is (new.externalId ≠ old.externalId),
      is (new.payerWallet ≠ old.payerWallet),
      is (new.platformRecipientWallet ≠ old.platformRecipientWallet),
      is (new.signedTransactionBase64 ≠ old.signedTransactionBase64),
      is (new.recentBlockhash ≠ old.recentBlockhash),
      is (new.challengeExpiresAt ≠ old.challengeExpiresAt), is (new.preparedAt ≠ old.preparedAt)]]

end Conditions

section Fences

variable (db : Surroundings)

def claimResearch (new : ResearchAttempt) : Except String Fences := do
  if new.status ∈ [.claimed, .prepared, .ambiguous] then
    raise (not (is (∃ quote ∈ db.paymentQuotes.rows, quote.id = new.quoteId ∧
      quote.status = "quoted" ∧ quote.paymentRail = some "pay_sh" ∧ new.status = .claimed ∧
      ∃ pbd ∈ db.bundleDocuments, ∃ pbq ∈ db.bundleQuotes.rows, pbq.id = pbd.quoteId ∧
        pbd.payShQuoteId = some new.quoteId ∧ pbq.id = new.jobId ∧ pbq.status = "processing")))
      "Pay.sh quote is not payable"
    let fences := insertFence db.fences ⟨new.quoteId, .research, new.attemptId, new.createdAt⟩
    raise (not (is (∃ fence ∈ fences.rows, ∃ quote ∈ db.paymentQuotes.rows,
      quote.id = fence.quoteId ∧ fence.quoteId = new.quoteId ∧ fence.attemptKind = .research ∧
      fence.attemptId = new.attemptId ∧ quote.status = "quoted" ∧
      quote.paymentRail = some "pay_sh")))
      "Pay.sh quote already has another active attempt"
    return fences
  else
    return db.fences

def reclaimResearch (new : ResearchAttempt) : Except String Fences := do
  if new.status ∈ [.claimed, .prepared, .ambiguous] then
    raise (and
      (not (is (∃ fence ∈ db.fences.rows, ∃ quote ∈ db.paymentQuotes.rows,
        quote.id = fence.quoteId ∧ fence.quoteId = new.quoteId ∧ fence.attemptKind = .research ∧
        fence.attemptId = new.attemptId ∧ quote.status = "quoted" ∧
        quote.paymentRail = some "pay_sh" ∧
        ∃ job ∈ db.bundleQuotes.rows, job.id = new.jobId ∧
          job.status ∈ ["payment_in_progress", "payment_reconciliation"] ∧
          job.paymentAttemptQuoteId = some new.quoteId ∧
          job.paymentAttemptId = some new.attemptId)))
      (not (is (∃ quote ∈ db.paymentQuotes.rows, quote.id = new.quoteId ∧
        quote.status = "quoted" ∧ quote.paymentRail = some "pay_sh" ∧
        ∃ pbd ∈ db.bundleDocuments, ∃ pbq ∈ db.bundleQuotes.rows, pbq.id = pbd.quoteId ∧
          pbd.payShQuoteId = some new.quoteId ∧ pbq.id = new.jobId ∧
          pbq.status ∈ ["payment_in_progress", "payment_reconciliation"] ∧
          pbq.paymentAttemptQuoteId = some new.quoteId ∧
          pbq.paymentAttemptId = some new.attemptId))))
      "Pay.sh quote is not payable"
    let fences := insertFence db.fences ⟨new.quoteId, .research, new.attemptId, new.createdAt⟩
    raise (not (is (∃ fence ∈ fences.rows, fence.quoteId = new.quoteId ∧
      fence.attemptKind = .research ∧ fence.attemptId = new.attemptId)))
      "Pay.sh quote already has another active attempt"
    return fences
  else
    return db.fences

-- the documents of live research bundles are not for sale one by one
def unreserved (quote : PaymentQuote) : Prop :=
  ¬∃ pbq ∈ db.bundleQuotes.rows, ∃ pbd ∈ db.bundleDocuments, pbd.quoteId = pbq.id ∧
    pbq.queryId = quote.queryId ∧ pbd.documentHandle = quote.documentHandle ∧
    ((∃ attempt ∈ db.chainAttempts, attempt.settlementKind = "bundle" ∧ attempt.quoteId = pbq.id) ∨
      pbq.status ∉ ["balance_refunded", "deleted"])

instance (quote : PaymentQuote) : Decidable (unreserved db quote) :=
  inferInstanceAs (Decidable (¬_))

def claimDirect (new : DirectAttempt) : Except String Fences := do
  if new.status ∈ [.prepared, .ambiguous] then
    raise (not (is (∃ quote ∈ db.paymentQuotes.rows, quote.id = new.quoteId ∧
      quote.status = "quoted" ∧ quote.paymentRail = some "pay_sh" ∧ unreserved db quote)))
      "Pay.sh quote is not payable"
    let fences := insertFence db.fences ⟨new.quoteId, .direct, new.attemptId, new.createdAt⟩
    raise (not (is (∃ fence ∈ fences.rows, ∃ quote ∈ db.paymentQuotes.rows,
      quote.id = fence.quoteId ∧ fence.quoteId = new.quoteId ∧ fence.attemptKind = .direct ∧
      fence.attemptId = new.attemptId ∧ quote.status ∈ ["quoted", "delivered"] ∧
      quote.paymentRail = some "pay_sh")))
      "Pay.sh quote already has another active attempt"
    return fences
  else
    return db.fences

def reclaimDirect (new : DirectAttempt) : Except String Fences := do
  if new.status ∈ [.prepared, .ambiguous] then
    raise (and
      (not (is (∃ fence ∈ db.fences.rows, ∃ quote ∈ db.paymentQuotes.rows,
        quote.id = fence.quoteId ∧ fence.quoteId = new.quoteId ∧ fence.attemptKind = .direct ∧
        fence.attemptId = new.attemptId ∧ quote.status ∈ ["quoted", "delivered"] ∧
        quote.paymentRail = some "pay_sh")))
      (not (is (∃ quote ∈ db.paymentQuotes.rows, quote.id = new.quoteId ∧
        quote.status = "quoted" ∧ quote.paymentRail = some "pay_sh" ∧ unreserved db quote))))
      "Pay.sh quote is not payable"
    let fences := insertFence db.fences ⟨new.quoteId, .direct, new.attemptId, new.createdAt⟩
    raise (not (is (∃ fence ∈ fences.rows, fence.quoteId = new.quoteId ∧
      fence.attemptKind = .direct ∧ fence.attemptId = new.attemptId)))
      "Pay.sh quote already has another active attempt"
    return fences
  else
    return db.fences

def release (fences : Fences) (quoteId : String) (kind : AttemptKind) (attemptId : String)
    (status : AttemptStatus) : Fences :=
  if status ∈ [.settled, .released] then deleteFence fences quoteId kind attemptId else fences

end Fences

section Changes

variable (db : Surroundings)

def evidenceColumns : List Column :=
  [.challengeId, .externalId, .payerWallet, .platformRecipientWallet, .signedTransactionBase64,
    .recentBlockhash, .challengeExpiresAt, .preparedAt]

def insertResearch (new : ResearchAttempt) : Except String Fences := do
  raise (researchInsertShape new) "research Pay.sh attempt has an invalid initial state"
  claimResearch db new

def updateResearch (assigned : List Column) (old new : ResearchAttempt) : Except String Fences := do
  onUpdateOf assigned [.attemptId, .jobId, .quoteId, .createdAt]
    (raise (researchIdentity old new) "Pay.sh payment attempt identity is immutable")
  raise (researchState db old new) "research Pay.sh attempt state is invalid"
  onUpdateOf assigned [.transactionSignature]
    (raise (researchReceipt old new) "Pay.sh transaction receipt is immutable")
  onUpdateOf assigned evidenceColumns
    (raise (researchEvidence old new) "prepared Pay.sh evidence is immutable")
  if .status ∈ assigned then
    let fences ← reclaimResearch db new
    return release fences new.quoteId .research new.attemptId new.status
  else
    return db.fences

def deleteResearch (old : ResearchAttempt) : Except String Fences := do
  raise (researchDelete old) "active research payment attempt cannot be deleted"
  return db.fences

def insertDirect (new : DirectAttempt) : Except String Fences := do
  raise (directInsertShape new) "direct Pay.sh attempt has an invalid initial state"
  claimDirect db new

def updateDirect (assigned : List Column) (old new : DirectAttempt) : Except String Fences := do
  onUpdateOf assigned [.attemptId, .quoteId, .queryTokenHash, .createdAt]
    (raise (directIdentity old new) "Pay.sh payment attempt identity is immutable")
  raise (directState db old new) "direct Pay.sh attempt state is invalid"
  onUpdateOf assigned [.transactionSignature]
    (raise (directReceipt old new) "Pay.sh transaction receipt is immutable")
  onUpdateOf assigned evidenceColumns
    (raise (directEvidence old new) "prepared Pay.sh evidence is immutable")
  if .status ∈ assigned then
    let fences ← reclaimDirect db new
    return release fences new.quoteId .direct new.attemptId new.status
  else
    return db.fences

def deleteDirect (old : DirectAttempt) : Except String Fences := do
  raise (directDelete old) "active direct Pay.sh attempt cannot be deleted"
  return db.fences

def apply : Change → Except String Fences
  | .insertResearch new => insertResearch db new
  | .updateResearch assigned old new => updateResearch db assigned old new
  | .deleteResearch old => deleteResearch db old
  | .insertDirect new => insertDirect db new
  | .updateDirect assigned old new => updateDirect db assigned old new
  | .deleteDirect old => deleteDirect db old

end Changes

end Obulus.Guards.Sqlite
