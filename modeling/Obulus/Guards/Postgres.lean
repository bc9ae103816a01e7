import Obulus.Guards.Attempts

namespace Obulus.Guards.Postgres

open Foundation Truth

-- a row of either table as the shared functions read it, to_jsonb included
structure Record where
  attemptId : String
  jobId : Option String
  quoteId : String
  queryTokenHash : Option String
  status : AttemptStatus
  challengeId : Option String
  externalId : Option String
  payerWallet : Option String
  platformRecipientWallet : Option String
  signedTransactionBase64 : Option String
  recentBlockhash : Option String
  challengeExpiresAt : Option Int
  transactionSignature : Option String
  createdAt : Int
  preparedAt : Option Int
  completedAt : Option Int
  deriving DecidableEq, Repr

def ofResearch (row : ResearchAttempt) : Record :=
  ⟨row.attemptId, row.jobId, row.quoteId, none, row.status, row.challengeId, row.externalId,
    row.payerWallet, row.platformRecipientWallet, row.signedTransactionBase64, row.recentBlockhash,
    row.challengeExpiresAt, row.transactionSignature, row.createdAt, row.preparedAt,
    row.completedAt⟩

def ofDirect (row : DirectAttempt) : Record :=
  ⟨row.attemptId, none, row.quoteId, row.queryTokenHash, row.status, row.challengeId,
    row.externalId, row.payerWallet, row.platformRecipientWallet, row.signedTransactionBase64,
    row.recentBlockhash, row.challengeExpiresAt, row.transactionSignature, row.createdAt,
    row.preparedAt, row.completedAt⟩

section Functions

variable (table : AttemptKind) (old new : Record)

def activeDelete : Truth :=
  any [all [is (table = .research), is (old.status ∈ [.claimed, .prepared, .ambiguous])],
    all [is (table = .direct), is (old.status ∈ [.prepared, .ambiguous])]]

def identity : Truth :=
  any [is (new.attemptId ≠ old.attemptId), is (new.quoteId ≠ old.quoteId),
    is (new.createdAt ≠ old.createdAt),
    all [is (table = .research), compare Ne new.jobId old.jobId],
    all [is (table = .direct), compare Ne new.queryTokenHash old.queryTokenHash]]

def coreEmpty : Truth :=
  all [is (new.challengeId = none), is (new.externalId = none), is (new.payerWallet = none),
    is (new.platformRecipientWallet = none), is (new.signedTransactionBase64 = none),
    is (new.recentBlockhash = none), is (new.challengeExpiresAt = none),
    is (new.transactionSignature = none), is (new.preparedAt = none)]

def coreComplete : Truth :=
  all [is (nullif new.challengeId "" ≠ none), is (nullif new.externalId "" ≠ none),
    is (nullif new.payerWallet "" ≠ none), is (nullif new.platformRecipientWallet "" ≠ none),
    is (nullif new.signedTransactionBase64 "" ≠ none), is (nullif new.recentBlockhash "" ≠ none),
    is (new.challengeExpiresAt ≠ none), is (new.preparedAt ≠ none),
    compare GT.gt new.challengeExpiresAt new.preparedAt,
    compare GE.ge new.preparedAt (some new.createdAt),
    any [is (new.transactionSignature = none), compare Ne new.transactionSignature (some "")]]

def insertShape : Truth :=
  match table with
  | .research => all [is (new.status = .claimed), coreEmpty new, is (new.completedAt = none)]
  | .direct => all [is (new.status = .prepared), coreComplete new,
      is (nullif new.queryTokenHash "" ≠ none), is (0 < new.createdAt), is (new.completedAt = none)]

def transitionValid : Truth :=
  match table with
  | .research => any [is (new.status = old.status),
      all [is (old.status = .claimed), is (new.status ∈ [.prepared, .released])],
      all [is (old.status = .prepared), is (new.status ∈ [.ambiguous, .settled, .released])],
      all [is (old.status = .ambiguous), is (new.status ∈ [.settled, .released])]]
  | .direct => any [is (new.status = old.status),
      all [is (old.status = .prepared), is (new.status ∈ [.ambiguous, .settled, .released])],
      all [is (old.status = .ambiguous), is (new.status ∈ [.settled, .released])]]

def shapeValid : Truth :=
  match table with
  | .research =>
    any [all [is (new.status = .claimed), coreEmpty new, is (new.completedAt = none)],
      all [is (new.status ∈ [.prepared, .ambiguous]), coreComplete new, is (new.completedAt = none)],
      all [is (new.status = .settled), coreComplete new, is (new.transactionSignature ≠ none),
        is (new.completedAt ≠ none), compare GE.ge new.completedAt (some new.createdAt)],
      all [is (new.status = .released), is (new.completedAt ≠ none),
        compare GE.ge new.completedAt (some new.createdAt), any [coreEmpty new, coreComplete new]]]
  | .direct =>
    all [coreComplete new, is (nullif new.queryTokenHash "" ≠ none), is (0 < new.createdAt),
      any [all [is (new.status ∈ [.prepared, .ambiguous]), is (new.completedAt = none)],
        all [is (new.status ∈ [.settled, .released]), is (new.completedAt ≠ none),
          compare GE.ge new.completedAt (some new.createdAt)]],
      any [is (new.status ≠ .settled), is (new.transactionSignature ≠ none)]]

def deliveredQuote (db : Surroundings) (quoteId : String) : Truth :=
  is (∃ quote ∈ db.paymentQuotes.rows, quote.id = quoteId ∧ quote.status = "delivered" ∧
    quote.paymentRail = some "pay_sh" ∧ some ("pay.sh:" ++ quoteId) ∈ db.settlementSignatures)

def settledShape (db : Surroundings) : Truth :=
  if (all [is (new.status = .settled), not (deliveredQuote db new.quoteId)]).holds then some false
  else shapeValid table new

def receipt : Truth :=
  all [is (new.transactionSignature ≠ old.transactionSignature),
    not (all [is (table = .research), is (old.status = .claimed), is (new.status = .prepared),
      is (old.transactionSignature = none)]),
    not (all [is (new.status = .settled), is (old.transactionSignature = none),
      is (new.transactionSignature ≠ none), compare Ne new.transactionSignature (some "")])]

def evidence : Truth :=
  all [any [is (table = .direct),
      not (all [is (old.status = .claimed), is (new.status = .prepared)])],
    any [is (new.challengeId ≠ old.challengeId), is (new.externalId ≠ old.externalId),
      is (new.payerWallet ≠ old.payerWallet),
      is (new.platformRecipientWallet ≠ old.platformRecipientWallet),
      is (new.signedTransactionBase64 ≠ old.signedTransactionBase64),
      is (new.recentBlockhash ≠ old.recentBlockhash),
      is (new.challengeExpiresAt ≠ old.challengeExpiresAt), is (new.preparedAt ≠ old.preparedAt)]]

end Functions

section Fences

variable (db : Surroundings) (table : AttemptKind) (new : Record)

def activeAttempt : Bool :=
  match table with
  | .research => new.status ∈ [.claimed, .prepared, .ambiguous]
  | .direct => new.status ∈ [.prepared, .ambiguous]

def heldFence : Truth :=
  is (∃ fence ∈ db.fences.rows, ∃ quote ∈ db.paymentQuotes.rows, quote.id = fence.quoteId ∧
    fence.quoteId = new.quoteId ∧ fence.attemptKind = table ∧ fence.attemptId = new.attemptId ∧
    quote.paymentRail = some "pay_sh" ∧
    (quote.status = "quoted" ∨ (table = .direct ∧ quote.status = "delivered")) ∧
    (table = .direct ∨ ∃ job ∈ db.bundleQuotes.rows, some job.id = new.jobId ∧
      job.status ∈ ["payment_in_progress", "payment_reconciliation"] ∧
      job.paymentAttemptQuoteId = some new.quoteId ∧ job.paymentAttemptId = some new.attemptId))

def payable : Truth :=
  is (∃ quote ∈ db.paymentQuotes.rows, quote.id = new.quoteId ∧ quote.status = "quoted" ∧
    quote.paymentRail = some "pay_sh")

def planned (inserted : Bool) : Truth :=
  is (∃ pbd ∈ db.bundleDocuments, ∃ pbq ∈ db.bundleQuotes.rows, pbq.id = pbd.quoteId ∧
    pbd.payShQuoteId = some new.quoteId ∧ some pbq.id = new.jobId ∧
    ((inserted = true ∧ new.status = .claimed ∧ pbq.status = "processing") ∨
      (inserted = false ∧ pbq.status ∈ ["payment_in_progress", "payment_reconciliation"] ∧
        pbq.paymentAttemptQuoteId = some new.quoteId ∧ pbq.paymentAttemptId = some new.attemptId)))

def reserved : Truth :=
  is (∃ quote ∈ db.paymentQuotes.rows, ∃ pbq ∈ db.bundleQuotes.rows, ∃ pbd ∈ db.bundleDocuments,
    pbq.queryId = quote.queryId ∧ pbd.quoteId = pbq.id ∧
    pbd.documentHandle = quote.documentHandle ∧ quote.id = new.quoteId ∧
    ((∃ attempt ∈ db.chainAttempts, attempt.settlementKind = "bundle" ∧ attempt.quoteId = pbq.id) ∨
      pbq.status ∉ ["balance_refunded", "deleted"]))

def claimFence (inserted : Bool) : Except String Fences := do
  if activeAttempt table new = false then
    return db.fences
  else if inserted = false ∧ (heldFence db table new).holds then
    return db.fences
  else
    raise (not (payable db new)) "Pay.sh quote is not payable"
    raise (all [is (table = .research), not (planned db new inserted)]) "Pay.sh quote is not payable"
    raise (all [is (table = .direct), reserved db new]) "Pay.sh quote is reserved by a research bundle"
    let fences := insertFence db.fences ⟨new.quoteId, table, new.attemptId, new.createdAt⟩
    raise (not (is (∃ fence ∈ fences.rows, fence.quoteId = new.quoteId ∧
      fence.attemptKind = table ∧ fence.attemptId = new.attemptId)))
      "Pay.sh quote already has another active attempt"
    return fences

def releaseFence (fences : Fences) : Fences :=
  if new.status ∈ [.settled, .released] then
    deleteFence fences new.quoteId table new.attemptId
  else fences

end Fences

section Changes

variable (db : Surroundings) (table : AttemptKind)

def identityColumns : AttemptKind → List Column
  | .research => [.attemptId, .jobId, .quoteId, .createdAt]
  | .direct => [.attemptId, .quoteId, .queryTokenHash, .createdAt]

def evidenceColumns : List Column :=
  [.challengeId, .externalId, .payerWallet, .platformRecipientWallet, .signedTransactionBase64,
    .recentBlockhash, .challengeExpiresAt, .preparedAt]

-- the triggers of an event run in the order of their names

def insertRow (new : Record) : Except String Fences := do
  let fences ← claimFence db table new true
  raise (not (insertShape table new)) "Pay.sh attempt has an invalid initial state"
  return fences

def claimOnStatus (assigned : List Column) (new : Record) : Except String Fences :=
  if .status ∈ assigned then claimFence db table new false else .ok db.fences

def updateRow (assigned : List Column) (old new : Record) : Except String Fences := do
  let fences ← claimOnStatus db table assigned new
  onUpdateOf assigned evidenceColumns
    (raise (evidence table old new) "prepared Pay.sh evidence is immutable")
  onUpdateOf assigned (identityColumns table)
    (raise (identity table old new) "Pay.sh payment attempt identity is immutable")
  onUpdateOf assigned [.transactionSignature]
    (raise (receipt table old new) "Pay.sh transaction receipt is immutable")
  raise (or (not (transitionValid table old new)) (not (settledShape table new db)))
    "Pay.sh attempt state is invalid"
  return if .status ∈ assigned then releaseFence table new fences else fences

def deleteRow (old : Record) : Except String Fences := do
  raise (activeDelete table old) "active Pay.sh payment attempt cannot be deleted"
  return db.fences

def apply : Change → Except String Fences
  | .insertResearch new => insertRow db .research (ofResearch new)
  | .updateResearch assigned old new =>
    updateRow db .research assigned (ofResearch old) (ofResearch new)
  | .deleteResearch old => deleteRow db .research (ofResearch old)
  | .insertDirect new => insertRow db .direct (ofDirect new)
  | .updateDirect assigned old new => updateRow db .direct assigned (ofDirect old) (ofDirect new)
  | .deleteDirect old => deleteRow db .direct (ofDirect old)

end Changes

end Obulus.Guards.Postgres
