import Obulus.Foundation.Checks
import Obulus.Foundation.Table
import Obulus.Foundation.Ternary

namespace Obulus.Guards

open Foundation

inductive AttemptKind
  | research
  | direct
  deriving DecidableEq, Repr

inductive AttemptStatus
  | claimed
  | prepared
  | ambiguous
  | settled
  | released
  deriving DecidableEq, Repr

inductive Column
  | attemptId
  | jobId
  | quoteId
  | queryTokenHash
  | status
  | challengeId
  | externalId
  | payerWallet
  | platformRecipientWallet
  | signedTransactionBase64
  | recentBlockhash
  | challengeExpiresAt
  | transactionSignature
  | createdAt
  | preparedAt
  | completedAt
  | absenceObservedAt
  | reconcileAfter
  | failureReason
  deriving DecidableEq, Repr

-- a row of research_payment_attempts
structure ResearchAttempt where
  attemptId : String
  jobId : String
  quoteId : String
  status : AttemptStatus
  challengeId : Option String
  externalId : Option String
  payerWallet : Option String
  platformRecipientWallet : Option String
  signedTransactionBase64 : Option String
  recentBlockhash : Option String
  challengeExpiresAt : Option Int
  transactionSignature : Option String
  createdAt : Int
  preparedAt : Option Int
  completedAt : Option Int
  deriving DecidableEq, Repr

-- a row of direct_pay_sh_attempts; a migrated table lets platform_recipient_wallet be NULL
structure DirectAttempt where
  attemptId : String
  quoteId : String
  queryTokenHash : String
  status : AttemptStatus
  challengeId : String
  externalId : String
  payerWallet : String
  platformRecipientWallet : Option String
  signedTransactionBase64 : String
  recentBlockhash : String
  challengeExpiresAt : Int
  transactionSignature : Option String
  createdAt : Int
  preparedAt : Int
  completedAt : Option Int
  statusCheck : status ≠ .claimed
  deriving DecidableEq, Repr

structure PaymentQuote where
  id : String
  queryId : String
  documentHandle : String
  status : String
  paymentRail : Option String
  deriving DecidableEq, Repr

structure BundleQuote where
  id : String
  queryId : String
  status : String
  paymentAttemptQuoteId : Option String
  paymentAttemptId : Option String
  deriving DecidableEq, Repr

structure BundleDocument where
  quoteId : String
  documentHandle : String
  payShQuoteId : Option String
  deriving DecidableEq, Repr

structure ChainAttempt where
  settlementKind : String
  quoteId : String
  deriving DecidableEq, Repr

structure Fence where
  quoteId : String
  attemptKind : AttemptKind
  attemptId : String
  createdAt : Int
  deriving DecidableEq, Repr

abbrev Fences := Table Fence.quoteId

-- the tables the triggers read
scoped instance signature_lawful : LawfulBEq (Option String) := inferInstance

structure Surroundings where
  paymentQuotes : Table PaymentQuote.id
  bundleQuotes : Table BundleQuote.id
  bundleDocuments : List BundleDocument
  chainAttempts : List ChainAttempt
  settlementSignatures : List (Option String)
  fences : Fences

inductive Change
  | insertResearch (new : ResearchAttempt)
  | updateResearch (assigned : List Column) (old new : ResearchAttempt)
  | deleteResearch (old : ResearchAttempt)
  | insertDirect (new : DirectAttempt)
  | updateDirect (assigned : List Column) (old new : DirectAttempt)
  | deleteDirect (old : DirectAttempt)

def raise (condition : Truth) (message : String) : Except String Unit :=
  reject condition.holds message

-- a trigger BEFORE UPDATE OF the columns
def onUpdateOf (assigned columns : List Column) (trigger : Except String Unit) : Except String Unit :=
  if ∃ c ∈ columns, c ∈ assigned then trigger else .ok ()

-- INSERT OR IGNORE, ON CONFLICT DO NOTHING: quote_id and attempt_id are both unique
def insertFence (fences : Fences) (fence : Fence) : Fences :=
  if ∃ f ∈ fences.rows, f.attemptId = fence.attemptId then fences
  else (fences.insert? fence).getD fences

def deleteFence (fences : Fences) (quoteId : String) (kind : AttemptKind) (attemptId : String) :
    Fences :=
  fences.delete fun f => f.quoteId = quoteId ∧ f.attemptKind = kind ∧ f.attemptId = attemptId

theorem raise_eq_ok {condition : Truth} {message : String} {u : Unit} :
    raise condition message = .ok u ↔ ¬condition.holds :=
  reject_eq_ok

theorem onUpdateOf_eq_ok {assigned columns : List Column} {trigger : Except String Unit} {u : Unit} :
    onUpdateOf assigned columns trigger = .ok u ↔
      ((∃ c ∈ columns, c ∈ assigned) → trigger = .ok ()) := by
  unfold onUpdateOf
  split
  · next h => exact ⟨fun ht _ => ht, fun ht => ht h⟩
  · next h => exact ⟨fun _ hc => absurd hc h, fun _ => rfl⟩

end Obulus.Guards
