import Obulus.Funds.Prepaid
import Mathlib.Data.Rat.Defs

namespace Obulus.Calls

open Foundation Store Funds

def strikeLimit : Nat := 3
def autoMatchStrikeLimit : Nat := 2
def payoutHoldMs : Nat := 14 * 24 * 60 * 60 * 1000
def answerReservationTtlMs : Nat := 10 * 60 * 1000

section Records

structure User where
  id : String
  deleted : Bool
  deriving DecidableEq, Repr

structure UserProfile where
  userId : String
  ageBand : String
  region : String
  household : String
  field : String
  speaksTo : List String
  wallet : Option String
  walletVerified : Bool
  autoMatch : Bool
  agents : Bool
  deriving DecidableEq, Repr

structure StoredCall extends Funds.OpenCall where
  question : String
  shelf : String
  category : String
  filters : SearchFilters
  deriving DecidableEq, Repr

structure Reservation where
  openCallId : String
  userId : String
  expiresAt : Nat
  deriving DecidableEq, Repr

def Reservation.key (r : Reservation) : String × String := (r.openCallId, r.userId)

structure AnswerIssue where
  rule : String
  detail : String
  deriving DecidableEq, Repr

structure InterviewResponse where
  questionId : String
  prompt : String
  answer : String
  deriving DecidableEq, Repr

inductive MemoryStatus
  | settled
  | voided
  deriving DecidableEq, Repr

inductive MemoryType
  | observation
  | reuse
  | correction
  | reflection
  deriving DecidableEq, Repr

structure MemoryEntry where
  id : String
  userId : String
  openCallId : Option String
  documentId : Option String
  question : String
  answer : String
  shelf : String
  earnedKrw : Nat
  createdAt : Nat
  via : String
  status : MemoryStatus
  flags : List AnswerIssue
  interview : List InterviewResponse
  memoryType : MemoryType
  version : Nat
  locked : Bool
  sourceIds : List String
  deriving DecidableEq, Repr

structure Document where
  id : String
  handle : String
  authorId : String
  shelf : String
  category : String
  content : String
  priceKrw : Nat
  createdAt : Nat
  locked : Bool
  version : Nat
  deriving DecidableEq, Repr

inductive DisputeStatus
  | pending
  | approved
  | rejected
  deriving DecidableEq, Repr

structure Dispute where
  memoryId : String
  userId : String
  status : DisputeStatus
  reviewerId : Option String
  reviewNote : Option String
  reviewedAt : Option Nat
  deriving DecidableEq, Repr

inductive EarningStatus
  | accrued
  | held
  | claimable
  | onchain
  deriving DecidableEq, Repr

structure EarningEvent where
  id : String
  settlementId : Option String
  memoryId : Option String
  documentId : Option String
  authorId : String
  source : String
  amountKrw : Nat
  amountAtomic : Nat
  recipientWallet : Option String
  payoutStatus : EarningStatus
  availableAt : Nat
  createdAt : Nat
  deriving DecidableEq, Repr

structure Balance where
  userId : String
  availableKrw : Nat
  reservedKrw : Nat
  heldKrw : Nat
  availableAtomic : Nat
  heldAtomic : Nat
  deriving DecidableEq, Repr

structure QueryMatch where
  queryId : String
  documentHandle : String
  quotedPriceKrw : Nat
  deriving DecidableEq, Repr

def QueryMatch.key (m : QueryMatch) : String × String := (m.queryId, m.documentHandle)

-- a settlement of `open_documents`; those of a payment rail are in `funds`
structure DemoSettlement where
  id : String
  queryId : String
  payer : Option String
  documentHandles : List String
  totalKrw : Nat
  deriving DecidableEq, Repr

end Records

-- the queries, quotes, chain settlements and prepaid accounts are those of `funds`
structure Database where
  users : Table User.id
  profiles : Table UserProfile.userId
  openCalls : Table fun c : StoredCall => c.id
  reservations : Table Reservation.key
  memoryEntries : Table fun m : MemoryEntry => m.id
  documents : Table fun d : Document => d.id
  disputes : Table Dispute.memoryId
  earningEvents : Table fun e : EarningEvent => e.id
  balances : Table Balance.userId
  payoutClaims : Table Payout.NewClaim.id
  queryMatches : Table QueryMatch.key
  settlements : Table DemoSettlement.id
  funds : Funds.Database

def Database.empty (funds : Funds.Database) : Database where
  users := .empty
  profiles := .empty
  openCalls := .empty
  reservations := .empty
  memoryEntries := .empty
  documents := .empty
  disputes := .empty
  earningEvents := .empty
  balances := .empty
  payoutClaims := .empty
  queryMatches := .empty
  settlements := .empty
  funds := funds

-- how texts are read and appraised; a similarity is an f32, given by the rational it stands for
structure Appraisal where
  encoding : Encoding
  handleFromId : String → String
  assess : String → String → List AnswerIssue
  nearDuplicate : String → String → Bool
  questionSimilarity : String → String → ℚ

-- the f32 nearest to 0.82
def agentMatchThreshold : ℚ := 13757317 / 16777216

end Obulus.Calls
