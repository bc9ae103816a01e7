import Obulus.Calls.Answer

namespace Obulus.Calls

open Foundation Store Funds

variable (app : Appraisal) (db : Database) (now : Nat)

section Sources

variable (call : StoredCall) (userId : String)

structure AgentMemorySource where
  memoryId : String
  documentId : String
  answer : String
  similarity : ℚ
  deriving DecidableEq

-- a settled memory of the user next to its document, both for sale
def sourceDocument (m : MemoryEntry) : Option Document :=
  if m.userId = userId ∧ m.status = .settled ∧ m.locked = false ∧
      m.memoryType ∈ [.observation, .correction] then
    (m.documentId.bind db.documents.get?).filter fun d =>
      decide (d.locked = false ∧ d.category = call.category)
  else none

def sourceCandidates : List (MemoryEntry × Document) :=
  ((db.memoryEntries.rows.filterMap fun m =>
      (sourceDocument db call userId m).map fun d => (m, d)).mergeSort
    fun x y => decide (y.1.createdAt ≤ x.1.createdAt)).take 100

def betterSource (best : Option AgentMemorySource) (candidate : MemoryEntry × Document) :
    Option AgentMemorySource :=
  let (m, d) := candidate
  let similarity := app.questionSimilarity m.question call.question
  if call.unitPriceKrw < d.priceKrw ∨ similarity < agentMatchThreshold ∨
      best.any (fun current => decide (similarity ≤ current.similarity)) = true then best
  else some ⟨m.id, d.id, m.answer, similarity⟩

def bestAgentMemory : Option AgentMemorySource :=
  (sourceCandidates db call userId).foldl (betterSource app call) none

end Sources

section Matches

variable (ids : AnswerIds) (call : StoredCall) (userId : String)

def reuseEntry (source : AgentMemorySource) : MemoryEntry where
  id := ids.memory
  userId := userId
  openCallId := some call.id
  documentId := some source.documentId
  question := call.question
  answer := source.answer
  shelf := call.shelf
  earnedKrw := call.unitPriceKrw
  createdAt := now
  via := "Auto-match"
  status := .settled
  flags := []
  interview := []
  memoryType := .reuse
  version := 1
  locked := false
  sourceIds := [source.memoryId]

-- none: a funded call, and no wallet that it could be paid to
def matchPayout (profile : UserProfile) : Except StoreError (Option (Option OnchainPayout)) :=
  if call.escrowMode = .x402SolanaEscrow then
    match payoutWallet app profile with
    | none => .ok none
    | some recipientWallet => do
      let payoutAtomic ← openCallAnswerAtomic call
      return some (some ⟨recipientWallet, payoutAtomic⟩)
  else .ok (some none)

def settleReuse (source : AgentMemorySource) :
    Option (Option OnchainPayout) → Except StoreError Database
  | none => .ok db
  | some payout => do
    let db ← drawEscrow db call answerDraw payout
    let krw ← asI64 call.unitPriceKrw
    let now ← asI64 now
    let db ← insertMemory db (reuseEntry now ids call userId source)
    let db ← payAnswer app db call ids payout userId ids.memory source.documentId "open_call"
      "open_call_auto_match" krw now
    return closeIfFilled db call

def settleAgentMatch (profile : UserProfile) (source : AgentMemorySource) :
    Except StoreError Database := do
  reject (call.escrowRemainingKrw < call.unitPriceKrw) (.conflict "open-call escrow is exhausted")
  let payout ← matchPayout app call profile
  settleReuse app db now ids call userId source payout

end Matches

section Pass

variable (ids : String → AnswerIds) (openCallId : String)

def isCandidate (call : StoredCall) (p : UserProfile) : Bool :=
  p.agents && p.autoMatch && (db.users.get? p.userId).any (fun u => !u.deleted) &&
    decide (p.userId ≠ call.ownerId ∧ strikes db p.userId < autoMatchStrikeLimit)

def agentCandidates (call : StoredCall) : List String :=
  (db.profiles.rows.filter (isCandidate db call)).map UserProfile.userId

def agentMatch (call : StoredCall) (userId : String) : Option (UserProfile × AgentMemorySource) :=
  if alreadyAnswered db openCallId userId then none
  else
    ((loadProfile db userId).filter fun p => profileMatches p call.filters).bind fun p =>
      (bestAgentMemory app db call userId).map fun source => (p, source)

def matchCandidate (call : StoredCall) (userId : String) : Except StoreError Database :=
  match agentMatch app db openCallId call userId with
  | none => .ok db
  | some (profile, source) => settleAgentMatch app db now (ids userId) call userId profile source

def agentPass (db : Database) : List String → Except StoreError Database
  | [] => .ok db
  | userId :: rest => do
    let call ← loadCall db openCallId
    if takesAnswers call = false then .ok db
    else do
      let db ← matchCandidate app db now ids openCallId call userId
      agentPass db rest

def runCallAgents : Except StoreError Database :=
  match db.openCalls.get? openCallId with
  | none => .ok db
  | some call => agentPass app now ids openCallId db (agentCandidates db call)

end Pass

end Obulus.Calls
