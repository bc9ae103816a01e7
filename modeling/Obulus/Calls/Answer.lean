import Obulus.Calls.Ledger

namespace Obulus.Calls

open Foundation Store Funds

section Lookups

variable (db : Database)

def loadCall (openCallId : String) : Except StoreError StoredCall :=
  orReject (db.openCalls.get? openCallId) (.notFound "open call")

def profileMatches (profile : UserProfile) (filters : SearchFilters) : Bool :=
  filters.ageBand.all (fun value => decide (profile.ageBand = value)) &&
    filters.region.all (fun value => decide (profile.region = value)) &&
    filters.household.all (fun value => decide (profile.household = value)) &&
    filters.field.all (fun value => decide (profile.field = value)) &&
    filters.category.all (fun value => profile.speaksTo.contains value)

def alreadyAnswered (openCallId userId : String) : Bool :=
  db.memoryEntries.rows.any fun m => decide (m.openCallId = some openCallId ∧ m.userId = userId)

end Lookups

section Reservations

variable (db : Database) (now : Nat) (openCallId userId : String)

def deleteExpired : Database :=
  { db with reservations := db.reservations.delete fun r => decide (r.expiresAt ≤ now) }

def ownsReservation : Bool :=
  (db.reservations.get? (openCallId, userId)).any fun r => decide (now < r.expiresAt)

def activeOfOthers : Nat :=
  db.reservations.rows.countP fun r =>
    decide (r.openCallId = openCallId ∧ now < r.expiresAt ∧ r.userId ≠ userId)

def deleteReservation : Database :=
  { db with reservations := db.reservations.delete fun r => decide (r.key = (openCallId, userId)) }

def deleteReservations : Database :=
  { db with reservations := db.reservations.delete fun r => decide (r.openCallId = openCallId) }

def checkReservable (call : StoredCall) : Except StoreError Unit := do
  reject (takesAnswers call = false) (.conflict "this open call is no longer accepting answers")
  reject (call.ownerId = userId) (.conflict "you cannot reserve your own open call")
  let profile ← orReject (loadProfile db userId)
    (.conflict "complete onboarding before reserving a call")
  reject (strikeLimit ≤ strikes db userId ∨ profileMatches profile call.filters = false)
    (.conflict "your profile cannot reserve this call")
  reject (alreadyAnswered db openCallId userId = true)
    (.conflict "you have already answered this open call")

def reserveOpenCall : Except StoreError Database := do
  let now ← asI64 now
  let db := deleteExpired db now
  let call ← loadCall db openCallId
  checkReservable db openCallId userId call
  reject (ownsReservation db now openCallId userId = false ∧
      call.target - call.answered ≤ activeOfOthers db now openCallId userId)
    (.conflict "all remaining answer slots are temporarily reserved")
  let expiresAt ← asI64 (saturatingAdd now answerReservationTtlMs)
  return { db with reservations := db.reservations.put ⟨openCallId, userId, expiresAt⟩ }

def releaseOpenCallReservation : Database := deleteReservation db openCallId userId

end Reservations

section Submit

structure AnswerRequest where
  openCallId : String
  userId : String
  answer : String
  interview : List InterviewResponse
  deriving DecidableEq, Repr

def validateInterviewResponse (questionIds : List String) (response : InterviewResponse) :
    Except StoreError InterviewResponse := do
  let questionId := trim response.questionId
  let prompt := trim response.prompt
  let answer := trim response.answer
  reject (questionId = "" ∨ 64 < questionId.length)
    (.validation "interview question id must be between 1 and 64 characters")
  reject (questionId ∈ questionIds) (.validation "interview question ids must be unique")
  reject (prompt = "" ∨ 500 < prompt.length)
    (.validation "interview prompt must be between 1 and 500 characters")
  reject (answer = "" ∨ 2000 < answer.length)
    (.validation "interview answer must be between 1 and 2000 characters")
  return ⟨questionId, prompt, answer⟩

def validateTurns (questionIds : List String) :
    List InterviewResponse → Except StoreError (List InterviewResponse)
  | [] => .ok []
  | response :: responses => do
    let turn ← validateInterviewResponse questionIds response
    let turns ← validateTurns (turn.questionId :: questionIds) responses
    return turn :: turns

def validateInterviewResponses (responses : List InterviewResponse) :
    Except StoreError (List InterviewResponse) := do
  reject (8 < responses.length) (.validation "interview responses must contain 8 turns or fewer")
  validateTurns [] responses

-- a row of `maybe_create_reflection`: of the contributor's own, unpaid and tied to no document
structure Reflection where
  id : String
  question : String
  answer : String
  shelf : String
  createdAt : Nat
  via : String
  sourceIds : List String
  deriving DecidableEq, Repr

def Reflection.entry (userId : String) (r : Reflection) : MemoryEntry where
  id := r.id
  userId := userId
  openCallId := none
  documentId := none
  question := r.question
  answer := r.answer
  shelf := r.shelf
  earnedKrw := 0
  createdAt := r.createdAt
  via := r.via
  status := .settled
  flags := []
  interview := []
  memoryType := .reflection
  version := 1
  locked := false
  sourceIds := r.sourceIds

def insertReflections (db : Database) (userId : String) :
    List Reflection → Except StoreError Database
  | [] => .ok db
  | r :: rest => do
    let db ← insertMemory db (r.entry userId)
    insertReflections db userId rest

variable (app : Appraisal) (db : Database) (ids : AnswerIds) (reflections : List Reflection)
  (now createdAt : Nat) (request : AnswerRequest)

def AnswerRequest.user : String := trim request.userId

def checkAnswer : Except StoreError (List InterviewResponse) := do
  reject (request.user = "") (.validation "user id is required")
  reject (trim request.answer = "") (.validation "answer is required")
  reject (10000 < request.answer.length) (.validation "answer must be 10000 characters or fewer")
  validateInterviewResponses request.interview

-- the call, and the payout it owes on chain
def admission : Except StoreError (StoredCall × Option OnchainPayout) := do
  reject (strikeLimit ≤ strikes db request.user)
    (.conflict "this account is suspended after three strikes")
  let call ← loadCall db request.openCallId
  reject (call.ownerId = request.user) (.conflict "you cannot answer your own open call")
  let profile ← orReject (loadProfile db request.user)
    (.conflict "complete onboarding before answering an open call")
  let payout ← onchainPayout app call profile
    (.conflict "verify a Devnet payout wallet before answering this funded call")
  reject (profileMatches profile call.filters = false)
    (.conflict "your profile does not match this call's targeting")
  reject (call.target ≤ call.answered) (.conflict "this open call is already full")
  reject (alreadyAnswered db request.openCallId request.user = true)
    (.conflict "you have already answered this open call")
  return (call, payout)

def duplicates : Bool :=
  ((db.memoryEntries.rows.filter fun m =>
      decide (m.userId = request.user ∧ m.status = .settled)).take 100).any fun m =>
    app.nearDuplicate m.answer request.answer

def answerIssues (call : StoredCall) : List AnswerIssue :=
  app.assess call.question request.answer ++
    if duplicates app db request then
      [⟨"Duplicate answer",
        "This substantially duplicates an answer already stored in your memory."⟩]
    else []

def answerDocument (call : StoredCall) : Document where
  id := ids.document
  handle := app.handleFromId ids.document
  authorId := request.user
  shelf := call.shelf
  category := call.category
  content := trim request.answer
  priceKrw := call.unitPriceKrw
  createdAt := createdAt
  locked := false
  version := 1

def answerEntry (call : StoredCall) (interview : List InterviewResponse) (issues : List AnswerIssue) :
    MemoryEntry where
  id := ids.memory
  userId := request.user
  openCallId := some request.openCallId
  documentId := if issues = [] then some ids.document else none
  question := call.question
  answer := trim request.answer
  shelf := call.shelf
  earnedKrw := if issues = [] then call.unitPriceKrw else 0
  createdAt := createdAt
  via := "Open call"
  status := if issues = [] then .settled else .voided
  flags := issues
  interview := interview
  memoryType := .observation
  version := 1
  locked := false
  sourceIds := []

def answerDraw : DrawErrors where
  guardsKrw := false
  onchain := .conflict "open-call on-chain escrow is exhausted"
  prepaid := .conflict "this open call is already full or its escrow is exhausted"

def closeIfFilled (call : StoredCall) : Database :=
  if call.target ≤ call.answered + 1 then deleteReservations db call.id else db

def acceptAnswer (call : StoredCall) (payout : Option OnchainPayout)
    (interview : List InterviewResponse) : Except StoreError Database := do
  let krw ← asI64 call.unitPriceKrw
  let createdAt ← asI64 createdAt
  let db := insertDocument db (answerDocument app ids createdAt request call)
  reject (call.escrowRemainingKrw < krw) (.conflict "open-call escrow is exhausted")
  let db ← drawEscrow db call answerDraw payout
  let db ← insertMemory db (answerEntry ids createdAt request call interview [])
  let db ← insertReflections db request.user reflections
  let db ← payAnswer app db call ids payout request.user ids.memory ids.document "open_call"
    "open_call_answer" krw createdAt
  return closeIfFilled db call

def voidAnswer (call : StoredCall) (interview : List InterviewResponse) (issues : List AnswerIssue) :
    Except StoreError Database := do
  let createdAt ← asI64 createdAt
  insertMemory db (answerEntry ids createdAt request call interview issues)

def recordAnswer (call : StoredCall) (payout : Option OnchainPayout)
    (interview : List InterviewResponse) : Except StoreError Database :=
  if answerIssues app db request call = [] then
    acceptAnswer app db ids reflections createdAt request call payout interview
  else voidAnswer db ids createdAt request call interview (answerIssues app db request call)

def submitTo (call : StoredCall) (payout : Option OnchainPayout)
    (interview : List InterviewResponse) : Except StoreError Database := do
  let db ← recordAnswer app db ids reflections createdAt request call payout interview
  return deleteReservation db request.openCallId request.user

def submitAnswerWithInterview : Except StoreError Database := do
  let interview ← checkAnswer request
  let (call, payout) ← admission app db request
  let now ← asI64 now
  let db := deleteExpired db now
  reject (ownsReservation db now request.openCallId request.user = false ∧
      call.target - call.answered ≤ activeOfOthers db now request.openCallId request.user)
    (.conflict "all remaining slots are reserved; refresh and try another call")
  submitTo app db ids reflections createdAt request call payout interview

end Submit

end Obulus.Calls
