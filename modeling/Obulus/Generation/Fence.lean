import Mathlib.Data.List.Sort
import Mathlib.Data.String.Basic
import Obulus.Foundation.Text
import Obulus.Payout.Claims

namespace Obulus.Generation

open Foundation Store

section Schema

inductive AttemptStatus
  | started
  | completed
  | failed
  deriving DecidableEq, Repr

structure Attempt where
  artifactKind : String
  scopeId : String
  inputHash : String
  windowStartedAt : Nat
  status : AttemptStatus
  responseJson : Option String
  claimedAt : Nat
  completedAt : Option Nat
  deriving DecidableEq, Repr

-- idx_ai_generation_attempts_exact_input
def Attempt.key (a : Attempt) : String × String × String := (a.artifactKind, a.scopeId, a.inputHash)

structure Budget where
  artifactKind : String
  scopeId : String
  windowStartedAt : Nat
  attemptsUsed : Nat
  deriving DecidableEq, Repr

def Budget.key (b : Budget) : String × String × Nat := (b.artifactKind, b.scopeId, b.windowStartedAt)

structure GenerationDocument where
  artifactKind : String
  scopeId : String
  inputHash : String
  documentHandle : String
  authorId : String
  deriving DecidableEq, Repr

def GenerationDocument.key (d : GenerationDocument) : String × String × String × String :=
  (d.artifactKind, d.scopeId, d.inputHash, d.documentHandle)

structure SourceDocument where
  id : String
  handle : String
  authorId : String
  deriving DecidableEq, Repr

structure Database where
  attempts : Table Attempt.key
  budgets : Table Budget.key
  generationDocuments : Table GenerationDocument.key
  documents : Table SourceDocument.id
  recoveryHolds : List Payout.RecoveryHold

def Database.blocked (db : Database) : Bool := db.recoveryHolds.any fun hold => hold.resolvedAt.isNone

inductive AiGenerationClaim
  | acquired (windowStartedAt : Nat)
  | cached (response : String)
  | suppressed
  deriving DecidableEq, Repr

end Schema

section Checks

def aiGenerationBudgetWindowMs : Nat := 24 * 60 * 60 * 1000

def aiGenerationAttemptLimit (artifactKind : String) : Option Nat :=
  if artifactKind = "baseline" then some 1
  else if artifactKind = "shelf_starters" then some 1
  else if artifactKind = "synthesis" then some 3
  else if artifactKind = "agent_plan" then some 20
  else none

def supportedLimit (artifactKind : String) : Except StoreError Nat :=
  orReject (aiGenerationAttemptLimit artifactKind) (.validation "unsupported AI artifact kind")

def checkIdentity (artifactKind scopeId inputHash : String) (documentHandles : List String) :
    Except StoreError Unit :=
  reject (scopeId = "" ∨ 200 < scopeId.length ∨ isHex64 inputHash = false ∨
      (artifactKind = "synthesis" ∧ ¬(1 ≤ documentHandles.length ∧ documentHandles.length ≤ 20)) ∨
      (artifactKind ≠ "synthesis" ∧ documentHandles ≠ []))
    (.validation "invalid AI generation scope or input hash")

def windowOf (now : Nat) : Nat := now - now % aiGenerationBudgetWindowMs

end Checks

section Claim

variable (db : Database) (now : Nat) (artifactKind scopeId inputHash : String)
  (documentHandles : List String)

def unlockedDocument (handle : String) : Except StoreError SourceDocument :=
  orReject (db.documents.rows.find? fun d => decide (d.handle = handle)) .documentNotQuoted

def lockedAuthor (document : SourceDocument) : Except StoreError (String × String) := do
  let locked ← orReject (db.documents.get? document.id) .documentNotQuoted
  reject (locked.authorId ≠ document.authorId)
    (.conflict "synthesis document ownership changed while claiming the provider")
  return (document.handle, locked.authorId)

def generationDocumentsOf : Except StoreError (List (String × String)) := do
  if artifactKind = "synthesis" then
    let requested := (documentHandles.map trim).insertionSort (· ≤ ·)
    reject (¬requested.Nodup ∨ "" ∈ requested)
      (.validation "synthesis document handles must be unique and non-empty")
    let unlocked ← requested.mapM (unlockedDocument db)
    (unlocked.insertionSort fun left right => left.id ≤ right.id).mapM (lockedAuthor db)
  else return []

def existingClaim : Option AiGenerationClaim :=
  (db.attempts.get? (artifactKind, scopeId, inputHash)).map fun a =>
    match a.status, a.responseJson with
    | .completed, some response => .cached response
    | _, _ => .suppressed

def newAttempt : Attempt where
  artifactKind := artifactKind
  scopeId := scopeId
  inputHash := inputHash
  windowStartedAt := windowOf now
  status := .started
  responseJson := none
  claimedAt := now
  completedAt := none

def spendBudget (window limit : Nat) : Option Database :=
  let key := (artifactKind, scopeId, window)
  let budgets := if (db.budgets.get? key).isSome = true then db.budgets
    else db.budgets.put ⟨artifactKind, scopeId, window, 0⟩
  if (budgets.get? key).any (fun b => decide (b.attemptsUsed < limit)) = true then
    some { db with
      budgets := budgets.update (fun b => decide (b.key = key))
        (fun b => { b with attemptsUsed := b.attemptsUsed + 1 }) (fun _ => rfl) }
  else none

def insertGenerationDocument (db : Database) (document : String × String) :
    Except StoreError Database := do
  let rows ← orReject (db.generationDocuments.insert?
      ⟨"synthesis", scopeId, inputHash, document.1, document.2⟩)
    (.database "UNIQUE constraint failed: ai_generation_documents")
  return { db with generationDocuments := rows }

-- the insert of a new attempt; the budget that refuses it takes it out again
def startAttempt (limit : Nat) (documents : List (String × String)) :
    Except StoreError (AiGenerationClaim × Database) := do
  reject (db.blocked = true)
    (.conflict "rollback recovery is holding new external side effects until receipt reconciliation")
  let window ← asI64 (windowOf now)
  let now ← asI64 now
  match db.attempts.insert? (newAttempt now artifactKind scopeId inputHash) with
  | none =>
    let existing ← orReject (existingClaim db artifactKind scopeId inputHash)
      (.database "Query returned no rows")
    return (existing, db)
  | some attempts =>
    match spendBudget { db with attempts := attempts } artifactKind scopeId window limit with
    | none => return (.suppressed, db)
    | some spent =>
      let db ← documents.foldlM (insertGenerationDocument scopeId inputHash) spent
      return (.acquired window, db)

def claimAiGeneration : Except StoreError (AiGenerationClaim × Database) := do
  let limit ← supportedLimit artifactKind
  let scopeId := trim scopeId
  let inputHash := trim inputHash
  checkIdentity artifactKind scopeId inputHash documentHandles
  let documents ← generationDocumentsOf db artifactKind documentHandles
  match existingClaim db artifactKind scopeId inputHash with
  | some claim => return (claim, db)
  | none => startAttempt db now artifactKind scopeId inputHash limit documents

end Claim

section Finish

variable (db : Database) (now : Nat) (artifactKind scopeId inputHash : String) (windowStartedAt : Nat)

def Attempt.activeAt (a : Attempt) : Bool :=
  decide (a.key = (artifactKind, trim scopeId, trim inputHash) ∧ a.windowStartedAt = windowStartedAt ∧
    a.status = .started)

def finishAttempts (status : AttemptStatus) (responseJson : Option String → Option String)
    (completedAt : Nat) : Database :=
  { db with
    attempts := db.attempts.update
      (fun a => a.activeAt artifactKind scopeId inputHash windowStartedAt)
      (fun a => { a with
        status := status
        responseJson := responseJson a.responseJson
        completedAt := some completedAt }) (fun _ => rfl) }

def isActive : Bool :=
  db.attempts.rows.any fun a => a.activeAt artifactKind scopeId inputHash windowStartedAt

def completeAiGeneration (responseJson : Option String) : Except StoreError Database := do
  let _ ← supportedLimit artifactKind
  reject (artifactKind = "synthesis" ∧ responseJson = none)
    (.validation "completed synthesis requires a durable response")
  reject (artifactKind ≠ "synthesis" ∧ responseJson ≠ none)
    (.validation "only synthesis stores a response in the provider fence")
  reject (responseJson.any (fun response => decide (262144 < response.utf8ByteSize)) = true)
    (.validation "AI generation response is too large to persist")
  let completedAt ← asI64 now
  let window ← asI64 windowStartedAt
  reject (isActive db artifactKind scopeId inputHash window = false)
    (.conflict "AI generation attempt is not the active provider fence")
  return finishAttempts db artifactKind scopeId inputHash window .completed (fun _ => responseJson)
    completedAt

def failAiGeneration : Except StoreError Database := do
  let _ ← supportedLimit artifactKind
  let completedAt ← asI64 now
  let window ← asI64 windowStartedAt
  return finishAttempts db artifactKind scopeId inputHash window .failed id completedAt

def mapped (d : GenerationDocument) : Bool :=
  decide (d.artifactKind = artifactKind ∧ d.scopeId = trim scopeId ∧ d.inputHash = trim inputHash)

def releaseAiGenerationBeforeProvider : Except StoreError Database := do
  let _ ← supportedLimit artifactKind
  reject (artifactKind ≠ "synthesis" ∧
      db.generationDocuments.rows.any (mapped artifactKind scopeId inputHash) = true)
    (.conflict "non-synthesis provider claim unexpectedly owned document mappings")
  let window ← asI64 windowStartedAt
  reject (isActive db artifactKind scopeId inputHash window = false)
    (.conflict "AI generation claim changed before pre-provider release")
  let key := (artifactKind, trim scopeId, window)
  reject ((db.budgets.get? key).any (fun b => decide (0 < b.attemptsUsed)) = false)
    (.conflict "AI generation budget changed before pre-provider release")
  return { db with
    generationDocuments := db.generationDocuments.delete (mapped artifactKind scopeId inputHash)
    attempts := db.attempts.delete fun a => a.activeAt artifactKind scopeId inputHash window
    budgets := db.budgets.update (fun b => decide (b.key = key ∧ 0 < b.attemptsUsed))
      (fun b => { b with attemptsUsed := b.attemptsUsed - 1 }) (fun _ => rfl) }

end Finish

section Audit

-- the digest in lower-case hex
abbrev Sha256Hex := String → String

structure ModelCallAuditIntent where
  version : Nat
  operation : String
  scopeHash : String
  inputHash : String
  windowStartedAt : Nat
  providerFence : String
  deriving DecidableEq, Repr

inductive RollbackAuditError
  | incomplete (what : String)
  deriving DecidableEq, Repr

def ModelCallAuditIntent.new (sha : Sha256Hex) (operation scopeId inputHash : String)
    (windowStartedAt : Nat) (providerFence : String) :
    Except RollbackAuditError ModelCallAuditIntent := do
  reject (operation ∉ ["baseline", "shelf_starters", "synthesis", "agent_plan"] ∨ scopeId = "" ∨
      200 < scopeId.length ∨ isHex64 inputHash = false ∨ providerFence = "" ∨
      256 < providerFence.utf8ByteSize)
    (.incomplete "model call identity")
  return {
    version := 1
    operation := operation
    scopeHash := sha scopeId
    inputHash := inputHash
    windowStartedAt := windowStartedAt
    providerFence := providerFence }

inductive RollbackCoverage
  | covered (what : String)
  | missing
  | mismatch (what : String)
  deriving DecidableEq, Repr

inductive RollbackSweepError
  | incomplete (what : String)
  deriving DecidableEq, Repr

def ModelCallAuditIntent.finds (intent : ModelCallAuditIntent) (a : Attempt) : Bool :=
  decide (a.artifactKind = intent.operation ∧ a.inputHash = intent.inputHash ∧
    a.windowStartedAt = intent.windowStartedAt)

-- the query has no ORDER BY: of several rows any may come first
def Reads (db : Database) (intent : ModelCallAuditIntent) : Option Attempt → Prop
  | none => db.attempts.rows.filter intent.finds = []
  | some a => a ∈ db.attempts.rows.filter intent.finds

def inspectModelCall (sha : Sha256Hex) (intent : ModelCallAuditIntent) (row : Option Attempt) :
    Except RollbackSweepError RollbackCoverage := do
  reject (i64Max < intent.windowStartedAt) (.incomplete "model budget window")
  return match row with
    | none => .missing
    | some a =>
      if sha a.scopeId = intent.scopeHash ∧ a.status ∈ [.started, .completed, .failed] then
        .covered "model generation attempt"
      else .mismatch "model generation scope or status"

end Audit

end Obulus.Generation
