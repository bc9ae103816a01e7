import Obulus.Calls.Owner
import Obulus.Foundation.Succession
import Obulus.Foundation.Trace

namespace Obulus.Calls

open Foundation Store Funds

def u32Max : Nat := 2 ^ 32 - 1

variable (app : Appraisal) (db : Database)

section Locking

variable (userId memoryId : String) (locked : Bool)

def lockDocument (documentId : String) : Database :=
  { db with
    documents := db.documents.update (fun d => decide (d.id = documentId))
      (fun d => { d with locked := locked }) (fun _ => rfl) }

def lockMemory : Database :=
  { db with
    memoryEntries := db.memoryEntries.update (fun m => decide (m.id = memoryId))
      (fun m => { m with locked := locked }) (fun _ => rfl) }

def lockPassage (m : MemoryEntry) : Database :=
  match m.documentId with
  | none => lockMemory db m.id locked
  | some documentId => lockDocument (lockMemory db m.id locked) locked documentId

def setMemoryLocked : Except StoreError Database := do
  let m ← orReject ((db.memoryEntries.get? (trim memoryId)).filter fun m => decide (m.userId = userId))
    (.notFound "memory")
  reject (m.memoryType = .reuse) (.conflict
    "reuse receipts cannot change the source passage; lock the original memory instead")
  return lockPassage db locked m

end Locking

section Correcting

variable (ids : AnswerIds) (createdAt : Nat) (userId memoryId answer : String)

def checkCorrection : Except StoreError Unit :=
  reject (trim answer = "" ∨ 10000 < answer.length)
    (.validation "corrected answer must contain 1 to 10000 characters")

def firstDetail (issues : List AnswerIssue) : String := (issues.head?.map AnswerIssue.detail).getD ""

def correctable : Except StoreError MemoryEntry := do
  let m ← orReject ((db.memoryEntries.get? (trim memoryId)).filter fun m =>
    decide (m.userId = userId ∧ m.status = .settled)) (.notFound "settled memory")
  reject (m.memoryType = .reuse) (.conflict
    "reuse receipts cannot be corrected; correct the original memory instead")
  let detail := firstDetail (app.assess m.question answer)
  reject (app.assess m.question answer ≠ [])
    (.validation s!"corrected answer failed quality checks: {detail}")
  return m

-- as u32, one more than the version corrected
def nextVersion (version : Nat) : Nat := min (min version u32Max + 1) u32Max

def correctedDocument (m : MemoryEntry) (d : Document) : Document where
  id := ids.document
  handle := app.handleFromId ids.document
  authorId := d.authorId
  shelf := m.shelf
  category := d.category
  content := trim answer
  priceKrw := d.priceKrw
  createdAt := createdAt
  locked := false
  version := 1

def setVersion (documentId : String) (version : Nat) : Database :=
  { db with
    documents := db.documents.update (fun d => decide (d.id = documentId))
      (fun d => { d with version := version }) (fun _ => rfl) }

def correctionEntry (m : MemoryEntry) : MemoryEntry where
  id := ids.memory
  userId := userId
  openCallId := none
  documentId := some ids.document
  question := m.question
  answer := trim answer
  shelf := m.shelf
  earnedKrw := 0
  createdAt := createdAt
  via := "Correction"
  status := .settled
  flags := []
  interview := m.interview
  memoryType := .correction
  version := nextVersion m.version
  locked := false
  sourceIds := [m.id]

def replacePassage (m : MemoryEntry) (d : Document) : Database :=
  lockMemory
    (lockDocument
      (setVersion (insertDocument db (correctedDocument app ids createdAt answer m d)) ids.document
        (nextVersion m.version))
      true d.id)
    m.id true

def correctMemory : Except StoreError Database := do
  checkCorrection answer
  let m ← correctable app db userId memoryId answer
  let documentId ← orReject m.documentId
    (.conflict "reflection memories cannot be corrected as paid passages")
  let d ← orReject (db.documents.get? documentId) (.database "Query returned no rows")
  let createdAt ← asI64 createdAt
  insertMemory (replacePassage app db ids createdAt answer m d)
    (correctionEntry ids createdAt userId answer m)

end Correcting

namespace Lineage

inductive Operation
  | answer (ids : AnswerIds) (reflections : List Reflection) (request : AnswerRequest)
  | correct (ids : AnswerIds) (userId memoryId answer : String)
  | setLocked (userId memoryId : String) (locked : Bool)

structure Event where
  now : Nat
  later : Nat
  operation : Operation

def execute (e : Event) : Except StoreError Database :=
  match e.operation with
  | .answer ids reflections request =>
    submitAnswerWithInterview app db ids reflections e.now e.later request
  | .correct ids userId memoryId answer => correctMemory app db ids e.now userId memoryId answer
  | .setLocked userId memoryId locked => setMemoryLocked db userId memoryId locked

-- `new_id` gives ids that name nothing yet
def Event.Fresh (db : Database) (e : Event) : Prop :=
  match e.operation with
  | .answer ids _ _ => db.documents.get? ids.document = none ∧
      ∀ d ∈ db.documents.rows, d.handle ≠ app.handleFromId ids.document
  | .correct ids _ _ _ => db.documents.get? ids.document = none ∧
      ∀ d ∈ db.documents.rows, d.handle ≠ app.handleFromId ids.document
  | .setLocked _ _ _ => True

inductive Step (e : Event) : Database → Prop
  | ok {db' : Database} : e.Fresh app db → execute app db e = .ok db' → Step e db'
  | error {error : StoreError} : execute app db e = .error error → Step e db

end Lineage

end Obulus.Calls
