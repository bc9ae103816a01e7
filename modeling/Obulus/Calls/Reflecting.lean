import Mathlib.Data.String.Basic
import Obulus.Calls.Owner
import Obulus.Foundation.Chunks
import Obulus.Foundation.Dictionary

namespace Obulus.Calls

open Foundation Store Funds

-- `compose_reflection_summary`: of a level, the texts of the sources and their number
abbrev Summary := Nat → List String → Nat → String

section Records

variable (rows : List MemoryEntry) (userId : String)

def settledOf : List MemoryEntry :=
  rows.filter fun m => decide (m.userId = userId ∧ m.status = .settled)

def observationsOf : List MemoryEntry :=
  (settledOf rows userId).filter fun m => decide (m.memoryType = .observation)

def reflectionsOf : List MemoryEntry :=
  (settledOf rows userId).filter fun m => decide (m.memoryType = .reflection)

-- ORDER BY created_at ASC, id ASC
def recordOrder (a b : MemoryEntry) : Prop :=
  a.createdAt < b.createdAt ∨ (a.createdAt = b.createdAt ∧ a.id ≤ b.id)

instance : DecidableRel recordOrder := fun _ _ => by
  unfold recordOrder
  infer_instance

def recordsOf : List MemoryEntry := (settledOf rows userId).insertionSort recordOrder

end Records

section Levels

def levelOf (levels : Dictionary Nat) (m : MemoryEntry) : Nat :=
  1 + ((m.sourceIds.filterMap levels.lookup).max?).getD 0

def levelPass (records : List MemoryEntry) (levels : Dictionary Nat) : Dictionary Nat :=
  records.foldl (fun levels m =>
    if m.memoryType = .reflection then levels.insert m.id (levelOf levels m) else levels) levels

def levelsOf (records : List MemoryEntry) : Dictionary Nat :=
  (levelPass records)^[8] (Dictionary.ofEntries
    ((records.filter fun m => decide (m.memoryType ≠ .reflection)).map fun m => (m.id, 0)))

def atLevel (records : List MemoryEntry) (level : Nat) : List MemoryEntry :=
  records.filter fun m =>
    decide (m.memoryType = .reflection ∧ (levelsOf records).lookup m.id = some level)

end Levels

section Creation

variable (summary : Summary) (newId : Nat → String) (rows : List MemoryEntry) (userId : String)

-- the rows of the transaction once some reflections are inserted
def withReflections (created : List Reflection) : List MemoryEntry :=
  rows ++ created.map (Reflection.entry userId)

def insertReflection (created : List Reflection) (r : Reflection) :
    Except StoreError (List Reflection) := do
  reject (r.id ∈ (withReflections rows userId created).map MemoryEntry.id)
    (.database "UNIQUE constraint failed: memory_entries.id")
  return created ++ [r]

def parentQuestion (level : Nat) : String :=
  if level = 2 then "Which decision rule repeats across these experience patterns?"
  else if level = 3 then "Which stable preference explains these repeated decision rules?"
  else "Which higher-order tendency connects these prior reflections?"

def promoteChunk (sourceLevel : Nat) (existing : List (List String)) (created : List Reflection)
    (chunk : List MemoryEntry) : Except StoreError (List Reflection) :=
  let sourceIds := chunk.map MemoryEntry.id
  if sourceIds ∈ existing then .ok created
  else do
    let createdAt ← asI64 (saturatingAdd (((chunk.map MemoryEntry.createdAt).max?).getD 0) 1)
    insertReflection rows userId created
      { id := newId created.length
        question := parentQuestion (sourceLevel + 1)
        answer := summary (sourceLevel + 1) (chunk.map MemoryEntry.answer) sourceIds.length
        shelf := s!"L{sourceLevel + 1} contributor abstraction"
        createdAt := createdAt
        via := "Recursive reflection"
        sourceIds := sourceIds }

def promoteLevel (created : List Reflection) (sourceLevel : Nat) :
    Except StoreError (List Reflection) :=
  let records := recordsOf (withReflections rows userId created) userId
  let sources := atLevel records sourceLevel
  if sources.length < 3 then .ok created
  else
    let existing := (atLevel records (sourceLevel + 1)).map MemoryEntry.sourceIds
    (chunksExact sources).foldlM (promoteChunk summary newId rows userId sourceLevel existing) created

def maybeCreateRecursiveReflections (created : List Reflection) :
    Except StoreError (List Reflection) :=
  [1, 2, 3, 4].foldlM (promoteLevel summary newId rows userId) created

-- `newest` is what ORDER BY created_at DESC returns; it leaves the order of equal dates open
def maybeCreateReflection (newest : List MemoryEntry) (createdAt : Nat) :
    Except StoreError (List Reflection) :=
  let observationCount := (observationsOf rows userId).length
  if observationCount < 3 ∨ observationCount % 3 ≠ 0 then .ok []
  else do
    let sources := newest.take 3
    let createdAt ← asI64 (saturatingAdd createdAt 1)
    let created ← insertReflection rows userId []
      { id := newId 0
        question := "What patterns connect my recent experiences?"
        answer := summary 1 (sources.map fun m => m.question ++ ": " ++ m.answer) sources.length
        shelf := "Contributor reflection"
        createdAt := createdAt
        via := "Reflection"
        sourceIds := sources.map MemoryEntry.id }
    maybeCreateRecursiveReflections summary newId rows userId created

def NewestFirst (newest : List MemoryEntry) : Prop :=
  newest.Perm (observationsOf rows userId) ∧ newest.Pairwise fun a b => b.createdAt ≤ a.createdAt

end Creation

section Submit

variable (app : Appraisal) (summary : Summary) (newId : Nat → String) (db : Database)
  (ids : AnswerIds) (newest : List MemoryEntry) (now createdAt : Nat) (request : AnswerRequest)

-- the reflections of an answer, none unless it is accepted
def answerReflections : Except StoreError (List Reflection) := do
  let interview ← checkAnswer request
  let (call, _) ← admission app db request
  if answerIssues app db request call = [] then
    maybeCreateReflection summary newId
      (db.memoryEntries.rows ++ [answerEntry ids createdAt request call interview []]) request.user
      newest createdAt
  else return []

def answerOpenCall : Except StoreError Database := do
  let reflections ← answerReflections app summary newId db ids newest createdAt request
  submitAnswerWithInterview app db ids reflections now createdAt request

end Submit

end Obulus.Calls
