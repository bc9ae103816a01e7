import Obulus.Foundation.Table
import Obulus.Foundation.Trace

namespace Obulus.Local.Lock

open Foundation

-- the record in the lock file; a number that is no safe integer is none
structure Owner where
  pid : Option Int
  nonce : Option String
  createdAt : Option Int
  deriving DecidableEq, Repr

-- `owner` is none until the record is written, and where the text is no JSON object
structure LockFile where
  inode : Nat
  owner : Option Owner
  mtimeMs : Int
  deriving DecidableEq, Repr

inductive Phase (σ : Type)
  | opening
  | writing (inode : Nat)
  | abandoning (inode : Nat)
  | judging
  | stating (owner : Option Owner)
  | assessing (owner : Option Owner) (mtimeMs : Option Int)
  | condemning
  | waiting
  | reading (inode : Nat)
  | storing (inode : Nat) (updated : σ)
  | renaming (inode : Nat) (updated : σ)
  | closing (inode : Nat) (committed : Bool)
  | unlocking (inode : Nat) (committed : Bool)
  | returned (committed : Bool)

-- one call of withStateLock, which draws its nonce itself
structure Worker (σ Job : Type) where
  nonce : String
  pid : Nat
  deadline : Int
  job : Job
  phase : Phase σ

-- what every process sees; a missing state file is read as the empty state
structure Disk (σ Job : Type) where
  now : Int
  lock : Option LockFile
  inodes : Nat
  stored : σ
  commits : List (String × Job)

-- `issued`, `commits` and `starts` are history: the calls made, the ones whose state was renamed
-- into place, and the ones whose caller went on with it
structure World (σ Job : Type) where
  disk : Disk σ Job
  workers : Table fun worker : Worker σ Job => worker.nonce
  issued : List (String × Job)
  starts : List (String × Job)

inductive Action
  | create
  | writeRecord
  | failRecord
  | abandon
  | readRecord
  | statLock
  | assess (alive : Bool)
  | breakLock
  | retry
  | readState
  | writeTemporary
  | renameTemporary
  | failOperation
  | readOwn (readable : Bool)
  | unlock
  deriving DecidableEq, Repr

inductive Event (Job : Type)
  | begin (nonce : String) (pid : Nat) (job : Job)
  | act (nonce : String) (action : Action)
  | proceed (nonce : String)
  | crash (pid : Nat)
  | tick (ms : Nat)

variable {σ Job : Type}

def staleAfterMs : Int := 30000

def waitMs : Int := 5000

-- staleLock, once the record and the metadata are read
def staleLock (now : Int) (owner : Option Owner) (mtimeMs : Option Int) (alive : Bool) : Bool :=
  match mtimeMs with
  | none => false
  | some mtimeMs =>
    if now - (((owner.bind Owner.createdAt).getD mtimeMs)) < staleAfterMs then false
    else
      match (owner.bind Owner.pid).filter fun pid => 1 ≤ pid with
      | none => true
      | some _ => !alive

def act (apply : Job → σ → Option σ) (disk : Disk σ Job) (worker : Worker σ Job) :
    Action → Option (Disk σ Job × Phase σ)
  | .create =>
    match worker.phase, disk.lock with
    | .opening, none =>
      some ({ disk with
        lock := some ⟨disk.inodes, none, disk.now⟩
        inodes := disk.inodes + 1 }, .writing disk.inodes)
    | .opening, some _ => some (disk, .judging)
    | _, _ => none
  -- through the handle: a file that was unlinked meanwhile is written all the same
  | .writeRecord =>
    match worker.phase with
    | .writing inode =>
      let owner : Owner := ⟨some worker.pid, some worker.nonce, some disk.now⟩
      some ({ disk with
        lock := disk.lock.map fun file =>
          if file.inode = inode then { file with owner := some owner, mtimeMs := disk.now } else file },
        .reading inode)
    | _ => none
  | .failRecord =>
    match worker.phase with
    | .writing inode => some (disk, .abandoning inode)
    | _ => none
  | .abandon =>
    match worker.phase with
    | .abandoning _ => some ({ disk with lock := none }, .returned false)
    | _ => none
  | .readRecord =>
    match worker.phase with
    | .judging => some (disk, .stating (disk.lock.bind LockFile.owner))
    | _ => none
  | .statLock =>
    match worker.phase with
    | .stating owner => some (disk, .assessing owner (disk.lock.map LockFile.mtimeMs))
    | _ => none
  | .assess alive =>
    match worker.phase with
    | .assessing owner mtimeMs =>
      some (disk, if staleLock disk.now owner mtimeMs alive then .condemning else .waiting)
    | _ => none
  | .breakLock =>
    match worker.phase with
    | .condemning => some ({ disk with lock := none }, .opening)
    | _ => none
  | .retry =>
    match worker.phase with
    | .waiting => some (disk, if worker.deadline ≤ disk.now then .returned false else .opening)
    | _ => none
  | .readState =>
    match worker.phase with
    | .reading inode =>
      match apply worker.job disk.stored with
      | some updated => some (disk, .storing inode updated)
      | none => some (disk, .closing inode false)
    | _ => none
  | .writeTemporary =>
    match worker.phase with
    | .storing inode updated => some (disk, .renaming inode updated)
    | _ => none
  | .renameTemporary =>
    match worker.phase with
    | .renaming inode updated =>
      some ({ disk with stored := updated, commits := disk.commits ++ [(worker.nonce, worker.job)] },
        .closing inode true)
    | _ => none
  | .failOperation =>
    match worker.phase with
    | .reading inode | .storing inode _ | .renaming inode _ => some (disk, .closing inode false)
    | _ => none
  | .readOwn readable =>
    match worker.phase with
    | .closing inode committed =>
      if readable ∧ (disk.lock.bind LockFile.owner).bind Owner.nonce = some worker.nonce then
        some (disk, .unlocking inode committed)
      else some (disk, .returned committed)
    | _ => none
  | .unlock =>
    match worker.phase with
    | .unlocking _ committed => some ({ disk with lock := none }, .returned committed)
    | _ => none

def Phase.committed : Phase σ → Bool
  | .closing _ committed | .unlocking _ committed | .returned committed => committed
  | _ => false

-- a signal to a running process is delivered, whatever else answers to a number
def vouched (world : World σ Job) (worker : Worker σ Job) (action : Action) : Bool :=
  match action, worker.phase with
  | .assess false, .assessing (some owner) _ =>
    world.workers.rows.all fun other => owner.pid ≠ some (other.pid : Int)
  | _, _ => true

def issuable (draws : Job → List String) (known : List String) (world : World σ Job) (nonce : String)
    (job : Job) : Bool :=
  (draws job).all (fun uuid => !known.contains uuid) &&
    world.issued.all fun call => call.1 ≠ nonce && (draws job).all fun uuid => !(draws call.2).contains uuid

def step (apply : Job → σ → Option σ) (draws : Job → List String) (known : List String)
    (world : World σ Job) : Event Job → Option (World σ Job)
  -- randomUUID never repeats itself
  | .begin nonce pid job =>
    if issuable draws known world nonce job then
      some { world with
        issued := world.issued ++ [(nonce, job)]
        workers := world.workers.put ⟨nonce, pid, world.disk.now + waitMs, job, .opening⟩ }
    else none
  | .act nonce action => do
    let worker ← world.workers.get? nonce
    if vouched world worker action then
      let (disk, phase) ← act apply world.disk worker action
      some { world with disk := disk, workers := world.workers.put { worker with phase := phase } }
    else none
  | .proceed nonce => do
    let worker ← world.workers.get? nonce
    match worker.phase with
    | .returned committed =>
      some { world with
        workers := world.workers.delete fun other => other.nonce = nonce
        starts := if committed then world.starts ++ [(nonce, worker.job)] else world.starts }
    | _ => none
  | .crash pid =>
    some { world with workers := world.workers.delete fun worker => worker.pid = pid }
  | .tick ms => some { world with disk := { world.disk with now := world.disk.now + ms } }

def Phase.inode : Phase σ → Option Nat
  | .writing inode | .abandoning inode | .reading inode | .storing inode _ | .renaming inode _
  | .closing inode _ | .unlocking inode _ => some inode
  | _ => none

def Phase.inside : Phase σ → Bool
  | .reading _ | .storing _ _ | .renaming _ _ => true
  | _ => false

-- no lock file of a call that still runs is broken
def calm (world : World σ Job) : Event Job → Bool
  | .act _ .breakLock =>
    world.disk.lock.all fun file =>
      world.workers.rows.all fun worker => worker.phase.inode ≠ some file.inode
  | _ => true

def Phase.updated : Phase σ → Option σ
  | .storing _ updated | .renaming _ updated => some updated
  | _ => none

inductive Effect (apply : Job → σ → Option σ) (disk : Disk σ Job) (worker : Worker σ Job)
    (action : Action) : Disk σ Job → Phase σ → Prop
  | created {inode : Nat} {file : LockFile} {inodes : Nat} :
      worker.phase = .opening → disk.lock = none → file.inode = inode →
      Effect apply disk worker action { disk with lock := some file, inodes := inodes } (.writing inode)
  | waited {phase : Phase σ} :
      worker.phase.inode = none → worker.phase.committed = false → phase.inode = none →
      phase.committed = false → phase.updated = none →
      Effect apply disk worker action disk phase
  | broke : worker.phase = .condemning → action = .breakLock →
      Effect apply disk worker action { disk with lock := none } .opening
  | recorded {inode : Nat} {lock : Option LockFile} :
      worker.phase = .writing inode → lock.map LockFile.inode = disk.lock.map LockFile.inode →
      Effect apply disk worker action { disk with lock := lock } (.reading inode)
  | moved {phase : Phase σ} :
      worker.phase.inode ≠ none → phase.inode = worker.phase.inode →
      phase.committed = worker.phase.committed →
      (∀ updated, phase.updated = some updated →
        worker.phase.updated = some updated ∨ apply worker.job disk.stored = some updated) →
      Effect apply disk worker action disk phase
  | renamed {inode : Nat} {updated : σ} :
      worker.phase = .renaming inode updated →
      Effect apply disk worker action
        { disk with stored := updated, commits := disk.commits ++ [(worker.nonce, worker.job)] }
        (.closing inode true)
  | released {inode : Nat} {committed : Bool} :
      worker.phase = .closing inode committed →
      Effect apply disk worker action disk (.returned committed)
  | unlocked {committed : Bool} :
      worker.phase.inode ≠ none → worker.phase.committed = committed →
      Effect apply disk worker action { disk with lock := none } (.returned committed)

section Facts

variable {apply : Job → σ → Option σ} {draws : Job → List String} {known : List String}
  {disk disk' : Disk σ Job} {worker : Worker σ Job} {action : Action} {phase : Phase σ}
  {world world' : World σ Job} {event : Event Job} {nonce : String}

theorem act_effect (h : act apply disk worker action = some (disk', phase)) :
    Effect apply disk worker action disk' phase := by
  cases action with
  | create =>
    rw [act] at h
    split at h
    · next hphase hlock =>
      cases h
      exact .created hphase hlock rfl
    · next hphase hlock =>
      cases h
      exact .waited (by rw [hphase]; rfl) (by rw [hphase]; rfl) rfl rfl rfl
    · cases h
  | writeRecord =>
    rw [act] at h
    split at h
    · next hphase =>
      cases h
      refine .recorded hphase ?_
      cases disk.lock with
      | none => rfl
      | some file => simp [apply_ite LockFile.inode]
    · cases h
  | failRecord =>
    rw [act] at h
    split at h
    · next hphase =>
      cases h
      exact .moved (by simp [hphase, Phase.inode]) (by rw [hphase]; rfl) (by rw [hphase]; rfl)
        (fun _ hupdated => by cases hupdated)
    · cases h
  | abandon =>
    rw [act] at h
    split at h
    · next hphase =>
      cases h
      exact .unlocked (by simp [hphase, Phase.inode]) (by rw [hphase]; rfl)
    · cases h
  | readRecord =>
    rw [act] at h
    split at h
    · next hphase =>
      cases h
      exact .waited (by rw [hphase]; rfl) (by rw [hphase]; rfl) rfl rfl rfl
    · cases h
  | statLock =>
    rw [act] at h
    split at h
    · next hphase =>
      cases h
      exact .waited (by rw [hphase]; rfl) (by rw [hphase]; rfl) rfl rfl rfl
    · cases h
  | assess alive =>
    rw [act] at h
    split at h
    · next hphase =>
      cases h
      split
      · exact .waited (by rw [hphase]; rfl) (by rw [hphase]; rfl) rfl rfl rfl
      · exact .waited (by rw [hphase]; rfl) (by rw [hphase]; rfl) rfl rfl rfl
    · cases h
  | breakLock =>
    rw [act] at h
    split at h
    · next hphase =>
      cases h
      exact .broke hphase rfl
    · cases h
  | retry =>
    rw [act] at h
    split at h
    · next hphase =>
      cases h
      split
      · exact .waited (by rw [hphase]; rfl) (by rw [hphase]; rfl) rfl rfl rfl
      · exact .waited (by rw [hphase]; rfl) (by rw [hphase]; rfl) rfl rfl rfl
    · cases h
  | readState =>
    rw [act] at h
    split at h
    · next hphase =>
      split at h
      · next happly =>
        cases h
        refine .moved (by simp [hphase, Phase.inode]) (by rw [hphase]; rfl) (by rw [hphase]; rfl) ?_
        intro updated hupdated
        cases hupdated
        exact .inr happly
      · cases h
        exact .moved (by simp [hphase, Phase.inode]) (by rw [hphase]; rfl) (by rw [hphase]; rfl)
          (fun _ hupdated => by cases hupdated)
    · cases h
  | writeTemporary =>
    rw [act] at h
    split at h
    · next hphase =>
      cases h
      refine .moved (by simp [hphase, Phase.inode]) (by rw [hphase]; rfl) (by rw [hphase]; rfl) ?_
      intro updated hupdated
      rw [hphase]
      exact .inl hupdated
    · cases h
  | renameTemporary =>
    rw [act] at h
    split at h
    · next hphase =>
      cases h
      exact .renamed hphase
    · cases h
  | failOperation =>
    rw [act] at h
    split at h
    all_goals
      first
      | cases h; done
      | next hphase =>
        cases h
        exact .moved (by simp [hphase, Phase.inode]) (by rw [hphase]; rfl) (by rw [hphase]; rfl)
          (fun _ hupdated => by cases hupdated)
  | readOwn readable =>
    rw [act] at h
    split at h
    · next hphase =>
      split at h
      · cases h
        exact .moved (by simp [hphase, Phase.inode]) (by rw [hphase]; rfl) (by rw [hphase]; rfl)
          (fun _ hupdated => by cases hupdated)
      · cases h
        exact .released hphase
    · cases h
  | unlock =>
    rw [act] at h
    split at h
    · next hphase =>
      cases h
      exact .unlocked (by simp [hphase, Phase.inode]) (by rw [hphase]; rfl)
    · cases h

end Facts

end Obulus.Local.Lock
