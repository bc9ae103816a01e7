import Obulus.Payout.History
import Obulus.Payout.Observation

namespace Obulus.Payout

open Foundation Store

section Chain

-- `landed` holds, for each signature included in the canonical chain, whether the transaction
-- succeeded and the height of its block; blocks up to `height` are finalized.
structure Chain where
  height : Nat
  landed : List (String × Bool × Nat)
  submitted : List String

def Chain.outcome (chain : Chain) (signature : String) : Option (Bool × Nat) :=
  chain.landed.lookup signature

def Chain.paid (chain : Chain) (signature : String) : Bool :=
  (chain.outcome signature).any fun o => o.1

def Chain.paidFinally (chain : Chain) (signature : String) : Bool :=
  (chain.outcome signature).any fun o => o.1 && (o.2 ≤ chain.height : Bool)

def reportsPaid (status : Option SignatureStatus) : Bool :=
  View.finalized ⟨status, 0⟩

-- What a provider may truthfully answer now: a finalized success is one, and past the last valid
-- height of a transaction that landed successfully its status is exactly that.
def Chain.truthful (chain : Chain) (lastValid : Nat) (signature : String)
    (status : Option SignatureStatus) : Bool :=
  (!reportsPaid status || chain.paidFinally signature) &&
    (!((lastValid < chain.height : Bool) && chain.paid signature) || reportsPaid status)

end Chain

inductive Kind
  | gateway
  | orchestrator
  deriving DecidableEq, Repr

def Kind.verdict : Kind → Int → List View → Gateway.PreparedPayoutObservation
  | .gateway, last, views => Gateway.verdict last views
  | .orchestrator, last, views => (Orchestrator.verdict last views).atGateway

def Kind.conclude (kind : Kind) (last : Int) (views : List (Option View)) :
    Gateway.PreparedPayoutObservation :=
  if views.length < 2 then .inconclusive
  else
    match views.mapM id with
    | none => .inconclusive
    | some views => kind.verdict last views

theorem conclude_observes (rpc : Rpc) (signature : String) (last : Int) (rpcUrls : List String) :
    Kind.conclude .gateway last (rpcUrls.map (readView rpc signature)) =
        Gateway.observeUrls rpc signature last rpcUrls ∧
      Kind.conclude .orchestrator last (rpcUrls.map (readView rpc signature)) =
        (Orchestrator.observeUrls rpc signature last rpcUrls).atGateway := by
  have hviews : (rpcUrls.map (readView rpc signature)).mapM id =
      rpcUrls.mapM (readView rpc signature) := by
    simp
  unfold Kind.conclude Gateway.observeUrls Orchestrator.observeUrls
  rw [List.length_map, hviews]
  split
  · exact ⟨rfl, rfl⟩
  · cases rpcUrls.mapM (readView rpc signature) with
    | none => exact ⟨rfl, rfl⟩
    | some views => exact ⟨rfl, rfl⟩

-- the lease under which a worker process holds a claim
structure Job where
  grant : Nat
  claimId : String
  deriving DecidableEq, Repr

structure Held where
  signature : String
  lastValidBlockHeight : Nat
  deriving DecidableEq, Repr

inductive Probe
  | waiting
  | status (status : Option SignatureStatus)
  | finished (view : Option View)

def Probe.view : Probe → Option (Option View)
  | .finished view => some view
  | _ => none

inductive Stage
  | idle
  | leasing (ticket : Nat)
  | refused (job : Job)
  | signing (job : Job)
  | preparing (job : Job) (ticket : Nat)
  | broadcasting (job : Job) (held : Held)
  | observing (job : Job) (held : Held) (resumed : Bool) (probes : List Probe)
  | reporting (job : Job) (ticket : Nat)
  | recording (ticket : Nat)

structure Worker where
  kind : Kind
  workerId : String
  escrowWallet : String
  network : String
  rpcUrls : List String
  stage : Stage

def safeClaimId (id : String) : Bool :=
  (3 ≤ id.length : Bool) && (id.length ≤ 128 : Bool) && id.toList.all fun c =>
    isAsciiAlphanumeric c || c == ':' || c == '_' || c == '-'

def startProbes (worker : Worker) : List Probe :=
  worker.rpcUrls.map fun _ => .waiting

def beginClaim (worker : Worker) (grant : Nat) (claim : PayoutClaim) : Stage :=
  let job : Job := ⟨grant, claim.id⟩
  if safeClaimId claim.id = false ∨ claim.escrowWallet ≠ worker.escrowWallet ∨
      claim.network ≠ worker.network then .refused job
  else
    match claim.status, claim.transactionSignature, claim.lastValidBlockHeight with
    | .leased, _, _ => .signing job
    | .prepared, some signature, some height =>
      .observing job ⟨signature, height⟩ true (startProbes worker)
    | _, _, _ => .refused job

def heldOf (claim : PayoutClaim) : Option Held :=
  match claim.transactionSignature, claim.lastValidBlockHeight with
  | some signature, some height => some ⟨signature, height⟩
  | _, _ => none

-- the stage after the reply to a request; a process that stopped waiting for it never sees it
def Worker.receive (worker : Worker) (ticket grant : Nat) :
    Request → Response → Option Stage
  | .lease _, .claims claims =>
    match worker.stage with
    | .leasing t =>
      if t = ticket then
        some (match claims with
          | [] => .idle
          | claim :: _ => beginClaim worker grant claim)
      else none
    | _ => none
  | .prepare _, .claim claim =>
    match worker.stage with
    | .preparing job t =>
      if t = ticket then
        some (match heldOf claim with
          | some held => .broadcasting ⟨job.grant, claim.id⟩ held
          | none => .refused job)
      else none
    | _ => none
  | _, .claim _ =>
    match worker.stage with
    | .reporting _ t => if t = ticket then some .idle else none
    | .recording t => if t = ticket then some .idle else none
    | _ => none
  | _, .claims _ => none

structure Outgoing where
  job : Option Job
  request : Request
  deriving DecidableEq, Repr

structure Turn where
  stage : Stage
  outgoing : Option Outgoing
  submitted : Option String

def Turn.to (stage : Stage) : Turn := ⟨stage, none, none⟩

def failure (worker : Worker) (job : Job) (abandon : Bool) (error : String) : Outgoing :=
  ⟨some job, .fail ⟨job.claimId, worker.workerId, error, abandon⟩⟩

-- processClaim's catch block: an exception anywhere is recorded without abandoning
def recordThrow (worker : Worker) (job : Job) (ticket : Nat) (submitted : Option String) : Turn :=
  ⟨.recording ticket, some (failure worker job false "payout attempt failed"), submitted⟩

def concludeTurn (worker : Worker) (job : Job) (held : Held) (resumed : Bool)
    (views : List (Option View)) (ticket : Nat) : Turn :=
  match worker.kind.conclude held.lastValidBlockHeight views with
  | .finalized =>
    ⟨.reporting job ticket,
      some ⟨some job, .complete ⟨job.claimId, worker.workerId, held.signature⟩⟩, none⟩
  | .absentOrFailed =>
    ⟨.reporting job ticket, some (failure worker job true
      "two independent finalized RPC views found no successful prepared payout"), none⟩
  | .inconclusive =>
    .to (if resumed then .broadcasting job held else .observing job held false (startProbes worker))

inductive Act
  | poll
  | sign (signature raw blockhash : String)
  | broadcast
  | broadcastThrows
  | readStatus (i : Nat) (status : Option SignatureStatus)
  | readHeight (i : Nat) (blockHeight : Nat)
  | noView (i : Nat)
  | conclude
  | throws
  | crash

section Turns

variable (lastValid : String → Nat) (chain : Chain) (worker : Worker) (ticket : Nat)

def probeTurn (job : Job) (held : Held) (resumed : Bool) (probes : List Probe) :
    Act → Option Turn
  | .readStatus i status =>
    match probes[i]? with
    | some .waiting =>
      if chain.truthful (lastValid held.signature) held.signature status then
        some (.to (.observing job held resumed (probes.set i (.status status))))
      else none
    | _ => none
  | .readHeight i blockHeight =>
    match probes[i]? with
    | some (.status status) =>
      if blockHeight ≤ chain.height then
        some (.to (.observing job held resumed
          (probes.set i (.finished (some ⟨status, blockHeight⟩)))))
      else none
    | _ => none
  | .noView i => some (.to (.observing job held resumed (probes.set i (.finished none))))
  | .conclude =>
    (probes.mapM Probe.view).map fun views => concludeTurn worker job held resumed views ticket
  | .throws => some (recordThrow worker job ticket none)
  | .crash => some (.to .idle)
  | _ => none

def Worker.act : Stage → Act → Option Turn
  | .idle, .poll =>
    some ⟨.leasing ticket, some ⟨none, .lease ⟨worker.workerId, worker.escrowWallet,
      worker.network, 1, 600000⟩⟩, none⟩
  | .signing job, .sign signature raw blockhash =>
    some ⟨.preparing job ticket, some ⟨some job, .prepare ⟨job.claimId, worker.workerId, signature,
      raw, blockhash, lastValid (trim signature)⟩⟩, none⟩
  | .broadcasting job held, .broadcast =>
    some ⟨.observing job held false (startProbes worker), none, some held.signature⟩
  | .broadcasting job held, .broadcastThrows =>
    some (recordThrow worker job ticket (some held.signature))
  | .observing job held resumed probes, act =>
    probeTurn lastValid chain worker ticket job held resumed probes act
  | .refused job, .throws => some (recordThrow worker job ticket none)
  | .signing job, .throws => some (recordThrow worker job ticket none)
  | .preparing job _, .throws => some (recordThrow worker job ticket none)
  | .broadcasting job _, .throws => some (recordThrow worker job ticket none)
  | .reporting job _, .throws => some (recordThrow worker job ticket none)
  | .leasing _, .throws => some (.to .idle)
  | .recording _, .throws => some (.to .idle)
  | _, .crash => some (.to .idle)
  | _, _ => none

end Turns

structure Message where
  ticket : Nat
  sender : Nat
  job : Option Job
  request : Request
  deriving DecidableEq, Repr

-- `holder c` is the grant under which claim c is leased, until a failure or completion clears
-- the lease or a later grant replaces it.
structure World where
  db : Database
  chain : Chain
  workers : Nat → Worker
  messages : List Message
  next : Nat
  holder : String → Option Nat

inductive WorldEvent
  | tick
  | land (signature : String) (succeeded : Bool) (block : Nat)
  | act (p : Nat) (act : Act)
  | handle (m : Message) (now : Nat) (delivered : Bool)
  | lose (ticket : Nat)
  | store (e : Event)

def setHolder (holder : String → Option Nat) (grant : Nat) :
    Request → Response → String → Option Nat
  | .lease _, .claims claims => fun c =>
    if c ∈ claims.map PayoutClaim.id then some grant else holder c
  | .prepare _, _ => holder
  | .complete q, _ => fun c => if c = trim q.claimId then none else holder c
  | .fail q, _ => fun c => if c = trim q.claimId then none else holder c
  | _, _ => holder

def World.executed (w : World) (m : Message) (db : Database) (response : Response) : World :=
  { w with
    db := db
    messages := w.messages.filter fun m' => m'.ticket ≠ m.ticket
    next := w.next + 1
    holder := setHolder w.holder w.next m.request response }

def World.setStage (w : World) (p : Nat) (stage : Stage) : World :=
  { w with
    workers := fun q => if q = p then { w.workers p with stage := stage } else w.workers q }

def World.handleMessage (enc : Encoding) (w : World) (m : Message) (now : Nat) (delivered : Bool) :
    Option World :=
  (execute enc w.db now m.request).toOption.bind fun (db, response) =>
    if delivered then
      ((w.workers m.sender).receive m.ticket w.next m.request response).map
        ((w.executed m db response).setStage m.sender)
    else some (w.executed m db response)

def World.takeTurn (w : World) (p : Nat) (turn : Turn) : World :=
  { w.setStage p turn.stage with
    messages := w.messages ++
      (turn.outgoing.map fun o => Message.mk w.next p o.job o.request).toList
    chain := { w.chain with submitted := w.chain.submitted ++ turn.submitted.toList }
    next := w.next + 1 }

def isEnvironment : Event → Bool
  | .accepted _ _ => false
  | .rejected _ _ _ => false
  | _ => true

def World.step (enc : Encoding) (lastValid : String → Nat) (w : World) : WorldEvent → Option World
  | .tick => some { w with chain := { w.chain with height := w.chain.height + 1 } }
  | .land signature succeeded block =>
    if signature ∈ w.chain.submitted ∧ w.chain.outcome signature = none ∧
        w.chain.height ≤ block ∧ block ≤ lastValid signature then
      some { w with
        chain := { w.chain with landed := (signature, succeeded, block) :: w.chain.landed } }
    else none
  | .act p act =>
    ((w.workers p).act lastValid w.chain w.next (w.workers p).stage act).map (w.takeTurn p)
  | .handle m now delivered => if m ∈ w.messages then w.handleMessage enc m now delivered else none
  | .lose ticket => some { w with messages := w.messages.filter fun m => m.ticket ≠ ticket }
  | .store e =>
    if isEnvironment e then (execEvent enc w.db e).map fun db => { w with db := db } else none

end Obulus.Payout
