import Obulus.Foundation.Trace
import Obulus.Local.Updates

namespace Obulus.Local

open Foundation

-- an operation between two of its turns; what it holds was read before it began to wait
inductive Task
  | preparing (queryId payAccount : String)
  | preparingOpenCall (chatId payAccount : String) (target unitPriceKrw : Int)
  | approving (intentId : String) (snapshot : PaymentIntent)
  | running (intentId : String) (claimed : PaymentIntent)
  | receiving (intentId : String) (claimed : PaymentIntent) (body : Json)
  | doubting (intentId : String) (claimed : PaymentIntent)
  | recovering (queryId jobId intentId : String) (localIntent : PaymentIntent)
  | recovered (intentId : String) (localIntent : PaymentIntent) (reply : Json)
  | deleting

structure World where
  state : State
  tasks : Table (Prod.fst : Nat × Task → Nat)
  uuids : List String

def World.start : World where
  state := emptyState
  tasks := Table.empty
  uuids := []

def World.task (world : World) (number : Nat) : Option Task :=
  (world.tasks.get? number).map Prod.snd

def World.intent (world : World) (intentId : String) : Option PaymentIntent :=
  world.state.paymentIntents.get intentId

inductive Event
  | search (queryId : String) (query : Query)
  | beginPrepare (number : Nat) (queryId : String) (handles : List String) (now : Int)
  | storePrepared (number : Nat) (uuid : String) (plan : PaymentPlan) (now : Int)
  | beginOpenCall (number : Nat) (chatId : String) (target unitPriceKrw : Int)
  | storeOpenCall (number : Nat) (uuid : String) (plan : PaymentPlan) (now : Int)
  | requestApproval (number : Nat) (intentId : String) (now : Int)
  | grantApproval (number : Nat) (uuid : String) (now : Int)
  | execute (number : Nat) (intentId : String) (now : Int)
  | returned (number : Nat) (stdout : Option Json)
  | thrown (number : Nat)
  | recordReceipt (number : Nat) (now : Int)
  | recordDoubt (number : Nat) (now : Int)
  | beginStatus (number : Nat) (queryId jobId : String) (now : Int)
  | statusReply (number : Nat) (reply : Json)
  | recordRecovery (number : Nat) (now : Int)
  | forget (queryId : Option String)
  | openSession (sessionToken : String) (user : Option Json)
  | closeSession
  | requestDeletion (number : Nat) (confirmation : String)
  | recordDeletion (number : Nat)
  | converse (conversations : Entries Json)
  | crash (number : Nat)

def intentIdOf (uuid : String) : String := "intent_" ++ uuid

def quotableHandles (query : Query) (handles : List String) : Bool :=
  let chosen := handles.dedup
  1 ≤ chosen.length && chosen.length ≤ 100 && chosen.all query.handles.contains

def isDocument (intent : PaymentIntent) : Bool :=
  intent.approvalBinding.documentHandle.any (· ≠ "")

def findLocalIntent (state : State) (queryId jobId : String) : Option (String × PaymentIntent) :=
  state.paymentIntents.rows.find? fun entry => entry.2.queryId = queryId && entry.2.quoteId = jobId

-- the recovery names the quote and the document of the local intent
def recoveryNames (localIntent : PaymentIntent) (jobId : String) (reply : Json) : Bool :=
  namesText ((reply.field "settlement").bind (Json.field "quoteId")) jobId &&
    localIntent.approvalBinding.documentHandle.any fun handle =>
      namesText ((reply.field "citation").bind (Json.field "handle")) handle

namespace World

variable (platform : Platform) (config : Config)

def commit (world : World) (update : Update) : Option World :=
  (update.apply platform config world.state).toOption.map fun state => { world with state := state }

-- the numbers of running operations are distinct, as their promises are
def begin (world : World) (number : Nat) (task : Task) : Option World :=
  if (world.task number).isSome then none
  else some { world with tasks := world.tasks.put (number, task) }

def resume (world : World) (number : Nat) (task : Task) : World :=
  { world with tasks := world.tasks.put (number, task) }

def finish (world : World) (number : Nat) : World :=
  { world with tasks := world.tasks.delete fun entry => entry.1 = number }

def draw (world : World) (uuid : String) : Option World :=
  if uuid ∈ world.uuids then none else some { world with uuids := uuid :: world.uuids }

end World

variable (platform : Platform) (config : Config)

-- none where the event cannot happen, or throws before it has changed anything
def handle (world : World) : Event → Option World
  -- the ledger draws the identity of a query at random
  | .search queryId query =>
    if (world.state.queries.get queryId).isSome then none
    else world.commit platform config (.remember queryId query)
  | .beginPrepare number queryId handles now => do
    let payAccount ← config.payAccount.filter fun account => account ≠ ""
    let query ← (requireQuery world.state queryId now).toOption
    if quotableHandles query handles then world.begin number (.preparing queryId payAccount)
    else none
  | .storePrepared number uuid plan now => do
    match ← world.task number with
    | .preparing queryId payAccount =>
      let drawn ← world.draw uuid
      let stored ← drawn.commit platform config
        (.prepare (intentIdOf uuid) queryId payAccount plan now)
      some (stored.finish number)
    | _ => none
  | .beginOpenCall number chatId target unitPriceKrw => do
    let payAccount ← config.payAccount.filter fun account => account ≠ ""
    let _ ← world.state.sessionToken
    world.begin number (.preparingOpenCall chatId payAccount target unitPriceKrw)
  -- the session may have closed since
  | .storeOpenCall number uuid plan now => do
    match ← world.task number with
    | .preparingOpenCall chatId payAccount target unitPriceKrw =>
      let drawn ← world.draw uuid
      let stored ← drawn.commit platform config
        (.prepareOpenCall (intentIdOf uuid) chatId payAccount plan target unitPriceKrw now)
      some (stored.finish number)
    | _ => none
  | .requestApproval number intentId now => do
    let snapshot ← (approvalSnapshot intentId now world.state).toOption
    world.begin number (.approving intentId snapshot)
  | .grantApproval number uuid now => do
    match ← world.task number with
    | .approving intentId snapshot =>
      let drawn ← world.draw uuid
      match drawn.commit platform config (.approve intentId snapshot now uuid) with
      | some approved => some (approved.finish number)
      | none => some (world.finish number)
    | _ => none
  | .execute number intentId now => do
    let (state, claimed) ← (claimIntent platform config intentId now world.state).toOption
    { world with state := state }.begin number (.running intentId claimed)
  | .returned number stdout => do
    match ← world.task number with
    | .running intentId claimed =>
      match stdout, verifiedPaymentResponse claimed stdout with
      | some body, .ok _ => some (world.resume number (.receiving intentId claimed body))
      | _, _ => some (world.resume number (.doubting intentId claimed))
    | _ => none
  | .thrown number => do
    match ← world.task number with
    | .running intentId claimed => some (world.resume number (.doubting intentId claimed))
    | _ => none
  | .recordReceipt number now => do
    match ← world.task number with
    | .receiving intentId claimed _ =>
      match world.commit platform config (.complete intentId claimed now) with
      | some stored => some (stored.finish number)
      | none => some (world.resume number (.doubting intentId claimed))
    | _ => none
  | .recordDoubt number now => do
    match ← world.task number with
    | .doubting intentId claimed =>
      let stored ← world.commit platform config (.doubt intentId claimed now)
      some (stored.finish number)
    | _ => none
  | .beginStatus number queryId jobId now => do
    let _ ← (requireQuery world.state queryId now).toOption
    let (intentId, localIntent) ← findLocalIntent world.state queryId jobId
    if isDocument localIntent then
      world.begin number (.recovering queryId jobId intentId localIntent)
    else none
  | .statusReply number reply => do
    match ← world.task number with
    | .recovering _ jobId intentId localIntent =>
      if recoveryNames localIntent jobId reply then
        some (world.resume number (.recovered intentId localIntent reply))
      else some (world.finish number)
    | _ => none
  | .recordRecovery number now => do
    match ← world.task number with
    | .recovered intentId _ _ =>
      let stored ← world.commit platform config (.recover intentId now)
      some (stored.finish number)
    | _ => none
  | .forget queryId => world.commit platform config (.forget queryId)
  | .openSession sessionToken user =>
    if sessionToken.length < 32 then none
    else world.commit platform config (.openSession sessionToken user)
  | .closeSession => world.commit platform config .closeSession
  | .requestDeletion number confirmation => do
    let _ ← world.state.sessionToken
    if confirmation = "DELETE MY OBULUS ACCOUNT" then world.begin number .deleting else none
  | .recordDeletion number => do
    match ← world.task number with
    | .deleting =>
      let stored ← world.commit platform config .deleteAccount
      some (stored.finish number)
    | _ => none
  | .converse conversations => world.commit platform config (.converse conversations)
  | .crash number => some (world.finish number)

def Step (world : World) (event : Event) (world' : World) : Prop :=
  handle platform config world event = some world'

def Event.number : Event → Option Nat
  | .beginPrepare number _ _ _ | .storePrepared number _ _ _ | .beginOpenCall number _ _ _
  | .storeOpenCall number _ _ _ | .requestApproval number _ _ | .grantApproval number _ _ | .execute number _ _ | .returned number _ | .thrown number
  | .recordReceipt number _ | .recordDoubt number _ | .beginStatus number _ _ _
  | .statusReply number _ | .recordRecovery number _ | .requestDeletion number _
  | .recordDeletion number | .crash number => some number
  | _ => none

inductive Performs (world : World) : Event → Update → Prop
  | search {queryId : String} {query : Query} :
      world.state.queries.get queryId = none →
      Performs world (.search queryId query) (.remember queryId query)
  | prepare {number : Nat} {uuid queryId payAccount : String} {plan : PaymentPlan} {now : Int} :
      world.task number = some (.preparing queryId payAccount) → uuid ∉ world.uuids →
      Performs world (.storePrepared number uuid plan now)
        (.prepare (intentIdOf uuid) queryId payAccount plan now)
  | prepareOpenCall {number : Nat} {uuid chatId payAccount : String} {plan : PaymentPlan}
      {target unitPriceKrw now : Int} :
      world.task number = some (.preparingOpenCall chatId payAccount target unitPriceKrw) →
      uuid ∉ world.uuids → Performs world (.storeOpenCall number uuid plan now)
        (.prepareOpenCall (intentIdOf uuid) chatId payAccount plan target unitPriceKrw now)
  | approve {number : Nat} {uuid intentId : String} {snapshot : PaymentIntent} {now : Int} :
      Performs world (.grantApproval number uuid now) (.approve intentId snapshot now uuid)
  | claim {number : Nat} {intentId : String} {now : Int} :
      Performs world (.execute number intentId now) (.claim intentId now)
  | complete {number : Nat} {intentId : String} {claimed : PaymentIntent} {body : Json} {now : Int} :
      world.task number = some (.receiving intentId claimed body) →
      Performs world (.recordReceipt number now) (.complete intentId claimed now)
  | doubt {number : Nat} {intentId : String} {claimed : PaymentIntent} {now : Int} :
      Performs world (.recordDoubt number now) (.doubt intentId claimed now)
  | recover {number : Nat} {intentId : String} {localIntent : PaymentIntent} {reply : Json}
      {now : Int} :
      world.task number = some (.recovered intentId localIntent reply) →
      Performs world (.recordRecovery number now) (.recover intentId now)
  | forget {queryId : Option String} : Performs world (.forget queryId) (.forget queryId)
  | openSession {sessionToken : String} {user : Option Json} :
      Performs world (.openSession sessionToken user) (.openSession sessionToken user)
  | closeSession : Performs world .closeSession .closeSession
  | deleteAccount {number : Nat} : Performs world (.recordDeletion number) .deleteAccount
  | converse {conversations : Entries Json} :
      Performs world (.converse conversations) (.converse conversations)

inductive Begins (world : World) (number : Nat) : Event → Task → Prop
  | preparing {queryId payAccount : String} {handles : List String} {now : Int} :
      Begins world number (.beginPrepare number queryId handles now) (.preparing queryId payAccount)
  | preparingOpenCall {chatId payAccount : String} {target unitPriceKrw : Int} :
      Begins world number (.beginOpenCall number chatId target unitPriceKrw)
        (.preparingOpenCall chatId payAccount target unitPriceKrw)
  | approving {intentId : String} {snapshot : PaymentIntent} {now : Int} :
      Begins world number (.requestApproval number intentId now) (.approving intentId snapshot)
  | running {intentId : String} {intent : PaymentIntent} {now : Int} :
      world.intent intentId = some intent →
      Begins world number (.execute number intentId now) (.running intentId (intent.execute now))
  | receiving {intentId : String} {claimed : PaymentIntent} {body : Json} :
      world.task number = some (.running intentId claimed) →
      (verifiedPaymentResponse claimed (some body)).isOk = true →
      Begins world number (.returned number (some body)) (.receiving intentId claimed body)
  | doubting {event : Event} {intentId : String} {claimed : PaymentIntent} :
      event.number = some number →
      Begins world number event (.doubting intentId claimed)
  | recovering {queryId jobId intentId : String} {localIntent : PaymentIntent} {now : Int} :
      world.intent intentId = some localIntent → localIntent.queryId = queryId →
      localIntent.quoteId = jobId →
      Begins world number (.beginStatus number queryId jobId now)
        (.recovering queryId jobId intentId localIntent)
  | recovered {queryId jobId intentId : String} {localIntent : PaymentIntent} {reply : Json} :
      world.task number = some (.recovering queryId jobId intentId localIntent) →
      recoveryNames localIntent jobId reply = true →
      Begins world number (.statusReply number reply) (.recovered intentId localIntent reply)
  | deleting {confirmation : String} :
      Begins world number (.requestDeletion number confirmation) .deleting

structure Stepped (world : World) (event : Event) (world' : World) : Prop where
  state : world'.state = world.state ∨ ∃ update, Performs world event update ∧
    update.apply platform config world.state = .ok world'.state
  tasks : ∀ number task, world'.task number = some task →
    (world.task number = some task ∧ event.number ≠ some number) ∨ Begins world number event task
  uuids : world'.uuids = world.uuids ∨
    ∃ uuid, uuid ∉ world.uuids ∧ world'.uuids = uuid :: world.uuids
  draws : ∀ update intentId, Performs world event update → update.prepares intentId = true →
    ∃ uuid, uuid ∉ world.uuids ∧ intentId = intentIdOf uuid ∧ world'.uuids = uuid :: world.uuids

namespace World

variable {platform : Platform} {config : Config} {world world' : World} {update : Update}
  {number other : Nat} {task : Task} {uuid : String}

theorem commit_eq_some : world.commit platform config update = some world' ↔
    ∃ state, update.apply platform config world.state = .ok state ∧
      { world with state := state } = world' := by
  simp only [commit, Option.map_eq_some_iff, toOption_eq_some]

theorem begin_eq_some : world.begin number task = some world' ↔
    world.task number = none ∧ world.resume number task = world' := by
  rw [begin]
  cases h : world.task number with
  | none => simp [resume]
  | some task => simp

theorem draw_eq_some : world.draw uuid = some world' ↔
    uuid ∉ world.uuids ∧ { world with uuids := uuid :: world.uuids } = world' := by
  rw [draw]
  split <;> simp [*]

theorem task_resume : (world.resume number task).task other =
    if number = other then some task else world.task other := by
  rw [World.task, resume, Table.get?_put]
  split
  · rfl
  · rfl

theorem task_finish : (world.finish number).task other =
    if number = other then none else world.task other := by
  rw [World.task, finish, Table.get?_delete, World.task]
  cases h : world.tasks.get? other with
  | none => simp
  | some entry =>
    have hkey : entry.1 = other := Table.get?_key h
    by_cases heq : number = other
    · simp [Option.filter, hkey, heq]
    · simp [Option.filter, hkey, heq, Ne.symm heq]

end World

section Stepped

variable {platform : Platform} {config : Config} {world world' : World} {event : Event}
  {update : Update} {number : Nat} {task : Task}

theorem quiet_draws (hquiet : ∀ update, Performs world event update → ∀ intentId,
    update.prepares intentId = false) : ∀ update intentId, Performs world event update →
    update.prepares intentId = true →
    ∃ uuid, uuid ∉ world.uuids ∧ intentId = intentIdOf uuid ∧ world'.uuids = uuid :: world.uuids := by
  intro update intentId hperforms hprepares
  rw [hquiet update hperforms intentId] at hprepares
  cases hprepares

theorem tasks_resume (htasks : world'.tasks = (world.resume number task).tasks)
    (hnumber : event.number = some number) (hbegins : Begins world number event task)
    (other : Nat) (task' : Task) (h : world'.task other = some task') :
    (world.task other = some task' ∧ event.number ≠ some other) ∨ Begins world other event task' := by
  rw [World.task, htasks] at h
  change (world.resume number task).task other = some task' at h
  rw [World.task_resume] at h
  split at h
  · next heq =>
    cases h
    exact .inr (heq ▸ hbegins)
  · next hne =>
    refine .inl ⟨h, ?_⟩
    rw [hnumber]
    simpa using hne

theorem tasks_finish (htasks : world'.tasks = (world.finish number).tasks)
    (hnumber : event.number = some number) (other : Nat) (task' : Task)
    (h : world'.task other = some task') :
    (world.task other = some task' ∧ event.number ≠ some other) ∨ Begins world other event task' := by
  rw [World.task, htasks] at h
  change (world.finish number).task other = some task' at h
  rw [World.task_finish] at h
  split at h
  · cases h
  · next hne =>
    refine .inl ⟨h, ?_⟩
    rw [hnumber]
    simpa using hne

theorem tasks_kept (htasks : world'.tasks = world.tasks) (hnumber : event.number = none)
    (other : Nat) (task' : Task) (h : world'.task other = some task') :
    (world.task other = some task' ∧ event.number ≠ some other) ∨ Begins world other event task' := by
  rw [World.task, htasks] at h
  refine .inl ⟨h, ?_⟩
  rw [hnumber]
  simp

theorem stepped_commit (h : world.commit platform config update = some world')
    (hperforms : Performs world event update) (hnumber : event.number = none)
    (hquiet : ∀ update, Performs world event update → ∀ intentId, update.prepares intentId = false) :
    Stepped platform config world event world' := by
  obtain ⟨state, happly, rfl⟩ := World.commit_eq_some.mp h
  exact ⟨.inr ⟨update, hperforms, happly⟩, tasks_kept rfl hnumber, .inl rfl, quiet_draws hquiet⟩

theorem stepped_begin (h : world.begin number task = some world')
    (hbegins : Begins world number event task) (hnumber : event.number = some number)
    (hquiet : ∀ update, Performs world event update → ∀ intentId, update.prepares intentId = false) :
    Stepped platform config world event world' := by
  obtain ⟨-, rfl⟩ := World.begin_eq_some.mp h
  exact ⟨.inl rfl, tasks_resume rfl hnumber hbegins, .inl rfl, quiet_draws hquiet⟩

theorem stepped_resume (hbegins : Begins world number event task) (hnumber : event.number = some number)
    (hquiet : ∀ update, Performs world event update → ∀ intentId, update.prepares intentId = false) :
    Stepped platform config world event (world.resume number task) :=
  ⟨.inl rfl, tasks_resume rfl hnumber hbegins, .inl rfl, quiet_draws hquiet⟩

theorem stepped_finish (hnumber : event.number = some number)
    (hquiet : ∀ update, Performs world event update → ∀ intentId, update.prepares intentId = false) :
    Stepped platform config world event (world.finish number) :=
  ⟨.inl rfl, tasks_finish rfl hnumber, .inl rfl, quiet_draws hquiet⟩

theorem stepped_commit_finish (h : world.commit platform config update = some world')
    (hperforms : Performs world event update) (hnumber : event.number = some number)
    (hquiet : ∀ update, Performs world event update → ∀ intentId, update.prepares intentId = false) :
    Stepped platform config world event (world'.finish number) := by
  obtain ⟨state, happly, rfl⟩ := World.commit_eq_some.mp h
  exact ⟨.inr ⟨update, hperforms, happly⟩, tasks_finish rfl hnumber, .inl rfl, quiet_draws hquiet⟩

theorem step_stepped (h : Step platform config world event world') :
    Stepped platform config world event world' := by
  cases event with
  | search queryId query =>
    simp only [Step, handle] at h
    split at h
    · cases h
    · next hnew =>
      refine stepped_commit h (.search ?_) rfl ?_
      · simpa using hnew
      · rintro _ ⟨⟩ _
        rfl
  | beginPrepare number queryId handles now =>
    simp only [Step, handle, Option.bind_eq_bind, Option.bind_eq_some_iff] at h
    obtain ⟨payAccount, -, query, -, h⟩ := h
    split at h
    · exact stepped_begin h .preparing rfl (by rintro _ ⟨⟩)
    · cases h
  | storePrepared number uuid plan now =>
    simp only [Step, handle, Option.bind_eq_bind, Option.bind_eq_some_iff] at h
    obtain ⟨task, htask, h⟩ := h
    split at h
    · simp only [Option.bind_eq_some_iff, Option.some.injEq] at h
      obtain ⟨drawn, hdrawn, stored, hstored, rfl⟩ := h
      obtain ⟨hnew, rfl⟩ := World.draw_eq_some.mp hdrawn
      obtain ⟨state, happly, rfl⟩ := World.commit_eq_some.mp hstored
      refine ⟨.inr ⟨_, .prepare htask hnew, happly⟩, tasks_finish rfl rfl, .inr ⟨uuid, hnew, rfl⟩, ?_⟩
      rintro _ intentId ⟨⟩ hprepares
      refine ⟨uuid, hnew, ?_, rfl⟩
      simpa [Update.prepares, eq_comm] using hprepares
    · cases h
  | beginOpenCall number chatId target unitPriceKrw =>
    simp only [Step, handle, Option.bind_eq_bind, Option.bind_eq_some_iff] at h
    obtain ⟨payAccount, -, sessionToken, -, h⟩ := h
    exact stepped_begin h .preparingOpenCall rfl (by rintro _ ⟨⟩)
  | storeOpenCall number uuid plan now =>
    simp only [Step, handle, Option.bind_eq_bind, Option.bind_eq_some_iff] at h
    obtain ⟨task, htask, h⟩ := h
    split at h
    · simp only [Option.bind_eq_some_iff, Option.some.injEq] at h
      obtain ⟨drawn, hdrawn, stored, hstored, rfl⟩ := h
      obtain ⟨hnew, rfl⟩ := World.draw_eq_some.mp hdrawn
      obtain ⟨state, happly, rfl⟩ := World.commit_eq_some.mp hstored
      refine ⟨.inr ⟨_, .prepareOpenCall htask hnew, happly⟩, tasks_finish rfl rfl,
        .inr ⟨uuid, hnew, rfl⟩, ?_⟩
      rintro _ intentId ⟨⟩ hprepares
      refine ⟨uuid, hnew, ?_, rfl⟩
      simpa [Update.prepares, eq_comm] using hprepares
    · cases h
  | requestApproval number intentId now =>
    simp only [Step, handle, Option.bind_eq_bind, Option.bind_eq_some_iff] at h
    obtain ⟨snapshot, -, h⟩ := h
    exact stepped_begin h .approving rfl (by rintro _ ⟨⟩)
  | grantApproval number uuid now =>
    simp only [Step, handle, Option.bind_eq_bind, Option.bind_eq_some_iff] at h
    obtain ⟨task, htask, h⟩ := h
    split at h
    · rw [Option.bind_eq_some_iff] at h
      obtain ⟨drawn, hdrawn, h⟩ := h
      obtain ⟨hnew, rfl⟩ := World.draw_eq_some.mp hdrawn
      split at h
      · next approved happroved =>
        cases h
        obtain ⟨state, happly, rfl⟩ := World.commit_eq_some.mp happroved
        refine ⟨.inr ⟨_, .approve, happly⟩, tasks_finish rfl rfl, .inr ⟨uuid, hnew, rfl⟩, ?_⟩
        exact quiet_draws (by rintro _ ⟨⟩ _; rfl)
      · cases h
        exact stepped_finish rfl (by rintro _ ⟨⟩ _; rfl)
    · cases h
  | execute number intentId now =>
    simp only [Step, handle, Option.bind_eq_bind, Option.bind_eq_some_iff, toOption_eq_some] at h
    obtain ⟨⟨state, claimed⟩, hclaim, h⟩ := h
    obtain ⟨-, rfl⟩ := World.begin_eq_some.mp h
    obtain ⟨intent, hget, -, -, hresult⟩ := claimIntent_ok hclaim
    have happly : (Update.claim intentId now).apply platform config world.state = .ok state := by
      rw [Update.apply, hclaim]
      rfl
    obtain ⟨rfl, rfl⟩ := Prod.mk.inj hresult
    exact ⟨.inr ⟨_, .claim, happly⟩, tasks_resume rfl rfl (.running hget), .inl rfl,
      quiet_draws (by rintro _ ⟨⟩ _; rfl)⟩
  | returned number stdout =>
    simp only [Step, handle, Option.bind_eq_bind, Option.bind_eq_some_iff] at h
    obtain ⟨task, htask, h⟩ := h
    split at h
    · split at h
      · next receipt hreceipt =>
        cases h
        refine stepped_resume (.receiving htask ?_) rfl (by rintro _ ⟨⟩)
        rw [hreceipt]
        rfl
      · cases h
        exact stepped_resume (.doubting rfl) rfl (by rintro _ ⟨⟩)
    · cases h
  | thrown number =>
    simp only [Step, handle, Option.bind_eq_bind, Option.bind_eq_some_iff] at h
    obtain ⟨task, htask, h⟩ := h
    split at h
    · cases h
      exact stepped_resume (.doubting rfl) rfl (by rintro _ ⟨⟩)
    · cases h
  | recordReceipt number now =>
    simp only [Step, handle, Option.bind_eq_bind, Option.bind_eq_some_iff] at h
    obtain ⟨task, htask, h⟩ := h
    split at h
    · split at h
      · next stored hstored =>
        cases h
        exact stepped_commit_finish hstored (.complete htask) rfl (by rintro _ ⟨⟩ _; rfl)
      · cases h
        exact stepped_resume (.doubting rfl) rfl (by rintro _ ⟨⟩ _; rfl)
    · cases h
  | recordDoubt number now =>
    simp only [Step, handle, Option.bind_eq_bind, Option.bind_eq_some_iff] at h
    obtain ⟨task, htask, h⟩ := h
    split at h
    · simp only [Option.bind_eq_some_iff, Option.some.injEq] at h
      obtain ⟨stored, hstored, rfl⟩ := h
      exact stepped_commit_finish hstored .doubt rfl (by rintro _ ⟨⟩ _; rfl)
    · cases h
  | beginStatus number queryId jobId now =>
    simp only [Step, handle, Option.bind_eq_bind, Option.bind_eq_some_iff] at h
    obtain ⟨query, -, ⟨intentId, localIntent⟩, hfind, h⟩ := h
    split at h
    · have hmem := List.mem_of_find?_eq_some hfind
      have hnames := List.find?_some hfind
      rw [Bool.and_eq_true, decide_eq_true_eq, decide_eq_true_eq] at hnames
      have hget : world.intent intentId = some localIntent :=
        Entries.get_eq_some.mpr (Table.get?_of_mem hmem)
      exact stepped_begin h (.recovering hget hnames.1 hnames.2) rfl (by rintro _ ⟨⟩)
    · cases h
  | statusReply number reply =>
    simp only [Step, handle, Option.bind_eq_bind, Option.bind_eq_some_iff] at h
    obtain ⟨task, htask, h⟩ := h
    split at h
    · split at h
      · next hnames =>
        cases h
        exact stepped_resume (.recovered htask hnames) rfl (by rintro _ ⟨⟩)
      · cases h
        exact stepped_finish rfl (by rintro _ ⟨⟩)
    · cases h
  | recordRecovery number now =>
    simp only [Step, handle, Option.bind_eq_bind, Option.bind_eq_some_iff] at h
    obtain ⟨task, htask, h⟩ := h
    split at h
    · simp only [Option.bind_eq_some_iff, Option.some.injEq] at h
      obtain ⟨stored, hstored, rfl⟩ := h
      exact stepped_commit_finish hstored (.recover htask) rfl (by rintro _ ⟨⟩ _; rfl)
    · cases h
  | forget queryId => exact stepped_commit h .forget rfl (by rintro _ ⟨⟩ _; rfl)
  | openSession sessionToken user =>
    simp only [Step, handle] at h
    split at h
    · cases h
    · exact stepped_commit h .openSession rfl (by rintro _ ⟨⟩ _; rfl)
  | closeSession => exact stepped_commit h .closeSession rfl (by rintro _ ⟨⟩ _; rfl)
  | requestDeletion number confirmation =>
    simp only [Step, handle, Option.bind_eq_bind, Option.bind_eq_some_iff] at h
    obtain ⟨sessionToken, -, h⟩ := h
    split at h
    · exact stepped_begin h .deleting rfl (by rintro _ ⟨⟩)
    · cases h
  | recordDeletion number =>
    simp only [Step, handle, Option.bind_eq_bind, Option.bind_eq_some_iff] at h
    obtain ⟨task, htask, h⟩ := h
    split at h
    · simp only [Option.bind_eq_some_iff, Option.some.injEq] at h
      obtain ⟨stored, hstored, rfl⟩ := h
      exact stepped_commit_finish hstored .deleteAccount rfl (by rintro _ ⟨⟩ _; rfl)
    · cases h
  | converse conversations => exact stepped_commit h .converse rfl (by rintro _ ⟨⟩ _; rfl)
  | crash number =>
    cases h
    exact stepped_finish rfl (by rintro _ ⟨⟩)

end Stepped

end Obulus.Local
