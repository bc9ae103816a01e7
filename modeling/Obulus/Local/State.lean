import Obulus.Foundation.Checks
import Obulus.Foundation.Json
import Obulus.Foundation.Table

namespace Obulus.Local

open Foundation

structure LocalAgentError where
  message : String
  code : String
  status : Nat
  deriving DecidableEq, Repr

-- an object read as a map: a new name goes last, an old one keeps its place
abbrev Entries (β : Type) := Table (Prod.fst : String × β → String)

namespace Entries

variable {β : Type} {entries : Entries β} {name other : String} {value : β} {p : String × β → Bool}

def get (entries : Entries β) (name : String) : Option β :=
  (entries.get? name).map Prod.snd

def set (entries : Entries β) (name : String) (value : β) : Entries β :=
  entries.put (name, value)

def remove (entries : Entries β) (p : String × β → Bool) : Entries β :=
  entries.delete p

theorem get_eq_some : entries.get name = some value ↔ entries.get? name = some (name, value) := by
  rw [get, Option.map_eq_some_iff]
  constructor
  · rintro ⟨⟨key, _⟩, h, rfl⟩
    have hkey : key = name := Table.get?_key h
    rw [h, hkey]
  · intro h
    exact ⟨_, h, rfl⟩

theorem get_eq_none : entries.get name = none ↔ entries.get? name = none := by
  rw [get, Option.map_eq_none_iff]

theorem get_set : (entries.set name value).get other = if name = other then some value else entries.get other := by
  rw [get, set, Table.get?_put]
  split
  · rfl
  · rfl

theorem get_remove : (entries.remove p).get name = (entries.get name).filter fun value => !p (name, value) := by
  rw [get, remove, Table.get?_delete, get]
  cases h : entries.get? name with
  | none => rfl
  | some entry =>
    obtain ⟨key, value⟩ := entry
    have hkey : key = name := Table.get?_key h
    subst hkey
    cases hp : p (key, value) <;> simp [Option.filter, hp]

end Entries

inductive IntentStatus
  | prepared
  | approved
  | executing
  | ambiguous
  | completed
  deriving DecidableEq, Repr

def IntentStatus.text : IntentStatus → String
  | .prepared => "prepared"
  | .approved => "approved"
  | .executing => "executing"
  | .ambiguous => "ambiguous"
  | .completed => "completed"

def IntentStatus.unsettled (status : IntentStatus) : Bool :=
  [IntentStatus.executing, .ambiguous].contains status

structure ApprovalBinding where
  id : String
  amountAtomic : String
  network : String
  asset : String
  payTo : String
  resourcePath : String
  documentHandle : Option String
  documentHandles : Option (List String)
  payloadHash : Option String
  target : Option Int
  unitPriceKrw : Option Int
  priceKrw : Option Int
  totalPriceKrw : Option Int
  deriving DecidableEq, Repr

structure PaymentIntent where
  kind : Option String
  queryId : String
  quoteId : String
  status : IntentStatus
  purpose : String
  paymentUrl : String
  amountAtomic : String
  network : String
  asset : String
  payTo : String
  payAccount : String
  expiresAt : Int
  approvalBinding : ApprovalBinding
  paymentUrlHash : String
  createdAt : Int
  approvedAt : Option Int
  approvalNonce : Option String
  executionStartedAt : Option Int
  completedAt : Option Int
  failedAt : Option Int
  failure : Option String
  deriving DecidableEq, Repr

def PaymentIntent.unsettled (intent : PaymentIntent) : Bool := intent.status.unsettled

structure Query where
  paymentAccessToken : String
  handles : List String
  createdAt : Int
  questionHash : String
  deriving DecidableEq, Repr

structure State where
  sessionToken : Option String
  user : Option Json
  queries : Entries Query
  paymentIntents : Entries PaymentIntent
  conversations : Entries Json

def emptyState : State where
  sessionToken := none
  user := none
  queries := Table.empty
  paymentIntents := Table.empty
  conversations := Table.empty

def maxQueryAgeMs : Int := 24 * 60 * 60 * 1000

def isSafeInteger (n : Int) : Bool :=
  -Json.maxSafeInteger ≤ n ∧ n ≤ Json.maxSafeInteger

def refuseUnsettledIntent (state : State) (queryId : Option String) : Except LocalAgentError Unit :=
  match state.paymentIntents.rows.find? fun entry =>
      entry.2.unsettled && queryId.all (entry.2.queryId = ·) with
  | some entry => .error
      ⟨s!"Cannot forget local state while payment intent {entry.1} requires settlement recovery.",
        "payment_in_progress", 409⟩
  | none => .ok ()

def requireQuery (state : State) (queryId : String) (now : Int) : Except LocalAgentError Query := do
  let query ← orReject ((state.queries.get queryId).filter fun query => query.paymentAccessToken ≠ "")
    ⟨s!"No local capability exists for query {queryId}. Search again.", "query_context_missing", 404⟩
  reject (¬isSafeInteger query.createdAt ∨ maxQueryAgeMs < now - query.createdAt)
    ⟨"The local query capability expired. Search again.", "query_expired", 410⟩
  return query

def requirePaymentIntent (state : State) (intentId : String) (now : Int) (allowExpired : Bool) :
    Except LocalAgentError PaymentIntent := do
  let intent ← orReject ((state.paymentIntents.get intentId).filter fun intent => intent.paymentUrl ≠ "")
    ⟨s!"No local payment intent exists for {intentId}.", "intent_missing", 404⟩
  reject (¬allowExpired ∧ (¬isSafeInteger intent.expiresAt ∨ intent.expiresAt ≤ now))
    ⟨"The local payment intent expired. Prepare a new quote.", "quote_expired", 410⟩
  return intent

def forgetLocalState (queryId : Option String) (state : State) : Except LocalAgentError State :=
  match queryId.filter fun queryId => queryId ≠ "" with
  | none => do
    refuseUnsettledIntent state none
    return emptyState
  | some queryId => do
    refuseUnsettledIntent state (some queryId)
    return { state with
      queries := state.queries.remove fun entry => entry.1 = queryId
      paymentIntents := state.paymentIntents.remove fun entry => entry.2.queryId = queryId }

variable {state : State} {queryId intentId : String} {query : Query} {intent : PaymentIntent}
  {now : Int} {allowExpired : Bool}

theorem refuseUnsettledIntent_ok {u : Unit} {named : Option String}
    (h : refuseUnsettledIntent state named = .ok u)
    (hget : state.paymentIntents.get intentId = some intent) (hunsettled : intent.unsettled = true) :
    named.all (intent.queryId = ·) = false := by
  rw [refuseUnsettledIntent] at h
  split at h
  · cases h
  · next hfind =>
    have hmem := Table.get?_mem (Entries.get_eq_some.mp hget)
    have hout := List.find?_eq_none.mp hfind _ hmem
    simpa [hunsettled] using hout

theorem requirePaymentIntent_ok (h : requirePaymentIntent state intentId now allowExpired = .ok intent) :
    state.paymentIntents.get intentId = some intent := by
  simp only [requirePaymentIntent, bind_eq_ok, reject_eq_ok, orReject_eq_ok, exists_const,
    pure_eq_ok, Option.filter_eq_some_iff] at h
  obtain ⟨_, ⟨hget, -⟩, -, rfl⟩ := h
  exact hget

end Obulus.Local
