import Obulus.Local.Receipt

namespace Obulus.Local

open Foundation

structure PaymentPlan where
  purpose : String
  paymentUrl : String
  id : String
  amountAtomic : String
  network : String
  asset : String
  payTo : String
  expiresAt : Int
  approvalBinding : ApprovalBinding
  deriving DecidableEq, Repr

def preparedIntent (platform : Platform) (kind : Option String) (queryId payAccount : String)
    (plan : PaymentPlan) (binding : ApprovalBinding) (now : Int) : PaymentIntent where
  kind := kind
  queryId := queryId
  quoteId := plan.id
  status := .prepared
  purpose := plan.purpose
  paymentUrl := plan.paymentUrl
  amountAtomic := plan.amountAtomic
  network := plan.network
  asset := plan.asset
  payTo := plan.payTo
  payAccount := payAccount
  expiresAt := plan.expiresAt
  approvalBinding := binding
  paymentUrlHash := platform.sha256 plan.paymentUrl
  createdAt := now
  approvedAt := none
  approvalNonce := none
  executionStartedAt := none
  completedAt := none
  failedAt := none
  failure := none

structure ApprovalFingerprint where
  queryId : String
  quoteId : String
  purpose : String
  paymentUrlHash : String
  amountAtomic : String
  network : String
  asset : String
  payTo : String
  payAccount : String
  expiresAt : Int
  approvalBinding : ApprovalBinding
  deriving DecidableEq, Repr

def approvalFingerprint (intent : PaymentIntent) : ApprovalFingerprint where
  queryId := intent.queryId
  quoteId := intent.quoteId
  purpose := intent.purpose
  paymentUrlHash := intent.paymentUrlHash
  amountAtomic := intent.amountAtomic
  network := intent.network
  asset := intent.asset
  payTo := intent.payTo
  payAccount := intent.payAccount
  expiresAt := intent.expiresAt
  approvalBinding := intent.approvalBinding

def State.setIntent (state : State) (intentId : String) (intent : PaymentIntent) : State :=
  { state with paymentIntents := state.paymentIntents.set intentId intent }

def rememberQuery (queryId : String) (query : Query) (state : State) : State :=
  { state with queries := state.queries.set queryId query }

def preparePayment (platform : Platform) (intentId queryId payAccount : String) (plan : PaymentPlan)
    (now : Int) (state : State) : State :=
  state.setIntent intentId
    (preparedIntent platform none queryId payAccount plan plan.approvalBinding now)

def prepareOpenCall (platform : Platform) (intentId chatId payAccount : String) (plan : PaymentPlan)
    (target unitPriceKrw now : Int) (state : State) : State :=
  state.setIntent intentId
    (preparedIntent platform (some "open_call") chatId payAccount plan
      { plan.approvalBinding with target := some target, unitPriceKrw := some unitPriceKrw } now)

def approvalSnapshot (intentId : String) (now : Int) (state : State) :
    Except LocalAgentError PaymentIntent := do
  let intent ← requirePaymentIntent state intentId now false
  reject (intent.status ≠ .prepared)
    ⟨s!"Payment intent is {intent.status.text}; only a prepared intent can be approved.",
      "intent_not_approvable", 409⟩
  return intent

def PaymentIntent.approve (now : Int) (nonce : String) (intent : PaymentIntent) : PaymentIntent :=
  { intent with status := .approved, approvedAt := some now, approvalNonce := some nonce }

def approvePaymentIntent (intentId : String) (snapshot : PaymentIntent) (now : Int) (nonce : String)
    (state : State) : Except LocalAgentError State := do
  let intent ← requirePaymentIntent state intentId now false
  reject (intent.status ≠ .prepared)
    ⟨"Payment intent changed before approval.", "intent_changed", 409⟩
  reject (approvalFingerprint intent ≠ approvalFingerprint snapshot)
    ⟨"Payment economics changed while approval was pending.", "intent_changed", 409⟩
  return state.setIntent intentId (intent.approve now nonce)

def PaymentIntent.execute (now : Int) (intent : PaymentIntent) : PaymentIntent :=
  { intent with status := .executing, executionStartedAt := some now }

def claimIntent (platform : Platform) (config : Config) (intentId : String) (now : Int)
    (state : State) : Except LocalAgentError (State × PaymentIntent) := do
  let intent ← requirePaymentIntent state intentId now false
  assertIntentBinding platform config intent
  reject (intent.status ≠ .approved ∨ (intent.approvalNonce.filter fun nonce => nonce ≠ "") = none)
    ⟨"This intent has not received an interactive one-time approval.", "payment_not_approved", 403⟩
  return (state.setIntent intentId (intent.execute now), intent.execute now)

def PaymentIntent.complete (now : Int) (intent : PaymentIntent) : PaymentIntent :=
  { intent with status := .completed, completedAt := some now, approvalNonce := none }

def completeIntent (intentId : String) (claimed : PaymentIntent) (now : Int) (state : State) :
    Except LocalAgentError State := do
  let intent ← requirePaymentIntent state intentId now true
  if intent.status = .completed then
    return state
  reject (intent.status ≠ .executing ∨ intent.approvalNonce ≠ claimed.approvalNonce)
    ⟨"Payment execution state changed unexpectedly.", "intent_changed", 409⟩
  return state.setIntent intentId (intent.complete now)

def PaymentIntent.doubt (now : Int) (intent : PaymentIntent) : PaymentIntent :=
  { intent with
    status := .ambiguous
    failedAt := some now
    failure :=
      some "Pay.sh did not return a confirmed success. Inspect recovery before retrying."
    approvalNonce := none }

def doubtIntent (intentId : String) (claimed : PaymentIntent) (now : Int) (state : State) : State :=
  match state.paymentIntents.get intentId with
  | some intent =>
    if intent.status = .executing ∧ intent.approvalNonce = claimed.approvalNonce then
      state.setIntent intentId (intent.doubt now)
    else state
  | none => state

def PaymentIntent.recover (now : Int) (intent : PaymentIntent) : PaymentIntent :=
  { intent with
    status := .completed, completedAt := some now, approvalNonce := none, failure := none }

def recoverIntent (intentId : String) (now : Int) (state : State) : State :=
  match state.paymentIntents.get intentId with
  | some intent =>
    if intent.unsettled then state.setIntent intentId (intent.recover now) else state
  | none => state

def setSession (sessionToken : String) (user : Option Json) (state : State) : State :=
  { state with sessionToken := some sessionToken, user := user }

def clearSession (state : State) : State :=
  { state with sessionToken := none, user := none }

def deleteAccount (state : State) : State :=
  { state with
    sessionToken := none, user := none, queries := Table.empty, paymentIntents := Table.empty }

inductive Update
  | remember (queryId : String) (query : Query)
  | prepare (intentId queryId payAccount : String) (plan : PaymentPlan) (now : Int)
  | prepareOpenCall (intentId chatId payAccount : String) (plan : PaymentPlan)
      (target unitPriceKrw now : Int)
  | preview (intentId : String) (now : Int)
  | approve (intentId : String) (snapshot : PaymentIntent) (now : Int) (nonce : String)
  | claim (intentId : String) (now : Int)
  | complete (intentId : String) (claimed : PaymentIntent) (now : Int)
  | doubt (intentId : String) (claimed : PaymentIntent) (now : Int)
  | recover (intentId : String) (now : Int)
  | forget (queryId : Option String)
  | openSession (sessionToken : String) (user : Option Json)
  | closeSession
  | deleteAccount
  | converse (conversations : Entries Json)

variable (platform : Platform) (config : Config)

def Update.apply (state : State) : Update → Except LocalAgentError State
  | .remember queryId query => .ok (rememberQuery queryId query state)
  | .prepare intentId queryId payAccount plan now =>
    .ok (preparePayment platform intentId queryId payAccount plan now state)
  | .prepareOpenCall intentId chatId payAccount plan target unitPriceKrw now =>
    .ok (Local.prepareOpenCall platform intentId chatId payAccount plan target unitPriceKrw now state)
  | .preview intentId now => (approvalSnapshot intentId now state).map fun _ => state
  | .approve intentId snapshot now nonce => approvePaymentIntent intentId snapshot now nonce state
  | .claim intentId now => (claimIntent platform config intentId now state).map Prod.fst
  | .complete intentId claimed now => completeIntent intentId claimed now state
  | .doubt intentId claimed now => .ok (doubtIntent intentId claimed now state)
  | .recover intentId now => .ok (recoverIntent intentId now state)
  | .forget queryId => forgetLocalState queryId state
  | .openSession sessionToken user => .ok (setSession sessionToken user state)
  | .closeSession => .ok (clearSession state)
  | .deleteAccount => .ok (Local.deleteAccount state)
  | .converse conversations => .ok { state with conversations := conversations }

def Update.prepares (intentId : String) : Update → Bool
  | .prepare named _ _ _ _ => named = intentId
  | .prepareOpenCall named _ _ _ _ _ _ => named = intentId
  | _ => false

def Update.evidenceQuery : Update → Option String
  | .prepare _ queryId _ _ _ => some queryId
  | _ => none

inductive IntentMove (intentId : String) :
    Update → Option PaymentIntent → Option PaymentIntent → Prop
  | kept {update : Update} {before : Option PaymentIntent} : IntentMove intentId update before before
  | prepared {update : Update} {before : Option PaymentIntent} {intent : PaymentIntent} :
      update.prepares intentId = true → intent.status = .prepared →
      (intent.kind = none → update.evidenceQuery = some intent.queryId) →
      IntentMove intentId update before (some intent)
  | approved {intent snapshot : PaymentIntent} {now : Int} {nonce : String} :
      intent.status = .prepared →
      IntentMove intentId (.approve intentId snapshot now nonce) (some intent)
        (some (intent.approve now nonce))
  | claimed {intent : PaymentIntent} {now : Int} :
      intent.status = .approved → intent.approvalNonce ≠ none →
      IntentMove intentId (.claim intentId now) (some intent) (some (intent.execute now))
  | completed {intent claimed : PaymentIntent} {now : Int} :
      intent.status = .executing → intent.approvalNonce = claimed.approvalNonce →
      IntentMove intentId (.complete intentId claimed now) (some intent) (some (intent.complete now))
  | doubted {intent claimed : PaymentIntent} {now : Int} :
      intent.status = .executing → intent.approvalNonce = claimed.approvalNonce →
      IntentMove intentId (.doubt intentId claimed now) (some intent) (some (intent.doubt now))
  | recovered {intent : PaymentIntent} {now : Int} :
      intent.unsettled = true →
      IntentMove intentId (.recover intentId now) (some intent) (some (intent.recover now))
  | forgotten {intent : PaymentIntent} {queryId : Option String} :
      intent.unsettled = false → IntentMove intentId (.forget queryId) (some intent) none
  | dropped {before : Option PaymentIntent} : IntentMove intentId .deleteAccount before none

variable {platform : Platform} {config : Config} {state state' : State} {update : Update}
  {intentId named queryId : String} {intent claimed snapshot : PaymentIntent} {now : Int}

theorem get_setIntent : (state.setIntent named intent).paymentIntents.get intentId =
    if named = intentId then some intent else state.paymentIntents.get intentId :=
  Entries.get_set

theorem approve_moves {nonce : String}
    (h : approvePaymentIntent named snapshot now nonce state = .ok state') :
    IntentMove intentId (.approve named snapshot now nonce) (state.paymentIntents.get intentId)
      (state'.paymentIntents.get intentId) := by
  simp only [approvePaymentIntent, bind_eq_ok, reject_eq_ok, exists_const, pure_eq_ok, not_not] at h
  obtain ⟨intent, hintent, hstatus, -, rfl⟩ := h
  rw [get_setIntent]
  split
  · next heq =>
    subst heq
    rw [requirePaymentIntent_ok hintent]
    exact .approved hstatus
  · exact .kept

theorem claimIntent_ok {result : State × PaymentIntent}
    (h : claimIntent platform config named now state = .ok result) :
    ∃ intent, state.paymentIntents.get named = some intent ∧ intent.status = .approved ∧
      intent.approvalNonce ≠ none ∧
      result = (state.setIntent named (intent.execute now), intent.execute now) := by
  simp only [claimIntent, bind_eq_ok, reject_eq_ok, exists_const, pure_eq_ok, not_or, not_not] at h
  obtain ⟨intent, hintent, -, -, ⟨hstatus, hnonce⟩, rfl⟩ := h
  refine ⟨intent, requirePaymentIntent_ok hintent, hstatus, ?_, rfl⟩
  intro hnone
  rw [hnone] at hnonce
  exact hnonce rfl

theorem claim_moves {result : State × PaymentIntent}
    (h : claimIntent platform config named now state = .ok result) :
    IntentMove intentId (.claim named now) (state.paymentIntents.get intentId)
      (result.1.paymentIntents.get intentId) := by
  obtain ⟨intent, hget, hstatus, hnonce, rfl⟩ := claimIntent_ok h
  rw [get_setIntent]
  split
  · next heq =>
    subst heq
    rw [hget]
    exact .claimed hstatus hnonce
  · exact .kept

theorem complete_moves (h : completeIntent named claimed now state = .ok state') :
    IntentMove intentId (.complete named claimed now) (state.paymentIntents.get intentId)
      (state'.paymentIntents.get intentId) := by
  rw [completeIntent, bind_eq_ok] at h
  obtain ⟨intent, hintent, h⟩ := h
  split at h
  · cases h
    exact .kept
  · simp only [bind_eq_ok, reject_eq_ok, exists_const, pure_eq_ok, not_or, not_not] at h
    obtain ⟨⟨hstatus, hnonce⟩, rfl⟩ := h
    rw [get_setIntent]
    split
    · next heq =>
      subst heq
      rw [requirePaymentIntent_ok hintent]
      exact .completed hstatus hnonce
    · exact .kept

theorem doubt_moves : IntentMove intentId (.doubt named claimed now)
    (state.paymentIntents.get intentId) ((doubtIntent named claimed now state).paymentIntents.get intentId) := by
  rw [doubtIntent]
  split
  · next intent hget =>
    split
    · next hclaim =>
      rw [get_setIntent]
      split
      · next heq =>
        subst heq
        rw [hget]
        exact .doubted hclaim.1 hclaim.2
      · exact .kept
    · exact .kept
  · exact .kept

theorem recover_moves : IntentMove intentId (.recover named now)
    (state.paymentIntents.get intentId) ((recoverIntent named now state).paymentIntents.get intentId) := by
  rw [recoverIntent]
  split
  · next intent hget =>
    split
    · next hunsettled =>
      rw [get_setIntent]
      split
      · next heq =>
        subst heq
        rw [hget]
        exact .recovered hunsettled
      · exact .kept
    · exact .kept
  · exact .kept

theorem settled_of_forget {name : Option String} (h : forgetLocalState name state = .ok state')
    (hget : state.paymentIntents.get intentId = some intent)
    (hgone : state'.paymentIntents.get intentId ≠ some intent) : intent.unsettled = false := by
  by_contra hunsettled
  rw [Bool.not_eq_false] at hunsettled
  rw [forgetLocalState] at h
  split at h
  · rw [bind_eq_ok] at h
    obtain ⟨u, hrefuse, -⟩ := h
    exact absurd (refuseUnsettledIntent_ok hrefuse hget hunsettled) (by simp)
  · next queryId _ =>
    rw [bind_eq_ok] at h
    obtain ⟨u, hrefuse, hstate⟩ := h
    have hother := refuseUnsettledIntent_ok hrefuse hget hunsettled
    cases hstate
    apply hgone
    show (state.paymentIntents.remove _).get intentId = some intent
    rw [Entries.get_remove, hget]
    simpa [Option.filter] using hother

theorem gone_or_kept_of_forget {name : Option String} (h : forgetLocalState name state = .ok state') :
    state'.paymentIntents.get intentId = none ∨
      state'.paymentIntents.get intentId = state.paymentIntents.get intentId := by
  rw [forgetLocalState] at h
  split at h
  · rw [bind_eq_ok] at h
    obtain ⟨-, -, hstate⟩ := h
    cases hstate
    exact .inl rfl
  · next queryId _ =>
    rw [bind_eq_ok] at h
    obtain ⟨-, -, hstate⟩ := h
    cases hstate
    show (state.paymentIntents.remove _).get intentId = none ∨
      (state.paymentIntents.remove _).get intentId = _
    rw [Entries.get_remove]
    cases hget : state.paymentIntents.get intentId with
    | none => exact .inl rfl
    | some intent =>
      by_cases hquery : intent.queryId = queryId
      · left
        simp [Option.filter, hquery]
      · right
        simp [Option.filter, hquery]

theorem forget_moves {name : Option String} (h : forgetLocalState name state = .ok state') :
    IntentMove intentId (.forget name) (state.paymentIntents.get intentId)
      (state'.paymentIntents.get intentId) := by
  rcases @gone_or_kept_of_forget _ _ intentId _ h with hgone | hkept
  · cases hget : state.paymentIntents.get intentId with
    | none =>
      rw [hgone]
      exact .kept
    | some intent =>
      rw [hgone]
      exact .forgotten (settled_of_forget h hget (by simp [hgone]))
  · rw [hkept]
    exact .kept

theorem store_moves (hprepares : update.prepares named = true) (hstatus : intent.status = .prepared)
    (hquery : intent.kind = none → update.evidenceQuery = some intent.queryId) :
    IntentMove intentId update (state.paymentIntents.get intentId)
      ((state.setIntent named intent).paymentIntents.get intentId) := by
  rw [get_setIntent]
  split
  · next heq =>
    subst heq
    exact .prepared hprepares hstatus hquery
  · exact .kept

theorem apply_moves (h : update.apply platform config state = .ok state') :
    IntentMove intentId update (state.paymentIntents.get intentId)
      (state'.paymentIntents.get intentId) := by
  cases update with
  | remember => cases h; exact .kept
  | prepare => cases h; exact store_moves (by simp [Update.prepares]) rfl fun _ => rfl
  | prepareOpenCall =>
    cases h
    exact store_moves (by simp [Update.prepares]) rfl fun hkind => by cases hkind
  | preview intentId' now =>
    rw [Update.apply, map_eq_ok] at h
    obtain ⟨-, -, rfl⟩ := h
    exact .kept
  | approve => exact approve_moves h
  | claim =>
    rw [Update.apply, map_eq_ok] at h
    obtain ⟨result, hclaim, rfl⟩ := h
    exact claim_moves hclaim
  | complete => exact complete_moves h
  | doubt => cases h; exact doubt_moves
  | recover => cases h; exact recover_moves
  | forget => exact forget_moves h
  | openSession => cases h; exact .kept
  | closeSession => cases h; exact .kept
  | deleteAccount => cases h; exact .dropped
  | converse => cases h; exact .kept

theorem forget_queries {name : Option String} (h : forgetLocalState name state = .ok state')
    (hget : state'.paymentIntents.get intentId = some intent) :
    state'.queries.get intent.queryId = state.queries.get intent.queryId := by
  rw [forgetLocalState] at h
  split at h
  · rw [bind_eq_ok] at h
    obtain ⟨-, -, hstate⟩ := h
    cases hstate
    cases hget
  · next queryId _ =>
    rw [bind_eq_ok] at h
    obtain ⟨-, -, hstate⟩ := h
    cases hstate
    replace hget : (state.paymentIntents.remove _).get intentId = some intent := hget
    show (state.queries.remove _).get intent.queryId = _
    rw [Entries.get_remove, Option.filter_eq_some_iff] at hget
    have hne : intent.queryId ≠ queryId := by simpa using hget.2
    rw [Entries.get_remove]
    cases state.queries.get intent.queryId with
    | none => rfl
    | some query => simp [Option.filter, hne]

theorem apply_queries (h : update.apply platform config state = .ok state')
    (hget : state'.paymentIntents.get intentId = some intent)
    (hnew : ∀ query, update ≠ .remember intent.queryId query) :
    state'.queries.get intent.queryId = state.queries.get intent.queryId := by
  cases update with
  | remember queryId query =>
    cases h
    have hne : queryId ≠ intent.queryId := by
      rintro rfl
      exact hnew query rfl
    show (state.queries.set queryId query).get intent.queryId = _
    rw [Entries.get_set, if_neg hne]
  | prepare => cases h; rfl
  | prepareOpenCall => cases h; rfl
  | preview intentId' now =>
    rw [Update.apply, map_eq_ok] at h
    obtain ⟨-, -, rfl⟩ := h
    rfl
  | approve =>
    simp only [Update.apply, approvePaymentIntent, bind_eq_ok, pure_eq_ok] at h
    obtain ⟨_, -, -, -, -, -, rfl⟩ := h
    rfl
  | claim =>
    rw [Update.apply, map_eq_ok] at h
    obtain ⟨result, hclaim, rfl⟩ := h
    obtain ⟨_, -, -, -, rfl⟩ := claimIntent_ok hclaim
    rfl
  | complete =>
    rw [Update.apply, completeIntent, bind_eq_ok] at h
    obtain ⟨_, -, h⟩ := h
    split at h
    · cases h
      rfl
    · simp only [bind_eq_ok, pure_eq_ok] at h
      obtain ⟨-, -, rfl⟩ := h
      rfl
  | doubt =>
    cases h
    rw [doubtIntent]
    split
    · split <;> rfl
    · rfl
  | recover =>
    cases h
    rw [recoverIntent]
    split
    · split <;> rfl
    · rfl
  | forget => exact forget_queries h hget
  | openSession => cases h; rfl
  | closeSession => cases h; rfl
  | deleteAccount =>
    cases h
    cases hget
  | converse => cases h; rfl

end Obulus.Local
