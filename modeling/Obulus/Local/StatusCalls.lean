import Obulus.Local.Unsettled

namespace Obulus.Local

open Foundation

-- what the service answers under each path; an error where the request fails or is refused
structure Server where
  recovery : String → Except LocalAgentError Json
  job : String → Except LocalAgentError Json
  fundingQuote : String → Except LocalAgentError Json
  answers : String → Except LocalAgentError Json

def researchJob (server : Server) (queryId jobId : String) : Except LocalAgentError Json := do
  let job ← server.job jobId
  reject (namesText (job.field "queryId") queryId = false ∨ namesText (job.field "id") jobId = false)
    ⟨"Recovery returned a different job.", "unsafe_recovery_response", 502⟩
  return job

def paymentStatus (server : Server) (queryId jobId : String) (now : Int) (state : State) :
    Except LocalAgentError (State × Json) := do
  let _ ← requireQuery state queryId now
  match (findLocalIntent state queryId jobId).filter fun entry => isDocument entry.2 with
  | some (localIntentId, localIntent) =>
    let recovered ← server.recovery jobId
    reject (recoveryNames localIntent jobId recovered = false)
      ⟨"Recovery returned a different document.", "unsafe_recovery_response", 502⟩
    return (recoverIntent localIntentId now state, recovered)
  | none =>
    let job ← researchJob server queryId jobId
    return (state, job)

def authenticatedApi (state : State) (reply : Except LocalAgentError Json) :
    Except LocalAgentError Json := do
  reject ((state.sessionToken.filter fun token => token ≠ "") = none)
    ⟨"이 작업은 기여자 계정 연결이 필요합니다. 로컬 터미널에서 Pay.sh 지갑으로 Obulus 계정을 연결하세요.",
      "authentication_required", 401⟩
  reply

def namedReply (state : State) (name : String) (reply : String → Except LocalAgentError Json) :
    Option String → Except LocalAgentError (List (String × Json))
  | some id => (authenticatedApi state (reply id)).map fun body => [(name, body)]
  | none => .ok []

def openCallStatus (server : Server) (quoteId chatId : Option String) (state : State) :
    Except LocalAgentError Json := do
  let quoteId := quoteId.filter fun quoteId => quoteId ≠ ""
  let chatId := chatId.filter fun chatId => chatId ≠ ""
  reject (quoteId = none ∧ chatId = none)
    ⟨"quoteId 또는 chatId가 필요합니다.", "invalid_arguments", 400⟩
  let funding ← namedReply state "funding" server.fundingQuote quoteId
  let answers ← namedReply state "answers" server.answers chatId
  return .object (funding ++ answers)

inductive StatusCall
  | payment (queryId jobId : String)
  | openCall (quoteId chatId : Option String)

namespace StatusCall

def run (server : Server) (now : Int) (state : State) : StatusCall → Except LocalAgentError (State × Json)
  | .payment queryId jobId => paymentStatus server queryId jobId now state
  | .openCall quoteId chatId =>
    (openCallStatus server quoteId chatId state).map fun result => (state, result)

-- a call that throws leaves the stored state as it was
def after (server : Server) (now : Int) (state : State) (call : StatusCall) : State :=
  match call.run server now state with
  | .ok (after, _) => after
  | .error _ => state

end StatusCall

inductive ReportedPaid (server : Server) : StatusCall → String → Prop
  | document {queryId jobId : String} {recovered : Json} :
      server.recovery jobId = .ok recovered →
      namesText ((recovered.field "settlement").bind (Json.field "quoteId")) jobId = true →
      ReportedPaid server (.payment queryId jobId) jobId
  | bundle {queryId jobId status : String} {job : Json} :
      server.job jobId = .ok job → namesText (job.field "id") jobId = true →
      namesText (job.field "status") status = true → status ≠ "quoted" →
      ReportedPaid server (.payment queryId jobId) jobId
  | funding {quoteId : String} {chatId : Option String} {quote : Json} :
      server.fundingQuote quoteId = .ok quote → namesText (quote.field "id") quoteId = true →
      namesText (quote.field "status") "funded" = true →
      ReportedPaid server (.openCall (some quoteId) chatId) quoteId

def Settles (state : State) (quoteId : String) : Prop :=
  ∀ intentId intent, state.paymentIntents.get intentId = some intent →
    intent.quoteId = quoteId → intent.unsettled = false

def ForgetsUnless (state : State) (quoteId : String) : Prop :=
  ∀ queryId error, forgetLocalState queryId state = .error error →
    ∃ intentId intent, state.paymentIntents.get intentId = some intent ∧
      intent.unsettled = true ∧ intent.quoteId ≠ quoteId

def Converges (server : Server) (now : Int) (state : State) (call : StatusCall) : Prop :=
  ∀ quoteId, ReportedPaid server call quoteId →
    Settles (call.after server now state) quoteId ∧
      ForgetsUnless (call.after server now state) quoteId

-- the one intent that the call looks at, and the recovery that completes it
def Recovers (server : Server) (now : Int) (state : State) (intentId : String)
    (intent : PaymentIntent) : StatusCall → Prop
  | .payment queryId jobId =>
    (requireQuery state queryId now).isOk = true ∧
      findLocalIntent state queryId jobId = some (intentId, intent) ∧ isDocument intent = true ∧
      ∃ recovered, server.recovery jobId = .ok recovered ∧
        recoveryNames intent jobId recovered = true
  | .openCall _ _ => False

variable {server : Server} {state state' : State} {queryId jobId quoteId intentId other : String}
  {intent after : PaymentIntent} {now : Int} {call : StatusCall} {reply : Json}

theorem get_of_findLocalIntent (h : findLocalIntent state queryId jobId = some (intentId, intent)) :
    state.paymentIntents.get intentId = some intent := by
  rw [findLocalIntent] at h
  exact Entries.get_eq_some.mpr (Table.get?_of_mem (List.mem_of_find?_eq_some h))

theorem recovered_settled (hget : (recoverIntent intentId now state).paymentIntents.get intentId = some intent) :
    intent.unsettled = false := by
  rw [recoverIntent] at hget
  split at hget
  · next found hfound =>
    split at hget
    · rw [get_setIntent, if_pos rfl] at hget
      cases hget
      rfl
    · next hsettled =>
      rw [hfound] at hget
      cases hget
      exact Bool.not_eq_true _ ▸ hsettled
  · next hmissing =>
    rw [hmissing] at hget
    cases hget

theorem get_recoverIntent_ne (hne : intentId ≠ other) :
    (recoverIntent intentId now state).paymentIntents.get other = state.paymentIntents.get other := by
  rw [recoverIntent]
  split
  · split
    · rw [get_setIntent, if_neg hne]
    · rfl
  · rfl

theorem paymentStatus_cases (h : paymentStatus server queryId jobId now state = .ok (state', reply)) :
    state' = state ∨
      ∃ intentId intent, Recovers server now state intentId intent (.payment queryId jobId) ∧
        state' = recoverIntent intentId now state := by
  simp only [paymentStatus, bind_eq_ok] at h
  obtain ⟨query, hquery, h⟩ := h
  split at h
  · next intentId intent hfound =>
    obtain ⟨hfind, hdocument⟩ := Option.filter_eq_some_iff.mp hfound
    simp only [bind_eq_ok, reject_eq_ok, exists_const, pure_eq_ok, Prod.mk.injEq] at h
    obtain ⟨recovered, hrecovered, hnames, hstate, -⟩ := h
    refine .inr ⟨intentId, intent, ⟨?_, hfind, hdocument, recovered, hrecovered, ?_⟩, hstate.symm⟩
    · rw [hquery]
      rfl
    · rwa [Bool.not_eq_false] at hnames
  · simp only [bind_eq_ok, pure_eq_ok, Prod.mk.injEq] at h
    obtain ⟨job, -, hstate, -⟩ := h
    exact .inl hstate.symm

theorem paymentStatus_recovers {query : Query} (hquery : requireQuery state queryId now = .ok query)
    (hfind : findLocalIntent state queryId jobId = some (intentId, intent))
    (hdocument : isDocument intent = true) (hrecovered : server.recovery jobId = .ok reply)
    (hnames : recoveryNames intent jobId reply = true) :
    paymentStatus server queryId jobId now state =
      .ok (recoverIntent intentId now state, reply) := by
  simp only [paymentStatus, bind_eq_ok]
  refine ⟨query, hquery, ?_⟩
  rw [hfind, Option.filter_some, if_pos hdocument]
  simp only [bind_eq_ok, reject_eq_ok, exists_const, pure_eq_ok]
  refine ⟨reply, hrecovered, ?_, rfl⟩
  rw [hnames]
  exact Bool.noConfusion

theorem after_cases (server : Server) (now : Int) (state : State) (call : StatusCall) :
    call.after server now state = state ∨
      ∃ intentId intent, Recovers server now state intentId intent call ∧
        call.after server now state = recoverIntent intentId now state := by
  rw [StatusCall.after]
  cases hrun : call.run server now state with
  | error e => exact .inl rfl
  | ok result =>
    obtain ⟨state', reply⟩ := result
    cases call with
    | payment queryId jobId => exact paymentStatus_cases hrun
    | openCall quoteId chatId =>
      simp only [StatusCall.run] at hrun
      cases hopen : openCallStatus server quoteId chatId state with
      | error e =>
        rw [hopen] at hrun
        cases hrun
      | ok result =>
        rw [hopen] at hrun
        cases hrun
        exact .inl rfl

theorem after_of_recovers (h : Recovers server now state intentId intent call) :
    call.after server now state = recoverIntent intentId now state := by
  cases call with
  | payment queryId jobId =>
    obtain ⟨hquery, hfind, hdocument, recovered, hrecovered, hnames⟩ := h
    obtain ⟨query, hquery⟩ := ok_of_isOk hquery
    rw [StatusCall.after, StatusCall.run,
      paymentStatus_recovers hquery hfind hdocument hrecovered hnames]
  | openCall quoteId chatId => exact h.elim

theorem get_of_recovers (h : Recovers server now state intentId intent call) :
    state.paymentIntents.get intentId = some intent := by
  cases call with
  | payment queryId jobId => exact get_of_findLocalIntent h.2.1
  | openCall quoteId chatId => exact h.elim

theorem settled_of_recovers (h : Recovers server now state intentId intent call)
    (hget : (call.after server now state).paymentIntents.get intentId = some after) :
    after.unsettled = false := by
  rw [after_of_recovers h] at hget
  exact recovered_settled hget

theorem kept_or_recovered (hget : (call.after server now state).paymentIntents.get intentId = some intent)
    (hunsettled : intent.unsettled = true) : state.paymentIntents.get intentId = some intent := by
  rcases after_cases server now state call with hkept | ⟨found, recovered, -, hafter⟩
  · rwa [hkept] at hget
  · rw [hafter] at hget
    by_cases hsame : found = intentId
    · subst hsame
      rw [recovered_settled hget] at hunsettled
      cases hunsettled
    · rwa [get_recoverIntent_ne hsame] at hget

theorem unsettled_after (hget : state.paymentIntents.get intentId = some intent)
    (hmissed : ¬Recovers server now state intentId intent call) :
    (call.after server now state).paymentIntents.get intentId = some intent := by
  rcases after_cases server now state call with hkept | ⟨found, recovered, hrecovers, hafter⟩
  · rwa [hkept]
  · by_cases hsame : found = intentId
    · subst hsame
      have hfound := get_of_recovers hrecovers
      rw [hget] at hfound
      cases hfound
      exact absurd hrecovers hmissed
    · rwa [hafter, get_recoverIntent_ne hsame]

theorem forgets_of_settles (h : Settles state quoteId) : ForgetsUnless state quoteId := by
  have hfound : ∀ named error, refuseUnsettledIntent state named = .error error →
      ∃ intentId intent, state.paymentIntents.get intentId = some intent ∧
        intent.unsettled = true ∧ intent.quoteId ≠ quoteId := by
    intro named error hrefuse
    rw [refuseUnsettledIntent] at hrefuse
    split at hrefuse
    · next entry hentry =>
      have hget := Entries.get_eq_some.mpr (Table.get?_of_mem (List.mem_of_find?_eq_some hentry))
      have hnames := List.find?_some hentry
      rw [Bool.and_eq_true] at hnames
      refine ⟨entry.1, entry.2, hget, hnames.1, ?_⟩
      intro hquote
      have hsettled := h entry.1 entry.2 hget hquote
      rw [hnames.1] at hsettled
      cases hsettled
    · cases hrefuse
  intro queryId error herror
  rw [forgetLocalState] at herror
  split at herror
  · cases hrefuse : refuseUnsettledIntent state none with
    | error e => exact hfound _ _ hrefuse
    | ok u =>
      rw [hrefuse] at herror
      cases herror
  · next named _ =>
    cases hrefuse : refuseUnsettledIntent state (some named) with
    | error e => exact hfound _ _ hrefuse
    | ok u =>
      rw [hrefuse] at herror
      cases herror

theorem converges_iff : Converges server now state call ↔
    ∀ quoteId, ReportedPaid server call quoteId → ∀ intentId intent,
      state.paymentIntents.get intentId = some intent → intent.quoteId = quoteId →
      intent.unsettled = true → Recovers server now state intentId intent call := by
  constructor
  · intro hconverges quoteId hreported intentId intent hget hquote hunsettled
    by_contra hmissed
    have hsettled := (hconverges quoteId hreported).1 intentId intent (unsettled_after hget hmissed) hquote
    rw [hunsettled] at hsettled
    cases hsettled
  · intro hrecovers quoteId hreported
    have hsettles : Settles (call.after server now state) quoteId := by
      intro intentId intent hget hquote
      by_contra hunsettled
      rw [Bool.not_eq_false] at hunsettled
      have hbefore := kept_or_recovered hget hunsettled
      have hfound := hrecovers quoteId hreported intentId intent hbefore hquote hunsettled
      rw [settled_of_recovers hfound hget] at hunsettled
      cases hunsettled
    exact ⟨hsettles, forgets_of_settles hsettles⟩

section Sample

def sampleBundleBinding : ApprovalBinding :=
  { sampleBinding with
    id := "bundle_1"
    resourcePath := "/api/v1/paid-bundles/bundle_1"
    documentHandle := none
    documentHandles := some ["human_1", "human_2"] }

def sampleBundlePlan : PaymentPlan :=
  { samplePlan with
    purpose := "Open 2 exact human evidence documents"
    paymentUrl := "https://pay.example/api/v1/paid-bundles/bundle_1"
    id := "bundle_1"
    approvalBinding := sampleBundleBinding }

def sampleBundleState : State :=
  { emptyState with
    queries := Table.empty.put ("qry_1", ⟨"token", ["human_1", "human_2"], 1000, "question"⟩)
    paymentIntents := Table.empty.put ("intent_a",
      (((preparedIntent samplePlatform none "qry_1" "devnet" sampleBundlePlan sampleBundleBinding
        1000).approve 2000 "nonce").execute 3000).doubt 4000) }

def sampleServer : Server where
  recovery _ := .error ⟨"not found", "http_error", 404⟩
  job _ := .ok (.object [("id", .string "bundle_1"), ("queryId", .string "qry_1"),
    ("status", .string "completed")])
  fundingQuote _ := .error ⟨"not found", "http_error", 404⟩
  answers _ := .error ⟨"not found", "http_error", 404⟩

-- the job of a paid bundle is reported, and its intent stays ambiguous
theorem bundle_left_ambiguous :
    ReportedPaid sampleServer (.payment "qry_1" "bundle_1") "bundle_1" ∧
      ¬Converges sampleServer 5000 sampleBundleState (.payment "qry_1" "bundle_1") := by
  have hreported : ReportedPaid sampleServer (.payment "qry_1" "bundle_1") "bundle_1" :=
    .bundle rfl rfl rfl (by decide : "completed" ≠ "quoted")
  refine ⟨hreported, ?_⟩
  intro hconverges
  have hsettled := (hconverges "bundle_1" hreported).1 "intent_a" _ rfl rfl
  cases hsettled

end Sample

end Obulus.Local
