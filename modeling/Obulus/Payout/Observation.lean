import Obulus.Foundation.Checks
import Obulus.Foundation.Json

namespace Obulus.Payout

open Foundation

structure Url where
  origin : String
  username : String
  password : String
  hostname : String
  protocol : String
  hash : String
  href : String
  deriving DecidableEq, Repr

inductive RpcMethod
  | getSignatureStatuses (signature : String)
  | getBlockHeight
  deriving DecidableEq, Repr

-- What one endpoint answers; `none` is a call that throws (transport, HTTP status, size limit,
-- JSON-RPC error or missing result).
abbrev Rpc := String → RpcMethod → Option Json

structure SignatureStatus where
  err : Json
  confirmationStatus : Option Json

structure View where
  status : Option SignatureStatus
  blockHeight : Int

def readStatus : Json → Option (Option SignatureStatus)
  | .null => some none
  | .object fields =>
    (Json.lookup "err" fields).map fun err =>
      some ⟨err, Json.lookup "confirmationStatus" fields⟩
  | _ => none

def onlyItem : Json → Option Json
  | .array [item] => some item
  | _ => none

def readView (rpc : Rpc) (signature rpcUrl : String) : Option View := do
  let statuses ← rpc rpcUrl (.getSignatureStatuses signature)
  let status ← readStatus (← onlyItem (← statuses.field "value"))
  let blockHeight ← Json.safeInteger (← rpc rpcUrl .getBlockHeight)
  guard (0 ≤ blockHeight)
  return ⟨status, blockHeight⟩

def SignatureStatus.hasStatus (status : SignatureStatus) (name : String) : Bool :=
  status.confirmationStatus.any (Json.isText name)

def View.succeeded (view : View) : Bool :=
  view.status.any fun status => status.err.isNull

def View.finalized (view : View) : Bool :=
  view.status.any fun status => status.err.isNull && status.hasStatus "finalized"

def View.landed (view : View) : Bool :=
  view.status.any fun status =>
    status.err.isNull && (status.hasStatus "confirmed" || status.hasStatus "finalized")

def View.expired (lastValidBlockHeight : Int) (view : View) : Bool :=
  lastValidBlockHeight < view.blockHeight

def insertOrigin (byOrigin : List (String × String)) (url : Url) : List (String × String) :=
  if byOrigin.any fun entry => entry.1 = url.origin then byOrigin
  else byOrigin ++ [(url.origin, url.href)]

structure PreparedEvidence where
  transactionSignature : Option String
  lastValidBlockHeight : Option Int
  deriving DecidableEq, Repr

def PreparedEvidence.present (claim : PreparedEvidence) : Option (String × Int) :=
  match claim.transactionSignature, claim.lastValidBlockHeight with
  | some signature, some height =>
    if signature = "" ∨ height = 0 then none else some (signature, height)
  | _, _ => none

namespace Gateway

inductive PreparedPayoutObservation
  | finalized
  | absentOrFailed
  | inconclusive
  deriving DecidableEq, Repr

def secureRpcUrl (parse : String → Option Url) (value : String) : Except String Url := do
  let parsed ← orReject (parse value) "Solana RPC endpoint must be an absolute HTTP URL"
  reject (parsed.username ≠ "" ∨ parsed.password ≠ "")
    "Solana RPC endpoint must not embed credentials"
  reject (parsed.protocol ≠ "https:" ∧ ¬(parsed.protocol = "http:" ∧
      (parsed.hostname = "localhost" ∨ parsed.hostname = "127.0.0.1" ∨ parsed.hostname = "[::1]")))
    "Solana RPC endpoint must use HTTPS except on loopback"
  reject (parsed.hash ≠ "") "Solana RPC endpoint must not contain a fragment"
  return parsed

def collectOrigins (parse : String → Option Url) :
    List (String × String) → List String → Except String (List (String × String))
  | byOrigin, [] => .ok byOrigin
  | byOrigin, value :: values => do
    let parsed ← secureRpcUrl parse value
    collectOrigins parse (insertOrigin byOrigin parsed) values

def independentRpcUrls (parse : String → Option Url) (values : List String) :
    Except String (List String) := do
  let byOrigin ← collectOrigins parse [] values
  return byOrigin.map Prod.snd

def verdict (lastValidBlockHeight : Int) (views : List View) : PreparedPayoutObservation :=
  if views.all View.finalized then .finalized
  else if views.any View.landed then .inconclusive
  else if views.all (View.expired lastValidBlockHeight) then .absentOrFailed
  else .inconclusive

def observeUrls (rpc : Rpc) (signature : String) (lastValidBlockHeight : Int)
    (rpcUrls : List String) : PreparedPayoutObservation :=
  if rpcUrls.length < 2 then .inconclusive
  else
    match rpcUrls.mapM (readView rpc signature) with
    | none => .inconclusive
    | some views => verdict lastValidBlockHeight views

def observePreparedPayout (parse : String → Option Url) (rpc : Rpc) (rpcUrls : List String)
    (claim : PreparedEvidence) : Except String PreparedPayoutObservation :=
  match claim.present with
  | none => .ok .inconclusive
  | some (signature, lastValidBlockHeight) => do
    let rpcUrls ← independentRpcUrls parse rpcUrls
    return observeUrls rpc signature lastValidBlockHeight rpcUrls

end Gateway

namespace Orchestrator

inductive PreparedPayoutObservation
  | confirmed
  | absentOrFailed
  | inconclusive
  deriving DecidableEq, Repr

def collectOrigins (parse : String → Option Url) :
    List (String × String) → List String → List (String × String)
  | byOrigin, [] => byOrigin
  | byOrigin, value :: values =>
    match parse value with
    | some url => collectOrigins parse (insertOrigin byOrigin url) values
    | none => collectOrigins parse byOrigin values

def independentRpcUrls (parse : String → Option Url) (values : List String) : List String :=
  (collectOrigins parse [] values).map Prod.snd

def verdict (lastValidBlockHeight : Int) (views : List View) : PreparedPayoutObservation :=
  if views.all View.finalized then .confirmed
  else if views.any View.landed then .inconclusive
  else if views.any View.succeeded then .inconclusive
  else if views.all (View.expired lastValidBlockHeight) then .absentOrFailed
  else .inconclusive

def observeUrls (rpc : Rpc) (signature : String) (lastValidBlockHeight : Int)
    (rpcUrls : List String) : PreparedPayoutObservation :=
  if rpcUrls.length < 2 then .inconclusive
  else
    match rpcUrls.mapM (readView rpc signature) with
    | none => .inconclusive
    | some views => verdict lastValidBlockHeight views

def observePreparedPayout (parse : String → Option Url) (rpc : Rpc) (rpcUrls : List String)
    (claim : PreparedEvidence) : PreparedPayoutObservation :=
  match claim.present with
  | none => .inconclusive
  | some (signature, lastValidBlockHeight) =>
    observeUrls rpc signature lastValidBlockHeight (independentRpcUrls parse rpcUrls)

def PreparedPayoutObservation.atGateway :
    PreparedPayoutObservation → Gateway.PreparedPayoutObservation
  | .confirmed => .finalized
  | .absentOrFailed => .absentOrFailed
  | .inconclusive => .inconclusive

end Orchestrator

section Verdicts

variable {last : Int} {views : List View}

theorem landed_of_finalized {view : View} (h : view.finalized = true) : view.landed = true := by
  simp only [View.finalized, View.landed, Option.any_eq_true, Bool.and_eq_true,
    Bool.or_eq_true] at h ⊢
  obtain ⟨status, hs, herr, hfinal⟩ := h
  exact ⟨status, hs, herr, .inr hfinal⟩

-- The orchestrator's extra test is the only place where the two rules part.
theorem verdicts_agree_iff :
    (Orchestrator.verdict last views).atGateway = Gateway.verdict last views ↔
      ¬(views.any View.succeeded = true ∧ views.any View.landed = false ∧
        views.all (View.expired last) = true ∧ views.all View.finalized = false) := by
  unfold Orchestrator.verdict Gateway.verdict
  cases views.all View.finalized <;> cases views.any View.landed <;>
    cases views.any View.succeeded <;> cases views.all (View.expired last) <;>
    simp [Orchestrator.PreparedPayoutObservation.atGateway]

theorem finalized_of_landed (hsucceeded : views.any View.succeeded = true)
    (hlanded : views.any View.landed = false) : views.all View.finalized = false := by
  obtain ⟨view, hview, -⟩ := List.any_eq_true.mp hsucceeded
  rw [List.any_eq_false] at hlanded
  rw [List.all_eq_false]
  exact ⟨view, hview, fun hfinal => hlanded view hview (landed_of_finalized hfinal)⟩

theorem gateway_finalized (h : Gateway.verdict last views = .finalized) :
    views.all View.finalized = true := by
  unfold Gateway.verdict at h
  split at h
  · assumption
  · split at h
    · cases h
    · split at h <;> cases h

theorem gateway_absentOrFailed (h : Gateway.verdict last views = .absentOrFailed) :
    views.any View.landed = false ∧ views.all (View.expired last) = true := by
  unfold Gateway.verdict at h
  split at h
  · cases h
  · split at h
    · cases h
    · next hlanded =>
      split at h
      · exact ⟨by simpa using hlanded, by assumption⟩
      · cases h

end Verdicts

section Urls

variable {parse : String → Option Url} {byOrigin : List (String × String)} {values : List String}

def Secure (parse : String → Option Url) (value : String) : Prop :=
  ∃ url, Gateway.secureRpcUrl parse value = .ok url

theorem parse_of_secure {value : String} {url : Url}
    (h : Gateway.secureRpcUrl parse value = .ok url) : parse value = some url := by
  simp only [Gateway.secureRpcUrl, bind_eq_ok, orReject_eq_ok, pure_eq_ok] at h
  obtain ⟨_, hparse, _, _, _, _, _, _, rfl⟩ := h
  exact hparse

theorem collectOrigins_secure (h : ∀ value ∈ values, Secure parse value) :
    Gateway.collectOrigins parse byOrigin values =
      .ok (Orchestrator.collectOrigins parse byOrigin values) := by
  induction values generalizing byOrigin with
  | nil => rfl
  | cons value values ih =>
    obtain ⟨url, hurl⟩ := h value List.mem_cons_self
    simp only [Gateway.collectOrigins, Orchestrator.collectOrigins, hurl, parse_of_secure hurl]
    exact ih fun v hv => h v (List.mem_cons_of_mem _ hv)

theorem collectOrigins_ok {result : List (String × String)}
    (h : Gateway.collectOrigins parse byOrigin values = .ok result) :
    ∀ value ∈ values, Secure parse value := by
  induction values generalizing byOrigin with
  | nil => simp
  | cons value values ih =>
    simp only [Gateway.collectOrigins, bind_eq_ok] at h
    obtain ⟨url, hurl, hrest⟩ := h
    intro v hv
    rcases List.mem_cons.mp hv with rfl | hv
    · exact ⟨url, hurl⟩
    · exact ih hrest v hv

theorem independentRpcUrls_secure (h : ∀ value ∈ values, Secure parse value) :
    Gateway.independentRpcUrls parse values =
      .ok (Orchestrator.independentRpcUrls parse values) := by
  simp only [Gateway.independentRpcUrls, collectOrigins_secure h]
  rfl

theorem independentRpcUrls_error_iff :
    (∃ e, Gateway.independentRpcUrls parse values = .error e) ↔
      ∃ value ∈ values, ¬Secure parse value := by
  constructor
  · rintro ⟨e, he⟩
    by_contra hall
    push Not at hall
    rw [independentRpcUrls_secure hall] at he
    cases he
  · rintro ⟨value, hv, hn⟩
    cases hr : Gateway.independentRpcUrls parse values with
    | error e => exact ⟨e, rfl⟩
    | ok urls =>
      simp only [Gateway.independentRpcUrls, bind_eq_ok] at hr
      obtain ⟨_, hc, _⟩ := hr
      exact absurd (collectOrigins_ok hc value hv) hn

theorem collectOrigins_wellFormed :
    Orchestrator.collectOrigins parse byOrigin (values.filter fun value => (parse value).isSome) =
      Orchestrator.collectOrigins parse byOrigin values := by
  induction values generalizing byOrigin with
  | nil => rfl
  | cons value values ih =>
    cases hp : parse value with
    | none =>
      rw [List.filter_cons_of_neg (by simp [hp])]
      simp only [Orchestrator.collectOrigins, hp]
      exact ih
    | some url =>
      rw [List.filter_cons_of_pos (by simp [hp])]
      simp only [Orchestrator.collectOrigins, hp]
      exact ih

end Urls

section Agreement

variable {parse : String → Option Url} {rpc : Rpc} {rpcUrls : List String}
  {claim : PreparedEvidence}

-- Two origins or more answer, every one is past the last valid height, and the only success in sight
-- is neither confirmed nor finalized.
def MerelyProcessed (parse : String → Option Url) (rpc : Rpc) (rpcUrls : List String)
    (claim : PreparedEvidence) : Prop :=
  ∃ signature last views, claim.present = some (signature, last) ∧
    2 ≤ (Orchestrator.independentRpcUrls parse rpcUrls).length ∧
    (Orchestrator.independentRpcUrls parse rpcUrls).mapM (readView rpc signature) = some views ∧
    views.any View.succeeded = true ∧ views.any View.landed = false ∧
    views.all (View.expired last) = true

theorem gateway_throws_iff :
    (∃ e, Gateway.observePreparedPayout parse rpc rpcUrls claim = .error e) ↔
      claim.present ≠ none ∧ ∃ url ∈ rpcUrls, ¬Secure parse url := by
  unfold Gateway.observePreparedPayout
  cases hp : claim.present with
  | none => simp
  | some evidence =>
    rw [← independentRpcUrls_error_iff]
    cases hr : Gateway.independentRpcUrls parse rpcUrls with
    | error e => simp [bind, Except.bind]
    | ok urls => simp [bind, Except.bind, pure, Except.pure]

theorem observers_of_secure (hsecure : ∀ url ∈ rpcUrls, Secure parse url) {signature : String}
    {last : Int} (hp : claim.present = some (signature, last)) :
    Gateway.observePreparedPayout parse rpc rpcUrls claim = .ok (Gateway.observeUrls rpc signature
        last (Orchestrator.independentRpcUrls parse rpcUrls)) ∧
      Orchestrator.observePreparedPayout parse rpc rpcUrls claim = Orchestrator.observeUrls rpc
        signature last (Orchestrator.independentRpcUrls parse rpcUrls) := by
  unfold Gateway.observePreparedPayout Orchestrator.observePreparedPayout
  simp only [hp, independentRpcUrls_secure hsecure, and_true]
  rfl

theorem observers_of_absent (hp : claim.present = none) :
    Gateway.observePreparedPayout parse rpc rpcUrls claim = .ok .inconclusive ∧
      Orchestrator.observePreparedPayout parse rpc rpcUrls claim = .inconclusive := by
  unfold Gateway.observePreparedPayout Orchestrator.observePreparedPayout
  rw [hp]
  exact ⟨rfl, rfl⟩

theorem observers_agree (hsecure : ∀ url ∈ rpcUrls, Secure parse url)
    (hsettled : ¬MerelyProcessed parse rpc rpcUrls claim) :
    Gateway.observePreparedPayout parse rpc rpcUrls claim =
      .ok (Orchestrator.observePreparedPayout parse rpc rpcUrls claim).atGateway := by
  cases hp : claim.present with
  | none =>
    obtain ⟨hgateway, horchestrator⟩ := observers_of_absent hp
    rw [hgateway, horchestrator]
    rfl
  | some evidence =>
    obtain ⟨signature, last⟩ := evidence
    obtain ⟨hgateway, horchestrator⟩ := observers_of_secure hsecure hp
    rw [hgateway, horchestrator]
    unfold Gateway.observeUrls Orchestrator.observeUrls
    split
    · rfl
    · next hmany =>
      cases hviews : (Orchestrator.independentRpcUrls parse rpcUrls).mapM (readView rpc signature) with
      | none => rfl
      | some views =>
        refine congrArg Except.ok (verdicts_agree_iff.mpr ?_).symm
        rintro ⟨hsucceeded, hlanded, hexpired, -⟩
        exact hsettled ⟨signature, last, views, hp, not_lt.mp hmany, hviews, hsucceeded, hlanded,
          hexpired⟩

theorem observers_split (hsecure : ∀ url ∈ rpcUrls, Secure parse url)
    (hprocessed : MerelyProcessed parse rpc rpcUrls claim) :
    Gateway.observePreparedPayout parse rpc rpcUrls claim = .ok .absentOrFailed ∧
      Orchestrator.observePreparedPayout parse rpc rpcUrls claim = .inconclusive := by
  obtain ⟨signature, last, views, hp, hmany, hviews, hsucceeded, hlanded, hexpired⟩ := hprocessed
  obtain ⟨hgateway, horchestrator⟩ := observers_of_secure hsecure hp
  have hfinal : views.all View.finalized = false := finalized_of_landed hsucceeded hlanded
  rw [hgateway, horchestrator]
  unfold Gateway.observeUrls Orchestrator.observeUrls
  simp only [if_neg (not_lt.mpr hmany), hviews, Gateway.verdict, Orchestrator.verdict, hfinal, hlanded,
    hsucceeded, hexpired, Bool.false_eq_true, if_true, if_false, and_self]

theorem orchestrator_skips_malformed :
    Orchestrator.observePreparedPayout parse rpc rpcUrls claim =
      Orchestrator.observePreparedPayout parse rpc
        (rpcUrls.filter fun url => (parse url).isSome) claim := by
  unfold Orchestrator.observePreparedPayout Orchestrator.independentRpcUrls
  rw [collectOrigins_wellFormed]

theorem secure_of_observed {verdict : Gateway.PreparedPayoutObservation}
    (hok : Gateway.observePreparedPayout parse rpc rpcUrls claim = .ok verdict)
    (hpresent : claim.present ≠ none) : ∀ url ∈ rpcUrls, Secure parse url := by
  intro url hurl
  by_contra hrefused
  obtain ⟨e, he⟩ := gateway_throws_iff.mpr ⟨hpresent, url, hurl, hrefused⟩
  rw [hok] at he
  cases he

theorem observed_agree_iff : Gateway.observePreparedPayout parse rpc rpcUrls claim =
      .ok (Orchestrator.observePreparedPayout parse rpc rpcUrls claim).atGateway ↔
    claim.present = none ∨
      ((∀ url ∈ rpcUrls, Secure parse url) ∧ ¬MerelyProcessed parse rpc rpcUrls claim) := by
  constructor
  · intro hagree
    rcases Decidable.em (claim.present = none) with hnone | hpresent
    · exact .inl hnone
    · have hsecure := secure_of_observed hagree hpresent
      refine .inr ⟨hsecure, fun hprocessed => ?_⟩
      obtain ⟨hgateway, horchestrator⟩ := observers_split hsecure hprocessed
      rw [hgateway, horchestrator] at hagree
      cases hagree
  · rintro (hnone | ⟨hall, hsettled⟩)
    · obtain ⟨hgateway, horchestrator⟩ := observers_of_absent hnone
      rw [hgateway, horchestrator]
      rfl
    · exact observers_agree hall hsettled

theorem observed_split_iff :
    (Gateway.observePreparedPayout parse rpc rpcUrls claim = .ok .absentOrFailed ∧
        Orchestrator.observePreparedPayout parse rpc rpcUrls claim = .inconclusive) ↔
      (∀ url ∈ rpcUrls, Secure parse url) ∧ MerelyProcessed parse rpc rpcUrls claim := by
  constructor
  · rintro ⟨hgateway, horchestrator⟩
    have hpresent : claim.present ≠ none := by
      intro hnone
      rw [(observers_of_absent hnone).1] at hgateway
      cases hgateway
    have hsecure := secure_of_observed hgateway hpresent
    refine ⟨hsecure, ?_⟩
    by_contra hsettled
    have hagree := observers_agree hsecure hsettled
    rw [hgateway, horchestrator] at hagree
    cases hagree
  · rintro ⟨hsecure, hprocessed⟩
    exact observers_split hsecure hprocessed

theorem payout_observers_agree_iff (parse : String → Option Url) (rpc : Rpc)
    (rpcUrls : List String) (claim : PreparedEvidence) :
    (Gateway.observePreparedPayout parse rpc rpcUrls claim =
        .ok (Orchestrator.observePreparedPayout parse rpc rpcUrls claim).atGateway ↔
      claim.present = none ∨
        ((∀ url ∈ rpcUrls, Secure parse url) ∧ ¬MerelyProcessed parse rpc rpcUrls claim)) ∧
    ((∃ e, Gateway.observePreparedPayout parse rpc rpcUrls claim = .error e) ↔
      claim.present ≠ none ∧ ∃ url ∈ rpcUrls, ¬Secure parse url) ∧
    ((Gateway.observePreparedPayout parse rpc rpcUrls claim = .ok .absentOrFailed ∧
        Orchestrator.observePreparedPayout parse rpc rpcUrls claim = .inconclusive) ↔
      (∀ url ∈ rpcUrls, Secure parse url) ∧ MerelyProcessed parse rpc rpcUrls claim) ∧
    Orchestrator.observePreparedPayout parse rpc rpcUrls claim =
      Orchestrator.observePreparedPayout parse rpc
        (rpcUrls.filter fun url => (parse url).isSome) claim :=
  ⟨observed_agree_iff, gateway_throws_iff, observed_split_iff, orchestrator_skips_malformed⟩

end Agreement

section Sample

def sampleParse : String → Option Url
  | "https://payout-a.example" =>
    some ⟨"https://payout-a.example", "", "", "payout-a.example", "https:", "",
      "https://payout-a.example/"⟩
  | "https://payout-b.example" =>
    some ⟨"https://payout-b.example", "", "", "payout-b.example", "https:", "",
      "https://payout-b.example/"⟩
  | _ => none

def sampleRpc (status : Json) : Rpc
  | _, .getSignatureStatuses _ => some (.object [("value", .array [status])])
  | _, .getBlockHeight => some (.integer 101)

def sampleEvidence : PreparedEvidence := ⟨some "prepared-signature", some 100⟩

def sampleUrls : List String := ["https://payout-a.example", "https://payout-b.example"]

theorem payout_observers_differ :
    (Gateway.observePreparedPayout sampleParse (sampleRpc .null) ("payout-c" :: sampleUrls)
        sampleEvidence = .error "Solana RPC endpoint must be an absolute HTTP URL" ∧
      Orchestrator.observePreparedPayout sampleParse (sampleRpc .null) ("payout-c" :: sampleUrls)
        sampleEvidence = .absentOrFailed) ∧
    (Gateway.observePreparedPayout sampleParse
        (sampleRpc (.object [("err", .null), ("confirmationStatus", .string "processed")]))
        sampleUrls sampleEvidence = .ok .absentOrFailed ∧
      Orchestrator.observePreparedPayout sampleParse
        (sampleRpc (.object [("err", .null), ("confirmationStatus", .string "processed")]))
        sampleUrls sampleEvidence = .inconclusive) := by
  decide

end Sample

end Obulus.Payout
