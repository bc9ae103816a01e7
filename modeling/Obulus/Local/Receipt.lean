import Obulus.Local.State

namespace Obulus.Local

open Foundation

structure Url where
  origin : String
  username : String
  password : String
  pathname : String
  search : String
  hash : String
  deriving DecidableEq, Repr

-- what Node itself provides: the URL constructor, which throws where this is none, and the digest
structure Platform where
  parseUrl : String → Option Url
  sha256 : String → String

structure Config where
  gatewayOrigin : String
  payAccount : Option String
  deriving DecidableEq, Repr

def isUnreserved (c : Char) : Bool :=
  c.isAlphanum || "-_.!~*'()".toList.contains c

def hexDigit (n : Nat) : Char :=
  ("0123456789ABCDEF".toList.drop n).headD '0'

def percentEncode (byte : UInt8) : List Char :=
  let c := Char.ofNat byte.toNat
  if byte.toNat < 128 && isUnreserved c then [c]
  else ['%', hexDigit (byte.toNat / 16), hexDigit (byte.toNat % 16)]

def encodeURIComponent (text : String) : String :=
  String.ofList (text.toUTF8.toList.flatMap percentEncode)

def ApprovalBinding.expectedPath (binding : ApprovalBinding) : String :=
  match binding.documentHandle.filter fun handle => handle ≠ "" with
  | some _ => s!"/api/v1/paid-quotes/{encodeURIComponent binding.id}"
  | none => binding.resourcePath

def assertIntentBinding (platform : Platform) (config : Config) (intent : PaymentIntent) :
    Except LocalAgentError Unit := do
  let url ← orReject (platform.parseUrl intent.paymentUrl) ⟨"Invalid URL", "ERR_INVALID_URL", 500⟩
  let binding := intent.approvalBinding
  reject (url.origin ≠ config.gatewayOrigin ∨ url.username ≠ "" ∨ url.password ≠ "" ∨
      url.search ≠ "" ∨ url.hash ≠ "" ∨ url.pathname ≠ binding.expectedPath ∨
      platform.sha256 intent.paymentUrl ≠ intent.paymentUrlHash ∨ intent.quoteId ≠ binding.id ∨
      intent.amountAtomic ≠ binding.amountAtomic ∨ intent.network ≠ binding.network ∨
      intent.asset ≠ binding.asset ∨ intent.payTo ≠ binding.payTo ∨
      (config.payAccount.filter fun account => account ≠ "") = none ∨
      config.payAccount ≠ some intent.payAccount)
    ⟨"The approved payment binding is invalid.", "unsafe_payment_intent", 400⟩

inductive Receipt
  | openCall (quoteId status : String) (target unitPriceKrw totalPriceKrw : Option Int)
      (network : String)
  | document (quoteId : String) (citationHandles : List String) (totalPriceKrw : Option Int)
      (network : String)
  | bundle (jobId status : String) (documentCount totalPriceKrw : Option Int) (network : String)
  deriving DecidableEq, Repr

def namesText (value : Option Json) (text : String) : Bool :=
  value.any (Json.isText text)

-- both missing is equal too
def namesNumber : Option Json → Option Int → Bool
  | none, none => true
  | some (.integer n), some m => n = m
  | _, _ => false

def onlyCitation (body : Json) : Option Json :=
  match body.field "citations" with
  | some (.array [citation]) => some citation
  | _ => none

def openCallReceipt (intent : PaymentIntent) (body : Json) : Except LocalAgentError Receipt := do
  let binding := intent.approvalBinding
  reject (¬namesText (body.field "quoteId") intent.quoteId ∨
      ¬namesText (body.field "status") "settling" ∨
      ¬namesNumber (body.field "target") binding.target ∨
      ¬namesNumber (body.field "unitPriceKrw") binding.unitPriceKrw ∨
      ¬namesNumber (body.field "totalPriceKrw") binding.totalPriceKrw ∨
      ¬namesText (body.field "network") intent.network ∨
      ¬namesText (body.field "mode") "open_call_escrow")
    ⟨"Pay.sh did not return the exact approved Open Call receipt.", "invalid_payment_response", 400⟩
  return .openCall intent.quoteId "settling" binding.target binding.unitPriceKrw
    binding.totalPriceKrw intent.network

def documentReceipt (intent : PaymentIntent) (handle : String) (body : Json) :
    Except LocalAgentError Receipt := do
  let binding := intent.approvalBinding
  let citation := onlyCitation body
  let settlement := body.field "settlement"
  reject (¬namesText (citation.bind (Json.field "handle")) handle ∨
      ¬namesNumber (citation.bind (Json.field "price")) binding.priceKrw ∨
      ¬namesText (settlement.bind (Json.field "id")) intent.quoteId ∨
      ¬namesNumber (settlement.bind (Json.field "count")) (some 1) ∨
      ¬namesNumber (settlement.bind (Json.field "total")) binding.priceKrw ∨
      ¬namesText (settlement.bind (Json.field "network")) intent.network)
    ⟨"Pay.sh did not return the exact approved document receipt.", "invalid_payment_response", 400⟩
  return .document intent.quoteId [handle] binding.priceKrw intent.network

def bundleReceipt (intent : PaymentIntent) (body : Json) : Except LocalAgentError Receipt := do
  let binding := intent.approvalBinding
  let documentCount := binding.documentHandles.map fun handles => (handles.length : Int)
  reject (¬namesText (body.field "jobId") intent.quoteId ∨
      ¬namesText (body.field "status") "funding" ∨
      ¬namesNumber (body.field "documentCount") documentCount ∨
      ¬namesNumber (body.field "total") binding.totalPriceKrw ∨
      ¬namesText (body.field "network") intent.network)
    ⟨"Pay.sh did not return the exact approved bundle receipt.", "invalid_payment_response", 400⟩
  return .bundle intent.quoteId "funding" documentCount binding.totalPriceKrw intent.network

-- `stdout` is none where it is not JSON
def verifiedPaymentResponse (intent : PaymentIntent) (stdout : Option Json) :
    Except LocalAgentError Receipt := do
  let body ← orReject stdout ⟨"Pay.sh returned a non-JSON response.", "invalid_payment_response", 400⟩
  let binding := intent.approvalBinding
  if intent.kind = some "open_call" ∨ binding.payloadHash.any (· ≠ "") then
    openCallReceipt intent body
  else
    match binding.documentHandle.filter fun handle => handle ≠ "" with
    | some handle => documentReceipt intent handle body
    | none => bundleReceipt intent body

end Obulus.Local
