import Obulus.Foundation.Script
import Obulus.Gateway.History

namespace Obulus.Gateway

open Foundation Store

structure SettleResponse where
  success : Bool
  transaction : String
  network : String
  payer : Option String
  amount : Option String
  deriving DecidableEq, Repr

inductive SettlementGateDirective
  | skip (result : SettleResponse)
  | abort (reason message : String)
  deriving DecidableEq, Repr

structure PaymentRequirements where
  network : String
  payTo : String
  asset : String
  amount : String

-- `views` is the number of RPC endpoints
structure SettlementGateDependencies where
  requirements : PaymentRequirements
  views : Nat
  expectedNetwork : String
  timeoutMs : Number
  pollIntervalMs : Number

inductive GateRequest
  | loadAttempt
  | settle
  | rpc (view : Nat) (request : RpcRequest)
  | dateNow
  | nowMs
  | sleep (delayMs : Int)
  deriving DecidableEq, Repr

inductive GateReply
  | attempt (attempt : ReconciliationAttempt)
  | response (result : SettleResponse)
  | json (value : Json)
  | time (ms : Int)
  | slept
  | threw

abbrev Gate := Dialogue GateRequest GateReply

namespace GateReply

def attempt? : GateReply → Option ReconciliationAttempt
  | attempt a => some a
  | _ => none

def response? : GateReply → Option SettleResponse
  | response r => some r
  | _ => none

def json? : GateReply → Option Json
  | json value => some value
  | _ => none

def time? : GateReply → Option Int
  | time ms => some ms
  | _ => none

def slept? : GateReply → Option Unit
  | slept => some ()
  | _ => none

end GateReply

def await (request : GateRequest) (read : GateReply → Option α) : Gate α :=
  .ask request fun reply => match read reply with
    | some a => .done a
    | none => .failed

def recoveryClockSkewMs : Int := 60000

variable (lib : Libraries)

-- `none` where it throws
def validateAttempt (attempt : ReconciliationAttempt) (expectedNetwork : String)
    (maxSignaturePages : Nat) (now : Int) : Option Unit := do
  guard (isTrimmed attempt.quoteId = true)
  guard (1 ≤ scriptLength attempt.quoteId ∧ scriptLength attempt.quoteId ≤ 160)
  guard (isHexDigest attempt.attemptId = true)
  guard (isPositiveDecimal attempt.amountAtomic = true)
  guard (attempt.network = expectedNetwork)
  guard (0 < attempt.createdAt ∧ (attempt.createdAt : Int) ≤ maxSafeInteger ∧
    attempt.createdAt ≤ now + recoveryClockSkewMs)
  guard (0 < attempt.reconcileAfter ∧ (attempt.reconcileAfter : Int) ≤ maxSafeInteger ∧
    attempt.reconcileAfter ≤ now + recoveryClockSkewMs)
  guard (attempt.absenceObservedAt.all (fun observed => decide ((observed : Int) ≤ maxSafeInteger ∧
    attempt.createdAt ≤ observed ∧ observed ≤ now + recoveryClockSkewMs)) = true)
  guard (1 ≤ maxSignaturePages ∧ maxSignaturePages ≤ 100)
  guard (validSolanaAddress lib.encoding attempt.asset = true)
  guard (validSolanaAddress lib.encoding attempt.payTo = true)

def preparedIsVerifiable (attempt : ReconciliationAttempt) (prepared : Bytes)
    (payer recentBlockhash : String) : Bool :=
  hasValidTransactionEnvelope prepared &&
    (preparedTransactionEvidence lib prepared).any (fun evidence =>
      decide (evidence.recentBlockhash = recentBlockhash) &&
        decide (payer ∈ evidence.signedAddresses) &&
        decide (evidence.missingSignatureIndexes = [0])) &&
    hasExactPreparedPaymentSemantics lib attempt payer prepared

def viewTransaction (view : Nat) (signature : String) : Gate (Option ExactTransaction) := do
  let value ← await (.rpc view (.getTransaction signature)) GateReply.json?
  match parseExactBase64Transaction lib value with
  | .ok transaction => return transaction
  | .error _ => .failed

def verifyPrepared (prepared : Bytes) (candidateSignature : String) (view : Nat) :
    Gate ExactChainScanResult := do
  match ← viewTransaction lib view candidateSignature with
  | none => return .absent
  | some transaction =>
    if equalPreparedTransaction lib prepared transaction.bytes candidateSignature then
      return outcome transaction candidateSignature
    else return .inconclusive

def verifyEvidence (attempt : ReconciliationAttempt) (candidateSignature : String) (view : Nat) :
    Gate ExactChainScanResult :=
  match attempt.evidence? with
  | none => return .inconclusive
  | some exact =>
    match lib.encoding.base58Decode candidateSignature with
    | none => .failed
    | some decoded =>
      let prepared := lib.bufferFromBase64 exact.signedTransactionBase64
      if decoded.length ≠ 64 ∨
          preparedIsVerifiable lib attempt prepared exact.payer exact.recentBlockhash = false then
        return .inconclusive
      else verifyPrepared lib prepared candidateSignature view

-- the two `try` blocks end in `.failed` where they throw
def tryVerify (attempt : ReconciliationAttempt) (candidateSignature : String) (view : Nat)
    (expectedNetwork : String) : Gate ExactChainScanResult := do
  let now ← await .dateNow GateReply.time?
  match validateAttempt lib attempt expectedNetwork 1 now with
  | none => .failed
  | some () => verifyEvidence lib attempt candidateSignature view

def verifyExactFinalizedSettlementSignature (attempt : ReconciliationAttempt)
    (candidateSignature : String) (view : Nat) (expectedNetwork : String) :
    Gate ExactChainScanResult :=
  (tryVerify lib attempt candidateSignature view expectedNetwork).orElse .inconclusive

def pending (detail : String) : SettlementGateDirective :=
  .abort "settlement_reconciliation_pending"
    ("Payment response is held: " ++ detail ++ ". Retry this same resource without signing again.")

def SettlementGateDependencies.configured (dependencies : SettlementGateDependencies) :
    Option (Int × Int) := do
  guard (2 ≤ dependencies.views)
  let timeoutMs ← dependencies.timeoutMs.safeInteger
  guard (1 ≤ timeoutMs ∧ timeoutMs ≤ 45000)
  let pollIntervalMs ← dependencies.pollIntervalMs.safeInteger
  guard (50 ≤ pollIntervalMs ∧ pollIntervalMs ≤ 5000)
  return (timeoutMs, pollIntervalMs)

def PaymentRequirements.drifted (requirements : PaymentRequirements)
    (attempt : ReconciliationAttempt) : Bool :=
  decide (requirements.network ≠ attempt.network ∨ requirements.payTo ≠ attempt.payTo ∨
    requirements.asset ≠ attempt.asset ∨ requirements.amount ≠ attempt.amountAtomic)

def SettleResponse.mismatches (result : SettleResponse) (attempt : ReconciliationAttempt)
    (expectedNetwork : String) : Bool :=
  decide (result.transaction = "" ∨ result.network ≠ expectedNetwork ∨
    result.network ≠ attempt.network ∨ result.payer.getD "" = "" ∨ result.payer ≠ attempt.payer ∨
    result.amount.getD attempt.amountAtomic ≠ attempt.amountAtomic)

def scanViews (attempt : ReconciliationAttempt) (candidateSignature expectedNetwork : String) :
    List Nat → Gate (List ExactChainScanResult)
  | [] => return []
  | view :: views => do
    let scan ← verifyExactFinalizedSettlementSignature lib attempt candidateSignature view
      expectedNetwork
    let scans ← scanViews attempt candidateSignature expectedNetwork views
    return scan :: scans

def pollViews (dependencies : SettlementGateDependencies) (attempt : ReconciliationAttempt)
    (result : SettleResponse) (deadline pollIntervalMs : Int) : Nat → Gate SettlementGateDirective
  | 0 => return pending "independent finalized RPC views did not agree before the response deadline"
  | polls + 1 => do
    let scans ← scanViews lib attempt result.transaction dependencies.expectedNetwork
      (List.range dependencies.views)
    if exactSettlementSignature scans = some result.transaction then return .skip result
    else
      let now ← await .nowMs GateReply.time?
      if deadline ≤ now then
        return pending "independent finalized RPC views did not agree before the response deadline"
      else
        let later ← await .nowMs GateReply.time?
        await (.sleep (min pollIntervalMs (max 0 (deadline - later)))) GateReply.slept?
        pollViews dependencies attempt result deadline pollIntervalMs polls

def maxPolls (timeoutMs pollIntervalMs : Int) : Nat :=
  ((timeoutMs + pollIntervalMs - 1) / pollIntervalMs).toNat + 1

def releaseSettled (dependencies : SettlementGateDependencies) (attempt : ReconciliationAttempt)
    (result : SettleResponse) (timeoutMs pollIntervalMs : Int) : Gate SettlementGateDirective :=
  if result.success = false then return .skip result
  else if result.mismatches attempt dependencies.expectedNetwork = true then
    return pending "facilitator response does not match the durable payment attempt"
  else do
    let now ← await .nowMs GateReply.time?
    pollViews lib dependencies attempt result (now + timeoutMs) pollIntervalMs
      (maxPolls timeoutMs pollIntervalMs)

def trySettle (dependencies : SettlementGateDependencies) : Gate SettlementGateDirective :=
  match dependencies.configured with
  | none => return pending "independent settlement verification is not safely configured"
  | some (timeoutMs, pollIntervalMs) => do
    let attempt ← await .loadAttempt GateReply.attempt?
    if dependencies.requirements.drifted attempt = true then
      return pending "settlement requirements drifted from the durable payment attempt"
    else
      let result ← await .settle GateReply.response?
      releaseSettled lib dependencies attempt result timeoutMs pollIntervalMs

def settleWithIndependentFinality (dependencies : SettlementGateDependencies) :
    Gate SettlementGateDirective :=
  (trySettle lib dependencies).orElse
    (pending "settlement outcome is ambiguous and requires durable reconciliation")

end Obulus.Gateway
