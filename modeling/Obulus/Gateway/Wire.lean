import Obulus.Foundation.Checks
import Obulus.Foundation.Dialogue
import Obulus.Foundation.Json
import Obulus.Store.Solana
import Obulus.Funds.Schema

namespace Obulus.Gateway

open Foundation Store Funds

-- the gateway settles top-ups too, which have no attempt in the store
inductive AttemptKind
  | quote (kind : SettlementKind)
  | topup
  deriving DecidableEq, Repr

structure ReconciliationAttempt where
  settlementKind : AttemptKind
  quoteId : String
  attemptId : String
  reconcileAfter : Nat
  createdAt : Nat
  payTo : String
  network : String
  asset : String
  amountAtomic : String
  payer : Option String
  signedTransactionBase64 : Option String
  recentBlockhash : Option String
  absenceObservedAt : Option Nat
  deriving DecidableEq, Repr

inductive ExactChainScanResult
  | settled (signature : String)
  | failed (signature : String)
  | absent
  | inconclusive
  deriving DecidableEq, Repr

def ExactChainScanResult.signature? : ExactChainScanResult → Option String
  | settled signature => some signature
  | _ => none

-- scans that a decision of absence cannot rest on
def ExactChainScanResult.unsafeToRelease : ExactChainScanResult → Bool
  | settled _ => true
  | inconclusive => true
  | _ => false

inductive AbsenceDecision
  | defer
  | observe
  | release
  deriving DecidableEq, Repr

def exactAbsenceDecision (scans : List ExactChainScanResult) (blockhashViews : List (Option Bool))
    (absenceObservedAt : Option Nat) : AbsenceDecision :=
  if scans.length < 2 ∨ scans.any ExactChainScanResult.unsafeToRelease = true ∨
      blockhashViews.length ≠ scans.length ∨
      blockhashViews.any (fun view => decide (view ≠ some false)) = true then
    .defer
  else if absenceObservedAt = none then .observe
  else .release

-- an empty signature is falsy
def exactSettlementSignature (scans : List ExactChainScanResult) : Option String :=
  if scans.length < 2 then none
  else match scans.head?.bind ExactChainScanResult.signature? with
    | none => none
    | some signature =>
      if signature ≠ "" ∧ scans.all (fun scan => scan = .settled signature) = true then some signature
      else none

def signaturePageSize : Nat := 1000

inductive RpcRequest
  | getSignaturesForAddress (address : String) (limit : Nat) (before : Option String)
  | getTransaction (signature : String)
  | isBlockhashValid (blockhash : String)
  deriving DecidableEq, Repr

structure LegacyTransaction where
  recentBlockhash : Option String
  -- the public key of each required signer and its signature, if any
  signatures : List (String × Option Bytes)
  instructions : List (String × List String × Bytes)

structure CompiledInstruction where
  programIdIndex : Nat
  accountKeyIndexes : List Nat
  data : Bytes

structure VersionedTransaction where
  addressTableLookups : Nat
  staticAccountKeys : List String
  numRequiredSignatures : Nat
  recentBlockhash : String
  signatures : List Bytes
  compiledInstructions : List CompiledInstruction

-- The packages the gateway reads transactions with; `none` where they throw.
structure Libraries where
  encoding : Encoding
  bufferFromBase64 : String → Bytes
  utf8 : Bytes → String
  legacyTransaction : Bytes → Option LegacyTransaction
  versionedTransaction : Bytes → Option VersionedTransaction
  messageBytes : Bytes → Option Bytes
  verifySignature : String → Bytes → Bytes → Option Bool
  associatedTokenPda : String → String → Option String

variable (lib : Libraries)

def decodeShortVec (bytes : Bytes) : Option (Nat × Nat) := shortVecFrom 0 0 0 3 bytes

def hasValidTransactionEnvelope (transaction : Bytes) : Bool :=
  (decodeShortVec transaction).any fun (value, length) =>
    decide (1 ≤ value ∧ value ≤ 64 ∧ length + value * 64 < transaction.length)

def subarray (bytes : Bytes) (start length : Nat) : Bytes := (bytes.drop start).take length

-- the signature slot `index` of a transaction whose signatures start at `length`
def slot (bytes : Bytes) (length index : Nat) : Bytes := subarray bytes (length + index * 64) 64

def fullySignedTransactionSignature (transaction : Bytes) : Option String :=
  (decodeShortVec transaction).bind fun (value, length) =>
    if (List.range value).any (fun index => isZeroSignature (slot transaction length index)) then none
    else some (lib.encoding.base58Encode (slot transaction length 0))

-- a slot the prepared transaction leaves open must have been filled, any other is unchanged
def slotAgrees (prepared candidate : Bytes) : Bool :=
  if isZeroSignature prepared then !isZeroSignature candidate else prepared.isPrefixOf candidate

def equalPreparedTransaction (prepared candidate : Bytes) (rpcSignature : String) : Bool :=
  match decodeShortVec prepared, decodeShortVec candidate with
  | some left, some right =>
    decide (left = right ∧ prepared.length = candidate.length) &&
      (prepared.drop (left.2 + left.1 * 64)).isPrefixOf (candidate.drop (left.2 + left.1 * 64)) &&
      (List.range left.1).all (fun index =>
        slotAgrees (slot prepared left.2 index) (slot candidate left.2 index)) &&
      decide (lib.encoding.base58Encode (slot candidate right.2 0) = rpcSignature)
  | _, _ => false

structure SignatureInfo where
  signature : String
  err : Json

def parseSignatureInfo (item : Json) : Except String SignatureInfo := do
  let fields ← match item with
    | .object fields => .ok fields
    | _ => .error "Solana RPC returned a malformed signature entry"
  let signature ← match Json.lookup "signature" fields with
    | some (.string signature) => .ok signature
    | _ => .error "Solana RPC returned a signature entry without a signature"
  reject (((lib.encoding.base58Decode signature).any fun decoded => decoded.length == 64) = false)
    "Solana RPC returned a malformed transaction signature"
  reject (¬(((Json.lookup "blockTime" fields).any Json.isNull = true) ∨
      ((Json.lookup "blockTime" fields).bind Json.safeInteger).any (fun time => 0 < time) = true))
    "Solana RPC returned a malformed signature block time"
  let err ← match Json.lookup "err" fields with
    | some err => .ok err
    | none => .error "Solana RPC returned a signature entry without status"
  return { signature := signature, err := err }

def parseSignatureInfos : Json → Except String (List SignatureInfo)
  | .array items => items.mapM (parseSignatureInfo lib)
  | _ => .error "Solana RPC returned invalid signature history"

structure ExactTransaction where
  bytes : Bytes
  err : Json

def parseExactBase64Transaction (value : Json) : Except String (Option ExactTransaction) :=
  match value with
  | .null => .ok none
  | .object record => do
    let encoded ← match Json.lookup "transaction" record with
      | some (.array (.string encoded :: .string "base64" :: _)) => .ok encoded
      | _ => .error "Solana RPC omitted exact transaction bytes or status"
    let err ← match (Json.lookup "meta" record).bind (Json.field "err") with
      | some err => .ok err
      | none => .error "Solana RPC omitted exact transaction bytes or status"
    let bytes := lib.bufferFromBase64 encoded
    reject (hasValidTransactionEnvelope bytes = false)
      "Solana RPC returned an invalid exact transaction envelope"
    return some { bytes := bytes, err := err }
  | _ => .error "Solana RPC returned malformed exact transaction evidence"

-- the main loop keeps a boolean `value` and nothing else
def blockhashView (reply : Json) : Option Bool :=
  match Json.field "value" reply with
  | some (.bool valid) => some valid
  | _ => none

end Obulus.Gateway
