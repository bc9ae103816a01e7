import Obulus.Gateway.Wire

namespace Obulus.Gateway

open Foundation Store Funds

def memoProgramAddress : String := "MemoSq4gqABAXKb96qnH8TysNcWxMyWCqXgDLGmfcHr"
def computeBudgetProgramAddress : String := "ComputeBudget111111111111111111111111111111"
def tokenProgram : String := "TokenkegQfeZyiNwAJbNbGKPFXCWuBvf9Ss623VQ5DA"
def maxFeeSponsoredComputeUnits : Nat := 200000
def maxFeeSponsoredMicrolamportsPerUnit : Nat := 10000

abbrev Scan := Dialogue RpcRequest Json

section Prepared

variable (lib : Libraries)

structure PreparedEvidence where
  recentBlockhash : String
  signedAddresses : List String
  missingSignatureIndexes : List Nat
  deriving DecidableEq, Repr

def isMissing (signature : Option Bytes) : Bool := signature.all isZeroSignature

def missingIndexes (signatures : List (Option Bytes)) : List Nat :=
  (List.range signatures.length).filter fun index => (signatures[index]?.getD none |> isMissing)

def legacyEvidence (transaction : LegacyTransaction) : Option PreparedEvidence :=
  (transaction.recentBlockhash.filter (· ≠ "")).map fun recentBlockhash =>
    { recentBlockhash := recentBlockhash
      signedAddresses := (transaction.signatures.filter fun item => !isMissing item.2).map Prod.fst
      missingSignatureIndexes := missingIndexes (transaction.signatures.map Prod.snd) }

def VersionedTransaction.signerAddresses (transaction : VersionedTransaction) : List String :=
  transaction.staticAccountKeys.take transaction.numRequiredSignatures

-- a signer without a signature makes the filter throw
def versionedEvidence (transaction : VersionedTransaction) : Option PreparedEvidence :=
  let signerAddresses := transaction.signerAddresses
  if transaction.signatures.length < signerAddresses.length then none
  else some
    { recentBlockhash := transaction.recentBlockhash
      signedAddresses := ((signerAddresses.zip transaction.signatures).filter fun item =>
        !isZeroSignature item.2).map Prod.fst
      missingSignatureIndexes := missingIndexes (transaction.signatures.map some) }

def preparedTransactionEvidence (transaction : Bytes) : Option PreparedEvidence :=
  match lib.legacyTransaction transaction with
  | some legacy => legacyEvidence legacy
  | none => (lib.versionedTransaction transaction).bind versionedEvidence

structure ExactPreparedInstruction where
  program : String
  accounts : List String
  data : Bytes
  deriving DecidableEq, Repr

def littleEndian (bytes : Bytes) : Nat :=
  bytes.foldr (fun byte value => byte.toNat + 256 * value) 0

def validFeeSponsoredComputeBudget (instruction : ExactPreparedInstruction) : Bool :=
  if instruction.accounts ≠ [] then false
  else if instruction.data.length = 5 ∧ instruction.data[0]? = some 2 then
    littleEndian (instruction.data.drop 1) ≤ maxFeeSponsoredComputeUnits
  else if instruction.data.length = 9 ∧ instruction.data[0]? = some 3 then
    littleEndian (instruction.data.drop 1) ≤ maxFeeSponsoredMicrolamportsPerUnit
  else false

structure PreparedPayment where
  signerAddresses : List String
  signatures : List Bytes
  instructions : List ExactPreparedInstruction

def PreparedPayment.calls (payment : PreparedPayment) (program : String) : Nat :=
  (payment.instructions.filter fun instruction => instruction.program = program).length

def resolveInstruction (keys : List String) (instruction : CompiledInstruction) :
    Option ExactPreparedInstruction := do
  let program ← keys[instruction.programIdIndex]?
  let accounts ← instruction.accountKeyIndexes.mapM fun index => keys[index]?
  return { program := program, accounts := accounts, data := instruction.data }

def preparedPayment (prepared : Bytes) : Option PreparedPayment :=
  match lib.legacyTransaction prepared with
  | some legacy => some
    { signerAddresses := legacy.signatures.map Prod.fst
      signatures := legacy.signatures.map fun item => item.2.getD (List.replicate 64 0)
      instructions := legacy.instructions.map fun (program, accounts, data) =>
        { program := program, accounts := accounts, data := data } }
  | none => do
    let versioned ← lib.versionedTransaction prepared
    guard (versioned.addressTableLookups = 0)
    let instructions ← versioned.compiledInstructions.mapM
      (resolveInstruction versioned.staticAccountKeys)
    return { signerAddresses := versioned.signerAddresses
             signatures := versioned.signatures
             instructions := instructions }

def kindText : AttemptKind → String
  | .quote .document => "document"
  | .quote .bundle => "bundle"
  | .quote .openCall => "open_call"
  | .topup => "topup"

def paymentMemo (kind : AttemptKind) (quoteId : String) : Option String :=
  let memo := "openshelf:v1:" ++ kindText kind ++ ":" ++ quoteId
  if quoteId = "" ∨ 256 < memo.utf8ByteSize then none else some memo

def signaturesVerify (payment : PreparedPayment) (message : Bytes) : Bool :=
  (List.range payment.signerAddresses.length).all fun index =>
    isMissing payment.signatures[index]? ||
      ((payment.signerAddresses[index]?).bind fun signer =>
        lib.verifySignature signer (payment.signatures[index]?.getD []) message) == some true

def isExactTransfer (attempt : ReconciliationAttempt) (payer source destination : String)
    (instruction : ExactPreparedInstruction) : Bool :=
  decide (instruction.accounts = [source, attempt.asset, destination, payer] ∧
    instruction.data.length = 10 ∧ instruction.data[0]? = some 12 ∧
    instruction.data[9]? = some 6 ∧
    toString (littleEndian (subarray instruction.data 1 8)) = attempt.amountAtomic)

def instructionAllowed (attempt : ReconciliationAttempt) (payer source destination memo : String)
    (instruction : ExactPreparedInstruction) : Bool :=
  if instruction.program = tokenProgram then
    isExactTransfer attempt payer source destination instruction
  else if instruction.program = memoProgramAddress then lib.utf8 instruction.data = memo
  else if instruction.program = computeBudgetProgramAddress then
    validFeeSponsoredComputeBudget instruction
  else false

def hasExactPreparedPaymentSemantics (attempt : ReconciliationAttempt) (payer : String)
    (prepared : Bytes) : Bool :=
  (do
    let message ← lib.messageBytes prepared
    let payment ← preparedPayment lib prepared
    guard (payer ∈ payment.signerAddresses)
    guard (isMissing payment.signatures[payment.signerAddresses.idxOf payer]? = false)
    guard (signaturesVerify lib payment message = true)
    let source ← lib.associatedTokenPda attempt.asset payer
    let destination ← lib.associatedTokenPda attempt.asset attempt.payTo
    let memo ← paymentMemo attempt.settlementKind attempt.quoteId
    guard (payment.instructions.all
      (instructionAllowed lib attempt payer source destination memo) = true)
    guard (payment.calls tokenProgram = 1)
    guard (payment.calls memoProgramAddress = 1)).isSome

end Prepared

section Scanning

variable (lib : Libraries)

def getTransaction (signature : String) : Scan (Option ExactTransaction) := do
  let reply ← Dialogue.answer (.getTransaction signature)
  match parseExactBase64Transaction lib reply with
  | .ok transaction => return transaction
  | .error _ => .failed

def getSignaturesForAddress (payer : String) (before : Option String) :
    Scan (List SignatureInfo) := do
  let reply ← Dialogue.answer (.getSignaturesForAddress payer signaturePageSize before)
  match parseSignatureInfos lib reply with
  | .ok signatures => return signatures
  | .error _ => .failed

def outcome (transaction : ExactTransaction) (signature : String) : ExactChainScanResult :=
  if transaction.err.isNull then .settled signature else .failed signature

def scanKnownSignature (prepared : Bytes) (signature : String) : Scan ExactChainScanResult := do
  match ← getTransaction lib signature with
  | none => return .absent
  | some transaction =>
    if equalPreparedTransaction lib prepared transaction.bytes signature then
      return outcome transaction signature
    else return .inconclusive

-- `none` when no candidate of the page is the prepared transaction
def scanCandidates (prepared : Bytes) : List SignatureInfo → Scan (Option ExactChainScanResult)
  | [] => return none
  | candidate :: rest => do
    match ← getTransaction lib candidate.signature with
    | none => return some .inconclusive
    | some transaction =>
      if equalPreparedTransaction lib prepared transaction.bytes candidate.signature then
        return some (outcome transaction candidate.signature)
      else scanCandidates prepared rest

def lastSignature (signatures : List SignatureInfo) : Option String :=
  (signatures.getLast?.map SignatureInfo.signature).filter (· ≠ "")

def scanPages (prepared : Bytes) (payer : String) : Nat → Option String → Scan ExactChainScanResult
  | 0, _ => return .inconclusive
  | pages + 1, before => do
    let signatures ← getSignaturesForAddress lib payer before
    match ← scanCandidates lib prepared signatures with
    | some result => return result
    | none =>
      if signatures.length < signaturePageSize then return .absent
      else match lastSignature signatures with
        | none => return .inconclusive
        | some last => scanPages prepared payer pages (some last)

def preparedIsScannable (attempt : ReconciliationAttempt) (prepared : Bytes)
    (payer recentBlockhash : String) (evidence : PreparedEvidence) : Bool :=
  decide (evidence.recentBlockhash = recentBlockhash) &&
    decide (payer ∈ evidence.signedAddresses) &&
    decide (evidence.missingSignatureIndexes = [] ∨ evidence.missingSignatureIndexes = [0]) &&
    hasExactPreparedPaymentSemantics lib attempt payer prepared

def scanPrepared (prepared : Bytes) (payer : String) (maxSignaturePages : Nat)
    (evidence : PreparedEvidence) : Scan ExactChainScanResult :=
  match (if evidence.missingSignatureIndexes = [] then fullySignedTransactionSignature lib prepared
    else none).filter (· ≠ "") with
  | some knownSignature => scanKnownSignature lib prepared knownSignature
  | none => scanPages lib prepared payer maxSignaturePages none

structure ExactEvidence where
  payer : String
  signedTransactionBase64 : String
  recentBlockhash : String

def ReconciliationAttempt.evidence? (attempt : ReconciliationAttempt) : Option ExactEvidence := do
  let payer ← attempt.payer.filter (· ≠ "")
  let signedTransaction ← attempt.signedTransactionBase64.filter (· ≠ "")
  let recentBlockhash ← attempt.recentBlockhash.filter (· ≠ "")
  return { payer := payer, signedTransactionBase64 := signedTransaction
           recentBlockhash := recentBlockhash }

def scanExactFinalizedChainAttempt (attempt : ReconciliationAttempt) (maxSignaturePages : Nat) :
    Scan ExactChainScanResult :=
  match attempt.evidence? with
  | none => return .inconclusive
  | some exact =>
    if maxSignaturePages < 1 ∨ 20 < maxSignaturePages then .failed
    else
      let prepared := lib.bufferFromBase64 exact.signedTransactionBase64
      if hasValidTransactionEnvelope prepared = false then return .inconclusive
      else match preparedTransactionEvidence lib prepared with
        | none => return .inconclusive
        | some evidence =>
          if preparedIsScannable lib attempt prepared exact.payer exact.recentBlockhash evidence then
            scanPrepared lib prepared exact.payer maxSignaturePages evidence
          else return .inconclusive

end Scanning

end Obulus.Gateway
