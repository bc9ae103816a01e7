import Obulus.Foundation.Script
import Obulus.Settlement.Invoice

namespace Obulus.Client

open Foundation Settlement

def maxOnchainLineItems : Nat := 20
def maxOnchainProtocolFeeBps : Nat := 1000
def minDisputeWindow : Int := 60
def maxDisputeWindow : Int := 86400

-- `0 | 1` in the source
inductive LineItemKind
  | contributor
  | protocolFee
  deriving DecidableEq, Repr

def LineItemKind.byte : LineItemKind → UInt8
  | contributor => 0
  | protocolFee => 1

structure OnchainInvoiceLineItem where
  recipientTokenAccount : String
  documentHash : String
  documentVersion : Number
  amountAtomic : String
  kind : LineItemKind
  deriving DecidableEq, Repr

structure CreateOnchainInvoiceArgs where
  invoiceHash : String
  queryHash : String
  bundleRoot : String
  authorization : String
  disputeResolver : String
  totalAmountAtomic : String
  platformFeeAtomic : String
  expiresAtUnixSeconds : Number
  disputeWindowSeconds : Number
  lineItems : List OnchainInvoiceLineItem
  deriving DecidableEq, Repr

structure CreateAndFundAccounts where
  programId : String
  payer : String
  payerTokenAccount : String
  escrowTokenAccount : String
  refundTokenAccount : String
  mint : String
  deriving DecidableEq, Repr

-- @solana/web3.js
structure Web3 where
  publicKey : String → Except String Pubkey
  toBase58 : Pubkey → String
  findProgramAddress : List (List UInt8) → Pubkey → Except String (Pubkey × UInt8)
  tokenProgramId : Pubkey
  systemProgramId : Pubkey

structure KeyMeta where
  pubkey : Pubkey
  isSigner : Bool
  isWritable : Bool
  deriving DecidableEq

structure TransactionInstruction where
  programId : Pubkey
  keys : List KeyMeta
  data : List UInt8
  deriving DecidableEq

section Encoder

def parseAtomic (value : String) : Except String Nat := do
  reject (isCanonicalDecimal value = false) "atomic amount must be canonical decimal"
  let parsed := bigInt value
  reject (0xffffffffffffffff < parsed) "atomic amount exceeds u64"
  return parsed

def hex32 (value field : String) : Except String Bytes32 :=
  if h : isHexDigest value = true then .ok ⟨(hexPairs value.toList).toArray, isHexDigest_length h⟩
  else .error s!"{field} must be 32 bytes of lowercase hex"

def u32 (value : Number) : Except String (List UInt8) := do
  let n ← orReject value.safeInteger "value exceeds u32"
  reject (n < 0 ∨ 0xffffffff < n) "value exceeds u32"
  return littleEndian 4 n.toNat

def u64 (value : String) : Except String (List UInt8) := do
  let parsed ← parseAtomic value
  return littleEndian 8 parsed

def i64 (value : Number) : Except String (List UInt8) := do
  let n ← orReject value.safeInteger "timestamp exceeds JavaScript safe integer"
  return littleEndian 8 (n % 2 ^ 64).toNat

variable (web3 : Web3)

def encodeLineItem (item : OnchainInvoiceLineItem) : Except String (List UInt8) := do
  let recipient ← web3.publicKey item.recipientTokenAccount
  let documentHash ← hex32 item.documentHash "document hash"
  let documentVersion ← u32 item.documentVersion
  let amount ← u64 item.amountAtomic
  return recipient.toList ++ (documentHash.toList ++ (documentVersion ++ (amount ++ [item.kind.byte])))

end Encoder

section Validation

variable (web3 : Web3)

structure InvoiceTally where
  lineTotal : Nat
  platformTotal : Nat
  identities : List String
  platformFeeItems : Nat

def identityOf (item : OnchainInvoiceLineItem) (documentVersion : Int) : String :=
  s!"{item.documentHash}:{documentVersion}:{item.kind.byte}"

def validateItem (t : InvoiceTally) (item : OnchainInvoiceLineItem) :
    Except String InvoiceTally := do
  let _ ← web3.publicKey item.recipientTokenAccount
  let _ ← hex32 item.documentHash "document hash"
  let documentVersion ← orReject item.documentVersion.safeInteger
    "document version must be a non-negative integer"
  reject (documentVersion < 0) "document version must be a non-negative integer"
  let amount ← parseAtomic item.amountAtomic
  reject (amount = 0) "invoice line-item amount must be positive"
  let identity := identityOf item documentVersion
  reject (identity ∈ t.identities) "invoice contains a duplicate payout"
  let identities := identity :: t.identities
  if item.kind = .protocolFee then
    return ⟨t.lineTotal + amount, t.platformTotal + amount, identities, t.platformFeeItems + 1⟩
  else
    return ⟨t.lineTotal + amount, t.platformTotal, identities, t.platformFeeItems⟩

def validateItems (t : InvoiceTally) :
    List OnchainInvoiceLineItem → Except String InvoiceTally
  | [] => .ok t
  | item :: rest => do
    let t' ← validateItem web3 t item
    validateItems t' rest

def validateOnchainInvoice (args : CreateOnchainInvoiceArgs) : Except String Unit := do
  let _ ← hex32 args.invoiceHash "invoice hash"
  let _ ← hex32 args.queryHash "query hash"
  let _ ← hex32 args.bundleRoot "bundle root"
  let _ ← web3.publicKey args.authorization
  let _ ← web3.publicKey args.disputeResolver
  let expiresAt ← orReject args.expiresAtUnixSeconds.safeInteger
    "invoice expiry must be a positive Unix timestamp"
  reject (expiresAt ≤ 0) "invoice expiry must be a positive Unix timestamp"
  let disputeWindow ← orReject args.disputeWindowSeconds.safeInteger
    "invoice dispute window is outside the program safety bounds"
  reject (disputeWindow < minDisputeWindow ∨ maxDisputeWindow < disputeWindow)
    "invoice dispute window is outside the program safety bounds"
  reject (args.lineItems.length = 0 ∨ maxOnchainLineItems < args.lineItems.length)
    "invoice must contain between one and twenty line items"
  let total ← parseAtomic args.totalAmountAtomic
  let platformFee ← parseAtomic args.platformFeeAtomic
  reject (total = 0 ∨ total * maxOnchainProtocolFeeBps < platformFee * 10000)
    "invoice economics exceed the on-chain fee policy"
  let t ← validateItems web3 ⟨0, 0, [], 0⟩ args.lineItems
  reject (t.lineTotal ≠ total ∨ t.platformTotal ≠ platformFee)
    "invoice line items do not balance to the committed totals"
  reject ((platformFee = 0 ∧ t.platformFeeItems ≠ 0) ∨
    (0 < platformFee ∧ t.platformFeeItems ≠ 1))
    "invoice must contain exactly one protocol-fee line item"

end Validation

section Build

variable (web3 : Web3)

def deriveInvoicePda (programId payer invoiceHash : String) : Except String (String × UInt8) := do
  let payerKey ← web3.publicKey payer
  let hash ← hex32 invoiceHash "invoice hash"
  let program ← web3.publicKey programId
  let (address, bump) ← web3.findProgramAddress [invoiceSeed, payerKey.toList, hash.toList] program
  return (web3.toBase58 address, bump)

def createAndFundData (args : CreateOnchainInvoiceArgs) : Except String (List UInt8) := do
  let invoiceHash ← hex32 args.invoiceHash "invoice hash"
  let queryHash ← hex32 args.queryHash "query hash"
  let bundleRoot ← hex32 args.bundleRoot "bundle root"
  let authorization ← web3.publicKey args.authorization
  let disputeResolver ← web3.publicKey args.disputeResolver
  let totalAmount ← u64 args.totalAmountAtomic
  let platformFee ← u64 args.platformFeeAtomic
  let expiresAt ← i64 args.expiresAtUnixSeconds
  let disputeWindow ← u32 args.disputeWindowSeconds
  let count ← u32 (.integer args.lineItems.length)
  let lineItems ← args.lineItems.mapM (encodeLineItem web3)
  return 0 :: (invoiceHash.toList ++ (queryHash.toList ++ (bundleRoot.toList ++
    (authorization.toList ++ (disputeResolver.toList ++ (totalAmount ++ (platformFee ++
    (expiresAt ++ (disputeWindow ++ (count ++ lineItems.flatten))))))))))

def accountMeta (isSigner isWritable : Bool) (address : String) : Except String KeyMeta := do
  let pubkey ← web3.publicKey address
  return ⟨pubkey, isSigner, isWritable⟩

def createAndFundKeys (args : CreateOnchainInvoiceArgs) (accounts : CreateAndFundAccounts)
    (invoice : String) : Except String (List KeyMeta) := do
  let payer ← accountMeta web3 true true accounts.payer
  let invoice ← accountMeta web3 false true invoice
  let payerToken ← accountMeta web3 false true accounts.payerTokenAccount
  let escrowToken ← accountMeta web3 false true accounts.escrowTokenAccount
  let refundToken ← accountMeta web3 false false accounts.refundTokenAccount
  let mint ← accountMeta web3 false false accounts.mint
  let recipients ← args.lineItems.mapM fun item =>
    accountMeta web3 false false item.recipientTokenAccount
  return [payer, invoice, payerToken, escrowToken, refundToken, mint,
    ⟨web3.tokenProgramId, false, false⟩, ⟨web3.systemProgramId, false, false⟩] ++ recipients

def buildCreateAndFundInstruction (args : CreateOnchainInvoiceArgs)
    (accounts : CreateAndFundAccounts) : Except String TransactionInstruction := do
  validateOnchainInvoice web3 args
  let (invoice, _) ← deriveInvoicePda web3 accounts.programId accounts.payer args.invoiceHash
  let data ← createAndFundData web3 args
  let programId ← web3.publicKey accounts.programId
  let keys ← createAndFundKeys web3 args accounts invoice
  return ⟨programId, keys, data⟩

end Build

end Obulus.Client
