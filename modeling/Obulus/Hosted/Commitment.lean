import Obulus.Foundation.Checks
import Obulus.Funds.Pricing
import Obulus.Hosted.Canonical

namespace Obulus.Hosted

open Foundation

def settlementInvoiceScheme : String := "obulus-settlement-v1"
def hostedPayShMode : String := "hosted_pay_sh"
def paidSnapshotOnly : String := "paid_snapshot_only"
def maxProtocolFeeBps : Nat := 1000
def evidenceProtocolFeeBps : Nat := 1000
def u128Max : Nat := 2 ^ 128 - 1

structure SettlementInvoiceLineItem where
  quoteId : String
  documentHandle : String
  documentHash : String
  documentVersion : UInt32
  consentVersion : String
  recipientWallet : String
  amountAtomic : String
  ownerAmountAtomic : String
  platformAmountAtomic : String
  deriving DecidableEq, Repr

structure SettlementInvoice where
  scheme : String
  settlementMode : String
  jobId : String
  payer : String
  authorization : String
  refundAddress : String
  queryHash : String
  documentBundleRoot : String
  network : String
  asset : String
  totalAmountAtomic : String
  platformFeeAtomic : String
  expiresAt : UInt64
  deliveryPolicy : String
  lineItems : List SettlementInvoiceLineItem
  deriving DecidableEq, Repr

inductive SettlementInvoiceError
  | missingField (name : String)
  | duplicateQuote
  | invalidAmount
  | amountOverflow
  | totalMismatch
  | platformFeeMismatch
  | platformFeeTooHigh
  deriving DecidableEq, Repr

section Validate

def requireFields (fields : List (String × String)) : Except SettlementInvoiceError Unit :=
  match fields.find? fun field => trim field.2 = "" with
  | some field => .error (.missingField field.1)
  | none => .ok ()

def checkedAdd (limit a b : Nat) : Option Nat := if a + b ≤ limit then some (a + b) else none

def parseAmount (value : String) : Except SettlementInvoiceError Nat := do
  reject (value = "" ∨ (1 < value.utf8ByteSize ∧ value.toList.head? = some '0')) .invalidAmount
  orReject (Funds.parseU64 value) .invalidAmount

-- a share of `bps` rounded up, at least one unit and never the whole amount
def shareOf (bps amountAtomic : Nat) : Nat :=
  if amountAtomic < 2 then 0
  else min (max ((amountAtomic * bps + 9999) / 10000) 1) (amountAtomic - 1)

def maximumPlatformShare (amountAtomic : Nat) : Nat := shareOf maxProtocolFeeBps amountAtomic

def evidencePaymentSplit (amountAtomic : Nat) : Nat × Nat :=
  let fee := shareOf evidenceProtocolFeeBps amountAtomic
  (amountAtomic - fee, fee)

structure InvoiceTotals where
  lineTotal : Nat
  linePlatformTotal : Nat
  maximumPlatformTotal : Nat
  quoteIds : List String

def validateItem (t : InvoiceTotals) (item : SettlementInvoiceLineItem) :
    Except SettlementInvoiceError InvoiceTotals := do
  requireFields [("quoteId", item.quoteId), ("documentHandle", item.documentHandle),
    ("documentHash", item.documentHash), ("consentVersion", item.consentVersion),
    ("recipientWallet", item.recipientWallet)]
  reject (item.quoteId ∈ t.quoteIds) .duplicateQuote
  let amount ← parseAmount item.amountAtomic
  let owner ← parseAmount item.ownerAmountAtomic
  let platform ← parseAmount item.platformAmountAtomic
  reject (amount = 0 ∨ checkedAdd Store.u64Max owner platform ≠ some amount) .totalMismatch
  let ceiling := maximumPlatformShare amount
  reject (ceiling < platform) .platformFeeTooHigh
  let maximumPlatformTotal ← orReject (checkedAdd u128Max t.maximumPlatformTotal ceiling)
    .amountOverflow
  let lineTotal ← orReject (checkedAdd Store.u64Max t.lineTotal amount) .amountOverflow
  let linePlatformTotal ← orReject (checkedAdd Store.u64Max t.linePlatformTotal platform)
    .amountOverflow
  return ⟨lineTotal, linePlatformTotal, maximumPlatformTotal, item.quoteId :: t.quoteIds⟩

def validateItems (t : InvoiceTotals) :
    List SettlementInvoiceLineItem → Except SettlementInvoiceError InvoiceTotals
  | [] => .ok t
  | item :: rest => do
    let t' ← validateItem t item
    validateItems t' rest

namespace SettlementInvoice

variable (invoice : SettlementInvoice)

def validate : Except SettlementInvoiceError Unit := do
  requireFields [("scheme", invoice.scheme), ("settlementMode", invoice.settlementMode),
    ("jobId", invoice.jobId), ("payer", invoice.payer), ("authorization", invoice.authorization),
    ("refundAddress", invoice.refundAddress), ("queryHash", invoice.queryHash),
    ("documentBundleRoot", invoice.documentBundleRoot), ("network", invoice.network),
    ("asset", invoice.asset), ("deliveryPolicy", invoice.deliveryPolicy)]
  let total ← parseAmount invoice.totalAmountAtomic
  let platformTotal ← parseAmount invoice.platformFeeAtomic
  let t ← validateItems ⟨0, 0, 0, []⟩ invoice.lineItems
  reject (t.lineTotal ≠ total) .totalMismatch
  reject (t.linePlatformTotal ≠ platformTotal) .platformFeeMismatch
  reject (invoice.lineItems = [] ∧ (total ≠ 0 ∨ platformTotal ≠ 0)) .totalMismatch
  reject (t.maximumPlatformTotal < platformTotal) .platformFeeTooHigh

end SettlementInvoice

end Validate

section Hash

-- an SHA-256 implementation
abbrev Sha256 := List UInt8 → List UInt8

def hexDigest (sha256 : Sha256) (text : String) : String :=
  String.ofList (hexText (sha256 (text.toList.flatMap String.utf8EncodeChar)))

def SettlementInvoiceLineItem.toValue (item : SettlementInvoiceLineItem) : Value :=
  .object [("quoteId", .string item.quoteId), ("documentHandle", .string item.documentHandle),
    ("documentHash", .string item.documentHash),
    ("documentVersion", .number item.documentVersion.toNat),
    ("consentVersion", .string item.consentVersion),
    ("recipientWallet", .string item.recipientWallet),
    ("amountAtomic", .string item.amountAtomic),
    ("ownerAmountAtomic", .string item.ownerAmountAtomic),
    ("platformAmountAtomic", .string item.platformAmountAtomic)]

namespace SettlementInvoice

variable (invoice : SettlementInvoice)

def toValue : Value :=
  .object [("scheme", .string invoice.scheme), ("settlementMode", .string invoice.settlementMode),
    ("jobId", .string invoice.jobId), ("payer", .string invoice.payer),
    ("authorization", .string invoice.authorization),
    ("refundAddress", .string invoice.refundAddress), ("queryHash", .string invoice.queryHash),
    ("documentBundleRoot", .string invoice.documentBundleRoot),
    ("network", .string invoice.network), ("asset", .string invoice.asset),
    ("totalAmountAtomic", .string invoice.totalAmountAtomic),
    ("platformFeeAtomic", .string invoice.platformFeeAtomic),
    ("expiresAt", .number invoice.expiresAt.toNat),
    ("deliveryPolicy", .string invoice.deliveryPolicy),
    ("lineItems", .array (invoice.lineItems.map SettlementInvoiceLineItem.toValue))]

def hash (sha256 : Sha256) (serde : SerdeJson) : Except SettlementInvoiceError String := do
  invoice.validate
  return hexDigest sha256 (canonicalJsonRust serde invoice.toValue)

end SettlementInvoice

end Hash

end Obulus.Hosted
