import Obulus.Foundation.Dictionary
import Obulus.Hosted.Commitment
import Obulus.Hosted.Stringify

namespace Obulus.Hosted.Orchestrator

open Foundation

-- numbers of the ledger's JSON, which are integers
structure LineItem where
  quoteId : String
  documentHandle : String
  documentHash : String
  documentVersion : Int
  consentVersion : String
  recipientWallet : String
  amountAtomic : String
  ownerAmountAtomic : String
  platformAmountAtomic : String
  deriving DecidableEq, Repr

structure Invoice where
  scheme : String
  settlementMode : String
  jobId : String
  payer : String
  authorization : String
  refundAddress : String
  queryHash : String
  documentBundleRoot : String
  network : String
  asset : String
  totalAmountAtomic : String
  platformFeeAtomic : String
  expiresAt : Int
  deliveryPolicy : String
  lineItems : List LineItem
  deriving DecidableEq, Repr

structure PayShResource where
  quoteId : String
  documentHandle : String
  recipientWallet : String
  amountAtomic : String
  ownerAmountAtomic : String
  platformAmountAtomic : String
  contentHash : String
  documentVersion : Int
  consentVersion : String
  deriving DecidableEq, Repr

structure ResearchJobPlan where
  id : String
  payer : String
  payTo : String
  network : String
  asset : String
  resources : List PayShResource
  invoice : Invoice
  invoiceHash : String
  deriving DecidableEq, Repr

section Canonical

def LineItem.toValue (item : LineItem) : Value :=
  .object [("quoteId", .string item.quoteId), ("documentHandle", .string item.documentHandle),
    ("documentHash", .string item.documentHash), ("documentVersion", .number item.documentVersion),
    ("consentVersion", .string item.consentVersion),
    ("recipientWallet", .string item.recipientWallet),
    ("amountAtomic", .string item.amountAtomic),
    ("ownerAmountAtomic", .string item.ownerAmountAtomic),
    ("platformAmountAtomic", .string item.platformAmountAtomic)]

def Invoice.toValue (invoice : Invoice) : Value :=
  .object [("scheme", .string invoice.scheme), ("settlementMode", .string invoice.settlementMode),
    ("jobId", .string invoice.jobId), ("payer", .string invoice.payer),
    ("authorization", .string invoice.authorization),
    ("refundAddress", .string invoice.refundAddress), ("queryHash", .string invoice.queryHash),
    ("documentBundleRoot", .string invoice.documentBundleRoot),
    ("network", .string invoice.network), ("asset", .string invoice.asset),
    ("totalAmountAtomic", .string invoice.totalAmountAtomic),
    ("platformFeeAtomic", .string invoice.platformFeeAtomic),
    ("expiresAt", .number invoice.expiresAt), ("deliveryPolicy", .string invoice.deliveryPolicy),
    ("lineItems", .array (invoice.lineItems.map LineItem.toValue))]

def hashSettlementInvoice (sha256 : Sha256) (invoice : Invoice) : String :=
  hexDigest sha256 (canonicalJson invoice.toValue)

end Canonical

section Checks

def requireEqual {α : Type} [DecidableEq α] (actual expected : α) (field : String) :
    Except String Unit :=
  reject (actual ≠ expected) s!"{field} does not match the research plan"

def requireHexDigest (value field : String) : Except String Unit :=
  reject (isHexDigest value = false) s!"{field} must be 32 bytes of lowercase hex"

def parseAtomic (value : String) : Except String Nat := do
  reject (isCanonicalDecimal value = false) "invoice contains an invalid atomic amount"
  return bigInt value

def sumAtomic (total : Nat) : List String → Except String Nat
  | [] => .ok total
  | value :: rest => do
    let amount ← parseAtomic value
    sumAtomic (total + amount) rest

def validateLineItem (item : LineItem) (resource : PayShResource) : Except String Unit := do
  requireEqual item.documentHandle resource.documentHandle "invoice document handle"
  requireEqual item.documentHash resource.contentHash "invoice document hash"
  requireEqual item.documentVersion resource.documentVersion "invoice document version"
  requireEqual item.consentVersion resource.consentVersion "invoice consent version"
  requireEqual item.recipientWallet resource.recipientWallet "invoice recipient"
  requireEqual item.amountAtomic resource.amountAtomic "invoice amount"
  requireEqual item.ownerAmountAtomic resource.ownerAmountAtomic "invoice owner amount"
  requireEqual item.platformAmountAtomic resource.platformAmountAtomic "invoice platform amount"
  requireHexDigest item.documentHash "document hash"
  let amount ← parseAtomic item.amountAtomic
  let owner ← parseAtomic item.ownerAmountAtomic
  let platform ← parseAtomic item.platformAmountAtomic
  reject (amount = 0 ∨ owner + platform ≠ amount) "invoice split does not equal line-item amount"

structure Matching where
  resources : Dictionary PayShResource
  invoiceTotal : Nat
  invoicePlatformFee : Nat

def matchItem (m : Matching) (item : LineItem) : Except String Matching := do
  let resource ← orReject (m.resources.lookup item.quoteId) "invoice contains an unknown quote"
  validateLineItem item resource
  let amount ← parseAtomic item.amountAtomic
  let platform ← parseAtomic item.platformAmountAtomic
  return ⟨m.resources.erase item.quoteId, m.invoiceTotal + amount, m.invoicePlatformFee + platform⟩

def matchItems (m : Matching) : List LineItem → Except String Matching
  | [] => .ok m
  | item :: rest => do
    let m' ← matchItem m item
    matchItems m' rest

def maxProtocolFeeBps : Nat := 1000

def feeCeiling (total items : Nat) : Nat := max ((total * maxProtocolFeeBps + 9999) / 10000) items

def validateSettlementInvoice (sha256 : Sha256) (plan : ResearchJobPlan) : Except String Unit := do
  let invoice := plan.invoice
  requireEqual invoice.scheme settlementInvoiceScheme "invoice scheme"
  requireEqual invoice.settlementMode hostedPayShMode "settlement mode"
  requireEqual invoice.jobId plan.id "invoice job"
  requireEqual invoice.payer plan.payer "invoice payer"
  requireEqual invoice.authorization plan.payTo "invoice authorization"
  requireEqual invoice.refundAddress plan.payer "invoice refund address"
  requireEqual invoice.network plan.network "invoice network"
  requireEqual invoice.asset plan.asset "invoice asset"
  requireEqual invoice.deliveryPolicy paidSnapshotOnly "invoice delivery policy"
  requireHexDigest invoice.queryHash "query hash"
  requireHexDigest invoice.documentBundleRoot "document bundle root"
  reject (maxSafeInteger < invoice.expiresAt ∨ invoice.expiresAt ≤ 0) "invoice expiry is invalid"
  reject (hashSettlementInvoice sha256 invoice ≠ plan.invoiceHash)
    "settlement invoice hash does not match the Rust commitment"
  let total ← parseAtomic invoice.totalAmountAtomic
  let platformFee ← parseAtomic invoice.platformFeeAtomic
  let pendingTotal ← sumAtomic 0 (plan.resources.map PayShResource.amountAtomic)
  reject (total ≠ pendingTotal) "invoice total does not match pending resources"
  reject (feeCeiling total invoice.lineItems.length < platformFee)
    "invoice platform fee exceeds the configured safety ceiling"
  let resources := Dictionary.ofEntries (plan.resources.map fun r => (r.quoteId, r))
  reject (resources.entries.length ≠ plan.resources.length ∨
      invoice.lineItems.length ≠ resources.entries.length)
    "invoice contains missing or duplicate evidence line items"
  let m ← matchItems ⟨resources, 0, 0⟩ invoice.lineItems
  reject (m.resources.entries ≠ []) "invoice omitted a pending resource"
  reject (m.invoiceTotal ≠ total) "invoice line items do not equal its total"
  reject (m.invoicePlatformFee ≠ platformFee)
    "invoice line-item fees do not equal its platform total"

end Checks

section Wire

def LineItem.ofWire (item : SettlementInvoiceLineItem) : LineItem :=
  ⟨item.quoteId, item.documentHandle, item.documentHash, nearestDouble item.documentVersion.toNat,
    item.consentVersion, item.recipientWallet, item.amountAtomic, item.ownerAmountAtomic,
    item.platformAmountAtomic⟩

def Invoice.ofWire (invoice : SettlementInvoice) : Invoice :=
  ⟨invoice.scheme, invoice.settlementMode, invoice.jobId, invoice.payer, invoice.authorization,
    invoice.refundAddress, invoice.queryHash, invoice.documentBundleRoot, invoice.network,
    invoice.asset, invoice.totalAmountAtomic, invoice.platformFeeAtomic,
    nearestDouble invoice.expiresAt.toNat, invoice.deliveryPolicy,
    invoice.lineItems.map LineItem.ofWire⟩

end Wire

end Obulus.Hosted.Orchestrator
