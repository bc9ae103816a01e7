import Obulus.Foundation.Checks
import Obulus.Foundation.Codec
import Obulus.Foundation.MachineInt

namespace Obulus.Settlement

open Foundation

abbrev Bytes32 := Vector UInt8 32

abbrev Pubkey := Bytes32

def isZero (value : Bytes32) : Bool :=
  value.toList.all fun byte => byte = 0

inductive SettlementError where
  | invalidInstruction
  | invalidAccount
  | invalidInvoicePda
  | invalidEconomics
  | protocolFeeTooHigh
  | invoiceExpired
  | invalidState
  | unauthorized
  | invalidTokenAccount
  | zeroCommitment
  | invalidLineItems
  | accountTooSmall
  | invalidDisputeWindow
  | disputeWindowState
  deriving DecidableEq, Repr

inductive InvoiceStatus where
  | funded
  | delivered
  | settled
  | disputed
  | refundApproved
  | refunded
  deriving DecidableEq, Repr

def InvoiceStatus.discriminant : InvoiceStatus → UInt8
  | .funded => 1
  | .delivered => 2
  | .settled => 3
  | .disputed => 4
  | .refundApproved => 5
  | .refunded => 6

def InvoiceStatus.ofDiscriminant (n : UInt8) : Option InvoiceStatus :=
  if n = 1 then some .funded
  else if n = 2 then some .delivered
  else if n = 3 then some .settled
  else if n = 4 then some .disputed
  else if n = 5 then some .refundApproved
  else if n = 6 then some .refunded
  else none

theorem InvoiceStatus.ofDiscriminant_discriminant (s : InvoiceStatus) :
    InvoiceStatus.ofDiscriminant s.discriminant = some s := by
  cases s <;> rfl

structure InvoiceLineItem where
  recipientTokenAccount : Bytes32
  documentHash : Bytes32
  documentVersion : UInt32
  amount : UInt64
  kind : UInt8
  deriving DecidableEq

structure CreateInvoiceArgs where
  invoiceHash : Bytes32
  queryHash : Bytes32
  bundleRoot : Bytes32
  authorization : Bytes32
  disputeResolver : Bytes32
  totalAmount : UInt64
  platformFee : UInt64
  expiresAt : Int64
  disputeWindowSeconds : UInt32
  lineItems : WireVec InvoiceLineItem
  deriving DecidableEq

inductive SettlementInstruction where
  | createAndFund (args : CreateInvoiceArgs)
  | acknowledgeDelivery (deliveryRoot : Bytes32)
  | settle
  | dispute
  | resolveDispute (refund : Bool)
  | refund
  deriving DecidableEq

structure InvoiceAccount where
  magic : Vector UInt8 8
  version : UInt8
  bump : UInt8
  status : InvoiceStatus
  payer : Bytes32
  authorization : Bytes32
  disputeResolver : Bytes32
  mint : Bytes32
  escrowTokenAccount : Bytes32
  refundTokenAccount : Bytes32
  invoiceHash : Bytes32
  queryHash : Bytes32
  bundleRoot : Bytes32
  deliveryRoot : Bytes32
  totalAmount : UInt64
  platformFee : UInt64
  expiresAt : Int64
  disputeWindowSeconds : UInt32
  createdAt : Int64
  deliveredAt : Int64
  settledAt : Int64
  lineItems : WireVec InvoiceLineItem
  deriving DecidableEq

section Wire

def bytes32 : Codec Bytes32 := Codec.byteArray 32

def InvoiceStatus.codec : Codec InvoiceStatus :=
  Codec.u8.refine ofDiscriminant discriminant ofDiscriminant_discriminant

def InvoiceLineItem.codec : Codec InvoiceLineItem :=
  (bytes32.pair (bytes32.pair (Codec.u32.pair (Codec.u64.pair Codec.u8)))).imap
    (fun (recipient, hash, version, amount, kind) => ⟨recipient, hash, version, amount, kind⟩)
    (fun item => (item.recipientTokenAccount, item.documentHash, item.documentVersion,
      item.amount, item.kind))
    (fun _ => rfl)

def CreateInvoiceArgs.codec : Codec CreateInvoiceArgs :=
  (bytes32.pair (bytes32.pair (bytes32.pair (bytes32.pair (bytes32.pair (Codec.u64.pair
    (Codec.u64.pair (Codec.i64.pair (Codec.u32.pair InvoiceLineItem.codec.vec))))))))).imap
    (fun (invoiceHash, queryHash, bundleRoot, authorization, disputeResolver, totalAmount,
        platformFee, expiresAt, disputeWindowSeconds, lineItems) =>
      { invoiceHash, queryHash, bundleRoot, authorization, disputeResolver, totalAmount,
        platformFee, expiresAt, disputeWindowSeconds, lineItems })
    (fun a => (a.invoiceHash, a.queryHash, a.bundleRoot, a.authorization, a.disputeResolver,
      a.totalAmount, a.platformFee, a.expiresAt, a.disputeWindowSeconds, a.lineItems))
    (fun _ => rfl)

def InvoiceAccount.codec : Codec InvoiceAccount :=
  ((Codec.byteArray 8).pair (Codec.u8.pair (Codec.u8.pair (InvoiceStatus.codec.pair
    (bytes32.pair (bytes32.pair (bytes32.pair (bytes32.pair (bytes32.pair (bytes32.pair
    (bytes32.pair (bytes32.pair (bytes32.pair (bytes32.pair (Codec.u64.pair (Codec.u64.pair
    (Codec.i64.pair (Codec.u32.pair (Codec.i64.pair (Codec.i64.pair (Codec.i64.pair
    InvoiceLineItem.codec.vec))))))))))))))))))))).imap
    (fun (magic, version, bump, status, payer, authorization, disputeResolver, mint,
        escrowTokenAccount, refundTokenAccount, invoiceHash, queryHash, bundleRoot, deliveryRoot,
        totalAmount, platformFee, expiresAt, disputeWindowSeconds, createdAt, deliveredAt,
        settledAt, lineItems) =>
      { magic, version, bump, status, payer, authorization, disputeResolver, mint,
        escrowTokenAccount, refundTokenAccount, invoiceHash, queryHash, bundleRoot, deliveryRoot,
        totalAmount, platformFee, expiresAt, disputeWindowSeconds, createdAt, deliveredAt,
        settledAt, lineItems })
    (fun s => (s.magic, s.version, s.bump, s.status, s.payer, s.authorization, s.disputeResolver,
      s.mint, s.escrowTokenAccount, s.refundTokenAccount, s.invoiceHash, s.queryHash,
      s.bundleRoot, s.deliveryRoot, s.totalAmount, s.platformFee, s.expiresAt,
      s.disputeWindowSeconds, s.createdAt, s.deliveredAt, s.settledAt, s.lineItems))
    (fun _ => rfl)

namespace SettlementInstruction

def encode : SettlementInstruction → List UInt8
  | createAndFund args => 0 :: CreateInvoiceArgs.codec.encode args
  | acknowledgeDelivery deliveryRoot => 1 :: bytes32.encode deliveryRoot
  | settle => [2]
  | dispute => [3]
  | resolveDispute approve => 4 :: Codec.bool.encode approve
  | refund => [5]

def decodePrefix : List UInt8 → Option (SettlementInstruction × List UInt8)
  | [] => none
  | tag :: rest =>
    if tag = 0 then (CreateInvoiceArgs.codec.decode rest).map fun (a, r) => (createAndFund a, r)
    else if tag = 1 then (bytes32.decode rest).map fun (a, r) => (acknowledgeDelivery a, r)
    else if tag = 2 then some (settle, rest)
    else if tag = 3 then some (dispute, rest)
    else if tag = 4 then (Codec.bool.decode rest).map fun (a, r) => (resolveDispute a, r)
    else if tag = 5 then some (refund, rest)
    else none

theorem decodePrefix_encode (i : SettlementInstruction) (rest : List UInt8) :
    decodePrefix (encode i ++ rest) = some (i, rest) := by
  cases i with
  | createAndFund args => simp [encode, decodePrefix, CreateInvoiceArgs.codec.decode_encode]
  | acknowledgeDelivery deliveryRoot => simp [encode, decodePrefix, bytes32.decode_encode]
  | settle => simp [encode, decodePrefix]
  | dispute => simp [encode, decodePrefix]
  | resolveDispute approve => simp [encode, decodePrefix, Codec.bool.decode_encode]
  | refund => simp [encode, decodePrefix]

def codec : Codec SettlementInstruction where
  encode := encode
  decode := decodePrefix
  decode_encode := decodePrefix_encode

def decode (data : List UInt8) : Option SettlementInstruction :=
  codec.tryFromSlice data

end SettlementInstruction

end Wire

def invoiceSeed : List UInt8 :=
  [111, 98, 117, 108, 117, 115, 45, 105, 110, 118, 111, 105, 99, 101]

def invoiceMagic : Vector UInt8 8 := #v[79, 66, 85, 76, 85, 83, 48, 49]

def invoiceVersion : UInt8 := 1

def maxLineItems : Nat := 20

def maxProtocolFeeBps : UInt64 := 1000

def minDisputeWindowSeconds : UInt32 := 60

def maxDisputeWindowSeconds : UInt32 := 86400

structure LineTotals where
  total : UInt64
  platformTotal : UInt64
  documentIdentities : List (Bytes32 × UInt32 × UInt8)
  protocolFeeItems : Nat

def tallyItem (t : LineTotals) (item : InvoiceLineItem) : Except SettlementError LineTotals := do
  reject (item.amount = 0 ∨ item.kind > 1 ∨ isZero item.recipientTokenAccount ∨
    isZero item.documentHash) .invalidLineItems
  let identity := (item.documentHash, item.documentVersion, item.kind)
  reject (identity ∈ t.documentIdentities) .invalidLineItems
  let total ← orReject (UInt64.checkedAdd t.total item.amount) .invalidEconomics
  let documentIdentities := identity :: t.documentIdentities
  if item.kind = 1 then
    let platformTotal ← orReject (UInt64.checkedAdd t.platformTotal item.amount) .invalidEconomics
    return ⟨total, platformTotal, documentIdentities, t.protocolFeeItems + 1⟩
  else
    return ⟨total, t.platformTotal, documentIdentities, t.protocolFeeItems⟩

def tally (t : LineTotals) : List InvoiceLineItem → Except SettlementError LineTotals
  | [] => .ok t
  | item :: rest => do
    let t' ← tallyItem t item
    tally t' rest

def validateArgs (args : CreateInvoiceArgs) (now : Int64) : Except SettlementError Unit := do
  reject (isZero args.invoiceHash ∨ isZero args.queryHash ∨ isZero args.bundleRoot ∨
    isZero args.authorization ∨ isZero args.disputeResolver) .zeroCommitment
  reject (args.disputeWindowSeconds < minDisputeWindowSeconds ∨
    args.disputeWindowSeconds > maxDisputeWindowSeconds) .invalidDisputeWindow
  reject (args.expiresAt ≤ Int64.saturatingAdd now (Int64.ofU32 args.disputeWindowSeconds))
    .invoiceExpired
  reject (args.totalAmount = 0 ∨ args.lineItems.toList = []) .invalidEconomics
  reject (args.lineItems.toList.length > maxLineItems) .invalidLineItems
  reject (args.platformFee > UInt64.saturatingMul args.totalAmount maxProtocolFeeBps / 10000)
    .protocolFeeTooHigh
  let t ← tally ⟨0, 0, [], 0⟩ args.lineItems.toList
  reject (t.total ≠ args.totalAmount ∨ t.platformTotal ≠ args.platformFee) .invalidEconomics
  reject ((args.platformFee = 0 ∧ t.protocolFeeItems ≠ 0) ∨
    (args.platformFee > 0 ∧ t.protocolFeeItems ≠ 1)) .invalidLineItems

def disputeDeadline (deliveredAt : Int64) (disputeWindowSeconds : UInt32) :
    Except SettlementError Int64 :=
  orReject (Int64.checkedAdd deliveredAt (Int64.ofU32 disputeWindowSeconds)) .invalidDisputeWindow

def refundIsAllowed (status : InvoiceStatus) (expiresAt now : Int64) : Bool :=
  status = .refundApproved || (status = .funded && now ≥ expiresAt)

theorem toInt_of_disputeDeadline {d deadline : Int64} {w : UInt32}
    (h : disputeDeadline d w = .ok deadline) : deadline.toInt = d.toInt + w.toNat := by
  have hc := Int64.toInt_of_checkedAdd (orReject_eq_ok.mp h)
  rwa [Int64.toInt_ofU32] at hc

def itemSum (items : List InvoiceLineItem) : Nat :=
  (items.map fun item => item.amount.toNat).sum

theorem tallyItem_total {t t' : LineTotals} {item : InvoiceLineItem}
    (h : tallyItem t item = .ok t') :
    t'.total.toNat = t.total.toNat + item.amount.toNat ∧ 0 < item.amount.toNat := by
  simp only [tallyItem, bind_eq_ok, reject_eq_ok, orReject_eq_ok, exists_const, not_or] at h
  obtain ⟨⟨hpos, -⟩, -, total, htotal, h⟩ := h
  have hsum := UInt64.toNat_of_checkedAdd htotal
  have hne : item.amount.toNat ≠ 0 := fun hz => hpos (UInt64.toNat_inj.mp hz)
  split at h
  · simp only [bind_eq_ok, orReject_eq_ok, pure_eq_ok] at h
    obtain ⟨_, -, rfl⟩ := h
    exact ⟨hsum, Nat.pos_of_ne_zero hne⟩
  · simp only [pure_eq_ok] at h
    subst h
    exact ⟨hsum, Nat.pos_of_ne_zero hne⟩

theorem tally_total {items : List InvoiceLineItem} {t t' : LineTotals}
    (h : tally t items = .ok t') :
    t'.total.toNat = t.total.toNat + itemSum items ∧ ∀ item ∈ items, 0 < item.amount.toNat := by
  induction items generalizing t with
  | nil =>
    simp only [tally, Except.ok.injEq] at h
    simp [itemSum, h]
  | cons item rest ih =>
    simp only [tally, bind_eq_ok] at h
    obtain ⟨mid, hm, h⟩ := h
    obtain ⟨hmid, hpos⟩ := tallyItem_total hm
    obtain ⟨hsum, hrest⟩ := ih h
    refine ⟨?_, ?_⟩
    · simp only [itemSum, List.map_cons, List.sum_cons] at hsum ⊢
      omega
    · intro i hi
      rcases List.mem_cons.mp hi with rfl | hi
      · exact hpos
      · exact hrest i hi

structure ArgsValid (args : CreateInvoiceArgs) : Prop where
  windowMin : minDisputeWindowSeconds ≤ args.disputeWindowSeconds
  windowMax : args.disputeWindowSeconds ≤ maxDisputeWindowSeconds
  nonempty : args.lineItems.toList ≠ []
  bounded : args.lineItems.toList.length ≤ maxLineItems
  positive : ∀ item ∈ args.lineItems.toList, 0 < item.amount.toNat
  balanced : itemSum args.lineItems.toList = args.totalAmount.toNat

theorem argsValid_of_validateArgs {args : CreateInvoiceArgs} {now : Int64} {u : Unit}
    (h : validateArgs args now = .ok u) : ArgsValid args := by
  simp only [validateArgs, bind_eq_ok, reject_eq_ok, exists_const, not_or] at h
  obtain ⟨-, ⟨hmin, hmax⟩, -, ⟨-, hne⟩, hlen, -, t, ht, ⟨htotal, -⟩, -⟩ := h
  obtain ⟨hsum, hpos⟩ := tally_total ht
  rw [not_not] at htotal
  refine ⟨?_, ?_, hne, ?_, hpos, ?_⟩
  · exact UInt32.not_lt.mp hmin
  · exact UInt32.not_lt.mp hmax
  · omega
  · rw [← htotal, hsum]
    simp

end Obulus.Settlement
