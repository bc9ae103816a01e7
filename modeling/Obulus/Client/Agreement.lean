import Mathlib.Data.List.Forall2
import Obulus.Client.SettlementProgram
import Obulus.Store.Encoding

namespace Obulus.Client

open Foundation Settlement Store

variable {web3 : Web3} {args : CreateOnchainInvoiceArgs} {accounts : CreateAndFundAccounts}
  {item : OnchainInvoiceLineItem} {bytes : List UInt8} {value field field' : String}

section Fields

theorem hex32_eq_ok {b : Bytes32} (h : hex32 value field = .ok b) :
    isHexDigest value = true ∧ b.toList = hexPairs value.toList := by
  unfold hex32 at h
  split at h
  · next hdigest =>
    cases h
    exact ⟨hdigest, by simp [Vector.toList]⟩
  · cases h

theorem hex32_injective {value' : String} {b : Bytes32} (h : hex32 value field = .ok b)
    (h' : hex32 value' field' = .ok b) : value = value' := by
  obtain ⟨hdigest, hbytes⟩ := hex32_eq_ok h
  obtain ⟨hdigest', hbytes'⟩ := hex32_eq_ok h'
  exact hexPairs_injective hdigest hdigest' (hbytes.symm.trans hbytes')

def zeroKey : Pubkey := Vector.replicate 32 0

def zeroDigest : String := String.ofList (List.replicate 64 '0')

theorem hex32_zeroDigest : hex32 zeroDigest field = .ok zeroKey := by
  have hdigest : isHexDigest zeroDigest = true := by decide
  have hpairs : (hexPairs zeroDigest.toList).toArray = (Vector.replicate 32 (0 : UInt8)).toArray := by
    decide
  unfold hex32 zeroKey
  rw [dif_pos hdigest]
  congr 1

theorem isZero_iff {b : Bytes32} : isZero b = true ↔ b = zeroKey := by
  constructor
  · intro h
    apply Vector.ext
    intro i hi
    simp only [isZero, List.all_eq_true, decide_eq_true_eq] at h
    rw [zeroKey, Vector.getElem_replicate]
    exact h _ (by simp)
  · rintro rfl
    simp [isZero, zeroKey]

theorem isZero_hex32 {b : Bytes32} (h : hex32 value field = .ok b) :
    isZero b = true ↔ value = zeroDigest := by
  rw [isZero_iff]
  constructor
  · rintro rfl
    have hzero : hex32 zeroDigest field = .ok zeroKey := hex32_zeroDigest
    exact hex32_injective h hzero
  · rintro rfl
    rw [hex32_zeroDigest] at h
    cases h
    rfl

theorem u32_eq_ok {x : Number} (h : u32 x = .ok bytes) :
    ∃ n : UInt32, x = .integer n.toNat ∧ bytes = Codec.u32.encode n := by
  simp only [u32, bind_eq_ok, reject_eq_ok, orReject_eq_ok, exists_const, not_or, not_lt,
    pure_eq_ok] at h
  obtain ⟨n, hn, ⟨hlow, hhigh⟩, rfl⟩ := h
  obtain ⟨rfl, -, -⟩ := Number.safeInteger_eq_some.mp hn
  have hnat : (UInt32.ofNat n.toNat).toNat = n.toNat := UInt32.toNat_ofNat_of_lt (by
    simp only [UInt32.size]
    omega)
  refine ⟨UInt32.ofNat n.toNat, ?_, ?_⟩
  · rw [hnat, Int.toNat_of_nonneg hlow]
  · simp [Codec.u32, Codec.fixed, hnat]

theorem parseAtomic_le {n : Nat} (h : parseAtomic value = .ok n) : n < 2 ^ 64 := by
  simp only [parseAtomic, bind_eq_ok, reject_eq_ok, exists_const, not_lt, pure_eq_ok] at h
  obtain ⟨-, hle, rfl⟩ := h
  omega

theorem u64_eq_ok (h : u64 value = .ok bytes) :
    ∃ n : UInt64, parseAtomic value = .ok n.toNat ∧ bytes = Codec.u64.encode n := by
  simp only [u64, bind_eq_ok, pure_eq_ok] at h
  obtain ⟨n, hn, rfl⟩ := h
  have hnat : (UInt64.ofNat n).toNat = n := UInt64.toNat_ofNat_of_lt (parseAtomic_le hn)
  refine ⟨UInt64.ofNat n, ?_, ?_⟩
  · rw [hnat, hn]
  · simp [Codec.u64, Codec.fixed, hnat]

theorem i64_eq_ok {x : Number} (h : i64 x = .ok bytes) :
    ∃ n : Int64, x = .integer n.toInt ∧ bytes = Codec.i64.encode n := by
  simp only [i64, bind_eq_ok, orReject_eq_ok, pure_eq_ok] at h
  obtain ⟨n, hn, rfl⟩ := h
  obtain ⟨rfl, hlow, hhigh⟩ := Number.safeInteger_eq_some.mp hn
  simp only [maxSafeInteger] at hlow hhigh
  refine ⟨Int64.ofInt n, ?_, ?_⟩
  · rw [Int64.toInt_ofInt_of_le (by omega) (by omega)]
  · have hnat : (Int64.ofInt n).toUInt64.toNat = (n % 2 ^ 64).toNat := by
      have hvec : (Int64.ofInt n).toUInt64.toNat = (BitVec.ofInt 64 n).toNat := rfl
      rw [hvec, BitVec.toNat_ofInt]
      rfl
    simp [Codec.i64, Codec.imap, Codec.u64, Codec.fixed, hnat]

end Fields

section Items

structure SameItem (web3 : Web3) (item : OnchainInvoiceLineItem) (li : InvoiceLineItem) : Prop where
  recipient : web3.publicKey item.recipientTokenAccount = .ok li.recipientTokenAccount
  hash : hex32 item.documentHash "document hash" = .ok li.documentHash
  version : item.documentVersion = .integer li.documentVersion.toNat
  amount : parseAtomic item.amountAtomic = .ok li.amount.toNat
  kind : li.kind = item.kind.byte

theorem encodeLineItem_eq_ok (h : encodeLineItem web3 item = .ok bytes) :
    ∃ li, SameItem web3 item li ∧ bytes = InvoiceLineItem.codec.encode li := by
  simp only [encodeLineItem, bind_eq_ok, pure_eq_ok] at h
  obtain ⟨recipient, hrecipient, hash, hhash, version, hversion, amount, hamount, rfl⟩ := h
  obtain ⟨v, hv, rfl⟩ := u32_eq_ok hversion
  obtain ⟨n, hn, rfl⟩ := u64_eq_ok hamount
  exact ⟨⟨recipient, hash, v, n, item.kind.byte⟩, ⟨hrecipient, hhash, hv, hn, rfl⟩, rfl⟩

theorem encodeLineItems_eq_ok {items : List OnchainInvoiceLineItem} {chunks : List (List UInt8)}
    (h : items.mapM (encodeLineItem web3) = .ok chunks) :
    ∃ lis, List.Forall₂ (SameItem web3) items lis ∧
      chunks.flatten = InvoiceLineItem.codec.encodeMany lis := by
  induction items generalizing chunks with
  | nil =>
    simp only [List.mapM_nil, pure_eq_ok] at h
    exact ⟨[], .nil, by simp [← h, Codec.encodeMany]⟩
  | cons item items ih =>
    simp only [List.mapM_cons, bind_eq_ok, pure_eq_ok] at h
    obtain ⟨bytes, hbytes, chunks, hchunks, rfl⟩ := h
    obtain ⟨li, hsame, rfl⟩ := encodeLineItem_eq_ok hbytes
    obtain ⟨lis, hall, heq⟩ := ih hchunks
    exact ⟨li :: lis, .cons hsame hall, by simp [Codec.encodeMany, heq]⟩

structure SameArguments (web3 : Web3) (args : CreateOnchainInvoiceArgs) (a : CreateInvoiceArgs) :
    Prop where
  invoiceHash : hex32 args.invoiceHash "invoice hash" = .ok a.invoiceHash
  queryHash : hex32 args.queryHash "query hash" = .ok a.queryHash
  bundleRoot : hex32 args.bundleRoot "bundle root" = .ok a.bundleRoot
  authorization : web3.publicKey args.authorization = .ok a.authorization
  disputeResolver : web3.publicKey args.disputeResolver = .ok a.disputeResolver
  totalAmount : parseAtomic args.totalAmountAtomic = .ok a.totalAmount.toNat
  platformFee : parseAtomic args.platformFeeAtomic = .ok a.platformFee.toNat
  expiresAt : args.expiresAtUnixSeconds = .integer a.expiresAt.toInt
  disputeWindow : args.disputeWindowSeconds = .integer a.disputeWindowSeconds.toNat
  lineItems : List.Forall₂ (SameItem web3) args.lineItems a.lineItems.toList

theorem createAndFundData_eq_ok (h : createAndFundData web3 args = .ok bytes) :
    ∃ a, SameArguments web3 args a ∧ bytes = (SettlementInstruction.createAndFund a).encode := by
  simp only [createAndFundData, bind_eq_ok, pure_eq_ok] at h
  obtain ⟨invoiceHash, hinvoice, queryHash, hquery, bundleRoot, hroot, authorization, hauth,
    disputeResolver, hresolver, total, htotal, fee, hfee, expires, hexpires, window, hwindow, count,
    hcount, chunks, hchunks, rfl⟩ := h
  obtain ⟨totalAmount, htotal', rfl⟩ := u64_eq_ok htotal
  obtain ⟨platformFee, hfee', rfl⟩ := u64_eq_ok hfee
  obtain ⟨expiresAt, hexpires', rfl⟩ := i64_eq_ok hexpires
  obtain ⟨disputeWindow, hwindow', rfl⟩ := u32_eq_ok hwindow
  obtain ⟨n, hn, rfl⟩ := u32_eq_ok hcount
  obtain ⟨lis, hall, hflat⟩ := encodeLineItems_eq_ok hchunks
  have hlen : lis.length = n.toNat := by
    rw [← hall.length_eq]
    exact Int.natCast_inj.mp (Number.integer.inj hn)
  have hlt : lis.length < 2 ^ 32 := by
    rw [hlen]
    exact UInt32.toNat_lt n
  refine ⟨⟨invoiceHash, queryHash, bundleRoot, authorization, disputeResolver, totalAmount,
    platformFee, expiresAt, disputeWindow, ⟨lis, hlt⟩⟩, ⟨hinvoice, hquery, hroot, hauth, hresolver,
    htotal', hfee', hexpires', hwindow', hall⟩, ?_⟩
  rw [hflat, ← UInt32.ofNat_toNat (x := n), ← hlen]
  rfl

end Items

section Tally

variable {items : List OnchainInvoiceLineItem} {li : InvoiceLineItem} {lis : List InvoiceLineItem}
  {t u : InvoiceTally} {t' u' : LineTotals}

def LineItemClear (li : InvoiceLineItem) : Prop :=
  isZero li.recipientTokenAccount = false ∧ isZero li.documentHash = false

-- an identity text of the client's set and the key of the program's set it stands for
def Names (text : String) (identity : Bytes32 × UInt32 × UInt8) : Prop :=
  ∃ item li, SameItem web3 item li ∧ identity = (li.documentHash, li.documentVersion, li.kind) ∧
    text = identityOf item li.documentVersion.toNat

structure SameTally (web3 : Web3) (t : InvoiceTally) (t' : LineTotals) : Prop where
  total : t.lineTotal = t'.total.toNat
  platform : t.platformTotal = t'.platformTotal.toNat
  fees : t.platformFeeItems = t'.protocolFeeItems
  identities : ∀ identity ∈ t'.documentIdentities, ∃ text ∈ t.identities,
    @Names web3 text identity

theorem checkedAdd_of_lt {a b : UInt64} (h : a.toNat + b.toNat < 2 ^ 64) :
    ∃ c, UInt64.checkedAdd a b = some c ∧ c.toNat = a.toNat + b.toNat := by
  have hsum : UInt64.checkedAdd a b = some (UInt64.ofNat (a.toNat + b.toNat)) := by
    simp only [UInt64.checkedAdd, if_pos h]
  exact ⟨_, hsum, UInt64.toNat_of_checkedAdd hsum⟩

theorem kind_protocolFee (h : SameItem web3 item li) :
    item.kind = .protocolFee ↔ li.kind = 1 := by
  rw [h.kind]
  cases item.kind <;> simp [LineItemKind.byte]

theorem kind_le (h : SameItem web3 item li) : ¬li.kind > 1 := by
  rw [h.kind]
  cases item.kind <;> simp [LineItemKind.byte]

theorem identity_new {texts : List String} {identities : List (Bytes32 × UInt32 × UInt8)}
    (hnames : ∀ identity ∈ identities, ∃ text ∈ texts, @Names web3 text identity)
    (h : SameItem web3 item li) (hnew : identityOf item li.documentVersion.toNat ∉ texts) :
    (li.documentHash, li.documentVersion, li.kind) ∉ identities := by
  intro hmem
  obtain ⟨text, htext, item', li', hsame, heq, rfl⟩ := hnames _ hmem
  simp only [Prod.mk.injEq] at heq
  obtain ⟨hhash, hversion, hkind⟩ := heq
  have hdocument : item.documentHash = item'.documentHash := by
    have hsame' := hsame.hash
    rw [← hhash] at hsame'
    exact hex32_injective h.hash hsame'
  have hkinds : item.kind.byte = item'.kind.byte := by
    rw [← h.kind, ← hsame.kind, hkind]
  apply hnew
  rw [identityOf, hdocument, hversion, hkinds]
  exact htext

structure ItemStep (web3 : Web3) (t : InvoiceTally) (item : OnchainInvoiceLineItem)
    (li : InvoiceLineItem) (u : InvoiceTally) : Prop where
  positive : li.amount ≠ 0
  fresh : identityOf item li.documentVersion.toNat ∉ t.identities
  total : u.lineTotal = t.lineTotal + li.amount.toNat
  platform : u.platformTotal = t.platformTotal + if li.kind = 1 then li.amount.toNat else 0
  fees : u.platformFeeItems = t.platformFeeItems + if li.kind = 1 then 1 else 0
  identities : u.identities = identityOf item li.documentVersion.toNat :: t.identities

theorem validateItem_eq_ok (hsame : SameItem web3 item li) (h : validateItem web3 t item = .ok u) :
    ItemStep web3 t item li u := by
  simp only [validateItem, bind_eq_ok, reject_eq_ok, orReject_eq_ok, exists_const] at h
  obtain ⟨_, -, _, -, version, hversion, -, amount, hamount, hpos, hnew, h⟩ := h
  obtain rfl : amount = li.amount.toNat := by
    rw [hsame.amount] at hamount
    exact (Except.ok.inj hamount).symm
  obtain rfl : version = li.documentVersion.toNat := by
    obtain ⟨hx, -⟩ := Number.safeInteger_eq_some.mp hversion
    rw [hsame.version] at hx
    exact (Number.integer.inj hx).symm
  have hzero : li.amount ≠ 0 := fun hz => hpos (by rw [hz]; rfl)
  split at h
  · next hkind =>
    have hone := (kind_protocolFee hsame).mp hkind
    simp only [pure_eq_ok] at h
    subst h
    exact ⟨hzero, hnew, rfl, by simp [hone], by simp [hone], rfl⟩
  · next hkind =>
    have hone : ¬li.kind = 1 := fun h1 => hkind ((kind_protocolFee hsame).mpr h1)
    simp only [pure_eq_ok] at h
    subst h
    exact ⟨hzero, hnew, rfl, by simp [hone], by simp [hone], rfl⟩

theorem tallyItem_of_step (hsame : SameItem web3 item li) (hclear : LineItemClear li)
    (htally : SameTally web3 t t') (h : ItemStep web3 t item li u)
    (htotal : u.lineTotal < 2 ^ 64) (hplatform : u.platformTotal < 2 ^ 64) :
    ∃ u', tallyItem t' li = .ok u' ∧ SameTally web3 u u' := by
  have hfresh := identity_new htally.identities hsame h.fresh
  have hident : ∀ identity ∈ (li.documentHash, li.documentVersion, li.kind) :: t'.documentIdentities,
      ∃ text ∈ u.identities, @Names web3 text identity := by
    intro identity hmem
    rw [h.identities]
    rcases List.mem_cons.mp hmem with rfl | hmem
    · exact ⟨_, List.mem_cons_self, item, li, hsame, rfl, rfl⟩
    · obtain ⟨text, htext, hnames⟩ := htally.identities identity hmem
      exact ⟨text, List.mem_cons_of_mem _ htext, hnames⟩
  obtain ⟨total, hsum, htot⟩ : ∃ c, UInt64.checkedAdd t'.total li.amount = some c ∧
      c.toNat = t'.total.toNat + li.amount.toNat := by
    apply checkedAdd_of_lt
    rw [← htally.total, ← h.total]
    exact htotal
  have hguards : ¬(li.amount = 0 ∨ li.kind > 1 ∨ isZero li.recipientTokenAccount = true ∨
      isZero li.documentHash = true) := by
    rintro (hz | hk | hr | hd)
    · exact h.positive hz
    · exact kind_le hsame hk
    · exact absurd hr (by simp [hclear.1])
    · exact absurd hd (by simp [hclear.2])
  have htotal' := h.total
  have hplatform' := h.platform
  have hfees' := h.fees
  rw [htally.total] at htotal'
  rw [htally.platform] at hplatform'
  rw [htally.fees] at hfees'
  by_cases hone : li.kind = 1
  · simp only [hone, if_true] at hplatform' hfees'
    obtain ⟨platform, hplat, hplatsum⟩ := checkedAdd_of_lt (hplatform' ▸ hplatform)
    refine ⟨⟨total, platform, _, t'.protocolFeeItems + 1⟩, ?_,
      ⟨htotal'.trans htot.symm, hplatform'.trans hplatsum.symm, hfees', hident⟩⟩
    simp only [tallyItem, bind_eq_ok, reject_eq_ok, orReject_eq_ok, exists_const]
    refine ⟨hguards, hfresh, total, hsum, ?_⟩
    simp only [hone, if_true, bind_eq_ok, orReject_eq_ok, pure_eq_ok]
    exact ⟨platform, hplat, rfl⟩
  · simp only [hone, if_false, Nat.add_zero] at hplatform' hfees'
    refine ⟨⟨total, t'.platformTotal, _, t'.protocolFeeItems⟩, ?_,
      ⟨htotal'.trans htot.symm, hplatform', hfees', hident⟩⟩
    simp only [tallyItem, bind_eq_ok, reject_eq_ok, orReject_eq_ok, exists_const]
    refine ⟨hguards, hfresh, total, hsum, ?_⟩
    simp only [hone, if_false, pure_eq_ok]

theorem validateItems_le (hall : List.Forall₂ (SameItem web3) items lis)
    (h : validateItems web3 t items = .ok u) :
    t.lineTotal ≤ u.lineTotal ∧ t.platformTotal ≤ u.platformTotal := by
  induction hall generalizing t with
  | nil =>
    cases h
    exact ⟨le_rfl, le_rfl⟩
  | cons hsame _ ih =>
    simp only [validateItems, bind_eq_ok] at h
    obtain ⟨mid, hmid, h⟩ := h
    have hstep := validateItem_eq_ok hsame hmid
    have htotal := hstep.total
    have hplatform := hstep.platform
    obtain ⟨hle, hle'⟩ := ih h
    omega

theorem tally_of_validateItems (hall : List.Forall₂ (SameItem web3) items lis)
    (hclear : ∀ li ∈ lis, LineItemClear li) (htally : SameTally web3 t t')
    (h : validateItems web3 t items = .ok u) (htotal : u.lineTotal < 2 ^ 64)
    (hplatform : u.platformTotal < 2 ^ 64) :
    ∃ u', tally t' lis = .ok u' ∧ SameTally web3 u u' := by
  induction hall generalizing t t' with
  | nil =>
    cases h
    exact ⟨t', rfl, htally⟩
  | cons hsame hrest ih =>
    simp only [validateItems, bind_eq_ok] at h
    obtain ⟨mid, hmid, h⟩ := h
    have hstep := validateItem_eq_ok hsame hmid
    obtain ⟨hle, hle'⟩ := validateItems_le hrest h
    obtain ⟨mid', hmid', hsame'⟩ := tallyItem_of_step hsame (hclear _ List.mem_cons_self) htally hstep
      (by omega) (by omega)
    obtain ⟨u', hu', hfinal⟩ := ih (fun li hli => hclear li (List.mem_cons_of_mem _ hli)) hsame' h
    refine ⟨u', ?_, hfinal⟩
    simp only [tally, bind_eq_ok]
    exact ⟨mid', hmid', hu'⟩

theorem tally_clear (h : tally t' lis = .ok u') : ∀ li ∈ lis, LineItemClear li := by
  induction lis generalizing t' with
  | nil => simp
  | cons li lis ih =>
    simp only [tally, bind_eq_ok] at h
    obtain ⟨mid, hmid, h⟩ := h
    simp only [tallyItem, bind_eq_ok, reject_eq_ok, exists_const, not_or, Bool.not_eq_true] at hmid
    intro li' hli'
    rcases List.mem_cons.mp hli' with rfl | hli'
    · exact ⟨hmid.1.2.2.1, hmid.1.2.2.2⟩
    · exact ih h li' hli'

end Tally

section Agreement

variable {ix : TransactionInstruction} {a : CreateInvoiceArgs} {now : Int64} {e w : Int}

def Agrees (web3 : Web3) (args : CreateOnchainInvoiceArgs) (ix : TransactionInstruction)
    (now : Int64) : Prop :=
  ∃ a, SettlementInstruction.decode ix.data = some (.createAndFund a) ∧ SameArguments web3 args a ∧
    validateArgs a now = .ok ()

def highestSaturatedFee : Nat := (2 ^ 64 - 1) / 10000

structure Clear (web3 : Web3) (args : CreateOnchainInvoiceArgs) : Prop where
  digests : zeroDigest ∉
    [args.invoiceHash, args.queryHash, args.bundleRoot] ++ args.lineItems.map (·.documentHash)
  keys : ∀ key ∈ [args.authorization, args.disputeResolver] ++
    args.lineItems.map (·.recipientTokenAccount), web3.publicKey key ≠ .ok zeroKey
  fee : ∀ fee, parseAtomic args.platformFeeAtomic = .ok fee → fee ≤ highestSaturatedFee

structure Economics (web3 : Web3) (args : CreateOnchainInvoiceArgs) (a : CreateInvoiceArgs) :
    Prop where
  windowMin : 60 ≤ a.disputeWindowSeconds.toNat
  windowMax : a.disputeWindowSeconds.toNat ≤ 86400
  items : 0 < a.lineItems.toList.length ∧ a.lineItems.toList.length ≤ 20
  total : a.totalAmount.toNat ≠ 0
  cap : a.platformFee.toNat * 10000 ≤ a.totalAmount.toNat * 1000
  tally : ∃ t, validateItems web3 ⟨0, 0, [], 0⟩ args.lineItems = .ok t ∧
    t.lineTotal = a.totalAmount.toNat ∧ t.platformTotal = a.platformFee.toNat ∧
    ¬((a.platformFee.toNat = 0 ∧ t.platformFeeItems ≠ 0) ∨
      (0 < a.platformFee.toNat ∧ t.platformFeeItems ≠ 1))

theorem economics_of_valid (hsame : SameArguments web3 args a) {v : Unit}
    (h : validateOnchainInvoice web3 args = .ok v) : Economics web3 args a := by
  simp only [validateOnchainInvoice, bind_eq_ok, reject_eq_ok, orReject_eq_ok, exists_const,
    not_or] at h
  obtain ⟨_, -, _, -, _, -, _, -, _, -, _, -, -, window, hwindow, ⟨hmin, hmax⟩, ⟨hsome, hmany⟩, total,
    htotal, fee, hfee, ⟨hzero, hcap⟩, t, ht, ⟨hline, hplatform⟩, hfees⟩ := h
  obtain rfl : total = a.totalAmount.toNat := by
    rw [hsame.totalAmount] at htotal
    exact (Except.ok.inj htotal).symm
  obtain rfl : fee = a.platformFee.toNat := by
    rw [hsame.platformFee] at hfee
    exact (Except.ok.inj hfee).symm
  obtain rfl : window = a.disputeWindowSeconds.toNat := by
    obtain ⟨hx, -⟩ := Number.safeInteger_eq_some.mp hwindow
    rw [hsame.disputeWindow] at hx
    exact (Number.integer.inj hx).symm
  have hlen := hsame.lineItems.length_eq
  simp only [minDisputeWindow, maxDisputeWindow, maxOnchainLineItems, maxOnchainProtocolFeeBps,
    not_lt, not_not] at hmin hmax hmany hcap hline hplatform
  exact ⟨by omega, by omega, by omega, hzero, hcap, t, ht, hline, hplatform, not_or.mpr hfees⟩

theorem toInt_saturatingAdd {window : UInt32} (h : now.toInt + window.toNat < 2 ^ 63) :
    (Int64.saturatingAdd now (Int64.ofU32 window)).toInt = now.toInt + window.toNat := by
  have hlow := now.le_toInt
  simp only [Int64.saturatingAdd, Int64.toInt_ofU32]
  rw [if_neg (by omega), if_neg (by omega)]
  exact Int64.toInt_ofInt_of_le (by omega) h

theorem toNat_saturatingMul (x y : UInt64) :
    (UInt64.saturatingMul x y).toNat = min (x.toNat * y.toNat) (2 ^ 64 - 1) := by
  unfold UInt64.saturatingMul
  split
  · next h =>
    have hnat : (UInt64.ofNat (x.toNat * y.toNat)).toNat = x.toNat * y.toNat :=
      UInt64.toNat_ofNat_of_lt h
    omega
  · next h =>
    have hnat : (UInt64.ofNat (2 ^ 64 - 1)).toNat = 2 ^ 64 - 1 := rfl
    omega

theorem feeCap_toNat (total : UInt64) :
    (UInt64.saturatingMul total maxProtocolFeeBps / 10000).toNat =
      min (total.toNat * 1000) (2 ^ 64 - 1) / 10000 := by
  rw [UInt64.toNat_div, toNat_saturatingMul]
  rfl

theorem clear_of_validateArgs (hsame : SameArguments web3 args a)
    (h : validateArgs a now = .ok ()) : Clear web3 args := by
  simp only [validateArgs, bind_eq_ok, reject_eq_ok, exists_const, not_or, Bool.not_eq_true] at h
  obtain ⟨⟨hinvoice, hquery, hroot, hauth, hresolver⟩, -, -, -, -, hcap, t, ht, -⟩ := h
  have hitems := tally_clear ht
  have hdigest {field value : String} {b : Bytes32} (hb : hex32 value field = .ok b)
      (hz : isZero b = false) : zeroDigest ≠ value := by
    rintro rfl
    rw [(isZero_hex32 hb).mpr rfl] at hz
    cases hz
  have hkey {value : String} {b : Pubkey} (hb : web3.publicKey value = .ok b)
      (hz : isZero b = false) : web3.publicKey value ≠ .ok zeroKey := by
    rw [hb]
    rintro heq
    rw [isZero_iff.mpr (Except.ok.inj heq)] at hz
    cases hz
  have hpair (item : OnchainInvoiceLineItem) (hmem : item ∈ args.lineItems) :
      ∃ li ∈ a.lineItems.toList, SameItem web3 item li := by
    obtain ⟨i, hi, rfl⟩ := List.getElem_of_mem hmem
    have hi' : i < a.lineItems.toList.length := hsame.lineItems.length_eq ▸ hi
    exact ⟨_, List.getElem_mem hi', hsame.lineItems.get hi hi'⟩
  refine ⟨?_, ?_, ?_⟩
  · simp only [List.mem_append, List.mem_cons, List.not_mem_nil, or_false, List.mem_map, not_or,
      not_exists, not_and]
    refine ⟨⟨hdigest hsame.invoiceHash hinvoice, hdigest hsame.queryHash hquery,
      hdigest hsame.bundleRoot hroot⟩, fun item hmem => ?_⟩
    obtain ⟨li, hli, hitem⟩ := hpair item hmem
    exact (hdigest hitem.hash (hitems li hli).2).symm
  · intro key hmem
    simp only [List.mem_append, List.mem_cons, List.not_mem_nil, or_false, List.mem_map] at hmem
    rcases hmem with (rfl | rfl) | ⟨item, hmem, rfl⟩
    · exact hkey hsame.authorization hauth
    · exact hkey hsame.disputeResolver hresolver
    · obtain ⟨li, hli, hitem⟩ := hpair item hmem
      exact hkey hitem.recipient (hitems li hli).1
  · intro fee hfee
    rw [hsame.platformFee] at hfee
    obtain rfl := Except.ok.inj hfee
    have hle := UInt64.le_iff_toNat_le.mp (UInt64.not_lt.mp hcap)
    rw [feeCap_toNat] at hle
    refine hle.trans ?_
    exact Nat.div_le_div_right (Nat.min_le_right _ _)

theorem validateArgs_of_clear (hsame : SameArguments web3 args a) (hecon : Economics web3 args a)
    (hclear : Clear web3 args)
    (hnow : now.toInt + a.disputeWindowSeconds.toNat < a.expiresAt.toInt) :
    validateArgs a now = .ok () := by
  obtain ⟨t, ht, hline, hplatform, hfees⟩ := hecon.tally
  have hdigest {field value : String} {b : Bytes32} (hb : hex32 value field = .ok b)
      (hne : zeroDigest ≠ value) : isZero b = false := by
    rw [Bool.eq_false_iff]
    exact fun hz => hne ((isZero_hex32 hb).mp hz).symm
  have hkey {value : String} {b : Pubkey} (hb : web3.publicKey value = .ok b)
      (hne : web3.publicKey value ≠ .ok zeroKey) : isZero b = false := by
    rw [Bool.eq_false_iff]
    intro hz
    rw [isZero_iff.mp hz] at hb
    exact hne hb
  have hdigests := hclear.digests
  have hkeys := hclear.keys
  simp only [List.mem_append, List.mem_cons, List.not_mem_nil, or_false, List.mem_map, not_or,
    not_exists, not_and] at hdigests
  obtain ⟨⟨hinvoice, hquery, hroot⟩, hdocuments⟩ := hdigests
  have hitems : ∀ li ∈ a.lineItems.toList, LineItemClear li := by
    intro li hli
    obtain ⟨i, hi, rfl⟩ := List.getElem_of_mem hli
    have hi' : i < args.lineItems.length := hsame.lineItems.length_eq ▸ hi
    have hitem := hsame.lineItems.get hi' hi
    have hmem := List.getElem_mem hi'
    have hrecipient := List.mem_map_of_mem (f := (·.recipientTokenAccount)) hmem
    refine ⟨hkey hitem.recipient (hkeys _ (List.mem_append_right _ hrecipient)),
      hdigest hitem.hash ?_⟩
    exact Ne.symm (hdocuments _ hmem)
  have hstart : SameTally web3 ⟨0, 0, [], 0⟩ ⟨0, 0, [], 0⟩ := ⟨rfl, rfl, rfl, by simp⟩
  obtain ⟨u, hu, htally⟩ := tally_of_validateItems hsame.lineItems hitems hstart ht
    (hline ▸ a.totalAmount.toNat_lt) (hplatform ▸ a.platformFee.toNat_lt)
  simp only [validateArgs, bind_eq_ok, reject_eq_ok, exists_const, not_or, Bool.not_eq_true]
  refine ⟨⟨hdigest hsame.invoiceHash hinvoice, hdigest hsame.queryHash hquery,
    hdigest hsame.bundleRoot hroot, hkey hsame.authorization (hkeys _ (by simp)),
    hkey hsame.disputeResolver (hkeys _ (by simp))⟩, ?_, ?_, ?_, ?_, ?_, u, hu, ?_, ?_⟩
  · refine ⟨UInt32.not_lt.mpr ?_, UInt32.not_lt.mpr ?_⟩
    · exact UInt32.le_iff_toNat_le.mpr hecon.windowMin
    · exact UInt32.le_iff_toNat_le.mpr hecon.windowMax
  · rw [Int64.le_iff_toInt_le, toInt_saturatingAdd (hnow.trans a.expiresAt.toInt_lt)]
    omega
  · refine ⟨fun hz => hecon.total (by rw [hz]; rfl), fun hnil => ?_⟩
    have hsome := hecon.items.1
    rw [hnil] at hsome
    cases hsome
  · exact not_lt.mpr hecon.items.2
  · rw [gt_iff_lt, UInt64.lt_iff_toNat_lt, feeCap_toNat, not_lt]
    have hfee := hclear.fee _ hsame.platformFee
    have hcap := hecon.cap
    simp only [highestSaturatedFee] at hfee
    omega
  · rw [not_not, not_not, ← UInt64.toNat_inj, ← UInt64.toNat_inj, ← htally.total, ← htally.platform]
    exact ⟨hline, hplatform⟩
  · rw [← htally.fees, gt_iff_lt, UInt64.lt_iff_toNat_lt, ← UInt64.toNat_inj]
    exact not_or.mp hfees

theorem client_encoder_agrees_iff
    (h : buildCreateAndFundInstruction web3 args accounts = .ok ix)
    (hexpires : args.expiresAtUnixSeconds = .integer e)
    (hwindow : args.disputeWindowSeconds = .integer w) (hnow : now.toInt + w < e) :
    Agrees web3 args ix now ↔ Clear web3 args := by
  simp only [buildCreateAndFundInstruction, bind_eq_ok, pure_eq_ok] at h
  obtain ⟨_, hvalid, _, -, data, hdata, _, -, _, -, rfl⟩ := h
  obtain ⟨a, hsame, rfl⟩ := createAndFundData_eq_ok hdata
  have hdecode : SettlementInstruction.decode (SettlementInstruction.createAndFund a).encode =
      some (.createAndFund a) :=
    SettlementInstruction.codec.tryFromSlice_encode (.createAndFund a)
  constructor
  · rintro ⟨a', -, hsame', hvalidate⟩
    exact clear_of_validateArgs hsame' hvalidate
  · intro hclear
    refine ⟨a, hdecode, hsame, ?_⟩
    apply validateArgs_of_clear hsame (economics_of_valid hsame hvalid) hclear
    rw [hsame.expiresAt] at hexpires
    rw [hsame.disputeWindow] at hwindow
    rw [Number.integer.inj hexpires, Number.integer.inj hwindow]
    exact hnow

end Agreement

section Sample

def tokenBytes : Array UInt8 :=
  #[6, 221, 246, 225, 215, 101, 161, 147, 217, 203, 225, 70, 206, 235, 121, 172, 28, 180, 133, 237,
    95, 91, 55, 145, 58, 140, 245, 133, 126, 255, 0, 169]

theorem tokenBytes_size : tokenBytes.size = 32 := rfl

def sampleWeb3 (invoice : Pubkey) : Web3 where
  publicKey value :=
    match decodeBase58 value with
    | none => .error "Non-base58 character"
    | some bytes =>
      if h : bytes.toArray.size = 32 then .ok ⟨bytes.toArray, h⟩
      else .error "Invalid public key input"
  toBase58 key := encodeBase58 key.toList
  findProgramAddress _ _ := .ok (invoice, 253)
  tokenProgramId := ⟨tokenBytes, tokenBytes_size⟩
  systemProgramId := zeroKey

def sampleKey : String := "EPjFWdd5AufqSSqeM2qN1xzybapC8G4wEGGkZwyTDt1v"

def sampleDigest (c : Char) : String := String.ofList (List.replicate 64 c)

def sampleArgs (invoiceHash : String) : CreateOnchainInvoiceArgs where
  invoiceHash := invoiceHash
  queryHash := sampleDigest '2'
  bundleRoot := sampleDigest '3'
  authorization := sampleKey
  disputeResolver := sampleKey
  totalAmountAtomic := "100"
  platformFeeAtomic := "10"
  expiresAtUnixSeconds := .integer 2000000000
  disputeWindowSeconds := .integer 300
  lineItems := [⟨sampleKey, sampleDigest 'a', .integer 3, "90", .contributor⟩,
    ⟨sampleKey, sampleDigest 'f', .integer 1, "10", .protocolFee⟩]

def sampleAccounts : CreateAndFundAccounts where
  programId := "ATokenGPvbdGVxr1b2hvZbsiqW5xWH25efTNsLJA8knL"
  payer := sampleKey
  payerTokenAccount := sampleKey
  escrowTokenAccount := sampleKey
  refundTokenAccount := sampleKey
  mint := sampleKey

-- the program addresses of the two invoices, both with bump 253
def onesInvoice : Pubkey :=
  #v[156, 95, 216, 227, 109, 160, 174, 159, 131, 211, 193, 148, 139, 227, 119, 92, 212, 42, 147, 205,
    159, 91, 251, 41, 48, 219, 131, 254, 26, 178, 93, 228]

def zerosInvoice : Pubkey :=
  #v[213, 67, 68, 30, 25, 125, 168, 202, 11, 192, 42, 219, 223, 58, 144, 71, 111, 73, 77, 42, 80,
    104, 2, 215, 40, 191, 172, 147, 172, 195, 26, 218]

theorem hex32_ofList {text : List Char} {b : Bytes32} (hlength : text.length = 64)
    (hdigits : text.all isHexDigit = true) (hpairs : (hexPairs text).toArray = b.toArray) :
    hex32 (String.ofList text) field = .ok b := by
  have hdigest : isHexDigest (String.ofList text) = true := by
    rw [isHexDigest, String.toList_ofList, hlength, hdigits]
    rfl
  rw [hex32, dif_pos hdigest]
  congr 1
  apply Vector.toArray_inj.mp
  change (hexPairs (String.ofList text).toList).toArray = b.toArray
  rw [String.toList_ofList, hpairs]

theorem hex32_sampleDigest {c : Char} {byte : UInt8} (hdigits : (List.replicate 64 c).all isHexDigit = true)
    (hpairs : hexPairs (List.replicate 64 c) = List.replicate 32 byte) :
    hex32 (sampleDigest c) field = .ok (Vector.replicate 32 byte) := by
  apply hex32_ofList List.length_replicate hdigits
  rw [hpairs, List.toArray_replicate, Vector.toArray_replicate]

theorem publicKey_ofList {text : List Char} {invoice key : Pubkey}
    (h : decodeBase58 (String.ofList text) = some key.toList) :
    (sampleWeb3 invoice).publicKey (String.ofList text) = .ok key := by
  have hkey : key.toList.toArray = key.toArray := Array.toArray_toList
  simp only [sampleWeb3, h]
  rw [dif_pos]
  · congr 1
  · rw [hkey]
    exact key.size_toArray

-- the key that sampleKey names
def sampleMint : Pubkey :=
  #v[198, 250, 122, 243, 190, 219, 173, 58, 61, 101, 243, 106, 171, 201, 116, 49, 177, 187, 228, 194,
    210, 246, 224, 228, 124, 166, 2, 3, 69, 47, 93, 97]

theorem sampleKey_read {invoice : Pubkey} : (sampleWeb3 invoice).publicKey sampleKey = .ok sampleMint := by
  refine publicKey_ofList ?_
  rw [decodeBase58_ofList]
  decide +kernel

theorem hex32_one : hex32 (sampleDigest '1') field = .ok (Vector.replicate 32 0x11) :=
  hex32_sampleDigest (by decide) (by decide)

theorem hex32_two : hex32 (sampleDigest '2') field = .ok (Vector.replicate 32 0x22) :=
  hex32_sampleDigest (by decide) (by decide)

theorem hex32_three : hex32 (sampleDigest '3') field = .ok (Vector.replicate 32 0x33) :=
  hex32_sampleDigest (by decide) (by decide)

theorem hex32_a : hex32 (sampleDigest 'a') field = .ok (Vector.replicate 32 0xaa) :=
  hex32_sampleDigest (by decide) (by decide)

theorem hex32_f : hex32 (sampleDigest 'f') field = .ok (Vector.replicate 32 0xff) :=
  hex32_sampleDigest (by decide) (by decide)

theorem onesInvoice_built : (buildCreateAndFundInstruction (sampleWeb3 onesInvoice)
    (sampleArgs (sampleDigest '1')) sampleAccounts).isOk = true := by
  simp only [buildCreateAndFundInstruction, validateOnchainInvoice, validateItems, validateItem,
    deriveInvoicePda, createAndFundData, encodeLineItem, createAndFundKeys, accountMeta, sampleArgs, sampleAccounts,
    List.mapM_cons, List.mapM_nil, sampleKey_read, hex32_one, hex32_two, hex32_three, hex32_a, hex32_f]
  decide +kernel

theorem zerosInvoice_built : (buildCreateAndFundInstruction (sampleWeb3 zerosInvoice)
    (sampleArgs zeroDigest) sampleAccounts).isOk = true := by
  simp only [buildCreateAndFundInstruction, validateOnchainInvoice, validateItems, validateItem,
    deriveInvoicePda, createAndFundData, encodeLineItem, createAndFundKeys, accountMeta, sampleArgs, sampleAccounts,
    List.mapM_cons, List.mapM_nil, sampleKey_read, hex32_zeroDigest, hex32_two, hex32_three, hex32_a, hex32_f]
  decide +kernel

theorem client_encoder_agrees_iff_sample :
    ∃ ix, buildCreateAndFundInstruction (sampleWeb3 onesInvoice) (sampleArgs (sampleDigest '1'))
        sampleAccounts = .ok ix ∧
      (Agrees (sampleWeb3 onesInvoice) (sampleArgs (sampleDigest '1')) ix 1000 ↔
        Clear (sampleWeb3 onesInvoice) (sampleArgs (sampleDigest '1'))) := by
  obtain ⟨ix, hix⟩ := ok_of_isOk onesInvoice_built
  exact ⟨ix, hix, client_encoder_agrees_iff hix rfl rfl (by decide)⟩

theorem zero_invoice_refused :
    ∃ web3 args accounts ix, buildCreateAndFundInstruction web3 args accounts = .ok ix ∧
      args.expiresAtUnixSeconds = .integer 2000000000 ∧ args.disputeWindowSeconds = .integer 300 ∧
      ¬Agrees web3 args ix 1000 := by
  obtain ⟨ix, hix⟩ := ok_of_isOk zerosInvoice_built
  refine ⟨_, _, _, ix, hix, rfl, rfl, ?_⟩
  rintro ⟨a, -, hsame, hvalid⟩
  apply (clear_of_validateArgs hsame hvalid).digests
  simp [sampleArgs]

end Sample

end Obulus.Client
