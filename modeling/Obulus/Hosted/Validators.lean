import Mathlib.Algebra.Order.BigOperators.Group.List
import Mathlib.Algebra.Order.Ring.Nat
import Obulus.Hosted.Amounts
import Obulus.Hosted.Ordering

namespace Obulus.Hosted

open Foundation Orchestrator

variable {sha256 : Sha256} {serde : SerdeJson} {invoice : SettlementInvoice} {item : SettlementInvoiceLineItem}
  {items : List SettlementInvoiceLineItem} {plan : ResearchJobPlan} {amounts : List Nat}
  {t t' : InvoiceTotals} {m m' : Matching}

section Ledger

structure Canonical (item : SettlementInvoiceLineItem) : Prop where
  amount : isCanonicalDecimal item.amountAtomic = true
  owner : isCanonicalDecimal item.ownerAmountAtomic = true
  platform : isCanonicalDecimal item.platformAmountAtomic = true

def amountOf (item : SettlementInvoiceLineItem) : Nat := bigInt item.amountAtomic
def ownerOf (item : SettlementInvoiceLineItem) : Nat := bigInt item.ownerAmountAtomic
def platformOf (item : SettlementInvoiceLineItem) : Nat := bigInt item.platformAmountAtomic

theorem checkedAdd_eq_some {limit a b c : Nat} :
    checkedAdd limit a b = some c ↔ a + b ≤ limit ∧ c = a + b := by
  simp only [checkedAdd, Option.ite_none_right_eq_some, Option.some.injEq]
  constructor
  · rintro ⟨hle, rfl⟩
    exact ⟨hle, rfl⟩
  · rintro ⟨hle, rfl⟩
    exact ⟨hle, rfl⟩

theorem validateItems_nodup {u : InvoiceTotals} (h : validateItems t items = .ok u) :
    (items.map SettlementInvoiceLineItem.quoteId).Nodup ∧
      ∀ i ∈ items, i.quoteId ∉ t.quoteIds := by
  induction items generalizing t with
  | nil => simp
  | cons i items ih =>
    simp only [validateItems, bind_eq_ok] at h
    obtain ⟨mid, hmid, h⟩ := h
    simp only [validateItem, bind_eq_ok, reject_eq_ok, exists_const, pure_eq_ok] at hmid
    obtain ⟨_, -, hfresh, _, -, _, -, _, -, -, -, _, -, _, -, _, -, rfl⟩ := hmid
    obtain ⟨hnodup, hnew⟩ := ih h
    refine ⟨?_, ?_⟩
    · rw [List.map_cons, List.nodup_cons]
      refine ⟨?_, hnodup⟩
      intro hmem
      obtain ⟨j, hj, heq⟩ := List.mem_map.mp hmem
      exact hnew j hj (heq ▸ List.mem_cons_self)
    · intro j hj
      rcases List.mem_cons.mp hj with rfl | hj
      · exact hfresh
      · exact fun hmem => hnew j hj (List.mem_cons_of_mem _ hmem)

theorem validate_nodup {u : Unit} (h : invoice.validate = .ok u) :
    (invoice.lineItems.map SettlementInvoiceLineItem.quoteId).Nodup := by
  simp only [SettlementInvoice.validate, bind_eq_ok] at h
  obtain ⟨_, -, _, -, _, -, _, hitems, -⟩ := h
  exact (validateItems_nodup hitems).1

structure ItemNamed (item : SettlementInvoiceLineItem) : Prop where
  quoteId : trim item.quoteId ≠ ""
  handle : trim item.documentHandle ≠ ""
  consent : trim item.consentVersion ≠ ""
  wallet : trim item.recipientWallet ≠ ""

-- what the orchestrator has checked of a line item
structure Checked (item : SettlementInvoiceLineItem) : Prop where
  canonical : Canonical item
  digest : isHexDigest item.documentHash = true
  positive : amountOf item ≠ 0
  split : ownerOf item + platformOf item = amountOf item

def itemsTotal (items : List SettlementInvoiceLineItem) : Nat := (items.map amountOf).sum

def itemsPlatform (items : List SettlementInvoiceLineItem) : Nat := (items.map platformOf).sum

theorem itemFields_named (hc : Checked item) (hn : ItemNamed item) :
    requireFields [("quoteId", item.quoteId), ("documentHandle", item.documentHandle),
      ("documentHash", item.documentHash), ("consentVersion", item.consentVersion),
      ("recipientWallet", item.recipientWallet)] = .ok () := by
  rw [requireFields_eq_ok]
  intro field hfield
  simp only [List.mem_cons, List.not_mem_nil, or_false] at hfield
  rcases hfield with rfl | rfl | rfl | rfl | rfl
  · exact hn.quoteId
  · exact hn.handle
  · exact hexDigest_named hc.digest
  · exact hn.consent
  · exact hn.wallet

theorem validateItem_of (hc : Checked item) (hn : ItemNamed item)
    (hshare : platformOf item ≤ maximumPlatformShare (amountOf item))
    (hfresh : item.quoteId ∉ t.quoteIds) (htotal : t.lineTotal + amountOf item < 2 ^ 64)
    (hplatform : t.linePlatformTotal + platformOf item < 2 ^ 64)
    (hmaximum : t.maximumPlatformTotal + amountOf item < 2 ^ 64) :
    validateItem t item = .ok ⟨t.lineTotal + amountOf item, t.linePlatformTotal + platformOf item,
      t.maximumPlatformTotal + maximumPlatformShare (amountOf item),
      item.quoteId :: t.quoteIds⟩ := by
  have hsplit := hc.split
  have hmax : Store.u64Max = 2 ^ 64 - 1 := rfl
  have hmax' : u128Max = 2 ^ 128 - 1 := rfl
  have hceiling : maximumPlatformShare (amountOf item) ≤ amountOf item := shareOf_le _ _
  simp only [validateItem, bind_eq_ok, reject_eq_ok, orReject_eq_ok, exists_const, pure_eq_ok,
    parseAmount_canonical hc.canonical.amount, parseAmount_canonical hc.canonical.owner,
    parseAmount_canonical hc.canonical.platform, checkedAdd_eq_some]
  refine ⟨(), itemFields_named hc hn, hfresh, _, ⟨rfl, ?_⟩, _, ⟨rfl, ?_⟩, _, ⟨rfl, ?_⟩, ?_, ?_, _,
    ⟨?_, rfl⟩, _, ⟨?_, rfl⟩, _, ⟨?_, rfl⟩, rfl⟩
  · change amountOf item < 2 ^ 64
    omega
  · change ownerOf item < 2 ^ 64
    omega
  · change platformOf item < 2 ^ 64
    omega
  · rw [not_or, not_not, checkedAdd_eq_some]
    refine ⟨hc.positive, ?_, hsplit.symm⟩
    change ownerOf item + platformOf item ≤ _
    omega
  · exact not_lt.mpr hshare
  · change t.maximumPlatformTotal + maximumPlatformShare (amountOf item) ≤ _
    omega
  · change t.lineTotal + amountOf item ≤ _
    omega
  · change t.linePlatformTotal + platformOf item ≤ _
    omega

theorem validateItems_of (hc : ∀ i ∈ items, Checked i) (hn : ∀ i ∈ items, ItemNamed i)
    (hshare : ∀ i ∈ items, platformOf i ≤ maximumPlatformShare (amountOf i))
    (hnodup : (items.map SettlementInvoiceLineItem.quoteId).Nodup)
    (hfresh : ∀ i ∈ items, i.quoteId ∉ t.quoteIds) (htotal : t.lineTotal + itemsTotal items < 2 ^ 64)
    (hplatform : t.linePlatformTotal + itemsPlatform items < 2 ^ 64)
    (hmaximum : t.maximumPlatformTotal + itemsTotal items < 2 ^ 64) :
    ∃ t', validateItems t items = .ok t' ∧ t'.lineTotal = t.lineTotal + itemsTotal items ∧
      t'.linePlatformTotal = t.linePlatformTotal + itemsPlatform items ∧
      t.maximumPlatformTotal + itemsPlatform items ≤ t'.maximumPlatformTotal := by
  induction items generalizing t with
  | nil => exact ⟨t, rfl, rfl, rfl, le_rfl⟩
  | cons i items ih =>
    simp only [itemsTotal, itemsPlatform, List.map_cons, List.sum_cons] at htotal hplatform hmaximum ih ⊢
    rw [List.map_cons, List.nodup_cons] at hnodup
    have hi : i ∈ i :: items := List.mem_cons_self
    have hrest : ∀ j ∈ items, j ∈ i :: items := fun j hj => List.mem_cons_of_mem _ hj
    have hceiling : maximumPlatformShare (amountOf i) ≤ amountOf i := shareOf_le _ _
    have hshare' := hshare i hi
    have hstep := validateItem_of (hc i hi) (hn i hi) hshare' (hfresh i hi) (by omega) (by omega)
      (by omega)
    have hfresh' : ∀ j ∈ items, j.quoteId ∉ i.quoteId :: t.quoteIds := by
      intro j hj hmem
      rcases List.mem_cons.mp hmem with heq | hmem
      · exact hnodup.1 (heq ▸ List.mem_map_of_mem hj)
      · exact hfresh j (hrest j hj) hmem
    obtain ⟨t', ht', htot, hplat, hmax⟩ := ih
      (t := ⟨t.lineTotal + amountOf i, t.linePlatformTotal + platformOf i,
        t.maximumPlatformTotal + maximumPlatformShare (amountOf i), i.quoteId :: t.quoteIds⟩)
      (fun j hj => hc j (hrest j hj)) (fun j hj => hn j (hrest j hj))
      (fun j hj => hshare j (hrest j hj)) hnodup.2 hfresh' (by simp only; omega)
      (by simp only; omega) (by simp only; omega)
    simp only at htot hplat hmax
    refine ⟨t', ?_, by omega, by omega, by omega⟩
    simp only [validateItems, bind_eq_ok]
    exact ⟨_, hstep, ht'⟩

theorem validateItems_terms {u : InvoiceTotals} (hc : ∀ i ∈ items, Checked i)
    (h : validateItems t items = .ok u) :
    ∀ i ∈ items, ItemNamed i ∧ platformOf i ≤ maximumPlatformShare (amountOf i) := by
  induction items generalizing t with
  | nil => simp
  | cons i items ih =>
    simp only [validateItems, bind_eq_ok] at h
    obtain ⟨mid, hmid, h⟩ := h
    have hi := hc i List.mem_cons_self
    simp only [validateItem, bind_eq_ok, reject_eq_ok, exists_const,
      parseAmount_canonical hi.canonical.amount, parseAmount_canonical hi.canonical.owner,
      parseAmount_canonical hi.canonical.platform] at hmid
    obtain ⟨_, hnamed, -, _, ⟨rfl, -⟩, _, -, _, ⟨rfl, -⟩, -, hshare, -⟩ := hmid
    rw [requireFields_eq_ok] at hnamed
    intro j hj
    rcases List.mem_cons.mp hj with rfl | hj
    · refine ⟨⟨?_, ?_, ?_, ?_⟩, not_lt.mp hshare⟩
      · exact hnamed ("quoteId", j.quoteId) (by simp)
      · exact hnamed ("documentHandle", j.documentHandle) (by simp)
      · exact hnamed ("consentVersion", j.consentVersion) (by simp)
      · exact hnamed ("recipientWallet", j.recipientWallet) (by simp)
    · exact ih (fun k hk => hc k (List.mem_cons_of_mem _ hk)) h j hj

-- what the orchestrator has checked of an invoice
structure Accepted (invoice : SettlementInvoice) : Prop where
  scheme : invoice.scheme = settlementInvoiceScheme
  mode : invoice.settlementMode = hostedPayShMode
  policy : invoice.deliveryPolicy = paidSnapshotOnly
  queryHash : isHexDigest invoice.queryHash = true
  bundleRoot : isHexDigest invoice.documentBundleRoot = true
  total : isCanonicalDecimal invoice.totalAmountAtomic = true
  fee : isCanonicalDecimal invoice.platformFeeAtomic = true
  items : ∀ i ∈ invoice.lineItems, Checked i
  nodup : (invoice.lineItems.map SettlementInvoiceLineItem.quoteId).Nodup
  totalSum : itemsTotal invoice.lineItems = bigInt invoice.totalAmountAtomic
  feeSum : itemsPlatform invoice.lineItems = bigInt invoice.platformFeeAtomic

structure Complete (invoice : SettlementInvoice) : Prop where
  named : ∀ value ∈ [invoice.jobId, invoice.payer, invoice.authorization, invoice.refundAddress,
    invoice.network, invoice.asset], trim value ≠ ""
  itemsNamed : ∀ i ∈ invoice.lineItems, ItemNamed i
  bounded : bigInt invoice.totalAmountAtomic < 2 ^ 64
  shares : ∀ i ∈ invoice.lineItems, platformOf i ≤ maximumPlatformShare (amountOf i)

theorem itemsPlatform_le (hc : ∀ i ∈ items, Checked i) : itemsPlatform items ≤ itemsTotal items := by
  apply List.sum_le_sum
  intro i hi
  have hsplit := (hc i hi).split
  omega

theorem validate_iff_complete (h : Accepted invoice) :
    invoice.validate = .ok () ↔ Complete invoice := by
  simp only [SettlementInvoice.validate, bind_eq_ok, reject_eq_ok, exists_const,
    parseAmount_canonical h.total, parseAmount_canonical h.fee]
  constructor
  · rintro ⟨_, hnamed, _, ⟨rfl, hlt⟩, _, -, t, ht, -⟩
    rw [requireFields_eq_ok] at hnamed
    have hterms := validateItems_terms h.items ht
    refine ⟨?_, fun i hi => (hterms i hi).1, hlt, fun i hi => (hterms i hi).2⟩
    intro value hvalue
    simp only [List.mem_cons, List.not_mem_nil, or_false] at hvalue
    rcases hvalue with rfl | rfl | rfl | rfl | rfl | rfl
    · exact hnamed ("jobId", invoice.jobId) (by simp)
    · exact hnamed ("payer", invoice.payer) (by simp)
    · exact hnamed ("authorization", invoice.authorization) (by simp)
    · exact hnamed ("refundAddress", invoice.refundAddress) (by simp)
    · exact hnamed ("network", invoice.network) (by simp)
    · exact hnamed ("asset", invoice.asset) (by simp)
  · intro hcomplete
    have hbounded := hcomplete.bounded
    have htotal := h.totalSum
    have hfee := h.feeSum
    have hle := itemsPlatform_le h.items
    obtain ⟨t, ht, hline, hplatform, hmaximum⟩ := validateItems_of (t := ⟨0, 0, 0, []⟩) h.items
      hcomplete.itemsNamed hcomplete.shares h.nodup (by simp) (by simp only; omega)
      (by simp only; omega) (by simp only; omega)
    simp only [Nat.zero_add] at hline hplatform hmaximum
    refine ⟨(), ?_, _, ⟨rfl, hbounded⟩, _, ⟨rfl, by omega⟩, t, ht, ?_, ?_, ?_, ?_⟩
    · rw [requireFields_eq_ok]
      have hnamed := hcomplete.named
      intro field hfield
      simp only [List.mem_cons, List.not_mem_nil, or_false] at hfield
      rcases hfield with rfl | rfl | rfl | rfl | rfl | rfl | rfl | rfl | rfl | rfl | rfl
      · simp only [h.scheme]
        decide
      · simp only [h.mode]
        decide
      · exact hnamed _ (by simp)
      · exact hnamed _ (by simp)
      · exact hnamed _ (by simp)
      · exact hnamed _ (by simp)
      · exact hexDigest_named h.queryHash
      · exact hexDigest_named h.bundleRoot
      · exact hnamed _ (by simp)
      · exact hnamed _ (by simp)
      · simp only [h.policy]
        decide
    · omega
    · omega
    · rintro ⟨hnil, hne⟩
      rw [hnil] at htotal hfee
      simp only [itemsTotal, itemsPlatform, List.map_nil, List.sum_nil] at htotal hfee
      omega
    · omega

end Ledger

section Orchestrator

def resourceOf (item : SettlementInvoiceLineItem) : PayShResource :=
  ⟨item.quoteId, item.documentHandle, item.recipientWallet, item.amountAtomic,
    item.ownerAmountAtomic, item.platformAmountAtomic, item.documentHash,
    nearestDouble item.documentVersion.toNat, item.consentVersion⟩

-- the plan the ledger sends with an invoice
def planOf (invoice : SettlementInvoice) (invoiceHash : String) : ResearchJobPlan :=
  ⟨invoice.jobId, invoice.payer, invoice.authorization, invoice.network, invoice.asset,
    invoice.lineItems.map resourceOf, .ofWire invoice, invoiceHash⟩

theorem requireEqual_eq_ok {α : Type} [DecidableEq α] {a b : α} {field : String} {u : Unit} :
    requireEqual a b field = .ok u ↔ a = b := by
  rw [requireEqual, reject_eq_ok, not_not]

theorem requireHexDigest_eq_ok {value field : String} {u : Unit} :
    requireHexDigest value field = .ok u ↔ isHexDigest value = true := by
  rw [requireHexDigest, reject_eq_ok, Bool.not_eq_false]

theorem parseAtomic_eq_ok {value : String} {n : Nat} :
    parseAtomic value = .ok n ↔ isCanonicalDecimal value = true ∧ n = bigInt value := by
  simp only [parseAtomic, bind_eq_ok, reject_eq_ok, exists_const, Bool.not_eq_false, pure_eq_ok]
  exact and_congr_right fun _ => eq_comm

theorem validateLineItem_checked {resource : PayShResource} {u : Unit}
    (h : validateLineItem (.ofWire item) resource = .ok u) : Checked item := by
  simp only [validateLineItem, bind_eq_ok, requireEqual_eq_ok, requireHexDigest_eq_ok,
    parseAtomic_eq_ok, reject_eq_ok, exists_const, LineItem.ofWire] at h
  obtain ⟨-, -, -, -, -, -, -, -, hdigest, _, ⟨hamount, rfl⟩, _, ⟨howner, rfl⟩, _, ⟨hplatform, rfl⟩,
    hsplit⟩ := h
  rw [not_or, not_not] at hsplit
  exact ⟨⟨hamount, howner, hplatform⟩, hdigest, hsplit.1, hsplit.2⟩

theorem validateLineItem_of (h : Checked item) :
    validateLineItem (.ofWire item) (resourceOf item) = .ok () := by
  have hsplit := h.split
  simp only [validateLineItem, bind_eq_ok, requireEqual_eq_ok, requireHexDigest_eq_ok,
    parseAtomic_eq_ok, reject_eq_ok, exists_const, LineItem.ofWire, resourceOf, true_and]
  refine ⟨h.digest, _, ⟨h.canonical.amount, rfl⟩, _, ⟨h.canonical.owner, rfl⟩, _,
    ⟨h.canonical.platform, rfl⟩, ?_⟩
  rw [not_or, not_not]
  exact ⟨h.positive, hsplit⟩

structure Matched (m m' : Matching) (items : List SettlementInvoiceLineItem) : Prop where
  checked : ∀ i ∈ items, Checked i
  nodup : (items.map SettlementInvoiceLineItem.quoteId).Nodup
  known : ∀ i ∈ items, i.quoteId ∈ m.resources
  total : m'.invoiceTotal = m.invoiceTotal + itemsTotal items
  fee : m'.invoicePlatformFee = m.invoicePlatformFee + itemsPlatform items

theorem matchItems_matched (h : matchItems m (items.map LineItem.ofWire) = .ok m') :
    Matched m m' items := by
  induction items generalizing m with
  | nil =>
    cases h
    exact ⟨by simp, by simp, by simp, rfl, rfl⟩
  | cons i items ih =>
    simp only [List.map_cons, matchItems, bind_eq_ok] at h
    obtain ⟨mid, hmid, h⟩ := h
    simp only [matchItem, parseAtomic_eq_ok, bind_eq_ok, orReject_eq_ok, pure_eq_ok] at hmid
    obtain ⟨resource, hlookup, u, hline, _, ⟨-, rfl⟩, _, ⟨-, rfl⟩, rfl⟩ := hmid
    have hrest := ih h
    have hknown : i.quoteId ∈ m.resources := AList.lookup_isSome.mp (by
      rw [Option.isSome_iff_exists]
      exact ⟨resource, hlookup⟩)
    have herased : ∀ j ∈ items, j.quoteId ≠ i.quoteId ∧ j.quoteId ∈ m.resources :=
      fun j hj => AList.mem_erase.mp (hrest.known j hj)
    refine ⟨?_, ?_, ?_, ?_, ?_⟩
    · intro j hj
      rcases List.mem_cons.mp hj with rfl | hj
      · exact validateLineItem_checked hline
      · exact hrest.checked j hj
    · rw [List.map_cons, List.nodup_cons]
      refine ⟨?_, hrest.nodup⟩
      intro hmem
      obtain ⟨j, hj, heq⟩ := List.mem_map.mp hmem
      exact (herased j hj).1 heq
    · intro j hj
      rcases List.mem_cons.mp hj with rfl | hj
      · exact hknown
      · exact (herased j hj).2
    · rw [hrest.total, itemsTotal, itemsTotal, List.map_cons, List.sum_cons, ← Nat.add_assoc]
      rfl
    · rw [hrest.fee, itemsPlatform, itemsPlatform, List.map_cons, List.sum_cons, ← Nat.add_assoc]
      rfl

theorem matchItems_of (hc : ∀ i ∈ items, Checked i)
    (hnodup : (items.map SettlementInvoiceLineItem.quoteId).Nodup)
    (hlookup : ∀ i ∈ items, m.resources.lookup i.quoteId = some (resourceOf i))
    (hlen : m.resources.entries.length = items.length) :
    ∃ m', matchItems m (items.map LineItem.ofWire) = .ok m' ∧ m'.resources.entries = [] := by
  induction items generalizing m with
  | nil => exact ⟨m, rfl, List.length_eq_zero_iff.mp hlen⟩
  | cons i items ih =>
    rw [List.map_cons, List.nodup_cons] at hnodup
    have hi := hc i List.mem_cons_self
    have hfound := hlookup i List.mem_cons_self
    have hmem : i.quoteId ∈ m.resources := AList.lookup_isSome.mp (by rw [hfound]; rfl)
    have herase := Dictionary.length_erase hmem
    have hstep : matchItem m (.ofWire i) = .ok ⟨m.resources.erase i.quoteId,
        m.invoiceTotal + amountOf i, m.invoicePlatformFee + platformOf i⟩ := by
      simp only [matchItem, parseAtomic_eq_ok, bind_eq_ok, orReject_eq_ok, pure_eq_ok]
      exact ⟨_, hfound, (), validateLineItem_of hi, _, ⟨hi.canonical.amount, rfl⟩, _,
        ⟨hi.canonical.platform, rfl⟩, rfl⟩
    have hlookup' : ∀ j ∈ items,
        (m.resources.erase i.quoteId).lookup j.quoteId = some (resourceOf j) := by
      intro j hj
      have hne : j.quoteId ≠ i.quoteId := fun heq => hnodup.1 (heq ▸ List.mem_map_of_mem hj)
      rw [AList.lookup_erase_ne hne]
      exact hlookup j (List.mem_cons_of_mem _ hj)
    rw [List.length_cons] at hlen
    obtain ⟨m', hm', hempty⟩ := ih
      (m := ⟨m.resources.erase i.quoteId, m.invoiceTotal + amountOf i,
        m.invoicePlatformFee + platformOf i⟩)
      (fun j hj => hc j (List.mem_cons_of_mem _ hj)) hnodup.2 hlookup' (by simp only; omega)
    refine ⟨m', ?_, hempty⟩
    simp only [List.map_cons, matchItems, bind_eq_ok]
    exact ⟨_, hstep, hm'⟩

section Plan

theorem ofWire_toValue (h : invoice.expiresAt.toNat < 2 ^ 53) :
    (Orchestrator.Invoice.ofWire invoice).toValue = invoice.toValue := by
  have hitem : ∀ i : SettlementInvoiceLineItem, (LineItem.ofWire i).toValue = i.toValue := by
    intro i
    have hlt := i.documentVersion.toNat_lt
    simp only [LineItem.ofWire, LineItem.toValue, SettlementInvoiceLineItem.toValue,
      nearestDouble_small (show i.documentVersion.toNat < 2 ^ 53 by omega)]
  simp only [Invoice.ofWire, Invoice.toValue, SettlementInvoice.toValue, nearestDouble_small h,
    List.map_map, Function.comp_def, hitem]

theorem toValue_safe (h : invoice.expiresAt.toNat < 2 ^ 53) :
    Everywhere IsSafe invoice.toValue := by
  have hmax : Json.maxSafeInteger = 2 ^ 53 - 1 := rfl
  have hexpiry : (invoice.expiresAt.toNat : Int) ≤ Json.maxSafeInteger := by omega
  refine ⟨trivial, ?_⟩
  simp only [EveryField, Everywhere, IsSafe, Int.natAbs_natCast, true_and, and_true]
  refine ⟨hexpiry, everyItem_map ?_ _⟩
  intro item
  have hlt := item.documentVersion.toNat_lt
  have hversion : (item.documentVersion.toNat : Int) ≤ Json.maxSafeInteger := by omega
  refine ⟨trivial, ?_⟩
  simp only [EveryField, Everywhere, IsSafe, Int.natAbs_natCast, true_and, and_true]
  exact hversion

theorem hash_agrees {h : String} (hserde : serde.Documented)
    (hhash : invoice.hash sha256 serde = .ok h) (hexpiry : invoice.expiresAt.toNat < 2 ^ 53) :
    hashSettlementInvoice sha256 (.ofWire invoice) = h := by
  simp only [SettlementInvoice.hash, bind_eq_ok, pure_eq_ok] at hhash
  obtain ⟨_, -, rfl⟩ := hhash
  have hcommitted := Commitment.invoice invoice
  rw [hashSettlementInvoice, ofWire_toValue hexpiry,
    canonical_agree hserde hcommitted.plain hcommitted.distinct (toValue_safe hexpiry)]

theorem sumAtomic_of {values : List String} {n : Nat}
    (h : ∀ value ∈ values, isCanonicalDecimal value = true) :
    sumAtomic n values = .ok (n + (values.map bigInt).sum) := by
  induction values generalizing n with
  | nil => simp [sumAtomic]
  | cons value values ih =>
    have hparse : parseAtomic value = .ok (bigInt value) :=
      parseAtomic_eq_ok.mpr ⟨h value List.mem_cons_self, rfl⟩
    rw [sumAtomic, hparse, ok_bind, ih fun v hv => h v (List.mem_cons_of_mem _ hv), List.map_cons,
      List.sum_cons, Nat.add_assoc]

end Plan

section Amounts

def fees (amounts : List Nat) : Nat := (amounts.map fun a => (evidencePaymentSplit a).2).sum

def lineAmounts (item : SettlementInvoiceLineItem) : String × String × String :=
  (item.amountAtomic, item.ownerAmountAtomic, item.platformAmountAtomic)

-- an invoice over a list of per-document amounts, as the ledger writes it
structure SplitInto (amounts : List Nat) (invoice : SettlementInvoice) : Prop where
  positive : ∀ a ∈ amounts, 0 < a
  total : invoice.totalAmountAtomic = toString amounts.sum
  fee : invoice.platformFeeAtomic = toString (fees amounts)
  items : invoice.lineItems.map lineAmounts = amounts.map fun a =>
    (toString a, toString (evidencePaymentSplit a).1, toString (evidencePaymentSplit a).2)

theorem SplitInto.line (h : SplitInto amounts invoice) (hi : item ∈ invoice.lineItems) :
    ∃ a ∈ amounts, item.amountAtomic = toString a ∧
      item.ownerAmountAtomic = toString (evidencePaymentSplit a).1 ∧
      item.platformAmountAtomic = toString (evidencePaymentSplit a).2 := by
  have hmem : lineAmounts item ∈ invoice.lineItems.map lineAmounts := List.mem_map_of_mem hi
  rw [h.items] at hmem
  obtain ⟨a, ha, heq⟩ := List.mem_map.mp hmem
  simp only [lineAmounts, Prod.mk.injEq] at heq
  exact ⟨a, ha, heq.1.symm, heq.2.1.symm, heq.2.2.symm⟩

theorem SplitInto.checked (h : SplitInto amounts invoice) (hi : item ∈ invoice.lineItems)
    (hdigest : isHexDigest item.documentHash = true) : Checked item := by
  obtain ⟨a, ha, hamount, howner, hplatform⟩ := h.line hi
  have hpos := h.positive a ha
  have hsum := evidencePaymentSplit_sum a
  refine ⟨⟨?_, ?_, ?_⟩, hdigest, ?_, ?_⟩
  · rw [hamount]
    exact canonical_toString _
  · rw [howner]
    exact canonical_toString _
  · rw [hplatform]
    exact canonical_toString _
  · rw [amountOf, hamount, bigInt_toString]
    exact hpos.ne'
  · rw [amountOf, ownerOf, platformOf, hamount, howner, hplatform, bigInt_toString, bigInt_toString,
      bigInt_toString, hsum]

theorem SplitInto.totals (h : SplitInto amounts invoice) :
    itemsTotal invoice.lineItems = amounts.sum ∧ itemsPlatform invoice.lineItems = fees amounts ∧
      invoice.lineItems.length = amounts.length := by
  have hamounts := congrArg (List.map fun t : String × String × String => bigInt t.1) h.items
  have hplatforms := congrArg (List.map fun t : String × String × String => bigInt t.2.2) h.items
  have hlength := congrArg List.length h.items
  simp only [List.map_map, Function.comp_def, lineAmounts, bigInt_toString, List.map_id'] at hamounts
  simp only [List.map_map, Function.comp_def, lineAmounts, bigInt_toString] at hplatforms
  simp only [List.length_map] at hlength
  exact ⟨congrArg List.sum hamounts, congrArg List.sum hplatforms, hlength⟩

-- what the orchestrator requires of the commitments the ledger makes in an invoice
structure Committed (invoice : SettlementInvoice) : Prop where
  scheme : invoice.scheme = settlementInvoiceScheme
  mode : invoice.settlementMode = hostedPayShMode
  refund : invoice.refundAddress = invoice.payer
  policy : invoice.deliveryPolicy = paidSnapshotOnly
  queryHash : isHexDigest invoice.queryHash = true
  bundleRoot : isHexDigest invoice.documentBundleRoot = true
  documentHashes : ∀ i ∈ invoice.lineItems, isHexDigest i.documentHash = true
  expiry : 0 < invoice.expiresAt.toNat ∧ invoice.expiresAt.toNat < 2 ^ 53

theorem expiry_valid {n : Nat} : ¬(maxSafeInteger < (nearestDouble n : Int) ∨
    (nearestDouble n : Int) ≤ 0) ↔ 0 < n ∧ n < 2 ^ 53 := by
  have hmax : maxSafeInteger = 2 ^ 53 - 1 := rfl
  rcases lt_or_ge n (2 ^ 53) with h | h
  · rw [nearestDouble_small h]
    omega
  · have hlarge := nearestDouble_large h
    omega

theorem planOf_amounts (hc : ∀ i ∈ invoice.lineItems, Checked i) {h : String} :
    sumAtomic 0 ((planOf invoice h).resources.map PayShResource.amountAtomic) =
      .ok (itemsTotal invoice.lineItems) := by
  rw [sumAtomic_of, planOf, List.map_map, List.map_map, Nat.zero_add]
  · rfl
  · intro value hvalue
    simp only [planOf, List.map_map, List.mem_map] at hvalue
    obtain ⟨i, hi, rfl⟩ := hvalue
    exact (hc i hi).canonical.amount

theorem planOf_keys : ((planOf invoice value).resources.map fun r => (r.quoteId, r)).map Prod.fst =
    invoice.lineItems.map SettlementInvoiceLineItem.quoteId := by
  simp [planOf, resourceOf, Function.comp_def]

theorem planOf_lookup (hnodup : (invoice.lineItems.map SettlementInvoiceLineItem.quoteId).Nodup) :
    ∀ i ∈ invoice.lineItems, (Dictionary.ofEntries
      ((planOf invoice value).resources.map fun r => (r.quoteId, r))).lookup i.quoteId =
        some (resourceOf i) := by
  intro i hi
  apply Dictionary.lookup_ofEntries (by rwa [planOf_keys])
  simp only [planOf, List.map_map, List.mem_map]
  exact ⟨i, hi, rfl⟩

theorem planOf_size (hnodup : (invoice.lineItems.map SettlementInvoiceLineItem.quoteId).Nodup) :
    (Dictionary.ofEntries
      ((planOf invoice value).resources.map fun r => (r.quoteId, r))).entries.length =
        invoice.lineItems.length := by
  rw [Dictionary.length_ofEntries (by rwa [planOf_keys])]
  simp [planOf]

theorem ledger_accepted (hserde : serde.Documented) (h : invoice.hash sha256 serde = .ok value)
    (hs : SplitInto amounts invoice) :
    validateSettlementInvoice sha256 (planOf invoice value) = .ok () ↔
      Committed invoice ∧ fees amounts ≤ feeCeiling amounts.sum amounts.length := by
  have hvalid : invoice.validate = .ok () := by
    simp only [SettlementInvoice.hash, bind_eq_ok] at h
    obtain ⟨u, hu, -⟩ := h
    exact hu
  have hnodup := validate_nodup hvalid
  obtain ⟨htotal, hfee, hlength⟩ := hs.totals
  have hbigTotal : bigInt invoice.totalAmountAtomic = amounts.sum := by
    rw [hs.total, bigInt_toString]
  have hbigFee : bigInt invoice.platformFeeAtomic = fees amounts := by
    rw [hs.fee, bigInt_toString]
  have hcanonTotal : isCanonicalDecimal invoice.totalAmountAtomic = true := by
    rw [hs.total]
    exact canonical_toString _
  have hcanonFee : isCanonicalDecimal invoice.platformFeeAtomic = true := by
    rw [hs.fee]
    exact canonical_toString _
  simp only [validateSettlementInvoice, bind_eq_ok, requireEqual_eq_ok, requireHexDigest_eq_ok,
    parseAtomic_eq_ok, reject_eq_ok, exists_const]
  constructor
  · intro hts
    obtain ⟨hscheme, hmode, -, -, -, hrefund, -, -, hpolicy, hquery, hroot, hexpiry, -, _,
      ⟨-, rfl⟩, _, ⟨-, rfl⟩, _, -, -, hceiling, -, m, hm, -⟩ := hts
    have hmatched := matchItems_matched hm
    refine ⟨⟨hscheme, hmode, hrefund, hpolicy, hquery, hroot, fun i hi => (hmatched.checked i hi).digest,
      expiry_valid.mp hexpiry⟩, ?_⟩
    simp only [planOf, Invoice.ofWire, hbigTotal, hbigFee, List.length_map, hlength, not_lt]
      at hceiling
    exact hceiling
  · rintro ⟨hc, hceiling⟩
    have hchecked : ∀ i ∈ invoice.lineItems, Checked i :=
      fun i hi => hs.checked hi (hc.documentHashes i hi)
    have hsize := @planOf_size invoice value hnodup
    obtain ⟨m, hm, hempty⟩ := matchItems_of (m := ⟨_, 0, 0⟩) hchecked hnodup
      (planOf_lookup hnodup) hsize
    have hmatched := matchItems_matched hm
    have hline := hmatched.total
    have hplatform := hmatched.fee
    simp only [Nat.zero_add] at hline hplatform
    refine ⟨hc.scheme, hc.mode, rfl, rfl, rfl, hc.refund, rfl, rfl, hc.policy, hc.queryHash,
      hc.bundleRoot, expiry_valid.mpr hc.expiry, ?_, _, ⟨hcanonTotal, rfl⟩, _, ⟨hcanonFee, rfl⟩, _,
      planOf_amounts hchecked, ?_, ?_, ?_, m, hm, ?_, ?_, ?_⟩
    · exact not_not.mpr (hash_agrees hserde h hc.expiry.2)
    · exact not_not.mpr (hbigTotal.trans htotal.symm)
    · simp only [planOf, Invoice.ofWire, hbigTotal, hbigFee, List.length_map, hlength, not_lt]
      exact hceiling
    · rw [hsize, not_or, not_not, not_not]
      simp [planOf, Invoice.ofWire]
    · exact not_not.mpr hempty
    · exact not_not.mpr (hline.trans (htotal.trans hbigTotal.symm))
    · exact not_not.mpr (hplatform.trans (hfee.trans hbigFee.symm))

theorem orchestrator_accepted {plan : ResearchJobPlan} (hplan : plan.invoice = .ofWire invoice)
    (h : validateSettlementInvoice sha256 plan = .ok ()) :
    invoice.validate = .ok () ↔ Complete invoice := by
  simp only [validateSettlementInvoice, bind_eq_ok, requireEqual_eq_ok, requireHexDigest_eq_ok,
    parseAtomic_eq_ok, reject_eq_ok, exists_const, hplan] at h
  obtain ⟨hscheme, hmode, -, -, -, -, -, -, hpolicy, hquery, hroot, -, -, _, ⟨htotal, rfl⟩, _,
    ⟨hfee, rfl⟩, _, -, -, -, -, m, hm, -, hline, hplatform⟩ := h
  have hmatched := matchItems_matched hm
  have hline' := hmatched.total
  have hplatform' := hmatched.fee
  simp only [Nat.zero_add] at hline' hplatform'
  apply validate_iff_complete
  exact ⟨hscheme, hmode, hpolicy, hquery, hroot, htotal, hfee, hmatched.checked, hmatched.nodup,
    hline'.symm.trans (not_not.mp hline), hplatform'.symm.trans (not_not.mp hplatform)⟩

def sampleHash : String := String.ofList (List.replicate 64 'a')

def sampleItem (quoteId : String) (amount : Nat) : SettlementInvoiceLineItem :=
  ⟨quoteId, "handle", sampleHash, 1, "consent-v1", "wallet", toString amount,
    toString (evidencePaymentSplit amount).1, toString (evidencePaymentSplit amount).2⟩

def sampleInvoice (items : List SettlementInvoiceLineItem) (total fee : Nat) : SettlementInvoice :=
  ⟨settlementInvoiceScheme, hostedPayShMode, "job", "payer", "escrow", "payer", sampleHash,
    sampleHash, "solana", "usdc", toString total, toString fee, 1000, paidSnapshotOnly, items⟩

def pairInvoice : SettlementInvoice :=
  sampleInvoice [sampleItem "q1" 10, sampleItem "q2" 10] 20 2

def microInvoice : SettlementInvoice :=
  sampleInvoice [sampleItem "q1" 11, sampleItem "q2" 11] 22 4

def sampleSha256 : Sha256 := fun _ => List.replicate 32 0

theorem pairInvoice_split : SplitInto [10, 10] pairInvoice :=
  ⟨by decide, by decide, by decide, by decide⟩

theorem pairInvoice_committed : Committed pairInvoice :=
  ⟨rfl, rfl, rfl, rfl, by decide, by decide, by decide, by decide⟩

theorem pairInvoice_hash : ∃ h, pairInvoice.hash sampleSha256 compactSerde = .ok h :=
  ok_of_isOk (by decide +kernel)

theorem pairInvoice_complete : Complete pairInvoice :=
  ⟨by decide, fun i hi => by
    simp only [pairInvoice, sampleInvoice, List.mem_cons, List.not_mem_nil, or_false] at hi
    rcases hi with rfl | rfl
    · exact ⟨by decide, by decide, by decide, by decide⟩
    · exact ⟨by decide, by decide, by decide, by decide⟩,
    by decide, by decide⟩

theorem microInvoice_split : SplitInto [11, 11] microInvoice :=
  ⟨by decide, by decide, by decide, by decide⟩

theorem validators_agree_iff (sha256 : Sha256) (serde : SerdeJson) (hserde : serde.Documented)
    (invoice : SettlementInvoice) :
    (∀ amounts invoiceHash, invoice.hash sha256 serde = .ok invoiceHash →
      SplitInto amounts invoice →
      (validateSettlementInvoice sha256 (planOf invoice invoiceHash) = .ok () ↔
        Committed invoice ∧ fees amounts ≤ feeCeiling amounts.sum amounts.length)) ∧
    (∀ plan : ResearchJobPlan, plan.invoice = .ofWire invoice →
      validateSettlementInvoice sha256 plan = .ok () →
      (invoice.validate = .ok () ↔ Complete invoice)) :=
  ⟨fun _ _ h hs => ledger_accepted hserde h hs, fun _ hplan h => orchestrator_accepted hplan h⟩

theorem validators_agree_iff_sample :
    (∃ h, pairInvoice.hash sampleSha256 compactSerde = .ok h ∧
      validateSettlementInvoice sampleSha256 (planOf pairInvoice h) = .ok ()) ∧
    pairInvoice.validate = .ok () := by
  obtain ⟨h, hh⟩ := pairInvoice_hash
  have hagree := validators_agree_iff sampleSha256 compactSerde compactSerde_documented pairInvoice
  have haccept := (hagree.1 [10, 10] h hh pairInvoice_split).mpr
    ⟨pairInvoice_committed, by decide⟩
  exact ⟨⟨h, hh, haccept⟩, (hagree.2 (planOf pairInvoice h) rfl haccept).mpr pairInvoice_complete⟩

def unnamedInvoice : SettlementInvoice :=
  sampleInvoice [{ sampleItem "q1" 11 with documentHandle := " " }] 11 2

theorem micro_priced_bundle_refused :
    (SplitInto [11, 11] microInvoice ∧ microInvoice.validate = .ok () ∧
      ¬∃ sha256, ∀ h, microInvoice.hash sha256 compactSerde = .ok h →
        validateSettlementInvoice sha256 (planOf microInvoice h) = .ok ()) ∧
    ∃ plan : ResearchJobPlan, plan.invoice = .ofWire unnamedInvoice ∧
      validateSettlementInvoice sampleSha256 plan = .ok () ∧ ¬unnamedInvoice.validate = .ok () := by
  have hvalid : microInvoice.validate = .ok () := by decide +kernel
  refine ⟨⟨microInvoice_split, hvalid, ?_⟩,
    planOf unnamedInvoice (hashSettlementInvoice sampleSha256 (.ofWire unnamedInvoice)), rfl,
    by decide +kernel, by decide +kernel⟩
  rintro ⟨sha256, h⟩
  have hhash : microInvoice.hash sha256 compactSerde =
      .ok (hexDigest sha256 (canonicalJsonRust compactSerde microInvoice.toValue)) := by
    rw [SettlementInvoice.hash, hvalid]
    rfl
  have haccept := (ledger_accepted compactSerde_documented hhash microInvoice_split).mp (h _ hhash)
  exact absurd haccept.2 (by decide +kernel)

end Amounts

end Orchestrator

end Obulus.Hosted
