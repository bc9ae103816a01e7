import Obulus.Foundation.Json
import Obulus.Hosted.Amounts
import Obulus.Hosted.Commitment

namespace Obulus.Hosted

open Foundation

section Preview

structure SettlementPreviewLineItem where
  documentHandle : String
  documentHash : String
  documentVersion : UInt32
  consentVersion : String
  recipientWallet : String
  priceKrw : UInt64
  amountAtomic : String
  ownerAmountAtomic : String
  platformAmountAtomic : String
  deriving DecidableEq, Repr

structure SettlementPreview where
  scheme : String
  queryId : String
  queryHash : String
  documentBundleRoot : String
  network : String
  asset : String
  totalPriceKrw : UInt64
  totalAmountAtomic : String
  ownerAmountAtomic : String
  platformFeeAtomic : String
  deliveryPolicy : String
  lineItems : List SettlementPreviewLineItem
  deriving DecidableEq, Repr

def SettlementPreviewLineItem.toValue (item : SettlementPreviewLineItem) : Value :=
  .object [("documentHandle", .string item.documentHandle),
    ("documentHash", .string item.documentHash),
    ("documentVersion", .number item.documentVersion.toNat),
    ("consentVersion", .string item.consentVersion),
    ("recipientWallet", .string item.recipientWallet), ("priceKrw", .number item.priceKrw.toNat),
    ("amountAtomic", .string item.amountAtomic),
    ("ownerAmountAtomic", .string item.ownerAmountAtomic),
    ("platformAmountAtomic", .string item.platformAmountAtomic)]

def SettlementPreview.toValue (preview : SettlementPreview) : Value :=
  .object [("scheme", .string preview.scheme), ("queryId", .string preview.queryId),
    ("queryHash", .string preview.queryHash),
    ("documentBundleRoot", .string preview.documentBundleRoot),
    ("network", .string preview.network), ("asset", .string preview.asset),
    ("totalPriceKrw", .number preview.totalPriceKrw.toNat),
    ("totalAmountAtomic", .string preview.totalAmountAtomic),
    ("ownerAmountAtomic", .string preview.ownerAmountAtomic),
    ("platformFeeAtomic", .string preview.platformFeeAtomic),
    ("deliveryPolicy", .string preview.deliveryPolicy),
    ("lineItems", .array (preview.lineItems.map SettlementPreviewLineItem.toValue))]

end Preview

section Parse

-- a number literal as a double
def parseNumber (value : Int) : Int := value.sign * nearestDouble value.natAbs

mutual
def parsed : Value → Value
  | .number value => .number (parseNumber value)
  | .array items => .array (parsedItems items)
  | .object fields => .object (parsedFields fields)
  | value => value
def parsedItems : List Value → List Value
  | [] => []
  | value :: items => parsed value :: parsedItems items
def parsedFields : List (String × Value) → List (String × Value)
  | [] => []
  | (key, value) :: fields => (key, parsed value) :: parsedFields fields
end

end Parse

section Everywhere

-- the same value, its objects built in another order at any level
mutual
def Reordered : Value → Value → Prop
  | .array items, .array items' => ReorderedItems items items'
  | .object fields, .object fields' => ∃ mid, mid.Perm fields' ∧ ReorderedFields fields mid
  | value, value' => value = value'
def ReorderedItems : List Value → List Value → Prop
  | [], [] => True
  | value :: items, value' :: items' => Reordered value value' ∧ ReorderedItems items items'
  | _, _ => False
def ReorderedFields : List (String × Value) → List (String × Value) → Prop
  | [], [] => True
  | (key, value) :: fields, (key', value') :: fields' =>
    key = key' ∧ Reordered value value' ∧ ReorderedFields fields fields'
  | _, _ => False
end

end Everywhere

section Numbers

theorem parseNumber_safe {value : Int} (h : value.natAbs ≤ Json.maxSafeInteger) :
    parseNumber value = value := by
  have hlt : value.natAbs < 2 ^ 53 := by
    simp only [Json.maxSafeInteger] at h
    omega
  rw [parseNumber, nearestDouble_small hlt, Int.sign_mul_natAbs]

mutual
theorem parsed_safe (value : Value) (h : Everywhere IsSafe value) : parsed value = value := by
  cases value with
  | array items => rw [parsed, parsedItems_safe items h]
  | object fields => rw [parsed, parsedFields_safe fields h.2]
  | number n => rw [parsed, parseNumber_safe h]
  | null => rfl
  | bool b => rfl
  | string text => rfl
theorem parsedItems_safe (items : List Value) (h : EveryItem IsSafe items) :
    parsedItems items = items := by
  cases items with
  | nil => rfl
  | cons value items => rw [parsedItems, parsed_safe value h.1, parsedItems_safe items h.2]
theorem parsedFields_safe (fields : List (String × Value)) (h : EveryField IsSafe fields) :
    parsedFields fields = fields := by
  cases fields with
  | nil => rfl
  | cons field fields =>
    obtain ⟨key, value⟩ := field
    rw [parsedFields, parsed_safe value h.1, parsedFields_safe fields h.2]
end

end Numbers

section Order

variable {α : Type} {units : String → List Nat} {P : Value → Prop} {fields fields' : List (String × Value)}

theorem byKey_perm {entries entries' : List (String × α)} (hunits : Function.Injective units)
    (h : entries.Perm entries') (hkeys : (entries.map Prod.fst).Nodup) :
    byKey units entries = byKey units entries' := by
  have htotal : Std.Total fun a b : String × α => units a.1 ≤ units b.1 := ⟨fun a b => le_total (units a.1) (units b.1)⟩
  have htrans : IsTrans (String × α) fun a b => units a.1 ≤ units b.1 := ⟨fun _ _ _ => le_trans⟩
  refine List.Perm.eq_of_pairwise ?_ (List.pairwise_insertionSort _ _)
    (List.pairwise_insertionSort _ _) ?_
  · intro a b ha hb hab hba
    have hkey : a.1 = b.1 := hunits (le_antisymm hab hba)
    have ha' : a ∈ entries := (List.mem_insertionSort _).mp ha
    have hb' : b ∈ entries := h.mem_iff.mpr ((List.mem_insertionSort _).mp hb)
    exact List.inj_on_of_nodup_map hkeys ha' hb' hkey
  · exact ((List.perm_insertionSort _ _).trans h).trans (List.perm_insertionSort _ _).symm

theorem everyField_iff : EveryField P fields ↔ ∀ field ∈ fields, Everywhere P field.2 := by
  induction fields with
  | nil => simp [EveryField]
  | cons field fields ih => simp [EveryField, ih]

mutual
theorem reordered_canonical (value value' : Value) (h : Reordered value value')
    (hdistinct : Everywhere IsDistinct value) : canonicalValue value = canonicalValue value' := by
  cases value with
  | array items =>
    cases value' with
    | array items' => rw [canonicalValue, canonicalValue, reorderedItems_canonical items items' h hdistinct]
    | _ => cases h
  | object fields =>
    cases value' with
    | object fields' =>
      obtain ⟨mid, hperm, hmid⟩ := h
      have hsame := reorderedFields_canonical fields mid hmid hdistinct.2
      have hpermuted : (canonicalFields fields).Perm (canonicalFields fields') := by
        rw [hsame, canonicalFields_eq, canonicalFields_eq]
        exact hperm.map _
      have hkeys : ((canonicalFields fields).map Prod.fst).Nodup := by
        rw [canonicalFields_keys]
        exact hdistinct.1
      rw [canonicalValue, canonicalValue, byKey_perm codePoints_injective hpermuted hkeys]
    | _ => cases h
  | _ => rw [show _ = value' from h]
theorem reorderedItems_canonical (items items' : List Value) (h : ReorderedItems items items')
    (hdistinct : EveryItem IsDistinct items) : canonicalItems items = canonicalItems items' := by
  cases items with
  | nil =>
    cases items' with
    | nil => rfl
    | cons => cases h
  | cons value items =>
    cases items' with
    | nil => cases h
    | cons value' items' =>
      rw [canonicalItems, canonicalItems, reordered_canonical value value' h.1 hdistinct.1,
        reorderedItems_canonical items items' h.2 hdistinct.2]
theorem reorderedFields_canonical (fields fields' : List (String × Value))
    (h : ReorderedFields fields fields') (hdistinct : EveryField IsDistinct fields) :
    canonicalFields fields = canonicalFields fields' := by
  cases fields with
  | nil =>
    cases fields' with
    | nil => rfl
    | cons => cases h
  | cons field fields =>
    cases fields' with
    | nil => cases h
    | cons field' fields' =>
      obtain ⟨key, value⟩ := field
      obtain ⟨key', value'⟩ := field'
      obtain ⟨rfl, hvalue, hrest⟩ := h
      rw [canonicalFields, canonicalFields, reordered_canonical value value' hvalue hdistinct.1,
        reorderedFields_canonical fields fields' hrest hdistinct.2]
end

end Order

section Kept

variable {P : Value → Prop}

theorem reorderedFields_map {fields fields' : List (String × Value)} (h : ReorderedFields fields fields') :
    fields.map Prod.fst = fields'.map Prod.fst := by
  induction fields generalizing fields' with
  | nil =>
    cases fields' with
    | nil => rfl
    | cons => cases h
  | cons field fields ih =>
    cases fields' with
    | nil => cases h
    | cons field' fields' =>
      obtain ⟨key, value⟩ := field
      obtain ⟨key', value'⟩ := field'
      obtain ⟨rfl, -, hrest⟩ := h
      rw [List.map_cons, List.map_cons, ih hrest]

mutual
-- P sees the top of a value only, and not the order of its fields
theorem reordered_everywhere (hP : ∀ value value', Reordered value value' → P value → P value')
    (value value' : Value) (h : Reordered value value') (hevery : Everywhere P value) :
    Everywhere P value' := by
  cases value with
  | array items =>
    cases value' with
    | array items' => exact reordered_everyItem hP items items' h hevery
    | _ => cases h
  | object fields =>
    cases value' with
    | object fields' =>
      refine ⟨hP _ _ h hevery.1, ?_⟩
      obtain ⟨mid, hperm, hmid⟩ := h
      have hfields := everyField_iff.mp (reordered_everyField hP fields mid hmid hevery.2)
      exact everyField_iff.mpr fun field hfield => hfields field (hperm.mem_iff.mpr hfield)
    | _ => cases h
  | _ =>
    obtain rfl : _ = value' := h
    exact hevery
theorem reordered_everyItem (hP : ∀ value value', Reordered value value' → P value → P value')
    (items items' : List Value) (h : ReorderedItems items items') (hevery : EveryItem P items) :
    EveryItem P items' := by
  cases items with
  | nil =>
    cases items' with
    | nil => trivial
    | cons => cases h
  | cons value items =>
    cases items' with
    | nil => cases h
    | cons value' items' =>
      exact ⟨reordered_everywhere hP value value' h.1 hevery.1,
        reordered_everyItem hP items items' h.2 hevery.2⟩
theorem reordered_everyField (hP : ∀ value value', Reordered value value' → P value → P value')
    (fields fields' : List (String × Value)) (h : ReorderedFields fields fields')
    (hevery : EveryField P fields) : EveryField P fields' := by
  cases fields with
  | nil =>
    cases fields' with
    | nil => trivial
    | cons => cases h
  | cons field fields =>
    cases fields' with
    | nil => cases h
    | cons field' fields' =>
      obtain ⟨key, value⟩ := field
      obtain ⟨key', value'⟩ := field'
      obtain ⟨rfl, hvalue, hrest⟩ := h
      exact ⟨reordered_everywhere hP value value' hvalue hevery.1,
        reordered_everyField hP fields fields' hrest hevery.2⟩
end

theorem isSafe_reordered (value value' : Value) (h : Reordered value value') (hsafe : IsSafe value) :
    IsSafe value' := by
  cases value with
  | array items => cases value' <;> trivial
  | object fields => cases value' <;> trivial
  | _ =>
    obtain rfl : _ = value' := h
    exact hsafe

theorem isPlain_reordered (value value' : Value) (h : Reordered value value') (hplain : IsPlain value) :
    IsPlain value' := by
  cases value with
  | array items => cases value' <;> trivial
  | object fields =>
    cases value' with
    | object fields' =>
      obtain ⟨mid, hperm, hmid⟩ := h
      intro key hkey
      apply hplain key
      rw [reorderedFields_map hmid]
      exact (hperm.map Prod.fst).mem_iff.mpr hkey
    | _ => cases h
  | _ =>
    obtain rfl : _ = value' := h
    exact hplain

end Kept

section Agreement

-- what the two programs commit to
inductive Commitment : Value → Prop
  | invoice (invoice : SettlementInvoice) : Commitment invoice.toValue
  | preview (preview : SettlementPreview) : Commitment preview.toValue

theorem everyItem_map {α : Type} {P : Value → Prop} {f : α → Value} (h : ∀ a, Everywhere P (f a))
    (items : List α) : EveryItem P (items.map f) := by
  induction items with
  | nil => trivial
  | cons item items ih => exact ⟨h item, ih⟩

theorem Commitment.plain {value : Value} (h : Commitment value) : Everywhere IsPlain value := by
  cases h with
  | invoice invoice =>
    refine ⟨by simp only [IsPlain, List.map_cons, List.map_nil]; decide, ?_⟩
    simp only [EveryField, Everywhere, IsPlain, true_and, and_true]
    apply everyItem_map
    intro item
    refine ⟨by simp only [IsPlain, List.map_cons, List.map_nil]; decide, ?_⟩
    simp only [EveryField, Everywhere, IsPlain, and_self]
  | preview preview =>
    refine ⟨by simp only [IsPlain, List.map_cons, List.map_nil]; decide, ?_⟩
    simp only [EveryField, Everywhere, IsPlain, true_and, and_true]
    apply everyItem_map
    intro item
    refine ⟨by simp only [IsPlain, List.map_cons, List.map_nil]; decide, ?_⟩
    simp only [EveryField, Everywhere, IsPlain, and_self]

theorem Commitment.distinct {value : Value} (h : Commitment value) : Everywhere IsDistinct value := by
  cases h with
  | invoice invoice =>
    refine ⟨by simp only [IsDistinct, List.map_cons, List.map_nil]; decide, ?_⟩
    simp only [EveryField, Everywhere, IsDistinct, true_and, and_true]
    apply everyItem_map
    intro item
    refine ⟨by simp only [IsDistinct, List.map_cons, List.map_nil]; decide, ?_⟩
    simp only [EveryField, Everywhere, IsDistinct, and_self]
  | preview preview =>
    refine ⟨by simp only [IsDistinct, List.map_cons, List.map_nil]; decide, ?_⟩
    simp only [EveryField, Everywhere, IsDistinct, true_and, and_true]
    apply everyItem_map
    intro item
    refine ⟨by simp only [IsDistinct, List.map_cons, List.map_nil]; decide, ?_⟩
    simp only [EveryField, Everywhere, IsDistinct, and_self]

theorem isDistinct_reordered (value value' : Value) (h : Reordered value value')
    (hdistinct : IsDistinct value) : IsDistinct value' := by
  cases value with
  | array items => cases value' <;> trivial
  | object fields =>
    cases value' with
    | object fields' =>
      obtain ⟨mid, hperm, hmid⟩ := h
      have hkeys : (mid.map Prod.fst).Nodup := reorderedFields_map hmid ▸ hdistinct
      exact (hperm.map Prod.fst).nodup_iff.mp hkeys
    | _ => cases h
  | _ =>
    obtain rfl : _ = value' := h
    exact hdistinct

theorem encodings_agree (sha256 : Sha256) (serde : SerdeJson) (hserde : serde.Documented)
    {value value' : Value} (hcommitted : Commitment value) (hsafe : Everywhere IsSafe value)
    (h : Reordered value value') :
    canonicalJsonRust serde value' = canonicalJsonRust serde value ∧
      canonicalJson (parsed value') = canonicalJsonRust serde value ∧
      hexDigest sha256 (canonicalJson (parsed value')) =
        hexDigest sha256 (canonicalJsonRust serde value) := by
  have hrust : canonicalJsonRust serde value' = canonicalJsonRust serde value := by
    rw [canonicalJsonRust, canonicalJsonRust, reordered_canonical value value' h hcommitted.distinct]
  have hsafe' := reordered_everywhere isSafe_reordered value value' h hsafe
  have hplain' := reordered_everywhere isPlain_reordered value value' h hcommitted.plain
  have hdistinct' := reordered_everywhere isDistinct_reordered value value' h hcommitted.distinct
  have hagree : canonicalJson (parsed value') = canonicalJsonRust serde value := by
    rw [parsed_safe value' hsafe', ← canonical_agree hserde hplain' hdistinct' hsafe', hrust]
  exact ⟨hrust, hagree, by rw [hagree]⟩

def wirePreview : SettlementPreview where
  scheme := "obulus-settlement-preview-v1"
  queryId := "tea 🍵 \"green\""
  queryHash := "hash"
  documentBundleRoot := "root"
  network := "solana"
  asset := "usdc"
  totalPriceKrw := 9007199254740991
  totalAmountAtomic := "11"
  ownerAmountAtomic := "9"
  platformFeeAtomic := "2"
  deliveryPolicy := "paid_snapshot_only"
  lineItems := []

def reversed : Value → Value
  | .object fields => .object fields.reverse
  | value => value

theorem reordered_reversed {fields : List (String × Value)} (h : ReorderedFields fields fields) :
    Reordered (.object fields) (reversed (.object fields)) :=
  ⟨fields, (List.reverse_perm fields).symm, h⟩

theorem encodings_agree_sample :
    canonicalJson (parsed (reversed wirePreview.toValue)) =
      canonicalJsonRust compactSerde wirePreview.toValue := by
  have hsafe : Everywhere IsSafe wirePreview.toValue := by
    refine ⟨trivial, ?_⟩
    simp only [EveryField, Everywhere, EveryItem, IsSafe, wirePreview, List.map_nil]
    decide
  have hreordered : Reordered wirePreview.toValue (reversed wirePreview.toValue) := by
    apply reordered_reversed
    simp only [ReorderedFields, Reordered, ReorderedItems, wirePreview, List.map_nil, and_self]
  exact (encodings_agree id compactSerde compactSerde_documented (.preview wirePreview) hsafe
    hreordered).2.1

end Agreement

end Obulus.Hosted
