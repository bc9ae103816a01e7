import Mathlib.Data.Option.Basic
import Obulus.Gateway.Matchers
import Obulus.Store.Base64

namespace Obulus.Gateway

open Foundation Store

structure PayShReceiptEvidence where
  transactionSignature : String
  finalizedTransactionBase64 : String
  deriving DecidableEq, Repr

structure DecodedTransaction where
  signatures : List (Option Bytes)
  messageBytes : Bytes

-- the packages a receipt is completed with; `none` where they throw
structure ReceiptLibraries where
  base58 : Encoding
  transactionDecoder : Bytes → Option DecodedTransaction

variable (lib : ReceiptLibraries)

-- the receipt goes to the first slot, every other signature must be there already
def candidateSignature (receiptSignature : Bytes) (index : Nat) (prepared : Option Bytes) : Option Bytes :=
  if index = 0 then some receiptSignature else prepared

def completedSignature (receiptSignature : Bytes) (index : Nat) (prepared : Option Bytes) : Option Bytes := do
  let candidate ← candidateSignature receiptSignature index prepared
  guard (candidate.length = 64 ∧ isZeroSignature candidate = false)
  guard (prepared.all (fun prepared => isZeroSignature prepared || prepared.isPrefixOf candidate) = true)
  return candidate

def completePayShReceiptTransaction (preparedTransactionBase64 receiptReference : String) :
    Option PayShReceiptEvidence := do
  let preparedBytes ← decodeCanonicalBase64 preparedTransactionBase64
  let decoded ← lib.transactionDecoder preparedBytes
  let receiptSignature ← lib.base58.base58Decode receiptReference
  guard (decoded.signatures.length ≠ 0 ∧ receiptSignature.length = 64)
  let completedSignatures ← decoded.signatures.zipIdx.mapM fun (prepared, index) =>
    completedSignature receiptSignature index prepared
  let count ← encodeCompactU16 completedSignatures.length
  let finalizedBytes := count ++ completedSignatures.flatten ++ decoded.messageBytes
  let roundTrip ← lib.transactionDecoder finalizedBytes
  guard (roundTrip.signatures.length = completedSignatures.length ∧
    roundTrip.messageBytes = decoded.messageBytes)
  return { transactionSignature := receiptReference
           finalizedTransactionBase64 := encodeBase64 finalizedBytes }

-- the signatures of the wire, in its order, an empty slot as none, and what follows them
structure WireOrder (bytes : Bytes) (decoded : DecodedTransaction) (count : Nat) : Prop where
  inside : prefixLength bytes + count * 64 < bytes.length
  signatures : decoded.signatures = (List.range count).map fun index =>
    some (slot bytes (prefixLength bytes) index) |>.filter fun signature => !isZeroSignature signature
  message : decoded.messageBytes = bytes.drop (prefixLength bytes + count * 64)
  header : ∀ value length, decodeShortVec bytes = some (value, length) → value = count

structure ReceiptLibraries.Faithful (lib : ReceiptLibraries) : Prop where
  decodes : ∀ bytes decoded, lib.transactionDecoder bytes = some decoded →
    ∃ count, WireOrder bytes decoded count
  base58 : ∀ text bytes, lib.base58.base58Decode text = some bytes → lib.base58.base58Encode bytes = text

-- what the completed transaction is, beside the prepared one
structure Completion (prepared finalized : Bytes) (receiptReference : String) : Prop where
  message : (lib.transactionDecoder finalized).map DecodedTransaction.messageBytes =
    (lib.transactionDecoder prepared).map DecodedTransaction.messageBytes
  kept : ∀ (index : Nat) (signature : Bytes), ((lib.transactionDecoder prepared).bind fun decoded =>
      decoded.signatures[index]?) = some (some signature) →
    ((lib.transactionDecoder finalized).bind fun decoded => decoded.signatures[index]?) =
      some (some signature)
  receipt : ((lib.transactionDecoder finalized).bind fun decoded => decoded.signatures[0]?) =
    some (lib.base58.base58Decode receiptReference)
  matched : matchesPreparedTransaction lib.base58 prepared finalized receiptReference = true
  signed : fullySignedSolanaTransactionSignature lib.base58 finalized = some receiptReference

-- one byte counts the signatures, at most 64
def ShortCount (prepared : Bytes) : Prop :=
  ∃ count rest, prepared = count :: rest ∧ count.toNat ≤ 64

variable {lib} {prepared finalized bytes receiptSignature : Bytes} {receiptReference : String}
  {preparedTransactionBase64 : String} {decoded : DecodedTransaction} {count index : Nat}
  {evidence : PayShReceiptEvidence} {signatures : List (Option Bytes)} {completed : List Bytes}

-- the steps of a completion that returned
structure Completed (lib : ReceiptLibraries) (preparedTransactionBase64 receiptReference : String)
    (prepared receiptSignature : Bytes) (decoded : DecodedTransaction) (completed : List Bytes)
    (header : Bytes) (roundTrip : DecodedTransaction) : Prop where
  canonical : decodeCanonicalBase64 preparedTransactionBase64 = some prepared
  decodes : lib.transactionDecoder prepared = some decoded
  receives : lib.base58.base58Decode receiptReference = some receiptSignature
  some_signature : decoded.signatures.length ≠ 0
  fills : (decoded.signatures.zipIdx.mapM fun entry =>
    completedSignature receiptSignature entry.2 entry.1) = some completed
  counts : encodeCompactU16 completed.length = some header
  reads : lib.transactionDecoder (header ++ completed.flatten ++ decoded.messageBytes) = some roundTrip
  agrees : roundTrip.messageBytes = decoded.messageBytes

theorem completed_of_receipt
    (h : completePayShReceiptTransaction lib preparedTransactionBase64 receiptReference = some evidence) :
    ∃ prepared receiptSignature decoded completed header roundTrip,
      Completed lib preparedTransactionBase64 receiptReference prepared receiptSignature decoded completed
        header roundTrip ∧
      evidence = ⟨receiptReference, encodeBase64 (header ++ completed.flatten ++ decoded.messageBytes)⟩ := by
  simp only [completePayShReceiptTransaction, Option.bind_eq_bind, Option.bind_eq_some_iff,
    Option.guard_eq_some', exists_const, Option.pure_def, Option.some.injEq] at h
  obtain ⟨prepared, hcanonical, decoded, hdecoded, receiptSignature, hreceipt, hlength, completed,
    hcompleted, header, hheader, roundTrip, hround, hmessage, rfl⟩ := h
  exact ⟨prepared, receiptSignature, decoded, completed, header, roundTrip,
    ⟨hcanonical, hdecoded, hreceipt, hlength.1, hcompleted, hheader, hround, hmessage.2⟩, rfl⟩

theorem completedSignature_eq {prepared : Option Bytes} {candidate : Bytes}
    (h : completedSignature receiptSignature index prepared = some candidate) :
    candidate.length = 64 ∧ isZeroSignature candidate = false ∧
      candidateSignature receiptSignature index prepared = some candidate ∧
      ∀ signature, prepared = some signature →
        isZeroSignature signature = true ∨ signature.isPrefixOf candidate = true := by
  simp only [completedSignature, Option.bind_eq_bind, Option.bind_eq_some_iff, Option.guard_eq_some',
    exists_const, Option.pure_def, Option.some.injEq] at h
  obtain ⟨chosen, hchosen, ⟨hlength, hzero⟩, hprefix, rfl⟩ := h
  refine ⟨hlength, hzero, hchosen, ?_⟩
  rintro signature rfl
  simpa [Bool.or_eq_true] using hprefix

theorem mapM_some {α β : Type} {f : α → Option β} {l : List α} {l' : List β} (h : l.mapM f = some l') :
    l'.length = l.length ∧
      ∀ (index : Nat) a, l[index]? = some a → ∃ b, l'[index]? = some b ∧ f a = some b := by
  induction l generalizing l' with
  | nil =>
    rw [List.mapM_nil, Option.pure_def, Option.some.injEq] at h
    subst h
    simp
  | cons a l ih =>
    simp only [List.mapM_cons, Option.bind_eq_bind, Option.bind_eq_some_iff, Option.pure_def,
      Option.some.injEq] at h
    obtain ⟨b, hb, rest, hrest, rfl⟩ := h
    obtain ⟨hlength, hitems⟩ := ih hrest
    refine ⟨by rw [List.length_cons, List.length_cons, hlength], ?_⟩
    intro index c hc
    cases index with
    | zero =>
      rw [List.getElem?_cons_zero, Option.some.injEq] at hc
      subst hc
      exact ⟨b, rfl, hb⟩
    | succ index =>
      rw [List.getElem?_cons_succ] at hc
      exact hitems index c hc

section Slots

variable {slots : List Bytes} {header message : Bytes}

theorem flatten_length (hslots : ∀ s ∈ slots, s.length = 64) : slots.flatten.length = slots.length * 64 := by
  induction slots with
  | nil => rfl
  | cons s slots ih =>
    rw [List.forall_mem_cons] at hslots
    rw [List.flatten_cons, List.length_append, hslots.1, ih hslots.2, List.length_cons]
    omega

theorem take_flatten (message : Bytes) (hslots : ∀ s ∈ slots, s.length = 64) (hslot : slots[index]? = some bytes) :
    ((slots.flatten ++ message).drop (index * 64)).take 64 = bytes := by
  induction slots generalizing index with
  | nil => simp at hslot
  | cons s slots ih =>
    rw [List.forall_mem_cons] at hslots
    cases index with
    | zero =>
      rw [List.getElem?_cons_zero, Option.some.injEq] at hslot
      subst hslot
      rw [Nat.zero_mul, List.drop_zero, List.flatten_cons, List.append_assoc, ← hslots.1,
        List.take_left]
    | succ index =>
      rw [List.getElem?_cons_succ] at hslot
      have hskip : (index + 1) * 64 = s.length + index * 64 := by
        rw [hslots.1]
        omega
      rw [hskip, List.flatten_cons, List.append_assoc, ← List.drop_drop, List.drop_left]
      exact ih hslots.2 hslot

theorem slot_written (hslots : ∀ s ∈ slots, s.length = 64) (hslot : slots[index]? = some bytes) :
    slot (header ++ slots.flatten ++ message) header.length index = bytes := by
  rw [slot, subarray, List.append_assoc, ← List.drop_drop, List.drop_left]
  exact take_flatten message hslots hslot

theorem drop_written (hslots : ∀ s ∈ slots, s.length = 64) :
    (header ++ slots.flatten ++ message).drop (header.length + slots.length * 64) = message := by
  rw [← flatten_length hslots, ← List.length_append, List.drop_left]

theorem chunks64_flatten (hslots : ∀ s ∈ slots, s.length = 64) :
    chunks64 slots.length slots.flatten = slots := by
  induction slots with
  | nil => rfl
  | cons s slots ih =>
    rw [List.forall_mem_cons] at hslots
    have htake : (s ++ slots.flatten).take 64 = s := by
      rw [← hslots.1, List.take_left]
    have hdrop : (s ++ slots.flatten).drop 64 = slots.flatten := by
      rw [← hslots.1, List.drop_left]
    rw [List.length_cons, chunks64, List.flatten_cons, htake, hdrop, ih hslots.2]

end Slots

theorem WireOrder.length (h : WireOrder bytes decoded count) : decoded.signatures.length = count := by
  rw [h.signatures, List.length_map, List.length_range]

theorem WireOrder.slot_eq (h : WireOrder bytes decoded count) (hindex : index < count) :
    decoded.signatures[index]? = some ((some (slot bytes (prefixLength bytes) index)).filter
      fun signature => !isZeroSignature signature) := by
  rw [h.signatures, List.getElem?_map, List.getElem?_range hindex]
  rfl

theorem WireOrder.slot_length (h : WireOrder bytes decoded count) (hindex : index < count) :
    (slot bytes (prefixLength bytes) index).length = 64 := by
  have hinside := h.inside
  rw [slot, subarray, List.length_take, List.length_drop]
  omega

-- what each slot of the completed transaction holds
structure Filled (prepared : Bytes) (receiptSignature : Bytes) (completed : List Bytes) : Prop where
  sized : ∀ signature ∈ completed, signature.length = 64
  slots : ∀ index < completed.length, ∃ signature, completed[index]? = some signature ∧
    isZeroSignature signature = false ∧ (index = 0 → signature = receiptSignature) ∧
    (isZeroSignature (slot prepared (prefixLength prepared) index) = false →
      slot prepared (prefixLength prepared) index = signature)

namespace Completed

variable {header : Bytes} {roundTrip : DecodedTransaction}

theorem filled (h : Completed lib preparedTransactionBase64 receiptReference prepared receiptSignature
    decoded completed header roundTrip) (hwire : WireOrder prepared decoded count) :
    completed.length = count ∧ Filled prepared receiptSignature completed := by
  obtain ⟨hlength, hitems⟩ := mapM_some h.fills
  rw [List.length_zipIdx, hwire.length] at hlength
  have hslots : ∀ index < count, ∃ signature, completed[index]? = some signature ∧
      completedSignature receiptSignature index ((some (slot prepared (prefixLength prepared) index)).filter
        fun signature => !isZeroSignature signature) = some signature := by
    intro index hindex
    have hentry : decoded.signatures.zipIdx[index]? = some ((some (slot prepared (prefixLength prepared)
        index)).filter fun signature => !isZeroSignature signature, index) := by
      rw [List.getElem?_zipIdx, hwire.slot_eq hindex]
      simp
    exact hitems index _ hentry
  refine ⟨hlength, ?_, ?_⟩
  · intro signature hmem
    obtain ⟨index, hindex, hget⟩ := List.getElem_of_mem hmem
    obtain ⟨found, hfound, hcompleted⟩ := hslots index (hlength ▸ hindex)
    rw [List.getElem?_eq_getElem hindex, Option.some.injEq] at hfound
    rw [← hget, hfound]
    exact (completedSignature_eq hcompleted).1
  · intro index hindex
    obtain ⟨signature, hget, hcompleted⟩ := hslots index (hlength ▸ hindex)
    obtain ⟨hsize, hzero, hchosen, hprefix⟩ := completedSignature_eq hcompleted
    refine ⟨signature, hget, hzero, ?_, ?_⟩
    · rintro rfl
      rw [candidateSignature, if_pos rfl, Option.some.injEq] at hchosen
      exact hchosen.symm
    · intro hpresent
      rcases hprefix (slot prepared (prefixLength prepared) index) (by simp [Option.filter, hpresent]) with
        hempty | hprefix
      · rw [hpresent] at hempty
        cases hempty
      · refine (isPrefixOf_iff_eq ?_).mp hprefix
        rw [hwire.slot_length (hlength ▸ hindex), hsize]

theorem header_eq (h : Completed lib preparedTransactionBase64 receiptReference prepared receiptSignature
    decoded completed header roundTrip) :
    decodeShortVec (header ++ completed.flatten ++ decoded.messageBytes) =
      some (completed.length, header.length) := by
  rw [decodeShortVec, List.append_assoc]
  exact shortVec_encode h.counts _

theorem roundTrip_signatures (h : Completed lib preparedTransactionBase64 receiptReference prepared
    receiptSignature decoded completed header roundTrip) (hlib : lib.Faithful)
    (hfilled : Filled prepared receiptSignature completed) :
    ∀ index < completed.length, roundTrip.signatures[index]? = some (completed[index]?) := by
  obtain ⟨count, hwire⟩ := hlib.decodes _ _ h.reads
  have hcount : completed.length = count := hwire.header _ _ h.header_eq
  have hprefix : header.length = prefixLength (header ++ completed.flatten ++ decoded.messageBytes) :=
    shortVec_leading h.header_eq
  intro index hindex
  obtain ⟨signature, hget, hzero, -⟩ := hfilled.slots index hindex
  rw [hwire.slot_eq (hcount ▸ hindex), ← hprefix, slot_written hfilled.sized hget, hget]
  simp [Option.filter, hzero]

end Completed

theorem signatures_section {value length : Nat} (hheader : decodeShortVec bytes = some (value, length))
    (hone : 0 < value) (hinside : length + value * 64 < bytes.length) :
    solanaTransactionSignatures bytes =
      if value ≤ 64 then some ((bytes.take (length + value * 64)).drop length) else none := by
  rw [decodeShortVec] at hheader
  rw [solanaTransactionSignatures, hheader]
  split
  · next hmany => simp [guard, hone, hmany, hinside]
  · next hmany => simp [guard, hmany]

section Written

variable {header message : Bytes} {encoding : Encoding}

theorem fullySigned_written (hheader : decodeShortVec (header ++ completed.flatten ++ message) =
      some (completed.length, header.length)) (hmessage : message ≠ [])
    (hfilled : Filled prepared receiptSignature completed) (hone : 0 < completed.length) :
    fullySignedSolanaTransactionSignature encoding (header ++ completed.flatten ++ message) =
      if completed.length ≤ 64 then some (encoding.base58Encode receiptSignature) else none := by
  have htotal := flatten_length hfilled.sized
  have hinside : header.length + completed.length * 64 < (header ++ completed.flatten ++ message).length := by
    have hpos := List.length_pos_of_ne_nil hmessage
    rw [List.length_append, List.length_append, htotal]
    omega
  have hbody : ((header ++ completed.flatten ++ message).take (header.length + completed.length * 64)).drop
      header.length = completed.flatten := by
    rw [← htotal, ← List.length_append, List.take_left, List.drop_left]
  have hchunks : signatureChunks completed.flatten = completed := by
    rw [signatureChunks, htotal, Nat.mul_div_cancel _ (by decide), chunks64_flatten hfilled.sized]
  have hsigned : completed.any isZeroSignature = false := by
    rw [List.any_eq_false]
    intro signature hmem
    obtain ⟨index, hindex, rfl⟩ := List.getElem_of_mem hmem
    obtain ⟨found, hfound, hzero, -⟩ := hfilled.slots index hindex
    rw [List.getElem?_eq_getElem hindex, Option.some.injEq] at hfound
    rw [hfound, hzero]
    exact Bool.false_ne_true
  obtain ⟨first, hfirst, -, hreceipt, -⟩ := hfilled.slots 0 hone
  have htake : completed.flatten.take 64 = receiptSignature := by
    have htaken := take_flatten [] hfilled.sized hfirst
    rw [List.append_nil, Nat.zero_mul, List.drop_zero] at htaken
    rw [htaken, hreceipt rfl]
  have hlong : 64 ≤ completed.flatten.length := by omega
  rw [fullySignedSolanaTransactionSignature, signatures_section hheader hone hinside, hbody]
  split
  · simp only [Option.bind_eq_bind, Option.bind_some, hchunks, hsigned, guard, Bool.false_eq_true,
      not_false_eq_true, if_true, hlong, htake, Option.pure_def]
  · rfl

theorem matches_written (hwire : WireOrder prepared decoded count) (hcount : completed.length = count)
    (hheader : decodeShortVec (header ++ completed.flatten ++ decoded.messageBytes) =
      some (completed.length, header.length))
    (hfilled : Filled prepared receiptSignature completed) (hone : 0 < completed.length) :
    matchesPreparedTransaction encoding prepared (header ++ completed.flatten ++ decoded.messageBytes)
        (encoding.base58Encode receiptSignature) = true ↔
      decodeShortVec prepared = some (completed.length, header.length) := by
  rw [matchesPreparedTransaction, hheader]
  constructor
  · intro h
    split at h
    · next left right hleft hright =>
      cases hright
      simp only [Bool.and_eq_true, decide_eq_true_eq] at h
      rw [hleft, h.1.1.1.1]
    · cases h
  · intro hprepared
    have hprefix : header.length = prefixLength prepared := shortVec_leading hprepared
    have hinside := hwire.inside
    have hmessage : prepared.drop (header.length + completed.length * 64) = decoded.messageBytes := by
      rw [hwire.message, hprefix, hcount]
    have hlength : prepared.length = (header ++ completed.flatten ++ decoded.messageBytes).length := by
      have hdropped := congrArg List.length hmessage
      rw [List.length_drop, hcount, hprefix] at hdropped
      rw [List.length_append, List.length_append, flatten_length hfilled.sized, hcount, hprefix]
      omega
    rw [hprepared]
    simp only [Bool.and_eq_true, decide_eq_true_eq, true_and, List.all_eq_true, List.mem_range]
    refine ⟨⟨⟨⟨hlength, hone, ?_⟩, ?_⟩, ?_⟩, ?_⟩
    · rw [hcount, hprefix]
      exact hinside.le
    · rw [hmessage, drop_written hfilled.sized]
    · intro index hindex
      obtain ⟨signature, hget, hzero, -, hkept⟩ := hfilled.slots index hindex
      rw [slot_written hfilled.sized hget, slotMatches, hprefix]
      split
      · rw [hzero]
        rfl
      · next hpresent =>
        rw [decide_eq_true_eq]
        exact hkept (by simpa using hpresent)
    · obtain ⟨first, hfirst, -, hreceipt, -⟩ := hfilled.slots 0 hone
      rw [slot_written hfilled.sized hfirst, hreceipt rfl]

end Written

theorem completion_iff (hlib : lib.Faithful)
    (h : completePayShReceiptTransaction lib preparedTransactionBase64 receiptReference = some evidence) :
    ∃ prepared finalized, decodeCanonicalBase64 preparedTransactionBase64 = some prepared ∧
      decodeCanonicalBase64 evidence.finalizedTransactionBase64 = some finalized ∧
      evidence.transactionSignature = receiptReference ∧
      (Completion lib prepared finalized receiptReference ↔ ShortCount prepared) := by
  obtain ⟨prepared, receiptSignature, decoded, completed, header, roundTrip, hcompleted, rfl⟩ :=
    completed_of_receipt h
  obtain ⟨count, hwire⟩ := hlib.decodes _ _ hcompleted.decodes
  obtain ⟨hcount, hfilled⟩ := hcompleted.filled hwire
  have hheader := hcompleted.header_eq
  have hreference := hlib.base58 _ _ hcompleted.receives
  have hone : 0 < completed.length := by
    have hsome := hcompleted.some_signature
    rw [hwire.length] at hsome
    omega
  have hmessage : decoded.messageBytes ≠ [] := by
    have hinside := hwire.inside
    rw [hwire.message, Ne, List.drop_eq_nil_iff]
    omega
  have hfinalized : header ++ completed.flatten ++ decoded.messageBytes ≠ [] :=
    List.append_ne_nil_of_right_ne_nil _ hmessage
  have hslots := hcompleted.roundTrip_signatures hlib hfilled
  refine ⟨prepared, _, hcompleted.canonical, decodeCanonical_encode hfinalized, rfl, ?_, ?_⟩
  · intro hcompletion
    have hmatched := hcompletion.matched
    rw [← hreference, matches_written hwire hcount hheader hfilled hone] at hmatched
    have hsigned := hcompletion.signed
    rw [fullySigned_written hheader hmessage hfilled hone] at hsigned
    split at hsigned
    · next hmany =>
      have hcounts := hcompleted.counts
      rw [encode_small (by omega), Option.some.injEq] at hcounts
      rw [← hcounts] at hmatched
      obtain ⟨byte, rest, hprepared, hbyte, -⟩ := shortVec_one hmatched
      exact ⟨byte, rest, hprepared, hbyte ▸ hmany⟩
    · cases hsigned
  · rintro ⟨byte, rest, hprepared, hmany⟩
    have hshort : decodeShortVec prepared = some (byte.toNat, 1) := by
      rw [hprepared]
      exact shortVec_short (by omega)
    have hbyte : byte.toNat = completed.length := by
      rw [hcount]
      exact hwire.header _ _ hshort
    have hcounts := hcompleted.counts
    rw [encode_small (by omega), Option.some.injEq] at hcounts
    have hlength : header.length = 1 := by
      rw [← hcounts]
      rfl
    refine ⟨?_, ?_, ?_, ?_, ?_⟩
    · rw [hcompleted.reads, hcompleted.decodes, Option.map_some, Option.map_some, hcompleted.agrees]
    · intro index signature hpresent
      rw [hcompleted.decodes, Option.bind_some] at hpresent
      have hindex : index < count := by
        obtain ⟨hindex, -⟩ := List.getElem?_eq_some_iff.mp hpresent
        rwa [hwire.length] at hindex
      rw [hwire.slot_eq hindex, Option.some.injEq, Option.filter_eq_some_iff] at hpresent
      obtain ⟨hslot, hzero⟩ := hpresent
      obtain ⟨found, hfound, -, -, hkept⟩ := hfilled.slots index (hcount ▸ hindex)
      rw [Option.some.injEq] at hslot
      rw [hslot] at hkept
      rw [hcompleted.reads, Option.bind_some, hslots index (hcount ▸ hindex), hfound,
        hkept (by simpa using hzero)]
    · obtain ⟨first, hfirst, -, hreceipt, -⟩ := hfilled.slots 0 hone
      rw [hcompleted.reads, Option.bind_some, hslots 0 hone, hfirst, hreceipt rfl, hcompleted.receives]
    · rw [← hreference, matches_written hwire hcount hheader hfilled hone, hshort, hbyte, hlength]
    · rw [fullySigned_written hheader hmessage hfilled hone, if_pos (by omega), hreference]

-- both halves: what the encoder writes is read back, and when a receipt completes a transaction
theorem receipt_completion (hlib : lib.Faithful) :
    (∀ n header rest, encodeCompactU16 n = some header →
      decodeShortVec (header ++ rest) = some (n, header.length)) ∧
    ∀ preparedTransactionBase64 receiptReference evidence,
      completePayShReceiptTransaction lib preparedTransactionBase64 receiptReference = some evidence →
      ∃ prepared finalized, decodeCanonicalBase64 preparedTransactionBase64 = some prepared ∧
        decodeCanonicalBase64 evidence.finalizedTransactionBase64 = some finalized ∧
        evidence.transactionSignature = receiptReference ∧
        (Completion lib prepared finalized receiptReference ↔ ShortCount prepared) := by
  refine ⟨?_, ?_⟩
  · intro n header rest hheader
    exact shortVec_encode hheader rest
  · intro preparedTransactionBase64 receiptReference evidence hreturned
    exact completion_iff hlib hreturned

section Sample

def completingReference : String :=
  "2AXDGYSE4f2sz7tvMMzyHvUfcoJmxudvdhBcmiUSo6ijwfYmfZYsKRxboQMPh3R4kUhXRVdtSXFXMheka4Rc4P2"

def completingReceipt : Bytes := List.replicate 64 1

-- two signers: the first pays the fee and has not signed, the second has
def completingMessage : Bytes :=
  [2, 0, 0, 2] ++ List.replicate 32 7 ++ List.replicate 32 8 ++ List.replicate 32 9 ++ [0]

def completingSlots : Bytes := List.replicate 64 0 ++ List.replicate 64 3

def completingPrepared : Bytes := [2] ++ completingSlots ++ completingMessage

-- the same transaction, its count written in two bytes
def completingLong : Bytes := [0x82, 0] ++ completingSlots ++ completingMessage

def completingDecoder (bytes : Bytes) : Option DecodedTransaction :=
  match decodeShortVec bytes with
  | some (value, length) =>
    if bytes[length + value * 64]? = some (UInt8.ofNat value) then some
      { signatures := (List.range value).map fun index =>
          some (slot bytes length index) |>.filter fun signature => !isZeroSignature signature
        messageBytes := bytes.drop (length + value * 64) }
    else none
  | none => none

def completingLibraries : ReceiptLibraries where
  base58 :=
    { base58Decode := fun text => if text = completingReference then some completingReceipt else none
      base58Encode := fun bytes => if bytes = completingReceipt then completingReference else ""
      base64Decode := fun text => base64Groups text.toList }
  transactionDecoder := completingDecoder

theorem completing_faithful : completingLibraries.Faithful := by
  refine ⟨?_, ?_⟩
  · intro bytes decoded hdecoded
    change completingDecoder bytes = some decoded at hdecoded
    rw [completingDecoder] at hdecoded
    split at hdecoded
    · next value length hheader =>
      split at hdecoded
      · next hsigners =>
        obtain ⟨hinside, -⟩ := List.getElem?_eq_some_iff.mp hsigners
        cases hdecoded
        rw [shortVec_leading hheader] at hinside ⊢
        refine ⟨value, hinside, rfl, rfl, ?_⟩
        intro value' length' hheader'
        rw [hheader] at hheader'
        cases hheader'
        rfl
      · cases hdecoded
    · cases hdecoded
  · intro text bytes htext
    change (if text = completingReference then some completingReceipt else none) = some bytes at htext
    split at htext
    · next hname =>
      cases htext
      change (if completingReceipt = completingReceipt then completingReference else "") = text
      rw [if_pos rfl, hname]
    · cases htext

theorem receipt_completion_sample :
    ∃ evidence finalized, completePayShReceiptTransaction completingLibraries (encodeBase64 completingPrepared)
        completingReference = some evidence ∧
      decodeCanonicalBase64 evidence.finalizedTransactionBase64 = some finalized ∧
      Completion completingLibraries completingPrepared finalized completingReference := by
  have hsame : decodeCanonicalBase64 (encodeBase64 completingPrepared) = some completingPrepared :=
    decodeCanonical_encode (by decide)
  have hreturned : (completePayShReceiptTransaction completingLibraries (encodeBase64 completingPrepared)
      completingReference).isSome = true := by
    rw [completePayShReceiptTransaction, hsame]
    decide +kernel
  obtain ⟨evidence, hevidence⟩ := Option.isSome_iff_exists.mp hreturned
  obtain ⟨prepared, finalized, hprepared, hfinalized, -, hcompletion⟩ :=
    (receipt_completion completing_faithful).2 _ _ _ hevidence
  rw [hsame, Option.some.injEq] at hprepared
  subst hprepared
  exact ⟨evidence, finalized, hevidence, hfinalized, hcompletion.mpr ⟨2, _, rfl, by decide⟩⟩

-- the receipt is given out, and what it completes is no longer the prepared transaction
theorem long_count_drifts : ∃ evidence finalized,
    completePayShReceiptTransaction completingLibraries (encodeBase64 completingLong) completingReference =
      some evidence ∧
    decodeCanonicalBase64 evidence.finalizedTransactionBase64 = some finalized ∧
    ¬Completion completingLibraries completingLong finalized completingReference := by
  have hsame : decodeCanonicalBase64 (encodeBase64 completingLong) = some completingLong :=
    decodeCanonical_encode (by decide)
  have hreturned : (completePayShReceiptTransaction completingLibraries (encodeBase64 completingLong)
      completingReference).isSome = true := by
    rw [completePayShReceiptTransaction, hsame]
    decide +kernel
  obtain ⟨evidence, hevidence⟩ := Option.isSome_iff_exists.mp hreturned
  obtain ⟨prepared, finalized, hprepared, hfinalized, -, hcompletion⟩ :=
    completion_iff completing_faithful hevidence
  rw [hsame, Option.some.injEq] at hprepared
  subst hprepared
  refine ⟨evidence, finalized, hevidence, hfinalized, ?_⟩
  rw [hcompletion]
  rintro ⟨count, rest, hcount, hmany⟩
  cases hcount
  revert hmany
  decide

end Sample

end Obulus.Gateway
