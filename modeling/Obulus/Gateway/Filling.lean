import Obulus.Gateway.Matchers
import Obulus.Store.Base64

namespace Obulus.Gateway

open Foundation Store

-- the bytes of the prepared transaction, its empty signature slots filled and nothing else changed
structure Fills (prepared candidate : Bytes) (value length : Nat) : Prop where
  header : candidate.take length = prepared.take length
  message : candidate.drop (length + value * 64) = prepared.drop (length + value * 64)
  sized : candidate.length = prepared.length
  empty : ∀ index < value, isZeroSignature (slot prepared length index) = true →
    isZeroSignature (slot candidate length index) = false
  kept : ∀ index < value, isZeroSignature (slot prepared length index) = false →
    slot candidate length index = slot prepared length index

def FillsEmptySlots (prepared candidate : Bytes) : Prop :=
  ∃ value length, decodeShortVec prepared = some (value, length) ∧ Fills prepared candidate value length

def paymentAttemptIdFromSettledTransaction (lib : Libraries) (sha256 : String → String)
    (transactionBase64 : String) : Option String :=
  let bytes := lib.bufferFromBase64 transactionBase64
  match decodeShortVec bytes with
  | some (signatureCount, length) =>
    if signatureCount < 1 ∨ bytes.length ≤ length + signatureCount * 64 then none
    else
      let reconstructed := bytes.take length ++ List.replicate 64 0 ++ bytes.drop (length + 64)
      some (sha256 (encodeBase64 reconstructed))
  | none => none

variable {lib : Libraries} {prepared candidate bytes other : Bytes} {rpcSignature : String}
  {value length count index : Nat}

theorem header_of_take (h : decodeShortVec prepared = some (value, length))
    (htake : candidate.take length = prepared.take length) :
    decodeShortVec candidate = some (value, length) := by
  have hlength := shortVec_leading h
  rw [decodeShortVec] at h ⊢
  refine shortVec_of_take h ?_
  rw [← hlength, htake]

theorem slotAgrees_iff (hlength : bytes.length = other.length) : slotAgrees bytes other = true ↔
    (isZeroSignature bytes = true → isZeroSignature other = false) ∧
      (isZeroSignature bytes = false → other = bytes) := by
  rw [slotAgrees]
  split
  · next hzero => simp [hzero]
  · next hzero =>
    rw [Bool.not_eq_true] at hzero
    rw [isPrefixOf_iff_eq hlength]
    constructor
    · rintro rfl
      exact ⟨fun hempty => absurd (hempty.symm.trans hzero) (by decide), fun _ => rfl⟩
    · intro h
      exact (h.2 hzero).symm

-- the gateway's comparison says exactly that, and that the signature is the first one
theorem equal_iff (h : decodeShortVec prepared = some (value, length)) :
    equalPreparedTransaction lib prepared candidate rpcSignature = true ↔
      Fills prepared candidate value length ∧
        lib.encoding.base58Encode (slot candidate length 0) = rpcSignature := by
  rw [equalPreparedTransaction, h]
  constructor
  · intro hequal
    split at hequal
    · next left right hleft hright =>
      cases hleft
      simp only [Bool.and_eq_true, decide_eq_true_eq, List.all_eq_true, List.mem_range] at hequal
      obtain ⟨⟨⟨⟨hheaders, hsized⟩, hmessage⟩, hslots⟩, hsignature⟩ := hequal
      subst hheaders
      have hdrop : (prepared.drop (length + value * 64)).length =
          (candidate.drop (length + value * 64)).length := by
        rw [List.length_drop, List.length_drop, hsized]
      refine ⟨⟨?_, ?_, hsized.symm, ?_, ?_⟩, hsignature⟩
      · exact shortVec_take hright h
      · exact ((isPrefixOf_iff_eq hdrop).mp hmessage).symm
      · intro index hindex
        exact ((slotAgrees_iff (slot_length_eq hsized length index)).mp (hslots index hindex)).1
      · intro index hindex
        exact ((slotAgrees_iff (slot_length_eq hsized length index)).mp (hslots index hindex)).2
    · cases hequal
  · rintro ⟨hfills, hsignature⟩
    rw [header_of_take h hfills.header]
    simp only [Bool.and_eq_true, decide_eq_true_eq, List.all_eq_true, List.mem_range, true_and]
    refine ⟨⟨⟨hfills.sized.symm, ?_⟩, ?_⟩, hsignature⟩
    · rw [hfills.message]
      exact List.isPrefixOf_iff_prefix.mpr List.prefix_rfl
    · intro index hindex
      exact (slotAgrees_iff (slot_length_eq hfills.sized.symm length index)).mpr
        ⟨hfills.empty index hindex, hfills.kept index hindex⟩

-- what lies behind the first slot is the other slots and the message
theorem drop_slots (hslots : ∀ index < value, count ≤ index →
      slot bytes length index = slot other length index)
    (hmessage : bytes.drop (length + value * 64) = other.drop (length + value * 64))
    (hcount : count ≤ value) :
    bytes.drop (length + count * 64) = other.drop (length + count * 64) := by
  induction hcount using Nat.decreasingInduction with
  | self => exact hmessage
  | of_succ count hlt ih =>
    have hnext := ih fun index hindex hle => hslots index hindex (by omega)
    have hskip : length + (count + 1) * 64 = length + count * 64 + 64 := by omega
    have hslot := hslots count hlt le_rfl
    rw [slot, slot, subarray, subarray] at hslot
    have hbehind : (bytes.drop (length + count * 64)).drop 64 =
        (other.drop (length + count * 64)).drop 64 := by
      rw [List.drop_drop, List.drop_drop, ← hskip]
      exact hnext
    rw [← List.take_append_drop 64 (bytes.drop (length + count * 64)), hslot, hbehind,
      List.take_append_drop]

theorem zeroSignature_eq (hzero : isZeroSignature bytes = true) (hlength : bytes.length = count) :
    bytes = List.replicate count 0 := by
  rw [List.eq_replicate_iff]
  refine ⟨hlength, ?_⟩
  intro byte hbyte
  simpa using List.all_eq_true.mp hzero byte hbyte

-- with only the first slot open, a filled transaction with that slot emptied is the prepared one
theorem reconstructed_eq (hfills : Fills prepared candidate value length) (hone : 1 ≤ value)
    (hfits : length + value * 64 < prepared.length)
    (hopen : ∀ index < value, isZeroSignature (slot prepared length index) = true ↔ index = 0) :
    candidate.take length ++ List.replicate 64 0 ++ candidate.drop (length + 64) = prepared := by
  have hrest : candidate.drop (length + 1 * 64) = prepared.drop (length + 1 * 64) := by
    refine drop_slots ?_ hfills.message hone
    intro index hindex hpos
    refine hfills.kept index hindex ?_
    rw [← Bool.not_eq_true, hopen index hindex]
    omega
  have hempty : isZeroSignature (slot prepared length 0) = true := (hopen 0 (by omega)).mpr rfl
  have hsize : (slot prepared length 0).length = 64 := by
    rw [slot, subarray, List.length_take, List.length_drop]
    omega
  rw [Nat.one_mul] at hrest
  rw [hfills.header, hrest, ← zeroSignature_eq hempty hsize, slot, subarray, Nat.zero_mul, Nat.add_zero,
    List.append_assoc, ← List.drop_drop, List.take_append_drop, List.take_append_drop]

theorem attemptId_of_settled {sha256 : String → String} {transactionBase64 preparedBase64 : String}
    (hcanonical : encodeBase64 (lib.bufferFromBase64 preparedBase64) = preparedBase64)
    (henvelope : hasValidTransactionEnvelope (lib.bufferFromBase64 preparedBase64) = true)
    (hopen : ∀ value length, decodeShortVec (lib.bufferFromBase64 preparedBase64) = some (value, length) →
      ∀ index < value, isZeroSignature (slot (lib.bufferFromBase64 preparedBase64) length index) = true ↔
        index = 0)
    (hequal : equalPreparedTransaction lib (lib.bufferFromBase64 preparedBase64)
      (lib.bufferFromBase64 transactionBase64) rpcSignature = true) :
    paymentAttemptIdFromSettledTransaction lib sha256 transactionBase64 = some (sha256 preparedBase64) := by
  obtain ⟨value, length, hheader, hone, -, hfits⟩ := envelope_header henvelope
  have hfills := ((equal_iff hheader).mp hequal).1
  have hsized := hfills.sized
  rw [paymentAttemptIdFromSettledTransaction]
  dsimp only
  rw [header_of_take hheader hfills.header]
  dsimp only
  rw [if_neg (by omega), reconstructed_eq hfills hone hfits (hopen value length hheader), hcanonical]

end Obulus.Gateway
