import Obulus.Gateway.Wire
import Obulus.Store.CompactU16

namespace Obulus.Gateway

open Foundation Store

def slotMatches (prepared candidate : Bytes) : Bool :=
  if isZeroSignature prepared then !isZeroSignature candidate else decide (prepared = candidate)

-- the orchestrator's own comparison; the gateway's is `equalPreparedTransaction`
def matchesPreparedTransaction (encoding : Encoding) (prepared candidate : Bytes)
    (rpcSignature : String) : Bool :=
  match decodeShortVec prepared, decodeShortVec candidate with
  | some left, some right =>
    decide (left = right ∧ prepared.length = candidate.length ∧ 1 ≤ left.1 ∧
        left.2 + left.1 * 64 ≤ prepared.length) &&
      decide (prepared.drop (left.2 + left.1 * 64) = candidate.drop (left.2 + left.1 * 64)) &&
      (List.range left.1).all (fun index =>
        slotMatches (slot prepared left.2 index) (slot candidate left.2 index)) &&
      decide (encoding.base58Encode (slot candidate right.2 0) = rpcSignature)
  | _, _ => false

variable {lib : Libraries} {encoding : Encoding} {prepared candidate left right bytes : Bytes}
  {rpcSignature : String} {value length index : Nat}

theorem isPrefixOf_iff_eq (h : left.length = right.length) :
    left.isPrefixOf right = true ↔ left = right := by
  rw [List.isPrefixOf_iff_prefix]
  constructor
  · intro hprefix
    exact hprefix.eq_of_length h
  · rintro rfl
    exact List.prefix_rfl

theorem slotAgrees_eq (h : left.length = right.length) : slotAgrees left right = slotMatches left right := by
  rw [slotAgrees, slotMatches]
  split
  · rfl
  · rw [Bool.eq_iff_iff, isPrefixOf_iff_eq h, decide_eq_true_eq]

theorem slot_length_eq (h : left.length = right.length) (length index : Nat) :
    (slot left length index).length = (slot right length index).length := by
  simp [slot, subarray, h]

theorem envelope_header (h : hasValidTransactionEnvelope bytes = true) : ∃ value length,
    decodeShortVec bytes = some (value, length) ∧ 1 ≤ value ∧ value ≤ 64 ∧
      length + value * 64 < bytes.length := by
  simp only [hasValidTransactionEnvelope, Option.any_eq_true, decide_eq_true_eq] at h
  obtain ⟨⟨value, length⟩, hheader, hvalue⟩ := h
  exact ⟨value, length, hheader, hvalue⟩

theorem matchers_agree (henvelope : hasValidTransactionEnvelope prepared = true) :
    matchesPreparedTransaction lib.encoding prepared candidate rpcSignature =
      equalPreparedTransaction lib prepared candidate rpcSignature := by
  obtain ⟨value, length, hheader, hone, -, hfits⟩ := envelope_header henvelope
  rw [matchesPreparedTransaction, equalPreparedTransaction, hheader]
  cases hcandidate : decodeShortVec candidate with
  | none => rfl
  | some right =>
    by_cases hsame : (value, length) = right ∧ prepared.length = candidate.length
    · obtain ⟨rfl, hlength⟩ := hsame
      have hmessage : (prepared.drop (length + value * 64)).isPrefixOf
          (candidate.drop (length + value * 64)) =
          decide (prepared.drop (length + value * 64) = candidate.drop (length + value * 64)) := by
        rw [Bool.eq_iff_iff, decide_eq_true_eq]
        exact isPrefixOf_iff_eq (by rw [List.length_drop, List.length_drop, hlength])
      have hslots : (List.range value).all (fun index =>
          slotAgrees (slot prepared length index) (slot candidate length index)) =
          (List.range value).all fun index =>
            slotMatches (slot prepared length index) (slot candidate length index) := by
        congr 1
        funext index
        exact slotAgrees_eq (slot_length_eq hlength length index)
      dsimp only
      rw [hmessage, hslots]
      simp [hlength, hone, hlength ▸ hfits.le]
    · dsimp only
      have hleft : decide ((value, length) = right ∧ prepared.length = candidate.length ∧ 1 ≤ value ∧
          length + value * 64 ≤ prepared.length) = false := by
        rw [decide_eq_false_iff_not]
        rintro ⟨hheaders, hlength, -⟩
        exact hsame ⟨hheaders, hlength⟩
      rw [hleft, decide_eq_false hsame]
      simp

end Obulus.Gateway
