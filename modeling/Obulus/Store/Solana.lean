import Mathlib.Algebra.Order.Ring.Int
import Mathlib.Data.List.Basic
import Obulus.Foundation.Text

namespace Obulus.Store

open Foundation

abbrev Bytes := List UInt8

structure Encoding where
  base58Decode : String → Option Bytes
  base58Encode : Bytes → String
  base64Decode : String → Option Bytes

def base58Alphabet : List Char :=
  ['1', '2', '3', '4', '5', '6', '7', '8', '9', 'A', 'B', 'C', 'D', 'E', 'F', 'G', 'H', 'J', 'K',
    'L', 'M', 'N', 'P', 'Q', 'R', 'S', 'T', 'U', 'V', 'W', 'X', 'Y', 'Z', 'a', 'b', 'c', 'd',
    'e', 'f', 'g', 'h', 'i', 'j', 'k', 'm', 'n', 'o', 'p', 'q', 'r', 's', 't', 'u', 'v', 'w',
    'x', 'y', 'z']

def isBase58 (value : String) : Bool :=
  !value.isEmpty && value.toList.all fun character => base58Alphabet.any fun c => c.toNat == character.toNat

def chunks64 : Nat → Bytes → List Bytes
  | 0, _ => []
  | n + 1, bytes => bytes.take 64 :: chunks64 n (bytes.drop 64)

def isZeroSignature (signature : Bytes) : Bool :=
  signature.all fun byte => byte == 0

def shortVecFrom (shift offset value : Nat) : Nat → Bytes → Option (Nat × Nat)
  | 0, _ => none
  | _ + 1, [] => none
  | n + 1, byte :: rest =>
    let value := value ||| ((byte.toNat &&& 0x7f) <<< shift)
    if byte.toNat &&& 0x80 = 0 then some (value, offset + 1)
    else shortVecFrom (shift + 7) (offset + 1) value n rest

def solanaTransactionSignatures (transaction : Bytes) : Option Bytes := do
  let (signatureCount, offset) ← shortVecFrom 0 0 0 3 transaction
  guard (0 < signatureCount ∧ signatureCount ≤ 64)
  let messageOffset := offset + signatureCount * 64
  guard (messageOffset < transaction.length)
  return (transaction.take messageOffset).drop offset

def signatureChunks (signatures : Bytes) : List Bytes :=
  chunks64 (signatures.length / 64) signatures

def validX402PreparedTransaction (transaction : Bytes) : Bool :=
  match solanaTransactionSignatures transaction with
  | none => false
  | some signatures =>
    match signatureChunks signatures with
    | [] => false
    | feePayer :: rest =>
      isZeroSignature feePayer && (1 ≤ rest.length : Bool) &&
        rest.all fun signature => !isZeroSignature signature

variable (enc : Encoding)

def validSolanaAddress (value : String) : Bool :=
  (32 ≤ value.utf8ByteSize : Bool) && (value.utf8ByteSize ≤ 44 : Bool) && isBase58 value &&
    (enc.base58Decode value).any fun decoded => decoded.length == 32

theorem base58_alphanumeric : ∀ d ∈ base58Alphabet, isAsciiAlphanumeric d = true :=
  List.all_eq_true.mp (by decide)

theorem trim_base58 {value : String} (h : isBase58 value = true) : trim value = value := by
  simp only [isBase58, Bool.and_eq_true, List.all_eq_true, List.any_eq_true, beq_iff_eq] at h
  apply trim_eq_self
  intro c hc
  obtain ⟨d, hd, heq⟩ := h.2 c hc
  apply not_whiteSpace_of_alphanumeric
  have halpha := base58_alphanumeric d hd
  unfold isAsciiAlphanumeric at halpha ⊢
  rw [← heq]
  exact halpha

variable {enc} in
theorem trim_address {value : String} (h : validSolanaAddress enc value = true) :
    trim value = value := by
  simp only [validSolanaAddress, Bool.and_eq_true] at h
  exact trim_base58 h.1.2

def fullySignedSolanaTransactionSignature (transaction : Bytes) : Option String := do
  let signatures ← solanaTransactionSignatures transaction
  guard (¬(signatureChunks signatures).any isZeroSignature)
  guard (64 ≤ signatures.length)
  return enc.base58Encode (signatures.take 64)

end Obulus.Store
