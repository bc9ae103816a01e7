import Mathlib.Algebra.Order.Ring.Int
import Mathlib.Tactic.Common
import Mathlib.Data.List.Basic

namespace Obulus.Foundation

-- A JavaScript number: an integer, or a fraction, an infinity or NaN.
inductive Number
  | integer (n : Int)
  | other
  deriving DecidableEq, Repr

def maxSafeInteger : Int := 9007199254740991

def Number.safeInteger : Number → Option Int
  | integer n => if -maxSafeInteger ≤ n ∧ n ≤ maxSafeInteger then some n else none
  | other => none

theorem Number.safeInteger_eq_some {x : Number} {n : Int} :
    x.safeInteger = some n ↔ x = .integer n ∧ -maxSafeInteger ≤ n ∧ n ≤ maxSafeInteger := by
  cases x with
  | other => simp [safeInteger]
  | integer m =>
    simp only [safeInteger, Option.ite_none_right_eq_some, Option.some.injEq, integer.injEq]
    constructor
    · rintro ⟨h, rfl⟩
      exact ⟨rfl, h⟩
    · rintro ⟨rfl, h⟩
      exact ⟨h, rfl⟩

-- the regular expression ^(0|[1-9][0-9]*)$
def isCanonicalDecimal (value : String) : Bool :=
  match value.toList with
  | [] => false
  | c :: cs => (c :: cs == ['0']) || (c != '0' && (c :: cs).all Char.isDigit)

-- the regular expression ^[1-9]\d*$
def isPositiveDecimal (value : String) : Bool :=
  match value.toList with
  | [] => false
  | c :: cs => c != '0' && (c :: cs).all Char.isDigit

def isScriptSpace (c : Char) : Bool :=
  (0x9 ≤ c.toNat && c.toNat ≤ 0xD) || c.toNat == 0x20 || c.toNat == 0xA0 || c.toNat == 0xFEFF ||
    c.toNat == 0x1680 || (0x2000 ≤ c.toNat && c.toNat ≤ 0x200A) || c.toNat == 0x2028 ||
    c.toNat == 0x2029 || c.toNat == 0x202F || c.toNat == 0x205F || c.toNat == 0x3000

-- a text without space at either end is its own trim
def isTrimmed (text : String) : Bool :=
  !(text.toList.head?.any isScriptSpace) && !(text.toList.getLast?.any isScriptSpace)

-- the length of a text, in UTF-16 units
def scriptLength (text : String) : Nat :=
  (text.toList.map fun c => if c.toNat < 0x10000 then 1 else 2).sum

def bigInt (value : String) : Nat := Nat.ofDigitChars 10 value.toList 0

section Hex

def isHexDigit (c : Char) : Bool :=
  (48 ≤ c.toNat && c.toNat ≤ 57) || (97 ≤ c.toNat && c.toNat ≤ 102)

-- the regular expression ^[0-9a-f]{64}$
def isHexDigest (value : String) : Bool :=
  value.toList.length == 64 && value.toList.all isHexDigit

def hexValue (c : Char) : Nat :=
  if c.toNat ≤ 57 then c.toNat - 48 else c.toNat - 87

def hexChar (n : Nat) : Char :=
  if n < 10 then Char.ofNat (48 + n) else Char.ofNat (87 + n)

def hexPairs : List Char → List UInt8
  | a :: b :: rest => UInt8.ofNat (16 * hexValue a + hexValue b) :: hexPairs rest
  | _ => []

def hexText (bytes : List UInt8) : List Char :=
  bytes.flatMap fun b => [hexChar (b.toNat / 16), hexChar (b.toNat % 16)]

theorem hexPairs_length (cs : List Char) : (hexPairs cs).length = cs.length / 2 := by
  induction cs using hexPairs.induct with
  | case1 a b rest ih =>
    simp only [hexPairs, List.length_cons, ih]
    omega
  | case2 cs h =>
    rcases cs with _ | ⟨a, _ | ⟨b, cs⟩⟩
    · simp [hexPairs]
    · simp [hexPairs]
    · exact absurd rfl (h a b cs)

theorem hexValue_lt {c : Char} (h : isHexDigit c = true) : hexValue c < 16 := by
  simp only [isHexDigit, Bool.or_eq_true, Bool.and_eq_true, decide_eq_true_eq] at h
  unfold hexValue
  split <;> omega

theorem hexChar_hexValue {c : Char} (h : isHexDigit c = true) : hexChar (hexValue c) = c := by
  simp only [isHexDigit, Bool.or_eq_true, Bool.and_eq_true, decide_eq_true_eq] at h
  have hchar : Char.ofNat c.toNat = c := Char.ofNat_toNat c
  unfold hexChar hexValue
  split
  · have hten : c.toNat - 48 < 10 := by omega
    have heq : 48 + (c.toNat - 48) = c.toNat := by omega
    rw [if_pos hten, heq, hchar]
  · have hten : ¬c.toNat - 87 < 10 := by omega
    have heq : 87 + (c.toNat - 87) = c.toNat := by omega
    rw [if_neg hten, heq, hchar]

theorem hexText_hexPairs {cs : List Char} (h : ∀ c ∈ cs, isHexDigit c = true)
    (heven : cs.length % 2 = 0) : hexText (hexPairs cs) = cs := by
  induction cs using hexPairs.induct with
  | case1 a b rest ih =>
    have ha := h a (by simp)
    have hb := h b (by simp)
    have hla := hexValue_lt ha
    have hlb := hexValue_lt hb
    have hrest := ih (fun c hc => h c (by simp [hc])) (by simp only [List.length_cons] at heven; omega)
    have hbyte : (UInt8.ofNat (16 * hexValue a + hexValue b)).toNat = 16 * hexValue a + hexValue b :=
      UInt8.toNat_ofNat_of_lt (by simp only [UInt8.size]; omega)
    have hhigh : (16 * hexValue a + hexValue b) / 16 = hexValue a := by omega
    have hlow : (16 * hexValue a + hexValue b) % 16 = hexValue b := by omega
    unfold hexText at hrest ⊢
    rw [hexPairs, List.flatMap_cons, hbyte, hhigh, hlow, hexChar_hexValue ha, hexChar_hexValue hb,
      hrest]
    rfl
  | case2 cs h' =>
    rcases cs with _ | ⟨a, _ | ⟨b, cs⟩⟩
    · rfl
    · simp at heven
    · exact absurd rfl (h' a b cs)

theorem isHexDigest_length {value : String} (h : isHexDigest value = true) :
    (hexPairs value.toList).toArray.size = 32 := by
  simp only [isHexDigest, Bool.and_eq_true, beq_iff_eq] at h
  rw [List.size_toArray, hexPairs_length, h.1]

theorem hexPairs_injective {s t : String} (hs : isHexDigest s = true) (ht : isHexDigest t = true)
    (h : hexPairs s.toList = hexPairs t.toList) : s = t := by
  simp only [isHexDigest, Bool.and_eq_true, beq_iff_eq, List.all_eq_true] at hs ht
  have hs' := hexText_hexPairs hs.2 (by omega)
  rw [h, hexText_hexPairs ht.2 (by omega)] at hs'
  exact String.toList_injective hs'.symm

end Hex

end Obulus.Foundation
