import Mathlib.Tactic.Common
import Obulus.Store.Encoding

namespace Obulus.Store

def base64Char (n : Nat) : Char := base64Alphabet.getD n '='

def base64Chars : Bytes → List Char
  | [] => []
  | [x] => [base64Char (x.toNat / 4), base64Char (x.toNat % 4 * 16), '=', '=']
  | [x, y] =>
    [base64Char (x.toNat / 4), base64Char (x.toNat % 4 * 16 + y.toNat / 16),
      base64Char (y.toNat % 16 * 4), '=']
  | x :: y :: z :: rest =>
    base64Char (x.toNat / 4) :: base64Char (x.toNat % 4 * 16 + y.toNat / 16) ::
      base64Char (y.toNat % 16 * 4 + z.toNat / 64) :: base64Char (z.toNat % 64) :: base64Chars rest

def encodeBase64 (bytes : Bytes) : String := String.ofList (base64Chars bytes)

variable {n m : Nat} {a b c d : Char} {rest : List Char}

theorem base64Digit_char (h : n < 64) : base64Digit (base64Char n) = some n := by
  have hall : ∀ n < 64, base64Digit (base64Char n) = some n := by decide
  exact hall n h

theorem base64Char_ne (h : n < 64) : base64Char n ≠ '=' := by
  have hall : ∀ n < 64, base64Char n ≠ '=' := by decide
  exact hall n h

theorem ofNat_eq (byte : UInt8) (h : n = byte.toNat) : UInt8.ofNat n = byte := by
  rw [h, UInt8.ofNat_toNat]

theorem base64Groups_four (hd : d ≠ '=') : base64Groups (a :: b :: c :: d :: rest) = (do
    let x ← base64Digit a
    let y ← base64Digit b
    let z ← base64Digit c
    let w ← base64Digit d
    let bytes ← base64Groups rest
    return UInt8.ofNat (x * 4 + y / 16) :: UInt8.ofNat (y % 16 * 16 + z / 4) ::
      UInt8.ofNat (z % 4 * 64 + w) :: bytes) := by
  rw [base64Groups]
  · rintro rfl rfl
    exact absurd rfl hd
  · rintro rfl
    exact absurd rfl hd

theorem base64Groups_chars : ∀ bytes : Bytes, base64Groups (base64Chars bytes) = some bytes
  | [] => rfl
  | [x] => by
    have hx := x.toNat_lt
    have hone : UInt8.ofNat (x.toNat / 4 * 4 + x.toNat % 4 * 16 / 16) = x := ofNat_eq x (by omega)
    have hnone : x.toNat % 4 * 16 % 16 = 0 := by omega
    rw [base64Chars, base64Groups, base64Digit_char (by omega), base64Digit_char (by omega)]
    simp only [Option.bind_eq_bind, Option.bind_some, guard, hnone, if_true, hone, Option.pure_def]
  | [x, y] => by
    have hx := x.toNat_lt
    have hy := y.toNat_lt
    have hone : UInt8.ofNat (x.toNat / 4 * 4 + (x.toNat % 4 * 16 + y.toNat / 16) / 16) = x :=
      ofNat_eq x (by omega)
    have htwo : UInt8.ofNat ((x.toNat % 4 * 16 + y.toNat / 16) % 16 * 16 + y.toNat % 16 * 4 / 4) = y :=
      ofNat_eq y (by omega)
    have hnone : y.toNat % 16 * 4 % 4 = 0 := by omega
    have hpad : base64Char (y.toNat % 16 * 4) ≠ '=' := base64Char_ne (by omega)
    rw [base64Chars, base64Groups, base64Digit_char (by omega), base64Digit_char (by omega),
      base64Digit_char (by omega)]
    · simp only [Option.bind_eq_bind, Option.bind_some, guard, hnone, if_true, hone, htwo,
        Option.pure_def]
    · intro h
      exact absurd h hpad
  | x :: y :: z :: rest => by
    have hx := x.toNat_lt
    have hy := y.toNat_lt
    have hz := z.toNat_lt
    have hone : UInt8.ofNat (x.toNat / 4 * 4 + (x.toNat % 4 * 16 + y.toNat / 16) / 16) = x :=
      ofNat_eq x (by omega)
    have htwo : UInt8.ofNat ((x.toNat % 4 * 16 + y.toNat / 16) % 16 * 16 +
        (y.toNat % 16 * 4 + z.toNat / 64) / 4) = y := ofNat_eq y (by omega)
    have hthree : UInt8.ofNat ((y.toNat % 16 * 4 + z.toNat / 64) % 4 * 64 + z.toNat % 64) = z :=
      ofNat_eq z (by omega)
    rw [base64Chars, base64Groups_four (base64Char_ne (by omega)), base64Digit_char (by omega),
      base64Digit_char (by omega), base64Digit_char (by omega), base64Digit_char (by omega),
      base64Groups_chars rest]
    simp only [Option.bind_eq_bind, Option.bind_some, hone, htwo, hthree, Option.pure_def]

-- what is read of a text that only one sequence of bytes is written as
def decodeCanonicalBase64 (value : String) : Option Bytes :=
  (base64Groups value.toList).filter fun bytes => bytes ≠ [] && encodeBase64 bytes = value

theorem decodeCanonical_encode {bytes : Bytes} (h : bytes ≠ []) :
    decodeCanonicalBase64 (encodeBase64 bytes) = some bytes := by
  rw [decodeCanonicalBase64, encodeBase64, String.toList_ofList, base64Groups_chars]
  simp [Option.filter, h, encodeBase64]

end Obulus.Store
