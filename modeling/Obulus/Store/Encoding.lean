import Obulus.Store.Solana

namespace Obulus.Store

def ofDigits (base : Nat) (digits : List Nat) : Nat :=
  digits.foldl (fun n d => n * base + d) 0

def toDigits (base : Nat) : Nat → Nat → List Nat
  | 0, _ => []
  | fuel + 1, n => if n = 0 then [] else toDigits base fuel (n / base) ++ [n % base]

def rebase (source target fuel : Nat) (digits : List Nat) : List Nat :=
  List.replicate (digits.takeWhile (· = 0)).length 0 ++
    toDigits target fuel (ofDigits source digits)

def decodeBase58 (value : String) : Option Bytes := do
  let digits ← value.toList.mapM fun c => base58Alphabet.findIdx? fun d => d.toNat == c.toNat
  return (rebase 58 256 value.length digits).map UInt8.ofNat

theorem decodeBase58_ofList {text : List Char} : decodeBase58 (String.ofList text) =
    (text.mapM fun c => base58Alphabet.findIdx? fun d => d.toNat == c.toNat).map fun digits =>
      (rebase 58 256 text.length digits).map UInt8.ofNat := by
  rw [decodeBase58, String.toList_ofList, String.length_ofList]
  cases text.mapM fun c => base58Alphabet.findIdx? fun d => d.toNat == c.toNat <;> rfl

def encodeBase58 (bytes : Bytes) : String :=
  String.ofList <|
    (rebase 256 58 (2 * bytes.length) (bytes.map UInt8.toNat)).map fun d => base58Alphabet.getD d '1'

def base64Alphabet : List Char :=
  ['A', 'B', 'C', 'D', 'E', 'F', 'G', 'H', 'I', 'J', 'K', 'L', 'M', 'N', 'O', 'P', 'Q', 'R', 'S',
    'T', 'U', 'V', 'W', 'X', 'Y', 'Z', 'a', 'b', 'c', 'd', 'e', 'f', 'g', 'h', 'i', 'j', 'k',
    'l', 'm', 'n', 'o', 'p', 'q', 'r', 's', 't', 'u', 'v', 'w', 'x', 'y', 'z', '0', '1', '2',
    '3', '4', '5', '6', '7', '8', '9', '+', '/']

def base64Digit (c : Char) : Option Nat :=
  base64Alphabet.findIdx? fun d => d.toNat == c.toNat

def base64Groups : List Char → Option Bytes
  | [] => some []
  | [a, b, '=', '='] => do
    let x ← base64Digit a
    let y ← base64Digit b
    guard (y % 16 = 0)
    return [UInt8.ofNat (x * 4 + y / 16)]
  | [a, b, c, '='] => do
    let x ← base64Digit a
    let y ← base64Digit b
    let z ← base64Digit c
    guard (z % 4 = 0)
    return [UInt8.ofNat (x * 4 + y / 16), UInt8.ofNat (y % 16 * 16 + z / 4)]
  | a :: b :: c :: d :: rest => do
    let x ← base64Digit a
    let y ← base64Digit b
    let z ← base64Digit c
    let w ← base64Digit d
    let bytes ← base64Groups rest
    return UInt8.ofNat (x * 4 + y / 16) :: UInt8.ofNat (y % 16 * 16 + z / 4) ::
      UInt8.ofNat (z % 4 * 64 + w) :: bytes
  | _ => none

def Encoding.standard : Encoding where
  base58Decode := decodeBase58
  base58Encode := encodeBase58
  base64Decode := fun value => base64Groups value.toList

theorem base64Decode_ofList (text : List Char) :
    Encoding.standard.base64Decode (String.ofList text) = base64Groups text :=
  congrArg base64Groups String.toList_ofList

example : validSolanaAddress .standard "EPjFWdd5AufqSSqeM2qN1xzybapC8G4wEGGkZwyTDt1v" = true := by
  decide

end Obulus.Store
