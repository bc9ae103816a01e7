import Mathlib.Data.List.Lex
import Mathlib.Data.List.Sort
import Obulus.Foundation.Script

namespace Obulus.Hosted

open Foundation

-- an invoice as JSON; all its numbers are integers and the keys of one object are distinct
inductive Value
  | null
  | bool (value : Bool)
  | number (value : Int)
  | string (value : String)
  | array (items : List Value)
  | object (fields : List (String × Value))

section Order

-- a Rust string compares by its bytes, which is by code point, a JavaScript one by its UTF-16 units

def codePoints (text : String) : List Nat := text.toList.map Char.toNat

def utf16Units (c : Char) : List Nat :=
  if c.toNat < 0x10000 then [c.toNat]
  else [0xd800 + (c.toNat - 0x10000) / 0x400, 0xdc00 + (c.toNat - 0x10000) % 0x400]

def utf16 (text : String) : List Nat := text.toList.flatMap utf16Units

def byKey {α : Type} (units : String → List Nat) (fields : List (String × α)) :
    List (String × α) :=
  fields.insertionSort fun a b => units a.1 ≤ units b.1

end Order

section Rust

mutual
def canonicalValue : Value → Value
  | .array items => .array (canonicalItems items)
  | .object fields => .object (byKey codePoints (canonicalFields fields))
  | value => value
def canonicalItems : List Value → List Value
  | [] => []
  | value :: items => canonicalValue value :: canonicalItems items
def canonicalFields : List (String × Value) → List (String × Value)
  | [] => []
  | (key, value) :: fields => (key, canonicalValue value) :: canonicalFields fields
end

-- serde_json: the text it writes for a character inside a string and for a value
structure SerdeJson where
  escape : Char → List Char
  toString : Value → String

-- what its documentation says of the compact text
structure SerdeJson.Documented (serde : SerdeJson) : Prop where
  quote : serde.escape '"' = ['\\', '"']
  reverseSolidus : serde.escape '\\' = ['\\', '\\']
  backspace : serde.escape '\x08' = ['\\', 'b']
  tab : serde.escape '\t' = ['\\', 't']
  lineFeed : serde.escape '\n' = ['\\', 'n']
  formFeed : serde.escape '\x0c' = ['\\', 'f']
  carriageReturn : serde.escape '\r' = ['\\', 'r']
  asciiControl : ∀ c : Char, c.toNat < 32 → c.toNat ∉ [8, 9, 10, 12, 13] →
    serde.escape c = ['\\', 'u', '0', '0', hexChar (c.toNat / 16), hexChar (c.toNat % 16)]
  verbatim : ∀ c : Char, 32 ≤ c.toNat → c ≠ '"' → c ≠ '\\' → serde.escape c = [c]
  nullText : serde.toString .null = "null"
  trueText : serde.toString (.bool true) = "true"
  falseText : serde.toString (.bool false) = "false"
  natural : ∀ n : Nat, serde.toString (.number n) = String.ofList (Nat.toDigits 10 n)
  negative : ∀ n : Nat, serde.toString (.number (-(n + 1 : Nat))) =
    String.ofList ('-' :: Nat.toDigits 10 (n + 1))
  string : ∀ text, serde.toString (.string text) =
    String.ofList ('"' :: (text.toList.flatMap serde.escape ++ ['"']))
  array : ∀ items, serde.toString (.array items) =
    "[" ++ ",".intercalate (items.map serde.toString) ++ "]"
  -- a map is a BTreeMap, written in the order of its keys
  object : ∀ fields : List (String × Value),
    (fields.map fun field => codePoints field.1).Pairwise (· < ·) →
    serde.toString (.object fields) = "\x7b" ++ ",".intercalate (fields.map fun field =>
      serde.toString (.string field.1) ++ ":" ++ serde.toString field.2) ++ "\x7d"

def canonicalJsonRust (serde : SerdeJson) (value : Value) : String :=
  serde.toString (canonicalValue value)

end Rust

end Obulus.Hosted
