import Mathlib.Algebra.Order.Ring.Int
import Mathlib.Tactic.Common

namespace Obulus.Foundation

-- `inexact` is every number that is not an integer: fractions, and literals too large for a double.
inductive Json
  | null
  | bool (value : Bool)
  | integer (value : Int)
  | inexact
  | string (value : String)
  | array (items : List Json)
  | object (fields : List (String × Json))
  deriving Repr

namespace Json

-- the last of several fields of one name is the one JSON.parse keeps
def lookup (name : String) : List (String × Json) → Option Json
  | [] => none
  | (key, value) :: fields =>
    match lookup name fields with
    | some value => some value
    | none => if key = name then some value else none

def field (name : String) : Json → Option Json
  | .object fields => lookup name fields
  | _ => none

def isNull : Json → Bool
  | .null => true
  | _ => false

def isText (text : String) : Json → Bool
  | .string value => value = text
  | _ => false

def maxSafeInteger : Int := 2 ^ 53 - 1

def safeInteger : Json → Option Int
  | .integer value => if -maxSafeInteger ≤ value ∧ value ≤ maxSafeInteger then some value else none
  | _ => none

end Json

end Obulus.Foundation
