import Mathlib.Data.List.Infix
import Obulus.Foundation.Text
import Obulus.Search.Authority

namespace Obulus.Search

open Foundation

-- Rust's Unicode tables, and the order in which a hash map is read
structure StdLib where
  toLowercase : Char → List Char
  lowercase : List Char → List Char
  isAlphanumeric : Char → Bool
  isUppercase : Char → Bool
  readOrder : Dictionary Float32 → List (String × Float32)

def embeddingDimensions : Nat := 768

section Terms

def isAscii (term : List Char) : Bool := term.all fun c => c.toNat < 128

def splitWhitespace (text : List Char) : List (List Char) :=
  (text.splitOnP isWhiteSpace).filter (!·.isEmpty)

def stopwords : List String :=
  ["about", "after", "also", "and", "are", "for", "from", "have", "how", "has", "had", "his", "into",
    "its", "not", "our", "people", "she", "that", "the", "their", "them", "this", "what", "when",
    "where", "which", "who", "with", "would", "you", "your", "그리고", "어디", "어떤", "어떻게", "사람",
    "사람들"]

def isStopword (term : String) : Bool := stopwords.contains term

def koreanTopics : List (String × String) :=
  [("파리", "paris"), ("음식", "food"), ("요리", "food"), ("식당", "restaurant"), ("점심", "lunch"),
    ("저녁", "dinner"), ("여행", "travel"), ("가격", "price"), ("비용", "cost"), ("선호", "preference"),
    ("좋아", "preference")]

def stripSuffix (suffix term : List Char) : List Char := term.take (term.length - suffix.length)

def canonicalTerm (term : List Char) : String :=
  if !isAscii term then
    match koreanTopics.find? fun (needle, _) => decide (needle.toList <:+: term) with
    | some (_, canonical) => canonical
    | none => String.ofList term
  else if term = "paris".toList then String.ofList term
  else if 5 < term.length ∧ "ies".toList <:+ term then
    String.ofList (stripSuffix "ies".toList term ++ "y".toList)
  else if 4 < term.length ∧ ¬"ss".toList <:+ term ∧ "s".toList <:+ term then
    String.ofList (stripSuffix "s".toList term)
  else String.ofList term

variable (std : StdLib)

def wordTerms (text : String) : List String :=
  let normalised := (text.toList.flatMap std.toLowercase).map fun c =>
    if std.isAlphanumeric c ∨ ('가' ≤ c ∧ c ≤ '힣') then c else ' '
  ((splitWhitespace normalised).filter fun term =>
    (if isAscii term then (3 ≤ term.length : Bool) else (2 ≤ term.length : Bool)) &&
      !isStopword (String.ofList term)).map canonicalTerm

def capitalisedTerms (text : String) : List String :=
  ((splitWhitespace text.toList).filterMap fun raw =>
    let trimmed := strip (fun c => !std.isAlphanumeric c) raw
    if trimmed.head?.any std.isUppercase then some (canonicalTerm (std.lowercase trimmed))
    else none).filter fun term => !isStopword term

end Terms

section Embedding

def fnv1a (bytes : List UInt8) : UInt64 :=
  bytes.foldl (fun hash byte => (hash ^^^ byte.toUInt64) * 0x100000001b3) 0xcbf29ce484222325

def windows (width : Nat) (characters : List Char) : List (List Char) :=
  (List.range (characters.length + 1 - width)).map fun start => (characters.drop start).take width

def addWeight (counts : Dictionary Float32) (feature : List Char) (weight : Float32) :
    Dictionary Float32 :=
  let feature := String.ofList feature
  counts.insert feature ((counts.lookup feature).getD 0 + weight)

def addGrams (width : Nat) (counts : Dictionary Float32) (term : List Char) : Dictionary Float32 :=
  (windows width term).foldl (fun counts gram =>
    addWeight counts (s!"g{width}:".toList ++ gram) 0.35) counts

def addTerm (counts : Dictionary Float32) (term : String) : Dictionary Float32 :=
  addGrams 3 (addGrams 2 (addWeight counts ("w:".toList ++ term.toList) 2.0) term.toList) term.toList

variable (std : StdLib)

def features (text : String) : List (String × Float32) :=
  std.readOrder ((wordTerms std text).foldl addTerm ∅)

def featureIndex (feature : String) : Nat :=
  (fnv1a (feature.toList.flatMap String.utf8EncodeChar)).toNat % embeddingDimensions

def embed (text : String) : List Float32 :=
  let vector := (features std text).foldl (fun vector (feature, weight) =>
    vector.modify (featureIndex feature) (· + weight)) (List.replicate embeddingDimensions 0)
  let magnitude := (Single.sum (vector.map fun value => value * value)).sqrt
  if 0 < magnitude then vector.map (· / magnitude) else vector

def cosine (left right : List Float32) : Float32 :=
  Single.sum (List.zipWith (· * ·) left right)

end Embedding

end Obulus.Search
