import Obulus.Foundation.Pieces
import Obulus.Search.Lexicon

namespace Obulus.Quality

open Foundation Search

def minChars : Nat := 90

def minWords : Nat := 14

def minHangulChars : Nat := 60

def minHangulWords : Nat := 10

def echoMax : Float32 := 0.55

structure AnswerIssue where
  rule : String
  detail : String
  deriving DecidableEq, Repr

def privateIdentifiers : AnswerIssue :=
  ⟨"Private identifiers", "Remove email addresses, phone numbers, or long account-like numbers before publishing this answer."⟩

def isHangul (c : Char) : Bool := '가' ≤ c && c ≤ '힣'

def stopwords : List String :=
  ["about", "after", "again", "also", "because", "been", "before", "being", "between", "both",
    "could", "does", "doing", "during", "each", "from", "have", "having", "here", "into", "just",
    "like", "more", "most", "much", "only", "other", "over", "same", "some", "such", "than", "that",
    "their", "them", "then", "there", "these", "they", "this", "those", "through", "very", "were",
    "what", "when", "where", "which", "while", "with", "would", "your", "actually", "really", "thing",
    "things", "something"]

def isStopword (word : List Char) : Bool := stopwords.contains (String.ofList word)

-- trimmed from both ends of a word before it is read as an address
def wraps (c : Char) : Bool := ",.;:()[]{}<>".toList.contains c

def separates (c : Char) : Bool := isWhiteSpace c || ",.;:()[]{}".toList.contains c

def isAddress (token : List Char) : Bool :=
  match token.splitOn '@' with
  | [localPart, domain] => !localPart.isEmpty && domain.contains '.'
  | _ => false

def containsDirectIdentifier (text : List Char) : Bool :=
  ((splitWhitespace text).any fun token => isAddress (strip wraps token)) ||
    (decide (10 ≤ text.countP Char.isDigit) &&
      (text.splitOnP separates).any fun token => decide (10 ≤ token.countP Char.isDigit))

def koreanEndings : List String := ["에서는", "에서", "에는", "으로", "까지", "부터"]

def placeEndings : List String := ["동", "구", "시", "역", "로", "길", "시장", "학교", "병원", "공원"]

section Words

variable (std : StdLib)

def contentWords (text : List Char) : List (List Char) :=
  (((std.lowercase text).splitOnP fun c => !std.isAlphanumeric c).filter fun word =>
    if word.any isHangul then decide (2 ≤ word.length) else decide (4 ≤ word.length)).filter
    fun word => !isStopword word

def placeName (raw : List Char) : Bool :=
  let word := strip (fun c => !std.isAlphanumeric c) raw
  if word.length < 3 || !word.any isHangul then false
  else
    let stem := match koreanEndings.find? fun ending => ending.toList.isSuffixOf word with
      | some ending => stripSuffix ending.toList word
      | none => word
    placeEndings.any fun ending => ending.toList.isSuffixOf stem

def hasSpecifics (text : List Char) : Bool :=
  text.any Char.isDigit || (((splitWhitespace text).drop 1).any fun word => word.head?.any std.isUppercase) ||
    (splitWhitespace text).any (placeName std)

def repeatedPhraseRatio (text : List Char) : Float32 :=
  let words := contentWords std text
  if words.length < 12 then 0.0
  else
    let pairs := List.zipWith (fun first second => first ++ ' ' :: second) words words.tail
    1.0 - Float32.ofNat pairs.dedup.length / Float32.ofNat pairs.length

def assess (question answer : String) : List AnswerIssue :=
  let text := strip isWhiteSpace answer.toList
  if text.isEmpty then [⟨"Low-effort answers", "The answer is empty."⟩]
  else
    let unique := (contentWords std text).dedup
    let containsHangul := text.any isHangul
    let short :=
      if text.length < (if containsHangul then minHangulChars else minChars) ||
          unique.length < (if containsHangul then minHangulWords else minWords) then
        [⟨"Low-effort answers", "Too short to be a document. Nobody buys one line, and the buyer is charged for every opened answer."⟩]
      else []
    let unspecific :=
      if !hasSpecifics std text then
        [⟨"Low-effort answers", "No place, time, price, or number appears in the answer. Those lived details are the part worth paying for."⟩]
      else []
    let asked := contentWords std question.toList
    let echoing :=
      if !asked.isEmpty && !unique.isEmpty &&
          decide (echoMax < Float32.ofNat (unique.countP (asked.contains ·)) / Float32.ofNat unique.length) then
        [⟨"Low-effort answers", "Mostly repeats the question instead of describing what actually happened."⟩]
      else []
    let identifying := if containsDirectIdentifier text then [privateIdentifiers] else []
    let repetitive :=
      if 0.45 < repeatedPhraseRatio std text then
        [⟨"Repetitive answer", "The answer repeats the same phrase too often to be useful evidence."⟩]
      else []
    short ++ unspecific ++ echoing ++ identifying ++ repetitive

end Words

variable {std : StdLib} {question answer : String} {text word token left right localPart domain : List Char}

def Caught (std : StdLib) (question answer : String) : Prop :=
  ∃ issue ∈ assess std question answer, issue.rule = "Private identifiers"

theorem not_identifier_nil : containsDirectIdentifier [] = false := by
  decide

theorem caught_iff : Caught std question answer ↔
    containsDirectIdentifier (strip isWhiteSpace answer.toList) = true := by
  rw [Caught, assess]
  split
  · next hempty =>
    rw [List.isEmpty_iff.mp hempty, not_identifier_nil]
    simp
  · constructor
    · rintro ⟨issue, hmem, hrule⟩
      simp only [List.mem_append, List.mem_ite_nil_right, List.mem_singleton] at hmem
      rcases hmem with (((⟨-, rfl⟩ | ⟨-, rfl⟩) | ⟨-, rfl⟩) | ⟨hfound, -⟩) | ⟨-, rfl⟩
      · simp at hrule
      · simp at hrule
      · simp at hrule
      · exact hfound
      · simp at hrule
    · intro hfound
      refine ⟨privateIdentifiers, ?_, rfl⟩
      simp only [List.mem_append, List.mem_ite_nil_right, List.mem_singleton]
      exact .inl (.inr ⟨hfound, trivial⟩)

theorem separates_of_whiteSpace (c : Char) (h : isWhiteSpace c = true) : separates c = true := by
  rw [separates, h, Bool.true_or]

theorem isAddress_iff : isAddress token = true ↔ ∃ localPart domain,
    token = localPart ++ '@' :: domain ∧ '@' ∉ localPart ∧ '@' ∉ domain ∧
      localPart ≠ [] ∧ '.' ∈ domain := by
  rw [isAddress]
  constructor
  · intro h
    split at h
    · next localPart domain hsplit =>
      obtain ⟨htoken, hlocal, hdomain⟩ := splitOn_eq_pair.mp hsplit
      simp only [Bool.and_eq_true, Bool.not_eq_true', List.isEmpty_eq_false_iff,
        List.contains_iff_mem] at h
      exact ⟨localPart, domain, htoken, hlocal, hdomain, h.1, h.2⟩
    · cases h
  · rintro ⟨localPart, domain, htoken, hlocal, hdomain, hnonempty, hdot⟩
    rw [splitOn_eq_pair.mpr ⟨htoken, hlocal, hdomain⟩]
    simp [hnonempty, hdot]

end Obulus.Quality
