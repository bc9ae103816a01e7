import Mathlib.Data.List.DropRight

namespace Obulus.Foundation

def isWhiteSpace (c : Char) : Bool :=
  (0x9 ≤ c.toNat && c.toNat ≤ 0xD) || c.toNat == 0x20 || c.toNat == 0x85 || c.toNat == 0xA0 ||
    c.toNat == 0x1680 || (0x2000 ≤ c.toNat && c.toNat ≤ 0x200A) || c.toNat == 0x2028 ||
    c.toNat == 0x2029 || c.toNat == 0x202F || c.toNat == 0x205F || c.toNat == 0x3000

section Strip

variable {α : Type} {p : α → Bool}

def strip (p : α → Bool) (l : List α) : List α :=
  (l.dropWhile p).rdropWhile p

theorem strip_strip (l : List α) : strip p (strip p l) = strip p l := by
  have h : (strip p l).dropWhile p = strip p l := by
    rw [List.dropWhile_eq_self_iff]
    intro hl
    have hpre : strip p l <+: l.dropWhile p := List.rdropWhile_prefix p _
    have hlen : 0 < (l.dropWhile p).length := lt_of_lt_of_le hl hpre.length_le
    rw [hpre.getElem hl]
    exact List.dropWhile_get_zero_not p l hlen
  unfold strip at h ⊢
  rw [h, List.rdropWhile_idempotent]

theorem strip_eq_self {l : List α} (h : ∀ a ∈ l, p a = false) : strip p l = l := by
  have hdrop : l.dropWhile p = l := by
    rw [List.dropWhile_eq_self_iff]
    intro hl
    simp [h _ (List.getElem_mem hl)]
  unfold strip
  rw [hdrop, List.rdropWhile_eq_self_iff]
  intro hl
  simp [h _ (List.getLast_mem hl)]

end Strip

def trim (s : String) : String :=
  String.ofList (strip isWhiteSpace s.toList)

@[simp] theorem trim_trim (s : String) : trim (trim s) = trim s := by
  simp [trim, strip_strip]

theorem trim_eq_self {s : String} (h : ∀ c ∈ s.toList, isWhiteSpace c = false) : trim s = s := by
  simp [trim, strip_eq_self h]

theorem trim_ofList {text : List Char} (h : text.all (fun c => !isWhiteSpace c) = true) :
    trim (String.ofList text) = String.ofList text := by
  refine trim_eq_self fun c hc => ?_
  rw [String.toList_ofList] at hc
  simpa using List.all_eq_true.mp h c hc

def isAsciiAlphanumeric (c : Char) : Bool :=
  (48 ≤ c.toNat && c.toNat ≤ 57) || (65 ≤ c.toNat && c.toNat ≤ 90) ||
    (97 ≤ c.toNat && c.toNat ≤ 122)

theorem not_whiteSpace_of_alphanumeric {c : Char} (h : isAsciiAlphanumeric c = true) :
    isWhiteSpace c = false := by
  simp only [isAsciiAlphanumeric, Bool.or_eq_true, Bool.and_eq_true, decide_eq_true_eq] at h
  simp only [isWhiteSpace, Bool.or_eq_false_iff, Bool.and_eq_false_iff, decide_eq_false_iff_not,
    beq_eq_false_iff_ne]
  omega

def isAsciiHexdigit (c : Char) : Bool :=
  (48 ≤ c.toNat && c.toNat ≤ 57) || (65 ≤ c.toNat && c.toNat ≤ 70) ||
    (97 ≤ c.toNat && c.toNat ≤ 102)

-- 32 bytes of hex
def isHex64 (text : String) : Bool := decide (text.length = 64) && text.toList.all isAsciiHexdigit

theorem trim_hex64 {text : String} (h : isHex64 text = true) : trim text = text := by
  simp only [isHex64, Bool.and_eq_true, List.all_eq_true] at h
  refine trim_eq_self fun c hc => not_whiteSpace_of_alphanumeric ?_
  have hdigit := h.2 c hc
  simp only [isAsciiHexdigit, isAsciiAlphanumeric, Bool.or_eq_true, Bool.and_eq_true,
    decide_eq_true_eq] at hdigit ⊢
  omega

example : trim " \u00a0worker-1\n" = "worker-1" := by decide

end Obulus.Foundation
