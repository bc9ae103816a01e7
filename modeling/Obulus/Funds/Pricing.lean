import Obulus.Funds.Schema

namespace Obulus.Funds

open Foundation Store

def usdcAtomicUnits : Nat := 1000000
def krwPerUsdcPinned : Nat := 1350
def maxPrepaidTopUpAtomic : Nat := 1000 * 1000000

def categoryIds : List String :=
  ["life", "food", "family", "health", "business", "sales", "engineering", "education", "sports",
    "travel", "money"]
def ageBands : List String := ["under-25", "25-34", "35-44", "45-54", "55-plus"]
def regions : List String := ["seoul", "gyeonggi", "metro", "town", "abroad"]
def households : List String := ["alone", "partner", "kids", "parents", "shared"]

structure PaymentQuotePolicy where
  network : String
  asset : String
  krwPerUsdc : Nat
  ttlMs : Nat
  fallbackRecipient : Option String
  bundleRecipient : Option String

-- Rust's `str::parse::<u64>`: an optional plus sign, then digits only
def digitValue (c : Char) : Option Nat :=
  if 48 ≤ c.toNat ∧ c.toNat ≤ 57 then some (c.toNat - 48) else none

def parseDigits : List Char → Nat → Option Nat
  | [], n => some n
  | c :: cs, n =>
    match digitValue c with
    | some d => if n * 10 + d ≤ u64Max then parseDigits cs (n * 10 + d) else none
    | none => none

def parseU64 (text : String) : Option Nat :=
  match text.toList with
  | [] => none
  | '+' :: [] => none
  | '+' :: cs => parseDigits cs 0
  | cs => parseDigits cs 0

section ParseU64

theorem parseDigits_some {cs : List Char} {n m : Nat} (h : parseDigits cs n = some m) :
    m = Nat.ofDigitChars 10 cs n := by
  induction cs generalizing n with
  | nil =>
    simp only [parseDigits, Option.some.injEq] at h
    simp [h]
  | cons c cs ih =>
    simp only [parseDigits] at h
    split at h
    · next d hd =>
      split at h
      · simp only [digitValue, Option.ite_none_right_eq_some, Option.some.injEq] at hd
        rw [Nat.ofDigitChars_cons, ih h, ← hd.2, Nat.mul_comm]
        rfl
      · cases h
    · cases h

theorem toString_toList (n : Nat) : (toString n).toList = Nat.toDigits 10 n := by
  simp [toString]

theorem toDigits_ne_plus (n : Nat) : ∀ cs, Nat.toDigits 10 n ≠ '+' :: cs := by
  intro cs h
  have hdigit : Char.isDigit '+' = true :=
    Nat.isDigit_of_mem_toDigits (by omega) (by omega) (h ▸ List.mem_cons_self)
  exact absurd hdigit (by decide)

theorem parseU64_toString {n m : Nat} (h : parseU64 (toString n) = some m) : m = n := by
  unfold parseU64 at h
  rw [toString_toList] at h
  split at h
  · cases h
  · cases h
  · next hcs => exact absurd hcs (toDigits_ne_plus n _)
  · rw [parseDigits_some h, Nat.ofDigitChars_ten_toDigits]

end ParseU64

def krwToUsdcAtomic (amountKrw krwPerUsdc : Nat) : Except StoreError Nat := do
  reject (krwPerUsdc = 0) (.validation "krwPerUsdc must be greater than zero")
  let atomic := max ((amountKrw * usdcAtomicUnits + krwPerUsdc - 1) / krwPerUsdc) 1
  reject (u64Max < atomic) (.validation "payment amount is too large")
  return atomic

def krwToAtomicPinned (amountKrw : Nat) : Except StoreError Nat :=
  if amountKrw = 0 then .ok 0 else krwToUsdcAtomic amountKrw krwPerUsdcPinned

def checkFilter (name : String) (value : Option String) (allowed : List String) :
    Except StoreError Unit :=
  reject (value.any (fun v => !allowed.contains v) = true)
    (.validation s!"unsupported {name} filter")

def validateFilters (filters : SearchFilters) : Except StoreError Unit := do
  checkFilter "ageBand" filters.ageBand ageBands
  checkFilter "region" filters.region regions
  checkFilter "household" filters.household households
  checkFilter "field" filters.field categoryIds
  checkFilter "category" filters.category categoryIds
  reject (filters.maxUnitPriceKrw.any (fun v => (10000000 < v : Bool)) = true)
    (.validation "maxUnitPriceKrw must be at most 10000000")

def validateOpenCall (request : OpenCallRequest) : Except StoreError Unit := do
  let questionLength := (trim request.question).length
  reject (questionLength < 8 ∨ 1000 < questionLength)
    (.validation "question must be between 8 and 1000 characters")
  reject (request.target < 1 ∨ 100 < request.target)
    (.validation "target must be between 1 and 100")
  reject (request.unitPrice = 0) (.validation "unitPrice must be greater than zero")
  reject (10000000 < request.unitPrice)
    (.validation "unitPrice exceeds the supported USDC quote range")
  reject ((trim request.shelf).isEmpty = true ∨ 120 < (trim request.shelf).length)
    (.validation "database label must be between 1 and 120 characters")
  reject (trim request.category ∉ categoryIds) (.validation "unsupported category")
  validateFilters request.filters

def validatePaymentPolicy (policy : PaymentQuotePolicy) : Except StoreError Unit := do
  reject (policy.krwPerUsdc = 0) (.validation "krwPerUsdc must be greater than zero")
  reject (policy.ttlMs < 30000 ∨ 86400000 < policy.ttlMs)
    (.validation "payment quote ttl must be between 30 seconds and 24 hours")
  reject ((trim policy.network).isEmpty = true ∨ (trim policy.asset).isEmpty = true)
    (.validation "payment network and asset are required")

end Obulus.Funds
