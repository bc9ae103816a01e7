import Obulus.Hosted.Orchestrator

namespace Obulus.Hosted

open Foundation

variable {value : String} {cs : List Char} {n m : Nat}

section Digits

theorem isDigit_iff {c : Char} : c.isDigit = true ↔ 48 ≤ c.toNat ∧ c.toNat ≤ 57 := by
  simp only [Char.isDigit, Bool.and_eq_true, decide_eq_true_eq]
  exact Iff.rfl

theorem le_ofDigitChars (cs : List Char) (n : Nat) : n ≤ Nat.ofDigitChars 10 cs n := by
  induction cs generalizing n with
  | nil => simp
  | cons c cs ih =>
    rw [Nat.ofDigitChars_cons]
    have hle := ih (10 * n + (c.toNat - '0'.toNat))
    omega

theorem parseDigits_le (hn : n ≤ Store.u64Max) (h : Funds.parseDigits cs n = some m) :
    m ≤ Store.u64Max := by
  induction cs generalizing n with
  | nil =>
    simp only [Funds.parseDigits, Option.some.injEq] at h
    omega
  | cons c cs ih =>
    simp only [Funds.parseDigits] at h
    split at h
    · split at h
      · next hle => exact ih hle h
      · cases h
    · cases h

theorem parseDigits_of_digits (hall : ∀ c ∈ cs, c.isDigit = true)
    (hle : Nat.ofDigitChars 10 cs n ≤ Store.u64Max) :
    Funds.parseDigits cs n = some (Nat.ofDigitChars 10 cs n) := by
  induction cs generalizing n with
  | nil => simp [Funds.parseDigits]
  | cons c cs ih =>
    have hdigit : Funds.digitValue c = some (c.toNat - 48) := by
      simp [Funds.digitValue, isDigit_iff.mp (hall c List.mem_cons_self)]
    rw [Nat.ofDigitChars_cons, Nat.mul_comm] at hle ⊢
    have hbegins := le_ofDigitChars cs (n * 10 + (c.toNat - '0'.toNat))
    have hzero : '0'.toNat = 48 := rfl
    rw [hzero] at hle hbegins ⊢
    simp only [Funds.parseDigits, hdigit, if_pos (hbegins.trans hle)]
    exact ih (fun d hd => hall d (List.mem_cons_of_mem _ hd)) hle

theorem isCanonicalDecimal_iff : isCanonicalDecimal value = true ↔
    ∃ c cs, value.toList = c :: cs ∧ (c :: cs = ['0'] ∨ (c ≠ '0' ∧ ∀ d ∈ c :: cs, d.isDigit = true)) := by
  unfold isCanonicalDecimal
  cases h : value.toList with
  | nil => simp
  | cons c cs => simp

theorem parseAmount_canonical (h : isCanonicalDecimal value = true) :
    parseAmount value = .ok n ↔ n = bigInt value ∧ n < 2 ^ 64 := by
  obtain ⟨c, cs, hcs, hform⟩ := isCanonicalDecimal_iff.mp h
  have hdigits : ∀ d ∈ c :: cs, d.isDigit = true := by
    rcases hform with heq | hform
    · rw [heq]
      simp
    · exact hform.2
  have hne : value ≠ "" := by
    rintro rfl
    cases hcs
  have hzero : ¬(1 < value.utf8ByteSize ∧ value.toList.head? = some '0') := by
    rintro ⟨hlong, hhead⟩
    rcases hform with heq | hform
    · have hvalue : value = "0" := by
        apply String.toList_injective
        rw [hcs, heq]
        rfl
      rw [hvalue] at hlong
      exact absurd hlong (by decide)
    · rw [hcs, List.head?_cons, Option.some.injEq] at hhead
      exact hform.1 hhead
  have hplus : c ≠ '+' := by
    rintro rfl
    exact absurd (hdigits '+' List.mem_cons_self) (by decide)
  have hparse : Funds.parseU64 value = Funds.parseDigits (c :: cs) 0 := by
    unfold Funds.parseU64
    rw [hcs]
    split
    · next heq => cases heq
    · next heq => exact absurd (List.cons.inj heq).1 hplus
    · next heq => exact absurd (List.cons.inj heq).1 hplus
    · rfl
  have hvalue : bigInt value = Nat.ofDigitChars 10 (c :: cs) 0 := by
    unfold bigInt
    rw [hcs]
  have hmax : Store.u64Max = 2 ^ 64 - 1 := rfl
  simp only [parseAmount, bind_eq_ok, reject_eq_ok, orReject_eq_ok, exists_const, not_or, hne,
    not_false_eq_true, true_and, hzero, hparse, hvalue]
  constructor
  · intro hsome
    have hle := parseDigits_le (Nat.zero_le _) hsome
    exact ⟨Funds.parseDigits_some hsome, by omega⟩
  · rintro ⟨rfl, hlt⟩
    exact parseDigits_of_digits hdigits (by omega)

theorem toDigits_head (h : 0 < n) : ∃ c cs, Nat.toDigits 10 n = c :: cs ∧ c ≠ '0' := by
  induction n using Nat.strongRecOn with
  | ind n ih =>
    by_cases hn : n < 10
    · refine ⟨n.digitChar, [], Nat.toDigits_of_lt_base hn, ?_⟩
      have hdigit : ∀ k < 10, 0 < k → k.digitChar ≠ '0' := by decide
      exact hdigit n hn h
    · obtain ⟨c, cs, hcs, hc⟩ := ih (n / 10) (by omega) (by omega)
      refine ⟨c, cs ++ [(n % 10).digitChar], ?_, hc⟩
      rw [Nat.toDigits_of_base_le (by omega) (by omega), hcs, List.cons_append]

theorem canonical_toString (n : Nat) : isCanonicalDecimal (toString n) = true := by
  have hdigits : ∀ c ∈ Nat.toDigits 10 n, c.isDigit = true :=
    fun c hc => Nat.isDigit_of_mem_toDigits (by omega) (by omega) hc
  rw [isCanonicalDecimal_iff, Funds.toString_toList]
  rcases Nat.eq_zero_or_pos n with rfl | hpos
  · exact ⟨'0', [], Nat.toDigits_zero 10, .inl rfl⟩
  · obtain ⟨c, cs, hcs, hc⟩ := toDigits_head hpos
    exact ⟨c, cs, hcs, .inr ⟨hc, hcs ▸ hdigits⟩⟩

theorem bigInt_toString (n : Nat) : bigInt (toString n) = n := by
  unfold bigInt
  rw [Funds.toString_toList, Nat.ofDigitChars_ten_toDigits]

end Digits

section Shares

theorem shareOf_le (bps amount : Nat) : shareOf bps amount ≤ amount := by
  unfold shareOf
  split
  · exact Nat.zero_le _
  · omega

theorem evidencePaymentSplit_sum (amount : Nat) :
    (evidencePaymentSplit amount).1 + (evidencePaymentSplit amount).2 = amount :=
  Nat.sub_add_cancel (shareOf_le _ _)

end Shares

section Names

theorem requireFields_eq_ok {fields : List (String × String)} {u : Unit} :
    requireFields fields = .ok u ↔ ∀ field ∈ fields, trim field.2 ≠ "" := by
  unfold requireFields
  split
  · next field hfind =>
    simp only [reduceCtorEq, false_iff, not_forall, not_not]
    exact ⟨field, List.mem_of_find?_eq_some hfind, by simpa using List.find?_some hfind⟩
  · next hnone => simpa using hnone

theorem hexDigest_named (h : isHexDigest value = true) : trim value ≠ "" := by
  simp only [isHexDigest, Bool.and_eq_true, beq_iff_eq, List.all_eq_true] at h
  have htrim : trim value = value := by
    apply trim_eq_self
    intro c hc
    have hhex := h.2 c hc
    apply not_whiteSpace_of_alphanumeric
    simp only [isHexDigit, isAsciiAlphanumeric, Bool.or_eq_true, Bool.and_eq_true,
      decide_eq_true_eq] at hhex ⊢
    omega
  rw [htrim]
  rintro rfl
  simp at h

end Names

end Obulus.Hosted
