import Mathlib.Tactic.Common
import Obulus.Store.Solana

namespace Obulus.Store

-- the groups of seven bits of a number, lowest first, all but the last marked
def compactGroups : Nat → Nat → Bytes
  | 0, _ => []
  | n + 1, remaining =>
    let low := remaining &&& 0x7f
    if remaining >>> 7 = 0 then [UInt8.ofNat low]
    else UInt8.ofNat (low ||| 0x80) :: compactGroups n (remaining >>> 7)

def encodeCompactU16 (value : Nat) : Option Bytes :=
  if 0xffff < value then none else some (compactGroups 3 value)

-- up to and with the first byte without a mark
def prefixLength (bytes : Bytes) : Nat :=
  (bytes.takeWhile fun byte => byte.toNat &&& 0x80 ≠ 0).length + 1

variable {byte : UInt8} {bytes rest : Bytes} {n shift offset value length count : Nat}

theorem prefixLength_last (hlast : byte.toNat &&& 0x80 = 0) : prefixLength (byte :: rest) = 1 := by
  rw [prefixLength, List.takeWhile_cons, if_neg (by simpa using hlast)]
  rfl

theorem prefixLength_more (hmore : ¬byte.toNat &&& 0x80 = 0) :
    prefixLength (byte :: rest) = prefixLength rest + 1 := by
  rw [prefixLength, List.takeWhile_cons, if_pos (by simpa using hmore), List.length_cons, prefixLength]

theorem and_mark (hbyte : n < 256) : n &&& 0x80 = 0 ↔ n < 128 := by
  have hall : ∀ n < 256, (n &&& 0x80 = 0 ↔ n < 128) := by decide +kernel
  exact hall n hbyte

theorem toNat_low (n : Nat) : (UInt8.ofNat (n &&& 0x7f)).toNat = n &&& 0x7f := by
  have hlow : n &&& 0x7f ≤ 0x7f := Nat.and_le_right
  rw [UInt8.toNat_ofNat']
  exact Nat.mod_eq_of_lt (by omega)

theorem toNat_marked (n : Nat) : (UInt8.ofNat (n &&& 0x7f ||| 0x80)).toNat = n &&& 0x7f ||| 0x80 := by
  have hlow : n &&& 0x7f < 2 ^ 8 := lt_of_le_of_lt Nat.and_le_right (by decide)
  have hmarked : n &&& 0x7f ||| 0x80 < 2 ^ 8 := Nat.or_lt_two_pow hlow (by decide)
  rw [UInt8.toNat_ofNat']
  exact Nat.mod_eq_of_lt hmarked

theorem marked_group {low : Nat} (hlow : low < 128) :
    (low ||| 0x80) &&& 0x7f = low ∧ (low ||| 0x80) &&& 0x80 ≠ 0 := by
  have hall : ∀ low < 128, (low ||| 0x80) &&& 0x7f = low ∧ (low ||| 0x80) &&& 0x80 ≠ 0 := by
    decide +kernel
  exact hall low hlow

theorem low_or_high (n : Nat) : (n &&& 0x7f) ||| (n >>> 7) <<< 7 = n := by
  have hlow : n &&& 0x7f = n % 2 ^ 7 := Nat.and_two_pow_sub_one_eq_mod n 7
  have hlt : n % 2 ^ 7 < 2 ^ 7 := Nat.mod_lt _ (by decide)
  rw [hlow, Nat.or_comm, ← Nat.shiftLeft_add_eq_or_of_lt hlt, Nat.shiftLeft_eq,
    Nat.shiftRight_eq_div_pow]
  omega

theorem shortVecFrom_compact {fuel : Nat} (hfits : n < 128 ^ fuel) (hfuel : 0 < fuel) :
    shortVecFrom shift offset value fuel (compactGroups fuel n ++ rest) =
      some (value ||| n <<< shift, offset + (compactGroups fuel n).length) := by
  induction fuel generalizing n shift offset value with
  | zero => omega
  | succ fuel ih =>
    rw [compactGroups]
    split
    · next hlast =>
      have hhigh := low_or_high n
      rw [hlast, Nat.zero_shiftLeft, Nat.or_zero] at hhigh
      have hlow : n &&& 0x7f < 128 := lt_of_le_of_lt Nat.and_le_right (by decide)
      rw [List.singleton_append, shortVecFrom, toNat_low,
        if_pos ((and_mark (by omega)).mpr hlow), hhigh, hhigh]
      rfl
    · next hmore =>
      have hnext : n >>> 7 < 128 ^ fuel := by
        rw [Nat.shiftRight_eq_div_pow]
        rw [Nat.pow_succ] at hfits
        omega
      have hleft : 0 < fuel := by
        rcases Nat.eq_zero_or_pos fuel with rfl | hpos
        · simp only [Nat.pow_zero] at hnext
          omega
        · exact hpos
      have hlow : n &&& 0x7f < 128 := lt_of_le_of_lt Nat.and_le_right (by decide)
      obtain ⟨hgroup, hmark⟩ := marked_group hlow
      rw [List.cons_append, shortVecFrom, toNat_marked, if_neg hmark, ih hnext hleft, hgroup,
        List.length_cons]
      have hvalue : value ||| (n &&& 0x7f) <<< shift ||| (n >>> 7) <<< (shift + 7) =
          value ||| n <<< shift := by
        rw [Nat.or_assoc, Nat.add_comm shift 7, Nat.shiftLeft_add, ← Nat.shiftLeft_or_distrib,
          low_or_high]
      have hlength : offset + 1 + (compactGroups fuel (n >>> 7)).length =
          offset + ((compactGroups fuel (n >>> 7)).length + 1) := by
        omega
      rw [hvalue, hlength]

theorem shortVec_encode (h : encodeCompactU16 n = some bytes) (rest : Bytes) :
    shortVecFrom 0 0 0 3 (bytes ++ rest) = some (n, bytes.length) := by
  rw [encodeCompactU16] at h
  split at h
  · cases h
  · next hbound =>
    cases h
    rw [shortVecFrom_compact (by omega) (by decide), Nat.zero_or, Nat.shiftLeft_zero, Nat.zero_add]

theorem shortVecFrom_length {fuel : Nat} (h : shortVecFrom shift offset value fuel bytes =
    some (count, length)) : length = offset + prefixLength bytes := by
  induction fuel generalizing shift offset value bytes with
  | zero => cases h
  | succ fuel ih =>
    cases bytes with
    | nil => cases h
    | cons byte rest =>
      rw [shortVecFrom] at h
      split at h
      · next hlast =>
        simp only [Option.some.injEq, Prod.mk.injEq] at h
        rw [prefixLength_last hlast, ← h.2]
      · next hmore =>
        rw [ih h, prefixLength_more hmore]
        omega

theorem shortVec_leading (h : shortVecFrom 0 0 0 3 bytes = some (count, length)) :
    length = prefixLength bytes := by
  rw [shortVecFrom_length h, Nat.zero_add]

theorem shortVec_short (hbyte : byte.toNat < 128) :
    shortVecFrom 0 0 0 3 (byte :: rest) = some (byte.toNat, 1) := by
  have hlow := low_or_high byte.toNat
  have hhigh : byte.toNat >>> 7 = 0 := by
    rw [Nat.shiftRight_eq_div_pow]
    omega
  rw [hhigh, Nat.zero_shiftLeft, Nat.or_zero] at hlow
  rw [shortVecFrom, if_pos ((and_mark byte.toNat_lt).mpr hbyte), hlow, Nat.zero_or, Nat.shiftLeft_zero]

theorem shortVec_one (h : shortVecFrom 0 0 0 3 bytes = some (count, 1)) :
    ∃ byte rest, bytes = byte :: rest ∧ byte.toNat = count ∧ byte.toNat < 128 := by
  cases bytes with
  | nil => cases h
  | cons byte rest =>
    have hlength := shortVec_leading h
    have hlast : byte.toNat &&& 0x80 = 0 := by
      by_contra hmore
      rw [prefixLength_more hmore, prefixLength] at hlength
      omega
    have hbyte := (and_mark byte.toNat_lt).mp hlast
    rw [shortVec_short hbyte] at h
    simp only [Option.some.injEq, Prod.mk.injEq] at h
    exact ⟨byte, rest, rfl, h.1, hbyte⟩

theorem encode_small (hsmall : n < 128) : encodeCompactU16 n = some [UInt8.ofNat n] := by
  have hlow := low_or_high n
  have hhigh : n >>> 7 = 0 := by
    rw [Nat.shiftRight_eq_div_pow]
    omega
  rw [hhigh, Nat.zero_shiftLeft, Nat.or_zero] at hlow
  rw [encodeCompactU16, if_neg (by omega), compactGroups, if_pos hhigh, hlow]

-- the number a prefix stands for, whatever its length
def compactValue : Bytes → Nat
  | [] => 0
  | byte :: rest =>
    if byte.toNat &&& 0x80 = 0 then byte.toNat &&& 0x7f
    else byte.toNat &&& 0x7f ||| compactValue rest <<< 7

theorem shortVecFrom_value {fuel : Nat} (h : shortVecFrom shift offset value fuel bytes =
    some (count, length)) : count = value ||| compactValue bytes <<< shift := by
  induction fuel generalizing shift offset value bytes with
  | zero => cases h
  | succ fuel ih =>
    cases bytes with
    | nil => cases h
    | cons byte rest =>
      rw [shortVecFrom] at h
      rw [compactValue]
      split at h
      · next hlast =>
        simp only [Option.some.injEq, Prod.mk.injEq] at h
        rw [if_pos hlast, h.1]
      · next hmore =>
        rw [if_neg hmore, ih h, Nat.or_assoc, Nat.add_comm shift 7, Nat.shiftLeft_add,
          ← Nat.shiftLeft_or_distrib]

theorem or_shift {low high : Nat} (hlow : low < 128) : low ||| high <<< 7 = low + 128 * high := by
  rw [Nat.or_comm, ← Nat.shiftLeft_add_eq_or_of_lt hlow, Nat.shiftLeft_eq]
  omega

theorem low_eq (byte : UInt8) : byte.toNat &&& 0x7f = byte.toNat % 128 :=
  Nat.and_two_pow_sub_one_eq_mod _ 7

-- numbers of one length and one value are written alike
theorem take_prefix_eq {other : Bytes} (hlength : prefixLength bytes = prefixLength other)
    (hvalue : compactValue bytes = compactValue other) (hinside : prefixLength bytes ≤ bytes.length)
    (hother : prefixLength other ≤ other.length) :
    bytes.take (prefixLength bytes) = other.take (prefixLength bytes) := by
  induction bytes generalizing other with
  | nil => simp [prefixLength] at hinside
  | cons byte rest ih =>
    cases other with
    | nil => simp [prefixLength] at hother
    | cons byte' rest' =>
      have hbyte := byte.toNat_lt
      have hbyte' := byte'.toNat_lt
      rw [compactValue, compactValue, low_eq, low_eq] at hvalue
      have hpos : ∀ l : Bytes, 0 < prefixLength l := fun l => Nat.succ_pos _
      by_cases hmark : byte.toNat &&& 0x80 = 0
      · by_cases hmark' : byte'.toNat &&& 0x80 = 0
        · have hsame : byte = byte' := by
            rw [if_pos hmark, if_pos hmark'] at hvalue
            rw [and_mark hbyte] at hmark
            rw [and_mark hbyte'] at hmark'
            apply UInt8.toNat_inj.mp
            omega
          rw [prefixLength_last hmark, hsame]
          rfl
        · rw [prefixLength_last hmark, prefixLength_more hmark'] at hlength
          have := hpos rest'
          omega
      · by_cases hmark' : byte'.toNat &&& 0x80 = 0
        · rw [prefixLength_last hmark', prefixLength_more hmark] at hlength
          have := hpos rest
          omega
        · rw [if_neg hmark, if_neg hmark', or_shift (by omega), or_shift (by omega)] at hvalue
          rw [prefixLength_more hmark, List.length_cons] at hinside
          rw [prefixLength_more hmark', List.length_cons] at hother
          rw [prefixLength_more hmark, prefixLength_more hmark'] at hlength
          have hsame : byte = byte' := by
            rw [and_mark hbyte] at hmark
            rw [and_mark hbyte'] at hmark'
            apply UInt8.toNat_inj.mp
            omega
          have hrest := ih (by omega : prefixLength rest = prefixLength rest') (by omega) (by omega)
            (by omega)
          rw [prefixLength_more hmark, List.take_succ_cons, List.take_succ_cons, hrest, hsame]

theorem shortVec_inside {fuel : Nat} (h : shortVecFrom shift offset value fuel bytes =
    some (count, length)) : prefixLength bytes ≤ bytes.length := by
  induction fuel generalizing shift offset value bytes with
  | zero => cases h
  | succ fuel ih =>
    cases bytes with
    | nil => cases h
    | cons byte rest =>
      rw [shortVecFrom] at h
      split at h
      · next hlast =>
        rw [prefixLength_last hlast, List.length_cons]
        omega
      · next hmore =>
        have hrest := ih h
        rw [prefixLength_more hmore, List.length_cons]
        omega

theorem shortVec_take {other : Bytes} (h : shortVecFrom 0 0 0 3 bytes = some (count, length))
    (hother : shortVecFrom 0 0 0 3 other = some (count, length)) :
    bytes.take length = other.take length := by
  have hvalue : compactValue bytes = compactValue other := by
    have hcount := shortVecFrom_value h
    rw [shortVecFrom_value hother] at hcount
    simpa using hcount.symm
  have hlength : prefixLength bytes = prefixLength other := by
    rw [← shortVec_leading h, ← shortVec_leading hother]
  rw [shortVec_leading h]
  exact take_prefix_eq hlength hvalue (shortVec_inside h) (shortVec_inside hother)

theorem shortVec_of_take {fuel : Nat} {other : Bytes}
    (h : shortVecFrom shift offset value fuel bytes = some (count, length))
    (htake : bytes.take (prefixLength bytes) = other.take (prefixLength bytes)) :
    shortVecFrom shift offset value fuel other = some (count, length) := by
  induction fuel generalizing shift offset value bytes other with
  | zero => cases h
  | succ fuel ih =>
    cases bytes with
    | nil => cases h
    | cons byte rest =>
      rw [shortVecFrom] at h
      have hpos : prefixLength (byte :: rest) = (prefixLength (byte :: rest) - 1) + 1 := rfl
      cases other with
      | nil =>
        rw [hpos] at htake
        cases htake
      | cons byte' rest' =>
        rw [hpos, List.take_succ_cons, List.take_succ_cons, List.cons.injEq] at htake
        obtain ⟨rfl, htake⟩ := htake
        rw [shortVecFrom]
        split at h
        · next hlast => rw [if_pos hlast, h]
        · next hmore =>
          rw [prefixLength_more hmore, Nat.add_sub_cancel] at htake
          rw [if_neg hmore]
          exact ih h htake

end Obulus.Store
