import Obulus.Foundation.Single

-- the natural numbers that `Float32` holds exactly
namespace Obulus.Foundation.Single

open Float.Model (Format UnpackedFloat totalExponent)
open Float.Model.UnpackedFloat (ExtendedMantissa Sign packComponents roundWithAccuracy
  decreaseExponent shiftToTargetExponent shiftToExponent unpackSign)

variable {m n a b j k r : Nat} {e t : Int} {s : Sign}

section Shift

theorem shifted_mantissa (em : ExtendedMantissa) (k : Nat) :
    (em >>> k).mantissa = em.mantissa / 2 ^ k := by
  induction k with
  | zero => exact (Nat.div_one _).symm
  | succ k ih =>
    have hstep : (em >>> (k + 1)).mantissa = (em >>> k).mantissa / 2 := rfl
    rw [hstep, ih, Nat.div_div_eq_div_mul, ← pow_succ]

theorem shifted_roundBit (em : ExtendedMantissa) (k : Nat) :
    (em >>> (k + 1)).roundBit = (em.mantissa / 2 ^ k % 2 != 0) := by
  have hstep : (em >>> (k + 1)).roundBit = ((em >>> k).mantissa % 2 != 0) := rfl
  rw [hstep, shifted_mantissa]

theorem rounded_down {em : ExtendedMantissa} (h : em.roundBit = false) :
    em.roundedMantissa = em.mantissa := by
  obtain ⟨mantissa, roundBit, stickyBit⟩ := em
  subst h
  cases stickyBit <;> rfl

theorem shifted_down (hr : 2 * r < 2 ^ k) :
    (ExtendedMantissa.mk (m * 2 ^ k + r) false false >>> k).roundedMantissa = m := by
  have hbit : (ExtendedMantissa.mk (m * 2 ^ k + r) false false >>> k).roundBit = false := by
    cases k with
    | zero => rfl
    | succ k =>
      have hsmall : r < 2 ^ k := by omega
      have hdiv : (m * 2 ^ (k + 1) + r) / 2 ^ k = 2 * m := by
        rw [pow_succ, mul_comm (2 ^ k) 2, ← mul_assoc, mul_comm m 2, add_comm,
          Nat.add_mul_div_right _ _ (Nat.two_pow_pos k), Nat.div_eq_of_lt hsmall, zero_add]
      rw [shifted_roundBit, hdiv, Nat.mul_mod_right]
      rfl
  rw [rounded_down hbit, shifted_mantissa, add_comm, Nat.add_mul_div_right _ _ (Nat.two_pow_pos k),
    Nat.div_eq_of_lt (by omega), zero_add]

end Shift

section Round

theorem log2_scaled (hm : m ≠ 0) (hr : r < 2 ^ k) : (m * 2 ^ k + r).log2 = m.log2 + k := by
  have hpos := Nat.two_pow_pos (m.log2 + k)
  have hlow := Nat.log2_self_le hm
  have hhigh : m + 1 ≤ 2 ^ (m.log2 + 1) := Nat.lt_log2_self
  have hscaled := Nat.mul_le_mul_right (2 ^ k) hlow
  have hnext := Nat.mul_le_mul_right (2 ^ k) hhigh
  rw [← pow_add] at hscaled hnext
  rw [Nat.log2_eq_iff (by omega)]
  rw [add_one_mul, add_right_comm] at hnext
  exact ⟨by omega, by omega⟩

theorem target_of_log2 (hlow : -149 ≤ t) (h : m.log2 + e = 23 + t) :
    Format.binary32.targetExponent (totalExponent m e) = t := by
  have hbits : (Format.binary32.mantissaBits : Int) = 24 := rfl
  have hmin : Format.binary32.minExponent = -149 := rfl
  rw [Format.targetExponent, totalExponent, hbits, hmin]
  omega

theorem roundWithAccuracy_down (hm : 0 < m) (hlog : m.log2 = 23) (hlow : -149 ≤ t)
    (hr : 2 * r < 2 ^ k) :
    roundWithAccuracy .binary32 s (m * 2 ^ k + r) (t - k) .exact = .finite s m t hm := by
  have hfirst : Format.binary32.targetExponent (totalExponent (m * 2 ^ k + r) (t - k)) = t := by
    apply target_of_log2 hlow
    rw [log2_scaled (by omega) (by omega), hlog]
    omega
  have hsecond : Format.binary32.targetExponent (totalExponent m t) = t :=
    target_of_log2 hlow (by omega)
  have hamount : (t - (t - k)).toNat = k := by omega
  have hend : t - k + (k : Int) = t := by omega
  have hshift : shiftToTargetExponent .binary32 (m * 2 ^ k + r) (t - k) .exact =
      (ExtendedMantissa.mk (m * 2 ^ k + r) false false >>> k, t) := by
    simp only [shiftToTargetExponent, shiftToExponent, hfirst, hamount, hend]
    rfl
  have hagain : shiftToTargetExponent .binary32 m t .exact = (ExtendedMantissa.mk m false false, t) := by
    simp only [shiftToTargetExponent, shiftToExponent, hsecond, sub_self, Int.toNat_zero,
      Nat.cast_zero, add_zero]
    rfl
  rw [roundWithAccuracy, hshift]
  dsimp only
  rw [shifted_down hr, hagain]
  exact dif_neg hm.ne'

theorem log2_whole (hn : 0 < n) (hlog : n.log2 ≤ 23) : (n * 2 ^ (23 - n.log2)).log2 = 23 := by
  have h := @log2_scaled n (23 - n.log2) 0 hn.ne' (Nat.two_pow_pos _)
  rw [Nat.add_zero] at h
  omega

def whole (n : Nat) (hn : 0 < n) : UnpackedFloat :=
  .finite .positive (n * 2 ^ (23 - n.log2)) (n.log2 - 23) (Nat.mul_pos hn (Nat.two_pow_pos _))

-- what is less than half a place is dropped
theorem round_whole (hn : 0 < n) (hlog : n.log2 ≤ 23) (hr : r = 0 ∨ 2 * r < 2 ^ (j + n.log2 - 23)) :
    UnpackedFloat.round .binary32 .positive (n * 2 ^ j + r) (-j) = whole n hn := by
  have hpos : 0 < n * 2 ^ (23 - n.log2) := Nat.mul_pos hn (Nat.two_pow_pos _)
  have hwhole := log2_whole hn hlog
  have hsmall : r < 2 ^ j := by
    have hle : 2 ^ (j + n.log2 - 23) ≤ 2 ^ j := Nat.pow_le_pow_right (by omega) (by omega)
    have hj := Nat.two_pow_pos j
    omega
  have htarget : Format.binary32.targetExponent (totalExponent (n * 2 ^ j + r) (-j)) =
      n.log2 - 23 := by
    apply target_of_log2 (by omega)
    rw [log2_scaled hn.ne' hsmall]
    omega
  simp only [UnpackedFloat.round, htarget, decreaseExponent]
  by_cases hshort : j ≤ 23 - n.log2
  · obtain rfl : r = 0 := by
      have hzero : j + n.log2 - 23 = 0 := by omega
      rw [hzero] at hr
      omega
    have hamount : (-(j : Int) - ((n.log2 : Int) - 23)).toNat = 23 - n.log2 - j := by omega
    have hmantissa : (n * 2 ^ j + 0) <<< (23 - n.log2 - j) = n * 2 ^ (23 - n.log2) * 2 ^ 0 + 0 := by
      rw [Nat.shiftLeft_eq, Nat.add_zero, mul_assoc, ← pow_add, Nat.add_sub_cancel' hshort,
        pow_zero, mul_one, Nat.add_zero]
    have hexponent : -(j : Int) - ((23 - n.log2 - j : Nat) : Int) = (n.log2 : Int) - 23 - (0 : Nat) := by
      omega
    rw [hamount, hmantissa, hexponent]
    exact roundWithAccuracy_down hpos hwhole (by omega) (by omega)
  · have hamount : (-(j : Int) - ((n.log2 : Int) - 23)).toNat = 0 := by omega
    have hsplit : j = 23 - n.log2 + (j + n.log2 - 23) := by omega
    have hmantissa : (n * 2 ^ j + r) <<< 0 =
        n * 2 ^ (23 - n.log2) * 2 ^ (j + n.log2 - 23) + r := by
      rw [Nat.shiftLeft_zero, mul_assoc, ← pow_add, ← hsplit]
    have hexponent : -(j : Int) - ((0 : Nat) : Int) =
        (n.log2 : Int) - 23 - ((j + n.log2 - 23 : Nat) : Int) := by
      omega
    rw [hamount, hmantissa, hexponent]
    refine roundWithAccuracy_down hpos hwhole (by omega) ?_
    rcases hr with rfl | hr
    · have hj := Nat.two_pow_pos (j + n.log2 - 23)
      omega
    · exact hr

end Round

section Pack

variable {exponent : BitVec 8} {mantissa : BitVec 23}

theorem finite_congr {hm : 0 < m} {hn : 0 < n} {f : Int} (hmn : m = n) (hef : e = f) :
    UnpackedFloat.finite s m e hm = .finite s n f hn := by
  subst hmn hef
  rfl

theorem sign_packed : Sign.ofBitVec (unpackSign (packComponents .binary32 s exponent mantissa)) = s := by
  have hsign : unpackSign (packComponents .binary32 s exponent mantissa) = s.toBitVec := by
    have hdef : unpackSign (packComponents .binary32 s exponent mantissa) =
        BitVec.extractLsb' 31 1 (s.toBitVec ++ exponent ++ mantissa) := rfl
    rw [hdef, BitVec.extractLsb'_append_eq_of_le (by decide),
      BitVec.extractLsb'_append_eq_of_le (by decide)]
    exact BitVec.extractLsb'_eq_self
  rw [hsign]
  cases s <;> rfl

theorem bits_packed : (packComponents .binary32 .positive exponent mantissa).toNat =
    exponent.toNat * 2 ^ 23 + mantissa.toNat := by
  have hsign : Sign.toBitVec .positive = 0#1 := rfl
  rw [packComponents, BitVec.toNat_append, ← Nat.shiftLeft_add_eq_or_of_lt mantissa.isLt,
    BitVec.toNat_append, hsign, Nat.shiftLeft_eq]
  simp

theorem pack_normal (hm : 0 < m) (hlog : m.log2 = 23) (hlow : -149 ≤ e) (hhigh : e ≤ 103) :
    UnpackedFloat.pack .binary32 (.finite s m e hm) =
      packComponents .binary32 s (BitVec.ofNat 8 (e + 150).toNat) (BitVec.ofNat 23 m) := by
  have hdef : UnpackedFloat.pack .binary32 (.finite s m e hm) =
      if 2 ^ 8 ≤ (e + 127 + 23).toNat + 1 then UnpackedFloat.packedInfinity .binary32 s
      else if m.log2 + 1 = 24 then
        packComponents .binary32 s (BitVec.ofNat 8 (e + 127 + 23).toNat) (BitVec.ofNat 23 m)
      else packComponents .binary32 s 0#8 (BitVec.ofNat 23 m) := rfl
  have hbias : e + 127 + 23 = e + 150 := by omega
  rw [hdef, hbias, if_neg (by omega), if_pos (by omega)]

theorem unpack_normal (hmax : exponent ≠ -1#8) (hzero : exponent ≠ 0#8) (hm : 0 < m)
    (hmantissa : (1#1 ++ mantissa).toNat = m) (hexponent : (exponent.toNat : Int) - (127 + 23) = e) :
    UnpackedFloat.unpack .binary32 (packComponents .binary32 s exponent mantissa) = .finite s m e hm := by
  have hdef (b : BitVec Format.binary32.numBits) (hb : UnpackedFloat.unpackExponent b ≠ -1#8)
      (hb' : UnpackedFloat.unpackExponent b ≠ 0#8) : ∃ hpos, UnpackedFloat.unpack .binary32 b =
        .finite (Sign.ofBitVec (unpackSign b)) (1#1 ++ UnpackedFloat.unpackMantissa b).toNat
          ((UnpackedFloat.unpackExponent b).toNat - (127 + 23)) hpos :=
    ⟨_, (if_neg hb).trans (if_neg hb')⟩
  have hfield := @UnpackedFloat.unpackExponent_packComponents .binary32 s exponent mantissa
  obtain ⟨hpos, hvalue⟩ := hdef (packComponents .binary32 s exponent mantissa) (by rwa [hfield])
    (by rwa [hfield])
  rw [hvalue, sign_packed]
  refine finite_congr ?_ ?_
  · rw [UnpackedFloat.unpackMantissa_packComponents]
    exact hmantissa
  · rw [hfield]
    exact hexponent

theorem unpack_pack_normal (hm : 0 < m) (hlog : m.log2 = 23) (hlow : -149 ≤ e) (hhigh : e ≤ 103) :
    (Float32.Model.pack (.finite s m e hm)).unpack = .finite s m e hm := by
  have hbounds := (Nat.log2_eq_iff hm.ne').mp hlog
  have hmodel : (Float32.Model.pack (.finite s m e hm)).unpack =
      UnpackedFloat.unpack .binary32 (UnpackedFloat.pack .binary32 (.finite s m e hm)) := rfl
  have hexponent : (BitVec.ofNat 8 (e + 150).toNat).toNat = (e + 150).toNat :=
    Nat.mod_eq_of_lt (by omega)
  have hother (v : BitVec 8) (hv : v.toNat ≠ (e + 150).toNat) : BitVec.ofNat 8 (e + 150).toNat ≠ v :=
    fun heq => hv (heq ▸ hexponent)
  have hmantissa : (1#1 ++ BitVec.ofNat 23 m).toNat = m := by
    rw [BitVec.toNat_append, ← Nat.shiftLeft_add_eq_or_of_lt (BitVec.ofNat 23 m).isLt,
      BitVec.toNat_ofNat, Nat.shiftLeft_eq]
    simp only [BitVec.toNat_ofNat]
    omega
  have hmax : (-1#8).toNat = 255 := rfl
  rw [hmodel, pack_normal hm hlog hlow hhigh]
  refine unpack_normal (hother _ ?_) (hother _ ?_) hm hmantissa ?_
  · rw [hmax]
    omega
  · rw [BitVec.toNat_zero]
    omega
  · rw [hexponent]
    omega

theorem unpack_whole (hn : 0 < n) (hlog : n.log2 ≤ 23) :
    (Float32.Model.pack (whole n hn)).unpack = whole n hn :=
  unpack_pack_normal _ (log2_whole hn hlog) (by omega) (by omega)

end Pack

section Numbers

variable {x y : Float32}

theorem eq_of_toModel (h : x.toModel = y.toModel) : x = y := by
  cases x
  cases y
  exact congrArg Float32.ofModel h

theorem log2_le (h : n < 2 ^ 23) : n.log2 ≤ 23 := by
  rcases Nat.eq_zero_or_pos n with rfl | hn
  · decide
  · exact ((Nat.log2_lt hn.ne').mpr h).le

theorem normalize_nat (hm : 0 < m) : UnpackedFloat.normalize .binary32 (m : Int) e .positive =
    UnpackedFloat.round .binary32 .positive m e := by
  have hcompare : compare (m : Int) 0 = .gt := compare_gt_iff_gt.mpr (by omega)
  rw [UnpackedFloat.normalize, hcompare]
  rfl

theorem toModel_ofNat (hn : 0 < n) (h : n < 2 ^ 23) :
    (Float32.ofNat n).toModel = .pack (whole n hn) := by
  have hlog := log2_le h
  have hproduct : Float32.ofNat n = n.toUInt64.toFloat32 * .ofBits 0x3F800000 := dif_pos ⟨h, by decide⟩
  have hint : n.toUInt64.toFloat32.toModel =
      .pack (UnpackedFloat.normalize .binary32 (n.toUInt64.toNat : Int) 0 .positive) := rfl
  have hsame : n.toUInt64.toNat = n := Nat.mod_eq_of_lt (by omega)
  have hround : UnpackedFloat.round .binary32 .positive n 0 = whole n hn := by
    have h := @round_whole n 0 0 hn hlog (.inl rfl)
    rwa [pow_zero, mul_one, Nat.add_zero] at h
  have hleft : n.toUInt64.toFloat32.toModel.unpack = whole n hn := by
    rw [hint, hsame, normalize_nat hn, hround, unpack_whole hn hlog]
  have hmul : (n.toUInt64.toFloat32 * .ofBits 0x3F800000).toModel = .pack (.mul .binary32
      n.toUInt64.toFloat32.toModel.unpack (.finite .positive (2 ^ 23) (-23) (by decide))) := rfl
  have hpos : 0 < n * 2 ^ (23 - n.log2) := Nat.mul_pos hn (Nat.two_pow_pos _)
  have hexact := @roundWithAccuracy_down _ 23 0 ((n.log2 : Int) - 23) .positive hpos
    (log2_whole hn hlog) (by omega) (by decide)
  rw [Nat.add_zero] at hexact
  rw [hproduct, hmul, hleft]
  exact congrArg Float32.Model.pack hexact

theorem unpack_ofNat (hn : 0 < n) (h : n < 2 ^ 23) : (Float32.ofNat n).toModel.unpack = whole n hn := by
  rw [toModel_ofNat hn h, unpack_whole hn (log2_le h)]

theorem zero_add_ofNat (hn : 0 < n) (h : n < 2 ^ 23) : 0.0 + Float32.ofNat n = Float32.ofNat n := by
  apply eq_of_toModel
  have hadd : (0.0 + Float32.ofNat n).toModel =
      .pack (.add .binary32 (.zero .positive) (Float32.ofNat n).toModel.unpack) := rfl
  rw [hadd, unpack_ofNat hn h, toModel_ofNat hn h]
  rfl

theorem ofNat_sub_zero (hn : 0 < n) (h : n < 2 ^ 23) (hy : y.toModel.unpack = .zero s) :
    Float32.ofNat n - y = Float32.ofNat n := by
  apply eq_of_toModel
  have hsub : (Float32.ofNat n - y).toModel =
      .pack (.sub .binary32 (Float32.ofNat n).toModel.unpack y.toModel.unpack) := rfl
  rw [hsub, hy, unpack_ofNat hn h, toModel_ofNat hn h]
  rfl

theorem lowered_whole (hlog : n.log2 ≤ 23) (hj : 23 ≤ j + n.log2) :
    (decreaseExponent (n * 2 ^ (23 - n.log2)) ((n.log2 : Int) - 23) (-j)).1 = n * 2 ^ j := by
  have hamount : ((n.log2 : Int) - 23 - -(j : Int)).toNat = j + n.log2 - 23 := by omega
  have hsplit : 23 - n.log2 + (j + n.log2 - 23) = j := by omega
  simp only [decreaseExponent]
  rw [hamount, Nat.shiftLeft_eq, mul_assoc, ← pow_add, hsplit]

theorem add_finite {hm : 0 < m} {hn : 0 < n} {f : Int} :
    UnpackedFloat.add .binary32 (.finite .positive m e hm) (.finite .positive n f hn) =
      UnpackedFloat.normalize .binary32
        (Sign.apply .positive (decreaseExponent m e (min e f)).1 +
          Sign.apply .positive (decreaseExponent n f (min e f)).1) (min e f) .positive := rfl

theorem ofNat_add (ha : 0 < a) (hb : 0 < b) (h : a + b < 2 ^ 23) :
    Float32.ofNat a + Float32.ofNat b = Float32.ofNat (a + b) := by
  apply eq_of_toModel
  have hla := log2_le (show a < 2 ^ 23 by omega)
  have hlb := log2_le (show b < 2 ^ 23 by omega)
  obtain ⟨j, hj, hja, hjb⟩ : ∃ j : Nat, min ((a.log2 : Int) - 23) ((b.log2 : Int) - 23) = -j ∧
      23 ≤ j + a.log2 ∧ 23 ≤ j + b.log2 := ⟨23 - min a.log2 b.log2, by omega, by omega, by omega⟩
  have hadd : (Float32.ofNat a + Float32.ofNat b).toModel = .pack (.add .binary32
      (Float32.ofNat a).toModel.unpack (Float32.ofNat b).toModel.unpack) := rfl
  have hsum : Sign.apply .positive (a * 2 ^ j : Nat) + Sign.apply .positive (b * 2 ^ j : Nat) =
      ((a + b) * 2 ^ j + 0 : Nat) := by
    rw [Nat.add_zero, Nat.add_mul, Nat.cast_add]
    rfl
  have hpos : 0 < (a + b) * 2 ^ j + 0 := Nat.mul_pos (by omega) (Nat.two_pow_pos j)
  rw [hadd, unpack_ofNat ha (by omega), unpack_ofNat hb (by omega), toModel_ofNat (by omega) h]
  rw [whole, whole, add_finite, hj, lowered_whole hla hja, lowered_whole hlb hjb, hsum,
    normalize_nat hpos, round_whole (by omega) (log2_le h) (.inl rfl)]

theorem log2_mono (ha : 0 < a) (h : a < b) : a.log2 ≤ b.log2 :=
  (Nat.le_log2 (by omega)).mpr ((Nat.log2_self_le ha.ne').trans h.le)

theorem ofNat_lt (ha : 0 < a) (h : a < b) (hb : b < 2 ^ 23) : Float32.ofNat a < Float32.ofNat b := by
  rw [lt_iff, unpack_ofNat ha (by omega), unpack_ofNat (by omega) hb]
  have hcompare : (compare ((a.log2 : Int) - 23) ((b.log2 : Int) - 23)).then
      (compare (a * 2 ^ (23 - a.log2)) (b * 2 ^ (23 - b.log2))) = .lt := by
    rcases Nat.eq_or_lt_of_le (log2_mono ha h) with hlog | hlog
    · rw [← hlog, compare_eq_iff_eq.mpr rfl]
      exact compare_lt_iff_lt.mpr (Nat.mul_lt_mul_of_pos_right h (Nat.two_pow_pos _))
    · rw [compare_lt_iff_lt.mpr (by omega)]
      rfl
  exact congrArg some hcompare

theorem toBits_ofNat (hn : 0 < n) (h : n < 2 ^ 23) : (Float32.ofNat n).toBits.toNat + 2 ^ 23 =
    (n.log2 + 127) * 2 ^ 23 + n * 2 ^ (23 - n.log2) := by
  have hsmall := log2_le h
  have hlow : (-149 : Int) ≤ (n.log2 : Int) - 23 := by omega
  have hhigh : (n.log2 : Int) - 23 ≤ 103 := by omega
  have hpos : 0 < n * 2 ^ (23 - n.log2) := Nat.mul_pos hn (Nat.two_pow_pos _)
  have hlog := log2_whole hn hsmall
  have hbounds := (Nat.log2_eq_iff hpos.ne').mp hlog
  have hbits : (Float32.ofNat n).toBits.toNat = (Float32.ofNat n).toModel.toBits.toNat := rfl
  have hpack : (Float32.Model.pack (whole n hn)).toBits.toNat =
      (UnpackedFloat.pack .binary32 (whole n hn)).toNat := rfl
  rw [hbits, toModel_ofNat hn h, hpack, whole, pack_normal hpos hlog hlow hhigh, bits_packed]
  simp only [BitVec.toNat_ofNat]
  omega

theorem totalKey_of_lt (h : x.toBits.toNat < 2 ^ 31) : totalKey x = x.toBits.toNat := by
  have hdef : totalKey x = if (x.toBits.toNat : Int) < 2 ^ 31 then (x.toBits.toNat : Int)
      else 2 ^ 31 - 1 - (x.toBits.toNat : Int) := rfl
  rw [hdef, if_pos (by exact_mod_cast h)]

theorem totalKey_ofNat_lt (ha : 0 < a) (h : a < b) (hb : b < 2 ^ 23) :
    totalKey (Float32.ofNat a) < totalKey (Float32.ofNat b) := by
  have hbitsA := toBits_ofNat ha (by omega)
  have hbitsB := toBits_ofNat (by omega) hb
  have hlogA := (Nat.log2_eq_iff (Nat.mul_pos ha (Nat.two_pow_pos _)).ne').mp
    (log2_whole ha (log2_le (by omega)))
  have hlogB := (Nat.log2_eq_iff (Nat.mul_pos (Nat.zero_lt_of_lt h) (Nat.two_pow_pos _)).ne').mp
    (log2_whole (Nat.zero_lt_of_lt h) (log2_le hb))
  have hsmall := log2_le hb
  have hless : (Float32.ofNat a).toBits.toNat < (Float32.ofNat b).toBits.toNat := by
    rcases Nat.eq_or_lt_of_le (log2_mono ha h) with hlog | hlog
    · have hscaled := Nat.mul_lt_mul_of_pos_right h (Nat.two_pow_pos (23 - a.log2))
      rw [← hlog] at hbitsB
      omega
    · omega
  have hpositive : (Float32.ofNat b).toBits.toNat < 2 ^ 31 := by omega
  rw [totalKey_of_lt (hless.trans hpositive), totalKey_of_lt hpositive]
  exact Int.ofNat_lt.mpr hless

theorem unpack_tenThousandth :
    (0.0001 : Float32).toModel.unpack = .finite .positive 13743895 (-37) (by decide) := by
  rfl

-- from 2048 on a ten thousandth is less than half a place
theorem ofNat_add_small (hn : 2 ^ 11 ≤ n) (h : n < 2 ^ 23) :
    Float32.ofNat n + 0.0001 = Float32.ofNat n := by
  apply eq_of_toModel
  have hpos : 0 < n := by omega
  have hlog := log2_le h
  have hhigh : 11 ≤ n.log2 := (Nat.le_log2 hpos.ne').mpr hn
  have hadd : (Float32.ofNat n + 0.0001).toModel = .pack (.add .binary32
      (Float32.ofNat n).toModel.unpack (0.0001 : Float32).toModel.unpack) := rfl
  have hmin : min ((n.log2 : Int) - 23) (-37) = -(37 : Nat) := by omega
  have hsame : (decreaseExponent 13743895 (-37) (-(37 : Nat))).1 = 13743895 := rfl
  have hsum : Sign.apply .positive (n * 2 ^ 37 : Nat) + Sign.apply .positive (13743895 : Nat) =
      (n * 2 ^ 37 + 13743895 : Nat) := (Nat.cast_add _ _).symm
  have hhalf : 2 * 13743895 < 2 ^ (37 + n.log2 - 23) :=
    (show 2 * 13743895 < 2 ^ 25 by decide).trans_le (Nat.pow_le_pow_right (by omega) (by omega))
  rw [hadd, unpack_ofNat hpos h, toModel_ofNat hpos h, unpack_tenThousandth]
  rw [whole, add_finite, hmin, hsame, lowered_whole hlog (show 23 ≤ 37 + n.log2 by omega), hsum,
    normalize_nat (by omega), round_whole hpos hlog (.inr hhalf)]
  rfl

end Numbers

end Obulus.Foundation.Single
