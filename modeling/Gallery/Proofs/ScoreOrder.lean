import Gallery.Similarity

/-!
# `Gallery.Proofs.ScoreOrder` — the order of scores is the order of numbers

Scores are ordered by a key that is read off their bits.  Here the bits are taken apart into sign,
exponent and significand, as arithmetic does: of two numbers with one sign, the bits after the sign
count up with the magnitude.  So whatever is not `NaN` is ordered by its value.

## Contents
- `Magnitude`, which number the bits after the sign stand for, and `Magnitude.compare_eq`: numbers of
  one sign are compared as their bits are.
- `magnitude_unpack`, the bits of everything that is not `NaN` are those of its magnitude.
- `le_of_scoreKey_le`, a score without a larger key is no larger number.
-/

namespace Gallery

open Float.Model Float.Model.UnpackedFloat

/-! ## Magnitudes -/

/-- The unit of the exponent among the bits of a number of single precision. -/
def exponentUnit : Nat := 0x800000

/-- `Magnitude sign u a`: the number `u` has the sign, and its further bits are `a`. -/
inductive Magnitude (sign : Sign) : UnpackedFloat → Nat → Prop
  | zero : Magnitude sign (.zero sign) 0
  | finite {m : Nat} {e : Int} {a : Nat} (hm : 0 < m) (ha : a = (e + 149) * exponentUnit + m)
      (he : -149 ≤ e ∧ e < 105) (hlt : m < 2 * exponentUnit) (hle : e = -149 ∨ exponentUnit ≤ m) :
      Magnitude sign (.finite sign m e hm) a
  | infinity : Magnitude sign (.infinity sign) (255 * exponentUnit)

/-- The order of magnitudes, or its opposite for negative numbers. -/
def signedCompare : Sign → Nat → Nat → Ordering
  | .positive, a, b => compare a b
  | .negative, a, b => compare b a

namespace Magnitude

variable {σ : Sign} {u v : UnpackedFloat} {a b m n : Nat} {e f : Int} {hm : 0 < m} {hn : 0 < n}

theorem finite_bounds (h : Magnitude σ (.finite σ m e hm) a) : 0 < a ∧ a < 255 * exponentUnit := by
  cases h with
  | finite _ ha he hlt _ =>
    unfold exponentUnit at *
    omega

/-- The exponent decides, and of numbers with one exponent the significand. -/
theorem finite_compare (hu : Magnitude σ (.finite σ m e hm) a)
    (hv : Magnitude σ (.finite σ n f hn) b) :
    (compare e f).then (compare m n) = compare a b := by
  cases hu with
  | finite _ ha he hlt hle =>
    cases hv with
    | finite _ hb hf hlt' hle' =>
      unfold exponentUnit at *
      rcases Int.lt_trichotomy e f with hef | rfl | hef
      · have hab : compare a b = .lt := Nat.compare_eq_lt.mpr (by omega)
        rw [Int.compare_eq_lt.mpr hef, hab]
        rfl
      · rw [Int.compare_eq_eq.mpr rfl, Ordering.eq_then]
        rcases Nat.lt_trichotomy m n with hmn | rfl | hmn
        · have hab : compare a b = .lt := Nat.compare_eq_lt.mpr (by omega)
          rw [Nat.compare_eq_lt.mpr hmn, hab]
        · have hab : compare a b = .eq := Nat.compare_eq_eq.mpr (by omega)
          rw [Nat.compare_eq_eq.mpr rfl, hab]
        · have hab : compare a b = .gt := Nat.compare_eq_gt.mpr (by omega)
          rw [Nat.compare_eq_gt.mpr hmn, hab]
      · have hab : compare a b = .gt := Nat.compare_eq_gt.mpr (by omega)
        rw [Int.compare_eq_gt.mpr hef, hab]
        rfl

/-- **Numbers of one sign are compared as their bits are.** -/
theorem compare_eq (hu : Magnitude σ u a) (hv : Magnitude σ v b) :
    u.compare v = some (signedCompare σ a b) := by
  have hfinite : ∀ {x m e} {hm : 0 < m}, Magnitude σ (.finite σ m e hm) x →
      compare 0 x = .lt ∧ compare x 0 = .gt ∧ compare x (255 * exponentUnit) = .lt
        ∧ compare (255 * exponentUnit) x = .gt := fun h =>
    ⟨Nat.compare_eq_lt.mpr h.finite_bounds.1, Nat.compare_eq_gt.mpr h.finite_bounds.1,
      Nat.compare_eq_lt.mpr h.finite_bounds.2, Nat.compare_eq_gt.mpr h.finite_bounds.2⟩
  cases hu' : hu with
  | zero =>
    cases hv' : hv with
    | zero => cases σ <;> rfl
    | finite =>
      obtain ⟨hlt, hgt, -, -⟩ := hfinite hv
      cases σ
      · exact congrArg some hgt.symm
      · exact congrArg some hlt.symm
    | infinity => cases σ <;> rfl
  | finite =>
    cases hv' : hv with
    | zero =>
      obtain ⟨hlt, hgt, -, -⟩ := hfinite hu
      cases σ
      · exact congrArg some hlt.symm
      · exact congrArg some hgt.symm
    | finite =>
      cases σ
      · rw [signedCompare, ← Nat.compare_swap, ← hu.finite_compare hv]
        rfl
      · rw [signedCompare, ← hu.finite_compare hv]
        rfl
    | infinity =>
      obtain ⟨-, -, hlt, hgt⟩ := hfinite hu
      cases σ
      · exact congrArg some hgt.symm
      · exact congrArg some hlt.symm
  | infinity =>
    cases hv' : hv with
    | zero => cases σ <;> rfl
    | finite =>
      obtain ⟨-, -, hlt, hgt⟩ := hfinite hv
      cases σ
      · exact congrArg some hlt.symm
      · exact congrArg some hgt.symm
    | infinity => cases σ <;> rfl

/-- No negative number is above a positive one. -/
theorem negative_le (hu : Magnitude .negative u a) (hv : Magnitude .positive v b) :
    u.le v = true := by
  cases hu <;> cases hv <;> rfl

end Magnitude

/-! ## Bits -/

section

variable (b : BitVec Format.binary32.numBits)

theorem toNat_unpackMantissa :
    (@unpackMantissa .binary32 b).toNat = b.toNat % exponentUnit := by
  simp [unpackMantissa, BitVec.extractLsb, BitVec.extractLsb', exponentUnit]

theorem toNat_unpackExponent :
    (@unpackExponent .binary32 b).toNat = b.toNat / exponentUnit % 256 := by
  simp [unpackExponent, BitVec.extractLsb, BitVec.extractLsb', Nat.shiftRight_eq_div_pow,
    exponentUnit]

theorem toNat_unpackSign : (@unpackSign .binary32 b).toNat = b.toNat / signBit := by
  have h : b.toNat < 0x100000000 := b.isLt
  have hsign : (@unpackSign .binary32 b).toNat = b.toNat / signBit % 2 := by
    show (b.extractLsb 31 31).toNat = _
    simp [BitVec.extractLsb, BitVec.extractLsb', Nat.shiftRight_eq_div_pow, signBit]
  rw [hsign]
  unfold signBit
  omega

/-- A normal number has a leading bit that is not written. -/
theorem toNat_leading (fraction : BitVec 23) :
    (1#1 ++ fraction).toNat = exponentUnit + fraction.toNat := by
  rw [BitVec.toNat_append, ← Nat.shiftLeft_add_eq_or_of_lt fraction.isLt]
  rfl

/-- **The bits after the sign count up with the magnitude**, from zero to infinity. -/
theorem magnitude_unpack (h : (unpack .binary32 b).isNaN = false) :
    Magnitude (.ofBitVec (@unpackSign .binary32 b)) (unpack .binary32 b)
      (b.toNat % signBit) := by
  have hparts : b.toNat % signBit = (@unpackExponent .binary32 b).toNat * exponentUnit
      + (@unpackMantissa .binary32 b).toNat := by
    rw [toNat_unpackMantissa, toNat_unpackExponent]
    unfold signBit exponentUnit
    omega
  have hfraction : (@unpackMantissa .binary32 b).toNat < exponentUnit := BitVec.isLt _
  have hfield : (@unpackExponent .binary32 b).toNat < 256 := BitVec.isLt _
  have hbias : (Format.exponentBias .binary32 : Int) = 127 := rfl
  rw [hparts]
  revert h
  unfold UnpackedFloat.unpack
  dsimp only
  -- The largest field of the exponent is for infinity and `NaN`, the smallest for numbers without a
  -- leading bit.
  by_cases htop : @unpackExponent .binary32 b = -1#8
  · rw [if_pos htop]
    by_cases hzero : @unpackMantissa .binary32 b = 0#23
    · rw [if_pos hzero, htop, hzero]
      intro _
      exact .infinity
    · rw [if_neg hzero]
      intro h
      cases h
  · rw [if_neg htop]
    have htop : (@unpackExponent .binary32 b).toNat ≠ 255 :=
      fun h => htop (BitVec.eq_of_toNat_eq h)
    by_cases hlow : @unpackExponent .binary32 b = 0#8
    · have hfield : (@unpackExponent .binary32 b).toNat = 0 := congrArg BitVec.toNat hlow
      rw [if_pos hlow, hfield]
      by_cases hzero : @unpackMantissa .binary32 b = 0#23
      · rw [dif_pos hzero, hzero]
        intro _
        exact .zero
      · rw [dif_neg hzero]
        intro _
        refine .finite _ ?_ ?_ ?_ ?_ <;> unfold exponentUnit at * <;> omega
    · rw [if_neg hlow]
      have hlow : (@unpackExponent .binary32 b).toNat ≠ 0 :=
        fun h => hlow (BitVec.eq_of_toNat_eq h)
      have hleading := toNat_leading (@unpackMantissa .binary32 b)
      intro _
      refine .finite _ ?_ ?_ ?_ ?_ <;> unfold exponentUnit at * <;> omega

end

/-! ## Keys -/

/-- The key of a sign and the further bits. -/
def signedKey : Sign → Nat → Int
  | .positive, a => a
  | .negative, a => -a - 1

theorem scoreKey_eq (s : Float32) :
    scoreKey s = signedKey (.ofBitVec (@unpackSign .binary32 s.toBits.toBitVec))
      (s.toBits.toNat % signBit) := by
  have hsign := toNat_unpackSign s.toBits.toBitVec
  have hlt : s.toBits.toNat < 0x100000000 := s.toBits.toNat_lt
  rw [UInt32.toNat_toBitVec] at hsign
  unfold scoreKey Sign.ofBitVec
  dsimp only
  split
  · rename_i hpositive
    have hzero : @unpackSign .binary32 s.toBits.toBitVec = 0#1 :=
      BitVec.eq_of_toNat_eq (hsign.trans (Nat.div_eq_of_lt hpositive))
    rw [if_pos hzero, signedKey, Nat.mod_eq_of_lt hpositive]
  · rename_i hnegative
    have hne : @unpackSign .binary32 s.toBits.toBitVec ≠ 0#1 := by
      intro h
      rw [h] at hsign
      exact hnegative (Nat.lt_of_div_eq_zero (by decide) hsign.symm)
    rw [if_neg hne, signedKey]
    unfold signBit at *
    omega

theorem le_of_signedKey_le {σ τ : Sign} {u v : UnpackedFloat} {a b : Nat} (hu : Magnitude σ u a)
    (hv : Magnitude τ v b) (h : signedKey σ a ≤ signedKey τ b) : u.le v = true := by
  cases σ with
  | negative =>
    cases τ with
    | negative =>
      have hba : b ≤ a := by
        simp only [signedKey] at h
        omega
      rw [UnpackedFloat.le, hu.compare_eq hv]
      exact Nat.isLE_compare.mpr hba
    | positive => exact hu.negative_le hv
  | positive =>
    cases τ with
    | negative =>
      simp only [signedKey] at h
      omega
    | positive =>
      rw [UnpackedFloat.le, hu.compare_eq hv]
      exact Nat.isLE_compare.mpr (Int.ofNat_le.mp h)

/-- **A score whose key is not larger is no larger number.** -/
theorem le_of_scoreKey_le {s t : Float32} (hs : s.isNaN = false) (ht : t.isNaN = false)
    (h : scoreKey s ≤ scoreKey t) : s ≤ t := by
  rw [scoreKey_eq, scoreKey_eq] at h
  have hle := le_of_signedKey_le (magnitude_unpack s.toBits.toBitVec hs)
    (magnitude_unpack t.toBits.toBitVec ht) h
  exact decide_eq_true hle

end Gallery
