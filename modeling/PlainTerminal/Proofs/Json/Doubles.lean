import Mathlib
import PlainTerminal.Json.Numeral

/-!
# Doubles that stay finite

A double is infinite once its exponent is too large. The exponent is followed through rounding,
multiplication and division: a whole number of 64 bits is far from too large, a power of ten that a
double can hold is at least one, so that dividing by it makes nothing much larger, and a product of
finite numbers is either finite or infinite, but never not a number.
-/

namespace PlainTerminal.Json

open Float.Model Float.Model.UnpackedFloat

/-- Zero, or a finite number whose last place stands for at most two to the power of `bound`. -/
def AtMost (bound : Nat) : UnpackedFloat → Prop
  | .zero _ => True
  | .finite _ _ exponent _ => exponent ≤ bound
  | _ => False

theorem AtMost.isFinite {bound : Nat} {u : UnpackedFloat} (h : AtMost bound u) :
    u.isFinite = true := by
  cases u with
  | notANumber => cases h
  | infinity sign => cases h
  | zero sign => rfl
  | finite sign mantissa exponent hpos => rfl

theorem AtMost.cases {bound : Nat} {u : UnpackedFloat} (h : AtMost bound u) :
    (∃ sign, u = .zero sign) ∨ ∃ sign mantissa exponent, ∃ hpos : 0 < mantissa,
      u = .finite sign mantissa exponent hpos ∧ exponent ≤ bound := by
  cases u with
  | notANumber => cases h
  | infinity sign => cases h
  | zero sign => exact .inl ⟨sign, rfl⟩
  | finite sign mantissa exponent hpos => exact .inr ⟨sign, mantissa, exponent, hpos, rfl, h⟩

/-- A number of which the first digit stands before the point. -/
def AtLeastOne : UnpackedFloat → Prop
  | .finite _ mantissa exponent _ => 2 ^ 52 ≤ mantissa ∧ mantissa < 2 ^ 53 ∧ -52 ≤ exponent
  | .infinity _ => True
  | _ => False

instance (bound : Nat) : DecidablePred (AtMost bound)
  | .zero _ => .isTrue trivial
  | .finite _ _ exponent _ => inferInstanceAs (Decidable (exponent ≤ bound))
  | .infinity _ | .notANumber => .isFalse id

instance : DecidablePred AtLeastOne
  | .finite _ mantissa exponent _ =>
    inferInstanceAs (Decidable (2 ^ 52 ≤ mantissa ∧ mantissa < 2 ^ 53 ∧ -52 ≤ exponent))
  | .infinity _ => .isTrue trivial
  | .zero _ | .notANumber => .isFalse id

theorem AtLeastOne.cases {bound : Nat} {u : UnpackedFloat} (h : AtLeastOne u)
    (hatMost : AtMost bound u) : ∃ sign mantissa exponent, ∃ hpos : 0 < mantissa,
      u = .finite sign mantissa exponent hpos ∧ 2 ^ 52 ≤ mantissa ∧ -52 ≤ exponent := by
  obtain ⟨sign, rfl⟩ | ⟨sign, mantissa, exponent, hpos, rfl, -⟩ := hatMost.cases
  · cases h
  · exact ⟨sign, mantissa, exponent, hpos, rfl, h.1, h.2.2⟩

theorem AtMost.mul_cases {bound bound' : Nat} {u v : UnpackedFloat} (hu : AtMost bound u)
    (hv : AtMost bound' v) :
    (∃ sign, UnpackedFloat.mul Format.binary64 u v = .zero sign) ∨
      ∃ s m e, ∃ hm : 0 < m, ∃ s' m' e', ∃ hm' : 0 < m',
        u = .finite s m e hm ∧ v = .finite s' m' e' hm' ∧ e ≤ bound ∧ e' ≤ bound' := by
  obtain ⟨s, rfl⟩ | ⟨s, m, e, hm, rfl, he⟩ := hu.cases
  · obtain ⟨s', rfl⟩ | ⟨s', m', e', hm', rfl, -⟩ := hv.cases
    · exact .inl ⟨_, rfl⟩
    · exact .inl ⟨_, rfl⟩
  · obtain ⟨s', rfl⟩ | ⟨s', m', e', hm', rfl, he'⟩ := hv.cases
    · exact .inl ⟨_, rfl⟩
    · exact .inr ⟨s, m, e, hm, s', m', e', hm', rfl, rfl, he, he'⟩

/-! ## Packing -/

section Packing

variable {bound : Nat} {sign : Sign}

theorem toNat_biased {biased : Nat} (h : biased + 1 < 2048) :
    (BitVec.ofNat 11 biased).toNat = biased := by
  rw [BitVec.toNat_ofNat, Nat.mod_eq_of_lt (by omega)]

theorem exists_unpack_packedInfinity (sign : Sign) :
    ∃ sign', unpack Format.binary64 (packedInfinity Format.binary64 sign) = .infinity sign' := by
  unfold UnpackedFloat.unpack packedInfinity
  simp only [unpackExponent_packComponents, unpackMantissa_packComponents]
  exact ⟨_, rfl⟩

/-- A number is packed as an infinite one if its exponent is too large, and else with an exponent
that is written from the least one upwards. -/
theorem pack_finite_cases {mantissa : Nat} {exponent : Int} (hpos : 0 < mantissa) :
    (971 < exponent ∧ pack Format.binary64 (.finite sign mantissa exponent hpos) =
        packedInfinity Format.binary64 sign) ∨
      exponent ≤ 971 ∧ ∃ (biased : Nat) (rest : BitVec 52), biased + 1 < 2048 ∧
        biased ≤ max 0 (exponent + 1075) ∧
        (mantissa.log2 = 52 → biased = max 0 (exponent + 1075)) ∧
        pack Format.binary64 (.finite sign mantissa exponent hpos) =
          packComponents Format.binary64 sign (BitVec.ofNat 11 biased) rest := by
  unfold UnpackedFloat.pack
  dsimp only
  split
  · rename_i hlarge
    have hbiased : 2048 ≤ (exponent + (1023 : Nat) + (52 : Nat)).toNat + 1 := hlarge
    exact .inl ⟨by omega, rfl⟩
  · rename_i hsmall
    have hbiased : ¬ 2048 ≤ (exponent + (1023 : Nat) + (52 : Nat)).toNat + 1 := hsmall
    refine .inr ⟨by omega, ?_⟩
    split
    · exact ⟨(exponent + (1023 : Nat) + (52 : Nat)).toNat, _, by omega, by omega, by omega, rfl⟩
    · rename_i hdigits
      have hnot : ¬ mantissa.log2 + 1 = 53 := hdigits
      exact ⟨0, _, by omega, by omega, by omega, rfl⟩

theorem atMost_unpack_packComponents {biased : Nat} {rest : BitVec 52} (h : biased + 1 < 2048)
    (hbound : (biased : Int) - 1075 ≤ bound) :
    AtMost bound (unpack Format.binary64
      (packComponents Format.binary64 sign (BitVec.ofNat 11 biased) rest)) := by
  have hne : BitVec.ofNat 11 biased ≠ -1#11 := by
    intro heq
    have hones : (BitVec.ofNat 11 biased).toNat = 2047 := by
      rw [heq]
      rfl
    rw [toNat_biased h] at hones
    omega
  unfold UnpackedFloat.unpack
  simp only [unpackExponent_packComponents, unpackMantissa_packComponents]
  rw [if_neg hne]
  split
  · split
    · trivial
    · show ((BitVec.ofNat 11 biased).toNat : Int) - 1075 + 1 ≤ bound
      rename_i hzero _
      rw [hzero]
      show (0 : Int) - 1075 + 1 ≤ bound
      omega
  · show ((BitVec.ofNat 11 biased).toNat : Int) - 1075 ≤ bound
    rw [toNat_biased h]
    exact hbound

theorem AtMost.pack {u : UnpackedFloat} (h : AtMost bound u) (hbound : bound ≤ 971) :
    AtMost bound (unpack Format.binary64 (pack Format.binary64 u)) := by
  obtain ⟨sign, rfl⟩ | ⟨sign, mantissa, exponent, hpos, rfl, hexponent⟩ := h.cases
  · exact @atMost_unpack_packComponents bound sign 0 0 (by decide) (by omega)
  · obtain ⟨hlarge, -⟩ | ⟨-, biased, rest, hlt, hle, -, hpack⟩ :=
        @pack_finite_cases sign mantissa exponent hpos
    · omega
    · rw [hpack]
      exact atMost_unpack_packComponents hlt (by omega)

theorem atLeastOne_unpack_packComponents {biased : Nat} {rest : BitVec 52}
    (h : biased + 1 < 2048) (hbiased : 1023 ≤ biased) :
    AtLeastOne (unpack Format.binary64
      (packComponents Format.binary64 sign (BitVec.ofNat 11 biased) rest)) := by
  have hne {value : BitVec 11} (hvalue : value.toNat ≠ biased) :
      BitVec.ofNat 11 biased ≠ value := by
    rintro rfl
    exact hvalue (toNat_biased h)
  have hlast : (-1#11).toNat = 2047 := rfl
  have hfirst : (0#11).toNat = 0 := rfl
  unfold UnpackedFloat.unpack
  simp only [unpackExponent_packComponents, unpackMantissa_packComponents]
  rw [if_neg (hne (by omega)), if_neg (hne (by omega))]
  refine ⟨?_, (1#1 ++ rest).isLt, ?_⟩
  · rw [BitVec.toNat_append]
    exact Nat.left_le_or
  · rw [toNat_biased h]
    show (-52 : Int) ≤ (biased : Int) - 1075
    omega

theorem AtLeastOne.pack {u : UnpackedFloat} (h : AtLeastOne u) :
    AtLeastOne (unpack Format.binary64 (pack Format.binary64 u)) := by
  have hinfinity (sign : Sign) :
      AtLeastOne (unpack Format.binary64 (packedInfinity Format.binary64 sign)) := by
    obtain ⟨sign', hunpack⟩ := exists_unpack_packedInfinity sign
    rw [hunpack]
    trivial
  cases u with
  | notANumber => cases h
  | infinity sign => exact hinfinity sign
  | zero sign => cases h
  | finite sign mantissa exponent hpos =>
      obtain ⟨hfirst, hlast, hexponent⟩ := h
      have hdigits : mantissa.log2 = 52 :=
        (Nat.log2_eq_iff (Nat.ne_of_gt hpos)).mpr ⟨hfirst, hlast⟩
      obtain ⟨-, hpack⟩ | ⟨-, biased, rest, hlt, -, hbiased, hpack⟩ :=
        @pack_finite_cases sign mantissa exponent hpos
      · rw [hpack]
        exact hinfinity sign
      · have := hbiased hdigits
        rw [hpack]
        exact atLeastOne_unpack_packComponents hlt (by omega)

/-- What is a number is a finite one when it has been packed, or too large. -/
theorem infinite_or_atMost_pack {u : UnpackedFloat} (hu : u ≠ .notANumber) :
    (∃ sign, unpack Format.binary64 (pack Format.binary64 u) = .infinity sign) ∨
      AtMost 971 (unpack Format.binary64 (pack Format.binary64 u)) := by
  cases u with
  | notANumber => exact absurd rfl hu
  | infinity sign => exact .inl (exists_unpack_packedInfinity sign)
  | zero sign => exact .inr (AtMost.pack (u := .zero sign) trivial (Nat.le_refl 971))
  | finite sign mantissa exponent hpos =>
      obtain ⟨-, hpack⟩ | ⟨hexponent, -⟩ :=
        @pack_finite_cases sign mantissa exponent hpos
      · rw [hpack]
        exact .inl (exists_unpack_packedInfinity sign)
      · exact .inr (AtMost.pack (u := .finite sign mantissa exponent hpos) hexponent
          (Nat.le_refl 971))

/-- What is unpacked has its digits in 53 bits, and its exponent is not too large. -/
theorem unpack_finite {bits : BitVec 64} {mantissa : Nat} {exponent : Int} {hpos : 0 < mantissa}
    (h : unpack Format.binary64 bits = .finite sign mantissa exponent hpos) :
    mantissa < 2 ^ 53 ∧ exponent ≤ 971 := by
  have hmantissa : (@unpackMantissa Format.binary64 bits).toNat < 2 ^ 52 :=
    (@unpackMantissa Format.binary64 bits).isLt
  have hexponent : (@unpackExponent Format.binary64 bits).toNat < 2 ^ 11 :=
    (@unpackExponent Format.binary64 bits).isLt
  unfold UnpackedFloat.unpack at h
  dsimp only at h
  split at h
  · split at h
    · cases h
    · cases h
  · rename_i hnotLast
    have hlast : (@unpackExponent Format.binary64 bits).toNat ≠ 2047 :=
      fun heq => hnotLast (BitVec.eq_of_toNat_eq heq)
    split at h
    · rename_i hzero
      split at h
      · cases h
      · injection h with _ hm he
        refine ⟨by omega, ?_⟩
        rw [hzero] at he
        have he' : (0 : Int) - 1075 + 1 = exponent := he
        omega
    · injection h with _ hm he
      have he' : ((@unpackExponent Format.binary64 bits).toNat : Int) - 1075 = exponent := he
      refine ⟨?_, by omega⟩
      rw [← hm]
      exact (1#1 ++ @unpackMantissa Format.binary64 bits).isLt

end Packing

/-! ## Rounding -/

section Rounding

variable {bound : Nat} {sign : Sign} {mantissa : Nat} {exponent : Int}

theorem mantissa_shiftRight (em : ExtendedMantissa) (k : Nat) :
    (em >>> k).mantissa = em.mantissa / 2 ^ k := by
  induction k with
  | zero => exact (Nat.div_one _).symm
  | succ k ih =>
      show (em >>> k).mantissa / 2 = _
      rw [ih, Nat.div_div_eq_div_mul, Nat.pow_succ]

theorem roundedMantissa_bounds (em : ExtendedMantissa) :
    em.mantissa ≤ em.roundedMantissa ∧ em.roundedMantissa ≤ em.mantissa + 1 := by
  obtain ⟨m, round, sticky⟩ := em
  cases round with
  | false =>
      cases sticky with
      | false => exact ⟨Nat.le_refl m, Nat.le_succ m⟩
      | true => exact ⟨Nat.le_refl m, Nat.le_succ m⟩
  | true =>
      cases sticky with
      | false =>
          show m ≤ m + m % 2 ∧ m + m % 2 ≤ m + 1
          omega
      | true => exact ⟨Nat.le_succ m, Nat.le_refl _⟩

theorem log2_le_of_lt {n k : Nat} (h : n < 2 ^ (k + 1)) : n.log2 ≤ k := by
  rcases Nat.eq_zero_or_pos n with hzero | hpos
  · rw [hzero]
    exact Nat.zero_le k
  · exact Nat.lt_succ_iff.mp ((Nat.log2_lt (Nat.ne_of_gt hpos)).mpr h)

/-- Digits are shifted out until there are no more than 53 of them. -/
theorem shiftToTargetExponent_eq (accuracy : Accuracy) :
    (shiftToTargetExponent Format.binary64 mantissa exponent accuracy).1.mantissa =
        mantissa / 2 ^ (max (mantissa.log2 + exponent - 52) (-1074) - exponent).toNat ∧
      (shiftToTargetExponent Format.binary64 mantissa exponent accuracy).2 =
        max exponent (max (mantissa.log2 + exponent - 52) (-1074)) := by
  have htarget : Format.binary64.targetExponent (totalExponent mantissa exponent) =
      max ((mantissa.log2 : Int) + exponent - 52) (-1074) := by
    show max ((mantissa.log2 : Int) + 1 + exponent - 53) (-1074) = _
    omega
  have hinitial : (ExtendedMantissa.ofMantissaAndAccuracy mantissa accuracy).mantissa =
      mantissa := by
    cases accuracy with
    | exact => rfl
    | inexact order =>
        cases order with
        | lt => rfl
        | eq => rfl
        | gt => rfl
  unfold shiftToTargetExponent shiftToExponent
  rw [htarget]
  dsimp only
  constructor
  · rw [mantissa_shiftRight, hinitial]
  · omega

theorem shiftToTargetExponent_lt (accuracy : Accuracy) :
    (shiftToTargetExponent Format.binary64 mantissa exponent accuracy).1.mantissa < 2 ^ 53 := by
  rw [(shiftToTargetExponent_eq accuracy).1, Nat.div_lt_iff_lt_mul (Nat.two_pow_pos _),
    ← Nat.pow_add]
  refine Nat.lt_of_lt_of_le Nat.lt_log2_self (Nat.pow_le_pow_right (by decide) ?_)
  omega

/-- Rounding may carry over into one more digit, but no further. -/
theorem atMost_round {accuracy : Accuracy} (hexponent : exponent ≤ bound)
    (hmantissa : mantissa.log2 + exponent ≤ bound + 52) :
    AtMost (bound + 1) (roundWithAccuracy Format.binary64 sign mantissa exponent accuracy) := by
  have hshifted := @shiftToTargetExponent_lt mantissa exponent accuracy
  have hfirst := (@shiftToTargetExponent_eq mantissa exponent accuracy).2
  unfold roundWithAccuracy
  generalize shiftToTargetExponent Format.binary64 mantissa exponent accuracy = first
    at hshifted hfirst
  obtain ⟨em, exponent'⟩ := first
  dsimp only at hshifted hfirst ⊢
  -- All ones are rounded up to a power of two, which has one digit more.
  have hrounded : em.roundedMantissa ≤ 2 ^ 53 := by
    have := (roundedMantissa_bounds em).2
    omega
  have hlog : em.roundedMantissa.log2 ≤ 53 := log2_le_of_lt (by omega)
  have hsecond := (@shiftToTargetExponent_eq em.roundedMantissa exponent' .exact).2
  split
  · trivial
  · show (shiftToTargetExponent Format.binary64 em.roundedMantissa exponent' .exact).2 ≤ _
    rw [hsecond]
    omega

theorem shiftToTargetExponent_atLeastOne {accuracy : Accuracy} (hdigits : 2 ^ 52 ≤ mantissa)
    (hexponent : 0 ≤ mantissa.log2 + exponent) :
    2 ^ 52 ≤ (shiftToTargetExponent Format.binary64 mantissa exponent accuracy).1.mantissa ∧
      -52 ≤ (shiftToTargetExponent Format.binary64 mantissa exponent accuracy).2 := by
  obtain ⟨hmantissa, hsecond⟩ := @shiftToTargetExponent_eq mantissa exponent accuracy
  have hpos : mantissa ≠ 0 := by omega
  have hlog : 52 ≤ mantissa.log2 := (Nat.le_log2 hpos).mpr hdigits
  constructor
  · rw [hmantissa, Nat.le_div_iff_mul_le (Nat.two_pow_pos _), ← Nat.pow_add]
    refine Nat.le_trans (Nat.pow_le_pow_right (by decide) ?_) (Nat.log2_self_le hpos)
    omega
  · omega

/-- Rounding leaves the first digit before the point. -/
theorem atLeastOne_round {accuracy : Accuracy} (hdigits : 2 ^ 52 ≤ mantissa)
    (hexponent : 0 ≤ mantissa.log2 + exponent) :
    AtLeastOne (roundWithAccuracy Format.binary64 sign mantissa exponent accuracy) := by
  obtain ⟨hshifted, hfirst⟩ :=
    @shiftToTargetExponent_atLeastOne mantissa exponent accuracy hdigits hexponent
  unfold roundWithAccuracy
  generalize shiftToTargetExponent Format.binary64 mantissa exponent accuracy = first
    at hshifted hfirst
  obtain ⟨em, exponent'⟩ := first
  dsimp only at hshifted hfirst ⊢
  have hrounded : 2 ^ 52 ≤ em.roundedMantissa := Nat.le_trans hshifted (roundedMantissa_bounds em).1
  have hlog : 52 ≤ em.roundedMantissa.log2 :=
    (Nat.le_log2 (by omega)).mpr hrounded
  obtain ⟨hmantissa, hsecond⟩ :=
    @shiftToTargetExponent_atLeastOne em.roundedMantissa exponent' .exact hrounded (by omega)
  split
  · omega
  · exact ⟨hmantissa, shiftToTargetExponent_lt .exact, hsecond⟩

theorem round_ne_notANumber {accuracy : Accuracy} :
    roundWithAccuracy Format.binary64 sign mantissa exponent accuracy ≠ .notANumber := by
  unfold roundWithAccuracy
  dsimp only
  split
  · intro h
    cases h
  · intro h
    cases h

end Rounding

/-! ## Arithmetic -/

/-- A double that is finite, with a bound for its exponent. -/
def Small (bound : Nat) (x : Float) : Prop := AtMost bound x.toModel.unpack

/-- A finite number that is at least one. -/
structure IsPower (x : Float) : Prop where
  small : Small 971 x
  atLeastOne : AtLeastOne x.toModel.unpack

instance (x : Float) : Decidable (IsPower x) :=
  decidable_of_iff (AtMost 971 x.toModel.unpack ∧ AtLeastOne x.toModel.unpack)
    ⟨fun h => ⟨h.1, h.2⟩, fun h => ⟨h.small, h.atLeastOne⟩⟩

section Arithmetic

variable {bound bound' : Nat} {x y : Float}

theorem Small.isFinite (h : Small bound x) : x.isFinite = true := AtMost.isFinite h

theorem Small.mono (h : Small bound x) (hle : bound ≤ bound') : Small bound' x := by
  unfold Small at h ⊢
  obtain ⟨sign, hx⟩ | ⟨sign, mantissa, exponent, hpos, hx, hexponent⟩ := AtMost.cases h
  · rw [hx]
    trivial
  · rw [hx]
    show exponent ≤ bound'
    omega

theorem Small.neg (h : Small bound x) (hbound : bound ≤ 971) : Small bound (-x) := by
  show AtMost bound (unpack _ (pack _ x.toModel.unpack.neg))
  refine AtMost.pack ?_ hbound
  obtain ⟨sign, hx⟩ | ⟨sign, mantissa, exponent, hpos, hx, hexponent⟩ := AtMost.cases h
  · rw [hx]
    trivial
  · rw [hx]
    exact hexponent

/-- The digits of a product are no more than those of its factors together. -/
theorem Small.mul (hx : Small bound x) (hy : Small bound' y)
    (hbound : bound + bound' + 54 ≤ 971) : Small (bound + bound' + 54) (x * y) := by
  show AtMost _ (unpack _ (pack _ (UnpackedFloat.mul _ x.toModel.unpack y.toModel.unpack)))
  refine AtMost.pack ?_ hbound
  obtain ⟨sign, hzero⟩ | ⟨s, m, e, hm, s', m', e', hm', hu, hv, he, he'⟩ := AtMost.mul_cases hx hy
  · rw [hzero]
    trivial
  · have hdigits : m * m' < 2 ^ 53 * 2 ^ 53 :=
      Nat.mul_lt_mul'' (unpack_finite hu).1 (unpack_finite hv).1
    have hlog : (m * m').log2 < 106 :=
      (Nat.log2_lt (Nat.ne_of_gt (Nat.mul_pos hm hm'))).mpr hdigits
    rw [hu, hv]
    exact atMost_round (by omega) (by omega)

/-- Two finite numbers have a product; it is finite unless it is too large. -/
theorem Small.mul_of_not_isInf (hx : Small bound x) (hy : Small bound' y)
    (hproduct : (x * y).isInf = false) : Small 971 (x * y) := by
  have hne : UnpackedFloat.mul Format.binary64 x.toModel.unpack y.toModel.unpack ≠
      .notANumber := by
    obtain ⟨sign, hzero⟩ | ⟨s, m, e, hm, s', m', e', hm', hu, hv, -⟩ := AtMost.mul_cases hx hy
    · rw [hzero]
      nofun
    · rw [hu, hv]
      exact round_ne_notANumber
  rcases infinite_or_atMost_pack hne with ⟨sign, hinfinite⟩ | hatMost
  · have hinf : (x * y).isInf = true := congrArg UnpackedFloat.isInf hinfinite
    rw [hproduct] at hinf
    cases hinf
  · exact hatMost

/-- Dividing by a number that is at least one makes nothing much larger. -/
theorem Small.div (h : Small bound x) (hy : IsPower y)
    (hbound : bound + 53 ≤ 971) : Small (bound + 53) (x / y) := by
  show AtMost _ (unpack _ (pack _ (UnpackedFloat.div _ x.toModel.unpack y.toModel.unpack)))
  refine AtMost.pack ?_ hbound
  obtain ⟨s', m', e', hm', hv, hdigits', he'⟩ := hy.atLeastOne.cases hy.small
  obtain ⟨sign, hu⟩ | ⟨s, m, e, hm, hu, he⟩ := AtMost.cases h
  · rw [hu, hv]
    trivial
  · rw [hu, hv]
    -- The quotient is taken with more digits in front of the point than it needs.
    generalize htarget : min (e - e') (Format.binary64.targetExponent
      (totalExponent m e - totalExponent m' e')) = target
    have hle : target ≤ e - e' := htarget ▸ Int.min_le_left _ _
    have hquotient : m <<< (e - e' - target).toNat / m' < 2 ^ ((e - e' - target).toNat + 1) := by
      have hdigits : m < 2 ^ 53 := (unpack_finite hu).1
      rw [Nat.div_lt_iff_lt_mul hm', Nat.shiftLeft_eq, Nat.pow_succ, Nat.mul_assoc, Nat.mul_comm]
      exact Nat.mul_lt_mul_of_pos_left (by omega) (Nat.two_pow_pos _)
    have hlog := log2_le_of_lt hquotient
    show AtMost _ (roundWithAccuracy Format.binary64 _ (m <<< (e - e' - _).toNat / m') _ _)
    rw [htarget]
    exact @atMost_round (bound + 52) _ _ _ _ (by omega) (by omega)

end Arithmetic

/-! ## Whole numbers -/

section Whole

variable {n : Nat}

theorem log2_shiftLeft_le {b : Nat} (hn : n < 2 ^ (b + 1)) (k : Nat) :
    (n <<< k).log2 ≤ b + k := by
  refine log2_le_of_lt ?_
  rw [Nat.shiftLeft_eq, Nat.add_right_comm, Nat.pow_add]
  exact Nat.mul_lt_mul_of_pos_right hn (Nat.two_pow_pos k)

theorem small_toFloat (n : UInt64) : Small 12 n.toFloat := by
  show AtMost 12 (unpack _ (pack _
    (UnpackedFloat.normalize Format.binary64 (n.toNat : Int) 0 .positive)))
  refine AtMost.pack ?_ (by decide)
  rcases Nat.eq_zero_or_pos n.toNat with hzero | hpos
  · rw [hzero]
    trivial
  · have hgt : compare (n.toNat : Int) 0 = .gt := Int.compare_eq_gt.mpr (by omega)
    have hlog := log2_shiftLeft_le n.toNat_lt
    simp only [UnpackedFloat.normalize, hgt, UnpackedFloat.round, decreaseExponent,
      Int.toNat_natCast]
    generalize (0 - Format.binary64.targetExponent (totalExponent n.toNat 0)).toNat = shift
    have := hlog shift
    exact @atMost_round 11 _ _ _ _ (by omega) (by omega)

theorem ofScientific_eq {k : Nat} (hn : n ≠ 0) (hk : k ≤ 2048) :
    UnpackedFloat.ofScientific Format.binary64 n k =
      roundWithAccuracy Format.binary64 .positive ((n * 10 ^ k) <<< 53) (-53) .exact := by
  have hlimit : (2 : Int) ^ Format.binary64.exponentBits = 2048 := rfl
  unfold UnpackedFloat.ofScientific
  rw [dif_neg hn, if_neg (by omega), if_neg (by omega), if_pos (by omega), UnpackedFloat.mul,
    Int.toNat_natCast, Nat.shiftLeft_eq, Nat.shiftLeft_eq, Nat.mul_right_comm]
  rfl

/-- A whole number of 64 bits is read as a finite double. -/
theorem small_ofNat (hn : n < 2 ^ 64) : Small 66 (Float.ofNat n) := by
  show Small 66 (Float.ofScientific n false 0)
  unfold Float.ofScientific
  split
  · have hone : Small 0 (Float.ofBits 0x3FF0000000000000) := by
      show (-52 : Int) ≤ 0
      decide
    exact (small_toFloat n.toUInt64).mul hone (by decide)
  · rename_i hlarge
    have hpos : n ≠ 0 := by
      rintro rfl
      exact hlarge ⟨by decide, by decide⟩
    have hlog := log2_shiftLeft_le hn 53
    have hround := ofScientific_eq hpos (Nat.zero_le 2048)
    rw [Nat.pow_zero, Nat.mul_one] at hround
    show AtMost 66 (unpack _ (pack _ (UnpackedFloat.ofScientific Format.binary64 n (0 : Nat))))
    rw [hround]
    generalize n <<< 53 = digits at hlog ⊢
    exact AtMost.pack (@atMost_round 65 _ _ _ _ (by omega) (by omega)) (by decide)

theorem small_ofInt_neg (hn : n < 2 ^ 64) : Small 66 (Float.ofInt (-(n : Int))) := by
  cases n with
  | zero => exact small_ofNat hn
  | succ n => exact (small_ofNat hn).neg (by decide)

/-- The exact powers of ten stand in a table. -/
theorem isPower_exact : ∀ k < 23, IsPower (Float.ofScientific 1 false k) := by
  decide +kernel

/-- Only the largest power comes near to what a double can hold. -/
theorem isPower_largest : IsPower (Float.ofScientific 1 false 308) := by
  decide +kernel

/-- Each power of ten that a double can hold is at least one. -/
theorem isPower_powers {k : Nat} (hk : k < 309) : IsPower (Float.ofScientific 1 false k) := by
  by_cases hexact : k < 23
  · exact isPower_exact k hexact
  by_cases hlargest : k = 308
  · rw [hlargest]
    exact isPower_largest
  -- The others are rounded once, and are too small to become infinite by it.
  have hpower : 10 ^ k < 2 ^ (1019 + 1) :=
    Nat.lt_of_le_of_lt (Nat.pow_le_pow_right (by decide) (by omega : k ≤ 307)) (by decide +kernel)
  have hround := ofScientific_eq Nat.one_ne_zero (by omega : k ≤ 2048)
  rw [Nat.one_mul] at hround
  have hlog : ((10 ^ k) <<< 53).log2 ≤ 1019 + 53 := log2_shiftLeft_le hpower 53
  have hfirst : 2 ^ 53 ≤ (10 ^ k) <<< 53 := by
    rw [Nat.shiftLeft_eq]
    exact Nat.le_mul_of_pos_left _ (Nat.pow_pos (by decide))
  have hlog' : 53 ≤ ((10 ^ k) <<< 53).log2 := (Nat.le_log2 (by omega)).mpr hfirst
  unfold Float.ofScientific
  rw [dif_neg (by omega)]
  generalize (10 ^ k) <<< 53 = digits at hround hlog hlog' hfirst
  constructor
  · show AtMost 971 (unpack _ (pack _ (UnpackedFloat.ofScientific Format.binary64 1 k)))
    rw [hround]
    exact AtMost.pack (@atMost_round 970 _ _ _ _ (by omega) (by omega)) (Nat.le_refl _)
  · show AtLeastOne (unpack _ (pack _ (UnpackedFloat.ofScientific Format.binary64 1 k)))
    rw [hround]
    exact AtLeastOne.pack (atLeastOne_round (by omega) (by omega))

end Whole

/-! ## Comparing -/

/-- Finite numbers can be compared, from either side. -/
theorem exists_compare {u v : UnpackedFloat} (hu : u.isFinite = true) (hv : v.isFinite = true) :
    ∃ o : Ordering, UnpackedFloat.compare u v = some o ∧
      UnpackedFloat.compare v u = some o.swap := by
  have hswap (e e' : Int) (m m' : Nat) : ((compare e e').then (compare m m')).swap =
      (compare e' e).then (compare m' m) := by
    rw [Ordering.swap_then, Int.compare_swap, Nat.compare_swap]
  cases u with
  | notANumber => cases hu
  | infinity sign => cases hu
  | zero sign =>
      cases v with
      | notANumber => cases hv
      | infinity sign => cases hv
      | zero sign' => exact ⟨.eq, rfl, rfl⟩
      | finite sign' m' e' hm' =>
          cases sign' with
          | positive => exact ⟨.lt, rfl, rfl⟩
          | negative => exact ⟨.gt, rfl, rfl⟩
  | finite sign m e hm =>
      cases v with
      | notANumber => cases hv
      | infinity sign => cases hv
      | zero sign' =>
          cases sign with
          | positive => exact ⟨.gt, rfl, rfl⟩
          | negative => exact ⟨.lt, rfl, rfl⟩
      | finite sign' m' e' hm' =>
          cases sign with
          | positive =>
              cases sign' with
              | positive => exact ⟨_, rfl, congrArg some (hswap e e' m m').symm⟩
              | negative => exact ⟨.gt, rfl, rfl⟩
          | negative =>
              cases sign' with
              | positive => exact ⟨.lt, rfl, rfl⟩
              | negative =>
                  refine ⟨_, rfl, ?_⟩
                  exact congrArg (fun o : Ordering => some o.swap) (hswap e e' m m').symm

theorem le_of_not_lt {x y : Float} (hx : x.isFinite = true) (hy : y.isFinite = true)
    (h : ¬ x < y) : y ≤ x := by
  obtain ⟨o, hxy, hyx⟩ := exists_compare (u := x.toModel.unpack) (v := y.toModel.unpack) hx hy
  have hne : o ≠ .lt := by
    rintro rfl
    exact h (decide_eq_true (beq_iff_eq.mpr hxy))
  have hle : (UnpackedFloat.compare y.toModel.unpack x.toModel.unpack).any (·.isLE) = true := by
    rw [hyx]
    cases o with
    | lt => exact absurd rfl hne
    | eq => rfl
    | gt => rfl
  exact decide_eq_true hle

end PlainTerminal.Json
