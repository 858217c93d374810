import DemandRide.Number.Binary64
import Mathlib

/-! How binary floating point rounds. A significand and an exponent are canonical if they are
how a double is kept; an exact value is rounded to a canonical one. Rounding never passes a
double: an exact value that is no less than a double is not rounded to less than it, and one that
is no more is not rounded to more. Overflow to infinity comes with packing, so exponents are not
bounded from above here. -/
namespace DemandRide.Binary64

open Float.Model Float.Model.UnpackedFloat

/-- The significand and exponent of a positive double: all 53 bits of the significand are used
unless the exponent is the least there is. -/
structure Canonical (m : Nat) (e : Int) : Prop where
  pos : 0 < m
  lt : m < 2 ^ 53
  least : -1074 ≤ e
  full : 2 ^ 52 ≤ m ∨ e = -1074

/-- The exponent to which a value is rounded. -/
def roundedExponent (m : Nat) (e : Int) : Int :=
  Format.binary64.targetExponent (totalExponent m e)

theorem roundedExponent_eq (m : Nat) (e : Int) :
    roundedExponent m e = max (m.log2 - 52 + e) (-1074) := by
  simp only [roundedExponent, Format.targetExponent, totalExponent, Format.mantissaBits,
    Format.minExponent]
  omega

theorem mantissa_shiftRight (em : ExtendedMantissa) (n : Nat) :
    (em >>> n).mantissa = em.mantissa / 2 ^ n := by
  change (n.repeat ExtendedMantissa.shiftRightOne em).mantissa = _
  induction n with
  | zero => simp [Nat.repeat]
  | succ n ih =>
      have hStep : (Nat.repeat ExtendedMantissa.shiftRightOne (n + 1) em).mantissa =
          (Nat.repeat ExtendedMantissa.shiftRightOne n em).mantissa / 2 := rfl
      rw [hStep, ih, Nat.div_div_eq_div_mul, Nat.pow_succ]

theorem mantissa_ofMantissaAndAccuracy (m : Nat) (accuracy : Accuracy) :
    (ExtendedMantissa.ofMantissaAndAccuracy m accuracy).mantissa = m := by
  unfold ExtendedMantissa.ofMantissaAndAccuracy
  split <;> rfl

/-- Rounding a significand leaves it or adds one to it. -/
theorem roundedMantissa_eq (em : ExtendedMantissa) :
    em.roundedMantissa = em.mantissa ∨ em.roundedMantissa = em.mantissa + 1 := by
  unfold ExtendedMantissa.roundedMantissa Accuracy.roundToNearestEven
  split
  · exact .inl rfl
  · exact .inl rfl
  · omega
  · exact .inr rfl

/-- A positive or negative value, or zero if the significand has been rounded to nothing. -/
def ofSignificand (sign : Sign) (m : Nat) (e : Int) : UnpackedFloat :=
  if h : m = 0 then .zero sign else .finite sign m e (Nat.pos_of_ne_zero h)

/-- The significand that the first shift leaves. -/
def kept (m : Nat) (e : Int) : Nat := m / 2 ^ (roundedExponent m e - e).toNat

section Kept

variable {m : Nat} {e : Int}

theorem kept_lt (m : Nat) (e : Int) : kept m e < 2 ^ 53 := by
  have hShift := roundedExponent_eq m e
  have hMantissa : m < 2 ^ 53 * 2 ^ (roundedExponent m e - e).toNat := by
    rw [← Nat.pow_add]
    refine Nat.lt_of_lt_of_le Nat.lt_log2_self (Nat.pow_le_pow_right (by decide) ?_)
    omega
  exact (Nat.div_lt_iff_lt_mul (Nat.two_pow_pos _)).mpr hMantissa

/-- As many bits are kept as fit, unless the exponent is the least there is. -/
theorem kept_full (hPos : 0 < m) (hFits : e ≤ roundedExponent m e) :
    2 ^ 52 ≤ kept m e ∨ roundedExponent m e = -1074 := by
  have hShift := roundedExponent_eq m e
  by_cases hLeast : roundedExponent m e = -1074
  · exact .inr hLeast
  · left
    refine (Nat.le_div_iff_mul_le (Nat.two_pow_pos _)).mpr ?_
    rw [← Nat.pow_add]
    refine Nat.le_trans (Nat.pow_le_pow_right (by decide) ?_) (Nat.log2_self_le (Nat.ne_of_gt hPos))
    omega

end Kept

/-- What is kept, rounded. It may have a bit too many. -/
def roundedSignificand (m : Nat) (e : Int) (accuracy : Accuracy) : Nat :=
  (ExtendedMantissa.ofMantissaAndAccuracy m accuracy >>>
    (roundedExponent m e - e).toNat).roundedMantissa

theorem roundedSignificand_eq (m : Nat) (e : Int) (accuracy : Accuracy) :
    roundedSignificand m e accuracy = kept m e ∨
      roundedSignificand m e accuracy = kept m e + 1 := by
  have hKept : (ExtendedMantissa.ofMantissaAndAccuracy m accuracy >>>
      (roundedExponent m e - e).toNat).mantissa = kept m e := by
    rw [mantissa_shiftRight, mantissa_ofMantissaAndAccuracy, kept]
  exact hKept ▸ roundedMantissa_eq _

/-- A significand with a bit too many is shifted once more. -/
def carried (sign : Sign) (r : Nat) (t : Int) : UnpackedFloat :=
  if r = 2 ^ 53 then ofSignificand sign (2 ^ 52) (t + 1) else ofSignificand sign r t

/-- Where the exponent does not have to be lowered first, what is kept is rounded and carried. -/
theorem roundWithAccuracy_eq_carried (sign : Sign) {m : Nat} {e : Int} (accuracy : Accuracy)
    (hFits : e ≤ roundedExponent m e) :
    roundWithAccuracy Format.binary64 sign m e accuracy =
      carried sign (roundedSignificand m e accuracy) (roundedExponent m e) := by
  have hShifted : e + ((roundedExponent m e - e).toNat : Int) = roundedExponent m e := by omega
  have hResult : roundWithAccuracy Format.binary64 sign m e accuracy =
      let r := roundedSignificand m e accuracy
      let first := e + ((roundedExponent m e - e).toNat : Int)
      let more := (roundedExponent r first - first).toNat
      ofSignificand sign (r / 2 ^ more) (first + more) := by
    simp only [roundWithAccuracy, shiftToTargetExponent, shiftToExponent, mantissa_shiftRight,
      mantissa_ofMantissaAndAccuracy, ofSignificand, roundedExponent, roundedSignificand]
    rfl
  rw [hShifted] at hResult
  have hLeast : -1074 ≤ roundedExponent m e := by rw [roundedExponent_eq]; omega
  have hRounded := roundedSignificand_eq m e accuracy
  have hAgain := roundedExponent_eq (roundedSignificand m e accuracy) (roundedExponent m e)
  have hKept := kept_lt m e
  generalize roundedExponent m e = t at *
  generalize roundedSignificand m e accuracy = r at *
  unfold carried
  split
  · next hCarry =>
      subst hCarry
      have hMore : (roundedExponent (2 ^ 53) t - t).toNat = 1 := by
        rw [hAgain, Nat.log2_two_pow]
        omega
      simp only [hMore] at hResult
      exact hResult
  · next hFew =>
      have hBits : r.log2 ≤ 52 := by
        by_cases hZero : r = 0
        · subst hZero; decide
        · exact Nat.le_of_lt_succ ((Nat.log2_lt hZero).mpr (by omega))
      have hMore : (roundedExponent r t - t).toNat = 0 := by
        rw [hAgain]
        omega
      simpa only [hMore, Nat.pow_zero, Nat.div_one, Int.natCast_zero, Int.add_zero] using hResult

/-- Where the exponent does not have to be lowered first, a value is rounded to a canonical one
or to nothing. It keeps what the first shift left of it, or one more, unless that is a bit too
many. -/
theorem roundWithAccuracy_eq (sign : Sign) {m : Nat} {e : Int} (accuracy : Accuracy)
    (hPos : 0 < m) (hFits : e ≤ roundedExponent m e) :
    ∃ r e', roundWithAccuracy Format.binary64 sign m e accuracy = ofSignificand sign r e' ∧
      (e' = roundedExponent m e ∧ (r = kept m e ∨ r = kept m e + 1) ∧ (r = 0 ∨ Canonical r e') ∨
        e' = roundedExponent m e + 1 ∧ r = 2 ^ 52 ∧ kept m e + 1 = 2 ^ 53 ∧ Canonical r e') := by
  have hResult := roundWithAccuracy_eq_carried sign accuracy hFits
  have hRounded := roundedSignificand_eq m e accuracy
  have hLeast : -1074 ≤ roundedExponent m e := by rw [roundedExponent_eq]; omega
  have hKept := kept_lt m e
  have hFull := kept_full hPos hFits
  unfold carried at hResult
  split at hResult
  · exact ⟨2 ^ 52, _, hResult, .inr ⟨rfl, rfl, by omega, by decide, by decide, by omega,
      .inl (by decide)⟩⟩
  · next hFew =>
      refine ⟨_, _, hResult, .inl ⟨rfl, hRounded, ?_⟩⟩
      by_cases hZero : roundedSignificand m e accuracy = 0
      · exact .inl hZero
      · exact .inr ⟨Nat.pos_of_ne_zero hZero, by omega, hLeast, by omega⟩

/-- Whether the significand `m'` at exponent `e'` is no less than `m` at `e`. -/
def AtLeast (m : Nat) (e : Int) (m' : Nat) (e' : Int) : Prop := e < e' ∨ e = e' ∧ m ≤ m'

/-- A double that does not exceed a value has no larger exponent than the value is rounded to. -/
theorem Canonical.le_roundedExponent {m M : Nat} {e E : Int} (hDouble : Canonical m e)
    (hPos : 0 < M) (hFits : E ≤ roundedExponent M E) (hAbove : m * 2 ^ (e - E).toNat ≤ M) :
    e ≤ roundedExponent M E := by
  have hRounded := roundedExponent_eq M E
  by_contra hBeyond
  have hDigits : 2 ^ 52 ≤ m := hDouble.full.resolve_right (by omega)
  have hFull : 2 ^ (52 + (e - E).toNat) ≤ M := by
    rw [Nat.pow_add]
    exact Nat.le_trans (Nat.mul_le_mul_right _ hDigits) hAbove
  have hBits := (Nat.le_log2 (Nat.ne_of_gt hPos)).mpr hFull
  omega

/-- An exact value that is no less than a double is rounded to one that is no less. -/
theorem roundWithAccuracy_atLeast (sign : Sign) {m M : Nat} {e E : Int} (accuracy : Accuracy)
    (hDouble : Canonical m e) (hFits : E ≤ roundedExponent M E)
    (hAbove : m * 2 ^ (e - E).toNat ≤ M) :
    ∃ r e', roundWithAccuracy Format.binary64 sign M E accuracy = ofSignificand sign r e' ∧
      Canonical r e' ∧ AtLeast m e r e' := by
  have hPos : 0 < M := Nat.lt_of_lt_of_le (Nat.mul_pos hDouble.pos (Nat.two_pow_pos _)) hAbove
  have hExponent := hDouble.le_roundedExponent hPos hFits hAbove
  obtain ⟨r, e', hResult, ⟨hStays, hRounded, hCanonical⟩ | ⟨hGrows, -, -, hCanonical⟩⟩ :=
    roundWithAccuracy_eq sign accuracy hPos hFits
  · have hKept : kept M E ≤ r := by omega
    have hRank : 0 < r ∧ AtLeast m e r e' := by
      by_cases hSame : e = roundedExponent M E
      · have hKeeps : m ≤ kept M E := by
          refine (Nat.le_div_iff_mul_le (Nat.two_pow_pos _)).mpr ?_
          rwa [← hSame]
        have hLe := Nat.le_trans hKeeps hKept
        exact ⟨Nat.lt_of_lt_of_le hDouble.pos hLe, .inr ⟨hSame.trans hStays.symm, hLe⟩⟩
      · have hLeast := hDouble.least
        have hDigits := (kept_full hPos hFits).resolve_right (by omega)
        exact ⟨by omega, .inl (by omega)⟩
    exact ⟨r, e', hResult, hCanonical.resolve_left (Nat.ne_of_gt hRank.1), hRank.2⟩
  · exact ⟨r, e', hResult, hCanonical, .inl (by omega)⟩

/-- An exact value that is less than a double is rounded to one that is no more, or to nothing. -/
theorem roundWithAccuracy_atMost (sign : Sign) {m M : Nat} {e E : Int} (accuracy : Accuracy)
    (hDouble : Canonical m e) (hExponent : E ≤ e) (hPos : 0 < M)
    (hFits : E ≤ roundedExponent M E) (hBelow : M < m * 2 ^ (e - E).toNat) :
    ∃ r e', roundWithAccuracy Format.binary64 sign M E accuracy = ofSignificand sign r e' ∧
      (r = 0 ∨ Canonical r e' ∧ AtLeast r e' m e) := by
  obtain ⟨-, hLt, hLeast, hFull⟩ := hDouble
  have hRounded := roundedExponent_eq M E
  have hBits : M.log2 < 53 + (e - E).toNat := by
    refine (Nat.log2_lt (Nat.ne_of_gt hPos)).mpr (Nat.lt_of_lt_of_le hBelow ?_)
    rw [Nat.pow_add]
    exact Nat.mul_le_mul_right _ (Nat.le_of_lt hLt)
  have hStart : roundedExponent M E ≤ e := by omega
  have hKeeps (hSame : roundedExponent M E = e) : kept M E < m := by
    refine (Nat.div_lt_iff_lt_mul (Nat.two_pow_pos _)).mpr ?_
    rwa [hSame]
  obtain ⟨r, e', hResult, ⟨hStays, hRound, hCanonical⟩ | ⟨hGrows, hBit, hCarry, hCanonical⟩⟩ :=
    roundWithAccuracy_eq sign accuracy hPos hFits
  · refine ⟨r, e', hResult, hCanonical.imp_right fun hCanonical => ⟨hCanonical, ?_⟩⟩
    rcases Int.lt_or_eq_of_le hStart with hLess | hSame
    · exact .inl (by omega)
    · have hBelow := hKeeps hSame
      exact .inr ⟨by omega, by omega⟩
  · refine ⟨r, e', hResult, .inr ⟨hCanonical, ?_⟩⟩
    rcases Int.lt_or_eq_of_le hStart with hLess | hSame
    · unfold AtLeast
      omega
    · have hBelow := hKeeps hSame
      omega

theorem log2_shiftLeft {m : Nat} (hPos : 0 < m) (k : Nat) : (m <<< k).log2 = m.log2 + k := by
  have hBelow := Nat.log2_self_le (Nat.ne_of_gt hPos)
  have hAbove := Nat.lt_log2_self (n := m)
  rw [Nat.shiftLeft_eq]
  refine (Nat.log2_eq_iff (Nat.ne_of_gt (Nat.mul_pos hPos (Nat.two_pow_pos k)))).mpr ⟨?_, ?_⟩
  · rw [Nat.pow_add]
    exact Nat.mul_le_mul_right _ hBelow
  · rw [Nat.add_right_comm, Nat.pow_add]
    exact Nat.mul_lt_mul_of_pos_right hAbove (Nat.two_pow_pos k)

/-- How far an exponent is lowered before a value is rounded. -/
def lowering (M : Nat) (E : Int) : Nat := (E - roundedExponent M E).toNat

/-- Lowering the exponent makes room without changing where the value is rounded to. -/
theorem roundedExponent_lowered {M : Nat} (hPos : 0 < M) (E : Int) :
    E - lowering M E ≤ roundedExponent (M <<< lowering M E) (E - lowering M E) := by
  have hRounded := roundedExponent_eq M E
  rw [roundedExponent_eq, log2_shiftLeft hPos]
  unfold lowering
  omega

/-- A bound by a double is lowered with the value. -/
theorem pow_lowered {e E : Int} (hExponent : E ≤ e) (m k : Nat) :
    m * 2 ^ (e - (E - k)).toNat = m * 2 ^ (e - E).toNat * 2 ^ k := by
  have hShift : (e - (E - k)).toNat = (e - E).toNat + k := by omega
  rw [hShift, Nat.pow_add, Nat.mul_assoc]

/-- The same if the exponent has to be lowered first. -/
theorem round_atLeast (sign : Sign) {m M : Nat} {e E : Int} (hDouble : Canonical m e)
    (hExponent : E ≤ e) (hAbove : m * 2 ^ (e - E).toNat ≤ M) :
    ∃ r e', round Format.binary64 sign M E = ofSignificand sign r e' ∧
      Canonical r e' ∧ AtLeast m e r e' := by
  have hPos : 0 < M := Nat.lt_of_lt_of_le (Nat.mul_pos hDouble.pos (Nat.two_pow_pos _)) hAbove
  refine roundWithAccuracy_atLeast sign .exact hDouble (roundedExponent_lowered hPos E) ?_
  rw [pow_lowered hExponent, Nat.shiftLeft_eq]
  exact Nat.mul_le_mul_right _ hAbove

theorem round_atMost (sign : Sign) {m M : Nat} {e E : Int} (hDouble : Canonical m e)
    (hExponent : E ≤ e) (hPos : 0 < M) (hBelow : M < m * 2 ^ (e - E).toNat) :
    ∃ r e', round Format.binary64 sign M E = ofSignificand sign r e' ∧
      (r = 0 ∨ Canonical r e' ∧ AtLeast r e' m e) := by
  refine roundWithAccuracy_atMost sign .exact hDouble (by omega) ?_
    (roundedExponent_lowered hPos E) ?_
  · rw [Nat.shiftLeft_eq]
    exact Nat.mul_pos hPos (Nat.two_pow_pos _)
  · rw [pow_lowered hExponent, Nat.shiftLeft_eq]
    exact Nat.mul_lt_mul_of_pos_right hBelow (Nat.two_pow_pos _)

section Packing

theorem toNat_implicit (v : BitVec 52) : (1#1 ++ v).toNat = 2 ^ 52 + v.toNat := by
  rw [BitVec.toNat_append, ← Nat.shiftLeft_add_eq_or_of_lt v.isLt]
  rfl

/-- What is unpacked is canonical. -/
theorem canonical_of_unpack {x : Float.Model} {sign : Sign} {m : Nat} {e : Int} {hPos : 0 < m}
    (h : x.unpack = .finite sign m e hPos) : Canonical m e := by
  unfold Float.Model.unpack UnpackedFloat.unpack at h
  dsimp only at h
  have hMantissa : (@unpackMantissa Format.binary64 x.toBits.toBitVec).toNat < 2 ^ 52 :=
    (@unpackMantissa Format.binary64 x.toBits.toBitVec).isLt
  split_ifs at h with hTop hInfinite hLeast hNone
  · cases h
    refine ⟨hPos, by omega, ?_, .inr ?_⟩ <;> rw [hLeast] <;> decide
  · cases h
    have hExponent := Nat.pos_of_ne_zero fun hNone => hLeast (BitVec.eq_of_toNat_eq hNone)
    rw [toNat_implicit]
    refine ⟨by omega, by omega, ?_, .inl (by omega)⟩
    simp only [Format.exponentBias]
    omega

/-- The largest exponent of a double. -/
theorem exponent_le_of_unpack {x : Float.Model} {sign : Sign} {m : Nat} {e : Int} {hPos : 0 < m}
    (h : x.unpack = .finite sign m e hPos) : e ≤ 971 := by
  unfold Float.Model.unpack UnpackedFloat.unpack at h
  dsimp only at h
  have hBits : (@unpackExponent Format.binary64 x.toBits.toBitVec).toNat < 2 ^ 11 :=
    (@unpackExponent Format.binary64 x.toBits.toBitVec).isLt
  split_ifs at h with hTop hInfinite hLeast hNone
  · cases h
    rw [hLeast]
    decide
  · cases h
    have hExponent : (@unpackExponent Format.binary64 x.toBits.toBitVec).toNat ≠ 2047 :=
      fun hAll => hTop (BitVec.eq_of_toNat_eq hAll)
    simp only [Format.exponentBias]
    omega

theorem finite_congr (sign : Sign) {m m' : Nat} {e e' : Int} {hPos : 0 < m} (hPos' : 0 < m')
    (hMantissa : m = m') (hExponent : e = e') :
    UnpackedFloat.finite sign m e hPos = .finite sign m' e' hPos' := by
  subst hMantissa hExponent
  rfl

theorem unpack_normal (sign : Sign) {exponent : BitVec 11} (mantissa : BitVec 52)
    (hTop : exponent ≠ -1#11) (hLeast : exponent ≠ 0#11) :
    UnpackedFloat.unpack Format.binary64
        (packComponents Format.binary64 sign exponent mantissa) =
      .finite sign (2 ^ 52 + mantissa.toNat) (exponent.toNat - 1075) (by omega) := by
  simp only [UnpackedFloat.unpack, unpackExponent_packComponents, unpackMantissa_packComponents,
    unpackSign_packComponents, Sign.ofBitVec_toBitVec]
  rw [if_neg hTop, if_neg hLeast]
  exact finite_congr sign _ (toNat_implicit mantissa) rfl

theorem unpack_subnormal (sign : Sign) {mantissa : BitVec 52} (hPos : 0 < mantissa.toNat) :
    UnpackedFloat.unpack Format.binary64 (packComponents Format.binary64 sign 0#11 mantissa) =
      .finite sign mantissa.toNat (-1074) hPos := by
  have hPresent : mantissa ≠ 0#52 := fun hNone => by simp [hNone] at hPos
  simp [UnpackedFloat.unpack, hPresent, Format.exponentBias]

theorem unpack_pack_finite (sign : Sign) (m : Nat) (e : Int) (hPos : 0 < m) :
    (Float.Model.pack (.finite sign m e hPos)).unpack = UnpackedFloat.unpack Format.binary64 (
      if 2 ^ 11 ≤ (e + 1023 + 52).toNat + 1 then packedInfinity Format.binary64 sign
      else if m.log2 + 1 = 53 then
        packComponents Format.binary64 sign (BitVec.ofNat 11 (e + 1023 + 52).toNat)
          (BitVec.ofNat 52 m)
      else packComponents Format.binary64 sign 0#11 (BitVec.ofNat 52 m)) := rfl

/-- A canonical double is kept as it is, unless its exponent is too large. -/
theorem unpack_pack_of_canonical (sign : Sign) {m : Nat} {e : Int} (h : Canonical m e) :
    (Float.Model.pack (.finite sign m e h.pos)).unpack = .finite sign m e h.pos ∨
      971 < e ∧ (Float.Model.pack (.finite sign m e h.pos)).unpack = .infinity sign := by
  obtain ⟨hPos, hLt, hLeast, hFull⟩ := h
  have hBits : m.log2 = 52 ↔ 2 ^ 52 ≤ m := by
    rw [Nat.log2_eq_iff (Nat.ne_of_gt hPos)]
    omega
  rw [unpack_pack_finite]
  split_ifs with hOver hNormal
  · refine .inr ⟨by omega, ?_⟩
    simp [packedInfinity, UnpackedFloat.unpack]
  · left
    have hDigits : 2 ^ 52 ≤ m := hBits.mp (Nat.succ.inj hNormal)
    generalize hBiased : BitVec.ofNat 11 _ = exponent
    have hExponent : (exponent.toNat : Int) = e + 1075 := by
      rw [← hBiased, BitVec.toNat_ofNat]
      omega
    have hMantissa : 2 ^ 52 + (BitVec.ofNat 52 m).toNat = m := by
      rw [BitVec.toNat_ofNat]
      omega
    have hTop : exponent ≠ -1#11 := by
      rintro rfl
      have hAll : (-1#11).toNat = 2047 := rfl
      omega
    have hNone : exponent ≠ 0#11 := by
      rintro rfl
      have hZero : (0#11).toNat = 0 := rfl
      omega
    rw [unpack_normal sign _ hTop hNone]
    exact finite_congr sign hPos hMantissa (by omega)
  · left
    have hDigits : ¬2 ^ 52 ≤ m := fun hFull => hNormal (congrArg Nat.succ (hBits.mpr hFull))
    have hMantissa : (BitVec.ofNat 52 m).toNat = m := by
      rw [BitVec.toNat_ofNat]
      omega
    rw [unpack_subnormal sign (by omega)]
    exact finite_congr sign hPos hMantissa (by omega)

end Packing

end DemandRide.Binary64
