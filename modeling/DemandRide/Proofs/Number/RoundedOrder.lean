import DemandRide.Proofs.Number.Binary64
import DemandRide.Proofs.Number.Monotone

/-! Rounding keeps the order: of two exact values the greater one is not rounded to less. Values
that are rounded to different exponents are apart already; values that are rounded to one exponent
are shifted by one step after the other, and no step changes their order. -/
namespace DemandRide.Binary64

open Float.Model Float.Model.UnpackedFloat

section Shifting

/-- A significand and its residual bits as one number. -/
def weight (em : ExtendedMantissa) : Nat :=
  4 * em.mantissa + 2 * em.roundBit.toNat + em.stickyBit.toNat

theorem weight_shiftRightOne_le {em other : ExtendedMantissa} (h : weight em ≤ weight other) :
    weight em.shiftRightOne ≤ weight other.shiftRightOne := by
  have hBit (m : Nat) : (m % 2 == 1).toNat = m % 2 := by
    rcases Nat.mod_two_eq_zero_or_one m with hEven | hOdd
    · simp [hEven]
    · simp [hOdd]
  rcases em with ⟨m, _ | _, _ | _⟩ <;> rcases other with ⟨n, _ | _, _ | _⟩ <;>
    simp [weight, ExtendedMantissa.shiftRightOne, hBit] at h ⊢ <;> omega

theorem weight_shiftRight_le {em other : ExtendedMantissa} (h : weight em ≤ weight other)
    (n : Nat) : weight (em >>> n) ≤ weight (other >>> n) := by
  induction n with
  | zero => exact h
  | succ n ih => exact weight_shiftRightOne_le ih

/-- Rounding half to even does not change the order either. -/
theorem roundedMantissa_le {em other : ExtendedMantissa} (h : weight em ≤ weight other) :
    em.roundedMantissa ≤ other.roundedMantissa := by
  rcases em with ⟨m, _ | _, _ | _⟩ <;> rcases other with ⟨n, _ | _, _ | _⟩ <;>
    simp [weight, ExtendedMantissa.roundedMantissa, ExtendedMantissa.accuracy,
      Accuracy.roundToNearestEven] at h ⊢ <;> omega

theorem shiftRight_add (em : ExtendedMantissa) (k n : Nat) : em >>> (k + n) = em >>> k >>> n := by
  induction n with
  | zero => rfl
  | succ n ih => exact congrArg ExtendedMantissa.shiftRightOne ih

/-- Digits that are all zero are shifted out without a trace. -/
theorem shiftRight_exact (m k : Nat) :
    ExtendedMantissa.ofMantissaAndAccuracy (m * 2 ^ k) .exact >>> k =
      ExtendedMantissa.ofMantissaAndAccuracy m .exact := by
  induction k generalizing m with
  | zero => simp; rfl
  | succ k ih =>
      have hTwice : m * 2 ^ (k + 1) = 2 * m * 2 ^ k := by ring
      have hOne : (ExtendedMantissa.ofMantissaAndAccuracy (2 * m) .exact).shiftRightOne =
          ExtendedMantissa.ofMantissaAndAccuracy m .exact := by
        simp [ExtendedMantissa.ofMantissaAndAccuracy, ExtendedMantissa.shiftRightOne]
      rw [hTwice]
      exact (congrArg ExtendedMantissa.shiftRightOne (ih (2 * m))).trans hOne

end Shifting

section Scale

variable {M : Nat} {E : Int}

/-- Where a value is rounded to does not depend on how it is written. -/
theorem roundedExponent_scaled (hPos : 0 < M) (k : Nat) :
    roundedExponent (M * 2 ^ k) (E - k) = roundedExponent M E := by
  rw [roundedExponent_eq, roundedExponent_eq, ← Nat.shiftLeft_eq, log2_shiftLeft hPos]
  omega

theorem roundedSignificand_scaled (hPos : 0 < M) (hFits : E ≤ roundedExponent M E) (k : Nat) :
    roundedSignificand (M * 2 ^ k) (E - k) .exact = roundedSignificand M E .exact := by
  have hShift : (roundedExponent M E - (E - k)).toNat = k + (roundedExponent M E - E).toNat := by
    omega
  rw [roundedSignificand, roundedSignificand, roundedExponent_scaled hPos, hShift, shiftRight_add,
    shiftRight_exact]

/-- A value is rounded alike from every exponent that is low enough. -/
theorem round_eq_carried (sign : Sign) (hPos : 0 < M) (k : Nat)
    (hFits : E - k ≤ roundedExponent M E) :
    round Format.binary64 sign M E =
      carried sign (roundedSignificand (M * 2 ^ k) (E - k) .exact) (roundedExponent M E) := by
  have hLowered : lowering M E ≤ k := by unfold lowering; omega
  obtain ⟨more, rfl⟩ := Nat.exists_eq_add_of_le hLowered
  have hScaled : 0 < M * 2 ^ lowering M E := Nat.mul_pos hPos (Nat.two_pow_pos _)
  have hRoom := roundedExponent_lowered hPos E
  have hRound : round Format.binary64 sign M E = roundWithAccuracy Format.binary64 sign
      (M <<< lowering M E) (E - lowering M E) .exact := rfl
  rw [hRound, roundWithAccuracy_eq_carried sign .exact hRoom, Nat.shiftLeft_eq,
    roundedExponent_scaled hPos]
  rw [Nat.shiftLeft_eq] at hRoom
  rw [← roundedSignificand_scaled hScaled hRoom more, Nat.mul_assoc, ← Nat.pow_add, Nat.cast_add,
    Int.sub_sub]

end Scale

/-- Whether the value `M * 2 ^ E` is no more than `M' * 2 ^ E'`. -/
def NoMore (M : Nat) (E : Int) (M' : Nat) (E' : Int) : Prop :=
  ∃ F, F ≤ E ∧ F ≤ E' ∧ M * 2 ^ (E - F).toNat ≤ M' * 2 ^ (E' - F).toNat

/-- A significand at a lower exponent. -/
theorem pow_split {E F G : Int} (hGF : G ≤ F) (hFE : F ≤ E) (M : Nat) :
    M * 2 ^ (E - G).toNat = M * 2 ^ (E - F).toNat * 2 ^ (F - G).toNat := by
  have hShift : (E - G).toNat = (E - F).toNat + (F - G).toNat := by omega
  rw [hShift, Nat.pow_add, Nat.mul_assoc]

/-- Values may be compared at any exponent that is low enough. -/
theorem NoMore.exists_below {M M' : Nat} {E E' : Int} (h : NoMore M E M' E') (G : Int) :
    ∃ F, F ≤ G ∧ F ≤ E ∧ F ≤ E' ∧ M * 2 ^ (E - F).toNat ≤ M' * 2 ^ (E' - F).toNat := by
  obtain ⟨F, hE, hE', hLe⟩ := h
  have hLow : min F G ≤ F := Int.min_le_left F G
  refine ⟨min F G, Int.min_le_right F G, hLow.trans hE, hLow.trans hE', ?_⟩
  rw [pow_split hLow hE, pow_split hLow hE']
  exact Nat.mul_le_mul_right _ hLe

/-- A number that is not negative, as doubles keep it but for the size of its exponent. -/
structure Amount (f : UnpackedFloat) : Prop where
  storable : Storable f
  notNegative : NotNegative f
  number : f ≠ .notANumber

namespace Amount

theorem zero (sign : Sign) : Amount (.zero sign) := ⟨nofun, trivial, nofun⟩

theorem infinity : Amount (.infinity .positive) := ⟨nofun, trivial, nofun⟩

theorem finite {m : Nat} {e : Int} (h : Canonical m e) : Amount (.finite .positive m e h.pos) := by
  refine ⟨?_, trivial, nofun⟩
  rintro _ _ _ _ ⟨⟩
  exact h

theorem ofSignificand {m : Nat} {e : Int} (h : m = 0 ∨ Canonical m e) :
    Amount (ofSignificand .positive m e) := by
  rcases h with rfl | h
  · exact zero .positive
  · rw [Binary64.ofSignificand, dif_neg (Nat.ne_of_gt h.pos)]
    exact finite h

theorem eq_zero_or_infinity_or_finite {f : UnpackedFloat} (h : Amount f) :
    (∃ sign, f = .zero sign) ∨ f = .infinity .positive ∨
      ∃ m e, ∃ hm : Canonical m e, f = .finite .positive m e hm.pos := by
  rcases f with ⟨⟨⟩⟩ | _ | sign | ⟨⟨⟩, m, e, hPos⟩
  case infinity.negative => cases h.notNegative
  case infinity.positive => exact .inr (.inl rfl)
  case notANumber => exact absurd rfl h.number
  case zero => exact .inl ⟨sign, rfl⟩
  case finite.negative => cases h.notNegative
  case finite.positive => exact .inr (.inr ⟨m, e, h.storable _ _ _ _ rfl, rfl⟩)

end Amount

/-- Two amounts, the first of which does not stand above the second. -/
structure Ranked (f g : UnpackedFloat) : Prop where
  left : Amount f
  right : Amount g
  le : ∀ x ∈ standing f, ∀ y ∈ standing g, x ≤ y

namespace Ranked

variable {f g : UnpackedFloat}

protected theorem refl (h : Amount f) : Ranked f f := by
  refine ⟨h, h, fun x hx y hy => ?_⟩
  cases Option.mem_unique hx hy
  exact le_refl x

theorem zero (sign : Sign) (h : Amount f) : Ranked (.zero sign) f :=
  ⟨.zero sign, h, fun x hx y hy =>
    not_lt.mp ((NotBelow.of_zero h.storable h.notNegative sign).above y hy x hx)⟩

theorem infinity (h : Amount f) : Ranked f (.infinity .positive) :=
  ⟨h, .infinity, fun x hx y hy => not_lt.mp ((NotBelow.infinity f).above y hy x hx)⟩

theorem finite {m n : Nat} {e e' : Int} (hm : Canonical m e) (hn : Canonical n e')
    (h : AtLeast m e n e') :
    Ranked (.finite .positive m e hm.pos) (.finite .positive n e' hn.pos) := by
  refine ⟨.finite hm, .finite hn, ?_⟩
  rintro _ ⟨⟩ _ ⟨⟩
  simp [Prod.Lex.toLex_le_toLex]
  exact h

/-- How one amount can stand below another or with it. -/
theorem zero_or_infinity_or_finite (h : Ranked f g) :
    (∃ sign, f = .zero sign) ∨ g = .infinity .positive ∨
      ∃ m e n e', ∃ (hm : Canonical m e) (hn : Canonical n e'), AtLeast m e n e' ∧
        f = .finite .positive m e hm.pos ∧ g = .finite .positive n e' hn.pos := by
  obtain ⟨hf, hg, hLe⟩ := h
  rcases hf.eq_zero_or_infinity_or_finite with hZero | rfl | ⟨m, e, hm, rfl⟩
  · exact .inl hZero
  · rcases hg.eq_zero_or_infinity_or_finite with ⟨sign, rfl⟩ | hOver | ⟨n, e', hn, rfl⟩
    · exact absurd (hLe _ rfl _ rfl) (by decide)
    · exact .inr (.inl hOver)
    · exact absurd (hLe _ rfl _ rfl) (by simp [Prod.Lex.toLex_le_toLex])
  · rcases hg.eq_zero_or_infinity_or_finite with ⟨sign, rfl⟩ | hOver | ⟨n, e', hn, rfl⟩
    · exact absurd (hLe _ rfl _ rfl) (by simp [Prod.Lex.toLex_le_toLex])
    · exact .inr (.inl hOver)
    · have hAtLeast := hLe _ rfl _ rfl
      simp [Prod.Lex.toLex_le_toLex] at hAtLeast
      exact .inr (.inr ⟨m, e, n, e', hm, hn, hAtLeast, rfl, rfl⟩)

end Ranked

section Carrying

/-- A rounded significand that may have a bit too many, with its exponent. -/
structure Uncarried (r : Nat) (t : Int) : Prop where
  le : r ≤ 2 ^ 53
  least : -1074 ≤ t
  full : 2 ^ 52 ≤ r ∨ t = -1074

theorem uncarried_roundedSignificand {M : Nat} {E : Int} (hPos : 0 < M)
    (hFits : E ≤ roundedExponent M E) :
    Uncarried (roundedSignificand M E .exact) (roundedExponent M E) := by
  have hRounded := roundedSignificand_eq M E .exact
  have hKept := kept_lt M E
  have hFull := kept_full hPos hFits
  have hLeast : -1074 ≤ roundedExponent M E := by rw [roundedExponent_eq]; omega
  exact ⟨by omega, hLeast, by omega⟩

variable {r r' : Nat} {t t' : Int}

theorem Uncarried.exists_ofSignificand (h : Uncarried r t) (sign : Sign) :
    ∃ m e, carried sign r t = ofSignificand sign m e ∧ (m = 0 ∨ Canonical m e) ∧
      (r < 2 ^ 53 ∧ m = r ∧ e = t ∨ r = 2 ^ 53 ∧ m = 2 ^ 52 ∧ e = t + 1) := by
  obtain ⟨hLe, hLeast, hFull⟩ := h
  unfold carried
  split
  · next hCarry =>
      exact ⟨_, _, rfl, .inr ⟨by decide, by decide, by omega, .inl (by decide)⟩,
        .inr ⟨hCarry, rfl, rfl⟩⟩
  · next hFew =>
      refine ⟨_, _, rfl, ?_, .inl ⟨by omega, rfl, rfl⟩⟩
      by_cases hZero : r = 0
      · exact .inl hZero
      · exact .inr ⟨Nat.pos_of_ne_zero hZero, by omega, hLeast, hFull⟩

theorem ranked_ofSignificand {m m' : Nat} {e e' : Int} (h : m = 0 ∨ Canonical m e)
    (h' : m' = 0 ∨ Canonical m' e') (hLe : m = 0 ∨ m' ≠ 0 ∧ AtLeast m e m' e') :
    Ranked (ofSignificand .positive m e) (ofSignificand .positive m' e') := by
  by_cases hZero : m = 0
  · subst hZero
    exact .zero .positive (.ofSignificand h')
  · obtain ⟨hZero', hAtLeast⟩ := hLe.resolve_left hZero
    rw [ofSignificand, dif_neg hZero, ofSignificand, dif_neg hZero']
    exact .finite (h.resolve_left hZero) (h'.resolve_left hZero') hAtLeast

/-- Carrying a bit does not change the order. -/
theorem ranked_carried (h : Uncarried r t) (h' : Uncarried r' t')
    (hLe : t < t' ∨ t = t' ∧ r ≤ r') :
    Ranked (carried .positive r t) (carried .positive r' t') := by
  obtain ⟨m, e, hResult, hCanonical, hFirst⟩ := h.exists_ofSignificand .positive
  obtain ⟨m', e', hResult', hCanonical', hSecond⟩ := h'.exists_ofSignificand .positive
  have hFull := h'.full
  have hLeast := h.least
  rw [hResult, hResult']
  apply ranked_ofSignificand hCanonical hCanonical'
  unfold AtLeast
  omega

end Carrying

section Rounding

variable {M M' : Nat} {E E' F : Int}

theorem roundedExponent_le (hPos : 0 < M) (hLe : M ≤ M') (F : Int) :
    roundedExponent M F ≤ roundedExponent M' F := by
  have hPos' : 0 < M' := Nat.lt_of_lt_of_le hPos hLe
  have hBits : M.log2 ≤ M'.log2 := by
    apply (Nat.le_log2 (Nat.ne_of_gt hPos')).mpr
    exact (Nat.log2_self_le (Nat.ne_of_gt hPos)).trans hLe
  rw [roundedExponent_eq, roundedExponent_eq]
  omega

theorem roundedSignificand_le (hLe : M ≤ M')
    (hSame : roundedExponent M F = roundedExponent M' F) :
    roundedSignificand M F .exact ≤ roundedSignificand M' F .exact := by
  unfold roundedSignificand
  rw [hSame]
  apply roundedMantissa_le
  apply weight_shiftRight_le
  simpa [weight, ExtendedMantissa.ofMantissaAndAccuracy] using hLe

/-- Values at one exponent are rounded in their order. -/
theorem ranked_carried_of_le (hPos : 0 < M) (hFits : F ≤ roundedExponent M F) (hLe : M ≤ M') :
    Ranked (carried .positive (roundedSignificand M F .exact) (roundedExponent M F))
      (carried .positive (roundedSignificand M' F .exact) (roundedExponent M' F)) := by
  have hOrder := roundedExponent_le hPos hLe F
  apply ranked_carried
  · exact uncarried_roundedSignificand hPos hFits
  · exact uncarried_roundedSignificand (Nat.lt_of_lt_of_le hPos hLe) (hFits.trans hOrder)
  · rcases Int.lt_or_eq_of_le hOrder with hLess | hSame
    · exact .inl hLess
    · exact .inr ⟨hSame, roundedSignificand_le hLe hSame⟩

/-- Of two exact values the greater is not rounded to less. -/
theorem ranked_round (hPos : 0 < M) (h : NoMore M E M' E') :
    Ranked (round Format.binary64 .positive M E) (round Format.binary64 .positive M' E') := by
  -- both values are written at one exponent that is low enough for either
  obtain ⟨F, hFits, hE, hE', hLe⟩ := h.exists_below (roundedExponent M E)
  have hStart : E - (E - F).toNat = F := by omega
  have hStart' : E' - (E' - F).toNat = F := by omega
  have hScaled : 0 < M * 2 ^ (E - F).toNat := Nat.mul_pos hPos (Nat.two_pow_pos _)
  have hPos' : 0 < M' := Nat.pos_of_mul_pos_right (Nat.lt_of_lt_of_le hScaled hLe)
  have hExponent := roundedExponent_scaled (E := E) hPos (E - F).toNat
  have hExponent' := roundedExponent_scaled (E := E') hPos' (E' - F).toNat
  rw [hStart] at hExponent
  rw [hStart'] at hExponent'
  have hOrder := roundedExponent_le hScaled hLe F
  rw [round_eq_carried .positive hPos (E - F).toNat (by omega),
    round_eq_carried .positive hPos' (E' - F).toNat (by omega), hStart, hStart', ← hExponent,
    ← hExponent']
  exact ranked_carried_of_le hScaled (by omega) hLe

end Rounding

/-- A double is not rounded any more. -/
theorem round_canonical {m : Nat} {e : Int} (h : Canonical m e) :
    round Format.binary64 .positive m e = ofSignificand .positive m e := by
  obtain ⟨hPos, hLt, hLeast, hFull⟩ := h
  have hStays : roundedExponent m e = e := by
    have hBits : m.log2 < 53 := (Nat.log2_lt (Nat.ne_of_gt hPos)).mpr hLt
    have hDigits := fun hFull => (Nat.le_log2 (k := 52) (Nat.ne_of_gt hPos)).mpr hFull
    rw [roundedExponent_eq]
    omega
  have hRound := round_eq_carried .positive hPos 0 (E := e) (by simp [hStays])
  have hKept : roundedSignificand m e .exact = m := by
    rw [roundedSignificand, hStays, Int.sub_self]
    rfl
  simp only [Int.natCast_zero, Int.sub_zero, Nat.pow_zero, Nat.mul_one, hStays, hKept] at hRound
  rw [hRound, carried, if_neg (Nat.ne_of_lt hLt)]

section Sums

variable {m m' n : Nat} {e e' f : Int}

theorem NoMore.of_atLeast (hm : Canonical m e) (hn : Canonical n f) (h : AtLeast m e n f) :
    NoMore m e n f := by
  have hFew := hm.lt
  have hLeast := hm.least
  refine ⟨-1074, hLeast, hn.least, ?_⟩
  rcases h with hLess | ⟨rfl, hLe⟩
  · have hDigits : 2 ^ 52 ≤ n := hn.full.resolve_right (by omega)
    -- on the way to the least exponent `n` is doubled at least once more than `m`
    obtain ⟨more, hMore⟩ : ∃ more, (f - -1074).toNat = more + 1 + (e - -1074).toNat :=
      ⟨(f - -1074).toNat - 1 - (e - -1074).toNat, by omega⟩
    have hTwice : n * 2 ≤ n * 2 ^ (more + 1) :=
      Nat.mul_le_mul_left n (Nat.le_mul_of_pos_left 2 (Nat.two_pow_pos more))
    rw [hMore, Nat.pow_add, ← Nat.mul_assoc]
    apply Nat.mul_le_mul_right
    omega
  · exact Nat.mul_le_mul_right _ hLe

/-- What two values are added to, at the lower one of their exponents. -/
def exactSum (m : Nat) (e : Int) (n : Nat) (f : Int) : Nat :=
  m <<< (e - min e f).toNat + n <<< (f - min e f).toNat

theorem exactSum_scaled {F : Int} (hE : F ≤ e) (hF : F ≤ f) :
    exactSum m e n f * 2 ^ (min e f - F).toNat =
      m * 2 ^ (e - F).toNat + n * 2 ^ (f - F).toNat := by
  have hLow : F ≤ min e f := Int.le_min.mpr ⟨hE, hF⟩
  rw [exactSum, Nat.shiftLeft_eq, Nat.shiftLeft_eq, Nat.add_mul,
    ← pow_split hLow (Int.min_le_left e f), ← pow_split hLow (Int.min_le_right e f)]

theorem exactSum_pos (hm : 0 < m) : 0 < exactSum m e n f := by
  apply Nat.add_pos_left
  rw [Nat.shiftLeft_eq]
  exact Nat.mul_pos hm (Nat.two_pow_pos _)

theorem add_finite_eq_round (hm : 0 < m) (hn : 0 < n) :
    UnpackedFloat.add Format.binary64 (.finite .positive m e hm) (.finite .positive n f hn) =
      round Format.binary64 .positive (exactSum m e n f) (min e f) :=
  normalize_natCast (exactSum_pos hm) _ _

theorem NoMore.exactSum (h : NoMore m e m' e') (n : Nat) (f : Int) :
    NoMore (exactSum m e n f) (min e f) (exactSum m' e' n f) (min e' f) := by
  obtain ⟨F, hF, hE, hE', hLe⟩ := h.exists_below f
  refine ⟨F, Int.le_min.mpr ⟨hE, hF⟩, Int.le_min.mpr ⟨hE', hF⟩, ?_⟩
  rw [exactSum_scaled hE hF, exactSum_scaled hE' hF]
  exact Nat.add_le_add_right hLe _

theorem noMore_exactSum (m : Nat) (e : Int) (n : Nat) (f : Int) :
    NoMore n f (Binary64.exactSum m e n f) (min e f) := by
  refine ⟨min e f, Int.min_le_right e f, Int.le_refl _, ?_⟩
  rw [exactSum_scaled (Int.min_le_left e f) (Int.min_le_right e f)]
  exact Nat.le_add_left _ _

end Sums

namespace Ranked

variable {f g h k : UnpackedFloat}

/-- Two positive values have a sum that is no less than the second. -/
theorem add_finite {m n : Nat} {e e' : Int} (hm : Canonical m e) (hn : Canonical n e') :
    Ranked (.finite .positive n e' hn.pos) (UnpackedFloat.add Format.binary64
      (.finite .positive m e hm.pos) (.finite .positive n e' hn.pos)) := by
  have hKept := round_canonical hn
  rw [ofSignificand, dif_neg (Nat.ne_of_gt hn.pos)] at hKept
  have hRank := ranked_round hn.pos (noMore_exactSum m e n e')
  rwa [hKept, ← add_finite_eq_round hm.pos hn.pos] at hRank

end Ranked

namespace Amount

variable {f g : UnpackedFloat}

theorem add (hf : Amount f) (hg : Amount g) : Amount (UnpackedFloat.add Format.binary64 f g) := by
  rcases hf.eq_zero_or_infinity_or_finite with ⟨sign, rfl⟩ | rfl | ⟨m, e, hm, rfl⟩ <;>
    rcases hg.eq_zero_or_infinity_or_finite with ⟨sign', rfl⟩ | rfl | ⟨n, e', hn, rfl⟩
  case inl.inl => cases sign <;> cases sign' <;> exact .zero _
  case inr.inr.inr.inr => exact (Ranked.add_finite hm hn).right
  all_goals assumption

theorem add_infinity (hf : Amount f) :
    UnpackedFloat.add Format.binary64 f (.infinity .positive) = .infinity .positive := by
  rcases hf.eq_zero_or_infinity_or_finite with ⟨sign, rfl⟩ | rfl | ⟨m, e, hm, rfl⟩ <;> rfl

theorem infinity_add (hf : Amount f) :
    UnpackedFloat.add Format.binary64 (.infinity .positive) f = .infinity .positive := by
  rcases hf.eq_zero_or_infinity_or_finite with ⟨sign, rfl⟩ | rfl | ⟨m, e, hm, rfl⟩ <;> rfl

end Amount

namespace Ranked

variable {f g h k : UnpackedFloat}

/-- Zero is added to without a trace, so that nothing added makes it stand above. -/
theorem zero_add (sign : Sign) (hg : Amount g) (hh : Amount h) :
    Ranked (UnpackedFloat.add Format.binary64 (.zero sign) h)
      (UnpackedFloat.add Format.binary64 g h) := by
  rcases hh.eq_zero_or_infinity_or_finite with ⟨sign', rfl⟩ | rfl | ⟨n, e', hn, rfl⟩
  · have hSum := hg.add hh
    cases sign <;> cases sign' <;> exact .zero _ hSum
  · rw [hg.add_infinity]
    exact .refl hh
  · rcases hg.eq_zero_or_infinity_or_finite with ⟨sign', rfl⟩ | rfl | ⟨m, e, hm, rfl⟩
    · exact .refl hh
    · exact .infinity hh
    · exact add_finite hm hn

theorem add (hfg : Ranked f g) (hh : Amount h) :
    Ranked (UnpackedFloat.add Format.binary64 f h) (UnpackedFloat.add Format.binary64 g h) := by
  rcases hfg.zero_or_infinity_or_finite with
    ⟨sign, rfl⟩ | rfl | ⟨m, e, n, e', hm, hn, hAtLeast, rfl, rfl⟩
  · exact zero_add sign hfg.right hh
  · rw [hh.infinity_add]
    exact .infinity (hfg.left.add hh)
  · rcases hh.eq_zero_or_infinity_or_finite with ⟨sign, rfl⟩ | rfl | ⟨p, d, hp, rfl⟩
    · exact hfg
    · exact .refl hh
    · rw [add_finite_eq_round hm.pos hp.pos, add_finite_eq_round hn.pos hp.pos]
      refine ranked_round ?_ ((NoMore.of_atLeast hm hn hAtLeast).exactSum p d)
      exact exactSum_pos hm.pos

end Ranked

section Products

variable {m m' n n' : Nat} {e e' f f' : Int}

theorem mul_finite_eq_round (hm : Canonical m e) (hn : Canonical n f) :
    UnpackedFloat.mul Format.binary64 (.finite .positive m e hm.pos)
        (.finite .positive n f hn.pos) =
      round Format.binary64 .positive (m * n) (e + f) := by
  have hPos : 0 < m * n := Nat.mul_pos hm.pos hn.pos
  have hFits : e + f ≤ roundedExponent (m * n) (e + f) := by
    have hBits : 2 ^ 52 ≤ m * n → 52 ≤ (m * n).log2 := (Nat.le_log2 (Nat.ne_of_gt hPos)).mpr
    have hLeft : m ≤ m * n := Nat.le_mul_of_pos_right m hn.pos
    have hRight : n ≤ m * n := Nat.le_mul_of_pos_left n hm.pos
    have hFullLeft := hm.full
    have hFullRight := hn.full
    rw [roundedExponent_eq]
    omega
  have hRound := round_eq_carried .positive hPos 0 (E := e + f) (by simpa using hFits)
  simp only [Int.natCast_zero, Int.sub_zero, Nat.pow_zero, Nat.mul_one] at hRound
  rw [hRound, ← roundWithAccuracy_eq_carried .positive .exact hFits]
  rfl

theorem NoMore.mul (h : NoMore m e m' e') (h' : NoMore n f n' f') :
    NoMore (m * n) (e + f) (m' * n') (e' + f') := by
  obtain ⟨F, hE, hE', hLe⟩ := h
  obtain ⟨G, hF, hF', hLe'⟩ := h'
  refine ⟨F + G, Int.add_le_add hE hF, Int.add_le_add hE' hF', ?_⟩
  have hSplit {p q : Nat} {d c : Int} (hd : F ≤ d) (hc : G ≤ c) :
      p * q * 2 ^ (d + c - (F + G)).toNat = p * 2 ^ (d - F).toNat * (q * 2 ^ (c - G).toNat) := by
    have hShift : (d + c - (F + G)).toNat = (d - F).toNat + (c - G).toNat := by omega
    rw [hShift, Nat.pow_add]
    ring
  rw [hSplit hE hF, hSplit hE' hF']
  exact Nat.mul_le_mul hLe hLe'

end Products

/-- An amount that is more than zero. -/
structure Positive (f : UnpackedFloat) : Prop extends Amount f where
  present : ∀ sign, f ≠ .zero sign

namespace Positive

variable {f g h k : UnpackedFloat}

theorem eq_infinity_or_finite (hf : Positive f) : f = .infinity .positive ∨
    ∃ m e, ∃ hm : Canonical m e, f = .finite .positive m e hm.pos :=
  hf.eq_zero_or_infinity_or_finite.resolve_left fun ⟨sign, hZero⟩ => hf.present sign hZero

theorem of_ranked (hf : Positive f) (h : Ranked f g) : Positive g := by
  refine ⟨h.right, ?_⟩
  rintro sign rfl
  rcases hf.eq_infinity_or_finite with rfl | ⟨m, e, hm, rfl⟩
  · exact absurd (h.le _ rfl _ rfl) (by decide)
  · exact absurd (h.le _ rfl _ rfl) (by simp [Prod.Lex.toLex_le_toLex])

theorem mul_infinity (hf : Positive f) :
    UnpackedFloat.mul Format.binary64 f (.infinity .positive) = .infinity .positive := by
  rcases hf.eq_infinity_or_finite with rfl | ⟨m, e, hm, rfl⟩ <;> rfl

theorem infinity_mul (hf : Positive f) :
    UnpackedFloat.mul Format.binary64 (.infinity .positive) f = .infinity .positive := by
  rcases hf.eq_infinity_or_finite with rfl | ⟨m, e, hm, rfl⟩ <;> rfl

theorem amount_mul (hf : Positive f) (hg : Positive g) :
    Amount (UnpackedFloat.mul Format.binary64 f g) := by
  rcases hf.eq_infinity_or_finite with rfl | ⟨m, e, hm, rfl⟩
  · rw [hg.infinity_mul]
    exact .infinity
  · rcases hg.eq_infinity_or_finite with rfl | ⟨n, e', hn, rfl⟩
    · exact .infinity
    · rw [mul_finite_eq_round hm hn]
      exact (ranked_round (Nat.mul_pos hm.pos hn.pos) ⟨_, Int.le_refl _, Int.le_refl _,
        Nat.le_refl _⟩).left

end Positive

theorem Ranked.mul {f g h k : UnpackedFloat} (hf : Positive f) (hh : Positive h)
    (hfg : Ranked f g) (hhk : Ranked h k) :
    Ranked (UnpackedFloat.mul Format.binary64 f h) (UnpackedFloat.mul Format.binary64 g k) := by
  have hg := hf.of_ranked hfg
  have hk := hh.of_ranked hhk
  rcases hfg.zero_or_infinity_or_finite with
    ⟨sign, hZero⟩ | rfl | ⟨m, e, m', e', hm, hm', hAtLeast, rfl, rfl⟩
  · exact absurd hZero (hf.present sign)
  · rw [hk.infinity_mul]
    exact .infinity (hf.amount_mul hh)
  · rcases hhk.zero_or_infinity_or_finite with
      ⟨sign, hZero⟩ | rfl | ⟨n, d, n', d', hn, hn', hAtLeast', rfl, rfl⟩
    · exact absurd hZero (hh.present sign)
    · rw [hg.mul_infinity]
      exact .infinity (hf.amount_mul hh)
    · rw [mul_finite_eq_round hm hn, mul_finite_eq_round hm' hn']
      exact ranked_round (Nat.mul_pos hm.pos hn.pos)
        ((NoMore.of_atLeast hm hm' hAtLeast).mul (.of_atLeast hn hn' hAtLeast'))

section Packing

variable {f g : UnpackedFloat}

theorem pack_amount (h : Amount f) : Amount (Float.Model.pack f).unpack := by
  rcases unpack_pack_of_storable h.storable h.notNegative with hKept | hOver
  · rwa [hKept]
  · rw [hOver]
    exact .infinity

/-- What overflows takes all above it along. -/
theorem Ranked.overflow (h : Ranked f g)
    (hOver : (Float.Model.pack f).unpack = .infinity .positive) :
    (Float.Model.pack g).unpack = .infinity .positive := by
  rcases h.zero_or_infinity_or_finite with
    ⟨sign, rfl⟩ | rfl | ⟨m, e, n, e', hm, hn, hAtLeast, rfl, rfl⟩
  · have hKept : (Float.Model.pack (.zero sign)).unpack = .zero sign := by cases sign <;> rfl
    cases hKept.symm.trans hOver
  · rfl
  · have hLarge : 971 < e := by
      rcases unpack_pack_of_canonical .positive hm with hKept | hLarge
      · cases hKept.symm.trans hOver
      · exact hLarge.1
    rcases unpack_pack_of_canonical .positive hn with hKept | hLarge'
    · have hMost := exponent_le_of_unpack hKept
      unfold AtLeast at hAtLeast
      omega
    · exact hLarge'.2

/-- Packing keeps the order. -/
theorem Ranked.pack (h : Ranked f g) :
    Ranked (Float.Model.pack f).unpack (Float.Model.pack g).unpack := by
  rcases unpack_pack_of_storable h.right.storable h.right.notNegative with hKept | hOver
  · rcases unpack_pack_of_storable h.left.storable h.left.notNegative with hKept' | hOver'
    · rwa [hKept, hKept']
    · rw [h.overflow hOver']
      exact .infinity (pack_amount h.left)
  · rw [hOver]
    exact .infinity (pack_amount h.left)

theorem unpack_packComponents_ne_notANumber (sign : Sign) {exponent : BitVec 11}
    (mantissa : BitVec 52) (hTop : exponent ≠ -1#11) :
    UnpackedFloat.unpack Format.binary64
      (packComponents Format.binary64 sign exponent mantissa) ≠ .notANumber := by
  simp only [UnpackedFloat.unpack, unpackExponent_packComponents]
  rw [if_neg hTop]
  split_ifs <;> nofun

/-- Packing makes no number something else. -/
theorem pack_ne_notANumber (h : f ≠ .notANumber) :
    (Float.Model.pack f).unpack ≠ .notANumber := by
  rcases f with ⟨⟨⟩⟩ | _ | ⟨⟨⟩⟩ | ⟨sign, m, e, hPos⟩
  case notANumber => exact absurd rfl h
  case finite =>
    rw [unpack_pack_finite]
    split_ifs with hOver hNormal
    · simp [packedInfinity, UnpackedFloat.unpack]
    · apply unpack_packComponents_ne_notANumber
      intro hTop
      have hAll : (BitVec.ofNat 11 (e + 1023 + 52).toNat).toNat = 2047 := hTop ▸ rfl
      rw [BitVec.toNat_ofNat] at hAll
      omega
    · exact unpack_packComponents_ne_notANumber sign _ (by decide)
  all_goals nofun

end Packing

section Places

variable {a b : Float}

theorem le_iff_place : Scalar.le a b ↔ ∃ x ∈ place a, ∃ y ∈ place b, x ≤ y := by
  rw [Scalar.le, Bool.or_eq_true_iff, lt_iff_place, eq_iff_place]
  constructor
  · rintro (⟨x, hx, y, hy, hLt⟩ | ⟨x, hx, hy⟩)
    · exact ⟨x, hx, y, hy, hLt.le⟩
    · exact ⟨x, hx, x, hy, le_refl x⟩
  · rintro ⟨x, hx, y, hy, hLe⟩
    rcases hLe.lt_or_eq with hLt | rfl
    · exact .inl ⟨x, hx, y, hy, hLt⟩
    · exact .inr ⟨x, hx, hy⟩

theorem amount_of_zero_le (h : Scalar.le (Scalar.ofNat 0) a) : Amount a.toModel.unpack := by
  obtain ⟨x, hx, y, hy, hLe⟩ := le_iff_place.mp h
  refine ⟨storable_unpack _, not_lt_zero_iff.mp ?_, ?_⟩
  · apply not_lt_iff_place.mpr
    intro y' hy' x' hx'
    cases Option.mem_unique hx hx'
    cases Option.mem_unique hy hy'
    exact not_lt.mpr hLe
  · rintro hNaN
    rw [place, hNaN] at hy
    cases hy

theorem ranked_of_le (ha : Scalar.le (Scalar.ofNat 0) a) (h : Scalar.le a b) :
    Ranked a.toModel.unpack b.toModel.unpack := by
  obtain ⟨x, hx, y, hy, hxy⟩ := le_iff_place.mp ha
  obtain ⟨y', hy', z, hz, hyz⟩ := le_iff_place.mp h
  cases Option.mem_unique hy hy'
  refine ⟨amount_of_zero_le ha,
    amount_of_zero_le (le_iff_place.mpr ⟨x, hx, z, hz, hxy.trans hyz⟩), fun u hu v hv => ?_⟩
  cases Option.mem_unique hy hu
  cases Option.mem_unique hz hv
  exact hyz

theorem Ranked.le_pack {f g : UnpackedFloat} (h : Ranked f g) :
    Scalar.le (Float.ofModel (Float.Model.pack f)) (Float.ofModel (Float.Model.pack g)) := by
  obtain ⟨hLeft, hRight, hLe⟩ := h.pack
  have hStands {f : UnpackedFloat} (hf : Amount f) : ∃ x, standing f = some x :=
    Option.ne_none_iff_exists'.mp fun hNone => hf.number (eq_notANumber_of_standing hNone)
  obtain ⟨x, hx⟩ := hStands hLeft
  obtain ⟨y, hy⟩ := hStands hRight
  exact le_iff_place.mpr ⟨x, hx, y, hy, hLe x hx y hy⟩

end Places

/-- Of a quotient of an amount that is not infinite by one that is not zero there is always a
number to be had. -/
theorem div_ne_notANumber {f g : UnpackedFloat} (hf : Amount f) (hg : Positive g)
    (hFinite : f ≠ .infinity .positive) :
    UnpackedFloat.div Format.binary64 f g ≠ .notANumber := by
  have hRounded (m : Nat) (e : Int) (accuracy : Accuracy) :
      roundWithAccuracy Format.binary64 .positive m e accuracy ≠ .notANumber := by
    change ofSignificand _ _ _ ≠ _
    unfold ofSignificand
    split <;> nofun
  rcases hf.eq_zero_or_infinity_or_finite with ⟨sign, rfl⟩ | rfl | ⟨m, e, hm, rfl⟩
  · rcases hg.eq_infinity_or_finite with rfl | ⟨n, e', hn, rfl⟩ <;> nofun
  · exact absurd rfl hFinite
  · rcases hg.eq_infinity_or_finite with rfl | ⟨n, e', hn, rfl⟩
    · nofun
    · exact hRounded _ _ _

theorem ne_infinity_of_isFinite {a : Float} (h : Scalar.isFinite a) :
    a.toModel.unpack ≠ .infinity .positive := by
  intro hInfinity
  -- infinity taken from itself leaves what is no number
  have hFinite : Scalar.isFinite a = (Float.Model.pack (UnpackedFloat.sub Format.binary64
      a.toModel.unpack a.toModel.unpack)).unpack.beq (Scalar.ofNat 0 : Float).toModel.unpack :=
    rfl
  rw [hFinite, hInfinity] at h
  cases h

theorem positive_of_lt {a : Float} (h : Scalar.lt (Scalar.ofNat 0) a) :
    Positive a.toModel.unpack :=
  ⟨amount_of_zero_le (MonotoneScalar.le_of_lt h), (positive_of_zero_lt h).2⟩

end DemandRide.Binary64

namespace DemandRide

open Float.Model Binary64 OrderedScalar

instance : MonotoneScalar Float where
  isNaN_of_eq h := by
    obtain ⟨x, hx, hy⟩ := eq_iff_place.mp h
    exact ⟨isNaN_of_mem_place hx, isNaN_of_mem_place hy⟩
  not_lt_of_eq {a b} h := by
    obtain ⟨x, hx, hy⟩ := eq_iff_place.mp h
    have hSame {c d : Float} (hc : x ∈ place c) (hd : x ∈ place d) : Scalar.lt c d = false :=
      not_lt_iff_place.mpr fun u hu v hv => by
        cases Option.mem_unique hc hu
        cases Option.mem_unique hd hv
        exact lt_irrefl x
    exact ⟨hSame hx hy, hSame hy hx⟩
  add_le_add ha hab hc := ((ranked_of_le ha hab).add (amount_of_zero_le hc)).le_pack
  mul_le_mul {a b c d} ha hc hab hcd := by
    have hPositive := positive_of_lt ha
    have hPositive' := positive_of_lt hc
    exact (Ranked.mul hPositive hPositive' (ranked_of_le (MonotoneScalar.le_of_lt ha) hab)
      (ranked_of_le (MonotoneScalar.le_of_lt hc) hcd)).le_pack
  zero_le_div {a b} hFinite ha hb := by
    have hNumber := div_ne_notANumber (amount_of_zero_le ha) (positive_of_lt hb)
      (ne_infinity_of_isFinite hFinite)
    refine le_of_not_lt ?_ isNaN_zero (not_div_lt_zero ?_ hb)
    · rw [Bool.eq_false_iff]
      intro hNaN
      apply pack_ne_notANumber hNumber
      exact eq_notANumber_of_standing (isNaN_iff_place.mp hNaN)
    · exact not_lt_zero_iff.mpr (amount_of_zero_le ha).notNegative

end DemandRide
