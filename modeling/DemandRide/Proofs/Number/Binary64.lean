import DemandRide.Plane.Binary64
import DemandRide.Proofs.Number.Ordered
import DemandRide.Proofs.Number.Rounding

/-! Binary floating point as ordered numbers. Doubles are compared by where they stand among all
doubles, and every law of the order is one of standing. A sum or a product of doubles is rounded
from an exact value, and rounding passes no double on the way. -/
namespace DemandRide.Binary64

open Float.Model Float.Model.UnpackedFloat

/-- Where a value stands among all values: by kind and sign, then by exponent, then by
significand. What is not a number stands nowhere. -/
def standing : UnpackedFloat → Option (Int ×ₗ Int ×ₗ Int)
  | .notANumber => none
  | .infinity .negative => some (toLex (-2, toLex (0, 0)))
  | .finite .negative m e _ => some (toLex (-1, toLex (-e, -m)))
  | .zero _ => some (toLex (0, toLex (0, 0)))
  | .finite .positive m e _ => some (toLex (1, toLex (e, m)))
  | .infinity .positive => some (toLex (2, toLex (0, 0)))

/-- Values are compared by where they stand. -/
theorem compare_eq_standing (a b : UnpackedFloat) :
    a.compare b =
      (standing a).bind fun x => (standing b).map fun y => compare x y := by
  have hNeg (i j : Int) : compare (-i) (-j) = (compare i j).swap := by
    simp only [compare, compareOfLessAndEq]
    grind [Ordering.swap]
  have hCast (m n : Nat) : compare (m : Int) n = compare m n := by
    simp only [compare, compareOfLessAndEq]
    grind
  rcases a with ⟨⟨⟩⟩ | _ | ⟨⟨⟩⟩ | ⟨⟨⟩, m, e, hPos⟩ <;>
    rcases b with ⟨⟨⟩⟩ | _ | ⟨⟨⟩⟩ | ⟨⟨⟩, m', e', hPos'⟩
  case finite.negative.finite.negative =>
    simp [UnpackedFloat.compare, standing, Prod.Lex.compare_def, compareLex, compareOn, hNeg, hCast,
      Ordering.swap_then]
  case finite.positive.finite.positive =>
    simp [UnpackedFloat.compare, standing, Prod.Lex.compare_def, compareLex, compareOn, hCast]
  all_goals rfl

/-- Where a double stands. -/
def place (x : Float) : Option (Int ×ₗ Int ×ₗ Int) := standing x.toModel.unpack

theorem lt_iff_place {a b : Float} :
    Scalar.lt a b ↔ ∃ x ∈ place a, ∃ y ∈ place b, x < y := by
  have hValue : Scalar.lt a b = a.toModel.unpack.lt b.toModel.unpack := by
    change decide (Float.lt a b = true) = _
    rw [Bool.decide_eq_true]
    change decide (Float.Model.lt a.toModel b.toModel = true) = _
    rw [Bool.decide_eq_true]
    rfl
  rw [hValue, UnpackedFloat.lt, compare_eq_standing, place, place]
  cases standing a.toModel.unpack <;> cases standing b.toModel.unpack <;> simp [compare_lt_iff_lt]

theorem not_lt_iff_place {a b : Float} :
    Scalar.lt a b = false ↔ ∀ x ∈ place a, ∀ y ∈ place b, ¬x < y := by
  rw [Bool.eq_false_iff, ne_eq, lt_iff_place]
  push Not
  rfl

/-- Where a result stands once it is packed. -/
theorem place_ofModel (f : UnpackedFloat) :
    place (Float.ofModel (Float.Model.pack f)) = standing (Float.Model.pack f).unpack := rfl

theorem eq_iff_place {a b : Float} :
    Scalar.eq a b ↔ ∃ x ∈ place a, x ∈ place b := by
  have hValue : Scalar.eq a b = a.toModel.unpack.beq b.toModel.unpack := rfl
  rw [hValue, UnpackedFloat.beq, compare_eq_standing, place, place]
  cases standing a.toModel.unpack <;> cases standing b.toModel.unpack <;>
    simp [compare_eq_iff_eq, @eq_comm _ (_ : Int ×ₗ Int ×ₗ Int)]

theorem isNaN_iff_place {a : Float} : Scalar.isNaN a ↔ place a = none := by
  simp only [Scalar.isNaN, Bool.not_eq_true', Bool.eq_false_iff, ne_eq, eq_iff_place]
  cases place a <;> simp

/-- What stands anywhere is a number. -/
theorem isNaN_of_mem_place {a : Float} {x : Int ×ₗ Int ×ₗ Int} (h : x ∈ place a) :
    Scalar.isNaN a = false :=
  Bool.eq_false_iff.mpr fun hNaN => by simp [isNaN_iff_place.mp hNaN] at h

theorem exists_mem_place {a : Float} (h : Scalar.isNaN a = false) : ∃ x, x ∈ place a :=
  Option.ne_none_iff_exists'.mp fun hNone => Bool.eq_false_iff.mp h (isNaN_iff_place.mpr hNone)

theorem eq_notANumber_of_standing {f : UnpackedFloat} (h : standing f = none) :
    f = .notANumber := by
  rcases f with ⟨⟨⟩⟩ | _ | ⟨⟨⟩⟩ | ⟨⟨⟩, m, e, hPos⟩ <;> cases h
  rfl

/-- Neither a negative number nor negative infinity; either zero will do. -/
def NotNegative : UnpackedFloat → Prop
  | .infinity .negative => False
  | .finite .negative _ _ _ => False
  | _ => True

theorem not_lt_zero_iff {a : Float} :
    Scalar.lt a (Scalar.ofNat 0) = false ↔ NotNegative a.toModel.unpack := by
  have hZero : place (Scalar.ofNat 0) = some (toLex (0, toLex (0, 0))) := by rfl
  rw [Bool.eq_false_iff, ne_eq, lt_iff_place, hZero, place]
  rcases a.toModel.unpack with ⟨⟨⟩⟩ | _ | ⟨⟨⟩⟩ | ⟨⟨⟩, m, e, hPos⟩ <;>
    simp [standing, NotNegative, Prod.Lex.toLex_lt_toLex]

/-- What is more than zero is a positive number or positive infinity. -/
theorem positive_of_zero_lt {a : Float} (h : Scalar.lt (Scalar.ofNat 0) a) :
    NotNegative a.toModel.unpack ∧ ∀ sign, a.toModel.unpack ≠ .zero sign := by
  obtain ⟨x, hx, y, hy, hLt⟩ := lt_iff_place.mp h
  have hZero : place (Scalar.ofNat 0) = some (toLex (0, toLex (0, 0))) := by rfl
  cases hZero.symm.trans hx
  change y ∈ standing a.toModel.unpack at hy
  generalize a.toModel.unpack = f at *
  rcases f with ⟨⟨⟩⟩ | _ | ⟨⟨⟩⟩ | ⟨⟨⟩, m, e, hPos⟩ <;> cases hy <;>
    simp_all [NotNegative, Prod.Lex.toLex_lt_toLex]

section Packing

/-- Whether a value is one that doubles have, but for the size of its exponent. -/
def Storable (f : UnpackedFloat) : Prop :=
  ∀ sign m e hPos, f = .finite sign m e hPos → Canonical m e

theorem storable_unpack (x : Float.Model) : Storable x.unpack :=
  fun _ _ _ _ h => canonical_of_unpack h

theorem storable_ofSignificand {sign : Sign} {m : Nat} {e : Int} (h : Canonical m e) :
    Storable (ofSignificand sign m e) := by
  rintro sign' m' e' hPos' hFinite
  rw [ofSignificand, dif_neg (Nat.ne_of_gt h.pos)] at hFinite
  cases hFinite
  exact h

/-- Packing keeps a value or lets it overflow. -/
theorem unpack_pack_of_storable {f : UnpackedFloat} (hStorable : Storable f)
    (hSign : NotNegative f) :
    (Float.Model.pack f).unpack = f ∨ (Float.Model.pack f).unpack = .infinity .positive := by
  rcases f with ⟨⟨⟩⟩ | _ | ⟨⟨⟩⟩ | ⟨⟨⟩, m, e, hPos⟩
  case finite.negative => cases hSign
  case finite.positive =>
    exact (unpack_pack_of_canonical .positive (hStorable _ _ _ _ rfl)).imp_right And.right
  case infinity.negative => cases hSign
  all_goals exact .inl rfl

theorem notNegative_unpack_of_sign {b : BitVec 64}
    (hSign : Sign.ofBitVec (@unpackSign Format.binary64 b) = .positive) :
    NotNegative (UnpackedFloat.unpack Format.binary64 b) := by
  unfold UnpackedFloat.unpack
  simp only [hSign]
  split_ifs <;> trivial

/-- Packing keeps a sign that is not negative, whatever else it does to a value. -/
theorem notNegative_pack {f : UnpackedFloat} (hSign : NotNegative f) :
    NotNegative (Float.Model.pack f).unpack := by
  rcases f with ⟨⟨⟩⟩ | _ | ⟨⟨⟩⟩ | ⟨⟨⟩, m, e, hPos⟩
  case finite.negative => cases hSign
  case infinity.negative => cases hSign
  case finite.positive =>
    refine notNegative_unpack_of_sign (b := UnpackedFloat.pack Format.binary64 _) ?_
    unfold UnpackedFloat.pack
    dsimp only
    split_ifs <;> simp [packedInfinity]
  all_goals trivial

end Packing

theorem notNegative_ofSignificand (m : Nat) (e : Int) :
    NotNegative (ofSignificand .positive m e) := by
  unfold ofSignificand
  split_ifs <;> trivial

theorem notNegative_roundWithAccuracy (m : Nat) (e : Int) (accuracy : Accuracy) :
    NotNegative (roundWithAccuracy Format.binary64 .positive m e accuracy) :=
  notNegative_ofSignificand _ _

/-- A value that is not negative and does not stand below another. -/
structure NotBelow (a f : UnpackedFloat) : Prop where
  storable : Storable f
  notNegative : NotNegative f
  above : ∀ x ∈ standing f, ∀ y ∈ standing a, ¬x < y

namespace NotBelow

theorem notANumber (a : UnpackedFloat) : NotBelow a .notANumber :=
  ⟨nofun, trivial, nofun⟩

/-- Nothing stands above positive infinity. -/
theorem infinity (a : UnpackedFloat) : NotBelow a (.infinity .positive) := by
  refine ⟨nofun, trivial, ?_⟩
  rintro _ ⟨⟩ y hy
  rcases a with ⟨⟨⟩⟩ | _ | ⟨⟨⟩⟩ | ⟨⟨⟩, m, e, hPos⟩ <;> cases hy <;>
    simp [Prod.Lex.toLex_lt_toLex]

protected theorem refl {a : UnpackedFloat} (hStorable : Storable a) (hSign : NotNegative a) :
    NotBelow a a := by
  refine ⟨hStorable, hSign, fun x hx y hy => ?_⟩
  cases Option.mem_unique hx hy
  exact lt_irrefl x

theorem of_zero {f : UnpackedFloat} (hStorable : Storable f) (hSign : NotNegative f) (sign : Sign) :
    NotBelow (.zero sign) f := by
  refine ⟨hStorable, hSign, fun x hx y hy => ?_⟩
  cases hy
  rcases f with ⟨⟨⟩⟩ | _ | ⟨⟨⟩⟩ | ⟨⟨⟩, m, e, hPos⟩ <;> cases hx <;>
    simp_all [Prod.Lex.toLex_lt_toLex, NotNegative]

theorem of_atLeast {m r : Nat} {e e' : Int} (hPos : 0 < m) (hCanonical : Canonical r e')
    (hAtLeast : AtLeast m e r e') :
    NotBelow (.finite .positive m e hPos) (ofSignificand .positive r e') := by
  refine ⟨storable_ofSignificand hCanonical, notNegative_ofSignificand r e', ?_⟩
  rw [ofSignificand, dif_neg (Nat.ne_of_gt hCanonical.pos)]
  rintro _ ⟨⟩ _ ⟨⟩
  simp only [Prod.Lex.toLex_lt_toLex, lt_self_iff_false, true_and, false_or]
  unfold AtLeast at hAtLeast
  omega

/-- Packing does not move a value below what it was not below before. -/
theorem not_lt {a : Float} {f : UnpackedFloat} (h : NotBelow a.toModel.unpack f) :
    Scalar.lt (Float.ofModel (Float.Model.pack f)) a = false := by
  rw [not_lt_iff_place, place_ofModel]
  rcases unpack_pack_of_storable h.storable h.notNegative with hKept | hOver
  · rw [hKept]
    exact h.above
  · rw [hOver]
    exact (infinity a.toModel.unpack).above

end NotBelow

theorem normalize_natCast {m : Nat} (hPos : 0 < m) (e : Int) (zeroSign : Sign) :
    UnpackedFloat.normalize Format.binary64 m e zeroSign = round Format.binary64 .positive m e := by
  have hCompare : compare (m : Int) 0 = .gt := compare_gt_iff_gt.mpr (Int.natCast_pos.mpr hPos)
  simp only [UnpackedFloat.normalize, hCompare, Int.toNat_natCast]

/-- The exact sum of two positive values is no less than the first. -/
theorem notBelow_add_finite {m n : Nat} {e f : Int} (hm : Canonical m e) (hn : 0 < n) :
    NotBelow (.finite .positive m e hm.pos)
      (UnpackedFloat.add Format.binary64 (.finite .positive m e hm.pos)
        (.finite .positive n f hn)) := by
  let sum := m <<< (e - min e f).toNat + n <<< (f - min e f).toNat
  have hAbove : m * 2 ^ (e - min e f).toNat ≤ sum := by
    rw [← Nat.shiftLeft_eq]
    exact Nat.le_add_right _ _
  have hPos : 0 < sum := Nat.lt_of_lt_of_le (Nat.mul_pos hm.pos (Nat.two_pow_pos _)) hAbove
  have hSum : UnpackedFloat.add Format.binary64 (.finite .positive m e hm.pos)
      (.finite .positive n f hn) = round Format.binary64 .positive sum (min e f) :=
    normalize_natCast hPos _ _
  obtain ⟨r, e', hResult, hCanonical, hAtLeast⟩ :=
    round_atLeast .positive hm (Int.min_le_left e f) hAbove
  rw [hSum, hResult]
  exact .of_atLeast hm.pos hCanonical hAtLeast

theorem notBelow_add {x y : UnpackedFloat} (hx : Storable x) (hy : Storable y) (hX : NotNegative x)
    (hY : NotNegative y) : NotBelow x (UnpackedFloat.add Format.binary64 x y) := by
  rcases x with ⟨⟨⟩⟩ | _ | sign | ⟨⟨⟩, m, e, hPos⟩
  case notANumber => exact .notANumber _
  case infinity.negative => cases hX
  case infinity.positive =>
    rcases y with ⟨⟨⟩⟩ | _ | sign | ⟨⟨⟩, n, f, hn⟩
    case infinity.negative => cases hY
    case notANumber => exact .notANumber _
    all_goals exact .infinity _
  case zero =>
    rcases y with ⟨⟨⟩⟩ | _ | sign' | ⟨⟨⟩, n, f, hn⟩
    case zero =>
      have hZero (last : Sign) : NotBelow (.zero sign) (.zero last) :=
        .of_zero (f := .zero last) nofun trivial sign
      cases sign <;> cases sign' <;> exact hZero _
    case notANumber => exact .notANumber _
    all_goals exact .of_zero hy hY _
  case finite.negative => cases hX
  case finite.positive =>
    rcases y with ⟨⟨⟩⟩ | _ | sign | ⟨⟨⟩, n, f, hn⟩
    case infinity.negative => cases hY
    case finite.negative => cases hY
    case finite.positive => exact notBelow_add_finite (hx _ _ _ _ rfl) hn
    case notANumber => exact .notANumber _
    case infinity.positive => exact .infinity _
    case zero => exact .refl hx hX

section Negative

variable {a : Float} {f : UnpackedFloat}

/-- What is not negative is not less than what is. -/
theorem not_lt_of_notNegative (ha : ¬NotNegative a.toModel.unpack) (hf : NotNegative f) :
    Scalar.lt (Float.ofModel (Float.Model.pack f)) a = false := by
  have hKept := notNegative_pack hf
  rw [not_lt_iff_place, place_ofModel, place]
  generalize (Float.Model.pack f).unpack = sum at *
  generalize a.toModel.unpack = value at *
  rcases value with ⟨⟨⟩⟩ | _ | ⟨⟨⟩⟩ | ⟨⟨⟩, m, e, hPos⟩ <;> try exact absurd trivial ha
  all_goals
    rcases sum with ⟨⟨⟩⟩ | _ | ⟨⟨⟩⟩ | ⟨⟨⟩, n, e', hn⟩ <;>
      simp_all [standing, Prod.Lex.toLex_le_toLex, NotNegative]

theorem not_lt_of_unpack_eq (h : (Float.Model.pack f).unpack = a.toModel.unpack) :
    Scalar.lt (Float.ofModel (Float.Model.pack f)) a = false := by
  rw [not_lt_iff_place, place_ofModel, h]
  intro x hx y hy
  cases Option.mem_unique hx hy
  exact lt_irrefl x

/-- The exact sum of a negative and a positive value is not negative or lies between the first and
zero. -/
theorem add_finite_negative {m n : Nat} {e f : Int} (hm : Canonical m e) (hn : 0 < n) :
    let sum := UnpackedFloat.add Format.binary64 (.finite .negative m e hm.pos)
      (.finite .positive n f hn)
    NotNegative sum ∨ ∃ r e', ∃ hr : Canonical r e',
      sum = .finite .negative r e' hr.pos ∧ AtLeast r e' m e := by
  let lowered := m <<< (e - min e f).toNat
  let added := n <<< (f - min e f).toNat
  have hSum : UnpackedFloat.add Format.binary64 (.finite .negative m e hm.pos)
      (.finite .positive n f hn) =
        UnpackedFloat.normalize Format.binary64 (-(lowered : Int) + added) (min e f)
          .positive := rfl
  have hAdded : 0 < added :=
    Nat.lt_of_lt_of_eq (Nat.mul_pos hn (Nat.two_pow_pos _)) (Nat.shiftLeft_eq _ _).symm
  intro sum
  change sum = _ at hSum
  rw [hSum]
  unfold UnpackedFloat.normalize
  split
  case h_1 hCompare =>
    have hNegative := compare_lt_iff_lt.mp hCompare
    have hPos : 0 < (-(-(lowered : Int) + added)).toNat := by omega
    have hBelow : (-(-(lowered : Int) + added)).toNat < m * 2 ^ (e - min e f).toNat := by
      rw [← Nat.shiftLeft_eq]
      omega
    obtain ⟨r, e', hResult, hNone | ⟨hCanonical, hAtLeast⟩⟩ :=
      round_atMost .negative hm (Int.min_le_left e f) hPos hBelow
    · rw [hResult, hNone]
      exact .inl trivial
    · rw [hResult, ofSignificand, dif_neg (Nat.ne_of_gt hCanonical.pos)]
      exact .inr ⟨r, e', hCanonical, rfl, hAtLeast⟩
  case h_2 => exact .inl trivial
  case h_3 => exact .inl (notNegative_roundWithAccuracy _ _ _)

/-- A negative double is packed as it is, and so is what lies between it and zero. -/
theorem not_lt_of_atLeast {m r : Nat} {e e' : Int} {hPos : 0 < m}
    (ha : a.toModel.unpack = .finite .negative m e hPos) (hr : Canonical r e')
    (hAtLeast : AtLeast r e' m e) :
    Scalar.lt (Float.ofModel (Float.Model.pack (.finite .negative r e' hr.pos))) a = false := by
  have hMost := exponent_le_of_unpack ha
  unfold AtLeast at hAtLeast
  rcases unpack_pack_of_canonical .negative hr with hKept | ⟨hOver, -⟩
  · rw [not_lt_iff_place, place_ofModel, hKept, place, ha]
    rintro _ ⟨⟩ _ ⟨⟩
    simp only [Prod.Lex.toLex_lt_toLex, lt_self_iff_false, true_and, false_or]
    omega
  · omega

/-- Adding what is not negative to what is does not lead below it. -/
theorem not_add_lt_of_negative {y : UnpackedFloat} (ha : ¬NotNegative a.toModel.unpack)
    (hY : NotNegative y) :
    Scalar.lt (Float.ofModel (Float.Model.pack
      (UnpackedFloat.add Format.binary64 a.toModel.unpack y))) a = false := by
  have hAbove := @not_lt_of_notNegative a
  rcases hValue : a.toModel.unpack with ⟨⟨⟩⟩ | _ | sign | ⟨⟨⟩, m, e, hPos⟩
  case infinity.negative =>
    have hKept : (Float.Model.pack (.infinity .negative)).unpack = a.toModel.unpack := by
      rw [hValue]
      rfl
    rcases y with ⟨⟨⟩⟩ | _ | sign | ⟨⟨⟩, n, f, hn⟩
    case infinity.negative => cases hY
    case finite.negative => cases hY
    case zero => exact not_lt_of_unpack_eq hKept
    case finite.positive => exact not_lt_of_unpack_eq hKept
    all_goals exact hAbove ha trivial
  case finite.negative =>
    have hStored := canonical_of_unpack hValue
    rcases y with ⟨⟨⟩⟩ | _ | sign | ⟨⟨⟩, n, f, hn⟩
    case infinity.negative => cases hY
    case finite.negative => cases hY
    case zero => exact not_lt_of_atLeast hValue hStored (.inr ⟨rfl, Nat.le_refl m⟩)
    case finite.positive =>
      rcases add_finite_negative hStored hn with hSum | ⟨r, e', hr, hSum, hAtLeast⟩
      · exact hAbove ha hSum
      · rw [hSum]
        exact not_lt_of_atLeast hValue hr hAtLeast
    all_goals exact hAbove ha trivial
  all_goals
    rw [hValue] at ha
    exact absurd trivial ha

end Negative

/-- The exact product with a factor of at least one is no less than the other factor. -/
theorem notBelow_mul_finite {m n : Nat} {e f : Int} (hm : Canonical m e) (hn : Canonical n f)
    (hOne : AtLeast (2 ^ 52) (-52) m e) :
    NotBelow (.finite .positive n f hn.pos)
      (UnpackedFloat.mul Format.binary64 (.finite .positive m e hm.pos)
        (.finite .positive n f hn.pos)) := by
  unfold AtLeast at hOne
  have hDigits : 2 ^ 52 ≤ m := hm.full.resolve_right (by omega)
  have hProduct : 2 ^ 52 ≤ m * n := Nat.le_trans hDigits (Nat.le_mul_of_pos_right m hn.pos)
  have hFits : e + f ≤ roundedExponent (m * n) (e + f) := by
    have hBits := (Nat.le_log2 (Nat.ne_of_gt (Nat.mul_pos hm.pos hn.pos))).mpr hProduct
    rw [roundedExponent_eq]
    omega
  have hAbove : n * 2 ^ (f - (e + f)).toNat ≤ m * n := by
    rw [Nat.mul_comm m n]
    refine Nat.mul_le_mul_left n (Nat.le_trans (Nat.pow_le_pow_right (by decide) ?_) hDigits)
    omega
  obtain ⟨r, e', hResult, hCanonical, hAtLeast⟩ :=
    roundWithAccuracy_atLeast .positive .exact hn hFits hAbove
  have hMul : UnpackedFloat.mul Format.binary64 (.finite .positive m e hm.pos)
      (.finite .positive n f hn.pos) = ofSignificand .positive r e' := hResult
  rw [hMul]
  exact .of_atLeast hn.pos hCanonical hAtLeast

/-- The number one. -/
def one : UnpackedFloat := .finite .positive (2 ^ 52) (-52) (by decide)

/-- A value of at least one is a positive number or positive infinity. -/
theorem notBelow_one {a : Float} (h : Scalar.lt a (Scalar.ofNat 1) = false) :
    NotBelow one a.toModel.unpack := by
  have hOne : place (Scalar.ofNat 1) = standing one := by rfl
  have hAbove := not_lt_iff_place.mp h
  rw [hOne, place] at hAbove
  refine ⟨storable_unpack _, ?_, hAbove⟩
  generalize a.toModel.unpack = f at hAbove ⊢
  rcases f with ⟨⟨⟩⟩ | _ | ⟨⟨⟩⟩ | ⟨⟨⟩, m, e, hPos⟩
  case infinity.negative => exact hAbove _ rfl _ rfl (by decide)
  case finite.negative => exact hAbove _ rfl _ rfl (by simp [Prod.Lex.toLex_lt_toLex])
  all_goals trivial

/-- A product with a factor of at least one is not below the other factor. -/
theorem notBelow_mul {x y : UnpackedFloat} (hx : NotBelow one x) (hy : Storable y)
    (hY : NotNegative y) : NotBelow y (UnpackedFloat.mul Format.binary64 x y) := by
  have hZero (sign last : Sign) : NotBelow (.zero sign) (.zero last) :=
    .of_zero (f := .zero last) nofun trivial sign
  rcases x with ⟨⟨⟩⟩ | _ | sign | ⟨⟨⟩, m, e, hPos⟩
  case notANumber => exact .notANumber _
  case infinity.negative => cases hx.notNegative
  case zero => exact absurd (by decide) (hx.above _ rfl _ rfl)
  case finite.negative => cases hx.notNegative
  case infinity.positive =>
    rcases y with ⟨⟨⟩⟩ | _ | sign | ⟨⟨⟩, n, f, hn⟩
    case infinity.negative => cases hY
    case finite.negative => cases hY
    case notANumber => exact .notANumber _
    case zero => exact .notANumber _
    all_goals exact .infinity _
  case finite.positive =>
    rcases y with ⟨⟨⟩⟩ | _ | sign | ⟨⟨⟩, n, f, hn⟩
    case infinity.negative => cases hY
    case finite.negative => cases hY
    case finite.positive =>
      have hOne : AtLeast (2 ^ 52) (-52) m e := by
        have hAbove := hx.above _ rfl _ rfl
        simp only [Prod.Lex.toLex_lt_toLex, lt_self_iff_false, true_and, false_or] at hAbove
        unfold AtLeast
        omega
      exact notBelow_mul_finite (hx.storable _ _ _ _ rfl) (hy _ _ _ _ rfl) hOne
    case notANumber => exact .notANumber _
    case infinity.positive => exact .infinity _
    case zero => exact hZero _ _

/-- A product of two values that are not negative is not negative. -/
theorem notNegative_mul {x y : UnpackedFloat} (hX : NotNegative x) (hY : NotNegative y) :
    NotNegative (UnpackedFloat.mul Format.binary64 x y) := by
  rcases x with ⟨⟨⟩⟩ | _ | ⟨⟨⟩⟩ | ⟨⟨⟩, m, e, hPos⟩ <;>
    rcases y with ⟨⟨⟩⟩ | _ | ⟨⟨⟩⟩ | ⟨⟨⟩, n, f, hn⟩
  case finite.positive.finite.positive => exact notNegative_roundWithAccuracy _ _ _
  all_goals trivial

theorem notNegative_div {x y : UnpackedFloat} (hX : NotNegative x) (hY : NotNegative y)
    (hPresent : ∀ sign, y ≠ .zero sign) :
    NotNegative (UnpackedFloat.div Format.binary64 x y) := by
  rcases y with ⟨⟨⟩⟩ | _ | sign | ⟨⟨⟩, n, f, hn⟩
  case zero => exact absurd rfl (hPresent sign)
  all_goals rcases x with ⟨⟨⟩⟩ | _ | ⟨⟨⟩⟩ | ⟨⟨⟩, m, e, hPos⟩
  case finite.positive.finite.positive => exact notNegative_roundWithAccuracy _ _ _
  all_goals trivial

end DemandRide.Binary64

namespace DemandRide

open Float.Model Binary64

instance : OrderedScalar Float where
  lt_irrefl a := not_lt_iff_place.mpr fun x hx y hy => by
    cases Option.mem_unique hx hy
    exact lt_irrefl x
  lt_trans hab hbc := by
    obtain ⟨x, hx, y, hy, hxy⟩ := lt_iff_place.mp hab
    obtain ⟨y', hy', z, hz, hyz⟩ := lt_iff_place.mp hbc
    cases Option.mem_unique hy hy'
    exact lt_iff_place.mpr ⟨x, hx, z, hz, hxy.trans hyz⟩
  lt_or_lt b hb hac := by
    obtain ⟨x, hx, z, hz, hxz⟩ := lt_iff_place.mp hac
    obtain ⟨y, hy⟩ := exists_mem_place hb
    rcases lt_or_ge x y with hxy | hyx
    · exact .inl (lt_iff_place.mpr ⟨x, hx, y, hy, hxy⟩)
    · exact .inr (lt_iff_place.mpr ⟨y, hy, z, hz, lt_of_le_of_lt hyx hxz⟩)
  lt_or_eq_or_lt ha hb := by
    obtain ⟨x, hx⟩ := exists_mem_place ha
    obtain ⟨y, hy⟩ := exists_mem_place hb
    rcases lt_trichotomy x y with hLt | rfl | hGt
    · exact .inl (lt_iff_place.mpr ⟨x, hx, y, hy, hLt⟩)
    · exact .inr (.inl (eq_iff_place.mpr ⟨x, hx, hy⟩))
    · exact .inr (.inr (lt_iff_place.mpr ⟨y, hy, x, hx, hGt⟩))
  isNaN_of_lt hab := by
    obtain ⟨x, hx, y, hy, -⟩ := lt_iff_place.mp hab
    exact ⟨isNaN_of_mem_place hx, isNaN_of_mem_place hy⟩
  isNaN_of_isFinite {a} ha := by
    rw [Bool.eq_false_iff]
    intro hNaN
    -- taking what is no number from itself leaves what is no number
    have hFinite : Scalar.isFinite a = (Float.Model.pack (UnpackedFloat.sub Format.binary64
        a.toModel.unpack a.toModel.unpack)).unpack.beq (Scalar.ofNat 0 : Float).toModel.unpack :=
      rfl
    rw [hFinite, eq_notANumber_of_standing (isNaN_iff_place.mp hNaN)] at ha
    cases ha
  zero_lt_one := by decide
  isNaN_add b ha := by
    have hNaN := eq_notANumber_of_standing (isNaN_iff_place.mp ha)
    refine isNaN_iff_place.mpr ?_
    have hSum (y : UnpackedFloat) : UnpackedFloat.add Format.binary64 .notANumber y = .notANumber :=
      rfl
    change standing (Float.Model.pack
      (UnpackedFloat.add Format.binary64 _ b.toModel.unpack)).unpack = none
    rw [hNaN, hSum]
    rfl
  not_add_lt {a b} hb := by
    have hY := not_lt_zero_iff.mp hb
    by_cases hA : NotNegative a.toModel.unpack
    · exact (notBelow_add (storable_unpack _) (storable_unpack _) hA hY).not_lt
    · exact not_add_lt_of_negative hA hY
  not_mul_lt ha hb :=
    (notBelow_mul (notBelow_one ha) (storable_unpack _) (not_lt_zero_iff.mp hb)).not_lt
  not_mul_lt_zero ha hb := not_lt_zero_iff.mpr
    (notNegative_pack (notNegative_mul (not_lt_zero_iff.mp ha) (not_lt_zero_iff.mp hb)))
  not_div_lt_zero ha hb :=
    have ⟨hPositive, hPresent⟩ := positive_of_zero_lt hb
    not_lt_zero_iff.mpr
      (notNegative_pack (notNegative_div (not_lt_zero_iff.mp ha) hPositive hPresent))

/-- A root is rounded from a positive value or is zero. -/
theorem Binary64.not_nearestRoot_lt_zero (m : Nat) (exponent : Int) :
    Scalar.lt (nearestRoot m exponent) (Scalar.ofNat 0) = false := by
  unfold nearestRoot
  split
  · decide
  · exact not_lt_zero_iff.mpr (notNegative_pack (notNegative_roundWithAccuracy _ _ _))

theorem Binary64.not_hypotenuse_lt_zero (dx dy : Float) :
    Scalar.lt (hypotenuse dx dy) (Scalar.ofNat 0) = false := by
  unfold hypotenuse
  split
  · exact not_nearestRoot_lt_zero _ _
  · split <;> decide

instance : OrderedPlane Float where
  not_beeline_lt_zero _ _ := not_hypotenuse_lt_zero _ _

end DemandRide
