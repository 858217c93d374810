import DemandRide.Proofs.Number.Binary64
import DemandRide.Proofs.Number.Exact

/-! Beelines that are the same there and back. In exact arithmetic this is plain. Of doubles, two
differences the one way and the other differ in their signs at most, as rounding does not look at
signs, and a hypotenuse is made of exact values without signs. -/
namespace DemandRide

/-- A plane in which it is as far there as it is back. -/
class SymmetricPlane (α : Type) [Plane α] : Prop where
  beeline_comm (p q : Point α) : Plane.beeline p q = Plane.beeline q p

instance : SymmetricPlane ℝ where
  beeline_comm p q := by
    change Real.sqrt ((p.x - q.x) ^ 2 + (p.y - q.y) ^ 2) =
      Real.sqrt ((q.x - p.x) ^ 2 + (q.y - p.y) ^ 2)
    rw [sub_sq_comm p.x, sub_sq_comm p.y]

namespace Binary64

open Float.Model Float.Model.UnpackedFloat

/-- The value without its sign. -/
def size (x : Float) : UnpackedFloat := x.toModel.unpack.abs

theorem abs_round (sign : Sign) (m : Nat) (e : Int) :
    (UnpackedFloat.round Format.binary64 sign m e).abs =
      (UnpackedFloat.round Format.binary64 .positive m e).abs := by
  unfold UnpackedFloat.round roundWithAccuracy
  dsimp only
  split <;> rfl

theorem abs_normalize_neg (m e : Int) (zeroSign : Sign) :
    (UnpackedFloat.normalize Format.binary64 (-m) e zeroSign).abs =
      (UnpackedFloat.normalize Format.binary64 m e zeroSign).abs := by
  unfold UnpackedFloat.normalize
  rcases lt_trichotomy m 0 with hLt | rfl | hGt
  · rw [compare_lt_iff_lt.mpr hLt, compare_gt_iff_gt.mpr (neg_pos.mpr hLt)]
    exact (abs_round .negative _ e).symm
  · rfl
  · rw [compare_gt_iff_gt.mpr hGt, compare_lt_iff_lt.mpr (neg_neg_of_pos hGt), neg_neg]
    exact abs_round .negative _ e

theorem abs_sub_comm (f g : UnpackedFloat) :
    (UnpackedFloat.sub Format.binary64 f g).abs = (UnpackedFloat.sub Format.binary64 g f).abs := by
  rcases f with ⟨⟨⟩⟩ | _ | ⟨⟨⟩⟩ | ⟨s, m, e, hPos⟩ <;>
    rcases g with ⟨⟨⟩⟩ | _ | ⟨⟨⟩⟩ | ⟨s', n, e', hPos'⟩
  case finite.finite =>
    simp only [UnpackedFloat.sub, min_comm e' e]
    rw [← abs_normalize_neg, neg_sub]
  all_goals rfl

theorem abs_unpack_packComponents (sign : Sign) (exponent : BitVec 11) (mantissa : BitVec 52) :
    (UnpackedFloat.unpack Format.binary64
      (packComponents Format.binary64 sign exponent mantissa)).abs =
      (UnpackedFloat.unpack Format.binary64
        (packComponents Format.binary64 .positive exponent mantissa)).abs := by
  simp only [UnpackedFloat.unpack, unpackExponent_packComponents, unpackMantissa_packComponents]
  split_ifs <;> simp only [UnpackedFloat.abs]

/-- A value is packed alike whatever its sign. -/
theorem abs_unpack_pack (f : UnpackedFloat) :
    (Float.Model.pack f).unpack.abs = (Float.Model.pack f.abs).unpack.abs := by
  rcases f with ⟨⟨⟩⟩ | _ | ⟨⟨⟩⟩ | ⟨sign, m, e, hPos⟩
  case finite =>
    rw [UnpackedFloat.abs, unpack_pack_finite, unpack_pack_finite]
    split_ifs
    · cases sign <;> rfl
    · exact abs_unpack_packComponents ..
    · exact abs_unpack_packComponents ..
  all_goals rfl

theorem size_sub_comm (a b : Float) : size (a - b) = size (b - a) := by
  change (Float.Model.pack _).unpack.abs = (Float.Model.pack _).unpack.abs
  rw [abs_unpack_pack, abs_sub_comm, ← abs_unpack_pack]

/-- What is left of an exact value without its sign. -/
def reach (x : Float) : Option (Nat × Int) :=
  (dyadic? x).map fun d => (d.significand.natAbs, d.exponent)

theorem reach_congr {x y : Float} (h : size x = size y) : reach x = reach y := by
  unfold reach dyadic?
  unfold size at h
  generalize x.toModel.unpack = f at h ⊢
  generalize y.toModel.unpack = g at h ⊢
  rcases f with ⟨s⟩ | _ | ⟨s⟩ | ⟨s, m, e, hPos⟩ <;>
    rcases g with ⟨s'⟩ | _ | ⟨s'⟩ | ⟨s', n, e', hPos'⟩ <;> cases h
  case finite.finite => cases s <;> cases s' <;> simp [Sign.apply]
  all_goals rfl

theorem isInf_congr {x y : Float} (h : size x = size y) : x.isInf = y.isInf := by
  change x.toModel.unpack.isInf = y.toModel.unpack.isInf
  unfold size at h
  generalize x.toModel.unpack = f at h ⊢
  generalize y.toModel.unpack = g at h ⊢
  cases f <;> cases g <;> cases h <;> rfl

theorem Dyadic.natAbs_scaled (d : Dyadic) (low : Int) :
    (d.scaled low).natAbs = d.significand.natAbs * 2 ^ (d.exponent - low).toNat := by
  rw [Dyadic.scaled, Int.natAbs_mul]
  exact congrArg _ (Int.natAbs_pow 2 _)

theorem hypotenuse_eq (dx dy : Float) :
    hypotenuse dx dy =
      match reach dx, reach dy with
      | some (m, e), some (n, f) =>
        let x := m * 2 ^ (e - min e f).toNat
        let y := n * 2 ^ (f - min e f).toNat
        nearestRoot (x * x + y * y) (2 * min e f)
      | _, _ => if dx.isInf || dy.isInf then 1 / 0 else 0 / 0 := by
  unfold hypotenuse reach
  cases dyadic? dx with
  | none => rfl
  | some a =>
      cases dyadic? dy with
      | none => rfl
      | some b => simp only [Option.map_some, Dyadic.natAbs_scaled]

/-- A hypotenuse does not depend on the signs of the two sides. -/
theorem hypotenuse_congr {dx dx' dy dy' : Float} (hX : size dx = size dx')
    (hY : size dy = size dy') : hypotenuse dx dy = hypotenuse dx' dy' := by
  rw [hypotenuse_eq, hypotenuse_eq, reach_congr hX, reach_congr hY, isInf_congr hX, isInf_congr hY]

end Binary64

instance : SymmetricPlane Float where
  beeline_comm p q :=
    Binary64.hypotenuse_congr (Binary64.size_sub_comm p.x q.x) (Binary64.size_sub_comm p.y q.y)

end DemandRide
