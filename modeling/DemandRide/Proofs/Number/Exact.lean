import DemandRide.Proofs.Number.Ordered
import Mathlib.Analysis.Real.Sqrt

/-! Exact arithmetic as ordered numbers. Nothing overflows and everything is a number, so that what
is not less is more or equal. Nothing is rounded either, so that it does not matter in which order
a sum is taken. -/
namespace DemandRide

/-- Numbers without infinities that are added and multiplied without rounding. -/
class ExactScalar (α : Type) [Scalar α] : Prop extends OrderedScalar α where
  isFinite (a : α) : Scalar.isFinite a
  add_comm (a b : α) : a + b = b + a
  add_assoc (a b c : α) : a + b + c = a + (b + c)
  not_add_lt_add {a b : α} (c : α) : Scalar.lt b a = false → Scalar.lt (b + c) (a + c) = false
  not_mul_lt_mul {a b c : α} : Scalar.lt b a = false → Scalar.lt c 0 = false →
    Scalar.lt (b * c) (a * c) = false

/-- Exact numbers to which zero, taken away or not, adds nothing. -/
class AdditiveScalar (α : Type) [Scalar α] : Prop extends ExactScalar α where
  zero_add (a : α) : 0 + a = a
  neg_zero_add (a : α) : -0 + a = a

section Totals

variable {α : Type} [Scalar α]

/-- The sum of some numbers, taken from the last one on. -/
def Scalar.total : List α → α
  | [] => 0
  | value :: values => value + total values

/-- Without rounding it does not matter where a sum is begun. -/
theorem AdditiveScalar.foldl_add [AdditiveScalar α] (start : α) (values : List α) :
    values.foldl (· + ·) start = start + Scalar.total values := by
  induction values generalizing start with
  | nil => exact ((ExactScalar.add_comm start 0).trans (zero_add start)).symm
  | cons value values ih => rw [List.foldl_cons, ih, Scalar.total, ExactScalar.add_assoc]

end Totals

noncomputable section

open Classical in
instance : Plane ℝ where
  ofDecimal digits places := digits / 10 ^ places
  lt a b := decide (a < b)
  eq a b := decide (a = b)
  beeline p q := Real.sqrt ((p.x - q.x) ^ 2 + (p.y - q.y) ^ 2)
  turn p q r :=
    let product := (p.x - r.x) * (q.y - r.y) - (p.y - r.y) * (q.x - r.x)
    if 0 < product then .left else if product < 0 then .right else .straight

end

namespace Exact

theorem lt_iff {a b : ℝ} : Scalar.lt a b ↔ a < b := decide_eq_true_iff

theorem eq_iff {a b : ℝ} : Scalar.eq a b ↔ a = b := decide_eq_true_iff

theorem not_lt_iff {a b : ℝ} : Scalar.lt a b = false ↔ b ≤ a := by
  rw [Bool.eq_false_iff, ne_eq, lt_iff, not_lt]

/-- In exact arithmetic everything is a number. -/
theorem not_isNaN (a : ℝ) : Scalar.isNaN a = false := by simp [Scalar.isNaN, eq_iff]

theorem ofNat_eq (n : Nat) : (Scalar.ofNat n : ℝ) = n := by
  change (n : ℝ) / 10 ^ 0 = n
  simp

theorem zero_eq : (Scalar.ofNat 0 : ℝ) = 0 := by rw [ofNat_eq, Nat.cast_zero]

theorem one_eq : (Scalar.ofNat 1 : ℝ) = 1 := by rw [ofNat_eq, Nat.cast_one]

theorem not_lt_zero_iff {a : ℝ} : Scalar.lt a (Scalar.ofNat 0) = false ↔ 0 ≤ a := by
  rw [not_lt_iff, zero_eq]

theorem zero_lt_iff {a : ℝ} : Scalar.lt (Scalar.ofNat 0) a ↔ 0 < a := by
  rw [lt_iff, zero_eq]

theorem not_ofNat_lt_ofNat {m n : Nat} (h : m ≤ n) :
    Scalar.lt (Scalar.ofNat n : ℝ) (Scalar.ofNat m) = false := by
  rw [not_lt_iff, ofNat_eq, ofNat_eq]
  exact Nat.cast_le.mpr h

theorem not_ofNat_le_ofNat {m n : Nat} (h : m < n) :
    Scalar.le (Scalar.ofNat n : ℝ) (Scalar.ofNat m) = false := by
  refine Bool.or_eq_false_iff.mpr ⟨not_ofNat_lt_ofNat h.le, Bool.eq_false_iff.mpr fun hEq => ?_⟩
  rw [eq_iff, ofNat_eq, ofNat_eq, Nat.cast_inj] at hEq
  exact h.ne hEq.symm

theorem not_lt_one_iff {a : ℝ} : Scalar.lt a (Scalar.ofNat 1) = false ↔ 1 ≤ a := by
  rw [not_lt_iff, one_eq]

end Exact

open Exact

instance : OrderedPlane ℝ where
  lt_irrefl a := not_lt_iff.mpr le_rfl
  lt_trans hab hbc := lt_iff.mpr ((lt_iff.mp hab).trans (lt_iff.mp hbc))
  lt_or_lt {a c} b _ hac := by
    rw [lt_iff] at hac
    rcases lt_or_ge a b with hab | hba
    · exact .inl (lt_iff.mpr hab)
    · exact .inr (lt_iff.mpr (lt_of_le_of_lt hba hac))
  lt_or_eq_or_lt {a b} _ _ := by
    rcases lt_trichotomy a b with hLt | hEq | hGt
    · exact .inl (lt_iff.mpr hLt)
    · exact .inr (.inl (eq_iff.mpr hEq))
    · exact .inr (.inr (lt_iff.mpr hGt))
  isNaN_of_lt _ := ⟨not_isNaN _, not_isNaN _⟩
  isNaN_of_isFinite _ := not_isNaN _
  zero_lt_one := zero_lt_iff.mpr (zero_lt_one.trans_eq one_eq.symm)
  isNaN_add {a} _ h := by cases (not_isNaN a).symm.trans h
  not_add_lt hb := not_lt_iff.mpr (le_add_of_nonneg_right (not_lt_zero_iff.mp hb))
  not_mul_lt ha hb :=
    not_lt_iff.mpr (le_mul_of_one_le_left (not_lt_zero_iff.mp hb) (not_lt_one_iff.mp ha))
  not_mul_lt_zero ha hb :=
    not_lt_zero_iff.mpr (mul_nonneg (not_lt_zero_iff.mp ha) (not_lt_zero_iff.mp hb))
  not_div_lt_zero ha hb :=
    not_lt_zero_iff.mpr (div_nonneg (not_lt_zero_iff.mp ha) (zero_lt_iff.mp hb).le)
  not_beeline_lt_zero _ _ := not_lt_zero_iff.mpr (Real.sqrt_nonneg _)

instance : ExactScalar ℝ where
  isFinite a := eq_iff.mpr ((sub_self a).trans zero_eq.symm)
  add_comm := add_comm
  add_assoc := add_assoc
  not_add_lt_add c h := not_lt_iff.mpr (add_le_add_left (not_lt_iff.mp h) c)
  not_mul_lt_mul h hc :=
    not_lt_iff.mpr (mul_le_mul_of_nonneg_right (not_lt_iff.mp h) (not_lt_zero_iff.mp hc))

instance : AdditiveScalar ℝ where
  zero_add a := (congrArg (· + a) zero_eq).trans (zero_add a)
  neg_zero_add a := by
    change -(Scalar.ofNat 0 : ℝ) + a = a
    rw [zero_eq, neg_zero, zero_add]

end DemandRide
