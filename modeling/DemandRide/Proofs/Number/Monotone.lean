import DemandRide.Proofs.Number.Exact

/-! Numbers whose operations keep the order. Equality and order agree, and of what is not negative
a sum or a product does not become less when a part becomes more. This holds of exact arithmetic,
and of binary floating point in spite of rounding and overflow, as rounding passes no double. -/
namespace DemandRide

open Scalar OrderedScalar

class MonotoneScalar (α : Type) [Scalar α] : Prop extends OrderedScalar α where
  isNaN_of_eq {a b : α} : eq a b → isNaN a = false ∧ isNaN b = false
  not_lt_of_eq {a b : α} : eq a b → lt a b = false ∧ lt b a = false
  add_le_add {a b c : α} : le 0 a → le a b → le 0 c → le (a + c) (b + c)
  mul_le_mul {a b c d : α} : lt 0 a → lt 0 c → le a b → le c d → le (a * c) (b * d)
  /-- Only infinity divided by infinity and zero divided by zero are no numbers. -/
  zero_le_div {a b : α} : isFinite a → le 0 a → lt 0 b → le 0 (a / b)

namespace MonotoneScalar

variable {α : Type} [Scalar α] [MonotoneScalar α] {a b c : α}

/-- What is less or equal ranks no later and is a number. -/
theorem le_iff_notAfter : le a b ↔ NotAfter a b ∧ isNaN b = false := by
  constructor
  · intro h
    rcases Bool.or_eq_true_iff.mp h with hLt | hEq
    · obtain ⟨hA, hB⟩ := isNaN_of_lt hLt
      exact ⟨⟨lt_asymm hLt, fun hNaN => by simp [hA] at hNaN⟩, hB⟩
    · obtain ⟨hA, hB⟩ := isNaN_of_eq hEq
      exact ⟨⟨(not_lt_of_eq hEq).2, fun hNaN => by simp [hA] at hNaN⟩, hB⟩
  · rintro ⟨⟨hNotLt, hNumber⟩, hB⟩
    have hA : isNaN a = false := Bool.eq_false_iff.mpr fun hNaN => by simp [hNumber hNaN] at hB
    exact le_of_not_lt hB hA hNotLt

theorem le_iff : le a b ↔ isNaN a = false ∧ isNaN b = false ∧ lt b a = false := by
  constructor
  · intro h
    obtain ⟨⟨hNotLt, hNumber⟩, hB⟩ := le_iff_notAfter.mp h
    exact ⟨Bool.eq_false_iff.mpr fun hNaN => by simp [hNumber hNaN] at hB, hB, hNotLt⟩
  · rintro ⟨hA, hB, hNotLt⟩
    exact le_of_not_lt hB hA hNotLt

theorem le_refl (h : isNaN a = false) : le a a := le_iff.mpr ⟨h, h, lt_irrefl a⟩

theorem le_trans (hab : le a b) (hbc : le b c) : le a c := by
  obtain ⟨hAB, -⟩ := le_iff_notAfter.mp hab
  obtain ⟨hBC, hC⟩ := le_iff_notAfter.mp hbc
  exact le_iff_notAfter.mpr ⟨hAB.trans hBC, hC⟩

theorem eq_iff : eq a b ↔ le a b ∧ le b a := by
  constructor
  · intro h
    obtain ⟨hA, hB⟩ := isNaN_of_eq h
    obtain ⟨hLess, hMore⟩ := not_lt_of_eq h
    exact ⟨le_iff.mpr ⟨hA, hB, hMore⟩, le_iff.mpr ⟨hB, hA, hLess⟩⟩
  · rintro ⟨hAB, hBA⟩
    obtain ⟨hA, hB, hMore⟩ := le_iff.mp hAB
    obtain ⟨-, -, hLess⟩ := le_iff.mp hBA
    rcases lt_or_eq_or_lt hA hB with hLt | hEq | hGt
    · cases hLess.symm.trans hLt
    · exact hEq
    · cases hMore.symm.trans hGt

omit [MonotoneScalar α] in
theorem le_of_lt (h : lt a b) : le a b := Bool.or_eq_true_iff.mpr (.inl h)

theorem lt_of_le_of_lt (hab : le a b) (hbc : lt b c) : lt a c := by
  obtain ⟨hA, -, hNotLt⟩ := le_iff.mp hab
  rcases lt_or_lt a hA hbc with hBack | hLt
  · cases hNotLt.symm.trans hBack
  · exact hLt

theorem lt_of_lt_of_le (hab : lt a b) (hbc : le b c) : lt a c := by
  obtain ⟨-, hC, hNotLt⟩ := le_iff.mp hbc
  rcases lt_or_lt c hC hab with hLt | hBack
  · exact hLt
  · cases hNotLt.symm.trans hBack

theorem zero_le_iff : le 0 a ↔ isNaN a = false ∧ lt a 0 = false := by
  simp [le_iff, isNaN_zero]

theorem zero_lt_iff : lt 0 a ↔ isNaN a = false ∧ le a 0 = false := by
  constructor
  · intro h
    refine ⟨(isNaN_of_lt h).2, Bool.eq_false_iff.mpr fun hLe => ?_⟩
    simp [(le_iff.mp hLe).2.2] at h
  · rintro ⟨hNaN, hLe⟩
    exact zero_lt_of_le_false hNaN hLe

/-- Adding what is not negative to what is not negative leads to no less. -/
theorem le_add (ha : le 0 a) (hb : le 0 b) : le a (a + b) := by
  obtain ⟨-, hA, -⟩ := le_iff.mp ha
  obtain ⟨-, hSum, -⟩ := le_iff.mp (add_le_add ha (le_refl hA) hb)
  exact le_iff.mpr ⟨hA, hSum, not_add_lt (zero_le_iff.mp hb).2⟩

end MonotoneScalar

theorem Exact.le_iff_le {a b : ℝ} : Scalar.le a b ↔ a ≤ b := by
  rw [le_iff_lt_or_eq, Scalar.le, Bool.or_eq_true_iff, lt_iff, eq_iff]

theorem Exact.zero_le_iff_le {a : ℝ} : Scalar.le (Scalar.ofNat 0) a ↔ 0 ≤ a := by
  rw [le_iff_le, zero_eq]

open Exact in
instance : MonotoneScalar ℝ where
  isNaN_of_eq _ := ⟨not_isNaN _, not_isNaN _⟩
  not_lt_of_eq h := by
    rw [eq_iff] at h
    exact ⟨not_lt_iff.mpr h.ge, not_lt_iff.mpr h.le⟩
  add_le_add {_ _ c} _ hab _ := le_iff_le.mpr (add_le_add_left (le_iff_le.mp hab) c)
  mul_le_mul ha hc hab hcd := by
    have hB := (zero_lt_iff.mp ha).trans_le (le_iff_le.mp hab)
    exact le_iff_le.mpr
      (mul_le_mul (le_iff_le.mp hab) (le_iff_le.mp hcd) (zero_lt_iff.mp hc).le hB.le)
  zero_le_div _ ha hb :=
    zero_le_iff_le.mpr (div_nonneg (zero_le_iff_le.mp ha) (zero_lt_iff.mp hb).le)

end DemandRide
