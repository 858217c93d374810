import DemandRide.Plane.Point

/-! What times and distances have to satisfy, however they are computed. The laws hold of exact
arithmetic and of binary floating point alike: sums need not be associative, and a value that is
not a number may turn up anywhere. Such a value is never less and never more than another, so a
bound is stated as "not less" where one of two values may be one. -/
namespace DemandRide

open Scalar

/-- Numbers whose comparison is a weak order once everything that is not a number is put aside,
and whose operations do not lead below where they start from unless something negative is put in. -/
class OrderedScalar (α : Type) [Scalar α] : Prop where
  lt_irrefl (a : α) : lt a a = false
  lt_trans {a b c : α} : lt a b → lt b c → lt a c
  /-- A number is apart from at least one of two that are apart. -/
  lt_or_lt {a c : α} (b : α) : isNaN b = false → lt a c → lt a b ∨ lt b c
  lt_or_eq_or_lt {a b : α} : isNaN a = false → isNaN b = false → lt a b ∨ eq a b ∨ lt b a
  isNaN_of_lt {a b : α} : lt a b → isNaN a = false ∧ isNaN b = false
  isNaN_of_isFinite {a : α} : isFinite a → isNaN a = false
  zero_lt_one : lt (0 : α) 1
  isNaN_add {a : α} (b : α) : isNaN a → isNaN (a + b)
  not_add_lt {a b : α} : lt b 0 = false → lt (a + b) a = false
  not_mul_lt {a b : α} : lt a 1 = false → lt b 0 = false → lt (a * b) b = false
  not_mul_lt_zero {a b : α} : lt a 0 = false → lt b 0 = false → lt (a * b) 0 = false
  not_div_lt_zero {a b : α} : lt a 0 = false → lt 0 b → lt (a / b) 0 = false

/-- A plane in which no distance is negative. -/
class OrderedPlane (α : Type) [Plane α] : Prop extends OrderedScalar α where
  not_beeline_lt_zero (p q : Point α) : lt (Plane.beeline p q) 0 = false

/-- Whether `a` ranks no later than `b`. -/
def NotAfter {α : Type} [Scalar α] (a b : α) : Prop := lt b a = false ∧ (isNaN a → isNaN b)

variable {α : Type} [Scalar α] [OrderedScalar α] {a b c : α}

namespace OrderedScalar

theorem lt_asymm (h : lt a b) : lt b a = false :=
  Bool.eq_false_iff.mpr fun hBack => Bool.eq_false_iff.mp (lt_irrefl a) (lt_trans h hBack)

theorem not_lt_of_isNaN (h : isNaN a) (b : α) : lt a b = false ∧ lt b a = false :=
  ⟨Bool.eq_false_iff.mpr fun hLt => Bool.eq_false_iff.mp (isNaN_of_lt hLt).1 h,
    Bool.eq_false_iff.mpr fun hLt => Bool.eq_false_iff.mp (isNaN_of_lt hLt).2 h⟩

theorem isNaN_zero : isNaN (0 : α) = false := (isNaN_of_lt zero_lt_one).1

/-- A number that is neither negative nor zero is positive. -/
theorem zero_lt_of_le_false (hNaN : isNaN a = false) (h : le a 0 = false) : lt 0 a := by
  obtain ⟨hLess, hEqual⟩ := Bool.or_eq_false_iff.mp h
  rcases lt_or_eq_or_lt hNaN isNaN_zero with hLt | hEq | hGt
  · cases hLess.symm.trans hLt
  · cases hEqual.symm.trans hEq
  · exact hGt

theorem not_lt_zero_of_not_lt_one (h : lt a 1 = false) : lt a 0 = false :=
  Bool.eq_false_iff.mpr fun hBelow => Bool.eq_false_iff.mp h (lt_trans hBelow zero_lt_one)

/-- A multiple of at least once a value, with something added, is not below the value. -/
theorem not_mul_add_lt {value : α} (ha : lt a 1 = false) (hb : lt b 0 = false)
    (hValue : lt value 0 = false) : lt (a * value + b) value = false := by
  rw [Bool.eq_false_iff]
  intro hBelow
  have hNumber : isNaN (a * value) = false := Bool.eq_false_iff.mpr fun hNaN =>
    Bool.eq_false_iff.mp (isNaN_of_lt hBelow).1 (isNaN_add b hNaN)
  rcases lt_or_lt (a * value) hNumber hBelow with hSum | hProduct
  · cases (not_add_lt hb).symm.trans hSum
  · cases (not_mul_lt ha hValue).symm.trans hProduct

/-- Two numbers of which the first is not less are in the other order or equal. -/
theorem le_of_not_lt (ha : isNaN a = false) (hb : isNaN b = false) (h : lt a b = false) :
    le b a := by
  unfold le
  rcases lt_or_eq_or_lt hb ha with hLt | hEq | hGt
  · simp [hLt]
  · simp [hEq]
  · cases h.symm.trans hGt

end OrderedScalar

open OrderedScalar

namespace NotAfter

theorem refl (a : α) : NotAfter a a := ⟨lt_irrefl a, id⟩

theorem trans (hab : NotAfter a b) (hbc : NotAfter b c) : NotAfter a c := by
  refine ⟨Bool.eq_false_iff.mpr fun hBelow => ?_, hbc.2 ∘ hab.2⟩
  by_cases hNaN : isNaN b
  · exact Bool.eq_false_iff.mp (isNaN_of_lt hBelow).1 (hbc.2 hNaN)
  · rcases lt_or_lt b (Bool.eq_false_iff.mpr hNaN) hBelow with hLt | hLt
    · cases hbc.1.symm.trans hLt
    · cases hab.1.symm.trans hLt

theorem zero_iff : NotAfter 0 a ↔ lt a 0 = false :=
  ⟨And.left, fun h => ⟨h, fun hNaN => by cases isNaN_zero.symm.trans hNaN⟩⟩

theorem add (hb : lt b 0 = false) : NotAfter a (a + b) := ⟨not_add_lt hb, isNaN_add b⟩

theorem of_rank_ne_gt (h : rank a b ≠ .gt) : NotAfter a b := by
  refine ⟨Bool.eq_false_iff.mpr fun hGt => ?_, fun hA => ?_⟩
  · exact h (by simp [rank, lt_asymm hGt, hGt])
  · cases hB : isNaN b with
    | true => rfl
    | false =>
        exact absurd (by simp [rank, not_lt_of_isNaN hA, hA, hB]) h

theorem of_rank_ne_lt (h : rank a b ≠ .lt) : NotAfter b a := by
  refine ⟨Bool.eq_false_iff.mpr fun hLt => h (by simp [rank, hLt]), fun hB => ?_⟩
  cases hA : isNaN a with
  | true => rfl
  | false => exact absurd (by simp [rank, not_lt_of_isNaN hB, hA, hB]) h

end NotAfter

/-- A sum of what is not negative is not negative. -/
theorem OrderedScalar.not_add_lt_zero (ha : lt a 0 = false) (hb : lt b 0 = false) :
    lt (a + b) 0 = false :=
  NotAfter.zero_iff.mp ((NotAfter.zero_iff.mpr ha).trans (.add hb))

end DemandRide
