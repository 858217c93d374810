import DemandRide.Proofs.Number.Monotone
import Mathlib.Algebra.Order.Field.Basic
import Mathlib.Order.WithBot

/-! Exact arithmetic with infinities and not-a-number, by the rules that binary floating point has
for them: what has no value is not a number, and neither is what it is computed from. Nothing is
rounded, so no sum or product of finite numbers leaves them. Zero has no sign. -/
namespace DemandRide

open Scalar

/-- Numbers of which finite ones add up to finite ones, and that can be divided unless both are
infinite. -/
class UnboundedScalar (α : Type) [Scalar α] : Prop extends MonotoneScalar α where
  isFinite_one : isFinite (1 : α)
  isFinite_add {a b : α} : isFinite a → isFinite b → isFinite (a + b)
  isFinite_of_le {a b : α} : le 0 a → le a b → isFinite b → isFinite a
  isNaN_div_iff {a b : α} : le 0 a → lt 0 b →
    (isNaN (a / b) ↔ isFinite a = false ∧ isFinite b = false)

theorem UnboundedScalar.isFinite_zero {α : Type} [Scalar α] [UnboundedScalar α] :
    isFinite (0 : α) :=
  isFinite_of_le (MonotoneScalar.le_refl OrderedScalar.isNaN_zero)
    (MonotoneScalar.le_of_lt OrderedScalar.zero_lt_one) isFinite_one

/-- A number of `K`, or one of what is added to them. -/
inductive Extended (K : Type) where
  | finite (value : K)
  | infinity (negative : Bool)
  | notANumber
deriving DecidableEq, Repr

namespace Extended

variable {K : Type}

/-- Where a number stands among the others; what is not a number stands nowhere. -/
def place : Extended K → Option (WithBot (WithTop K))
  | finite x => some (WithBot.some (WithTop.some x))
  | infinity true => some ⊥
  | infinity false => some (WithBot.some ⊤)
  | notANumber => none

variable [Field K] [LinearOrder K]

def neg : Extended K → Extended K
  | finite x => finite (-x)
  | infinity negative => infinity !negative
  | notANumber => notANumber

def add : Extended K → Extended K → Extended K
  | finite x, finite y => finite (x + y)
  | finite _, infinity negative => infinity negative
  | infinity negative, finite _ => infinity negative
  | infinity m, infinity n => if m = n then infinity m else notANumber
  | _, _ => notANumber

/-- Zero times infinity is not a number. -/
def mul : Extended K → Extended K → Extended K
  | finite x, finite y => finite (x * y)
  | finite x, infinity n => if x = 0 then notANumber else infinity (decide (x < 0) ^^ n)
  | infinity m, finite y => if y = 0 then notANumber else infinity (m ^^ decide (y < 0))
  | infinity m, infinity n => infinity (m ^^ n)
  | _, _ => notANumber

/-- Zero divided by zero and infinity divided by infinity are not numbers. -/
def div : Extended K → Extended K → Extended K
  | finite x, finite y =>
    if y ≠ 0 then finite (x / y)
    else if x = 0 then notANumber else infinity (decide (x < 0))
  | finite _, infinity _ => finite 0
  | infinity m, finite y => infinity (m ^^ decide (y < 0))
  | _, _ => notANumber

instance : Scalar (Extended K) where
  add := add
  sub a b := add a (neg b)
  mul := mul
  div := div
  neg := neg
  ofDecimal digits places := finite (digits / ((10 ^ places : Nat) : K))
  lt a b := match place a, place b with
    | some x, some y => decide (x < y)
    | _, _ => false
  eq a b := match place a, place b with
    | some x, some y => decide (x = y)
    | _, _ => false

section Places

variable {a b c : Extended K}

theorem lt_iff_place : Scalar.lt a b ↔ ∃ x ∈ place a, ∃ y ∈ place b, x < y := by
  change (match place a, place b with
    | some x, some y => decide (x < y)
    | _, _ => false) = true ↔ _
  cases place a <;> cases place b <;> simp

theorem eq_iff_place : Scalar.eq a b ↔ ∃ x ∈ place a, x ∈ place b := by
  change (match place a, place b with
    | some x, some y => decide (x = y)
    | _, _ => false) = true ↔ _
  cases place a <;> cases place b <;> simp [eq_comm]

theorem isNaN_iff_place : isNaN a ↔ place a = none := by
  rw [isNaN, Bool.not_eq_true', Bool.eq_false_iff, ne_eq, eq_iff_place]
  cases place a <;> simp

theorem exists_mem_place (h : isNaN a = false) : ∃ x, x ∈ place a :=
  Option.ne_none_iff_exists'.mp fun hNone => Bool.eq_false_iff.mp h (isNaN_iff_place.mpr hNone)

theorem isNaN_of_mem_place {x : WithBot (WithTop K)} (h : x ∈ place a) : isNaN a = false :=
  Bool.eq_false_iff.mpr fun hNaN => by simp [isNaN_iff_place.mp hNaN] at h

theorem not_lt_iff_place : Scalar.lt a b = false ↔ ∀ x ∈ place a, ∀ y ∈ place b, y ≤ x := by
  rw [Bool.eq_false_iff, ne_eq, lt_iff_place]
  push Not
  rfl

theorem le_iff_place : Scalar.le a b ↔ ∃ x ∈ place a, ∃ y ∈ place b, x ≤ y := by
  rw [Scalar.le, Bool.or_eq_true_iff, lt_iff_place, eq_iff_place]
  cases place a <;> cases place b <;> simp [le_iff_lt_or_eq, eq_comm]

theorem lt_of_lt_of_le (hab : Scalar.lt a b) (hbc : Scalar.le b c) : Scalar.lt a c := by
  obtain ⟨x, hx, y, hy, hxy⟩ := lt_iff_place.mp hab
  obtain ⟨y', hy', z, hz, hyz⟩ := le_iff_place.mp hbc
  cases Option.mem_unique hy hy'
  exact lt_iff_place.mpr ⟨x, hx, z, hz, hxy.trans_le hyz⟩

end Places

section Rules

variable (x y : K) (m n : Bool) (a : Extended K)

theorem zero_eq : (0 : Extended K) = finite 0 := by
  change finite ((0 : Nat) / ((10 ^ 0 : Nat) : K)) = _
  simp

theorem one_eq : (1 : Extended K) = finite 1 := by
  change finite ((1 : Nat) / ((10 ^ 0 : Nat) : K)) = _
  simp

@[simp] theorem finite_add_finite : finite x + finite y = finite (x + y) := rfl

@[simp] theorem finite_add_infinity : finite x + infinity n = infinity n := rfl

@[simp] theorem infinity_add_finite : infinity m + finite y = infinity m := rfl

@[simp] theorem infinity_add_infinity :
    (infinity m + infinity n : Extended K) = if m = n then infinity m else notANumber := rfl

@[simp] theorem notANumber_add : notANumber + a = notANumber := by cases a <;> rfl

@[simp] theorem add_notANumber : a + notANumber = notANumber := by cases a <;> rfl

theorem sub_eq_add_neg (b : Extended K) : a - b = a + neg b := rfl

@[simp] theorem finite_mul_finite : finite x * finite y = finite (x * y) := rfl

@[simp] theorem finite_mul_infinity : finite x * infinity n =
    if x = 0 then notANumber else infinity (decide (x < 0) ^^ n) := rfl

@[simp] theorem infinity_mul_finite : infinity m * finite y =
    if y = 0 then notANumber else infinity (m ^^ decide (y < 0)) := rfl

@[simp] theorem infinity_mul_infinity :
    (infinity m * infinity n : Extended K) = infinity (m ^^ n) := rfl

@[simp] theorem notANumber_mul : notANumber * a = notANumber := by cases a <;> rfl

@[simp] theorem mul_notANumber : a * notANumber = notANumber := by cases a <;> rfl

@[simp] theorem finite_div_finite : finite x / finite y =
    if y ≠ 0 then finite (x / y)
    else if x = 0 then notANumber else infinity (decide (x < 0)) := rfl

@[simp] theorem finite_div_infinity : finite x / infinity n = finite 0 := rfl

@[simp] theorem infinity_div_finite :
    infinity m / finite y = infinity (m ^^ decide (y < 0)) := rfl

@[simp] theorem infinity_div_infinity :
    (infinity m / infinity n : Extended K) = notANumber := rfl

@[simp] theorem notANumber_div : notANumber / a = notANumber := by cases a <;> rfl

@[simp] theorem div_notANumber : a / notANumber = notANumber := by cases a <;> rfl

end Rules

@[simp] theorem isNaN_eq (a : Extended K) : isNaN a = decide (a = notANumber) := by
  rw [Bool.eq_iff_iff, isNaN_iff_place, decide_eq_true_iff]
  rcases a with x | (_ | _) | _ <;> simp [place]

theorem isFinite_iff {a : Extended K} : Scalar.isFinite a ↔ ∃ x, a = finite x := by
  rw [Scalar.isFinite, sub_eq_add_neg, eq_iff_place, zero_eq]
  rcases a with x | n | _ <;> simp [neg, place]

section Order

variable (x y : K) (m n : Bool) (a : Extended K)

@[simp] theorem finite_lt_finite : Scalar.lt (finite x) (finite y) = decide (x < y) := by
  rw [Bool.eq_iff_iff, lt_iff_place]
  simp [place]

@[simp] theorem finite_lt_infinity : Scalar.lt (finite x) (infinity n) = !n := by
  rw [Bool.eq_iff_iff, lt_iff_place]
  cases n
  · simpa [place] using WithBot.coe_lt_coe.mpr (WithTop.coe_lt_top x)
  · simp [place]

@[simp] theorem infinity_lt_finite : Scalar.lt (infinity m) (finite y) = m := by
  rw [Bool.eq_iff_iff, lt_iff_place]
  cases m <;> simp [place]

@[simp] theorem infinity_lt_infinity :
    Scalar.lt (infinity m : Extended K) (infinity n) = (m && !n) := by
  rw [Bool.eq_iff_iff, lt_iff_place]
  cases m <;> cases n <;> simp [place]

@[simp] theorem notANumber_lt : Scalar.lt notANumber a = false := by
  simp [not_lt_iff_place, place]

@[simp] theorem lt_notANumber : Scalar.lt a notANumber = false := by
  simp [not_lt_iff_place, place]

end Order

section Signs

variable {x y : K} {m n : Bool} {a b : Extended K}

theorem cases_of_not_lt_zero (h : Scalar.lt a 0 = false) :
    (∃ x, 0 ≤ x ∧ a = finite x) ∨ a = infinity false ∨ a = notANumber := by
  rw [zero_eq] at h
  rcases a with x | (_ | _) | _ <;> simp_all

theorem cases_of_zero_lt (h : Scalar.lt 0 a) :
    (∃ x, 0 < x ∧ a = finite x) ∨ a = infinity false := by
  rw [zero_eq] at h
  rcases a with x | (_ | _) | _ <;> simp_all

theorem le_finite_iff : Scalar.le a (finite y) ↔
    (∃ x, x ≤ y ∧ a = finite x) ∨ a = infinity true := by
  rw [le_iff_place]
  rcases a with x | (_ | _) | _ <;> simp [place]

theorem finite_le_iff : Scalar.le (finite x) a ↔
    (∃ y, x ≤ y ∧ a = finite y) ∨ a = infinity false := by
  rw [le_iff_place]
  rcases a with y | (_ | _) | _ <;> simp [place]

theorem infinity_le_iff : Scalar.le (infinity false) a ↔ a = infinity false := by
  rw [le_iff_place]
  rcases a with y | (_ | _) | _ <;> simp [place]

theorem le_infinity_iff : Scalar.le a (infinity false) ↔ a ≠ notANumber := by
  rw [le_iff_place]
  rcases a with y | (_ | _) | _ <;> simp [place]

/-- A product of what is not negative is that of two finite numbers, or infinite, or not a
number. -/
theorem cases_of_mul (ha : Scalar.lt a 0 = false) (hb : Scalar.lt b 0 = false) :
    (∃ x y, 0 ≤ x ∧ 0 ≤ y ∧ a = finite x ∧ b = finite y) ∨ a * b = infinity false ∨
      a * b = notANumber := by
  rcases cases_of_not_lt_zero ha with ⟨x, hx, rfl⟩ | rfl | rfl
  · rcases cases_of_not_lt_zero hb with ⟨y, hy, rfl⟩ | rfl | rfl
    · exact .inl ⟨x, y, hx, hy, rfl, rfl⟩
    · by_cases hZero : x = 0 <;> simp [hZero, hx]
    · simp
  · rcases cases_of_not_lt_zero hb with ⟨y, hy, rfl⟩ | rfl | rfl
    · by_cases hZero : y = 0 <;> simp [hZero, hy]
    all_goals simp
  · simp

theorem mul_infinity (h : Scalar.lt 0 a) : a * infinity false = infinity false := by
  rcases cases_of_zero_lt h with ⟨x, hx, rfl⟩ | rfl
  · simp [hx.le, hx.ne']
  · simp

theorem infinity_mul (h : Scalar.lt 0 a) : infinity false * a = infinity false := by
  rcases cases_of_zero_lt h with ⟨x, hx, rfl⟩ | rfl
  · simp [hx.le, hx.ne']
  · simp

theorem mul_ne_notANumber (ha : Scalar.lt 0 a) (hb : Scalar.lt 0 b) : a * b ≠ notANumber := by
  rcases cases_of_zero_lt hb with ⟨y, hy, rfl⟩ | rfl
  · rcases cases_of_zero_lt ha with ⟨x, hx, rfl⟩ | rfl
    · simp
    · simp [infinity_mul hb]
  · simp [mul_infinity ha]

end Signs

variable [IsStrictOrderedRing K]

section Laws

variable {a b c d : Extended K}

theorem not_add_lt (h : Scalar.lt b 0 = false) : Scalar.lt (a + b) a = false := by
  rcases cases_of_not_lt_zero h with ⟨y, hy, rfl⟩ | rfl | rfl
  · cases a <;> simp [hy]
  · rcases a with x | (_ | _) | _ <;> simp
  · simp

theorem not_mul_lt_zero (ha : Scalar.lt a 0 = false) (hb : Scalar.lt b 0 = false) :
    Scalar.lt (a * b) 0 = false := by
  rw [zero_eq]
  rcases cases_of_mul ha hb with ⟨x, y, hx, hy, rfl, rfl⟩ | h | h
  · simpa using mul_nonneg hx hy
  all_goals simp [h]

theorem not_mul_lt (ha : Scalar.lt a 1 = false) (hb : Scalar.lt b 0 = false) :
    Scalar.lt (a * b) b = false := by
  have hSign : Scalar.lt a 0 = false := by
    rw [one_eq] at ha
    rw [zero_eq]
    rcases a with x | m | _ <;> simp_all [zero_le_one.trans]
  rcases cases_of_mul hSign hb with ⟨x, y, hx, hy, rfl, rfl⟩ | h | h
  · have hOne : 1 ≤ x := by simpa [one_eq] using ha
    simpa using le_mul_of_one_le_left hy hOne
  · cases b <;> simp [h]
  · simp [h]

theorem not_div_lt_zero (ha : Scalar.lt a 0 = false) (hb : Scalar.lt 0 b) :
    Scalar.lt (a / b) 0 = false := by
  rw [zero_eq]
  rcases cases_of_zero_lt hb with ⟨y, hy, rfl⟩ | rfl <;>
    rcases cases_of_not_lt_zero ha with ⟨x, hx, rfl⟩ | rfl | rfl
  · simpa [hy.ne'] using div_nonneg hx hy.le
  · simp [hy.le]
  all_goals simp

theorem add_le_add (ha : Scalar.le 0 a) (hab : Scalar.le a b) (hc : Scalar.le 0 c) :
    Scalar.le (a + c) (b + c) := by
  rw [zero_eq, finite_le_iff] at ha hc
  rcases ha with ⟨x, hx, rfl⟩ | rfl
  · rcases finite_le_iff.mp hab with ⟨y, hy, rfl⟩ | rfl <;> rcases hc with ⟨z, hz, rfl⟩ | rfl
    · exact finite_le_iff.mpr (.inl ⟨y + z, add_le_add_left hy z, rfl⟩)
    all_goals simp [le_infinity_iff]
  · obtain rfl := infinity_le_iff.mp hab
    rcases hc with ⟨z, hz, rfl⟩ | rfl <;> simp [le_infinity_iff]

theorem mul_le_mul (ha : Scalar.lt 0 a) (hc : Scalar.lt 0 c) (hab : Scalar.le a b)
    (hcd : Scalar.le c d) : Scalar.le (a * c) (b * d) := by
  have hb := lt_of_lt_of_le ha hab
  have hd := lt_of_lt_of_le hc hcd
  rcases cases_of_zero_lt hb with ⟨y, hy, rfl⟩ | rfl
  · rcases cases_of_zero_lt hd with ⟨w, hw, rfl⟩ | rfl
    · obtain ⟨x, hx, rfl⟩ : ∃ x, x ≤ y ∧ a = finite x := by
        refine (le_finite_iff.mp hab).resolve_right ?_
        rintro rfl
        simp [zero_eq] at ha
      obtain ⟨z, hz, rfl⟩ : ∃ z, z ≤ w ∧ c = finite z := by
        refine (le_finite_iff.mp hcd).resolve_right ?_
        rintro rfl
        simp [zero_eq] at hc
      rw [zero_eq, finite_lt_finite, decide_eq_true_iff] at ha hc
      have hProduct : x * z ≤ y * w := by gcongr
      exact finite_le_iff.mpr (.inl ⟨y * w, hProduct, rfl⟩)
    · rw [mul_infinity hb, le_infinity_iff]
      exact mul_ne_notANumber ha hc
  · rw [infinity_mul hd, le_infinity_iff]
    exact mul_ne_notANumber ha hc

theorem zero_le_div (hFinite : Scalar.isFinite a) (ha : Scalar.le 0 a) (hb : Scalar.lt 0 b) :
    Scalar.le 0 (a / b) := by
  obtain ⟨x, rfl⟩ := isFinite_iff.mp hFinite
  rw [zero_eq, finite_le_iff] at ha ⊢
  rcases cases_of_zero_lt hb with ⟨y, hy, rfl⟩ | rfl
  · simpa [hy.ne', div_nonneg_iff, hy.le, hy.not_ge] using ha
  · simp

end Laws

instance : OrderedScalar (Extended K) where
  lt_irrefl a := by
    rw [not_lt_iff_place]
    intro x hx y hy
    cases Option.mem_unique hx hy
    exact le_rfl
  lt_trans hab hbc := lt_of_lt_of_le hab (Bool.or_eq_true_iff.mpr (.inl hbc))
  lt_or_lt {a c} b hNumber hac := by
    obtain ⟨x, hx, z, hz, hxz⟩ := lt_iff_place.mp hac
    obtain ⟨y, hy⟩ := exists_mem_place hNumber
    rcases lt_or_ge x y with hxy | hyx
    · exact .inl (lt_iff_place.mpr ⟨x, hx, y, hy, hxy⟩)
    · exact .inr (lt_iff_place.mpr ⟨y, hy, z, hz, hyx.trans_lt hxz⟩)
  lt_or_eq_or_lt {a b} ha hb := by
    obtain ⟨x, hx⟩ := exists_mem_place ha
    obtain ⟨y, hy⟩ := exists_mem_place hb
    rcases lt_trichotomy x y with hLt | rfl | hGt
    · exact .inl (lt_iff_place.mpr ⟨x, hx, y, hy, hLt⟩)
    · exact .inr (.inl (eq_iff_place.mpr ⟨x, hx, hy⟩))
    · exact .inr (.inr (lt_iff_place.mpr ⟨y, hy, x, hx, hGt⟩))
  isNaN_of_lt h := by
    obtain ⟨x, hx, y, hy, -⟩ := lt_iff_place.mp h
    exact ⟨isNaN_of_mem_place hx, isNaN_of_mem_place hy⟩
  isNaN_of_isFinite h := by
    obtain ⟨x, rfl⟩ := isFinite_iff.mp h
    simp
  zero_lt_one := by simp [zero_eq, one_eq]
  isNaN_add b h := by
    obtain rfl : _ = notANumber := by simpa using h
    simp
  not_add_lt := not_add_lt
  not_mul_lt := not_mul_lt
  not_mul_lt_zero := not_mul_lt_zero
  not_div_lt_zero := not_div_lt_zero

instance : UnboundedScalar (Extended K) where
  isNaN_of_eq h := by
    obtain ⟨x, hx, hy⟩ := eq_iff_place.mp h
    exact ⟨isNaN_of_mem_place hx, isNaN_of_mem_place hy⟩
  not_lt_of_eq h := by
    obtain ⟨x, ha, hb⟩ := eq_iff_place.mp h
    simp only [not_lt_iff_place, Option.mem_def.mp ha, Option.mem_def.mp hb]
    simp
  add_le_add := add_le_add
  mul_le_mul := mul_le_mul
  zero_le_div := zero_le_div
  isFinite_one := isFinite_iff.mpr ⟨1, one_eq⟩
  isFinite_add ha hb := by
    obtain ⟨x, rfl⟩ := isFinite_iff.mp ha
    obtain ⟨y, rfl⟩ := isFinite_iff.mp hb
    exact isFinite_iff.mpr ⟨x + y, rfl⟩
  isFinite_of_le ha hab hb := by
    obtain ⟨y, rfl⟩ := isFinite_iff.mp hb
    rw [isFinite_iff]
    rcases le_finite_iff.mp hab with ⟨x, -, rfl⟩ | rfl
    · exact ⟨x, rfl⟩
    · simp [zero_eq, finite_le_iff] at ha
  isNaN_div_iff ha hb := by
    rw [zero_eq, finite_le_iff] at ha
    simp only [Bool.eq_false_iff, ne_eq, isFinite_iff, isNaN_eq, decide_eq_true_iff]
    rcases ha with ⟨x, -, rfl⟩ | rfl <;> rcases cases_of_zero_lt hb with ⟨y, hy, rfl⟩ | rfl
    · simp [hy.ne']
    all_goals simp

end Extended

instance : UnboundedScalar ℝ where
  isFinite_one := ExactScalar.isFinite _
  isFinite_add _ _ := ExactScalar.isFinite _
  isFinite_of_le _ _ _ := ExactScalar.isFinite _
  isNaN_div_iff _ _ := by simp [ExactScalar.isFinite, Exact.not_isNaN]

end DemandRide
