import EventDelivery.Json.Basic
import Mathlib.Algebra.Order.Field.Power
import Mathlib.Data.Rat.Cast.Order
import Mathlib.Tactic.Linarith
import Mathlib.Tactic.Positivity
import Mathlib.Tactic.Ring

/-!
# Equality of JSON values

Every number has a rational value, and values are equal when they have the same
shape and their numbers have the same value.  The executable comparison decides
this equality.
-/

namespace EventDelivery

namespace Double

/-- The value of a double. -/
def value (x : Double) : ℚ :=
  (if x.negative then -1 else 1) * (x.significand * 2 ^ x.exponent)

theorem canonical_bounds {significand : Nat} {exponent : Int}
    (canonical : Canonical significand exponent) :
    significand < 2 ^ 53 ∧ -1074 ≤ exponent ∧
      (-1074 < exponent → 2 ^ 52 ≤ significand) := by
  simp only [Canonical, Nat.pow_eq] at canonical
  rcases canonical with ⟨least, greatest, low, _⟩ | ⟨small, rfl⟩
  · exact ⟨greatest, low, fun _ => least⟩
  · refine ⟨by omega, by omega, ?_⟩
    intro above
    omega

theorem canonical_exponent_le {first second : Nat} {low high : Int}
    (firstCanonical : Canonical first low) (secondCanonical : Canonical second high)
    (same : (first : ℚ) * 2 ^ low = second * 2 ^ high) : high ≤ low := by
  obtain ⟨firstBound, lowBound, _⟩ := canonical_bounds firstCanonical
  obtain ⟨_, _, normal⟩ := canonical_bounds secondCanonical
  by_contra notBelow
  have below : low < high := not_le.mp notBelow
  have large : (2 : ℚ) ^ 52 ≤ second := by exact_mod_cast normal (by omega)
  have small : (first : ℚ) < 2 ^ 53 := by exact_mod_cast firstBound
  have positive : (0 : ℚ) < 2 ^ low := by positivity
  have step : (2 : ℚ) ^ (low + 1) ≤ 2 ^ high :=
    zpow_le_zpow_right₀ (by norm_num) (by omega)
  have strict : (first : ℚ) * 2 ^ low < second * 2 ^ high := by
    calc (first : ℚ) * 2 ^ low
        < 2 ^ 53 * 2 ^ low := mul_lt_mul_of_pos_right small positive
      _ = 2 ^ 52 * 2 ^ (low + 1) := by
          rw [zpow_add_one₀ (by norm_num)]
          ring
      _ ≤ second * 2 ^ high := mul_le_mul large step (by positivity) (by positivity)
  exact absurd same strict.ne

theorem canonical_unique {first second : Nat} {low high : Int}
    (firstCanonical : Canonical first low) (secondCanonical : Canonical second high)
    (same : (first : ℚ) * 2 ^ low = second * 2 ^ high) :
    first = second ∧ low = high := by
  have exponents : low = high := by
    apply le_antisymm
    · exact canonical_exponent_le secondCanonical firstCanonical same.symm
    · exact canonical_exponent_le firstCanonical secondCanonical same
  subst exponents
  have power : (2 : ℚ) ^ low ≠ 0 := by positivity
  exact ⟨by exact_mod_cast mul_right_cancel₀ power same, rfl⟩

private theorem abs_value (x : Double) : |x.value| = x.significand * 2 ^ x.exponent := by
  have magnitude : (0 : ℚ) ≤ x.significand * 2 ^ x.exponent := by positivity
  cases sign : x.negative <;> simp [value, sign, abs_of_nonneg magnitude]

theorem value_eq_zero_iff (x : Double) : x.value = 0 ↔ x.significand = 0 := by
  have power : (2 : ℚ) ^ x.exponent ≠ 0 := by positivity
  rw [← abs_eq_zero, abs_value, mul_eq_zero]
  simp [power]

theorem sameNumber_iff (x y : Double) :
    x.sameNumber y = true ↔ x.value = y.value := by
  constructor
  · intro same
    simp only [sameNumber, isZero, Bool.or_eq_true, Bool.and_eq_true, beq_iff_eq,
      decide_eq_true_eq] at same
    rcases same with ⟨first, second⟩ | rfl
    · rw [(value_eq_zero_iff x).mpr first, (value_eq_zero_iff y).mpr second]
    · rfl
  · intro same
    by_cases zero : x.value = 0
    · have first := (value_eq_zero_iff x).mp zero
      have second := (value_eq_zero_iff y).mp (same ▸ zero)
      simp [sameNumber, isZero, first, second]
    · have magnitudes : (x.significand : ℚ) * 2 ^ x.exponent =
          y.significand * 2 ^ y.exponent := by
        rw [← abs_value, ← abs_value, same]
      obtain ⟨significands, exponents⟩ :=
        canonical_unique x.canonical y.canonical magnitudes
      have signs : x.negative = y.negative := by
        by_contra different
        apply zero
        have opposite : x.value = -y.value := by
          cases first : x.negative <;> cases second : y.negative <;>
            first
              | exact absurd (first.trans second.symm) different
              | simp [value, first, second, magnitudes]
        linarith
      have equal : x = y := by
        obtain ⟨_, _, _, _⟩ := x
        obtain ⟨_, _, _, _⟩ := y
        simp only at significands exponents signs
        subst significands exponents signs
        rfl
      simp [sameNumber, equal]

theorem two_zpow_eq (exponent : Int) :
    (2 : ℚ) ^ exponent = 2 ^ exponent.toNat / 2 ^ (-exponent).toNat := by
  rcases le_total 0 exponent with above | below
  · have none : (-exponent).toNat = 0 := by omega
    rw [none, pow_zero, div_one, ← zpow_natCast, Int.toNat_of_nonneg above]
  · have none : exponent.toNat = 0 := by omega
    rw [none, pow_zero, one_div, ← zpow_natCast, ← zpow_neg,
      Int.toNat_of_nonneg (by omega), neg_neg]

theorem value_eq_fraction (x : Double) : x.value = x.fraction.1 / x.fraction.2 := by
  cases sign : x.negative <;>
    simp [value, fraction, ratio, scaleRatio, sign, two_zpow_eq, mul_div_assoc, neg_div]

theorem fraction_positive (x : Double) : 0 < x.fraction.2 := by
  simp [fraction, ratio, scaleRatio]

end Double

namespace Number

/-- The value of a number. -/
def value : Number → ℚ
  | .whole n => n.val
  | .double x => x.value

theorem value_eq_fraction (number : Number) :
    number.value = number.fraction.1 / number.fraction.2 := by
  cases number with
  | whole n => simp [value, fraction]
  | double x => exact x.value_eq_fraction

theorem fraction_positive (number : Number) : 0 < number.fraction.2 := by
  cases number with
  | whole n => simp [fraction]
  | double x => exact x.fraction_positive

theorem value_eq_iff (first second : Number) :
    first.value = second.value ↔
      first.fraction.1 * second.fraction.2 = second.fraction.1 * first.fraction.2 := by
  have left : (first.fraction.2 : ℚ) ≠ 0 := by
    exact_mod_cast first.fraction_positive.ne'
  have right : (second.fraction.2 : ℚ) ≠ 0 := by
    exact_mod_cast second.fraction_positive.ne'
  rw [value_eq_fraction, value_eq_fraction, div_eq_div_iff left right]
  exact_mod_cast Iff.rfl

theorem same_iff (first second : Number) :
    first.same second = true ↔ first.value = second.value := by
  cases first with
  | whole left =>
      cases second with
      | whole right => simp [same, value]
      | double right => simp [same, value_eq_iff]
  | double left =>
      cases second with
      | whole right => simp [same, value_eq_iff]
      | double right => exact left.sameNumber_iff right

end Number

namespace Json

mutual

/-- Equality of values: numbers are equal when their values are. -/
inductive Equal : Json → Json → Prop where
  | null : Equal .null .null
  | bool {flag : Bool} : Equal (.bool flag) (.bool flag)
  | num {first second : Number} :
      first.value = second.value → Equal (.num first) (.num second)
  | str {text : String} : Equal (.str text) (.str text)
  | arr {first second : List Json} :
      EqualItems first second → Equal (.arr first) (.arr second)
  | obj {first second : List (String × Json)} :
      EqualMembers first second → Equal (.obj first) (.obj second)

/-- Equality of items at the same positions. -/
inductive EqualItems : List Json → List Json → Prop where
  | nil : EqualItems [] []
  | cons {first second : Json} {rest others : List Json} :
      Equal first second → EqualItems rest others →
      EqualItems (first :: rest) (second :: others)

/-- Equality of the values at the same keys. -/
inductive EqualMembers : List (String × Json) → List (String × Json) → Prop where
  | nil : EqualMembers [] []
  | cons {name : String} {first second : Json} {rest others : List (String × Json)} :
      Equal first second → EqualMembers rest others →
      EqualMembers ((name, first) :: rest) ((name, second) :: others)

end

mutual

theorem equal_of_same (first second : Json)
    (same : sameBy Number.same first second = true) : first.Equal second := by
  cases first <;> cases second <;> simp only [sameBy, Bool.false_eq_true] at same
  case null.null => exact .null
  case bool.bool =>
      rw [beq_iff_eq] at same
      exact same ▸ .bool
  case num.num m n => exact .num ((Number.same_iff m n).mp same)
  case str.str =>
      rw [beq_iff_eq] at same
      exact same ▸ .str
  case arr.arr items others => exact .arr (equalItems_of_same items others same)
  case obj.obj members others => exact .obj (equalMembers_of_same members others same)

theorem equalItems_of_same (items others : List Json)
    (same : sameItemsBy Number.same items others = true) : EqualItems items others := by
  cases items <;> cases others <;>
    simp only [sameItemsBy, Bool.false_eq_true, Bool.and_eq_true] at same
  case nil.nil => exact .nil
  case cons.cons first rest second others =>
      exact .cons (equal_of_same first second same.1)
        (equalItems_of_same rest others same.2)

theorem equalMembers_of_same (members others : List (String × Json))
    (same : sameMembersBy Number.same members others = true) :
    EqualMembers members others := by
  cases members with
  | nil =>
      cases others with
      | nil => exact .nil
      | cons => simp [sameMembersBy] at same
  | cons member rest =>
      obtain ⟨name, first⟩ := member
      cases others with
      | nil => simp [sameMembersBy] at same
      | cons other others =>
          obtain ⟨other, second⟩ := other
          simp only [sameMembersBy, Bool.and_eq_true, beq_iff_eq] at same
          obtain ⟨⟨rfl, head⟩, tail⟩ := same
          exact .cons (equal_of_same first second head)
            (equalMembers_of_same rest others tail)

end

mutual

theorem same_of_equal : ∀ {first second : Json},
    first.Equal second → sameBy Number.same first second = true
  | _, _, .null => rfl
  | _, _, .bool => by simp [sameBy]
  | _, _, .num values => by
      rw [sameBy]
      exact (Number.same_iff _ _).mpr values
  | _, _, .str => by simp [sameBy]
  | _, _, .arr items => by
      rw [sameBy]
      exact sameItems_of_equal items
  | _, _, .obj members => by
      rw [sameBy]
      exact sameMembers_of_equal members

private theorem sameItems_of_equal : ∀ {first second : List Json},
    EqualItems first second → sameItemsBy Number.same first second = true
  | _, _, .nil => rfl
  | _, _, .cons head tail => by
      rw [sameItemsBy, same_of_equal head, sameItems_of_equal tail]
      rfl

private theorem sameMembers_of_equal : ∀ {first second : List (String × Json)},
    EqualMembers first second → sameMembersBy Number.same first second = true
  | _, _, .nil => rfl
  | _, _, .cons head tail => by
      rw [sameMembersBy, same_of_equal head, sameMembers_of_equal tail]
      simp

end

/-- The executable comparison decides the equality of values. -/
theorem same_iff_equal (first second : Json) :
    first.same second = true ↔ first.Equal second :=
  ⟨equal_of_same first second, same_of_equal⟩

end Json

end EventDelivery
