import Mathlib.Algebra.Order.Field.Rat
import Mathlib.Algebra.Order.Field.Basic
import Mathlib.Algebra.Order.Group.Abs
import Mathlib.Data.Rat.Cast.Defs
import Mathlib.Order.Monotone.Basic
import Mathlib.Tactic.FieldSimp
import Mathlib.Tactic.Linarith
import Mathlib.Tactic.Positivity
import Mathlib.Tactic.Ring
import VectorIcon.Proofs.Number.ReadBack

/-!
Rounding to the nearest number. A magnitude is a rational number here, and the rank nearest to a
value is the one that no other rank is as near to, up to a tie, which the even rank wins. Values
are rounded as if there were no end to the ranks, and what reaches 2¹⁰²⁴ is infinite. Fractions,
decimals and literals are all read as the number nearest to their value.
-/

namespace VectorIcon.Number

def magnitude (rank : Nat) : ℚ :=
  units rank / 2 ^ 1074

def IsNearestRank (value : ℚ) (rank : Nat) : Prop :=
  ∀ other, other ≠ rank → |value - magnitude rank| < |value - magnitude other| ∨
    |value - magnitude rank| = |value - magnitude other| ∧ rank % 2 = 0

inductive IsNearest (negative : Bool) (value : ℚ) : Number → Prop
  | finite {rank : Fin rankBound} (near : IsNearestRank value rank.val) :
      IsNearest negative value (.finite negative rank)
  | infinite {rank : Nat} (beyond : rankBound ≤ rank) (near : IsNearestRank value rank) :
      IsNearest negative value (.infinite negative)

theorem magnitude_strictMono : StrictMono magnitude := by
  apply strictMono_nat_of_lt_succ
  intro rank
  have next : (units rank : ℚ) < units (rank + 1) := by exact_mod_cast units_lt_succ rank
  exact div_lt_div_of_pos_right next (by positivity)

theorem magnitude_rankBound : magnitude rankBound = 2 ^ 1024 := by
  have parts : rankBound = (2046 + 1) * 2 ^ 52 + 0 := by decide
  have size : units rankBound = 2 ^ 52 * 2 ^ 2046 := by
    rw [parts, units_of_parts 2046 (by decide), Nat.add_zero]
  rw [magnitude, size, div_eq_iff (by positivity), Nat.cast_mul, Nat.cast_pow, Nat.cast_pow,
    Nat.cast_ofNat, ← pow_add, ← pow_add]

section

variable {value : ℚ} {low : Nat} (lower : magnitude low ≤ value)
  (upper : value < magnitude (low + 1))

include lower in
theorem distance_below {other : Nat} (below : other ≤ low) :
    |value - magnitude other| = value - magnitude other := by
  have less := magnitude_strictMono.monotone below
  exact abs_of_nonneg (by linarith)

include upper in
theorem distance_above {other : Nat} (above : low < other) :
    |value - magnitude other| = magnitude other - value := by
  have more : magnitude (low + 1) ≤ magnitude other := magnitude_strictMono.monotone above
  rw [abs_sub_comm]
  exact abs_of_nonneg (by linarith)

include lower upper

theorem isNearestRank_low
    (near : value - magnitude low < magnitude (low + 1) - value ∨
      value - magnitude low = magnitude (low + 1) - value ∧ low % 2 = 0) :
    IsNearestRank value low := by
  intro other different
  rw [distance_below lower (Nat.le_refl low)]
  rcases Nat.lt_or_gt_of_ne different with below | above
  · have less := magnitude_strictMono below
    rw [distance_below lower (Nat.le_of_lt below)]
    left
    linarith
  · have more : magnitude (low + 1) ≤ magnitude other := magnitude_strictMono.monotone above
    rw [distance_above upper above]
    rcases near with nearer | ⟨tie, even⟩
    · left
      linarith
    · rw [tie]
      rcases lt_or_eq_of_le more with further | same
      · left
        linarith
      · right
        exact ⟨by rw [same], even⟩

theorem isNearestRank_high
    (near : magnitude (low + 1) - value < value - magnitude low ∨
      magnitude (low + 1) - value = value - magnitude low ∧ (low + 1) % 2 = 0) :
    IsNearestRank value (low + 1) := by
  intro other different
  rw [distance_above upper (Nat.lt_succ_self low)]
  rcases Nat.lt_or_gt_of_ne different with below | above
  · have within : other ≤ low := Nat.lt_succ_iff.mp below
    have less := magnitude_strictMono.monotone within
    rw [distance_below lower within]
    rcases near with nearer | ⟨tie, even⟩
    · left
      linarith
    · rw [tie]
      rcases lt_or_eq_of_le less with further | same
      · left
        linarith
      · right
        exact ⟨by rw [same], even⟩
  · have more := magnitude_strictMono above
    rw [distance_above upper (Nat.lt_of_succ_lt above)]
    left
    linarith

end

theorem isNearestRank_of_middle {value : ℚ} {low rank : Nat} (lower : magnitude low ≤ value)
    (upper : value < magnitude (low + 1))
    (chosen : rank = if 2 * value < magnitude low + magnitude (low + 1) then low
      else if magnitude low + magnitude (low + 1) < 2 * value then low + 1
      else if low % 2 = 0 then low else low + 1) : IsNearestRank value rank := by
  subst chosen
  split
  · exact isNearestRank_low lower upper (.inl (by linarith))
  · split
    · exact isNearestRank_high lower upper (.inl (by linarith))
    · have tie : 2 * value = magnitude low + magnitude (low + 1) := by linarith
      split
      · rename_i even
        exact isNearestRank_low lower upper (.inr ⟨by linarith, even⟩)
      · exact isNearestRank_high lower upper (.inr ⟨by linarith, by omega⟩)

section

variable {scaled denominator : Nat} (positive : 0 < denominator)

include positive

theorem fraction_lt_iff (size : Nat) :
    (scaled / denominator / 2 ^ 1074 : ℚ) < size / 2 ^ 1074 ↔ scaled < size * denominator := by
  have divisor : (0 : ℚ) < denominator := by exact_mod_cast positive
  rw [div_lt_div_iff_of_pos_right (by positivity), div_lt_iff₀ divisor]
  exact_mod_cast Iff.rfl

theorem lt_fraction_iff (size : Nat) :
    (size / 2 ^ 1074 : ℚ) < scaled / denominator / 2 ^ 1074 ↔ size * denominator < scaled := by
  have divisor : (0 : ℚ) < denominator := by exact_mod_cast positive
  rw [div_lt_div_iff_of_pos_right (by positivity), lt_div_iff₀ divisor]
  exact_mod_cast Iff.rfl

theorem isNearestRank_roundedRank :
    IsNearestRank (scaled / denominator / 2 ^ 1074) (roundedRank scaled denominator) := by
  let low := floorRank (scaled / denominator)
  have lower : magnitude low ≤ (scaled / denominator / 2 ^ 1074 : ℚ) := by
    have below : units low * denominator ≤ scaled :=
      (Nat.le_div_iff_mul_le positive).mp (units_floorRank_le _)
    refine not_lt.mp fun less => ?_
    have above := (fraction_lt_iff positive (units low)).mp less
    omega
  have upper : (scaled / denominator / 2 ^ 1074 : ℚ) < magnitude (low + 1) :=
    (fraction_lt_iff positive _).mpr
      ((Nat.div_lt_iff_lt_mul positive).mp (lt_units_floorRank_succ _))
  have twice : (2 * (scaled / denominator / 2 ^ 1074) : ℚ) =
      (2 * scaled : Nat) / denominator / 2 ^ 1074 := by
    rw [Nat.cast_mul, Nat.cast_ofNat, mul_div_assoc, mul_div_assoc]
  have sum : magnitude low + magnitude (low + 1) =
      (units low + units (low + 1) : Nat) / 2 ^ 1074 := by
    rw [magnitude, magnitude, Nat.cast_add, add_div]
  apply isNearestRank_of_middle lower upper
  rw [twice, sum]
  simp only [fraction_lt_iff positive, lt_fraction_iff positive]
  rfl

end

theorem isNearestRank_nearestRank (numerator : Nat) {denominator : Nat}
    (positive : 0 < denominator) :
    IsNearestRank (numerator / denominator) (nearestRank numerator denominator) := by
  obtain ⟨unit, smallest⟩ : ∃ unit, unit = 1074 := ⟨_, rfl⟩
  have value : (numerator / denominator : ℚ) =
      (numerator * 2 ^ unit : Nat) / denominator / 2 ^ unit := by
    push_cast
    field_simp
  rw [nearestRank_eq smallest, value]
  subst smallest
  exact isNearestRank_roundedRank positive

theorem isNearest_nearest (negative : Bool) (numerator : Nat) {denominator : Nat}
    (positive : 0 < denominator) :
    IsNearest negative (numerator / denominator) (nearest negative numerator denominator) := by
  have near := isNearestRank_nearestRank numerator positive
  by_cases bound : nearestRank numerator denominator < rankBound
  · simp only [nearest, dif_pos bound]
    exact .finite near
  · simp only [nearest, dif_neg bound]
    exact .infinite (Nat.not_lt.mp bound) near

/-- Two even ranks cannot tie: a rank stands between them. -/
theorem IsNearestRank.not_lt {value : ℚ} {rank other : Nat} (near : IsNearestRank value rank)
    (otherNear : IsNearestRank value other) : ¬rank < other := by
  intro below
  obtain ⟨tie, even, otherEven⟩ : |value - magnitude rank| = |value - magnitude other| ∧
      rank % 2 = 0 ∧ other % 2 = 0 := by
    rcases near other (by omega) with nearer | ⟨tie, even⟩
    · rcases otherNear rank (by omega) with further | ⟨tie, _⟩
      · exact absurd nearer (not_lt_of_gt further)
      · exact absurd tie.symm (ne_of_lt nearer)
    · rcases otherNear rank (by omega) with further | ⟨_, otherEven⟩
      · exact absurd tie.symm (ne_of_lt further)
      · exact ⟨tie, even, otherEven⟩
  have left := magnitude_strictMono (Nat.lt_succ_self rank)
  have right : magnitude (rank + 1) < magnitude other := magnitude_strictMono (by omega)
  have middle : value - magnitude rank = magnitude other - value := by
    rcases abs_eq_abs.mp tie with same | opposite
    · linarith
    · linarith
  have outer : |value - magnitude rank| = value - magnitude rank := abs_of_pos (by linarith)
  have inner : |value - magnitude (rank + 1)| < value - magnitude rank := by
    rw [abs_lt]
    constructor
    · linarith
    · linarith
  rcases near (rank + 1) (by omega) with nearer | ⟨same, _⟩
  · linarith
  · linarith

theorem IsNearestRank.unique {value : ℚ} {rank other : Nat} (near : IsNearestRank value rank)
    (otherNear : IsNearestRank value other) : rank = other :=
  Nat.le_antisymm (Nat.not_lt.mp (otherNear.not_lt near)) (Nat.not_lt.mp (near.not_lt otherNear))

theorem IsNearest.unique {negative : Bool} {value : ℚ} {number other : Number}
    (near : IsNearest negative value number) (otherNear : IsNearest negative value other) :
    number = other := by
  cases near with
  | finite near =>
      cases otherNear with
      | finite otherNear => rw [Fin.ext (near.unique otherNear)]
      | infinite beyond otherNear =>
          have same := near.unique otherNear
          omega
  | infinite beyond near =>
      cases otherNear with
      | finite otherNear =>
          have same := near.unique otherNear
          omega
      | infinite _ _ => rfl

theorem IsNearest.ne_nan {negative : Bool} {value : ℚ} {number : Number}
    (near : IsNearest negative value number) : number ≠ .nan := by
  rintro rfl
  cases near

theorem isNearest_ofDecimal (negative : Bool) (digits : Nat) (scale : Int) :
    IsNearest negative (digits * 10 ^ scale) (ofDecimal negative digits scale) := by
  by_cases zero : digits = 0
  · have near := isNearestRank_nearestRank 0 Nat.one_pos
    have origin : nearestRank 0 1 = 0 := Decimal.nearestRank_zero 0
    have nothing : ((0 : Nat) / (1 : Nat) : ℚ) = 0 * 10 ^ scale := by simp
    rw [origin, nothing] at near
    simp only [zero, Nat.cast_zero, ofDecimal, if_true]
    exact .finite near
  · rw [ofDecimal_eq_nearest negative zero]
    cases scale with
    | ofNat power =>
        have near := isNearest_nearest negative (digits * 10 ^ power) Nat.one_pos
        simpa using near
    | negSucc power =>
        have positive : 0 < 10 ^ (power + 1) := Nat.pow_pos (by decide)
        have near := isNearest_nearest negative digits positive
        simpa [zpow_negSucc, div_eq_mul_inv] using near

def Literal.amount (literal : Literal) : ℚ :=
  let fraction := literal.fraction.getD []
  (ofDigits 10 digitValue literal.whole +
      ofDigits 10 digitValue fraction / 10 ^ fraction.length) *
    10 ^ (literal.exponent.map Exponent.value).getD 0

theorem ofDigits_append (digits more : List Char) :
    ofDigits 10 digitValue (digits ++ more) =
      ofDigits 10 digitValue digits * 10 ^ more.length + ofDigits 10 digitValue more := by
  simp only [ofDigits_eq]
  rw [Nat.ofDigitChars_append, Nat.ofDigitChars_eq_ofDigitChars_zero, Nat.mul_comm]

theorem Literal.amount_eq (literal : Literal) :
    literal.amount = literal.decimal.digits * 10 ^ literal.decimal.scale := by
  simp only [amount, decimal, ofDigits_append]
  push_cast
  rw [zpow_sub₀ (by norm_num), zpow_natCast]
  field_simp

/-- A literal is read as the number nearest to what it stands for. -/
theorem isNearest_value (literal : Literal) :
    IsNearest (isNegative literal.sign) literal.amount literal.value := by
  rw [Literal.value_eq, Literal.amount_eq]
  exact isNearest_ofDecimal _ _ _

end VectorIcon.Number
