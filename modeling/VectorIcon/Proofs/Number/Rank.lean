import Mathlib.Algebra.Group.Nat.Defs
import VectorIcon.Number.Binary64

/-!
Ranks and the magnitudes they stand for. A rank is either its own magnitude, or a 53-bit
significand times a power of two; `floorRank` finds the rank of a magnitude, and `nearestRank`
depends on the value of a fraction alone and gives back the rank of an exact one.
-/

namespace VectorIcon.Number

theorem units_of_small {rank : Nat} (small : rank < 2 ^ 52) : units rank = rank := by
  simp only [units, Nat.pow_eq, if_pos small]

theorem units_of_parts (exponent : Nat) {fraction : Nat} (bound : fraction < 2 ^ 52) :
    units ((exponent + 1) * 2 ^ 52 + fraction) = (2 ^ 52 + fraction) * 2 ^ exponent := by
  have large : ¬(exponent + 1) * 2 ^ 52 + fraction < 2 ^ 52 := by omega
  have quotient : ((exponent + 1) * 2 ^ 52 + fraction) / 2 ^ 52 = exponent + 1 := by omega
  have remainder : ((exponent + 1) * 2 ^ 52 + fraction) % 2 ^ 52 = fraction := by omega
  simp only [units, Nat.pow_eq, if_neg large, quotient, remainder, Nat.add_sub_cancel]

theorem exists_parts {rank : Nat} (large : 2 ^ 52 ≤ rank) :
    ∃ exponent fraction, fraction < 2 ^ 52 ∧ rank = (exponent + 1) * 2 ^ 52 + fraction := by
  refine ⟨rank / 2 ^ 52 - 1, rank % 2 ^ 52, ?_, ?_⟩ <;> omega

theorem floorRank_of_small {size : Nat} (small : size < 2 ^ 52) : floorRank size = size := by
  have shift : size.log2 - 52 = 0 := by
    by_cases zero : size = 0
    · subst zero
      rfl
    · have bound := (Nat.log2_lt zero).mpr small
      omega
  simp only [floorRank, Nat.pow_eq, shift]
  omega

theorem floorRank_of_parts (exponent : Nat) {fraction : Nat} (bound : fraction < 2 ^ 52) :
    floorRank ((2 ^ 52 + fraction) * 2 ^ exponent) = (exponent + 1) * 2 ^ 52 + fraction := by
  have positive : 0 < 2 ^ exponent := Nat.two_pow_pos exponent
  have low : 2 ^ (52 + exponent) ≤ (2 ^ 52 + fraction) * 2 ^ exponent := by
    rw [Nat.pow_add]
    exact Nat.mul_le_mul_right _ (Nat.le_add_right _ _)
  have high : (2 ^ 52 + fraction) * 2 ^ exponent < 2 ^ (52 + exponent + 1) := by
    rw [Nat.add_right_comm, Nat.pow_add]
    exact Nat.mul_lt_mul_of_pos_right (by omega) positive
  have nonzero : (2 ^ 52 + fraction) * 2 ^ exponent ≠ 0 := by
    have size := Nat.two_pow_pos (52 + exponent)
    omega
  have length := (Nat.log2_eq_iff nonzero).mpr ⟨low, high⟩
  simp only [floorRank, Nat.pow_eq, length, Nat.add_sub_cancel_left]
  rw [Nat.mul_div_cancel _ positive]
  omega

theorem floorRank_units (rank : Nat) : floorRank (units rank) = rank := by
  rcases Nat.lt_or_ge rank (2 ^ 52) with small | large
  · rw [units_of_small small, floorRank_of_small small]
  · obtain ⟨exponent, fraction, bound, rfl⟩ := exists_parts large
    rw [units_of_parts exponent bound, floorRank_of_parts exponent bound]

theorem units_next_of_parts (exponent : Nat) {fraction : Nat} (bound : fraction < 2 ^ 52) :
    units ((exponent + 1) * 2 ^ 52 + fraction + 1) = (2 ^ 52 + fraction + 1) * 2 ^ exponent := by
  rcases Nat.lt_or_ge (fraction + 1) (2 ^ 52) with next | last
  · rw [Nat.add_assoc, units_of_parts exponent next, Nat.add_assoc]
  · have carried : (exponent + 1) * 2 ^ 52 + fraction + 1 = (exponent + 1 + 1) * 2 ^ 52 + 0 := by
      omega
    have significand : 2 ^ 52 + fraction + 1 = 2 ^ 52 * 2 := by omega
    have doubled : 2 ^ (exponent + 1) = 2 * 2 ^ exponent := Nat.pow_succ'
    rw [carried, units_of_parts (exponent + 1) (by decide), significand, doubled, Nat.add_zero,
      Nat.mul_assoc]

theorem units_lt_succ (rank : Nat) : units rank < units (rank + 1) := by
  rcases Nat.lt_or_ge rank (2 ^ 52) with small | large
  · rcases Nat.lt_or_ge (rank + 1) (2 ^ 52) with next | last
    · rw [units_of_small small, units_of_small next]
      omega
    · have first : rank + 1 = (0 + 1) * 2 ^ 52 + 0 := by omega
      rw [units_of_small small, first, units_of_parts 0 (by decide)]
      omega
  · obtain ⟨exponent, fraction, bound, rfl⟩ := exists_parts large
    rw [units_of_parts exponent bound, units_next_of_parts exponent bound]
    exact Nat.mul_lt_mul_of_pos_right (by omega) (Nat.two_pow_pos exponent)

/-- A size and the rank below it: the same exponent, and a significand without its rest. -/
theorem exists_floorRank_parts {size : Nat} (large : 2 ^ 52 ≤ size) :
    ∃ exponent fraction rest, fraction < 2 ^ 52 ∧ rest < 2 ^ exponent ∧
      size = (2 ^ 52 + fraction) * 2 ^ exponent + rest ∧
      floorRank size = (exponent + 1) * 2 ^ 52 + fraction := by
  have nonzero : size ≠ 0 := by omega
  have long : 52 ≤ size.log2 := (Nat.le_log2 nonzero).mpr large
  obtain ⟨exponent, length⟩ : ∃ exponent, size.log2 = 52 + exponent := ⟨size.log2 - 52, by omega⟩
  have positive : 0 < 2 ^ exponent := Nat.two_pow_pos exponent
  obtain ⟨low, high⟩ := (Nat.log2_eq_iff nonzero).mp length
  rw [Nat.pow_add] at low
  rw [Nat.add_right_comm, Nat.pow_add] at high
  have lead : 2 ^ 52 ≤ size / 2 ^ exponent := (Nat.le_div_iff_mul_le positive).mpr low
  have bound : size / 2 ^ exponent < 2 ^ (52 + 1) := (Nat.div_lt_iff_lt_mul positive).mpr high
  refine ⟨exponent, size / 2 ^ exponent - 2 ^ 52, size % 2 ^ exponent, ?_, ?_, ?_, ?_⟩
  · omega
  · exact Nat.mod_lt size positive
  · rw [Nat.add_sub_cancel' lead, Nat.div_add_mod']
  · have shift : size.log2 - 52 = exponent := by omega
    simp only [floorRank, Nat.pow_eq, shift]
    omega

theorem units_floorRank_le (size : Nat) : units (floorRank size) ≤ size := by
  rcases Nat.lt_or_ge size (2 ^ 52) with small | large
  · exact Nat.le_of_eq (by rw [floorRank_of_small small, units_of_small small])
  · obtain ⟨exponent, fraction, rest, bound, _, split, rank⟩ := exists_floorRank_parts large
    rw [rank, units_of_parts exponent bound, split]
    exact Nat.le_add_right _ rest

theorem lt_units_floorRank_succ (size : Nat) : size < units (floorRank size + 1) := by
  rcases Nat.lt_or_ge size (2 ^ 52) with small | large
  · rw [floorRank_of_small small]
    have next := units_lt_succ size
    rwa [units_of_small small] at next
  · obtain ⟨exponent, fraction, rest, bound, less, split, rank⟩ := exists_floorRank_parts large
    rw [rank, units_next_of_parts exponent bound, split, Nat.succ_mul (2 ^ 52 + fraction)]
    exact Nat.add_lt_add_left less _

theorem rankBound_le_floorRank {size : Nat} (long : 2098 ≤ size.log2) :
    rankBound ≤ floorRank size := by
  have nonzero : size ≠ 0 := by
    rintro rfl
    exact absurd long (by decide)
  have whole : 2 ^ 52 * 2 ^ (size.log2 - 52) ≤ size := by
    rw [← Nat.pow_add, Nat.add_sub_cancel' (by omega)]
    exact Nat.log2_self_le nonzero
  have lead : 2 ^ 52 ≤ size / 2 ^ (size.log2 - 52) :=
    (Nat.le_div_iff_mul_le (Nat.two_pow_pos _)).mpr whole
  simp only [floorRank, rankBound, Nat.pow_eq]
  omega

def roundedRank (scaled denominator : Nat) : Nat :=
  let low := floorRank (scaled / denominator)
  let middle := (units low + units (low + 1)) * denominator
  if 2 * scaled < middle then low
  else if middle < 2 * scaled then low + 1
  else if low % 2 = 0 then low else low + 1

theorem nearestRank_eq {unit : Nat} (smallest : unit = 1074) (numerator denominator : Nat) :
    nearestRank numerator denominator = roundedRank (numerator * 2 ^ unit) denominator := by
  unfold nearestRank roundedRank
  rw [← smallest]
  rfl

theorem roundedRank_units (rank : Nat) {denominator : Nat} (positive : 0 < denominator) :
    roundedRank (units rank * denominator) denominator = rank := by
  have low : floorRank (units rank * denominator / denominator) = rank := by
    rw [Nat.mul_div_cancel _ positive, floorRank_units]
  have below : 2 * (units rank * denominator) <
      (units rank + units (rank + 1)) * denominator := by
    rw [← Nat.mul_assoc]
    have next := units_lt_succ rank
    exact Nat.mul_lt_mul_of_pos_right (by omega) positive
  simp only [roundedRank, low, if_pos below]

theorem roundedRank_mul_left {factor : Nat} (positive : 0 < factor) (scaled denominator : Nat) :
    roundedRank (factor * scaled) (factor * denominator) = roundedRank scaled denominator := by
  have size : factor * scaled / (factor * denominator) = scaled / denominator :=
    Nat.mul_div_mul_left _ _ positive
  have twice : 2 * (factor * scaled) = factor * (2 * scaled) := Nat.mul_left_comm 2 factor scaled
  have between (middle : Nat) :
      middle * (factor * denominator) = factor * (middle * denominator) :=
    Nat.mul_left_comm middle factor denominator
  simp only [roundedRank, size, twice, between, Nat.mul_lt_mul_left positive]

theorem roundedRank_of_tiny {scaled denominator : Nat} (tiny : 2 * scaled < denominator) :
    roundedRank scaled denominator = 0 := by
  have low : floorRank (scaled / denominator) = 0 := by
    rw [Nat.div_eq_of_lt (by omega)]
    exact floorRank_of_small (by decide)
  have first : units 0 + units (0 + 1) = 1 := by
    rw [units_of_small (by decide), units_of_small (by decide)]
  simp only [roundedRank, low, first, Nat.one_mul, if_pos tiny]

theorem rankBound_le_roundedRank {scaled denominator : Nat}
    (long : 2098 ≤ (scaled / denominator).log2) : rankBound ≤ roundedRank scaled denominator := by
  have low := rankBound_le_floorRank long
  simp only [roundedRank]
  split
  · exact low
  · split
    · omega
    · split <;> omega

end VectorIcon.Number
