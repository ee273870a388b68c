import VectorIcon.Number.Shortest
import VectorIcon.Proofs.Number.Rank

/-!
Decimals and the numbers nearest to them. Zeros may be moved between digits and scale, the scales
that are not expanded are settled rightly, and the shortest digits of a rank read back as it.
-/

namespace VectorIcon.Number

theorem nearestRank_mul_left {factor : Nat} (positive : 0 < factor)
    (numerator denominator : Nat) :
    nearestRank (factor * numerator) (factor * denominator) =
      nearestRank numerator denominator := by
  obtain ⟨unit, smallest⟩ : ∃ unit, unit = 1074 := ⟨_, rfl⟩
  rw [nearestRank_eq smallest, nearestRank_eq smallest, Nat.mul_assoc,
    roundedRank_mul_left positive]

theorem nearest_of_rank {negative : Bool} {numerator denominator : Nat} {rank : Fin rankBound}
    (found : nearestRank numerator denominator = rank.val) :
    nearest negative numerator denominator = .finite negative rank := by
  simp only [nearest, found, dif_pos rank.isLt]

theorem log2_mul_two_pow {size : Nat} (nonzero : size ≠ 0) (power : Nat) :
    (size * 2 ^ power).log2 = size.log2 + power := by
  have positive := Nat.two_pow_pos power
  have product : size * 2 ^ power ≠ 0 := Nat.mul_ne_zero nonzero (by omega)
  refine (Nat.log2_eq_iff product).mpr ⟨?_, ?_⟩
  · rw [Nat.pow_add]
    exact Nat.mul_le_mul_right _ (Nat.log2_self_le nonzero)
  · rw [Nat.add_right_comm, Nat.pow_add]
    exact Nat.mul_lt_mul_of_pos_right Nat.lt_log2_self positive

theorem nearest_of_large {negative : Bool} {length numerator : Nat} (huge : 1024 ≤ length)
    (large : 2 ^ length ≤ numerator) : nearest negative numerator 1 = .infinite negative := by
  obtain ⟨unit, smallest⟩ : ∃ unit, unit = 1074 := ⟨_, rfl⟩
  have nonzero : numerator ≠ 0 := by
    have positive := Nat.two_pow_pos length
    omega
  have long : length ≤ numerator.log2 := (Nat.le_log2 nonzero).mpr large
  have beyond : rankBound ≤ nearestRank numerator 1 := by
    rw [nearestRank_eq smallest]
    refine rankBound_le_roundedRank ?_
    rw [Nat.div_one, log2_mul_two_pow nonzero]
    omega
  simp only [nearest, dif_neg (Nat.not_lt.mpr beyond)]

theorem nearest_of_tiny {negative : Bool} {digits power : Nat}
    (tiny : digits.log2 + 1077 < 3 * power) :
    nearest negative digits (10 ^ power) = .finite negative ⟨0, by decide⟩ := by
  obtain ⟨unit, smallest⟩ : ∃ unit, unit = 1074 := ⟨_, rfl⟩
  have below : digits < 2 ^ (digits.log2 + 1) := Nat.lt_log2_self
  have small : 2 * (digits * 2 ^ unit) < 10 ^ power :=
    calc 2 * (digits * 2 ^ unit) < 2 * (2 ^ (digits.log2 + 1) * 2 ^ unit) := by
          have shifted := Nat.mul_lt_mul_of_pos_right below (Nat.two_pow_pos unit)
          omega
      _ = 2 ^ (digits.log2 + 1 + unit + 1) := by
          rw [← Nat.pow_add, ← Nat.pow_succ']
      _ ≤ 2 ^ (3 * power) := Nat.pow_le_pow_right (by decide) (by omega)
      _ = 8 ^ power := Nat.pow_mul 2 3 power
      _ ≤ 10 ^ power := Nat.pow_le_pow_left (by decide) power
  refine nearest_of_rank ?_
  rw [nearestRank_eq smallest, roundedRank_of_tiny small]

theorem two_pow_le_mul_pow_ten {digits power : Nat} (nonzero : digits ≠ 0)
    (large : 309 ≤ power) : 2 ^ 1024 ≤ digits * 10 ^ power := by
  obtain ⟨least, reached⟩ : ∃ least, least = 309 := ⟨_, rfl⟩
  calc 2 ^ 1024 ≤ 10 ^ least := by
        subst reached
        decide +kernel
    _ ≤ 10 ^ power := Nat.pow_le_pow_right (by decide) (by omega)
    _ ≤ digits * 10 ^ power := Nat.le_mul_of_pos_left _ (Nat.pos_of_ne_zero nonzero)

/-- The scales that are not expanded make no difference. -/
theorem ofDecimal_eq_nearest (negative : Bool) {digits : Nat} (nonzero : digits ≠ 0)
    (scale : Int) :
    ofDecimal negative digits scale = match scale with
      | .ofNat power => nearest negative (digits * Nat.pow 10 power) 1
      | .negSucc power => nearest negative digits (Nat.pow 10 (power + 1)) := by
  cases scale with
  | ofNat power =>
      simp only [ofDecimal, if_neg nonzero]
      split
      · rename_i huge
        exact (nearest_of_large (Nat.le_refl 1024) (two_pow_le_mul_pow_ten nonzero huge)).symm
      · rfl
  | negSucc power =>
      simp only [ofDecimal, if_neg nonzero]
      split
      · rename_i tiny
        exact (nearest_of_tiny tiny).symm
      · rfl

namespace Decimal

theorem nearestRank_tenfold (digits : Nat) (scale : Int) :
    nearestRank ⟨digits * 10, scale⟩ = nearestRank ⟨digits, scale + 1⟩ := by
  cases scale with
  | ofNat power =>
      have next : digits * 10 * 10 ^ power = digits * 10 ^ (power + 1) := by
        rw [Nat.pow_succ', Nat.mul_assoc]
      exact congrArg (Number.nearestRank · 1) next
  | negSucc power =>
      cases power with
      | zero =>
          have shifted := nearestRank_mul_left (by decide : 0 < 10) (digits * 1) 1
          have tens : 10 * (digits * 1) = digits * 10 := by omega
          rw [tens] at shifted
          exact shifted
      | succ power =>
          have shifted := nearestRank_mul_left (by decide : 0 < 10) digits (10 ^ (power + 1))
          rw [Nat.mul_comm 10 digits, ← Nat.pow_succ'] at shifted
          exact shifted

theorem nearestRank_zeros (digits : Nat) (scale : Int) (zeros : Nat) :
    nearestRank ⟨digits * 10 ^ zeros, scale⟩ = nearestRank ⟨digits, scale + zeros⟩ := by
  induction zeros generalizing scale with
  | zero => simp
  | succ zeros ih =>
      have moved : scale + 1 + (zeros : Int) = scale + ((zeros + 1 : Nat) : Int) := by omega
      rw [Nat.pow_succ, ← Nat.mul_assoc, nearestRank_tenfold, ih, moved]

theorem nearestRank_of_readsBack {rank : Nat} {decimal : Decimal}
    (read : decimal.readsBack rank = true) : decimal.nearestRank = rank :=
  eq_of_beq read

theorem nearestRank_zero (scale : Int) : nearestRank ⟨0, scale⟩ = 0 := by
  obtain ⟨unit, smallest⟩ : ∃ unit, unit = 1074 := ⟨_, rfl⟩
  cases scale with
  | ofNat power =>
      simp only [nearestRank, Nat.zero_mul]
      rw [nearestRank_eq smallest, Nat.zero_mul]
      exact roundedRank_of_tiny (by decide)
  | negSucc power =>
      simp only [nearestRank]
      rw [nearestRank_eq smallest, Nat.zero_mul]
      exact roundedRank_of_tiny (Nat.pow_pos (by decide))

end Decimal

theorem ofDecimal_of_rank (negative : Bool) {decimal : Decimal} {rank : Fin rankBound}
    (found : decimal.nearestRank = rank.val) :
    ofDecimal negative decimal.digits decimal.scale = .finite negative rank := by
  obtain ⟨digits, scale⟩ := decimal
  by_cases zero : digits = 0
  · subst zero
    have origin : rank = ⟨0, by decide⟩ :=
      Fin.ext (found.symm.trans (Decimal.nearestRank_zero scale))
    rw [origin]
    exact if_pos rfl
  · rw [ofDecimal_eq_nearest negative zero]
    cases scale with
    | ofNat power => exact nearest_of_rank found
    | negSucc power => exact nearest_of_rank found

theorem readsBack_of_chosen {rank : Nat} {low high decimal : Decimal} {lowWins : Bool}
    (chosen : (if low.readsBack rank && (!high.readsBack rank || lowWins) then some low
      else if high.readsBack rank then some high
      else none) = some decimal) : decimal.readsBack rank = true := by
  split at chosen
  · rename_i read
    cases chosen
    exact (Bool.and_eq_true_iff.mp read).1
  · split at chosen
    · rename_i read
      cases chosen
      exact read
    · cases chosen

theorem gridNeighbour?_readsBack {tie : Tie} {rank : Nat} {scale : Int} {decimal : Decimal}
    (found : gridNeighbour? tie rank scale = some decimal) : decimal.nearestRank = rank := by
  apply Decimal.nearestRank_of_readsBack
  cases scale with
  | ofNat power => exact readsBack_of_chosen found
  | negSucc power => exact readsBack_of_chosen found

theorem exactDecimal_readsBack (rank : Nat) : (exactDecimal rank).nearestRank = rank := by
  obtain ⟨unit, smallest⟩ : ∃ unit, unit = 1074 := ⟨_, rfl⟩
  have exact : units rank * 5 ^ unit * 2 ^ unit = units rank * 10 ^ unit := by
    rw [Nat.mul_assoc, ← Nat.mul_pow]
  have read : nearestRank (units rank * 5 ^ unit) (10 ^ unit) = rank := by
    rw [nearestRank_eq smallest, exact, roundedRank_units rank (Nat.pow_pos (by decide))]
  have scale : (-1074 : Int) = .negSucc (unit - 1) := by
    rw [smallest]
    rfl
  have power : unit - 1 + 1 = unit := by omega
  unfold exactDecimal
  rw [scale, ← smallest]
  simp only [Decimal.nearestRank, power]
  exact read

theorem shortestFrom_readsBack (tie : Tie) (rank : Nat) (position : Int) (counts : List Nat) :
    (shortestFrom tie rank position counts).nearestRank = rank := by
  induction counts with
  | nil => exact exactDecimal_readsBack rank
  | cons count counts ih =>
      simp only [shortestFrom]
      cases found : gridNeighbour? tie rank (position - count) with
      | none => exact ih
      | some decimal => exact gridNeighbour?_readsBack found

theorem nearestRank_dropZeros (fuel : Nat) (decimal : Decimal) :
    (dropZeros fuel decimal).nearestRank = decimal.nearestRank := by
  induction fuel generalizing decimal with
  | zero => rfl
  | succ fuel ih =>
      simp only [dropZeros]
      split
      · rename_i zero
        simp only [Bool.and_eq_true, decide_eq_true_eq] at zero
        rw [ih, ← Decimal.nearestRank_tenfold, Nat.div_mul_cancel (Nat.dvd_of_mod_eq_zero zero.1)]
      · rfl

theorem shortest_readsBack (tie : Tie) (rank : Nat) : (shortest tie rank).nearestRank = rank := by
  simp only [shortest]
  rw [nearestRank_dropZeros]
  exact shortestFrom_readsBack tie rank _ _

end VectorIcon.Number
