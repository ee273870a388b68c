/-!
Binary64 numbers. A finite magnitude is named by its rank, its place among all magnitudes in
ascending order, so that neighbours, order and rounding are facts about natural numbers. `units`
gives the exact size of a magnitude in units of 2⁻¹⁰⁷⁴, the smallest positive one.
-/

namespace VectorIcon

/-- The rank that 2¹⁰²⁴ would have; every smaller rank is a finite magnitude. -/
def Number.rankBound : Nat := 0x7ff0000000000000

inductive Number where
  | nan
  | infinite (negative : Bool)
  | finite (negative : Bool) (rank : Fin Number.rankBound)
  deriving DecidableEq

namespace Number

def zero : Number :=
  .finite false ⟨0, by decide⟩

def isFinite : Number → Bool
  | .finite _ _ => true
  | _ => false

/-- The magnitude of a rank: 52 fraction bits and, above them, the exponent. -/
def units (rank : Nat) : Nat :=
  if rank < Nat.pow 2 52 then rank
  else (Nat.pow 2 52 + rank % Nat.pow 2 52) * Nat.pow 2 (rank / Nat.pow 2 52 - 1)

def floorRank (size : Nat) : Nat :=
  let shift := size.log2 - 52
  shift * Nat.pow 2 52 + size / Nat.pow 2 shift

/-- The rank nearest to a fraction; a tie goes to the even rank. -/
def nearestRank (numerator denominator : Nat) : Nat :=
  let scaled := numerator * Nat.pow 2 1074
  let low := floorRank (scaled / denominator)
  let middle := (units low + units (low + 1)) * denominator
  if 2 * scaled < middle then low
  else if middle < 2 * scaled then low + 1
  else if low % 2 = 0 then low else low + 1

def nearest (negative : Bool) (numerator denominator : Nat) : Number :=
  let rank := nearestRank numerator denominator
  if bound : rank < rankBound then .finite negative ⟨rank, bound⟩ else .infinite negative

/-- The number nearest to `digits * 10 ^ scale`. A scale that settles the answer alone is not
expanded: `10 ^ 309` is out of range, and so is anything below half the smallest magnitude. -/
def ofDecimal (negative : Bool) (digits : Nat) (scale : Int) : Number :=
  if digits = 0 then .finite negative ⟨0, by decide⟩
  else match scale with
    | .ofNat power =>
        if 309 ≤ power then .infinite negative else nearest negative (digits * Nat.pow 10 power) 1
    | .negSucc power =>
        if digits.log2 + 1077 < 3 * (power + 1) then .finite negative ⟨0, by decide⟩
        else nearest negative digits (Nat.pow 10 (power + 1))

def toBits : Number → Nat
  | .nan => 0x7ff8000000000000
  | .infinite negative => rankBound + if negative then Nat.pow 2 63 else 0
  | .finite negative rank => rank.val + if negative then Nat.pow 2 63 else 0

def ofBits (bits : Nat) : Number :=
  let negative := bits / Nat.pow 2 63 % 2 == 1
  let rank := bits % Nat.pow 2 63
  if bound : rank < rankBound then .finite negative ⟨rank, bound⟩
  else if rank = rankBound then .infinite negative
  else .nan

end Number

end VectorIcon
