import VectorIcon.Number.Binary64

/-!
Scaled reading of decimals: the leading digits that fit a 64-bit word, times or over a power of
ten. The word, the power and the result are rounded one by one, so the result is near the decimal
but need not be the nearest number.
-/

namespace VectorIcon.Number

/-- The longest run of leading digits that a word holds, and how many digits follow it. -/
def leadingWord (digits : Nat) : Nat × Nat :=
  if digits < Nat.pow 2 64 then (digits, 0)
  else
    let (word, dropped) := leadingWord (digits / 10)
    (word, dropped + 1)
decreasing_by
  have bound : 0 < Nat.pow 2 64 := by decide
  omega

def greatestPower : Nat := 308

def powerRank (power : Nat) : Nat :=
  nearestRank (Nat.pow 10 power) 1

def quotientRank (rank divisor : Nat) : Nat :=
  nearestRank (units rank) (units divisor)

def productRank (rank factor : Nat) : Nat :=
  nearestRank (units rank * units factor) (Nat.pow 2 1074 * Nat.pow 2 1074)

def scaleDown (rank power : Nat) : Nat :=
  if power ≤ greatestPower then quotientRank rank (powerRank power)
  else if rank = 0 then 0
  else scaleDown (quotientRank rank (powerRank greatestPower)) (power - greatestPower)
termination_by power
decreasing_by simp only [greatestPower] at *; omega

/-- A magnitude times a power of ten; out of range unless it is zero or the power is finite. -/
def scaleUp (rank power : Nat) : Nat :=
  if power ≤ greatestPower then productRank rank (powerRank power)
  else if rank = 0 then 0
  else rankBound

def scaledRank (digits : Nat) (scale : Int) : Nat :=
  let (word, dropped) := leadingWord digits
  match scale + dropped with
  | .ofNat power => scaleUp (nearestRank word 1) power
  | .negSucc power => scaleDown (nearestRank word 1) (power + 1)

def ofScaled (negative : Bool) (digits : Nat) (scale : Int) : Number :=
  let rank := scaledRank digits scale
  if bound : rank < rankBound then .finite negative ⟨rank, bound⟩ else .infinite negative

end VectorIcon.Number
