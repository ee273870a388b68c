import VectorIcon.Number.Binary64

/-!
Shortest decimals. For 1, 2, … 17 digits the two neighbours of a magnitude on that decimal grid
are tried, and the first grid with a neighbour that reads back gives the digits. The exact decimal
expansion stands behind the search, so the result always reads back.
-/

namespace VectorIcon.Number

structure Decimal where
  digits : Nat
  scale : Int
  deriving DecidableEq

def Decimal.nearestRank (decimal : Decimal) : Nat :=
  match decimal.scale with
  | .ofNat power => Number.nearestRank (decimal.digits * Nat.pow 10 power) 1
  | .negSucc power => Number.nearestRank decimal.digits (Nat.pow 10 (power + 1))

def Decimal.readsBack (rank : Nat) (decimal : Decimal) : Bool :=
  decimal.nearestRank == rank

def decimalLength (n : Nat) : Nat :=
  if n = 0 then 0 else (Nat.toDigits 10 n).length

def pointPosition (size : Nat) : Int :=
  if Nat.pow 2 1074 ≤ size then decimalLength (size / Nat.pow 2 1074)
  else 1 - (decimalLength ((Nat.pow 2 1074 + size - 1) / size - 1) : Int)

inductive Tie where
  | greater
  | even
  deriving DecidableEq

def Tie.takesLow (tie : Tie) (digits : Nat) : Bool :=
  tie = .even && digits % 2 = 0

/-- The neighbour of a magnitude on the grid of multiples of `10 ^ scale` that reads back; of two
the nearer one. -/
def gridNeighbour? (tie : Tie) (rank : Nat) (scale : Int) : Option Decimal :=
  let size := units rank
  let (top, bottom) := match scale with
    | .ofNat power => (size, Nat.pow 2 1074 * Nat.pow 10 power)
    | .negSucc power => (size * Nat.pow 10 (power + 1), Nat.pow 2 1074)
  let low : Decimal := ⟨top / bottom, scale⟩
  let high : Decimal := ⟨top / bottom + 1, scale⟩
  let middle := (low.digits + high.digits) * bottom
  let lowWins := 2 * top < middle || (2 * top = middle && tie.takesLow low.digits)
  if low.readsBack rank && (!high.readsBack rank || lowWins) then some low
  else if high.readsBack rank then some high
  else none

def exactDecimal (rank : Nat) : Decimal :=
  ⟨units rank * Nat.pow 5 1074, -1074⟩

def shortestFrom (tie : Tie) (rank : Nat) (position : Int) : List Nat → Decimal
  | [] => exactDecimal rank
  | count :: counts =>
      (gridNeighbour? tie rank (position - count)).getD (shortestFrom tie rank position counts)

def dropZeros : Nat → Decimal → Decimal
  | 0, decimal => decimal
  | fuel + 1, decimal =>
      if decimal.digits % 10 = 0 && decimal.digits ≠ 0 then
        dropZeros fuel ⟨decimal.digits / 10, decimal.scale + 1⟩
      else decimal

/-- The fewest digits that read back as a positive rank. -/
def shortest (tie : Tie) (rank : Nat) : Decimal :=
  let decimal := shortestFrom tie rank (pointPosition (units rank)) (List.range' 1 17)
  dropZeros (decimalLength decimal.digits) decimal

end VectorIcon.Number
