import VectorIcon.Number.Literal
import VectorIcon.Number.Shortest
import VectorIcon.Text.Blank

/-!
Numbers as text. Printing gives the shortest digits, positional from 10⁻⁶ up to 10²¹ and with an
exponent beyond. Of the two readers `readLeading` takes the number at the start of a text and
`readWhole` wants the whole text to be one.
-/

namespace VectorIcon.Number

def infinityWord : List Char := "Infinity".toList

/-- Digits with the point before the digit at `position`, padded with zeros. -/
def positional (digits : List Char) (position : Int) : List Char :=
  match position with
  | .negSucc before => '0' :: '.' :: (List.replicate (before + 1) '0' ++ digits)
  | .ofNat 0 => '0' :: '.' :: digits
  | .ofNat before =>
      if digits.length ≤ before then digits ++ List.replicate (before - digits.length) '0'
      else digits.take before ++ '.' :: digits.drop before

def scientific (digits : List Char) (exponent : Int) : List Char :=
  let fraction := match digits.drop 1 with
    | [] => []
    | more => '.' :: more
  let sign := if exponent < 0 then '-' else '+'
  digits.take 1 ++ fraction ++ 'e' :: sign :: Nat.toDigits 10 exponent.natAbs

def magnitudeText (rank : Nat) : List Char :=
  if rank = 0 then ['0']
  else
    let decimal := shortest .greater rank
    let digits := Nat.toDigits 10 decimal.digits
    let position := digits.length + decimal.scale
    if -5 ≤ position && position ≤ 21 then positional digits position
    else scientific digits (position - 1)

/-- The sign of a zero is not printed. -/
def text : Number → List Char
  | .nan => "NaN".toList
  | .infinite negative => (if negative then ['-'] else []) ++ infinityWord
  | .finite negative rank =>
      (if negative && rank.val ≠ 0 then ['-'] else []) ++ magnitudeText rank.val

def scanInfinity (text : List Char) : Option (Number × List Char) :=
  let (sign, body) := scanSign text
  (Text.dropLeading infinityWord body).map fun rest => (.infinite (isNegative sign), rest)

def readLeading (text : List Char) : Number :=
  let body := Text.trimStart text
  match scanInfinity body with
  | some (value, _) => value
  | none =>
      match scan body with
      | some (literal, _) => literal.value
      | none => .nan

def radixOfMark (mark : Char) : Option Nat :=
  if mark = 'x' || mark = 'X' then some 16
  else if mark = 'o' || mark = 'O' then some 8
  else if mark = 'b' || mark = 'B' then some 2
  else none

def scanRadix : List Char → Option (Nat × List Char)
  | '0' :: mark :: digits => (radixOfMark mark).map fun radix => (radix, digits)
  | _ => none

def radixDigit? (radix : Nat) (c : Char) : Option Nat :=
  let value :=
    if c.isDigit then c.toNat - '0'.toNat
    else if 'a' ≤ c && c ≤ 'z' then c.toNat - 'a'.toNat + 10
    else if 'A' ≤ c && c ≤ 'Z' then c.toNat - 'A'.toNat + 10
    else radix
  if value < radix then some value else none

def readRadix (radix : Nat) (text : List Char) : Option Nat :=
  let digits := match text with
    | '+' :: rest => rest
    | _ => text
  if digits.isEmpty then none
  else (digits.mapM (radixDigit? radix)).map
    (·.foldl (fun total digit => total * radix + digit) 0)

/-- A radix integer has to fit a 64-bit word. -/
def ofWord? (value : Option Nat) : Number :=
  match value with
  | some n => if n < Nat.pow 2 64 then nearest false n 1 else .nan
  | none => .nan

/-- The number that the whole text is, blanks around it aside. Blank text is zero, and anything
that is not entirely a number is NaN. -/
def readWhole (text : List Char) : Number :=
  let body := Text.trim text
  if body.isEmpty then zero
  else match scanRadix body with
    | some (radix, digits) => ofWord? (readRadix radix digits)
    | none =>
        match scanInfinity body with
        | some (value, rest) => if rest.isEmpty then value else .nan
        | none =>
            match scan body with
            | some (literal, []) => literal.value
            | _ => .nan

end VectorIcon.Number
