import VectorIcon.Number.Binary64

/-!
Decimal literals: an optional sign, digits with an optional point, an optional exponent. `scan`
takes the longest literal at the start of a text and keeps its parts, so that `Literal.text` gives
back what was read.
-/

namespace VectorIcon.Number

def isSign (c : Char) : Bool :=
  c = '+' || c = '-'

def isExponentMark (c : Char) : Bool :=
  c = 'e' || c = 'E'

structure Exponent where
  mark : Char
  sign : List Char
  digits : List Char

structure Literal where
  sign : List Char
  whole : List Char
  /-- The digits behind the point, when there is a point. -/
  fraction : Option (List Char)
  exponent : Option Exponent

def Exponent.text (exponent : Exponent) : List Char :=
  exponent.mark :: (exponent.sign ++ exponent.digits)

def Literal.text (literal : Literal) : List Char :=
  literal.sign ++ literal.whole ++
    (match literal.fraction with
      | none => []
      | some digits => '.' :: digits) ++
    (match literal.exponent with
      | none => []
      | some exponent => exponent.text)

def ofDigits (base : Nat) (value : Char → Nat) (digits : List Char) : Nat :=
  digits.foldl (fun total digit => total * base + value digit) 0

def digitValue (c : Char) : Nat :=
  c.toNat - '0'.toNat

def isNegative (sign : List Char) : Bool :=
  sign == ['-']

def Exponent.value (exponent : Exponent) : Int :=
  let size : Int := ofDigits 10 digitValue exponent.digits
  if isNegative exponent.sign then -size else size

def Literal.value (literal : Literal) : Number :=
  let fraction := literal.fraction.getD []
  let power := (literal.exponent.map Exponent.value).getD 0
  ofDecimal (isNegative literal.sign) (ofDigits 10 digitValue (literal.whole ++ fraction))
    (power - fraction.length)

def scanSign : List Char → List Char × List Char
  | [] => ([], [])
  | c :: rest => if isSign c then ([c], rest) else ([], c :: rest)

/-- An exponent mark counts only with a digit behind it. -/
def scanExponent : List Char → Option Exponent × List Char
  | [] => (none, [])
  | mark :: rest =>
      let (sign, body) := scanSign rest
      let digits := body.takeWhile Char.isDigit
      if isExponentMark mark && !digits.isEmpty then
        (some ⟨mark, sign, digits⟩, body.dropWhile Char.isDigit)
      else (none, mark :: rest)

/-- A point counts only with a digit on one of its sides. -/
def scanDigits (text : List Char) : Option ((List Char × Option (List Char)) × List Char) :=
  let whole := text.takeWhile Char.isDigit
  match text.dropWhile Char.isDigit with
  | '.' :: rest =>
      let fraction := rest.takeWhile Char.isDigit
      if whole.isEmpty && fraction.isEmpty then none
      else some ((whole, some fraction), rest.dropWhile Char.isDigit)
  | rest => if whole.isEmpty then none else some ((whole, none), rest)

def scan (text : List Char) : Option (Literal × List Char) :=
  let (sign, body) := scanSign text
  (scanDigits body).map fun ((whole, fraction), afterDigits) =>
    let (exponent, rest) := scanExponent afterDigits
    (⟨sign, whole, fraction, exponent⟩, rest)

end VectorIcon.Number
