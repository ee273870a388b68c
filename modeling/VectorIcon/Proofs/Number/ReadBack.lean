import VectorIcon.Proofs.Number.Decimal
import VectorIcon.Proofs.Number.Printed
import VectorIcon.Proofs.Number.Written

/-!
Numbers come back from their text. What is printed for a finite number is a literal, and its
value is that number again.
-/

namespace VectorIcon.Number

def Literal.decimal (literal : Literal) : Decimal :=
  ⟨ofDigits 10 digitValue (literal.whole ++ literal.fraction.getD []),
    (literal.exponent.map Exponent.value).getD 0 - (literal.fraction.getD []).length⟩

theorem Literal.value_eq (literal : Literal) :
    literal.value =
      ofDecimal (isNegative literal.sign) literal.decimal.digits literal.decimal.scale :=
  rfl

def positionalLiteral (digits : List Char) (position : Int) : Literal :=
  match position with
  | .negSucc before => ⟨[], ['0'], some (List.replicate (before + 1) '0' ++ digits), none⟩
  | .ofNat 0 => ⟨[], ['0'], some digits, none⟩
  | .ofNat before =>
      if digits.length ≤ before then
        ⟨[], digits ++ List.replicate (before - digits.length) '0', none, none⟩
      else ⟨[], digits.take before, some (digits.drop before), none⟩

def scientificLiteral (digits : List Char) (exponent : Int) : Literal :=
  ⟨[], digits.take 1, if (digits.drop 1).isEmpty then none else some (digits.drop 1),
    some ⟨'e', [if exponent < 0 then '-' else '+'], Nat.toDigits 10 exponent.natAbs⟩⟩

theorem ofDigits_eq (digits : List Char) :
    ofDigits 10 digitValue digits = Nat.ofDigitChars 10 digits 0 := by
  rw [ofDigits, Nat.ofDigitChars_eq_foldl]
  simp only [digitValue, Nat.mul_comm]

theorem ofDigits_toDigits (n : Nat) : ofDigits 10 digitValue (Nat.toDigits 10 n) = n := by
  rw [ofDigits_eq, Nat.ofDigitChars_ten_toDigits]

theorem ofDigits_append_zeros (digits : List Char) (count : Nat) :
    ofDigits 10 digitValue (digits ++ List.replicate count '0') =
      ofDigits 10 digitValue digits * 10 ^ count := by
  simp only [ofDigits_eq, Nat.ofDigitChars_append, Nat.ofDigitChars_replicate_zero, Nat.mul_comm]

theorem ofDigits_zeros_append (count : Nat) (digits : List Char) :
    ofDigits 10 digitValue (List.replicate count '0' ++ digits) =
      ofDigits 10 digitValue digits := by
  simp only [ofDigits_eq, Nat.ofDigitChars_append, Nat.ofDigitChars_replicate_zero, Nat.mul_zero]

theorem all_isDigit_toDigits (n : Nat) : (Nat.toDigits 10 n).all Char.isDigit = true :=
  List.all_eq_true.mpr fun _ member => Nat.isDigit_of_mem_toDigits (by decide) (by decide) member

section

variable {digits : List Char}

theorem text_positionalLiteral (position : Int) :
    (positionalLiteral digits position).text = positional digits position := by
  cases position with
  | negSucc before => simp [positionalLiteral, positional, Literal.text]
  | ofNat before =>
      cases before with
      | zero =>
          simp only [positionalLiteral, positional, Literal.text]
          exact List.append_nil _
      | succ before =>
          by_cases fits : digits.length ≤ before + 1
          · simp only [positionalLiteral, positional, if_pos fits, Literal.text, List.nil_append,
              List.append_nil]
          · simp only [positionalLiteral, positional, if_neg fits, Literal.text, List.nil_append,
              List.append_nil]

theorem text_scientificLiteral (exponent : Int) :
    (scientificLiteral digits exponent).text = scientific digits exponent := by
  unfold scientificLiteral scientific
  cases digits.drop 1 with
  | nil => simp [Literal.text, Exponent.text]
  | cons c more => simp [Literal.text, Exponent.text]

theorem isWritten_positionalLiteral (numeric : digits.all Char.isDigit = true)
    (nonempty : digits ≠ []) (position : Int) : (positionalLiteral digits position).IsWritten := by
  have zero : ['0'].all Char.isDigit = true := by decide
  have zeros := all_zeros (by decide : Char.isDigit '0' = true)
  cases position with
  | negSucc before =>
      refine ⟨.inl rfl, zero, ?_, by simp [positionalLiteral], by simp [positionalLiteral]⟩
      simp only [positionalLiteral, Option.getD_some, List.all_append, numeric, zeros,
        Bool.and_self]
  | ofNat before =>
      cases before with
      | zero =>
          exact ⟨.inl rfl, zero, numeric, by simp [positionalLiteral], by simp [positionalLiteral]⟩
      | succ before =>
          by_cases fits : digits.length ≤ before + 1
          · simp only [positionalLiteral, if_pos fits]
            refine ⟨.inl rfl, ?_, rfl, by simp [nonempty], by simp⟩
            simp only [List.all_append, numeric, zeros, Bool.and_self]
          · simp only [positionalLiteral, if_neg fits]
            refine ⟨.inl rfl, all_take numeric _, all_drop numeric _, ?_, by simp⟩
            simpa using nonempty

theorem isWritten_scientificLiteral (numeric : digits.all Char.isDigit = true)
    (nonempty : digits ≠ []) (exponent : Int) : (scientificLiteral digits exponent).IsWritten := by
  have more := all_drop numeric 1
  refine ⟨.inl rfl, all_take numeric 1, ?_, ?_, ?_⟩
  · unfold scientificLiteral
    split
    · rfl
    · exact more
  · simp [scientificLiteral, nonempty]
  · rintro given ⟨⟩
    refine ⟨rfl, .inr ⟨_, ?_, rfl⟩, all_isDigit_toDigits _, Nat.toDigits_ne_nil⟩
    split <;> decide

theorem nearestRank_positionalLiteral {position scale : Int}
    (placed : position = digits.length + scale) :
    (positionalLiteral digits position).decimal.nearestRank =
      Decimal.nearestRank ⟨ofDigits 10 digitValue digits, scale⟩ := by
  cases position with
  | negSucc before =>
      have value : ofDigits 10 digitValue (['0'] ++ (List.replicate (before + 1) '0' ++ digits)) =
          ofDigits 10 digitValue digits := ofDigits_zeros_append (before + 2) digits
      have depth : 0 - ((before + 1 + digits.length : Nat) : Int) = scale := by omega
      simp only [positionalLiteral, Literal.decimal, Option.getD_some, Option.map_none,
        Option.getD_none, List.length_append, List.length_replicate, value, depth]
  | ofNat before =>
      cases before with
      | zero =>
          have value : ofDigits 10 digitValue (['0'] ++ digits) = ofDigits 10 digitValue digits :=
            ofDigits_zeros_append 1 digits
          have origin : (0 : Int) = digits.length + scale := placed
          have depth : 0 - (digits.length : Int) = scale := by omega
          simp only [positionalLiteral, Literal.decimal, Option.getD_some, Option.map_none,
            Option.getD_none, value, depth]
      | succ before =>
          have point : ((before + 1 : Nat) : Int) = digits.length + scale := placed
          by_cases fits : digits.length ≤ before + 1
          · have height : scale = 0 + ((before + 1 - digits.length : Nat) : Int) := by omega
            simp only [positionalLiteral, if_pos fits, Literal.decimal, Option.getD_none,
              Option.map_none, List.append_nil, List.length_nil, ofDigits_append_zeros]
            rw [height]
            exact Decimal.nearestRank_zeros _ _ _
          · have depth : 0 - ((digits.length - (before + 1) : Nat) : Int) = scale := by omega
            simp only [positionalLiteral, if_neg fits, Literal.decimal, Option.getD_some,
              Option.map_none, Option.getD_none, List.take_append_drop, List.length_drop, depth]

theorem value_exponent (exponent : Int) :
    Exponent.value ⟨'e', [if exponent < 0 then '-' else '+'], Nat.toDigits 10 exponent.natAbs⟩ =
      exponent := by
  simp only [Exponent.value, ofDigits_toDigits]
  by_cases negative : exponent < 0
  · have sign : isNegative ['-'] = true := rfl
    simp only [if_pos negative, sign, if_true]
    omega
  · have sign : isNegative ['+'] = false := rfl
    simp only [if_neg negative, sign, Bool.false_eq_true, if_false]
    omega

theorem decimal_scientificLiteral {exponent scale : Int} (nonempty : digits ≠ [])
    (placed : exponent = digits.length + scale - 1) :
    (scientificLiteral digits exponent).decimal = ⟨ofDigits 10 digitValue digits, scale⟩ := by
  have fraction : (if (digits.drop 1).isEmpty then none else some (digits.drop 1)).getD [] =
      digits.drop 1 := by
    cases digits.drop 1 <;> rfl
  have positive := List.length_pos_iff.mpr nonempty
  have depth : exponent - ((digits.length - 1 : Nat) : Int) = scale := by omega
  simp only [scientificLiteral, Literal.decimal, fraction, List.take_append_drop, Option.map_some,
    Option.getD_some, value_exponent, List.length_drop, depth]

end

theorem Literal.IsWritten.withSign {literal : Literal} (written : literal.IsWritten)
    {sign : List Char} (signed : IsSignText sign) : { literal with sign := sign }.IsWritten :=
  ⟨signed, written.whole, written.fraction, written.nonempty, written.exponent⟩

def Decimal.literal (decimal : Decimal) : Literal :=
  let digits := Nat.toDigits 10 decimal.digits
  let position := digits.length + decimal.scale
  if -5 ≤ position && position ≤ 21 then positionalLiteral digits position
  else scientificLiteral digits (position - 1)

theorem Decimal.isWritten_literal (decimal : Decimal) : decimal.literal.IsWritten := by
  simp only [literal]
  split
  · exact isWritten_positionalLiteral (all_isDigit_toDigits _) Nat.toDigits_ne_nil _
  · exact isWritten_scientificLiteral (all_isDigit_toDigits _) Nat.toDigits_ne_nil _

theorem Decimal.nearestRank_literal (decimal : Decimal) :
    decimal.literal.decimal.nearestRank = decimal.nearestRank := by
  simp only [literal]
  split
  · rw [nearestRank_positionalLiteral rfl, ofDigits_toDigits]
  · rw [decimal_scientificLiteral Nat.toDigits_ne_nil rfl, ofDigits_toDigits]

theorem Decimal.sign_literal (decimal : Decimal) : decimal.literal.sign = [] := by
  simp only [literal, positionalLiteral]
  repeat' split
  all_goals rfl

def magnitudeLiteral (rank : Nat) : Literal :=
  if rank = 0 then ⟨[], ['0'], none, none⟩ else (shortest .greater rank).literal

theorem text_magnitudeLiteral (rank : Nat) : (magnitudeLiteral rank).text = magnitudeText rank := by
  simp only [magnitudeLiteral, magnitudeText, Decimal.literal]
  split
  · rfl
  · split
    · exact text_positionalLiteral _
    · exact text_scientificLiteral _

theorem isWritten_magnitudeLiteral (rank : Nat) : (magnitudeLiteral rank).IsWritten := by
  rw [magnitudeLiteral]
  split
  · exact ⟨.inl rfl, by decide, rfl, by simp, by simp⟩
  · exact Decimal.isWritten_literal _

theorem nearestRank_magnitudeLiteral (rank : Nat) :
    (magnitudeLiteral rank).decimal.nearestRank = rank := by
  rw [magnitudeLiteral]
  split
  · rename_i zero
    rw [zero]
    exact Decimal.nearestRank_zero 0
  · rw [Decimal.nearestRank_literal]
    exact shortest_readsBack .greater rank

theorem sign_magnitudeLiteral (rank : Nat) : (magnitudeLiteral rank).sign = [] := by
  rw [magnitudeLiteral]
  split
  · rfl
  · exact Decimal.sign_literal _

def finiteLiteral (negative : Bool) (rank : Nat) : Literal :=
  { magnitudeLiteral rank with sign := if negative && rank ≠ 0 then ['-'] else [] }

theorem text_finiteLiteral (negative : Bool) (rank : Fin rankBound) :
    (finiteLiteral negative rank).text = text (.finite negative rank) := by
  have body : (magnitudeLiteral rank).body = magnitudeText rank := by
    rw [← text_magnitudeLiteral, Literal.text_eq, sign_magnitudeLiteral, List.nil_append]
  rw [Literal.text_eq, text, ← body]
  rfl

theorem isWritten_finiteLiteral (negative : Bool) (rank : Nat) :
    (finiteLiteral negative rank).IsWritten := by
  refine (isWritten_magnitudeLiteral rank).withSign ?_
  split
  · exact .inr ⟨'-', rfl, rfl⟩
  · exact .inl rfl

/-- A number as its text shows it: either zero is the zero without a sign. -/
def withoutZeroSign : Number → Number
  | .finite negative rank => if rank.val = 0 then zero else .finite negative rank
  | number => number

theorem withoutZeroSign_finite (negative : Bool) (rank : Fin rankBound) :
    withoutZeroSign (.finite negative rank) = .finite (negative && rank.val ≠ 0) rank := by
  by_cases origin : rank.val = 0
  · have same : rank = ⟨0, by decide⟩ := Fin.ext origin
    simp [withoutZeroSign, same, zero]
  · simp [withoutZeroSign, origin]

theorem value_finiteLiteral (negative : Bool) (rank : Fin rankBound) :
    (finiteLiteral negative rank).value = withoutZeroSign (.finite negative rank) := by
  have sign : isNegative (finiteLiteral negative rank).sign = (negative && rank.val ≠ 0) := by
    simp only [finiteLiteral]
    split <;> simp_all [isNegative]
  have found : (finiteLiteral negative rank).decimal.nearestRank = rank.val :=
    nearestRank_magnitudeLiteral rank
  rw [Literal.value_eq, sign, withoutZeroSign_finite]
  exact ofDecimal_of_rank _ found

theorem text_withoutZeroSign (number : Number) : number.withoutZeroSign.text = number.text := by
  cases number with
  | finite negative rank => simp [withoutZeroSign_finite, text]
  | _ => rfl

theorem readWhole_text (number : Number) : readWhole number.text = number.withoutZeroSign := by
  cases number with
  | nan => decide
  | infinite negative => cases negative <;> decide
  | finite negative rank =>
      rw [← text_finiteLiteral, readWhole_written (isWritten_finiteLiteral negative rank),
        value_finiteLiteral]

theorem readLeading_text (number : Number) : readLeading number.text = number.withoutZeroSign := by
  cases number with
  | nan => decide
  | infinite negative => cases negative <;> decide
  | finite negative rank =>
      have read := readLeading_written (isWritten_finiteLiteral negative rank)
        (Text.stops_nil continues)
      rw [← text_finiteLiteral, ← value_finiteLiteral, ← read, List.append_nil]

end VectorIcon.Number
