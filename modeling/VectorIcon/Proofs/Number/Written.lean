import VectorIcon.Number.Text
import VectorIcon.Proofs.Text.Ascii
import VectorIcon.Proofs.Text.Runs
import VectorIcon.Proofs.Text.Trimmed

/-!
Written literals. The scanner takes a literal as it is written, up to a text that the literal
cannot go on with, and no reader mistakes it for anything else.
-/

namespace VectorIcon.Number

def IsSignText (sign : List Char) : Prop :=
  sign = [] ∨ ∃ c, isSign c = true ∧ sign = [c]

structure Exponent.IsWritten (exponent : Exponent) : Prop where
  mark : isExponentMark exponent.mark = true
  sign : IsSignText exponent.sign
  digits : exponent.digits.all Char.isDigit = true
  nonempty : exponent.digits ≠ []

structure Literal.IsWritten (literal : Literal) : Prop where
  sign : IsSignText literal.sign
  whole : literal.whole.all Char.isDigit = true
  fraction : (literal.fraction.getD []).all Char.isDigit = true
  nonempty : literal.whole ++ literal.fraction.getD [] ≠ []
  exponent : ∀ exponent, literal.exponent = some exponent → exponent.IsWritten

def fractionText : Option (List Char) → List Char
  | none => []
  | some digits => '.' :: digits

def exponentText : Option Exponent → List Char
  | none => []
  | some exponent => exponent.text

def Literal.body (literal : Literal) : List Char :=
  literal.whole ++ (fractionText literal.fraction ++ exponentText literal.exponent)

theorem Literal.text_eq (literal : Literal) : literal.text = literal.sign ++ literal.body := by
  obtain ⟨sign, whole, fraction, exponent⟩ := literal
  simp only [text, body, List.append_assoc]
  cases fraction <;> cases exponent <;> rfl

def continues (c : Char) : Bool :=
  c.isDigit || c == '.' || isExponentMark c

theorem stops_of_imp {accept other : Char → Bool} {text : List Char}
    (stop : Text.stops accept text = true) (every : ∀ c, other c = true → accept c = true) :
    Text.stops other text = true := by
  cases text with
  | nil => rfl
  | cons c rest =>
      simp only [Text.stops_cons, Bool.not_eq_true'] at stop ⊢
      exact Bool.eq_false_iff.mpr fun accepted => Bool.eq_false_iff.mp stop (every c accepted)

theorem scanSign_written {sign rest : List Char} (written : IsSignText sign)
    (stop : Text.stops isSign rest = true) : scanSign (sign ++ rest) = (sign, rest) := by
  rcases written with rfl | ⟨c, accepted, rfl⟩
  · cases rest with
    | nil => rfl
    | cons c rest =>
        have refused : isSign c = false := by simpa using stop
        simp [scanSign, refused]
  · simp [scanSign, accepted]

theorem isSign_of_isDigit {c : Char} (digit : c.isDigit = true) : isSign c = false :=
  Text.forall_ascii (fun c => c.isDigit = true → isSign c = false) (by decide)
    (Text.ascii_of_isDigit digit) digit

theorem exponentMark_cases {c : Char} (mark : isExponentMark c = true) : c = 'e' ∨ c = 'E' := by
  simpa [isExponentMark] using mark

theorem scanExponent_written {exponent : Exponent} (written : exponent.IsWritten)
    {rest : List Char} (ended : Text.stops Char.isDigit rest = true) :
    scanExponent (exponent.text ++ rest) = (some exponent, rest) := by
  obtain ⟨mark, sign, digits⟩ := exponent
  obtain ⟨marked, signed, numeric, nonempty⟩ := written
  have unsigned : Text.stops isSign (digits ++ rest) = true :=
    Text.stops_append nonempty numeric (fun _ => isSign_of_isDigit) rest
  have some : digits.isEmpty = false := by simpa using nonempty
  simp only [Exponent.text, List.cons_append, List.append_assoc, scanExponent,
    scanSign_written signed unsigned, Text.takeWhile_run numeric ended,
    Text.dropWhile_run numeric ended]
  simp [marked, some]

theorem scanExponent_ended {rest : List Char} (ended : Text.stops isExponentMark rest = true) :
    scanExponent rest = (none, rest) := by
  cases rest with
  | nil => rfl
  | cons c rest =>
      have refused : isExponentMark c = false := by simpa using ended
      simp [scanExponent, refused]

theorem scanDigits_point {whole digits rest : List Char}
    (wholeDigits : whole.all Char.isDigit = true) (fractionDigits : digits.all Char.isDigit = true)
    (nonempty : whole ++ digits ≠ []) (ended : Text.stops Char.isDigit rest = true) :
    scanDigits (whole ++ '.' :: (digits ++ rest)) = some ((whole, some digits), rest) := by
  have point : Text.stops Char.isDigit ('.' :: (digits ++ rest)) = true := rfl
  have present : (whole.isEmpty && digits.isEmpty) = false := by
    cases whole <;> simp_all
  simp only [scanDigits, Text.takeWhile_run wholeDigits point, Text.dropWhile_run wholeDigits point,
    Text.takeWhile_run fractionDigits ended, Text.dropWhile_run fractionDigits ended]
  simp [present]

theorem scanDigits_written {whole : List Char} {fraction : Option (List Char)} {rest : List Char}
    (wholeDigits : whole.all Char.isDigit = true)
    (fractionDigits : (fraction.getD []).all Char.isDigit = true)
    (nonempty : whole ++ fraction.getD [] ≠ [])
    (ended : Text.stops (fun c => c.isDigit || c == '.') rest = true) :
    scanDigits (whole ++ (fractionText fraction ++ rest)) = some ((whole, fraction), rest) := by
  have digitless : Text.stops Char.isDigit rest = true :=
    stops_of_imp ended fun c digit => by rw [digit, Bool.true_or]
  cases fraction with
  | none =>
      have present : whole.isEmpty = false := by simpa using nonempty
      simp only [scanDigits, fractionText, List.nil_append,
        Text.takeWhile_run wholeDigits digitless, Text.dropWhile_run wholeDigits digitless]
      split
      · simp at ended
      · simp [present]
  | some digits => exact scanDigits_point wholeDigits fractionDigits nonempty digitless

theorem stops_body {literal : Literal} (written : literal.IsWritten) {apart : Char → Bool}
    (digit : ∀ c, c.isDigit = true → apart c = false) (point : apart '.' = false)
    (rest : List Char) : Text.stops apart (literal.body ++ rest) = true := by
  obtain ⟨sign, whole, fraction, exponent⟩ := literal
  cases whole with
  | cons c whole =>
      have first : c.isDigit = true := by
        have every := written.whole
        simp only [List.all_cons, Bool.and_eq_true] at every
        exact every.1
      simp [Literal.body, digit c first]
  | nil =>
      cases fraction with
      | none => exact absurd rfl written.nonempty
      | some digits => simp [Literal.body, fractionText, point]

theorem scan_written {literal : Literal} (written : literal.IsWritten) {rest : List Char}
    (ended : Text.stops continues rest = true) :
    scan (literal.text ++ rest) = some (literal, rest) := by
  have unsigned : Text.stops isSign (literal.body ++ rest) = true :=
    stops_body written (fun _ => isSign_of_isDigit) (by decide) rest
  have digits : Text.stops Char.isDigit rest = true :=
    stops_of_imp ended fun c digit => by simp [continues, digit]
  have afterDigits : Text.stops (fun c => c.isDigit || c == '.')
      (exponentText literal.exponent ++ rest) = true := by
    cases given : literal.exponent with
    | none => exact stops_of_imp ended fun c accepted => by simp [continues, accepted]
    | some exponent =>
        rcases exponentMark_cases (written.exponent exponent given).mark with mark | mark <;>
          simp [exponentText, Exponent.text, mark]
  have exponent : scanExponent (exponentText literal.exponent ++ rest) =
      (literal.exponent, rest) := by
    cases given : literal.exponent with
    | none => exact scanExponent_ended (stops_of_imp ended fun c mark => by simp [continues, mark])
    | some exponent => exact scanExponent_written (written.exponent exponent given) digits
  have body : literal.body ++ rest = literal.whole ++
      (fractionText literal.fraction ++ (exponentText literal.exponent ++ rest)) := by
    simp only [Literal.body, List.append_assoc]
  rw [Literal.text_eq, List.append_assoc]
  simp only [scan, scanSign_written written.sign unsigned]
  rw [body, scanDigits_written written.whole written.fraction written.nonempty afterDigits]
  simp only [Option.map_some, exponent]

def isLiteralChar (c : Char) : Bool :=
  continues c || isSign c

theorem ascii_of_isLiteralChar {c : Char} (accepted : isLiteralChar c = true) : c.toNat < 128 := by
  simp only [isLiteralChar, continues, isSign, isExponentMark, Bool.or_eq_true, beq_iff_eq,
    decide_eq_true_eq] at accepted
  rcases accepted with ((digit | rfl) | rfl | rfl) | rfl | rfl
  · exact Text.ascii_of_isDigit digit
  all_goals decide

theorem isBlank_of_isLiteralChar {c : Char} (accepted : isLiteralChar c = true) :
    Text.isBlank c = false :=
  Text.forall_ascii (fun c => isLiteralChar c = true → Text.isBlank c = false) (by decide)
    (ascii_of_isLiteralChar accepted) accepted

theorem radixOfMark_of_isLiteralChar {c : Char} (accepted : isLiteralChar c = true) :
    radixOfMark c = none :=
  Text.forall_ascii (fun c => isLiteralChar c = true → radixOfMark c = none) (by decide)
    (ascii_of_isLiteralChar accepted) accepted

theorem isLiteralChar_of_isDigit {c : Char} (digit : c.isDigit = true) :
    isLiteralChar c = true := by
  simp [isLiteralChar, continues, digit]

theorem all_digits {digits : List Char} (numeric : digits.all Char.isDigit = true) :
    digits.all isLiteralChar = true :=
  List.all_eq_true.mpr fun c member =>
    isLiteralChar_of_isDigit (List.all_eq_true.mp numeric c member)

theorem all_sign {sign : List Char} (written : IsSignText sign) :
    sign.all isLiteralChar = true := by
  rcases written with rfl | ⟨c, accepted, rfl⟩
  · rfl
  · simp [isLiteralChar, accepted]

theorem all_fractionText {fraction : Option (List Char)}
    (numeric : (fraction.getD []).all Char.isDigit = true) :
    (fractionText fraction).all isLiteralChar = true := by
  have point : isLiteralChar '.' = true := by decide
  cases fraction with
  | none => rfl
  | some digits =>
      have digits := all_digits numeric
      rw [Option.getD_some] at digits
      rw [fractionText, List.all_cons, point, digits, Bool.and_self]

theorem all_exponentText {exponent : Option Exponent}
    (written : ∀ given, exponent = some given → given.IsWritten) :
    (exponentText exponent).all isLiteralChar = true := by
  cases exponent with
  | none => rfl
  | some exponent =>
      obtain ⟨mark, signed, numeric, _⟩ := written exponent rfl
      have marked : isLiteralChar exponent.mark = true := by simp [isLiteralChar, continues, mark]
      rw [exponentText, Exponent.text, List.all_cons, List.all_append, marked, all_sign signed,
        all_digits numeric, Bool.and_self, Bool.and_self]

theorem dropLeading_infinityWord {text : List Char} (other : Text.stops (· == 'I') text = true) :
    Text.dropLeading infinityWord text = none := by
  cases text with
  | nil => rfl
  | cons c rest =>
      have different : c ≠ 'I' := by simpa using other
      exact if_neg different.symm

section

variable {literal : Literal} (written : literal.IsWritten)

include written

theorem all_literal_text : literal.text.all isLiteralChar = true := by
  rw [Literal.text_eq, Literal.body, List.all_append, List.all_append, List.all_append,
    all_sign written.sign, all_digits written.whole, all_fractionText written.fraction,
    all_exponentText written.exponent]
  rfl

theorem solid_literal_text : ∀ c ∈ literal.text, Text.isBlank c = false := fun c member =>
  isBlank_of_isLiteralChar (List.all_eq_true.mp (all_literal_text written) c member)

theorem literal_text_ne_nil : literal.text ≠ [] := by
  intro empty
  rw [Literal.text_eq, Literal.body, List.append_eq_nil_iff, List.append_eq_nil_iff,
    List.append_eq_nil_iff] at empty
  obtain ⟨-, whole, fraction, -⟩ := empty
  apply written.nonempty
  cases given : literal.fraction with
  | none => simp [whole]
  | some digits =>
      rw [given] at fraction
      cases fraction

theorem scanInfinity_literal (rest : List Char) : scanInfinity (literal.text ++ rest) = none := by
  have unsigned : Text.stops isSign (literal.body ++ rest) = true :=
    stops_body written (fun _ => isSign_of_isDigit) (by decide) rest
  have other : Text.stops (· == 'I') (literal.body ++ rest) = true := by
    refine stops_body written (fun c digit => beq_eq_false_iff_ne.mpr ?_) (by decide) rest
    rintro rfl
    exact absurd digit (by decide)
  rw [Literal.text_eq, List.append_assoc]
  simp only [scanInfinity, scanSign_written written.sign unsigned,
    dropLeading_infinityWord other, Option.map_none]

theorem scanRadix_literal : scanRadix literal.text = none := by
  have every := List.all_eq_true.mp (all_literal_text written)
  unfold scanRadix
  split
  · rename_i mark digits begins
    rw [begins] at every
    rw [radixOfMark_of_isLiteralChar (every mark (by simp)), Option.map_none]
  · rfl

theorem readLeading_written {rest : List Char} (ended : Text.stops continues rest = true) :
    readLeading (literal.text ++ rest) = literal.value := by
  have front : Text.stops Text.isBlank (literal.text ++ rest) = true :=
    Text.stops_append (literal_text_ne_nil written) (all_literal_text written)
      (fun _ => isBlank_of_isLiteralChar) rest
  simp only [readLeading, Text.trimStart, Text.dropWhile_of_stops front,
    scanInfinity_literal written rest, scan_written written ended]

theorem readWhole_written : readWhole literal.text = literal.value := by
  have trimmed := Text.trim_of_solid (solid_literal_text written)
  have present : literal.text.isEmpty = false := by
    simpa using literal_text_ne_nil written
  have infinite := scanInfinity_literal written []
  have scanned := (scan_written written rfl : scan (literal.text ++ []) = _)
  rw [List.append_nil] at infinite scanned
  simp only [readWhole, trimmed, present, scanRadix_literal written, infinite, scanned,
    Bool.false_eq_true, if_false]

end

end VectorIcon.Number
