import VectorIcon.Proofs.Number.Nearest
import VectorIcon.Proofs.Text.Split

/-!
The scanner of decimal literals takes the longest one that a text begins with. What it takes is a
literal and stands at the start of the text, and of a text that begins with some literal it takes
no less than that. The reader of leading numbers is specified by it.
-/

namespace VectorIcon.Number

theorem scanSign_parts (text : List Char) :
    IsSignText (scanSign text).1 ∧ (scanSign text).1 ++ (scanSign text).2 = text := by
  cases text with
  | nil => exact ⟨.inl rfl, rfl⟩
  | cons c rest =>
      by_cases signed : isSign c = true
      · simp only [scanSign, signed, if_true]
        exact ⟨.inr ⟨c, signed, rfl⟩, rfl⟩
      · simp only [scanSign, signed]
        exact ⟨.inl rfl, rfl⟩

theorem scanExponent_parts (text : List Char) :
    (∀ exponent, (scanExponent text).1 = some exponent → exponent.IsWritten) ∧
      exponentText (scanExponent text).1 ++ (scanExponent text).2 = text := by
  cases text with
  | nil => exact ⟨by simp [scanExponent], rfl⟩
  | cons mark rest =>
      obtain ⟨signed, split⟩ := scanSign_parts rest
      let body := (scanSign rest).2
      by_cases marked : (isExponentMark mark && !(body.takeWhile Char.isDigit).isEmpty) = true
      · have found : scanExponent (mark :: rest) =
            (some ⟨mark, (scanSign rest).1, body.takeWhile Char.isDigit⟩,
              body.dropWhile Char.isDigit) := by
          simp only [scanExponent, body, marked, if_true]
        rw [found]
        simp only [Bool.and_eq_true, Bool.not_eq_true', List.isEmpty_eq_false_iff] at marked
        constructor
        · rintro exponent ⟨⟩
          exact ⟨marked.1, signed, List.all_takeWhile, marked.2⟩
        · simp only [exponentText, Exponent.text, List.cons_append, List.append_assoc,
            List.takeWhile_append_dropWhile, body, split]
      · have found : scanExponent (mark :: rest) = (none, mark :: rest) := by
          simp only [scanExponent, body, marked]
          rfl
        rw [found]
        exact ⟨by simp, rfl⟩

theorem scanDigits_parts {text rest whole : List Char} {fraction : Option (List Char)}
    (found : scanDigits text = some ((whole, fraction), rest)) :
    whole.all Char.isDigit = true ∧ (fraction.getD []).all Char.isDigit = true ∧
      whole ++ fraction.getD [] ≠ [] ∧ whole ++ (fractionText fraction ++ rest) = text := by
  have split := List.takeWhile_append_dropWhile (p := Char.isDigit) (l := text)
  have digits : (text.takeWhile Char.isDigit).all Char.isDigit = true := List.all_takeWhile
  simp only [scanDigits] at found
  split at found
  · rename_i behind point
    rw [point] at split
    by_cases absent : ((text.takeWhile Char.isDigit).isEmpty &&
        (behind.takeWhile Char.isDigit).isEmpty) = true
    · simp only [absent, if_true] at found
      cases found
    · simp only [absent] at found
      cases found
      refine ⟨digits, List.all_takeWhile, ?_, ?_⟩
      · intro empty
        rw [Option.getD_some, List.append_eq_nil_iff] at empty
        simp [empty.1, empty.2] at absent
      · simpa [fractionText] using split
  · by_cases absent : (text.takeWhile Char.isDigit).isEmpty = true
    · simp only [absent, if_true] at found
      cases found
    · simp only [absent] at found
      cases found
      refine ⟨digits, rfl, ?_, split⟩
      simpa using absent

theorem scan_parts {text rest : List Char} {literal : Literal}
    (found : scan text = some (literal, rest)) :
    literal.IsWritten ∧ literal.text ++ rest = text := by
  obtain ⟨signed, split⟩ := scanSign_parts text
  simp only [scan, Option.map_eq_some_iff] at found
  obtain ⟨⟨⟨whole, fraction⟩, behind⟩, digits, parts⟩ := found
  cases parts
  obtain ⟨wholeDigits, fractionDigits, nonempty, body⟩ := scanDigits_parts digits
  obtain ⟨exponent, last⟩ := scanExponent_parts behind
  refine ⟨⟨signed, wholeDigits, fractionDigits, nonempty, exponent⟩, ?_⟩
  simp only [Literal.text_eq, Literal.body, List.append_assoc, last, body, split]

theorem scanExponent_extends {exponent : Exponent} (written : exponent.IsWritten)
    (rest : List Char) :
    ∃ longer more, scanExponent (exponent.text ++ rest) = (some longer, more) ∧
      exponent.text.length ≤ longer.text.length := by
  let more := rest.takeWhile Char.isDigit
  let longer : Exponent := { exponent with digits := exponent.digits ++ more }
  have digits : more.all Char.isDigit = true := List.all_takeWhile
  have longerWritten : longer.IsWritten := by
    refine ⟨written.mark, written.sign, ?_, ?_⟩
    · simp only [longer, List.all_append, written.digits, digits, Bool.and_self]
    · simp [longer, written.nonempty]
  have spelled : exponent.text ++ rest = longer.text ++ rest.dropWhile Char.isDigit := by
    simp [Exponent.text, longer, more]
  refine ⟨longer, rest.dropWhile Char.isDigit, ?_, ?_⟩
  · rw [spelled]
    exact scanExponent_written longerWritten (Text.stops_dropWhile Char.isDigit rest)
  · simp only [Exponent.text, longer, List.length_cons, List.length_append]
    omega

theorem scanDigits_extends {whole : List Char} {fraction : Option (List Char)}
    (wholeDigits : whole.all Char.isDigit = true)
    (fractionDigits : (fraction.getD []).all Char.isDigit = true)
    (nonempty : whole ++ fraction.getD [] ≠ []) (rest : List Char) :
    ∃ longer decimals more,
      scanDigits (whole ++ (fractionText fraction ++ rest)) = some ((longer, decimals), more) ∧
        (whole ++ fractionText fraction).length ≤ (longer ++ fractionText decimals).length := by
  let run := rest.takeWhile Char.isDigit
  let behind := rest.dropWhile Char.isDigit
  have runDigits : run.all Char.isDigit = true := List.all_takeWhile
  have ended : Text.stops Char.isDigit behind = true := Text.stops_dropWhile Char.isDigit rest
  have split : rest = run ++ behind := List.takeWhile_append_dropWhile.symm
  rw [split]
  cases fraction with
  | some digits =>
      have grown : (digits ++ run).all Char.isDigit = true := by
        rw [List.all_append, runDigits, Bool.and_true]
        exact fractionDigits
      have present : whole ++ (digits ++ run) ≠ [] := by
        rw [← List.append_assoc]
        exact List.append_ne_nil_of_left_ne_nil nonempty run
      refine ⟨whole, some (digits ++ run), behind, ?_, ?_⟩
      · rw [← scanDigits_point wholeDigits grown present ended]
        simp [fractionText]
      · simp only [fractionText, List.length_append, List.length_cons]
        omega
  | none =>
      have grown : (whole ++ run).all Char.isDigit = true := by
        rw [List.all_append, wholeDigits, runDigits, Bool.and_self]
      have present : whole ++ run ≠ [] := by
        rw [Option.getD_none, List.append_nil] at nonempty
        exact List.append_ne_nil_of_left_ne_nil nonempty run
      have longer (decimals : Option (List Char)) : (whole ++ fractionText none).length ≤
          (whole ++ run ++ fractionText decimals).length := by
        simp only [fractionText, List.length_append, List.length_nil]
        omega
      by_cases point : Text.stops (· == '.') behind = true
      · have stop : Text.stops (fun c => c.isDigit || c == '.') behind = true := by
          cases found : behind with
          | nil => rfl
          | cons c more => simp_all
        refine ⟨whole ++ run, none, behind, ?_, longer none⟩
        rw [← scanDigits_written grown rfl (by simpa using present) stop]
        simp [fractionText]
      · obtain ⟨more, found⟩ : ∃ more, behind = '.' :: more := by
          cases given : behind with
          | nil => simp [given] at point
          | cons c more => exact ⟨more, by simpa [given] using point⟩
        let digits := more.takeWhile Char.isDigit
        have digital : whole ++ run ++ digits ≠ [] :=
          List.append_ne_nil_of_left_ne_nil present digits
        have ended := Text.stops_dropWhile Char.isDigit more
        refine ⟨whole ++ run, some digits, more.dropWhile Char.isDigit, ?_, longer (some digits)⟩
        rw [← scanDigits_point grown List.all_takeWhile digital ended]
        simp [fractionText, found]

theorem scan_extends {literal : Literal} (written : literal.IsWritten) (rest : List Char) :
    ∃ longer more, scan (literal.text ++ rest) = some (longer, more) ∧
      literal.text.length ≤ longer.text.length := by
  have unsigned : Text.stops isSign (literal.body ++ rest) = true :=
    stops_body written (fun _ => isSign_of_isDigit) (by decide) rest
  rw [Literal.text_eq, List.append_assoc]
  simp only [scan, scanSign_written written.sign unsigned]
  cases given : literal.exponent with
  | none =>
      have body : literal.body ++ rest =
          literal.whole ++ (fractionText literal.fraction ++ rest) := by
        simp [Literal.body, given, exponentText]
      obtain ⟨whole, decimals, behind, digits, longer⟩ :=
        scanDigits_extends written.whole written.fraction written.nonempty rest
      rw [body, digits]
      refine ⟨_, _, rfl, ?_⟩
      simp only [Literal.text_eq, Literal.body, given, exponentText, List.length_append,
        List.length_nil] at longer ⊢
      omega
  | some exponent =>
      have exponentWritten := written.exponent exponent given
      have marked : Text.stops (fun c => c.isDigit || c == '.') (exponent.text ++ rest) = true := by
        rcases exponentMark_cases exponentWritten.mark with mark | mark <;>
          simp [Exponent.text, mark]
      have body : literal.body ++ rest =
          literal.whole ++ (fractionText literal.fraction ++ (exponent.text ++ rest)) := by
        simp [Literal.body, given, exponentText]
      obtain ⟨longer, behind, found, longest⟩ := scanExponent_extends exponentWritten rest
      rw [body, scanDigits_written written.whole written.fraction written.nonempty marked]
      simp only [Option.map_some, found]
      refine ⟨_, _, rfl, ?_⟩
      simp only [Literal.text_eq, Literal.body, given, exponentText, List.length_append]
      omega

def IsDecimal (text : List Char) : Prop :=
  ∃ literal : Literal, literal.IsWritten ∧ literal.text = text

structure IsLongestDecimal (longest text : List Char) : Prop where
  decimal : IsDecimal longest
  front : longest <+: text
  greatest : ∀ other, IsDecimal other → other <+: text →
    Text.byteLength other ≤ Text.byteLength longest

theorem front_of_scan {text rest other : List Char} {literal : Literal}
    (found : scan text = some (literal, rest)) (decimal : IsDecimal other)
    (begins : other <+: text) : other <+: literal.text := by
  obtain ⟨shorter, written, rfl⟩ := decimal
  obtain ⟨_, split⟩ := scan_parts found
  obtain ⟨behind, same⟩ := begins
  obtain ⟨longer, more, again, length⟩ := scan_extends written behind
  rw [same, found] at again
  cases again
  exact List.prefix_of_prefix_length_le ⟨behind, same⟩ ⟨rest, split⟩ length

theorem byteLength_le_of_front {text longer : List Char} (front : text <+: longer) :
    Text.byteLength text ≤ Text.byteLength longer := by
  obtain ⟨more, rfl⟩ := front
  rw [Text.byteLength_append]
  exact Nat.le_add_right _ _

theorem eq_of_front {text longer : List Char} (front : text <+: longer)
    (size : Text.byteLength longer ≤ Text.byteLength text) : text = longer := by
  obtain ⟨more, rfl⟩ := front
  cases more with
  | nil => rw [List.append_nil]
  | cons c more =>
      have positive := c.utf8Size_pos
      rw [Text.byteLength_append, Text.byteLength_cons] at size
      omega

theorem eq_of_text {literal other : Literal} (written : literal.IsWritten)
    (otherWritten : other.IsWritten) (same : literal.text = other.text) : literal = other := by
  have first : scan (literal.text ++ []) = some (literal, []) := scan_written written rfl
  have second : scan (other.text ++ []) = some (other, []) := scan_written otherWritten rfl
  rw [same, second] at first
  cases first
  rfl

theorem scan_eq_some_iff {text rest : List Char} {literal : Literal} :
    scan text = some (literal, rest) ↔
      literal.IsWritten ∧ literal.text ++ rest = text ∧ IsLongestDecimal literal.text text := by
  constructor
  · intro found
    obtain ⟨written, split⟩ := scan_parts found
    refine ⟨written, split, ⟨literal, written, rfl⟩, ⟨rest, split⟩, ?_⟩
    intro other decimal begins
    exact byteLength_le_of_front (front_of_scan found decimal begins)
  · rintro ⟨written, rfl, longest⟩
    obtain ⟨longer, more, found, _⟩ := scan_extends written rest
    obtain ⟨longerWritten, split⟩ := scan_parts found
    have size := longest.greatest longer.text ⟨longer, longerWritten, rfl⟩ ⟨more, split⟩
    have same := eq_of_front (front_of_scan found longest.decimal longest.front) size
    cases eq_of_text written longerWritten same
    rw [found, List.append_cancel_left split]

theorem scan_eq_none_iff {text : List Char} :
    scan text = none ↔ ∀ other, IsDecimal other → ¬other <+: text := by
  constructor
  · rintro missing other ⟨literal, written, rfl⟩ ⟨rest, rfl⟩
    obtain ⟨longer, more, found, _⟩ := scan_extends written rest
    rw [missing] at found
    cases found
  · intro absent
    cases found : scan text with
    | none => rfl
    | some parts =>
        obtain ⟨written, split⟩ := scan_parts found
        exact absurd ⟨parts.2, split⟩ (absent parts.1.text ⟨parts.1, written, rfl⟩)

theorem scanInfinity_written {sign : List Char} (signed : IsSignText sign) (rest : List Char) :
    scanInfinity (sign ++ (infinityWord ++ rest)) =
      some (.infinite (isNegative sign), rest) := by
  have unsigned : Text.stops isSign (infinityWord ++ rest) = true := rfl
  have word : Text.dropLeading infinityWord (infinityWord ++ rest) = some rest := by
    rw [Text.dropLeading_eq, if_pos (by simp), List.drop_left]
  simp only [scanInfinity, scanSign_written signed unsigned, word, Option.map_some]

theorem scanInfinity_parts {text rest : List Char} {value : Number}
    (found : scanInfinity text = some (value, rest)) :
    ∃ sign, IsSignText sign ∧ text = sign ++ (infinityWord ++ rest) ∧
      value = .infinite (isNegative sign) := by
  obtain ⟨signed, split⟩ := scanSign_parts text
  simp only [scanInfinity, Option.map_eq_some_iff, Prod.mk.injEq] at found
  obtain ⟨behind, word, rfl, rfl⟩ := found
  rw [Text.dropLeading_eq, Option.ite_none_right_eq_some, Option.some.injEq] at word
  obtain ⟨more, spelled⟩ := List.isPrefixOf_iff_prefix.mp word.1
  refine ⟨(scanSign text).1, signed, ?_, rfl⟩
  rw [← word.2, ← spelled, List.drop_left, spelled, split]

/-- The number that a text begins with: an infinity word, or else the longest decimal literal. -/
inductive IsLeading (text : List Char) : Number → Prop
  | infinite {sign : List Char} (signed : IsSignText sign)
      (begins : sign ++ infinityWord <+: text) : IsLeading text (.infinite (isNegative sign))
  | decimal {literal : Literal} {number : Number} (written : literal.IsWritten)
      (longest : IsLongestDecimal literal.text text)
      (near : IsNearest (isNegative literal.sign) literal.amount number) : IsLeading text number
  | nan (finite : ∀ sign, IsSignText sign → ¬sign ++ infinityWord <+: text)
      (missing : ∀ other, IsDecimal other → ¬other <+: text) : IsLeading text .nan

theorem isLeading_readLeading (text : List Char) :
    IsLeading (Text.trimStart text) (readLeading text) := by
  cases infinite : scanInfinity (Text.trimStart text) with
  | some found =>
      obtain ⟨sign, signed, split, value⟩ := scanInfinity_parts infinite
      have read : readLeading text = .infinite (isNegative sign) := by
        simp only [readLeading, infinite, value]
      rw [read]
      exact .infinite signed ⟨found.2, by rw [List.append_assoc, split]⟩
  | none =>
      cases scanned : scan (Text.trimStart text) with
      | some found =>
          obtain ⟨written, _, longest⟩ := scan_eq_some_iff.mp scanned
          have read : readLeading text = found.1.value := by
            simp only [readLeading, infinite, scanned]
          rw [read]
          exact .decimal written longest (isNearest_value found.1)
      | none =>
          have read : readLeading text = .nan := by simp only [readLeading, infinite, scanned]
          rw [read]
          refine .nan ?_ (scan_eq_none_iff.mp scanned)
          rintro sign signed ⟨rest, split⟩
          rw [← split, List.append_assoc, scanInfinity_written signed] at infinite
          cases infinite

theorem readLeading_of_isLeading {text : List Char} {number : Number}
    (leading : IsLeading (Text.trimStart text) number) : readLeading text = number := by
  unfold readLeading
  cases leading with
  | infinite signed begins =>
      obtain ⟨rest, split⟩ := begins
      simp only [← split, List.append_assoc, scanInfinity_written signed]
  | @decimal literal number written longest near =>
      obtain ⟨rest, split⟩ := longest.front
      have scanned := scan_eq_some_iff.mpr ⟨written, split, longest⟩
      have finite := scanInfinity_literal written rest
      rw [split] at finite
      simp only [finite, scanned]
      exact (isNearest_value literal).unique near
  | nan finite missing =>
      have noWord : scanInfinity (Text.trimStart text) = none := by
        cases infinite : scanInfinity (Text.trimStart text) with
        | none => rfl
        | some found =>
            obtain ⟨sign, signed, split, _⟩ := scanInfinity_parts infinite
            exact absurd ⟨found.2, by rw [List.append_assoc, split]⟩ (finite sign signed)
      simp only [noWord, scan_eq_none_iff.mpr missing]

/-- The scanner takes the longest decimal literal at the start of a text, and what is read there
is the number nearest to that literal. -/
theorem readLeading_longest (text : List Char) :
    (∀ literal rest, scan text = some (literal, rest) ↔
      literal.IsWritten ∧ literal.text ++ rest = text ∧ IsLongestDecimal literal.text text) ∧
    (scan text = none ↔ ∀ other, IsDecimal other → ¬other <+: text) ∧
    ∀ number, readLeading text = number ↔ IsLeading (Text.trimStart text) number := by
  refine ⟨fun literal rest => scan_eq_some_iff, scan_eq_none_iff, fun number => ?_⟩
  constructor
  · rintro rfl
    exact isLeading_readLeading text
  · exact readLeading_of_isLeading

end VectorIcon.Number
