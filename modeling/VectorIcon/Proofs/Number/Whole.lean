import Mathlib.Data.Nat.Digits.Defs
import VectorIcon.Proofs.Number.Longest

/-!
What a text denotes when it has to be a number as a whole: nothing but blanks is zero, and else it
is an infinity word, an integer behind the mark of a radix or a decimal literal. The reader keeps
to this but for integers behind a mark: it lets a plus sign stand in front of the digits, and an
integer that does not fit 64 bits is no number to it.
-/

namespace VectorIcon.Number

def radixMarks : List (Char × Nat) :=
  [('x', 16), ('X', 16), ('o', 8), ('O', 8), ('b', 2), ('B', 2)]

def IsInteger (radix : Nat) (digits : List Char) (value : Nat) : Prop :=
  digits ≠ [] ∧ ∃ values : List Nat, digits.map (radixDigit? radix) = values.map some ∧
    Nat.ofDigits radix values.reverse = value

def ReadsInteger (radix : Nat) (digits : List Char) (number : Number) : Prop :=
  ∃ value, IsInteger radix digits value ∧ IsNearest false value number

def ReadsWord (radix : Nat) (digits : List Char) (number : Number) : Prop :=
  ∃ plus more value, (plus = [] ∨ plus = ['+']) ∧ digits = plus ++ more ∧
    IsInteger radix more value ∧ value < 2 ^ 64 ∧ IsNearest false value number

/-- What a text stands for, given how the digits behind the mark of a radix are read. -/
inductive Denotes (reads : Nat → List Char → Number → Prop) (text : List Char) : Number → Prop
  | blank (empty : text = []) : Denotes reads text zero
  | infinite {sign : List Char} (signed : IsSignText sign) (word : text = sign ++ infinityWord) :
      Denotes reads text (.infinite (isNegative sign))
  | integer {mark : Char} {radix : Nat} {digits : List Char} {number : Number}
      (named : (mark, radix) ∈ radixMarks) (spelled : text = '0' :: mark :: digits)
      (read : reads radix digits number) : Denotes reads text number
  | decimal {literal : Literal} {number : Number} (written : literal.IsWritten)
      (spelled : text = literal.text)
      (near : IsNearest (isNegative literal.sign) literal.amount number) :
      Denotes reads text number

def IsWhole (reads : Nat → List Char → Number → Prop) (text : List Char) (number : Number) :
    Prop :=
  Denotes reads text number ∨ number = .nan ∧ ∀ other, ¬Denotes reads text other

theorem mem_radixMarks_iff {mark : Char} {radix : Nat} :
    (mark, radix) ∈ radixMarks ↔ radixOfMark mark = some radix := by
  constructor
  · intro member
    have every : ∀ entry ∈ radixMarks, radixOfMark entry.1 = some entry.2 := by decide
    exact every (mark, radix) member
  · intro found
    simp only [radixOfMark, Bool.or_eq_true, decide_eq_true_eq] at found
    by_cases hexadecimal : mark = 'x' ∨ mark = 'X'
    · rw [if_pos hexadecimal] at found
      cases found
      rcases hexadecimal with rfl | rfl <;> decide
    · rw [if_neg hexadecimal] at found
      by_cases octal : mark = 'o' ∨ mark = 'O'
      · rw [if_pos octal] at found
        cases found
        rcases octal with rfl | rfl <;> decide
      · rw [if_neg octal] at found
        by_cases binary : mark = 'b' ∨ mark = 'B'
        · rw [if_pos binary] at found
          cases found
          rcases binary with rfl | rfl <;> decide
        · rw [if_neg binary] at found
          cases found

theorem scanRadix_eq_some_iff {text digits : List Char} {radix : Nat} :
    scanRadix text = some (radix, digits) ↔
      ∃ mark, (mark, radix) ∈ radixMarks ∧ text = '0' :: mark :: digits := by
  constructor
  · intro found
    unfold scanRadix at found
    split at found
    · rename_i mark behind
      simp only [Option.map_eq_some_iff, Prod.mk.injEq] at found
      obtain ⟨_, named, rfl, rfl⟩ := found
      exact ⟨mark, mem_radixMarks_iff.mpr named, rfl⟩
    · cases found
  · rintro ⟨mark, named, rfl⟩
    simp only [scanRadix, mem_radixMarks_iff.mp named, Option.map_some]

theorem mapM_radixDigit {radix : Nat} {digits : List Char} {values : List Nat} :
    digits.mapM (radixDigit? radix) = some values ↔
      digits.map (radixDigit? radix) = values.map some := by
  induction digits generalizing values with
  | nil => cases values <;> simp
  | cons c digits ih =>
      rw [List.mapM_cons]
      cases found : radixDigit? radix c with
      | none => cases values <;> simp [found]
      | some value =>
          cases values with
          | nil => cases digits.mapM (radixDigit? radix) <;> simp
          | cons first values =>
              simp only [List.map_cons, found, List.cons.injEq, Option.some.injEq, ← ih]
              cases digits.mapM (radixDigit? radix) <;> simp

theorem foldl_eq_ofDigits (radix : Nat) (values : List Nat) :
    values.foldl (fun total digit => total * radix + digit) 0 =
      Nat.ofDigits radix values.reverse := by
  rw [Nat.ofDigits_eq_foldr, List.foldr_reverse]
  simp only [Nat.cast_id, Nat.add_comm, Nat.mul_comm]

theorem radixDigit?_plus (radix : Nat) : radixDigit? radix '+' = none := by
  have digit : Char.isDigit '+' = false := by decide
  have lower : ('a' ≤ '+') = False := by decide
  have upper : ('A' ≤ '+') = False := by decide
  simp [radixDigit?, digit, lower, upper]

theorem IsInteger.unsigned {radix value : Nat} {digits more : List Char}
    (integer : IsInteger radix digits value) : digits ≠ '+' :: more := by
  rintro rfl
  obtain ⟨_, values, spelled, _⟩ := integer
  cases values with
  | nil => cases spelled
  | cons first values =>
      rw [List.map_cons, radixDigit?_plus] at spelled
      cases spelled

theorem isInteger_iff {radix value : Nat} {digits : List Char} :
    (if digits.isEmpty then none
      else (digits.mapM (radixDigit? radix)).map
        (·.foldl (fun total digit => total * radix + digit) 0)) = some value ↔
      IsInteger radix digits value := by
  by_cases empty : digits = []
  · simp [empty, IsInteger]
  · have present : digits.isEmpty = false := by simpa using empty
    simp only [present, Bool.false_eq_true, if_false, Option.map_eq_some_iff, IsInteger, ne_eq,
      empty, not_false_eq_true, true_and, mapM_radixDigit, foldl_eq_ofDigits]

theorem readRadix_eq_some_iff {radix value : Nat} {digits : List Char} :
    readRadix radix digits = some value ↔
      ∃ plus more, (plus = [] ∨ plus = ['+']) ∧ digits = plus ++ more ∧
        IsInteger radix more value := by
  unfold readRadix
  split
  · rename_i more
    rw [isInteger_iff]
    constructor
    · intro integer
      exact ⟨['+'], more, .inr rfl, rfl, integer⟩
    · rintro ⟨plus, digits, rfl | rfl, split, integer⟩
      · exact absurd split.symm integer.unsigned
      · cases split
        exact integer
  · rename_i unsigned
    rw [isInteger_iff]
    constructor
    · intro integer
      exact ⟨[], digits, .inl rfl, rfl, integer⟩
    · rintro ⟨plus, more, rfl | rfl, rfl, integer⟩
      · exact integer
      · exact absurd rfl (unsigned more)

theorem isNearest_integer (value : Nat) : IsNearest false value (nearest false value 1) := by
  have rounded := isNearest_nearest false value Nat.one_pos
  rwa [Nat.cast_one, div_one] at rounded

theorem ofWord?_readRadix_iff {radix : Nat} {digits : List Char} {number : Number} :
    ofWord? (readRadix radix digits) = number ∧ number ≠ .nan ↔ ReadsWord radix digits number := by
  constructor
  · rintro ⟨rfl, present⟩
    cases found : readRadix radix digits with
    | none => exact absurd (congrArg ofWord? found) present
    | some value =>
        rw [found] at present
        by_cases fits : value < Nat.pow 2 64
        · obtain ⟨plus, more, optional, split, integer⟩ := readRadix_eq_some_iff.mp found
          rw [ofWord?, if_pos fits]
          exact ⟨plus, more, value, optional, split, integer, fits, isNearest_integer value⟩
        · exact absurd (if_neg fits) present
  · rintro ⟨plus, more, value, optional, split, integer, fits, near⟩
    have found := readRadix_eq_some_iff.mpr ⟨plus, more, optional, split, integer⟩
    have word : ofWord? (some value) = nearest false value 1 := if_pos fits
    rw [found, word]
    exact ⟨(isNearest_integer value).unique near, near.ne_nan⟩

theorem denotes_radix_iff {reads : Nat → List Char → Number → Prop} {mark : Char} {radix : Nat}
    {digits : List Char} {number : Number} (named : (mark, radix) ∈ radixMarks) :
    Denotes reads ('0' :: mark :: digits) number ↔ reads radix digits number := by
  constructor
  · intro denotes
    cases denotes with
    | blank empty => cases empty
    | infinite signed word =>
        rcases signed with rfl | ⟨c, accepted, rfl⟩
        · cases word
        · cases word
          cases accepted
    | integer otherNamed spelled read =>
        cases spelled
        have same := (mem_radixMarks_iff.mp named).symm.trans (mem_radixMarks_iff.mp otherNamed)
        cases same
        exact read
    | @decimal literal _ written spelled near =>
        have unmarked := scanRadix_literal written
        rw [← spelled, scanRadix_eq_some_iff.mpr ⟨mark, named, rfl⟩] at unmarked
        cases unmarked
  · exact .integer named rfl

theorem Denotes.imp {reads others : Nat → List Char → Number → Prop} {text : List Char}
    {number : Number} (denotes : Denotes reads text number)
    (same : ∀ mark radix digits, (mark, radix) ∈ radixMarks → text = '0' :: mark :: digits →
      reads radix digits number → others radix digits number) : Denotes others text number := by
  cases denotes with
  | blank empty => exact .blank empty
  | infinite signed word => exact .infinite signed word
  | integer named spelled read => exact .integer named spelled (same _ _ _ named spelled read)
  | decimal written spelled near => exact .decimal written spelled near

theorem denotes_readWhole {text : List Char} (present : readWhole text ≠ .nan) :
    Denotes ReadsWord (Text.trim text) (readWhole text) := by
  -- The cases come in the order in which the reader tries the forms.
  by_cases empty : Text.trim text = []
  · have read : readWhole text = zero := by simp [readWhole, empty]
    rw [read]
    exact .blank empty
  have solid : (Text.trim text).isEmpty = false := by simpa using empty
  cases marked : scanRadix (Text.trim text) with
  | some found =>
      obtain ⟨mark, named, spelled⟩ := scanRadix_eq_some_iff.mp marked
      have read : readWhole text = ofWord? (readRadix found.1 found.2) := by
        simp [readWhole, solid, marked]
      exact .integer named spelled (ofWord?_readRadix_iff.mp ⟨read.symm, present⟩)
  | none =>
      cases infinite : scanInfinity (Text.trim text) with
      | some found =>
          obtain ⟨sign, signed, split, value⟩ := scanInfinity_parts infinite
          have read : readWhole text = if found.2.isEmpty then found.1 else .nan := by
            simp [readWhole, solid, marked, infinite]
          have ended : found.2.isEmpty = true := by
            by_contra more
            exact present (read.trans (if_neg more))
          rw [read, if_pos ended, value]
          rw [List.isEmpty_iff.mp ended, List.append_nil] at split
          exact .infinite signed split
      | none =>
          cases scanned : scan (Text.trim text) with
          | none => simp [readWhole, solid, marked, infinite, scanned] at present
          | some found =>
              obtain ⟨literal, rest⟩ := found
              obtain ⟨written, split⟩ := scan_parts scanned
              cases rest with
              | cons c rest => simp [readWhole, solid, marked, infinite, scanned] at present
              | nil =>
                  have read : readWhole text = literal.value := by
                    simp [readWhole, solid, marked, infinite, scanned]
                  rw [read]
                  rw [List.append_nil] at split
                  exact .decimal written split.symm (isNearest_value literal)

theorem readWhole_trim (text : List Char) : readWhole (Text.trim text) = readWhole text := by
  simp only [readWhole, Text.trim_trim]

theorem scanRadix_infinite {sign : List Char} (signed : IsSignText sign) :
    scanRadix (sign ++ infinityWord) = none := by
  rcases signed with rfl | ⟨c, accepted, rfl⟩
  · rfl
  · unfold scanRadix
    split
    · rename_i begins
      cases begins
      cases accepted
    · rfl

theorem readWhole_of_denotes {text : List Char} {number : Number}
    (denotes : Denotes ReadsWord (Text.trim text) number) :
    readWhole text = number ∧ number ≠ .nan := by
  cases denotes with
  | blank empty => exact ⟨by simp [readWhole, empty], ne_of_apply_ne isFinite Bool.noConfusion⟩
  | @infinite sign signed word =>
      have solid : (Text.trim text).isEmpty = false := by
        rw [word, List.isEmpty_eq_false_iff]
        exact List.append_ne_nil_of_right_ne_nil sign (by decide)
      have infinite : scanInfinity (Text.trim text) = some (.infinite (isNegative sign), []) := by
        rw [word, ← scanInfinity_written signed, List.append_nil]
      have marked : scanRadix (Text.trim text) = none := by rw [word, scanRadix_infinite signed]
      refine ⟨by simp [readWhole, solid, marked, infinite], ?_⟩
      intro same
      cases same
  | integer named spelled read =>
      have solid : (Text.trim text).isEmpty = false := by rw [spelled]; rfl
      have marked := scanRadix_eq_some_iff.mpr ⟨_, named, spelled⟩
      obtain ⟨word, present⟩ := ofWord?_readRadix_iff.mpr read
      exact ⟨by simp [readWhole, solid, marked, word], present⟩
  | @decimal literal _ written spelled near =>
      rw [← readWhole_trim, spelled, readWhole_written written]
      exact ⟨(isNearest_value literal).unique near, near.ne_nan⟩

theorem readWhole_eq_iff {text : List Char} {number : Number} :
    readWhole text = number ↔ IsWhole ReadsWord (Text.trim text) number := by
  constructor
  · rintro rfl
    by_cases present : readWhole text = .nan
    · refine .inr ⟨present, fun other denotes => ?_⟩
      obtain ⟨read, some⟩ := readWhole_of_denotes denotes
      exact some (read.symm.trans present)
    · exact .inl (denotes_readWhole present)
  · rintro (denotes | ⟨rfl, nothing⟩)
    · exact (readWhole_of_denotes denotes).1
    · by_contra present
      exact nothing _ (denotes_readWhole present)

/-- An integer behind the mark of a radix that the reader makes something else of. -/
def IsMisread (text : List Char) : Prop :=
  ∃ mark radix digits value, (mark, radix) ∈ radixMarks ∧ text = '0' :: mark :: digits ∧
    (IsInteger radix digits value ∧ 2 ^ 64 ≤ value ∨
      ∃ more, digits = '+' :: more ∧ IsInteger radix more value ∧ value < 2 ^ 64)

theorem isWhole_of_not_isMisread {text : List Char} (kept : ¬IsMisread (Text.trim text)) :
    IsWhole ReadsInteger (Text.trim text) (readWhole text) := by
  rcases readWhole_eq_iff.mp (Eq.refl (readWhole text)) with denotes | ⟨missing, nothing⟩
  · refine .inl (denotes.imp ?_)
    rintro mark radix digits named spelled ⟨plus, more, value, rfl | rfl, rfl, integer, fits, near⟩
    · exact ⟨value, integer, near⟩
    · exact absurd ⟨mark, radix, _, value, named, spelled, .inr ⟨more, rfl, integer, fits⟩⟩ kept
  · refine .inr ⟨missing, fun other denotes => nothing other (denotes.imp ?_)⟩
    rintro mark radix digits named spelled ⟨value, integer, near⟩
    have fits : value < 2 ^ 64 := by
      by_contra long
      exact kept ⟨mark, radix, digits, value, named, spelled, .inl ⟨integer, Nat.not_lt.mp long⟩⟩
    exact ⟨[], digits, value, .inl rfl, rfl, integer, fits, near⟩

theorem not_isWhole_of_isMisread {text : List Char} (misread : IsMisread (Text.trim text)) :
    ¬IsWhole ReadsInteger (Text.trim text) (readWhole text) := by
  intro whole
  have read {reads : Nat → List Char → Number → Prop} {mark : Char} {radix : Nat}
      {digits : List Char} {number : Number} (named : (mark, radix) ∈ radixMarks)
      (spelled : Text.trim text = '0' :: mark :: digits) :
      Denotes reads (Text.trim text) number ↔ reads radix digits number := by
    rw [spelled, denotes_radix_iff named]
  obtain ⟨mark, radix, digits, value, named, spelled, kind⟩ := misread
  rcases kind with ⟨integer, long⟩ | ⟨more, rfl, signed, fits⟩
  · -- The integer denotes a number, but not one that the reader could have come up with.
    have due : Denotes ReadsInteger (Text.trim text) (nearest false value 1) :=
      (read named spelled).mpr ⟨value, integer, isNearest_integer value⟩
    rcases whole with denotes | ⟨_, nothing⟩
    · obtain ⟨other, otherInteger, near⟩ := (read named spelled).mp denotes
      obtain ⟨plus, more, small, optional, split, smallInteger, fits, _⟩ :=
        (read named spelled).mp (denotes_readWhole near.ne_nan)
      have whole : readRadix radix digits = some value :=
        readRadix_eq_some_iff.mpr ⟨[], digits, .inl rfl, rfl, integer⟩
      rw [readRadix_eq_some_iff.mpr ⟨plus, more, optional, split, smallInteger⟩] at whole
      cases whole
      omega
    · exact nothing _ due
  · have accepted : ReadsWord radix ('+' :: more) (nearest false value 1) :=
      ⟨['+'], more, value, .inr rfl, rfl, signed, fits, isNearest_integer value⟩
    obtain ⟨word, present⟩ := readWhole_of_denotes ((read named spelled).mpr accepted)
    rcases whole with denotes | ⟨missing, _⟩
    · obtain ⟨other, integer, _⟩ := (read named spelled).mp denotes
      exact integer.unsigned rfl
    · exact present (word.symm.trans missing)

/-- What a text is read as when it has to be a number as a whole. Read in full, an integer behind
the mark of a radix would be a number however long it is, and none when it has a plus sign; these
two are what the reader gets wrong, and nothing else. -/
theorem readWhole_isWhole (text : List Char) :
    (∀ number, readWhole text = number ↔ IsWhole ReadsWord (Text.trim text) number) ∧
    (IsWhole ReadsInteger (Text.trim text) (readWhole text) ↔ ¬IsMisread (Text.trim text)) := by
  refine ⟨fun number => readWhole_eq_iff, fun whole misread => ?_, isWhole_of_not_isMisread⟩
  exact not_isWhole_of_isMisread misread whole

theorem readWhole_long : ¬∀ text, IsWhole ReadsInteger (Text.trim text) (readWhole text) := by
  intro every
  have solid : Text.trim "0x10000000000000000".toList = "0x10000000000000000".toList := by decide
  refine not_isWhole_of_isMisread ?_ (every "0x10000000000000000".toList)
  rw [solid]
  refine ⟨'x', 16, "10000000000000000".toList, 2 ^ 64, by decide, rfl, .inl ⟨⟨by decide, ?_⟩, ?_⟩⟩
  · exact ⟨1 :: List.replicate 16 0, by decide, by decide⟩
  · exact Nat.le_refl _

end VectorIcon.Number
