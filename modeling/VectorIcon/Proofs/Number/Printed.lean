import VectorIcon.Frame
import VectorIcon.Proofs.Text.Ascii

/-! The characters that numbers and frames are printed with. -/

namespace VectorIcon

namespace Number

def isPrintedChar (c : Char) : Bool :=
  c.isAlphanum || c == '.' || c == '+' || c == '-'

theorem ascii_of_isPrintedChar {c : Char} (printed : isPrintedChar c = true) : c.toNat < 128 := by
  simp only [isPrintedChar, Bool.or_eq_true, beq_iff_eq] at printed
  rcases printed with ((letter | rfl) | rfl) | rfl
  · exact Text.ascii_of_isAlphanum letter
  · decide
  · decide
  · decide

theorem all_toDigits (n : Nat) : (Nat.toDigits 10 n).all isPrintedChar = true := by
  refine List.all_eq_true.mpr fun c member => ?_
  have digit := Nat.isDigit_of_mem_toDigits (b := 10) (by decide) (by decide) member
  simp [isPrintedChar, Char.isAlphanum, digit]

theorem all_zeros {accept : Char → Bool} (zero : accept '0' = true) (count : Nat) :
    (List.replicate count '0').all accept = true := by
  refine List.all_eq_true.mpr fun c member => ?_
  rw [List.eq_of_mem_replicate member]
  exact zero

theorem all_take {accept : Char → Bool} {digits : List Char} (accepted : digits.all accept = true)
    (count : Nat) : (digits.take count).all accept = true :=
  List.all_eq_true.mpr fun c member =>
    List.all_eq_true.mp accepted c (List.mem_of_mem_take member)

theorem all_drop {accept : Char → Bool} {digits : List Char} (accepted : digits.all accept = true)
    (count : Nat) : (digits.drop count).all accept = true :=
  List.all_eq_true.mpr fun c member =>
    List.all_eq_true.mp accepted c (List.mem_of_mem_drop member)

theorem positional_printed {digits : List Char} (printed : digits.all isPrintedChar = true)
    (position : Int) : (positional digits position).all isPrintedChar = true := by
  have zero : isPrintedChar '0' = true := by decide
  have point : isPrintedChar '.' = true := by decide
  unfold positional
  split
  · simp only [List.all_cons, List.all_append, zero, point, all_zeros zero, printed, Bool.and_self]
  · simp only [List.all_cons, zero, point, printed, Bool.and_self]
  · split
    · simp only [List.all_append, printed, all_zeros zero, Bool.and_self]
    · simp only [List.all_append, List.all_cons, all_take printed, all_drop printed, point,
        Bool.and_self]

theorem scientific_printed {digits : List Char} (printed : digits.all isPrintedChar = true)
    (exponent : Int) : (scientific digits exponent).all isPrintedChar = true := by
  have point : isPrintedChar '.' = true := by decide
  have mark : isPrintedChar 'e' = true := by decide
  have sign : isPrintedChar (if exponent < 0 then '-' else '+') = true := by
    split <;> decide
  have more := all_drop printed 1
  unfold scientific
  simp only [List.all_append, List.all_cons, all_take printed, mark, sign, all_toDigits,
    Bool.and_true, Bool.true_and]
  split
  · rfl
  · simp only [List.all_cons, point, more, Bool.and_self]

theorem magnitudeText_printed (rank : Nat) : (magnitudeText rank).all isPrintedChar = true := by
  unfold magnitudeText
  split
  · decide
  · dsimp only
    split
    · exact positional_printed (all_toDigits _) _
    · exact scientific_printed (all_toDigits _) _

theorem text_printed (number : Number) : number.text.all isPrintedChar = true := by
  have signed (negative : Bool) : (if negative then ['-'] else []).all isPrintedChar = true := by
    cases negative <;> decide
  cases number with
  | nan => decide
  | infinite negative =>
      have word : infinityWord.all isPrintedChar = true := by decide
      simp only [text, List.all_append, signed, word, Bool.and_self]
  | finite negative rank =>
      simp only [text, List.all_append, magnitudeText_printed, Bool.and_true]
      exact signed _

end Number

namespace Frame

theorem toList_text (frame : Frame) :
    frame.text.toList = frame.minX.text ++ ' ' :: (frame.minY.text ++
      ' ' :: (frame.width.text ++ ' ' :: frame.height.text)) := by
  simp [text, Field.all, get]

theorem text_printed (frame : Frame) {c : Char} (member : c ∈ frame.text.toList) :
    Number.isPrintedChar c = true ∨ c = ' ' := by
  have printed (number : Number) (inside : c ∈ number.text) : Number.isPrintedChar c = true :=
    List.all_eq_true.mp number.text_printed c inside
  rw [toList_text] at member
  simp only [List.mem_append, List.mem_cons] at member
  rcases member with member | rfl | member | rfl | member | rfl | member
  · exact .inl (printed _ member)
  · exact .inr rfl
  · exact .inl (printed _ member)
  · exact .inr rfl
  · exact .inl (printed _ member)
  · exact .inr rfl
  · exact .inl (printed _ member)

theorem text_ne_empty (frame : Frame) : frame.text ≠ "" := by
  intro empty
  have spelled := toList_text frame
  rw [empty] at spelled
  simp at spelled

theorem quote_not_mem_text (frame : Frame) : '"' ∉ frame.text.toList := by
  intro member
  rcases frame.text_printed member with printed | blank
  · exact absurd printed (by decide)
  · exact absurd blank (by decide)

end Frame

end VectorIcon
