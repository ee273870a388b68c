import VectorIcon.Text.Blank

/-! What holds of the 128 ASCII characters, checked one by one. -/

namespace VectorIcon.Text

theorem forall_ascii (holds : Char → Prop) (checked : ∀ code : Fin 128,
    holds (Char.ofNat code)) {c : Char} (ascii : c.toNat < 128) : holds c := by
  simpa using checked ⟨c.toNat, ascii⟩

theorem ascii_of_isLower {c : Char} (lower : c.isLower = true) : c.toNat < 128 := by
  change (decide (97 ≤ c.val) && decide (c.val ≤ 122)) = true at lower
  simp only [Bool.and_eq_true, decide_eq_true_eq, UInt32.le_iff_toNat_le] at lower
  exact Nat.lt_of_le_of_lt lower.2 (by decide)

theorem ascii_of_isUpper {c : Char} (upper : c.isUpper = true) : c.toNat < 128 := by
  change decide (65 ≤ c.val ∧ c.val ≤ 90) = true at upper
  simp only [decide_eq_true_eq, UInt32.le_iff_toNat_le] at upper
  exact Nat.lt_of_le_of_lt upper.2 (by decide)

theorem ascii_of_isDigit {c : Char} (digit : c.isDigit = true) : c.toNat < 128 := by
  simp only [Char.isDigit, Bool.and_eq_true, decide_eq_true_eq, UInt32.le_iff_toNat_le] at digit
  exact Nat.lt_of_le_of_lt digit.2 (by decide)

theorem isAlpha_eq (c : Char) : c.isAlpha = (c.isUpper || c.isLower) := rfl

theorem isAlphanum_eq (c : Char) : c.isAlphanum = (c.isUpper || c.isLower || c.isDigit) := rfl

theorem ascii_of_isAlphanum {c : Char} (accepted : c.isAlphanum = true) : c.toNat < 128 := by
  simp only [isAlphanum_eq, Bool.or_eq_true] at accepted
  rcases accepted with (upper | lower) | digit
  · exact ascii_of_isUpper upper
  · exact ascii_of_isLower lower
  · exact ascii_of_isDigit digit

theorem isUpper_toUpper {c : Char} (lower : c.isLower = true) : c.toUpper.isUpper = true :=
  forall_ascii (fun c => c.isLower = true → c.toUpper.isUpper = true) (by decide)
    (ascii_of_isLower lower) lower

theorem isLower_toLower {c : Char} (upper : c.isUpper = true) : c.toLower.isLower = true :=
  forall_ascii (fun c => c.isUpper = true → c.toLower.isLower = true) (by decide)
    (ascii_of_isUpper upper) upper

theorem toUpper_toLower {c : Char} (upper : c.isUpper = true) : c.toLower.toUpper = c :=
  forall_ascii (fun c => c.isUpper = true → c.toLower.toUpper = c) (by decide)
    (ascii_of_isUpper upper) upper

theorem toLower_toUpper {c : Char} (lower : c.isLower = true) : c.toUpper.toLower = c :=
  forall_ascii (fun c => c.isLower = true → c.toUpper.toLower = c) (by decide)
    (ascii_of_isLower lower) lower

theorem isUpper_of_isLower {c : Char} (lower : c.isLower = true) : c.isUpper = false :=
  forall_ascii (fun c => c.isLower = true → c.isUpper = false) (by decide)
    (ascii_of_isLower lower) lower

theorem isLower_of_isUpper {c : Char} (upper : c.isUpper = true) : c.isLower = false :=
  forall_ascii (fun c => c.isUpper = true → c.isLower = false) (by decide)
    (ascii_of_isUpper upper) upper

theorem isBlank_of_isUpper {c : Char} (upper : c.isUpper = true) : isBlank c = false :=
  forall_ascii (fun c => c.isUpper = true → isBlank c = false) (by decide)
    (ascii_of_isUpper upper) upper

theorem isBlank_of_isLower {c : Char} (lower : c.isLower = true) : isBlank c = false :=
  forall_ascii (fun c => c.isLower = true → isBlank c = false) (by decide)
    (ascii_of_isLower lower) lower

end VectorIcon.Text
