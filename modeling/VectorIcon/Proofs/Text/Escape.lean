import VectorIcon.Text.Escape

/-!
Escaped text. Each delimiter is written as a reference, so none of them is left, every ampersand starts
a reference, and reading the references gives the text back. Replacing the delimiters in turn comes to
the same.
-/

namespace VectorIcon.Text

def isEscaped (c : Char) : Bool :=
  c == '&' || c == '<' || c == '>' || c == '"'

@[simp] theorem escape_nil : escape [] = [] := rfl

@[simp] theorem escape_cons (c : Char) (rest : List Char) :
    escape (c :: rest) = escapeChar c ++ escape rest := rfl

@[simp] theorem escape_append (text more : List Char) :
    escape (text ++ more) = escape text ++ escape more := by
  simp [escape]

theorem isEscaped_iff {c : Char} :
    isEscaped c = true ↔ c = '&' ∨ c = '<' ∨ c = '>' ∨ c = '"' := by
  simp [isEscaped, or_assoc]

theorem isEscaped_eq_false_iff {c : Char} :
    isEscaped c = false ↔ c ≠ '&' ∧ c ≠ '<' ∧ c ≠ '>' ∧ c ≠ '"' := by
  simp [isEscaped, and_assoc]

theorem escapeChar_plain {c : Char} (plain : isEscaped c = false) : escapeChar c = [c] := by
  obtain ⟨ampersand, less, greater, quote⟩ := isEscaped_eq_false_iff.mp plain
  simp [escapeChar, ampersand, less, greater, quote]

theorem escape_plain {text : List Char} (plain : text.all (fun c => !isEscaped c) = true) :
    escape text = text := by
  induction text with
  | nil => rfl
  | cons c rest ih =>
      simp only [List.all_cons, Bool.and_eq_true, Bool.not_eq_true'] at plain
      rw [escape_cons, escapeChar_plain plain.1, ih plain.2, List.singleton_append]

theorem escape_eq_nil_iff {text : List Char} : escape text = [] ↔ text = [] := by
  cases text with
  | nil => simp
  | cons c rest =>
      simp only [escape_cons, List.append_eq_nil_iff, reduceCtorEq, iff_false, not_and]
      intro none
      simp only [escapeChar] at none
      repeat' split at none
      all_goals simp at none

def references : List (List Char) :=
  ["&amp;".toList, "&lt;".toList, "&gt;".toList, "&quot;".toList]

theorem escapeChar_mem_references {c : Char} (escaped : isEscaped c = true) :
    escapeChar c ∈ references := by
  rcases isEscaped_iff.mp escaped with rfl | rfl | rfl | rfl <;> decide

theorem escapeInTurn_cons (c : Char) (rest : List Char) :
    escapeInTurn (c :: rest) = escapeInTurn [c] ++ escapeInTurn rest := by
  simp [escapeInTurn, replace]

theorem escapeInTurn_singleton (c : Char) : escapeInTurn [c] = escapeChar c := by
  by_cases escaped : isEscaped c = true
  · rcases isEscaped_iff.mp escaped with rfl | rfl | rfl | rfl <;> decide
  · have plain := Bool.eq_false_iff.mpr escaped
    obtain ⟨ampersand, less, greater, quote⟩ := isEscaped_eq_false_iff.mp plain
    rw [escapeChar_plain plain]
    simp [escapeInTurn, replace, ampersand, less, greater, quote]

theorem escapeInTurn_eq_escape (text : List Char) : escapeInTurn text = escape text := by
  induction text with
  | nil => rfl
  | cons c rest ih => rw [escapeInTurn_cons, escapeInTurn_singleton, ih, escape_cons]

theorem unescape_cons {c : Char} (other : c ≠ '&') (rest : List Char) :
    unescape (c :: rest) = c :: unescape rest := by
  apply unescape.eq_5 <;> (intro _ ampersand; exact absurd ampersand other)

theorem unescape_escapeChar (c : Char) (rest : List Char) :
    unescape (escapeChar c ++ rest) = c :: unescape rest := by
  by_cases escaped : isEscaped c = true
  · rcases isEscaped_iff.mp escaped with rfl | rfl | rfl | rfl <;> rfl
  · have plain := Bool.eq_false_iff.mpr escaped
    have other := (isEscaped_eq_false_iff.mp plain).1
    rw [escapeChar_plain plain, List.singleton_append, unescape_cons other]

theorem unescape_escape (text : List Char) : unescape (escape text) = text := by
  induction text with
  | nil => rfl
  | cons c rest ih => rw [escape_cons, unescape_escapeChar, ih]

theorem mem_escape {text : List Char} {c : Char} (member : c ∈ escape text) :
    c ≠ '<' ∧ c ≠ '>' ∧ c ≠ '"' := by
  obtain ⟨source, _, written⟩ := List.mem_flatMap.mp member
  by_cases escaped : isEscaped source = true
  · have closed : references.all (List.all · fun c => c != '<' && c != '>' && c != '"') = true := by
      decide
    have known := List.all_eq_true.mp closed _ (escapeChar_mem_references escaped)
    simpa [and_assoc] using List.all_eq_true.mp known c written
  · have plain := Bool.eq_false_iff.mpr escaped
    rw [escapeChar_plain plain, List.mem_singleton] at written
    subst c
    exact (isEscaped_eq_false_iff.mp plain).2

/-- An ampersand in what a character is written as stands in front and starts a reference. -/
theorem escapeChar_ampersand {c : Char} {before after : List Char}
    (found : escapeChar c = before ++ '&' :: after) : before = [] ∧ '&' :: after ∈ references := by
  by_cases escaped : isEscaped c = true
  · have known := escapeChar_mem_references escaped
    rw [found] at known
    have alone : ∀ reference ∈ references, '&' ∉ reference.tail := by decide
    cases before with
    | nil => exact ⟨rfl, known⟩
    | cons first before => exact absurd (by simp) (alone _ known)
  · rw [escapeChar_plain (Bool.eq_false_iff.mpr escaped), List.singleton_eq_append_iff] at found
    rcases found with ⟨_, same⟩ | ⟨_, nothing⟩
    · cases same
      exact absurd rfl escaped
    · cases nothing

theorem escape_ampersand {text before after : List Char}
    (found : escape text = before ++ '&' :: after) :
    ∃ reference ∈ references, reference <+: '&' :: after := by
  induction text generalizing before with
  | nil => simp at found
  | cons c rest ih =>
      rw [escape_cons, List.append_eq_append_iff] at found
      rcases found with ⟨between, _, later⟩ | ⟨between, own, split⟩
      · exact ih later
      · cases between with
        | nil => exact @ih [] split.symm
        | cons mark between =>
            rw [List.cons_append, List.cons.injEq] at split
            obtain ⟨rfl, rest⟩ := split
            obtain ⟨_, known⟩ := escapeChar_ampersand own
            exact ⟨_, known, by simp [rest]⟩

end VectorIcon.Text
