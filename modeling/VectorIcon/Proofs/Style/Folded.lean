import VectorIcon.Proofs.Style.ReadBack

/-!
Camel case and hyphens are two spellings of the same names. Camel case leaves no hyphen in front of a
lowercase letter, hyphenation leaves no uppercase letter, and each undoes the other on the names that
the other leaves.
-/

namespace VectorIcon

theorem isUnhyphenated_iff {name : List Char} :
    isUnhyphenated name = true ↔
      ∀ letter : Char, letter.isLower = true → ¬['-', letter] <:+: name := by
  induction name with
  | nil => simp [isUnhyphenated]
  | cons first rest ih =>
      cases rest with
      | nil => simp [isUnhyphenated, List.infix_cons_iff]
      | cons second rest =>
          rw [isUnhyphenated, Bool.and_eq_true, ih]
          constructor
          · rintro ⟨plain, others⟩ letter lower found
            rcases List.infix_cons_iff.mp found with front | inside
            · simp only [List.cons_prefix_cons, List.nil_prefix, and_true] at front
              obtain ⟨rfl, rfl⟩ := front
              simp [lower] at plain
            · exact others letter lower inside
          · intro apart
            refine ⟨?_, fun letter lower inside => apart letter lower (List.infix_cons inside)⟩
            by_cases hyphen : first = '-'
            · subst first
              have begins : ['-', second] <:+: '-' :: second :: rest :=
                (List.prefix_append ['-', second] rest).isInfix
              by_cases lower : second.isLower = true
              · exact absurd begins (apart second lower)
              · simp [lower]
            · simp [hyphen]

theorem exists_camelCase_cons (first : Char) (rest : List Char) :
    ∃ c tail, camelCase (first :: rest) = c :: tail ∧ (c = first ∨ c.isUpper = true) := by
  cases rest with
  | nil => exact ⟨first, [], rfl, .inl rfl⟩
  | cons second rest =>
      by_cases hyphen : (first = '-' && second.isLower) = true
      · have lower := (Bool.and_eq_true_iff.mp hyphen).2
        exact ⟨_, _, camelCase_hyphen hyphen rest, .inr (Text.isUpper_toUpper lower)⟩
      · exact ⟨_, _, camelCase_plain hyphen rest, .inl rfl⟩

theorem isUnhyphenated_of_isUpper {c : Char} {rest : List Char} (upper : c.isUpper = true)
    (plain : isUnhyphenated rest = true) : isUnhyphenated (c :: rest) = true := by
  cases rest with
  | nil => rfl
  | cons second rest =>
      have other : c ≠ '-' := by
        rintro rfl
        exact absurd upper (by decide)
      simp [isUnhyphenated, other, plain]

theorem isUnhyphenated_camelCase (name : List Char) : isUnhyphenated (camelCase name) = true := by
  induction name using camelCase.induct with
  | case1 => rfl
  | case2 c => rfl
  | case3 first second rest hyphen ih =>
      rw [camelCase_hyphen hyphen]
      have lower := (Bool.and_eq_true_iff.mp hyphen).2
      exact isUnhyphenated_of_isUpper (Text.isUpper_toUpper lower) ih
  | case4 first second rest plain ih =>
      rw [camelCase_plain plain]
      -- The next character is the second one, or an uppercase letter that stands for it.
      obtain ⟨c, tail, folded, kept | upper⟩ := exists_camelCase_cons second rest
      · rw [folded] at ih ⊢
        simp [isUnhyphenated, kept ▸ ih, kept, plain]
      · rw [folded] at ih ⊢
        simp [isUnhyphenated, ih, Text.isLower_of_isUpper upper]

theorem camelCase_camelCase (name : List Char) : camelCase (camelCase name) = camelCase name :=
  camelCase_eq_self (isUnhyphenated_camelCase name)

theorem isUpper_of_mem_hyphenate {c : Char} {name : List Char} (member : c ∈ hyphenate name) :
    c.isUpper = false := by
  obtain ⟨written, _, found⟩ := List.mem_flatMap.mp member
  by_cases upper : written.isUpper = true
  · simp only [upper, if_true, List.mem_cons, List.not_mem_nil, or_false] at found
    rcases found with rfl | rfl
    · decide
    · exact Text.isUpper_of_isLower (Text.isLower_toLower upper)
  · simp only [upper, Bool.false_eq_true, if_false, List.mem_singleton] at found
    simpa [found] using upper

section

variable {name : List Char} (lower : ∀ c ∈ name, c.isUpper = false)

include lower

theorem hyphenate_of_lower : hyphenate name = name := by
  induction name with
  | nil => rfl
  | cons c rest ih =>
      rw [hyphenate_cons_of_not_isUpper (lower c (by simp)),
        ih fun other member => lower other (List.mem_cons_of_mem _ member)]

theorem hyphenate_camelCase : hyphenate (camelCase name) = name := by
  induction name using camelCase.induct with
  | case1 => rfl
  | case2 c => exact hyphenate_of_lower lower
  | case3 first second rest hyphen ih =>
      have others := ih fun c member => lower c (by simp [member])
      simp only [Bool.and_eq_true, decide_eq_true_eq] at hyphen
      obtain ⟨rfl, small⟩ := hyphen
      rw [camelCase_hyphen (by simp [small]), hyphenate_cons_of_isUpper (Text.isUpper_toUpper small),
        Text.toLower_toUpper small, others]
  | case4 first second rest plain ih =>
      have others := ih fun c member => lower c (List.mem_cons_of_mem _ member)
      rw [camelCase_plain plain, hyphenate_cons_of_not_isUpper (lower first (by simp)), others]

theorem isBeforeUpper_of_lower (word : List Char) : isBeforeUpper word name = false := by
  rw [isBeforeUpper, Bool.and_eq_false_iff]
  right
  cases split : name.drop word.length with
  | nil => rfl
  | cons c rest =>
      have member : c ∈ name := List.mem_of_mem_drop (by rw [split]; exact List.mem_cons_self)
      exact lower c member

end

end VectorIcon
