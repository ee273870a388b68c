import VectorIcon.Text.Blank

/-! Splitting: pieces without a separator come back from the text that joins them with one. -/

namespace VectorIcon.Text

section

variable {separator : Char → Bool}

theorem split_of_joined {text : List Char} (joined : ∀ c ∈ text, separator c = false) :
    split separator text = [text] := by
  induction text with
  | nil => rfl
  | cons c rest ih =>
      have first := joined c (by simp)
      have others := ih fun other member => joined other (List.mem_cons_of_mem _ member)
      simp [split, first, others]

theorem exists_split_cons (separator : Char → Bool) (text : List Char) :
    ∃ piece pieces, split separator text = piece :: pieces := by
  cases text with
  | nil => exact ⟨[], [], rfl⟩
  | cons c rest =>
      unfold split
      split
      · exact ⟨_, _, rfl⟩
      · split <;> exact ⟨_, _, rfl⟩

theorem joined_of_mem_split {text piece : List Char} (member : piece ∈ split separator text)
    {c : Char} (inside : c ∈ piece) : separator c = false := by
  induction text generalizing piece with
  | nil =>
      rw [split, List.mem_singleton] at member
      subst piece
      cases inside
  | cons first rest ih =>
      obtain ⟨head, others, pieces⟩ := exists_split_cons separator rest
      rw [split, pieces] at member
      rw [pieces] at ih
      by_cases separates : separator first = true
      · rw [if_pos separates, List.mem_cons] at member
        rcases member with rfl | later
        · cases inside
        · exact ih later inside
      · rw [if_neg separates] at member
        rcases List.mem_cons.mp member with rfl | later
        · rcases List.mem_cons.mp inside with rfl | deeper
          · simpa using separates
          · exact ih List.mem_cons_self deeper
        · exact ih (List.mem_cons_of_mem _ later) inside

variable {mark : Char} (separates : separator mark = true)

include separates

theorem split_around (text rest : List Char) :
    split separator (text ++ mark :: rest) = split separator text ++ split separator rest := by
  induction text with
  | nil => simp [split, separates]
  | cons c text ih =>
      obtain ⟨piece, pieces, found⟩ := exists_split_cons separator text
      by_cases first : separator c = true
      · simp [split, first, ih]
      · simp [split, first, ih, found]

theorem split_append {text : List Char} (joined : ∀ c ∈ text, separator c = false)
    (rest : List Char) : split separator (text ++ mark :: rest) = text :: split separator rest := by
  rw [split_around separates, split_of_joined joined, List.singleton_append]

theorem split_intercalate {pieces : List (List Char)} (nonempty : pieces ≠ [])
    (joined : ∀ piece ∈ pieces, ∀ c ∈ piece, separator c = false) :
    split separator (List.intercalate [mark] pieces) = pieces := by
  induction pieces with
  | nil => exact absurd rfl nonempty
  | cons piece pieces ih =>
      have first := joined piece (by simp)
      cases pieces with
      | nil => simpa using split_of_joined first
      | cons second pieces =>
          have others := ih (by simp) fun other member =>
            joined other (List.mem_cons_of_mem _ member)
          rw [List.intercalate_cons_cons, List.append_assoc, List.singleton_append,
            split_append separates first, others]

end

theorem splitFirst_eq_some {mark : Char} {text before after : List Char}
    (found : splitFirst mark text = some (before, after)) :
    text = before ++ mark :: after ∧ mark ∉ before := by
  induction text generalizing before with
  | nil => simp [splitFirst] at found
  | cons c rest ih =>
      by_cases same : c = mark
      · simp only [splitFirst, same, if_true, Option.some.injEq, Prod.mk.injEq] at found
        obtain ⟨rfl, rfl⟩ := found
        simp [same]
      · simp only [splitFirst, same, if_false, Option.map_eq_some_iff, Prod.mk.injEq,
          Prod.exists] at found
        obtain ⟨front, back, inside, rfl, rfl⟩ := found
        obtain ⟨split, absent⟩ := ih inside
        have other : mark ≠ c := fun equal => same equal.symm
        simp [split, absent, other]

theorem splitFirst_append {mark : Char} {text : List Char} (absent : mark ∉ text)
    (rest : List Char) : splitFirst mark (text ++ mark :: rest) = some (text, rest) := by
  induction text with
  | nil => simp [splitFirst]
  | cons c text ih =>
      simp only [List.mem_cons, not_or] at absent
      have other : c ≠ mark := fun same => absent.1 same.symm
      simp [splitFirst, other, ih absent.2]

theorem splitFirst_eq_none {mark : Char} {text : List Char} (absent : mark ∉ text) :
    splitFirst mark text = none := by
  induction text with
  | nil => rfl
  | cons c text ih =>
      simp only [List.mem_cons, not_or] at absent
      have other : c ≠ mark := fun same => absent.1 same.symm
      simp [splitFirst, other, ih absent.2]

theorem dropLeading_eq (word text : List Char) :
    dropLeading word text =
      if word.isPrefixOf text then some (text.drop word.length) else none := by
  induction word generalizing text with
  | nil => simp [dropLeading]
  | cons expected word ih =>
      cases text with
      | nil => simp [dropLeading]
      | cons c rest =>
          by_cases same : expected = c
          · simp [dropLeading, same, ih]
          · simp [dropLeading, same, List.isPrefixOf]

end VectorIcon.Text
