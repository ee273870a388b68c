import VectorIcon.Text.Blank
import VectorIcon.Proofs.Text.Runs

/-! Trimming: a text is trimmed exactly when no blank stands at either end of it. -/

namespace VectorIcon.Text

theorem stops_of_prefix {accept : Char → Bool} {text whole : List Char} (front : text <+: whole)
    (stop : stops accept whole = true) : stops accept text = true := by
  obtain ⟨rest, rfl⟩ := front
  cases text with
  | nil => rfl
  | cons c text => simpa using stop

theorem trimEnd_front (text : List Char) : trimEnd text <+: text := by
  have tail : text.reverse.dropWhile isBlank <:+ text.reverse := List.dropWhile_suffix isBlank
  simpa [trimEnd] using List.reverse_prefix.mpr tail

theorem stops_trim (text : List Char) : stops isBlank (trim text) = true :=
  stops_of_prefix (trimEnd_front _) (stops_dropWhile isBlank text)

theorem stops_reverse_trim (text : List Char) : stops isBlank (trim text).reverse = true := by
  simpa [trim, trimEnd] using stops_dropWhile isBlank (trimStart text).reverse

theorem trim_of_stops {text : List Char} (front : stops isBlank text = true)
    (back : stops isBlank text.reverse = true) : trim text = text := by
  rw [trim, trimStart, dropWhile_of_stops front, trimEnd, dropWhile_of_stops back,
    List.reverse_reverse]

theorem stops_of_solid {text : List Char} (solid : ∀ c ∈ text, isBlank c = false) :
    stops isBlank text = true := by
  cases text with
  | nil => rfl
  | cons c rest => simp [solid c (by simp)]

theorem trim_of_solid {text : List Char} (solid : ∀ c ∈ text, isBlank c = false) :
    trim text = text :=
  trim_of_stops (stops_of_solid solid)
    (stops_of_solid fun c member => solid c (List.mem_reverse.mp member))

theorem trim_eq_self_iff (text : List Char) :
    trim text = text ↔ stops isBlank text = true ∧ stops isBlank text.reverse = true := by
  constructor
  · intro same
    rw [← same]
    exact ⟨stops_trim text, stops_reverse_trim text⟩
  · rintro ⟨front, back⟩
    exact trim_of_stops front back

theorem trim_trim (text : List Char) : trim (trim text) = trim text :=
  trim_of_stops (stops_trim text) (stops_reverse_trim text)

theorem trimStart_trimStart (text : List Char) : trimStart (trimStart text) = trimStart text :=
  dropWhile_of_stops (stops_dropWhile isBlank text)

theorem trim_trimStart (text : List Char) : trim (trimStart text) = trim text := by
  rw [trim, trim, trimStart_trimStart]

theorem trimStart_eq (text : List Char) :
    ∃ gap, gap.all isBlank = true ∧ trimStart text = trim text ++ gap := by
  let gap := ((trimStart text).reverse.takeWhile isBlank).reverse
  refine ⟨gap, ?_, ?_⟩
  · rw [List.all_reverse]
    exact List.all_takeWhile
  · rw [trim, trimEnd, ← List.reverse_append, List.takeWhile_append_dropWhile, List.reverse_reverse]

theorem trimStart_append {text : List Char} (present : trimStart text ≠ []) (more : List Char) :
    trimStart (text ++ more) = trimStart text ++ more := by
  have solid : (text.dropWhile isBlank).isEmpty = false := List.isEmpty_eq_false_iff.mpr present
  rw [trimStart, List.dropWhile_append, solid]
  rfl

theorem trim_eq_nil_iff {text : List Char} : trim text = [] ↔ ∀ c ∈ text, isBlank c = true := by
  constructor
  · intro empty
    obtain ⟨gap, blank, split⟩ := trimStart_eq text
    have front := stops_dropWhile isBlank text
    rw [empty, List.nil_append] at split
    change stops isBlank (trimStart text) = true at front
    -- What is left after the blanks at the start is blank, so nothing is left.
    have nothing : trimStart text = [] := by
      cases gap with
      | nil => exact split
      | cons c gap =>
          rw [split] at front
          simp only [List.all_cons, Bool.and_eq_true] at blank
          simp [blank.1] at front
    have whole : text.takeWhile isBlank ++ trimStart text = text := List.takeWhile_append_dropWhile
    rw [nothing, List.append_nil] at whole
    rw [← whole]
    exact List.all_eq_true.mp List.all_takeWhile
  · intro blank
    have nothing : (text ++ []).dropWhile isBlank = [] := List.dropWhile_append_of_pos blank
    rw [List.append_nil] at nothing
    rw [trim, trimStart, nothing]
    rfl

theorem mem_of_mem_trim {c : Char} {text : List Char} (member : c ∈ trim text) : c ∈ text :=
  (List.dropWhile_suffix isBlank).subset ((trimEnd_front _).subset member)

theorem trim_ne_nil {c : Char} (solid : isBlank c = false) (rest : List Char) :
    trim (c :: rest) ≠ [] := by
  intro empty
  have start : trimStart (c :: rest) = c :: rest := by simp [trimStart, solid]
  rw [trim, start, trimEnd, List.reverse_eq_nil_iff, List.reverse_cons, List.dropWhile_append]
    at empty
  split at empty
  · simp [solid] at empty
  · simp at empty

theorem trim_append_ne_nil {text : List Char} (present : trim text ≠ []) (more : List Char) :
    trim (text ++ more) ≠ [] := by
  obtain ⟨gap, _, split⟩ := trimStart_eq text
  obtain ⟨c, rest, begins⟩ := List.exists_cons_of_ne_nil present
  have solid : isBlank c = false := by
    have front := stops_trim text
    rw [begins] at front
    simpa using front
  have start : trimStart text ≠ [] := by
    rw [split]
    exact List.append_ne_nil_of_left_ne_nil present gap
  rw [← trim_trimStart, trimStart_append start, split, begins]
  exact trim_ne_nil solid _

end VectorIcon.Text
