import VectorIcon.Source

/-! Runs of accepted characters at the start of a text, and the bytes of texts put together. -/

namespace VectorIcon.Text

def stops (accept : Char → Bool) : List Char → Bool
  | [] => true
  | c :: _ => !accept c

@[simp] theorem stops_nil (accept : Char → Bool) : stops accept [] = true := rfl

@[simp] theorem stops_cons (accept : Char → Bool) (c : Char) (rest : List Char) :
    stops accept (c :: rest) = !accept c := rfl

theorem takeWhile_of_stops {accept : Char → Bool} {rest : List Char}
    (stop : stops accept rest = true) : rest.takeWhile accept = [] := by
  cases rest with
  | nil => rfl
  | cons c rest =>
      have refused : accept c = false := by simpa using stop
      simp [refused]

theorem dropWhile_of_stops {accept : Char → Bool} {rest : List Char}
    (stop : stops accept rest = true) : rest.dropWhile accept = rest := by
  cases rest with
  | nil => rfl
  | cons c rest =>
      have refused : accept c = false := by simpa using stop
      simp [refused]

theorem takeWhile_run {accept : Char → Bool} {run rest : List Char}
    (accepted : run.all accept = true) (stop : stops accept rest = true) :
    (run ++ rest).takeWhile accept = run := by
  rw [List.takeWhile_append_of_pos (List.all_eq_true.mp accepted), takeWhile_of_stops stop,
    List.append_nil]

theorem dropWhile_run {accept : Char → Bool} {run rest : List Char}
    (accepted : run.all accept = true) (stop : stops accept rest = true) :
    (run ++ rest).dropWhile accept = rest := by
  rw [List.dropWhile_append_of_pos (List.all_eq_true.mp accepted), dropWhile_of_stops stop]

/-- What is made of accepted characters starts with none that is kept apart from them. -/
theorem stops_append {accept apart : Char → Bool} {run : List Char} (nonempty : run ≠ [])
    (accepted : run.all accept = true) (disjoint : ∀ c, accept c = true → apart c = false)
    (rest : List Char) : stops apart (run ++ rest) = true := by
  cases run with
  | nil => exact absurd rfl nonempty
  | cons c run =>
      simp only [List.all_cons, Bool.and_eq_true] at accepted
      simp [disjoint c accepted.1]

theorem stops_dropWhile (accept : Char → Bool) (text : List Char) :
    stops accept (text.dropWhile accept) = true := by
  induction text with
  | nil => rfl
  | cons c rest ih =>
      by_cases accepted : accept c = true
      · simpa [accepted] using ih
      · simp [accepted]

@[simp] theorem byteLength_nil : byteLength [] = 0 := rfl

@[simp] theorem byteLength_cons (c : Char) (text : List Char) :
    byteLength (c :: text) = c.utf8Size + byteLength text := by
  simp [byteLength]

@[simp] theorem byteLength_append (text more : List Char) :
    byteLength (text ++ more) = byteLength text + byteLength more := by
  induction text with
  | nil => simp
  | cons c text ih => simp [ih, Nat.add_assoc]

theorem front_of_not_mem {mark : Char} {front text rest : List Char} (absent : mark ∉ front)
    (begins : front <+: text ++ mark :: rest) : front <+: text := by
  induction front generalizing text with
  | nil => exact List.nil_prefix
  | cons c front ih =>
      simp only [List.mem_cons, not_or] at absent
      cases text with
      | nil => exact absurd (List.cons_prefix_cons.mp begins).1.symm absent.1
      | cons d text =>
          obtain ⟨same, begins⟩ := List.cons_prefix_cons.mp begins
          exact List.cons_prefix_cons.mpr ⟨same, ih absent.2 begins⟩

theorem intercalate_cons (separator first : List Char) (others : List (List Char)) :
    List.intercalate separator (first :: others) = first ++ others.flatMap (separator ++ ·) := by
  induction others generalizing first with
  | nil => simp
  | cons second others ih => rw [List.intercalate_cons_cons, ih]; simp

theorem all_intercalate {accept : Char → Bool} {separator : List Char} {pieces : List (List Char)}
    (between : separator.all accept = true) (every : ∀ piece ∈ pieces, piece.all accept = true) :
    (List.intercalate separator pieces).all accept = true := by
  cases pieces with
  | nil => rfl
  | cons first others =>
      rw [intercalate_cons, List.all_append, List.all_flatMap, Bool.and_eq_true]
      refine ⟨every first (by simp), List.all_eq_true.mpr fun piece member => ?_⟩
      rw [List.all_append, between, every piece (List.mem_cons_of_mem _ member), Bool.and_self]

theorem length_le_flatMap {α : Type} (text : α → List Char) (items : List α)
    (nonempty : ∀ item ∈ items, text item ≠ []) : items.length ≤ (items.flatMap text).length := by
  induction items with
  | nil => simp
  | cons first items ih =>
      have positive := List.length_pos_iff.mpr (nonempty first (by simp))
      have others := ih (fun item member => nonempty item (by simp [member]))
      simp only [List.length_cons, List.flatMap_cons, List.length_append]
      omega

theorem length_le_intercalate (separator : List Char) {pieces : List (List Char)}
    (nonempty : ∀ piece ∈ pieces, piece ≠ []) :
    pieces.length ≤ (List.intercalate separator pieces).length := by
  cases pieces with
  | nil => simp
  | cons first others =>
      have positive := List.length_pos_iff.mpr (nonempty first (by simp))
      have rest := length_le_flatMap (separator ++ ·) others
        (fun piece member => by simp [nonempty piece (by simp [member])])
      simp only [intercalate_cons, List.length_append, List.length_cons]
      omega

end VectorIcon.Text
