import VectorIcon.Style
import VectorIcon.Proofs.OrderedMap
import VectorIcon.Proofs.Text.Ascii
import VectorIcon.Proofs.Text.Split
import VectorIcon.Proofs.Text.Trimmed

/-!
What a segment of a text declares. The names that a parsed style has are declared ones: none is empty,
has a blank at an end or holds a colon.
-/

namespace VectorIcon

namespace Text

theorem stops_reverse_cons (accept : Char → Bool) (c : Char) {text : List Char}
    (nonempty : text ≠ []) :
    stops accept (c :: text).reverse = stops accept text.reverse := by
  obtain ⟨last, front, split⟩ := List.exists_cons_of_ne_nil (by simpa using nonempty :
    text.reverse ≠ [])
  simp [split]

end Text

theorem camelCase_hyphen {first second : Char}
    (hyphen : (first = '-' && second.isLower) = true) (rest : List Char) :
    camelCase (first :: second :: rest) = second.toUpper :: camelCase rest := by
  rw [camelCase, if_pos hyphen]

theorem camelCase_plain {first second : Char}
    (plain : ¬(first = '-' && second.isLower) = true) (rest : List Char) :
    camelCase (first :: second :: rest) = first :: camelCase (second :: rest) := by
  rw [camelCase, if_neg plain]

theorem camelCase_ne_nil {text : List Char} (nonempty : text ≠ []) : camelCase text ≠ [] := by
  cases text with
  | nil => exact absurd rfl nonempty
  | cons first rest =>
      cases rest with
      | nil => simp [camelCase]
      | cons second rest =>
          unfold camelCase
          split <;> simp

theorem stops_blank_camelCase {text : List Char} (stop : Text.stops Text.isBlank text = true) :
    Text.stops Text.isBlank (camelCase text) = true := by
  cases text with
  | nil => rfl
  | cons first rest =>
      cases rest with
      | nil => exact stop
      | cons second rest =>
          unfold camelCase
          split
          · rename_i hyphen
            simp only [Bool.and_eq_true, decide_eq_true_eq] at hyphen
            simp [Text.isBlank_of_isUpper (Text.isUpper_toUpper hyphen.2)]
          · exact stop

theorem stops_blank_reverse_camelCase {text : List Char}
    (stop : Text.stops Text.isBlank text.reverse = true) :
    Text.stops Text.isBlank (camelCase text).reverse = true := by
  induction text using camelCase.induct with
  | case1 => rfl
  | case2 c => exact stop
  | case3 first second rest hyphen ih =>
      rw [camelCase_hyphen hyphen]
      cases rest with
      | nil =>
          simp only [Bool.and_eq_true, decide_eq_true_eq] at hyphen
          simp [camelCase, Text.isBlank_of_isUpper (Text.isUpper_toUpper hyphen.2)]
      | cons third rest =>
          rw [Text.stops_reverse_cons _ _ (camelCase_ne_nil (by simp))]
          refine ih ?_
          rwa [Text.stops_reverse_cons _ _ (by simp), Text.stops_reverse_cons _ _ (by simp)] at stop
  | case4 first second rest plain ih =>
      rw [camelCase_plain plain]
      rw [Text.stops_reverse_cons _ _ (camelCase_ne_nil (by simp))]
      refine ih ?_
      rwa [Text.stops_reverse_cons _ _ (by simp)] at stop

theorem trim_camelCase {text : List Char} (trimmed : Text.trim text = text) :
    Text.trim (camelCase text) = camelCase text := by
  obtain ⟨front, back⟩ := (Text.trim_eq_self_iff text).mp trimmed
  exact Text.trim_of_stops (stops_blank_camelCase front) (stops_blank_reverse_camelCase back)

theorem mem_of_mem_camelCase {mark : Char} (other : mark.isUpper = false) {text : List Char}
    (member : mark ∈ camelCase text) : mark ∈ text := by
  induction text using camelCase.induct with
  | case1 => exact member
  | case2 c => exact member
  | case3 first second rest hyphen ih =>
      rw [camelCase_hyphen hyphen, List.mem_cons] at member
      rcases member with rfl | member
      · simp only [Bool.and_eq_true, decide_eq_true_eq] at hyphen
        rw [Text.isUpper_toUpper hyphen.2] at other
        exact absurd other (by decide)
      · simp [ih member]
  | case4 first second rest plain ih =>
      rw [camelCase_plain plain, List.mem_cons] at member
      rcases member with rfl | member
      · simp
      · exact List.mem_cons_of_mem _ (ih member)

namespace Style

structure IsDeclaredName (name : List Char) : Prop where
  nonempty : name ≠ []
  trimmed : Text.trim name = name
  plain : ':' ∉ name

/-- The segment gives the value to the name. -/
inductive Declares : List Char → String → String → Prop
  | segment {before after : List Char} (first : ':' ∉ before) (named : Text.trim before ≠ [])
      (valued : Text.trim after ≠ []) :
      Declares (before ++ ':' :: after) (String.ofList (camelCase (Text.trim before)))
        (String.ofList (Text.trim after))

theorem declaration?_eq_some_iff {segment : List Char} {name value : String} :
    declaration? segment = some (name, value) ↔ Declares segment name value := by
  constructor
  · intro found
    unfold declaration? at found
    split at found
    · cases found
    · rename_i before after split
      obtain ⟨rfl, first⟩ := Text.splitFirst_eq_some split
      simp only [Option.ite_none_left_eq_some, Bool.or_eq_true, List.isEmpty_iff, not_or,
        Option.some.injEq, Prod.mk.injEq] at found
      obtain ⟨⟨named, valued⟩, rfl, rfl⟩ := found
      exact .segment first named valued
  · rintro ⟨first, named, valued⟩
    simp [declaration?, Text.splitFirst_append first, named, valued]

theorem Declares.isDeclaredName {segment : List Char} {name value : String}
    (declares : Declares segment name value) : IsDeclaredName name.toList := by
  obtain ⟨first, named, _⟩ := declares
  rw [String.toList_ofList]
  refine ⟨camelCase_ne_nil named, trim_camelCase (Text.trim_trim _), fun member => first ?_⟩
  exact Text.mem_of_mem_trim (mem_of_mem_camelCase (by decide) member)

theorem exists_declares_of_mem_parse {text : String} {entry : String × String}
    (member : entry ∈ (parse text).entries) :
    ∃ segment, ';' ∉ segment ∧ Declares segment entry.1 entry.2 := by
  obtain ⟨segment, inside, found⟩ := List.mem_filterMap.mp (OrderedMap.mem_ofList member)
  refine ⟨segment, ?_, declaration?_eq_some_iff.mp found⟩
  intro semicolon
  simpa using Text.joined_of_mem_split inside semicolon

theorem parse_declared {text : String} {entry : String × String}
    (member : entry ∈ (parse text).entries) : IsDeclaredName entry.1.toList := by
  obtain ⟨_, _, declares⟩ := exists_declares_of_mem_parse member
  exact declares.isDeclaredName

end Style

end VectorIcon
