import VectorIcon.Proofs.Style.Declared

/-!
Styles that come back from their CSS text. Camel case undoes hyphens where no name has a hyphen in
front of a lowercase letter, and the declarations fall apart again at their semicolons and colons.
-/

namespace VectorIcon

/-- No hyphen stands in front of a lowercase letter, where camel case would take it away. -/
def isUnhyphenated : List Char → Bool
  | [] => true
  | [_] => true
  | first :: second :: rest =>
      !(first = '-' && second.isLower) && isUnhyphenated (second :: rest)

theorem isUnhyphenated_cons {first : Char} {rest : List Char}
    (plain : isUnhyphenated (first :: rest) = true) : isUnhyphenated rest = true := by
  cases rest with
  | nil => rfl
  | cons second rest =>
      simp only [isUnhyphenated, Bool.and_eq_true] at plain
      exact plain.2

theorem camelCase_eq_self {name : List Char} (plain : isUnhyphenated name = true) :
    camelCase name = name := by
  induction name with
  | nil => rfl
  | cons first rest ih =>
      have tail := ih (isUnhyphenated_cons plain)
      cases rest with
      | nil => rfl
      | cons second rest =>
          simp only [isUnhyphenated, Bool.and_eq_true, Bool.not_eq_true'] at plain
          rw [camelCase_plain (by simp [plain.1]), tail]

def isBeforeUpper (word name : List Char) : Bool :=
  word.isPrefixOf name && startsUpper (name.drop word.length)

theorem startsUpper_of_dropLeading {word name rest : List Char}
    (behind : isBeforeUpper word name = false)
    (found : Text.dropLeading word name = some rest) : startsUpper rest = false := by
  rw [Text.dropLeading_eq, Option.ite_none_right_eq_some, Option.some.injEq] at found
  obtain ⟨begins, rfl⟩ := found
  simpa [isBeforeUpper, begins] using behind

theorem hyphenate_cons_of_isUpper {c : Char} (upper : c.isUpper = true) (rest : List Char) :
    hyphenate (c :: rest) = '-' :: c.toLower :: hyphenate rest := by
  simp [hyphenate, upper]

theorem hyphenate_cons_of_not_isUpper {c : Char} (upper : c.isUpper = false) (rest : List Char) :
    hyphenate (c :: rest) = c :: hyphenate rest := by
  simp [hyphenate, upper]

theorem camelCase_hyphenate {name : List Char} (plain : isUnhyphenated name = true) :
    camelCase (hyphenate name) = name := by
  induction name with
  | nil => rfl
  | cons first rest ih =>
      have tail := ih (isUnhyphenated_cons plain)
      by_cases upper : first.isUpper = true
      · have lower := Text.isLower_toLower upper
        rw [hyphenate_cons_of_isUpper upper, camelCase_hyphen (by simp [lower]), tail,
          Text.toUpper_toLower upper]
      · rw [hyphenate_cons_of_not_isUpper (by simpa using upper)]
        cases rest with
        | nil => rfl
        | cons second rest =>
            by_cases upperSecond : second.isUpper = true
            · rw [hyphenate_cons_of_isUpper upperSecond] at tail ⊢
              rw [camelCase_plain (by simp), tail]
            · rw [hyphenate_cons_of_not_isUpper (by simpa using upperSecond)] at tail ⊢
              simp only [isUnhyphenated, Bool.and_eq_true, Bool.not_eq_true'] at plain
              rw [camelCase_plain (by simp [plain.1]), tail]

theorem mem_of_mem_hyphenate {mark : Char} {name : List Char} (member : mark ∈ hyphenate name) :
    mark = '-' ∨ mark.isLower = true ∨ mark ∈ name := by
  obtain ⟨c, inside, found⟩ := List.mem_flatMap.mp member
  by_cases upper : c.isUpper = true
  · simp only [upper, if_true, List.mem_cons, List.not_mem_nil, or_false] at found
    rcases found with hyphen | lower
    · exact Or.inl hyphen
    · exact Or.inr (Or.inl (lower ▸ Text.isLower_toLower upper))
  · simp only [upper, Bool.false_eq_true, if_false, List.mem_singleton] at found
    exact Or.inr (Or.inr (found ▸ inside))

theorem hyphenate_ne_nil {name : List Char} (nonempty : name ≠ []) : hyphenate name ≠ [] := by
  intro empty
  cases name with
  | nil => exact nonempty rfl
  | cons c rest =>
      by_cases upper : c.isUpper = true
      · simp [hyphenate_cons_of_isUpper upper] at empty
      · simp [hyphenate_cons_of_not_isUpper (by simpa using upper)] at empty

theorem trim_hyphenate {name : List Char} (trimmed : Text.trim name = name) :
    Text.trim (hyphenate name) = hyphenate name := by
  obtain ⟨front, back⟩ := (Text.trim_eq_self_iff name).mp trimmed
  refine Text.trim_of_stops ?_ ?_
  · cases name with
    | nil => rfl
    | cons c rest =>
        by_cases upper : c.isUpper = true
        · rw [hyphenate_cons_of_isUpper upper]
          rfl
        · rw [hyphenate_cons_of_not_isUpper (by simpa using upper)]
          exact front
  · rcases List.eq_nil_or_concat name with rfl | ⟨first, last, rfl⟩
    · rfl
    · by_cases upper : last.isUpper = true
      · have solid := Text.isBlank_of_isLower (Text.isLower_toLower upper)
        simp [hyphenate, upper, solid]
      · simpa [hyphenate, upper] using back

namespace Style

structure IsWrittenName (name : List Char) : Prop extends IsDeclaredName name where
  closed : ';' ∉ name
  unhyphenated : isUnhyphenated name = true
  unprefixed : isBeforeUpper ['m', 's'] name = false

structure IsWrittenValue (value : List Char) : Prop where
  nonempty : value ≠ []
  trimmed : Text.trim value = value
  closed : ';' ∉ value

def IsWritten (style : Style) : Prop :=
  ∀ entry ∈ style.entries, IsWrittenName entry.1.toList ∧ IsWrittenValue entry.2.toList

instance (name : List Char) : Decidable (IsWrittenName name) :=
  decidable_of_iff ((name ≠ [] ∧ Text.trim name = name ∧ ':' ∉ name) ∧ ';' ∉ name ∧
      isUnhyphenated name = true ∧ isBeforeUpper ['m', 's'] name = false)
    ⟨fun ⟨⟨nonempty, trimmed, plain⟩, closed, unhyphenated, unprefixed⟩ =>
      ⟨⟨nonempty, trimmed, plain⟩, closed, unhyphenated, unprefixed⟩,
      fun written => ⟨⟨written.nonempty, written.trimmed, written.plain⟩, written.closed,
        written.unhyphenated, written.unprefixed⟩⟩

instance (value : List Char) : Decidable (IsWrittenValue value) :=
  decidable_of_iff (value ≠ [] ∧ Text.trim value = value ∧ ';' ∉ value)
    ⟨fun ⟨nonempty, trimmed, closed⟩ => ⟨nonempty, trimmed, closed⟩,
      fun written => ⟨written.1, written.2, written.3⟩⟩

instance (style : Style) : Decidable style.IsWritten :=
  inferInstanceAs (Decidable (∀ entry ∈ style.entries,
    IsWrittenName entry.1.toList ∧ IsWrittenValue entry.2.toList))

theorem cssName_eq_hyphenate {name : List Char} (written : IsWrittenName name) :
    cssName name = hyphenate name := by
  unfold cssName
  split
  · rename_i rest vendor
    rw [startsUpper_of_dropLeading written.unprefixed vendor]
    rfl
  · rfl

variable {entry : String × String} (name : IsWrittenName entry.1.toList)
  (value : IsWrittenValue entry.2.toList)

include name value

theorem declaration?_cssDeclaration : declaration? (cssDeclaration entry) = some entry := by
  have colon : ':' ∉ hyphenate entry.1.toList := by
    intro member
    rcases mem_of_mem_hyphenate member with hyphen | lower | inside
    · exact absurd hyphen (by decide)
    · exact absurd lower (by decide)
    · exact name.plain inside
  have apart := Text.splitFirst_append colon entry.2.toList
  have front : (hyphenate entry.1.toList).isEmpty = false := by
    simpa using hyphenate_ne_nil name.nonempty
  have back : entry.2.toList.isEmpty = false := by
    simpa using value.nonempty
  simp only [declaration?, cssDeclaration, cssName_eq_hyphenate name, apart,
    trim_hyphenate name.trimmed, value.trimmed, front, back, Bool.or_self, Bool.false_eq_true,
    if_false, camelCase_hyphenate name.unhyphenated, String.ofList_toList]

theorem semicolon_not_mem_cssDeclaration : ';' ∉ cssDeclaration entry := by
  intro member
  simp only [cssDeclaration, cssName_eq_hyphenate name, List.mem_append, List.mem_cons] at member
  rcases member with inside | colon | inside
  · rcases mem_of_mem_hyphenate inside with hyphen | lower | inside
    · exact absurd hyphen (by decide)
    · exact absurd lower (by decide)
    · exact name.closed inside
  · exact absurd colon (by decide)
  · exact value.closed inside

omit name value

theorem filterMap_cssDeclaration {entries : List (String × String)}
    (written : ∀ entry ∈ entries, IsWrittenName entry.1.toList ∧ IsWrittenValue entry.2.toList) :
    (entries.map cssDeclaration).filterMap declaration? = entries := by
  induction entries with
  | nil => rfl
  | cons entry entries ih =>
      obtain ⟨name, value⟩ := written entry (by simp)
      have others := ih fun other member => written other (List.mem_cons_of_mem _ member)
      rw [List.map_cons, List.filterMap_cons, declaration?_cssDeclaration name value, others]

theorem declarations_cssText {style : Style} (written : style.IsWritten) :
    declarations style.cssText = style.entries := by
  by_cases empty : style.entries = []
  · rw [declarations, cssText, empty]
    rfl
  · have closed : ∀ piece ∈ style.entries.map cssDeclaration, ∀ c ∈ piece, (c == ';') = false := by
      intro piece member c present
      obtain ⟨entry, inside, rfl⟩ := List.mem_map.mp member
      obtain ⟨name, value⟩ := written entry inside
      refine beq_eq_false_iff_ne.mpr ?_
      rintro rfl
      exact semicolon_not_mem_cssDeclaration name value present
    have nonempty : style.entries.map cssDeclaration ≠ [] := by simpa using empty
    have pieces : Text.split (· == ';')
        (List.intercalate [';'] (style.entries.map cssDeclaration)) =
          style.entries.map cssDeclaration :=
      Text.split_intercalate rfl nonempty closed
    rw [declarations, cssText, pieces]
    exact filterMap_cssDeclaration written

/-- A style is read back from its CSS text. -/
theorem parse_cssText {style : Style} (written : style.IsWritten) :
    parse (String.ofList style.cssText) = style := by
  rw [parse, String.toList_ofList, declarations_cssText written]
  exact OrderedMap.ofList_entries style

end Style

end VectorIcon
