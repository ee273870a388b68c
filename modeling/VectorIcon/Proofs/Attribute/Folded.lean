import VectorIcon.Proofs.Attribute.Names
import VectorIcon.Proofs.Style.Folded

/-!
Attribute names that come back from camel case. A name in lower case is written as it was read, unless
its property name is one that a table or a qualifier claims, and an attribute name that has been
written is not changed when it is written again.
-/

namespace VectorIcon.Attribute

/-- The property name is written by its hyphens alone. -/
structure IsFoldable (name : String) : Prop where
  lower : ∀ c ∈ name.toList, c.isUpper = false
  unqualified : ':' ∉ name.toList
  unlisted : propertyName name ∉ camelCaseNames
  unaliased : propertyName name ∉ aliasedNames
  apart : ∀ qualifier ∈ ["xml", "xlink"],
    isBeforeUpper qualifier.toList (propertyName name).toList = false

theorem markupName_of_colon {property : String} (qualified : ':' ∈ property.toList) :
    markupName property = property := by
  have unqualified : ∀ name ∈ aliasedNames, ':' ∉ name.toList := by decide
  have unaliased : property ∉ aliasedNames := fun member => unqualified property member qualified
  simp [markupName, lookup_aliases unaliased, qualified]

theorem lower_of_all {text : List Char} (checked : (text.all fun c => !c.isUpper) = true) :
    ∀ c ∈ text, c.isUpper = false := by
  simpa using checked

theorem markupName_of_lower {property : String} (lower : ∀ c ∈ property.toList, c.isUpper = false) :
    markupName property = property := by
  have capital : ∀ name ∈ aliasedNames, ∃ c ∈ name.toList, c.isUpper = true := by
    simp [aliasedNames]
  have unaliased : property ∉ aliasedNames := by
    intro member
    obtain ⟨c, inside, upper⟩ := capital property member
    rw [lower c inside] at upper
    cases upper
  have spelled : derivedName property.toList = property.toList := by
    rw [derivedName_eq_hyphenate fun qualifier _ => isBeforeUpper_of_lower lower qualifier.toList,
      hyphenate_of_lower lower]
  simp [markupName, lookup_aliases unaliased, spelled]

theorem markupName_markupName (property : String) :
    markupName (markupName property) = markupName property := by
  rcases markupName_cases property with known | same | ⟨_, derived⟩
  · simp only [aliases, List.mem_cons, Prod.mk.injEq, List.not_mem_nil, or_false] at known
    rcases known with ⟨_, written⟩ | ⟨_, written⟩ | ⟨_, written⟩
    · rw [written]
      exact markupName_of_lower (lower_of_all (by decide))
    · rw [written]
      exact markupName_of_lower (lower_of_all (by decide))
    · rw [written]
      exact markupName_of_colon (by decide)
  · rw [same, same]
  · rw [derived]
    rcases derivedName_cases property.toList with ⟨rest, spelled⟩ | ⟨rest, spelled⟩ | spelled
    · exact markupName_of_colon (by simp [spelled])
    · exact markupName_of_colon (by simp [spelled])
    · rw [spelled]
      refine markupName_of_lower fun c member => ?_
      rw [String.toList_ofList] at member
      exact isUpper_of_mem_hyphenate member

theorem markupName_propertyName {name : String} (foldable : IsFoldable name) :
    markupName (propertyName name) = name := by
  have unqualified : ':' ∉ (propertyName name).toList := by
    intro member
    rw [propertyName, String.toList_ofList] at member
    exact foldable.unqualified (mem_of_mem_camelCase (by decide) member)
  have spelled : derivedName (propertyName name).toList = name.toList := by
    rw [derivedName_eq_hyphenate foldable.apart, propertyName, String.toList_ofList,
      hyphenate_camelCase foldable.lower]
  simp [markupName, lookup_aliases foldable.unaliased, unqualified, foldable.unlisted, spelled]

/-- Camel case folds all there is to fold, hyphens bring it back, and writing a name twice is
writing it once. -/
theorem names_come_back (name : String) :
    (∀ letter : Char, letter.isLower = true → ¬['-', letter] <:+: (propertyName name).toList) ∧
      propertyName (propertyName name) = propertyName name ∧
      (IsFoldable name → markupName (propertyName name) = name) ∧
      markupName (markupName name) = markupName name := by
  refine ⟨?_, ?_, markupName_propertyName, markupName_markupName name⟩
  · rw [propertyName, String.toList_ofList]
    exact isUnhyphenated_iff.mp (isUnhyphenated_camelCase name.toList)
  · rw [propertyName, propertyName, String.toList_ofList, camelCase_camelCase]

theorem names_come_back_runs :
    IsFoldable "-data--icon-1-é-" ∧ propertyName "-data--icon-1-é-" = "Data-Icon-1-é-" ∧
      markupName "Data-Icon-1-é-" = "-data--icon-1-é-" := by
  have foldable : IsFoldable "-data--icon-1-é-" :=
    ⟨lower_of_all (by decide +kernel), by decide +kernel, by decide +kernel, by decide +kernel,
      by decide +kernel⟩
  have folded : propertyName "-data--icon-1-é-" = "Data-Icon-1-é-" := by decide +kernel
  obtain ⟨_, _, back, _⟩ := names_come_back "-data--icon-1-é-"
  have written := back foldable
  rw [folded] at written
  exact ⟨foldable, folded, written⟩

end VectorIcon.Attribute
