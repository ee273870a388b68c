import VectorIcon.Proofs.Attribute.Names
import VectorIcon.Proofs.Element.Everywhere
import VectorIcon.Proofs.Preview.Tree

/-!
Trees that the preview does not change. Every tag and every property can be written as it is, no
property is taken for a declaration, and each attribute that is written leads back to its property.
-/

namespace VectorIcon.Preview

def isKeptChar (c : Char) : Bool :=
  Xml.isXmlChar c && c != '\t' && c != '\n' && c != '\r'

/-- A style stands under the name `style`, and nothing else does. -/
inductive IsReversibleProperty : String × PropertyValue → Prop
  | text {name text : String} (plain : Attribute.IsPlainName name) (other : name ≠ "style")
      (kept : text.toList.all isKeptChar = true) : IsReversibleProperty (name, .text text)
  | style {style : Style} (written : style.IsWritten)
      (kept : ∀ entry ∈ style.entries, entry.1.toList.all isKeptChar = true ∧
        entry.2.toList.all isKeptChar = true) : IsReversibleProperty ("style", .style style)

structure IsReversible (tag : String) (properties : Properties) : Prop where
  tag : isSmallName isTagChar tag.toList = true
  properties : ∀ entry ∈ properties.entries, IsReversibleProperty entry

instance : (entry : String × PropertyValue) → Decidable (IsReversibleProperty entry)
  | (name, .text text) =>
      decidable_of_iff (Attribute.IsPlainName name ∧ name ≠ "style" ∧
          text.toList.all isKeptChar = true)
        ⟨fun ⟨plain, other, kept⟩ => .text plain other kept,
          fun | .text plain other kept => ⟨plain, other, kept⟩⟩
  | (name, .style style) =>
      decidable_of_iff (name = "style" ∧ style.IsWritten ∧ ∀ entry ∈ style.entries,
          entry.1.toList.all isKeptChar = true ∧ entry.2.toList.all isKeptChar = true)
        ⟨fun ⟨named, written, kept⟩ => named ▸ .style written kept,
          fun | .style written kept => ⟨rfl, written, kept⟩⟩

instance (tag : String) (properties : Properties) : Decidable (IsReversible tag properties) :=
  decidable_of_iff (isSmallName isTagChar tag.toList = true ∧
      ∀ entry ∈ properties.entries, IsReversibleProperty entry)
    ⟨fun ⟨tag, properties⟩ => ⟨tag, properties⟩, fun reversible => ⟨reversible.1, reversible.2⟩⟩

theorem isXmlChar_of_isKeptChar {c : Char} (kept : isKeptChar c = true) :
    Xml.isXmlChar c = true := by
  simp only [isKeptChar, Bool.and_eq_true] at kept
  exact kept.1.1.1

theorem readValue_of_kept {given : Xml.NamedValue}
    (kept : given.2.toList.all isKeptChar = true) : Xml.readValue given = given := by
  have plain : ∀ c ∈ given.2.toList, c ≠ '\t' ∧ c ≠ '\n' ∧ c ≠ '\r' := by
    intro c member
    have accepted := List.all_eq_true.mp kept c member
    simp only [isKeptChar, Bool.and_eq_true, bne_iff_ne] at accepted
    exact ⟨accepted.1.1.2, accepted.1.2, accepted.2⟩
  rw [Xml.readValue, Xml.normalizeRun_eq_self plain, String.ofList_toList]

theorem isKeptChar_of_isLower {c : Char} (lower : c.isLower = true) : isKeptChar c = true :=
  Text.forall_ascii (fun c => c.isLower = true → isKeptChar c = true) (by decide)
    (Text.ascii_of_isLower lower) lower

theorem all_cssDeclaration_kept {entry : String × String}
    (name : Style.IsWrittenName entry.1.toList) (kept : entry.1.toList.all isKeptChar = true ∧
      entry.2.toList.all isKeptChar = true) :
    (Style.cssDeclaration entry).all isKeptChar = true := by
  have hyphenated : (hyphenate entry.1.toList).all isKeptChar = true := by
    refine List.all_eq_true.mpr fun c member => ?_
    rcases mem_of_mem_hyphenate member with rfl | lower | inside
    · decide
    · exact isKeptChar_of_isLower lower
    · exact List.all_eq_true.mp kept.1 c inside
  have colon : isKeptChar ':' = true := by decide
  simp only [Style.cssDeclaration, Style.cssName_eq_hyphenate name, List.all_append, List.all_cons,
    hyphenated, colon, kept.2, Bool.and_self]

section

variable {entry : String × PropertyValue} (reversible : IsReversibleProperty entry)

include reversible

theorem all_valueText_kept : (valueText entry.2).all isKeptChar = true := by
  cases reversible with
  | text _ _ kept => exact kept
  | style written kept =>
      refine Text.all_intercalate (by decide) fun piece member => ?_
      obtain ⟨declared, inside, rfl⟩ := List.mem_map.mp member
      exact all_cssDeclaration_kept (written declared inside).1 (kept declared inside)

theorem plainName_of_reversible : Attribute.IsPlainName entry.1 := by
  cases reversible with
  | text plain _ _ => exact plain
  | style _ _ => exact Attribute.isPlainName_style

theorem normalize_of_reversible :
    Attribute.normalize (Attribute.markupName entry.1) (String.ofList (valueText entry.2)) =
      entry := by
  cases reversible with
  | text plain other kept =>
      have apart := mt (Attribute.markupName_eq_style_iff plain).mp other
      simp only [Attribute.normalize, apart, if_false, Attribute.propertyName_markupName plain,
        valueText, String.ofList_toList]
  | style written kept =>
      have named : Attribute.markupName "style" = "style" :=
        (Attribute.markupName_eq_style_iff Attribute.isPlainName_style).mpr rfl
      simp only [Attribute.normalize, named, if_true, valueText, Style.parse_cssText written]

theorem declaredOnRoot_of_reversible : declaredOnRoot entry = false := by
  have plain := plainName_of_reversible reversible
  obtain ⟨name, value⟩ := entry
  cases value with
  | style style => rfl
  | text text =>
      have unreserved := plain.unreserved
      have colon := colon_not_mem_of_isSmallName plain.small
      simp only [Attribute.reservedNames, List.mem_cons, List.not_mem_nil, or_false, not_or]
        at unreserved
      have qualified : name ≠ "xmlns:xlink" := by
        rintro rfl
        have marked : ':' ∈ "xmlns:xlink".toList := by decide
        exact colon marked
      simp [declaredOnRoot, unreserved, qualified]

theorem namedValue_of_reversible :
    namedValue entry =
      (⟨"", Attribute.markupName entry.1⟩, String.ofList (valueText entry.2)) := by
  have small := Attribute.isSmallName_markupName (plainName_of_reversible reversible)
  rw [namedValue, nameOf_of_not_mem (colon_not_mem_of_isSmallName small), String.ofList_toList]

end

end VectorIcon.Preview
