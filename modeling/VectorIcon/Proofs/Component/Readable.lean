import VectorIcon.Component.Grammar
import VectorIcon.Proofs.Element.Everywhere

/-!
Trees whose component source can be read. Names keep to the characters of the grammar, and a value
does not hold the quote that ends it; nothing else is asked of a value.
-/

namespace VectorIcon.Component

structure IsName (text : List Char) : Prop where
  nonempty : text ≠ []
  accepted : text.all isNameChar = true

structure IsIdent (text : List Char) : Prop where
  nonempty : text ≠ []
  accepted : text.all isIdentChar = true

structure IsStyleName (text : List Char) : Prop where
  nonempty : text ≠ []
  trimmed : Text.trim text = text
  accepted : text.all isStyleNameChar = true

structure IsStyleEntry (entry : String × String) : Prop where
  name : IsStyleName entry.1.toList
  value : '\'' ∉ entry.2.toList

/-- A style stands under the name `style`; a text may stand under any name, that one included. -/
inductive IsProperty : String × PropertyValue → Prop
  | text {name text : String} (named : IsName name.toList) (unquoted : '"' ∉ text.toList) :
      IsProperty (name, .text text)
  | style {style : Style} (entries : ∀ entry ∈ style.entries, IsStyleEntry entry) :
      IsProperty ("style", .style style)

structure IsReadable (tag : String) (properties : Properties) : Prop where
  tag : IsName tag.toList
  properties : ∀ entry ∈ properties.entries, IsProperty entry

instance (text : List Char) : Decidable (IsName text) :=
  decidable_of_iff (text ≠ [] ∧ text.all isNameChar = true)
    ⟨fun ⟨nonempty, accepted⟩ => ⟨nonempty, accepted⟩, fun named => ⟨named.1, named.2⟩⟩

instance (text : List Char) : Decidable (IsIdent text) :=
  decidable_of_iff (text ≠ [] ∧ text.all isIdentChar = true)
    ⟨fun ⟨nonempty, accepted⟩ => ⟨nonempty, accepted⟩, fun named => ⟨named.1, named.2⟩⟩

instance (text : List Char) : Decidable (IsStyleName text) :=
  decidable_of_iff (text ≠ [] ∧ Text.trim text = text ∧ text.all isStyleNameChar = true)
    ⟨fun ⟨nonempty, trimmed, accepted⟩ => ⟨nonempty, trimmed, accepted⟩,
      fun named => ⟨named.1, named.2, named.3⟩⟩

instance (entry : String × String) : Decidable (IsStyleEntry entry) :=
  decidable_of_iff (IsStyleName entry.1.toList ∧ '\'' ∉ entry.2.toList)
    ⟨fun ⟨name, value⟩ => ⟨name, value⟩, fun readable => ⟨readable.1, readable.2⟩⟩

instance : (entry : String × PropertyValue) → Decidable (IsProperty entry)
  | (name, .text text) =>
      decidable_of_iff (IsName name.toList ∧ '"' ∉ text.toList)
        ⟨fun ⟨named, unquoted⟩ => .text named unquoted,
          fun | .text named unquoted => ⟨named, unquoted⟩⟩
  | (name, .style style) =>
      decidable_of_iff (name = "style" ∧ ∀ entry ∈ style.entries, IsStyleEntry entry)
        ⟨fun ⟨named, entries⟩ => named ▸ .style entries, fun | .style entries => ⟨rfl, entries⟩⟩

instance (tag : String) (properties : Properties) : Decidable (IsReadable tag properties) :=
  decidable_of_iff (IsName tag.toList ∧ ∀ entry ∈ properties.entries, IsProperty entry)
    ⟨fun ⟨tag, properties⟩ => ⟨tag, properties⟩, fun readable => ⟨readable.1, readable.2⟩⟩

end VectorIcon.Component
