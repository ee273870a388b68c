import VectorIcon.Proofs.Element.Everywhere
import VectorIcon.Proofs.Preview.Root
import VectorIcon.Proofs.Xml.Scope

/-!
Trees whose markup is well formed. Most of what is asked of a node can be read off the node alone:
names that are legal, values that a document may hold and declarations that are allowed. Only
whether two names meet in one namespace depends on the bindings in scope. That every qualifier is
bound is not asked; the placeholders on the root see to it.
-/

namespace VectorIcon

namespace Xml

instance (name : QualifiedName) : Decidable name.IsWritten :=
  decidable_of_iff (name.text.toList.all isNameChar = true ∧
      QualifiedName.ofText? name.text.toList = some name)
    ⟨fun ⟨accepted, parsed⟩ => ⟨accepted, parsed⟩, fun written => ⟨written.1, written.2⟩⟩

instance (given : NamedValue) : Decidable (IsDeclarable given) :=
  decidable_of_iff ((given.1.qualifier = "xmlns" →
        given.2 ≠ xmlnsNamespace ∧ (given.1.localName = "xml" ↔ given.2 = xmlNamespace)) ∧
      (given.1.qualifier ≠ "xmlns" → given.1.localName = "xmlns" →
        given.2 ≠ xmlNamespace ∧ given.2 ≠ xmlnsNamespace))
    ⟨fun ⟨qualified, unqualified⟩ => ⟨qualified, unqualified⟩,
      fun declarable => ⟨declarable.1, declarable.2⟩⟩

instance (given : NamedValue) : Decidable (IsAttribute given) :=
  decidable_of_iff (given.1.IsWritten ∧ given.2.toList.all isXmlChar = true ∧
      IsDeclarable (readValue given))
    ⟨fun ⟨name, value, declarable⟩ => ⟨name, List.all_eq_true.mp value, declarable⟩,
      fun legal => ⟨legal.1, List.all_eq_true.mpr legal.2, legal.3⟩⟩

instance (attributes : List Attribute) : Decidable (AreDistinct attributes) :=
  inferInstanceAs (Decidable (attributes.Pairwise _))

end Xml

namespace Preview

structure IsWritable (tag : String) (properties : Properties) : Prop where
  legal : (nameOf tag.toList).IsWritten
  qualifier : (nameOf tag.toList).qualifier ≠ "xml" ∧ (nameOf tag.toList).qualifier ≠ "xmlns"
  attributes : ∀ given ∈ writtenAttributes properties, Xml.IsAttribute given
  named : ((writtenAttributes properties).map Prod.fst).Nodup

instance (tag : String) (properties : Properties) : Decidable (IsWritable tag properties) :=
  decidable_of_iff ((nameOf tag.toList).IsWritten ∧
      ((nameOf tag.toList).qualifier ≠ "xml" ∧ (nameOf tag.toList).qualifier ≠ "xmlns") ∧
      (∀ given ∈ writtenAttributes properties, Xml.IsAttribute given) ∧
      ((writtenAttributes properties).map Prod.fst).Nodup)
    ⟨fun ⟨legal, qualifier, attributes, named⟩ => ⟨legal, qualifier, attributes, named⟩,
      fun writable => ⟨writable.1, writable.2, writable.3, writable.4⟩⟩

def scopedTag (inherited : List Xml.Binding) (tag : String) (properties : Properties) : Xml.Tag :=
  Xml.tagOf inherited (nameOf tag.toList) (writtenAttributes properties)

mutual
/-- On no element of a tree do two attributes have one name in one namespace, below given
bindings. -/
def IsDistinct (inherited : List Xml.Binding) : Element → Prop
  | ⟨tag, properties, children⟩ =>
      Xml.AreDistinct (scopedTag inherited tag properties).attributes ∧
        AreDistinct (scopedTag inherited tag properties).bindings children

def AreDistinct (inherited : List Xml.Binding) : List Element → Prop
  | [] => True
  | element :: rest => IsDistinct inherited element ∧ AreDistinct inherited rest
end

mutual
def decideIsDistinct : (inherited : List Xml.Binding) → (element : Element) →
    Decidable (IsDistinct inherited element)
  | inherited, ⟨tag, properties, children⟩ =>
      have := decideAreDistinct (scopedTag inherited tag properties).bindings children
      inferInstanceAs (Decidable (_ ∧ _))

def decideAreDistinct : (inherited : List Xml.Binding) → (elements : List Element) →
    Decidable (AreDistinct inherited elements)
  | _, [] => isTrue trivial
  | inherited, element :: rest =>
      have := decideIsDistinct inherited element
      have := decideAreDistinct inherited rest
      inferInstanceAs (Decidable (_ ∧ _))
end

instance (inherited : List Xml.Binding) (elements : List Element) :
    Decidable (AreDistinct inherited elements) :=
  decideAreDistinct inherited elements

theorem qualifier_nameOf (text : List Char) :
    (nameOf text).qualifier = "" ∨
      ∃ qualifier, qualifier? text = some qualifier ∧
        (nameOf text).qualifier = String.ofList qualifier := by
  unfold nameOf
  split
  · rename_i c qualifier localName apart
    exact .inr ⟨c :: qualifier, by rw [qualifier?, apart]; rfl, rfl⟩
  · exact .inl rfl

theorem isWritten_qualifier {text qualifier : List Char} (written : (nameOf text).IsWritten)
    (found : qualifier? text = some qualifier) :
    (⟨"xmlns", String.ofList qualifier⟩ : Xml.QualifiedName).IsWritten := by
  obtain ⟨⟨front, localName⟩, split, rfl⟩ := Option.map_eq_some_iff.mp found
  obtain ⟨spelled, absent⟩ := Text.splitFirst_eq_some split
  obtain ⟨accepted, parsed⟩ := written
  rw [nameOf_text] at accepted parsed
  simp only [Xml.QualifiedName.ofText?, split, Option.getD_some, Option.ite_none_right_eq_some,
    Bool.and_eq_true, Option.some.injEq] at parsed
  obtain ⟨⟨⟨starts, _⟩, _⟩, same⟩ := parsed
  cases front with
  | nil =>
      -- A colon in front of everything belongs to no name that is read as it is written.
      have whole : nameOf text = ⟨"", String.ofList text⟩ := by
        rw [nameOf, split]
      rw [whole] at same
      have lengths := congrArg (fun name => name.localName.toList.length) same
      simp [spelled] at lengths
  | cons c front =>
      have name : (⟨"xmlns", String.ofList (c :: front)⟩ : Xml.QualifiedName).text.toList =
          "xmlns".toList ++ ':' :: c :: front := by
        simp [Xml.QualifiedName.text]
      have letters : (c :: front).all Xml.isNameChar = true := by
        rw [spelled, List.all_append, Bool.and_eq_true] at accepted
        exact accepted.1
      have unmarked : (c :: front).contains ':' = false := by simpa using absent
      constructor
      · rw [name, List.all_append, List.all_cons, letters]
        decide
      · have word : Text.splitFirst ':' ("xmlns".toList ++ ':' :: c :: front) =
            some ("xmlns".toList, c :: front) := Text.splitFirst_append (by decide) _
        have begins : Xml.QualifiedName.startsName "xmlns".toList = true := by decide
        have follows : Xml.QualifiedName.startsName (c :: front) = true := by simpa using starts
        rw [name, Xml.QualifiedName.ofText?, word]
        simp only [Option.getD_some, begins, follows, unmarked, Bool.or_true, Bool.and_self,
          Bool.not_false, if_true]
        simp

def Covers (bindings : List Xml.Binding) (qualifiers : List (List Char)) : Prop :=
  ∀ qualifier ∈ qualifiers, qualifier ≠ "xml".toList → qualifier ≠ "xmlns".toList →
    (Xml.Binding.uriOf? bindings (some (String.ofList qualifier))).isSome = true

theorem Covers.mono {bindings : List Xml.Binding} {qualifiers others : List (List Char)}
    (covers : Covers bindings qualifiers)
    (included : ∀ qualifier ∈ others, qualifier ∈ qualifiers) : Covers bindings others :=
  fun qualifier member => covers qualifier (included qualifier member)

theorem Covers.isBound {bindings : List Xml.Binding} {qualifiers : List (List Char)}
    (covers : Covers bindings qualifiers) {text : List Char}
    (mentioned : ∀ qualifier, qualifier? text = some qualifier → qualifier ∈ qualifiers)
    (xml : (nameOf text).qualifier ≠ "xml") (xmlns : (nameOf text).qualifier ≠ "xmlns") :
    Xml.IsBound bindings (nameOf text) := by
  rcases qualifier_nameOf text with empty | ⟨qualifier, found, same⟩
  · exact .inl empty
  · refine .inr ?_
    rw [same] at xml xmlns ⊢
    apply covers qualifier (mentioned qualifier found)
    · rintro rfl
      exact xml (by simp)
    · rintro rfl
      exact xmlns (by simp)

theorem Covers.tagOf {bindings : List Xml.Binding} {qualifiers : List (List Char)}
    (covers : Covers bindings qualifiers) (name : Xml.QualifiedName)
    (attributes : List Xml.NamedValue) :
    Covers (Xml.tagOf bindings name attributes).bindings qualifiers :=
  fun qualifier member xml xmlns =>
    Xml.isSome_uriOf?_tagOf (covers qualifier member xml xmlns) name attributes

def qualifiersOn (tag : String) (properties : Properties) : List (List Char) :=
  (tag.toList :: properties.keys.map fun name =>
    (Attribute.markupName name).toList).filterMap qualifier?

theorem qualifiersOf_elementWithKey (key : Nat) (tag : String) (properties : Properties)
    (children : List Element) :
    qualifiersOf (elementWithKey key ⟨tag, properties, children⟩) =
      qualifiersOn tag properties ++ qualifiersIn (forestWithKeys 0 children) := rfl

theorem mem_qualifiersOn {tag : String} {properties : Properties} {qualifier : List Char} :
    qualifier ∈ qualifiersOn tag properties ↔ qualifier? tag.toList = some qualifier ∨
      ∃ entry ∈ properties.entries,
        qualifier? (Attribute.markupName entry.1).toList = some qualifier := by
  constructor
  · intro member
    obtain ⟨text, inside, found⟩ := List.mem_filterMap.mp member
    rcases List.mem_cons.mp inside with rfl | inside
    · exact .inl found
    · obtain ⟨name, key, rfl⟩ := List.mem_map.mp inside
      obtain ⟨entry, known, rfl⟩ := List.mem_map.mp key
      exact .inr ⟨entry, known, found⟩
  · rintro (found | ⟨entry, known, found⟩)
    · exact List.mem_filterMap.mpr ⟨_, List.mem_cons_self, found⟩
    · have named : (Attribute.markupName entry.1).toList ∈ tag.toList :: properties.keys.map
          fun name => (Attribute.markupName name).toList :=
        List.mem_cons_of_mem _ (List.mem_map_of_mem (List.mem_map_of_mem known))
      exact List.mem_filterMap.mpr ⟨_, named, found⟩

section

variable {tag : String} {properties : Properties} (writable : IsWritable tag properties)

include writable

theorem isTag_of_writable {inherited : List Xml.Binding}
    (covers : Covers inherited (qualifiersOn tag properties))
    (distinct : Xml.AreDistinct (scopedTag inherited tag properties).attributes) :
    Xml.IsTag inherited (nameOf tag.toList) (writtenAttributes properties) := by
  have inside := covers.tagOf (nameOf tag.toList) (writtenAttributes properties)
  have bound : ∀ given ∈ Xml.undeclaring ((writtenAttributes properties).map Xml.readValue),
      given.1.qualifier = "xml" ∨
        Xml.IsBound (Xml.tagOf inherited (nameOf tag.toList)
          (writtenAttributes properties)).bindings given.1 := by
    intro given member
    obtain ⟨readable, undeclared⟩ := List.mem_filter.mp member
    obtain ⟨written, isWritten, rfl⟩ := List.mem_map.mp readable
    obtain ⟨entry, kept, rfl⟩ := List.mem_map.mp isWritten
    by_cases xml : (nameOf (Attribute.markupName entry.1).toList).qualifier = "xml"
    · exact .inl xml
    · have mentioned : ∀ qualifier,
          qualifier? (Attribute.markupName entry.1).toList = some qualifier →
            qualifier ∈ qualifiersOn tag properties :=
        fun _ found => mem_qualifiersOn.mpr (.inr ⟨entry, (List.mem_filter.mp kept).1, found⟩)
      refine .inr (inside.isBound mentioned xml ?_)
      intro xmlns
      simp [Xml.isDeclaration, Xml.readValue, namedValue, xmlns] at undeclared
  have named : Xml.IsBound (Xml.tagOf inherited (nameOf tag.toList)
      (writtenAttributes properties)).bindings (nameOf tag.toList) :=
    inside.isBound (fun _ found => mem_qualifiersOn.mpr (.inl found)) writable.qualifier.1
      writable.qualifier.2
  exact ⟨writable.legal, writable.qualifier.2, named, writable.attributes, writable.named, bound,
    distinct⟩

end

mutual
/-- Below bindings that cover its qualifiers and keep its attributes distinct, the markup of a
writable tree is well formed. -/
theorem wellFormed_of_writable (key : Nat) : ∀ {element : Element} {inherited : List Xml.Binding},
    element.Everywhere IsWritable → IsDistinct inherited element →
      Covers inherited (qualifiersOf (elementWithKey key element)) →
        (treeOf (elementWithKey key element)).WellFormed inherited
  | ⟨tag, properties, children⟩, inherited, ⟨writable, below⟩, ⟨distinct, inside⟩, covers => by
      rw [qualifiersOf_elementWithKey] at covers
      refine ⟨isTag_of_writable writable ?_ distinct,
        forestWellFormed_of_writable 0 below inside ?_⟩
      · exact covers.mono fun _ member => List.mem_append_left _ member
      · apply Covers.tagOf
        exact covers.mono fun _ member => List.mem_append_right _ member

theorem forestWellFormed_of_writable (key : Nat) : ∀ {elements : List Element}
    {inherited : List Xml.Binding}, ForestEverywhere IsWritable elements →
      AreDistinct inherited elements →
        Covers inherited (qualifiersIn (forestWithKeys key elements)) →
          Xml.ForestWellFormed inherited (forestOf (forestWithKeys key elements))
  | [], _, _, _, _ => trivial
  | element :: rest, inherited, ⟨first, others⟩, ⟨distinct, inside⟩, covers => by
      refine ⟨wellFormed_of_writable key first distinct ?_,
        forestWellFormed_of_writable (key + 1) others inside ?_⟩
      · exact covers.mono fun _ member => List.mem_append_left _ member
      · exact covers.mono fun _ member => List.mem_append_right _ member
end

theorem qualifier?_of_declaredOnRoot {entry : String × PropertyValue}
    (declared : declaredOnRoot entry = true) {qualifier : List Char}
    (found : qualifier? (Attribute.markupName entry.1).toList = some qualifier) :
    qualifier ∈ standardQualifiers := by
  obtain ⟨name, value⟩ := entry
  cases value with
  | style style => simp [declaredOnRoot] at declared
  | text uri =>
      have known : name = "xmlns" ∨ name = "xmlns:xlink" ∨ name = "xmlnsXlink" := by
        simp only [declaredOnRoot, Bool.or_eq_true, Bool.and_eq_true, beq_iff_eq] at declared
        rcases declared with ⟨default, _⟩ | ⟨link | link, _⟩
        · exact .inl default
        · exact .inr (.inl link)
        · exact .inr (.inr link)
      have checked : ∀ name ∈ ["xmlns", "xmlns:xlink", "xmlnsXlink"],
          ∀ qualifier ∈ qualifier? (Attribute.markupName name).toList,
            qualifier ∈ standardQualifiers := by decide +kernel
      exact checked name (by simpa using known) qualifier found

theorem isWritten_of_mem_qualifiersOn {tag : String} {properties : Properties}
    (writable : IsWritable tag properties) {qualifier : List Char}
    (member : qualifier ∈ qualifiersOn tag properties) (other : qualifier ∉ standardQualifiers) :
    (⟨"xmlns", String.ofList qualifier⟩ : Xml.QualifiedName).IsWritten := by
  rcases mem_qualifiersOn.mp member with found | ⟨entry, known, found⟩
  · exact isWritten_qualifier writable.legal found
  · by_cases declared : declaredOnRoot entry = true
    · exact absurd (qualifier?_of_declaredOnRoot declared found) other
    · have kept : namedValue entry ∈ writtenAttributes properties :=
        List.mem_map_of_mem (List.mem_filter.mpr ⟨known, by simpa using declared⟩)
      exact isWritten_qualifier (writable.attributes _ kept).name found

mutual
theorem isWritten_of_mem_qualifiersOf (key : Nat) : ∀ {element : Element},
    element.Everywhere IsWritable → ∀ qualifier ∈ qualifiersOf (elementWithKey key element),
      qualifier ∉ standardQualifiers →
        (⟨"xmlns", String.ofList qualifier⟩ : Xml.QualifiedName).IsWritten
  | ⟨tag, properties, children⟩, ⟨writable, below⟩, qualifier, member, other => by
      rw [qualifiersOf_elementWithKey, List.mem_append] at member
      rcases member with own | inside
      · exact isWritten_of_mem_qualifiersOn writable own other
      · exact isWritten_of_mem_qualifiersIn 0 below qualifier inside other

theorem isWritten_of_mem_qualifiersIn (key : Nat) : ∀ {elements : List Element},
    ForestEverywhere IsWritable elements →
      ∀ qualifier ∈ qualifiersIn (forestWithKeys key elements), qualifier ∉ standardQualifiers →
        (⟨"xmlns", String.ofList qualifier⟩ : Xml.QualifiedName).IsWritten
  | [], _, _, member, _ => by simp [forestWithKeys, qualifiersIn] at member
  | element :: rest, ⟨first, others⟩, qualifier, member, other => by
      rcases List.mem_append.mp member with own | behind
      · exact isWritten_of_mem_qualifiersOf key first qualifier own other
      · exact isWritten_of_mem_qualifiersIn (key + 1) others qualifier behind other
end

theorem mem_placeholders {preview : Preview} {qualifier : List Char} :
    qualifier ∈ preview.placeholders ↔
      qualifier ∈ qualifiersIn preview.children ∧ qualifier ∉ standardQualifiers := by
  simp [placeholders]

theorem nodup_eraseDups {α : Type} [BEq α] [LawfulBEq α] : ∀ items : List α, items.eraseDups.Nodup
  | [] => by simp
  | item :: rest => by
      rw [List.eraseDups_cons, List.nodup_cons]
      exact ⟨by simp, nodup_eraseDups _⟩
termination_by items => items.length
decreasing_by
  have fewer := List.length_filter_le (fun other => !other == item) rest
  rw [List.length_cons]
  omega

theorem arePlaceholders_of_writable (frame : Frame) {elements : List Element}
    (writable : ForestEverywhere IsWritable elements) :
    ArePlaceholders (ofElements elements frame).placeholders := by
  constructor
  · exact nodup_eraseDups _
  · intro qualifier member
    obtain ⟨inside, other⟩ := mem_placeholders.mp member
    exact isWritten_of_mem_qualifiersIn 0 writable qualifier inside other
  · intro qualifier member
    exact (mem_placeholders.mp member).2

theorem covers_rootScope (preview : Preview) :
    Covers (rootScope preview) (qualifiersIn preview.children) := by
  intro qualifier member xml xmlns
  rw [Xml.Binding.uriOf?_isSome_iff, List.any_eq_true]
  by_cases link : qualifier = "xlink".toList
  · exact ⟨⟨some "xlink", xlinkNamespace⟩, by simp [rootScope, bindingsWith, rootBindings],
      by simp [Xml.Binding.bindsSame, link]⟩
  · have other : qualifier ∉ standardQualifiers := by
      simpa [standardQualifiers] using ⟨xml, link, xmlns⟩
    refine ⟨placeholderBinding qualifier, ?_, by simp [Xml.Binding.bindsSame, placeholderBinding]⟩
    exact List.mem_append_right _ (List.mem_map_of_mem (mem_placeholders.mpr ⟨member, other⟩))

theorem forestWellFormed_rootScope (frame : Frame) {elements : List Element}
    (writable : ForestEverywhere IsWritable elements)
    (distinct : AreDistinct (rootScope (ofElements elements frame)) elements) :
    Xml.ForestWellFormed (rootScope (ofElements elements frame))
      (forestOf (forestWithKeys 0 elements)) :=
  forestWellFormed_of_writable 0 writable distinct (covers_rootScope (ofElements elements frame))

end Preview

end VectorIcon
