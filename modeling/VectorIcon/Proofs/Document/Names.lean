import VectorIcon.Proofs.Document.Drawable
import VectorIcon.Proofs.Document.Equality
import VectorIcon.Proofs.Document.Place
import VectorIcon.Proofs.Document.Qualifier
import VectorIcon.Proofs.OrderedMap.Lookup
import VectorIcon.Proofs.Style.ReadBack

/-!
The names of tags and properties. A tree keeps the namespace of a name, and a name stays as it is
written just when it keeps its qualifier.
-/

namespace VectorIcon

namespace Document

open Xml (KeepsQualifier)

def attributeName (tag : Xml.Tag) (written : Xml.Attribute) : String :=
  qualifiedName tag.bindings written.uri written.name.localName

structure HasNames (tag : Xml.Tag) (element : Element) : Prop where
  name : element.tag = String.ofList
    (Text.lowercase (qualifiedName tag.bindings tag.uri tag.name.localName).toList)
  nameWritten : qualifiedName tag.bindings tag.uri tag.name.localName = tag.name.text ↔
    KeepsQualifier tag.bindings tag.uri tag.name
  /-- A value is only lost to a later attribute that has the same property name. -/
  property {before after : List Xml.Attribute} {written : Xml.Attribute}
    (split : tag.attributes = before ++ written :: after)
    (last : ∀ later ∈ after, Attribute.propertyName (attributeName tag later) ≠
      Attribute.propertyName (attributeName tag written)) :
    element.properties.get? (Attribute.propertyName (attributeName tag written)) =
      some (Attribute.normalize (attributeName tag written) written.value).2
  attributeWritten : ∀ written ∈ tag.attributes, attributeName tag written = written.name.text ↔
    KeepsQualifier tag.bindings written.uri written.name
  plain : ∀ written ∈ tag.attributes,
    written.name.qualifier = "" ∨ written.name.qualifier = "xml" →
      attributeName tag written = written.name.text

theorem normalize_fst (name value : String) :
    (Attribute.normalize name value).1 = Attribute.propertyName name := by
  have style : Attribute.propertyName "style" = "style" := by decide
  unfold Attribute.normalize
  split
  · rename_i same
    rw [same, style]
  · rfl

theorem attributes_split {tag : Xml.Tag} {before after : List Xml.Attribute}
    {written : Xml.Attribute} (split : tag.attributes = before ++ written :: after) :
    ∃ earlier later, attributes tag = earlier ++
      Attribute.normalize (attributeName tag written) written.value :: later ∧
        later.map Prod.fst = after.map fun other => Attribute.propertyName (attributeName tag other)
    := by
  refine ⟨_, _, by rw [attributes, split, List.map_append, List.map_cons]; rfl, ?_⟩
  rw [List.map_map]
  exact List.map_congr_left fun other _ => normalize_fst _ _

theorem get?_properties (outer : List Xml.Binding) {tag : Xml.Tag}
    {before after : List Xml.Attribute} {written : Xml.Attribute}
    (split : tag.attributes = before ++ written :: after)
    (last : ∀ later ∈ after, Attribute.propertyName (attributeName tag later) ≠
      Attribute.propertyName (attributeName tag written)) :
    (properties outer tag).get? (Attribute.propertyName (attributeName tag written)) =
      some (Attribute.normalize (attributeName tag written) written.value).2 := by
  obtain ⟨earlier, later, added, names⟩ := attributes_split split
  have absent : later.reverse.lookup (Attribute.propertyName (attributeName tag written)) = none := by
    refine List.lookup_eq_none_iff.mpr fun entry member => ?_
    have name := List.mem_map_of_mem (f := Prod.fst) (List.mem_reverse.mp member)
    rw [names] at name
    obtain ⟨other, inside, same⟩ := List.mem_map.mp name
    simpa [← same] using (last other inside).symm
  rw [properties, OrderedMap.get?_ofList, added, ← List.append_assoc, List.reverse_append,
    List.reverse_cons, List.append_assoc, List.lookup_append, absent, Option.none_or,
    List.singleton_append, OrderedMap.lookup_entry, if_pos (normalize_fst _ _).symm]

theorem hasNames_elementOf {tag : Xml.Tag} (resolved : tag.IsResolved) (outer : List Xml.Binding)
    (children : List Element) : HasNames tag ⟨tagName tag, properties outer tag, children⟩ where
  name := rfl
  nameWritten := qualifiedName_eq_text_iff resolved.scope resolved.name
  property := get?_properties outer
  attributeWritten written member :=
    qualifiedName_eq_text_iff resolved.scope (resolved.attributes written member).denotes
  plain written member plain :=
    have known := resolved.attributes written member
    (qualifiedName_eq_text_iff resolved.scope known.denotes).mpr
      (known.keepsQualifier resolved.scope plain)

def tagIn (text : String) (path : List Nat) : Option Xml.Tag :=
  match Xml.readDocument text with
  | .ok nodes => (svgAmong nodes).bind fun (_, children) => Xml.tagAt children path
  | .error _ => none

/-- Each element of a document has the names of the tag at its place, and there are no others. -/
theorem names_of_parse {source : Source} {document : Document}
    (parsed : parse source = .ok document) (path : List Nat) :
    Option.Rel HasNames (tagIn source.text path) (elementAt document.elements path) := by
  obtain ⟨nodes, svg, children, read, root, _, rfl⟩ := exists_of_parse parsed
  have resolved := Xml.readDocument_areResolved source.text nodes read
  have found : tagIn source.text path = Xml.tagAt children path := by
    rw [tagIn, read]
    simp only [root, Option.bind_some]
  rw [found]
  exact rel_elementsOf (fun _ outer _ known => hasNames_elementOf known outer _) path _
    (svgAmong_areResolved nodes resolved root)

theorem parseText_prefixed :
    parseText "<svg xmlns:a='u' xmlns:b='v'><b:G a:fill-rule='1' fill-rule='2'/></svg>" =
      .ok ⟨[⟨"b:g", OrderedMap.ofList [("a:fillRule", .text "1"), ("fillRule", .text "2")], []⟩],
        "0 0 24 24"⟩ := by
  decide +kernel

theorem names_of_parse_prefixed :
    let properties : Properties :=
      OrderedMap.ofList [("a:fillRule", .text "1"), ("fillRule", .text "2")]
    ∃ tag : Xml.Tag, tag.name = ⟨"b", "G"⟩ ∧
      tag.attributes.map Xml.Attribute.name = [⟨"a", "fill-rule"⟩, ⟨"", "fill-rule"⟩] ∧
        HasNames tag ⟨"b:g", properties, []⟩ := by
  intro properties
  have names := names_of_parse parseText_prefixed [0]
  have written : tagIn "<svg xmlns:a='u' xmlns:b='v'><b:G a:fill-rule='1' fill-rule='2'/></svg>" [0] =
      some ⟨⟨"b", "G"⟩, some "v", [⟨some "a", "u"⟩, ⟨some "b", "v"⟩],
        [⟨⟨"a", "fill-rule"⟩, some "u", "1"⟩, ⟨⟨"", "fill-rule"⟩, none, "2"⟩]⟩ := by
    decide +kernel
  dsimp only at names
  rw [written] at names
  cases names with
  | some names => exact ⟨_, rfl, rfl, names⟩

theorem parseText_shared :
    parseText "<svg><g xmlns='u' xmlns:a='u' href='1' a:href='2'/></svg>" =
      .ok ⟨[⟨"g", OrderedMap.ofList
        [("xmlns", .text "u"), ("xmlns:a", .text "u"), ("href", .text "2")], []⟩],
        "0 0 24 24"⟩ := by
  decide +kernel

/-- A default namespace takes the qualifier from a name in the same namespace. -/
theorem names_shared :
    ¬∀ (text : String) (document : Document) (path : List Nat) (tag : Xml.Tag) (element : Element),
      parseText text = .ok document →
        tagIn text path = some tag →
          elementAt document.elements path = some element →
            element.tag = String.ofList (Text.lowercase tag.name.text.toList) ∧
              ∀ written ∈ tag.attributes,
                (∀ other ∈ tag.attributes, other ≠ written →
                  Attribute.propertyName other.name.text ≠
                    Attribute.propertyName written.name.text) →
                  element.properties.get? (Attribute.propertyName written.name.text) =
                    some (Attribute.normalize written.name.text written.value).2 := by
  intro claimed
  have written : tagIn "<svg><g xmlns='u' xmlns:a='u' href='1' a:href='2'/></svg>" [0] =
      some ⟨⟨"", "g"⟩, some "u", [⟨none, "u"⟩, ⟨some "a", "u"⟩],
        [⟨⟨"", "href"⟩, none, "1"⟩, ⟨⟨"a", "href"⟩, some "u", "2"⟩]⟩ := by
    decide +kernel
  obtain ⟨_, kept⟩ := claimed _ _ [0] _ _ parseText_shared written rfl
  have lost := kept ⟨⟨"", "href"⟩, none, "1"⟩ (by simp) (by decide +kernel)
  exact absurd lost (by decide +kernel)

end Document

end VectorIcon
