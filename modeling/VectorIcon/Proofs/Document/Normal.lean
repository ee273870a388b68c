import VectorIcon.Proofs.Document.Drawable
import VectorIcon.Proofs.Element.Everywhere
import VectorIcon.Proofs.Style.Declared

/-! What all documents have in common: a style stands under its own name and has declared names. -/

namespace VectorIcon

inductive Attribute.IsNormal : String × PropertyValue → Prop
  | text (name text : String) : IsNormal (name, .text text)
  | style {style : Style} (declared : ∀ entry ∈ style.entries,
      Style.IsDeclaredName entry.1.toList) : IsNormal ("style", .style style)

theorem Attribute.normalize_normal (name value : String) : IsNormal (normalize name value) := by
  unfold normalize
  split
  · rename_i same
    rw [same]
    exact .style fun _ member => Style.parse_declared member
  · exact .text _ _

namespace Document

def IsNormal (_ : String) (given : Properties) : Prop :=
  ∀ entry ∈ given.entries, Attribute.IsNormal entry

theorem properties_normal (outer : List Xml.Binding) (tag : Xml.Tag) (name : String) :
    IsNormal name (properties outer tag) := by
  intro entry member
  rcases List.mem_append.mp (OrderedMap.mem_ofList member) with declared | written
  · obtain ⟨binding, _, rfl⟩ := List.mem_map.mp declared
    exact .text _ _
  · obtain ⟨attributeRead, _, rfl⟩ := List.mem_map.mp written
    exact Attribute.normalize_normal _ _

mutual
theorem elementOf_normal : ∀ (outer : List Xml.Binding) (node : Xml.Node) {element : Element},
    elementOf outer node = some element → element.Everywhere IsNormal
  | outer, .element tag children, element, found => by
      simp only [elementOf, Option.some.injEq] at found
      rw [← found]
      exact ⟨properties_normal outer tag _, elementsOf_normal tag.bindings children⟩
  | _, .text _, _, found => by simp [elementOf] at found
  | _, .comment _, _, found => by simp [elementOf] at found
  | _, .instruction _ _, _, found => by simp [elementOf] at found

theorem elementsOf_normal : ∀ (outer : List Xml.Binding) (nodes : List Xml.Node),
    ForestEverywhere IsNormal (elementsOf outer nodes)
  | _, [] => trivial
  | outer, node :: rest => by
      simp only [elementsOf]
      split
      · rename_i element found
        exact ⟨elementOf_normal outer node found, elementsOf_normal outer rest⟩
      · exact elementsOf_normal outer rest
end

theorem parse_normal {source : Source} {document : Document}
    (parsed : parse source = .ok document) : ForestEverywhere IsNormal document.elements := by
  obtain ⟨_, svg, children, _, _, _, rfl⟩ := exists_of_parse parsed
  exact elementsOf_normal svg.bindings children

end Document

end VectorIcon
