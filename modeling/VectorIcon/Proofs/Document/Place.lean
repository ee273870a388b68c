import VectorIcon.Document
import VectorIcon.Proofs.Element.Place
import VectorIcon.Proofs.Xml.ResolvedDocument

/-!
The elements of a document and the tags that they come from stand at the same places, when text,
comments and instructions are not counted.
-/

namespace VectorIcon

namespace Xml

def Node.element? : Node → Option (Tag × List Node)
  | .element tag children => some (tag, children)
  | _ => none

def elementsAmong (nodes : List Node) : List (Tag × List Node) :=
  nodes.filterMap Node.element?

def tagAt (nodes : List Node) : List Nat → Option Tag
  | [] => none
  | [index] => (elementsAmong nodes)[index]?.map Prod.fst
  | index :: path => (elementsAmong nodes)[index]?.bind fun (_, children) => tagAt children path

theorem isResolved_of_mem_elementsAmong {nodes : List Node} (resolved : AreResolved nodes)
    {tag : Tag} {children : List Node} (member : (tag, children) ∈ elementsAmong nodes) :
    tag.IsResolved ∧ AreResolved children := by
  obtain ⟨node, inside, found⟩ := List.mem_filterMap.mp member
  have known := areResolved_iff.mp resolved node inside
  cases node with
  | element tag children =>
      cases found
      exact known
  | text content => cases found
  | comment content => cases found
  | instruction target content => cases found

end Xml

namespace Document

theorem elementsOf_eq_map (outer : List Xml.Binding) (nodes : List Xml.Node) :
    elementsOf outer nodes = (Xml.elementsAmong nodes).map fun (tag, children) =>
      ⟨tagName tag, properties outer tag, elementsOf tag.bindings children⟩ := by
  induction nodes with
  | nil => rfl
  | cons node rest ih =>
      cases node with
      | element tag children =>
          rw [elementsOf, elementOf, ih]
          rfl
      | _ =>
          simp only [elementsOf, elementOf, ih]
          rfl

/-- What is so of each element and its resolved tag is so at every place. -/
theorem rel_elementsOf {holds : Xml.Tag → Element → Prop}
    (every : ∀ tag outer children, tag.IsResolved →
      holds tag ⟨tagName tag, properties outer tag, elementsOf tag.bindings children⟩)
    (path : List Nat) (outer : List Xml.Binding) {nodes : List Xml.Node}
    (resolved : Xml.AreResolved nodes) :
    Option.Rel holds (Xml.tagAt nodes path) (elementAt (elementsOf outer nodes) path) := by
  induction path generalizing outer nodes with
  | nil => exact .none
  | cons index path ih =>
      rw [elementAt, elementsOf_eq_map, List.getElem?_map]
      cases found : (Xml.elementsAmong nodes)[index]? with
      | none =>
          cases path with
          | nil =>
              rw [Xml.tagAt, found]
              exact .none
          | cons next path =>
              rw [Xml.tagAt, found]
              · exact .none
              · exact List.cons_ne_nil next path
      | some inside =>
          obtain ⟨tag, children⟩ := inside
          have known := Xml.isResolved_of_mem_elementsAmong resolved (List.mem_of_getElem? found)
          cases path with
          | nil =>
              rw [Xml.tagAt, found]
              exact .some (every tag outer children known.1)
          | cons next path =>
              rw [Xml.tagAt, found]
              · exact ih tag.bindings known.2
              · exact List.cons_ne_nil next path

mutual
theorem svgIn_areResolved : ∀ (node : Xml.Node), node.IsResolved → ∀ {svg children},
    svgIn node = some (svg, children) → Xml.AreResolved children
  | .element tag below, resolved, svg, children, found => by
      rw [svgIn] at found
      split at found
      · cases found
        exact resolved.2
      · exact svgAmong_areResolved below resolved.2 found
  | .text _, _, _, _, found => by cases found
  | .comment _, _, _, _, found => by cases found
  | .instruction _ _, _, _, _, found => by cases found

theorem svgAmong_areResolved : ∀ (nodes : List Xml.Node), Xml.AreResolved nodes →
    ∀ {svg children}, svgAmong nodes = some (svg, children) → Xml.AreResolved children
  | [], _, _, _, found => by cases found
  | node :: rest, resolved, svg, children, found => by
      rw [svgAmong] at found
      split at found
      · rename_i first inside
        cases found
        exact svgIn_areResolved node resolved.1 inside
      · exact svgAmong_areResolved rest resolved.2 found
end

end Document

end VectorIcon
