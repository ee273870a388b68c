import Mathlib.Data.List.Forall2
import VectorIcon.Proofs.Document.Place
import VectorIcon.Proofs.Document.Qualifier

/-!
A document has the elements below the first `svg` element of its XML tree. In document order they
have the depths of these, and so their nesting, and their qualified names in lower case. What is not
an element counts nowhere.
-/

namespace VectorIcon

namespace Xml

structure Descendant where
  depth : Nat
  tag : Tag
  children : List Node

mutual
def Node.descendants (depth : Nat) : Node → List Descendant
  | .element tag children => ⟨depth, tag, children⟩ :: descendants (depth + 1) children
  | _ => []

def descendants (depth : Nat) : List Node → List Descendant
  | [] => []
  | node :: rest => node.descendants depth ++ descendants depth rest
end

mutual
def Node.elementsOnly : Node → List Node
  | .element tag children => [.element tag (elementsOnly children)]
  | _ => []

/-- The nodes without text, comments and instructions, at any depth. -/
def elementsOnly : List Node → List Node
  | [] => []
  | node :: rest => node.elementsOnly ++ elementsOnly rest
end

def Descendant.isSvg (found : Descendant) : Bool :=
  found.tag.name.localName == "svg"

mutual
theorem Node.IsResolved.descendants : ∀ (depth : Nat) (node : Node), node.IsResolved →
    ∀ found ∈ node.descendants depth, found.tag.IsResolved
  | depth, .element tag children, resolved, found, member => by
      rcases List.mem_cons.mp member with rfl | inside
      · exact resolved.1
      · exact AreResolved.descendants (depth + 1) children resolved.2 found inside

theorem AreResolved.descendants : ∀ (depth : Nat) (nodes : List Node), AreResolved nodes →
    ∀ found ∈ descendants depth nodes, found.tag.IsResolved
  | depth, node :: rest, resolved, found, member => by
      rcases List.mem_append.mp member with inside | later
      · exact Node.IsResolved.descendants depth node resolved.1 found inside
      · exact AreResolved.descendants depth rest resolved.2 found later
end

end Xml

mutual
def Element.levels (depth : Nat) : Element → List (Nat × String)
  | ⟨tag, _, children⟩ => (depth, tag) :: forestLevels (depth + 1) children

def forestLevels (depth : Nat) : List Element → List (Nat × String)
  | [] => []
  | element :: rest => element.levels depth ++ forestLevels depth rest
end

mutual
theorem Element.length_levels : ∀ (depth : Nat) (element : Element),
    (element.levels depth).length = element.nodeCount
  | depth, ⟨tag, _, children⟩ => by
      rw [Element.levels, List.length_cons, length_forestLevels (depth + 1) children,
        Element.nodeCount, Nat.add_comm]

theorem length_forestLevels : ∀ (depth : Nat) (forest : List Element),
    (forestLevels depth forest).length = forestCount forest
  | _, [] => rfl
  | depth, element :: rest => by
      rw [forestLevels, List.length_append, element.length_levels depth,
        length_forestLevels depth rest, forestCount]
end

namespace Document

def placed (found : Xml.Descendant) : Nat × String :=
  (found.depth, tagName found.tag)

theorem descendants_of_elementOf_none {outer : List Xml.Binding} {node : Xml.Node} (depth : Nat)
    (missing : elementOf outer node = none) : node.descendants depth = [] := by
  cases node with
  | element tag children => cases missing
  | _ => rfl

mutual
theorem levels_elementOf : ∀ (depth : Nat) (outer : List Xml.Binding) (node : Xml.Node)
    {element : Element}, elementOf outer node = some element →
      element.levels depth = (node.descendants depth).map placed
  | depth, outer, .element tag children, element, found => by
      cases found
      rw [Element.levels, Xml.Node.descendants, List.map_cons,
        levels_elementsOf (depth + 1) tag.bindings children]
      rfl
  | _, _, .text _, _, found => by cases found
  | _, _, .comment _, _, found => by cases found
  | _, _, .instruction _ _, _, found => by cases found

theorem levels_elementsOf : ∀ (depth : Nat) (outer : List Xml.Binding) (nodes : List Xml.Node),
    forestLevels depth (elementsOf outer nodes) = (Xml.descendants depth nodes).map placed
  | _, _, [] => rfl
  | depth, outer, node :: rest => by
      rw [elementsOf, Xml.descendants, List.map_append, ← levels_elementsOf depth outer rest]
      cases found : elementOf outer node with
      | none =>
          rw [descendants_of_elementOf_none depth found]
          rfl
      | some element =>
          rw [← levels_elementOf depth outer node found]
          rfl
end

def content (found : Xml.Descendant) : Xml.Tag × List Xml.Node :=
  (found.tag, found.children)

mutual
theorem svgIn_eq_find? : ∀ (depth : Nat) (node : Xml.Node),
    svgIn node = ((node.descendants depth).find? Xml.Descendant.isSvg).map content
  | depth, .element tag children => by
      rw [svgIn, Xml.Node.descendants, List.find?_cons]
      by_cases same : tag.name.localName = "svg"
      · simp [Xml.Descendant.isSvg, same, content]
      · have other : (tag.name.localName == "svg") = false := beq_eq_false_iff_ne.mpr same
        simp [Xml.Descendant.isSvg, same, other, svgAmong_eq_find? (depth + 1) children]
  | _, .text _ => rfl
  | _, .comment _ => rfl
  | _, .instruction _ _ => rfl

theorem svgAmong_eq_find? : ∀ (depth : Nat) (nodes : List Xml.Node),
    svgAmong nodes = ((Xml.descendants depth nodes).find? Xml.Descendant.isSvg).map content
  | _, [] => rfl
  | depth, node :: rest => by
      rw [svgAmong, Xml.descendants, List.find?_append, svgIn_eq_find? depth node,
        svgAmong_eq_find? depth rest]
      cases (node.descendants depth).find? Xml.Descendant.isSvg <;> rfl
end

theorem elementsOf_append (outer : List Xml.Binding) (nodes rest : List Xml.Node) :
    elementsOf outer (nodes ++ rest) = elementsOf outer nodes ++ elementsOf outer rest := by
  induction nodes with
  | nil => rfl
  | cons node nodes ih =>
      rw [List.cons_append, elementsOf, elementsOf, ih]
      cases elementOf outer node <;> rfl

theorem svgAmong_append (nodes rest : List Xml.Node) :
    svgAmong (nodes ++ rest) = (svgAmong nodes).or (svgAmong rest) := by
  induction nodes with
  | nil => rfl
  | cons node nodes ih =>
      rw [List.cons_append, svgAmong, svgAmong, ih]
      cases svgIn node <;> rfl

mutual
theorem elementsOf_elementsOnly_node : ∀ (outer : List Xml.Binding) (node : Xml.Node),
    elementsOf outer node.elementsOnly = (elementOf outer node).toList
  | outer, .element tag children => by
      rw [Xml.Node.elementsOnly, elementsOf, elementOf, elementOf,
        elementsOf_elementsOnly tag.bindings children]
      rfl
  | _, .text _ => rfl
  | _, .comment _ => rfl
  | _, .instruction _ _ => rfl

theorem elementsOf_elementsOnly : ∀ (outer : List Xml.Binding) (nodes : List Xml.Node),
    elementsOf outer (Xml.elementsOnly nodes) = elementsOf outer nodes
  | _, [] => rfl
  | outer, node :: rest => by
      rw [Xml.elementsOnly, elementsOf_append, elementsOf_elementsOnly_node outer node,
        elementsOf_elementsOnly outer rest, elementsOf]
      cases elementOf outer node <;> rfl
end

def rootOnly (root : Xml.Tag × List Xml.Node) : Xml.Tag × List Xml.Node :=
  (root.1, Xml.elementsOnly root.2)

mutual
theorem svgAmong_elementsOnly_node : ∀ (node : Xml.Node),
    svgAmong node.elementsOnly = (svgIn node).map rootOnly
  | .element tag children => by
      rw [Xml.Node.elementsOnly, svgAmong, svgIn, svgIn, svgAmong_elementsOnly children]
      by_cases same : tag.name.localName = "svg"
      · simp [same, rootOnly]
      · simp only [same, if_false, svgAmong]
        cases svgAmong children <;> rfl
  | .text _ => rfl
  | .comment _ => rfl
  | .instruction _ _ => rfl

theorem svgAmong_elementsOnly : ∀ (nodes : List Xml.Node),
    svgAmong (Xml.elementsOnly nodes) = (svgAmong nodes).map rootOnly
  | [] => rfl
  | node :: rest => by
      rw [Xml.elementsOnly, svgAmong_append, svgAmong_elementsOnly_node node,
        svgAmong_elementsOnly rest, svgAmong]
      cases svgIn node <;> rfl
end

theorem ofNodes_elementsOnly (nodes : List Xml.Node) :
    ofNodes (Xml.elementsOnly nodes) = ofNodes nodes := by
  rw [ofNodes, ofNodes, svgAmong_elementsOnly]
  cases svgAmong nodes with
  | none => rfl
  | some root =>
      simp only [Option.map_some, rootOnly, elementsOf_elementsOnly]

theorem elementsOf_ne_nil {outer : List Xml.Binding} {nodes : List Xml.Node} {tag : Xml.Tag}
    {children : List Xml.Node} (member : .element tag children ∈ nodes) :
    elementsOf outer nodes ≠ [] := by
  obtain ⟨before, after, rfl⟩ := List.append_of_mem member
  rw [elementsOf_append, elementsOf, elementOf]
  exact List.append_ne_nil_of_right_ne_nil _ (List.cons_ne_nil _ _)

/-- Where the element of a tag stands in a document, and with which name. -/
structure IsPlaced (level : Nat × String) (found : Xml.Descendant) : Prop where
  depth : level.1 = found.depth
  name : found.tag.IsResolved → IsTagName found.tag level.2

theorem isPlaced_placed (found : Xml.Descendant) : IsPlaced (placed found) found where
  depth := rfl
  name := isTagName_tagName

theorem svgAmong_of_first {nodes : List Xml.Node} {svg : Xml.Descendant}
    (first : (Xml.descendants 0 nodes).find? Xml.Descendant.isSvg = some svg) :
    svgAmong nodes = some (svg.tag, svg.children) := by
  rw [svgAmong_eq_find? 0 nodes, first]
  rfl

/-- A tree with something to draw gives a document with the elements below the first `svg` element,
whose tags are all resolved in a tree that was read. Trees with the same elements give the same
document. -/
theorem elements_of_tree (nodes : List Xml.Node) :
    (∀ svg, (Xml.descendants 0 nodes).find? Xml.Descendant.isSvg = some svg →
      (∃ tag children, .element tag children ∈ svg.children) →
        ∃ document, ofNodes nodes = .ok document ∧
          List.Forall₂ IsPlaced (forestLevels 0 document.elements)
            (Xml.descendants 0 svg.children) ∧
          document.nodeCount = (Xml.descendants 0 svg.children).length) ∧
    (∀ text, Xml.readDocument text = .ok nodes →
      ∀ svg, (Xml.descendants 0 nodes).find? Xml.Descendant.isSvg = some svg →
        ∀ found ∈ Xml.descendants 0 svg.children, found.tag.IsResolved) ∧
    ∀ others, Xml.elementsOnly nodes = Xml.elementsOnly others → ofNodes nodes = ofNodes others := by
  refine ⟨?_, ?_, ?_⟩
  · rintro svg first ⟨tag, children, member⟩
    have nonempty : elementsOf svg.tag.bindings svg.children ≠ [] := elementsOf_ne_nil member
    refine ⟨⟨elementsOf svg.tag.bindings svg.children, frameText svg.tag⟩, ?_, ?_, ?_⟩
    · simp [ofNodes, svgAmong_of_first first, nonempty]
    · rw [levels_elementsOf, List.forall₂_map_left_iff, List.forall₂_same]
      exact fun found _ => isPlaced_placed found
    · rw [nodeCount, ← length_forestLevels 0, levels_elementsOf, List.length_map]
  · intro text read svg first
    have resolved := Xml.readDocument_areResolved text nodes read
    exact (svgAmong_areResolved nodes resolved (svgAmong_of_first first)).descendants 0
  · intro others same
    rw [← ofNodes_elementsOnly nodes, same, ofNodes_elementsOnly]

def mixedText : String :=
  "<!--a--><g xmlns:a='u' xmlns:b='u'><svg>b<b:G><?c?><svg><a:Rect/></svg></b:G><path/></svg></g>"

def taggedNode (name : Xml.QualifiedName) (uri : Option String) (children : List Xml.Node) :
    Xml.Node :=
  .element ⟨name, uri, [⟨some "a", "u"⟩, ⟨some "b", "u"⟩], []⟩ children

def mixedTree : List Xml.Node :=
  [.comment "a", taggedNode ⟨"", "g"⟩ none [taggedNode ⟨"", "svg"⟩ none
    [.text "b", taggedNode ⟨"b", "G"⟩ (some "u") [.instruction "c" "",
      taggedNode ⟨"", "svg"⟩ none [taggedNode ⟨"a", "Rect"⟩ (some "u") []]],
      taggedNode ⟨"", "path"⟩ none []]]]

def otherTree : List Xml.Node :=
  [.instruction "a" "b", .comment "", taggedNode ⟨"", "g"⟩ none [.text "d",
    taggedNode ⟨"", "svg"⟩ none [taggedNode ⟨"b", "G"⟩ (some "u")
      [taggedNode ⟨"", "svg"⟩ none [.text "c", taggedNode ⟨"a", "Rect"⟩ (some "u") [], .text "d"]],
      taggedNode ⟨"", "path"⟩ none []]]]

theorem readDocument_mixed : Xml.readDocument mixedText = .ok mixedTree := by
  rfl

theorem elements_of_tree_mixed :
    (∃ document, ofNodes mixedTree = .ok document ∧
      forestLevels 0 document.elements = [(0, "a:g"), (1, "svg"), (2, "a:rect"), (0, "path")] ∧
      document.nodeCount = 4) ∧
    IsTagName ⟨⟨"b", "G"⟩, some "u", [⟨some "a", "u"⟩, ⟨some "b", "u"⟩], []⟩ "a:g" ∧
    IsTagName ⟨⟨"a", "Rect"⟩, some "u", [⟨some "a", "u"⟩, ⟨some "b", "u"⟩], []⟩ "a:rect" ∧
    ofNodes mixedTree = ofNodes otherTree := by
  obtain ⟨found, delivered, stripped⟩ := elements_of_tree mixedTree
  obtain ⟨document, parsed, placed, count⟩ :=
    found _ rfl ⟨_, _, List.mem_cons_of_mem _ List.mem_cons_self⟩
  have resolved := delivered mixedText readDocument_mixed _ rfl
  have levels : forestLevels 0 document.elements =
      [(0, "a:g"), (1, "svg"), (2, "a:rect"), (0, "path")] := by
    cases parsed
    rfl
  rw [levels] at placed
  cases placed with
  | cons group rest =>
      cases rest with
      | cons _ rest =>
          cases rest with
          | cons rect _ =>
              have outer := group.name (resolved _ List.mem_cons_self)
              have inner := rect.name
                (resolved _ (List.mem_cons_of_mem _ (List.mem_cons_of_mem _ List.mem_cons_self)))
              exact ⟨⟨document, parsed, levels, count⟩, outer, inner, stripped otherTree rfl⟩

end Document

end VectorIcon
