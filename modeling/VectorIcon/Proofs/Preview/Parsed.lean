import VectorIcon.Document
import VectorIcon.Proofs.Preview.Root
import VectorIcon.Proofs.Xml.Document

/-!
The document in the markup of a preview. When what is written below the root is well formed and
there is room for all bindings, the markup is read, and it has an element for each element that is
shown and the working frame.
-/

namespace VectorIcon.Preview

theorem frameText_root (bindings : List Xml.Binding) (frame : Frame) :
    Document.frameText ⟨⟨"", "svg"⟩, some svgNamespace, bindings,
      (wrapperAttributes frame.text).map (Xml.resolved bindings)⟩ = frame.text := by
  have found : (⟨⟨"", "svg"⟩, some svgNamespace, bindings,
      (wrapperAttributes frame.text).map (Xml.resolved bindings)⟩ : Xml.Tag).attribute?
        "viewBox" = some frame.text := by
    simp [Xml.Tag.attribute?, wrapperAttributes, Xml.resolved, Xml.uriOfAttribute]
  have wins : Frame.nonempty? (some frame.text) = some frame.text :=
    Option.filter_some_pos (by simp [frame.text_ne_empty])
  rw [Document.frameText, found, Frame.resolve, wins]

theorem length_elementsOf (outer inherited : List Xml.Binding) (forest : List Xml.Markup) :
    (Document.elementsOf outer (Xml.forestNodes inherited forest)).length = forest.length := by
  induction forest with
  | nil => rfl
  | cons markup rest ih =>
      obtain ⟨name, attributes, children⟩ := markup
      simp only [Xml.forestNodes, Xml.Markup.node, Document.elementsOf, Document.elementOf,
        List.length_cons, ih]

section

variable {elements : List Element} (frame : Frame) (nonempty : elements ≠ [])
  (legal : ArePlaceholders (ofElements elements frame).placeholders)
  (below : Xml.ForestWellFormed (rootScope (ofElements elements frame))
    (forestOf (forestWithKeys 0 elements)))
  (room : (rootTree (ofElements elements frame)).HasRoom)

include nonempty legal below room

theorem readDocument_markup :
    Xml.readDocument (ofElements elements frame).markup =
      .ok [(rootTree (ofElements elements frame)).node []] := by
  have shown := children_ofElements_ne_nil frame nonempty
  have written := toList_markup shown fun qualifier member => escape_placeholder legal member
  exact Xml.readDocument_markup (forestOf_ne_nil shown) (wellFormed_rootTree frame legal below)
    room written

theorem parseText_markup :
    Document.parseText (ofElements elements frame).markup =
      .ok ⟨Document.elementsOf (rootScope (ofElements elements frame))
        (Xml.forestNodes (rootScope (ofElements elements frame))
          (forestOf (forestWithKeys 0 elements))), frame.text⟩ := by
  have read := readDocument_markup frame nonempty legal below room
  have shown := children_ofElements_ne_nil frame nonempty
  have written := toList_markup shown fun qualifier member => escape_placeholder legal member
  have inked : (Text.trim (ofElements elements frame).markup.toList).isEmpty = false := by
    obtain ⟨rest, begins⟩ := (rootTree (ofElements elements frame)).exists_text_eq
    rw [written, begins]
    simpa using Text.trim_ne_nil (by decide) rest
  have filled (bindings : List Xml.Binding) : (Document.elementsOf bindings
      (Xml.forestNodes bindings (forestOf (forestWithKeys 0 elements)))).isEmpty = false := by
    have some_ : forestOf (forestWithKeys 0 elements) ≠ [] := forestOf_ne_nil shown
    have count := length_elementsOf bindings bindings (forestOf (forestWithKeys 0 elements))
    rw [List.isEmpty_eq_false_iff, ← List.length_pos_iff, count]
    exact List.length_pos_iff.mpr some_
  simp only [Document.parseText, Document.parse, inked, read, Bool.false_eq_true, if_false,
    node_rootTree frame legal, Document.ofNodes, Document.svgAmong, Document.svgIn, if_true, filled,
    frameText_root]

end

end VectorIcon.Preview
