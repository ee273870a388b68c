import VectorIcon.Proofs.Preview.Parsed
import VectorIcon.Proofs.Preview.WellFormed

/-!
The preview read back. The document in the markup of a preview has the elements that are shown, and
its frame text is that of the working frame.
-/

namespace VectorIcon

namespace Text

theorem lowerChar_of_isTagChar {c : Char} (accepted : isTagChar c = true) : lowerChar c = [c] :=
  forall_ascii (fun c => isTagChar c = true → lowerChar c = [c]) (by decide)
    (ascii_of_isPropertyChar (isPropertyChar_of_isTagChar accepted)) accepted

theorem lowercaseAfter_of_isTagChar (before : List Char) {text : List Char}
    (accepted : text.all isTagChar = true) : lowercaseAfter before text = text := by
  induction text generalizing before with
  | nil => rfl
  | cons c rest ih =>
      simp only [List.all_cons, Bool.and_eq_true] at accepted
      have plain : c ≠ capitalSigma := by
        rintro rfl
        exact absurd accepted.1 (by decide)
      simp [lowercaseAfter, plain, lowerChar_of_isTagChar accepted.1, ih _ accepted.2]

end Text

namespace Preview

def readTag (tag : String) (properties : Properties) : Xml.Tag :=
  ⟨⟨"", tag⟩, some svgNamespace, rootBindings, properties.entries.map fun entry =>
    ⟨⟨"", Attribute.markupName entry.1⟩, none, String.ofList (valueText entry.2)⟩⟩

section

variable {tag : String} {properties : Properties} (reversible : IsReversible tag properties)

include reversible

theorem tagOf_of_reversible :
    Xml.tagOf rootBindings (nameOf tag.toList) (writtenAttributes properties) =
      readTag tag properties := by
  have unqualified := areUnqualified_writtenAttributes reversible
  rw [nameOf_of_reversible reversible, Xml.tagOf_unqualified rootBindings unqualified,
    readValue_writtenAttributes reversible, writtenAttributes_of_reversible reversible,
    List.map_map]
  rfl

theorem tagName_readTag : Document.tagName (readTag tag properties) = tag := by
  have plain : Document.tagName (readTag tag properties) =
      String.ofList (Text.lowercase tag.toList) := rfl
  have every : tag.toList.all isTagChar = true :=
    all_of_isSmallName reversible.tag (fun c lower => by simp [isTagChar, lower]) (by decide)
  rw [plain, Text.lowercase, Text.lowercaseAfter_of_isTagChar [] every, String.ofList_toList]

theorem properties_readTag :
    Document.properties rootBindings (readTag tag properties) = properties := by
  have declared : Document.declarations rootBindings (readTag tag properties) = [] := rfl
  have read : Document.attributes (readTag tag properties) = properties.entries := by
    rw [Document.attributes, readTag, List.map_map]
    refine (List.map_congr_left fun entry member => ?_).trans (List.map_id _)
    exact normalize_of_reversible (reversible.properties entry member)
  rw [Document.properties, declared, read, List.nil_append, OrderedMap.ofList_entries]

end

mutual
theorem elementOf_node (key : Nat) : ∀ element : Element, element.Everywhere IsReversible →
    Document.elementOf rootBindings
      ((treeOf (elementWithKey key element)).node rootBindings) = some element
  | ⟨tag, properties, children⟩, ⟨reversible, below⟩ => by
      have inside := elementsOf_forestNodes 0 children below
      have bindings : (readTag tag properties).bindings = rootBindings := rfl
      simp only [elementWithKey, treeOf, Xml.Markup.node, Document.elementOf,
        tagOf_of_reversible reversible, tagName_readTag reversible, properties_readTag reversible,
        bindings, inside]

theorem elementsOf_forestNodes (key : Nat) : ∀ elements : List Element,
    ForestEverywhere IsReversible elements →
      Document.elementsOf rootBindings
        (Xml.forestNodes rootBindings (forestOf (forestWithKeys key elements))) = elements
  | [], _ => rfl
  | element :: rest, ⟨first, others⟩ => by
      have read := elementOf_node key element first
      have later := elementsOf_forestNodes (key + 1) rest others
      simp only [forestWithKeys, forestOf, Xml.forestNodes, Document.elementsOf, read, later]
end

end Preview

/-- A preview that shows a reversible tree reads back as that tree in the working frame. -/
theorem Document.parseText_preview {elements : List Element} (frame : Frame)
    (nonempty : elements ≠ []) (reversible : ForestEverywhere Preview.IsReversible elements) :
    Document.parseText (Preview.ofElements elements frame).markup =
      .ok ⟨elements, frame.text⟩ := by
  have placeholders := Preview.placeholders_of_reversible frame reversible
  have legal : Preview.ArePlaceholders (Preview.ofElements elements frame).placeholders :=
    placeholders ▸ Preview.arePlaceholders_nil
  have scope : Preview.rootScope (Preview.ofElements elements frame) = Preview.rootBindings := by
    rw [Preview.rootScope, placeholders]
    rfl
  have below := Preview.wellFormed_forestOf (Preview.rootScope (Preview.ofElements elements frame))
    0 elements reversible
  have room : (Preview.rootTree (Preview.ofElements elements frame)).HasRoom := by
    rw [Xml.Markup.HasRoom, Preview.bindings_rootTree frame legal, scope,
      Preview.bindings_forestOf 0 elements reversible]
    decide +kernel
  rw [Preview.parseText_markup frame nonempty legal below room, scope,
    Preview.elementsOf_forestNodes 0 elements reversible]

theorem Document.parseText_preview_styled :
    let path : Element := ⟨"path", OrderedMap.ofList [("strokeWidth", .text "a < \"b\""),
      ("style", .style (OrderedMap.ofList [("fillOpacity", "calc(1 : 2)"), ("-X", "0")]))], []⟩
    let group : Element := ⟨"g", OrderedMap.ofList [("viewBox", .text ""), ("a-B", .text "&")],
      [path, path]⟩
    let frame : Frame := ⟨Number.zero, Number.zero, Number.zero, Number.nan⟩
    Document.parseText (Preview.ofElements [group, path] frame).markup =
      .ok ⟨[group, path], "0 0 0 NaN"⟩ :=
  Document.parseText_preview ⟨Number.zero, Number.zero, Number.zero, Number.nan⟩ (by simp)
    (by decide +kernel)

end VectorIcon
