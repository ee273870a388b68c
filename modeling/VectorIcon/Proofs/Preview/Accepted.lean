import VectorIcon.Proofs.Document.Equality
import VectorIcon.Proofs.Preview.Parsed
import VectorIcon.Proofs.Preview.Writable

/-!
Markup that is accepted again. A writable tree has well-formed markup; a tree that is read from a
source need not be writable, since attribute names are spelled anew.
-/

namespace VectorIcon.Preview

/-- The markup of a writable tree with distinct attributes is the text of a well-formed one. If it
does not have too many bindings, it is read as a document with as many elements in the working
frame. -/
theorem markup_of_writable {elements : List Element} (frame : Frame) (nonempty : elements ≠ [])
    (writable : ForestEverywhere IsWritable elements)
    (distinct : AreDistinct (rootScope (ofElements elements frame)) elements) :
    (ofElements elements frame).markup.toList = (rootTree (ofElements elements frame)).text ∧
      (rootTree (ofElements elements frame)).WellFormed [] ∧
      ((rootTree (ofElements elements frame)).HasRoom →
        ∃ document, Document.parseText (ofElements elements frame).markup = .ok document ∧
          document.elements.length = elements.length ∧ document.viewBox = frame.text) := by
  have legal := arePlaceholders_of_writable frame writable
  have below := forestWellFormed_rootScope frame writable distinct
  have shown := children_ofElements_ne_nil frame nonempty
  refine ⟨?_, wellFormed_rootTree frame legal below, fun room => ⟨_,
    parseText_markup frame nonempty legal below room, ?_, rfl⟩⟩
  · exact toList_markup shown fun qualifier member => escape_placeholder legal member
  · rw [length_elementsOf]
    exact length_forestOf 0 elements

theorem markup_of_writable_qualified :
    let path : Element := ⟨"sodipodi:path", OrderedMap.ofList [("xlink:href", .text "a\n\"&"),
      ("strokeWidth", .text ""), ("xmlns", .text "urn:x")], []⟩
    let group : Element := ⟨"g", OrderedMap.ofList [("xmlns:a", .text "urn:x"), ("a:b", .text "<"),
      ("b", .text ">"), ("xlink:b", .text "'"), ("xmlnsXlink", .text xlinkNamespace)], [path, path]⟩
    let frame : Frame := ⟨Number.zero, Number.nan, Number.zero, Number.zero⟩
    ∃ document, Document.parseText (ofElements [group] frame).markup = .ok document ∧
      document.elements.length = 1 ∧ document.viewBox = frame.text :=
  (markup_of_writable ⟨Number.zero, Number.nan, Number.zero, Number.zero⟩ (by simp)
    (by decide +kernel) (by decide +kernel)).2.2 (by decide +kernel)

/-- A capital in front of a name is taken for a hyphen, and no name begins with one. -/
theorem parseText_capital :
    Document.parseText "<svg><path Fill=\"red\"/></svg>" =
      .ok ⟨[⟨"path", OrderedMap.ofList [("Fill", .text "red")], []⟩], "0 0 24 24"⟩ := by
  decide +kernel

theorem markup_capital :
    ¬∀ (text : String) (document : Document) (frame : Frame),
      Document.parseText text = .ok document → ∃ other,
        Document.parseText (ofElements document.elements frame).markup = .ok other := by
  intro claimed
  have refused : (Document.parseText (ofElements
      [⟨"path", OrderedMap.ofList [("Fill", .text "red")], []⟩]
      ⟨Number.zero, Number.zero, Number.zero, Number.zero⟩).markup).toOption = none := by
    decide +kernel
  obtain ⟨other, found⟩ := claimed _ _ ⟨Number.zero, Number.zero, Number.zero, Number.zero⟩
    parseText_capital
  rw [found] at refused
  cases refused

end VectorIcon.Preview
