import VectorIcon.Document

/-! A document that has been read has something to draw, and a frame text to draw it in. -/

namespace VectorIcon

namespace Frame

theorem ne_empty_of_nonempty? {value : Option String} {text : String}
    (found : nonempty? value = some text) : text ≠ "" := by
  have kept := (Option.filter_eq_some_iff.mp found).2
  simpa using kept

theorem resolve_ne_empty (viewBox width height : Option String) :
    resolve viewBox width height ≠ "" := by
  unfold resolve
  split
  · rename_i written found
    exact ne_empty_of_nonempty? found
  · split
    · intro empty
      have text := congrArg String.toList empty
      simp at text
    · decide

end Frame

namespace Document

structure IsDrawable (document : Document) : Prop where
  elements : document.elements ≠ []
  viewBox : document.viewBox ≠ ""

theorem exists_of_parse {source : Source} {document : Document}
    (read : parse source = .ok document) :
    ∃ nodes svg children, Xml.readDocument source.text = .ok nodes ∧
      svgAmong nodes = some (svg, children) ∧ elementsOf svg.bindings children ≠ [] ∧
        document = ⟨elementsOf svg.bindings children, frameText svg⟩ := by
  unfold parse at read
  split at read
  · cases read
  · split at read
    · cases read
    · rename_i nodes tree
      unfold ofNodes at read
      split at read
      · cases read
      · rename_i svg children root
        dsimp only at read
        split at read
        · cases read
        · rename_i nonempty
          cases read
          exact ⟨nodes, svg, children, tree, root, by simpa using nonempty, rfl⟩

theorem isDrawable_of_parse {source : Source} {document : Document}
    (read : parse source = .ok document) : document.IsDrawable := by
  obtain ⟨_, svg, children, _, _, nonempty, rfl⟩ := exists_of_parse read
  exact ⟨nonempty, Frame.resolve_ne_empty _ _ _⟩

end Document

end VectorIcon
