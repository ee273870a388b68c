import VectorIcon.Preview
import VectorIcon.Proofs.Component.RoundTrip

/-!
Walks over a forest. An element is visited after its children, with its place among its siblings as key.
Previews and component sources are made by such walks, so both see the same tags, properties and keys:
the one puts elements together, the other blocks of lines.
-/

namespace VectorIcon

/-- What is made of an element with its key and its depth, when this was made of its children. -/
abbrev Visit (β : Type) := Element → Nat → Nat → List β → β

mutual
def Element.walk {β : Type} (visit : Visit β) (key depth : Nat) : Element → β
  | ⟨tag, given, children⟩ =>
      visit ⟨tag, given, children⟩ key depth (forestWalk visit 0 (depth + 1) children)

def forestWalk {β : Type} (visit : Visit β) (key depth : Nat) : List Element → List β
  | [] => []
  | element :: rest => element.walk visit key depth :: forestWalk visit (key + 1) depth rest
end

namespace Preview

def visit : Visit PreviewElement :=
  fun element key _ children => ⟨element.tag, key, element.properties, children⟩

mutual
theorem elementWithKey_eq_walk : ∀ (key depth : Nat) (element : Element),
    elementWithKey key element = element.walk visit key depth
  | key, depth, ⟨tag, given, children⟩ => by
      rw [elementWithKey, Element.walk, forestWithKeys_eq_walk 0 (depth + 1) children]
      rfl

theorem forestWithKeys_eq_walk : ∀ (key depth : Nat) (forest : List Element),
    forestWithKeys key forest = forestWalk visit key depth forest
  | _, _, [] => rfl
  | key, depth, element :: rest => by
      rw [forestWithKeys, forestWalk, elementWithKey_eq_walk key depth element,
        forestWithKeys_eq_walk (key + 1) depth rest]
end

end Preview

namespace Component

def blockVisit (layout : Layout) : Visit (List Char) :=
  fun element key depth children =>
    let indentation := List.replicate (layout.spaces depth) ' '
    let start := indentation ++ opening element.tag key element.properties
    if children.isEmpty then start ++ " />".toList
    else start ++ ">\n".toList ++ List.intercalate ['\n'] children ++
      '\n' :: (indentation ++ closing element.tag)

theorem render_append (layout : Layout) {lines others : List Line} (nonempty : lines ≠ [])
    (present : others ≠ []) :
    layout.render (lines ++ others) = layout.render lines ++ '\n' :: layout.render others := by
  obtain ⟨first, lines, rfl⟩ := List.exists_cons_of_ne_nil nonempty
  obtain ⟨second, others, rfl⟩ := List.exists_cons_of_ne_nil present
  simp [Layout.render, Text.intercalate_cons]

theorem elementLines_ne_nil (depth key : Nat) (element : Element) :
    elementLines depth key element ≠ [] := by
  obtain ⟨tag, given, children⟩ := element
  cases children <;> simp [elementLines]

mutual
theorem render_elementLines (layout : Layout) : ∀ (key depth : Nat) (element : Element),
    layout.render (elementLines depth key element) = element.walk (blockVisit layout) key depth
  | key, depth, ⟨tag, given, []⟩ => by
      simp [elementLines, Layout.render, Layout.renderLine, Element.walk, forestWalk, blockVisit]
  | key, depth, ⟨tag, given, child :: children⟩ => by
      have inside := render_forestLines layout 0 (depth + 1) (child :: children) (by simp)
      have lines := forestLines_ne_nil (depth + 1) 0 child children
      have split : elementLines depth key ⟨tag, given, child :: children⟩ =
          [⟨depth, opening tag key given ++ ['>']⟩] ++
            (forestLines (depth + 1) 0 (child :: children) ++ [⟨depth, closing tag⟩]) := rfl
      rw [split, render_append layout (by simp) (by simp), render_append layout lines (by simp),
        inside, Element.walk, forestWalk]
      simp [Layout.render, Layout.renderLine, blockVisit]

theorem render_forestLines (layout : Layout) : ∀ (key depth : Nat) (forest : List Element),
    forest ≠ [] → layout.render (forestLines depth key forest) =
      List.intercalate ['\n'] (forestWalk (blockVisit layout) key depth forest)
  | _, _, [], nonempty => absurd rfl nonempty
  | key, depth, element :: rest, _ => by
      have block := render_elementLines layout key depth element
      have others := render_forestLines layout (key + 1) depth rest
      cases rest with
      | nil => simp [forestLines, forestWalk, block]
      | cons next rest =>
          have lines := elementLines_ne_nil depth key element
          have more := forestLines_ne_nil depth (key + 1) next rest
          rw [forestLines, render_append layout lines more, block, others (by simp)]
          simp [forestWalk, List.intercalate_cons_cons]
end

/-- The text of a forest is put together from below, block by block. -/
theorem elementsText_eq_walk (layout : Layout) (elements : List Element) :
    elementsText layout elements =
      List.intercalate ['\n'] (forestWalk (blockVisit layout) 0 0 elements) := by
  cases elements with
  | nil => rfl
  | cons element rest => exact render_forestLines layout 0 0 (element :: rest) (by simp)

end Component

end VectorIcon
