import Mathlib.Algebra.GroupWithZero.Nat
import VectorIcon.Proofs.Preview.Keys
import VectorIcon.Proofs.Walk

/-!
The preview of a forest and its component source agree. Both show the forest itself, and each key of the
one, a place among siblings, is written in the other at the same tag.
-/

namespace VectorIcon

mutual
def PreviewElement.element : PreviewElement → Element
  | ⟨tag, _, properties, children⟩ => ⟨tag, properties, elementsOf children⟩

def PreviewElement.elementsOf : List PreviewElement → List Element
  | [] => []
  | shown :: rest => shown.element :: elementsOf rest
end

mutual
def PreviewElement.tagKeys : PreviewElement → List (String × Nat)
  | ⟨tag, key, _, children⟩ => (tag, key) :: tagKeysIn children

def PreviewElement.tagKeysIn : List PreviewElement → List (String × Nat)
  | [] => []
  | shown :: rest => shown.tagKeys ++ tagKeysIn rest
end

namespace Component

mutual
def WrittenElement.tagKeys : WrittenElement → List (String × String)
  | ⟨tag, key, _, children, _⟩ => (tag, key.text) :: tagKeysIn children

def WrittenElement.tagKeysIn : List WrittenElement → List (String × String)
  | [] => []
  | written :: rest => written.tagKeys ++ tagKeysIn rest
end

end Component

theorem forestCount_eq_sum (forest : List Element) :
    forestCount forest = (forest.map Element.nodeCount).sum := by
  induction forest with
  | nil => rfl
  | cons element rest ih => rw [forestCount, ih, List.map_cons, List.sum_cons]

namespace Preview

/-- The siblings of a preview: its topmost elements, and the children of each element. -/
inductive IsSiblings (preview : Preview) : List PreviewElement → Prop
  | topmost : IsSiblings preview preview.children
  | inside {siblings : List PreviewElement} {shown : PreviewElement}
      (around : IsSiblings preview siblings) (member : shown ∈ siblings) :
      IsSiblings preview shown.children

mutual
theorem element_elementWithKey : ∀ (key : Nat) (element : Element),
    (elementWithKey key element).element = element
  | _, ⟨tag, properties, children⟩ => by
      rw [elementWithKey, PreviewElement.element, elementsOf_forestWithKeys 0 children]

theorem elementsOf_forestWithKeys : ∀ (key : Nat) (forest : List Element),
    PreviewElement.elementsOf (forestWithKeys key forest) = forest
  | _, [] => rfl
  | key, element :: rest => by
      rw [forestWithKeys, PreviewElement.elementsOf, element_elementWithKey key element,
        elementsOf_forestWithKeys (key + 1) rest]
end

theorem key_elementWithKey (key : Nat) (element : Element) :
    (elementWithKey key element).key = key := by
  cases element
  rfl

theorem map_key_forestWithKeys (key : Nat) (forest : List Element) :
    (forestWithKeys key forest).map PreviewElement.key = List.range' key forest.length := by
  induction forest generalizing key with
  | nil => rfl
  | cons element rest ih =>
      rw [forestWithKeys, List.map_cons, ih, key_elementWithKey, List.length_cons, List.range'_succ]

theorem exists_of_mem_forestWithKeys {key : Nat} {forest : List Element} {shown : PreviewElement}
    (member : shown ∈ forestWithKeys key forest) :
    ∃ place element, shown = elementWithKey place element := by
  induction forest generalizing key with
  | nil => cases member
  | cons element rest ih =>
      rcases List.mem_cons.mp member with rfl | later
      · exact ⟨key, element, rfl⟩
      · exact ih later

theorem IsSiblings.exists_forest {elements : List Element} {frame : Frame}
    {siblings : List PreviewElement} (among : IsSiblings (ofElements elements frame) siblings) :
    ∃ forest, siblings = forestWithKeys 0 forest := by
  induction among with
  | topmost => exact ⟨elements, rfl⟩
  | inside _ member ih =>
      obtain ⟨forest, rfl⟩ := ih
      obtain ⟨place, ⟨tag, properties, children⟩, rfl⟩ := exists_of_mem_forestWithKeys member
      exact ⟨children, rfl⟩

theorem IsSiblings.map_key {elements : List Element} {frame : Frame}
    {siblings : List PreviewElement} (among : IsSiblings (ofElements elements frame) siblings) :
    siblings.map PreviewElement.key = List.range siblings.length := by
  obtain ⟨forest, rfl⟩ := among.exists_forest
  have keys := map_key_forestWithKeys 0 forest
  have count := congrArg List.length keys
  rw [List.length_map, List.length_range'] at count
  rw [keys, count, List.range_eq_range']

end Preview

namespace Component

def writtenTagKey (shown : String × Nat) : String × String :=
  (shown.1, toString shown.2)

mutual
theorem tagKeys_placed (layout : Layout) : ∀ (depth offset index : Nat) (element : Element),
    ((writtenElement index element).placed layout depth offset).tagKeys =
      (Preview.elementWithKey index element).tagKeys.map writtenTagKey
  | _, _, _, ⟨_, _, []⟩ => rfl
  | depth, offset, index, ⟨tag, given, child :: children⟩ => by
      simp only [writtenElement, WrittenElement.placed, placedForest, unplaced,
        WrittenElement.tagKeys, WrittenElement.tagKeysIn, tagKeys_placed layout _ _ 0 child,
        tagKeys_placedForest layout _ _ 1 children, Preview.elementWithKey, Preview.forestWithKeys,
        PreviewElement.tagKeys, PreviewElement.tagKeysIn, List.map_cons, List.map_append]
      rfl

theorem tagKeys_placedForest (layout : Layout) : ∀ (depth offset index : Nat)
    (forest : List Element),
    WrittenElement.tagKeysIn (placedForest layout depth offset (writtenForest index forest)) =
      (PreviewElement.tagKeysIn (Preview.forestWithKeys index forest)).map writtenTagKey
  | _, _, _, [] => rfl
  | depth, offset, index, element :: rest => by
      rw [writtenForest, placedForest, WrittenElement.tagKeysIn,
        tagKeys_placed layout depth _ index element,
        tagKeys_placedForest layout depth _ (index + 1) rest, Preview.forestWithKeys,
        PreviewElement.tagKeysIn, List.map_append]
end

theorem exists_written_tagKeys (layout : Layout) {name : String} (frame : Frame)
    {elements : List Element} (named : IsIdent name.toList)
    (readable : ForestEverywhere IsReadable elements) :
    ∃ written, parseWritten ((ofElements elements name frame).source layout).toList = .ok written ∧
      WrittenElement.tagKeysIn written.icon.elements =
        (PreviewElement.tagKeysIn (Preview.ofElements elements frame).children).map
          writtenTagKey := by
  rw [toList_source]
  refine ⟨_, parseWritten_sourceText layout named named frame.quote_not_mem_text
    (writtenForest_readable 0 elements readable), ?_⟩
  exact tagKeys_placedForest layout 0 _ 0 elements

end Component

namespace Preview

/-- Preview and source are made by walks over the same elements. The preview shows these under their
places as keys, and the source is read back as the same elements in the same frame, with the same keys. -/
theorem agrees_with_source (elements : List Element) (frame : Frame) :
    (ofElements elements frame).children = forestWalk visit 0 0 elements ∧
      (∀ layout, Component.elementsText layout elements =
        List.intercalate ['\n'] (forestWalk (Component.blockVisit layout) 0 0 elements)) ∧
      PreviewElement.elementsOf (ofElements elements frame).children = elements ∧
      (∀ siblings, IsSiblings (ofElements elements frame) siblings →
        siblings.map PreviewElement.key = List.range siblings.length) ∧
      (ofElements elements frame).elementCount = (elements.map Element.nodeCount).sum ∧
      ∀ (layout : Layout) (name : String), Component.IsIdent name.toList →
        ForestEverywhere Component.IsReadable elements →
          Component.read ((Component.ofElements elements name frame).source layout) =
              .ok ⟨name, (ofElements elements frame).viewBox,
                PreviewElement.elementsOf (ofElements elements frame).children⟩ ∧
            ∃ written,
              Component.parseWritten
                  ((Component.ofElements elements name frame).source layout).toList = .ok written ∧
                Component.WrittenElement.tagKeysIn written.icon.elements =
                  (PreviewElement.tagKeysIn (ofElements elements frame).children).map
                    Component.writtenTagKey := by
  have same : PreviewElement.elementsOf (ofElements elements frame).children = elements :=
    elementsOf_forestWithKeys 0 elements
  refine ⟨forestWithKeys_eq_walk 0 0 elements, ?_, same, ?_, ?_, ?_⟩
  · intro layout
    exact Component.elementsText_eq_walk layout elements
  · intro siblings among
    exact among.map_key
  · rw [elementCount_ofElements, forestCount_eq_sum]
  · intro layout name named readable
    have read := Component.read_source_of_unquoted layout
      (Component.ofElements elements name frame) named frame.quote_not_mem_text readable
    refine ⟨?_, Component.exists_written_tagKeys layout frame named readable⟩
    rw [read, same]
    rfl

def unboundedFrame : Frame :=
  ⟨.zero, .zero, .nan, .zero⟩

def circledRect : List Element :=
  [⟨"g", OrderedMap.ofList [("key", .text "7")], [⟨"circle", OrderedMap.empty, []⟩,
    ⟨"rect", OrderedMap.ofList [("d", .text "<g key=\x7b3\x7d >")], []⟩]⟩]

theorem agrees_with_source_nested :
    ForestEverywhere Component.IsReadable circledRect ∧
      PreviewElement.elementsOf (ofElements circledRect unboundedFrame).children = circledRect ∧
      (∃ siblings, IsSiblings (ofElements circledRect unboundedFrame) siblings ∧
        siblings.map PreviewElement.key = [0, 1]) ∧
      (ofElements circledRect unboundedFrame).elementCount = 3 ∧
      Component.read ((Component.ofElements circledRect "Icon" unboundedFrame).source ⟨0, 5⟩) =
        .ok ⟨"Icon", unboundedFrame.text, circledRect⟩ ∧
      ∃ written,
        Component.parseWritten ((Component.ofElements circledRect "Icon" unboundedFrame).source
            ⟨0, 5⟩).toList = .ok written ∧
          Component.WrittenElement.tagKeysIn written.icon.elements =
            [("g", "0"), ("circle", "0"), ("rect", "1")] := by
  have readable : ForestEverywhere Component.IsReadable circledRect := by decide
  obtain ⟨_, _, same, keys, count, agrees⟩ := agrees_with_source circledRect unboundedFrame
  have above : IsSiblings (ofElements circledRect unboundedFrame) _ := .topmost
  have below := above.inside List.mem_cons_self
  exact ⟨readable, same, ⟨_, below, keys _ below⟩, count,
    agrees ⟨0, 5⟩ "Icon" (by decide) readable⟩

end Preview

end VectorIcon
