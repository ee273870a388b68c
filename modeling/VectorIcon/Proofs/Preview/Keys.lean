import VectorIcon.Preview

/-! What keys add to a tree, and what they leave as it is. -/

namespace VectorIcon.Preview

mutual
theorem elementCountOf_elementWithKey (key : Nat) (element : Element) :
    elementCountOf (elementWithKey key element) = element.nodeCount := by
  obtain ⟨tag, properties, children⟩ := element
  simp only [elementWithKey, elementCountOf, Element.nodeCount]
  rw [elementCountIn_forestWithKeys 0 children]

theorem elementCountIn_forestWithKeys (key : Nat) (elements : List Element) :
    elementCountIn (forestWithKeys key elements) = forestCount elements := by
  cases elements with
  | nil => rfl
  | cons element rest =>
      simp only [forestWithKeys, elementCountIn, forestCount]
      rw [elementCountOf_elementWithKey key element, elementCountIn_forestWithKeys (key + 1) rest]
end

theorem elementCount_ofElements (elements : List Element) (frame : Frame) :
    (ofElements elements frame).elementCount = forestCount elements :=
  elementCountIn_forestWithKeys 0 elements

end VectorIcon.Preview
