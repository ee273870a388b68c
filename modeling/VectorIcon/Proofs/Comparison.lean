import VectorIcon.Comparison

/-! A tree does not differ from itself. -/

namespace VectorIcon

mutual
theorem elementDifference_self : ∀ (path : List Step) (index : Nat) (element : Element),
    elementDifference path index element element = none
  | path, index, ⟨tag, properties, children⟩ => by
      simp [elementDifference, propertiesMismatch, forestDifference_self _ 0 children]

theorem forestDifference_self : ∀ (path : List Step) (index : Nat) (forest : List Element),
    forestDifference path index forest forest = none
  | _, _, [] => rfl
  | path, index, element :: rest => by
      simp [forestDifference, elementDifference_self path index element,
        forestDifference_self path (index + 1) rest]
end

theorem firstDifference_self (forest : List Element) : firstDifference forest forest = none :=
  forestDifference_self [] 0 forest

theorem compareTrees_self (forest : List Element) : compareTrees forest forest = .equal := by
  rw [compareTrees, firstDifference_self]

end VectorIcon
