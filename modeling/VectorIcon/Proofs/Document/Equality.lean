import VectorIcon.Component
import VectorIcon.Document

/-! Equality of trees, of documents, of components and of results is decided. -/

namespace VectorIcon

mutual
instance Element.decidableEq : (left right : Element) → Decidable (left = right)
  | ⟨tag, properties, children⟩, ⟨otherTag, otherProperties, otherChildren⟩ =>
      have := decidableEqForest children otherChildren
      decidable_of_iff (tag = otherTag ∧ properties = otherProperties ∧ children = otherChildren)
        (by simp)

instance decidableEqForest : (left right : List Element) → Decidable (left = right)
  | [], [] => .isTrue rfl
  | [], _ :: _ => .isFalse (by simp)
  | _ :: _, [] => .isFalse (by simp)
  | element :: rest, other :: others =>
      have := element.decidableEq other
      have := decidableEqForest rest others
      decidable_of_iff (element = other ∧ rest = others) (by simp)
end

deriving instance DecidableEq for Document

deriving instance DecidableEq for Component

instance decidableEqExcept {ε α : Type} [DecidableEq ε] [DecidableEq α] :
    (left right : Except ε α) → Decidable (left = right)
  | .error left, .error right => decidable_of_iff (left = right) (by simp)
  | .error _, .ok _ => .isFalse (by simp)
  | .ok _, .error _ => .isFalse (by simp)
  | .ok left, .ok right => decidable_of_iff (left = right) (by simp)

end VectorIcon
