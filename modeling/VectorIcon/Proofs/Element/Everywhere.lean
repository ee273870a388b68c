import VectorIcon.Element

/-! Conditions on the tag and the properties of every node of a tree. -/

namespace VectorIcon

mutual
/-- The condition holds at the root of a tree and at every node below. -/
def Element.Everywhere (holds : String → Properties → Prop) : Element → Prop
  | ⟨tag, properties, children⟩ => holds tag properties ∧ ForestEverywhere holds children

def ForestEverywhere (holds : String → Properties → Prop) : List Element → Prop
  | [] => True
  | element :: rest => element.Everywhere holds ∧ ForestEverywhere holds rest
end

variable {holds others : String → Properties → Prop}

mutual
theorem Element.Everywhere.imp (step : ∀ tag properties, holds tag properties →
    others tag properties) : ∀ {element : Element}, element.Everywhere holds →
      element.Everywhere others
  | ⟨tag, properties, _⟩, ⟨root, below⟩ => ⟨step tag properties root, below.imp step⟩

theorem ForestEverywhere.imp (step : ∀ tag properties, holds tag properties →
    others tag properties) : ∀ {forest : List Element}, ForestEverywhere holds forest →
      ForestEverywhere others forest
  | [], _ => trivial
  | _ :: _, ⟨first, rest⟩ => ⟨first.imp step, rest.imp step⟩
end

mutual
theorem Element.Everywhere.and : ∀ {element : Element}, element.Everywhere holds →
    element.Everywhere others →
      element.Everywhere fun tag properties => holds tag properties ∧ others tag properties
  | ⟨_, _, _⟩, ⟨root, below⟩, ⟨otherRoot, otherBelow⟩ =>
      ⟨⟨root, otherRoot⟩, below.and otherBelow⟩

theorem ForestEverywhere.and : ∀ {forest : List Element}, ForestEverywhere holds forest →
    ForestEverywhere others forest →
      ForestEverywhere (fun tag properties => holds tag properties ∧ others tag properties) forest
  | [], _, _ => trivial
  | _ :: _, ⟨first, rest⟩, ⟨otherFirst, otherRest⟩ => ⟨first.and otherFirst, rest.and otherRest⟩
end

theorem ForestEverywhere.append_iff {left right : List Element} :
    ForestEverywhere holds (left ++ right) ↔
      ForestEverywhere holds left ∧ ForestEverywhere holds right := by
  induction left with
  | nil => simp [ForestEverywhere]
  | cons element left ih =>
      rw [List.cons_append]
      simp only [ForestEverywhere, ih, and_assoc]

theorem ForestEverywhere.getElem? : ∀ {forest : List Element} {index : Nat} {element : Element},
    ForestEverywhere holds forest → forest[index]? = some element → element.Everywhere holds
  | _ :: _, 0, _, ⟨first, _⟩, found => by
      rw [List.getElem?_cons_zero, Option.some.injEq] at found
      exact found ▸ first
  | _ :: _, _ + 1, _, ⟨_, others⟩, found => others.getElem? (by simpa using found)

section

variable [∀ tag properties, Decidable (holds tag properties)]

mutual
instance Element.decidableEverywhere : (element : Element) →
    Decidable (element.Everywhere holds)
  | ⟨tag, properties, children⟩ =>
      have := ForestEverywhere.decidable children
      inferInstanceAs (Decidable (holds tag properties ∧ ForestEverywhere holds children))

instance ForestEverywhere.decidable : (forest : List Element) →
    Decidable (ForestEverywhere holds forest)
  | [] => inferInstanceAs (Decidable True)
  | element :: rest =>
      have := element.decidableEverywhere
      have := ForestEverywhere.decidable rest
      inferInstanceAs (Decidable (element.Everywhere holds ∧ ForestEverywhere holds rest))
end

end

end VectorIcon
